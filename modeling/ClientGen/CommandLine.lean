import ClientGen.Package.Files
import ClientGen.Text.Blank

/-! # The command line

  The arguments of the program and how they are read. -/

namespace ClientGen

structure CommandLine where
  input : String
  output : String
  name : String
  packageVersion : Option String := none
  verbose : Bool := false
  deriving DecidableEq, Repr

namespace CommandLine

/-- The version of a package when none is given: its last part is the build number, or 0 outside of
    a build. -/
def versionOfBuild (buildNumber : Option String) : String :=
  match buildNumber with
  | some build => if Text.isAllBlank build then "1.0.0" else "1.0." ++ Text.trim build
  | none => "1.0.0"

def packageInfo (args : CommandLine) (buildNumber : Option String) : PackageInfo :=
  { name := args.name,
    version := args.packageVersion.getD (versionOfBuild buildNumber) }

end CommandLine

end ClientGen
