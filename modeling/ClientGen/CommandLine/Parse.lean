import ClientGen.CommandLine

/-! # Reading the command line

  Arguments are read from left to right, and the first problem ends the reading. An option takes its
  value from the same argument or from the next one. A value of the next argument is held back: it
  is only looked at when the next option or flag comes, or at the end. So an unknown argument right
  behind an option is a problem before the missing value of the option is. -/

namespace ClientGen.CommandLine

inductive UsageError where
  | missingRequired
  /-- An argument is neither an option, a flag nor a value. -/
  | unknownArgument
  | repeated
  /-- The value of an option is missing or not admitted. -/
  | invalidValue
  | unexpectedValue
  | help
  | version
  deriving DecidableEq, Repr

/-- The options, which take a value. -/
inductive ValueOption where
  | input
  | output
  | name
  | packageVersion
  deriving DecidableEq, Repr

/-- Everything that can be named on the command line. -/
inductive Switch where
  | option (o : ValueOption)
  | verbose
  | help
  | version
  deriving DecidableEq, Repr

def longSwitch? (name : List Char) : Option Switch :=
  match String.ofList name with
  | "input" => some (.option .input)
  | "output" => some (.option .output)
  | "name" => some (.option .name)
  | "package-version" => some (.option .packageVersion)
  | "verbose" => some .verbose
  | "help" => some .help
  | "version" => some .version
  | _ => none

def shortSwitch? (c : Char) : Option Switch :=
  match c with
  | 'i' => some (.option .input)
  | 'o' => some (.option .output)
  | 'n' => some (.option .name)
  | 'v' => some .verbose
  | 'h' => some .help
  | 'V' => some .version
  | _ => none

/-- What has been read so far. -/
structure Progress where
  values : List (ValueOption × String) := []
  verbose : Bool := false
  /-- The last option, with the value it takes from the next argument, while that value is held
      back. -/
  pending : Option (ValueOption × Option String) := none
  /-- Whether a lone pair of dashes was read, after which there are only values. -/
  onlyValues : Bool := false

/-- Whether an option admits a value: a path is not empty. -/
def admits (o : ValueOption) (value : String) : Bool :=
  match o with
  | .input => value ≠ ""
  | .output => value ≠ ""
  | _ => true

def Progress.store (p : Progress) (o : ValueOption) (value : String) :
    Except UsageError Progress :=
  if (OrderedMap.find? o p.values).isSome then .error .repeated
  else if admits o value then .ok { p with values := OrderedMap.put o value p.values }
  else .error .invalidValue

/-- Looks at the value that is held back. -/
def Progress.settle (p : Progress) : Except UsageError Progress :=
  match p.pending with
  | none => .ok p
  | some (_, none) => .error .invalidValue
  | some (o, some value) => { p with pending := none }.store o value

/-- Takes an option with the value from the same argument, if there is one. -/
def Progress.takeOption (p : Progress) (o : ValueOption) (value : Option String) :
    Except UsageError Progress := do
  let p ← p.settle
  match value with
  | some value => p.store o value
  -- The value has to be the next argument.
  | none => return { p with pending := some (o, none) }

def Progress.takeFlag (p : Progress) (error : Option UsageError) : Except UsageError Progress := do
  -- The option in front of a flag is checked first, so its error is the one reported.
  let p ← p.settle
  match error with
  | some e => .error e
  | none => if p.verbose then .error .repeated else .ok { p with verbose := true }

/-- The value behind a long name and an equals sign. -/
def longValue (rest : List Char) : Option String :=
  match rest with
  | [] => none
  | _ :: value => some (String.ofList value)

/-- Takes an argument that begins with two dashes, without them. -/
def Progress.takeLong (p : Progress) (cs : List Char) : Except UsageError Progress :=
  let value := longValue (cs.dropWhile (· ≠ '='))
  match longSwitch? (cs.takeWhile (· ≠ '=')) with
  | none => .error .unknownArgument
  | some (.option o) => p.takeOption o value
  | some flag =>
    if value.isSome then .error .unexpectedValue
    else
      match flag with
      | .help => p.takeFlag (some .help)
      | .version => p.takeFlag (some .version)
      | _ => p.takeFlag none

/-- The value behind a short name in the same argument. -/
def shortValue (rest : List Char) : Option String :=
  match rest with
  | [] => none
  | '=' :: value => some (String.ofList value)
  | value => some (String.ofList value)

/-- Takes short names that follow one dash. What stands behind an option is its value. -/
def Progress.takeShort (p : Progress) : List Char → Except UsageError Progress
  | [] => .ok p
  | c :: rest =>
    match shortSwitch? c with
    | none => .error .unknownArgument
    | some (.option o) => p.takeOption o (shortValue rest)
    | some .help => p.takeFlag (some .help)
    | some .version => p.takeFlag (some .version)
    | some .verbose => do
      let p ← p.takeFlag none
      p.takeShort rest

def Progress.takeValue (p : Progress) (value : String) : Except UsageError Progress :=
  match p.pending with
  | some (o, none) => .ok { p with pending := some (o, some value) }
  | _ => .error .unknownArgument

def Progress.take (p : Progress) (argument : String) : Except UsageError Progress :=
  if p.onlyValues then .error .unknownArgument
  else
    match argument.toList with
    | ['-', '-'] => .ok { p with onlyValues := true }
    | '-' :: '-' :: cs => p.takeLong cs
    | '-' :: c :: cs => p.takeShort (c :: cs)
    | _ => p.takeValue argument

/-- The command line that was read, once every required option is there. -/
def Progress.finish (p : Progress) : Except UsageError CommandLine := do
  -- The last option may still hold its value back, or lack one.
  let p ← p.settle
  match OrderedMap.find? .input p.values, OrderedMap.find? .output p.values,
      OrderedMap.find? .name p.values with
  | some input, some output, some name =>
    return { input := input, output := output, name := name,
             packageVersion := OrderedMap.find? .packageVersion p.values, verbose := p.verbose }
  | _, _, _ => .error .missingRequired

/-- Reads the arguments of the program. -/
def parse (arguments : List String) : Except UsageError CommandLine := do
  let p ← arguments.foldlM Progress.take {}
  p.finish

end ClientGen.CommandLine
