import ClientGen.Document.Encode
import ClientGen.Main
import ClientGen.Proofs.Names.FirstSeen
import ClientGen.Proofs.Schema.Typing
import ClientGen.Proofs.Schema.Trimming
import ClientGen.Proofs.Schema.Unfolding
import ClientGen.Proofs.Script.Names
import ClientGen.Proofs.TypeTerm.Links
import ClientGen.Proofs.Operation.Accepted
import ClientGen.Proofs.Operation.FreshImport
import ClientGen.Proofs.Operation.Unit
import ClientGen.Proofs.Operation.TypeLinks
import ClientGen.Proofs.Operation.Hygiene
import ClientGen.Proofs.Operation.TopLevelNames
import ClientGen.Proofs.PathTemplate.Filling
import ClientGen.Proofs.Script.Evaluation
import ClientGen.Proofs.Operation.Address
import ClientGen.Proofs.Reading.JoinedText
import ClientGen.Proofs.Layout.TemplateStyles
import ClientGen.Proofs.Names.Repeated
import ClientGen.Proofs.Names.Echoes
import ClientGen.Proofs.Package.Collisions
import ClientGen.Proofs.Logged.FirstFailure
import ClientGen.Proofs.Package.Assembly
import ClientGen.Proofs.Package.Files
import ClientGen.Proofs.Package.Resolution
import ClientGen.Proofs.Package.LegalNames
import ClientGen.Proofs.Text.Lowercase
import ClientGen.Proofs.PathText.Steps
import ClientGen.Proofs.Package.PathView
import ClientGen.Proofs.Package.Confinement
import ClientGen.Proofs.Package.DistinctPaths
import ClientGen.Proofs.Script.Merging
import ClientGen.Proofs.Reading.Listing
import ClientGen.Proofs.Reading.Expressions
import ClientGen.Proofs.Layout.Unambiguous
import ClientGen.Proofs.Document.Records
import ClientGen.Proofs.Document.RoundTrip
import ClientGen.Proofs.Document.Flattening
import ClientGen.Proofs.Document.Agreement
import ClientGen.Proofs.Document.Extensions
import ClientGen.Proofs.Operation.Signature
import ClientGen.Proofs.Operation.References
import ClientGen.Proofs.Operation.Dependence
import ClientGen.Proofs.Operation.Erasure
import ClientGen.Proofs.Operation.Verdict
import ClientGen.Proofs.Operation.Form
import ClientGen.Proofs.Package.Writing
import ClientGen.Proofs.Package.Reordering
import ClientGen.Proofs.Package.Notices
import ClientGen.Proofs.Run.Outcome
import ClientGen.Proofs.Package.DefinitionUnit
import ClientGen.Proofs.Script.Lowering
import ClientGen.Proofs.Layout.SummedStyle
import ClientGen.Proofs.Script.SumValues
import ClientGen.Proofs.PathTemplate.Cutting
import ClientGen.Proofs.TypeTerm.Plain
import ClientGen.Proofs.Reading.Types
import ClientGen.Proofs.Layout.Bracketed
import ClientGen.Proofs.Layout.UnambiguousTypes
import ClientGen.Proofs.Schema.Positions
import ClientGen.Proofs.Names.EchoPlaces
import ClientGen.Proofs.Text.FinalSigma
import ClientGen.Proofs.Package.CollisionReport
import ClientGen.Proofs.Document.Traversal
import ClientGen.Proofs.Operation.FreshSearch
import ClientGen.Proofs.Layout.QuotedText
import ClientGen.Proofs.TypeTerm.Relinking
