import ClientTraits.Expansion
import ClientTraits.Json.Reader
import ClientTraits.Main
import ClientTraits.Request.TemplateCuts
import ClientTraits.Tool.World
import ClientTraits.Wire.Declaration
import ClientTraits.Proofs.Fragment.Distinct
import ClientTraits.Proofs.Fragment.Merge
import ClientTraits.Proofs.Fragment.Bracketing
import ClientTraits.Proofs.Resolution.Lineage
import ClientTraits.Proofs.Resolution.Recording
import ClientTraits.Proofs.Resolution.Graph
import ClientTraits.Proofs.Resolution.Walk
import ClientTraits.Proofs.Resolution.Report
import ClientTraits.Proofs.Resolution.Cycles
import ClientTraits.Proofs.Fragment.NormalForm
import ClientTraits.Proofs.Fragment.Associativity
import ClientTraits.Proofs.Resolution.Collect
import ClientTraits.Proofs.Annotation.Declared
import ClientTraits.Proofs.Resolution.References
import ClientTraits.Proofs.Json.Atoms
import ClientTraits.Proofs.Json.Text
import ClientTraits.Proofs.Wire.Fields
import ClientTraits.Proofs.Wire.RoundTrip
import ClientTraits.Proofs.Wire.Writable
import ClientTraits.Proofs.Wire.Lossless
import ClientTraits.Proofs.Declaration.Lookup
import ClientTraits.Proofs.Resolution.Locality
import ClientTraits.Proofs.Resolution.Own
import ClientTraits.Proofs.Expansion.Outcome
import ClientTraits.Proofs.Resolution.Images
import ClientTraits.Proofs.Resolution.Settings
import ClientTraits.Proofs.Resolution.Repetition
import ClientTraits.Proofs.Resolution.Replacement
import ClientTraits.Proofs.Resolution.Duplicates
import ClientTraits.Proofs.Resolution.MethodOutcome
import ClientTraits.Proofs.Resolution.Discovery
import ClientTraits.Proofs.Resolution.Termination
import ClientTraits.Proofs.Resolution.Notices
import ClientTraits.Proofs.Resolution.Diagnostics
import ClientTraits.Proofs.Declaration.Order
import ClientTraits.Proofs.Rust.TypeText
import ClientTraits.Proofs.Declaration.Signature
import ClientTraits.Proofs.Wire.Declarations
import ClientTraits.Proofs.Wire.Codec
import ClientTraits.Proofs.Annotation.Stripping
import ClientTraits.Proofs.Annotation.Arguments
import ClientTraits.Proofs.Annotation.Spelling
import ClientTraits.Proofs.Annotation.Kinds
import ClientTraits.Proofs.Annotation.Splitting
import ClientTraits.Proofs.Template.Grammar
import ClientTraits.Proofs.Template.Cuts
import ClientTraits.Proofs.Template.Binding
import ClientTraits.Proofs.Files.Tree
import ClientTraits.Proofs.Tool.Sources
import ClientTraits.Proofs.Tool.Run
import ClientTraits.Proofs.Tool.Insertion
import ClientTraits.Proofs.Tool.Redeclaration
import ClientTraits.Proofs.Request.Line
import ClientTraits.Proofs.Annotation.Integers
import ClientTraits.Proofs.Annotation.Heeded
import ClientTraits.Proofs.List
import ClientTraits.Proofs.Text.Split
import ClientTraits.Proofs.Files.Path
import ClientTraits.Proofs.Files.Search
import ClientTraits.Proofs.Tool.Selection
import ClientTraits.Proofs.Rust.Identifier
import ClientTraits.Proofs.Rust.TraitName
import ClientTraits.Proofs.Expansion.ConstantName
import ClientTraits.Proofs.Template.Slices
