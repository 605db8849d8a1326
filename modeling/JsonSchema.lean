import JsonSchema.Binary64
import JsonSchema.Binary64.Shortest
import JsonSchema.Check
import JsonSchema.CommandLine.Arguments
import JsonSchema.CommandLine.Report
import JsonSchema.CommandLine.Suite
import JsonSchema.CommandLine.Validation
import JsonSchema.Compiler
import JsonSchema.Constraint
import JsonSchema.Documents
import JsonSchema.Draft
import JsonSchema.Engine
import JsonSchema.Files
import JsonSchema.Files.Glob
import JsonSchema.Graph
import JsonSchema.Inquiry
import JsonSchema.Interpretation
import JsonSchema.Json
import JsonSchema.Json.Equality
import JsonSchema.Json.Pointer
import JsonSchema.Json.Text
import JsonSchema.Json.Text.Document
import JsonSchema.Json.Text.Message
import JsonSchema.Json.Text.Numeral
import JsonSchema.Json.Text.Quoted
import JsonSchema.Json.Text.Record
import JsonSchema.Json.Text.Skim
import JsonSchema.Json.Text.Value
import JsonSchema.Linking.Error
import JsonSchema.Linking.Keyword
import JsonSchema.Linking.Node
import JsonSchema.Linking.Reference
import JsonSchema.Linking.State
import JsonSchema.Linking.Value
import JsonSchema.Main
import JsonSchema.Members
import JsonSchema.Number
import JsonSchema.Options
import JsonSchema.Pattern.CharSet
import JsonSchema.Pattern.Expression
import JsonSchema.Pattern.Reading
import JsonSchema.Proofs.Bisimulation
import JsonSchema.Proofs.BuildFaults
import JsonSchema.Proofs.Canonical
import JsonSchema.Proofs.Check
import JsonSchema.Proofs.CircularReference
import JsonSchema.Proofs.Compilable
import JsonSchema.Proofs.Compilation
import JsonSchema.Proofs.CycleCut
import JsonSchema.Proofs.Distinct
import JsonSchema.Proofs.Equality
import JsonSchema.Proofs.Following
import JsonSchema.Proofs.GraphImage
import JsonSchema.Proofs.Grounded
import JsonSchema.Proofs.Indistinguishable
import JsonSchema.Proofs.Inquiry
import JsonSchema.Proofs.Likeness
import JsonSchema.Proofs.Linking.Agreement
import JsonSchema.Proofs.Linking.Chart
import JsonSchema.Proofs.Linking.Closure
import JsonSchema.Proofs.Linking.Corpus
import JsonSchema.Proofs.Linking.Fields
import JsonSchema.Proofs.Linking.Links
import JsonSchema.Proofs.Linking.Object
import JsonSchema.Proofs.Linking.Permutation
import JsonSchema.Proofs.Linking.Placement
import JsonSchema.Proofs.Linking.Questions
import JsonSchema.Proofs.Linking.Reordering
import JsonSchema.Proofs.Linking.Resolution
import JsonSchema.Proofs.Linking.Survey
import JsonSchema.Proofs.Linking.Termination
import JsonSchema.Proofs.Linking.Visit
import JsonSchema.Proofs.Meaning
import JsonSchema.Proofs.MemberOrder
import JsonSchema.Proofs.Number
import JsonSchema.Proofs.Pointer
import JsonSchema.Proofs.Reading
import JsonSchema.Proofs.Rewriting
import JsonSchema.Proofs.Rounding
import JsonSchema.Proofs.SlotSafety
import JsonSchema.Proofs.WellFormed
import JsonSchema.Reader
import JsonSchema.Text.Base64
import JsonSchema.Text.Blank
import JsonSchema.Text.Escaped
import JsonSchema.Text.Percent
import JsonSchema.Text.Utf8
import JsonSchema.TypeSet
import JsonSchema.Unicode.Age
import JsonSchema.Unicode.Boundary
import JsonSchema.Unicode.Category
import JsonSchema.Unicode.Cluster
import JsonSchema.Unicode.Folding
import JsonSchema.Unicode.Normalization
import JsonSchema.Unicode.Property
import JsonSchema.Unicode.RangeSet
import JsonSchema.Unicode.Recent
import JsonSchema.Unicode.Script
import JsonSchema.Uri
import JsonSchema.Uri.Escape
import JsonSchema.Uri.Host
import JsonSchema.Uri.Name
import JsonSchema.Uri.Name.Direction
import JsonSchema.Uri.Name.Joining
import JsonSchema.Uri.Name.Mapping
import JsonSchema.Uri.Path
import JsonSchema.Uri.Punycode
import JsonSchema.Uri.Rules
import JsonSchema.Uri.Scheme
import JsonSchema.Validator
import JsonSchema.Proofs.Bounds
import JsonSchema.Proofs.ConstraintOrder
import JsonSchema.Proofs.Linking.Trace
import JsonSchema.Proofs.Drafts
import JsonSchema.Proofs.SamePlace
import JsonSchema.Proofs.Aliases
import JsonSchema.Proofs.Annotations
import JsonSchema.Proofs.ExactBounds
import JsonSchema.Proofs.Significand
import JsonSchema.Proofs.Multiples
import JsonSchema.Proofs.KeywordGroups
import JsonSchema.Proofs.MemberPartition
import JsonSchema.Proofs.BoundPairs
import JsonSchema.Proofs.ElementPositions
import JsonSchema.Proofs.Encoding
import JsonSchema.Proofs.Paths
import JsonSchema.Proofs.Linking.Faults
import JsonSchema.Proofs.Culprits
import JsonSchema.Proofs.FileTrees
import JsonSchema.Proofs.Verdicts
import JsonSchema.Proofs.Counts
