import PayloadSchema.FileTree
import PayloadSchema.Main
import PayloadSchema.Models.Column
import PayloadSchema.Models.Engine
import PayloadSchema.Models.Namespace
import PayloadSchema.Models.Request
import PayloadSchema.Schema.Equality
import PayloadSchema.Pattern.Property
import PayloadSchema.Pattern.Case
import PayloadSchema.Pattern.Program
import PayloadSchema.Pattern.Program.Bytes
import PayloadSchema.Pattern.Program.Trie
import PayloadSchema.Pattern.Program.Compile
import PayloadSchema.Pattern.Search
import PayloadSchema.Proofs.Json.Keys
import PayloadSchema.Proofs.Validation.Leaf
import PayloadSchema.Proofs.Validation.Reach
import PayloadSchema.Proofs.Validation.Conformance
import PayloadSchema.Proofs.Validation.Room
import PayloadSchema.Proofs.Number.Decimal
import PayloadSchema.Proofs.Codec
import PayloadSchema.Proofs.Calendar.Date
import PayloadSchema.Proofs.Calendar.DateTime
import PayloadSchema.Proofs.Number.Rounding
import PayloadSchema.Proofs.Number.Shortest
import PayloadSchema.Proofs.Validation.Encoding
import PayloadSchema.Proofs.Validation.RoundTrip
import PayloadSchema.Proofs.Models.Reading
import PayloadSchema.Proofs.Registry
import PayloadSchema.Proofs.Models.Records
import PayloadSchema.Proofs.Models.Faithful
import PayloadSchema.Proofs.Validation.ErrorPath
import PayloadSchema.Proofs.Validation.Simulation
import PayloadSchema.Proofs.Validation.Shape
import PayloadSchema.Proofs.Validation.Stability
import PayloadSchema.Proofs.Number.Range
import PayloadSchema.Proofs.Validation.NumberForms
import PayloadSchema.Proofs.Validation.TextForms
import PayloadSchema.Proofs.Validation.UnionEncoding
import PayloadSchema.Proofs.Validation.Recursion
import PayloadSchema.Proofs.Models.RoundTrip
import PayloadSchema.Proofs.Declaration
import PayloadSchema.Proofs.Registry.Operations
import PayloadSchema.Proofs.Json.Reordered
import PayloadSchema.Proofs.Validation.KeyOrder
import PayloadSchema.Proofs.Validation.FailFast
import PayloadSchema.Proofs.Validation.References
import PayloadSchema.Proofs.Validation.Unresolved
import PayloadSchema.Proofs.Validation.Lossless
import PayloadSchema.Proofs.Json.Edit
import PayloadSchema.Proofs.Validation.Update
import PayloadSchema.Proofs.Validation.Restoring
import PayloadSchema.Proofs.Number.Value
import PayloadSchema.Proofs.Number.Literal
import PayloadSchema.Proofs.Validation.ExactInteger
import PayloadSchema.Proofs.Wrapper
import PayloadSchema.Proofs.Validation.Aliases
import PayloadSchema.Proofs.Validation.Enumeration
import PayloadSchema.Proofs.Declaration.Enumeration
import PayloadSchema.Proofs.Validation.OptionalFields
import PayloadSchema.Proofs.Validation.Commitment
import PayloadSchema.Proofs.Validation.Flattening
import PayloadSchema.Proofs.Validation.Depth
import PayloadSchema.Proofs.Yaml.Entries
import PayloadSchema.Proofs.Declaration.Reading
import PayloadSchema.Proofs.Registry.Folder
import PayloadSchema.Proofs.Declaration.Composites
import PayloadSchema.Proofs.Declaration.TopLevel
import PayloadSchema.Proofs.Validation.FirstViolation
import PayloadSchema.Proofs.Validation.NumericText
import PayloadSchema.Proofs.Validation.Views
import PayloadSchema.Proofs.Calendar.RoundTrip
import PayloadSchema.Proofs.Models.NamespaceTree
import PayloadSchema.Proofs.Wrapper.Descriptions
import PayloadSchema.Proofs.Wrapper.FieldNames
import PayloadSchema.Proofs.Schema.Index
import PayloadSchema.Proofs.Validation.Slots
import PayloadSchema.Proofs.Wrapper.Identifiers
import PayloadSchema.Proofs.FileTree
import PayloadSchema.Proofs.Validation.Documents
