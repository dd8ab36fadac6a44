import Reshape.Text.Quoted
import Reshape.Text.Letter
import Reshape.Text.Blank
import Reshape.Text.Digits
import Reshape.Numeric.FloatText
import Reshape.Numeric.Decimal
import Reshape.Uuid
import Reshape.Time.Span
import Reshape.Time.Instant
import Reshape.Shape.Pair
import Reshape.Shape.Expression
import Reshape.Value.Equality
import Reshape.Conversion
import Reshape.Catalog.Basic
import Reshape.Json.Printer
import Reshape.Document.JsonReader
import Reshape.Catalog.Document
import Reshape.Routine.Lowering
import Reshape.Document.Yaml.Grammar
import Reshape.Main
import Reshape.Proofs.Outcome
import Reshape.Proofs.Routine.Liveness
import Reshape.Proofs.Mapping.Fold
import Reshape.Proofs.Mapping.ObjectProgram
import Reshape.Proofs.Mapping.Resolution
import Reshape.Proofs.Mapping.Draft
import Reshape.Proofs.Mapping.Build
import Reshape.Proofs.Mapping.ObjectMapper
import Reshape.Proofs.Value.Nested
import Reshape.Proofs.Mapping.Delegation
import Reshape.Proofs.Mapping.Termination
import Reshape.Proofs.Numeric.Single
import Reshape.Proofs.Typing.Instance
import Reshape.Proofs.Typing.Conversion
import Reshape.Proofs.Typing.ScalarPlan
import Reshape.Proofs.Typing.Fold
import Reshape.Proofs.Typing.Collection
import Reshape.Proofs.Typing.Soundness
import Reshape.Proofs.Mapping.Recipe
import Reshape.Proofs.Mapping.Needs
import Reshape.Proofs.Mapping.BuildTermination
import Reshape.Proofs.Mapping.ObjectAcceptance
import Reshape.Proofs.Mapping.BindFailures
import Reshape.Proofs.Mapping.GraphLinks
import Reshape.Proofs.Mapping.Sharing
import Reshape.Proofs.Routine.Guarded
import Reshape.Proofs.Registry.History
import Reshape.Proofs.Json.RoundTrip
import Reshape.Proofs.Mapping.DeepCopy
import Reshape.Proofs.Shape.RoundTrip
import Reshape.Proofs.Json.Decoding
import Reshape.Proofs.Registry.ProfileOrder
import Reshape.Proofs.Mapping.PathBinds
import Reshape.Proofs.Mapping.TargetKeys
import Reshape.Proofs.Mapping.EnumTranslation
import Reshape.Proofs.Catalog.Statics
import Reshape.Proofs.Mapping.Remapping
import Reshape.Proofs.Text.Digits
import Reshape.Proofs.Numeric.Decimal
import Reshape.Proofs.Mapping.InlineCast
import Reshape.Proofs.Value.SameData
import Reshape.Proofs.Mapping.EntryIndex
import Reshape.Proofs.Mapping.Dictionary
import Reshape.Proofs.Mapping.TargetFrame
import Reshape.Proofs.Text.Numerals
import Reshape.Proofs.Time.Span
import Reshape.Proofs.Typing.Totality
import Reshape.Proofs.Numeric.DecimalValue
import Reshape.Proofs.Typing.Integers
import Reshape.Proofs.Document.Reading
import Reshape.Proofs.Catalog.Documents
import Reshape.Proofs.Mapping.EnumText
import Reshape.Proofs.Shape.Derivation
import Reshape.Proofs.Catalog.Initials
import Reshape.Proofs.Catalog.StaticStore
import Reshape.Proofs.Registry.OwnBinding
import Reshape.Proofs.Numeric.DecimalForm
import Reshape.Proofs.Numeric.DecimalLiteral
import Reshape.Proofs.Uuid
import Reshape.Proofs.Time.SpanText
import Reshape.Proofs.Time.Calendar
import Reshape.Proofs.Time.InstantText
import Reshape.Proofs.Typing.ScalarText
import Reshape.Proofs.Routine.Exactness
import Reshape.Proofs.Binding.DottedPath
import Reshape.Proofs.Binding.Calls
import Reshape.Proofs.Mapping.PathForm
import Reshape.Proofs.Catalog.ZeroValues
