import SchemaBridge.Main
import SchemaBridge.Proofs.Alterations
import SchemaBridge.Proofs.ConstraintKinds
import SchemaBridge.Proofs.Content
import SchemaBridge.Proofs.EnumColumns
import SchemaBridge.Proofs.Gaps
import SchemaBridge.Proofs.InertLiterals
import SchemaBridge.Proofs.Isolation
import SchemaBridge.Proofs.KeyNames
import SchemaBridge.Proofs.Rearrangement
import SchemaBridge.Proofs.Repetition
import SchemaBridge.Proofs.RoundTrip
import SchemaBridge.Proofs.Spellings
import SchemaBridge.Proofs.TypeNames
import SchemaBridge.Proofs.Words
import SchemaBridge.Proofs.Layout
import SchemaBridge.Proofs.LayoutClauses
import SchemaBridge.Proofs.Layouts
import SchemaBridge.Proofs.MappedNames
import SchemaBridge.Proofs.QuoteStops
import SchemaBridge.Proofs.Extension
import SchemaBridge.Proofs.BareNames
import SchemaBridge.Proofs.BlockLines
import SchemaBridge.Proofs.BlockNames
import SchemaBridge.Proofs.LetterCase
import SchemaBridge.Proofs.FoldedScript
import SchemaBridge.Proofs.Bytes
import SchemaBridge.Proofs.CheckedConversion
import SchemaBridge.Proofs.Runs
import SchemaBridge.Proofs.WrittenKeys
import SchemaBridge.Proofs.OptionalRelations
import SchemaBridge.Proofs.FieldNames
import SchemaBridge.Proofs.CapturedDefaults
import SchemaBridge.Proofs.ReferenceOptions
import SchemaBridge.Proofs.LiteralDefaults
import SchemaBridge.Proofs.OuterParentheses
import SchemaBridge.Proofs.EnumValues
import SchemaBridge.Proofs.Bodies
import SchemaBridge.Proofs.BackNames
import SchemaBridge.Proofs.QuotedNames
import SchemaBridge.Proofs.Inflections
import SchemaBridge.Proofs.AttributeOrder
import SchemaBridge.Proofs.DocumentLiterals
import SchemaBridge.Proofs.Alignment
import SchemaBridge.Proofs.Plurals
import SchemaBridge.Proofs.Verbosity
import SchemaBridge.Proofs.InlineKeys
import SchemaBridge.Proofs.NameSearch
import SchemaBridge.Proofs.QualifiedNames
