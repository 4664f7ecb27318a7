import SwiftSchema.Text.CaseTable
import SwiftSchema.Text.CaseMap
import SwiftSchema.Text.Identifier
import SwiftSchema.Text.Casing
import SwiftSchema.Text.Escape
import SwiftSchema.Text.Printable
import SwiftSchema.Naming.Reserved
import SwiftSchema.Naming.Context
import SwiftSchema.Naming.Convention
import SwiftSchema.Naming.Rename
import SwiftSchema.Naming.EnumCase
import SwiftSchema.Naming.Namer
import SwiftSchema.Decimal.Shortest
import SwiftSchema.Decimal.Nearest
import SwiftSchema.Types.Descriptor
import SwiftSchema.Types.Swift
import SwiftSchema.Types.Resolve
import SwiftSchema.Json.Value
import SwiftSchema.Json.Write
import SwiftSchema.Model.Extensions
import SwiftSchema.Model.Property
import SwiftSchema.Model.Basic
import SwiftSchema.Model.Map
import SwiftSchema.Model.Operation
import SwiftSchema.Json.Error
import SwiftSchema.Json.Read
import SwiftSchema.Schema.Decl
import SwiftSchema.Schema.Read
import SwiftSchema.Source.Span
import SwiftSchema.Source.Error
import SwiftSchema.Schema.Fold
import SwiftSchema.Toml.Token
import SwiftSchema.Toml.Error
import SwiftSchema.Toml.Syntax
import SwiftSchema.Toml.Value
import SwiftSchema.Toml.Scalar
import SwiftSchema.Toml.Document
import SwiftSchema.Manifest.Basic
import SwiftSchema.Manifest.Read
import SwiftSchema.Manifest.Check
import SwiftSchema.Source.File
import SwiftSchema.Pipeline.Diagnostic
import SwiftSchema.Pipeline.Context
import SwiftSchema.Model.Inheritance
import SwiftSchema.Model.Annotate
import SwiftSchema.Pipeline.Lint
import SwiftSchema.Pipeline.Lower
import SwiftSchema.Pipeline.Phase
import SwiftSchema.Proofs.ParentWalk
import SwiftSchema.Proofs.Validation
import SwiftSchema.Proofs.InheritedLists
import SwiftSchema.Proofs.Reconcile
import SwiftSchema.Proofs.Alphabet
import SwiftSchema.Proofs.CheckedManifest
import SwiftSchema.Proofs.Resolvers
import SwiftSchema.Proofs.Normalize
import SwiftSchema.Proofs.DocumentText
import SwiftSchema.Proofs.FollowFlags
import SwiftSchema.Proofs.TemplateFlags
import SwiftSchema.Proofs.References
import SwiftSchema.Proofs.PipelineOrder
import SwiftSchema.Proofs.Idempotence
import SwiftSchema.Proofs.LineFrame
import SwiftSchema.Proofs.EnumNames
import SwiftSchema.Proofs.InheritedView
import SwiftSchema.Proofs.AncestorLoop
import SwiftSchema.Proofs.CycleReports
import SwiftSchema.Proofs.TypeExpressions
import SwiftSchema.Proofs.LowerReports
import SwiftSchema.Proofs.SafeDescriptions
import SwiftSchema.Proofs.NumberTexts
import SwiftSchema.Proofs.NumericCases
import SwiftSchema.Proofs.SchemaFaults
import SwiftSchema.Proofs.LineOffsets
