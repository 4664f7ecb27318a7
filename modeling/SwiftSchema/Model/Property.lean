import SwiftSchema.Json.Value
import SwiftSchema.Types.Descriptor
import SwiftSchema.Model.Extensions

/-! # Properties

A property of a model: its raw name and schema type, and what lowering resolves for it (Swift
name, type expressions, scalar kind, enum type and cases), with its template annotations.
Before lowering the name is the raw name and the resolved fields are empty.

* `Property.new` — a property before lowering.
* `markHasMore` — every property of a list but the last is followed by another; it keeps the
  length and the raw names (`length_markHasMore`, `map_baseName_markHasMore`).
-/

namespace SwiftSchema

open SwiftSchema.Types

/-- A resolved **enum case**: its Swift name and its raw value. -/
structure EnumMember where
  name : String
  value : String
  deriving DecidableEq, Repr

/-- A **property** of a model. -/
structure Property where
  /-- The raw name, as the schema writes it. -/
  baseName : String
  /-- The Swift name. -/
  name : String
  schemaType : TypeDesc
  /-- The Swift text of the innermost leaf type. -/
  baseType : String := ""
  /-- The Swift type expression. -/
  datatype : String := ""
  /-- The type expression, or the enum type for an enum property. -/
  datatypeWithEnum : String := ""
  enumName : Option String := none
  instantiationType : Option String := none
  defaultValue : Option String := none
  description : Option String := none
  required : Bool := false
  scalar : Option ScalarKind := none
  isFile : Bool := false
  isBinary : Bool := false
  /-- The raw enum values, as text. -/
  enumValues : Option (List String) := none
  enumMembers : List EnumMember := []
  /-- Another property follows this one in its list. -/
  hasMore : Bool := false
  extensions : Extensions := {}
  deriving DecidableEq, Repr

namespace Property

/-- A property before lowering: named by its raw name. -/
def new (baseName : String) (t : TypeDesc) : Property :=
  { baseName, name := baseName, schemaType := t }

/-- Whether the property has enum values. -/
def isEnum (p : Property) : Bool := p.enumValues.isSome

/-- Whether the Swift name differs from the raw name. -/
def isEscaped (p : Property) : Bool := p.name != p.baseName

end Property

/-- Marks every property of a list but the last as followed by another. -/
def markHasMore : List Property → List Property
  | [] => []
  | [p] => [{ p with hasMore := false }]
  | p :: rest => { p with hasMore := true } :: markHasMore rest

/-- Marking keeps the number of properties. -/
@[simp] theorem length_markHasMore : ∀ ps : List Property, (markHasMore ps).length = ps.length
  | [] => rfl
  | [_] => rfl
  | _ :: q :: rest => congrArg (· + 1) (length_markHasMore (q :: rest))

/-- Marking keeps the raw names, in order. -/
@[simp] theorem map_baseName_markHasMore : ∀ ps : List Property,
    (markHasMore ps).map (·.baseName) = ps.map (·.baseName)
  | [] => rfl
  | [_] => rfl
  | p :: q :: rest => congrArg (p.baseName :: ·) (map_baseName_markHasMore (q :: rest))

/-- The written form of a list of texts. -/
def textsValue (xs : List String) : Json.Value := .array (xs.map .string)

/-- The written form of a property, fields in declaration order. -/
def Property.toValue (p : Property) : Json.Value :=
  .object [
    ("base_name", .string p.baseName), ("name", .string p.name),
    ("schema_type", TypeDesc.toValue p.schemaType), ("base_type", .string p.baseType),
    ("datatype", .string p.datatype), ("datatype_with_enum", .string p.datatypeWithEnum),
    ("enum_name", .ofOption p.enumName), ("instantiation_type", .ofOption p.instantiationType),
    ("default_value", .ofOption p.defaultValue), ("description", .ofOption p.description),
    ("required", .bool p.required),
    ("scalar", .ofOption (p.scalar.map ScalarKind.label)),
    ("is_file", .bool p.isFile), ("is_binary", .bool p.isBinary),
    ("enum_values", match p.enumValues with | some vs => textsValue vs | none => .null),
    ("enum_members", .array (p.enumMembers.map fun m =>
      .object [("name", .string m.name), ("value", .string m.value)])),
    ("has_more", .bool p.hasMore), ("extensions", p.extensions.toValue)]

end SwiftSchema
