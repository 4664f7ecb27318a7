import SwiftSchema.Json.Value

/-! # Type descriptors

The type of a property, parameter or response as the schema gives it: a primitive schema type,
a reference to a model, or an array or map (keyed by strings) of a type. Scalar kinds classify
the Swift types that templates treat as plain values.
-/

namespace SwiftSchema.Types

/-- A **type descriptor**. -/
inductive TypeDesc where
  /-- A schema primitive such as `integer` or `DateTime`. -/
  | primitive (name : String)
  /-- A model, by its raw name. -/
  | reference (name : String)
  /-- An array of a type. -/
  | array (inner : TypeDesc)
  /-- A map from strings to a type. -/
  | map (inner : TypeDesc)
  deriving DecidableEq, Repr, Inhabited

/-- Whether a descriptor is an array or a map. -/
def TypeDesc.isContainer : TypeDesc → Bool
  | .array _ | .map _ => true
  | _ => false

/-- The **scalar kinds** of Swift types. -/
inductive ScalarKind where
  | integer
  | long
  | float
  | double
  | boolean
  deriving DecidableEq, Repr

namespace ScalarKind

/-- The scalar kind of a Swift type, if it has one. -/
def ofSwiftType : String → Option ScalarKind
  | "Int" | "Int32" => some .integer
  | "Int64" => some .long
  | "Float" => some .float
  | "Double" => some .double
  | "Bool" => some .boolean
  | _ => none

/-- Every scalar kind but the boolean is numeric. -/
def isNumeric : ScalarKind → Bool
  | .boolean => false
  | _ => true

/-- The name of a scalar kind. -/
def label : ScalarKind → String
  | .integer => "integer"
  | .long => "long"
  | .float => "float"
  | .double => "double"
  | .boolean => "boolean"

end ScalarKind

/-- The written form of a type descriptor: one field naming its form. -/
def TypeDesc.toValue : TypeDesc → Json.Value
  | .primitive s => .object [("primitive", .string s)]
  | .reference s => .object [("reference", .string s)]
  | .array t => .object [("array", toValue t)]
  | .map t => .object [("map", toValue t)]

/-- The written form of an optional type descriptor. -/
def TypeDesc.toValue? : Option TypeDesc → Json.Value
  | some t => t.toValue
  | none => .null

end SwiftSchema.Types
