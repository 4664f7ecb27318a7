import SwiftSchema.Json.Value

/-! # Template annotations

The flags that templates read on models and properties: a property whose name was escaped, a
model with such a property, and a scalar property written as an optional type. A flag that is
set is written as a field with the value `true`, in the sorted order of the field names.
-/

namespace SwiftSchema

/-- The **annotations** of a model or a property. -/
structure Extensions where
  /-- `x-codegen-escaped-property-name`: the property's name differs from its raw name. -/
  escapedName : Bool := false
  /-- `x-codegen-has-escaped-property-names`: some property of the model is escaped. -/
  hasEscapedNames : Bool := false
  /-- `x-swift-optional-scalar`: the property is a scalar written as an optional type. -/
  optionalScalar : Bool := false
  deriving DecidableEq, Repr, Inhabited

namespace Extensions

/-- Whether no flag is set. -/
def isEmpty (e : Extensions) : Bool := !(e.escapedName || e.hasEscapedNames || e.optionalScalar)

/-- The written annotations, keys in sorted order. -/
def toValue (e : Extensions) : Json.Value :=
  .object <|
    (if e.escapedName then [("x-codegen-escaped-property-name", .bool true)] else []) ++
    (if e.hasEscapedNames then [("x-codegen-has-escaped-property-names", .bool true)] else []) ++
    (if e.optionalScalar then [("x-swift-optional-scalar", .bool true)] else [])

end Extensions

end SwiftSchema
