import SwiftSchema.Text.Identifier
import SwiftSchema.Text.Casing

/-! # Naming conventions

How a target language cases sanitized names, and which decorations make a colliding name legal
again. `Convention.swift` writes types in upper camel case and values in lower camel case,
keeps screaming names as they are, marks types with `Model` and verbs with `call`, and gives
colliding enum types the suffix `Enum`.
-/

namespace SwiftSchema.Naming

open SwiftSchema.Text

/-- A **naming convention** of a target language. -/
structure Convention where
  /-- Casing of type names. -/
  typeCase : List Char → List Char
  /-- Casing of value and method names. -/
  valueCase : List Char → List Char
  /-- Value names that are kept as they are. -/
  keepsCase : List Char → Bool
  /-- Put before a type name that is reserved or starts with a digit. -/
  modelMarker : String
  /-- Put before a method name that is reserved or starts with a digit. -/
  operationVerb : String
  /-- Put after an enum type name that collides. -/
  enumSuffix : String

namespace Convention

/-- The type name of a sanitized name. -/
def typeName (cv : Convention) (s : String) : String := String.ofList (cv.typeCase s.toList)

/-- The value name of a sanitized name: kept if the convention keeps it, else cased. -/
def valueName (cv : Convention) (s : String) : String :=
  if cv.keepsCase s.toList then s else String.ofList (cv.valueCase s.toList)

/-- The method name of a sanitized name. -/
def methodName (cv : Convention) (s : String) : String := String.ofList (cv.valueCase s.toList)

/-- A type name behind the model marker (`Type` becomes `ModelType`). -/
def markedType (cv : Convention) (s : String) : String := cv.modelMarker ++ s

/-- A method name joined to the operation verb and cased (`return` becomes `callReturn`). -/
def verbMethod (cv : Convention) (s : String) : String :=
  String.ofList (cv.valueCase (cv.operationVerb ++ "_" ++ s).toList)

/-- The **Swift** convention. -/
def swift : Convention where
  typeCase s := camelize s false
  valueCase s := camelize s true
  keepsCase := isScreaming
  modelMarker := "Model"
  operationVerb := "call"
  enumSuffix := "Enum"

end Convention

end SwiftSchema.Naming
