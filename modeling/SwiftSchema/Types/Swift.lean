/-! # Swift type table

Which Swift type a schema type name stands for, and which Swift names are used as they are
instead of as generated models: the language primitives and the types available without
imports.
-/

namespace SwiftSchema.Types

/-- The Swift type of a schema type name; `none` for a name the table does not know, which is
then a model. -/
def swiftTypeOf : String → Option String
  | "array" | "List" => some "Array"
  | "map" => some "Dictionary"
  | "date" | "Date" | "DateTime" => some "Date"
  | "boolean" => some "Bool"
  | "string" => some "String"
  | "char" => some "Character"
  | "short" | "int" | "integer" | "Integer" => some "Int"
  | "long" => some "Int64"
  | "float" => some "Float"
  | "number" | "double" => some "Double"
  | "object" => some "Any"
  | "file" => some "URL"
  | "binary" | "ByteArray" => some "Data"
  | "UUID" => some "UUID"
  | _ => none

/-- The Swift primitives. -/
def swiftPrimitives : List String :=
  ["Int", "Int32", "Int64", "Float", "Double", "Bool", "Void", "String", "Character",
    "AnyObject", "Any"]

/-- Foundation and standard library types available without imports. -/
def swiftDefaultIncludes : List String :=
  ["Data", "Date", "URL", "UUID", "Array", "Dictionary", "Set", "Any", "Empty", "AnyObject"]

/-- Whether a name is a Swift primitive. -/
def isPrimitive (name : String) : Bool := swiftPrimitives.contains name

/-- Whether a name is available without imports. -/
def isDefaultInclude (name : String) : Bool := swiftDefaultIncludes.contains name

/-- A **built-in** name is used as it is, without model decoration. -/
def isBuiltin (name : String) : Bool := isPrimitive name || isDefaultInclude name

end SwiftSchema.Types
