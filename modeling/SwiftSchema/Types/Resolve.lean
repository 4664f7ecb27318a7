import SwiftSchema.Types.Descriptor
import SwiftSchema.Types.Swift
import SwiftSchema.Naming.Namer

/-! # Swift type expressions

The Swift text of a type descriptor: an array is `[T]`, a map `[String:T]`, and a leaf is its
Swift type when that is built in, else the model name of the (mapped) name.

* `Namer.typeText` — the type expression.
* `Namer.baseType` — the innermost leaf's text.
* `Namer.instantiationType` — the expression, for containers only.
-/

namespace SwiftSchema.Naming

open SwiftSchema.Types

namespace Namer

/-- The Swift text of a leaf type name. -/
def leafText (n : Namer) (name : String) : String :=
  let mapped := (swiftTypeOf name).getD name
  if isBuiltin mapped then mapped else (n.modelName mapped).name

/-- The **Swift type expression** of a descriptor. -/
def typeText (n : Namer) : TypeDesc → String
  | .array inner => "[" ++ n.typeText inner ++ "]"
  | .map inner => "[String:" ++ n.typeText inner ++ "]"
  | .primitive name | .reference name => n.leafText name

/-- The text of the innermost leaf of a descriptor. -/
def baseType (n : Namer) : TypeDesc → String
  | .array inner | .map inner => n.baseType inner
  | .primitive name | .reference name => n.leafText name

/-- The type expression of a container, to instantiate it. -/
def instantiationType (n : Namer) (t : TypeDesc) : Option String :=
  if t.isContainer then some (n.typeText t) else none

end Namer

/-- A Swift type that templates treat as a file. -/
def isFileType (datatype : String) : Bool := datatype == "URL"

/-- A Swift type that templates treat as binary data. -/
def isBinaryType (datatype : String) : Bool := datatype == "Data"

end SwiftSchema.Naming
