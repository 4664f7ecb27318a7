import SwiftSchema.Json.Value

/-! # Schema declarations

The schema document as it is written, before its declarations are folded into type
descriptors: models with their parent, required list and property declarations, and
operations with their parameters and response. A type declaration names a type and format,
or a reference, and may give items, a value declaration for maps, enum values and a
description.
-/

namespace SwiftSchema.Schema

/-- What `additionalProperties` says: a flag allowing free-form values or none, or a
declaration of the values. -/
inductive Allowance (α : Type) where
  | flag (allowed : Bool)
  | values (decl : α)
  deriving Repr

/-- A **type declaration**. -/
structure Decl where
  /-- `type`. -/
  kind : Option String := none
  format : Option String := none
  /-- `$ref`. -/
  ref : Option String := none
  items : Option Decl := none
  /-- `additionalProperties`. -/
  extra : Option (Allowance Decl) := none
  /-- `enum`. -/
  enumValues : Option (List Json.Value) := none
  description : Option String := none
  deriving Inhabited

/-- A **model declaration**; properties by key, in document order. -/
structure ModelDecl where
  parent : Option String := none
  description : Option String := none
  required : List String := []
  properties : List (String × Decl) := []
  extra : Option (Allowance Decl) := none

/-- A **parameter declaration**: a name, whether it is required, and its type declaration. -/
structure ParameterDecl where
  name : String
  required : Bool := false
  decl : Decl := {}

/-- An **operation declaration**. -/
structure OperationDecl where
  operationId : String := ""
  tag : Option String := none
  parameters : List ParameterDecl := []
  response : Option Decl := none

/-- A **document declaration**: models by name, in document order, and operations. -/
structure DocumentDecl where
  models : List (String × ModelDecl) := []
  operations : List OperationDecl := []

end SwiftSchema.Schema
