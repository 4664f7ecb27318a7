import SwiftSchema.Json.Value
import SwiftSchema.Types.Descriptor
import SwiftSchema.Model.Property

/-! # Operations

An API operation of the schema, with its parameters and response, and what lowering resolves
for them (Swift method name, API name, type expressions).
-/

namespace SwiftSchema

open SwiftSchema.Types

/-- A **parameter** of an operation. -/
structure Parameter where
  baseName : String
  name : String
  schemaType : TypeDesc
  datatype : String := ""
  required : Bool := false
  description : Option String := none
  hasMore : Bool := false
  deriving DecidableEq, Repr

/-- A parameter before lowering: named by its raw name. -/
def Parameter.new (baseName : String) (t : TypeDesc) : Parameter :=
  { baseName, name := baseName, schemaType := t }

/-- An **operation**. -/
structure Operation where
  /-- The raw operation id. -/
  operationId : String
  /-- The Swift method name. -/
  nickname : String
  tag : Option String := none
  apiName : String := ""
  parameters : List Parameter := []
  response : Option TypeDesc := none
  returnType : Option String := none
  deriving DecidableEq, Repr

/-- An operation before lowering: its method name is its raw id. -/
def Operation.new (operationId : String) : Operation :=
  { operationId, nickname := operationId }

/-- Marks every parameter of a list but the last as followed by another. -/
def markParametersHaveMore : List Parameter → List Parameter
  | [] => []
  | [p] => [{ p with hasMore := false }]
  | p :: rest => { p with hasMore := true } :: markParametersHaveMore rest

/-- The written form of a parameter. -/
def Parameter.toValue (p : Parameter) : Json.Value :=
  .object [("base_name", .string p.baseName), ("name", .string p.name),
    ("schema_type", TypeDesc.toValue p.schemaType), ("datatype", .string p.datatype),
    ("required", .bool p.required), ("description", .ofOption p.description),
    ("has_more", .bool p.hasMore)]

/-- The written form of an operation. -/
def Operation.toValue (o : Operation) : Json.Value :=
  .object [("operation_id", .string o.operationId), ("nickname", .string o.nickname),
    ("tag", .ofOption o.tag), ("api_name", .string o.apiName),
    ("parameters", .array (o.parameters.map Parameter.toValue)),
    ("response", TypeDesc.toValue? o.response), ("return_type", .ofOption o.returnType)]

end SwiftSchema
