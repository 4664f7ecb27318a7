import SwiftSchema.Json.Value
import SwiftSchema.Types.Descriptor
import SwiftSchema.Model.Property

/-! # Models

A model of the schema: its raw name and parent, its own properties, and what lowering and
reconciling add (Swift name and parent name, inherited property lists, imports, annotations).

* `Model.new` — a model before lowering.
-/

namespace SwiftSchema

open SwiftSchema.Types

/-- A **model** of the schema. -/
structure Model where
  /-- The raw name. -/
  baseName : String
  /-- The Swift name. -/
  name : String
  /-- The raw name of the parent model, as the schema gives it. -/
  parentSchema : Option String := none
  /-- The Swift name of the parent, when the parent is a model of the map. -/
  parent : Option String := none
  description : Option String := none
  /-- The properties the model declares itself, less those an ancestor declares. -/
  vars : List Property := []
  /-- Own and inherited properties. -/
  allVars : List Property := []
  /-- The properties of the parent, as the parent sees them. -/
  parentVars : List Property := []
  additionalProperties : Option TypeDesc := none
  additionalPropertiesType : Option String := none
  /-- Imports, sorted and without repeats. -/
  imports : List String := []
  extensions : Extensions := {}
  deriving DecidableEq, Repr

namespace Model

/-- A model before lowering: named by its raw name. -/
def new (baseName : String) : Model := { baseName, name := baseName }

/-- The first own property with a raw name. -/
def var? (m : Model) (baseName : String) : Option Property :=
  m.vars.find? (·.baseName == baseName)

/-- Whether the model declares a property of a raw name itself. -/
def declares (m : Model) (baseName : String) : Bool := (m.var? baseName).isSome

end Model

/-- Inserts a text into a sorted list without repeats. -/
def insertSorted (x : String) : List String → List String
  | [] => [x]
  | y :: ys => if x < y then x :: y :: ys else if x = y then y :: ys else y :: insertSorted x ys

/-- The written form of a model, fields in declaration order. -/
def Model.toValue (m : Model) : Json.Value :=
  let props (ps : List Property) : Json.Value := .array (ps.map Property.toValue)
  .object [
    ("base_name", .string m.baseName), ("name", .string m.name),
    ("parent_schema", .ofOption m.parentSchema), ("parent", .ofOption m.parent),
    ("description", .ofOption m.description), ("vars", props m.vars),
    ("all_vars", props m.allVars), ("parent_vars", props m.parentVars),
    ("additional_properties", TypeDesc.toValue? m.additionalProperties),
    ("additional_properties_type", .ofOption m.additionalPropertiesType),
    ("imports", textsValue m.imports), ("extensions", m.extensions.toValue)]

end SwiftSchema
