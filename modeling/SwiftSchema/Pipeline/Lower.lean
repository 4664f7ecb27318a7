import SwiftSchema.Pipeline.Context
import SwiftSchema.Types.Resolve
import SwiftSchema.Text.Escape

/-! # Lowering

**Lowering** turns raw models and operations into Swift-ready ones: every name becomes a legal
identifier, every type a Swift type expression, every enum value an enum case, and free text
is made safe to embed. A name that had to change is reported as a warning at its place; an
operation whose id is empty after sanitizing is reported as an error and dropped.

The reports come in this order: for each model its rename, then for each property its rename,
its enum type's rename and its enum cases' renames; then the operations in order, each with
its parameters.

* `escapeDescription` — free text made safe for a string literal or a block comment.
* `lowerModel`, `lowerOperation` — one model or operation, with its reports.
* `Context.lower` — every model and operation of a context.
-/

namespace SwiftSchema

open SwiftSchema.Naming SwiftSchema.Types SwiftSchema.Text

/-- The import a model with a description needs. -/
def apiModelImport : String := "ApiModel"

/-- Free text made safe to embed: lines flattened, quotes dropped, comment marks broken. -/
def escapeDescription (s : String) : String := String.ofList (escapeText s.toList)

/-- The warning of a rename at a place, if there was one. -/
def renameReport (r : Option Rename) (location : String) : List Diagnostic :=
  match r with
  | some r => [(Diagnostic.warning "lower" r.message).located location]
  | none => []

/-- A **lowered property**: its Swift name and types, its escaped description, and for an enum
its type name and cases, with the reports of its renames. -/
def lowerProperty (n : Namer) (location : String) (p : Property) : Property × List Diagnostic :=
  let v := n.varName p.baseName
  let datatype := n.typeText p.schemaType
  let q : Property := { p with
    name := v.name
    datatype
    baseType := n.baseType p.schemaType
    instantiationType := n.instantiationType p.schemaType
    defaultValue := none
    scalar := ScalarKind.ofSwiftType datatype
    isFile := isFileType datatype
    isBinary := isBinaryType datatype
    description := p.description.map escapeDescription
    datatypeWithEnum := datatype }
  match p.enumValues with
  | none => (q, renameReport v.rename location)
  | some values =>
    let enumType := n.enumTypeName v.name datatype
    let cases := values.map fun value => (value, n.enumCaseName value datatype)
    ({ q with
        enumMembers := cases.map fun (value, r) => ⟨r.name, value⟩
        datatypeWithEnum := enumType.name
        enumName := some enumType.name },
      renameReport v.rename location ++ renameReport enumType.rename location ++
        cases.flatMap fun (value, r) => renameReport r.rename s!"{location}.enum.{value}")

/-- A **lowered model**: its Swift name, its parent's Swift name when the parent is one of the
known models, its types, its escaped description (which brings an import), and its lowered
properties, with the reports in order. -/
def lowerModel (n : Namer) (known : List String) (m : Model) : Model × List Diagnostic :=
  let location := s!"models.{m.baseName}"
  let r := n.modelName m.baseName
  let props := m.vars.map fun p => lowerProperty n s!"{location}.properties.{p.baseName}" p
  let (description, imports) := match m.description with
    | some d => (some (escapeDescription d), insertSorted apiModelImport m.imports)
    | none => (none, m.imports)
  ({ m with
      name := r.name
      parent := (m.parentSchema.filter (known.contains ·)).map fun p => (n.modelName p).name
      additionalPropertiesType := m.additionalProperties.map n.typeText
      description
      imports
      vars := markHasMore (props.map (·.1)) },
    renameReport r.rename location ++ props.flatMap (·.2))

/-- A lowered parameter with the report of its rename. -/
def lowerParameter (n : Namer) (location : String) (p : Parameter) : Parameter × List Diagnostic :=
  let r := n.paramName p.baseName
  ({ p with
      name := r.name
      datatype := n.typeText p.schemaType
      description := p.description.map escapeDescription },
    renameReport r.rename location)

/-- A **lowered operation** at its index, or none when its id is empty after sanitizing, which
is reported as an error. -/
def lowerOperation (n : Namer) (index : Nat) (o : Operation) : Option Operation × List Diagnostic :=
  let location := s!"operations[{index}]"
  match n.operationId o.operationId with
  | .error e => (none, [(Diagnostic.error "lower" e.message).located location])
  | .ok r =>
    let params := o.parameters.map fun p => lowerParameter n s!"{location}.parameters.{p.baseName}" p
    (some { o with
        nickname := r.name
        apiName := n.apiName (o.tag.getD "")
        returnType := o.response.map n.typeText
        parameters := markParametersHaveMore (params.map (·.1)) },
      renameReport r.rename location ++ params.flatMap (·.2))

/-- Every model and operation of a context **lowered**, and the reports added after the ones
before. -/
def Context.lower (c : Context) : Context :=
  let n := c.namer
  let known := c.models.keys
  let models := c.models.entries.map fun (k, m) => (k, lowerModel n known m)
  let ops := c.operations.zipIdx.map fun (o, i) => lowerOperation n i o
  { c with
    models := ⟨models.map fun (k, r) => (k, r.1)⟩
    operations := ops.filterMap (·.1)
    diagnostics := c.diagnostics ++ models.flatMap (·.2.2) ++ ops.flatMap (·.2) }

end SwiftSchema
