import SwiftSchema.Json.Write
import SwiftSchema.Types.Descriptor
import SwiftSchema.Model.Map
import SwiftSchema.Model.Operation
import SwiftSchema.Source.Error
import SwiftSchema.Schema.Decl
import SwiftSchema.Schema.Read

/-! # Schema documents

A **schema document** holds models by raw name, in document order, and operations, with raw
names; resolving names is the work of normalizing. It is read from JSON text in two steps:
the declarations are read, then folded into type descriptors model by model and operation by
operation, the first declaration that is not well formed being the error.

Folding a declaration: a reference is its last `/` segment (an empty one is an error); else
the type must be given; an array needs items; an object is a map when `additionalProperties`
allows free-form values or declares them; a type and format pair names a primitive
(`integer`/`int64` is `long`, `string`/`date-time` is `DateTime`, …).

* `SchemaDocument.ofText` — the document of a text.
-/

namespace SwiftSchema

open SwiftSchema.Types SwiftSchema.Schema

/-- A **schema document**. -/
structure SchemaDocument where
  models : ModelMap := {}
  operations : List Operation := []
  deriving DecidableEq, Repr

namespace Schema

/-- The primitive that a type and format pair names. -/
def primitiveOf (kind : String) (format : Option String) : String :=
  match kind, format with
  | "integer", some "int64" => "long"
  | "integer", _ => "integer"
  | "number", some "float" => "float"
  | "number", some "double" => "double"
  | "number", _ => "number"
  | "string", some "date" => "date"
  | "string", some "date-time" => "DateTime"
  | "string", some "uuid" => "UUID"
  | "string", some "binary" => "binary"
  | "string", some "byte" => "ByteArray"
  | k, _ => k

/-- The part of a reference after its last `/`: the characters read back from its end up to the
first `/`. -/
def refName (r : String) : String := String.ofList (r.toList.reverse.takeWhile (· ≠ '/')).reverse

/-- Folds a **type declaration** at a location; the needle points errors into the text. -/
def foldType (ctx : Source) (location needle : String) : Decl → Except LoadError TypeDesc
  | ⟨kind, format, ref, items, extra, _, _⟩ =>
    match ref with
    | some r =>
      if (refName r).isEmpty then .error (ctx.invalidSchemaError location "empty $ref" r)
      else .ok (.reference (refName r))
    | none =>
      match kind with
      | none =>
        .error (ctx.invalidSchemaError location "schema declares neither 'type' nor '$ref'"
          ("\"" ++ needle ++ "\""))
      | some "array" =>
        match items with
        | none =>
          .error (ctx.invalidSchemaError location "array schema is missing 'items'"
            ("\"" ++ needle ++ "\""))
        | some i => .array <$> foldType ctx (location ++ ".items") needle i
      | some "object" =>
        match extra with
        | some (.flag true) => .ok (.map (.primitive "object"))
        | some (.values x) =>
          .map <$> foldType ctx (location ++ ".additionalProperties") "additionalProperties" x
        | _ => .ok (.primitive "object")
      | some k => .ok (.primitive (primitiveOf k format))

/-- The value type that `additionalProperties` gives: free-form values, none, or declared. -/
def valueType (ctx : Source) (location : String) : Allowance Decl → Except LoadError (Option TypeDesc)
  | .flag true => .ok (some (.primitive "object"))
  | .flag false => .ok none
  | .values d => some <$> foldType ctx (location ++ ".additionalProperties") "additionalProperties" d

/-- An enum value as text: a string as it is, anything else as compact JSON. -/
def enumText : Json.Value → String
  | .string s => s
  | v => v.compact

/-- Folds a **model declaration**: every required name must be a declared property. -/
def foldModel (ctx : Source) (name : String) (m : ModelDecl) : Except LoadError Model := do
  let location := "models." ++ name
  match m.required.find? (fun k => !(m.properties.any (·.1 == k))) with
  | some missing =>
    throw (ctx.invalidSchemaError location s!"required property '{missing}' is not declared"
      ("\"" ++ missing ++ "\""))
  | none => pure ()
  let extra ← match m.extra with
    | some e => valueType ctx location e
    | none => pure none
  let vars ← m.properties.mapM fun (key, d) => do
    let t ← foldType ctx (location ++ ".properties." ++ key) key d
    pure { Property.new key t with
      required := m.required.contains key
      description := d.description
      enumValues := d.enumValues.map (·.map enumText) }
  pure { Model.new name with
    parentSchema := m.parent, description := m.description, additionalProperties := extra, vars }

/-- Folds an **operation declaration** at its index: the response, then the parameters. -/
def foldOperation (ctx : Source) (index : Nat) (o : OperationDecl) : Except LoadError Operation := do
  let location := s!"operations[{index}]"
  let response ← match o.response with
    | some r => some <$> foldType ctx (location ++ ".response") "response" r
    | none => pure none
  let parameters ← o.parameters.mapM fun p => do
    let t ← foldType ctx (location ++ ".parameters." ++ p.name) p.name p.decl
    pure { Parameter.new p.name t with required := p.required, description := p.decl.description }
  pure { Operation.new o.operationId with tag := o.tag, response, parameters }

end Schema

/-- The **schema document** of a JSON text, reported under a file name. -/
def SchemaDocument.ofText (text : String) (filename : String := "schema.json") :
    Except LoadError SchemaDocument := do
  let ctx : Source := ⟨text, filename⟩
  let decl ← match readDocument text with
    | .ok d => pure d
    | .error e => throw (ctx.jsonError e)
  let models ← decl.models.foldlM (fun (acc : ModelMap) (name, m) => do
    pure (acc.insert name (← foldModel ctx name m))) {}
  let operations ← (decl.operations.zipIdx).mapM fun (o, i) => foldOperation ctx i o
  pure { models, operations }

end SwiftSchema
