import SwiftSchema.Json.Read
import SwiftSchema.Schema.Decl

/-! # Reading a schema document

The declarations of a document are read from its text in one pass. Records refuse fields they
do not have, except type declarations, which skip them; a field given twice is a fault; a
record may also be written as a sequence of its fields in order. Values that have to be read
before their shape is known (an `additionalProperties` value, and the type fields of a
parameter, which sit beside its name) are read whole first and then decoded; their faults
carry no offset of their own.

* `readDocument` — a document declaration from text.
* `Decl.ofWhole` — a type declaration from a value read whole.
-/

namespace SwiftSchema.Schema

open SwiftSchema.Json SwiftSchema.Json.Reader

/-! ## Values read whole -/

/-- Decoding a value read whole; a fault has no offset. -/
abbrev Decode := Except ShapeFault

mutual

/-- A value with each object's repeated keys merged: the first place, the last value. -/
def merged : Value → Value
  | .array vs => .array (mergedItems vs)
  | .object es => .object (mergedEntries [] es)
  | v => v

/-- Merged items. -/
def mergedItems : List Value → List Value
  | [] => []
  | v :: vs => merged v :: mergedItems vs

/-- Merged entries, after those merged so far. -/
def mergedEntries (acc : List (String × Value)) : List (String × Value) → List (String × Value)
  | [] => acc
  | (k, v) :: es => mergedEntries (putEntry acc k (merged v)) es

end

/-- A text, or nothing for `null`. -/
def textOf? : Value → Decode (Option String)
  | .null => .ok none
  | .string s => .ok (some s)
  | v => .error (.invalidType v.unexpected "a string")

/-- Enum values, or nothing for `null`. -/
def valuesOf? : Value → Decode (Option (List Value))
  | .null => .ok none
  | .array vs => .ok (some (mergedItems vs))
  | v => .error (.invalidType v.unexpected "a sequence")

/-- The fields of a type declaration. -/
def declFields : List String :=
  ["type", "format", "$ref", "items", "additionalProperties", "enum", "description"]

/-- What a sequence form of a type declaration must hold. -/
def declSeqExpected : String := "struct RawSchema with 7 elements"

/-- A **type declaration** from a value read whole, within a bound on its nesting: from an
object by its fields (others skipped, a repeated one a fault), or from the sequence of its
seven fields. -/
def Decl.ofValue : Nat → Value → Decode Decl
  | 0, _ => .error (.noForm "RawSchema")
  | fuel + 1, v =>
    let field (d : Decl) (k : String) (v : Value) : Decode Decl :=
      match k with
      | "type" => (fun x => { d with kind := x }) <$> textOf? v
      | "format" => (fun x => { d with format := x }) <$> textOf? v
      | "$ref" => (fun x => { d with ref := x }) <$> textOf? v
      | "items" =>
        match v with
        | .null => .ok { d with items := none }
        | v => (fun x => { d with items := some x }) <$> Decl.ofValue fuel v
      | "additionalProperties" =>
        match v with
        | .null => .ok { d with extra := none }
        | .bool b => .ok { d with extra := some (.flag b) }
        | v =>
          match Decl.ofValue fuel v with
          | .ok x => .ok { d with extra := some (.values x) }
          | .error _ => .error (.noForm "AdditionalProperties")
      | "enum" => (fun x => { d with enumValues := x }) <$> valuesOf? v
      | _ => (fun x => { d with description := x }) <$> textOf? v
    let entry (acc : Decl × List String) (e : String × Value) : Decode (Decl × List String) :=
      let (d, seen) := acc
      if !declFields.contains e.1 then .ok acc
      else if seen.contains e.1 then .error (.duplicateField e.1)
      else (·, e.1 :: seen) <$> field d e.1 e.2
    let item (acc : Decl × Nat) (v : Value) : Decode (Decl × Nat) :=
      let (d, i) := acc
      (·, i + 1) <$> field d (declFields.getD i "") v
    match v with
    | .object es => (·.1) <$> es.foldlM entry ({}, [])
    | .array vs =>
      match (vs.take 7).foldlM item ({}, 0) with
      | .ok (d, n) =>
        if n < 7 then .error (.invalidLength n declSeqExpected)
        else if vs.length > 7 then .error (.invalidLength vs.length "7 elements in sequence")
        else .ok d
      | .error e => .error e
    | v => .error (.invalidType v.unexpected "struct RawSchema")

/-- A type declaration from a value read whole. -/
def Decl.ofWhole (v : Value) : Decode Decl := Decl.ofValue (v.depth + 1) v

/-- What `additionalProperties` holds, from a value read whole. -/
def allowanceOf (v : Value) : Decode (Allowance Decl) :=
  match v with
  | .bool b => .ok (.flag b)
  | v =>
    match Decl.ofWhole v with
    | .ok d => .ok (.values d)
    | .error _ => .error (.noForm "AdditionalProperties")

/-! ## Reading from text -/

/-- A shape fault of a value read whole, as a reading failure. -/
def decoded {α : Type} : Decode α → Reader α
  | .ok a => pure a
  | .error f => shape f

/-- Fails when a field was seen already. -/
def once (seen : List String) (k : String) : Reader Unit :=
  if seen.contains k then shape (.duplicateField k) else pure ()

/-- Reads a text or `null`. -/
def readText? : Reader (Option String) := readOption readString

/-- Reads an `additionalProperties` value or `null`. -/
def readAllowance? : Reader (Option (Allowance Decl)) :=
  readOption do decoded (allowanceOf (← readAny (← Reader.fuel)))

/-- Reads enum values or `null`. -/
def readValues? : Reader (Option (List Value)) :=
  readOption do
    let vs ← readSeq fun f => readAny f
    pure (mergedItems vs)

/-- The next field of a record written as a sequence; missing, it is a fault of length. -/
def seqField! {α : Type} (expected : String) (i : Nat) (r : Reader α) : Reader α := do
  match ← seqField (i == 0) r with
  | some v => pure v
  | none => shape (.invalidLength i expected)

/-- The next field of a record written as a sequence, or its default when the sequence ends. -/
def seqFieldOr {α : Type} (i : Nat) (r : Reader α) (default : α) : Reader α := do
  match ← seqField (i == 0) r with
  | some v => pure v
  | none => pure default

/-- Reads a **type declaration**. -/
def readDecl : Nat → Reader Decl
  | 0 => badAhead .eofInValue
  | fuel + 1 =>
    let field (acc : Decl × List String) (k : String) : Reader (Decl × List String) := do
      let (d, seen) := acc
      if declFields.contains k then
        once seen k
        colon
        let d ← match k with
          | "type" => do pure { d with kind := ← readText? }
          | "format" => do pure { d with format := ← readText? }
          | "$ref" => do pure { d with ref := ← readText? }
          | "items" => do pure { d with items := ← readOption (readDecl fuel) }
          | "additionalProperties" => do pure { d with extra := ← readAllowance? }
          | "enum" => do pure { d with enumValues := ← readValues? }
          | _ => do pure { d with description := ← readText? }
        pure (d, k :: seen)
      else do
        colon
        ignoreValue (← Reader.fuel)
        pure (d, seen)
    let fromSeq : Reader Decl := do
      let kind ← seqField! declSeqExpected 0 readText?
      let format ← seqField! declSeqExpected 1 readText?
      let ref ← seqField! declSeqExpected 2 readText?
      let items ← seqField! declSeqExpected 3 (readOption (readDecl fuel))
      let extra ← seqField! declSeqExpected 4 readAllowance?
      let enumValues ← seqField! declSeqExpected 5 readValues?
      let description ← seqField! declSeqExpected 6 readText?
      pure { kind, format, ref, items, extra, enumValues, description }
    readRecord "RawSchema" fromSeq do
      let (d, _) ← recordEntries (fun _ acc k => field acc k) (← Reader.fuel) true ({}, [])
      pure d

/-- The fields of a model declaration. -/
def modelFields : List String :=
  ["parent", "description", "required", "properties", "additionalProperties"]

/-- Reads a **model declaration**. -/
def readModel (fuel : Nat) : Reader ModelDecl :=
  let expected := "struct RawModel with 5 elements"
  let field (acc : ModelDecl × List String) (k : String) : Reader (ModelDecl × List String) := do
    let (m, seen) := acc
    if !modelFields.contains k then shape (.unknownField k modelFields)
    once seen k
    colon
    let m ← match k with
      | "parent" => do pure { m with parent := ← readText? }
      | "description" => do pure { m with description := ← readText? }
      | "required" => do pure { m with required := ← readSeq fun _ => readString }
      | "properties" => do pure { m with properties := ← readMap fun _ => readDecl fuel }
      | _ => do pure { m with extra := ← readAllowance? }
    pure (m, k :: seen)
  let fromSeq : Reader ModelDecl := do
    let parent ← seqField! expected 0 readText?
    let description ← seqField! expected 1 readText?
    let required ← seqFieldOr 2 (readSeq fun _ => readString) []
    let properties ← seqFieldOr 3 (readMap fun _ => readDecl fuel) []
    let extra ← seqField! expected 4 readAllowance?
    pure { parent, description, required, properties, extra }
  readRecord "RawModel" fromSeq do
    let (m, _) ← recordEntries (fun _ acc k => field acc k) (← Reader.fuel) true ({}, [])
    pure m

/-- Reads a **parameter declaration**: its name and required flag, and every other entry
kept whole and then decoded as its type declaration. -/
def readParameter : Reader ParameterDecl :=
  let field (acc : Option String × Option Bool × List (String × Value)) (k : String) :
      Reader (Option String × Option Bool × List (String × Value)) := do
    let (name, required, rest) := acc
    match k with
    | "name" =>
      if name.isSome then shape (.duplicateField "name")
      colon
      pure (some (← readString), required, rest)
    | "required" =>
      if required.isSome then shape (.duplicateField "required")
      colon
      pure (name, some (← readBool), rest)
    | _ =>
      colon
      let v ← readAny (← Reader.fuel)
      pure (name, required, rest ++ [(k, v)])
  readEntries "RawParameter" do
    let (name, required, rest) ←
      recordEntries (fun _ acc k => field acc k) (← Reader.fuel) true (none, none, [])
    match name with
    | none => shape (.missingField "name")
    | some name =>
      let decl ← decoded (Decl.ofWhole (.object rest))
      pure { name, required := required.getD false, decl }

/-- The fields of an operation declaration. -/
def operationFields : List String := ["operationId", "tag", "parameters", "response"]

/-- Reads an **operation declaration**. -/
def readOperation (fuel : Nat) : Reader OperationDecl :=
  let expected := "struct RawOperation with 4 elements"
  let field (acc : OperationDecl × List String) (k : String) :
      Reader (OperationDecl × List String) := do
    let (o, seen) := acc
    if !operationFields.contains k then shape (.unknownField k operationFields)
    once seen k
    colon
    let o ← match k with
      | "operationId" => do pure { o with operationId := ← readString }
      | "tag" => do pure { o with tag := ← readText? }
      | "parameters" => do pure { o with parameters := ← readSeq fun _ => readParameter }
      | _ => do pure { o with response := ← readOption (readDecl fuel) }
    pure (o, k :: seen)
  let fromSeq : Reader OperationDecl := do
    let operationId ← seqFieldOr 0 readString ""
    let tag ← seqField! expected 1 readText?
    let parameters ← seqFieldOr 2 (readSeq fun _ => readParameter) []
    let response ← seqField! expected 3 (readOption (readDecl fuel))
    pure { operationId, tag, parameters, response }
  readRecord "RawOperation" fromSeq do
    let (o, _) ← recordEntries (fun _ acc k => field acc k) (← Reader.fuel) true ({}, [])
    pure o

/-- The fields of a document. -/
def documentFields : List String := ["models", "operations"]

/-- Reads a **document declaration**. -/
def readDocumentDecl (fuel : Nat) : Reader DocumentDecl :=
  let field (acc : DocumentDecl × List String) (k : String) :
      Reader (DocumentDecl × List String) := do
    let (d, seen) := acc
    if !documentFields.contains k then shape (.unknownField k documentFields)
    once seen k
    colon
    let d ← match k with
      | "models" => do pure { d with models := ← readMap fun _ => readModel fuel }
      | _ => do pure { d with operations := ← readSeq fun _ => readOperation fuel }
    pure (d, k :: seen)
  let fromSeq : Reader DocumentDecl := do
    let models ← seqFieldOr 0 (readMap fun _ => readModel fuel) []
    let operations ← seqFieldOr 1 (readSeq fun _ => readOperation fuel) []
    pure { models, operations }
  readRecord "RawDocument" fromSeq do
    let (d, _) ← recordEntries (fun _ acc k => field acc k) (← Reader.fuel) true ({}, [])
    pure d

/-- The **document declaration** of a text. -/
def readDocument (s : String) : Except ReadError DocumentDecl :=
  readText (readDocumentDecl (s.utf8ByteSize + 1)) s

end SwiftSchema.Schema
