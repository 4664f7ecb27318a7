import SwiftSchema.Manifest.Basic
import SwiftSchema.Toml.Document

/-! # Reading a manifest from its TOML table

The top table may hold a `naming` table and a `reserved-words` table, nothing else. The naming
table may hold `prefix` and `suffix` strings and an `unwrap-required` boolean; it may also be
given as an array of the three in that order, the boolean optional. Reserved words map words
to replacement strings. A date stands for a table with one entry, so where a table is wanted
it shows an unknown field. A fault in a value points at the value, a fault of a key at the key.

* `manifestOf` — the manifest of a top table, or the first shape fault.
-/

namespace SwiftSchema

open SwiftSchema.Toml SwiftSchema.Json SwiftSchema.Naming

/-- Reading part of a manifest. -/
abbrev Shaped := Except Toml.ReadError

/-- A shape fault whose place is not known yet. -/
def shapeFault (f : ShapeFault) : Toml.ReadError := ⟨.shape f, none⟩

/-- Reading a value, with faults of no place put at the value. -/
def atItem (i : Item) (r : Shaped α) : Shaped α := r.mapError (·.within i.span)

/-- A string value. -/
def readText (i : Item) : Shaped String :=
  atItem i <| match i with
  | .string s _ => .ok s
  | _ => .error (shapeFault (.invalidType i.unexpected "a string"))

/-- A boolean value. -/
def readFlag (i : Item) : Shaped Bool :=
  atItem i <| match i with
  | .boolean b _ => .ok b
  | _ => .error (shapeFault (.invalidType i.unexpected "a boolean"))

/-- The fields of the naming table. -/
def namingFields : List String := ["prefix", "suffix", "unwrap-required"]

/-- One entry of the naming table. -/
def namingEntry (ctx : NamingContext) (e : Option Span × String × Item) : Shaped NamingContext :=
  match e with
  | (_, "prefix", v) => do pure { ctx with leading := some (← readText v) }
  | (_, "suffix", v) => do pure { ctx with trailing := some (← readText v) }
  | (_, "unwrap-required", v) => do pure { ctx with unwrapRequired := ← readFlag v }
  | (sp, name, _) => .error ⟨.shape (.unknownField name namingFields), sp⟩

/-- What the array form of the naming table must hold. -/
def namingArity : String := "struct NamingContext with 3 elements"

/-- The **naming context** of a value: a table of its fields, or an array of them in order,
read element by element, so that a bad first element is reported before a missing second. -/
def readNaming (i : Item) : Shaped NamingContext :=
  atItem i <| match i.mapEntries?, i with
  | some es, _ => es.foldlM namingEntry {}
  | none, .array items _ =>
    match items with
    | [] => .error (shapeFault (.invalidLength 0 namingArity))
    | [p] => do
      let _ ← readText p
      .error (shapeFault (.invalidLength 1 namingArity))
    | p :: s :: rest => do
      let leading ← readText p
      let trailing ← readText s
      let unwrap ← match rest with
        | u :: _ => readFlag u
        | [] => pure false
      pure ⟨some leading, some trailing, unwrap⟩
  | none, _ => .error (shapeFault (.invalidType i.unexpected "struct NamingContext"))

/-- The **reserved-word replacements** of a value: a table of words and replacement strings. -/
def readReplacements (i : Item) : Shaped (List (String × String)) :=
  atItem i <| match i.mapEntries? with
  | some es => es.mapM fun e => do pure (e.2.1, ← readText e.2.2)
  | none => .error (shapeFault (.invalidType i.unexpected "a map"))

/-- The fields of the top table. -/
def manifestFields : List String := ["naming", "reserved-words"]

/-- The **manifest of a top table**, or its first shape fault. -/
def manifestOf (entries : List (Key × Item)) : Shaped Manifest :=
  entries.foldlM (fun m e =>
    match e.1.name with
    | "naming" => do pure { m with naming := ← readNaming e.2 }
    | "reserved-words" => do pure { m with reservedWords := ← readReplacements e.2 }
    | name => .error ⟨.shape (.unknownField name manifestFields), some e.1.span⟩) {}

end SwiftSchema
