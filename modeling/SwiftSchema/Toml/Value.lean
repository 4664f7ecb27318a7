import SwiftSchema.Json.Error
import SwiftSchema.Source.Span

/-! # TOML values

A read TOML document is a table of **items**: strings, integers, floats, booleans, dates and
times, arrays and tables, each with the span it was written at. A table keeps its keys in the
order they were first written, each key with its own span.

* `Key`, `Item` — keys and values.
* `Item.span` — where a value was written.
* `floatText` — how a float is shown in a message: positional, with a point.
* `Item.unexpected` — what a value is, as a value of the wrong type.
* `Item.mapEntries?` — a value read as a map; a date reads as a table of one entry.
-/

namespace SwiftSchema.Toml

open SwiftSchema.Decimal

/-- A **key** of a table, with where it was written. -/
structure Key where
  name : String
  span : Span
  deriving DecidableEq, Repr

/-- A **TOML value**, with the span it was written at. -/
inductive Item where
  | string (s : String) (span : Span)
  | integer (n : Int) (span : Span)
  /-- A float, by the bits of its double. -/
  | float (bits : Nat) (span : Span)
  | boolean (b : Bool) (span : Span)
  /-- A date, a time or both, by its text in the normal form. -/
  | datetime (text : String) (span : Span)
  | array (items : List Item) (span : Span)
  | table (entries : List (Key × Item)) (span : Span)
  deriving Repr

/-- Where a value was written. -/
def Item.span : Item → Span
  | .string _ s | .integer _ s | .float _ s | .boolean _ s | .datetime _ s | .array _ s
  | .table _ s => s

/-- Floats in messages are written positionally, always with a point. -/
def displayStyle : Style := ⟨fun _ => true, ""⟩

/-- The text of a float in a message: `inf`, `-inf` and `NaN` for the words of those, else the
shortest decimal, positionally. -/
def floatText (bits : Nat) : String :=
  let field := bits / Nat.pow 2 52 % Nat.pow 2 11
  if field = 2047 then
    if bits % Nat.pow 2 52 ≠ 0 then "NaN"
    else if bits / Nat.pow 2 63 % 2 = 1 then "-inf" else "inf"
  else (Binary.ofBits bits).text displayStyle

/-- What a value is, as a value of the wrong type; a date is read as a table. -/
def Item.unexpected : Item → Json.Unexpected
  | .string s _ => .str s
  | .integer n _ => .signed n
  | .float bits _ => .float (floatText bits)
  | .boolean b _ => .bool b
  | .datetime .. => .map
  | .array .. => .seq
  | .table .. => .map

/-- The name under which a date is read as a table entry. -/
def datetimeField : String := "$__toml_private_datetime"

/-- The entries of a value read as a map, with the spans of their keys: a table's, or the one
entry a date is read as, whose key has no place of its own. -/
def Item.mapEntries? : Item → Option (List (Option Span × String × Item))
  | .table es _ => some (es.map fun e => (some e.1.span, e.1.name, e.2))
  | .datetime t sp => some [(none, datetimeField, .string t sp)]
  | _ => none

end SwiftSchema.Toml
