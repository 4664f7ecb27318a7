import SwiftSchema.Json.Value
import SwiftSchema.Decimal.Shortest

/-! # Writing JSON

Compact and indented JSON text. Strings escape the quote, the backslash and the control
characters (with the short escapes where JSON has them, else `\u00XX` in small hex digits);
everything else is written as it is. Doubles take their shortest decimal, written positionally
for scientific exponents from `-5` to `15` and with a signed exponent otherwise (`1e+16`,
`5e-324`). The indented form puts each item on a line of its own, two spaces deeper, and
writes a field as `"key": value`.
-/

namespace SwiftSchema.Json

open SwiftSchema.Decimal

/-- Doubles are positional from `1e-5` up to below `1e16`, else `1e+16` and `1e-6`. -/
def numberStyle : Style := ⟨fun e => -5 ≤ e ∧ e < 16, "+"⟩

/-- A small hex digit. -/
def hexDigit (n : Nat) : Char :=
  if n < 10 then Char.ofNat (48 + n) else Char.ofNat (87 + n)

/-- The escape of one character inside a string. -/
def escapeChar (c : Char) : List Char :=
  match c with
  | '"' => ['\\', '"']
  | '\\' => ['\\', '\\']
  | '\n' => ['\\', 'n']
  | '\r' => ['\\', 'r']
  | '\t' => ['\\', 't']
  | '\x08' => ['\\', 'b']
  | '\x0c' => ['\\', 'f']
  | c =>
    if c.toNat < 32 then ['\\', 'u', '0', '0', hexDigit (c.toNat / 16), hexDigit (c.toNat % 16)]
    else [c]

/-- A string in quotes, escaped. -/
def quote (s : String) : String :=
  String.ofList ('"' :: (s.toList.flatMap escapeChar ++ ['"']))

/-- The text of a number. -/
def Number.text : Number → String
  | .nat n => toString n
  | .neg n => "-" ++ toString n
  | .double bits => (Binary.ofBits bits.toNat).text numberStyle

mutual

/-- The **compact text** of a value. -/
def Value.compact : Value → String
  | .null => "null"
  | .bool b => if b then "true" else "false"
  | .number n => n.text
  | .string s => quote s
  | .array items => "[" ++ compactItems items ++ "]"
  | .object fields => "\x7b" ++ compactFields fields ++ "\x7d"

/-- Compact items, comma-separated. -/
def compactItems : List Value → String
  | [] => ""
  | [v] => v.compact
  | v :: rest => v.compact ++ "," ++ compactItems rest

/-- Compact fields, comma-separated. -/
def compactFields : List (String × Value) → String
  | [] => ""
  | [(k, v)] => quote k ++ ":" ++ v.compact
  | (k, v) :: rest => quote k ++ ":" ++ v.compact ++ "," ++ compactFields rest

end

/-- The indentation of a nesting depth. -/
def indent (depth : Nat) : String := String.ofList (List.replicate (2 * depth) ' ')

mutual

/-- The **indented text** of a value at a nesting depth. -/
def Value.pretty (depth : Nat) : Value → String
  | .array [] => "[]"
  | .object [] => "\x7b\x7d"
  | .array items => "[\n" ++ prettyItems (depth + 1) items ++ "\n" ++ indent depth ++ "]"
  | .object fields =>
    "\x7b\n" ++ prettyFields (depth + 1) fields ++ "\n" ++ indent depth ++ "\x7d"
  | v => v.compact

/-- Indented items, one a line. -/
def prettyItems (depth : Nat) : List Value → String
  | [] => ""
  | [v] => indent depth ++ v.pretty depth
  | v :: rest => indent depth ++ v.pretty depth ++ ",\n" ++ prettyItems depth rest

/-- Indented fields, one a line. -/
def prettyFields (depth : Nat) : List (String × Value) → String
  | [] => ""
  | [(k, v)] => indent depth ++ quote k ++ ": " ++ v.pretty depth
  | (k, v) :: rest => indent depth ++ quote k ++ ": " ++ v.pretty depth ++ ",\n" ++ prettyFields depth rest

end

end SwiftSchema.Json
