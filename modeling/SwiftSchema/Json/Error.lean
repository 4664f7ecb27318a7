import SwiftSchema.Json.Write
import SwiftSchema.Text.Printable

/-! # JSON reading errors

Reading a document can fail in two ways: the text is not JSON (a **syntax fault**), or it is
JSON of another shape than the one expected (a **shape fault**). An error is a fault with the
byte offset at which it was noticed; the line and column of that offset are what messages
show.

* `SyntaxFault.message`, `ShapeFault.message` — the texts.
* `Fault.category` — `Syntax`, `Eof` (the text ended too early) or `Data` (a shape fault).
* `ReadError.lineColumn` — the line (from 1) and the byte column of the offset.
-/

namespace SwiftSchema.Json

/-- The **syntax faults**. -/
inductive SyntaxFault where
  | eofInList
  | eofInObject
  | eofInString
  | eofInValue
  | expectedColon
  | expectedListCommaOrEnd
  | expectedObjectCommaOrEnd
  | expectedIdent
  | expectedValue
  | invalidEscape
  | invalidNumber
  | numberOutOfRange
  | invalidCodePoint
  | controlCharacter
  | keyMustBeString
  | loneLeadingSurrogate
  | trailingComma
  | trailingCharacters
  | unexpectedEndOfHexEscape
  | recursionLimit
  deriving DecidableEq, Repr

/-- The text of a syntax fault. -/
def SyntaxFault.message : SyntaxFault → String
  | .eofInList => "EOF while parsing a list"
  | .eofInObject => "EOF while parsing an object"
  | .eofInString => "EOF while parsing a string"
  | .eofInValue => "EOF while parsing a value"
  | .expectedColon => "expected `:`"
  | .expectedListCommaOrEnd => "expected `,` or `]`"
  | .expectedObjectCommaOrEnd => "expected `,` or `\x7d`"
  | .expectedIdent => "expected ident"
  | .expectedValue => "expected value"
  | .invalidEscape => "invalid escape"
  | .invalidNumber => "invalid number"
  | .numberOutOfRange => "number out of range"
  | .invalidCodePoint => "invalid unicode code point"
  | .controlCharacter => "control character (\\u0000-\\u001F) found while parsing a string"
  | .keyMustBeString => "key must be a string"
  | .loneLeadingSurrogate => "lone leading surrogate in hex escape"
  | .trailingComma => "trailing comma"
  | .trailingCharacters => "trailing characters"
  | .unexpectedEndOfHexEscape => "unexpected end of hex escape"
  | .recursionLimit => "recursion limit exceeded"

/-- Whether a syntax fault is an early end of the text. -/
def SyntaxFault.isEof : SyntaxFault → Bool
  | .eofInList | .eofInObject | .eofInString | .eofInValue => true
  | _ => false

/-- What a value of the wrong type was found to be. -/
inductive Unexpected where
  | bool (b : Bool)
  | unsigned (n : Nat)
  | signed (n : Int)
  | float (shown : String)
  | str (s : String)
  | null
  | seq
  | map
  deriving DecidableEq, Repr

/-- Lower-case hex digits of a number, without leading zeros. -/
def hexText (n : Nat) : String := String.ofList (Nat.toDigits 16 n)

/-- The escape of one character in a quoted text. -/
def quotedChar (c : Char) : String :=
  match c with
  | '\x00' => "\\0"
  | '\t' => "\\t"
  | '\r' => "\\r"
  | '\n' => "\\n"
  | '\\' => "\\\\"
  | '"' => "\\\""
  | c => if Text.isCodeShown c then "\\u\x7b" ++ hexText c.toNat ++ "\x7d" else c.toString

/-- A text in double quotes, with quotes, backslashes and invisible characters escaped. -/
def quoted (s : String) : String := "\"" ++ String.join (s.toList.map quotedChar) ++ "\""

/-- The text of what was found. -/
def Unexpected.text : Unexpected → String
  | .bool b => s!"boolean `{b}`"
  | .unsigned n => s!"integer `{n}`"
  | .signed n => s!"integer `{n}`"
  | .float shown => "floating point `" ++ shown ++ "`"
  | .str s => "string " ++ quoted s
  | .null => "null"
  | .seq => "sequence"
  | .map => "map"

/-- What a number is, as a value of the wrong type; a double is shown as it is written in
JSON text. -/
def Number.unexpected : Number → Unexpected
  | .nat n => .unsigned n
  | .neg n => .signed (-(n : Int))
  | .double bits => .float ((Decimal.Binary.ofBits bits.toNat).text numberStyle)

/-- What a value is, as a value of the wrong type. -/
def Value.unexpected : Value → Unexpected
  | .null => .null
  | .bool b => .bool b
  | .number n => n.unexpected
  | .string s => .str s
  | .array _ => .seq
  | .object _ => .map

/-- The **shape faults**. -/
inductive ShapeFault where
  /-- A value of another type than expected. -/
  | invalidType (found : Unexpected) (expected : String)
  /-- A sequence with too few items for a record. -/
  | invalidLength (length : Nat) (expected : String)
  /-- A field the record does not have. -/
  | unknownField (name : String) (fields : List String)
  | missingField (name : String)
  | duplicateField (name : String)
  /-- A value that fits none of the forms of an either-or shape. -/
  | noForm (shape : String)
  deriving DecidableEq, Repr

/-- The names of fields in back quotes: `a`, `a` or `b`, one of `a`, `b`, `c`. -/
def oneOf : List String → String
  | [] => ""
  | [a] => s!"`{a}`"
  | [a, b] => s!"`{a}` or `{b}`"
  | names => "one of " ++ ", ".intercalate (names.map fun n => s!"`{n}`")

/-- The text of a shape fault. -/
def ShapeFault.message : ShapeFault → String
  | .invalidType found expected => s!"invalid type: {found.text}, expected {expected}"
  | .invalidLength n expected => s!"invalid length {n}, expected {expected}"
  | .unknownField name [] => s!"unknown field `{name}`, there are no fields"
  | .unknownField name fields => s!"unknown field `{name}`, expected {oneOf fields}"
  | .missingField name => s!"missing field `{name}`"
  | .duplicateField name => s!"duplicate field `{name}`"
  | .noForm shape => s!"data did not match any variant of untagged enum {shape}"

/-- A fault of reading. -/
inductive Fault where
  | malformed (f : SyntaxFault)
  | shape (f : ShapeFault)
  deriving DecidableEq, Repr

/-- The text of a fault. -/
def Fault.message : Fault → String
  | .malformed f => f.message
  | .shape f => f.message

/-- The class of a fault: `Eof`, `Syntax` or `Data`. -/
def Fault.category : Fault → String
  | .malformed f => if f.isEof then "Eof" else "Syntax"
  | .shape _ => "Data"

/-- A **reading error**: a fault, and the byte offset where it was noticed once that is known. -/
structure ReadError where
  fault : Fault
  offset : Option Nat := none
  deriving DecidableEq, Repr

/-- The line (from 1) and byte column of an offset into a text: the column counts the bytes of
its line before the offset. -/
def lineColumn (bytes : List UInt8) (offset : Nat) : Nat × Nat :=
  let before := bytes.take offset
  let lineStart := before.length - (before.reverse.takeWhile (· != 10)).length
  (1 + (before.take lineStart).count 10, offset - lineStart)

/-- The line and column of an error; `(0, 0)` when its offset is not known. -/
def ReadError.lineColumn (e : ReadError) (bytes : List UInt8) : Nat × Nat :=
  match e.offset with
  | some o => Json.lineColumn bytes o
  | none => (0, 0)

/-- The text of an error: the fault, and where it was noticed. -/
def ReadError.display (e : ReadError) (bytes : List UInt8) : String :=
  match e.lineColumn bytes with
  | (0, _) => e.fault.message
  | (l, c) => s!"{e.fault.message} at line {l} column {c}"

end SwiftSchema.Json
