import SwiftSchema.Json.Value
import SwiftSchema.Json.Error

/-! # Reading JSON text

A reader walks the bytes of a text from the left, once, and fails at the first fault it
meets; a fault of shape ends the reading as early as one of syntax, so a later syntax fault is
never reported. The offset of a fault is the number of bytes read when it was noticed, or one
more when it was noticed on the byte ahead.

Containers nest at most 127 deep. A shape fault that a part of the reading raises gets its
offset from the innermost container (or string, number or literal) that was being read when
it surfaced; that container first reads on to its closing bracket, if that is the next thing.

* `Reader` — reading state (bytes left, bytes read, depth left) with errors that keep it.
* `readAny` — any value, keeping repeated object keys.
* `readString`, `readBool`, `readOption`, `readSeq`, `readMap`, `readRecord` — values of a
  given shape, with the faults of that shape.
* `ignoreValue` — skips a value, checking its syntax only.
-/

namespace SwiftSchema.Json

/-- The **reading state**: the bytes left, the bytes read, and how many more containers may
open. -/
structure Cursor where
  rest : List UInt8
  pos : Nat
  depth : Nat := 128

/-- A **reader**: a step over the state that may fail; a failure keeps the state it reached. -/
abbrev Reader := EStateM ReadError Cursor

/-- The state at the start of a text. -/
def Cursor.start (s : String) : Cursor := ⟨s.toUTF8.toList, 0, 128⟩

namespace Reader

/-- The next byte, if any. -/
def peek : Reader (Option UInt8) := do return (← get).rest.head?

/-- Steps over one byte. -/
def eat : Reader Unit :=
  modify fun c => match c.rest with
    | [] => c
    | _ :: r => { c with rest := r, pos := c.pos + 1 }

/-- The next byte, stepped over. -/
def next : Reader (Option UInt8) := do
  let b ← peek
  eat
  return b

/-- Fails with a fault at the bytes read. -/
def failHere {α : Type} (f : Fault) : Reader α := do throw ⟨f, some (← get).pos⟩

/-- Fails with a fault at the byte ahead, or at the end of the text. -/
def failAhead {α : Type} (f : Fault) : Reader α := do
  let c ← get
  throw ⟨f, some (if c.rest.isEmpty then c.pos else c.pos + 1)⟩

/-- Fails with a syntax fault at the bytes read. -/
def badHere {α : Type} (f : SyntaxFault) : Reader α := failHere (.malformed f)

/-- Fails with a syntax fault at the byte ahead. -/
def badAhead {α : Type} (f : SyntaxFault) : Reader α := failAhead (.malformed f)

/-- Fails with a shape fault whose offset is given later. -/
def shape {α : Type} (f : ShapeFault) : Reader α := throw ⟨.shape f, none⟩

/-- Runs a reader and keeps its failure as a value, so that reading goes on from the state
the failure reached. -/
def attempt {α : Type} (x : Reader α) : Reader (Except ReadError α) := fun s =>
  match x s with
  | .ok a s' => .ok (.ok a) s'
  | .error e s' => .ok (.error e) s'

/-- Gives a failure without an offset the offset reached. -/
def placed {α : Type} (x : Reader α) : Reader α := fun s =>
  match x s with
  | .ok a s' => .ok a s'
  | .error e s' => .error (if e.offset.isNone then { e with offset := some s'.pos } else e) s'

/-- The first failure of two results, else the first value. -/
def firstOf {α : Type} (r : Except ReadError α) (e : Except ReadError Unit) : Reader α :=
  match r, e with
  | .ok a, .ok () => pure a
  | .error err, _ => throw err
  | .ok _, .error err => throw err

/-- Whether a byte is a blank: space, line feed, tab or carriage return. -/
def isBlank (b : UInt8) : Bool := b == 32 || b == 10 || b == 9 || b == 13

/-- Whether a byte is an ASCII digit. -/
def isDigitByte (b : UInt8) : Bool := 48 ≤ b && b ≤ 57

/-- Skips blanks and gives the next byte. -/
def blank : Reader (Option UInt8) := do
  let c ← get
  let blanks := (c.rest.takeWhile isBlank).length
  set { c with rest := c.rest.drop blanks, pos := c.pos + blanks }
  peek

/-- Reads the rest of a literal word, such as `ull` after an `n`. -/
def word : List UInt8 → Reader Unit
  | [] => pure ()
  | b :: bs => do
    match ← next with
    | none => badHere .eofInValue
    | some x => if x == b then word bs else badHere .expectedIdent

/-- The bytes of `ull`, `rue` and `alse`. -/
def ull : List UInt8 := [117, 108, 108]
def rue : List UInt8 := [114, 117, 101]
def alse : List UInt8 := [97, 108, 115, 101]

/-- Opens a container: one level less may follow; fails past the limit. -/
def enter : Reader Unit := do
  let c ← get
  if c.depth ≤ 1 then badAhead .recursionLimit
  else set { c with depth := c.depth - 1 }

/-- Closes a container. -/
def leave : Reader Unit := modify fun c => { c with depth := c.depth + 1 }

/-! ## Strings -/

/-- The value of a hex digit. -/
def hexValue (b : UInt8) : Option Nat :=
  if 48 ≤ b && b ≤ 57 then some (b.toNat - 48)
  else if 97 ≤ b && b ≤ 102 then some (b.toNat - 87)
  else if 65 ≤ b && b ≤ 70 then some (b.toNat - 55)
  else none

/-- Reads four hex digits of an escape. -/
def hex4 : Reader Nat := do
  let c ← get
  match c.rest with
  | a :: b :: d :: e :: r =>
    set { c with rest := r, pos := c.pos + 4 }
    match hexValue a, hexValue b, hexValue d, hexValue e with
    | some w, some x, some y, some z => pure (((w * 16 + x) * 16 + y) * 16 + z)
    | _, _, _, _ => badHere .invalidEscape
  | r =>
    set { c with rest := [], pos := c.pos + r.length }
    badHere .eofInString

/-- The UTF-8 bytes of a code point. -/
def utf8 (n : Nat) : List UInt8 := (String.singleton (Char.ofNat n)).toUTF8.toList

/-- The next byte, or a failure at the end of a string. -/
def peekInString : Reader UInt8 := do
  match ← peek with
  | some b => pure b
  | none => badHere .eofInString

/-- Reads a `\u` escape after the `u`: one code unit, or a surrogate pair. -/
def unicodeEscape : Reader (List UInt8) := do
  let n ← hex4
  if 0xDC00 ≤ n ∧ n ≤ 0xDFFF then badHere .loneLeadingSurrogate
  else if n < 0xD800 ∨ n > 0xDBFF then pure (utf8 n)
  else
    if (← peekInString) != 92 then
      eat
      badHere .unexpectedEndOfHexEscape
    else
      eat
      if (← peekInString) != 117 then
        eat
        badHere .unexpectedEndOfHexEscape
      else
        eat
        let m ← hex4
        if m < 0xDC00 ∨ m > 0xDFFF then badHere .loneLeadingSurrogate
        else pure (utf8 (((n - 0xD800) * 1024 + (m - 0xDC00)) + 0x10000))

/-- Reads an escape after its backslash. -/
def escape : Reader (List UInt8) := do
  match ← next with
  | none => badHere .eofInString
  | some 34 => pure [34]
  | some 92 => pure [92]
  | some 47 => pure [47]
  | some 98 => pure [8]
  | some 102 => pure [12]
  | some 110 => pure [10]
  | some 114 => pure [13]
  | some 116 => pure [9]
  | some 117 => unicodeEscape
  | some _ => badHere .invalidEscape

/-- Reads the body of a string after its opening quote, given the bytes so far, reversed. -/
def stringBody : Nat → List UInt8 → Reader String
  | 0, _ => badHere .eofInString
  | fuel + 1, acc => do
    match ← peek with
    | none => badHere .eofInString
    | some 34 =>
      eat
      pure ((String.fromUTF8? ⟨acc.reverse.toArray⟩).getD "")
    | some 92 =>
      eat
      let bs ← escape
      stringBody fuel (bs.reverse ++ acc)
    | some b =>
      eat
      if b < 32 then badHere .controlCharacter else stringBody fuel (b :: acc)

/-- The bytes left, as a bound on any reading of them. -/
def fuel : Reader Nat := do return (← get).rest.length + 1

/-- Reads a string after its opening quote. -/
def stringAfterQuote : Reader String := do stringBody (← fuel) []

/-- Skips an escape after its backslash, checking only its form. -/
def skipEscape : Reader Unit := do
  match ← next with
  | none => badHere .eofInString
  | some b =>
    if b == 34 || b == 92 || b == 47 || b == 98 || b == 102 || b == 110 || b == 114 || b == 116
    then pure ()
    else if b == 117 then do let _ ← hex4; pure ()
    else badHere .invalidEscape

/-- Skips the body of a string after its opening quote. -/
def skipStringBody : Nat → Reader Unit
  | 0 => badHere .eofInString
  | fuel + 1 => do
    match ← peek with
    | none => badHere .eofInString
    | some 34 => eat
    | some 92 =>
      eat
      skipEscape
      skipStringBody fuel
    | some b => if b < 32 then badHere .controlCharacter else do eat; skipStringBody fuel

/-! ## Numbers -/

/-- The largest unsigned 64-bit integer. -/
def u64Max : Nat := Nat.pow 2 64 - 1

/-- Whether appending a digit to `n` passes a bound. -/
def passes (n d bound : Nat) : Bool := n ≥ bound / 10 && (n > bound / 10 || d > bound % 10)

/-- The nearest double to a natural number, ties to even. -/
def natToFloat (n : Nat) : Float :=
  if n < Nat.pow 2 64 then Float.ofNat n
  else
    let shift := Nat.log2 n - 52
    let q := n / Nat.pow 2 shift
    let r := n % Nat.pow 2 shift
    let half := Nat.pow 2 (shift - 1)
    let q := if r > half ∨ (r = half ∧ q % 2 = 1) then q + 1 else q
    (Float.ofNat q).scaleB shift

/-- The double nearest to a power of ten, for exponents up to 308. -/
def pow10 (k : Nat) : Float := natToFloat (Nat.pow 10 k)

/-- Clamps an integer to the 32-bit signed range. -/
def clamp32 (i : Int) : Int := max (-2147483648) (min 2147483647 i)

/-- A significand times a power of ten, by multiplying or dividing by the double nearest to
that power, dividing by `1e308` first while the power is beyond the table; too large is a
fault. -/
def scaleByTen (positive : Bool) (significand : Nat) (exponent : Int) : Reader Float :=
  let rec go : Nat → Float → Int → Reader Float
    | 0, f, _ => pure f
    | fuel + 1, f, e =>
      if e.natAbs ≤ 308 then
        if 0 ≤ e then
          let g := f * pow10 e.natAbs
          if g.isInf then badHere .numberOutOfRange else pure g
        else pure (f / pow10 e.natAbs)
      else if f == 0 then pure f
      else if 0 ≤ e then badHere .numberOutOfRange
      else go fuel (f / pow10 308) (e + 308)
  -- A significand below 2 ^ 64 reaches zero after three divisions by 1e308.
  do
    let f ← go 8 (Float.ofNat significand) exponent
    pure (if positive then f else -f)

/-- A double as a number. -/
def double (f : Float) : Number := .double f.toBits

/-- Steps over the digits ahead. -/
def skipDigits : Reader Nat := do
  let c ← get
  let n := (c.rest.takeWhile isDigitByte).length
  set { c with rest := c.rest.drop n, pos := c.pos + n }
  pure n

/-- Reads an exponent after its mark, given the significand and the exponent so far. -/
def exponentPart (positive : Bool) (significand : Nat) (start : Int) : Reader Float := do
  eat
  let positiveExp ← match ← peek with
    | some 43 => do eat; pure true
    | some 45 => do eat; pure false
    | _ => pure true
  match ← next with
  | none => badHere .eofInValue
  | some b =>
    if !isDigitByte b then badHere .invalidNumber
    else
      let rec digits : Nat → Nat → Reader (Option Nat)
        | 0, e => pure (some e)
        | fuel + 1, e => do
          match ← peek with
          | some d =>
            if isDigitByte d then
              eat
              let v := (d - 48).toNat
              if passes e v 2147483647 then pure none else digits fuel (e * 10 + v)
            else pure (some e)
          | none => pure (some e)
      match ← digits (← fuel) (b - 48).toNat with
      | some e =>
        scaleByTen positive significand (clamp32 (if positiveExp then start + e else start - e))
      | none =>
        if significand != 0 && positiveExp then badHere .numberOutOfRange
        else do
          let _ ← skipDigits
          pure (if positive then 0 else -0)

/-- Reads the digits of a significand while they fit 64 bits; the digits read and whether
the next one would not fit. -/
def significandDigits : Nat → Nat → Int → Reader (Nat × Int × Bool)
  | 0, n, k => pure (n, k, false)
  | fuel + 1, n, k => do
    match ← peek with
    | some d =>
      if isDigitByte d then
        let v := (d - 48).toNat
        if passes n v u64Max then pure (n, k, true)
        else do eat; significandDigits fuel (n * 10 + v) (k - 1)
      else pure (n, k, false)
    | none => pure (n, k, false)

/-- Reads a fraction after its point, given the significand and the exponent before it. -/
def fractionPart (positive : Bool) (significand : Nat) (before : Int) : Reader Float := do
  eat
  let (n, k, full) ← significandDigits (← fuel) significand 0
  if full then
    let _ ← skipDigits
    match ← peek with
    | some 101 | some 69 => exponentPart positive n (before + k)
    | _ => scaleByTen positive n (before + k)
  else if k == 0 then
    match ← peek with
    | some _ => badAhead .invalidNumber
    | none => badAhead .eofInValue
  else
    match ← peek with
    | some 101 | some 69 => exponentPart positive n (before + k)
    | _ => scaleByTen positive n (before + k)

/-- What follows the integer digits of a number. -/
def numberTail (positive : Bool) (significand : Nat) : Reader Number := do
  match ← peek with
  | some 46 => double <$> fractionPart positive significand 0
  | some 101 | some 69 => double <$> exponentPart positive significand 0
  | _ =>
    if positive then pure (.nat significand)
    else if significand = 0 then pure (double (-0))
    else if significand ≤ Nat.pow 2 63 then pure (.neg significand)
    else pure (double (-(Float.ofNat significand)))

/-- Reads a number after its sign: an integer while it fits 64 bits, else a double. -/
def number (positive : Bool) : Reader Number := do
  match ← next with
  | none => badHere .eofInValue
  | some 48 =>
    match ← peek with
    | some d => if isDigitByte d then badAhead .invalidNumber else numberTail positive 0
    | none => numberTail positive 0
  | some b =>
    if isDigitByte b then do
      let (n, _, full) ← significandDigits (← fuel) (b - 48).toNat 0
      if full then
        let extra ← skipDigits
        match ← peek with
        | some 46 => double <$> fractionPart positive n extra
        | some 101 | some 69 => double <$> exponentPart positive n extra
        | _ => double <$> scaleByTen positive n extra
      else numberTail positive n
    else badHere .invalidNumber

/-- Skips the exponent of a number after its mark. -/
def skipExponent : Reader Unit := do
  eat
  match ← peek with
  | some 43 | some 45 => eat
  | _ => pure ()
  match ← next with
  | some b => if isDigitByte b then do let _ ← skipDigits; pure () else badHere .invalidNumber
  | none => badHere .invalidNumber

/-- Skips a number after its sign, checking only its form. -/
def skipNumber : Reader Unit := do
  match ← next with
  | some 48 =>
    match ← peek with
    | some d => if isDigitByte d then badAhead .invalidNumber else pure ()
    | none => pure ()
  | some b => if isDigitByte b then do let _ ← skipDigits; pure () else badHere .invalidNumber
  | none => badHere .invalidNumber
  match ← peek with
  | some 46 =>
    eat
    if (← skipDigits) == 0 then badAhead .invalidNumber
    else
      match ← peek with
      | some 101 | some 69 => skipExponent
      | _ => pure ()
  | some 101 | some 69 => skipExponent
  | _ => pure ()

/-! ## Values -/

/-- Fails because the value ahead is not of the expected type: a literal, number or string
ahead is read first, a bracket is not. -/
def invalidType {α : Type} (expected : String) : Reader α := do
  let found ← match ← peek with
    | some 110 => do eat; word ull; pure Unexpected.null
    | some 116 => do eat; word rue; pure (.bool true)
    | some 102 => do eat; word alse; pure (.bool false)
    | some 45 => do
      eat
      let n ← number false
      pure n.unexpected
    | some 34 => do eat; pure (.str (← stringAfterQuote))
    | some 91 => pure .seq
    | some 123 => pure .map
    | some b =>
      if isDigitByte b then do
        let n ← number true
        pure n.unexpected
      else badAhead .expectedValue
    | none => badAhead .expectedValue
  failHere (.shape (.invalidType found expected))

/-- Closes a sequence: a closing bracket, else a trailing comma or other text is a fault. -/
def endSeq : Reader Unit := do
  match ← blank with
  | some 93 => eat
  | some 44 =>
    eat
    match ← blank with
    | some 93 => badAhead .trailingComma
    | _ => badAhead .trailingCharacters
  | some _ => badAhead .trailingCharacters
  | none => badAhead .eofInList

/-- Closes an object: a closing brace, else a comma or other text is a fault. -/
def endMap : Reader Unit := do
  match ← blank with
  | some 125 => eat
  | some 44 => badAhead .trailingComma
  | some _ => badAhead .trailingCharacters
  | none => badAhead .eofInObject

/-- Whether another item follows in a sequence, stepping over the comma before it. -/
def hasItem (first : Bool) : Reader Bool := do
  match ← blank with
  | none => badAhead .eofInList
  | some 93 => pure false
  | some 44 =>
    if first then pure true
    else do
      eat
      match ← blank with
      | some 93 => badAhead .trailingComma
      | some _ => pure true
      | none => badAhead .eofInValue
  | some _ => if first then pure true else badAhead .expectedListCommaOrEnd

/-- The key of the next entry of an object, stepping over the comma before it; `none` at the
closing brace. -/
def nextKey (first : Bool) : Reader (Option String) := do
  let ahead ← match ← blank with
    | some 125 => pure none
    | some 44 =>
      if first then pure (some (some 44)) else do eat; pure (some (← blank))
    | some b => if first then pure (some (some b)) else badAhead .expectedObjectCommaOrEnd
    | none => badAhead .eofInObject
  match ahead with
  | none => pure none
  | some (some 34) => do eat; pure (some (← stringAfterQuote))
  | some (some 125) => badAhead .trailingComma
  | some (some _) => badAhead .keyMustBeString
  | some none => badAhead .eofInValue

/-- Steps over the colon between a key and its value. -/
def colon : Reader Unit := do
  match ← blank with
  | some 58 => eat
  | some _ => badAhead .expectedColon
  | none => badAhead .eofInObject

mutual

/-- Reads **any value**, keeping every entry of an object, repeated keys included. -/
def readAny : Nat → Reader Value
  | 0 => badAhead .eofInValue
  | fuel + 1 => do
    match ← blank with
    | none => badAhead .eofInValue
    | some 110 => do eat; word ull; pure .null
    | some 116 => do eat; word rue; pure (.bool true)
    | some 102 => do eat; word alse; pure (.bool false)
    | some 45 => do eat; pure (.number (← number false))
    | some 34 => do eat; pure (.string (← stringAfterQuote))
    | some 91 =>
      enter
      eat
      let r ← attempt (anyItems fuel true)
      let e ← attempt endSeq
      leave
      .array <$> firstOf r e
    | some 123 =>
      enter
      eat
      let r ← attempt (anyEntries fuel true)
      let e ← attempt endMap
      leave
      .object <$> firstOf r e
    | some b =>
      if isDigitByte b then do pure (.number (← number true)) else badAhead .expectedValue

/-- The items of a sequence of any values. -/
def anyItems : Nat → Bool → Reader (List Value)
  | 0, _ => badAhead .eofInList
  | fuel + 1, first => do
    if ← hasItem first then
      let v ← readAny fuel
      pure (v :: (← anyItems fuel false))
    else pure []

/-- The entries of an object of any values. -/
def anyEntries : Nat → Bool → Reader (List (String × Value))
  | 0, _ => badAhead .eofInObject
  | fuel + 1, first => do
    match ← nextKey first with
    | none => pure []
    | some k =>
      colon
      let v ← readAny fuel
      pure ((k, v) :: (← anyEntries fuel false))

end

mutual

/-- **Skips a value**, checking its syntax only; numbers are not evaluated and nesting is
not limited. -/
def ignoreValue : Nat → Reader Unit
  | 0 => badAhead .eofInValue
  | fuel + 1 => do
    match ← blank with
    | none => badAhead .eofInValue
    | some 110 => do eat; word ull
    | some 116 => do eat; word rue
    | some 102 => do eat; word alse
    | some 45 => do eat; skipNumber
    | some 34 => do eat; skipStringBody (← Reader.fuel)
    | some 91 => do eat; ignoreItems fuel false
    | some 123 => do eat; ignoreEntries fuel false
    | some b => if isDigitByte b then skipNumber else badAhead .expectedValue

/-- Skips the items of a sequence, given whether a comma may come next. -/
def ignoreItems : Nat → Bool → Reader Unit
  | 0, _ => badAhead .eofInList
  | fuel + 1, afterItem => do
    match ← blank with
    | some 44 =>
      if afterItem then do eat; ignoreValue fuel; ignoreItems fuel true
      else do ignoreValue fuel; ignoreItems fuel true
    | some 93 => eat
    | some _ =>
      if afterItem then badAhead .expectedListCommaOrEnd
      else do ignoreValue fuel; ignoreItems fuel true
    | none => badAhead .eofInList

/-- Skips the entries of an object, given whether a comma may come next. -/
def ignoreEntries : Nat → Bool → Reader Unit
  | 0, _ => badAhead .eofInObject
  | fuel + 1, afterEntry => do
    match ← blank with
    | some 125 => eat
    | some 44 =>
      if afterEntry then do eat; ignoreEntry fuel
      else badAhead .keyMustBeString
    | some _ =>
      if afterEntry then badAhead .expectedObjectCommaOrEnd else ignoreEntry fuel
    | none => badAhead .eofInObject

/-- Skips one entry of an object and those after it. -/
def ignoreEntry : Nat → Reader Unit
  | 0 => badAhead .eofInObject
  | fuel + 1 => do
    match ← blank with
    | some 34 =>
      eat
      skipStringBody (← Reader.fuel)
      colon
      ignoreValue fuel
      ignoreEntries fuel true
    | some _ => badAhead .keyMustBeString
    | none => badAhead .eofInObject

end

/-! ## Values of a shape -/

/-- Reads a **string**. -/
def readString : Reader String := placed do
  match ← blank with
  | none => badAhead .eofInValue
  | some 34 => do eat; stringAfterQuote
  | some _ => invalidType "a string"

/-- Reads a **boolean**. -/
def readBool : Reader Bool := placed do
  match ← blank with
  | none => badAhead .eofInValue
  | some 116 => do eat; word rue; pure true
  | some 102 => do eat; word alse; pure false
  | some _ => invalidType "a boolean"

/-- Reads `null` as nothing, else a value. -/
def readOption {α : Type} (x : Reader α) : Reader (Option α) := do
  match ← blank with
  | some 110 => do eat; word ull; pure none
  | _ => some <$> x

/-- Reads a bracketed container: opens it, reads its inside, and closes it even after a
failure inside, the first failure winning. -/
def container {α : Type} (inside : Reader α) (close : Reader Unit) : Reader α := do
  enter
  eat
  let r ← attempt inside
  let e ← attempt close
  leave
  firstOf r e

/-- Reads a **sequence** of items. -/
def readSeq {α : Type} (item : Nat → Reader α) : Reader (List α) := placed do
  match ← blank with
  | none => badAhead .eofInValue
  | some 91 =>
    let rec items : Nat → Bool → Reader (List α)
      | 0, _ => badAhead .eofInList
      | fuel + 1, first => do
        if ← hasItem first then
          let v ← item fuel
          pure (v :: (← items fuel false))
        else pure []
    container (do items (← Reader.fuel) true) endSeq
  | some _ => invalidType "a sequence"

/-- Puts a value under a key: in place of the value the key holds, else at the end. -/
def putEntry {α : Type} (entries : List (String × α)) (k : String) (v : α) :
    List (String × α) :=
  if entries.any (·.1 == k) then entries.map fun e => if e.1 == k then (k, v) else e
  else entries ++ [(k, v)]

/-- Reads an object as a **map** from keys to values; a repeated key keeps its first place
and takes its last value. -/
def readMap {α : Type} (value : Nat → Reader α) : Reader (List (String × α)) := placed do
  match ← blank with
  | none => badAhead .eofInValue
  | some 123 =>
    let rec entries : Nat → Bool → List (String × α) → Reader (List (String × α))
      | 0, _, acc => pure acc
      | fuel + 1, first, acc => do
        match ← nextKey first with
        | none => pure acc
        | some k =>
          colon
          let v ← value fuel
          entries fuel false (putEntry acc k v)
    container (do entries (← Reader.fuel) true []) endMap
  | some _ => invalidType "a map"

/-- Reads the entries of a record: each key goes to `step` with the state so far, which reads
the colon and the value, or fails. -/
def recordEntries {σ : Type} (step : Nat → σ → String → Reader σ) : Nat → Bool → σ → Reader σ
  | 0, _, s => pure s
  | fuel + 1, first, s => do
    match ← nextKey first with
    | none => pure s
    | some k => recordEntries step fuel false (← step fuel s k)

/-- Reads a **record**: from an object by its entries, or from a sequence of its fields in
order; anything else is a value of the wrong type. -/
def readRecord {α : Type} (name : String) (fromSeq : Reader α) (fromMap : Reader α) :
    Reader α := placed do
  match ← blank with
  | none => badAhead .eofInValue
  | some 91 => container fromSeq endSeq
  | some 123 => container fromMap endMap
  | some _ => invalidType s!"struct {name}"

/-- Reads an object whose entries `fromMap` reads; anything else is of the wrong type. -/
def readEntries {α : Type} (name : String) (fromMap : Reader α) : Reader α := placed do
  match ← blank with
  | none => badAhead .eofInValue
  | some 123 => container fromMap endMap
  | some _ => invalidType s!"struct {name}"

/-- The next field of a record read from a sequence: the item, if one follows. -/
def seqField {α : Type} (first : Bool) (item : Reader α) : Reader (Option α) := do
  if ← hasItem first then some <$> item else pure none

/-- Fails: the text goes on after the value. -/
def endOfText : Reader Unit := do
  match ← blank with
  | some _ => badAhead .trailingCharacters
  | none => pure ()

end Reader

/-- Reads a whole text with a reader; the text must end after the value. -/
def readText {α : Type} (r : Reader α) (s : String) : Except ReadError α :=
  match (do let v ← r; Reader.endOfText; pure v) (Cursor.start s) with
  | .ok v _ => .ok v
  | .error e _ => .error e

end SwiftSchema.Json
