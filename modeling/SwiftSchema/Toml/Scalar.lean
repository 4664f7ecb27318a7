import SwiftSchema.Toml.Syntax
import SwiftSchema.Toml.Value
import SwiftSchema.Decimal.Nearest

/-! # Decoding keys and scalars

Keys and scalar values are decoded from their text as written. A bare key may hold letters,
digits, `-` and `_` only; a quoted key is a string. A value is a string of one of the four
quotings, a boolean, an integer (decimal, or hexadecimal, octal or binary after `0x`, `0o`,
`0b`), a float (a decimal with a fraction or an exponent, `inf` or `nan`, each with an optional
sign; it reads as the nearest double) or a date and time. Underscores may stand between digits.

* `decodeKey` — the name of a key.
* `decodeScalar` — the value of a scalar.
* `Datetime.text` — the normal form of a date and time: `1979-05-27T07:32:00Z`.
-/

namespace SwiftSchema.Toml

open SwiftSchema.Decimal

/-- The span of the characters from a byte offset on. -/
def spanOf (pos : Nat) (cs : List Char) : Span := ⟨pos, byteCount cs⟩

/-- The character a one-letter escape stands for. -/
def escapeOf? : Char → Option Char
  | 'b' => some '\x08'
  | 't' => some '\t'
  | 'n' => some '\n'
  | 'f' => some '\x0c'
  | 'r' => some '\r'
  | '"' => some '"'
  | '\\' => some '\\'
  | _ => none

/-- The value of hex digits. -/
def hexValue? (cs : List Char) : Option Nat :=
  cs.foldl (fun acc c => acc.bind fun n =>
    if c.isDigit then some (16 * n + (c.toNat - 48))
    else if 'a' ≤ c ∧ c ≤ 'f' then some (16 * n + (c.toNat - 87))
    else if 'A' ≤ c ∧ c ≤ 'F' then some (16 * n + (c.toNat - 55))
    else none) (some 0)

/-- Whether a number is a Unicode scalar value: below `0x110000` and not a surrogate. -/
def isScalarValue (n : Nat) : Bool := n < 0x110000 ∧ ¬(0xD800 ≤ n ∧ n < 0xE000)

/-- Characters a string may hold as they are: tab, and all but the control characters. -/
def isStringChar (c : Char) : Bool := c = '\t' ∨ (32 ≤ c.toNat ∧ c.toNat ≠ 127)

/-- Blanks: space and tab. -/
def isBlank (c : Char) : Bool := c = ' ' ∨ c = '\t'

/-- The characters after a line-ending backslash, once blanks and line ends are passed, if a
line end comes before anything else. -/
def afterLineEscape (cs : List Char) : Option (List Char) :=
  match cs.dropWhile isBlank with
  | '\n' :: rest | '\r' :: '\n' :: rest => some (rest.dropWhile fun c => isBlank c ∨ c = '\n' ∨ c = '\r')
  | _ => none

/-- The names of the escapes, for a fault. -/
def escapesExpected : List Expected :=
  ["b", "f", "n", "r", "t", "u", "U", "\\", "\""].map .literal

/-- The characters of the body of a basic string from a byte offset on, with its escapes
replaced; a multi-line body also holds line ends and line-ending backslashes. -/
def basicChars (what : String) (multiline : Bool) (pos : Nat) : List Char → Except ReadError (List Char)
  | [] => .ok []
  | '\\' :: rest =>
    match rest with
    | c :: more =>
      if c = 'u' ∨ c = 'U' then
        let n := if c = 'u' then 4 else 8
        let digits := more.take n
        match hexValue? digits with
        | some v =>
          if digits.length = n ∧ isScalarValue v then
            (Char.ofNat v :: ·) <$> basicChars what multiline (pos + 2 + n) (more.drop n)
          else .error (malformedAt (spanOf (pos + 2) digits) "invalid unicode escape" [.description "unicode scalar value"])
        | none => .error (malformedAt (spanOf (pos + 2) digits) "invalid unicode escape" [.description "hex digits"])
      else
      match escapeOf? c with
      | some e => (e :: ·) <$> basicChars what multiline (pos + 2) more
      | none =>
        match (if multiline then afterLineEscape (c :: more) else none) with
        | some after =>
          if after.length ≤ more.length then
            basicChars what multiline (pos + 1 + byteCount (c :: more) - byteCount after) after
          else .ok []
        | none => .error (malformedAt (spanOf (pos + 1) [c]) "invalid escape sequence" escapesExpected)
    | [] => .error (malformedAt ⟨pos + 1, 0⟩ "invalid escape sequence" escapesExpected)
  | '\r' :: '\n' :: rest =>
    if multiline then ('\r' :: '\n' :: ·) <$> basicChars what multiline (pos + 2) rest
    else .error (malformedAt ⟨pos, 0⟩ what [.description "non-double-quote visible characters"])
  | c :: rest =>
    if isStringChar c ∨ (multiline ∧ c = '\n') then (c :: ·) <$> basicChars what multiline (pos + c.utf8Size) rest
    else .error (malformedAt ⟨pos, 0⟩ what [.description "non-double-quote visible characters"])
termination_by cs => cs.length
decreasing_by
  all_goals simp_all only [List.length_cons, List.length_drop]
  all_goals omega

/-- The characters of the body of a literal string from a byte offset on: all but control
characters, and in a multi-line body line ends too. -/
def literalChars (what : String) (multiline : Bool) : List Char → Nat → Except ReadError (List Char)
  | [], _ => .ok []
  | '\r' :: '\n' :: rest, pos =>
    if multiline then ('\r' :: '\n' :: ·) <$> literalChars what multiline rest (pos + 2)
    else .error (malformedAt ⟨pos, 0⟩ what [.description "non-single-quote visible characters"])
  | c :: rest, pos =>
    if isStringChar c ∨ (multiline ∧ c = '\n') then (c :: ·) <$> literalChars what multiline rest (pos + c.utf8Size)
    else .error (malformedAt ⟨pos, 0⟩ what [.description "non-single-quote visible characters"])

/-- The body between the quotes of a string: the opening quotes must be there, the closing
ones are a fault when missing. -/
def between (r : Raw) (quote : String) (what : String) : Except ReadError (List Char) :=
  let cs := r.text.toList
  let q := quote.toList
  let inner := cs.drop q.length
  if inner.length ≥ q.length ∧ inner.drop (inner.length - q.length) = q then
    .ok (inner.take (inner.length - q.length))
  else .error (malformedAt r.span.after what [.literal quote])

/-- A multi-line body without the line end right after its opening quotes. -/
def trimFirstLine : List Char → List Char × Nat
  | '\n' :: rest => (rest, 1)
  | '\r' :: '\n' :: rest => (rest, 2)
  | cs => (cs, 0)

/-- The **text of a string** of any quoting. -/
def decodeString (r : Raw) (q : Quoting) : Except ReadError String := do
  let start := r.span.offset
  match q with
  | .basic =>
    let body ← between r "\"" "invalid basic string"
    String.ofList <$> basicChars "invalid basic string" false (start + 1) body
  | .literal =>
    let body ← between r "'" "invalid literal string"
    String.ofList <$> literalChars "invalid literal string" false body (start + 1)
  | .mlBasic =>
    let body ← between r "\"\"\"" "invalid multi-line basic string"
    let (body, cut) := trimFirstLine body
    String.ofList <$> basicChars "invalid multi-line basic string" true (start + 3 + cut) body
  | .mlLiteral =>
    let body ← between r "'''" "invalid multi-line literal string"
    let (body, cut) := trimFirstLine body
    String.ofList <$> literalChars "invalid multi-line literal string" true body (start + 3 + cut)

/-- Characters of a bare key: ASCII letters and digits, `-` and `_`. -/
def isBareKeyChar (c : Char) : Bool := c.isAlphanum ∨ c = '-' ∨ c = '_'

/-- What a bare key may hold, for a fault. -/
def bareKeyExpected : List Expected :=
  [.description "letters", .description "numbers", .literal "-", .literal "_"]

/-- The first character of a text from a byte offset on that breaks a rule, with its span. -/
def firstBreaking (ok : Char → Bool) : List Char → Nat → Option Span
  | [], _ => none
  | c :: cs, pos => if ok c then firstBreaking ok cs (pos + c.utf8Size) else some ⟨pos, c.utf8Size⟩

/-- The **name of a key**: a bare key as it is, a quoted one as its string; a multi-line string
is no key. -/
def decodeKey (r : Raw) : Except ReadError String :=
  match r.quoting with
  | none =>
    if r.text.isEmpty then .error (malformedAt r.span "unquoted keys cannot be empty" bareKeyExpected)
    else
      match firstBreaking isBareKeyChar r.text.toList r.span.offset with
      | some sp => .error (malformedAt sp "invalid unquoted key" bareKeyExpected)
      | none => .ok r.text
  | some .mlLiteral =>
    .error (malformedAt r.span "keys cannot be multi-line literal strings"
      [.description "basic string", .description "literal string"])
  | some .mlBasic =>
    .error (malformedAt r.span "keys cannot be multi-line basic strings"
      [.description "basic string", .description "literal string"])
  | some q => decodeString r q

/-! ## Numbers -/

/-- Digits with single underscores between them, in a radix: their value, or none when the text
is empty, holds another character, or has an underscore at an end or beside another. -/
def digitsValue (radix : Nat) (cs : List Char) : Option Nat :=
  let digit (c : Char) : Option Nat :=
    if c.isDigit then some (c.toNat - 48)
    else if 'a' ≤ c ∧ c ≤ 'z' then some (c.toNat - 87)
    else if 'A' ≤ c ∧ c ≤ 'Z' then some (c.toNat - 55)
    else none
  let ok := cs.head? ≠ some '_' ∧ cs.getLast? ≠ some '_' ∧ !(cs.zip cs.tail).any (· = ('_', '_'))
  if cs.isEmpty ∨ !ok then none
  else
    (cs.filter (· ≠ '_')).foldl (fun acc c => acc.bind fun n =>
      (digit c).bind fun d => if d < radix then some (radix * n + d) else none) (some 0)

/-- The word of an infinity. -/
def infinityBits (negative : Bool) : Nat := (if negative then Nat.pow 2 63 else 0) + 2047 * Nat.pow 2 52

/-- The word of a quiet NaN. -/
def nanBits (negative : Bool) : Nat := (if negative then Nat.pow 2 63 else 0) + 2047 * Nat.pow 2 52 + Nat.pow 2 51

/-- A decimal integer part: `0`, or digits without a leading zero. -/
def decimalPart (cs : List Char) : Option Nat :=
  if cs = ['0'] then some 0
  else if cs.head? = some '0' then none
  else digitsValue 10 cs

/-- A float from its text without sign: an integer part, then a fraction after `.`, an
exponent after `e` or `E`, or both. -/
def floatValue (negative : Bool) (cs : List Char) : Option Nat :=
  let (whole, rest) := cs.span fun c => c ≠ '.' ∧ c ≠ 'e' ∧ c ≠ 'E'
  let (frac, expo) := match rest with
    | '.' :: more =>
      let (f, e) := more.span fun c => c ≠ 'e' ∧ c ≠ 'E'
      (some f, e)
    | _ => (none, rest)
  let exponent : Option Int := match expo with
    | [] => some 0
    | _ :: '+' :: ds => (digitsValue 10 ds).map Int.ofNat
    | _ :: '-' :: ds => (digitsValue 10 ds).map fun n => -(n : Int)
    | _ :: ds => (digitsValue 10 ds).map Int.ofNat
  match decimalPart whole, exponent with
  | some _, some x =>
    let fracDigits := (frac.getD []).filter (· ≠ '_')
    let fracOk := match frac with
      | some f => (digitsValue 10 f).isSome
      | none => true
    if !fracOk then none
    else
      let m := (digitsValue 10 (whole ++ fracDigits)).getD 0
      let k : Int := x - fracDigits.length
      if 0 ≤ k then some (nearestBits negative (m * Nat.pow 10 k.toNat) 1)
      else some (nearestBits negative m (Nat.pow 10 (-k).toNat))
  | _, _ => none

/-- The largest magnitude of a 64-bit integer of a sign. -/
def integerLimit (negative : Bool) : Nat := if negative then Nat.pow 2 63 else Nat.pow 2 63 - 1

/-- A decimal integer or a float, from its text without sign. -/
def signedNumber (r : Raw) (negative : Bool) (cs : List Char) : Except ReadError Item :=
  if cs.any fun c => c = '.' ∨ c = 'e' ∨ c = 'E' then
    match floatValue negative cs with
    | some bits => .ok (.float bits r.span)
    | none => .error ⟨.malformed "invalid float" none, some r.span⟩
  else
    match decimalPart cs with
    | some n =>
      if n ≤ integerLimit negative then .ok (.integer (if negative then -(n : Int) else n) r.span)
      else .error ⟨.malformed "integer number overflowed" none, some r.span⟩
    | none => .error ⟨.malformed "invalid integer" none, some r.span⟩

/-! ## Dates and times -/

/-- A **date and time**: a date, a time, or both, and an offset from UTC in minutes or `Z`. -/
structure Datetime where
  date : Option (Nat × Nat × Nat)
  time : Option (Nat × Nat × Nat × List Char)
  offset : Option (Option Int)

/-- A number in at least two digits. -/
def pad2 (n : Nat) : String := if n < 10 then "0" ++ toString n else toString n

/-- A number in at least four digits. -/
def pad4 (n : Nat) : String := String.ofList (List.replicate (4 - (toString n).length) '0') ++ toString n

/-- The fraction of a second: its first nine digits, without the zeros at the end. -/
def fractionText (ds : List Char) : String :=
  let nine := (ds.take 9 ++ List.replicate (9 - ds.length) '0').reverse.dropWhile (· = '0') |>.reverse
  if nine.isEmpty then "" else "." ++ String.ofList nine

/-- The **normal form** of a date and time: `YYYY-MM-DD`, `T`, `HH:MM:SS` with the fraction, and
`Z` or a signed `HH:MM` offset. -/
def Datetime.text (d : Datetime) : String :=
  let date := match d.date with
    | some (y, m, dd) => pad4 y ++ "-" ++ pad2 m ++ "-" ++ pad2 dd
    | none => ""
  let time := match d.time with
    | some (h, mi, s, f) => (if d.date.isSome then "T" else "") ++ pad2 h ++ ":" ++ pad2 mi ++ ":" ++ pad2 s ++ fractionText f
    | none => ""
  let offset := match d.offset with
    | some none => "Z"
    | some (some m) => (if m < 0 then "-" else "+") ++ pad2 (m.natAbs / 60) ++ ":" ++ pad2 (m.natAbs % 60)
    | none => ""
  date ++ time ++ offset

/-- The value of two digits. -/
def twoDigits (a b : Char) : Option Nat :=
  if a.isDigit ∧ b.isDigit then some (10 * (a.toNat - 48) + (b.toNat - 48)) else none

/-- The days of a month of a year. -/
def daysIn (y m : Nat) : Nat :=
  if m = 2 then (if y % 4 = 0 ∧ (y % 100 ≠ 0 ∨ y % 400 = 0) then 29 else 28)
  else if m = 4 ∨ m = 6 ∨ m = 9 ∨ m = 11 then 30 else 31

/-- A time `HH:MM:SS` with an optional fraction, and the characters after it. -/
def timeOf (cs : List Char) : Option ((Nat × Nat × Nat × List Char) × List Char) :=
  match cs with
  | h1 :: h2 :: ':' :: m1 :: m2 :: ':' :: s1 :: s2 :: rest => do
    let h ← twoDigits h1 h2
    let mi ← twoDigits m1 m2
    let s ← twoDigits s1 s2
    if h > 23 ∨ mi > 59 ∨ s > 60 then none
    match rest with
    | '.' :: more =>
      let ds := more.takeWhile Char.isDigit
      if ds.isEmpty then none
      pure ((h, mi, s, ds), more.dropWhile Char.isDigit)
    | _ => pure ((h, mi, s, []), rest)
  | _ => none

/-- An offset: `Z`, or a sign and `HH:MM`, in minutes. -/
def offsetOf? : List Char → Option (Option Int)
  | ['Z'] | ['z'] => some none
  | [sign, h1, h2, ':', m1, m2] => do
    let h ← twoDigits h1 h2
    let m ← twoDigits m1 m2
    if h > 23 ∨ m > 59 then none
    let minutes : Int := 60 * h + m
    if sign = '+' then pure (some minutes) else if sign = '-' then pure (some (-minutes)) else none
  | _ => none

/-- A date and time from its text. -/
def datetimeOf (cs : List Char) : Option Datetime :=
  match cs with
  | y1 :: y2 :: y3 :: y4 :: '-' :: m1 :: m2 :: '-' :: d1 :: d2 :: rest => do
    let yh ← twoDigits y1 y2
    let yl ← twoDigits y3 y4
    let m ← twoDigits m1 m2
    let d ← twoDigits d1 d2
    let y := 100 * yh + yl
    if m < 1 ∨ m > 12 ∨ d < 1 ∨ d > daysIn y m then none
    match rest with
    | [] => pure ⟨some (y, m, d), none, none⟩
    | sep :: more =>
      if sep = 'T' ∨ sep = 't' ∨ sep = ' ' then
        let (time, after) ← timeOf more
        if after.isEmpty then pure ⟨some (y, m, d), some time, none⟩
        else pure ⟨some (y, m, d), some time, some (← offsetOf? after)⟩
      else none
  | _ => do
    let (time, after) ← timeOf cs
    if after.isEmpty then pure ⟨none, some time, none⟩ else none

/-- Whether a bare text has the start of a date (`DDDD-`) or of a time (`DD:`). -/
def looksLikeDatetime (cs : List Char) : Bool :=
  match cs with
  | a :: b :: c :: d :: '-' :: _ => [a, b, c, d].all Char.isDigit
  | a :: b :: ':' :: _ => a.isDigit && b.isDigit
  | _ => false

/-! ## Scalars -/

/-- The fault of a bare word that is no value. -/
def unquotedFault (r : Raw) : ReadError :=
  malformedAt r.span "string values must be quoted" [.description "literal string"]

/-- A word that must be spelled exactly, such as `true`. -/
def symbol (r : Raw) (word : String) (kind : String) (v : Item) : Except ReadError Item :=
  if r.text = word then .ok v
  else if r.text.toList.contains ' ' then .error (unquotedFault r)
  else .error (malformedAt r.span ("invalid " ++ kind) [.literal word])

/-- The **value of a scalar** as written. -/
def decodeScalar (r : Raw) : Except ReadError Item :=
  match r.quoting with
  | some q => (Item.string · r.span) <$> decodeString r q
  | none =>
    match r.text.toList with
    | [] => .error (unquotedFault r)
    | sign :: rest =>
      if sign = '+' ∨ sign = '-' then
        let negative := sign = '-'
        if rest = ['i', 'n', 'f'] then .ok (.float (infinityBits negative) r.span)
        else if rest = ['n', 'a', 'n'] then .ok (.float (nanBits negative) r.span)
        else if rest.head?.any Char.isDigit then signedNumber r negative rest
        else .error (unquotedFault r)
      else if sign = 't' ∨ sign = 'T' then symbol r "true" "boolean" (.boolean true r.span)
      else if sign = 'f' ∨ sign = 'F' then symbol r "false" "boolean" (.boolean false r.span)
      else if sign = 'i' ∨ sign = 'I' then symbol r "inf" "float" (.float (infinityBits false) r.span)
      else if sign = 'n' ∨ sign = 'N' then symbol r "nan" "float" (.float (nanBits false) r.span)
      else if sign.isDigit ∨ sign = '_' ∨ sign = '.' then
        let cs := sign :: rest
        if looksLikeDatetime cs then
          match datetimeOf cs with
          | some d => .ok (.datetime d.text r.span)
          | none => .error ⟨.malformed "invalid datetime" none, some r.span⟩
        else
          match cs with
          | '0' :: 'x' :: ds => radix 16 ds
          | '0' :: 'o' :: ds => radix 8 ds
          | '0' :: 'b' :: ds => radix 2 ds
          | _ => signedNumber r false cs
      else .error (unquotedFault r)
where
  /-- An integer in a radix after its prefix. -/
  radix (base : Nat) (ds : List Char) : Except ReadError Item :=
    match digitsValue base ds with
    | some n =>
      if n ≤ integerLimit false then .ok (.integer n r.span)
      else .error ⟨.malformed "integer number overflowed" none, some r.span⟩
    | none => .error ⟨.malformed "invalid integer" none, some r.span⟩

end SwiftSchema.Toml
