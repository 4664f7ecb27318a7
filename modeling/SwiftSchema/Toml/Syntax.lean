import SwiftSchema.Toml.Token
import SwiftSchema.Toml.Error

/-! # The shape of a manifest text

The first reading of a TOML text finds its **expressions**: table headers, array-of-tables
headers and key/value pairs, each with its keys and value still as written. Keys, strings,
numbers and dates are decoded later, and tables are built later too; this reading only checks
how the tokens follow each other, and stops at the first fault. A key that is missing where one
belongs is recorded as an empty bare key at that place, which decoding then refuses.

* `Raw` — a key or scalar as written, with its span and quoting.
* `RawValue`, `Expression` — values and expressions as written.
* `expressions` — the expressions of a token list, or the first fault of its shape.
-/

namespace SwiftSchema.Toml

/-- How a string is **quoted**. -/
inductive Quoting where
  | literal
  | basic
  | mlLiteral
  | mlBasic
  deriving DecidableEq, Repr

/-- A key or scalar **as written**: its text, its span, and its quoting (none when bare). -/
structure Raw where
  text : String
  span : Span
  quoting : Option Quoting
  deriving DecidableEq, Repr

/-- A **value as written**: a scalar, an array of values, or an inline table of key paths and
values, each of the last two with its span from bracket to bracket. -/
inductive RawValue where
  | scalar (raw : Raw)
  | array (span : Span) (items : List RawValue)
  | inline (span : Span) (entries : List (List Raw × RawValue))
  deriving Repr

/-- An **expression** of a TOML text. -/
inductive Expression where
  /-- A table header `[a.b]`, with its span from bracket to bracket. -/
  | table (keys : List Raw) (span : Span)
  /-- An array-of-tables header `[[a.b]]`. -/
  | tables (keys : List Raw) (span : Span)
  /-- A key/value pair `a.b = v`. -/
  | keyval (keys : List Raw) (value : RawValue)
  deriving Repr

/-- The quoting of a token that can be a key, none for a bare word. -/
def quotingOf : TokenKind → Option Quoting
  | .literalString => some .literal
  | .basicString => some .basic
  | .mlLiteralString => some .mlLiteral
  | .mlBasicString => some .mlBasic
  | _ => none

/-- Whether a token can be a key: a string or a bare word. -/
def TokenKind.isKey : TokenKind → Bool
  | .literalString | .basicString | .mlLiteralString | .mlBasicString | .atom => true
  | _ => false

/-- Whether a token is neither blank, a comment, a line end nor the end mark. -/
def TokenKind.isSolid : TokenKind → Bool
  | .whitespace | .comment | .newline | .eof => false
  | _ => true

/-- A token as a key or scalar as written. -/
def Token.raw (t : Token) : Raw := ⟨t.text, t.span, quotingOf t.kind⟩

/-- The empty bare key that stands for a missing one. -/
def missingKey (place : Span) : Raw := ⟨"", place.before, none⟩

/-- Tokens left to read, and the span of the last solid token read. -/
structure Cursor where
  rest : List Token
  last : Span := ⟨0, 0⟩

/-- Reading the expressions of a token list. -/
abbrev Shape := StateT Cursor (Except ReadError)

namespace Shape

/-- The next token; the end mark once the tokens are used up. -/
def peek : Shape Token := do
  let c ← get
  match c.rest with
  | t :: _ => pure t
  | [] => pure ⟨.eof, c.last.after, ""⟩

/-- The token after the next one. -/
def peekSecond : Shape (Option Token) := do
  pure ((← get).rest.drop 1).head?

/-- Pass over the next token. -/
def bump : Shape Unit := modify fun c =>
  match c.rest with
  | t :: ts => ⟨ts, if t.kind.isSolid then t.span else c.last⟩
  | [] => c

/-- Pass over blanks. -/
def blanks : Shape Unit := modify fun c => { c with rest := c.rest.dropWhile (·.kind = .whitespace) }

/-- Stop at a malformed fault. -/
def fault (span : Span) (description : String) (expected : List Expected) : Shape α :=
  throw (malformedAt span description expected)

/-- Characters allowed in a comment: tab, visible ASCII and all that is not ASCII. -/
def isCommentChar (c : Char) : Bool :=
  c = '\t' ∨ (32 ≤ c.toNat ∧ c.toNat < 127) ∨ 128 ≤ c.toNat

/-- The first character of a text that breaks a rule, with its span, from a byte offset on. -/
def firstBad (ok : Char → Bool) : List Char → Nat → Option Span
  | [], _ => none
  | c :: cs, pos => if ok c then firstBad ok cs (pos + c.utf8Size) else some ⟨pos, c.utf8Size⟩

/-- Pass over a comment, refusing control characters in it. -/
def comment (t : Token) : Shape Unit := do
  match firstBad isCommentChar t.text.toList t.span.offset with
  | some sp => fault sp "invalid comment character" [.description "printable characters"]
  | none => bump

/-- Pass over a line end, refusing a carriage return without a line feed. -/
def newline (t : Token) : Shape Unit :=
  if t.text = "\r" then fault t.span "carriage return must be followed by newline" [.literal "\n"]
  else bump

/-- The keys after the first of a dotted key. Each dot needs a key after it; where it has none,
a missing key stands there, and the result says whether every dot had one. -/
def keyRest : Nat → Bool → List Raw → Shape (List Raw × Bool)
  | 0, _, acc => pure (acc, true)
  | fuel + 1, needKey, acc => do
    blanks
    let t ← peek
    if !needKey then
      if t.kind = .dot then bump; keyRest fuel true acc
      else pure (acc, true)
    else if t.kind.isKey then bump; keyRest fuel false (acc ++ [t.raw])
    else if t.kind = .dot then bump; keyRest fuel true (acc ++ [missingKey t.span])
    else pure (acc ++ [missingKey t.span], false)

/-- After a value or header: blanks, then a comment, a line end or the end of the text. -/
def lineEnd : Nat → Shape Unit
  | 0 => pure ()
  | fuel + 1 => do
    let t ← peek
    match t.kind with
    | .whitespace => bump; lineEnd fuel
    | .comment => comment t
    | .newline => newline t
    | .eof => pure ()
    | _ => fault t.span.before "unexpected key or value" [.literal "\n", .literal "#"]

/-- Pass over the tokens up to the line end. -/
def skipLine : Nat → Shape Unit
  | 0 => pure ()
  | fuel + 1 => do
    let t ← peek
    if t.kind = .newline ∨ t.kind = .eof then pure ()
    else
      bump
      skipLine fuel

/-- Whether a text is a full date: four digits, a dash, two digits, a dash, two digits. -/
def isFullDate (s : String) : Bool :=
  match s.toList with
  | [a, b, c, d, '-', e, f, '-', g, h] => [a, b, c, d, e, f, g, h].all Char.isDigit
  | _ => false

/-- Whether a text starts as a time: two digits and a colon. -/
def startsAsTime (s : String) : Bool :=
  match s.toList with
  | a :: b :: ':' :: _ => a.isDigit && b.isDigit
  | _ => false

/-- The atoms and dots that follow each other without a gap, joined to a scalar. -/
def joinAtoms : Nat → Raw → Shape Raw
  | 0, r => pure r
  | fuel + 1, r => do
    let t ← peek
    if t.kind = .atom ∨ t.kind = .dot then
      bump; joinAtoms fuel ⟨r.text ++ t.text, r.span.join t.span, none⟩
    else pure r

/-- A bare scalar: atoms and dots joined, and a full date joined through one space to a time
that follows it. -/
def bareScalar (fuel : Nat) (first : Token) : Shape Raw := do
  bump
  let r ← joinAtoms fuel first.raw
  let t ← peek
  let next ← peekSecond
  match next with
  | some n =>
    if isFullDate r.text ∧ t.kind = .whitespace ∧ t.text = " " ∧ n.kind = .atom ∧ startsAsTime n.text then
      bump; bump
      joinAtoms fuel ⟨r.text ++ " " ++ n.text, r.span.join n.span, none⟩
    else pure r
  | none => pure r

/-- States of reading an inline table. -/
inductive InlineState where
  | needsKey
  | needsEquals
  | needsValue
  | needsComma
  deriving DecidableEq

/-- What each state of an inline table expects. -/
def InlineState.expected : InlineState → List Expected
  | .needsKey => [.description "key"]
  | .needsEquals => [.literal "="]
  | .needsValue => [.description "value"]
  | .needsComma => [.literal ","]

mutual

/-- A **value**, at the next token. A line end or comma where the value belongs leaves an
empty bare scalar, which decoding refuses. -/
def value : Nat → Shape RawValue
  | 0 => pure (.array ⟨0, 0⟩ [])
  | fuel + 1 => do
    let t ← peek
    match t.kind with
    | .comment | .comma | .newline | .eof | .whitespace => pure (.scalar ⟨"", t.span.before, none⟩)
    | .equals => fault t.span "extra `=`" []
    | .openBrace => bump; inlineTable fuel t.span .needsKey [] []
    | .closeBrace => fault t.span.before "missing inline table opening" [.literal "\x7b"]
    | .openBracket => bump; array fuel t.span true []
    | .closeBracket => fault t.span.before "missing array opening" [.literal "["]
    | .atom | .dot => pure (.scalar (← bareScalar fuel t))
    | _ => bump; pure (.scalar t.raw)

/-- The rest of an **array** after its opening bracket: values with commas between them, and
blanks, line ends and comments anywhere. -/
def array : Nat → Span → Bool → List RawValue → Shape RawValue
  | 0, o, _, items => pure (.array o items)
  | fuel + 1, o, needsValue, items => do
    let t ← peek
    match t.kind with
    | .comment => comment t; array fuel o needsValue items
    | .whitespace => bump; array fuel o needsValue items
    | .newline => newline t; array fuel o needsValue items
    | .eof => do
      let c ← get
      fault c.last.after "unclosed array" [.literal "]"]
    | .comma =>
      if needsValue then fault t.span "extra comma in array" [.description "value"]
      else bump; array fuel o true items
    | .closeBracket => bump; pure (.array (o.join t.span) items)
    | _ =>
      if needsValue then
        let v ← value fuel
        array fuel o false (items ++ [v])
      else fault t.span.before "missing comma between array elements" [.literal ","]

/-- The rest of an **inline table** after its opening brace: key/value pairs with commas
between them, all on one line. -/
def inlineTable : Nat → Span → InlineState → List Raw → List (List Raw × RawValue) → Shape RawValue
  | 0, o, _, _, entries => pure (.inline o entries)
  | fuel + 1, o, st, keys, entries => do
    let t ← peek
    match t.kind with
    | .comment => fault t.span "comments are unsupported in inline tables" []
    | .newline => fault t.span "newlines are unsupported in inline tables" []
    | .whitespace => bump; inlineTable fuel o st keys entries
    | .eof => do
      let c ← get
      fault c.last.after "unclosed inline table" [.literal "\x7d"]
    | .comma =>
      if st = .needsComma then bump; inlineTable fuel o .needsKey [] entries
      else fault t.span.before "extra comma in inline table" st.expected
    | .equals =>
      match st with
      | .needsKey => bump; inlineTable fuel o .needsValue [missingKey t.span] entries
      | .needsEquals => bump; inlineTable fuel o .needsValue keys entries
      | _ => fault t.span.before "extra assignment between key-value pairs" st.expected
    | .closeBrace =>
      match st with
      | .needsKey | .needsComma => bump; pure (.inline (o.join t.span) entries)
      | .needsEquals => fault t.span.before "missing assignment between key-value pairs" st.expected
      | .needsValue => fault t.span.before "missing value" st.expected
    | _ =>
      match st with
      | .needsKey =>
        if t.kind.isKey then
          bump
          let (ks, _) ← keyRest fuel false [t.raw]
          inlineTable fuel o .needsEquals ks entries
        else if t.kind = .dot then
          bump
          let (ks, _) ← keyRest fuel true [missingKey t.span]
          inlineTable fuel o .needsEquals ks entries
        else fault t.span.before "missing key for inline table element" st.expected
      | .needsEquals => fault t.span.before "missing assignment between key-value pairs" st.expected
      | .needsValue =>
        let v ← value fuel
        inlineTable fuel o .needsComma [] (entries ++ [(keys, v)])
      | .needsComma => fault t.span.before "missing comma between key-value pairs" st.expected

end

/-- A **header** after its opening bracket: `[a.b]` or, with a second bracket, `[[a.b]]`. -/
def header (fuel : Nat) (o : Token) : Shape Expression := do
  bump
  let second ← peek
  let isArray := second.kind = .openBracket
  if isArray then bump
  let opening := if isArray then o.span.join second.span else o.span
  blanks
  let (keys, valid) ← keyRest fuel true []
  blanks
  let t ← peek
  if t.kind = .closeBracket then
    bump
    if isArray then
      let t2 ← peek
      if t2.kind = .closeBracket then
        bump; lineEnd fuel; pure (.tables keys (opening.join t2.span))
      else fault t.span.after "unclosed array table" [.literal "]"]
    else
      lineEnd fuel; pure (.table keys (opening.join t.span))
  else if valid then
    let c ← get
    if isArray then fault c.last.after "unclosed array table" [.literal "]]"]
    else fault c.last.after "unclosed table" [.literal "]"]
  else
    skipLine fuel
    pure (if isArray then .tables keys opening else .table keys opening)

/-- A **key/value pair** from its keys on: the equals sign, the value, the line end. -/
def keyval (fuel : Nat) (keys : List Raw) : Shape Expression := do
  blanks
  let t ← peek
  if t.kind ≠ .equals then fault t.span.before "key with no value" [.literal "="]
  bump
  blanks
  let v ← value fuel
  lineEnd fuel
  pure (.keyval keys v)

/-- The expressions of the rest of a text, in order. -/
def document : Nat → List Expression → Shape (List Expression)
  | 0, acc => pure acc
  | fuel + 1, acc => do
    let t ← peek
    match t.kind with
    | .eof => pure acc
    | .whitespace => bump; document fuel acc
    | .newline => newline t; document fuel acc
    | .comment => comment t; document fuel acc
    | .openBracket => document fuel (acc ++ [← header fuel t])
    | .closeBracket => fault t.span.before "missing table open" [.literal "["]
    | .equals => document fuel (acc ++ [← keyval fuel [missingKey t.span]])
    | .dot =>
      bump
      let (keys, _) ← keyRest fuel true [missingKey t.span]
      document fuel (acc ++ [← keyval fuel keys])
    | .comma | .openBrace | .closeBrace => fault t.span.before "invalid key-value pair" [.description "key"]
    | _ =>
      bump
      let (keys, _) ← keyRest fuel false [t.raw]
      document fuel (acc ++ [← keyval fuel keys])

end Shape

/-- The **expressions** of a token list, or the first fault of its shape. -/
def expressions (tokens : List Token) : Except ReadError (List Expression) :=
  (Shape.document (tokens.length + 1) [] |>.run' ⟨tokens, ⟨0, 0⟩⟩)

end SwiftSchema.Toml
