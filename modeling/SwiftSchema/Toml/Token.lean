import SwiftSchema.Source.Span

/-! # Tokens of the manifest format

The manifest is TOML. Its text is first cut into **tokens**: punctuation, runs of blanks, line
ends, comments, the four kinds of string, and **atoms** (bare words, numbers and dates, cut at
punctuation, blanks, quotes and `#`). Cutting never fails: a string without its closing quote
ends at the line end or at the end of the text, and what is wrong with it is found when its
value is decoded. Every token knows its span in bytes; the last token is an empty end mark.

* `TokenKind`, `Token` — the tokens.
* `tokenLength` — the kind of the token that starts with a character, and how many of the
  following characters it takes.
* `tokenize` — the tokens of a text, ending with `TokenKind.eof`.
-/

namespace SwiftSchema.Toml

/-- The kinds of **token**. -/
inductive TokenKind where
  | dot
  | equals
  | comma
  | openBracket
  | closeBracket
  | openBrace
  | closeBrace
  | whitespace
  | newline
  | comment
  | literalString
  | basicString
  | mlLiteralString
  | mlBasicString
  | atom
  | eof
  deriving DecidableEq, Repr

/-- A **token**: its kind, its span and its text. -/
structure Token where
  kind : TokenKind
  span : Span
  text : String
  deriving DecidableEq, Repr

/-- The number of bytes of characters in UTF-8. -/
def byteCount (cs : List Char) : Nat := cs.foldr (fun c n => c.utf8Size + n) 0

/-- Characters at which an atom ends. -/
def endsAtom (c : Char) : Bool :=
  c ∈ ['.', '=', ',', '[', ']', '{', '}', ' ', '\t', '#', '\r', '\n', '\'', '"']

/-- Up to two more of a closing quote character. -/
def extraQuotes (q : Char) : List Char → Nat
  | a :: b :: _ => if a = q then (if b = q then 2 else 1) else 0
  | [a] => if a = q then 1 else 0
  | [] => 0

/-- The length of a basic string after its opening quote: up to and with the closing quote, or
up to a line end or the end of the text; a backslash takes a following backslash or quote. -/
def basicLength : List Char → Nat
  | [] => 0
  | '"' :: _ => 1
  | '\n' :: _ => 0
  | '\\' :: '\\' :: rest => 2 + basicLength rest
  | '\\' :: '"' :: rest => 2 + basicLength rest
  | _ :: rest => 1 + basicLength rest

/-- The length of a literal string after its opening apostrophe: up to and with the closing
apostrophe, or up to a line end or the end of the text. -/
def literalLength : List Char → Nat
  | [] => 0
  | '\'' :: _ => 1
  | '\n' :: _ => 0
  | _ :: rest => 1 + literalLength rest

/-- The length of a multi-line basic string after its opening quotes: up to and with the first
three closing quotes and up to two quotes more, or to the end of the text; a backslash takes a
following backslash or quote. -/
def mlBasicLength : List Char → Nat
  | [] => 0
  | '"' :: '"' :: '"' :: rest => 3 + extraQuotes '"' rest
  | '\\' :: '\\' :: rest => 2 + mlBasicLength rest
  | '\\' :: '"' :: rest => 2 + mlBasicLength rest
  | _ :: rest => 1 + mlBasicLength rest

/-- The length of a multi-line literal string after its opening apostrophes: up to and with the
first three closing apostrophes and up to two more, or to the end of the text. -/
def mlLiteralLength : List Char → Nat
  | [] => 0
  | '\'' :: '\'' :: '\'' :: rest => 3 + extraQuotes '\'' rest
  | _ :: rest => 1 + mlLiteralLength rest

/-- The kind of the token that starts with a character, and how many of the characters after
it the token takes. -/
def tokenLength (c : Char) (more : List Char) : TokenKind × Nat :=
  match c with
  | '.' => (.dot, 0)
  | '=' => (.equals, 0)
  | ',' => (.comma, 0)
  | '[' => (.openBracket, 0)
  | ']' => (.closeBracket, 0)
  | '{' => (.openBrace, 0)
  | '}' => (.closeBrace, 0)
  | ' ' | '\t' => (.whitespace, (more.takeWhile fun c => c = ' ' ∨ c = '\t').length)
  | '#' => (.comment, (more.takeWhile fun c => c ≠ '\r' ∧ c ≠ '\n').length)
  | '\r' => (.newline, if more.head? = some '\n' then 1 else 0)
  | '\n' => (.newline, 0)
  | '\'' =>
    if more.take 2 = ['\'', '\''] then (.mlLiteralString, 2 + mlLiteralLength (more.drop 2))
    else (.literalString, literalLength more)
  | '"' =>
    if more.take 2 = ['"', '"'] then (.mlBasicString, 2 + mlBasicLength (more.drop 2))
    else (.basicString, basicLength more)
  | _ => (.atom, (more.takeWhile fun c => !endsAtom c).length)

/-- The tokens of a text from a byte offset on, ending with the end mark. -/
def tokensFrom (pos : Nat) : List Char → List Token
  | [] => [⟨.eof, ⟨pos, 0⟩, ""⟩]
  | c :: more =>
    let (kind, n) := tokenLength c more
    let piece := c :: more.take n
    ⟨kind, ⟨pos, byteCount piece⟩, String.ofList piece⟩ :: tokensFrom (pos + byteCount piece) (more.drop n)
termination_by cs => cs.length
decreasing_by simp only [List.length_drop, List.length_cons]; omega

/-- The **tokens of a text**; a byte order mark at its start is passed over. -/
def tokenize (s : String) : List Token :=
  match s.toList with
  | '\uFEFF' :: rest => tokensFrom 3 rest
  | cs => tokensFrom 0 cs

end SwiftSchema.Toml
