/-! # Text that is safe inside a literal or a comment

Descriptions are embedded in string literals and block comments of generated code. Quotes are
dropped, comment delimiters are broken apart with an underscore, and line breaks and tabs
become spaces.

* `dropQuotes`, `breakComments` — the two escapes; `breakPair` breaks one two-character
  delimiter, as a replacement of the pair by the pair with an underscore between.
* `escapeText` — the escape of a description: lines flattened, quotes dropped, comment
  delimiters broken.
-/

namespace SwiftSchema.Text

/-- The text without its double quotes. -/
def dropQuotes (s : List Char) : List Char := s.filter (· != '"')

/-- Breaking the pair `a b`, given whether the character just written is an `a` that may open
a pair: an underscore goes between the two, and the `b` then opens no pair. -/
def breakFrom (a b : Char) : Bool → List Char → List Char
  | _, [] => []
  | afterA, c :: rest =>
    if afterA && c == b then '_' :: b :: breakFrom a b false rest
    else c :: breakFrom a b (c == a) rest

/-- Each pair `a b` written `a _ b`, scanning from the left, as the replacement of a
two-character text does: pairs do not overlap (`aaa` with the pair `a a` is `a_aa`). -/
def breakPair (a b : Char) (s : List Char) : List Char := breakFrom a b false s

/-- Comment delimiters broken apart: first the ends `*/` become `*_/`, then the starts `/*`
become `/_*` (`/*/` becomes `/_*_/`). -/
def breakComments (s : List Char) : List Char := breakPair '/' '*' (breakPair '*' '/' s)

/-- Tabs, line feeds and carriage returns become spaces. -/
def flattenLines (s : List Char) : List Char :=
  s.map fun c => if c = '\t' ∨ c = '\n' ∨ c = '\r' then ' ' else c

/-- The **escaped description**: lines flattened, then quotes dropped, then comment delimiters
broken. -/
def escapeText (s : List Char) : List Char := breakComments (dropQuotes (flattenLines s))

end SwiftSchema.Text
