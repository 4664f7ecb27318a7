import SwiftSchema.Json.Error
import SwiftSchema.Source.Span

/-! # Errors of reading the manifest format

A manifest can fail to read in two ways: its text is not well-formed TOML (a **malformed**
fault, with what was expected there), or it is TOML of another shape than the manifest (a
**shape** fault, worded as for any data document). Each error points at the place where it
was noticed, when that is known.

* `Expected` — an item of what was expected: a literal text or a description.
* `Fault.message` — the text of a fault: `unclosed table, expected `]``, or a shape fault's.
* `ReadError` — a fault and its span.
-/

namespace SwiftSchema.Toml

/-- An item of what was **expected** at the place of a malformed fault. -/
inductive Expected where
  /-- A text that would have been right there, shown in back quotes. -/
  | literal (text : String)
  /-- A kind of thing that would have been right there, shown as it is. -/
  | description (text : String)
  deriving DecidableEq, Repr

/-- How a literal is shown: a line end by name, a back quote in apostrophes, control characters
by their escapes, anything else in back quotes. -/
def showLiteral (s : String) : String :=
  if s = "\n" then "newline"
  else if s = "`" then "'`'"
  else if s.toList.all fun c => c.toNat < 32 ∨ c.toNat = 127 then
    "`" ++ String.join (s.toList.map Json.quotedChar) ++ "`"
  else "`" ++ s ++ "`"

/-- How an item of what was expected is shown. -/
def Expected.text : Expected → String
  | .literal s => showLiteral s
  | .description s => s

/-- A **fault** of reading the manifest format. -/
inductive Fault where
  /-- The text is not well formed: what is wrong, and what was expected, if that is said. -/
  | malformed (description : String) (expected : Option (List Expected))
  /-- The text is of another shape than the manifest. -/
  | shape (f : Json.ShapeFault)
  deriving DecidableEq, Repr

/-- The text of a fault: a malformed fault's description, then what was expected (`nothing`
when that is empty). -/
def Fault.message : Fault → String
  | .malformed d none => d
  | .malformed d (some []) => d ++ ", expected nothing"
  | .malformed d (some es) => d ++ ", expected " ++ ", ".intercalate (es.map Expected.text)
  | .shape f => f.message

/-- A **reading error**: a fault and, once known, the span where it was noticed. -/
structure ReadError where
  fault : Fault
  span : Option Span := none
  deriving DecidableEq, Repr

/-- A malformed fault at a span. -/
def malformedAt (span : Span) (description : String) (expected : List Expected) : ReadError :=
  ⟨.malformed description (some expected), some span⟩

/-- The error with a span, unless it already has one. -/
def ReadError.within (e : ReadError) (span : Span) : ReadError :=
  match e.span with
  | some _ => e
  | none => { e with span := some span }

end SwiftSchema.Toml
