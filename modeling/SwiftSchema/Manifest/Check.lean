import SwiftSchema.Manifest.Read
import SwiftSchema.Source.Error
import SwiftSchema.Text.Identifier

/-! # Checking a manifest

A manifest is read from its text and then checked, and the first broken rule is the error:

1. the prefix, then the suffix: not empty, and unchanged by sanitizing;
2. each reserved word in the order written: not empty; its replacement not a Swift reserved
   word, not the word itself, not another configured word, and a legal identifier (not empty,
   not reserved, no leading digit, unchanged by sanitizing).

* `affixFault?`, `identifierFault?` — why an affix or an identifier is refused.
* `Manifest.check` — the first broken rule of a manifest.
* `Manifest.ofText` — a manifest from its text: read, shaped, checked.
-/

namespace SwiftSchema

open SwiftSchema.Naming SwiftSchema.Text

/-- Whether a word is a Swift reserved word. -/
def isSwiftReserved (w : String) : Bool := swiftReservedWords.contains w

/-- Why a model prefix or suffix is refused, if it is: it is empty, or sanitizing changes it. -/
def affixFault? (affix : String) : Option String :=
  if affix.isEmpty then some "affix cannot be empty"
  else if sanitizeName affix ≠ affix then some "affix contains characters that are not allowed in identifiers"
  else none

/-- Why a name is refused as an identifier written as it is, if it is. -/
def identifierFault? (name : String) : Option String :=
  if name.isEmpty then some "name cannot be empty"
  else if isSwiftReserved name then some "name is a Swift reserved word"
  else if startsWithDigit name.toList then some "name must not start with a digit"
  else if sanitizeName name ≠ name then some "name contains characters that are not allowed in identifiers"
  else none

namespace Manifest

/-- The first rule an affix breaks, in its context. -/
def checkAffix (ctx : Source) (context : String) : Option String → Except LoadError Unit
  | some affix =>
    match affixFault? affix with
    | some reason => .error (ctx.invalidIdentifierError affix context reason)
    | none => .ok ()
  | none => .ok ()

/-- The first rule a reserved word and its replacement break, among the configured words. -/
def checkReplacement (ctx : Source) (words : List (String × String)) (word replacement : String) :
    Except LoadError Unit :=
  if word.isEmpty then .error (ctx.validationError "reserved word cannot be empty" "\"\"")
  else if isSwiftReserved replacement then .error (ctx.reservedReplacementError word replacement)
  else if replacement = word then
    .error (ctx.validationError s!"'{word}' cannot be its own replacement" ("\"" ++ replacement ++ "\""))
  else if words.any (·.1 = replacement) then
    .error (ctx.validationError s!"replacement for '{word}' is itself a reserved word: '{replacement}'"
      ("\"" ++ replacement ++ "\""))
  else
    match identifierFault? replacement with
    | some reason => .error (ctx.invalidIdentifierError replacement s!"replacement for '{word}'" reason)
    | none => .ok ()

/-- The **first broken rule** of a manifest: affixes first, then the reserved words in order. -/
def check (m : Manifest) (ctx : Source) : Except LoadError Unit := do
  checkAffix ctx "model prefix" m.naming.leading
  checkAffix ctx "model suffix" m.naming.trailing
  m.reservedWords.forM fun (w, r) => checkReplacement ctx m.reservedWords w r

/-- The load error of a fault in reading a manifest. -/
def readFault (e : Toml.ReadError) : LoadError := .parse e.span e.fault.message

/-- A **manifest from its text**, reported under a file name: read as TOML, shaped, checked. -/
def ofText (text : String) (filename : String := "swan.toml") : Except LoadError Manifest := do
  let ctx : Source := ⟨text, filename⟩
  let entries ← (Toml.readDocument text).mapError readFault
  let m ← (manifestOf entries).mapError readFault
  m.check ctx
  pure m

end Manifest

end SwiftSchema
