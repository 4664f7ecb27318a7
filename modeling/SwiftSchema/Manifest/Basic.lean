import SwiftSchema.Naming.Reserved
import SwiftSchema.Naming.Context

/-! # Manifests

A **manifest** holds the options of a whole run: the naming context (model prefix and suffix,
and whether required properties are written unwrapped) and the replacements chosen for
reserved words, ordered by word.

* `Manifest` — the options; the default has none.
* `Manifest.reservedTable` — the Swift reserved words with the chosen replacements.
-/

namespace SwiftSchema

open SwiftSchema.Naming

/-- A **manifest**: naming options and replacements of reserved words. -/
structure Manifest where
  naming : NamingContext := {}
  reservedWords : List (String × String) := []
  deriving DecidableEq, Repr

namespace Manifest

/-- The reserved-word table of a manifest: the Swift words, with the replacements it gives. -/
def reservedTable (m : Manifest) : ReservedWords := ReservedWords.swift.withReplacements m.reservedWords

/-- Whether a manifest sets nothing. -/
def isDefault (m : Manifest) : Bool := m = {}

end Manifest

end SwiftSchema
