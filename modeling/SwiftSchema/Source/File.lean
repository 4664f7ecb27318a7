import SwiftSchema.Manifest.Check
import SwiftSchema.Schema.Fold

/-! # Loading from files

A file is read as a whole and must hold UTF-8 text; reading it gives its text or the reason it
could not be read. Loading from a file is loading from its text, reported under the file's path.
A manifest file that is missing stands for the default manifest with empty content, when asked
for; a directory or unreadable text is still an error.

* `FileRead` — what reading a file gave.
* `ManifestFile` — a manifest file: path, text and manifest.
* `Manifest.ofRead`, `SchemaDocument.ofRead` — loading from what a file read gave.
-/

namespace SwiftSchema

/-- What **reading a file** gave: its text, or why it could not be read. -/
abbrev FileRead := Except IoFault String

/-- A **manifest file**: its path, its text and the manifest it holds. -/
structure ManifestFile where
  path : String
  content : String
  manifest : Manifest

/-- The text a file read gave, or the load error of its path. -/
def FileRead.text (path : String) : FileRead → Except LoadError String
  | .ok text => .ok text
  | .error f => .error (.io path f)

/-- The manifest of a file. -/
def Manifest.ofRead (path : String) (read : FileRead) : Except LoadError Manifest := do
  Manifest.ofText (← FileRead.text path read) path

/-- The schema document of a file. -/
def SchemaDocument.ofRead (path : String) (read : FileRead) : Except LoadError SchemaDocument := do
  SchemaDocument.ofText (← FileRead.text path read) path

namespace ManifestFile

/-- A **manifest file** opened: its text read and its manifest loaded. -/
def ofRead (path : String) (read : FileRead) : Except LoadError ManifestFile := do
  let text ← FileRead.text path read
  pure ⟨path, text, ← Manifest.ofText text path⟩

/-- A manifest file opened, or the default manifest with empty content when there is no file. -/
def ofReadOrDefault (path : String) (read : FileRead) : Except LoadError ManifestFile :=
  match read with
  | .error .notFound => .ok ⟨path, "", {}⟩
  | _ => ofRead path read

end ManifestFile

end SwiftSchema
