import SwiftSchema.Json.Error
import SwiftSchema.Source.Span

/-! # Load errors

Errors of loading a manifest or a schema document. Each error that points into the source
carries a span: the byte offset and length of the first occurrence of a needle in the text
(none for an empty or absent needle), or for a JSON fault one byte at its line and column.

* `Source` — a text and the file name it is reported under, with the constructors of errors.
* `LoadError` — the errors; `message`, `code`, `help` and `label` give their texts.
* `findSpan`, `offsetOf` — the two ways to point into a text.
-/

namespace SwiftSchema

/-- The byte offset of a line (from 1) and column (from 1, bytes): the start of that line
(the end of the text when it has fewer lines), plus the column less one; none for line 0 or
an offset past the text. -/
def offsetOf (src : String) (line column : Nat) : Option Nat :=
  if line = 0 then none
  else
    let bytes := src.toUTF8.toList
    let rec lineStart : List UInt8 → Nat → Nat → Nat
      | [], _, i => i
      | b :: rest, k, i => if k = 0 then i else lineStart rest (if b = 10 then k - 1 else k) (i + 1)
    let offset := lineStart bytes (line - 1) 0 + (column - 1)
    if offset < bytes.length then some offset else none

/-- Why a file could not be read. -/
inductive IoFault where
  | notFound
  | isDirectory
  | invalidData
  deriving DecidableEq, Repr

/-- The text of a read fault. -/
def IoFault.message : IoFault → String
  | .notFound => "No such file or directory (os error 2)"
  | .isDirectory => "Is a directory (os error 21)"
  | .invalidData => "stream did not contain valid UTF-8"

/-- The kind of a read fault. -/
def IoFault.kind : IoFault → String
  | .notFound => "NotFound"
  | .isDirectory => "IsADirectory"
  | .invalidData => "InvalidData"

/-- A **load error**. -/
inductive LoadError where
  /-- A file could not be read. -/
  | io (path : String) (fault : IoFault)
  /-- The manifest is not valid TOML of its shape. -/
  | parse (span : Option Span) (detail : String)
  /-- The document is not valid JSON of its shape. -/
  | json (span : Option Span) (detail : String) (line column : Nat) (category : String)
  /-- A manifest value breaks a rule. -/
  | validation (span : Option Span) (message : String)
  /-- A manifest name is not a legal identifier. -/
  | invalidIdentifier (span : Option Span) (name context reason : String)
  /-- A replacement for a reserved word is itself reserved. -/
  | reservedReplacement (span : Option Span) (word replacement : String)
  /-- A schema declaration is not well formed. -/
  | invalidSchema (span : Option Span) (location reason : String)
  deriving DecidableEq, Repr

namespace LoadError

/-- The message of an error. -/
def message : LoadError → String
  | .io path _ => s!"failed to read '{path}'"
  | .parse _ _ => "failed to parse swan.toml"
  | .json .. => "failed to parse schema document"
  | .validation _ m => m
  | .invalidIdentifier _ name context _ => s!"invalid {context} '{name}'"
  | .reservedReplacement _ word replacement =>
    s!"replacement '{replacement}' for reserved word '{word}' is itself a Swift reserved word"
  | .invalidSchema _ location reason => s!"invalid schema at '{location}': {reason}"

/-- The code of an error. -/
def code : LoadError → Option String
  | .io .. => none
  | .parse .. => some "swan::parse_error"
  | .json .. => some "swan::json_error"
  | .validation .. => some "swan::validation_error"
  | .invalidIdentifier .. => some "swan::invalid_identifier"
  | .reservedReplacement .. => some "swan::reserved_replacement"
  | .invalidSchema .. => some "swan::invalid_schema"

/-- The help of an error. -/
def help : LoadError → Option String
  | .invalidIdentifier _ _ _ reason =>
    some s!"{reason}. Use only letters, numbers, and underscores, starting with a letter."
  | .reservedReplacement _ word _ => some s!"pick a replacement that is not reserved, e.g. '{word}Value'"
  | _ => none

/-- The span of an error. -/
def span? : LoadError → Option Span
  | .io .. => none
  | .parse s _ | .json s .. | .validation s _ | .invalidIdentifier s .. | .reservedReplacement s ..
  | .invalidSchema s .. => s

/-- The label at the span of an error. -/
def label : LoadError → String
  | .io .. => ""
  | .parse .. | .json .. => "parse error here"
  | .validation _ m => m
  | .invalidIdentifier .. => "invalid identifier"
  | .reservedReplacement .. => "reserved word used here"
  | .invalidSchema _ _ reason => reason

/-- The labelled spans of an error: one when it has a span. -/
def labels (e : LoadError) : List (String × Span) :=
  match e.span? with
  | some s => [(e.label, s)]
  | none => []

end LoadError

/-- A **source**: a text and the file name it is reported under. -/
structure Source where
  src : String
  filename : String

namespace Source

/-- A rule broken by a value, pointed at by a needle. -/
def validationError (ctx : Source) (message needle : String) : LoadError :=
  .validation (findSpan ctx.src needle) message

/-- A name that is not a legal identifier, pointed at by the name. -/
def invalidIdentifierError (ctx : Source) (name context reason : String) : LoadError :=
  .invalidIdentifier (findSpan ctx.src name) name context reason

/-- A reserved replacement, pointed at by the quoted replacement. -/
def reservedReplacementError (ctx : Source) (word replacement : String) : LoadError :=
  .reservedReplacement (findSpan ctx.src ("\"" ++ replacement ++ "\"")) word replacement

/-- A declaration that is not well formed, pointed at by a needle. -/
def invalidSchemaError (ctx : Source) (location reason needle : String) : LoadError :=
  .invalidSchema (findSpan ctx.src needle) location reason

/-- A JSON reading error, pointed at by one byte at its line and column. -/
def jsonError (ctx : Source) (e : Json.ReadError) : LoadError :=
  let bytes := ctx.src.toUTF8.toList
  let (line, column) := e.lineColumn bytes
  .json ((offsetOf ctx.src line column).map (⟨·, 1⟩)) (e.display bytes) line column
    e.fault.category

end Source

end SwiftSchema
