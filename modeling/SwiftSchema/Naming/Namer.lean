import SwiftSchema.Text.Identifier
import SwiftSchema.Text.Casing
import SwiftSchema.Naming.Reserved
import SwiftSchema.Naming.Context
import SwiftSchema.Naming.Convention
import SwiftSchema.Naming.Rename
import SwiftSchema.Naming.EnumCase

/-! # Name resolvers

Every resolver sanitizes the raw name, cases it by the convention, and decorates the candidate
if it is reserved or starts with a digit: a replacement from the table wins, else the
resolver's mark (the model marker, an underscore, the operation verb). Decorations are
reported as renames and never fail; only an operation id that sanitizes to nothing is an error.

* `Namer.modelName`, `Namer.varName`, `Namer.paramName`, `Namer.operationId` — the resolvers.
* `Namer.enumTypeName` — the type of an enum property: the model name of the property, with the
  enum suffix when it is reserved or collides with its datatype or property name.
* `Namer.enumCaseName` — see `EnumCase.resolve`.
-/

namespace SwiftSchema.Naming

open SwiftSchema.Text

/-- The error of a resolver: an operation id with nothing left after sanitizing. -/
inductive NamingError where
  | emptyOperationId (raw : String)
  deriving DecidableEq, Repr

/-- The message of a naming error. -/
def NamingError.message : NamingError → String
  | .emptyOperationId raw => s!"operation id '{raw}' is empty after sanitizing"

/-- A **namer**: a convention, a naming context and a reserved-word table. -/
structure Namer where
  convention : Convention := .swift
  context : NamingContext := {}
  reserved : ReservedWords := .swift

namespace Namer

/-- Decorates a candidate that is reserved (with its replacement, or its mark) or that starts
with a digit (with its mark). -/
def decorate (n : Namer) (kind : IdentKind) (candidate : String) (mark : String → String) :
    Resolved :=
  if n.reserved.isReserved candidate then
    .renamed ⟨kind, candidate, (n.reserved.replacement? candidate).getD (mark candidate),
      .reservedWord⟩
  else if startsWithDigit candidate.toList then
    .renamed ⟨kind, candidate, mark candidate, .leadingDigit⟩
  else
    .plain candidate

/-- The cased model name before decoration: sanitized, joined to the context's text before
and after it, then type-cased. -/
def modelCandidate (n : Namer) (raw : String) : String :=
  let s := sanitizeName raw
  let s := match n.context.trailing with
    | some t => s ++ "_" ++ t
    | none => s
  let s := match n.context.leading with
    | some l => l ++ "_" ++ s
    | none => s
  n.convention.typeName s

/-- The **model name** of a raw name. -/
def modelName (n : Namer) (raw : String) : Resolved :=
  n.decorate .model (n.modelCandidate raw) n.convention.markedType

/-- The **property name** of a raw name. -/
def varName (n : Namer) (raw : String) : Resolved :=
  n.decorate .variable (n.convention.valueName (sanitizeName raw)) ("_" ++ ·)

/-- The **parameter name** of a raw name. -/
def paramName (n : Namer) (raw : String) : Resolved :=
  n.decorate .parameter (n.convention.valueName (sanitizeName raw)) ("_" ++ ·)

/-- The **operation name** of a raw operation id; an error when nothing is left of it. -/
def operationId (n : Namer) (raw : String) : Except NamingError Resolved :=
  let candidate := n.convention.methodName (sanitizeName raw)
  if candidate.isEmpty then .error (.emptyOperationId raw)
  else .ok (n.decorate .operation candidate n.convention.verbMethod)

/-- The **enum case name** of a raw value under a datatype. -/
def enumCaseName (n : Namer) (value datatype : String) : Resolved :=
  EnumCase.resolve n.reserved value datatype

/-- The rename of an enum type: the earlier rename's starting name, else the current name. -/
def enumTypeRename (earlier : Option Rename) (name toName : String) (reason : RenameReason) :
    Rename :=
  ⟨.enumType, (earlier.map (·.fromName)).getD name, toName, reason⟩

/-- The **enum type name** of a property under its datatype. -/
def enumTypeName (n : Namer) (property datatype : String) : Resolved :=
  let r := n.modelName property
  let reason? : Option RenameReason :=
    if n.reserved.isReserved r.name then some .reservedWord
    else if r.name == datatype || r.name == (n.varName property).name then some .collision
    else none
  let (name, rename) := match reason? with
    | some reason =>
      let suffixed := r.name ++ n.convention.enumSuffix
      (suffixed, some (enumTypeRename r.rename r.name suffixed reason))
    | none => (r.name, r.rename)
  let (name, rename) :=
    if startsWithDigit name.toList then
      ("_" ++ name, some (enumTypeRename rename name ("_" ++ name) .leadingDigit))
    else (name, rename)
  match rename with
  | some rn => .renamed { rn with kind := .enumType }
  | none => .plain name

/-- The **API name** of an operation tag: `DefaultAPI` for no tag. -/
def apiName (_ : Namer) (tag : String) : String :=
  if tag.isEmpty then "DefaultAPI" else String.ofList (initialCaps tag.toList) ++ "API"

end Namer

end SwiftSchema.Naming
