/-! # Renames

When a resolver has to change a name to make it legal, it reports a rename: what kind of
identifier, the name before and after, and why. A resolved name is the final name with the
rename, if any.
-/

namespace SwiftSchema.Naming

/-- The **kinds of identifier** that resolvers produce. -/
inductive IdentKind where
  | model
  | variable
  | parameter
  | operation
  | enumCase
  | enumType
  deriving DecidableEq, Repr

/-- How messages name a kind of identifier. -/
def IdentKind.label : IdentKind → String
  | .model => "model"
  | .variable => "property"
  | .parameter => "parameter"
  | .operation => "operation"
  | .enumCase => "enum case"
  | .enumType => "enum type"

/-- The written name of a kind of identifier. -/
def IdentKind.tag : IdentKind → String
  | .model => "model"
  | .variable => "variable"
  | .parameter => "parameter"
  | .operation => "operation"
  | .enumCase => "enum_member"
  | .enumType => "enum_type"

/-- The **reasons** for a rename. -/
inductive RenameReason where
  /-- The name is a reserved word. -/
  | reservedWord
  /-- The name starts with a digit. -/
  | leadingDigit
  /-- The name equals its datatype or its property. -/
  | collision
  deriving DecidableEq, Repr

/-- How messages state a reason. -/
def RenameReason.phrase : RenameReason → String
  | .reservedWord => "is a reserved word"
  | .leadingDigit => "starts with a digit"
  | .collision => "collides with its datatype or property"

/-- The written name of a reason. -/
def RenameReason.tag : RenameReason → String
  | .reservedWord => "reserved_word"
  | .leadingDigit => "leading_digit"
  | .collision => "collision"

/-- A **rename** of an identifier. -/
structure Rename where
  kind : IdentKind
  /-- The name before the rename. -/
  fromName : String
  /-- The name after the rename. -/
  toName : String
  reason : RenameReason
  deriving DecidableEq, Repr

/-- The message of a rename: `property name 'id' is a reserved word, renamed to '_id'`. -/
def Rename.message (r : Rename) : String :=
  s!"{r.kind.label} name '{r.fromName}' {r.reason.phrase}, renamed to '{r.toName}'"

/-- A **resolved name**: the name, and the rename that produced it, if any. -/
structure Resolved where
  name : String
  rename : Option Rename := none
  deriving DecidableEq, Repr

/-- A name that needed no rename. -/
def Resolved.plain (name : String) : Resolved := ⟨name, none⟩

/-- The name a rename produced. -/
def Resolved.renamed (r : Rename) : Resolved := ⟨r.toName, some r⟩

/-- Whether the name was renamed. -/
def Resolved.isRenamed (r : Resolved) : Bool := r.rename.isSome

end SwiftSchema.Naming
