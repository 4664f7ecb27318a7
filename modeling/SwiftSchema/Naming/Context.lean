/-! # Naming context

Options that change naming for a whole run: text joined before or after every model name with
an underscore, and whether required properties are written as non-optional types.
-/

namespace SwiftSchema.Naming

/-- A **naming context**. -/
structure NamingContext where
  /-- Joined before every model name with an underscore. -/
  leading : Option String := none
  /-- Joined after every model name with an underscore. -/
  trailing : Option String := none
  /-- Required properties are written as non-optional types. -/
  unwrapRequired : Bool := false
  deriving DecidableEq, Repr

/-- A property is written as an optional type unless it is required and required properties
are unwrapped. -/
def NamingContext.isOptional (ctx : NamingContext) (required : Bool) : Bool :=
  !ctx.unwrapRequired || !required

end SwiftSchema.Naming
