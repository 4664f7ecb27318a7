/-! # JSON values

A JSON value as the schema reader keeps it: numbers as unsigned integers, negative integers or
doubles, and objects as their fields in document order.
-/

namespace SwiftSchema.Json

/-- A **JSON number**. -/
inductive Number where
  /-- A non-negative integer below `2 ^ 64`. -/
  | nat (n : Nat)
  /-- The negative integer `-n`, at least `-2 ^ 63`. -/
  | neg (n : Nat)
  /-- A double, by the 64 bits of its encoding. -/
  | double (bits : UInt64)
  deriving DecidableEq, Repr, Inhabited

/-- A **JSON value**. -/
inductive Value where
  | null
  | bool (b : Bool)
  | number (n : Number)
  | string (s : String)
  | array (items : List Value)
  /-- The fields of an object, in document order. -/
  | object (fields : List (String × Value))
  deriving Repr, Inhabited

mutual

/-- The **nesting depth** of a value: `0` for a scalar, one more than its deepest item for
an array or object. -/
def Value.depth : Value → Nat
  | .array items => itemsDepth items + 1
  | .object fields => fieldsDepth fields + 1
  | _ => 0

/-- The deepest nesting among items. -/
def itemsDepth : List Value → Nat
  | [] => 0
  | v :: vs => max v.depth (itemsDepth vs)

/-- The deepest nesting among field values. -/
def fieldsDepth : List (String × Value) → Nat
  | [] => 0
  | (_, v) :: fs => max v.depth (fieldsDepth fs)

end

/-- A string value or nothing. -/
def Value.ofOption : Option String → Value
  | some s => .string s
  | none => .null

/-- A count as a value. -/
def Value.count (n : Nat) : Value := .number (.nat n)

end SwiftSchema.Json
