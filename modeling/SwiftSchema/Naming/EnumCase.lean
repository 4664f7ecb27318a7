import SwiftSchema.Text.Identifier
import SwiftSchema.Text.Casing
import SwiftSchema.Naming.Reserved
import SwiftSchema.Naming.Rename

/-! # Enum case names

The name of an enum case comes from its raw value by the first of these rules that answers:

1. the empty value is `empty`;
2. a value with leading digits keeps them behind an underscore and camel-cases the rest,
   reported as a rename;
3. a symbol that has a spoken name (`>=` is `greaterThanOrEqualTo`) takes it;
4. an upper camel value (`PendingReview`) is lowered to lower camel case, and the rules go on;
5. a value whose small form is reserved takes the escape of that form, reported as a rename;
6. under a numeric datatype the value is spelled as a number (`-1.5` is `numberminus1dot5`);
7. a value lowered by rule 4 is that;
8. otherwise the value is lowered, its words capitalised and joined, and camel-cased.
-/

namespace SwiftSchema.Naming

open SwiftSchema.Text

namespace EnumCase

/-- Spoken names of symbols, words separated by underscores. -/
def symbolNames : List (String × String) := [
  ("$", "Dollar"), ("^", "Caret"), ("|", "Pipe"), ("=", "Equal"), ("*", "Star"),
  ("-", "Minus"), ("&", "Ampersand"), ("%", "Percent"), ("#", "Hash"), ("@", "At"),
  ("!", "Exclamation"), ("+", "Plus"), (":", "Colon"), (">", "Greater_Than"),
  ("<", "Less_Than"), (".", "Period"), ("_", "Underscore"), ("?", "Question_Mark"),
  (",", "Comma"), ("'", "Quote"), ("\"", "Double_Quote"), ("/", "Slash"),
  ("\\", "Back_Slash"), ("(", "Left_Parenthesis"), (")", "Right_Parenthesis"),
  ("\x7b", "Left_Curly_Bracket"), ("\x7d", "Right_Curly_Bracket"),
  ("[", "Left_Square_Bracket"), ("]", "Right_Square_Bracket"), ("~", "Tilde"),
  ("`", "Backtick"), ("<=", "Less_Than_Or_Equal_To"), (">=", "Greater_Than_Or_Equal_To"),
  ("!=", "Not_Equal")
  ]

/-- Datatypes whose enum values are numbers. -/
def numericTypes : List String := ["Int", "Int32", "Int64", "Float", "Double"]

/-- The word separators of the last rule. -/
def fallbackDelimiters : List Char := ['-', '_', ' ', ':', '(', ')']

/-- An **upper camel** value: an ASCII capital, then an ASCII small letter or digit, then ASCII
letters and digits only. -/
def isUpperCamel : List Char → Bool
  | a :: b :: rest => a.isUpper && (b.isLower || b.isDigit) && rest.all Char.isAlphanum
  | _ => false

/-- The word for a sign or a decimal point. -/
def signWord : Char → Option (List Char)
  | '-' => some ['m', 'i', 'n', 'u', 's']
  | '+' => some ['p', 'l', 'u', 's']
  | '.' => some ['d', 'o', 't']
  | _ => none

/-- Spelling of a number, given the run of characters since the last sign or point. -/
def spellFrom (run : List Char) : List Char → List Char
  | [] => camelize run false
  | c :: rest =>
    match signWord c with
    | some w => camelize run false ++ w ++ spellFrom [] rest
    | none => spellFrom (run ++ [c]) rest

/-- A number **spelled out**: signs and points as words, the runs between them camel-cased. -/
def spellNumber (s : List Char) : List Char := spellFrom [] s

/-- The last rule: lowered, words capitalised, separators dropped, lower camel case. -/
def fallback (s : List Char) : List Char :=
  camelize ((capitalizeFully (lowerAll s) fallbackDelimiters).filter
    (!fallbackDelimiters.contains ·)) true

/-- Rules 4 to 8, on a value that is not empty, has no leading digit and no spoken name. -/
def resolveWord (reserved : ReservedWords) (value datatype : String) : Resolved :=
  let camel := isUpperCamel value.toList
  let name := if camel then camelize value.toList true else value.toList
  let small := String.ofList (lowerAll name)
  if reserved.isReserved small then
    .renamed ⟨.enumCase, value, reserved.escape small, .reservedWord⟩
  else if numericTypes.contains datatype then
    .plain ("number" ++ String.ofList (spellNumber name))
  else if camel then
    .plain (String.ofList name)
  else
    .plain (String.ofList (fallback name))

/-- The **enum case name** of a raw value under a datatype. -/
def resolve (reserved : ReservedWords) (value datatype : String) : Resolved :=
  let v := value.toList
  let digits := v.takeWhile Char.isDigit
  if v.isEmpty then
    .plain "empty"
  else if !digits.isEmpty then
    .renamed ⟨.enumCase, value,
      String.ofList ('_' :: digits ++ camelize (v.dropWhile Char.isDigit) false), .leadingDigit⟩
  else
    match symbolNames.lookup value with
    | some spoken => .plain (String.ofList (camelize (capitalizeFully spoken.toUpper.toList [' ']) true))
    | none => resolveWord reserved value datatype

end EnumCase

end SwiftSchema.Naming
