import SwiftSchema.Text.CaseMap

/-! # Camel case and capitalisation

Word-level casing of names.

* `camelize` — drops each word delimiter that has a character after it and capitalises that
  character (and the first one); a delimiter at the very end stays. Inner case is kept.
* `capitalizeFully` — lowers everything and capitalises the first character of each word; the
  delimiters stay.
* `initialCaps`, `lowerFirst` — the first character alone capitalised or lowered.
-/

namespace SwiftSchema.Text

/-- The characters that separate the words of a name for camel casing. -/
def wordDelimiters : List Char := ['_', '-', ' ', '.', '/']

/-- Camel casing, given whether the next character kept starts a word. -/
def camelFrom : Bool → List Char → List Char
  | _, [] => []
  | startsWord, c :: rest =>
    if wordDelimiters.contains c && !rest.isEmpty then camelFrom true rest
    else if startsWord then upper c ++ camelFrom false rest
    else c :: camelFrom false rest

/-- The first character lowered, the rest kept. -/
def lowerFirst : List Char → List Char
  | [] => []
  | c :: rest => lower c ++ rest

/-- The first character capitalised, the rest kept. -/
def initialCaps : List Char → List Char
  | [] => []
  | c :: rest => upper c ++ rest

/-- **Camel case** of a delimited name: upper camel case, or lower camel case when
`lowerFirstChar` holds (`pet_id` becomes `PetId` or `petId`). -/
def camelize (s : List Char) (lowerFirstChar : Bool) : List Char :=
  if lowerFirstChar then lowerFirst (camelFrom true s) else camelFrom true s

/-- Full capitalisation, given whether the next character starts a word. -/
def capitalizeFrom (delimiters : List Char) : Bool → List Char → List Char
  | _, [] => []
  | startsWord, c :: rest =>
    if delimiters.contains c then c :: capitalizeFrom delimiters true rest
    else if startsWord then upper c ++ capitalizeFrom delimiters false rest
    else lower c ++ capitalizeFrom delimiters false rest

/-- **Full capitalisation**: each word capitalised and otherwise lowered, words being separated
by the given delimiters, which stay (`PENDING_REVIEW` becomes `Pending_Review`). -/
def capitalizeFully (s : List Char) (delimiters : List Char) : List Char :=
  capitalizeFrom delimiters true s

/-- Camel casing on text. -/
def camelizeName (s : String) (lowerFirstChar : Bool) : String :=
  String.ofList (camelize s.toList lowerFirstChar)

end SwiftSchema.Text
