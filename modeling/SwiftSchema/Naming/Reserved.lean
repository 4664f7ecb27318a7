/-! # Reserved words

A table of words that generated code cannot use as identifiers, with explicit replacements for
some of them. Look-ups are exact and case-sensitive, and a word with a replacement is reserved
even when it is not among the listed words.

* `ReservedWords` — the table; `ReservedWords.swift` holds the Swift keywords, standard library
  names and names the generated client uses.
* `ReservedWords.withReplacements` — adds replacements in order, a later one for a word winning.
* `ReservedWords.escape` — the replacement of a word, or the word behind an underscore.
-/

namespace SwiftSchema.Naming

/-- The Swift keywords, standard library names and generator names that identifiers avoid. -/
def swiftReservedWords : List String := [
  -- names used by the generated client
  "ErrorResponse", "Response",
  -- Objective-C compatibility
  "id", "description", "NSArray", "NSURL", "CGFloat", "NSSet", "NSString", "NSInteger",
  "NSUInteger", "NSError", "NSDictionary",
  -- keywords used in declarations
  "associatedtype", "class", "deinit", "enum", "extension", "fileprivate", "func", "import",
  "init", "inout", "internal", "let", "open", "operator", "private", "protocol", "public",
  "static", "struct", "subscript", "typealias", "var",
  -- keywords used in statements
  "break", "case", "continue", "default", "defer", "do", "else", "fallthrough", "for",
  "guard", "if", "in", "repeat", "return", "switch", "where", "while",
  -- keywords used in expressions and types
  "as", "Any", "catch", "false", "is", "nil", "rethrows", "super", "self", "Self", "throw",
  "throws", "true", "try",
  -- keywords used in patterns
  "_",
  -- keywords that begin with a number sign
  "#available", "#colorLiteral", "#column", "#else", "#elseif", "#endif", "#file",
  "#fileLiteral", "#function", "#if", "#imageLiteral", "#line", "#selector", "#sourceLocation",
  -- keywords reserved in particular contexts
  "associativity", "convenience", "dynamic", "didSet", "final", "get", "infix", "indirect",
  "lazy", "left", "mutating", "none", "nonmutating", "optional", "override", "postfix",
  "precedence", "prefix", "Protocol", "required", "right", "set", "Type", "unowned", "weak",
  "willSet",
  -- numbers and basic values
  "Bool", "Int", "Double", "Float", "Range", "ClosedRange", "Error", "Optional",
  -- special-use numeric types
  "UInt", "UInt8", "UInt16", "UInt32", "UInt64", "Int8", "Int16", "Int32", "Int64", "Float80",
  "Float32", "Float64",
  -- strings and text
  "String", "Character", "Unicode", "StaticString",
  -- collections
  "Array", "Dictionary", "Set", "OptionSet", "CountableRange", "CountableClosedRange",
  -- common Foundation types
  "URL", "Data", "Codable", "Encodable", "Decodable",
  -- other reserved names
  "Void", "AnyObject", "Class", "dynamicType", "COLUMN", "FILE", "FUNCTION", "LINE"
  ]

/-- A **reserved-word table**: listed words, and replacements for some words. -/
structure ReservedWords where
  /-- The listed words. -/
  words : List String
  /-- Replacements, at most one per word. -/
  replacements : List (String × String) := []

namespace ReservedWords

/-- The Swift table, with no replacements. -/
def swift : ReservedWords := ⟨swiftReservedWords, []⟩

/-- Sets the replacement of a word, in place if it has one already. -/
def setReplacement (t : ReservedWords) (word replacement : String) : ReservedWords :=
  if t.replacements.any (·.1 == word) then
    { t with replacements := t.replacements.map fun p => if p.1 == word then (word, replacement) else p }
  else
    { t with replacements := t.replacements ++ [(word, replacement)] }

/-- Adds replacements in order; a later replacement for a word wins. -/
def withReplacements (t : ReservedWords) (pairs : List (String × String)) : ReservedWords :=
  pairs.foldl (fun acc p => acc.setReplacement p.1 p.2) t

/-- The replacement of a word, if the table has one. -/
def replacement? (t : ReservedWords) (word : String) : Option String :=
  t.replacements.lookup word

/-- Whether a word is **reserved**: listed, or given a replacement. -/
def isReserved (t : ReservedWords) (word : String) : Bool :=
  t.words.contains word || (t.replacement? word).isSome

/-- The **escape** of a word: its replacement, or the word behind an underscore. -/
def escape (t : ReservedWords) (word : String) : String :=
  (t.replacement? word).getD ("_" ++ word)

end ReservedWords

end SwiftSchema.Naming
