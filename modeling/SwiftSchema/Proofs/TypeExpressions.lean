import SwiftSchema.Proofs.Resolvers
import SwiftSchema.Types.Resolve

/-! # Type expressions decode uniquely

A Swift type expression is its descriptor's container layers written around the text of the
innermost leaf: `[` opens an array and `[String:` a map, from the outside in, and one `]` closes
each. Under a manifest that passed its check, the leaf's text holds none of the three
delimiters: it is a built-in Swift name, or a model name, which the resolvers write over the
identifier alphabet (affixes, marker and replacements included). So an expression can be read
back: two descriptors print alike exactly when they have the same layers and leaf text.

* `TypeDesc.layers`, `openText`, `closeText` — the layers and the text around the leaf;
  `typeText_eq_wrap` writes every expression so.
* `Undelimited` — text free of `[`, `]` and `:`; `undelimited_baseType` — every leaf text is.
* `wrap_injective` — the layers and an undelimited leaf are read back from the text.
* `typeText_decodes_uniquely` — the three together, for every manifest that passes its check.
-/

namespace SwiftSchema.Types

/-- A **container layer** of a type descriptor. -/
inductive Layer where
  | array
  | map
  deriving DecidableEq, Repr

/-- The text a layer opens with: `[` for an array, `[String:` for a map. -/
def Layer.opening : Layer → String
  | .array => "["
  | .map => "[String:"

@[simp] theorem toList_opening_array : Layer.array.opening.toList = ['['] := rfl

@[simp] theorem toList_opening_map : Layer.map.opening.toList = "[String:".toList := rfl

/-- The container layers of a descriptor, from the outside in. -/
def TypeDesc.layers : TypeDesc → List Layer
  | .array inner => .array :: inner.layers
  | .map inner => .map :: inner.layers
  | .primitive _ | .reference _ => []

/-- The openings of layers, from the outside in. -/
def openText : List Layer → String
  | [] => ""
  | l :: ls => l.opening ++ openText ls

/-- One closing bracket for each layer. -/
def closeText (ls : List Layer) : String := String.ofList (List.replicate ls.length ']')

/-- The characters that delimit the layers of a type expression. -/
def typeDelimiters : List Char := ['[', ']', ':']

/-- Text that holds no layer delimiter. -/
def Undelimited (s : String) : Prop := ∀ c ∈ s.toList, c ∉ typeDelimiters

/-- Layers written around a leaf, as characters. -/
def wrapChars : List Layer → List Char → List Char
  | [], b => b
  | l :: ls, b => l.opening.toList ++ wrapChars ls b ++ [']']

theorem toList_wrap (ls : List Layer) (b : String) :
    (openText ls ++ b ++ closeText ls).toList = wrapChars ls b.toList := by
  induction ls with
  | nil => simp [openText, closeText, wrapChars]
  | cons l ls ih =>
    simp only [wrapChars, ← ih, openText, closeText, String.toList_append, String.toList_ofList,
      List.length_cons, List.replicate_succ', List.append_assoc]

/-- Every layer opens with a bracket. -/
theorem opening_toList (l : Layer) : ∃ rest, l.opening.toList = '[' :: rest := by
  cases l with
  | array => exact ⟨[], toList_opening_array⟩
  | map => exact ⟨"String:".toList, toList_opening_map⟩

/-- Text with its layers starts with a bracket when it has a layer, and with its leaf otherwise. -/
theorem wrapChars_cons (l : Layer) (ls : List Layer) (b : List Char) :
    ∃ rest, wrapChars (l :: ls) b = '[' :: rest := by
  obtain ⟨rest, hrest⟩ := opening_toList l
  exact ⟨rest ++ wrapChars ls b ++ [']'], by simp [wrapChars, hrest]⟩

section Read

variable {b : String}

/-- An undelimited leaf holds no opening bracket. -/
theorem Undelimited.not_open (hb : Undelimited b) (rest : List Char) : b.toList ≠ '[' :: rest :=
  fun h => hb '[' (h ▸ List.mem_cons_self) (by decide)

/-- No layered text over an undelimited leaf reads as the rest of a map's opening. -/
theorem wrapChars_ne_map_rest (hb : Undelimited b) (ls : List Layer) (w : List Char) :
    wrapChars ls b.toList ≠ "String:".toList ++ w := by
  cases ls with
  | nil =>
    -- the leaf alone would hold the colon
    intro h
    have hleaf : b.toList = "String:".toList ++ w := h
    exact hb ':' (by rw [hleaf]; exact List.mem_append_left _ (by decide)) (by decide)
  | cons l ls =>
    obtain ⟨rest, hrest⟩ := wrapChars_cons l ls b.toList
    rw [hrest]
    simp

/-- **Reading back** a type expression: layers written around undelimited leaves give the same
text only for the same layers and leaf. -/
theorem wrap_injective {b₁ b₂ : String} (h₁ : Undelimited b₁) (h₂ : Undelimited b₂) :
    ∀ {ls₁ ls₂ : List Layer}, wrapChars ls₁ b₁.toList = wrapChars ls₂ b₂.toList →
      ls₁ = ls₂ ∧ b₁ = b₂
  | [], [], h => ⟨rfl, String.toList_inj.mp h⟩
  | [], l :: ls, h => by
    obtain ⟨rest, hrest⟩ := wrapChars_cons l ls b₂.toList
    exact absurd (h.trans hrest) (h₁.not_open rest)
  | l :: ls, [], h => by
    obtain ⟨rest, hrest⟩ := wrapChars_cons l ls b₁.toList
    exact absurd (h.symm.trans hrest) (h₂.not_open rest)
  | l₁ :: ls₁, l₂ :: ls₂, h => by
    -- the closing brackets match; then so do the openings, as a map's is no array's
    have hopen : l₁.opening.toList ++ wrapChars ls₁ b₁.toList =
        l₂.opening.toList ++ wrapChars ls₂ b₂.toList :=
      List.append_cancel_right (by simpa [wrapChars] using h)
    cases l₁ <;> cases l₂
    · obtain ⟨hls, hb⟩ := wrap_injective h₁ h₂ (List.append_cancel_left hopen)
      exact ⟨congrArg _ hls, hb⟩
    · exact absurd (List.cons.inj hopen).2 (wrapChars_ne_map_rest h₁ ls₁ _)
    · exact absurd (List.cons.inj hopen).2.symm (wrapChars_ne_map_rest h₂ ls₂ _)
    · obtain ⟨hls, hb⟩ := wrap_injective h₁ h₂ (List.append_cancel_left hopen)
      exact ⟨congrArg _ hls, hb⟩

end Read

/-- A character of the identifier alphabet delimits no layer. -/
theorem not_mem_typeDelimiters {c : Char} (hc : SwiftSchema.Text.isIdentChar c = true) :
    c ∉ typeDelimiters := by
  intro hmem
  simp only [typeDelimiters, List.mem_cons, List.not_mem_nil, or_false] at hmem
  rcases hmem with rfl | rfl | rfl <;> exact absurd hc (by decide)

/-- Built-in Swift names are written over the identifier alphabet. -/
theorem overAlphabet_of_isBuiltin {s : String} (h : isBuiltin s = true) :
    SwiftSchema.Naming.OverAlphabet s := by
  have hall : ∀ w ∈ swiftPrimitives ++ swiftDefaultIncludes, SwiftSchema.Naming.OverAlphabet w := by
    decide +kernel
  apply hall
  simp only [isBuiltin, isPrimitive, isDefaultInclude, Bool.or_eq_true, List.contains_iff_mem] at h
  exact List.mem_append.mpr h

end SwiftSchema.Types

namespace SwiftSchema.Naming

open SwiftSchema.Types

/-- A **type expression** is its layers written around its leaf text. -/
theorem typeText_eq_wrap (n : Namer) (t : TypeDesc) :
    n.typeText t = openText t.layers ++ n.baseType t ++ closeText t.layers := by
  apply String.toList_inj.mp
  rw [toList_wrap]
  induction t with
  | primitive name => rfl
  | reference name => rfl
  | array inner ih => simp [Namer.typeText, Namer.baseType, TypeDesc.layers, wrapChars, ih]
  | map inner ih => simp [Namer.typeText, Namer.baseType, TypeDesc.layers, wrapChars, ih]

example : ({} : Namer).typeText (.map (.array (.reference "pet"))) = "[String:[Pet]]" := by
  decide +kernel

section Checked

variable {m : Manifest} (hm : m.Checked)
include hm

/-- Under a checked manifest every leaf text is undelimited: a built-in name, or a model name
over the identifier alphabet. -/
theorem undelimited_leafText (name : String) :
    Undelimited (({ context := m.naming, reserved := m.reservedTable } : Namer).leafText name) := by
  intro c hc
  apply not_mem_typeDelimiters
  dsimp only [Namer.leafText] at hc
  split at hc
  · exact overAlphabet_of_isBuiltin ‹_› c hc
  · exact (modelName_fitUnder hm _).1.1.alphabet c hc

theorem undelimited_baseType (t : TypeDesc) :
    Undelimited (({ context := m.naming, reserved := m.reservedTable } : Namer).baseType t) := by
  induction t with
  | primitive name => exact undelimited_leafText hm name
  | reference name => exact undelimited_leafText hm name
  | array _ ih => exact ih
  | map _ ih => exact ih

end Checked

/-- **Type expressions decode uniquely.** Under every manifest that passes its check (every
manifest read from a text does, `Manifest.check_of_ofText`), with its naming context and reserved
words, a type expression is the openings of the descriptor's layers, from the outside in, then
the leaf text, then one closing bracket per layer; the leaf text holds no bracket and no colon;
so two descriptors print alike exactly when they have the same layers and the same leaf text. -/
theorem typeText_decodes_uniquely {m : Manifest} {ctx : Source} (hm : m.check ctx = .ok ()) :
    let n : Namer := { context := m.naming, reserved := m.reservedTable }
    (∀ t, n.typeText t = openText t.layers ++ n.baseType t ++ closeText t.layers) ∧
    (∀ t, Undelimited (n.baseType t)) ∧
    ∀ t₁ t₂, n.typeText t₁ = n.typeText t₂ ↔
      t₁.layers = t₂.layers ∧ n.baseType t₁ = n.baseType t₂ := by
  intro n
  have hc := Manifest.checked_of_check hm
  refine ⟨typeText_eq_wrap n, undelimited_baseType hc, fun t₁ t₂ => ⟨fun h => ?_, ?_⟩⟩
  · have hchars := congrArg String.toList h
    rw [typeText_eq_wrap, typeText_eq_wrap, toList_wrap, toList_wrap] at hchars
    exact wrap_injective (undelimited_baseType hc t₁) (undelimited_baseType hc t₂) hchars
  · rintro ⟨hl, hb⟩
    rw [typeText_eq_wrap, typeText_eq_wrap, hl, hb]

/-- A manifest with a model prefix and suffix, and a replacement for the word `APIOrderDto`,
which the affixes make of the model name `order`. -/
def apiDtoManifest : Manifest :=
  { naming := { leading := some "API", trailing := some "Dto" },
    reservedWords := [("APIOrderDto", "APIOrderRecord")] }

/-- Under `apiDtoManifest` a map of arrays of `order` prints as `[String:[APIOrderRecord]]`: the
leaf is the decorated model name, replaced, and it decodes back. -/
theorem apiDtoManifest_types_decode :
    apiDtoManifest.check ⟨"", "swan.toml"⟩ = .ok () ∧
    ({ context := apiDtoManifest.naming, reserved := apiDtoManifest.reservedTable } : Namer).typeText
        (.map (.array (.reference "order"))) = "[String:[APIOrderRecord]]" ∧
    let n : Namer := { context := apiDtoManifest.naming, reserved := apiDtoManifest.reservedTable }
    (∀ t, n.typeText t = openText t.layers ++ n.baseType t ++ closeText t.layers) ∧
    (∀ t, Undelimited (n.baseType t)) ∧
    ∀ t₁ t₂, n.typeText t₁ = n.typeText t₂ ↔
      t₁.layers = t₂.layers ∧ n.baseType t₁ = n.baseType t₂ :=
  have hcheck : apiDtoManifest.check ⟨"", "swan.toml"⟩ = .ok () := by decide
  ⟨hcheck, rfl, typeText_decodes_uniquely hcheck⟩

end SwiftSchema.Naming
