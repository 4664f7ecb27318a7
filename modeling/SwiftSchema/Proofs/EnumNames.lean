import SwiftSchema.Proofs.Idempotence

/-! # Enum case names and enum type names

The enum resolvers do not decorate their result the way the other resolvers do, so whether
they give a name fit for generated code takes its own argument.

**Enum cases.** Rules 1, 2, 3, 5 and 6 of the decision table each give a name that is not
empty, not led by a digit and not reserved: `empty`, an underscore before digits, a spoken
symbol, the escape of a reserved small form, and a number spelled after `number`. The last two
rules do not: the camel-cased value keeps its inner capitals, which the reserved check on the
small form does not see (`DidSet` gives the reserved `didSet`), and the last rule drops
delimiters after that check (`class_` gives `class`, `__` the empty name, `-1` the name `1`).

**Enum types.** The enum type of a property is its model name, with the enum suffix when that
collides with the datatype or with the property's own name. The model name is never reserved
and never led by a digit, and the suffixed name is neither, nor is it ever the property name;
but it is not checked against the datatype again, so a property `ID` of datatype `IDEnum` gets
the type `IDEnum`.

* `LegalName` — not empty, not led by an ASCII digit, not reserved.
* `enumCaseName_legal_iff` — exactly when an enum case name is legal.
* `enumTypeName_spec` — what an enum type name is and how its rename reads.
-/

namespace SwiftSchema.Naming

open SwiftSchema.Text

/-- A name **legal** under a table: not empty, not led by an ASCII digit, and not reserved. -/
def LegalName (t : ReservedWords) (name : String) : Prop :=
  name ≠ "" ∧ startsWithDigit name.toList = false ∧ t.isReserved name = false

instance (t : ReservedWords) (name : String) : Decidable (LegalName t name) :=
  decidable_of_iff (name ≠ "" ∧ startsWithDigit name.toList = false ∧ t.isReserved name = false)
    Iff.rfl

/-! ## Names under the Swift table -/

section Swift

/-- A Swift reserved word that ends with some text is among the words that end with it. -/
theorem mem_filter_suffix_of_isSwiftReserved {s p : String} (h : isSwiftReserved (s ++ p) = true) :
    s ++ p ∈ swiftReservedWords.filter fun w => p.toList.isSuffixOf w.toList := by
  refine List.mem_filter.mpr ⟨List.contains_iff_mem.mp h, ?_⟩
  rw [String.toList_append, List.isSuffixOf_iff_suffix]
  exact List.suffix_append _ _

/-- No Swift reserved word begins with `number`, and none ends with the enum suffix. -/
theorem swiftReserved_number_enum :
    (swiftReservedWords.filter fun w => "number".toList.isPrefixOf w.toList) = [] ∧
    (swiftReservedWords.filter fun w => "Enum".toList.isSuffixOf w.toList) = [] := by
  decide +kernel

theorem isSwiftReserved_append_enum (s : String) : isSwiftReserved (s ++ "Enum") = false := by
  refine Bool.eq_false_iff.mpr fun h => ?_
  have hmem := mem_filter_suffix_of_isSwiftReserved h
  rw [swiftReserved_number_enum.2] at hmem
  exact List.not_mem_nil hmem

/-- An underscore before text that is not empty gives a legal name. -/
theorem legal_underscore {s : String} (hs : s ≠ "") : LegalName .swift ("_" ++ s) := by
  refine ⟨append_ne_empty_of_left (by decide) s, by rw [String.toList_append]; rfl, ?_⟩
  rw [isReserved_swift]
  refine Bool.eq_false_iff.mpr fun h => hs ?_
  have hmem := mem_filter_of_isSwiftReserved h
  rw [swiftReserved_prefixes.2.2, List.mem_singleton] at hmem
  have hlist := congrArg String.toList hmem
  rw [String.toList_append] at hlist
  exact String.toList_eq_nil_iff.mp (List.append_right_eq_self.mp hlist)

/-- The Swift table has no replacements: it escapes a word with an underscore. -/
@[simp] theorem escape_swift (w : String) : ReservedWords.swift.escape w = "_" ++ w := rfl

/-- The escape of a reserved word is legal. -/
theorem legal_escape_swift {w : String} (h : ReservedWords.swift.isReserved w = true) :
    LegalName .swift (ReservedWords.swift.escape w) := by
  rw [escape_swift]
  refine legal_underscore fun hw => ?_
  rw [hw, isReserved_swift, isSwiftReserved_empty] at h
  exact Bool.false_ne_true h

/-- `number` before any text gives a legal name. -/
theorem legal_number (s : String) : LegalName .swift ("number" ++ s) := by
  refine ⟨append_ne_empty_of_left (by decide) s, by rw [String.toList_append]; rfl, ?_⟩
  rw [isReserved_swift]
  exact isSwiftReserved_append_eq_false swiftReserved_number_enum.1

end Swift

/-! ## Enum case names -/

namespace EnumCase

/-- Whether a value reaches the **last rule** of the decision table: it is not empty, has no
leading digit and no spoken name, is not upper camel, its small form is not reserved, and its
datatype is not numeric. -/
def reachesFallback (t : ReservedWords) (value datatype : String) : Bool :=
  !value.toList.isEmpty && !startsWithDigit value.toList && (symbolNames.lookup value).isNone &&
    !isUpperCamel value.toList && !t.isReserved (String.ofList (lowerAll value.toList)) &&
    !numericTypes.contains datatype

/-- The upper camel values that lower to a reserved word whose small form is not reserved. -/
def reservedCamels : List String := ["DidSet", "WillSet", "DynamicType"]

/-- The reserved words that some upper camel value lowers to, while their small form is not
reserved: checked on every word. -/
theorem reserved_camel_words :
    (swiftReservedWords.filter fun w => lowerAll w.toList != w.toList &&
      isUpperCamel (initialCaps w.toList) && camelize (initialCaps w.toList) true == w.toList &&
      !ReservedWords.swift.isReserved (String.ofList (lowerAll w.toList))) =
      ["didSet", "willSet", "dynamicType"] := by
  decide +kernel

/-- Each symbol's spoken name is legal: checked on every symbol. -/
theorem legal_spoken : ∀ e ∈ symbolNames,
    LegalName .swift
      (String.ofList (camelize (capitalizeFully e.2.toUpper.toList [' ']) true)) := by
  decide +kernel

/-- What the leading-digit rule tests: the value begins with a digit. -/
theorem startsWithDigit_eq_takeWhile (v : List Char) :
    startsWithDigit v = !(v.takeWhile Char.isDigit).isEmpty := by
  cases v with
  | nil => rfl
  | cons c rest => cases hc : c.isDigit <;> simp [List.takeWhile, hc]

/-- An **upper camel** value is lowered at its first character alone, and capitalising that
character gives the value back. -/
theorem camelize_of_isUpperCamel {l : List Char} (h : isUpperCamel l = true) :
    ∃ c rest, l = c :: rest ∧ c.isUpper = true ∧ camelize l true = c.toLower :: rest ∧
      initialCaps (c.toLower :: rest) = l := by
  match l, h with
  | c :: b :: rest, h =>
    simp only [isUpperCamel, Bool.and_eq_true, Bool.or_eq_true, List.all_eq_true] at h
    obtain ⟨⟨hc, hb⟩, hrest⟩ := h
    have halnum : ∀ x ∈ c :: b :: rest, x.isAlphanum = true := by
      intro x hx
      rcases List.mem_cons.mp hx with rfl | hx
      · simp [Char.isAlphanum, Char.isAlpha, hc]
      rcases List.mem_cons.mp hx with rfl | hx
      · rcases hb with hb | hb <;> simp [Char.isAlphanum, Char.isAlpha, hb]
      · exact hrest x hx
    have hascii : c.toNat < 128 :=
      toNat_lt_of_isIdentChar (by simp [isIdentChar, halnum c (by simp)])
    have hnodelim : ∀ x ∈ c :: b :: rest, x ∉ wordDelimiters := by
      intro x hx hmem
      have hdelim : ∀ d ∈ wordDelimiters, d.isAlphanum = false := by simp [wordDelimiters]
      have hx' := halnum x hx
      rw [hdelim x hmem] at hx'
      exact Bool.false_ne_true hx'
    have hjoined : Joined (c :: b :: rest) := by
      simpa using (Joined.append_left hnodelim trivial : Joined ((c :: b :: rest) ++ []))
    have hupper : c.toUpper = c := Char.toUpper_eq_of_not_isLower (Char.not_isLower_of_isUpper hc)
    have hlow := (caseClosed_ascii c hascii).2.2
    refine ⟨c, b :: rest, rfl, hc, ?_, ?_⟩
    · rw [camelize, if_pos rfl, camelFrom_true_of_joined hjoined, initialCaps,
        upper_of_ascii hascii, hupper, List.singleton_append, lowerFirst, lower_of_ascii hascii,
        List.singleton_append]
    · rw [initialCaps, upper_of_ascii hlow, Char.toUpper_toLower_eq_toUpper, hupper,
        List.singleton_append]

/-- A small letter is no digit. -/
theorem isDigit_eq_false_of_isLower {c : Char} (h : c.isLower = true) : c.isDigit = false := by
  simp only [Char.isLower, Bool.and_eq_true, decide_eq_true_eq, UInt32.le_iff_toNat_le] at h
  simp only [Char.isDigit, Bool.and_eq_false_iff, decide_eq_false_iff_not, UInt32.le_iff_toNat_le]
  have : '9'.val.toNat = 57 := rfl
  have : 'a'.val.toNat = 97 := rfl
  omega

/-- The camel-cased form of an upper camel value is legal exactly when it is not one of the
three reserved camels, as long as its small form is not reserved. -/
theorem legal_camelized_iff {v : String} (hcamel : isUpperCamel v.toList = true)
    (hsmall : ReservedWords.swift.isReserved
      (String.ofList (lowerAll (camelize v.toList true))) = false) :
    LegalName .swift (String.ofList (camelize v.toList true)) ↔ v ∉ reservedCamels := by
  obtain ⟨c, rest, hv, hc, hcamelize, hcaps⟩ := camelize_of_isUpperCamel hcamel
  have hne : String.ofList (camelize v.toList true) ≠ "" := by
    rw [hcamelize]
    exact fun h => List.cons_ne_nil _ _ (String.ofList_eq_empty_iff.mp h)
  have hdigit : startsWithDigit (String.ofList (camelize v.toList true)).toList = false := by
    rw [String.toList_ofList, hcamelize, startsWithDigit_cons]
    exact isDigit_eq_false_of_isLower (by simp [Char.isLower_toLower_eq_isAlpha, Char.isAlpha, hc])
  simp only [LegalName, hne, hdigit, ne_eq, not_false_eq_true, true_and, isReserved_swift]
  constructor
  · -- the three reserved camels lower to reserved words
    intro hres hmem
    simp only [reservedCamels, List.mem_cons, List.not_mem_nil, or_false] at hmem
    rcases hmem with rfl | rfl | rfl <;> revert hres <;> decide
  · -- a reserved lowered form is a reserved camel word, and the value is that word capitalised
    intro hnot
    refine Bool.eq_false_iff.mpr fun hres => hnot ?_
    have hcapsw : initialCaps (String.ofList (camelize v.toList true)).toList = v.toList := by
      rw [String.toList_ofList, hcamelize, hcaps]
    -- the lowered form is not reserved, so lowering changes the reserved camel-cased form
    have hlowers : lowerAll (camelize v.toList true) ≠ camelize v.toList true := fun h => by
      rw [h, isReserved_swift, hres] at hsmall
      exact Bool.false_ne_true hsmall.symm
    have hw : String.ofList (camelize v.toList true) ∈ swiftReservedWords.filter fun w =>
        lowerAll w.toList != w.toList && isUpperCamel (initialCaps w.toList) &&
          camelize (initialCaps w.toList) true == w.toList &&
          !ReservedWords.swift.isReserved (String.ofList (lowerAll w.toList)) := by
      refine List.mem_filter.mpr ⟨List.contains_iff_mem.mp hres, ?_⟩
      rw [hcapsw, hcamel, String.toList_ofList, hsmall]
      simp [hlowers]
    rw [reserved_camel_words] at hw
    have hv' : v = String.ofList (initialCaps (String.ofList (camelize v.toList true)).toList) := by
      rw [hcapsw, String.ofList_toList]
    simp only [List.mem_cons, List.not_mem_nil, or_false] at hw
    rcases hw with h | h | h <;> rw [hv', h] <;> decide

/-- The three reserved camels reach the camel rule: no earlier rule answers for them. -/
theorem reservedCamels_reach_camel_rule : ∀ v ∈ reservedCamels,
    v.toList ≠ [] ∧ startsWithDigit v.toList = false ∧ symbolNames.lookup v = none ∧
      isUpperCamel v.toList = true ∧
      ReservedWords.swift.isReserved (String.ofList (lowerAll (camelize v.toList true))) =
        false := by
  decide +kernel

/-- Rules 4 to 8 give a legal name except through the last rule, when it gives an illegal one,
and through the camel rule on a reserved camel. -/
theorem legal_resolveWord_iff (v d : String) :
    LegalName .swift (resolveWord .swift v d).name ↔
      (isUpperCamel v.toList = false →
        ReservedWords.swift.isReserved (String.ofList (lowerAll v.toList)) = false →
        numericTypes.contains d = false → LegalName .swift (String.ofList (fallback v.toList))) ∧
      ¬(v ∈ reservedCamels ∧ d ∉ numericTypes) := by
  by_cases hcamel : isUpperCamel v.toList = true
  · -- the last rule is out of reach; the camel rule answers unless rule 5 or 6 does first
    simp only [resolveWord, hcamel, if_true, Bool.true_eq_false, false_implies, true_and]
    split_ifs with hres hnum
    · -- an escaped small form: no reserved camel has a reserved small form
      refine iff_of_true (legal_escape_swift hres) ?_
      rintro ⟨hmem, -⟩
      rw [(reservedCamels_reach_camel_rule v hmem).2.2.2.2] at hres
      exact Bool.false_ne_true hres
    · -- a spelled number under a numeric datatype
      refine iff_of_true (legal_number _) ?_
      rintro ⟨-, hd⟩
      exact hd (List.contains_iff_mem.mp hnum)
    · -- the camel rule
      have hd : d ∉ numericTypes := fun h => hnum (List.contains_iff_mem.mpr h)
      simpa [Resolved.plain, hd] using legal_camelized_iff hcamel (Bool.eq_false_iff.mpr hres)
  · -- no camel rule: rules 5, 6 and the last one, on the value itself
    have hnot : v ∉ reservedCamels := fun h => hcamel (reservedCamels_reach_camel_rule v h).2.2.2.1
    have hcamel' : isUpperCamel v.toList = false := Bool.eq_false_iff.mpr hcamel
    simp only [resolveWord, hcamel', Bool.false_eq_true, if_false, hnot, false_and,
      not_false_eq_true, and_true, true_implies]
    split_ifs with hres hnum
    · -- an escaped small form
      exact iff_of_true (legal_escape_swift hres) fun h => absurd hres (by simp [h])
    · -- a spelled number
      exact iff_of_true (legal_number _) fun _ h => absurd (h ▸ hnum) Bool.false_ne_true
    · -- the last rule
      simp only [Resolved.plain, Bool.eq_false_iff.mpr hres, Bool.eq_false_iff.mpr hnum,
        true_implies]

end EnumCase

open EnumCase in
/-- An **enum case name** under the Swift table is legal exactly when the value does not reach
the last rule with an illegal result, and is not a reserved camel under a datatype that is not
numeric. Every other rule gives a legal name. -/
theorem enumCaseName_legal_iff (ctx : NamingContext) (v d : String) :
    LegalName .swift (({ context := ctx, reserved := .swift } : Namer).enumCaseName v d).name ↔
      (reachesFallback .swift v d = true → LegalName .swift (String.ofList (fallback v.toList))) ∧
      ¬(v ∈ reservedCamels ∧ d ∉ numericTypes) := by
  unfold Namer.enumCaseName resolve
  simp only
  split_ifs with hempty hdigits
  · -- rule 1: the empty value
    have hv : v.toList = [] := List.isEmpty_iff.mp hempty
    refine iff_of_true (by decide +kernel) ⟨fun h => ?_, fun ⟨hmem, _⟩ =>
      (reservedCamels_reach_camel_rule v hmem).1 hv⟩
    simp [reachesFallback, hempty] at h
  · -- rule 2: leading digits behind an underscore
    have hlead : startsWithDigit v.toList = true := by
      rw [startsWithDigit_eq_takeWhile]
      exact hdigits
    have hne : String.ofList (v.toList.takeWhile Char.isDigit ++
        camelize (v.toList.dropWhile Char.isDigit) false) ≠ "" := by
      rw [Ne, String.ofList_eq_empty_iff, List.append_eq_nil_iff, ← List.isEmpty_iff]
      exact fun h => by simp [h.1] at hdigits
    refine iff_of_true ?_ ⟨fun h => ?_, fun ⟨hmem, _⟩ => ?_⟩
    · simpa [Resolved.renamed, String.ofList_cons] using legal_underscore hne
    · simp [reachesFallback, hlead] at h
    · rw [(reservedCamels_reach_camel_rule v hmem).2.1] at hlead
      exact Bool.false_ne_true hlead
  · cases hlook : symbolNames.lookup v with
    | some spoken =>
      -- rule 3: a spoken symbol
      obtain ⟨l₁, l₂, hl, -⟩ := List.lookup_eq_some_iff.mp hlook
      have hmem : (v, spoken) ∈ symbolNames := hl ▸ List.mem_append_right _ List.mem_cons_self
      have hlegal := legal_spoken (v, spoken) hmem
      simp only [Resolved.plain]
      refine iff_of_true hlegal ⟨fun h => ?_, fun ⟨hmem, _⟩ => ?_⟩
      · simp [reachesFallback, hlook] at h
      · rw [(reservedCamels_reach_camel_rule v hmem).2.2.1] at hlook
        exact Option.some_ne_none spoken hlook.symm
    | none =>
      -- rules 4 to 8
      have hlead : startsWithDigit v.toList = false := by
        rw [startsWithDigit_eq_takeWhile]
        exact Bool.eq_false_iff.mpr hdigits
      dsimp only
      rw [legal_resolveWord_iff]
      simp [reachesFallback, hempty, hlead, hlook]

/-- An upper camel value under a plain datatype is lowered to a legal name. -/
theorem pendingReview_case_legal :
    LegalName .swift
      (({ context := {}, reserved := .swift } : Namer).enumCaseName "PendingReview"
        "String").name :=
  (enumCaseName_legal_iff {} "PendingReview" "String").mpr
    ⟨fun h => absurd h (by decide), by decide⟩

/-- The last two rules can give illegal names: `__` gives the empty name, `-1` the digit-led
`1`, `class_` the reserved `class`, and the camel rule gives the reserved `didSet`. -/
theorem enumCaseName_illegal_cases :
    let n : Namer := { context := {}, reserved := .swift }
    (["__", "-1", "class_", "DidSet"].map fun v => (n.enumCaseName v "String").name) =
        ["", "1", "class", "didSet"] ∧
      ∀ w ∈ ["", "1", "class", "didSet"], ¬LegalName .swift w := by
  decide +kernel

/-! ## Lengths under camel casing -/

section Lengths

open SwiftSchema.Text

/-- Every capital form expansion has at least one character: checked on the whole table. -/
theorem upperExpansions_ne_nil : ∀ e ∈ upperExpansions, e.2 ≠ [] := by
  decide +kernel

/-- The capital form of a character is never empty. -/
theorem upper_ne_nil (c : Char) : upper c ≠ [] := by
  unfold upper caseMap
  split
  · exact List.cons_ne_nil _ _
  · split
    · rename_i cs hcs
      obtain ⟨l₁, l₂, hl, -⟩ := List.lookup_eq_some_iff.mp hcs
      have hmem : (c.toNat, cs) ∈ upperExpansions := hl ▸ List.mem_append_right _ List.mem_cons_self
      simpa using upperExpansions_ne_nil _ hmem
    · split <;> exact List.cons_ne_nil _ _

/-- Camel casing keeps at least one character for each one that is no word delimiter. -/
theorem countP_le_length_camelFrom (b : Bool) (s : List Char) :
    s.countP (!wordDelimiters.contains ·) ≤ (camelFrom b s).length := by
  induction s generalizing b with
  | nil => simp [camelFrom]
  | cons c rest ih =>
    simp only [camelFrom]
    split_ifs with hdrop hstart
    · -- a dropped delimiter, which is not counted
      have hc : wordDelimiters.contains c = true := by
        simp only [Bool.and_eq_true] at hdrop
        exact hdrop.1
      rw [List.countP_cons_of_neg (by rw [hc]; decide)]
      exact ih true
    · have hupper := List.length_pos_iff.mpr (upper_ne_nil c)
      have := ih false
      rw [List.length_append, List.countP_cons]
      split <;> omega
    · have := ih false
      rw [List.length_cons, List.countP_cons]
      split <;> omega

/-- On ASCII text camel casing gives at most one character for each one that is no word
delimiter, and one more for a delimiter at the very end. -/
theorem length_camelFrom_le (b : Bool) {s : List Char} (hs : ∀ c ∈ s, c.toNat < 128) :
    (camelFrom b s).length ≤ s.countP (!wordDelimiters.contains ·) + 1 := by
  induction s generalizing b with
  | nil => simp [camelFrom]
  | cons c rest ih =>
    obtain ⟨hc, hrest⟩ := List.forall_mem_cons.mp hs
    have := ih true hrest
    have := ih false hrest
    simp only [camelFrom]
    -- a kept character is one character; a kept delimiter ends the text
    have hkept : ¬(wordDelimiters.contains c && !rest.isEmpty) = true →
        1 + (camelFrom false rest).length ≤
          (c :: rest).countP (!wordDelimiters.contains ·) + 1 := by
      intro hkeep
      rw [List.countP_cons]
      by_cases hd : wordDelimiters.contains c = true
      · have hnil : rest = [] := by
          rw [hd] at hkeep
          simpa using hkeep
        subst hnil
        simp [camelFrom]
      · simp only [hd, Bool.not_false, if_true]
        omega
    split_ifs with hdrop hstart
    · rw [List.countP_cons]
      omega
    · rw [List.length_append, upper_of_ascii hc, List.length_singleton]
      exact hkept hdrop
    · rw [List.length_cons, Nat.add_comm]
      exact hkept hdrop

/-- Lowering the first character of ASCII text keeps its length. -/
theorem length_lowerFirst {l : List Char} (hl : ∀ c ∈ l, c.toNat < 128) :
    (lowerFirst l).length = l.length := by
  cases l with
  | nil => rfl
  | cons c rest => simp [lowerFirst, lower_of_ascii (hl c List.mem_cons_self)]

theorem sublist_prependAffix (a : Option String) (s : String) :
    s.toList.Sublist (prependAffix a s).toList := by
  cases a with
  | none => exact List.Sublist.refl _
  | some x => simp [prependAffix]

theorem sublist_appendAffix (a : Option String) (s : String) :
    s.toList.Sublist (appendAffix a s).toList := by
  cases a with
  | none => exact List.Sublist.refl _
  | some x => simp [appendAffix]

end Lengths

/-! ## Enum type names -/

section EnumType

variable (ctx : NamingContext) (p d : String)

/-- Under the Swift table a candidate is decorated to itself or to its mark. -/
theorem decorate_swift_name (kind : IdentKind) (c : String) (mark : String → String) :
    (({ context := ctx, reserved := .swift } : Namer).decorate kind c mark).name = c ∨
      (({ context := ctx, reserved := .swift } : Namer).decorate kind c mark).name = mark c := by
  unfold Namer.decorate
  split_ifs <;>
    simp [Resolved.renamed, Resolved.plain, ReservedWords.replacement?, ReservedWords.swift]

/-- The **model name** under the Swift table is neither reserved nor led by a digit, and a
rename records the candidate it starts from. -/
theorem modelName_swift_spec :
    let n : Namer := { context := ctx, reserved := .swift }
    ReservedWords.swift.isReserved (n.modelName p).name = false ∧
      startsWithDigit (n.modelName p).name.toList = false ∧
      ((n.modelName p).rename = none → (n.modelName p).name = n.modelCandidate p) ∧
      ∀ rn, (n.modelName p).rename = some rn →
        rn.fromName = n.modelCandidate p ∧ rn.toName = (n.modelName p).name := by
  dsimp only
  -- the marked candidate is neither reserved nor led by a digit
  have hmarked : ∀ c, ReservedWords.swift.isReserved (Convention.swift.markedType c) = false ∧
      startsWithDigit (Convention.swift.markedType c).toList = false := fun c =>
    ⟨by rw [isReserved_swift]; exact isSwiftReserved_append_eq_false swiftReserved_prefixes.1,
      by rw [Convention.markedType, String.toList_append]; rfl⟩
  unfold Namer.modelName Namer.decorate
  generalize ({ context := ctx, reserved := .swift } : Namer).modelCandidate p = c
  split_ifs with hres hdig
  · simpa [Resolved.renamed, ReservedWords.replacement?, ReservedWords.swift] using hmarked c
  · simpa [Resolved.renamed] using hmarked c
  · exact ⟨Bool.eq_false_iff.mpr hres, Bool.eq_false_iff.mpr hdig, fun _ => rfl,
      fun _ h => absurd h (Option.some_ne_none _).symm⟩

/-- Text not led by a digit, after text not led by one, is not led by one. -/
theorem startsWithDigit_append {a b : List Char} (ha : startsWithDigit a = false)
    (hb : startsWithDigit b = false) : startsWithDigit (a ++ b) = false := by
  cases a with
  | nil => exact hb
  | cons c rest => exact ha

/-- The suffixed model name is never the property name: a screaming property name has no small
letter, while the suffix has one, and any other property name is too short. -/
theorem enumSuffixed_ne_varName :
    let n : Namer := { context := ctx, reserved := .swift }
    (n.modelName p).name ++ "Enum" ≠ (n.varName p).name := by
  dsimp only
  intro h
  have hs := overAlphabet_sanitizeName p
  -- the model name holds the candidate, which keeps every word character of the sanitized name
  have hmodel : (sanitizeName p).toList.countP (!wordDelimiters.contains ·) ≤
      (({ context := ctx, reserved := .swift } : Namer).modelName p).name.toList.length := by
    have hcand : (sanitizeName p).toList.countP (!wordDelimiters.contains ·) ≤
        (({ context := ctx, reserved := .swift } : Namer).modelCandidate p).toList.length := by
      rw [modelCandidate_eq, typeName_swift_eq, String.toList_ofList, camelize,
        if_neg Bool.false_ne_true]
      exact ((sublist_appendAffix _ _).trans (sublist_prependAffix _ _)).countP_le.trans
        (countP_le_length_camelFrom true _)
    rcases decorate_swift_name ctx .model
        (({ context := ctx, reserved := .swift } : Namer).modelCandidate p)
        Convention.swift.markedType with hm | hm
    · rw [Namer.modelName, hm]
      exact hcand
    · rw [Namer.modelName, hm, Convention.markedType, String.toList_append, List.length_append]
      omega
  -- the property name is the value name, perhaps behind an underscore
  obtain ⟨pre, hpre, hvar⟩ : ∃ pre : String, (pre = "" ∨ pre = "_") ∧
      (({ context := ctx, reserved := .swift } : Namer).varName p).name =
        pre ++ Convention.swift.valueName (sanitizeName p) := by
    rcases decorate_swift_name ctx .variable (Convention.swift.valueName (sanitizeName p))
        ("_" ++ ·) with hv | hv
    · exact ⟨"", .inl rfl, by rw [Namer.varName, hv, String.empty_append]⟩
    · exact ⟨"_", .inr rfl, by rw [Namer.varName, hv]⟩
  rw [hvar] at h
  by_cases hscream : isScreaming (sanitizeName p).toList = true
  · -- the suffix has a small letter, which a screaming name lacks
    have hn : 'n' ∈ (pre ++ sanitizeName p).toList := by
      rw [← valueName_of_isScreaming hscream, ← h]
      simp
    rw [String.toList_append, List.mem_append] at hn
    rcases hn with hn | hn
    · rcases hpre with rfl | rfl <;> simp at hn
    · have := List.all_eq_true.mp hscream 'n' hn
      exact absurd this (by decide)
  · -- otherwise the value name is no longer than the word characters, plus one
    have hlen : (Convention.swift.valueName (sanitizeName p)).toList.length ≤
        (sanitizeName p).toList.countP (!wordDelimiters.contains ·) + 1 := by
      rw [valueName_of_not_isScreaming hscream, String.toList_ofList, camelize, if_pos rfl,
        length_lowerFirst (forall_mem_camelFrom caseClosed_ascii true hs.ascii)]
      exact length_camelFrom_le true hs.ascii
    have hpre_len : pre.toList.length ≤ 1 := by rcases hpre with rfl | rfl <;> simp
    have heq := congrArg (fun t => t.toList.length) h
    simp only [String.toList_append, List.length_append] at heq
    have : "Enum".toList.length = 4 := rfl
    omega

/-- Under the Swift table the enum type name is the model name, suffixed on a collision with
the datatype or the property name; a rename starts from the model name's own. -/
theorem enumTypeName_swift :
    let n : Namer := { context := ctx, reserved := .swift }
    n.enumTypeName p d =
      if (n.modelName p).name = d ∨ (n.modelName p).name = (n.varName p).name then
        .renamed (Namer.enumTypeRename (n.modelName p).rename (n.modelName p).name
          ((n.modelName p).name ++ "Enum") .collision)
      else
        ⟨(n.modelName p).name, (n.modelName p).rename.map fun rn => { rn with kind := .enumType }⟩ := by
  dsimp only
  obtain ⟨hres, hdig, -, hsome⟩ := modelName_swift_spec ctx p
  have hsuffix : Convention.swift.enumSuffix = "Enum" := rfl
  unfold Namer.enumTypeName
  generalize ({ context := ctx, reserved := .swift } : Namer).modelName p = m at hres hdig hsome ⊢
  generalize (({ context := ctx, reserved := .swift } : Namer).varName p).name = var
  split_ifs with hcol
  · have hcol' : (m.name == d || m.name == var) = true := by simpa using hcol
    -- the suffixed name is not led by a digit either
    have hdig' := startsWithDigit_append hdig (rfl : startsWithDigit "Enum".toList = false)
    rw [← String.toList_append] at hdig'
    simp only [hres, hcol', Bool.false_eq_true, if_false, if_true]
    simp only [hsuffix, hdig', Bool.false_eq_true, if_false]
    rfl
  · have hcol' : (m.name == d || m.name == var) = false := by simpa using hcol
    simp only [hres, hcol', hdig, Bool.false_eq_true, if_false]
    cases hr : m.rename with
    | none => rfl
    | some rn => simp [Resolved.renamed, (hsome rn hr).2]

/-- The **enum type name** under the Swift table is never reserved, never led by a digit and
never the property name; it is the datatype exactly when the model name is the property name
and the datatype is the suffixed model name; and a rename is an enum type rename from the model
candidate to the name. -/
theorem enumTypeName_spec :
    let n : Namer := { context := ctx, reserved := .swift }
    let r := n.enumTypeName p d
    ReservedWords.swift.isReserved r.name = false ∧ startsWithDigit r.name.toList = false ∧
      r.name ≠ (n.varName p).name ∧
      (r.name = d ↔
        (n.modelName p).name = (n.varName p).name ∧ d = (n.modelName p).name ++ "Enum") ∧
      ∀ rn, r.rename = some rn →
        rn.kind = .enumType ∧ rn.fromName = n.modelCandidate p ∧ rn.toName = r.name := by
  dsimp only
  obtain ⟨hres, hdig, hnone, hsome⟩ := modelName_swift_spec ctx p
  have hvar := enumSuffixed_ne_varName ctx p
  dsimp only at hvar
  rw [enumTypeName_swift]
  generalize ({ context := ctx, reserved := .swift } : Namer).modelName p = m
    at hres hdig hnone hsome hvar ⊢
  split_ifs with hcol
  · -- a collision: the suffixed model name
    simp only [Resolved.renamed, Namer.enumTypeRename]
    refine ⟨by rw [isReserved_swift]; exact isSwiftReserved_append_enum _, ?_, hvar,
      ⟨fun hd => ⟨hcol.resolve_left fun hmd => ?_, hd.symm⟩, fun h => h.2.symm⟩, ?_⟩
    · rw [String.toList_append]
      exact startsWithDigit_append hdig rfl
    · -- the suffix makes the name longer than the datatype it would equal
      have heq := congrArg (fun t => t.toList.length) (hd.trans hmd.symm)
      simp only [String.toList_append, List.length_append] at heq
      have : "Enum".toList.length = 4 := rfl
      omega
    · rintro rn hrn
      simp only [Option.some.injEq] at hrn
      subst hrn
      refine ⟨rfl, ?_, rfl⟩
      cases hr : m.rename with
      | none => simpa [hr] using hnone hr
      | some rn' => simpa [hr] using (hsome rn' hr).1
  · -- no collision: the model name, with its rename as an enum type rename
    rw [not_or] at hcol
    refine ⟨hres, hdig, hcol.2, iff_of_false hcol.1 fun h => hcol.2 h.1, ?_⟩
    rintro rn hrn
    obtain ⟨rn', hrn', rfl⟩ := Option.map_eq_some_iff.mp hrn
    exact ⟨rfl, (hsome rn' hrn').1, (hsome rn' hrn').2⟩

/-- A property that collides with its datatype gets the suffixed type, which differs from the
datatype since the property name is not the model name. -/
theorem status_enum_type_apart :
    (({ context := {}, reserved := .swift } : Namer).enumTypeName "status" "Status").name ≠
      "Status" := fun h =>
  absurd ((enumTypeName_spec {} "status" "Status").2.2.2.1.mp h).1 (by decide)

/-- The suffixed name is not checked against the datatype again: the property `ID`, whose
model name is its property name, gets the type `IDEnum` under the datatype `IDEnum`. -/
theorem enumTypeName_meets_datatype :
    (({ context := {}, reserved := .swift } : Namer).enumTypeName "ID" "IDEnum").name =
      "IDEnum" := by
  decide +kernel

end EnumType

end SwiftSchema.Naming
