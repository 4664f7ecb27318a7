import Mathlib
import SwiftSchema.Text.Identifier
import SwiftSchema.Text.Casing

/-! # The identifier alphabet under sanitizing and casing

Names are written over the identifier alphabet: ASCII letters, ASCII digits and `_`.
Sanitizing writes every raw name over it and keeps a name that is over it already. Camel
casing changes the case of ASCII letters and drops delimiters that something follows, so it
keeps every class of ASCII characters that casing keeps, and it empties no ASCII name.

* `toNat_lt_of_isIdentChar` — the alphabet is ASCII.
* `CaseClosed` — a class of ASCII characters that casing keeps: the ASCII characters and the
  alphabet are two.
* `isIdentChar_of_mem_sanitize`, `sanitize_of_all_ident` — sanitizing writes over the alphabet
  and keeps what is over it.
* `forall_mem_camelize`, `camelize_eq_nil_iff` — camel casing keeps a case-closed class, and
  empties exactly the empty ASCII name.
-/

namespace SwiftSchema.Text

/-! ## Characters -/

/-- The identifier alphabet is ASCII. -/
theorem toNat_lt_of_isIdentChar {c : Char} (h : isIdentChar c = true) : c.toNat < 128 := by
  simp only [isIdentChar, Char.isAlphanum, Char.isAlpha, Char.isUpper, Char.isLower,
    Char.isDigit, Bool.or_eq_true, Bool.and_eq_true, decide_eq_true_eq, beq_iff_eq,
    UInt32.le_iff_toNat_le] at h
  unfold Char.toNat
  rcases h with ((h | h) | h) | rfl
  · change 65 ≤ c.val.toNat ∧ c.val.toNat ≤ 90 at h
    omega
  · change 97 ≤ c.val.toNat ∧ c.val.toNat ≤ 122 at h
    omega
  · change 48 ≤ c.val.toNat ∧ c.val.toNat ≤ 57 at h
    omega
  · decide

/-- Casing an ASCII character gives an ASCII character, and one of the alphabet when it was
one; checked on each of the 128 characters. -/
theorem ascii_case_table : ∀ n : Fin 128,
    (Char.ofNat n).toUpper.toNat < 128 ∧ (Char.ofNat n).toLower.toNat < 128 ∧
      (isIdentChar (Char.ofNat n) = true →
        isIdentChar (Char.ofNat n).toUpper = true ∧ isIdentChar (Char.ofNat n).toLower = true) := by
  decide

/-- A class of **ASCII characters that casing keeps**. -/
def CaseClosed (P : Char → Prop) : Prop :=
  ∀ c, P c → c.toNat < 128 ∧ P c.toUpper ∧ P c.toLower

theorem caseClosed_ascii : CaseClosed (·.toNat < 128) := by
  intro c hc
  have h := ascii_case_table ⟨c.toNat, hc⟩
  simp only [Char.ofNat_toNat] at h
  exact ⟨hc, h.1, h.2.1⟩

theorem caseClosed_isIdentChar : CaseClosed (isIdentChar · = true) := by
  intro c hc
  have hlt := toNat_lt_of_isIdentChar hc
  have h := ascii_case_table ⟨c.toNat, hlt⟩
  simp only [Char.ofNat_toNat] at h
  exact ⟨hlt, h.2.2 hc⟩

/-! ## Sanitizing -/

theorem isIdentChar_of_sanitizeChar {c d : Char} (h : sanitizeChar c = some d) :
    isIdentChar d = true := by
  unfold sanitizeChar at h
  split_ifs at h with hsep hident
  · cases h
    decide
  · cases h
    exact hident

/-- Sanitizing writes over the identifier alphabet. -/
theorem isIdentChar_of_mem_sanitize {s : List Char} {c : Char} (h : c ∈ sanitize s) :
    isIdentChar c = true := by
  unfold sanitize at h
  split_ifs at h
  · -- `$` alone reads as `value`
    simp only [List.mem_cons, List.not_mem_nil, or_false] at h
    rcases h with rfl | rfl | rfl | rfl | rfl <;> decide
  · obtain ⟨a, -, ha⟩ := List.mem_filterMap.mp h
    exact isIdentChar_of_sanitizeChar ha

theorem sanitizeChar_of_isIdentChar {c : Char} (h : isIdentChar c = true) :
    sanitizeChar c = some c := by
  have hsep : ¬(c = '[' ∨ c = '(' ∨ c = '.' ∨ c = '-' ∨ c = ' ') := by
    rintro (rfl | rfl | rfl | rfl | rfl) <;> revert h <;> decide
  simp [sanitizeChar, hsep, h]

theorem dropEmptyBrackets_of_not_mem {s : List Char} (h : '[' ∉ s) : dropEmptyBrackets s = s := by
  fun_induction dropEmptyBrackets s with
  | case1 rest => simp at h
  | case2 c rest _ ih => rw [ih fun h' => h (List.mem_cons_of_mem c h')]
  | case3 => rfl

/-- Sanitizing keeps a name over the identifier alphabet. -/
theorem sanitize_of_all_ident {s : List Char} (hs : ∀ c ∈ s, isIdentChar c = true) :
    sanitize s = s := by
  have hdollar : s ≠ ['$'] := by
    rintro rfl
    exact absurd (hs '$' List.mem_cons_self) (by decide)
  have hbracket : '[' ∉ s := fun h => absurd (hs '[' h) (by decide)
  rw [sanitize, if_neg hdollar, dropEmptyBrackets_of_not_mem hbracket]
  calc s.filterMap sanitizeChar = s.filterMap some :=
        List.filterMap_congr fun c hc => sanitizeChar_of_isIdentChar (hs c hc)
    _ = s := List.filterMap_some

/-! ## Camel casing -/

section CaseClosed

variable {P : Char → Prop}

theorem forall_mem_camelFrom (hP : CaseClosed P) (b : Bool) {s : List Char}
    (hs : ∀ c ∈ s, P c) : ∀ c ∈ camelFrom b s, P c := by
  induction s generalizing b with
  | nil => simp [camelFrom]
  | cons c rest ih =>
    obtain ⟨hc, hrest⟩ := List.forall_mem_cons.mp hs
    have hcase := hP c hc
    unfold camelFrom
    split_ifs
    · exact ih true hrest
    · rw [upper_of_ascii hcase.1, List.singleton_append]
      exact List.forall_mem_cons.mpr ⟨hcase.2.1, ih false hrest⟩
    · exact List.forall_mem_cons.mpr ⟨hc, ih false hrest⟩

theorem forall_mem_lowerFirst (hP : CaseClosed P) {s : List Char} (hs : ∀ c ∈ s, P c) :
    ∀ c ∈ lowerFirst s, P c := by
  cases s with
  | nil => simp [lowerFirst]
  | cons c rest =>
    obtain ⟨hc, hrest⟩ := List.forall_mem_cons.mp hs
    have hcase := hP c hc
    rw [lowerFirst, lower_of_ascii hcase.1, List.singleton_append]
    exact List.forall_mem_cons.mpr ⟨hcase.2.2, hrest⟩

/-- Camel casing keeps every class of ASCII characters that casing keeps. -/
theorem forall_mem_camelize (hP : CaseClosed P) {s : List Char} (b : Bool) (hs : ∀ c ∈ s, P c) :
    ∀ c ∈ camelize s b, P c := by
  unfold camelize
  split
  · exact forall_mem_lowerFirst hP (forall_mem_camelFrom hP true hs)
  · exact forall_mem_camelFrom hP true hs

end CaseClosed

theorem camelFrom_ne_nil {s : List Char} (hs : ∀ c ∈ s, c.toNat < 128) (hne : s ≠ []) (b : Bool) :
    camelFrom b s ≠ [] := by
  induction s generalizing b with
  | nil => exact absurd rfl hne
  | cons c rest ih =>
    unfold camelFrom
    split_ifs with hdelim
    · -- a delimiter is dropped only when something follows it
      have hrest : rest ≠ [] := by
        simp only [Bool.and_eq_true, Bool.not_eq_eq_eq_not, Bool.not_true, List.isEmpty_eq_false_iff]
          at hdelim
        exact hdelim.2
      exact ih (List.forall_mem_cons.mp hs).2 hrest true
    · rw [upper_of_ascii (hs c List.mem_cons_self)]
      simp
    · simp

/-- Camel casing empties exactly the empty ASCII name. -/
theorem camelize_eq_nil_iff {s : List Char} (hs : ∀ c ∈ s, c.toNat < 128) (b : Bool) :
    camelize s b = [] ↔ s = [] := by
  constructor
  · intro h
    by_contra hne
    have hcamel := camelFrom_ne_nil hs hne true
    unfold camelize at h
    split at h
    · obtain ⟨c, rest, hcr⟩ := List.exists_cons_of_ne_nil hcamel
      have hc : c.toNat < 128 :=
        forall_mem_camelFrom caseClosed_ascii true hs c (hcr ▸ List.mem_cons_self)
      rw [hcr, lowerFirst, lower_of_ascii hc] at h
      simp at h
    · exact hcamel h
  · rintro rfl
    cases b <;> rfl

end SwiftSchema.Text
