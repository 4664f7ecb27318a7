import SwiftSchema.Proofs.Alphabet
import SwiftSchema.Manifest.Check

/-! # What checking a manifest guarantees

A manifest is handed out only once it is checked. Its affixes are then written over the
identifier alphabet, its configured words are not empty, and every replacement is a legal
identifier that is not itself a configured word. Its reserved-word table lists the Swift words
and gives a replacement exactly to the configured words.

* `Manifest.Checked` — the guarantees; `Manifest.checked_of_check` — every manifest that passes
  its check has them; `Manifest.check_of_ofText` — every manifest read from a text passed it.
* `isReserved_reservedTable` — the table reserves the Swift words and the configured words.
* `mem_of_replacement?_reservedTable` — each replacement the table gives is a configured one.
-/

namespace SwiftSchema

open SwiftSchema.Naming SwiftSchema.Text

/-- A **checked manifest**: affixes that are not empty and that sanitizing keeps, configured
words that are not empty, and replacements that are legal identifiers and not configured words. -/
structure Manifest.Checked (m : Manifest) : Prop where
  leading : ∀ x, m.naming.leading = some x → x ≠ "" ∧ sanitizeName x = x
  trailing : ∀ x, m.naming.trailing = some x → x ≠ "" ∧ sanitizeName x = x
  word_ne_empty : ∀ p ∈ m.reservedWords, p.1 ≠ ""
  replacement_legal : ∀ p ∈ m.reservedWords, identifierFault? p.2 = none
  replacement_not_word : ∀ p ∈ m.reservedWords, p.2 ∉ m.reservedWords.map (·.1)

/-! ## The check -/

section Check

variable {ε α β : Type} {ctx : Source}

theorem bind_eq_ok {x : Except ε α} {f : α → Except ε β} {b : β} (h : (x >>= f) = .ok b) :
    ∃ a, x = .ok a ∧ f a = .ok b := by
  cases x with
  | error e => cases h
  | ok a => exact ⟨a, rfl, h⟩

theorem forM_eq_ok {f : α → Except ε Unit} :
    ∀ {l : List α}, l.forM f = .ok () → ∀ a ∈ l, f a = .ok ()
  | [], _, a, ha => absurd ha List.not_mem_nil
  | b :: rest, h, a, ha => by
    unfold List.forM at h
    obtain ⟨⟨⟩, hb, hrest⟩ := bind_eq_ok h
    rcases List.mem_cons.mp ha with rfl | ha
    · exact hb
    · exact forM_eq_ok hrest a ha

theorem affixFault?_eq_none_iff {x : String} :
    affixFault? x = none ↔ x ≠ "" ∧ sanitizeName x = x := by
  unfold affixFault?
  by_cases hx : x = ""
  · simp [hx]
  · have hempty : x.isEmpty = false := String.isEmpty_eq_false_iff.mpr hx
    by_cases hs : sanitizeName x = x <;> simp [hempty, hs, hx]

theorem checkAffix_eq_ok {context : String} {a : Option String}
    (h : Manifest.checkAffix ctx context a = .ok ()) :
    ∀ x, a = some x → x ≠ "" ∧ sanitizeName x = x := by
  rintro x rfl
  cases hfault : affixFault? x with
  | none => exact affixFault?_eq_none_iff.mp hfault
  | some reason => simp [Manifest.checkAffix, hfault] at h

theorem checkReplacement_eq_ok {words : List (String × String)} {word replacement : String}
    (h : Manifest.checkReplacement ctx words word replacement = .ok ()) :
    word ≠ "" ∧ replacement ∉ words.map (·.1) ∧ identifierFault? replacement = none := by
  unfold Manifest.checkReplacement at h
  split_ifs at h with hword hswift hself hconfigured
  split at h
  · cases h
  · rename_i hfault
    refine ⟨fun hw => ?_, fun hr => ?_, hfault⟩
    · rw [hw] at hword
      exact hword rfl
    · obtain ⟨p, hp, hpr⟩ := List.mem_map.mp hr
      exact hconfigured (List.any_eq_true.mpr ⟨p, hp, decide_eq_true hpr⟩)

/-- A manifest that passes the check is checked. -/
theorem Manifest.checked_of_check {m : Manifest} (h : m.check ctx = .ok ()) : m.Checked := by
  obtain ⟨⟨⟩, hleading, h⟩ := bind_eq_ok h
  obtain ⟨⟨⟩, htrailing, hwords⟩ := bind_eq_ok h
  have hpairs := forM_eq_ok hwords
  exact ⟨checkAffix_eq_ok hleading, checkAffix_eq_ok htrailing,
    fun p hp => (checkReplacement_eq_ok (hpairs p hp)).1,
    fun p hp => (checkReplacement_eq_ok (hpairs p hp)).2.2,
    fun p hp => (checkReplacement_eq_ok (hpairs p hp)).2.1⟩

/-- A manifest read from a text passed its check against that text. -/
theorem Manifest.check_of_ofText {text filename : String} {m : Manifest}
    (h : Manifest.ofText text filename = .ok m) : m.check ⟨text, filename⟩ = .ok () := by
  obtain ⟨entries, -, h⟩ := bind_eq_ok h
  obtain ⟨m', -, h⟩ := bind_eq_ok h
  obtain ⟨⟨⟩, hcheck, hm⟩ := bind_eq_ok h
  cases hm
  exact hcheck

end Check

/-! ## The reserved-word table -/

namespace Naming.ReservedWords

variable {t : ReservedWords} {w r k : String} {q : String × String}

theorem words_setReplacement : (t.setReplacement w r).words = t.words := by
  unfold setReplacement
  split <;> rfl

theorem mem_setReplacement (h : q ∈ (t.setReplacement w r).replacements) :
    q ∈ t.replacements ∨ q = (w, r) := by
  unfold setReplacement at h
  split at h
  · obtain ⟨p, hp, rfl⟩ := List.mem_map.mp h
    split
    · exact .inr rfl
    · exact .inl hp
  · exact List.mem_append.mp h |>.imp id List.mem_singleton.mp

theorem mem_keys_setReplacement :
    k ∈ (t.setReplacement w r).replacements.map (·.1) ↔
      k ∈ t.replacements.map (·.1) ∨ k = w := by
  unfold setReplacement
  split
  · rename_i hw
    -- replacing in place keeps the words, and `w` is one of them
    have hkeys : ((t.replacements.map fun p => if p.1 == w then (w, r) else p).map (·.1)) =
        t.replacements.map (·.1) := by
      rw [List.map_map]
      apply List.map_congr_left
      intro p _
      by_cases hp : p.1 = w <;> simp [hp]
    have hmem : w ∈ t.replacements.map (·.1) := by
      obtain ⟨p, hp, hpw⟩ := List.any_eq_true.mp hw
      exact List.mem_map.mpr ⟨p, hp, beq_iff_eq.mp hpw⟩
    rw [hkeys]
    constructor
    · exact .inl
    · rintro (hk | rfl)
      · exact hk
      · exact hmem
  · simp

theorem words_withReplacements (pairs : List (String × String)) :
    (t.withReplacements pairs).words = t.words := by
  induction pairs generalizing t with
  | nil => rfl
  | cons p rest ih =>
    rw [withReplacements, List.foldl_cons, ← withReplacements, ih, words_setReplacement]

theorem mem_withReplacements {pairs : List (String × String)}
    (h : q ∈ (t.withReplacements pairs).replacements) : q ∈ t.replacements ∨ q ∈ pairs := by
  induction pairs generalizing t with
  | nil => exact .inl h
  | cons p rest ih =>
    rw [withReplacements, List.foldl_cons, ← withReplacements] at h
    rcases ih h with h | h
    · rcases mem_setReplacement h with h | rfl
      · exact .inl h
      · exact .inr List.mem_cons_self
    · exact .inr (List.mem_cons_of_mem p h)

theorem mem_keys_withReplacements {pairs : List (String × String)} :
    k ∈ (t.withReplacements pairs).replacements.map (·.1) ↔
      k ∈ t.replacements.map (·.1) ∨ k ∈ pairs.map (·.1) := by
  induction pairs generalizing t with
  | nil => simp [withReplacements]
  | cons p rest ih =>
    rw [withReplacements, List.foldl_cons, ← withReplacements, ih, mem_keys_setReplacement]
    simp only [List.map_cons, List.mem_cons]
    tauto

end Naming.ReservedWords

open Naming.ReservedWords in
/-- A manifest's table reserves the Swift words and the configured words, and no others. -/
theorem isReserved_reservedTable (m : Manifest) (name : String) :
    m.reservedTable.isReserved name = true ↔
      isSwiftReserved name = true ∨ name ∈ m.reservedWords.map (·.1) := by
  unfold ReservedWords.isReserved ReservedWords.replacement? Manifest.reservedTable isSwiftReserved
  rw [words_withReplacements, Bool.or_eq_true, List.lookup_isSome_iff]
  apply or_congr Iff.rfl
  have hkey : name ∈ (ReservedWords.swift.withReplacements m.reservedWords).replacements.map (·.1)
      ↔ name ∈ m.reservedWords.map (·.1) := by
    rw [mem_keys_withReplacements]
    simp [ReservedWords.swift]
  rw [← hkey, List.mem_map]
  exact exists_congr fun p => and_congr_right fun _ => beq_iff_eq.trans eq_comm

open Naming.ReservedWords in
/-- Each replacement a manifest's table gives is one the manifest configures. -/
theorem mem_of_replacement?_reservedTable {m : Manifest} {word replacement : String}
    (h : m.reservedTable.replacement? word = some replacement) :
    (word, replacement) ∈ m.reservedWords := by
  obtain ⟨l₁, l₂, hl, -⟩ := List.lookup_eq_some_iff.mp h
  have hmem : (word, replacement) ∈ m.reservedTable.replacements := by
    rw [hl]
    exact List.mem_append_right _ List.mem_cons_self
  rcases mem_withReplacements hmem with h | h
  · simp [swift] at h
  · exact h

end SwiftSchema
