import Mathlib
import SwiftSchema.Pipeline.Lower

/-! # Escaped descriptions

Lowering writes each description through `escapeDescription`: tabs and line breaks become
spaces, double quotes are dropped, and then each comment end `*/` and each comment start `/*`
gets an underscore in its middle. The result holds no double quote, no tab or line break and
no comment delimiter; apart from the underscores put in, it is the flattened text without its
quotes, so a backslash stays as it is. A string literal reads a backslash as the start of an
escape (`\t` is a tab, `\(` opens an interpolation), so a description that holds one does not
stand for itself there: the escape leaves that case open (`escapeDescription_keeps_backslash`).

Each step could undo another: dropping a quote can join `*` and `/`, and breaking a comment end
puts an underscore beside a `/` or a `*`. What settles it is that breaking only puts underscores
in, so two characters other than the underscore that stand side by side after breaking stood
side by side before.

* `Underscored` — a text with underscores put in; it keeps every pair of neighbours that are
  not underscores (`Underscored.infix_pair`).
* `underscored_breakPair`, `not_infix_breakPair` — breaking a pair puts underscores in and
  leaves no such pair.
* `Embeddable` — what the escape makes of a text for a string literal or a block comment; a
  backslash is not among its conditions.
* `escapeDescription_embeddable` — every escaped description is embeddable, and keeps every
  character of the flattened text but its quotes, backslashes included.
-/

namespace SwiftSchema.Text

/-! ## Underscores put in -/

/-- A text with **underscores put in**: the characters of the first text in order, with
underscores anywhere among them. -/
inductive Underscored : List Char → List Char → Prop
  | nil : Underscored [] []
  | keep (c : Char) {s t : List Char} : Underscored s t → Underscored (c :: s) (c :: t)
  | mark {s t : List Char} : Underscored s t → Underscored s ('_' :: t)

namespace Underscored

variable {s t u : List Char}

theorem trans (h₁ : Underscored s t) (h₂ : Underscored t u) : Underscored s u := by
  induction h₂ generalizing s with
  | nil => cases h₁; exact .nil
  | keep c _ ih =>
    cases h₁ with
    | keep _ h₁ => exact .keep c (ih h₁)
    | mark h₁ => exact .mark (ih h₁)
  | mark _ ih => exact .mark (ih h₁)

/-- Every character put in is an underscore. -/
theorem mem (h : Underscored s t) {c : Char} (hc : c ∈ t) : c ∈ s ∨ c = '_' := by
  induction h with
  | nil => simp at hc
  | keep d _ ih =>
    rcases List.mem_cons.mp hc with rfl | hc
    · exact .inl List.mem_cons_self
    · exact (ih hc).imp_left (List.mem_cons_of_mem d)
  | mark _ ih =>
    rcases List.mem_cons.mp hc with rfl | hc
    · exact .inr rfl
    · exact ih hc

/-- Without its underscores the text is what it was. -/
theorem filter (h : Underscored s t) : t.filter (· != '_') = s.filter (· != '_') := by
  induction h with
  | nil => rfl
  | keep c _ ih => simp only [List.filter_cons, ih]
  | mark _ ih => simpa using ih

theorem eq_cons_of_cons {c : Char} (h : Underscored s (c :: t)) (hc : c ≠ '_') :
    ∃ s', s = c :: s' := by
  cases h with
  | keep _ _ => exact ⟨_, rfl⟩
  | mark _ => exact absurd rfl hc

/-- **Neighbours are kept**: two characters other than the underscore that stand side by side
once underscores are put in stood side by side before. -/
theorem infix_pair (h : Underscored s t) {x y : Char} (hx : x ≠ '_') (hy : y ≠ '_')
    (hxy : [x, y] <:+: t) : [x, y] <:+: s := by
  induction h with
  | nil => exact absurd (List.eq_nil_of_infix_nil hxy) (List.cons_ne_nil _ _)
  | @keep c s t h ih =>
    rcases List.infix_cons_iff.mp hxy with hpre | hin
    · -- the pair starts here, so its second character starts the rest on both sides
      obtain ⟨rfl, hsecond⟩ := List.cons_prefix_cons.mp hpre
      cases t with
      | nil => simp at hsecond
      | cons z t =>
        obtain rfl := List.singleton_prefix_cons_iff.mp hsecond
        obtain ⟨s', rfl⟩ := h.eq_cons_of_cons hy
        exact (List.prefix_append [x, y] s').isInfix
    · exact List.infix_cons (ih hin)
  | mark _ ih =>
    rcases List.infix_cons_iff.mp hxy with hpre | hin
    · -- a pair starting at the underscore put in
      exact absurd (List.cons_prefix_cons.mp hpre).1 hx
    · exact ih hin

end Underscored

/-! ## Breaking a pair -/

section Pair

variable {a b : Char}

theorem underscored_breakFrom (p : Bool) (s : List Char) : Underscored s (breakFrom a b p s) := by
  induction s generalizing p with
  | nil => exact .nil
  | cons c rest ih =>
    by_cases hpair : (p && c == b) = true
    · -- the pair is broken: `c` is its `b`, written after the underscore
      have hc : c = b := by simpa using (Bool.and_eq_true_iff.mp hpair).2
      rw [breakFrom, if_pos hpair]
      subst hc
      exact .mark (.keep c (ih false))
    · rw [breakFrom, if_neg hpair]
      exact .keep c (ih _)

/-- Breaking a pair only puts underscores in. -/
theorem underscored_breakPair (s : List Char) : Underscored s (breakPair a b s) :=
  underscored_breakFrom false s

theorem not_infix_cons_of_ne {x : Char} {t : List Char} (hx : x ≠ a) (ht : ¬[a, b] <:+: t) :
    ¬[a, b] <:+: x :: t := by
  intro h
  rcases List.infix_cons_iff.mp h with hpre | hin
  · exact hx (List.cons_prefix_cons.mp hpre).1.symm
  · exact ht hin

theorem not_infix_cons_cons {x y : Char} {t : List Char} (hxy : ¬(x = a ∧ y = b))
    (ht : ¬[a, b] <:+: y :: t) : ¬[a, b] <:+: x :: y :: t := by
  intro h
  rcases List.infix_cons_iff.mp h with hpre | hin
  · obtain ⟨hx, hpre⟩ := List.cons_prefix_cons.mp hpre
    exact hxy ⟨hx.symm, (List.singleton_prefix_cons_iff.mp hpre).symm⟩
  · exact ht hin

/-- After breaking, no `a` is followed by a `b`, not even the `a` written just before when the
scan starts after one. -/
theorem not_infix_breakFrom (hab : a ≠ b) (ha : a ≠ '_') (hb : b ≠ '_') (p : Bool)
    (s : List Char) : ¬[a, b] <:+: (if p then [a] else []) ++ breakFrom a b p s := by
  induction s generalizing p with
  | nil =>
    intro h
    have hlen := h.length_le
    cases p <;> simp [breakFrom] at hlen
  | cons c rest ih =>
    -- the character just written opens a pair only if it is an `a`, and the scan knows it
    have htail : ¬[a, b] <:+: c :: breakFrom a b (c == a) rest := by
      by_cases hca : c = a
      · subst hca
        simpa using ih true
      · rw [show (c == a) = false from beq_false_of_ne hca]
        exact not_infix_cons_of_ne hca (by simpa using ih false)
    by_cases hpair : (p && c == b) = true
    · -- the pair is broken: an `a`, the underscore, then `c`, which opens no pair
      obtain rfl : p = true := by simpa using (Bool.and_eq_true_iff.mp hpair).1
      rw [breakFrom, if_pos hpair, if_pos rfl, List.singleton_append]
      have hrest : ¬[a, b] <:+: breakFrom a b false rest := by simpa using ih false
      exact not_infix_cons_cons (fun h => hb h.2.symm)
        (not_infix_cons_of_ne (Ne.symm ha) (not_infix_cons_of_ne (Ne.symm hab) hrest))
    · rw [breakFrom, if_neg hpair]
      cases p with
      | false => simpa using htail
      | true =>
        have hcb : ¬(a = a ∧ c = b) := fun h => hpair (by simp [h.2])
        simpa using not_infix_cons_cons hcb htail

/-- Breaking leaves no pair. -/
theorem not_infix_breakPair (hab : a ≠ b) (ha : a ≠ '_') (hb : b ≠ '_') (s : List Char) :
    ¬[a, b] <:+: breakPair a b s := by
  simpa [breakPair] using not_infix_breakFrom hab ha hb false s

end Pair

/-! ## The escape of a description -/

/-- Broken comment delimiters: only underscores are put in, and neither a comment end nor a
comment start is left. Breaking the starts puts no comment end back, since it keeps the
neighbours that are not underscores. -/
theorem breakComments_spec (s : List Char) :
    Underscored s (breakComments s) ∧ ¬['*', '/'] <:+: breakComments s ∧
      ¬['/', '*'] <:+: breakComments s := by
  have hends := @underscored_breakPair '*' '/' s
  have hstarts := @underscored_breakPair '/' '*' (breakPair '*' '/' s)
  refine ⟨hends.trans hstarts, fun h => ?_, not_infix_breakPair (by decide) (by decide) (by decide) _⟩
  exact not_infix_breakPair (by decide) (by decide) (by decide) s
    (hstarts.infix_pair (by decide) (by decide) h)

theorem mem_flattenLines {s : List Char} {c : Char} (h : c ∈ flattenLines s) :
    c ≠ '\t' ∧ c ≠ '\n' ∧ c ≠ '\r' := by
  obtain ⟨d, -, rfl⟩ := List.mem_map.mp h
  split_ifs <;> grind

theorem mem_dropQuotes {s : List Char} {c : Char} : c ∈ dropQuotes s ↔ c ∈ s ∧ c ≠ '"' := by
  simp [dropQuotes]

/-- What the escape makes of a text **for a string literal or a block comment** of generated
code: no quote to end the literal, no tab or line break, and no comment delimiter. A backslash,
which a string literal reads as the start of an escape, is not among the conditions. -/
structure Embeddable (t : List Char) : Prop where
  noQuote : '"' ∉ t
  noTab : '\t' ∉ t
  noLineFeed : '\n' ∉ t
  noReturn : '\r' ∉ t
  noCommentEnd : ¬['*', '/'] <:+: t
  noCommentStart : ¬['/', '*'] <:+: t

end SwiftSchema.Text

namespace SwiftSchema

open SwiftSchema.Text

/-- **Escaped descriptions are embeddable**, and apart from the underscores put in they are the
text with its lines flattened and its quotes dropped: every other character, a backslash
among them, is kept in order. -/
theorem escapeDescription_embeddable (s : String) :
    Embeddable (escapeDescription s).toList ∧
      (escapeDescription s).toList.filter (· != '_') =
        (dropQuotes (flattenLines s.toList)).filter (· != '_') := by
  obtain ⟨hu, hend, hstart⟩ := breakComments_spec (dropQuotes (flattenLines s.toList))
  rw [escapeDescription, String.toList_ofList, escapeText]
  -- a character of the escape that is no underscore comes from the flattened, unquoted text
  have hmem : ∀ c, c ≠ '_' → c ∈ breakComments (dropQuotes (flattenLines s.toList)) →
      c ≠ '"' ∧ c ≠ '\t' ∧ c ≠ '\n' ∧ c ≠ '\r' := by
    intro c hc hin
    obtain ⟨hflat, hquote⟩ := mem_dropQuotes.mp ((hu.mem hin).resolve_right hc)
    exact ⟨hquote, mem_flattenLines hflat⟩
  refine ⟨⟨fun h => ?_, fun h => ?_, fun h => ?_, fun h => ?_, hend, hstart⟩, hu.filter⟩
  · exact (hmem _ (by decide) h).1 rfl
  · exact (hmem _ (by decide) h).2.1 rfl
  · exact (hmem _ (by decide) h).2.2.1 rfl
  · exact (hmem _ (by decide) h).2.2.2 rfl

/-- A backslash is kept: the escape of `C:\temp` still holds it, and in a string literal its
`\t` reads as a tab. -/
theorem escapeDescription_keeps_backslash : '\\' ∈ (escapeDescription "C:\\temp").toList := by
  decide +kernel

end SwiftSchema
