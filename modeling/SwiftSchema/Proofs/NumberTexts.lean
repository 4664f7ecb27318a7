import Mathlib
import SwiftSchema.Json.Write

/-! # How numbers are written

An enum value that is a number is kept as the text the schema reader writes for it: an integer
in decimal, any other number as the shortest decimal of its double, positional (`1000.0`,
`0.00001`) or with a signed exponent (`1e+16`, `1.5e-7`). Every such text is a **numeral**: an
optional minus sign, whole digits, fraction digits after a point, and an exponent after `e`
with its sign; a text with an exponent has a single whole digit before it.

* `Numeral`, `Numeral.text`, `Numeral.Valid` — the parts of a written number and their rules.
* `numeral_of_render` — a decimal rendered with `+` before positive exponents is a numeral.
* `numeral_of_number` — the text of every number is a numeral.
-/

namespace SwiftSchema.Json

open SwiftSchema.Decimal

/-- The **parts of a written number**: its sign, its whole digits, its fraction digits (no
point when there are none), and its exponent, whether it is positive and its digits. -/
structure Numeral where
  negative : Bool
  whole : List Char
  frac : List Char
  exp : Option (Bool × List Char)

namespace Numeral

/-- The point and the fraction digits; nothing without fraction digits. -/
def fracText (frac : List Char) : List Char := if frac = [] then [] else '.' :: frac

/-- `e`, the sign of the exponent and its digits. -/
def expText : Option (Bool × List Char) → List Char
  | none => []
  | some (up, e) => 'e' :: (if up then '+' else '-') :: e

/-- The minus sign of a negative number. -/
def signText (negative : Bool) : List Char := if negative then ['-'] else []

/-- The **text** of a numeral. -/
def text (x : Numeral) : List Char := signText x.negative ++ x.whole ++ fracText x.frac ++ expText x.exp

/-- A **numeral as numbers are written**: digits where digits stand, at least one whole digit
and one exponent digit, and a single whole digit before an exponent. -/
structure Valid (x : Numeral) : Prop where
  whole_ne_nil : x.whole ≠ []
  whole_digits : ∀ c ∈ x.whole, c.isDigit
  frac_digits : ∀ c ∈ x.frac, c.isDigit
  exp_digits : ∀ up e, x.exp = some (up, e) → e ≠ [] ∧ (∀ c ∈ e, c.isDigit) ∧ x.whole.length = 1

/-- The exponent of a numeral is a run of digits, not empty. -/
theorem Valid.exp_run {x : Numeral} (hx : x.Valid) :
    ∀ up e, x.exp = some (up, e) → e ≠ [] ∧ ∀ c ∈ e, c.isDigit :=
  fun up e h => ⟨(hx.exp_digits up e h).1, (hx.exp_digits up e h).2.1⟩

/-- A numeral with no exponent, from its whole and fraction digits. -/
theorem valid_plain {negative : Bool} {whole frac : List Char} (hw : whole ≠ [])
    (hwd : ∀ c ∈ whole, c.isDigit) (hfd : ∀ c ∈ frac, c.isDigit) :
    Valid ⟨negative, whole, frac, none⟩ :=
  ⟨hw, hwd, hfd, fun _ _ h => nomatch h⟩

end Numeral

open Numeral

theorem toList_sign (negative : Bool) :
    (if negative then "-" else "").toList = signText negative := by
  cases negative <;> rfl

theorem isDigit_of_mem_digits {n : Nat} {c : Char} (h : c ∈ Nat.toDigits 10 n) : c.isDigit :=
  Nat.isDigit_of_mem_toDigits (by decide) (by decide) h

theorem isDigit_of_mem_zeros {n : Nat} {c : Char} (h : c ∈ List.replicate n '0') : c.isDigit := by
  rw [List.eq_of_mem_replicate h]
  rfl

/-- The single digit zero. -/
theorem zero_digits : ∀ c ∈ ['0'], c.isDigit := fun _ hc => by
  rw [List.mem_singleton.mp hc]
  rfl

/-- **A rendered decimal is a numeral**, whichever exponents are written positionally, when a
positive exponent is written after `+`. -/
theorem numeral_of_render (st : Style) (hst : st.plusSign = "+") (negative : Bool) (c : Nat)
    (k : Int) : ∃ x : Numeral, x.Valid ∧ (render st negative c k).toList = x.text := by
  have hds : Nat.toDigits 10 c ≠ [] := Nat.toDigits_ne_nil
  have hdigits : ∀ d ∈ Nat.toDigits 10 c, d.isDigit := fun _ => isDigit_of_mem_digits
  set sci : Int := k + (Nat.toDigits 10 c).length - 1 with hsci
  dsimp only [render]
  by_cases hzero : c = 0
  · -- zero
    rw [if_pos hzero]
    refine ⟨⟨negative, ['0'], ['0'], none⟩, valid_plain (by simp) zero_digits zero_digits, ?_⟩
    simp [toList_sign, text, fracText, expText]
  rw [if_neg hzero, ← hsci]
  by_cases hpositional : st.positional sci = true
  · rw [if_pos hpositional]
    by_cases hk : 0 ≤ k
    · -- a whole number: the digits, then zeros, then `.0`
      rw [if_pos hk]
      refine ⟨⟨negative, Nat.toDigits 10 c ++ List.replicate k.toNat '0', ['0'], none⟩,
        valid_plain (by simp [hds]) ?_ zero_digits, ?_⟩
      · intro d hd
        rcases List.mem_append.mp hd with hd | hd
        exacts [hdigits d hd, isDigit_of_mem_zeros hd]
      · simp [toList_sign, text, fracText, expText, zeros]
    rw [if_neg hk]
    by_cases hsign : 0 ≤ sci
    · -- the point inside the digits
      rw [if_pos hsign]
      have hdrop : (Nat.toDigits 10 c).drop (sci.toNat + 1) ≠ [] := by
        rw [Ne, List.drop_eq_nil_iff]
        omega
      refine ⟨⟨negative, (Nat.toDigits 10 c).take (sci.toNat + 1),
        (Nat.toDigits 10 c).drop (sci.toNat + 1), none⟩,
        valid_plain (by simp [hds]) (fun d hd => hdigits d (List.mem_of_mem_take hd))
          (fun d hd => hdigits d (List.mem_of_mem_drop hd)), ?_⟩
      simp [toList_sign, text, fracText, expText, hdrop]
    · -- below one: `0.`, zeros, then the digits
      rw [if_neg hsign]
      refine ⟨⟨negative, ['0'], List.replicate ((-sci).toNat - 1) '0' ++ Nat.toDigits 10 c, none⟩,
        valid_plain (by simp) zero_digits ?_, ?_⟩
      · intro d hd
        rcases List.mem_append.mp hd with hd | hd
        exacts [isDigit_of_mem_zeros hd, hdigits d hd]
      · simp [toList_sign, text, fracText, expText, zeros, hds]
  · -- with an exponent: one whole digit, the others after a point
    rw [if_neg hpositional]
    have hone : ((Nat.toDigits 10 c).take 1).length = 1 := by
      have hlen := List.length_pos_iff.mpr hds
      simp only [List.length_take]
      omega
    have hexp : ∀ up e, some (decide (0 ≤ sci), Nat.toDigits 10 sci.natAbs) = some (up, e) →
        e ≠ [] ∧ (∀ d ∈ e, d.isDigit) ∧ ((Nat.toDigits 10 c).take 1).length = 1 := by
      rintro up e ⟨⟩
      exact ⟨Nat.toDigits_ne_nil, fun _ => isDigit_of_mem_digits, hone⟩
    refine ⟨⟨negative, (Nat.toDigits 10 c).take 1, (Nat.toDigits 10 c).tail,
      some (decide (0 ≤ sci), Nat.toDigits 10 sci.natAbs)⟩,
      ⟨by simp [hds], fun d hd => hdigits d (List.mem_of_mem_take hd),
        fun d hd => hdigits d (List.mem_of_mem_tail hd), hexp⟩, ?_⟩
    have hfrac : (if (Nat.toDigits 10 c).length > 1 then "." ++ String.ofList (Nat.toDigits 10 c).tail
        else "").toList = if (Nat.toDigits 10 c).tail = [] then [] else '.' :: (Nat.toDigits 10 c).tail := by
      obtain ⟨d, rest, hdr⟩ := List.exists_cons_of_ne_nil hds
      rw [hdr]
      by_cases hrest : rest = []
      · simp [hrest]
      · have hlen : rest.length ≠ 0 := by simpa using hrest
        simp [hrest, Nat.pos_of_ne_zero hlen]
    have hmark : (if sci < 0 then "-" ++ toString (-sci).toNat else st.plusSign ++ toString sci.toNat).toList =
        (if decide (0 ≤ sci) then '+' else '-') :: Nat.toDigits 10 sci.natAbs := by
      by_cases hneg : sci < 0
      · have habs : (-sci).toNat = sci.natAbs := by omega
        simp [hneg, habs, not_le.mpr hneg]
      · have habs : sci.toNat = sci.natAbs := by omega
        simp [hneg, habs, hst, le_of_not_gt hneg]
    simp only [String.toList_append, toList_sign, text, fracText, expText, hfrac, hmark,
      String.toList_ofList]
    simp

/-- An integer in decimal, after a minus sign when negative. -/
theorem numeral_of_integer (negative : Bool) (n : Nat) :
    (Numeral.mk negative (Nat.toDigits 10 n) [] none).Valid :=
  valid_plain Nat.toDigits_ne_nil (fun _ => isDigit_of_mem_digits) (by simp)

/-- **The text of every number is a numeral**: integers have no point and no exponent, and
doubles are rendered with `+` before a positive exponent. -/
theorem numeral_of_number (n : Number) : ∃ x : Numeral, x.Valid ∧ n.text.toList = x.text := by
  cases n with
  | nat n =>
    exact ⟨_, numeral_of_integer false n, by simp [Number.text, text, signText, fracText, expText]⟩
  | neg n =>
    exact ⟨_, numeral_of_integer true n, by simp [Number.text, text, signText, fracText, expText]⟩
  | double bits =>
    rw [Number.text, Binary.text]
    exact numeral_of_render numberStyle rfl _ _ _

end SwiftSchema.Json
