/-! # The double nearest to a ratio

A decimal written in a text stands for the exact ratio of two natural numbers; the double it
reads as is the **nearest** one, a tie going to the even significand, with values past the
largest finite double reading as infinity. All arithmetic is exact, on natural numbers.

* `nearestBits` — the 64-bit word of the double nearest to `± num / den`.
-/

namespace SwiftSchema.Decimal

/-- Whether `num / den ≥ 2 ^ t`. -/
def atLeastPow (num den : Nat) (t : Int) : Bool :=
  if 0 ≤ t then num ≥ den * Nat.pow 2 t.toNat else num * Nat.pow 2 (-t).toNat ≥ den

/-- `⌊log₂ (num / den)⌋` for a positive ratio, from the estimate by binary lengths, which is
that value or one more. -/
def floorLog2 (num den : Nat) : Int :=
  let t : Int := (Nat.log2 num : Int) - Nat.log2 den
  if atLeastPow num den t then t else t - 1

/-- A quotient rounded to the nearest natural number, a tie going to the even one. -/
def roundHalfEven (n d : Nat) : Nat :=
  let q := n / d
  let r := n % d
  if 2 * r > d ∨ (2 * r = d ∧ q % 2 = 1) then q + 1 else q

/-- The **word of the double nearest** to `± num / den` (`den > 0`). The significand is the
ratio scaled into `[2 ^ 52, 2 ^ 53)` and rounded; below the normal range the scale stays at
`2 ^ -1074`; past the largest exponent the word is infinity. -/
def nearestBits (negative : Bool) (num den : Nat) : Nat :=
  let sign := if negative then Nat.pow 2 63 else 0
  if num = 0 ∨ den = 0 then sign
  else
    let e : Int := max (floorLog2 num den - 52) (-1074)
    let q := if 0 ≤ e then roundHalfEven num (den * Nat.pow 2 e.toNat)
      else roundHalfEven (num * Nat.pow 2 (-e).toNat) den
    -- Rounding up may carry into the next binade.
    let (q, e) := if q = Nat.pow 2 53 then (Nat.pow 2 52, e + 1) else (q, e)
    if q < Nat.pow 2 52 then sign + q
    else if e + 1075 ≥ 2047 then sign + 2047 * Nat.pow 2 52
    else sign + (e + 1075).toNat * Nat.pow 2 52 + (q - Nat.pow 2 52)

end SwiftSchema.Decimal
