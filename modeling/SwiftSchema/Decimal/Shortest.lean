/-! # Shortest decimal text of a double

A finite double stands for the interval of reals that round to it (the ends belong to it when
its significand is even). Its **shortest decimal** is the decimal with the fewest significant
digits in that interval, of two such the nearer to the double, of two equally near the one
with the even last digit. All arithmetic is exact, on natural numbers.

* `Binary.ofBits` — a word read as sign, significand `m` and exponent `q`, value `m · 2 ^ q`.
* `shortest` — the digits `c` and exponent `k` of the shortest decimal `c · 10 ^ k`.
* `Style`, `render` — the text of a decimal: positional or with an exponent mark.
-/

namespace SwiftSchema.Decimal

/-- A finite binary number `± mantissa · 2 ^ exponent`, with whether the next smaller double
lies half as far below as the next larger lies above (at a power of two). -/
structure Binary where
  negative : Bool
  mantissa : Nat
  exponent : Int
  narrowBelow : Bool

/-- The fields of a 64-bit word: sign bit, 11-bit biased exponent, 52-bit fraction. -/
def Binary.ofBits (w : Nat) : Binary :=
  let field : Nat := w / Nat.pow 2 52 % Nat.pow 2 11
  let fraction : Nat := w % Nat.pow 2 52
  let negative := w / Nat.pow 2 63 % 2 = 1
  if field = 0 then ⟨negative, fraction, -1074, false⟩
  else ⟨negative, fraction + Nat.pow 2 52, (field : Int) - 1075, fraction = 0 ∧ field > 1⟩

/-- Compares `c · 10 ^ k` with `x · 2 ^ e` exactly. -/
def compareScaled (c : Nat) (k : Int) (x : Nat) (e : Int) : Ordering :=
  compare (c * Nat.pow 10 k.toNat * Nat.pow 2 (-e).toNat) (x * Nat.pow 2 e.toNat * Nat.pow 10 (-k).toNat)

/-- `⌊x · 2 ^ e / 10 ^ k⌋`. -/
def floorScaled (x : Nat) (e k : Int) : Nat :=
  x * Nat.pow 2 e.toNat * Nat.pow 10 (-k).toNat / (Nat.pow 10 k.toNat * Nat.pow 2 (-e).toNat)

/-- The interval of a binary number in units of `2 ^ (q - 2)`: value, lower and upper end. -/
structure Interval where
  value : Nat
  low : Nat
  high : Nat
  unit : Int
  closed : Bool

/-- The rounding interval of a positive binary number. -/
def Binary.interval (b : Binary) : Interval :=
  ⟨4 * b.mantissa, 4 * b.mantissa - (if b.narrowBelow then 1 else 2), 4 * b.mantissa + 2,
    b.exponent - 2, b.mantissa % 2 = 0⟩

/-- Whether `c · 10 ^ k` lies in the interval. -/
def Interval.holds (iv : Interval) (c : Nat) (k : Int) : Bool :=
  let above := compareScaled c k iv.low iv.unit
  let below := compareScaled c k iv.high iv.unit
  (above == .gt || (iv.closed && above == .eq)) && (below == .lt || (iv.closed && below == .eq))

/-- The decimal exponent of a positive value: the `d` with `10 ^ d ≤ x · 2 ^ e < 10 ^ (d + 1)`,
found from an estimate by the binary length. -/
def decimalExponent (x : Nat) (e : Int) : Int :=
  let guess : Int := ((Nat.log2 x : Int) + e) * 30103 / 100000
  let fits (d : Int) : Bool :=
    compareScaled 1 d x e != .gt && compareScaled 1 (d + 1) x e == .gt
  match [guess - 1, guess, guess + 1, guess + 2, guess - 2].find? fits with
  | some d => d
  | none => guess

/-- Of the two neighbours of the value on the grid `10 ^ k`, the one in the interval, the
nearer if both are, the even one if both are equally near. -/
def Interval.pick (iv : Interval) (k : Int) : Option Nat :=
  let lo := floorScaled iv.value iv.unit k
  let hi := lo + 1
  match iv.holds lo k, iv.holds hi k with
  | true, true =>
    match compareScaled (lo + hi) k (2 * iv.value) iv.unit with
    | .gt => some lo
    | .lt => some hi
    | .eq => some (if lo % 2 = 0 then lo else hi)
  | true, false => some lo
  | false, true => some hi
  | false, false => none

/-- The first grid, from `digits` significant digits up to seventeen, that meets the interval. -/
def Interval.search (iv : Interval) (top : Int) : Nat → Nat → Nat × Int
  | 0, _ => (floorScaled iv.value iv.unit (top - 16), top - 16)
  | fuel + 1, digits =>
    let k := top - (digits : Int) + 1
    match iv.pick k with
    | some c => (c, k)
    | none => iv.search top fuel (digits + 1)

/-- Drops the trailing zeros of `c · 10 ^ k` into the exponent. -/
def trimZeros (c : Nat) (k : Int) : Nat × Int :=
  let ds := (Nat.toDigits 10 c).reverse
  let zeros := (ds.takeWhile (· = '0')).length
  if c = 0 then (0, 0) else (c / Nat.pow 10 zeros, k + zeros)

/-- The **shortest decimal** `c · 10 ^ k` of a positive binary number, `c` without trailing
zeros; `(0, 0)` for zero. -/
def shortest (b : Binary) : Nat × Int :=
  if b.mantissa = 0 then (0, 0)
  else
    let iv := b.interval
    let (c, k) := iv.search (decimalExponent iv.value iv.unit) 17 1
    trimZeros c k

/-- How a decimal is written. -/
structure Style where
  /-- The scientific exponents written positionally; the others take an exponent mark. -/
  positional : Int → Bool
  /-- Written before a positive exponent. -/
  plusSign : String

/-- Zeros. -/
def zeros (n : Nat) : String := String.ofList (List.replicate n '0')

/-- The text of `± c · 10 ^ k` (`c` without trailing zeros) in a style; a positional number
always has a fraction part. -/
def render (st : Style) (negative : Bool) (c : Nat) (k : Int) : String :=
  let sign := if negative then "-" else ""
  if c = 0 then sign ++ "0.0"
  else
    let ds := Nat.toDigits 10 c
    let sci : Int := k + ds.length - 1
    if st.positional sci then
      if 0 ≤ k then sign ++ String.ofList ds ++ zeros k.toNat ++ ".0"
      else if 0 ≤ sci then
        sign ++ String.ofList (ds.take (sci.toNat + 1)) ++ "." ++
          String.ofList (ds.drop (sci.toNat + 1))
      else sign ++ "0." ++ zeros ((-sci).toNat - 1) ++ String.ofList ds
    else
      let frac := if ds.length > 1 then "." ++ String.ofList ds.tail else ""
      let mark := if sci < 0 then "-" ++ toString (-sci).toNat else st.plusSign ++ toString sci.toNat
      sign ++ String.ofList (ds.take 1) ++ frac ++ "e" ++ mark

/-- The shortest text of a finite double in a style. -/
def Binary.text (st : Style) (b : Binary) : String :=
  let (c, k) := shortest b
  render st b.negative c k

end SwiftSchema.Decimal
