import SwiftSchema.Text.CaseTable

/-! # Full case mapping

Capital and small forms of characters by the full Unicode mapping, where one character may
become several (`ß` capitalises to `SS`, `İ` lowers to `i` and a combining dot), and lower-casing
of a whole text, where a capital sigma at the end of a word becomes the final form `ς`.

* `upper`, `lower` — the forms of one character; on ASCII they agree with `Char.toUpper` and
  `Char.toLower` (`upper_of_ascii`, `lower_of_ascii`).
* `lowerAll` — lower-casing of a text, with the final-sigma rule.
-/

namespace SwiftSchema.Text

/-- The image of a code point under a run, when the run holds it. -/
def CaseRun.image? (r : CaseRun) (n : Nat) : Option Nat :=
  if r.lo ≤ n ∧ n ≤ r.hi ∧ (n - r.lo) % r.step = 0 then some ((n : Int) + r.shift).toNat else none

/-- A case map given by its expansions and its runs: an expansion wins, then the first run that
holds the code point; a character in neither is its own image. -/
def caseMap (expansions : List (Nat × List Nat)) (runs : List CaseRun) (c : Char) : List Char :=
  match expansions.lookup c.toNat with
  | some cs => cs.map Char.ofNat
  | none =>
    match runs.findSome? (·.image? c.toNat) with
    | some n => [Char.ofNat n]
    | none => [c]

/-- The **capital form** of a character: one or more characters. -/
def upper (c : Char) : List Char :=
  if c.toNat < 128 then [c.toUpper] else caseMap upperExpansions upperRuns c

/-- The **small form** of a character: one or more characters. -/
def lower (c : Char) : List Char :=
  if c.toNat < 128 then [c.toLower] else caseMap lowerExpansions lowerRuns c

theorem upper_of_ascii {c : Char} (h : c.toNat < 128) : upper c = [c.toUpper] := by
  simp [upper, h]

theorem lower_of_ascii {c : Char} (h : c.toNat < 128) : lower c = [c.toLower] := by
  simp [lower, h]

/-- Whether a character lies in one of a list of inclusive code point ranges. -/
def inRanges (ranges : List (Nat × Nat)) (c : Char) : Bool :=
  ranges.any fun r => r.1 ≤ c.toNat && c.toNat ≤ r.2

/-- Characters that the final-sigma rule looks through. -/
def isCaseIgnorable (c : Char) : Bool := inRanges caseIgnorableRanges c

/-- Cased characters that the final-sigma rule does not look through. -/
def isCased (c : Char) : Bool := inRanges casedRanges c

/-- Whether the first character that is not case-ignorable is cased. -/
def casedPastIgnorable : List Char → Bool
  | [] => false
  | c :: rest => if isCaseIgnorable c then casedPastIgnorable rest else isCased c

/-- The small form of a capital sigma: final `ς` when a cased letter stands before it and none
after it (looking through case-ignorable characters), else `σ`. -/
def lowerSigma (before after : List Char) : Char :=
  if casedPastIgnorable before && !casedPastIgnorable after then 'ς' else 'σ'

/-- Lower-casing with the characters already passed, nearest first. -/
def lowerAllFrom : List Char → List Char → List Char
  | _, [] => []
  | before, c :: rest =>
    (if c = 'Σ' then [lowerSigma before rest] else lower c) ++ lowerAllFrom (c :: before) rest

/-- The **small form of a text**: each character lowered, a capital sigma by its context. -/
def lowerAll (s : List Char) : List Char := lowerAllFrom [] s

end SwiftSchema.Text
