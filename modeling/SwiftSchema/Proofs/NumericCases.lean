import SwiftSchema.Proofs.NumberTexts
import SwiftSchema.Proofs.EnumNames
import SwiftSchema.Schema.Fold

/-! # Enum cases of numbers

Under a numeric datatype (`Int`, `Int32`, `Int64`, `Float`, `Double`) the enum cases of number
values are named by two different rules. A negative number reaches the number rule and is
spelled out after `number`: its minus signs, its point and the plus sign of its exponent become
`minus`, `dot` and `plus` (`-1.5` is `numberminus1dot5`). Any other number begins with a digit,
so the leading-digit rule answers first: an underscore, the whole digits, and the rest
camel-cased, which drops the point and the minus sign of an exponent but keeps its plus sign
(`1e+16` is `_1E+16`, `1.5e-7` is `_15e7`).

So no case name holds a minus sign or a point, a plus sign stays exactly in a non-negative
number written with a positive exponent, and two different numbers get the same case name
exactly when both are written with digits and a point alone and agree once the point is
dropped (`1.5` and `15`, `1.15` and `11.5`).

* `numeralName` — the case name of a numeral, part by part.
* `resolve_numeral` — the enum case name of a numeral's text is its case name.
* `signs_numeralName` — which signs a case name keeps.
* `text_eq_or_plain_of_numeralName_eq` — when two numerals share a case name.
* `numberCaseName_signs_and_collisions` — the case names of numbers under a numeric datatype.
-/

namespace SwiftSchema.Naming.EnumCase

open SwiftSchema.Text SwiftSchema.Json SwiftSchema.Json.Numeral

/-! ## The characters of numerals -/

section Chars

variable {c : Char}

theorem toNat_lt_of_isDigit (h : c.isDigit) : c.toNat < 128 :=
  toNat_lt_of_isIdentChar (by simp [isIdentChar, Char.isAlphanum, h])

theorem upper_of_isDigit (h : c.isDigit) : upper c = [c] := by
  have hlow : ¬c.isLower := fun hl => by rw [isDigit_eq_false_of_isLower hl] at h; cases h
  rw [upper_of_ascii (toNat_lt_of_isDigit h), Char.toUpper_eq_of_not_isLower hlow]

theorem not_mem_wordDelimiters_of_isDigit (h : c.isDigit) : c ∉ wordDelimiters := by
  intro hmem
  have hdelim : ∀ d ∈ wordDelimiters, d.isDigit = false := by simp [wordDelimiters]
  rw [hdelim c hmem] at h
  cases h

/-- The characters of a numeral but its signs and point: digits and the exponent mark. -/
def IsNumeralWordChar (c : Char) : Prop := c.isDigit ∨ c = 'e'

theorem not_mem_wordDelimiters_of_wordChar (h : IsNumeralWordChar c) : c ∉ wordDelimiters := by
  rcases h with h | rfl
  · exact not_mem_wordDelimiters_of_isDigit h
  · decide

theorem not_sign_of_wordChar (hc : IsNumeralWordChar c) : c ≠ '-' ∧ c ≠ '.' ∧ c ≠ '+' := by
  rcases hc with hc | rfl
  · refine ⟨?_, ?_, ?_⟩ <;> rintro rfl <;> exact absurd hc (by decide)
  · decide

theorem signWord_of_wordChar (h : IsNumeralWordChar c) : signWord c = none := by
  obtain ⟨hminus, hpoint, hplus⟩ := not_sign_of_wordChar h
  unfold signWord
  split <;> simp_all

end Chars

/-! ## Camel casing the parts of a numeral -/

section Camel

variable {c : Char} {rest : List Char}

theorem camelFrom_cons_of_not_mem (hc : c ∉ wordDelimiters) (b : Bool) :
    camelFrom b (c :: rest) = (if b then upper c else [c]) ++ camelFrom false rest := by
  have hkeep : (wordDelimiters.contains c && !rest.isEmpty) = false := by simp [hc]
  simp only [camelFrom, hkeep, Bool.false_eq_true, if_false]
  cases b <;> rfl

theorem camelFrom_cons_of_mem (hc : c ∈ wordDelimiters) (hrest : rest ≠ []) (b : Bool) :
    camelFrom b (c :: rest) = camelFrom true rest := by
  have hdrop : (wordDelimiters.contains c && !rest.isEmpty) = true := by simp [hc, hrest]
  simp only [camelFrom, hdrop, if_true]

/-- Inside a word, digits and exponent marks are kept as they are. -/
theorem camelFrom_false_append {ws : List Char} (hws : ∀ w ∈ ws, IsNumeralWordChar w)
    (rest : List Char) : camelFrom false (ws ++ rest) = ws ++ camelFrom false rest := by
  induction ws with
  | nil => rfl
  | cons w ws ih =>
    obtain ⟨hw, hws⟩ := List.forall_mem_cons.mp hws
    rw [List.cons_append, camelFrom_cons_of_not_mem (not_mem_wordDelimiters_of_wordChar hw),
      ih hws]
    rfl

theorem camelFrom_false_wordChars {ws : List Char} (hws : ∀ w ∈ ws, IsNumeralWordChar w) :
    camelFrom false ws = ws := by
  have h := camelFrom_false_append hws []
  rwa [List.append_nil, camelFrom, List.append_nil] at h

/-- A word led by a digit, of digits and exponent marks, is its own camel case. -/
theorem camelFrom_true_digitLed {d : Char} {ws : List Char} (hd : d.isDigit)
    (hws : ∀ w ∈ ws, IsNumeralWordChar w) : camelFrom true (d :: ws) = d :: ws := by
  rw [camelFrom_cons_of_not_mem (not_mem_wordDelimiters_of_isDigit hd), if_pos rfl,
    upper_of_isDigit hd, camelFrom_false_wordChars hws, List.singleton_append]

theorem camelize_digitLed {d : Char} {ws : List Char} (hd : d.isDigit)
    (hws : ∀ w ∈ ws, IsNumeralWordChar w) : camelize (d :: ws) false = d :: ws := by
  rw [camelize, if_neg Bool.false_ne_true, camelFrom_true_digitLed hd hws]

theorem wordChars_of_digits {ds : List Char} (hds : ∀ d ∈ ds, d.isDigit) :
    ∀ w ∈ ds, IsNumeralWordChar w :=
  fun w hw => .inl (hds w hw)

/-- The camel case of an exponent: the mark, capital when it starts a word, then a plus sign
kept and a minus sign dropped, then the digits. -/
def expCamel (bare : Bool) : Option (Bool × List Char) → List Char
  | none => []
  | some (up, e) => (if bare then 'E' else 'e') :: ((if up then ['+'] else []) ++ e)

theorem camelFrom_expText (b : Bool) {exp : Option (Bool × List Char)}
    (hexp : ∀ up e, exp = some (up, e) → e ≠ [] ∧ ∀ d ∈ e, d.isDigit) :
    camelFrom b (expText exp) = expCamel b exp := by
  match exp, hexp with
  | none, _ => rfl
  | some (up, e), hexp =>
    obtain ⟨hne, hdigits⟩ := hexp up e rfl
    obtain ⟨d, ds, rfl⟩ := List.exists_cons_of_ne_nil hne
    obtain ⟨hd, hds⟩ := List.forall_mem_cons.mp hdigits
    rw [expText, camelFrom_cons_of_not_mem (by decide)]
    cases up with
    | true =>
      rw [if_pos rfl, camelFrom_cons_of_not_mem (by decide), if_neg Bool.false_ne_true,
        camelFrom_false_wordChars (wordChars_of_digits hdigits)]
      cases b <;> rfl
    | false =>
      -- the minus sign of the exponent is a word delimiter, dropped before the digits
      rw [if_neg Bool.false_ne_true, camelFrom_cons_of_mem (by decide) (List.cons_ne_nil d ds),
        camelFrom_true_digitLed hd (wordChars_of_digits hds)]
      cases b <;> rfl

/-- After the whole digits: the point is dropped and the fraction digits kept, and the
exponent mark is a capital only when no fraction digits stand before it. -/
theorem camelize_afterWhole {frac : List Char} {exp : Option (Bool × List Char)}
    (hfrac : ∀ d ∈ frac, d.isDigit) (hexp : ∀ up e, exp = some (up, e) → e ≠ [] ∧ ∀ d ∈ e, d.isDigit) :
    camelize (fracText frac ++ expText exp) false = frac ++ expCamel frac.isEmpty exp := by
  rw [camelize, if_neg Bool.false_ne_true]
  cases frac with
  | nil => simp [fracText, camelFrom_expText true hexp]
  | cons f fs =>
    obtain ⟨hf, hfs⟩ := List.forall_mem_cons.mp hfrac
    rw [fracText, if_neg (List.cons_ne_nil f fs), List.cons_append,
      camelFrom_cons_of_mem (by decide) (by simp), List.cons_append,
      camelFrom_cons_of_not_mem (not_mem_wordDelimiters_of_isDigit hf), if_pos rfl,
      upper_of_isDigit hf, camelFrom_false_append (wordChars_of_digits hfs),
      camelFrom_expText false hexp]
    rfl

end Camel

/-! ## Spelling a negative number -/

section Spell

/-- What a character is spelled as: the word of a sign or a point, else the character. -/
def spellChar (c : Char) : List Char := (signWord c).getD [c]

@[simp] theorem signWord_mark : signWord 'e' = none := rfl

@[simp] theorem signWord_point : signWord '.' = some ['d', 'o', 't'] := rfl

@[simp] theorem signWord_minus : signWord '-' = some ['m', 'i', 'n', 'u', 's'] := rfl

theorem flatMap_spellChar_wordChars {ws : List Char} (hws : ∀ w ∈ ws, IsNumeralWordChar w) :
    ws.flatMap spellChar = ws := by
  induction ws with
  | nil => rfl
  | cons w ws ih =>
    obtain ⟨hw, hws⟩ := List.forall_mem_cons.mp hws
    rw [List.flatMap_cons, ih hws, spellChar, signWord_of_wordChar hw]
    rfl

/-- A run of digits and exponent marks joins the run being spelled. -/
theorem spellFrom_append_wordChars (run : List Char) {ws : List Char}
    (hws : ∀ w ∈ ws, IsNumeralWordChar w) (rest : List Char) :
    spellFrom run (ws ++ rest) = spellFrom (run ++ ws) rest := by
  induction ws generalizing run with
  | nil => rw [List.nil_append, List.append_nil]
  | cons w ws ih =>
    obtain ⟨hw, hws⟩ := List.forall_mem_cons.mp hws
    rw [List.cons_append, spellFrom, signWord_of_wordChar hw]
    simp only [ih _ hws, List.append_assoc, List.singleton_append]

theorem spellFrom_sign (run : List Char) {c : Char} {w : List Char} (h : signWord c = some w)
    (rest : List Char) : spellFrom run (c :: rest) = camelize run false ++ w ++ spellFrom [] rest := by
  rw [spellFrom, h]

/-- A run led by a digit, with nothing after it, is spelled as it is. -/
theorem spellFrom_digitLed_nil {d : Char} {ws : List Char} (hd : d.isDigit)
    (hws : ∀ w ∈ ws, IsNumeralWordChar w) : spellFrom (d :: ws) [] = d :: ws :=
  camelize_digitLed hd hws

/-- The exponent after a run led by a digit: the mark kept, the sign spelled, the digits
kept. -/
theorem spellFrom_expText {d : Char} {ws : List Char} (hd : d.isDigit)
    (hws : ∀ w ∈ ws, IsNumeralWordChar w) {exp : Option (Bool × List Char)}
    (hexp : ∀ up e, exp = some (up, e) → e ≠ [] ∧ ∀ c ∈ e, c.isDigit) :
    spellFrom (d :: ws) (expText exp) = d :: ws ++ (expText exp).flatMap spellChar := by
  match exp, hexp with
  | none, _ => rw [expText, spellFrom_digitLed_nil hd hws, List.flatMap_nil, List.append_nil]
  | some (up, e), hexp =>
    obtain ⟨hne, hdigits⟩ := hexp up e rfl
    obtain ⟨f, fs, rfl⟩ := List.exists_cons_of_ne_nil hne
    obtain ⟨hf, hfs⟩ := List.forall_mem_cons.mp hdigits
    have hrun : ∀ w ∈ ws ++ ['e'], IsNumeralWordChar w :=
      List.forall_mem_append.mpr ⟨hws, by simp [IsNumeralWordChar]⟩
    have hsign : signWord (if up then '+' else '-') = some (spellChar (if up then '+' else '-')) := by
      cases up <;> rfl
    -- the mark joins the run, the sign ends it, and the digits are the last run
    have hmark : spellFrom (d :: ws) ('e' :: (if up then '+' else '-') :: f :: fs) =
        spellFrom (d :: (ws ++ ['e'])) ((if up then '+' else '-') :: f :: fs) := by
      simp only [spellFrom, signWord_mark, List.cons_append]
    have hdigitsRun : spellFrom [] (f :: fs) = f :: fs := by
      have h := spellFrom_append_wordChars [] (wordChars_of_digits hdigits) []
      rw [List.append_nil, List.nil_append] at h
      rw [h, spellFrom_digitLed_nil hf (wordChars_of_digits hfs)]
    rw [expText, hmark, spellFrom_sign _ hsign, hdigitsRun, camelize_digitLed hd hrun]
    simp [spellChar, flatMap_spellChar_wordChars (wordChars_of_digits hfs),
      signWord_of_wordChar (.inl hf)]

/-- After the whole digits: the point spelled, the fraction digits kept, then the exponent. -/
theorem spellFrom_afterWhole {d : Char} {ws : List Char} (hd : d.isDigit)
    (hws : ∀ c ∈ ws, c.isDigit) {frac : List Char} {exp : Option (Bool × List Char)}
    (hfrac : ∀ c ∈ frac, c.isDigit) (hexp : ∀ up e, exp = some (up, e) → e ≠ [] ∧ ∀ c ∈ e, c.isDigit) :
    spellFrom (d :: ws) (fracText frac ++ expText exp) =
      d :: ws ++ (fracText frac ++ expText exp).flatMap spellChar := by
  cases frac with
  | nil => simpa [fracText] using spellFrom_expText hd (wordChars_of_digits hws) hexp
  | cons f fs =>
    obtain ⟨hf, hfs⟩ := List.forall_mem_cons.mp hfrac
    have hfracRun : spellFrom [] (f :: fs ++ expText exp) = spellFrom (f :: fs) (expText exp) :=
      spellFrom_append_wordChars [] (wordChars_of_digits hfrac) _
    rw [fracText, if_neg (List.cons_ne_nil f fs), List.cons_append,
      spellFrom_sign _ signWord_point, hfracRun,
      camelize_digitLed hd (wordChars_of_digits hws),
      spellFrom_expText hf (wordChars_of_digits hfs) hexp]
    simp [spellChar, flatMap_spellChar_wordChars (wordChars_of_digits hfs),
      signWord_of_wordChar (.inl hf)]

/-- **A negative numeral is spelled character by character**: its signs and its point as
words, its digits and its exponent mark as they are. -/
theorem spellNumber_negative {x : Numeral} (hx : x.Valid) (hneg : x.negative = true) :
    spellNumber x.text = x.text.flatMap spellChar := by
  obtain ⟨d, ws, hwhole⟩ := List.exists_cons_of_ne_nil hx.whole_ne_nil
  have hdigits := hx.whole_digits
  rw [hwhole] at hdigits
  obtain ⟨hd, hws⟩ := List.forall_mem_cons.mp hdigits
  have hrest : spellFrom [] (d :: ws ++ (fracText x.frac ++ expText x.exp)) =
      spellFrom (d :: ws) (fracText x.frac ++ expText x.exp) :=
    spellFrom_append_wordChars [] (wordChars_of_digits hdigits) _
  simp only [spellNumber, text, hneg, signText, if_true, hwhole, List.append_assoc,
    List.singleton_append]
  rw [List.cons_append, spellFrom_sign _ signWord_minus, hrest,
    spellFrom_afterWhole hd hws hx.frac_digits hx.exp_run]
  simp [spellChar, flatMap_spellChar_wordChars (wordChars_of_digits hws),
    signWord_of_wordChar (.inl hd), show camelize [] false = [] from rfl]

end Spell

/-! ## The rule that answers for a numeral -/

section Resolve

/-- The characters of numerals. -/
def IsNumeralChar (c : Char) : Prop := IsNumeralWordChar c ∨ c = '-' ∨ c = '.' ∨ c = '+'

/-- **The characters of a numeral's text**: digits, the minus sign, the point, the exponent
mark, and a plus sign only before a positive exponent. -/
theorem mem_text {x : Numeral} (hx : x.Valid) {c : Char} (hc : c ∈ x.text) :
    c.isDigit ∨ c = '-' ∨ c = '.' ∨ c = 'e' ∨ (c = '+' ∧ ∃ e, x.exp = some (true, e)) := by
  simp only [text, signText, fracText, expText, List.mem_append] at hc
  rcases hc with ((hsign | hwhole) | hfrac) | hexp
  · split at hsign
    · exact .inr (.inl (List.mem_singleton.mp hsign))
    · simp at hsign
  · exact .inl (hx.whole_digits c hwhole)
  · split at hfrac
    · simp at hfrac
    · rcases List.mem_cons.mp hfrac with rfl | hfrac
      exacts [.inr (.inr (.inl rfl)), .inl (hx.frac_digits c hfrac)]
  · cases hE : x.exp with
    | none => simp [hE] at hexp
    | some p =>
      obtain ⟨up, e⟩ := p
      rw [hE] at hexp
      simp only [List.mem_cons] at hexp
      rcases hexp with rfl | hsign | he
      · exact .inr (.inr (.inr (.inl rfl)))
      · -- the sign of the exponent: a plus sign only when it is positive
        cases up <;> simp only [Bool.false_eq_true, ↓reduceIte] at hsign
        exacts [.inr (.inl hsign), .inr (.inr (.inr (.inr ⟨hsign, e, rfl⟩)))]
      · exact .inl ((hx.exp_digits up e hE).2.1 c he)

theorem isNumeralChar_of_mem_text {x : Numeral} (hx : x.Valid) {c : Char} (hc : c ∈ x.text) :
    IsNumeralChar c := by
  rcases mem_text hx hc with h | rfl | rfl | rfl | ⟨rfl, -⟩
  exacts [.inl (.inl h), .inr (.inl rfl), .inr (.inr (.inl rfl)), .inl (.inr rfl),
    .inr (.inr (.inr rfl))]

/-- A digit is no capital. -/
theorem isUpper_eq_false_of_isDigit {c : Char} (h : c.isDigit) : c.isUpper = false := by
  simp only [Char.isDigit, Bool.and_eq_true, decide_eq_true_eq, UInt32.le_iff_toNat_le] at h
  simp only [Char.isUpper, decide_eq_false_iff_not, UInt32.le_iff_toNat_le]
  have : '9'.val.toNat = 57 := rfl
  have : 'A'.val.toNat = 65 := rfl
  omega

theorem ascii_of_numeralChar {c : Char} (h : IsNumeralChar c) : c.toNat < 128 ∧ c.isUpper = false := by
  rcases h with (h | rfl) | rfl | rfl | rfl
  · exact ⟨toNat_lt_of_isDigit h, isUpper_eq_false_of_isDigit h⟩
  all_goals decide

/-- Lowering ASCII text without capitals changes nothing. -/
theorem lowerAllFrom_of_ascii (before : List Char) {s : List Char}
    (hs : ∀ c ∈ s, c.toNat < 128 ∧ c.isUpper = false) : lowerAllFrom before s = s := by
  induction s generalizing before with
  | nil => rfl
  | cons c rest ih =>
    obtain ⟨⟨hascii, hupper⟩, hrest⟩ := List.forall_mem_cons.mp hs
    have hsigma : c ≠ 'Σ' := fun h => by rw [h] at hascii; exact absurd hascii (by decide)
    rw [lowerAllFrom, if_neg hsigma, lower_of_ascii hascii,
      Char.toLower_eq_of_not_isUpper (by simp [hupper]), ih _ hrest]
    rfl

/-- The only spoken symbol that begins with a minus sign is the minus sign alone: checked on
every symbol. -/
theorem symbolNames_minus : ∀ e ∈ symbolNames, e.1.toList.head? = some '-' → e.1.toList.length = 1 := by
  decide +kernel

/-- No Swift reserved word begins with a minus sign: checked on every word. -/
theorem swiftReserved_minus : (swiftReservedWords.filter fun w => "-".toList.isPrefixOf w.toList) = [] := by
  decide +kernel

theorem takeWhile_isDigit_afterWhole (frac : List Char) (exp : Option (Bool × List Char)) :
    (fracText frac ++ expText exp).takeWhile Char.isDigit = [] := by
  unfold fracText expText
  split <;> split <;> rfl

theorem dropWhile_isDigit_afterWhole (frac : List Char) (exp : Option (Bool × List Char)) :
    (fracText frac ++ expText exp).dropWhile Char.isDigit = fracText frac ++ expText exp := by
  unfold fracText expText
  split <;> split <;> rfl

/-- **A non-negative numeral** begins with its whole digits, so the leading-digit rule answers:
an underscore, the whole digits, and the rest camel-cased. -/
theorem name_resolve_nonnegative (t : ReservedWords) (datatype : String) {x : Numeral}
    (hx : x.Valid) (hneg : x.negative = false) {v : String} (hv : v.toList = x.text) :
    (resolve t v datatype).name.toList = '_' :: x.whole ++ x.frac ++ expCamel x.frac.isEmpty x.exp := by
  have hsplit : v.toList = x.whole ++ (fracText x.frac ++ expText x.exp) := by
    simp [hv, text, hneg, signText]
  have htake : v.toList.takeWhile Char.isDigit = x.whole := by
    rw [hsplit, List.takeWhile_append_of_pos hx.whole_digits, takeWhile_isDigit_afterWhole,
      List.append_nil]
  have hdrop : v.toList.dropWhile Char.isDigit = fracText x.frac ++ expText x.exp := by
    rw [hsplit, List.dropWhile_append_of_pos hx.whole_digits, dropWhile_isDigit_afterWhole]
  have hne : v.toList.isEmpty = false := by
    rw [hsplit, List.isEmpty_eq_false_iff]
    exact List.append_ne_nil_of_left_ne_nil hx.whole_ne_nil _
  have hlead : (x.whole.isEmpty = false) := List.isEmpty_eq_false_iff.mpr hx.whole_ne_nil
  simp only [resolve, hne, htake, hdrop, hlead, Bool.false_eq_true, if_false, Bool.not_false,
    if_true, Resolved.renamed, String.toList_ofList, camelize_afterWhole hx.frac_digits hx.exp_run,
    List.cons_append, List.append_assoc]

/-- **A negative numeral** has no leading digit, no spoken name, no capital and no reserved
small form, so under a numeric datatype the number rule answers: `number`, then the numeral
spelled. -/
theorem name_resolve_negative {datatype : String} (hd : datatype ∈ numericTypes) {x : Numeral}
    (hx : x.Valid) (hneg : x.negative = true) {v : String} (hv : v.toList = x.text) :
    (resolve .swift v datatype).name.toList = "number".toList ++ x.text.flatMap spellChar := by
  obtain ⟨w, ws, hwhole⟩ := List.exists_cons_of_ne_nil hx.whole_ne_nil
  -- the text is a minus sign and at least one more character
  obtain ⟨rest, hrest⟩ : ∃ rest, v.toList = '-' :: w :: rest :=
    ⟨ws ++ fracText x.frac ++ expText x.exp, by simp [hv, text, hneg, signText, hwhole]⟩
  have hlook : symbolNames.lookup v = none := by
    cases hl : symbolNames.lookup v with
    | none => rfl
    | some spoken =>
      obtain ⟨l₁, l₂, hsplit, -⟩ := List.lookup_eq_some_iff.mp hl
      have hmem : (v, spoken) ∈ symbolNames := hsplit ▸ List.mem_append_right _ List.mem_cons_self
      have hlen := symbolNames_minus _ hmem (by simp [hrest])
      simp [hrest] at hlen
  have hsmall : String.ofList (lowerAll v.toList) = v := by
    rw [lowerAll, lowerAllFrom_of_ascii [] fun c hc =>
      ascii_of_numeralChar (isNumeralChar_of_mem_text hx (hv ▸ hc)), String.ofList_toList]
  have hreserved : ReservedWords.swift.isReserved v = false := by
    have hv' : v = "-" ++ String.ofList (w :: rest) := by
      have hback : String.ofList v.toList = v := String.ofList_toList
      rw [← hback, hrest, String.ofList_cons]
      rfl
    rw [isReserved_swift, hv']
    exact isSwiftReserved_append_eq_false swiftReserved_minus
  have hcamel : isUpperCamel v.toList = false := by simp [hrest, isUpperCamel]
  have hnum : numericTypes.contains datatype = true := List.contains_iff_mem.mpr hd
  have hne : v.toList.isEmpty = false := by rw [hrest]; rfl
  have htake : v.toList.takeWhile Char.isDigit = [] := by rw [hrest]; rfl
  simp only [resolve, hne, htake, List.isEmpty_nil, Bool.not_true, Bool.false_eq_true, if_false,
    hlook]
  simp only [resolveWord, hcamel, hsmall, hreserved, hnum, Bool.false_eq_true, if_false, if_true,
    Resolved.plain]
  rw [String.toList_append, hv, spellNumber_negative hx hneg]
  simp

end Resolve

/-! ## The case name of a numeral -/

section CaseName

/-- The **case name of a numeral** under a numeric datatype: `number` and the numeral spelled
when it is negative; else an underscore, the digits, and the exponent camel-cased. -/
def numeralName (x : Numeral) : List Char :=
  if x.negative then "number".toList ++ x.text.flatMap spellChar
  else '_' :: x.whole ++ x.frac ++ expCamel x.frac.isEmpty x.exp

/-- The enum case name of a numeral's text is its case name. -/
theorem resolve_numeral {datatype : String} (hd : datatype ∈ numericTypes) {x : Numeral}
    (hx : x.Valid) {v : String} (hv : v.toList = x.text) :
    (resolve .swift v datatype).name.toList = numeralName x := by
  unfold numeralName
  cases hneg : x.negative with
  | false => exact name_resolve_nonnegative .swift datatype hx hneg hv
  | true => exact name_resolve_negative hd hx hneg hv

/-! ### Which signs a case name keeps -/

theorem signs_not_mem_spellChar {c : Char} (hc : IsNumeralChar c) :
    '-' ∉ spellChar c ∧ '.' ∉ spellChar c ∧ '+' ∉ spellChar c := by
  rcases hc with hc | rfl | rfl | rfl
  · rw [spellChar, signWord_of_wordChar hc, Option.getD_none]
    obtain ⟨h1, h2, h3⟩ := not_sign_of_wordChar hc
    simp [Ne.symm h1, Ne.symm h2, Ne.symm h3]
  all_goals decide

/-- A spelled numeral holds no sign and no point. -/
theorem signs_not_mem_flatMap_spellChar {s : List Char} (hs : ∀ c ∈ s, IsNumeralChar c) :
    '-' ∉ s.flatMap spellChar ∧ '.' ∉ s.flatMap spellChar ∧ '+' ∉ s.flatMap spellChar := by
  simp only [List.mem_flatMap, not_exists, not_and]
  exact ⟨fun c hc => (signs_not_mem_spellChar (hs c hc)).1,
    fun c hc => (signs_not_mem_spellChar (hs c hc)).2.1,
    fun c hc => (signs_not_mem_spellChar (hs c hc)).2.2⟩

theorem mem_expCamel {b : Bool} {exp : Option (Bool × List Char)}
    (hexp : ∀ up e, exp = some (up, e) → e ≠ [] ∧ ∀ c ∈ e, c.isDigit) {c : Char}
    (hc : c ∈ expCamel b exp) :
    c.isDigit ∨ c = 'e' ∨ c = 'E' ∨ (c = '+' ∧ ∃ e, exp = some (true, e)) := by
  match exp, hexp with
  | none, _ => simp [expCamel] at hc
  | some (up, e), hexp =>
    simp only [expCamel, List.mem_cons, List.mem_append] at hc
    rcases hc with hmark | hsign | he
    · cases b <;> simp_all
    · cases up <;> simp_all
    · exact .inl ((hexp up e rfl).2 c he)

theorem plus_mem_text_iff {x : Numeral} (hx : x.Valid) :
    '+' ∈ x.text ↔ ∃ e, x.exp = some (true, e) := by
  constructor
  · intro h
    rcases mem_text hx h with h | h | h | h | ⟨-, hexp⟩
    exacts [absurd h (by decide), absurd h (by decide), absurd h (by decide), absurd h (by decide),
      hexp]
  · rintro ⟨e, he⟩
    simp [text, he, expText]

theorem mem_nonnegativeName {x : Numeral} (hx : x.Valid) {c : Char}
    (hc : c ∈ '_' :: x.whole ++ x.frac ++ expCamel x.frac.isEmpty x.exp) :
    c = '_' ∨ c.isDigit ∨ c = 'e' ∨ c = 'E' ∨ (c = '+' ∧ ∃ e, x.exp = some (true, e)) := by
  simp only [List.cons_append, List.mem_cons, List.mem_append] at hc
  rcases hc with rfl | (hwhole | hfrac) | hexp
  · exact .inl rfl
  · exact .inr (.inl (hx.whole_digits c hwhole))
  · exact .inr (.inl (hx.frac_digits c hfrac))
  · exact .inr (mem_expCamel hx.exp_run hexp)

/-- **No case name of a numeral holds a minus sign or a point**, and a plus sign stays exactly
in a non-negative numeral with a positive exponent. -/
theorem signs_numeralName {x : Numeral} (hx : x.Valid) :
    '-' ∉ numeralName x ∧ '.' ∉ numeralName x ∧
      ('+' ∈ numeralName x ↔ x.negative = false ∧ ∃ e, x.exp = some (true, e)) := by
  unfold numeralName
  cases hneg : x.negative with
  | true =>
    -- `number` and the spelled numeral: letters, digits and exponent marks
    have hspelled := signs_not_mem_flatMap_spellChar fun c hc => isNumeralChar_of_mem_text hx hc
    simp only [if_true, List.mem_append, Bool.true_eq_false, false_and, iff_false, not_or]
    exact ⟨⟨by decide, hspelled.1⟩, ⟨by decide, hspelled.2.1⟩, ⟨by decide, hspelled.2.2⟩⟩
  | false =>
    simp only [Bool.false_eq_true, if_false, true_and]
    refine ⟨fun h => ?_, fun h => ?_, ⟨fun h => ?_, fun ⟨e, he⟩ => ?_⟩⟩
    · rcases mem_nonnegativeName hx h with h | h | h | h | ⟨h, -⟩ <;> exact absurd h (by decide)
    · rcases mem_nonnegativeName hx h with h | h | h | h | ⟨h, -⟩ <;> exact absurd h (by decide)
    · rcases mem_nonnegativeName hx h with h | h | h | h | ⟨-, hexp⟩
      exacts [absurd h (by decide), absurd h (by decide), absurd h (by decide), absurd h (by decide),
        hexp]
    · rw [he]
      simp [expCamel]

/-! ### When two numerals share a case name -/

/-- **A run of digits ends where it ends**: a run of digits followed by text that begins with
no digit is split the same way in every such writing. -/
theorem append_eq_append_of_digits {a b r s : List Char} (ha : ∀ c ∈ a, c.isDigit)
    (hb : ∀ c ∈ b, c.isDigit) (hr : ∀ c ∈ r.head?, c.isDigit = false)
    (hs : ∀ c ∈ s.head?, c.isDigit = false) (h : a ++ r = b ++ s) : a = b ∧ r = s := by
  induction a generalizing b with
  | nil =>
    cases b with
    | nil => exact ⟨rfl, h⟩
    | cons d b =>
      -- the rest `r` would begin with the digit `d`
      rw [List.nil_append, List.cons_append] at h
      have hd := hr d (by simp [h])
      rw [hb d List.mem_cons_self] at hd
      cases hd
  | cons c a ih =>
    cases b with
    | nil =>
      rw [List.nil_append, List.cons_append] at h
      have hc := hs c (by simp [← h])
      rw [ha c List.mem_cons_self] at hc
      cases hc
    | cons d b =>
      rw [List.cons_append, List.cons_append, List.cons_eq_cons] at h
      obtain ⟨rfl, h⟩ := h
      obtain ⟨rfl, rfl⟩ := ih (fun x hx => ha x (List.mem_cons_of_mem c hx))
        (fun x hx => hb x (List.mem_cons_of_mem c hx)) h
      exact ⟨rfl, rfl⟩

/-- The character that a spelled text begins with the spelling of: the first letter of a
word names its sign or point, any other character is itself. -/
def firstSpelled : List Char → Option Char
  | 'm' :: _ => some '-'
  | 'd' :: _ => some '.'
  | 'p' :: _ => some '+'
  | c :: _ => some c
  | [] => none

theorem firstSpelled_spellChar {c : Char} (hc : IsNumeralChar c) (rest : List Char) :
    firstSpelled (spellChar c ++ rest) = some c := by
  rcases hc with hc | rfl | rfl | rfl
  · have hletters : c ≠ 'm' ∧ c ≠ 'd' ∧ c ≠ 'p' := by
      rcases hc with hc | rfl
      · refine ⟨?_, ?_, ?_⟩ <;> rintro rfl <;> exact absurd hc (by decide)
      · decide
    rw [spellChar, signWord_of_wordChar hc, Option.getD_none, List.singleton_append]
    unfold firstSpelled
    split <;> simp_all
  all_goals rfl

/-- **Spelling a numeral loses nothing**: two texts of numeral characters with the same
spelling are the same. -/
theorem flatMap_spellChar_inj {s t : List Char} (hs : ∀ c ∈ s, IsNumeralChar c)
    (ht : ∀ c ∈ t, IsNumeralChar c) (h : s.flatMap spellChar = t.flatMap spellChar) : s = t := by
  induction s generalizing t with
  | nil =>
    cases t with
    | nil => rfl
    | cons b t =>
      have hfirst := congrArg firstSpelled h
      rw [List.flatMap_cons, firstSpelled_spellChar (ht b List.mem_cons_self)] at hfirst
      cases hfirst
  | cons a s ih =>
    obtain ⟨ha, hsTail⟩ := List.forall_mem_cons.mp hs
    cases t with
    | nil =>
      have hfirst := congrArg firstSpelled h
      rw [List.flatMap_cons, firstSpelled_spellChar ha] at hfirst
      cases hfirst
    | cons b t =>
      obtain ⟨hb, htTail⟩ := List.forall_mem_cons.mp ht
      rw [List.flatMap_cons, List.flatMap_cons] at h
      -- the first spelled character names both first characters
      have hab : a = b := by
        have hfirst := congrArg firstSpelled h
        rw [firstSpelled_spellChar ha, firstSpelled_spellChar hb] at hfirst
        exact Option.some.inj hfirst
      subst hab
      rw [ih hsTail htTail (List.append_cancel_left h)]

theorem expCamel_inj {b up₁ up₂ : Bool} {e₁ e₂ : List Char} (he₁ : ∀ c ∈ e₁.head?, c.isDigit)
    (he₂ : ∀ c ∈ e₂.head?, c.isDigit)
    (h : expCamel b (some (up₁, e₁)) = expCamel b (some (up₂, e₂))) : up₁ = up₂ ∧ e₁ = e₂ := by
  simp only [expCamel, List.cons_eq_cons, true_and] at h
  cases up₁ <;> cases up₂ <;> simp only [Bool.false_eq_true, ↓reduceIte, List.nil_append,
    List.singleton_append, List.cons_eq_cons, true_and] at h
  · exact ⟨rfl, h⟩
  · -- a plus sign against the first digit of the other exponent
    exact absurd (he₁ '+' (by simp [h])) (by decide)
  · exact absurd (he₂ '+' (by simp [← h])) (by decide)
  · exact ⟨rfl, h⟩

theorem digits_wholeFrac {x : Numeral} (hx : x.Valid) : ∀ c ∈ x.whole ++ x.frac, c.isDigit :=
  List.forall_mem_append.mpr ⟨hx.whole_digits, hx.frac_digits⟩

/-- The camel-cased exponent begins with its mark, no digit. -/
theorem head_expCamel (b : Bool) (exp : Option (Bool × List Char)) :
    ∀ c ∈ (expCamel b exp).head?, c.isDigit = false := by
  intro c hc
  match exp with
  | none => simp [expCamel] at hc
  | some _ =>
    rw [expCamel, List.head?_cons, Option.mem_some_iff] at hc
    subst hc
    cases b <;> rfl

theorem numeralName_of_nonnegative {x : Numeral} (hneg : x.negative = false) :
    numeralName x = '_' :: ((x.whole ++ x.frac) ++ expCamel x.frac.isEmpty x.exp) := by
  simp [numeralName, hneg]

/-- Names of negative numerals begin with `n`, the others with an underscore. -/
theorem negative_eq_of_numeralName_eq {x y : Numeral} (h : numeralName x = numeralName y) :
    x.negative = y.negative := by
  have hhead := congrArg List.head? h
  unfold numeralName at hhead
  cases hx : x.negative <;> cases hy : y.negative <;> simp [hx, hy] at hhead ⊢

/-- Two negative numerals with one case name are written alike. -/
theorem text_eq_of_negativeName {x y : Numeral} (hx : x.Valid) (hy : y.Valid)
    (hxn : x.negative = true) (hyn : y.negative = true) (h : numeralName x = numeralName y) :
    x.text = y.text := by
  simp only [numeralName, hxn, hyn, if_true] at h
  exact flatMap_spellChar_inj (fun c hc => isNumeralChar_of_mem_text hx hc)
    (fun c hc => isNumeralChar_of_mem_text hy hc) (List.append_cancel_left h)

/-- Two non-negative numerals with one case name have the same digits and the same
camel-cased exponent: the digits run up to the exponent mark. -/
theorem digits_eq_of_nonnegativeName {x y : Numeral} (hx : x.Valid) (hy : y.Valid)
    (hxn : x.negative = false) (hyn : y.negative = false) (h : numeralName x = numeralName y) :
    x.whole ++ x.frac = y.whole ++ y.frac ∧
      expCamel x.frac.isEmpty x.exp = expCamel y.frac.isEmpty y.exp := by
  rw [numeralName_of_nonnegative hxn, numeralName_of_nonnegative hyn, List.cons_inj_right] at h
  exact append_eq_append_of_digits (digits_wholeFrac hx) (digits_wholeFrac hy)
    (head_expCamel _ _) (head_expCamel _ _) h

/-- Non-negative numerals with exponents, the same digits and the same camel-cased exponent are
the same: a single whole digit stands before the fraction digits. -/
theorem eq_of_expCamel_eq {x y : Numeral} (hx : x.Valid) (hy : y.Valid) (hxn : x.negative = false)
    (hyn : y.negative = false) {up₁ up₂ : Bool} {e₁ e₂ : List Char} (hxe : x.exp = some (up₁, e₁))
    (hye : y.exp = some (up₂, e₂)) (hdigits : x.whole ++ x.frac = y.whole ++ y.frac)
    (hexp : expCamel x.frac.isEmpty x.exp = expCamel y.frac.isEmpty y.exp) : x = y := by
  obtain ⟨-, he₁, hx₁⟩ := hx.exp_digits up₁ e₁ hxe
  obtain ⟨-, he₂, hy₁⟩ := hy.exp_digits up₂ e₂ hye
  obtain ⟨hwhole, hfrac⟩ := List.append_inj hdigits (hx₁.trans hy₁.symm)
  rw [hfrac, hxe, hye] at hexp
  obtain ⟨rfl, rfl⟩ := expCamel_inj (fun c hc => he₁ c (List.mem_of_mem_head? hc))
    (fun c hc => he₂ c (List.mem_of_mem_head? hc)) hexp
  obtain ⟨n₁, w₁, f₁, exp₁⟩ := x
  obtain ⟨n₂, w₂, f₂, exp₂⟩ := y
  simp only at hxn hyn hwhole hfrac hxe hye
  simp only [hxn, hyn, hwhole, hfrac, hxe, hye]

/-- **Two numerals that share a case name** are written alike, or both are non-negative without
an exponent and have the same digits. -/
theorem text_eq_or_plain_of_numeralName_eq {x y : Numeral} (hx : x.Valid) (hy : y.Valid)
    (h : numeralName x = numeralName y) :
    x.text = y.text ∨ (x.negative = false ∧ x.exp = none ∧ y.negative = false ∧ y.exp = none ∧
      x.whole ++ x.frac = y.whole ++ y.frac) := by
  have hneg := negative_eq_of_numeralName_eq h
  cases hxn : x.negative
  case true => exact .inl (text_eq_of_negativeName hx hy hxn (hneg.symm.trans hxn) h)
  case false =>
    have hyn : y.negative = false := hneg.symm.trans hxn
    obtain ⟨hdigits, hexp⟩ := digits_eq_of_nonnegativeName hx hy hxn hyn h
    -- an exponent on one side only leaves its mark against nothing
    match hxe : x.exp, hye : y.exp with
    | none, none => exact .inr ⟨rfl, rfl, hyn, rfl, hdigits⟩
    | none, some _ => simp [hxe, hye, expCamel] at hexp
    | some _, none => simp [hxe, hye, expCamel] at hexp
    | some _, some _ => exact .inl (congrArg text (eq_of_expCamel_eq hx hy hxn hyn hxe hye hdigits hexp))

/-- Non-negative numerals without exponents are named by their digits alone. -/
theorem numeralName_eq_of_plain {x y : Numeral} (hxn : x.negative = false) (hxe : x.exp = none)
    (hyn : y.negative = false) (hye : y.exp = none) (h : x.whole ++ x.frac = y.whole ++ y.frac) :
    numeralName x = numeralName y := by
  rw [numeralName_of_nonnegative hxn, numeralName_of_nonnegative hyn, hxe, hye, h]
  rfl

end CaseName

/-! ## The texts of numerals -/

section Texts

variable {x : Numeral}

/-- A text of **digits and points** alone. -/
def PointDigits (t : List Char) : Prop := ∀ c ∈ t, c.isDigit ∨ c = '.'

instance (t : List Char) : Decidable (PointDigits t) :=
  decidable_of_iff (∀ c ∈ t, c.isDigit ∨ c = '.') Iff.rfl

theorem text_of_plain (hxn : x.negative = false) (hxe : x.exp = none) :
    x.text = x.whole ++ fracText x.frac := by
  simp [text, hxn, hxe, signText, expText]

/-- A numeral is written with digits and points alone exactly when it is non-negative and has
no exponent. -/
theorem pointDigits_text_iff (hx : x.Valid) : PointDigits x.text ↔ x.negative = false ∧ x.exp = none := by
  constructor
  · intro h
    constructor
    · -- a minus sign would lead the text
      cases hxn : x.negative
      · rfl
      · have hminus := h '-' (by simp [text, hxn, signText])
        exact absurd hminus (by decide)
    · -- an exponent mark would follow the digits
      cases hxe : x.exp with
      | none => rfl
      | some p =>
        have hmark := h 'e' (by simp [text, hxe, expText])
        exact absurd hmark (by decide)
  · rintro ⟨hxn, hxe⟩ c hc
    rw [text_of_plain hxn hxe, List.mem_append] at hc
    rcases hc with hwhole | hfrac
    · exact .inl (hx.whole_digits c hwhole)
    · unfold fracText at hfrac
      split at hfrac
      · simp at hfrac
      · rcases List.mem_cons.mp hfrac with rfl | hfrac
        exacts [.inr rfl, .inl (hx.frac_digits c hfrac)]

theorem filter_point_digits {ds : List Char} (hds : ∀ c ∈ ds, c.isDigit) :
    ds.filter (· != '.') = ds :=
  List.filter_eq_self.mpr fun c hc => bne_iff_ne.mpr (not_sign_of_wordChar (.inl (hds c hc))).2.1

/-- Without its point, a numeral with no sign and no exponent is its digits. -/
theorem filter_point_text (hx : x.Valid) (hxn : x.negative = false) (hxe : x.exp = none) :
    x.text.filter (· != '.') = x.whole ++ x.frac := by
  rw [text_of_plain hxn hxe, List.filter_append, filter_point_digits hx.whole_digits]
  unfold fracText
  split
  · simp_all
  · simp [filter_point_digits hx.frac_digits]

/-- The text of a numeral begins with a minus sign exactly when the numeral is negative. -/
theorem head_text_eq_minus_iff (hx : x.Valid) : x.text.head? = some '-' ↔ x.negative = true := by
  obtain ⟨w, ws, hw⟩ := List.exists_cons_of_ne_nil hx.whole_ne_nil
  have hwd : w.isDigit := hx.whole_digits w (by simp [hw])
  cases hxn : x.negative
  · simpa [text, hxn, signText, hw] using (not_sign_of_wordChar (.inl hwd)).1
  · simp [text, hxn, signText]

end Texts

/-! ## The case names of numbers -/

section Numbers

/-- The **case name that a namer gives a number** of an enum under a datatype, from the text of
the number as the schema reader keeps it. -/
def numberCaseName (n : Namer) (datatype : String) (v : Json.Number) : List Char :=
  (n.enumCaseName (Schema.enumText (.number v)) datatype).name.toList

variable {n : Namer} {datatype : String}

theorem numberCaseName_eq_numeralName (hn : n.reserved = .swift) (hd : datatype ∈ numericTypes)
    {v : Json.Number} {x : Numeral} (hx : x.Valid) (hv : v.text.toList = x.text) :
    numberCaseName n datatype v = numeralName x := by
  rw [numberCaseName, Namer.enumCaseName, hn]
  exact resolve_numeral hd hx hv

/-- **The case names of numbers** under a numeric datatype hold no minus sign and no point; a
plus sign stays exactly in a non-negative number written with a positive exponent. Two numbers
share a case name exactly when they are written alike, or both are written with digits and
points alone and agree once the points are dropped. -/
theorem numberCaseName_signs_and_collisions (n : Namer) (hn : n.reserved = .swift)
    {datatype : String} (hd : datatype ∈ numericTypes) (a b : Json.Number) :
    ('-' ∉ numberCaseName n datatype a ∧ '.' ∉ numberCaseName n datatype a ∧
      ('+' ∈ numberCaseName n datatype a ↔ '+' ∈ a.text.toList ∧ a.text.toList.head? ≠ some '-')) ∧
    (numberCaseName n datatype a = numberCaseName n datatype b ↔ a.text = b.text ∨
      (PointDigits a.text.toList ∧ PointDigits b.text.toList ∧
        a.text.toList.filter (· != '.') = b.text.toList.filter (· != '.'))) := by
  obtain ⟨x, hx, hax⟩ := numeral_of_number a
  obtain ⟨y, hy, hby⟩ := numeral_of_number b
  rw [numberCaseName_eq_numeralName hn hd hx hax, numberCaseName_eq_numeralName hn hd hy hby]
  obtain ⟨hminus, hpoint, hplus⟩ := signs_numeralName hx
  refine ⟨⟨hminus, hpoint, ?_⟩, ⟨fun h => ?_, ?_⟩⟩
  · rw [hplus, hax, plus_mem_text_iff hx, Ne, head_text_eq_minus_iff hx, Bool.not_eq_true, and_comm]
  · rcases text_eq_or_plain_of_numeralName_eq hx hy h with htext | ⟨hxn, hxe, hyn, hye, hdigits⟩
    · exact .inl (String.toList_inj.mp (by rw [hax, hby, htext]))
    · refine .inr ⟨?_, ?_, ?_⟩
      · rw [hax]
        exact (pointDigits_text_iff hx).mpr ⟨hxn, hxe⟩
      · rw [hby]
        exact (pointDigits_text_iff hy).mpr ⟨hyn, hye⟩
      · rw [hax, hby, filter_point_text hx hxn hxe, filter_point_text hy hyn hye, hdigits]
  · rintro (htext | ⟨hxp, hyp, hfilter⟩)
    · -- one text, one name
      have hay : a.text.toList = y.text := by rw [htext, hby]
      rw [← resolve_numeral hd hx hax, ← resolve_numeral hd hy hay]
    · rw [hax] at hxp
      rw [hby] at hyp
      obtain ⟨hxn, hxe⟩ := (pointDigits_text_iff hx).mp hxp
      obtain ⟨hyn, hye⟩ := (pointDigits_text_iff hy).mp hyp
      rw [hax, hby, filter_point_text hx hxn hxe, filter_point_text hy hyn hye] at hfilter
      exact numeralName_eq_of_plain hxn hxe hyn hye hfilter

/-- `-1.5` is named without its minus sign and its point. -/
theorem negativeDouble_caseName_unsigned :
    '-' ∉ numberCaseName {} "Double" (.double 0xBFF8000000000000) ∧
      '.' ∉ numberCaseName {} "Double" (.double 0xBFF8000000000000) :=
  have h := (numberCaseName_signs_and_collisions {} rfl (by decide)
    (.double 0xBFF8000000000000) (.nat 0)).1
  ⟨h.1, h.2.1⟩

/-- Under `Double`, `1e16` keeps its plus sign, and `1.5` and `15` share one case name. -/
theorem numberCaseName_plus_and_collision :
    numberCaseName {} "Double" (.double 0x4341C37937E08000) = "_1E+16".toList ∧
      numberCaseName {} "Double" (.double 0x3FF8000000000000) = "_15".toList ∧
      numberCaseName {} "Double" (.nat 15) = "_15".toList := by
  decide +kernel

end Numbers

end SwiftSchema.Naming.EnumCase
