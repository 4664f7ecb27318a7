import SwiftSchema.Proofs.CheckedManifest
import SwiftSchema.Naming.Namer

/-! # What the name resolvers return

Under the Swift convention every resolver sanitizes the raw name and camel-cases it, so the
candidate is written over the identifier alphabet, and it is empty exactly when there was
nothing to case. Decoration then replaces a reserved candidate or one with a leading digit by
a replacement the manifest checked, or by the resolver's mark, and every mark is fit for an
identifier. What is left open is emptiness, and a mark that the manifest configures as a word
of its own.

* `OverAlphabet`, `Fit` — names over the identifier alphabet, and names that pass every
  identifier check but emptiness.
* `operationId_eq_error_iff`, `operationId_toBool` — an operation id fails exactly when nothing
  is left of it after sanitizing.
* `decorate_fitUnder` — decoration under a checked manifest's table.
* `resolvedNames_legal_iff` — exactly when a resolved name is a legal identifier that the
  table does not reserve.
-/

namespace SwiftSchema.Naming

open SwiftSchema.Text

/-! ## Text over the identifier alphabet -/

/-- A name **written over the identifier alphabet**. -/
def OverAlphabet (name : String) : Prop := ∀ c ∈ name.toList, isIdentChar c = true

instance : DecidablePred OverAlphabet := fun name =>
  decidable_of_iff (name.toList.all isIdentChar = true) List.all_eq_true

theorem OverAlphabet.append {a b : String} (ha : OverAlphabet a) (hb : OverAlphabet b) :
    OverAlphabet (a ++ b) := by
  intro c hc
  rw [String.toList_append, List.mem_append] at hc
  exact hc.elim (ha c) (hb c)

theorem OverAlphabet.ascii {s : String} (hs : OverAlphabet s) : ∀ c ∈ s.toList, c.toNat < 128 :=
  fun c hc => toNat_lt_of_isIdentChar (hs c hc)

/-- Sanitized text is written over the identifier alphabet. -/
theorem isIdentChar_of_mem_sanitizeName {raw : String} {c : Char}
    (h : c ∈ (sanitizeName raw).toList) : isIdentChar c = true := by
  rw [sanitizeName, String.toList_ofList] at h
  exact isIdentChar_of_mem_sanitize h

theorem overAlphabet_sanitizeName (raw : String) : OverAlphabet (sanitizeName raw) :=
  fun _ hc => isIdentChar_of_mem_sanitizeName hc

theorem overAlphabet_of_sanitizeName_eq {x : String} (h : sanitizeName x = x) : OverAlphabet x :=
  h ▸ overAlphabet_sanitizeName x

theorem overAlphabet_camelize {s : String} (hs : OverAlphabet s) (b : Bool) :
    OverAlphabet (String.ofList (camelize s.toList b)) := by
  intro c hc
  rw [String.toList_ofList] at hc
  exact forall_mem_camelize caseClosed_isIdentChar b hs c hc

/-- Camel-cased ASCII text is empty exactly when the text is. -/
theorem camelize_text_eq_empty_iff {s : String} (hs : ∀ c ∈ s.toList, c.toNat < 128) (b : Bool) :
    String.ofList (camelize s.toList b) = "" ↔ s = "" := by
  rw [String.ofList_eq_empty_iff, ← String.toList_eq_nil_iff]
  exact camelize_eq_nil_iff hs b

/-! ## Candidates -/

/-- The Swift method name of ASCII text is empty exactly when the text is. -/
theorem methodName_swift_eq_empty_iff {s : String} (hs : ∀ c ∈ s.toList, c.toNat < 128) :
    Convention.swift.methodName s = "" ↔ s = "" :=
  camelize_text_eq_empty_iff hs true

theorem overAlphabet_methodName {s : String} (hs : OverAlphabet s) :
    OverAlphabet (Convention.swift.methodName s) := by
  unfold Convention.methodName
  exact overAlphabet_camelize hs true

theorem overAlphabet_valueName {s : String} (hs : OverAlphabet s) :
    OverAlphabet (Convention.swift.valueName s) := by
  unfold Convention.valueName
  split
  · exact hs
  · exact overAlphabet_camelize hs true

theorem valueName_swift_eq_empty_iff {s : String} (hs : OverAlphabet s) :
    Convention.swift.valueName s = "" ↔ s = "" := by
  unfold Convention.valueName
  split
  · exact Iff.rfl
  · exact camelize_text_eq_empty_iff hs.ascii true

/-- Text with an affix, if there is one, joined **before** it by an underscore. -/
def prependAffix : Option String → String → String
  | some a, s => a ++ "_" ++ s
  | none, s => s

/-- Text with an affix, if there is one, joined **after** it by an underscore. -/
def appendAffix : Option String → String → String
  | some a, s => s ++ "_" ++ a
  | none, s => s

section Affix

variable {a : Option String} {s : String}

theorem overAlphabet_prependAffix (ha : ∀ x, a = some x → OverAlphabet x) (hs : OverAlphabet s) :
    OverAlphabet (prependAffix a s) := by
  cases a with
  | none => exact hs
  | some x => exact ((ha x rfl).append (by decide)).append hs

theorem overAlphabet_appendAffix (ha : ∀ x, a = some x → OverAlphabet x) (hs : OverAlphabet s) :
    OverAlphabet (appendAffix a s) := by
  cases a with
  | none => exact hs
  | some x => exact (hs.append (by decide)).append (ha x rfl)

theorem prependAffix_eq_empty_iff : prependAffix a s = "" ↔ s = "" ∧ a = none := by
  cases a with
  | none => simp [prependAffix]
  | some x => simp [prependAffix, String.append_eq_empty_iff]

theorem appendAffix_eq_empty_iff : appendAffix a s = "" ↔ s = "" ∧ a = none := by
  cases a with
  | none => simp [appendAffix]
  | some x => simp [appendAffix, String.append_eq_empty_iff]

end Affix

section ModelCandidate

variable {ctx : NamingContext} {t : ReservedWords} {raw : String}

/-- The model candidate: the sanitized raw name between the affixes, type-cased. -/
theorem modelCandidate_eq :
    ({ context := ctx, reserved := t } : Namer).modelCandidate raw =
      Convention.swift.typeName
        (prependAffix ctx.leading (appendAffix ctx.trailing (sanitizeName raw))) := by
  unfold Namer.modelCandidate
  cases ctx.leading <;> cases ctx.trailing <;> rfl

/-- The model candidate is written over the identifier alphabet when the affixes are. -/
theorem overAlphabet_modelCandidate
    (hl : ∀ x, ctx.leading = some x → OverAlphabet x)
    (ht : ∀ x, ctx.trailing = some x → OverAlphabet x) :
    OverAlphabet (({ context := ctx, reserved := t } : Namer).modelCandidate raw) := by
  rw [modelCandidate_eq]
  exact overAlphabet_camelize
    (overAlphabet_prependAffix hl (overAlphabet_appendAffix ht (overAlphabet_sanitizeName raw)))
    false

/-- The model candidate is empty exactly when nothing is left of the raw name and there are no
affixes; the affixes need not be checked for this. -/
theorem modelCandidate_eq_empty_iff
    (hl : ∀ x, ctx.leading = some x → OverAlphabet x)
    (ht : ∀ x, ctx.trailing = some x → OverAlphabet x) :
    ({ context := ctx, reserved := t } : Namer).modelCandidate raw = "" ↔
      sanitizeName raw = "" ∧ ctx.leading = none ∧ ctx.trailing = none := by
  have hjoined := overAlphabet_prependAffix hl
    (overAlphabet_appendAffix ht (overAlphabet_sanitizeName raw))
  rw [modelCandidate_eq]
  refine (camelize_text_eq_empty_iff hjoined.ascii false).trans ?_
  rw [prependAffix_eq_empty_iff, appendAffix_eq_empty_iff]
  tauto

end ModelCandidate

/-! ## Operation ids -/

/-- An operation id **fails** exactly when nothing is left of it after sanitizing; the reserved
table and the naming context play no part. -/
theorem operationId_eq_error_iff (ctx : NamingContext) (t : ReservedWords) (raw : String) :
    (∃ e, ({ context := ctx, reserved := t } : Namer).operationId raw = .error e) ↔
      sanitizeName raw = "" := by
  rw [← methodName_swift_eq_empty_iff (overAlphabet_sanitizeName raw).ascii, ← String.isEmpty_iff]
  simp only [Namer.operationId]
  constructor
  · rintro ⟨e, he⟩
    by_contra hne
    rw [if_neg hne] at he
    cases he
  · intro h
    exact ⟨_, if_pos h⟩

/-- An operation id **resolves** exactly when something is left of it after sanitizing. -/
theorem operationId_toBool (ctx : NamingContext) (t : ReservedWords) (raw : String) :
    (({ context := ctx, reserved := t } : Namer).operationId raw).toBool =
      decide (sanitizeName raw ≠ "") := by
  cases hid : ({ context := ctx, reserved := t } : Namer).operationId raw with
  | error e =>
    have hempty := (operationId_eq_error_iff ctx t raw).mp ⟨e, hid⟩
    simp [Except.toBool, hempty]
  | ok r =>
    have hne : sanitizeName raw ≠ "" := fun hempty => by
      obtain ⟨e, he⟩ := (operationId_eq_error_iff ctx t raw).mpr hempty
      rw [hid] at he
      cases he
    simp [Except.toBool, hne]

/-! ## Names fit for identifiers -/

/-- A name **fit for an identifier**, short of not being empty: written over the identifier
alphabet, with no leading digit, and no Swift reserved word. -/
structure Fit (name : String) : Prop where
  alphabet : OverAlphabet name
  noLeadingDigit : startsWithDigit name.toList = false
  notSwiftReserved : isSwiftReserved name = false

/-- A fit name is a legal identifier exactly when it is not empty. -/
theorem Fit.identifierFault?_eq_none_iff {name : String} (h : Fit name) :
    identifierFault? name = none ↔ name ≠ "" := by
  have hsan : sanitizeName name = name := by
    rw [sanitizeName, sanitize_of_all_ident h.alphabet, String.ofList_toList]
  by_cases hname : name = ""
  · simp [identifierFault?, hname]
  · have hempty : name.isEmpty = false := String.isEmpty_eq_false_iff.mpr hname
    simp [identifierFault?, hempty, h.notSwiftReserved, h.noLeadingDigit, hsan, hname]

/-- A legal identifier is fit, and not empty. -/
theorem fit_of_identifierFault?_eq_none {name : String} (h : identifierFault? name = none) :
    Fit name ∧ name ≠ "" := by
  unfold identifierFault? at h
  split_ifs at h with hempty hswift hdigit hsan
  exact ⟨⟨overAlphabet_of_sanitizeName_eq (not_not.mp hsan), Bool.eq_false_iff.mpr hdigit,
    Bool.eq_false_iff.mpr hswift⟩, fun hname => hempty (String.isEmpty_iff.mpr hname)⟩

/-- A Swift reserved word that begins with some text is among the words that begin with it. -/
theorem mem_filter_of_isSwiftReserved {p s : String} (h : isSwiftReserved (p ++ s) = true) :
    p ++ s ∈ swiftReservedWords.filter fun w => p.toList.isPrefixOf w.toList := by
  refine List.mem_filter.mpr ⟨List.contains_iff_mem.mp h, ?_⟩
  rw [String.toList_append, List.isPrefixOf_iff_prefix]
  exact List.prefix_append _ _

/-- Text that begins with a prefix no Swift reserved word begins with is no Swift reserved
word. -/
theorem isSwiftReserved_append_eq_false {p s : String}
    (hp : (swiftReservedWords.filter fun w => p.toList.isPrefixOf w.toList) = []) :
    isSwiftReserved (p ++ s) = false := by
  refine Bool.eq_false_iff.mpr fun h => ?_
  have hmem := mem_filter_of_isSwiftReserved h
  rw [hp] at hmem
  exact List.not_mem_nil hmem

/-- The empty word is no Swift reserved word. -/
theorem isSwiftReserved_empty : isSwiftReserved "" = false := by
  decide +kernel

/-- No Swift reserved word begins with the model marker or the operation verb, and the only one
that begins with an underscore is the underscore. -/
theorem swiftReserved_prefixes :
    (swiftReservedWords.filter fun w => "Model".toList.isPrefixOf w.toList) = [] ∧
    (swiftReservedWords.filter fun w => "call".toList.isPrefixOf w.toList) = [] ∧
    (swiftReservedWords.filter fun w => "_".toList.isPrefixOf w.toList) = ["_"] := by
  decide +kernel

/-! ## The marks -/

section Marks

variable {c : String}

/-- The model marker before a name over the alphabet gives a fit name. -/
theorem fit_markedType (hc : OverAlphabet c) : Fit (Convention.swift.markedType c) := by
  have hmark : Convention.swift.markedType c = "Model" ++ c := rfl
  rw [hmark]
  exact ⟨OverAlphabet.append (by decide) hc, by rw [String.toList_append]; rfl,
    isSwiftReserved_append_eq_false swiftReserved_prefixes.1⟩

/-- An underscore before a name over the alphabet gives a fit name, unless the name is empty:
the underscore alone is a Swift reserved word. -/
theorem fit_underscore (hc : OverAlphabet c) (hne : c ≠ "") : Fit ("_" ++ c) := by
  refine ⟨OverAlphabet.append (by decide) hc, by rw [String.toList_append]; rfl, ?_⟩
  refine Bool.eq_false_iff.mpr fun h => hne ?_
  have hmem := mem_filter_of_isSwiftReserved h
  rw [swiftReserved_prefixes.2.2, List.mem_singleton] at hmem
  have hlist := congrArg String.toList hmem
  rw [String.toList_append] at hlist
  exact String.toList_eq_nil_iff.mp (List.append_right_eq_self.mp hlist)

/-- The operation verb before a name that is not empty: `call`, then the name in upper camel
case. -/
theorem verbMethod_eq (hne : c ≠ "") :
    Convention.swift.verbMethod c = "call" ++ String.ofList (camelFrom true c.toList) := by
  obtain ⟨d, rest, hd⟩ := List.exists_cons_of_ne_nil (mt String.toList_eq_nil_iff.mp hne)
  have hcall : ("call" ++ "_" ++ c).toList = 'c' :: 'a' :: 'l' :: 'l' :: '_' :: d :: rest := by
    rw [String.toList_append, String.toList_append, hd]
    rfl
  show String.ofList (camelize ("call" ++ "_" ++ c).toList true) = _
  apply String.toList_inj.mp
  rw [String.toList_ofList, hcall, String.toList_append, String.toList_ofList, hd]
  simp [camelize, camelFrom, lowerFirst, wordDelimiters, upper, lower]

/-- The operation verb before a name over the alphabet gives a fit name, unless the name is
empty. -/
theorem fit_verbMethod (hc : OverAlphabet c) (hne : c ≠ "") : Fit (Convention.swift.verbMethod c) := by
  have hcall : OverAlphabet ("call" ++ "_" ++ c) := ((by decide : OverAlphabet "call").append
    (by decide : OverAlphabet "_")).append hc
  refine ⟨overAlphabet_camelize hcall true, ?_, ?_⟩
  · rw [verbMethod_eq hne, String.toList_append]
    rfl
  · rw [verbMethod_eq hne]
    exact isSwiftReserved_append_eq_false swiftReserved_prefixes.2.1

theorem append_ne_empty_of_left {a : String} (ha : a ≠ "") (s : String) : a ++ s ≠ "" :=
  fun h => ha (String.append_eq_empty_iff.mp h).1

theorem markedType_ne_empty : Convention.swift.markedType c ≠ "" :=
  append_ne_empty_of_left (by decide) c

end Marks

/-! ## Decoration under a checked manifest -/

/-- A resolved name **fit under a table**: fit for an identifier, and reserved by the table
only when it was decorated. -/
def Resolved.FitUnder (t : ReservedWords) (r : Resolved) : Prop :=
  Fit r.name ∧ (t.isReserved r.name = true → r.isRenamed = true)

section Decorate

variable {m : Manifest} {c : String}

/-- A word that the table of a checked manifest reserves is not empty. -/
theorem ne_empty_of_isReserved (hm : m.Checked) (h : m.reservedTable.isReserved c = true) :
    c ≠ "" := by
  rintro rfl
  rcases (isReserved_reservedTable m "").mp h with hswift | hword
  · exact absurd hswift (by rw [isSwiftReserved_empty]; decide)
  · obtain ⟨p, hp, hp1⟩ := List.mem_map.mp hword
    exact hm.word_ne_empty p hp hp1

/-- **Decorating** a candidate over the alphabet under the table of a checked manifest gives a
name fit under the table, empty only when the candidate is; the mark need only be fit on the
candidate it is given. -/
theorem decorate_fitUnder (hm : m.Checked) (kind : IdentKind) (mark : String → String)
    (hc : OverAlphabet c) (hmark : c ≠ "" → Fit (mark c) ∧ mark c ≠ "") :
    (({ context := m.naming, reserved := m.reservedTable } : Namer).decorate kind c mark).FitUnder
        m.reservedTable ∧
      ((({ context := m.naming, reserved := m.reservedTable } : Namer).decorate kind c mark).name
        = "" ↔ c = "") := by
  unfold Namer.decorate
  split_ifs with hres hdigit
  · -- a reserved candidate: its configured replacement, which the check made legal, else the mark
    have hne := ne_empty_of_isReserved hm hres
    have hname : Fit ((m.reservedTable.replacement? c).getD (mark c)) ∧
        (m.reservedTable.replacement? c).getD (mark c) ≠ "" := by
      cases hrep : m.reservedTable.replacement? c with
      | none => exact hmark hne
      | some rep =>
        exact fit_of_identifierFault?_eq_none
          (hm.replacement_legal (c, rep) (mem_of_replacement?_reservedTable hrep))
    exact ⟨⟨hname.1, fun _ => rfl⟩, iff_of_false hname.2 hne⟩
  · -- a candidate with a leading digit: the mark
    have hne : c ≠ "" := fun h => by simp [h] at hdigit
    exact ⟨⟨(hmark hne).1, fun _ => rfl⟩, iff_of_false (hmark hne).2 hne⟩
  · -- a plain candidate is neither reserved nor led by a digit
    have hswift : isSwiftReserved c = false := Bool.eq_false_iff.mpr fun h =>
      hres ((isReserved_reservedTable m c).mpr (.inl h))
    exact ⟨⟨⟨hc, Bool.eq_false_iff.mpr hdigit, hswift⟩, fun h => absurd h hres⟩, Iff.rfl⟩

/-- A name fit under a manifest's table is a legal identifier exactly when it is not empty, the
table reserves it exactly when the manifest configures it, and then it was decorated. -/
theorem Resolved.FitUnder.legal {r : Resolved} (hr : r.FitUnder m.reservedTable) :
    (identifierFault? r.name = none ↔ r.name ≠ "") ∧
    (m.reservedTable.isReserved r.name = true ↔ r.name ∈ m.reservedWords.map (·.1)) ∧
    (r.name ∈ m.reservedWords.map (·.1) → r.isRenamed = true) := by
  have hreserved : m.reservedTable.isReserved r.name = true ↔
      r.name ∈ m.reservedWords.map (·.1) := by
    rw [isReserved_reservedTable, hr.1.notSwiftReserved]
    simp
  exact ⟨hr.1.identifierFault?_eq_none_iff, hreserved, fun h => hr.2 (hreserved.mpr h)⟩

end Decorate

/-! ## The resolvers under a checked manifest -/

section Resolvers

variable {m : Manifest} (hm : m.Checked) (raw : String)
include hm

/-- A property or parameter name: the value-cased sanitized name, behind an underscore when
decorated. -/
theorem underscored_fitUnder (kind : IdentKind) :
    (({ context := m.naming, reserved := m.reservedTable } : Namer).decorate kind
        (Convention.swift.valueName (sanitizeName raw)) ("_" ++ ·)).FitUnder m.reservedTable ∧
      ((({ context := m.naming, reserved := m.reservedTable } : Namer).decorate kind
        (Convention.swift.valueName (sanitizeName raw)) ("_" ++ ·)).name = "" ↔
        sanitizeName raw = "") := by
  have hc := overAlphabet_valueName (overAlphabet_sanitizeName raw)
  rw [← valueName_swift_eq_empty_iff (overAlphabet_sanitizeName raw)]
  exact decorate_fitUnder hm kind ("_" ++ ·) hc fun hne =>
    ⟨fit_underscore hc hne, append_ne_empty_of_left (by decide) _⟩

theorem modelName_fitUnder :
    (({ context := m.naming, reserved := m.reservedTable } : Namer).modelName raw).FitUnder
        m.reservedTable ∧
      ((({ context := m.naming, reserved := m.reservedTable } : Namer).modelName raw).name = "" ↔
        sanitizeName raw = "" ∧ m.naming.leading = none ∧ m.naming.trailing = none) := by
  have hl : ∀ x, m.naming.leading = some x → OverAlphabet x := fun x hx =>
    overAlphabet_of_sanitizeName_eq (hm.leading x hx).2
  have ht : ∀ x, m.naming.trailing = some x → OverAlphabet x := fun x hx =>
    overAlphabet_of_sanitizeName_eq (hm.trailing x hx).2
  have hc : OverAlphabet (({ context := m.naming, reserved := m.reservedTable } : Namer).modelCandidate
      raw) := overAlphabet_modelCandidate hl ht
  have hempty : ({ context := m.naming, reserved := m.reservedTable } : Namer).modelCandidate raw
      = "" ↔ sanitizeName raw = "" ∧ m.naming.leading = none ∧ m.naming.trailing = none :=
    modelCandidate_eq_empty_iff hl ht
  rw [← hempty]
  exact decorate_fitUnder hm .model Convention.swift.markedType hc fun _ =>
    ⟨fit_markedType hc, markedType_ne_empty⟩

theorem operationId_fitUnder {r : Resolved}
    (h : ({ context := m.naming, reserved := m.reservedTable } : Namer).operationId raw = .ok r) :
    r.FitUnder m.reservedTable ∧ r.name ≠ "" := by
  have hc := overAlphabet_methodName (overAlphabet_sanitizeName raw)
  simp only [Namer.operationId] at h
  split at h
  · cases h
  · rename_i hne
    cases h
    have hne' : Convention.swift.methodName (sanitizeName raw) ≠ "" :=
      fun he => hne (String.isEmpty_iff.mpr he)
    have hd := decorate_fitUnder hm .operation Convention.swift.verbMethod hc fun hne =>
      ⟨fit_verbMethod hc hne, (verbMethod_eq hne).symm ▸ append_ne_empty_of_left (by decide) _⟩
    exact ⟨hd.1, fun he => hne' (hd.2.mp he)⟩

end Resolvers

/-! ## Resolved names under a checked manifest -/

/-- The names the resolvers give one raw name: as a model, a property and a parameter, and as
an operation when the id resolves. -/
def Namer.resolvedNames (n : Namer) (raw : String) : List Resolved :=
  [n.modelName raw, n.varName raw, n.paramName raw] ++ (n.operationId raw).toOption.toList

/-- Under a manifest that passed its check, a resolved name passes every identifier check but
emptiness, and the manifest's table reserves it exactly when the manifest configures it as a
word, which only a decorated name can be. A model, property or parameter name is empty exactly
when nothing is left of the raw name after sanitizing (and, for a model, there are no affixes);
an operation name never is. So a resolved name is a legal identifier that the table does not
reserve exactly when it is not empty and not a configured word. -/
theorem resolvedNames_legal_iff {m : Manifest} {ctx : Source} (hm : m.check ctx = .ok ())
    (raw : String) :
    (∀ r ∈ ({ context := m.naming, reserved := m.reservedTable } : Namer).resolvedNames raw,
      (identifierFault? r.name = none ↔ r.name ≠ "") ∧
      (m.reservedTable.isReserved r.name = true ↔ r.name ∈ m.reservedWords.map (·.1)) ∧
      (r.name ∈ m.reservedWords.map (·.1) → r.isRenamed = true)) ∧
    ((({ context := m.naming, reserved := m.reservedTable } : Namer).modelName raw).name = "" ↔
      sanitizeName raw = "" ∧ m.naming.leading = none ∧ m.naming.trailing = none) ∧
    ((({ context := m.naming, reserved := m.reservedTable } : Namer).varName raw).name = "" ↔
      sanitizeName raw = "") ∧
    ((({ context := m.naming, reserved := m.reservedTable } : Namer).paramName raw).name = "" ↔
      sanitizeName raw = "") ∧
    (∀ r, ({ context := m.naming, reserved := m.reservedTable } : Namer).operationId raw = .ok r →
      r.name ≠ "") := by
  have hc := Manifest.checked_of_check hm
  have hmodel := modelName_fitUnder hc raw
  have hvar := underscored_fitUnder hc raw .variable
  have hparam := underscored_fitUnder hc raw .parameter
  refine ⟨fun r hr => ?_, hmodel.2, hvar.2, hparam.2, fun r h => (operationId_fitUnder hc raw h).2⟩
  -- each of the four names is fit under the table
  simp only [Namer.resolvedNames, List.mem_append, List.mem_cons, List.not_mem_nil, or_false]
    at hr
  rcases hr with (rfl | rfl | rfl) | hop
  · exact hmodel.1.legal
  · exact hvar.1.legal
  · exact hparam.1.legal
  · cases hid : ({ context := m.naming, reserved := m.reservedTable } : Namer).operationId raw with
    | error e => simp [hid, Except.toOption] at hop
    | ok r' =>
      simp only [hid, Except.toOption, Option.toList_some, List.mem_singleton] at hop
      subst hop
      exact (operationId_fitUnder hc raw hid).1.legal

/-- A manifest that configures the word `ModelType`, which the model marker writes for `Type`. -/
def modelTypeManifest : Manifest := { reservedWords := [("ModelType", "Foo")] }

theorem modelTypeManifest_resolvedNames :
    modelTypeManifest.check ⟨"", "swan.toml"⟩ = .ok () ∧
    (∀ r ∈ ({ context := modelTypeManifest.naming, reserved := modelTypeManifest.reservedTable } :
        Namer).resolvedNames "Type",
      (identifierFault? r.name = none ↔ r.name ≠ "") ∧
      (modelTypeManifest.reservedTable.isReserved r.name = true ↔
        r.name ∈ modelTypeManifest.reservedWords.map (·.1)) ∧
      (r.name ∈ modelTypeManifest.reservedWords.map (·.1) → r.isRenamed = true)) ∧
    ((({ context := modelTypeManifest.naming, reserved := modelTypeManifest.reservedTable } :
        Namer).modelName "Type").name = "" ↔
      sanitizeName "Type" = "" ∧ modelTypeManifest.naming.leading = none ∧
        modelTypeManifest.naming.trailing = none) ∧
    ((({ context := modelTypeManifest.naming, reserved := modelTypeManifest.reservedTable } :
        Namer).varName "Type").name = "" ↔ sanitizeName "Type" = "") ∧
    ((({ context := modelTypeManifest.naming, reserved := modelTypeManifest.reservedTable } :
        Namer).paramName "Type").name = "" ↔ sanitizeName "Type" = "") ∧
    (∀ r, ({ context := modelTypeManifest.naming, reserved := modelTypeManifest.reservedTable } :
        Namer).operationId "Type" = .ok r → r.name ≠ "") :=
  have hcheck : modelTypeManifest.check ⟨"", "swan.toml"⟩ = .ok () := by decide
  ⟨hcheck, resolvedNames_legal_iff hcheck "Type"⟩

/-- Two resolved names that are no legal identifiers the table leaves free. Under the default
manifest the property name of the empty raw name is empty; under `modelTypeManifest` the model
name of `Type` is `ModelType`, which the manifest configures as a word. -/
theorem resolvedName_not_legal :
    ({} : Manifest).check ⟨"", "swan.toml"⟩ = .ok () ∧
    (({ context := ({} : Manifest).naming, reserved := ({} : Manifest).reservedTable } :
        Namer).varName "").name = "" ∧
    identifierFault? "" = some "name cannot be empty" ∧
    modelTypeManifest.check ⟨"", "swan.toml"⟩ = .ok () ∧
    (({ context := modelTypeManifest.naming, reserved := modelTypeManifest.reservedTable } :
        Namer).modelName "Type").name = "ModelType" ∧
    modelTypeManifest.reservedTable.isReserved "ModelType" = true :=
  ⟨by decide, rfl, rfl, by decide, rfl, by decide⟩

end SwiftSchema.Naming
