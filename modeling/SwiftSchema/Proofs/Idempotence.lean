import SwiftSchema.Proofs.Resolvers

/-! # Resolving a resolved name again

Under the empty naming context and the Swift table, every resolver is **idempotent**: the name
it gives resolves to itself, and a model or operation name is then reported as needing no
rename. Camel casing leaves a word delimiter only at the very end of a name, so casing a cased
name again changes at most its first letter, and back to what it was. The decorations keep that
shape: the model marker and the operation verb are words without delimiters, and an underscore
before a value name is dropped by casing and put back by decoration.

* `Joined` — text with no word delimiter before its last character; camel casing writes such
  text (`joined_camelFrom`) and, on it, changes no more than the first character
  (`camelFrom_false_of_joined`, `camelFrom_true_of_joined`).
* `sanitizeName_image` — sanitizing twice is sanitizing once, and the sanitized names are
  exactly the names over the identifier alphabet.
* `camelize_camelize` — camel casing ASCII text twice is casing it once.
* `camelize_joined_idempotent_eq_nil_iff` — camel casing writes joined text, casing it again
  changes nothing, and only the empty text is cased to the empty text.
* `typeName_markedType`, `methodName_verbMethod`, `valueName_underscore` — the decorated names
  under their casing again.
* `resolvers_idempotent` — the four resolvers, each applied to its own name.
-/

namespace SwiftSchema.Text

/-! ## Joined text -/

/-- Text whose words are **joined**: no word delimiter stands before another character. -/
def Joined : List Char → Prop
  | [] => True
  | c :: rest => (rest ≠ [] → c ∉ wordDelimiters) ∧ Joined rest

@[simp] theorem joined_nil : Joined [] := trivial

@[simp] theorem joined_cons {c : Char} {rest : List Char} :
    Joined (c :: rest) ↔ (rest ≠ [] → c ∉ wordDelimiters) ∧ Joined rest := Iff.rfl

theorem Joined.append_left {a t : List Char} (ha : ∀ c ∈ a, c ∉ wordDelimiters) (ht : Joined t) :
    Joined (a ++ t) := by
  induction a with
  | nil => exact ht
  | cons c a ih =>
    obtain ⟨hc, ha⟩ := List.forall_mem_cons.mp ha
    exact ⟨fun _ => hc, ih ha⟩

/-- In joined text a word delimiter can stand only last: the text less its last character has
none. -/
theorem Joined.forall_mem_dropLast : ∀ {t : List Char}, Joined t → ∀ c ∈ t.dropLast, c ∉ wordDelimiters
  | [], _ => by simp
  | [_], _ => by simp
  | c :: d :: rest, ⟨hc, hrest⟩ => by
    rw [List.dropLast_cons_cons]
    exact List.forall_mem_cons.mpr ⟨hc (List.cons_ne_nil d rest), hrest.forall_mem_dropLast⟩

/-- No word delimiter is a capital or a small letter, so casing moves no character onto one. -/
theorem toUpper_not_mem_wordDelimiters {c : Char} (h : c ∉ wordDelimiters) :
    c.toUpper ∉ wordDelimiters := by
  by_cases hl : c.isLower
  · intro hmem
    have hup : c.toUpper.isUpper = true := by
      simp [Char.isUpper_toUpper_eq_isAlpha, Char.isAlpha, hl]
    have hdelim : ∀ d ∈ wordDelimiters, d.isUpper = false := by simp [wordDelimiters]
    rw [hdelim _ hmem] at hup
    cases hup
  · rwa [Char.toUpper_eq_of_not_isLower hl]

theorem toLower_not_mem_wordDelimiters {c : Char} (h : c ∉ wordDelimiters) :
    c.toLower ∉ wordDelimiters := by
  by_cases hu : c.isUpper
  · intro hmem
    have hlow : c.toLower.isLower = true := by
      simp [Char.isLower_toLower_eq_isAlpha, Char.isAlpha, hu]
    have hdelim : ∀ d ∈ wordDelimiters, d.isLower = false := by simp [wordDelimiters]
    rw [hdelim _ hmem] at hlow
    cases hlow
  · rwa [Char.toLower_eq_of_not_isUpper hu]

/-- A character that camel casing keeps in front of more text is no delimiter. -/
theorem not_mem_wordDelimiters_of_kept {c : Char} {rest : List Char}
    (hkeep : ¬(wordDelimiters.contains c && !rest.isEmpty) = true) (hrest : rest ≠ []) :
    c ∉ wordDelimiters := by
  simpa [List.isEmpty_iff, hrest] using hkeep

theorem ne_nil_of_camelFrom_ne_nil {b : Bool} {s : List Char} (h : camelFrom b s ≠ []) : s ≠ [] := by
  rintro rfl
  exact h rfl

/-! ## Camel casing on joined text -/

theorem delimiter_kept_of_joined {c : Char} {rest : List Char} (h : rest ≠ [] → c ∉ wordDelimiters) :
    (wordDelimiters.contains c && !rest.isEmpty) = false := by
  cases rest with
  | nil => simp
  | cons d ds => simpa using h (List.cons_ne_nil d ds)

/-- On joined text, camel casing inside a word changes nothing. -/
theorem camelFrom_false_of_joined : ∀ {t : List Char}, Joined t → camelFrom false t = t
  | [], _ => rfl
  | c :: rest, ⟨hc, hrest⟩ => by
    simp only [camelFrom, delimiter_kept_of_joined hc, camelFrom_false_of_joined hrest,
      Bool.false_eq_true, if_false]

/-- On joined text, camel casing from a word start capitalises the first character alone. -/
theorem camelFrom_true_of_joined {t : List Char} (h : Joined t) : camelFrom true t = initialCaps t := by
  cases t with
  | nil => rfl
  | cons c rest =>
    obtain ⟨hc, hrest⟩ := h
    simp only [camelFrom, initialCaps, delimiter_kept_of_joined hc, camelFrom_false_of_joined hrest,
      Bool.false_eq_true, if_false, if_true]

/-- **Camel casing writes joined text**: it drops every delimiter that something follows, and
casing an ASCII character that is no delimiter gives none. -/
theorem joined_camelFrom {s : List Char} (hs : ∀ c ∈ s, c.toNat < 128) (b : Bool) :
    Joined (camelFrom b s) := by
  induction s generalizing b with
  | nil => trivial
  | cons c rest ih =>
    obtain ⟨hc, hrest⟩ := List.forall_mem_cons.mp hs
    unfold camelFrom
    split_ifs with hdrop hb
    · exact ih hrest true
    · rw [upper_of_ascii hc, List.singleton_append]
      exact ⟨fun hne => toUpper_not_mem_wordDelimiters
        (not_mem_wordDelimiters_of_kept hdrop (ne_nil_of_camelFrom_ne_nil hne)), ih hrest false⟩
    · exact ⟨fun hne => not_mem_wordDelimiters_of_kept hdrop (ne_nil_of_camelFrom_ne_nil hne),
        ih hrest false⟩

theorem Joined.lowerFirst {t : List Char} (h : Joined t) (ht : ∀ c ∈ t, c.toNat < 128) :
    Joined (lowerFirst t) := by
  cases t with
  | nil => trivial
  | cons c rest =>
    rw [SwiftSchema.Text.lowerFirst, lower_of_ascii (ht c List.mem_cons_self), List.singleton_append]
    exact ⟨fun hne => toLower_not_mem_wordDelimiters (h.1 hne), h.2⟩

/-- Camel casing from a word start leaves its first character a capital. -/
theorem initialCaps_camelFrom_true {s : List Char} (hs : ∀ c ∈ s, c.toNat < 128) :
    initialCaps (camelFrom true s) = camelFrom true s := by
  induction s with
  | nil => rfl
  | cons c rest ih =>
    obtain ⟨hc, hrest⟩ := List.forall_mem_cons.mp hs
    unfold camelFrom
    split_ifs with hdrop
    · exact ih hrest
    · rw [upper_of_ascii hc, List.singleton_append, initialCaps,
        upper_of_ascii (caseClosed_ascii c hc).2.1, Char.toUpper_toUpper_eq_toUpper]
      rfl
    · exact absurd rfl ‹¬true = true›

/-- Lowering the first character undoes capitalising it, on ASCII text. -/
theorem lowerFirst_initialCaps_lowerFirst {t : List Char} (ht : ∀ c ∈ t, c.toNat < 128) :
    lowerFirst (initialCaps (lowerFirst t)) = lowerFirst t := by
  cases t with
  | nil => rfl
  | cons c rest =>
    have hc := caseClosed_ascii c (ht c List.mem_cons_self)
    have hcl := caseClosed_ascii c.toLower hc.2.2
    simp only [SwiftSchema.Text.lowerFirst, initialCaps, lower_of_ascii hc.1,
      upper_of_ascii hc.2.2, lower_of_ascii hcl.2.1,
      List.singleton_append, Char.toLower_toUpper_eq_toLower, Char.toLower_toLower_eq_toLower]

/-- **Camel casing is idempotent** on ASCII text. -/
theorem camelize_camelize {s : List Char} (hs : ∀ c ∈ s, c.toNat < 128) (b : Bool) :
    camelize (camelize s b) b = camelize s b := by
  have hjoined := joined_camelFrom hs true
  have hascii := forall_mem_camelFrom caseClosed_ascii true hs
  cases b with
  | false =>
    simp only [camelize, Bool.false_eq_true, if_false]
    rw [camelFrom_true_of_joined hjoined, initialCaps_camelFrom_true hs]
  | true =>
    simp only [camelize, if_true]
    rw [camelFrom_true_of_joined (hjoined.lowerFirst hascii), lowerFirst_initialCaps_lowerFirst hascii]

/-- Camel casing, upper or lower, writes joined text from ASCII text. -/
theorem joined_camelize {s : List Char} (hs : ∀ c ∈ s, c.toNat < 128) (b : Bool) :
    Joined (camelize s b) := by
  cases b with
  | false => exact joined_camelFrom hs true
  | true => exact (joined_camelFrom hs true).lowerFirst (forall_mem_camelFrom caseClosed_ascii true hs)

/-- **Camel casing writes a normal form.** On ASCII text, upper or lower camel casing leaves no
word delimiter anywhere but as the last character, casing its result again changes nothing, and
it empties only the empty text. -/
theorem camelize_joined_idempotent_eq_nil_iff {s : List Char} (hs : ∀ c ∈ s, c.toNat < 128)
    (b : Bool) :
    (∀ c ∈ (camelize s b).dropLast, c ∉ wordDelimiters) ∧
      camelize (camelize s b) b = camelize s b ∧ (camelize s b = [] ↔ s = []) :=
  ⟨(joined_camelize hs b).forall_mem_dropLast, camelize_camelize hs b, camelize_eq_nil_iff hs b⟩

/-- `pet__id_` becomes `petId_` in lower camel case: the inner delimiters go, the trailing one
stays. -/
theorem camelize_petId_trailing :
    camelize ['p', 'e', 't', '_', '_', 'i', 'd', '_'] true = ['p', 'e', 't', 'I', 'd', '_'] ∧
    (∀ c ∈ (camelize ['p', 'e', 't', '_', '_', 'i', 'd', '_'] true).dropLast,
        c ∉ wordDelimiters) ∧
      camelize (camelize ['p', 'e', 't', '_', '_', 'i', 'd', '_'] true) true =
        camelize ['p', 'e', 't', '_', '_', 'i', 'd', '_'] true ∧
      (camelize ['p', 'e', 't', '_', '_', 'i', 'd', '_'] true = [] ↔
        ['p', 'e', 't', '_', '_', 'i', 'd', '_'] = []) :=
  ⟨rfl, camelize_joined_idempotent_eq_nil_iff (by simp) true⟩

/-- Camel casing from a word start a word without delimiters before joined text capitalises
the word and keeps the text. -/
theorem camelFrom_true_append_of_joined {a t : List Char} (hne : a ≠ [])
    (ha : ∀ c ∈ a, c ∉ wordDelimiters) (ht : Joined t) :
    camelFrom true (a ++ t) = initialCaps a ++ t := by
  obtain ⟨c, a', rfl⟩ := List.exists_cons_of_ne_nil hne
  rw [camelFrom_true_of_joined (Joined.append_left ha ht)]
  simp [initialCaps]

end SwiftSchema.Text

namespace SwiftSchema.Naming

open SwiftSchema.Text

/-! ## The casings, applied again -/

/-- Sanitizing keeps a name over the identifier alphabet. -/
theorem sanitizeName_of_overAlphabet {t : String} (h : OverAlphabet t) : sanitizeName t = t := by
  rw [sanitizeName, sanitize_of_all_ident h, String.ofList_toList]

/-- Sanitizing writes every name over the identifier alphabet and keeps each name that is over
it already; so sanitizing twice is sanitizing once, and the sanitized names are exactly the
names over the alphabet. -/
theorem sanitizeName_image :
    (∀ s, OverAlphabet (sanitizeName s)) ∧ (∀ t, OverAlphabet t → sanitizeName t = t) ∧
      (∀ s, sanitizeName (sanitizeName s) = sanitizeName s) ∧
      Set.range sanitizeName = {t | OverAlphabet t} := by
  refine ⟨overAlphabet_sanitizeName, fun _ => sanitizeName_of_overAlphabet,
    fun s => sanitizeName_of_overAlphabet (overAlphabet_sanitizeName s), ?_⟩
  ext t
  constructor
  · rintro ⟨s, rfl⟩
    exact overAlphabet_sanitizeName s
  · intro ht
    exact ⟨t, sanitizeName_of_overAlphabet ht⟩

section Casings

variable {s : String}

theorem typeName_swift_eq :
    Convention.swift.typeName s = String.ofList (camelize s.toList false) :=
  rfl

theorem typeName_typeName (hs : OverAlphabet s) :
    Convention.swift.typeName (Convention.swift.typeName s) = Convention.swift.typeName s := by
  rw [typeName_swift_eq, typeName_swift_eq, String.toList_ofList,
    camelize_camelize hs.ascii false]

theorem methodName_swift_eq :
    Convention.swift.methodName s = String.ofList (camelize s.toList true) :=
  rfl

theorem methodName_methodName (hs : OverAlphabet s) :
    Convention.swift.methodName (Convention.swift.methodName s) = Convention.swift.methodName s := by
  rw [methodName_swift_eq, methodName_swift_eq, String.toList_ofList,
    camelize_camelize hs.ascii true]

/-- A screaming name is its own value name. -/
theorem valueName_of_isScreaming (h : isScreaming s.toList = true) :
    Convention.swift.valueName s = s :=
  if_pos h

/-- Any other name is lower camel cased. -/
theorem valueName_of_not_isScreaming (h : ¬isScreaming s.toList = true) :
    Convention.swift.valueName s = String.ofList (camelize s.toList true) :=
  if_neg h

theorem valueName_valueName (hs : OverAlphabet s) :
    Convention.swift.valueName (Convention.swift.valueName s) = Convention.swift.valueName s := by
  have hcased : String.ofList (camelize (String.ofList (camelize s.toList true)).toList true) =
      String.ofList (camelize s.toList true) := by
    rw [String.toList_ofList, camelize_camelize hs.ascii true]
  by_cases hscream : isScreaming s.toList
  · rw [valueName_of_isScreaming hscream, valueName_of_isScreaming hscream]
  · rw [valueName_of_not_isScreaming hscream]
    -- a cased name is kept as it is, or cased to itself
    by_cases hscream' : isScreaming (String.ofList (camelize s.toList true)).toList
    · exact valueName_of_isScreaming hscream'
    · exact (valueName_of_not_isScreaming hscream').trans hcased

/-- The model marker before a type-cased name is fixed by type casing. -/
theorem typeName_markedType (hs : OverAlphabet s) :
    Convention.swift.typeName (Convention.swift.markedType (Convention.swift.typeName s)) =
      Convention.swift.markedType (Convention.swift.typeName s) := by
  have hjoined := joined_camelFrom hs.ascii true
  apply String.toList_inj.mp
  simp only [Convention.typeName, Convention.markedType, Convention.swift, camelize,
    Bool.false_eq_true, if_false, String.toList_ofList, String.toList_append]
  rw [camelFrom_true_append_of_joined (by simp) (by simp [wordDelimiters]) hjoined]
  rfl

/-- The operation verb before a method name is fixed by method casing. -/
theorem methodName_verbMethod {c : String} (hc : OverAlphabet c) (hne : c ≠ "") :
    Convention.swift.methodName (Convention.swift.verbMethod c) = Convention.swift.verbMethod c := by
  have hjoined := joined_camelFrom hc.ascii true
  rw [verbMethod_eq hne]
  apply String.toList_inj.mp
  simp only [Convention.methodName, Convention.swift, camelize, if_true, String.toList_ofList,
    String.toList_append]
  rw [camelFrom_true_append_of_joined (by simp) (by simp [wordDelimiters]) hjoined]
  rfl

/-- An underscore before a value name that is not empty: casing drops it unless the name is
screaming. -/
theorem valueName_underscore {w : String} (hne : w ≠ "") :
    Convention.swift.valueName ("_" ++ w) =
      if isScreaming w.toList then "_" ++ w else Convention.swift.valueName w := by
  have hscream : isScreaming ("_" ++ w).toList = isScreaming w.toList := by
    rw [String.toList_append]
    simp [isScreaming]
  obtain ⟨d, rest, hd⟩ := List.exists_cons_of_ne_nil (mt String.toList_eq_nil_iff.mp hne)
  by_cases hw : isScreaming w.toList = true
  · rw [if_pos hw, valueName_of_isScreaming (by rw [hscream]; exact hw)]
  · -- the underscore is a delimiter with text after it, so casing drops it
    rw [if_neg hw, valueName_of_not_isScreaming (by rw [hscream]; exact hw),
      valueName_of_not_isScreaming hw, String.toList_append, hd]
    rfl

end Casings

/-! ## Decoration under the Swift table -/

section Decorate

variable {ctx : NamingContext} {kind : IdentKind} {c : String} {mark : String → String}

@[simp] theorem isReserved_swift (w : String) : ReservedWords.swift.isReserved w = isSwiftReserved w := by
  simp [ReservedWords.isReserved, ReservedWords.swift, ReservedWords.replacement?, isSwiftReserved]

/-- A fit candidate is not decorated. -/
theorem decorate_swift_of_fit (h : Fit c) :
    ({ context := ctx, reserved := .swift } : Namer).decorate kind c mark = .plain c := by
  simp [Namer.decorate, h.notSwiftReserved, h.noLeadingDigit]

/-- A candidate that is reserved or led by a digit takes its mark. -/
theorem decorate_swift_name_of_not_fit (h : ¬(isSwiftReserved c = false ∧ startsWithDigit c.toList = false)) :
    (({ context := ctx, reserved := .swift } : Namer).decorate kind c mark).name = mark c := by
  unfold Namer.decorate
  split_ifs with hres hdigit
  · simp [ReservedWords.replacement?, ReservedWords.swift, Resolved.renamed]
  · rfl
  · simp only [isReserved_swift, Bool.not_eq_true] at hres
    exact absurd ⟨hres, Bool.eq_false_iff.mpr hdigit⟩ h

/-- A decorated candidate is not empty. -/
theorem ne_empty_of_not_fit (h : ¬(isSwiftReserved c = false ∧ startsWithDigit c.toList = false)) :
    c ≠ "" := by
  rintro rfl
  exact h ⟨isSwiftReserved_empty, rfl⟩

end Decorate

/-! ## The resolvers, applied again -/

section Resolvers

variable (raw : String)

/-- A property or parameter name resolves to itself. -/
theorem underscored_idempotent (kind : IdentKind) :
    let n : Namer := { context := {}, reserved := .swift }
    let r := n.decorate kind (Convention.swift.valueName (sanitizeName raw)) ("_" ++ ·)
    (n.decorate kind (Convention.swift.valueName (sanitizeName r.name)) ("_" ++ ·)).name = r.name := by
  intro n r
  have hc := overAlphabet_valueName (overAlphabet_sanitizeName raw)
  set c := Convention.swift.valueName (sanitizeName raw) with hcdef
  by_cases hfit : isSwiftReserved c = false ∧ startsWithDigit c.toList = false
  · -- the candidate was kept, and casing keeps it
    have hr : r = .plain c := decorate_swift_of_fit ⟨hc, hfit.2, hfit.1⟩
    rw [hr, Resolved.plain, sanitizeName_of_overAlphabet hc, hcdef,
      valueName_valueName (overAlphabet_sanitizeName raw), ← hcdef]
    exact congrArg Resolved.name (decorate_swift_of_fit ⟨hc, hfit.2, hfit.1⟩)
  · -- the candidate was put behind an underscore
    have hne := ne_empty_of_not_fit hfit
    have hname : r.name = "_" ++ c := decorate_swift_name_of_not_fit hfit
    rw [hname, sanitizeName_of_overAlphabet ((by decide : OverAlphabet "_").append hc),
      valueName_underscore hne]
    split
    · exact congrArg Resolved.name (decorate_swift_of_fit (fit_underscore hc hne))
    · rw [hcdef, valueName_valueName (overAlphabet_sanitizeName raw), ← hcdef]
      exact decorate_swift_name_of_not_fit hfit

/-- A model name resolves to itself, with no rename. -/
theorem modelName_idempotent :
    ({ context := {}, reserved := .swift } : Namer).modelName
        (({ context := {}, reserved := .swift } : Namer).modelName raw).name =
      .plain (({ context := {}, reserved := .swift } : Namer).modelName raw).name := by
  have hs := overAlphabet_sanitizeName raw
  -- under the empty context the candidate is the type-cased sanitized name
  have hcand : ∀ t, ({ context := {}, reserved := .swift } : Namer).modelCandidate t =
      Convention.swift.typeName (sanitizeName t) := fun t => rfl
  have hu : OverAlphabet (Convention.swift.typeName (sanitizeName raw)) := by
    rw [typeName_swift_eq]
    exact overAlphabet_camelize hs false
  have hcased := typeName_typeName hs
  have hmarked := typeName_markedType hs
  simp only [Namer.modelName, hcand]
  generalize Convention.swift.typeName (sanitizeName raw) = u at hu hcased hmarked ⊢
  by_cases hfit : isSwiftReserved u = false ∧ startsWithDigit u.toList = false
  · -- a kept name is type-cased already
    have hfu : Fit u := ⟨hu, hfit.2, hfit.1⟩
    simp only [decorate_swift_of_fit hfu, Resolved.plain]
    rw [sanitizeName_of_overAlphabet hu, hcased, decorate_swift_of_fit hfu, Resolved.plain]
  · -- a marked name is type-cased already, and fit
    have hfm := fit_markedType hu
    rw [decorate_swift_name_of_not_fit hfit, sanitizeName_of_overAlphabet hfm.alphabet, hmarked,
      decorate_swift_of_fit hfm]

/-- An operation name that resolves resolves to itself, with no rename. -/
theorem operationId_idempotent {r : Resolved}
    (h : ({ context := {}, reserved := .swift } : Namer).operationId raw = .ok r) :
    ({ context := {}, reserved := .swift } : Namer).operationId r.name = .ok (.plain r.name) := by
  have hs := overAlphabet_sanitizeName raw
  have hc := overAlphabet_methodName hs
  set c := Convention.swift.methodName (sanitizeName raw) with hcdef
  have hne : c ≠ "" := by
    intro hempty
    have hfail := (operationId_eq_error_iff {} .swift raw).mpr
      ((methodName_swift_eq_empty_iff hs.ascii).mp hempty)
    obtain ⟨e, he⟩ := hfail
    rw [he] at h
    cases h
  have hr : r = ({ context := {}, reserved := .swift } : Namer).decorate .operation c
      Convention.swift.verbMethod := by
    simp only [Namer.operationId, ← hcdef] at h
    rw [if_neg (fun he => hne (String.isEmpty_iff.mp he))] at h
    exact (Except.ok.inj h).symm
  -- the name is fit and fixed by method casing, so it is kept
  have hkept : ∀ t, Fit t → t ≠ "" → Convention.swift.methodName t = t →
      ({ context := {}, reserved := .swift } : Namer).operationId t = .ok (.plain t) := by
    intro t ht htne hcase
    simp only [Namer.operationId, sanitizeName_of_overAlphabet ht.alphabet]
    rw [show Convention.swift.methodName t = t from hcase,
      if_neg (fun he => htne (String.isEmpty_iff.mp he)), decorate_swift_of_fit ht]
  by_cases hfit : isSwiftReserved c = false ∧ startsWithDigit c.toList = false
  · rw [hr, decorate_swift_of_fit ⟨hc, hfit.2, hfit.1⟩]
    exact hkept c ⟨hc, hfit.2, hfit.1⟩ hne (by rw [hcdef, methodName_methodName hs])
  · have hname : r.name = Convention.swift.verbMethod c := hr ▸ decorate_swift_name_of_not_fit hfit
    rw [hname]
    exact hkept _ (fit_verbMethod hc hne)
      ((verbMethod_eq hne).symm ▸ append_ne_empty_of_left (by decide) _) (methodName_verbMethod hc hne)

end Resolvers

/-- **Resolvers are idempotent.** Under the empty naming context and the Swift table, the model,
property and parameter name of a raw name resolve to themselves, and so does an operation name
when the raw id resolves; a model or operation name resolved again needs no rename. -/
theorem resolvers_idempotent (x : String) :
    let n : Namer := { context := {}, reserved := .swift }
    n.modelName (n.modelName x).name = .plain (n.modelName x).name ∧
    (n.varName (n.varName x).name).name = (n.varName x).name ∧
    (n.paramName (n.paramName x).name).name = (n.paramName x).name ∧
    ∀ r, n.operationId x = .ok r → n.operationId r.name = .ok (.plain r.name) :=
  ⟨modelName_idempotent x, underscored_idempotent x .variable, underscored_idempotent x .parameter,
    fun _ h => operationId_idempotent x h⟩

/-- `return` resolves to `callReturn`, which resolves to itself. -/
theorem callReturn_resolves_to_itself :
    ({ context := {}, reserved := .swift } : Namer).operationId "return" =
        .ok ⟨"callReturn", some ⟨.operation, "return", "callReturn", .reservedWord⟩⟩ ∧
      ({ context := {}, reserved := .swift } : Namer).operationId "callReturn" =
        .ok (.plain "callReturn") := by
  have h : ({ context := {}, reserved := .swift } : Namer).operationId "return" =
      .ok ⟨"callReturn", some ⟨.operation, "return", "callReturn", .reservedWord⟩⟩ := rfl
  exact ⟨h, (resolvers_idempotent "return").2.2.2
    ⟨"callReturn", some ⟨.operation, "return", "callReturn", .reservedWord⟩⟩ h⟩

end SwiftSchema.Naming
