import SwiftSchema.Schema.Fold

/-! # What reading a schema document reports

Folding a schema document stops at its first fault. The faults it can meet are few: a required
name that the model does not declare as a property, and a visited node that is not well formed
(a reference with nothing after its last `/`, no type and no reference, an array without
items). Folding visits a declaration, then the items of an array or the values an object
declares, and a reference stops it. Models are folded in document order, each with its
required list first, then the values its `additionalProperties` declares, then its properties;
then the operations in order, each with its response before its parameters.

* `FirstFault` — a computation that fails exactly when a list of faults is not empty, with its
  first fault; it is kept by binding, mapping and folding over lists.
* `Schema.visit`, `Schema.Site.fault?`, `Schema.Decl.WellFormed` — the nodes folding visits, what
  is wrong with one, and what a node must be.
* `Schema.foldType_firstFault`, `Schema.foldModel_firstFault`, `Schema.foldOperation_firstFault`
  — each fold fails with the first fault of what it visits.
* `documentFaults`, `SchemaDocument.ofText_firstFault` — the faults of a text, in the order
  folding meets them.
* `SchemaDocument.ofText_ok_iff_wellFormed` — a text that reads as a document folds exactly when
  every required name is declared and every visited node is well formed.
-/

namespace SwiftSchema

/-! ## Failing with the first fault -/

section FirstFault

variable {ε α β : Type}

/-- A computation **fails with the first of a list of faults**: it fails exactly when the list
is not empty, and then with its first fault. -/
def FirstFault (x : Except ε α) (faults : List ε) : Prop :=
  ∀ e, x = .error e ↔ faults.head? = some e

namespace FirstFault

/-- A computation with a list of faults succeeds exactly when the list is empty. -/
theorem ok_iff {x : Except ε α} {faults : List ε} (h : FirstFault x faults) :
    (∃ a, x = .ok a) ↔ faults = [] := by
  constructor
  · rintro ⟨a, rfl⟩
    cases faults with
    | nil => rfl
    | cons e _ => cases (h e).mpr rfl
  · intro hnil
    cases hx : x with
    | ok a => exact ⟨a, rfl⟩
    | error e =>
      have hhead := (h e).mp hx
      rw [hnil] at hhead
      cases hhead

theorem pure (a : α) : FirstFault (Pure.pure a : Except ε α) [] :=
  fun _ => ⟨fun h => (nomatch h), fun h => (nomatch h)⟩

theorem error (e : ε) (rest : List ε) : FirstFault (Except.error e : Except ε α) (e :: rest) :=
  fun _ => ⟨fun h => by cases h; rfl, fun h => by cases h; rfl⟩

/-- Binding keeps the first fault: the faults of the first step come before those of the
rest. -/
theorem bind {x : Except ε α} {f : α → Except ε β} {l l' : List ε} (hx : FirstFault x l)
    (hf : ∀ a, FirstFault (f a) l') : FirstFault (x >>= f) (l ++ l') := by
  cases hxe : x with
  | error e =>
    -- the first step fails, with the first fault of its own list
    obtain ⟨rest, rfl⟩ := List.head?_eq_some_iff.mp ((hx e).mp hxe)
    exact error e (rest ++ l')
  | ok a =>
    have hl : l = [] := hx.ok_iff.mp ⟨a, hxe⟩
    subst hl
    exact hf a

/-- A last step that cannot fail adds no fault. -/
theorem bind_pure {x : Except ε α} {l : List ε} (hx : FirstFault x l) (f : α → β) :
    FirstFault (x >>= fun a => Pure.pure (f a)) l := by
  have h := hx.bind fun a => @pure ε β (f a)
  rwa [List.append_nil] at h

theorem map {x : Except ε α} {l : List ε} (hx : FirstFault x l) (f : α → β) :
    FirstFault (f <$> x) l := by
  rw [map_eq_pure_bind]
  exact hx.bind_pure f

/-- Mapping a list stops at the first element that fails. -/
theorem mapM {f : α → Except ε β} {faults : α → List ε} :
    ∀ {xs : List α}, (∀ a ∈ xs, FirstFault (f a) (faults a)) →
      FirstFault (xs.mapM f) (xs.flatMap faults)
  | [], _ => pure []
  | a :: xs, hf => by
    rw [List.mapM_cons, List.flatMap_cons]
    exact (hf a List.mem_cons_self).bind fun b =>
      (mapM fun c hc => hf c (List.mem_cons_of_mem a hc)).bind_pure (b :: ·)

/-- Folding a list stops at the first element whose step fails, whatever the steps before
it gave. -/
theorem foldlM {f : β → α → Except ε β} {faults : α → List ε} :
    ∀ {xs : List α}, (∀ b, ∀ a ∈ xs, FirstFault (f b a) (faults a)) →
      ∀ b, FirstFault (xs.foldlM f b) (xs.flatMap faults)
  | [], _, b => pure b
  | a :: xs, hf, b => by
    rw [List.foldlM_cons, List.flatMap_cons]
    exact (hf b a List.mem_cons_self).bind fun b' =>
      foldlM (fun c x hx => hf c x (List.mem_cons_of_mem a hx)) b'

end FirstFault

end FirstFault

namespace Schema

/-! ## The nodes folding visits -/

/-- A node that folding visits: where it stands, the text its errors point at, and its
declaration. -/
structure Site where
  location : String
  needle : String
  decl : Decl

/-- The nodes folding **visits** from a declaration: the declaration, then, unless a reference
stops it, the items of an array or the values an object declares. -/
def visit (location needle : String) : Decl → List Site
  | ⟨kind, format, ref, items, extra, values, description⟩ =>
    ⟨location, needle, ⟨kind, format, ref, items, extra, values, description⟩⟩ ::
      match ref with
      | some _ => []
      | none =>
        match kind with
        | some "array" =>
          match items with
          | some i => visit (location ++ ".items") needle i
          | none => []
        | some "object" =>
          match extra with
          | some (.values x) => visit (location ++ ".additionalProperties") "additionalProperties" x
          | _ => []
        | _ => []

/-- What is **wrong with a visited node** itself: a reference with nothing after its last `/`;
without a reference, no type, or an array without items. -/
def Site.fault? (ctx : Source) (s : Site) : Option LoadError :=
  match s.decl.ref with
  | some r =>
    if (refName r).isEmpty then some (ctx.invalidSchemaError s.location "empty $ref" r) else none
  | none =>
    if s.decl.kind = none then
      some (ctx.invalidSchemaError s.location "schema declares neither 'type' nor '$ref'"
        ("\"" ++ s.needle ++ "\""))
    else if s.decl.kind = some "array" ∧ s.decl.items.isNone then
      some (ctx.invalidSchemaError s.location "array schema is missing 'items'"
        ("\"" ++ s.needle ++ "\""))
    else none

/-- A **well-formed node**: a reference names something after its last `/`, even beside a
type; without a reference, a type is given, and an array gives its items. -/
structure Decl.WellFormed (d : Decl) : Prop where
  ref_named : ∀ r, d.ref = some r → refName r ≠ ""
  typed : d.ref = none → d.kind ≠ none
  array_items : d.ref = none → d.kind = some "array" → d.items ≠ none

/-- A node has no fault of its own exactly when it is well formed. -/
theorem Site.fault?_eq_none_iff (ctx : Source) (s : Site) : s.fault? ctx = none ↔ s.decl.WellFormed := by
  obtain ⟨location, needle, ⟨kind, format, ref, items, extra, values, description⟩⟩ := s
  cases ref with
  | some r =>
    by_cases hempty : (refName r).isEmpty
    · simp only [Site.fault?, hempty, if_true, reduceCtorEq, false_iff]
      exact fun h => h.ref_named r rfl (String.isEmpty_iff.mp hempty)
    · simp only [Site.fault?, hempty, Bool.false_eq_true, if_false, true_iff]
      exact ⟨fun _ h => by cases h; simpa [String.isEmpty_iff] using hempty, fun h => (nomatch h),
        fun h => (nomatch h)⟩
  | none =>
    simp only [Site.fault?]
    constructor
    · intro h
      refine ⟨fun _ h => (nomatch h), fun _ hk => ?_, fun _ hk hi => ?_⟩
      · simp only at hk
        simp [hk] at h
      · simp only at hk hi
        simp [hk, hi] at h
    · intro hw
      have hitems : ¬(kind = some "array" ∧ items.isNone) :=
        fun h => hw.array_items rfl h.1 (Option.isNone_iff_eq_none.mp h.2)
      rw [if_neg (hw.typed rfl), if_neg hitems]

/-- **Folding a declaration fails with the first fault of the nodes it visits.** -/
theorem foldType_firstFault (ctx : Source) (location needle : String) (d : Decl) :
    FirstFault (foldType ctx location needle d) ((visit location needle d).filterMap (Site.fault? ctx)) := by
  fun_induction foldType ctx location needle d with
  | case1 location needle _ _ _ _ _ _ r hempty =>
    -- a reference with nothing after its last `/`
    simp only [visit, List.filterMap_cons, Site.fault?, hempty, if_true]
    exact FirstFault.error _ _
  | case2 location needle _ _ _ _ _ _ r hnamed =>
    simp only [visit, List.filterMap_cons, Site.fault?, hnamed, Bool.false_eq_true, if_false,
      List.filterMap_nil]
    exact FirstFault.pure _
  | case3 | case4 =>
    -- no type, or an array without items
    simp [visit, Site.fault?]
    exact FirstFault.error _ _
  | case5 _ _ _ _ _ _ _ ih | case7 _ _ _ _ _ _ _ ih =>
    -- the items of an array, or the values an object declares, are visited next
    simp [visit, Site.fault?]
    exact ih.map _
  | case6 | case8 =>
    simp [visit, Site.fault?]
    exact FirstFault.pure _
  | case9 location needle _ _ _ _ _ k harray hobject =>
    -- any other type: a leaf
    rw [visit, List.filterMap_cons_none, List.filterMap_nil]
    · exact FirstFault.pure _
    · simp only [Site.fault?, reduceCtorEq, if_false, Option.some.injEq]
      rw [if_neg fun h => harray h.1]
    · exact fun h => harray (Option.some.inj h)
    · exact fun h => hobject (Option.some.inj h)

/-! ## Models and operations -/

/-- The nodes visited in the values an `additionalProperties` declares at a location. -/
def extraSites (location : String) : Option (Allowance Decl) → List Site
  | some (.values d) => visit (location ++ ".additionalProperties") "additionalProperties" d
  | _ => []

/-- The nodes folding visits in a model: the values its `additionalProperties` declares, then
each property in order. -/
def ModelDecl.sites (name : String) (m : ModelDecl) : List Site :=
  extraSites ("models." ++ name) m.extra ++
    m.properties.flatMap fun (key, d) => visit ("models." ++ name ++ ".properties." ++ key) key d

/-- The required names of a model that are not keys of its properties, in the order of its
list. -/
def ModelDecl.undeclared (m : ModelDecl) : List String :=
  m.required.filter fun k => !(m.properties.any (·.1 == k))

/-- The **faults of a model**, in the order folding meets them: each required name it does not
declare, then each visited node that is not well formed. -/
def ModelDecl.faults (ctx : Source) (name : String) (m : ModelDecl) : List LoadError :=
  m.undeclared.map (fun k => ctx.invalidSchemaError ("models." ++ name)
      s!"required property '{k}' is not declared" ("\"" ++ k ++ "\"")) ++
    (m.sites name).filterMap (Site.fault? ctx)

/-- The nodes folding visits in an operation: its response, then each parameter in order. -/
def OperationDecl.sites (index : Nat) (o : OperationDecl) : List Site :=
  (match o.response with
    | some r => visit (s!"operations[{index}]" ++ ".response") "response" r
    | none => []) ++
    o.parameters.flatMap fun p => visit (s!"operations[{index}]" ++ ".parameters." ++ p.name) p.name p.decl

theorem valueType_firstFault (ctx : Source) (location : String) (e : Allowance Decl) :
    FirstFault (valueType ctx location e) ((extraSites location (some e)).filterMap (Site.fault? ctx)) := by
  match e with
  | .flag true => exact FirstFault.pure _
  | .flag false => exact FirstFault.pure _
  | .values d => exact (foldType_firstFault ctx _ _ d).map _

theorem foldModel_firstFault (ctx : Source) (name : String) (m : ModelDecl) :
    FirstFault (foldModel ctx name m) (m.faults ctx name) := by
  unfold foldModel
  cases hfind : m.required.find? (fun k => !m.properties.any fun x => x.fst == k) with
  | some missing =>
    -- the first required name that is not declared is the error
    obtain ⟨rest, hrest⟩ : ∃ rest, m.undeclared = missing :: rest := by
      rw [← List.head?_eq_some_iff, ModelDecl.undeclared, List.head?_filter, hfind]
    rw [ModelDecl.faults, hrest, List.map_cons, List.cons_append]
    exact FirstFault.error _ _
  | none =>
    have hnil : m.undeclared = [] := by
      rw [← List.head?_eq_none_iff, ModelDecl.undeclared, List.head?_filter, hfind]
    rw [ModelDecl.faults, hnil, List.map_nil, List.nil_append, ModelDecl.sites, List.filterMap_append,
      List.filterMap_flatMap]
    -- the values `additionalProperties` declares, then the properties in order
    cases hextra : m.extra <;>
      refine FirstFault.bind ?_ fun _ =>
        (FirstFault.mapM fun ⟨key, d⟩ _ => (foldType_firstFault ctx _ key d).bind_pure _).bind_pure _
    · exact FirstFault.pure none
    · exact valueType_firstFault ctx _ _

theorem foldOperation_firstFault (ctx : Source) (index : Nat) (o : OperationDecl) :
    FirstFault (foldOperation ctx index o) ((o.sites index).filterMap (Site.fault? ctx)) := by
  unfold foldOperation
  rw [OperationDecl.sites, List.filterMap_append, List.filterMap_flatMap]
  -- the response, then the parameters in order
  cases o.response <;>
    refine FirstFault.bind ?_ fun _ => (FirstFault.mapM fun (p : ParameterDecl) _ =>
      (foldType_firstFault ctx _ p.name p.decl).bind_pure _).bind_pure _
  · exact FirstFault.pure none
  · exact (foldType_firstFault ctx _ _ _).map _

/-- The nodes folding visits in a document: those of each model in document order, then those
of each operation. -/
def DocumentDecl.sites (decl : DocumentDecl) : List Site :=
  decl.models.flatMap (fun (name, m) => m.sites name) ++
    decl.operations.zipIdx.flatMap fun (o, i) => o.sites i

/-- The **faults of a document**, in the order folding meets them: those of each model in
document order, then the nodes of each operation that are not well formed. -/
def DocumentDecl.faults (ctx : Source) (decl : DocumentDecl) : List LoadError :=
  decl.models.flatMap (fun (name, m) => m.faults ctx name) ++
    decl.operations.zipIdx.flatMap fun (o, i) => (o.sites i).filterMap (Site.fault? ctx)

end Schema

open Schema

/-- The **faults of a text**: the reader's error when it does not read as a document, else the
faults of the document it reads as. -/
def documentFaults (text filename : String) : List LoadError :=
  match readDocument text with
  | .ok decl => decl.faults ⟨text, filename⟩
  | .error e => [Source.jsonError ⟨text, filename⟩ e]

/-- **Reading a schema document fails with the first fault of its text.** -/
theorem SchemaDocument.ofText_firstFault (text filename : String) :
    FirstFault (SchemaDocument.ofText text filename) (documentFaults text filename) := by
  unfold SchemaDocument.ofText documentFaults
  cases readDocument text with
  | error e => exact FirstFault.error _ []
  | ok decl =>
    dsimp only [DocumentDecl.faults]
    rw [pure_bind]
    -- the models in document order, then the operations
    refine FirstFault.bind ?_ fun _ => ?_
    · exact FirstFault.foldlM (fun _ (x : String × ModelDecl) _ =>
        (foldModel_firstFault _ x.1 x.2).bind_pure _) _
    · exact (FirstFault.mapM fun (x : OperationDecl × Nat) _ =>
        foldOperation_firstFault _ x.2 x.1).bind_pure _

/-- A model's declared values are folded before its properties, wherever the text puts them. -/
example : (documentFaults "\x7b\"models\":\x7b\"A\":\x7b\"properties\":\x7b\"p\":\x7b\x7d\x7d,\"additionalProperties\":\x7b\"type\":\"array\"\x7d\x7d\x7d\x7d"
      "schema.json").map LoadError.message =
    ["invalid schema at 'models.A.additionalProperties': array schema is missing 'items'",
     "invalid schema at 'models.A.properties.p': schema declares neither 'type' nor '$ref'"] := by
  decide +kernel

/-! ## When a document folds -/

namespace Schema

variable {ctx : Source}

theorem filterMap_fault?_eq_nil_iff {sites : List Site} :
    sites.filterMap (Site.fault? ctx) = [] ↔ ∀ s ∈ sites, s.decl.WellFormed := by
  simp only [List.filterMap_eq_nil_iff, Site.fault?_eq_none_iff]

/-- A model declares every name it requires exactly when no required name is left over. -/
theorem ModelDecl.undeclared_eq_nil_iff (m : ModelDecl) :
    m.undeclared = [] ↔ ∀ k ∈ m.required, k ∈ m.properties.map (·.1) := by
  simp [ModelDecl.undeclared, List.filter_eq_nil_iff]

theorem ModelDecl.faults_eq_nil_iff (name : String) (m : ModelDecl) :
    m.faults ctx name = [] ↔
      (∀ k ∈ m.required, k ∈ m.properties.map (·.1)) ∧ ∀ s ∈ m.sites name, s.decl.WellFormed := by
  rw [ModelDecl.faults, List.append_eq_nil_iff, List.map_eq_nil_iff, undeclared_eq_nil_iff,
    filterMap_fault?_eq_nil_iff]

/-- A document has no fault exactly when every model declares the names it requires and every
node folding visits is well formed. -/
theorem DocumentDecl.faults_eq_nil_iff (decl : DocumentDecl) :
    decl.faults ctx = [] ↔
      (∀ m ∈ decl.models, ∀ k ∈ m.2.required, k ∈ m.2.properties.map (·.1)) ∧
        ∀ s ∈ decl.sites, s.decl.WellFormed := by
  rw [DocumentDecl.faults, List.append_eq_nil_iff, List.flatMap_eq_nil_iff, List.flatMap_eq_nil_iff]
  constructor
  · rintro ⟨hmodels, hops⟩
    refine ⟨fun ⟨name, m⟩ hm => ((ModelDecl.faults_eq_nil_iff name m).mp (hmodels _ hm)).1,
      fun s hs => ?_⟩
    rw [DocumentDecl.sites, List.mem_append, List.mem_flatMap, List.mem_flatMap] at hs
    rcases hs with ⟨⟨name, m⟩, hm, hs⟩ | ⟨⟨o, i⟩, ho, hs⟩
    · exact ((ModelDecl.faults_eq_nil_iff name m).mp (hmodels _ hm)).2 s hs
    · exact filterMap_fault?_eq_nil_iff.mp (hops _ ho) s hs
  · rintro ⟨hrequired, hsites⟩
    refine ⟨fun ⟨name, m⟩ hm => (ModelDecl.faults_eq_nil_iff name m).mpr
      ⟨hrequired _ hm, fun s hs => hsites s ?_⟩, fun ⟨o, i⟩ ho => filterMap_fault?_eq_nil_iff.mpr
        fun s hs => hsites s ?_⟩
    · exact List.mem_append_left _ (List.mem_flatMap.mpr ⟨(name, m), hm, hs⟩)
    · exact List.mem_append_right _ (List.mem_flatMap.mpr ⟨(o, i), ho, hs⟩)

end Schema

/-- **A schema document is read exactly when its text is well formed**: the text reads as a
document, every model declares as properties the names it requires, and every node folding
visits is well formed (a reference names something after its last `/`; without one, a type is
given, with items for an array). When reading fails, the error is the first fault of the text
in the order folding meets them. -/
theorem SchemaDocument.ofText_ok_iff_wellFormed (text filename : String) :
    ((∃ doc, SchemaDocument.ofText text filename = .ok doc) ↔
      ∃ decl, readDocument text = .ok decl ∧
        (∀ m ∈ decl.models, ∀ k ∈ m.2.required, k ∈ m.2.properties.map (·.1)) ∧
        ∀ s ∈ decl.sites, s.decl.WellFormed) ∧
    ∀ e, SchemaDocument.ofText text filename = .error e ↔ (documentFaults text filename).head? = some e := by
  have hfirst := SchemaDocument.ofText_firstFault text filename
  refine ⟨hfirst.ok_iff.trans ?_, hfirst⟩
  rw [documentFaults]
  cases readDocument text with
  | error e =>
    -- the reader's error is the one fault, and no document was read
    exact ⟨fun h => (nomatch h), fun ⟨_, h, _⟩ => (nomatch h)⟩
  | ok decl =>
    rw [DocumentDecl.faults_eq_nil_iff]
    exact ⟨fun h => ⟨decl, rfl, h⟩, fun ⟨_, hread, h⟩ => by cases hread; exact h⟩

end SwiftSchema
