import SwiftSchema.Proofs.Reconcile
import SwiftSchema.Proofs.Resolvers
import SwiftSchema.Pipeline.Phase

/-! # When normalization succeeds

A run can fail in two places. Validation fails when a lint has reported an error: the
duplicate-property and parent-cycle lints report only errors, the unresolved-parent lint only
warnings. Lowering never fails, but it reports an error for each operation whose id fails to
resolve, and the result is refused when any error was reported. Reconciling and annotating
change neither the names nor the reports.

* `any_isError_defaultLints` — the lints report an error exactly when a model declares a
  property twice or is its own ancestor.
* `hasErrors_lower` — lowering adds an error exactly for an operation id that fails.
* `map_operationId_lower`, `models_lower` — lowering keeps the operations whose id resolves,
  in order, and every model under its name.
* `normalize_eq`, `normalize_eq_ok_iff` — the built-in passes one after another, and the
  result they hand out.
* `normalize_succeeds_iff` — when normalization succeeds, and what its result keeps.
-/

namespace SwiftSchema

open SwiftSchema.Naming SwiftSchema.Text

/-! ## The default lints -/

section Lints

variable {S : ModelMap} {d : Diagnostic}

theorem isError_of_mem_duplicateProperty (h : d ∈ duplicateProperty.check S) :
    d.isError = true := by
  simp only [duplicateProperty, List.mem_flatMap, List.mem_map] at h
  obtain ⟨e, -, p, -, rfl⟩ := h
  rfl

theorem isError_of_mem_parentCycle (h : d ∈ parentCycle.check S) : d.isError = true := by
  simp only [parentCycle, List.mem_filterMap, Option.map_eq_some_iff] at h
  obtain ⟨e, -, path, -, rfl⟩ := h
  rfl

theorem isError_of_mem_unresolvedParent (h : d ∈ unresolvedParent.check S) :
    d.isError = false := by
  simp only [unresolvedParent, List.mem_filterMap] at h
  obtain ⟨e, -, hd⟩ := h
  split at hd
  · split at hd
    · cases hd
    · cases hd
      rfl
  · cases hd

/-- A list of errors holds no error exactly when it is empty. -/
theorem any_isError_eq_false_iff {l : List Diagnostic} (h : ∀ d ∈ l, d.isError = true) :
    l.any Diagnostic.isError = false ↔ l = [] := by
  rw [List.any_eq_false]
  constructor
  · intro hno
    cases l with
    | nil => rfl
    | cons d rest => exact absurd (h d List.mem_cons_self) (hno d List.mem_cons_self)
  · rintro rfl d hd
    cases hd

/-- The default lints report an error exactly when a model declares a property twice or is its
own ancestor. -/
theorem any_isError_defaultLints (S : ModelMap) :
    (defaultLints.flatMap (·.check S)).any Diagnostic.isError = false ↔
      S.OwnKeysDistinct ∧ S.Acyclic := by
  have hunresolved : (unresolvedParent.check S).any Diagnostic.isError = false :=
    List.any_eq_false.mpr fun d hd => by rw [isError_of_mem_unresolvedParent hd]; simp
  simp only [defaultLints, List.flatMap_cons, List.flatMap_nil, List.append_nil,
    List.any_append, hunresolved, Bool.or_false, Bool.or_eq_false_iff]
  rw [any_isError_eq_false_iff fun d => isError_of_mem_duplicateProperty,
    any_isError_eq_false_iff fun d => isError_of_mem_parentCycle,
    duplicateProperty_check_eq_nil_iff, parentCycle_check_eq_nil_iff]

end Lints

/-! ## Lowering -/

section Lower

variable {n : Namer} {d : Diagnostic}

theorem isError_of_mem_renameReport {r : Option Rename} {location : String}
    (h : d ∈ renameReport r location) : d.isError = false := by
  unfold renameReport at h
  split at h
  · rw [List.mem_singleton.mp h]
    rfl
  · cases h

theorem isError_of_mem_lowerProperty {location : String} {p : Property}
    (h : d ∈ (lowerProperty n location p).2) : d.isError = false := by
  unfold lowerProperty at h
  split at h
  · exact isError_of_mem_renameReport h
  · simp only [List.mem_append, List.mem_flatMap] at h
    rcases h with (h | h) | ⟨_, -, h⟩
    all_goals exact isError_of_mem_renameReport h

theorem isError_of_mem_lowerModel {known : List String} {m : Model}
    (h : d ∈ (lowerModel n known m).2) : d.isError = false := by
  simp only [lowerModel, List.mem_append, List.mem_flatMap, List.mem_map] at h
  rcases h with h | ⟨_, ⟨p, -, rfl⟩, h⟩
  · exact isError_of_mem_renameReport h
  · exact isError_of_mem_lowerProperty h

theorem isError_of_mem_lowerParameter {location : String} {p : Parameter}
    (h : d ∈ (lowerParameter n location p).2) : d.isError = false :=
  isError_of_mem_renameReport h

/-- A lowered operation reports an error exactly when its id fails. -/
theorem any_isError_lowerOperation (i : Nat) (o : Operation) :
    (lowerOperation n i o).2.any Diagnostic.isError = !(n.operationId o.operationId).toBool := by
  cases hid : n.operationId o.operationId with
  | error e =>
    simp [lowerOperation, hid, Diagnostic.located, Diagnostic.isError, Diagnostic.error, Except.toBool]
  | ok r =>
    simp only [lowerOperation, hid, Except.toBool, Bool.not_true]
    refine List.any_eq_false.mpr fun d hd => ?_
    simp only [List.mem_append, List.mem_flatMap, List.mem_map] at hd
    rcases hd with hd | ⟨_, ⟨p, -, rfl⟩, hd⟩
    · simp [isError_of_mem_renameReport hd]
    · simp [isError_of_mem_lowerParameter hd]

theorem map_operationId_lowerOperation (i : Nat) (o : Operation) :
    (lowerOperation n i o).1.map (·.operationId) =
      if (n.operationId o.operationId).toBool then some o.operationId else none := by
  cases hid : n.operationId o.operationId <;> simp [lowerOperation, hid, Except.toBool]

/-- Lowering adds an error exactly for an operation whose id fails. -/
theorem hasErrors_lower (c : Context) :
    c.lower.hasErrors =
      (c.hasErrors || c.operations.any fun o => !(c.namer.operationId o.operationId).toBool) := by
  have hmodels : (c.models.entries.flatMap fun e => (lowerModel c.namer c.models.keys e.2).2).any
      Diagnostic.isError = false :=
    List.any_eq_false.mpr fun d hd => by
      obtain ⟨e, -, hd⟩ := List.mem_flatMap.mp hd
      simp [isError_of_mem_lowerModel hd]
  have hops : (c.operations.zipIdx.flatMap fun a => (lowerOperation c.namer a.2 a.1).2).any
      Diagnostic.isError = c.operations.any fun o => !(c.namer.operationId o.operationId).toBool := by
    conv_rhs => rw [← List.zipIdx_map_fst 0 c.operations]
    simp only [List.any_flatMap, any_isError_lowerOperation, List.any_map, Function.comp_def]
  simp only [Context.lower, Context.hasErrors, List.any_append, List.flatMap_map, hmodels, hops,
    Bool.or_false]

/-- The operations after lowering: those whose lowering gives one, in order. -/
theorem lower_operations (c : Context) :
    c.lower.operations = c.operations.zipIdx.filterMap fun e => (lowerOperation c.namer e.2 e.1).1 := by
  simp [Context.lower, List.filterMap_map, Function.comp_def]

/-- Lowering keeps, in order, the operations whose id resolves. -/
theorem map_operationId_lower (c : Context) :
    c.lower.operations.map (·.operationId) =
      (c.operations.filter fun o => (c.namer.operationId o.operationId).toBool).map
        (·.operationId) := by
  let resolves := fun o : Operation => (c.namer.operationId o.operationId).toBool
  calc c.lower.operations.map (·.operationId)
      = c.operations.zipIdx.filterMap fun a =>
          (lowerOperation c.namer a.2 a.1).1.map (·.operationId) := by
        rw [lower_operations, List.map_filterMap]
    _ = (c.operations.zipIdx.map Prod.fst).filterMap fun o =>
          if resolves o then some o.operationId else none := by
        simp only [map_operationId_lowerOperation, List.filterMap_map, Function.comp_def, resolves]
    _ = (c.operations.filter resolves).map (·.operationId) := by
        rw [List.zipIdx_map_fst, ← List.filterMap_eq_map, List.filterMap_filter]
        rfl

/-- Lowering keeps every model under its name. -/
theorem models_lower (c : Context) :
    c.lower.models = c.models.mapModels fun m => (lowerModel c.namer c.models.keys m).1 := by
  simp [Context.lower, ModelMap.mapModels]

theorem baseName_lowerModel (n : Namer) (known : List String) (m : Model) :
    (lowerModel n known m).1.baseName = m.baseName := rfl

end Lower

/-! ## The whole run -/

theorem baseName_reconcile (m : Model) (S : ModelMap) : (reconcile m S).1.baseName = m.baseName :=
  rfl

theorem baseName_annotate (ctx : NamingContext) (m : Model) : (m.annotate ctx).baseName = m.baseName :=
  rfl

/-- Changing the models of a map but not their raw names keeps the names of the map and the raw
names of its models, in order. -/
theorem rawNames_mapModels (S : ModelMap) {f : Model → Model}
    (hf : ∀ m, (f m).baseName = m.baseName) :
    (S.mapModels f).entries.map (fun e => (e.1, e.2.baseName)) =
      S.entries.map (fun e => (e.1, e.2.baseName)) := by
  simp [ModelMap.mapModels, hf]

/-- Normalization validates the context of the document, and when no lint reported an error,
lowers, reconciles and annotates it and hands out the result. -/
theorem normalize_eq (doc : SchemaDocument) (manifest : Manifest) :
    normalize doc manifest =
      let v : Context :=
        ⟨manifest, doc.models, doc.operations, defaultLints.flatMap (·.check doc.models)⟩
      if v.hasErrors then .error s!"Validation failed with {v.errorCount} error(s)"
      else
        ({ v.lower with models := v.lower.models.reconcileAll.1.annotate manifest.naming } :
          Context).output := by
  simp only [normalize, Pipeline.run, builtinPasses, List.map_cons, List.map_nil, List.append_nil,
    List.foldlM_cons, List.foldlM_nil, Pipeline.runPhase, pure_bind, bind_pure, bind_assoc]
  simp only [Pass.toPhase, validatePass, Context.new, List.nil_append]
  split_ifs <;> rfl

/-- After validation, the result is handed out exactly when validation reported no error and
every operation id resolves. -/
theorem output_lowered_eq_ok_iff (c : Context) (out : Normalized) :
    ({ c.lower with models := c.lower.models.reconcileAll.1.annotate c.manifest.naming } :
        Context).output = .ok out ↔
      c.hasErrors = false ∧
        (c.operations.any fun o => !(c.namer.operationId o.operationId).toBool) = false ∧
        out = ⟨c.lower.models.reconcileAll.1.annotate c.manifest.naming, c.lower.operations⟩ := by
  -- reconciling and annotating report nothing
  have herr : ({ c.lower with models := c.lower.models.reconcileAll.1.annotate c.manifest.naming } :
      Context).hasErrors = c.lower.hasErrors := rfl
  unfold Context.output
  rw [herr, hasErrors_lower]
  cases c.hasErrors <;> cases (c.operations.any fun o => !(c.namer.operationId o.operationId).toBool)
  all_goals simp [eq_comm]

/-- Every operation id of a list resolves exactly when something is left of each after
sanitizing. -/
theorem any_operationId_eq_false_iff (ctx : NamingContext) (t : ReservedWords)
    (ops : List Operation) :
    (ops.any fun o => !(({ context := ctx, reserved := t } : Namer).operationId o.operationId).toBool)
        = false ↔ ∀ o ∈ ops, sanitizeName o.operationId ≠ "" := by
  simp [List.any_eq_false, operationId_toBool]

/-- Normalization hands out a result exactly when no model declares a property twice or is its
own ancestor and every operation id resolves; the result is then the lowered context,
reconciled and annotated. -/
theorem normalize_eq_ok_iff {doc : SchemaDocument} {manifest : Manifest} {out : Normalized} :
    normalize doc manifest = .ok out ↔
      (doc.models.OwnKeysDistinct ∧ doc.models.Acyclic ∧
        ∀ o ∈ doc.operations, sanitizeName o.operationId ≠ "") ∧
      out = ⟨(Context.new doc manifest).lower.models.reconcileAll.1.annotate manifest.naming,
        (Context.new doc manifest).lower.operations⟩ := by
  rw [normalize_eq, ← and_assoc, ← any_isError_defaultLints,
    ← any_operationId_eq_false_iff manifest.naming manifest.reservedTable]
  dsimp only
  split_ifs with h
  · -- a lint reported an error
    simp only [false_iff]
    rintro ⟨⟨hlints, -⟩, -⟩
    exact Bool.noConfusion (h.symm.trans hlints)
  · rw [output_lowered_eq_ok_iff]
    exact ⟨fun ⟨_, hops, hout⟩ => ⟨⟨Bool.eq_false_iff.mpr h, hops⟩, hout⟩,
      fun ⟨⟨_, hops⟩, hout⟩ => ⟨Bool.eq_false_iff.mpr h, hops, hout⟩⟩

/-- **Normalization succeeds** exactly when no model declares a raw property name twice, no
model is its own ancestor, and something is left of every operation id after sanitizing; an
operation id fails exactly when nothing is left of it. A result keeps every model under its
name and in its place, and every operation in its order. -/
theorem normalize_succeeds_iff (doc : SchemaDocument) (manifest : Manifest) :
    ((∃ out, normalize doc manifest = .ok out) ↔
      doc.models.OwnKeysDistinct ∧ doc.models.Acyclic ∧
        ∀ o ∈ doc.operations, sanitizeName o.operationId ≠ "") ∧
    (∀ out, normalize doc manifest = .ok out →
      out.models.entries.map (fun e => (e.1, e.2.baseName)) =
          doc.models.entries.map (fun e => (e.1, e.2.baseName)) ∧
        out.operations.map (·.operationId) = doc.operations.map (·.operationId)) ∧
    ∀ (ctx : NamingContext) (t : ReservedWords) (raw : String),
      (∃ e, ({ context := ctx, reserved := t } : Namer).operationId raw = .error e) ↔
        sanitizeName raw = "" := by
  refine ⟨⟨fun ⟨_, hout⟩ => (normalize_eq_ok_iff.mp hout).1,
    fun hok => ⟨_, normalize_eq_ok_iff.mpr ⟨hok, rfl⟩⟩⟩, ?_, operationId_eq_error_iff⟩
  intro out hout
  obtain ⟨⟨-, -, hops⟩, rfl⟩ := normalize_eq_ok_iff.mp hout
  constructor
  · -- lowering, reconciling and annotating each keep the raw names
    rw [ModelMap.annotate, rawNames_mapModels _ (baseName_annotate _), reconcileAll_fst,
      rawNames_mapModels _ (baseName_reconcile · _), models_lower,
      rawNames_mapModels _ (baseName_lowerModel _ _)]
    rfl
  · -- every operation id resolves, so lowering keeps them all
    have hresolves : ∀ o ∈ (Context.new doc manifest).operations,
        ((Context.new doc manifest).namer.operationId o.operationId).toBool = true :=
      fun o ho => by simpa [Context.namer, operationId_toBool] using hops o ho
    rw [map_operationId_lower, List.filter_eq_self.mpr hresolves]
    rfl

end SwiftSchema
