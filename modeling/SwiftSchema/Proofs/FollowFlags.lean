import SwiftSchema.Proofs.Normalize

/-! # Follow-on flags

Templates put a separator after every entry of a list that has another after it, read from the
entry's follow-on flag. Lowering marks own lists and parameter lists; reconciling marks the two
lists it builds and marks an own list again when it shortens it, and otherwise keeps the list
lowering marked; annotating changes no flag. So every list of a normalized result is marked,
whatever the inheritance between its models.

* `followFlags` — the flags of a marked list of a given length; `Marked` — a marked list.
* `map_hasMore_markHasMore`, `map_hasMore_markParametersHaveMore` — marking gives them.
* `Model.FollowMarked` — a model whose three lists are marked; `reconcile_followMarked` and
  `Model.FollowMarked.annotate` carry it through reconciling and annotating.
* `normalize_marks_followers` — every list of a normalized result is marked.
-/

namespace SwiftSchema

open SwiftSchema.Naming

/-- The **follow-on flags** of a list of `n` entries: entry `i` is followed exactly when
`i + 1 < n`. -/
def followFlags (n : Nat) : List Bool := (List.range n).map fun i => decide (i + 1 < n)

/-- A list of follow-on flags is **marked** when each says whether another entry follows. -/
def Marked (flags : List Bool) : Prop := flags = followFlags flags.length

@[simp] theorem length_followFlags (n : Nat) : (followFlags n).length = n := by
  simp [followFlags]

/-- Of at least two entries, the first is followed, and the rest are flagged as a list of their
own. -/
theorem followFlags_add_two (n : Nat) : followFlags (n + 2) = true :: followFlags (n + 1) := by
  rw [followFlags, List.range_succ_eq_map, List.map_cons, List.map_map, followFlags]
  exact congrArg₂ List.cons (by simp) (List.map_congr_left fun i _ => by simp)

/-- Marking a list of properties gives it the follow-on flags of its length. -/
theorem map_hasMore_markHasMore :
    ∀ ps : List Property, (markHasMore ps).map (·.hasMore) = followFlags ps.length
  | [] => rfl
  | [_] => rfl
  | p :: q :: rest => by
    simp only [markHasMore, List.map_cons, List.length_cons]
    rw [followFlags_add_two, ← List.length_cons, ← map_hasMore_markHasMore (q :: rest)]

/-- Marking a list of parameters gives it the follow-on flags of its length. -/
theorem map_hasMore_markParametersHaveMore :
    ∀ ps : List Parameter, (markParametersHaveMore ps).map (·.hasMore) = followFlags ps.length
  | [] => rfl
  | [_] => rfl
  | p :: q :: rest => by
    simp only [markParametersHaveMore, List.map_cons, List.length_cons]
    rw [followFlags_add_two, ← List.length_cons, ← map_hasMore_markParametersHaveMore (q :: rest)]

/-- Flags that are those of some length are marked. -/
theorem Marked.of_eq_followFlags {flags : List Bool} {n : Nat} (h : flags = followFlags n) :
    Marked flags := by
  subst h
  rw [Marked, length_followFlags]

theorem marked_markHasMore (ps : List Property) : Marked ((markHasMore ps).map (·.hasMore)) :=
  .of_eq_followFlags (map_hasMore_markHasMore ps)

/-- A model whose own list, flat list and parent's view are each marked. -/
structure Model.FollowMarked (M : Model) : Prop where
  vars : Marked (M.vars.map (·.hasMore))
  allVars : Marked (M.allVars.map (·.hasMore))
  parentVars : Marked (M.parentVars.map (·.hasMore))

/-! ## One phase at a time -/

/-- Lowering marks a model's own list. -/
theorem marked_lowerModel_vars (n : Namer) (known : List String) (m : Model) :
    Marked ((lowerModel n known m).1.vars.map (·.hasMore)) :=
  marked_markHasMore _

/-- Reconciling a model whose own list is marked marks all three of its lists: the own list
is marked again when it lost a property, and kept as it was otherwise. -/
theorem reconcile_followMarked {M : Model} (S : ModelMap) (h : Marked (M.vars.map (·.hasMore))) :
    (reconcile M S).1.FollowMarked := by
  refine ⟨?_, marked_markHasMore _, marked_markHasMore _⟩
  simp only [reconcile]
  split
  · exact marked_markHasMore _
  · exact h

/-- Annotating a property keeps its follow-on flag. -/
@[simp] theorem Property.hasMore_annotate (ctx : NamingContext) (p : Property) :
    (p.annotate ctx).hasMore = p.hasMore := rfl

theorem map_hasMore_map_annotate (ctx : NamingContext) (ps : List Property) :
    (ps.map (·.annotate ctx)).map (·.hasMore) = ps.map (·.hasMore) := by
  simp [Function.comp_def]

/-- Annotating a model keeps its lists marked. -/
theorem Model.FollowMarked.annotate {M : Model} (ctx : NamingContext) (h : M.FollowMarked) :
    (M.annotate ctx).FollowMarked :=
  ⟨by simpa only [Model.annotate, map_hasMore_map_annotate] using h.vars,
    by simpa only [Model.annotate, map_hasMore_map_annotate] using h.allVars,
    by simpa only [Model.annotate, map_hasMore_map_annotate] using h.parentVars⟩

/-- A lowered operation has its parameters marked. -/
theorem marked_lowerOperation {n : Namer} {i : Nat} {o o' : Operation}
    (h : (lowerOperation n i o).1 = some o') : Marked (o'.parameters.map (·.hasMore)) := by
  unfold lowerOperation at h
  split at h
  · cases h
  · cases h
    exact .of_eq_followFlags (map_hasMore_markParametersHaveMore _)

/-! ## The whole run -/

@[simp] theorem ModelMap.models_mapModels (S : ModelMap) (f : Model → Model) :
    (S.mapModels f).models = S.models.map f := by
  simp [ModelMap.mapModels, ModelMap.models]

/-- Every operation lowering keeps is the lowering of an operation of the context. -/
theorem exists_of_mem_lower_operations {c : Context} {o' : Operation}
    (h : o' ∈ c.lower.operations) : ∃ i o, (lowerOperation c.namer i o).1 = some o' := by
  simp only [Context.lower, List.mem_filterMap, List.mem_map] at h
  obtain ⟨-, ⟨⟨o, i⟩, -, rfl⟩, ho⟩ := h
  exact ⟨i, o, ho⟩

/-- **Every list of a normalized result is marked**: in the own list, the flat list and the
parent's view of each model, and in the parameters of each operation, every entry but the
last is flagged as followed and the last is not. -/
theorem normalize_marks_followers {doc : SchemaDocument} {manifest : Manifest} {out : Normalized}
    (h : normalize doc manifest = .ok out) :
    (∀ M ∈ out.models.models, M.FollowMarked) ∧
      ∀ o ∈ out.operations, Marked (o.parameters.map (·.hasMore)) := by
  obtain ⟨-, rfl⟩ := normalize_eq_ok_iff.mp h
  refine ⟨fun M hM => ?_, fun o ho => ?_⟩
  · -- a normalized model is a lowered model, reconciled and then annotated
    simp only [ModelMap.annotate, ModelMap.models_mapModels, reconcileAll_fst, models_lower,
      List.map_map, List.mem_map, Function.comp_apply] at hM
    obtain ⟨M₀, -, rfl⟩ := hM
    exact (reconcile_followMarked _ (marked_lowerModel_vars _ _ M₀)).annotate manifest.naming
  · obtain ⟨i, o₀, ho₀⟩ := exists_of_mem_lower_operations ho
    exact marked_lowerOperation ho₀

/-- The three-model line, with one operation of two parameters. -/
def dogLineDocument : SchemaDocument :=
  ⟨dogLineMap, [{ Operation.new "getDog" with
    parameters := [Parameter.new "id" (.primitive "string"), Parameter.new "verbose" (.primitive "boolean")] }]⟩

theorem dogLineDocument_marks_followers :
    let out : Normalized := ⟨(Context.new dogLineDocument {}).lower.models.reconcileAll.1.annotate {},
      (Context.new dogLineDocument {}).lower.operations⟩
    normalize dogLineDocument {} = .ok out ∧
      (∀ M ∈ out.models.models, M.FollowMarked) ∧
      ∀ o ∈ out.operations, Marked (o.parameters.map (·.hasMore)) := by
  intro out
  have h : normalize dogLineDocument {} = .ok out :=
    normalize_eq_ok_iff.mpr ⟨⟨by decide, by decide, by decide⟩, rfl⟩
  exact ⟨h, normalize_marks_followers h⟩

end SwiftSchema
