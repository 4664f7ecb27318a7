import SwiftSchema.Proofs.Reconcile

/-! # The lists of one reconciled model

Reconciling one model against any store, cyclic or not, described without the loops that carry
it out. The own list loses exactly the properties whose raw name an ancestor declares, and is
marked again only when it lost one. The flat list is the **inherited view** of the own list
along the ancestors: the own properties, then the first declaration of every raw name the
ancestors add, nearest ancestor first, each entry as the topmost ancestor declaring its name
wrote it. The parent's view is the inherited view of the nearest ancestor's own list along the
ancestors above it.

* `inheritedNames` — the raw names a chain adds to an own list, each once, in order.
* `inheritedView` — the flat list as a function of the own list and the chain;
  `flatten_eq_inheritedView` shows that flattening builds it.
* `reconcile_lists` — the three lists and the flag of one reconciled model.
-/

namespace SwiftSchema

/-- The raw names that a chain adds to an own list: those the chain declares and the own list
lacks, nearest model first, each at its first declaration. -/
def inheritedNames (own : List Property) (chain : List Model) : List String :=
  ((declaredNames chain).removeAll (own.map (·.baseName))).eraseDups

/-- The **inherited view** of an own list along a chain: each own property as the topmost model
of the chain that declares its raw name wrote it, else as it is; then each name the chain adds,
as its topmost declaring model wrote it. -/
def inheritedView (own : List Property) (chain : List Model) : List Property :=
  own.map (fun p => (ownerDecl? chain p.baseName).getD p) ++
    (inheritedNames own chain).filterMap (ownerDecl? chain)

variable {chain : List Model}

/-- Taking out one more name after the names of a list is taking out the names of the longer
list. -/
theorem filter_removeAll_eq_removeAll_append (xs ys : List String) (a : String) :
    (xs.removeAll ys).filter (fun b => !b == a) = xs.removeAll (ys ++ [a]) := by
  simp only [List.removeAll, List.filter_filter, List.elem_eq_mem, List.mem_append,
    List.mem_singleton]
  refine List.filter_congr fun x _ => ?_
  by_cases h₁ : x = a <;> by_cases h₂ : x ∈ ys <;> simp [h₁, h₂]

/-- Adding the absent ones among inherited properties appends, once each and in the order met,
the owner's declaration of every raw name not yet listed. -/
theorem foldl_addAbsent_eq : ∀ (ps flat : List Property), (∀ p ∈ ps, p ∈ chain.flatMap (·.vars)) →
    ps.foldl (addAbsent chain) flat =
      flat ++ ((ps.map (·.baseName)).removeAll (flat.map (·.baseName))).eraseDups.filterMap
        (ownerDecl? chain)
  | [], flat, _ => by simp
  | p :: ps, flat, hps => by
    have hrest : ∀ r ∈ ps, r ∈ chain.flatMap (·.vars) := fun r hr => hps r (List.mem_cons_of_mem p hr)
    -- both the loop and the suffix test whether the name is listed already
    have hany : flat.any (·.baseName = p.baseName) = decide (p.baseName ∈ flat.map (·.baseName)) := by
      rw [Bool.eq_iff_iff]
      simp
    have hcontains : (flat.map (·.baseName)).contains p.baseName =
        decide (p.baseName ∈ flat.map (·.baseName)) := by
      simp
    rw [List.foldl_cons, addAbsent, List.map_cons, List.cons_removeAll, hany, hcontains]
    by_cases hin : p.baseName ∈ flat.map (·.baseName)
    · -- a name already listed is skipped, and the suffix forgets it
      simp only [hin, decide_true, if_true, Bool.true_eq_false, if_false]
      exact foldl_addAbsent_eq ps flat hrest
    · -- a new name is listed as its owner's declaration, and the rest forgets it
      simp only [hin, decide_false, Bool.false_eq_true, if_false, if_true]
      rw [foldl_addAbsent_eq ps _ hrest, List.eraseDups_cons, filter_removeAll_eq_removeAll_append,
        List.filterMap_cons, ownerDecl?_eq_ownerCopy (hps p List.mem_cons_self), List.map_append,
        List.map_singleton, baseName_ownerCopy, List.append_assoc, List.singleton_append]

/-- **Flattening** an own list along a chain builds its inherited view. -/
theorem flatten_eq_inheritedView (own : List Property) (chain : List Model) :
    flatten own chain = inheritedView own chain := by
  rw [flatten_eq, foldl_addAbsent_eq _ _ fun p hp => hp, inheritedView, inheritedNames,
    declaredNames]
  simp only [List.map_map, Function.comp_def, baseName_ownerCopy]
  congr 1
  exact List.map_congr_left fun p _ => ownerCopy_eq chain p

/-- The raw names of an inherited view: the own names in order, then the names the chain adds. -/
theorem names_inheritedView (own : List Property) (chain : List Model) :
    (inheritedView own chain).map (·.baseName) = own.map (·.baseName) ++ inheritedNames own chain := by
  rw [inheritedView, List.map_append, List.map_map, List.map_filterMap]
  congr 1
  · refine List.map_congr_left fun p _ => ?_
    simpa [ownerCopy_eq] using baseName_ownerCopy chain p
  · -- every added name is declared along the chain, so its owner's declaration is there
    refine (List.filterMap_congr fun x hx => ?_).trans List.filterMap_some
    have hdecl : x ∈ declaredNames chain := by
      simp only [inheritedNames, List.mem_eraseDups, List.removeAll, List.mem_filter] at hx
      exact hx.1
    obtain ⟨d, hd⟩ := Option.isSome_iff_exists.mp (isSome_ownerDecl?_of_mem hdecl)
    rw [hd, Option.map_some, baseName_of_ownerDecl? hd]

/-- **Reconciling one model**, against any store and whatever its parent links. With `chain` the
model's ancestors: the own list keeps, in order, the properties whose raw name no ancestor
declares, and is marked again exactly when one was taken out, which is what the result reports;
the flat list is the inherited view of the own list along the chain, names each raw name once,
and lists the own names and then those the chain adds; the parent's view is the inherited view
of the nearest ancestor's own list along the ancestors above it, and empty without ancestors.
Every list built is marked. -/
theorem reconcile_lists (M : Model) (S : ModelMap) (hnd : (M.vars.map (·.baseName)).Nodup) :
    let chain := ancestors M S
    let kept := M.vars.filter (·.baseName ∉ declaredNames chain)
    let removed := M.vars.any (·.baseName ∈ declaredNames chain)
    (reconcile M S).1.vars = (if removed then markHasMore kept else kept) ∧
    (reconcile M S).2 = removed ∧
    (reconcile M S).1.allVars = markHasMore (inheritedView M.vars chain) ∧
    (reconcile M S).1.allVars.map (·.baseName) =
      M.vars.map (·.baseName) ++ inheritedNames M.vars chain ∧
    ((reconcile M S).1.allVars.map (·.baseName)).Nodup ∧
    (reconcile M S).1.parentVars = markHasMore (match chain with
      | P :: rest => inheritedView P.vars rest
      | [] => []) := by
  dsimp only
  have hall : (reconcile M S).1.allVars = markHasMore (inheritedView M.vars (ancestors M S)) := by
    rw [reconcile_allVars, flatten_eq_inheritedView]
  refine ⟨reconcile_vars hnd, reconcile_removed hnd, hall, ?_,
    nodup_names_reconcile_allVars M S hnd, ?_⟩
  · rw [hall, map_baseName_markHasMore, names_inheritedView]
  · rw [reconcile_parentVars]
    cases ancestors M S with
    | nil => rfl
    | cons P rest => exact congrArg markHasMore (flatten_eq_inheritedView P.vars rest)

/-- A model `A` under `B`, declaring `x` and `a`. -/
def cycleAModel : Model :=
  { Model.new "A" with
    parentSchema := some "B"
    vars := [Property.new "x" (.primitive "string"), Property.new "a" (.primitive "string")] }

/-- A model `B` under `A`, declaring `x` and `b`. -/
def cycleBModel : Model :=
  { Model.new "B" with
    parentSchema := some "A"
    vars := [Property.new "x" (.primitive "string"), Property.new "b" (.primitive "string")] }

/-- Two models, each the other's parent. -/
def abCycleMap : ModelMap := ⟨[("A", cycleAModel), ("B", cycleBModel)]⟩

theorem abCycle_reconcile_lists :
    (cycleAModel.vars.map (·.baseName)).Nodup ∧
    let chain := ancestors cycleAModel abCycleMap
    let kept := cycleAModel.vars.filter (·.baseName ∉ declaredNames chain)
    let removed := cycleAModel.vars.any (·.baseName ∈ declaredNames chain)
    (reconcile cycleAModel abCycleMap).1.vars = (if removed then markHasMore kept else kept) ∧
    (reconcile cycleAModel abCycleMap).2 = removed ∧
    (reconcile cycleAModel abCycleMap).1.allVars =
      markHasMore (inheritedView cycleAModel.vars chain) ∧
    (reconcile cycleAModel abCycleMap).1.allVars.map (·.baseName) =
      cycleAModel.vars.map (·.baseName) ++ inheritedNames cycleAModel.vars chain ∧
    ((reconcile cycleAModel abCycleMap).1.allVars.map (·.baseName)).Nodup ∧
    (reconcile cycleAModel abCycleMap).1.parentVars = markHasMore (match chain with
      | P :: rest => inheritedView P.vars rest
      | [] => []) :=
  have hnd : (cycleAModel.vars.map (·.baseName)).Nodup := by decide
  ⟨hnd, reconcile_lists cycleAModel abCycleMap hnd⟩

end SwiftSchema
