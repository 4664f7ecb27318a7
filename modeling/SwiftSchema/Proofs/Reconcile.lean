import SwiftSchema.Proofs.Validation
import SwiftSchema.Proofs.InheritedLists

/-! # Reconciling a map

Reconciling reads every model's chain from the map as it was before any change, so each model is
reconciled on its own. On a map that validation accepts, with every model held under its raw
name, the chains agree with one another: the chain of a model's parent is the rest of the model's
own chain. The two laws of inheritance follow from that.

* `ExclusiveOwner` — of a line of models, only the owner of a raw name keeps it in its own list.
* `reconcileAll_exclusive_owner` — reconciling gives every line of the map exclusive owners.
* `InheritedViews` — a model lists its parent's view as the parent lists it, its names once
  each, and every entry as its owner declared it.
* `reconcileAll_inherited_views` — reconciling gives every model those views.
-/

namespace SwiftSchema

open ModelMap

/-- **Exclusive ownership** of a raw name along a line of models, once reconciled into `R`: the
line repeats no name; of its models, exactly the owner of the name declares it in `R`, as the
owner declared it before; and every own list in `R` keeps its order from before. -/
def ExclusiveOwner (R : ModelMap) (line : List Model) (k : String) : Prop :=
  (line.map (·.baseName)).Nodup ∧
  ∃ X X', owner? line k = some X ∧ R.get? X.baseName = some X' ∧
    (X'.var? k).map Property.unmark = (X.var? k).map Property.unmark ∧
    ∀ Y ∈ line, ∃ Y', R.get? Y.baseName = some Y' ∧ (Y'.declares k = true ↔ Y = X) ∧
      (Y'.vars.map Property.unmark).Sublist (Y.vars.map Property.unmark)

/-- The **inherited views** of a model `M` with line `c` in `S`, once reconciled into `R`: every
entry of its flat list and of its parent's view is, apart from its follow-on flag, its owner's
declaration; the flat list names each raw name once; with a parent in the map, the parent's view
is the parent's own flat list, and the flat list's names are the own names beside the parent's;
with none, the parent's view is empty and the flat list is the own list. -/
def InheritedViews (S R : ModelMap) (M : Model) (c : List Model) : Prop :=
  ∃ M', R.get? M.baseName = some M' ∧
    (∀ q ∈ M'.allVars ++ M'.parentVars,
      (ownerDecl? (M :: c) q.baseName).map Property.unmark = some q.unmark) ∧
    (M'.allVars.map (·.baseName)).Nodup ∧
    (∀ p P, M.parentSchema = some p → S.get? p = some P →
      ∃ P', R.get? p = some P' ∧ M'.parentVars = P'.allVars ∧
        (M'.allVars.map (·.baseName)).Perm
          (M'.vars.map (·.baseName) ++ P'.allVars.map (·.baseName))) ∧
    ((∀ p, M.parentSchema = some p → S.get? p = none) →
      M'.parentVars = [] ∧ M'.allVars.map Property.unmark = M'.vars.map Property.unmark)

variable {S : ModelMap} {m k : String} {M : Model} {c : List Model}

theorem reconcileAll_fst (S : ModelMap) :
    S.reconcileAll.1 = S.mapModels fun m => (reconcile m S).1 := by
  simp [ModelMap.reconcileAll, ModelMap.mapModels]

/-- After reconciling, a name holds the reconciled model it held. -/
theorem get?_reconcileAll (h : S.get? m = some M) :
    S.reconcileAll.1.get? m = some (reconcile M S).1 := by
  rw [reconcileAll_fst, get?_mapModels, h, Option.map_some]

theorem reconcile_allVars (M : Model) (S : ModelMap) :
    (reconcile M S).1.allVars = markHasMore (flatten M.vars (ancestors M S)) := rfl

theorem reconcile_parentVars (M : Model) (S : ModelMap) :
    (reconcile M S).1.parentVars = markHasMore (match ancestors M S with
      | P :: rest => flatten P.vars rest
      | [] => []) := rfl

/-- The own list after reconciling: the own properties whose raw name no ancestor declares,
marked again when one was taken out. -/
theorem reconcile_vars (hnd : (M.vars.map (·.baseName)).Nodup) :
    (reconcile M S).1.vars =
      let kept := M.vars.filter (·.baseName ∉ declaredNames (ancestors M S))
      if M.vars.any (·.baseName ∈ declaredNames (ancestors M S)) then markHasMore kept else kept := by
  simp only [reconcile, withoutInherited_eq _ hnd]
  split
  · rfl
  · -- nothing was taken out, so the filter keeps every own property
    rename_i hnone
    have hall : ∀ p ∈ M.vars, p.baseName ∉ declaredNames (ancestors M S) :=
      fun p hp hin => hnone (List.any_eq_true.mpr ⟨p, hp, by simpa using hin⟩)
    rw [List.filter_eq_self.mpr fun p hp => by simpa using hall p hp]

/-- Reconciling reports a removal exactly when an ancestor declares an own raw name. -/
theorem reconcile_removed (hnd : (M.vars.map (·.baseName)).Nodup) :
    (reconcile M S).2 = M.vars.any (·.baseName ∈ declaredNames (ancestors M S)) := by
  simp only [reconcile, withoutInherited_eq _ hnd]

/-- The own list after reconciling is, apart from follow-on flags, the own properties whose raw
name no ancestor declares. -/
theorem map_unmark_reconcile_vars (M : Model) (S : ModelMap)
    (hnd : (M.vars.map (·.baseName)).Nodup) :
    (reconcile M S).1.vars.map Property.unmark =
      (M.vars.filter (·.baseName ∉ declaredNames (ancestors M S))).map Property.unmark := by
  rw [reconcile_vars hnd]
  split
  · exact map_unmark_markHasMore _
  · rfl

theorem names_reconcile_vars (M : Model) (S : ModelMap) (hnd : (M.vars.map (·.baseName)).Nodup) :
    (reconcile M S).1.vars.map (·.baseName) =
      (M.vars.filter (·.baseName ∉ declaredNames (ancestors M S))).map (·.baseName) := by
  have h := congrArg (List.map (·.baseName)) (map_unmark_reconcile_vars M S hnd)
  simpa [List.map_map, Function.comp_def] using h

theorem mem_names_reconcile_vars (M : Model) (S : ModelMap)
    (hnd : (M.vars.map (·.baseName)).Nodup) :
    k ∈ (reconcile M S).1.vars.map (·.baseName) ↔
      k ∈ M.vars.map (·.baseName) ∧ k ∉ declaredNames (ancestors M S) := by
  rw [names_reconcile_vars M S hnd]
  simp only [List.mem_map, List.mem_filter, decide_eq_true_eq]
  constructor
  · rintro ⟨p, ⟨hp, hpk⟩, rfl⟩
    exact ⟨⟨p, hp, rfl⟩, hpk⟩
  · rintro ⟨⟨p, hp, rfl⟩, hpk⟩
    exact ⟨p, ⟨hp, hpk⟩, rfl⟩

/-- After reconciling, a model declares a raw name exactly when it declared it and no ancestor
does. -/
theorem declares_reconcile (M : Model) (S : ModelMap) (hnd : (M.vars.map (·.baseName)).Nodup) :
    (reconcile M S).1.declares k = true ↔
      M.declares k = true ∧ k ∉ declaredNames (ancestors M S) := by
  rw [Model.declares_iff, Model.declares_iff]
  exact mem_names_reconcile_vars M S hnd

/-- After reconciling, a model's flat list names each name once. -/
theorem nodup_names_reconcile_allVars (M : Model) (S : ModelMap)
    (hnd : (M.vars.map (·.baseName)).Nodup) :
    ((reconcile M S).1.allVars.map (·.baseName)).Nodup := by
  rw [reconcile_allVars, map_baseName_markHasMore]
  exact nodup_names_flatten _ hnd

/-- After reconciling, a model's flat list names what the model or an ancestor declares. -/
theorem mem_names_reconcile_allVars (M : Model) (S : ModelMap) :
    k ∈ (reconcile M S).1.allVars.map (·.baseName) ↔ k ∈ declaredNames (M :: ancestors M S) := by
  rw [reconcile_allVars, map_baseName_markHasMore, mem_names_flatten, declaredNames_cons,
    List.mem_append]

/-- Apart from order, a reconciled model's flat list names its kept own names beside the flat
list of its reconciled parent, when the parent and its ancestors are the model's ancestors. -/
theorem perm_names_reconcile_allVars {P : Model} (hnd : (M.vars.map (·.baseName)).Nodup)
    (hPnd : (P.vars.map (·.baseName)).Nodup) (hanc : ancestors M S = P :: ancestors P S) :
    ((reconcile M S).1.allVars.map (·.baseName)).Perm
      ((reconcile M S).1.vars.map (·.baseName) ++ (reconcile P S).1.allVars.map (·.baseName)) := by
  -- both sides list each name once, and the same names
  have hdisj : ((reconcile M S).1.vars.map (·.baseName) ++
      (reconcile P S).1.allVars.map (·.baseName)).Nodup := by
    refine List.nodup_append.mpr ⟨?_, nodup_names_reconcile_allVars P S hPnd, ?_⟩
    · rw [names_reconcile_vars M S hnd]
      exact hnd.sublist (List.filter_sublist.map _)
    · intro x hx y hy hxy
      rw [hxy, mem_names_reconcile_vars M S hnd, hanc] at hx
      exact hx.2 ((mem_names_reconcile_allVars P S).mp hy)
  refine (List.perm_ext_iff_of_nodup (nodup_names_reconcile_allVars M S hnd) hdisj).mpr
    fun x => ?_
  rw [List.mem_append, mem_names_reconcile_vars M S hnd, mem_names_reconcile_allVars,
    mem_names_reconcile_allVars, hanc, declaredNames_cons, List.mem_append]
  by_cases hx : x ∈ declaredNames (P :: ancestors P S) <;> simp [hx]

/-- A model that keeps a raw name keeps its declaration of it, apart from its follow-on flag. -/
theorem var?_reconcile (M : Model) (S : ModelMap) (hnd : (M.vars.map (·.baseName)).Nodup)
    (hk : k ∉ declaredNames (ancestors M S)) :
    ((reconcile M S).1.var? k).map Property.unmark = (M.var? k).map Property.unmark := by
  -- looking a name up commutes with clearing flags, which keep the names
  have hfind : ∀ l : List Property, (l.find? (·.baseName == k)).map Property.unmark =
      (l.map Property.unmark).find? (·.baseName == k) := fun l => by
    rw [List.find?_map]
    rfl
  unfold Model.var?
  rw [hfind, map_unmark_reconcile_vars M S hnd, ← hfind, List.find?_filter]
  congr 2
  funext p
  by_cases hp : p.baseName = k
  · simp [hp, hk]
  · simp [hp]

/-- On an acyclic map keyed by name, every model at a split of a model's line is held under its
name, and its ancestors are the rest of the line. -/
theorem ancestors_of_split (hK : S.KeyedByName) (hA : S.Acyclic) (hM : S.get? m = some M)
    (hc : S.Line M.parentSchema c) {pre post : List Model} {Y : Model}
    (hsplit : M :: c = pre ++ Y :: post) :
    S.get? Y.baseName = some Y ∧ ancestors Y S = post := by
  cases pre with
  | nil =>
    obtain ⟨rfl, rfl⟩ := List.cons.inj hsplit
    have hMM : S.get? M.baseName = some M := by rw [hK.baseName_eq hM]; exact hM
    exact ⟨hMM, ancestors_eq_of_line hK hA hMM hc⟩
  | cons Z pre =>
    obtain ⟨-, rfl⟩ := List.cons.inj hsplit
    have hY := hc.get?_baseName hK Y (List.mem_append_right _ List.mem_cons_self)
    exact ⟨hY, ancestors_eq_of_line hK hA hY hc.of_append⟩

/-- On an acyclic map keyed by name, a model's line repeats no name. -/
theorem nodup_names_line (hK : S.KeyedByName) (hA : S.Acyclic) (hM : S.get? m = some M)
    (hc : S.Line M.parentSchema c) : ((M :: c).map (·.baseName)).Nodup := by
  refine List.nodup_cons.mpr ⟨fun hmem => ?_, hc.nodup hK hA⟩
  obtain ⟨X, hX, hXn⟩ := List.mem_map.mp hmem
  have hname : X.baseName = m := hXn.trans (hK.baseName_eq hM)
  exact hA.not_reaches hM (hname ▸ hc.reaches hK X hX)

/-- **Inheritance exclusivity.** On a map that validation accepts, with every model held under
its raw name, each raw name declared along a model's line stays, after reconciling, in the own
list of the topmost model of the line that declares it and of no other, as that model declared
it; every own list keeps its order. -/
theorem reconcileAll_exclusive_owner (hK : S.KeyedByName) (hD : S.OwnKeysDistinct)
    (hA : S.Acyclic) (hM : S.get? m = some M) (hc : S.Line M.parentSchema c)
    (hk : ∃ Y ∈ M :: c, Y.declares k = true) :
    ExclusiveOwner S.reconcileAll.1 (M :: c) k := by
  have hnd := nodup_names_line hK hA hM hc
  obtain ⟨X, hX⟩ := Option.isSome_iff_exists.mp (owner?_isSome_iff.mpr hk)
  -- each model of the line is reconciled against the rest of the line after it
  have hsplit : ∀ Y ∈ M :: c, ∃ pre post, M :: c = pre ++ Y :: post ∧
      S.get? Y.baseName = some Y ∧ ancestors Y S = post := by
    intro Y hY
    obtain ⟨pre, post, hs⟩ := List.append_of_mem hY
    exact ⟨pre, post, hs, ancestors_of_split hK hA hM hc hs⟩
  have hkeeps : ∀ Y ∈ M :: c, (reconcile Y S).1.declares k = true ↔ Y = X := by
    intro Y hY
    obtain ⟨pre, post, hs, hget, hanc⟩ := hsplit Y hY
    rw [declares_reconcile Y S (hD.nodup hget), hanc, not_mem_declaredNames_iff,
      ← owner?_eq_iff_of_split (hs ▸ hnd.of_map _), ← hs, hX, Option.some.injEq, eq_comm]
  obtain ⟨-, -, -, hXget, hXanc⟩ := hsplit X (mem_of_owner? hX)
  refine ⟨hnd, X, (reconcile X S).1, hX, get?_reconcileAll hXget, ?_, ?_⟩
  · -- the owner keeps the name, so no model above it declares it
    apply var?_reconcile X S (hD.nodup hXget)
    have hkeep := (hkeeps X (mem_of_owner? hX)).mpr rfl
    exact ((declares_reconcile X S (hD.nodup hXget)).mp hkeep).2
  · intro Y hY
    obtain ⟨-, -, -, hget, -⟩ := hsplit Y hY
    refine ⟨(reconcile Y S).1, get?_reconcileAll hget, hkeeps Y hY, ?_⟩
    rw [map_unmark_reconcile_vars Y S (hD.nodup hget)]
    exact List.filter_sublist.map _

/-- A top model declaring `id`. -/
def entityModel : Model :=
  { Model.new "Entity" with vars := [Property.new "id" (.primitive "string")] }

/-- A model under `Entity` declaring `id` again, and `name`. -/
def animalModel : Model :=
  { Model.new "Animal" with
    parentSchema := some "Entity"
    vars := [Property.new "id" (.primitive "string"), Property.new "name" (.primitive "string")] }

/-- A model under `Animal` declaring `id` and `name` again, and `bark`. -/
def dogModel : Model :=
  { Model.new "Dog" with
    parentSchema := some "Animal"
    vars := [Property.new "id" (.primitive "string"), Property.new "name" (.primitive "string"),
      Property.new "bark" (.primitive "string")] }

/-- A line of three models that each declare `id`, the child listed first. -/
def dogLineMap : ModelMap :=
  ⟨[("Dog", dogModel), ("Animal", animalModel), ("Entity", entityModel)]⟩

theorem dogLineMap_exclusive_id :
    dogLineMap.KeyedByName ∧ dogLineMap.OwnKeysDistinct ∧ dogLineMap.Acyclic ∧
      dogLineMap.get? "Dog" = some dogModel ∧
      dogLineMap.Line dogModel.parentSchema [animalModel, entityModel] ∧
      (∃ Y ∈ [dogModel, animalModel, entityModel], Y.declares "id" = true) ∧
      ExclusiveOwner dogLineMap.reconcileAll.1 [dogModel, animalModel, entityModel] "id" := by
  have hK : dogLineMap.KeyedByName := by decide
  have hD : dogLineMap.OwnKeysDistinct := by decide
  have hA : dogLineMap.Acyclic := by decide
  have hM : dogLineMap.get? "Dog" = some dogModel := by decide
  have hc : dogLineMap.Line dogModel.parentSchema [animalModel, entityModel] :=
    .step (by decide) (.step (by decide) .none)
  have hk : ∃ Y ∈ [dogModel, animalModel, entityModel], Y.declares "id" = true := by decide
  exact ⟨hK, hD, hA, hM, hc, hk, reconcileAll_exclusive_owner hK hD hA hM hc hk⟩

/-- The line of a parent name that the map lacks, or of no name, is empty. -/
theorem line_eq_nil_of_absent {o : Option String} (hc : S.Line o c)
    (hnone : ∀ p, o = some p → S.get? p = none) : c = [] := by
  cases hc with
  | none => rfl
  | absent _ => rfl
  | step hP _ => simp [hnone _ rfl] at hP

/-- **Inherited views.** On a map that validation accepts, with every model held under its raw
name, reconciling lists as a model's parent view exactly its parent's flat list, flags included;
the flat list names the own names beside the parent's, each once; and every entry of either list
is its owner's declaration. A model with no parent in the map has an empty parent view and its
own list as flat list. -/
theorem reconcileAll_inherited_views (hK : S.KeyedByName) (hD : S.OwnKeysDistinct)
    (hA : S.Acyclic) (hM : S.get? m = some M) (hc : S.Line M.parentSchema c) :
    InheritedViews S S.reconcileAll.1 M c := by
  have hMM : S.get? M.baseName = some M := by rw [hK.baseName_eq hM]; exact hM
  have hanc : ancestors M S = c := ancestors_eq_of_line hK hA hMM hc
  have hnd := hD.nodup hM
  have hflat : (reconcile M S).1.allVars = markHasMore (flatten M.vars c) := by
    rw [reconcile_allVars, hanc]
  refine ⟨(reconcile M S).1, get?_reconcileAll hMM, ?_, nodup_names_reconcile_allVars M S hnd,
    ?_, ?_⟩
  · -- entries of the flat list, and of the parent's flat list one model up the line
    intro q hq
    rcases List.mem_append.mp hq with hq | hq
    · exact ownerDecl?_of_mem_flatten hnd (hflat ▸ hq)
    · rw [reconcile_parentVars, hanc] at hq
      cases c with
      | nil => simp [markHasMore] at hq
      | cons P rest =>
        have hP := hc.get?_baseName hK P List.mem_cons_self
        have hown := ownerDecl?_of_mem_flatten (hD.nodup hP) hq
        obtain ⟨d, hd, -⟩ := Option.map_eq_some_iff.mp hown
        rw [ownerDecl?_cons, hd, Option.some_or, ← hd, hown]
  · intro p P hp hP
    rw [hp] at hc
    cases hc with
    | absent hn => simp [hn] at hP
    | @step _ P₀ rest hP₀ hrest =>
      obtain rfl : P₀ = P := Option.some.inj (hP₀.symm.trans hP)
      have hPanc : ancestors P₀ S = rest := ancestors_eq_of_line hK hA hP hrest
      refine ⟨(reconcile P₀ S).1, get?_reconcileAll hP, ?_, ?_⟩
      · rw [reconcile_parentVars, reconcile_allVars, hanc, hPanc]
      · exact perm_names_reconcile_allVars hnd (hD.nodup hP) (by rw [hanc, hPanc])
  · intro hnone
    have hnil : c = [] := line_eq_nil_of_absent hc hnone
    subst hnil
    have hvars := map_unmark_reconcile_vars M S hnd
    rw [hanc, declaredNames_nil] at hvars
    refine ⟨by rw [reconcile_parentVars, hanc]; rfl, ?_⟩
    rw [hvars, hflat, map_unmark_markHasMore, flatten_eq]
    simp

theorem dogLineMap_inherited_views :
    dogLineMap.KeyedByName ∧ dogLineMap.OwnKeysDistinct ∧ dogLineMap.Acyclic ∧
      dogLineMap.get? "Dog" = some dogModel ∧
      dogLineMap.Line dogModel.parentSchema [animalModel, entityModel] ∧
      InheritedViews dogLineMap dogLineMap.reconcileAll.1 dogModel [animalModel, entityModel] := by
  have hK : dogLineMap.KeyedByName := by decide
  have hD : dogLineMap.OwnKeysDistinct := by decide
  have hA : dogLineMap.Acyclic := by decide
  have hM : dogLineMap.get? "Dog" = some dogModel := by decide
  have hc : dogLineMap.Line dogModel.parentSchema [animalModel, entityModel] :=
    .step (by decide) (.step (by decide) .none)
  exact ⟨hK, hD, hA, hM, hc, reconcileAll_inherited_views hK hD hA hM hc⟩

end SwiftSchema
