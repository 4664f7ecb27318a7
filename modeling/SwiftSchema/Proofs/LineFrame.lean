import SwiftSchema.Proofs.References

/-! # A normalized model reads only its own line

Every phase of a run goes over the whole map, yet what it makes of one model reads only the
model's **line**: the models its parent walk meets, and where the walk stops. Lowering reads
the map only to learn whether a parent name holds a model; reconciling reads the ancestors,
which the ancestor loop finds by looking up the names of the line one after another;
annotating reads the model alone. So two documents that give a model the same line give it
the same normalized model, whatever their other models are and in whatever order they stand.

* `chainFrom_fuel` — with more fuel than names left to meet, the ancestor loop ends on its own.
* `chainFrom_eq_of_lines`, `ancestors_eq_of_lines` — maps that share a line share the ancestors
  found along it, whatever their sizes.
* `lowerModel_congr`, `Line.contains_agree` — lowering reads the map only through the parent
  names, and maps that share a line agree on those.
* `get?_normalize` — the normalized model under a name.
* `normalize_reads_own_line` — a normalized model is a function of its line.
-/

namespace SwiftSchema

open SwiftSchema.Naming

namespace ModelMap

variable {S S₁ S₂ : ModelMap} {o : Option String} {c : List Model}

/-! ## Lines across maps -/

/-- Changing models but not their parent names changes their line alike. -/
theorem Line.mapModels {f : Model → Model} (hf : ∀ m, (f m).parentSchema = m.parentSchema)
    (h : S.Line o c) : (S.mapModels f).Line o (c.map f) := by
  induction h with
  | none => exact .none
  | absent hn => exact .absent (by rw [get?_mapModels, hn, Option.map_none])
  | step hP _ ih =>
    refine .step (by rw [get?_mapModels, hP, Option.map_some]) ?_
    rw [hf]
    exact ih

/-- Maps that look up every name alike have the same lines. -/
theorem Line.of_get?_eq (hS : ∀ k, S₁.get? k = S₂.get? k) (h : S₁.Line o c) : S₂.Line o c := by
  induction h with
  | none => exact .none
  | absent hn => exact .absent (by rw [← hS, hn])
  | step hP _ ih => exact .step (by rw [← hS, hP]) ih

/-- Two maps that share a line agree on whether each name the line looks up holds a model:
the names that lead on to a model of the line, and the name where it stops. -/
theorem Line.contains_agree (h₁ : S₁.Line o c) (h₂ : S₂.Line o c) :
    (∀ p, o = some p → S₁.contains p = S₂.contains p) ∧
      ∀ X ∈ c, ∀ p, X.parentSchema = some p → S₁.contains p = S₂.contains p := by
  induction h₁ with
  | none => exact ⟨fun _ h => absurd h (Option.some_ne_none _).symm,
      fun _ hX => absurd hX List.not_mem_nil⟩
  | absent hn =>
    cases h₂ with
    | absent hn' =>
      refine ⟨fun p hp => ?_, fun _ hX => absurd hX List.not_mem_nil⟩
      cases hp
      simp [contains, hn, hn']
  | step hP hc ih =>
    cases h₂ with
    | step hP' hc' =>
      obtain ⟨ihead, itail⟩ := ih hc'
      refine ⟨fun p hp => ?_, fun X hX => ?_⟩
      · cases hp
        simp [contains, hP, hP']
      · rcases List.mem_cons.mp hX with rfl | hX
        · exact ihead
        · exact itail X hX

/-! ## The ancestor loop -/

/-- **The fuel of the ancestor loop does not matter** once it exceeds the number of names of
the map not yet seen: each step meets a new name of the map, or the loop ends. -/
theorem chainFrom_fuel : ∀ (fuel fuel' : Nat) (seen : List String) (o : Option String),
    (S.keys.toFinset.filter (· ∉ seen)).card < fuel →
    (S.keys.toFinset.filter (· ∉ seen)).card < fuel' →
      chainFrom S fuel seen o = chainFrom S fuel' seen o
  | 0, _, _, _, h, _ => absurd h (Nat.not_lt_zero _)
  | _, 0, _, _, _, h' => absurd h' (Nat.not_lt_zero _)
  | _ + 1, _ + 1, _, none, _, _ => rfl
  | fuel + 1, fuel' + 1, seen, some n, h, h' => by
    by_cases hn : n ∈ seen
    · simp [chainFrom, hn]
    · cases hP : S.get? n with
      | none => simp [chainFrom, hn, hP]
      | some P =>
        have hcard := card_unseen_cons hP hn
        simp only [chainFrom, hn, hP, if_false, List.cons.injEq, true_and]
        exact chainFrom_fuel fuel fuel' (n :: seen) P.parentSchema (by omega) (by omega)

/-- The ancestor loop, run with the same fuel on two maps that share a line, finds the same
models: it looks up only the names of the line. -/
theorem chainFrom_eq_of_lines (h₁ : S₁.Line o c) (h₂ : S₂.Line o c) :
    ∀ (fuel : Nat) (seen : List String), chainFrom S₁ fuel seen o = chainFrom S₂ fuel seen o := by
  induction h₁ with
  | none => intro fuel seen; cases fuel <;> rfl
  | @absent n hn =>
    cases h₂ with
    | absent hn' =>
      intro fuel seen
      cases fuel with
      | zero => rfl
      | succ fuel => simp [chainFrom, hn, hn']
  | @step n P _ hP _ ih =>
    cases h₂ with
    | step hP' hc' =>
      intro fuel seen
      cases fuel with
      | zero => rfl
      | succ fuel =>
        by_cases hn : n ∈ seen
        · simp [chainFrom, hn]
        · simp only [chainFrom, hn, hP, hP', if_false, ih hc' fuel (n :: seen)]

/-- The loop's own fuel, the size of the map and one more, outlasts the names left to meet. -/
theorem card_unseen_lt_size (seen : List String) :
    (S.keys.toFinset.filter (· ∉ seen)).card < S.size + 1 :=
  calc (S.keys.toFinset.filter (· ∉ seen)).card
      ≤ S.keys.toFinset.card := Finset.card_filter_le _ _
    _ ≤ S.keys.length := List.toFinset_card_le _
    _ < S.size + 1 := by simp [keys, size]

/-- **Maps that share the line of a model's parent name give the model the same ancestors**,
whatever their sizes. -/
theorem ancestors_eq_of_lines {M : Model} (h₁ : S₁.Line M.parentSchema c)
    (h₂ : S₂.Line M.parentSchema c) : ancestors M S₁ = ancestors M S₂ := by
  -- run both loops with fuel enough for either map
  let fuel := S₁.size + S₂.size + 1
  calc ancestors M S₁ = chainFrom S₁ fuel [M.baseName] M.parentSchema :=
        chainFrom_fuel _ _ _ _ (card_unseen_lt_size _)
          (Nat.lt_of_lt_of_le (card_unseen_lt_size _) (by omega))
    _ = chainFrom S₂ fuel [M.baseName] M.parentSchema := chainFrom_eq_of_lines h₁ h₂ fuel _
    _ = ancestors M S₂ :=
        chainFrom_fuel _ _ _ _ (Nat.lt_of_lt_of_le (card_unseen_lt_size _) (by omega))
          (card_unseen_lt_size _)

/-- Reordering the entries of a map whose names are distinct changes no look-up. -/
theorem get?_eq_of_perm : ∀ {S₁ S₂ : ModelMap}, S₁.entries.Perm S₂.entries → S₁.keys.Nodup →
    ∀ k, S₁.get? k = S₂.get? k
  | ⟨l₁⟩, ⟨l₂⟩, hp, hnd, k => by
    unfold get?
    unfold keys at hnd
    dsimp only at hp hnd ⊢
    induction hp with
    | nil => rfl
    | cons e _ ih =>
      obtain ⟨k', m⟩ := e
      simp only [List.map_cons, List.nodup_cons] at hnd
      simp only [List.lookup_cons, ih hnd.2]
    | swap e₁ e₂ l =>
      obtain ⟨k₁, m₁⟩ := e₁
      obtain ⟨k₂, m₂⟩ := e₂
      simp only [List.map_cons, List.nodup_cons, List.mem_cons, not_or] at hnd
      -- the two swapped names differ, so at most one of them is `k`
      by_cases h₂ : k = k₂
      · subst h₂
        have h₁ : (k == k₁) = false := beq_eq_false_iff_ne.mpr fun h => hnd.1.1 h
        simp [List.lookup_cons, h₁]
      · have h₂' : (k == k₂) = false := beq_eq_false_iff_ne.mpr h₂
        simp [List.lookup_cons, h₂']
    | trans h₁₂ _ ih₁₂ ih₂₃ =>
      exact (ih₁₂ hnd).trans (ih₂₃ ((h₁₂.map Prod.fst).nodup_iff.mp hnd))

end ModelMap

/-! ## The phases, one model at a time -/

/-- Reconciling reads the store only through the ancestors. -/
theorem reconcile_congr {M : Model} {S₁ S₂ : ModelMap} (h : ancestors M S₁ = ancestors M S₂) :
    reconcile M S₁ = reconcile M S₂ := by
  simp only [reconcile, h]

/-- Lowering reads the known names only to learn whether the parent name is one of them. -/
theorem lowerModel_congr {n : Namer} {known₁ known₂ : List String} {m : Model}
    (h : ∀ p, m.parentSchema = some p → known₁.contains p = known₂.contains p) :
    lowerModel n known₁ m = lowerModel n known₂ m := by
  have hparent : m.parentSchema.filter (known₁.contains ·) =
      m.parentSchema.filter (known₂.contains ·) := by
    cases hp : m.parentSchema with
    | none => rfl
    | some p => rw [Option.filter_some, Option.filter_some, h p hp]
  simp only [lowerModel, hparent]

/-- **Reconciling reads only the line**: two maps that share the line of a name hold the same
reconciled model there. -/
theorem get?_reconcileAll_eq_of_lines {S₁ S₂ : ModelMap} {key : String} {c : List Model}
    (h₁ : S₁.Line (some key) c) (h₂ : S₂.Line (some key) c) :
    S₁.reconcileAll.1.get? key = S₂.reconcileAll.1.get? key := by
  rw [reconcileAll_fst, reconcileAll_fst, ModelMap.get?_mapModels, ModelMap.get?_mapModels]
  cases h₁ with
  | absent hn =>
    cases h₂ with
    | absent hn' => rw [hn, hn', Option.map_none, Option.map_none]
  | step hP hc =>
    cases h₂ with
    | step hP' hc' =>
      rw [hP, hP', Option.map_some, Option.map_some,
        reconcile_congr (ModelMap.ancestors_eq_of_lines hc hc')]

/-- The **normalized model** under a name: the lowered map reconciled, then the model there
annotated. -/
theorem get?_normalize {doc : SchemaDocument} {manifest : Manifest} {out : Normalized}
    (h : normalize doc manifest = .ok out) (k : String) :
    out.models.get? k = ((Context.new doc manifest).lower.models.reconcileAll.1.get? k).map
      (Model.annotate manifest.naming) := by
  obtain ⟨-, rfl⟩ := normalize_eq_ok_iff.mp h
  rw [ModelMap.annotate, ModelMap.get?_mapModels]

/-- Lowering a document's map: each line becomes the line of the lowered models, and two
documents that share a line lower it alike. -/
theorem lower_line_eq {doc₁ doc₂ : SchemaDocument} {manifest : Manifest} {o : Option String}
    {c : List Model} (hl₁ : doc₁.models.Line o c) (hl₂ : doc₂.models.Line o c) :
    (Context.new doc₁ manifest).lower.models.Line o
        (c.map fun m => (lowerModel (Context.new doc₁ manifest).namer doc₁.models.keys m).1) ∧
      (Context.new doc₂ manifest).lower.models.Line o
        (c.map fun m => (lowerModel (Context.new doc₁ manifest).namer doc₁.models.keys m).1) := by
  have hparent : ∀ (known : List String) m,
      (lowerModel (Context.new doc₁ manifest).namer known m).1.parentSchema = m.parentSchema :=
    fun _ _ => rfl
  -- the two maps agree on every parent name the line looks up, so lowering agrees on its models
  have hsame : c.map (fun m => (lowerModel (Context.new doc₂ manifest).namer doc₂.models.keys m).1) =
      c.map fun m => (lowerModel (Context.new doc₁ manifest).namer doc₁.models.keys m).1 := by
    refine List.map_congr_left fun X hX => ?_
    rw [lowerModel_congr fun p hp => ?_]
    · rfl
    rw [ModelMap.keys_contains, ModelMap.keys_contains]
    exact ((hl₁.contains_agree hl₂).2 X hX p hp).symm
  refine ⟨?_, ?_⟩
  · rw [models_lower]
    exact hl₁.mapModels (hparent _)
  · rw [models_lower, ← hsame]
    exact hl₂.mapModels (hparent _)

/-- **A normalized model reads only its own line.** Two documents that normalization accepts
under one manifest, and that give a name the same line, give the name the same normalized
model. The line lists the models the name's parent walk meets; it fixes the names the walk
looks up and where it stops, at an absent parent or a parent the map lacks. So reordering the
models of a document whose names are distinct changes no normalized model, and neither does
adding models off a line. -/
theorem normalize_reads_own_line :
    (∀ (doc₁ doc₂ : SchemaDocument) (manifest : Manifest) (out₁ out₂ : Normalized)
        (key : String) (line : List Model),
      normalize doc₁ manifest = .ok out₁ → normalize doc₂ manifest = .ok out₂ →
      doc₁.models.Line (some key) line → doc₂.models.Line (some key) line →
      out₁.models.get? key = out₂.models.get? key) ∧
    ∀ (doc₁ doc₂ : SchemaDocument) (manifest : Manifest) (out₁ out₂ : Normalized),
      normalize doc₁ manifest = .ok out₁ → normalize doc₂ manifest = .ok out₂ →
      doc₁.models.keys.Nodup → doc₁.models.entries.Perm doc₂.models.entries →
      ∀ key, out₁.models.get? key = out₂.models.get? key := by
  have hline : ∀ (doc₁ doc₂ : SchemaDocument) (manifest : Manifest) (out₁ out₂ : Normalized)
      (key : String) (line : List Model),
      normalize doc₁ manifest = .ok out₁ → normalize doc₂ manifest = .ok out₂ →
      doc₁.models.Line (some key) line → doc₂.models.Line (some key) line →
      out₁.models.get? key = out₂.models.get? key := by
    intro doc₁ doc₂ manifest out₁ out₂ key line h₁ h₂ hl₁ hl₂
    obtain ⟨hL₁, hL₂⟩ := @lower_line_eq doc₁ doc₂ manifest _ _ hl₁ hl₂
    rw [get?_normalize h₁, get?_normalize h₂, get?_reconcileAll_eq_of_lines hL₁ hL₂]
  refine ⟨hline, fun doc₁ doc₂ manifest out₁ out₂ h₁ h₂ hnd hp key => ?_⟩
  -- an accepted map is acyclic, so the walk from any name ends, and both maps look it up alike
  have hA : doc₁.models.Acyclic := (normalize_eq_ok_iff.mp h₁).1.2.1
  have hl := ModelMap.line_chainFrom hA _ [] (some key) (fun _ h => absurd h List.not_mem_nil)
    (Nat.lt_succ_self _)
  exact hline doc₁ doc₂ manifest out₁ out₂ key _ h₁ h₂ hl
    (hl.of_get?_eq (ModelMap.get?_eq_of_perm hp hnd))

/-- A model under `Animal`, on no line of `Dog`. -/
def catModel : Model :=
  { Model.new "Cat" with
    parentSchema := some "Animal"
    vars := [Property.new "purr" (.primitive "boolean")] }

/-- The line of `Dog` in another order, after a model on another line. -/
def catFirstDocument : SchemaDocument :=
  ⟨⟨[("Cat", catModel), ("Entity", entityModel), ("Animal", animalModel), ("Dog", dogModel)]⟩, []⟩

/-- The models of `dogLineDocument`, the top one first. -/
def entityFirstDocument : SchemaDocument :=
  ⟨⟨[("Entity", entityModel), ("Dog", dogModel), ("Animal", animalModel)]⟩,
    dogLineDocument.operations⟩

theorem dogLine_reads_own_line :
    let out₁ : Normalized :=
      ⟨(Context.new dogLineDocument {}).lower.models.reconcileAll.1.annotate {},
        (Context.new dogLineDocument {}).lower.operations⟩
    let out₂ : Normalized :=
      ⟨(Context.new catFirstDocument {}).lower.models.reconcileAll.1.annotate {},
        (Context.new catFirstDocument {}).lower.operations⟩
    let out₃ : Normalized :=
      ⟨(Context.new entityFirstDocument {}).lower.models.reconcileAll.1.annotate {},
        (Context.new entityFirstDocument {}).lower.operations⟩
    (normalize dogLineDocument {} = .ok out₁ ∧ normalize catFirstDocument {} = .ok out₂ ∧
      dogLineDocument.models.Line (some "Dog") [dogModel, animalModel, entityModel] ∧
      catFirstDocument.models.Line (some "Dog") [dogModel, animalModel, entityModel] ∧
      out₁.models.get? "Dog" = out₂.models.get? "Dog") ∧
    (normalize entityFirstDocument {} = .ok out₃ ∧ dogLineDocument.models.keys.Nodup ∧
      dogLineDocument.models.entries.Perm entityFirstDocument.models.entries ∧
      ∀ key, out₁.models.get? key = out₃.models.get? key) := by
  intro out₁ out₂ out₃
  have h₁ : normalize dogLineDocument {} = .ok out₁ :=
    normalize_eq_ok_iff.mpr ⟨⟨by decide, by decide, by decide⟩, rfl⟩
  have h₂ : normalize catFirstDocument {} = .ok out₂ :=
    normalize_eq_ok_iff.mpr ⟨⟨by decide, by decide, by decide⟩, rfl⟩
  have h₃ : normalize entityFirstDocument {} = .ok out₃ :=
    normalize_eq_ok_iff.mpr ⟨⟨by decide, by decide, by decide⟩, rfl⟩
  have hl₁ : dogLineDocument.models.Line (some "Dog") [dogModel, animalModel, entityModel] :=
    .step (by decide) (.step (by decide) (.step (by decide) .none))
  have hl₂ : catFirstDocument.models.Line (some "Dog") [dogModel, animalModel, entityModel] :=
    .step (by decide) (.step (by decide) (.step (by decide) .none))
  have hnd : dogLineDocument.models.keys.Nodup := by decide
  have hp : dogLineDocument.models.entries.Perm entityFirstDocument.models.entries :=
    @List.perm_append_comm _ [("Dog", dogModel), ("Animal", animalModel)] [("Entity", entityModel)]
  exact ⟨⟨h₁, h₂, hl₁, hl₂, normalize_reads_own_line.1 _ _ _ _ _ _ _ h₁ h₂ hl₁ hl₂⟩,
    ⟨h₃, hnd, hp, normalize_reads_own_line.2 _ _ _ _ _ h₁ h₃ hnd hp⟩⟩

end SwiftSchema
