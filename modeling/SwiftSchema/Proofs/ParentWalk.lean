import Mathlib.Logic.Relation
import Mathlib.Data.Finset.Card
import SwiftSchema.Model.Inheritance

/-! # Parent walks

A model names its parent by raw name, and the map resolves that name to the next model. This
module gives the walk along such links a vocabulary of its own, apart from the fueled loops that
carry it out, and shows that on an acyclic map the ancestor loop is that walk.

* `ModelMap.ParentLink`, `ModelMap.Reaches` — one link, and a walk of any length.
* `ModelMap.KeyedByName`, `ModelMap.OwnKeysDistinct`, `ModelMap.Acyclic` — the shape of a map
  that validation accepts: models under their raw names, no property declared twice by one
  model, and no model its own ancestor.
* `ModelMap.Line` — the models that the walk from a parent name meets, nearest first, until a
  name is missing from the map.
* `line_chainFrom`, `ancestors_eq_of_line` — on an acyclic map the ancestor loop never runs out
  of fuel, and returns the line of the model's parent name.
-/

namespace SwiftSchema

namespace ModelMap

/-- A **parent link**: the model under the name `a` names `b` as its parent. -/
def ParentLink (S : ModelMap) (a b : String) : Prop :=
  ∃ m, S.get? a = some m ∧ m.parentSchema = some b

/-- A parent name **reaches** `x` when it is `x`, or names a model of the map whose own parent
name reaches `x`. -/
def Reaches (S : ModelMap) (o : Option String) (x : String) : Prop :=
  ∃ n, o = some n ∧ Relation.ReflTransGen S.ParentLink n x

/-- Every model of the map is held under its own raw name. -/
def KeyedByName (S : ModelMap) : Prop := ∀ e ∈ S.entries, e.2.baseName = e.1

/-- No model of the map declares a raw property name twice. -/
def OwnKeysDistinct (S : ModelMap) : Prop := ∀ e ∈ S.entries, (e.2.vars.map (·.baseName)).Nodup

/-- A map is **acyclic** when no model's parent walk leads back to the model's own name. -/
def Acyclic (S : ModelMap) : Prop := ∀ e ∈ S.entries, ¬ S.Reaches e.2.parentSchema e.1

instance (S : ModelMap) : Decidable S.KeyedByName :=
  inferInstanceAs (Decidable (∀ e ∈ S.entries, e.2.baseName = e.1))

instance (S : ModelMap) : Decidable S.OwnKeysDistinct :=
  inferInstanceAs (Decidable (∀ e ∈ S.entries, (e.2.vars.map (·.baseName)).Nodup))

/-- The **line** of a parent name: the models its walk meets, nearest first, until a name is
missing from the map. -/
inductive Line (S : ModelMap) : Option String → List Model → Prop
  | none : Line S none []
  | absent {n : String} : S.get? n = none → Line S (some n) []
  | step {n : String} {P : Model} {c : List Model} :
      S.get? n = some P → Line S P.parentSchema c → Line S (some n) (P :: c)

variable {S : ModelMap} {k n x : String} {m M P : Model} {o : Option String} {c : List Model}

theorem mem_entries_of_get? (h : S.get? k = some m) : (k, m) ∈ S.entries := by
  obtain ⟨l₁, l₂, hl, -⟩ := List.lookup_eq_some_iff.mp h
  rw [hl]
  exact List.mem_append_right _ List.mem_cons_self

theorem mem_keys_of_get? (h : S.get? k = some m) : k ∈ S.keys :=
  List.mem_map.mpr ⟨(k, m), mem_entries_of_get? h, rfl⟩

theorem KeyedByName.baseName_eq (hK : S.KeyedByName) (h : S.get? k = some m) : m.baseName = k :=
  hK _ (mem_entries_of_get? h)

theorem OwnKeysDistinct.nodup (hD : S.OwnKeysDistinct) (h : S.get? k = some m) :
    (m.vars.map (·.baseName)).Nodup :=
  hD _ (mem_entries_of_get? h)

theorem Reaches.refl (n : String) : S.Reaches (some n) n := ⟨n, rfl, .refl⟩

/-- A walk from a model's parent name is a walk from the model's own name. -/
theorem Reaches.head (h : S.get? n = some P) (hr : S.Reaches P.parentSchema x) :
    S.Reaches (some n) x := by
  obtain ⟨p, hp, hpx⟩ := hr
  exact ⟨n, rfl, .head ⟨P, h, hp⟩ hpx⟩

theorem Acyclic.not_reaches (hA : S.Acyclic) (h : S.get? n = some P) :
    ¬ S.Reaches P.parentSchema n :=
  hA _ (mem_entries_of_get? h)

namespace Line

/-- A parent name has one line. -/
theorem unique {c₁ c₂ : List Model} (h₁ : S.Line o c₁) (h₂ : S.Line o c₂) : c₁ = c₂ := by
  induction h₁ generalizing c₂ with
  | none => cases h₂; rfl
  | absent hn =>
    cases h₂ with
    | absent _ => rfl
    | step hP _ => rw [hn] at hP; cases hP
  | step hP _ ih =>
    cases h₂ with
    | absent hn => rw [hn] at hP; cases hP
    | step hP' hc' =>
      obtain rfl := Option.some.inj (hP.symm.trans hP')
      rw [ih hc']

/-- The line after one of its models is that model's own line. -/
theorem of_append {pre post : List Model} {X : Model} (h : S.Line o (pre ++ X :: post)) :
    S.Line X.parentSchema post := by
  induction pre generalizing o with
  | nil => cases h with | step _ hc => exact hc
  | cons Y pre ih => cases h with | step _ hc => exact ih hc

/-- On a map keyed by name, every model of a line is held under its own name. -/
theorem get?_baseName (hK : S.KeyedByName) (h : S.Line o c) :
    ∀ X ∈ c, S.get? X.baseName = some X := by
  induction h with
  | none => simp
  | absent _ => simp
  | step hP _ ih =>
    intro X hX
    rcases List.mem_cons.mp hX with rfl | hX
    · rw [hK.baseName_eq hP]
      exact hP
    · exact ih X hX

/-- A parent name reaches every model of its line. -/
theorem reaches (hK : S.KeyedByName) (h : S.Line o c) : ∀ X ∈ c, S.Reaches o X.baseName := by
  induction h with
  | none => simp
  | absent _ => simp
  | step hP _ ih =>
    intro X hX
    rcases List.mem_cons.mp hX with rfl | hX
    · rw [hK.baseName_eq hP]
      exact .refl _
    · exact .head hP (ih X hX)

/-- On an acyclic map a line meets no name twice. -/
theorem nodup (hK : S.KeyedByName) (hA : S.Acyclic) (h : S.Line o c) :
    (c.map (·.baseName)).Nodup := by
  induction h with
  | none => simp
  | absent _ => simp
  | @step n P c hP hc ih =>
    refine List.nodup_cons.mpr ⟨?_, ih⟩
    intro hmem
    obtain ⟨X, hX, hXn⟩ := List.mem_map.mp hmem
    -- a later model under the name `n` would be reached from `n`'s own parent
    have hXn' : X.baseName = n := hXn.trans (hK.baseName_eq hP)
    exact hA.not_reaches hP (hXn' ▸ hc.reaches hK X hX)

end Line

/-- Meeting a name of the map that was not seen leaves one name fewer to meet. -/
theorem card_unseen_cons {n : String} {P : Model} {seen : List String} (hP : S.get? n = some P)
    (hn : n ∉ seen) :
    (S.keys.toFinset.filter (· ∉ n :: seen)).card + 1 =
      (S.keys.toFinset.filter (· ∉ seen)).card := by
  have hmem : n ∈ S.keys.toFinset.filter (· ∉ seen) := by
    simp [mem_keys_of_get? hP, hn]
  have herase : S.keys.toFinset.filter (· ∉ n :: seen) =
      (S.keys.toFinset.filter (· ∉ seen)).erase n := by
    ext x
    simp only [Finset.mem_filter, Finset.mem_erase, List.mem_cons, not_or]
    tauto
  rw [herase, Finset.card_erase_add_one hmem]

/-- On an acyclic map the ancestor loop returns the line of its parent name, as long as no name
it may meet was seen before and it has a step of fuel for every name of the map not yet seen. -/
theorem line_chainFrom (hA : S.Acyclic) :
    ∀ (fuel : Nat) (seen : List String) (o : Option String),
      (∀ x ∈ seen, ¬ S.Reaches o x) → (S.keys.toFinset.filter (· ∉ seen)).card < fuel →
      S.Line o (chainFrom S fuel seen o)
  | 0, _, _, _, hfuel => absurd hfuel (Nat.not_lt_zero _)
  | _ + 1, _, none, _, _ => by
    simp only [chainFrom]
    exact .none
  | fuel + 1, seen, some n, hseen, hfuel => by
    have hn : n ∉ seen := fun h => hseen n h (.refl n)
    cases hP : S.get? n with
    | none =>
      simp only [chainFrom, hn, hP, if_false]
      exact .absent hP
    | some P =>
      simp only [chainFrom, hn, hP, if_false]
      refine .step hP (line_chainFrom hA fuel (n :: seen) P.parentSchema ?_ ?_)
      · intro x hx hr
        rcases List.mem_cons.mp hx with rfl | hx
        · exact hA.not_reaches hP hr
        · exact hseen x hx (.head hP hr)
      · -- the name just met is a name of the map that was not seen, so one fewer is left
        have hcard := card_unseen_cons hP hn
        omega

/-- On an acyclic map keyed by name, the ancestors of a model of the map are the line of its
parent name. -/
theorem line_ancestors (hK : S.KeyedByName) (hA : S.Acyclic) (hM : S.get? k = some M) :
    S.Line M.parentSchema (ancestors M S) := by
  apply line_chainFrom hA
  · intro x hx hr
    rw [List.mem_singleton, hK.baseName_eq hM] at hx
    exact hA.not_reaches hM (hx ▸ hr)
  · calc (S.keys.toFinset.filter (· ∉ [M.baseName])).card
        ≤ S.keys.toFinset.card := Finset.card_filter_le _ _
      _ ≤ S.keys.length := List.toFinset_card_le _
      _ < S.size + 1 := by simp [keys, size]

/-- The ancestors of a model of an acyclic map keyed by name are its line. -/
theorem ancestors_eq_of_line (hK : S.KeyedByName) (hA : S.Acyclic) (hM : S.get? k = some M)
    (hc : S.Line M.parentSchema c) : ancestors M S = c :=
  (line_ancestors hK hA hM).unique hc

end ModelMap

end SwiftSchema
