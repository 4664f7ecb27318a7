import SwiftSchema.Proofs.CheckedManifest
import SwiftSchema.Proofs.ParentWalk
import SwiftSchema.Schema.Fold

/-! # What reading a schema document guarantees

Reading a document folds each model declaration into a model named by its key and puts it into
the map under that key, so every model is held under its own raw name. Nothing read from text
carries a template annotation: the flags are set by normalizing alone.

* `Model.AsRead` — a model named by its key, with no annotation on it or its properties.
* `ModelMap.Unannotated` — no model of a map and no property it declares carries an annotation.
* `SchemaDocument.keyedByName_of_ofText`, `SchemaDocument.unannotated_of_ofText` — every
  document read from a text has both shapes.
-/

namespace SwiftSchema

open SwiftSchema.Schema

/-- No model of the map and no property a model declares carries an annotation. -/
def ModelMap.Unannotated (S : ModelMap) : Prop :=
  ∀ e ∈ S.entries, e.2.extensions = {} ∧ ∀ p ∈ e.2.vars, p.extensions = {}

/-- A model **as read** under a key: named by the key, with no annotation on it or on a property
it declares. -/
def Model.AsRead (key : String) (m : Model) : Prop :=
  m.baseName = key ∧ m.extensions = {} ∧ ∀ p ∈ m.vars, p.extensions = {}

/-! ## Folds that may fail -/

section Except

variable {ε α β : Type}

/-- Every value a list mapped through a step that may fail yields is the step's value at some
element of the list. -/
theorem exists_of_mapM_eq_ok {f : α → Except ε β} :
    ∀ {l : List α} {l' : List β}, l.mapM f = .ok l' → ∀ b ∈ l', ∃ a ∈ l, f a = .ok b
  | [], l', h, b, hb => by
    cases h
    cases hb
  | a :: l, l', h, b, hb => by
    rw [List.mapM_cons] at h
    obtain ⟨b₀, hb₀, h⟩ := bind_eq_ok h
    obtain ⟨bs, hbs, h⟩ := bind_eq_ok h
    cases h
    rcases List.mem_cons.mp hb with rfl | hb
    · exact ⟨a, List.mem_cons_self, hb₀⟩
    · obtain ⟨a', ha', hfa'⟩ := exists_of_mapM_eq_ok hbs b hb
      exact ⟨a', List.mem_cons_of_mem a ha', hfa'⟩

/-- An invariant that every step of a fold keeps holds of the fold's result, when it has one. -/
theorem foldlM_invariant {f : β → α → Except ε β} (inv : β → Prop)
    (hf : ∀ b a c, inv b → f b a = .ok c → inv c) :
    ∀ (l : List α) (b c : β), inv b → l.foldlM f b = .ok c → inv c
  | [], b, c, hb, h => by
    cases h
    exact hb
  | a :: l, b, c, hb, h => by
    rw [List.foldlM_cons] at h
    obtain ⟨b', hb', h⟩ := bind_eq_ok h
    exact foldlM_invariant inv hf l b' c (hf b a b' hb hb') h

end Except

/-! ## Models as read -/

/-- Every entry of a map after putting a model under a name was there before, or is the new
one. -/
theorem ModelMap.mem_insert {S : ModelMap} {k : String} {m : Model} {e : String × Model}
    (h : e ∈ (S.insert k m).entries) : e ∈ S.entries ∨ e = (k, m) := by
  unfold ModelMap.insert at h
  split at h
  · obtain ⟨e', he', rfl⟩ := List.mem_map.mp h
    by_cases hk : e'.1 = k
    · exact .inr (by simp [hk])
    · exact .inl (by simpa [hk] using he')
  · exact (List.mem_append.mp h).imp id List.mem_singleton.mp

/-- Putting a model as read under its key keeps every entry of a map as read under its key. -/
theorem ModelMap.asRead_insert {S : ModelMap} {k : String} {m : Model}
    (hS : ∀ e ∈ S.entries, e.2.AsRead e.1) (hm : m.AsRead k) :
    ∀ e ∈ (S.insert k m).entries, e.2.AsRead e.1 := by
  intro e he
  rcases ModelMap.mem_insert he with he | rfl
  · exact hS e he
  · exact hm

/-- A model folded from its declaration is as read under its key. -/
theorem Schema.asRead_of_foldModel {ctx : Source} {name : String} {d : ModelDecl} {m : Model}
    (h : foldModel ctx name d = .ok m) : m.AsRead name := by
  unfold foldModel at h
  simp only at h
  split at h
  · cases h
  · -- with or without a value type, the properties are folded one by one into new properties
    split at h
    all_goals
      obtain ⟨extra, -, h⟩ := bind_eq_ok h
      obtain ⟨vars, hvars, h⟩ := bind_eq_ok h
      cases h
      refine ⟨rfl, rfl, fun p hp => ?_⟩
      obtain ⟨x, -, hx⟩ := exists_of_mapM_eq_ok hvars p hp
      obtain ⟨t, -, hx⟩ := bind_eq_ok hx
      cases hx
      rfl

/-- Every model of a document read from a text is as read under its key. -/
theorem SchemaDocument.asRead_of_ofText {text filename : String} {doc : SchemaDocument}
    (h : SchemaDocument.ofText text filename = .ok doc) :
    ∀ e ∈ doc.models.entries, e.2.AsRead e.1 := by
  unfold SchemaDocument.ofText at h
  simp only at h
  split at h
  case h_2 => cases h
  obtain ⟨decl, -, h⟩ := bind_eq_ok h
  obtain ⟨models, hmodels, h⟩ := bind_eq_ok h
  obtain ⟨ops, -, h⟩ := bind_eq_ok h
  cases h
  -- each declaration puts a model as read under its own key
  refine foldlM_invariant (fun S : ModelMap => ∀ e ∈ S.entries, e.2.AsRead e.1) ?_ _ {} models
    (fun e he => absurd he List.not_mem_nil) hmodels
  rintro S ⟨name, d⟩ S' hS hstep
  obtain ⟨m, hm, hstep⟩ := bind_eq_ok hstep
  cases hstep
  exact ModelMap.asRead_insert hS (Schema.asRead_of_foldModel hm)

/-- Every model of a document read from a text is held under its own raw name. -/
theorem SchemaDocument.keyedByName_of_ofText {text filename : String} {doc : SchemaDocument}
    (h : SchemaDocument.ofText text filename = .ok doc) : doc.models.KeyedByName :=
  fun e he => (SchemaDocument.asRead_of_ofText h e he).1

/-- Nothing of a document read from a text carries an annotation. -/
theorem SchemaDocument.unannotated_of_ofText {text filename : String} {doc : SchemaDocument}
    (h : SchemaDocument.ofText text filename = .ok doc) : doc.models.Unannotated :=
  fun e he => (SchemaDocument.asRead_of_ofText h e he).2

end SwiftSchema
