import SwiftSchema.Model.Basic

/-! # Model maps

A model map keeps models by raw name in insertion order; putting a model under a name it
already holds replaces that model in place, so the map never holds a name twice.

* `ModelMap.insert`, `ModelMap.get?` — the map's writes and reads.
* `get?_insert_self`, `keys_insert_of_contains`, `keys_insert_of_not_contains` — a model
  put under a name is read back there, and the names keep their order.
-/

namespace SwiftSchema

/-- A **model map**: models by raw name, in insertion order. -/
structure ModelMap where
  entries : List (String × Model) := []
  deriving DecidableEq, Repr

namespace ModelMap

/-- The model under a name. -/
def get? (ms : ModelMap) (key : String) : Option Model := ms.entries.lookup key

/-- Whether a name holds a model. -/
def contains (ms : ModelMap) (key : String) : Bool := (ms.get? key).isSome

/-- The names, in order. -/
def keys (ms : ModelMap) : List String := ms.entries.map (·.1)

/-- The models, in order. -/
def models (ms : ModelMap) : List Model := ms.entries.map (·.2)

/-- The number of models. -/
def size (ms : ModelMap) : Nat := ms.entries.length

/-- Puts a model under a name: in place of the model the name holds, else at the end. -/
def insert (ms : ModelMap) (key : String) (m : Model) : ModelMap :=
  if ms.contains key then ⟨ms.entries.map fun e => if e.1 == key then (key, m) else e⟩
  else ⟨ms.entries ++ [(key, m)]⟩

/-- Changes every model, keeping the names. -/
def mapModels (ms : ModelMap) (f : Model → Model) : ModelMap :=
  ⟨ms.entries.map fun e => (e.1, f e.2)⟩

/-- Putting a model in place of the first entry of a name that an entry list holds makes the
list hold that model under the name. -/
theorem lookup_map_replace (es : List (String × Model)) (key : String) (m : Model)
    (h : (es.lookup key).isSome) :
    (es.map fun e => if e.1 == key then (key, m) else e).lookup key = some m := by
  induction es with
  | nil => simp at h
  | cons e rest ih =>
    obtain ⟨k, v⟩ := e
    by_cases he : k = key
    · subst he
      simp
    · have he' : (k == key) = false := beq_eq_false_iff_ne.mpr he
      have hk : (key == k) = false := beq_eq_false_iff_ne.mpr fun e => he e.symm
      simp only [List.lookup_cons, hk] at h
      simp only [List.map_cons, he', Bool.false_eq_true, if_false, List.lookup_cons, hk]
      exact ih h

/-- A model put under a name is the model the name holds. -/
theorem get?_insert_self (ms : ModelMap) (key : String) (m : Model) :
    (ms.insert key m).get? key = some m := by
  unfold insert
  by_cases h : ms.contains key
  · simp only [h, if_true, get?]
    exact lookup_map_replace ms.entries key m h
  · have hn : ms.entries.lookup key = none := by
      unfold contains get? at h
      cases hl : ms.entries.lookup key with
      | none => rfl
      | some _ => simp [hl] at h
    simp only [h, Bool.false_eq_true, if_false, get?]
    simp [List.lookup_append, hn]

/-- Putting a model under a name the map holds keeps the names. -/
theorem keys_insert_of_contains {ms : ModelMap} {key : String} (m : Model)
    (h : ms.contains key = true) : (ms.insert key m).keys = ms.keys := by
  simp only [insert, h, if_true, keys, List.map_map]
  apply List.map_congr_left
  intro e _
  by_cases he : e.1 = key <;> simp [he]

/-- Putting a model under a new name adds the name at the end. -/
theorem keys_insert_of_not_contains {ms : ModelMap} {key : String} (m : Model)
    (h : ms.contains key = false) : (ms.insert key m).keys = ms.keys ++ [key] := by
  simp [insert, h, keys]

/-- Changing the models keeps the names. -/
@[simp] theorem keys_mapModels (ms : ModelMap) (f : Model → Model) :
    (ms.mapModels f).keys = ms.keys := by
  simp [mapModels, keys]

/-- A name holds the changed model of the model it held. -/
@[simp] theorem get?_mapModels (ms : ModelMap) (f : Model → Model) (key : String) :
    (ms.mapModels f).get? key = (ms.get? key).map f := by
  unfold mapModels get?
  induction ms.entries with
  | nil => rfl
  | cons e rest ih =>
    obtain ⟨k, v⟩ := e
    by_cases h : key = k
    · simp [h]
    · have hk : (key == k) = false := beq_eq_false_iff_ne.mpr h
      simp only [List.map_cons, List.lookup_cons, hk]
      exact ih

end ModelMap

end SwiftSchema
