import Mathlib.Data.Nat.Find
import SwiftSchema.Proofs.ParentWalk
import SwiftSchema.Pipeline.Lint

/-! # What validation accepts

The cycle lint follows a model's parent names with the path of names met so far, and reports
the model when the walk comes back to its name. It reports exactly the models whose walk reaches
their own name: a walk that comes back does so before it repeats any other name, and so before
it has taken more steps than the map has names. The duplicate lint reports exactly the models
that declare a raw property name twice.

* `ModelMap.parentOf?`, `ModelMap.walk` — the parent name of a name, and the name met after `i`
  links.
* `reflTransGen_iff_walk` — a name reaches another exactly when some walk meets it.
* `cyclePath_isSome_iff` — the lint's walk comes back exactly when the name is reached.
* `parentCycle_check_eq_nil_iff`, `duplicateProperty_check_eq_nil_iff` — a lint is silent exactly
  on the maps that have its property; with the first, `Acyclic` is decidable.
-/

namespace SwiftSchema

namespace ModelMap

/-- The parent name of the model under a name, if the map holds a model there. -/
def parentOf? (S : ModelMap) (a : String) : Option String := (S.get? a).bind (·.parentSchema)

/-- The name met after `i` parent links from `a`, if the walk gets that far. -/
def walk (S : ModelMap) (a : String) : Nat → Option String
  | 0 => some a
  | i + 1 => (S.parentOf? a).bind fun b => S.walk b i

variable {S : ModelMap} {a b x : String}

theorem parentLink_iff : S.ParentLink a b ↔ S.parentOf? a = some b := by
  simp [ParentLink, parentOf?, Option.bind_eq_some_iff]

@[simp] theorem walk_zero : S.walk a 0 = some a := rfl

theorem walk_succ (i : Nat) : S.walk a (i + 1) = (S.parentOf? a).bind fun b => S.walk b i := rfl

theorem walk_succ_of_parentOf? (h : S.parentOf? a = some b) (i : Nat) :
    S.walk a (i + 1) = S.walk b i := by
  rw [walk_succ, h, Option.bind_some]

/-- A walk of `i + j` links is a walk of `i` links, then one of `j` from where it stopped. -/
theorem walk_add (i j : Nat) : S.walk a (i + j) = (S.walk a i).bind fun b => S.walk b j := by
  induction i generalizing a with
  | zero => simp
  | succ i ih =>
    rw [Nat.succ_add, walk_succ, walk_succ, Option.bind_assoc]
    simp only [ih]

/-- A walk that has stopped stays stopped. -/
theorem walk_eq_none_of_le {i j : Nat} (hij : i ≤ j) (h : S.walk a i = none) : S.walk a j = none := by
  obtain ⟨t, rfl⟩ := Nat.exists_eq_add_of_le hij
  rw [walk_add, h, Option.bind_none]

/-- A name reaches another exactly when the walk from it meets the other after some links. -/
theorem reflTransGen_iff_walk : Relation.ReflTransGen S.ParentLink a x ↔ ∃ i, S.walk a i = some x := by
  constructor
  · intro h
    induction h using Relation.ReflTransGen.head_induction_on with
    | refl => exact ⟨0, rfl⟩
    | head hab _ ih =>
      obtain ⟨i, hi⟩ := ih
      exact ⟨i + 1, by rw [walk_succ_of_parentOf? (parentLink_iff.mp hab), hi]⟩
  · rintro ⟨i, hi⟩
    induction i generalizing a with
    | zero => cases hi; exact .refl
    | succ i ih =>
      rw [walk_succ, Option.bind_eq_some_iff] at hi
      obtain ⟨b, hb, hbi⟩ := hi
      exact .head (parentLink_iff.mpr hb) (ih hbi)

/-- A name that a walk meets before its last step holds a model of the map. -/
theorem mem_keys_of_walk {i : Nat} (h : S.walk a i = some b) (hnext : S.walk a (i + 1) ≠ none) :
    b ∈ S.keys := by
  rw [walk_add, h, Option.bind_some, walk_succ] at hnext
  cases hm : S.get? b with
  | none => simp [parentOf?, hm] at hnext
  | some m => exact mem_keys_of_get? hm

/-- The walk that the cycle lint makes reaches its start whenever it reports a path. -/
theorem reaches_of_cyclePath {start : String} :
    ∀ (fuel : Nat) (path : List String) (o : Option String),
      (cyclePath S start fuel path o).isSome → S.Reaches o start
  | 0, _, _, h => by simp [cyclePath] at h
  | _ + 1, _, none, h => by simp [cyclePath] at h
  | fuel + 1, path, some p, h => by
    by_cases hp : p = start
    · exact hp ▸ .refl p
    · by_cases hmem : p ∈ path
      · simp [cyclePath, hp, hmem] at h
      · simp only [cyclePath, hp, hmem, if_false] at h
        obtain ⟨q, hq, hqs⟩ := reaches_of_cyclePath fuel (path ++ [p]) _ h
        exact ⟨p, rfl, .head (parentLink_iff.mpr hq) hqs⟩

/-- The cycle lint's walk comes back to its start when the walk from `p` meets the start after
`j` links, meets no name of the path and no name twice before that, and has fuel for it. -/
theorem cyclePath_isSome_of_walk {start : String} :
    ∀ (j fuel : Nat) (path : List String) (p : String),
      S.walk p j = some start → start ∈ path →
      (∀ i < j, ∀ y ∈ path, S.walk p i ≠ some y) →
      (∀ i i', i < i' → i' < j → S.walk p i ≠ S.walk p i') →
      j < fuel → (cyclePath S start fuel path (some p)).isSome
  | 0, fuel + 1, _, p, hwalk, _, _, _, _ => by
    obtain rfl : p = start := Option.some.inj hwalk
    simp [cyclePath]
  | j + 1, fuel + 1, path, p, hwalk, hstart, hfresh, hdistinct, hfuel => by
    rw [walk_succ, Option.bind_eq_some_iff] at hwalk
    obtain ⟨q, hq, hqj⟩ := hwalk
    have hp : p ∉ path := fun hp => hfresh 0 (Nat.succ_pos j) p hp rfl
    have hps : p ≠ start := fun h => hp (h ▸ hstart)
    have hshift : ∀ i, S.walk q i = S.walk p (i + 1) := fun i => (walk_succ_of_parentOf? hq i).symm
    simp only [cyclePath, hps, hp, if_false]
    change (cyclePath S start fuel (path ++ [p]) (S.parentOf? p)).isSome
    rw [hq]
    apply cyclePath_isSome_of_walk j fuel (path ++ [p]) q hqj (List.mem_append_left _ hstart)
    · intro i hi y hy
      rw [hshift]
      rcases List.mem_append.mp hy with hy | hy
      · exact hfresh (i + 1) (by omega) y hy
      · rw [List.mem_singleton.mp hy]
        exact fun h => hdistinct 0 (i + 1) (by omega) (by omega) h.symm
    · intro i i' hii' hi'
      rw [hshift, hshift]
      exact hdistinct (i + 1) (i' + 1) (by omega) (by omega)
    · omega
  | _, 0, _, _, _, _, _, _, hfuel => absurd hfuel (Nat.not_lt_zero _)

/-- Before a walk first meets a name it meets no name twice: from a name met twice it would go
on as it did the first time, and meet that name earlier. -/
theorem walk_ne_of_first {p start : String} {j : Nat} (hj : S.walk p j = some start)
    (hmin : ∀ i < j, S.walk p i ≠ some start) :
    ∀ i i', i < i' → i' < j → S.walk p i ≠ S.walk p i' := by
  intro i i' hii' hi' heq
  have hearly : S.walk p (i + (j - i')) = some start := by
    rw [walk_add, heq, ← walk_add, Nat.add_sub_cancel' hi'.le, hj]
  exact hmin (i + (j - i')) (by omega) hearly

/-- A walk that first meets a name after `j` links meets a name of the map at each of those
links, never the same one twice, so `j` is at most the number of models. -/
theorem walk_first_le_size {p start : String} {j : Nat} (hj : S.walk p j = some start)
    (hmin : ∀ i < j, S.walk p i ≠ some start) : j ≤ S.size := by
  -- every walk before the `j`-th link continues, so it stands on a name of the map
  have hsome : ∀ i < j, ∃ y, S.walk p i = some y ∧ y ∈ S.keys := by
    intro i hi
    cases hy : S.walk p i with
    | none => exact absurd (walk_eq_none_of_le hi.le hy) (by simp [hj])
    | some y =>
      refine ⟨y, rfl, mem_keys_of_walk hy fun h => ?_⟩
      exact absurd (walk_eq_none_of_le (Nat.succ_le_of_lt hi) h) (by simp [hj])
  have hinj := walk_ne_of_first hj hmin
  let names := (List.range j).map fun i => (S.walk p i).getD ""
  have hnodup : names.Nodup := by
    refine List.nodup_range.map_on fun i hi i' hi' heq => ?_
    obtain ⟨y, hy, -⟩ := hsome i (List.mem_range.mp hi)
    obtain ⟨y', hy', -⟩ := hsome i' (List.mem_range.mp hi')
    simp only [hy, hy', Option.getD_some] at heq
    by_contra hne
    rcases Nat.lt_or_gt_of_ne hne with h | h
    · exact hinj i i' h (List.mem_range.mp hi') (by rw [hy, hy', heq])
    · exact hinj i' i h (List.mem_range.mp hi) (by rw [hy, hy', heq])
  have hsub : names ⊆ S.keys := by
    intro y hy
    obtain ⟨i, hi, rfl⟩ := List.mem_map.mp hy
    obtain ⟨z, hz, hzk⟩ := hsome i (List.mem_range.mp hi)
    simpa [hz] using hzk
  simpa [names, size, keys] using hnodup.length_le_of_subset hsub

/-- The cycle lint's walk from a model's parent name comes back exactly when that name reaches
the model's own name. -/
theorem cyclePath_isSome_iff (start : String) (o : Option String) :
    (cyclePath S start (S.size + 2) [start] o).isSome ↔ S.Reaches o start := by
  refine ⟨reaches_of_cyclePath _ _ _, ?_⟩
  rintro ⟨p, rfl, hr⟩
  have hex : ∃ i, S.walk p i = some start := reflTransGen_iff_walk.mp hr
  -- the first time the walk meets the start
  classical
  let j := Nat.find hex
  have hj : S.walk p j = some start := Nat.find_spec hex
  have hmin : ∀ i < j, S.walk p i ≠ some start := fun i hi => Nat.find_min hex hi
  have hle := walk_first_le_size hj hmin
  refine cyclePath_isSome_of_walk j _ [start] p hj List.mem_cons_self ?_
    (walk_ne_of_first hj hmin) (by omega)
  intro i hi y hy
  rw [List.mem_singleton.mp hy]
  exact hmin i hi

end ModelMap

open ModelMap

/-- The cycle lint is silent exactly on acyclic maps. -/
theorem parentCycle_check_eq_nil_iff (S : ModelMap) : parentCycle.check S = [] ↔ S.Acyclic := by
  simp only [parentCycle, List.filterMap_eq_nil_iff, Option.map_eq_none_iff, Acyclic]
  constructor
  · intro h e he hr
    have := h e he
    rw [← Option.not_isSome_iff_eq_none, cyclePath_isSome_iff] at this
    exact this hr
  · intro h e he
    rw [← Option.not_isSome_iff_eq_none, cyclePath_isSome_iff]
    exact h e he

instance (S : ModelMap) : Decidable S.Acyclic :=
  decidable_of_iff _ (parentCycle_check_eq_nil_iff S)

/-- The names a list repeats are none exactly when it repeats none and meets none of the names
seen before it. -/
theorem repeats_eq_nil_iff : ∀ (seen names : List String),
    repeats seen names = [] ↔ names.Nodup ∧ ∀ n ∈ names, n ∉ seen
  | _, [] => by simp [repeats]
  | seen, n :: rest => by
    by_cases h : n ∈ seen
    · simp [repeats, h]
    · simp only [repeats, h, if_false]
      rw [repeats_eq_nil_iff (n :: seen) rest]
      simp only [List.nodup_cons, List.mem_cons, forall_eq_or_imp, not_or]
      constructor
      · rintro ⟨hnd, hall⟩
        exact ⟨⟨fun hn => (hall n hn).1 rfl, hnd⟩, h, fun y hy => (hall y hy).2⟩
      · rintro ⟨⟨hn, hnd⟩, -, hall⟩
        exact ⟨hnd, fun y hy => ⟨fun e => hn (e ▸ hy), hall y hy⟩⟩

/-- The duplicate lint is silent exactly when no model declares a raw property name twice. -/
theorem duplicateProperty_check_eq_nil_iff (S : ModelMap) :
    duplicateProperty.check S = [] ↔ S.OwnKeysDistinct := by
  simp only [duplicateProperty, List.flatMap_eq_nil_iff, List.map_eq_nil_iff, OwnKeysDistinct]
  refine forall₂_congr fun e _ => ?_
  rw [repeats_eq_nil_iff]
  simp

end SwiftSchema
