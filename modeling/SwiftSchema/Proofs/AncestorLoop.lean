import SwiftSchema.Proofs.InheritedView

/-! # The ancestor loop on any map

The ancestor loop follows parent names through the map and stops at a name the map lacks, and
before a name it has met already, the model's own name counting as met. On a map with cycles
this cuts each cycle where the walk would close it. Described without the loop: the ancestors
are the **longest fresh path** of parent links from the model's parent name, a path being fresh
when it meets every name once and never the model's own. Such a path meets distinct names of
the map, so it is no longer than the map, and the loop, which spends one step of fuel on each
model it adds, is done before its fuel runs out.

* `ModelMap.Path` — the names a walk along parent links meets, and the models they hold.
* `Path.length_le_size` — a path that meets no name twice is no longer than the map.
* `path_chainFrom`, `Path.prefix_chainFrom` — the loop follows a fresh path, and every fresh
  path its fuel covers is a prefix of what it returns.
* `ancestors_longest_fresh_path` — the ancestors are the longest fresh path, and more fuel than
  their number changes nothing.
-/

namespace SwiftSchema

namespace ModelMap

/-- A **parent path** from a parent name: the names a walk along parent links meets, and the
models they hold. The first name is the parent name, and each model names the next one as its
parent; the walk may stop anywhere. -/
inductive Path (S : ModelMap) : Option String → List String → List Model → Prop
  | nil {o : Option String} : Path S o [] []
  | cons {n : String} {P : Model} {names : List String} {c : List Model} :
      S.get? n = some P → Path S P.parentSchema names c → Path S (some n) (n :: names) (P :: c)

variable {S : ModelMap} {o : Option String} {names : List String} {c : List Model}

namespace Path

theorem length_eq (h : S.Path o names c) : names.length = c.length := by
  induction h with
  | nil => rfl
  | cons _ _ ih => simp [ih]

/-- Every name of a path holds a model of the map. -/
theorem mem_keys (h : S.Path o names c) : ∀ n ∈ names, n ∈ S.keys := by
  induction h with
  | nil => simp
  | cons hP _ ih =>
    intro n hn
    rcases List.mem_cons.mp hn with rfl | hn
    · exact mem_keys_of_get? hP
    · exact ih n hn

/-- **A path that meets no name twice is no longer than the map.** -/
theorem length_le_size (h : S.Path o names c) (hnd : names.Nodup) : c.length ≤ S.size := by
  have hsub : names.Subperm S.keys := hnd.subperm h.mem_keys
  calc c.length = names.length := h.length_eq.symm
    _ ≤ S.keys.length := hsub.length_le
    _ = S.size := by simp [keys, size]

end Path

/-- The ancestor loop follows a parent path whose names are **fresh**: each met once, and none
seen before the loop started. -/
theorem path_chainFrom : ∀ (fuel : Nat) (seen : List String) (o : Option String),
    ∃ names, S.Path o names (chainFrom S fuel seen o) ∧ names.Nodup ∧ ∀ n ∈ names, n ∉ seen
  | 0, _, _ => ⟨[], .nil, List.nodup_nil, by simp⟩
  | _ + 1, _, none => ⟨[], .nil, List.nodup_nil, by simp⟩
  | fuel + 1, seen, some n => by
    by_cases hn : n ∈ seen
    · simp only [chainFrom, hn, if_true]
      exact ⟨[], .nil, List.nodup_nil, by simp⟩
    · cases hP : S.get? n with
      | none =>
        simp only [chainFrom, hn, hP, if_false]
        exact ⟨[], .nil, List.nodup_nil, by simp⟩
      | some P =>
        simp only [chainFrom, hn, hP, if_false]
        -- the rest of the walk starts with `n` seen as well
        obtain ⟨names, hpath, hnd, hfresh⟩ := path_chainFrom fuel (n :: seen) P.parentSchema
        refine ⟨n :: names, .cons hP hpath, ?_, ?_⟩
        · exact List.nodup_cons.mpr ⟨fun h => hfresh n h List.mem_cons_self, hnd⟩
        · intro x hx
          rcases List.mem_cons.mp hx with rfl | hx
          · exact hn
          · exact fun h => hfresh x hx (List.mem_cons_of_mem n h)

/-- **The loop stops only where a fresh path must**: every path of fresh names that is shorter
than the fuel is a prefix of what the loop returns. -/
theorem Path.prefix_chainFrom (h : S.Path o names c) :
    ∀ (fuel : Nat) (seen : List String), c.length < fuel → names.Nodup →
      (∀ n ∈ names, n ∉ seen) → c <+: chainFrom S fuel seen o := by
  induction h with
  | nil => intro _ _ _ _ _; exact List.nil_prefix
  | @cons n P names c hP _ ih =>
    intro fuel seen hfuel hnd hfresh
    obtain ⟨fuel, rfl⟩ : ∃ f, fuel = f + 1 := Nat.exists_eq_succ_of_ne_zero (by omega)
    obtain ⟨hnames, hnd⟩ := List.nodup_cons.mp hnd
    have hn : n ∉ seen := hfresh n List.mem_cons_self
    simp only [chainFrom, hn, hP, if_false, List.cons_prefix_cons, true_and]
    refine ih fuel (n :: seen) (by simpa using hfuel) hnd fun x hx hmem => ?_
    rcases List.mem_cons.mp hmem with rfl | hmem
    · exact hnames hx
    · exact hfresh x (List.mem_cons_of_mem n hx) hmem

end ModelMap

open ModelMap

/-- **The ancestors are the longest fresh path.** On any map, cyclic or not, the ancestors of a
model follow a path of parent links from its parent name whose names are distinct names of the
map other than the model's own; every such path is a prefix of them; they number at most the
models of the map, and the loop with any fuel beyond their number returns them, so it is done
after that many steps and one more. -/
theorem ancestors_longest_fresh_path (S : ModelMap) (M : Model) :
    (∃ names, S.Path M.parentSchema names (ancestors M S) ∧ (M.baseName :: names).Nodup) ∧
    (∀ names c, S.Path M.parentSchema names c → (M.baseName :: names).Nodup →
      c <+: ancestors M S) ∧
    (ancestors M S).length ≤ S.size ∧
    ∀ fuel, (ancestors M S).length < fuel →
      chainFrom S fuel [M.baseName] M.parentSchema = ancestors M S := by
  -- freshness with the model's own name seen first is a list without repeats headed by it
  have fresh_iff : ∀ names : List String,
      (M.baseName :: names).Nodup ↔ names.Nodup ∧ ∀ n ∈ names, n ∉ [M.baseName] := by
    intro names
    simp only [List.nodup_cons, List.mem_singleton]
    exact ⟨fun ⟨hM, hnd⟩ => ⟨hnd, fun n hn h => hM (h ▸ hn)⟩,
      fun ⟨hnd, hfresh⟩ => ⟨fun h => hfresh _ h rfl, hnd⟩⟩
  obtain ⟨names, hpath, hnd, hfresh⟩ := @path_chainFrom S (S.size + 1) [M.baseName] M.parentSchema
  have hlen : (ancestors M S).length ≤ S.size := hpath.length_le_size hnd
  have hlongest : ∀ names c, S.Path M.parentSchema names c → (M.baseName :: names).Nodup →
      c <+: ancestors M S := by
    intro names' c hc hnd'
    obtain ⟨hnd', hfresh'⟩ := (fresh_iff names').mp hnd'
    exact hc.prefix_chainFrom (S.size + 1) [M.baseName]
      (Nat.lt_succ_of_le (hc.length_le_size hnd')) hnd' hfresh'
  refine ⟨⟨names, hpath, (fresh_iff names).mpr ⟨hnd, hfresh⟩⟩, hlongest, hlen, ?_⟩
  intro fuel hfuel
  -- the loop with more fuel returns a fresh path too; each of the two is a prefix of the other
  obtain ⟨names', hpath', hnd', hfresh'⟩ := @path_chainFrom S fuel [M.baseName] M.parentSchema
  have h₁ : ancestors M S <+: chainFrom S fuel [M.baseName] M.parentSchema :=
    hpath.prefix_chainFrom fuel [M.baseName] hfuel hnd hfresh
  have h₂ := hlongest names' _ hpath' ((fresh_iff names').mpr ⟨hnd', hfresh'⟩)
  exact (h₁.eq_of_length (Nat.le_antisymm h₁.length_le h₂.length_le)).symm

/-- In the cycle of `A` and `B`, the ancestors of `A` are `B` alone, with any fuel beyond one
step: the walk stops before it meets `A` again. -/
theorem abCycle_ancestors_stop :
    ancestors cycleAModel abCycleMap = [cycleBModel] ∧
    ∀ fuel, 1 < fuel →
      chainFrom abCycleMap fuel [cycleAModel.baseName] cycleAModel.parentSchema = [cycleBModel] := by
  have hA : ancestors cycleAModel abCycleMap = [cycleBModel] := by decide
  obtain ⟨-, -, -, hfuel⟩ := ancestors_longest_fresh_path abCycleMap cycleAModel
  exact ⟨hA, fun fuel h => (hfuel fuel (by simpa [hA] using h)).trans hA⟩

end SwiftSchema
