import SwiftSchema.Proofs.Validation

/-! # What the cycle lint reports

The cycle lint walks from each model's parent name, one parent link at a time, and reports the
model when the walk comes back to its name. Described without the fuel and the path that the
lint carries: it reports, in the order of the map and once each, exactly the models whose parent
walk leads back to their own name, each with an error at the model's place whose path is the
model's name, the names of its **walk back** in the order met, and the model's name again. A
model that only reaches a cycle it is not on, or a missing parent, is not reported.

* `ModelMap.WalkBack` — the names a walk meets before it comes back to a name; it exists exactly
  when the name is reached (`exists_walkBack_iff`) and repeats no name (`WalkBack.nodup`).
* `cyclePath_eq_some_iff` — the lint's walk returns the walk back, between two copies of the name.
* `parentCycle_reports_cycles` — the lint's reports, one for one, against the models on a cycle.
-/

namespace SwiftSchema

namespace ModelMap

/-- The **walk back** to `start` from a parent name: the names the parent walk meets before it
comes back to `start`, in the order met. It has none when the walk stops first. -/
inductive WalkBack (S : ModelMap) (start : String) : Option String → List String → Prop
  /-- The walk is back at `start`. -/
  | back : WalkBack S start (some start) []
  /-- Another name, then the walk back from its model's parent name. -/
  | step {n : String} {w : List String} :
      n ≠ start → WalkBack S start (S.parentOf? n) w → WalkBack S start (some n) (n :: w)

instance (S : ModelMap) (o : Option String) (x : String) : Decidable (S.Reaches o x) :=
  decidable_of_iff _ (cyclePath_isSome_iff x o)

variable {S : ModelMap} {start : String} {o : Option String} {w : List String}

namespace WalkBack

/-- A walk back reaches its name. -/
theorem reaches (h : S.WalkBack start o w) : S.Reaches o start := by
  induction h with
  | back => exact .refl start
  | @step n w _ _ ih =>
    obtain ⟨p, hp, hps⟩ := ih
    exact ⟨n, rfl, .head (parentLink_iff.mpr hp) hps⟩

/-- A parent name has at most one walk back: the parent links are a function. -/
theorem unique {w₁ w₂ : List String} (h₁ : S.WalkBack start o w₁) (h₂ : S.WalkBack start o w₂) :
    w₁ = w₂ := by
  induction h₁ generalizing w₂ with
  | back =>
    cases h₂ with
    | back => rfl
    | step hne _ => exact absurd rfl hne
  | step hne _ ih =>
    cases h₂ with
    | back => exact absurd rfl hne
    | step _ h₂ => rw [ih h₂]

/-- The walk back from a name it meets is the rest of it. -/
theorem of_append {pre post : List String} {x : String}
    (h : S.WalkBack start o (pre ++ x :: post)) : S.WalkBack start (some x) (x :: post) := by
  induction pre generalizing o with
  | nil =>
    cases h with
    | step hne hw => exact .step hne hw
  | cons y pre ih =>
    cases h with
    | step _ h => exact ih h

/-- A walk back meets no name twice: from a name met twice it would go on as it did the first
time, and be longer than itself. -/
theorem nodup (h : S.WalkBack start o w) : w.Nodup := by
  induction h with
  | back => exact List.nodup_nil
  | @step n w _ hw ih =>
    refine List.nodup_cons.mpr ⟨fun hn => ?_, ih⟩
    obtain ⟨pre, post, rfl⟩ := List.append_of_mem hn
    have hsame := (WalkBack.step ‹n ≠ start› hw).unique hw.of_append
    have hlen := congrArg List.length hsame
    simp at hlen
    omega

/-- The walk back never meets its own name. -/
theorem not_mem (h : S.WalkBack start o w) : start ∉ w := by
  induction h with
  | back => exact List.not_mem_nil
  | step hne _ ih =>
    intro hmem
    rcases List.mem_cons.mp hmem with h | h
    · exact hne h.symm
    · exact ih h

end WalkBack

/-- A parent name has a walk back to a name exactly when it reaches that name. -/
theorem exists_walkBack_iff : (∃ w, S.WalkBack start o w) ↔ S.Reaches o start := by
  refine ⟨fun ⟨_, h⟩ => h.reaches, ?_⟩
  rintro ⟨p, rfl, hp⟩
  induction hp using Relation.ReflTransGen.head_induction_on with
  | refl => exact ⟨[], .back⟩
  | @head a b hab _ ih =>
    obtain ⟨w, hw⟩ := ih
    -- the walk from `a` comes back at once, or goes on as the walk from its parent
    by_cases ha : a = start
    · exact ⟨[], ha ▸ .back⟩
    · exact ⟨a :: w, .step ha (parentLink_iff.mp hab ▸ hw)⟩

/-- A path the lint's walk returns is the path so far, the walk back, and the name again. -/
theorem walkBack_of_cyclePath :
    ∀ {fuel : Nat} {path res : List String} {o : Option String},
      cyclePath S start fuel path o = some res → ∃ w, S.WalkBack start o w ∧ res = path ++ w ++ [start]
  | 0, _, _, _, h => by simp [cyclePath] at h
  | _ + 1, _, _, none, h => by simp [cyclePath] at h
  | fuel + 1, path, res, some p, h => by
    by_cases hp : p = start
    · subst hp
      simp only [cyclePath, if_pos, Option.some.injEq] at h
      exact ⟨[], .back, by simp [h]⟩
    · by_cases hmem : p ∈ path
      · simp [cyclePath, hp, hmem] at h
      · simp only [cyclePath, hp, hmem, if_false] at h
        obtain ⟨w, hw, rfl⟩ := walkBack_of_cyclePath h
        exact ⟨p :: w, .step hp hw, by simp⟩

/-- The **lint's walk** from a parent name comes back exactly along the walk back: it returns
the name, the walk back, and the name again. -/
theorem cyclePath_eq_some_iff (start : String) (o : Option String) (res : List String) :
    cyclePath S start (S.size + 2) [start] o = some res ↔
      ∃ w, S.WalkBack start o w ∧ res = start :: w ++ [start] := by
  constructor
  · intro h
    obtain ⟨w, hw, rfl⟩ := walkBack_of_cyclePath h
    exact ⟨w, hw, rfl⟩
  · rintro ⟨w, hw, rfl⟩
    -- the walk comes back, and what it returns is the unique walk back
    obtain ⟨res', hres'⟩ := Option.isSome_iff_exists.mp
      ((cyclePath_isSome_iff start o).mpr hw.reaches)
    obtain ⟨w', hw', rfl⟩ := walkBack_of_cyclePath hres'
    rw [hres', hw'.unique hw]
    rfl

end ModelMap

open ModelMap

/-- Filtering a list and keeping the defined values of a partial function match one for one,
when the function is defined exactly where the filter keeps and its values are related. -/
theorem forall₂_filter_filterMap {α β : Type} {R : α → β → Prop} {P : α → Bool}
    {f : α → Option β} :
    ∀ {l : List α}, (∀ a ∈ l, (P a = true → ∃ b, f a = some b ∧ R a b) ∧ (P a = false → f a = none)) →
      List.Forall₂ R (l.filter P) (l.filterMap f)
  | [], _ => .nil
  | a :: l, h => by
    have hl := forall₂_filter_filterMap fun x hx => h x (List.mem_cons_of_mem a hx)
    rw [List.filter_cons, List.filterMap_cons]
    cases hP : P a with
    | true =>
      obtain ⟨b, hb, hab⟩ := (h a List.mem_cons_self).1 hP
      rw [if_pos rfl, hb]
      exact .cons hab hl
    | false =>
      rw [(h a List.mem_cons_self).2 hP]
      exact hl

/-- **The cycle lint reports exactly the models on a cycle.** Its reports match, one for one and
in the order of the map, the models whose parent walk leads back to their own name. Each is an
error of the validate phase at the model's place, and its path is the model's name, the names of
its walk back in the order met, each once and none the model's own, and the model's name again. -/
theorem parentCycle_reports_cycles (S : ModelMap) :
    List.Forall₂
      (fun (e : String × Model) (d : Diagnostic) =>
        ∃ w, S.WalkBack e.1 e.2.parentSchema w ∧ w.Nodup ∧ e.1 ∉ w ∧
          d = { severity := .error, phase := "validate",
                message := "model '" ++ e.1 ++ "' inherits from itself (" ++
                  " -> ".intercalate (e.1 :: w ++ [e.1]) ++ ")",
                location := some ("models." ++ e.1) })
      (S.entries.filter fun e => decide (S.Reaches e.2.parentSchema e.1))
      (parentCycle.check S) := by
  apply forall₂_filter_filterMap
  rintro ⟨N, m⟩ _
  constructor
  · intro hr
    obtain ⟨res, hres⟩ := Option.isSome_iff_exists.mp
      ((cyclePath_isSome_iff N m.parentSchema).mpr (of_decide_eq_true hr))
    obtain ⟨w, hw, rfl⟩ := (cyclePath_eq_some_iff N m.parentSchema res).mp hres
    refine ⟨_, ?_, w, hw, hw.nodup, hw.not_mem, rfl⟩
    simp only [hres, Option.map_some]
    rfl
  · intro hr
    have hnone : cyclePath S N (S.size + 2) [N] m.parentSchema = none := by
      rw [← Option.not_isSome_iff_eq_none, cyclePath_isSome_iff]
      exact of_decide_eq_false hr
    simp only [hnone, Option.map_none]

end SwiftSchema
