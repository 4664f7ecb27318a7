import Mathlib.Data.List.Nodup
import SwiftSchema.Model.Inheritance

/-! # Inherited property lists

The list operations behind reconciling, each stated on its own. Marking changes nothing but the
follow-on flags. On an own list that repeats no raw name, removing inherited properties is
filtering out the raw names that the chain declares. Flattening lists each raw name of the own
list and of the chain once, and every entry is the copy of the topmost model that declares it.

* `Property.unmark` — a property apart from its place in a list.
* `declaredNames` — the raw names a chain of models declares.
* `owner?`, `ownerDecl?` — the topmost model of a line that declares a raw name, and its
  declaration; `ownerCopy_eq` reads the copy that flattening takes as that declaration.
* `withoutInherited_eq` — removal as a filter.
* `mem_names_flatten`, `nodup_names_flatten`, `mem_flatten` — what flattening lists.
-/

namespace SwiftSchema

/-- A property apart from its place in a list: its follow-on flag cleared. -/
def Property.unmark (p : Property) : Property := { p with hasMore := false }

@[simp] theorem Property.baseName_unmark (p : Property) : p.unmark.baseName = p.baseName := rfl

/-- Marking changes nothing but the follow-on flags. -/
theorem map_unmark_markHasMore : ∀ ps : List Property,
    (markHasMore ps).map Property.unmark = ps.map Property.unmark
  | [] => rfl
  | [_] => rfl
  | p :: q :: rest => by
    simp only [markHasMore, List.map_cons, map_unmark_markHasMore (q :: rest)]
    rfl

/-- A marked property is one of the list, apart from its flag. -/
theorem exists_of_mem_markHasMore {ps : List Property} {q : Property} (h : q ∈ markHasMore ps) :
    ∃ p ∈ ps, q.unmark = p.unmark := by
  have hq : q.unmark ∈ ps.map Property.unmark := by
    rw [← map_unmark_markHasMore]
    exact List.mem_map_of_mem h
  obtain ⟨p, hp, hpq⟩ := List.mem_map.mp hq
  exact ⟨p, hp, hpq.symm⟩

/-- The raw names that the models of a chain declare, nearest model first. -/
def declaredNames (chain : List Model) : List String :=
  (chain.flatMap (·.vars)).map (·.baseName)

theorem mem_declaredNames {chain : List Model} {k : String} :
    k ∈ declaredNames chain ↔ ∃ a ∈ chain, k ∈ a.vars.map (·.baseName) := by
  simp only [declaredNames, List.mem_map, List.mem_flatMap]
  constructor
  · rintro ⟨p, ⟨a, ha, hp⟩, rfl⟩
    exact ⟨a, ha, p, hp, rfl⟩
  · rintro ⟨a, ha, p, hp, rfl⟩
    exact ⟨p, ⟨a, ha, hp⟩, rfl⟩

@[simp] theorem declaredNames_nil : declaredNames [] = [] := rfl

theorem declaredNames_cons (a : Model) (chain : List Model) :
    declaredNames (a :: chain) = a.vars.map (·.baseName) ++ declaredNames chain := by
  simp [declaredNames]

namespace Model

theorem declares_iff {m : Model} {k : String} :
    m.declares k = true ↔ k ∈ m.vars.map (·.baseName) := by
  unfold declares var?
  rw [List.find?_isSome]
  simp only [List.mem_map, beq_iff_eq]

/-- On a list that repeats no raw name, a property is the declaration of its name. -/
theorem var?_eq_of_mem {m : Model} {p : Property} (hnd : (m.vars.map (·.baseName)).Nodup)
    (hp : p ∈ m.vars) : m.var? p.baseName = some p := by
  have hsome : (m.var? p.baseName).isSome := declares_iff.mpr (List.mem_map_of_mem hp)
  obtain ⟨q, hq⟩ := Option.isSome_iff_exists.mp hsome
  have hqmem : q ∈ m.vars := List.mem_of_find?_eq_some hq
  have hqname : q.baseName = p.baseName := by simpa using List.find?_some hq
  rw [hq, List.inj_on_of_nodup_map hnd hqmem hp hqname]

end Model

/-- The **owner** of a raw property name along a line of models: the topmost model, farthest
from the start of the line, that declares it. -/
def owner? (line : List Model) (k : String) : Option Model := line.reverse.find? (·.declares k)

/-- The owner's own declaration of a raw property name. -/
def ownerDecl? (line : List Model) (k : String) : Option Property := (owner? line k).bind (·.var? k)

theorem owner?_cons (a : Model) (line : List Model) (k : String) :
    owner? (a :: line) k = (owner? line k).or (if a.declares k then some a else none) := by
  simp only [owner?, List.reverse_cons, List.find?_append, List.find?_cons, List.find?_nil]
  cases a.declares k <;> rfl

theorem declares_of_owner? {line : List Model} {k : String} {X : Model} (h : owner? line k = some X) :
    X.declares k = true := by
  unfold owner? at h
  simpa using List.find?_some h

theorem mem_of_owner? {line : List Model} {k : String} {X : Model} (h : owner? line k = some X) :
    X ∈ line := by
  unfold owner? at h
  exact List.mem_reverse.mp (List.mem_of_find?_eq_some h)

/-- A line has an owner of a raw name exactly when one of its models declares the name. -/
theorem owner?_isSome_iff {line : List Model} {k : String} :
    (owner? line k).isSome ↔ ∃ a ∈ line, a.declares k = true := by
  simp [owner?, List.find?_isSome]

/-- The declaration of a raw name along a line with one more model at its start: the owner's
above it, else the new model's own. -/
theorem ownerDecl?_cons (a : Model) (line : List Model) (k : String) :
    ownerDecl? (a :: line) k = (ownerDecl? line k).or (a.var? k) := by
  unfold ownerDecl?
  rw [owner?_cons]
  cases h : owner? line k with
  | none =>
    by_cases ha : a.declares k = true
    · simp [ha]
    · have hnone : a.var? k = none := by simpa [Model.declares] using ha
      simp [ha, hnone]
  | some X =>
    obtain ⟨p, hp⟩ := Option.isSome_iff_exists.mp (show (X.var? k).isSome from declares_of_owner? h)
    simp [hp]

/-- Along a line whose models declare a name, the owner's declaration is there. -/
theorem ownerDecl?_isSome_iff {line : List Model} {k : String} :
    (ownerDecl? line k).isSome ↔ ∃ a ∈ line, a.declares k = true := by
  rw [← owner?_isSome_iff, ownerDecl?]
  cases h : owner? line k with
  | none => simp
  | some X => simpa [Model.declares] using declares_of_owner? h

/-- The owner's declaration of a raw name carries that name. -/
theorem baseName_of_ownerDecl? {line : List Model} {k : String} {q : Property}
    (h : ownerDecl? line k = some q) : q.baseName = k := by
  obtain ⟨X, -, hX⟩ := Option.bind_eq_some_iff.mp h
  simpa using List.find?_some hX

/-- A raw name that a line declares has its owner's declaration along the line. -/
theorem isSome_ownerDecl?_of_mem {line : List Model} {k : String} (h : k ∈ declaredNames line) :
    (ownerDecl? line k).isSome := by
  obtain ⟨a, ha, hk⟩ := mem_declaredNames.mp h
  exact ownerDecl?_isSome_iff.mpr ⟨a, ha, Model.declares_iff.mpr hk⟩

/-- A chain declares a raw name nowhere exactly when none of its models declares it. -/
theorem not_mem_declaredNames_iff {chain : List Model} {k : String} :
    k ∉ declaredNames chain ↔ ∀ a ∈ chain, a.declares k = false := by
  simp [mem_declaredNames, ← Model.declares_iff]

/-- The first result of a partial function over a list is its value at the first element where
it has one. -/
theorem findSome?_eq_find?_bind {α β : Type} (f : α → Option β) :
    ∀ l : List α, l.findSome? f = (l.find? fun a => (f a).isSome).bind f
  | [] => rfl
  | a :: l => by
    cases h : f a with
    | none => simp [h, findSome?_eq_find?_bind f l]
    | some b => simp [h]

/-- The copy that flattening takes of a property is the owner's declaration of its raw name,
and the property itself when the chain declares the name nowhere. -/
theorem ownerCopy_eq (chain : List Model) (p : Property) :
    ownerCopy chain p = (ownerDecl? chain p.baseName).getD p := by
  unfold ownerCopy ownerDecl? owner?
  rw [findSome?_eq_find?_bind]
  rfl

/-- Along an empty chain a property is its own copy. -/
@[simp] theorem ownerCopy_nil (p : Property) : ownerCopy [] p = p := rfl

@[simp] theorem baseName_ownerCopy (chain : List Model) (p : Property) :
    (ownerCopy chain p).baseName = p.baseName := by
  rw [ownerCopy_eq]
  cases h : ownerDecl? chain p.baseName with
  | none => rfl
  | some q => exact baseName_of_ownerDecl? h

/-- An inherited property's copy is the owner's declaration of its raw name. -/
theorem ownerDecl?_eq_ownerCopy {chain : List Model} {p : Property}
    (hp : p ∈ chain.flatMap (·.vars)) :
    ownerDecl? chain p.baseName = some (ownerCopy chain p) := by
  have hdecl : p.baseName ∈ declaredNames chain := List.mem_map_of_mem hp
  obtain ⟨d, hd⟩ := Option.isSome_iff_exists.mp (isSome_ownerDecl?_of_mem hdecl)
  rw [ownerCopy_eq, hd, Option.getD_some]

/-- Along a line that starts with a model repeating no raw name, the declaration of the name of
an own or inherited property is the copy flattening takes of it. -/
theorem ownerDecl?_cons_eq_ownerCopy {a : Model} {chain : List Model} {p : Property}
    (hnd : (a.vars.map (·.baseName)).Nodup) (hp : p ∈ a.vars ∨ p ∈ chain.flatMap (·.vars)) :
    ownerDecl? (a :: chain) p.baseName = some (ownerCopy chain p) := by
  rcases hp with hp | hp
  · -- an own property: the owner above the model, else the model's own declaration
    rw [ownerDecl?_cons, ownerCopy_eq]
    cases h : ownerDecl? chain p.baseName with
    | some q => rfl
    | none => simpa using Model.var?_eq_of_mem hnd hp
  · -- an inherited property's name is declared along the chain, so its owner is there
    rw [ownerDecl?_cons, ownerDecl?_eq_ownerCopy hp, Option.some_or]

/-- The owner of a name along a line that repeats no model is the model at a split of the line
exactly when that model declares the name and none after it does. -/
theorem owner?_eq_iff_of_split {pre post : List Model} {Y : Model} {k : String}
    (hnd : (pre ++ Y :: post).Nodup) :
    owner? (pre ++ Y :: post) k = some Y ↔
      Y.declares k = true ∧ ∀ Z ∈ post, Z.declares k = false := by
  have hY : Y ∉ pre ∧ Y ∉ post := by
    simp only [List.nodup_append, List.nodup_cons, List.mem_cons] at hnd
    exact ⟨fun h => hnd.2.2 Y h Y (Or.inl rfl) rfl, hnd.2.1.1⟩
  have hsplit : owner? (pre ++ Y :: post) k = (post.reverse.find? (·.declares k)).or
      (if Y.declares k then some Y else pre.reverse.find? (·.declares k)) := by
    simp only [owner?, List.reverse_append, List.reverse_cons, List.append_assoc,
      List.singleton_append, List.find?_append, List.find?_cons]
    cases Y.declares k <;> rfl
  rw [hsplit]
  cases hpost : post.reverse.find? (·.declares k) with
  | some Z =>
    -- a later model declares the name, and it is not `Y`
    have hZ : Z ∈ post := List.mem_reverse.mp (List.mem_of_find?_eq_some hpost)
    have hZd : Z.declares k = true := by simpa using List.find?_some hpost
    simp only [Option.some_or, Option.some.injEq]
    constructor
    · rintro rfl
      exact absurd hZ hY.2
    · rintro ⟨-, hall⟩
      simp [hall Z hZ] at hZd
  | none =>
    have hall : ∀ Z ∈ post, Z.declares k = false := fun Z hZ => by
      simpa using List.find?_eq_none.mp hpost Z (List.mem_reverse.mpr hZ)
    simp only [Option.none_or]
    cases hd : Y.declares k
    · simp only [Bool.false_eq_true, if_false, false_and, iff_false]
      intro h
      exact hY.1 (List.mem_reverse.mp (List.mem_of_find?_eq_some h))
    · simpa using hall

/-- On a list that repeats no raw name, taking out the first property of a raw name is taking
out every property of that name, and finds one exactly when the name is there. -/
theorem removeFirst_eq_filter (k : String) : ∀ vs : List Property, (vs.map (·.baseName)).Nodup →
    removeFirst k vs =
      if k ∈ vs.map (·.baseName) then some (vs.filter (·.baseName ≠ k)) else none
  | [], _ => by simp [removeFirst]
  | p :: ps, hnd => by
    obtain ⟨hp, hps⟩ := List.nodup_cons.mp hnd
    by_cases hk : p.baseName = k
    · -- no later property has the name of the first
      have hkeep : ps.filter (·.baseName ≠ k) = ps :=
        List.filter_eq_self.mpr fun q hq => by
          have hq' : q.baseName ≠ k := fun e => hp (List.mem_map.mpr ⟨q, hq, e.trans hk.symm⟩)
          simpa using hq'
      have hmem : k ∈ (p :: ps).map (·.baseName) := by simp [hk]
      rw [removeFirst, if_pos hk, if_pos hmem, List.filter_cons_of_neg (by simpa using hk), hkeep]
    · rw [removeFirst, if_neg hk, removeFirst_eq_filter k ps hps]
      by_cases hin : k ∈ ps.map (·.baseName)
      · simp [hin, hk]
      · simp [hin, Ne.symm hk]

/-- Meeting inherited declarations one by one leaves the own properties of other names, and
flags a removal when one of the names was there. -/
theorem foldl_removeInherited : ∀ (ps vs : List Property) (b : Bool),
    (vs.map (·.baseName)).Nodup →
    ps.foldl removeInherited (vs, b) =
      (vs.filter (·.baseName ∉ ps.map (·.baseName)), b || vs.any (·.baseName ∈ ps.map (·.baseName)))
  | [], vs, b, _ => by simp
  | p :: ps, vs, b, hnd => by
    rw [List.foldl_cons, removeInherited, removeFirst_eq_filter _ _ hnd]
    by_cases hin : p.baseName ∈ vs.map (·.baseName)
    · have hnd' : ((vs.filter (·.baseName ≠ p.baseName)).map (·.baseName)).Nodup :=
        hnd.sublist ((List.filter_sublist).map _)
      rw [if_pos hin, foldl_removeInherited ps _ true hnd', List.filter_filter]
      obtain ⟨v, hv, hvp⟩ := List.mem_map.mp hin
      have hany : vs.any (·.baseName ∈ (p :: ps).map (·.baseName)) = true :=
        List.any_eq_true.mpr ⟨v, hv, by simp [hvp]⟩
      refine Prod.ext ?_ (by rw [Bool.true_or, hany, Bool.or_true])
      apply List.filter_congr
      intro q _
      by_cases h₁ : q.baseName = p.baseName <;>
        by_cases h₂ : q.baseName ∈ ps.map (·.baseName) <;> simp [h₁, h₂]
    · -- no own property has the name met, so the test on it changes nothing
      have hne : ∀ v ∈ vs, v.baseName ≠ p.baseName := fun v hv e =>
        hin (List.mem_map.mpr ⟨v, hv, e⟩)
      rw [if_neg hin, foldl_removeInherited ps vs b hnd]
      refine Prod.ext (List.filter_congr fun v hv => by simp [hne v hv]) ?_
      have hsame : vs.any (·.baseName ∈ ps.map (·.baseName)) =
          vs.any (·.baseName ∈ (p :: ps).map (·.baseName)) := by
        apply Bool.eq_iff_iff.mpr
        simp only [List.any_eq_true]
        exact exists_congr fun v => and_congr_right fun hv => by simp [hne v hv]
      rw [hsame]

/-- On an own list that repeats no raw name, removing inherited properties keeps the own
properties whose name the chain does not declare, and flags a removal when it took one. -/
theorem withoutInherited_eq (chain : List Model) {own : List Property}
    (hnd : (own.map (·.baseName)).Nodup) :
    withoutInherited chain own =
      (own.filter (·.baseName ∉ declaredNames chain), own.any (·.baseName ∈ declaredNames chain)) := by
  rw [withoutInherited, ← List.foldl_flatMap, foldl_removeInherited _ _ _ hnd, Bool.false_or]
  rfl

/-- Adding absent properties keeps every name there, and adds the names met. -/
theorem mem_names_foldl_addAbsent (chain : List Model) (k : String) :
    ∀ ps flat : List Property, k ∈ (ps.foldl (addAbsent chain) flat).map (·.baseName) ↔
      k ∈ flat.map (·.baseName) ∨ k ∈ ps.map (·.baseName)
  | [], flat => by simp
  | p :: ps, flat => by
    rw [List.foldl_cons, mem_names_foldl_addAbsent chain k ps]
    unfold addAbsent
    split
    · rename_i hany
      obtain ⟨q, hq, hqp⟩ := List.any_eq_true.mp hany
      simp only [List.map_cons, List.mem_cons]
      constructor
      · rintro (h | h)
        · exact Or.inl h
        · exact Or.inr (Or.inr h)
      · rintro (h | rfl | h)
        · exact Or.inl h
        · exact Or.inl (by simpa using ⟨q, hq, of_decide_eq_true hqp⟩)
        · exact Or.inr h
    · simp [or_assoc]

/-- Adding absent properties to a list that repeats no name keeps it so. -/
theorem nodup_names_foldl_addAbsent (chain : List Model) :
    ∀ ps flat : List Property, (flat.map (·.baseName)).Nodup →
      ((ps.foldl (addAbsent chain) flat).map (·.baseName)).Nodup
  | [], _, h => h
  | p :: ps, flat, h => by
    apply nodup_names_foldl_addAbsent chain ps
    unfold addAbsent
    split
    · exact h
    · rename_i hany
      rw [List.map_append, List.nodup_append]
      refine ⟨h, by simp, ?_⟩
      intro a ha b hb
      simp only [List.map_cons, List.map_nil, List.mem_singleton, baseName_ownerCopy] at hb
      rintro rfl
      obtain ⟨q, hq, hqa⟩ := List.mem_map.mp ha
      exact hany (List.any_eq_true.mpr ⟨q, hq, by simp [hqa, hb]⟩)

/-- Every property that adding absent ones lists was there, or is the copy of one met. -/
theorem mem_foldl_addAbsent (chain : List Model) {q : Property} :
    ∀ ps flat : List Property, q ∈ ps.foldl (addAbsent chain) flat →
      q ∈ flat ∨ ∃ p ∈ ps, q = ownerCopy chain p
  | [], _, h => Or.inl h
  | p :: ps, flat, h => by
    rcases mem_foldl_addAbsent chain ps _ h with h | ⟨r, hr, rfl⟩
    · unfold addAbsent at h
      split at h
      · exact Or.inl h
      · rcases List.mem_append.mp h with h | h
        · exact Or.inl h
        · exact Or.inr ⟨p, List.mem_cons_self, List.mem_singleton.mp h⟩
    · exact Or.inr ⟨r, List.mem_cons_of_mem p hr, rfl⟩

theorem flatten_eq (own : List Property) (chain : List Model) :
    flatten own chain = (chain.flatMap (·.vars)).foldl (addAbsent chain) (own.map (ownerCopy chain)) := by
  rw [flatten, List.foldl_flatMap]

/-- Flattening lists the raw names of the own list and of the chain. -/
theorem mem_names_flatten {own : List Property} {chain : List Model} {k : String} :
    k ∈ (flatten own chain).map (·.baseName) ↔
      k ∈ own.map (·.baseName) ∨ k ∈ declaredNames chain := by
  rw [flatten_eq, mem_names_foldl_addAbsent, declaredNames, List.map_map]
  simp [Function.comp_def]

/-- Flattening an own list that repeats no raw name lists each name once. -/
theorem nodup_names_flatten {own : List Property} (chain : List Model)
    (hnd : (own.map (·.baseName)).Nodup) : ((flatten own chain).map (·.baseName)).Nodup := by
  rw [flatten_eq]
  apply nodup_names_foldl_addAbsent
  simpa [List.map_map, Function.comp_def] using hnd

/-- Every entry of a flattened list is the copy of an own or an inherited property. -/
theorem mem_flatten {own : List Property} {chain : List Model} {q : Property}
    (h : q ∈ flatten own chain) :
    ∃ p, (p ∈ own ∨ p ∈ chain.flatMap (·.vars)) ∧ q = ownerCopy chain p := by
  rw [flatten_eq] at h
  rcases mem_foldl_addAbsent chain _ _ h with h | ⟨p, hp, rfl⟩
  · obtain ⟨p, hp, rfl⟩ := List.mem_map.mp h
    exact ⟨p, Or.inl hp, rfl⟩
  · exact ⟨p, Or.inr hp, rfl⟩

/-- Every entry of a model's marked flat list is, apart from its flag, the declaration of its raw
name by the owner along the model's line. -/
theorem ownerDecl?_of_mem_flatten {a : Model} {chain : List Model} {q : Property}
    (hnd : (a.vars.map (·.baseName)).Nodup) (hq : q ∈ markHasMore (flatten a.vars chain)) :
    (ownerDecl? (a :: chain) q.baseName).map Property.unmark = some q.unmark := by
  obtain ⟨q₀, hq₀, hqq⟩ := exists_of_mem_markHasMore hq
  obtain ⟨p, hp, rfl⟩ := mem_flatten hq₀
  have hname : q.baseName = p.baseName := by
    rw [← Property.baseName_unmark q, hqq, Property.baseName_unmark, baseName_ownerCopy]
  rw [hname, ownerDecl?_cons_eq_ownerCopy hnd hp, Option.map_some, hqq]

end SwiftSchema
