import SwiftSchema.Model.Map

/-! # Inheritance

A model names its parent by raw name. A property that an ancestor declares belongs to that
ancestor: **reconciling** a model removes such properties from its own list, and lists them
instead among all its properties and among those of its parent's line. Every list of
properties is taken from the topmost ancestor that declares the property, so the flags agree
with the owner's copy.

* `ancestors` — the parent chain of a model in a store, nearest first; it stops at a parent
  the store lacks and before a name met again, so a cycle yields each model once.
* `flatten` — own properties, then every ancestor's that is not there yet.
* `reconcile`, `ModelMap.reconcileAll` — one model against a store, and all against a copy
  taken before any changes.
-/

namespace SwiftSchema

/-- The chain from a parent name on: each model the store holds under the name, then its own
parent's chain, until a name is missing from the store or was met before. -/
def chainFrom (store : ModelMap) : Nat → List String → Option String → List Model
  | 0, _, _ => []
  | _, _, none => []
  | fuel + 1, seen, some name =>
    if name ∈ seen then []
    else
      match store.get? name with
      | some p => p :: chainFrom store fuel (name :: seen) p.parentSchema
      | none => []

/-- The **ancestors** of a model in a store, nearest first. The walk meets a new name of the
store at each step, so the size of the store bounds it. -/
def ancestors (m : Model) (store : ModelMap) : List Model :=
  chainFrom store (store.size + 1) [m.baseName] m.parentSchema

/-- The copy of a property held by the topmost ancestor that declares it, else the property. -/
def ownerCopy (chain : List Model) (p : Property) : Property :=
  (chain.reverse.findSome? fun a => a.vars.find? (·.baseName = p.baseName)).getD p

/-- The list with a property added unless one of its raw name is there. -/
def addAbsent (chain : List Model) (flat : List Property) (p : Property) : List Property :=
  if flat.any (·.baseName = p.baseName) then flat else flat ++ [ownerCopy chain p]

/-- **All properties** along a chain: the own ones, then each ancestor's not yet listed, nearest
ancestor first, each as its owner's copy. -/
def flatten (own : List Property) (chain : List Model) : List Property :=
  chain.foldl (fun flat a => a.vars.foldl (addAbsent chain) flat) (own.map (ownerCopy chain))

/-- The list without the first property of a raw name, if one is there. -/
def removeFirst (name : String) : List Property → Option (List Property)
  | [] => none
  | p :: ps => if p.baseName = name then some ps else (p :: ·) <$> removeFirst name ps

/-- One inherited declaration met: the first own property of its raw name leaves, and the flag
records that one left. -/
def removeInherited (acc : List Property × Bool) (p : Property) : List Property × Bool :=
  match removeFirst p.baseName acc.1 with
  | some rest => (rest, true)
  | none => acc

/-- Own properties without those the ancestors declare, one removed for each declaration, and
whether any was removed. -/
def withoutInherited (chain : List Model) (own : List Property) : List Property × Bool :=
  chain.foldl (fun acc a => a.vars.foldl removeInherited acc) (own, false)

/-- **Reconcile** a model against a store: all properties and the parent line's properties are
listed, inherited ones leave the own list, and the result says whether any left. -/
def reconcile (m : Model) (store : ModelMap) : Model × Bool :=
  let chain := ancestors m store
  let allVars := markHasMore (flatten m.vars chain)
  let parentVars := markHasMore (match chain with
    | p :: rest => flatten p.vars rest
    | [] => [])
  let (vars, removed) := withoutInherited chain m.vars
  ({ m with allVars, parentVars, vars := if removed then markHasMore vars else m.vars }, removed)

/-- **Reconcile every model** against the store as it was before, and count the models that
lost properties. -/
def ModelMap.reconcileAll (ms : ModelMap) : ModelMap × Nat :=
  let results := ms.entries.map fun (k, m) => (k, reconcile m ms)
  (⟨results.map fun (k, r) => (k, r.1)⟩, (results.filter (·.2.2)).length)

end SwiftSchema
