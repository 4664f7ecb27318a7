import SwiftSchema.Pipeline.Diagnostic
import SwiftSchema.Model.Map

/-! # Lints

A **lint** looks at the models by raw name and reports what is wrong with them. The default
lints, in their order:

* `duplicateProperty` — a model declaring a raw property name again (an error for each repeat);
* `parentCycle` — a model whose parent chain leads back to it (an error naming the chain);
* `unresolvedParent` — a parent name that no model has (a warning).
-/

namespace SwiftSchema

/-- A **lint**: a name, a description and the check it makes. -/
structure Lint where
  name : String
  description : String
  check : ModelMap → List Diagnostic

/-- The raw names of a list that repeat an earlier one, once for each repeat. -/
def repeats : List String → List String → List String
  | _, [] => []
  | seen, n :: rest => if n ∈ seen then n :: repeats seen rest else repeats (n :: seen) rest

/-- Properties declared twice by one model. -/
def duplicateProperty : Lint where
  name := "duplicate-property"
  description := "Detect properties declared twice by the same model"
  check ms := ms.entries.flatMap fun (name, m) =>
    (repeats [] (m.vars.map (·.baseName))).map fun p =>
      (Diagnostic.error "validate" s!"model '{name}' declares property '{p}' more than once").located
        s!"models.{name}.properties.{p}"

/-- The path of a parent walk from a model back to itself, if the walk comes back: names are
followed through the store until one is missing or met before. -/
def cyclePath (ms : ModelMap) (start : String) : Nat → List String → Option String → Option (List String)
  | 0, _, _ => none
  | _, _, none => none
  | fuel + 1, path, some parent =>
    if parent = start then some (path ++ [parent])
    else if parent ∈ path then none
    else cyclePath ms start fuel (path ++ [parent]) ((ms.get? parent).bind (·.parentSchema))

/-- Models that inherit from themselves. -/
def parentCycle : Lint where
  name := "parent-cycle"
  description := "Detect models that inherit from themselves"
  check ms := ms.entries.filterMap fun (name, m) =>
    (cyclePath ms name (ms.size + 2) [name] m.parentSchema).map fun path =>
      let chain := " -> ".intercalate path
      (Diagnostic.error "validate" s!"model '{name}' inherits from itself ({chain})").located
        s!"models.{name}"

/-- Parents that no model has. -/
def unresolvedParent : Lint where
  name := "unresolved-parent"
  description := "Warn about parent models that are not defined"
  check ms := ms.entries.filterMap fun (name, m) =>
    match m.parentSchema with
    | some p =>
      if ms.contains p then none
      else some ((Diagnostic.warning "validate"
        s!"parent '{p}' of model '{name}' is not defined; treating it as having no parent").located
          s!"models.{name}")
    | none => none

/-- The **default lints**, in order. -/
def defaultLints : List Lint := [duplicateProperty, parentCycle, unresolvedParent]

end SwiftSchema
