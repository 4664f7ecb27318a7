import SwiftSchema.Proofs.Normalize
import SwiftSchema.Proofs.CycleReports
import SwiftSchema.Proofs.TemplateFlags

/-! # What lowering reports

Lowering names things at fixed places of the schema: each model, then each of its properties
(and, for an enum property, its enum type and every case), then each operation and, when the
operation's id resolves, each of its parameters. These are its **naming sites**. Each site
reports what its resolver returned and nothing else: an error when the operation id could not
be resolved, a warning when the name had to be changed. An operation is located by its index in
the schema, counted before any operation is dropped.

* `NameSite`, `NameSite.reports` — a place, its resolver's answer, and what that reports.
* `Context.nameSites` — the naming sites of a context, in the order lowering visits them.
* `lower_diagnostics` — lowering adds the reports of its naming sites, in order.
* `lower_reports_exactly` — lowering succeeds, keeps exactly the operations whose id has
  something left after sanitizing, reports an error for each dropped one at its original index
  and a warning for each rename, and keeps every model's key, place and property order.
-/

namespace SwiftSchema

open SwiftSchema.Naming SwiftSchema.Text

/-- A **naming site** of lowering: a place of the schema where a resolver named something, and
what the resolver returned there. -/
structure NameSite where
  location : String
  result : Except NamingError Resolved

/-- What a naming site reports: an error when its resolver failed, a warning when it renamed,
and nothing else. -/
def NameSite.reports (s : NameSite) : List Diagnostic :=
  match s.result with
  | .error e => [⟨.error, "lower", e.message, some s.location⟩]
  | .ok r => r.rename.toList.map fun rn => ⟨.warning, "lower", rn.message, some s.location⟩

/-- The naming sites of a property at its place: its name, then for an enum property its enum
type and each case, under the property's datatype. -/
def propertySites (n : Namer) (location : String) (p : Property) : List NameSite :=
  let v := n.varName p.baseName
  let datatype := n.typeText p.schemaType
  ⟨location, .ok v⟩ :: match p.enumValues with
    | none => []
    | some values => ⟨location, .ok (n.enumTypeName v.name datatype)⟩ ::
        values.map fun value => ⟨s!"{location}.enum.{value}", .ok (n.enumCaseName value datatype)⟩

/-- The naming sites of a model: its name, then its properties in order. -/
def modelSites (n : Namer) (m : Model) : List NameSite :=
  let location := s!"models.{m.baseName}"
  ⟨location, .ok (n.modelName m.baseName)⟩ ::
    m.vars.flatMap fun p => propertySites n s!"{location}.properties.{p.baseName}" p

/-- The naming sites of an operation at its index in the schema: its name, then, when the name
resolves, its parameters in order. -/
def operationSites (n : Namer) (index : Nat) (o : Operation) : List NameSite :=
  let location := s!"operations[{index}]"
  let id := n.operationId o.operationId
  ⟨location, id⟩ :: if id.toBool then
      o.parameters.map fun p =>
        ⟨s!"{location}.parameters.{p.baseName}", .ok (n.paramName p.baseName)⟩
    else []

/-- The **naming sites** of a context: its models in order, then its operations, each at its
index in the schema. -/
def Context.nameSites (c : Context) : List NameSite :=
  c.models.models.flatMap (modelSites c.namer) ++
    c.operations.zipIdx.flatMap fun e => operationSites c.namer e.2 e.1

/-! ## Each part of lowering reports its sites -/

section Sites

variable {n : Namer} {location : String}

/-- A resolved name reports the warning of its rename. -/
theorem reports_ok (location : String) (r : Resolved) :
    (⟨location, .ok r⟩ : NameSite).reports = renameReport r.rename location := by
  cases h : r.rename <;> simp [NameSite.reports, renameReport, h, Diagnostic.warning,
    Diagnostic.located]

theorem lowerProperty_reports (p : Property) :
    (lowerProperty n location p).2 = (propertySites n location p).flatMap NameSite.reports := by
  cases hv : p.enumValues with
  | none => simp [lowerProperty, propertySites, hv, reports_ok]
  | some values =>
    simp [lowerProperty, propertySites, hv, reports_ok, List.flatMap_map]

theorem lowerModel_reports (known : List String) (m : Model) :
    (lowerModel n known m).2 = (modelSites n m).flatMap NameSite.reports := by
  simp [lowerModel, modelSites, reports_ok, lowerProperty_reports, List.flatMap_map,
    List.flatMap_assoc]

theorem lowerOperation_reports (i : Nat) (o : Operation) :
    (lowerOperation n i o).2 = (operationSites n i o).flatMap NameSite.reports := by
  cases hid : n.operationId o.operationId with
  | error e =>
    simp [lowerOperation, operationSites, hid, NameSite.reports, Except.toBool,
      Diagnostic.error, Diagnostic.located]
  | ok r =>
    simp [lowerOperation, operationSites, hid, reports_ok, Except.toBool, lowerParameter,
      List.flatMap_map]

end Sites

/-- **Lowering reports its naming sites**: it adds, after the diagnostics before it, the reports
of every naming site, in the order it visits them. -/
theorem lower_diagnostics (c : Context) :
    c.lower.diagnostics = c.diagnostics ++ c.nameSites.flatMap NameSite.reports := by
  simp [Context.lower, Context.nameSites, ModelMap.models, List.flatMap_map, List.flatMap_append,
    List.flatMap_assoc, lowerModel_reports, lowerOperation_reports]

/-! ## Errors and warnings -/

/-- A model's sites report no error. -/
theorem filter_isError_modelSites (n : Namer) (m : Model) :
    ((modelSites n m).flatMap NameSite.reports).filter Diagnostic.isError = [] := by
  rw [← lowerModel_reports []]
  exact List.filter_eq_nil_iff.mpr fun d hd => by simp [isError_of_mem_lowerModel hd]

/-- An operation's sites report one error, at the operation's index, exactly when nothing is
left of its id after sanitizing. -/
theorem filter_isError_operationSites (m : Manifest) (i : Nat) (o : Operation) :
    (((operationSites { context := m.naming, reserved := m.reservedTable } i o).flatMap
        NameSite.reports).filter Diagnostic.isError) =
      if sanitizeName o.operationId = "" then
        [⟨.error, "lower", (NamingError.emptyOperationId o.operationId).message,
          some ("operations[" ++ toString i ++ "]")⟩]
      else [] := by
  cases hid : ({ context := m.naming, reserved := m.reservedTable } : Namer).operationId
      o.operationId with
  | error e =>
    have hempty := (operationId_eq_error_iff m.naming m.reservedTable o.operationId).mp ⟨e, hid⟩
    -- the only error an operation id has is that nothing is left of it
    have he : e = .emptyOperationId o.operationId := by
      simp only [Namer.operationId] at hid
      split at hid <;> cases hid
      rfl
    simp [operationSites, hid, hempty, he, NameSite.reports, Except.toBool, Diagnostic.isError]
    rfl
  | ok r =>
    have hne : sanitizeName o.operationId ≠ "" := fun hempty => by
      obtain ⟨e, he⟩ := (operationId_eq_error_iff m.naming m.reservedTable o.operationId).mpr hempty
      rw [hid] at he
      cases he
    rw [if_neg hne, List.filter_eq_nil_iff]
    intro d hd
    rw [← lowerOperation_reports, lowerOperation, hid] at hd
    simp only [List.mem_append, List.mem_flatMap, List.mem_map] at hd
    rcases hd with hd | ⟨_, ⟨p, -, rfl⟩, hd⟩
    · simp [isError_of_mem_renameReport hd]
    · simp [isError_of_mem_lowerParameter hd]

/-- Every report of a naming site is an error or a warning of the lower phase. -/
theorem reports_kind {s : NameSite} {d : Diagnostic} (h : d ∈ s.reports) :
    d.phase = "lower" ∧ (d.isError = true ∨ d.isWarning = true) := by
  unfold NameSite.reports at h
  split at h
  · rw [List.mem_singleton.mp h]
    exact ⟨rfl, .inl rfl⟩
  · obtain ⟨rn, -, rfl⟩ := List.mem_map.mp h
    exact ⟨rfl, .inr rfl⟩

/-- The naming sites of a context report one error for each operation with nothing left of its id
after sanitizing, in order, at the operation's index in the schema as given. -/
theorem filter_isError_nameSites (c : Context) :
    (c.nameSites.flatMap NameSite.reports).filter Diagnostic.isError =
      (c.operations.zipIdx.filter fun e => sanitizeName e.1.operationId = "").map (fun e =>
        ⟨.error, "lower", (NamingError.emptyOperationId e.1.operationId).message,
          some ("operations[" ++ toString e.2 ++ "]")⟩) := by
  rw [Context.nameSites, List.flatMap_append, List.flatMap_assoc, List.flatMap_assoc,
    List.filter_append, List.filter_flatMap, List.filter_flatMap]
  simp only [filter_isError_modelSites, Context.namer, filter_isError_operationSites]
  rw [List.flatMap_eq_nil_iff.mpr fun _ _ => rfl, List.nil_append]
  -- each operation contributes its one error or nothing
  induction c.operations.zipIdx with
  | nil => rfl
  | cons e rest ih =>
    rw [List.flatMap_cons, List.filter_cons, ih]
    by_cases h : sanitizeName e.1.operationId = ""
    · rw [if_pos h, if_pos (decide_eq_true h)]
      rfl
    · rw [if_neg h, if_neg (by simpa using h)]
      rfl

/-- An operation is lowered exactly when its id resolves. -/
theorem isSome_lowerOperation (n : Namer) (i : Nat) (o : Operation) :
    (lowerOperation n i o).1.isSome = (n.operationId o.operationId).toBool := by
  cases hid : n.operationId o.operationId <;> simp [lowerOperation, hid, Except.toBool]

/-- Lowering keeps, one for one and in order, the operations whose id has something left after
sanitizing, each lowered at its index in the schema. -/
theorem lower_operations_kept (c : Context) :
    List.Forall₂ (fun (e : Operation × Nat) o => (lowerOperation c.namer e.2 e.1).1 = some o)
      (c.operations.zipIdx.filter fun e => sanitizeName e.1.operationId ≠ "") c.lower.operations := by
  rw [lower_operations]
  apply forall₂_filter_filterMap
  intro e _
  have hsome : (lowerOperation c.namer e.2 e.1).1.isSome = decide (sanitizeName e.1.operationId ≠ "") := by
    rw [isSome_lowerOperation]
    exact operationId_toBool c.manifest.naming c.manifest.reservedTable e.1.operationId
  constructor
  · intro hkeep
    obtain ⟨o, ho⟩ := Option.isSome_iff_exists.mp (hsome.trans hkeep)
    exact ⟨o, ho, ho⟩
  · intro hdrop
    exact Option.not_isSome_iff_eq_none.mp (by rw [hsome, hdrop]; decide)

/-- Lowering keeps every model's key and place, and the order of its properties. -/
theorem lower_keeps_property_order (c : Context) :
    c.lower.models.entries.map (fun e => (e.1, e.2.vars.map (·.baseName))) =
      c.models.entries.map (fun e => (e.1, e.2.vars.map (·.baseName))) := by
  rw [models_lower]
  simp [ModelMap.mapModels, map_baseName_lowerModel_vars]

/-- **Lowering reports exactly its renames and its dropped operations.** Lowering succeeds; it
keeps, one for one and in order, the operations whose id has something left after sanitizing,
lowered at their index in the schema; it adds the reports of its naming sites after the
diagnostics before it, and nothing else; among them the errors are exactly one for each dropped
operation, at its index in the schema as given, and every other report is a warning of a rename;
and every model keeps its key, its place and the order of its properties. -/
theorem lower_reports_exactly (c : Context) :
    (lowerPass.toPhase.run c : Except String Context) = .ok c.lower ∧
    List.Forall₂ (fun (e : Operation × Nat) o => (lowerOperation c.namer e.2 e.1).1 = some o)
      (c.operations.zipIdx.filter fun e => sanitizeName e.1.operationId ≠ "") c.lower.operations ∧
    c.lower.diagnostics = c.diagnostics ++ c.nameSites.flatMap NameSite.reports ∧
    (c.nameSites.flatMap NameSite.reports).filter Diagnostic.isError =
      (c.operations.zipIdx.filter fun e => sanitizeName e.1.operationId = "").map (fun e =>
        ⟨.error, "lower", (NamingError.emptyOperationId e.1.operationId).message,
          some ("operations[" ++ toString e.2 ++ "]")⟩) ∧
    (∀ d ∈ c.nameSites.flatMap NameSite.reports,
      d.phase = "lower" ∧ (d.isError = true ∨ d.isWarning = true)) ∧
    c.lower.models.entries.map (fun e => (e.1, e.2.vars.map (·.baseName))) =
      c.models.entries.map (fun e => (e.1, e.2.vars.map (·.baseName))) :=
  ⟨rfl, lower_operations_kept c, lower_diagnostics c, filter_isError_nameSites c,
    fun _ hd => by
      obtain ⟨s, -, hs⟩ := List.mem_flatMap.mp hd
      exact reports_kind hs,
    lower_keeps_property_order c⟩

end SwiftSchema
