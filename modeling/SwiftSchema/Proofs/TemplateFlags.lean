import SwiftSchema.Proofs.DocumentText
import SwiftSchema.Proofs.FollowFlags

/-! # Template flags agree across lists

A template may iterate a model's own list, its flat list or its parent's view, and reads the
annotations of the properties it meets. Annotating flags each list on its own, so the flags
agree only because reconciling fills the three lists with the same copy of each property: the
declaration of the topmost model of the line that declares it. On a document read from text,
which carries no annotation, every flag then says exactly what its property's fields say.

* `Model.listed` — the properties a template may meet, list after list.
* `Model.Annotatable` — nothing annotated yet, one copy per raw name, and a flat list that names
  every name of the other two; `reconcile_annotatable` — reconciling gives it.
* `TemplateFlags` — the flags a template reads, as the fields call for them;
  `Model.Annotatable.templateFlags` — annotating gives them.
* `normalize_template_flags_agree` — every normalized model of a document read from text.
-/

namespace SwiftSchema

open SwiftSchema.Naming

/-- The properties a template may meet in a model: its own list, its flat list and its parent's
view, in that order. -/
def Model.listed (M : Model) : List Property := M.vars ++ M.allVars ++ M.parentVars

/-- The **template flags** of a model under a naming context, as the fields call for them: a
property is flagged escaped exactly when its name differs from its raw name, and optional scalar
exactly when it is a scalar written as an optional type; the model is flagged exactly when its
flat list holds an escaped property; and entries of one raw name agree apart from their
follow-on flag. -/
structure TemplateFlags (ctx : NamingContext) (M : Model) : Prop where
  escaped : ∀ q ∈ M.listed, q.extensions.escapedName = q.isEscaped
  optionalScalar : ∀ q ∈ M.listed,
    q.extensions.optionalScalar = (ctx.isOptional q.required && q.scalar.isSome)
  hasEscapedNames : M.extensions.hasEscapedNames = M.allVars.any Property.isEscaped
  agree : ∀ q ∈ M.listed, ∀ q' ∈ M.listed, q.baseName = q'.baseName → q.unmark = q'.unmark

/-- A model **ready for annotating**: nothing on it or in its lists is annotated yet, entries of
one raw name agree apart from their follow-on flag, and the flat list names every raw name of
the other two lists. -/
structure Model.Annotatable (M : Model) : Prop where
  fresh : M.extensions = {}
  freshListed : ∀ q ∈ M.listed, q.extensions = {}
  agree : ∀ q ∈ M.listed, ∀ q' ∈ M.listed, q.baseName = q'.baseName → q.unmark = q'.unmark
  covered : ∀ q ∈ M.listed, ∃ q' ∈ M.allVars, q'.baseName = q.baseName

/-! ## Annotating -/

section Annotate

variable (ctx : NamingContext) {p : Property} {M : Model}

@[simp] theorem Property.unmark_annotate (p : Property) :
    (p.annotate ctx).unmark = p.unmark.annotate ctx := rfl

@[simp] theorem Property.isEscaped_annotate (p : Property) :
    (p.annotate ctx).isEscaped = p.isEscaped := rfl

@[simp] theorem Property.isEscaped_unmark (p : Property) : p.unmark.isEscaped = p.isEscaped := rfl

/-- Annotating a property with no flag set sets exactly the flags its fields call for. -/
theorem Property.extensions_annotate_of_fresh (h : p.extensions = {}) :
    (p.annotate ctx).extensions =
      { escapedName := p.isEscaped, optionalScalar := ctx.isOptional p.required && p.scalar.isSome } := by
  unfold Property.annotate
  rw [h]
  cases p.isEscaped <;> cases ctx.isOptional p.required && p.scalar.isSome <;> rfl

theorem Model.listed_annotate (M : Model) :
    (M.annotate ctx).listed = M.listed.map (·.annotate ctx) := by
  simp [Model.listed, Model.annotate]

/-- In a model ready for annotating, some listed property is escaped exactly when some property
of the flat list is: an escaped entry of another list has an entry of its raw name there, which
agrees with it. -/
theorem Model.Annotatable.any_listed_isEscaped (h : M.Annotatable) :
    M.listed.any Property.isEscaped = M.allVars.any Property.isEscaped := by
  apply Bool.eq_iff_iff.mpr
  simp only [List.any_eq_true]
  constructor
  · rintro ⟨q, hq, hesc⟩
    obtain ⟨q', hq', hname⟩ := h.covered q hq
    have hq'l : q' ∈ M.listed := by simp [Model.listed, hq']
    refine ⟨q', hq', ?_⟩
    rw [← Property.isEscaped_unmark, h.agree q' hq'l q hq hname, Property.isEscaped_unmark]
    exact hesc
  · rintro ⟨q, hq, hesc⟩
    exact ⟨q, by simp [Model.listed, hq], hesc⟩

/-- **Annotating** a model ready for it gives it its template flags. -/
theorem Model.Annotatable.templateFlags (h : M.Annotatable) : TemplateFlags ctx (M.annotate ctx) where
  escaped q hq := by
    rw [Model.listed_annotate] at hq
    obtain ⟨p, hp, rfl⟩ := List.mem_map.mp hq
    rw [Property.extensions_annotate_of_fresh ctx (h.freshListed p hp), Property.isEscaped_annotate]
  optionalScalar q hq := by
    rw [Model.listed_annotate] at hq
    obtain ⟨p, hp, rfl⟩ := List.mem_map.mp hq
    rw [Property.extensions_annotate_of_fresh ctx (h.freshListed p hp)]
    rfl
  hasEscapedNames := by
    have hflat : (M.annotate ctx).allVars.any Property.isEscaped = M.allVars.any Property.isEscaped := by
      simp [Model.annotate, Function.comp_def]
    rw [hflat, ← h.any_listed_isEscaped]
    simp only [Model.annotate, Model.listed]
    split <;> simp_all [h.fresh]
  agree q hq q' hq' hname := by
    rw [Model.listed_annotate] at hq hq'
    obtain ⟨p, hp, rfl⟩ := List.mem_map.mp hq
    obtain ⟨p', hp', rfl⟩ := List.mem_map.mp hq'
    rw [Property.unmark_annotate, Property.unmark_annotate, h.agree p hp p' hp' hname]

end Annotate

/-! ## Reconciling -/

section Reconcile

variable {S : ModelMap} {M X : Model} {q : Property}

theorem ModelMap.mem_models_of_get? {k : String} (h : S.get? k = some X) : X ∈ S.models :=
  List.mem_map.mpr ⟨(k, X), ModelMap.mem_entries_of_get? h, rfl⟩

theorem ModelMap.OwnKeysDistinct.nodup_of_mem_models (hD : S.OwnKeysDistinct) (h : X ∈ S.models) :
    (X.vars.map (·.baseName)).Nodup := by
  obtain ⟨e, he, rfl⟩ := List.mem_map.mp h
  exact hD e he

theorem ModelMap.Unannotated.of_mem_models (hU : S.Unannotated) (h : X ∈ S.models) :
    X.extensions = {} ∧ ∀ p ∈ X.vars, p.extensions = {} := by
  obtain ⟨e, he, rfl⟩ := List.mem_map.mp h
  exact hU e he

/-- Every model of a chain walked from a parent name is a model of the store. -/
theorem mem_models_of_mem_chainFrom :
    ∀ {fuel : Nat} {seen : List String} {o : Option String}, X ∈ chainFrom S fuel seen o → X ∈ S.models
  | 0, _, _, h => by simp [chainFrom] at h
  | _ + 1, _, none, h => by simp [chainFrom] at h
  | fuel + 1, seen, some name, h => by
    unfold chainFrom at h
    split at h
    · cases h
    · split at h
      · rename_i P hP
        rcases List.mem_cons.mp h with rfl | h
        · exact ModelMap.mem_models_of_get? hP
        · exact mem_models_of_mem_chainFrom h
      · cases h

theorem mem_models_of_mem_ancestors (h : X ∈ ancestors M S) : X ∈ S.models :=
  mem_models_of_mem_chainFrom h

/-- A declaration along a line is a property that one of the line's models declares. -/
theorem exists_mem_vars_of_ownerDecl? {line : List Model} {k : String} {d : Property}
    (h : ownerDecl? line k = some d) : ∃ X ∈ line, d ∈ X.vars := by
  obtain ⟨X, hX, hd⟩ := Option.bind_eq_some_iff.mp h
  exact ⟨X, mem_of_owner? hX, List.mem_of_find?_eq_some hd⟩

/-- A kept own property is, apart from its follow-on flag, the model's own declaration: no
ancestor declares its raw name, so the model owns it. -/
theorem ownerDecl?_of_mem_reconcile_vars (hnd : (M.vars.map (·.baseName)).Nodup)
    (hq : q ∈ (reconcile M S).1.vars) :
    (ownerDecl? (M :: ancestors M S) q.baseName).map Property.unmark = some q.unmark := by
  have hu : q.unmark ∈ (M.vars.filter (·.baseName ∉ declaredNames (ancestors M S))).map
      Property.unmark := by
    rw [← map_unmark_reconcile_vars M S hnd]
    exact List.mem_map_of_mem hq
  obtain ⟨p, hp, hpq⟩ := List.mem_map.mp hu
  simp only [List.mem_filter, decide_eq_true_eq] at hp
  have hname : q.baseName = p.baseName := by
    rw [← Property.baseName_unmark q, ← hpq, Property.baseName_unmark]
  have habove : ownerDecl? (ancestors M S) p.baseName = none := by
    refine Option.not_isSome_iff_eq_none.mp fun hs => ?_
    obtain ⟨a, ha, hdecl⟩ := ownerDecl?_isSome_iff.mp hs
    rw [not_mem_declaredNames_iff.mp hp.2 a ha] at hdecl
    cases hdecl
  rw [hname, ownerDecl?_cons, habove, Option.none_or, Model.var?_eq_of_mem hnd hp.1,
    Option.map_some, hpq]

/-- An entry of the parent's view is, apart from its follow-on flag, the declaration of its raw
name along the line one model up, and so along the model's whole line. -/
theorem ownerDecl?_of_mem_reconcile_parentVars (hD : S.OwnKeysDistinct)
    (hq : q ∈ (reconcile M S).1.parentVars) :
    (ownerDecl? (M :: ancestors M S) q.baseName).map Property.unmark = some q.unmark := by
  rw [reconcile_parentVars] at hq
  cases hc : ancestors M S with
  | nil =>
    rw [hc] at hq
    simp [markHasMore] at hq
  | cons P rest =>
    rw [hc] at hq
    have hP : P ∈ S.models := mem_models_of_mem_ancestors (hc ▸ List.mem_cons_self)
    have hown := ownerDecl?_of_mem_flatten (hD.nodup_of_mem_models hP) hq
    -- the parent's line already has a declaration, so the model's own cannot come first
    obtain ⟨d, hd, -⟩ := Option.map_eq_some_iff.mp hown
    rw [ownerDecl?_cons, hd, Option.some_or, ← hd, hown]

/-- Every entry of a reconciled model's lists is, apart from its follow-on flag, the declaration
of its raw name along the model's line. -/
theorem ownerDecl?_of_mem_listed_reconcile (hD : S.OwnKeysDistinct)
    (hnd : (M.vars.map (·.baseName)).Nodup) (hq : q ∈ (reconcile M S).1.listed) :
    (ownerDecl? (M :: ancestors M S) q.baseName).map Property.unmark = some q.unmark := by
  simp only [Model.listed, List.mem_append] at hq
  rcases hq with (hq | hq) | hq
  · exact ownerDecl?_of_mem_reconcile_vars hnd hq
  · rw [reconcile_allVars] at hq
    exact ownerDecl?_of_mem_flatten hnd hq
  · exact ownerDecl?_of_mem_reconcile_parentVars hD hq

/-- **Reconciling** a model of a store in which no model declares a raw name twice and nothing is
annotated makes it ready for annotating. -/
theorem reconcile_annotatable (hD : S.OwnKeysDistinct) (hU : S.Unannotated) (hM : M ∈ S.models) :
    (reconcile M S).1.Annotatable := by
  have hown : ∀ q ∈ (reconcile M S).1.listed,
      (ownerDecl? (M :: ancestors M S) q.baseName).map Property.unmark = some q.unmark :=
    fun q hq => ownerDecl?_of_mem_listed_reconcile hD (hD.nodup_of_mem_models hM) hq
  refine ⟨(hU.of_mem_models hM).1, fun q hq => ?_, fun q hq q' hq' hname => ?_, fun q hq => ?_⟩
  · -- the owner's declaration is a property of a model of the store
    obtain ⟨d, hd, hdq⟩ := Option.map_eq_some_iff.mp (hown q hq)
    obtain ⟨X, hX, hdX⟩ := exists_mem_vars_of_ownerDecl? hd
    have hXS : X ∈ S.models := by
      rcases List.mem_cons.mp hX with rfl | hX
      · exact hM
      · exact mem_models_of_mem_ancestors hX
    calc q.extensions = q.unmark.extensions := rfl
      _ = d.unmark.extensions := by rw [hdq]
      _ = {} := (hU.of_mem_models hXS).2 d hdX
  · have hq₁ := hown q hq
    rw [hname, hown q' hq'] at hq₁
    exact (Option.some.inj hq₁).symm
  · -- the name is declared along the line, so the flat list names it
    obtain ⟨d, hd, -⟩ := Option.map_eq_some_iff.mp (hown q hq)
    obtain ⟨a, ha, hdecl⟩ := ownerDecl?_isSome_iff.mp (Option.isSome_iff_exists.mpr ⟨d, hd⟩)
    have hk : q.baseName ∈ (reconcile M S).1.allVars.map (·.baseName) := by
      rw [mem_names_reconcile_allVars, mem_declaredNames]
      exact ⟨a, ha, Model.declares_iff.mp hdecl⟩
    exact List.mem_map.mp hk

end Reconcile

/-! ## The whole run -/

section Lower

variable {S : ModelMap} {f : Model → Model} {n : Namer} {location : String} {p : Property}

theorem baseName_lowerProperty : (lowerProperty n location p).1.baseName = p.baseName := by
  unfold lowerProperty
  split <;> rfl

theorem extensions_lowerProperty : (lowerProperty n location p).1.extensions = p.extensions := by
  unfold lowerProperty
  split <;> rfl

/-- Lowering keeps the raw names of a model's own list, in order. -/
theorem map_baseName_lowerModel_vars (n : Namer) (known : List String) (m : Model) :
    (lowerModel n known m).1.vars.map (·.baseName) = m.vars.map (·.baseName) := by
  simp [lowerModel, List.map_map, Function.comp_def, baseName_lowerProperty]

/-- Lowering annotates neither a model nor its own properties. -/
theorem extensions_lowerModel (n : Namer) (known : List String) (m : Model) :
    (lowerModel n known m).1.extensions = m.extensions ∧
      ∀ q ∈ (lowerModel n known m).1.vars, ∃ p ∈ m.vars, q.extensions = p.extensions := by
  refine ⟨rfl, fun q hq => ?_⟩
  obtain ⟨q₀, hq₀, hqq₀⟩ := exists_of_mem_markHasMore hq
  simp only [List.map_map, List.mem_map, Function.comp_apply] at hq₀
  obtain ⟨p, hp, rfl⟩ := hq₀
  refine ⟨p, hp, ?_⟩
  calc q.extensions = q.unmark.extensions := rfl
    _ = (lowerProperty n _ p).1.extensions := by rw [hqq₀]; rfl
    _ = p.extensions := extensions_lowerProperty

theorem ModelMap.OwnKeysDistinct.mapModels (hD : S.OwnKeysDistinct)
    (hf : ∀ m, (f m).vars.map (·.baseName) = m.vars.map (·.baseName)) :
    (S.mapModels f).OwnKeysDistinct := by
  intro e he
  obtain ⟨e₀, he₀, rfl⟩ := List.mem_map.mp he
  rw [hf]
  exact hD e₀ he₀

theorem ModelMap.Unannotated.mapModels (hU : S.Unannotated)
    (hf : ∀ m, (f m).extensions = m.extensions ∧
      ∀ q ∈ (f m).vars, ∃ p ∈ m.vars, q.extensions = p.extensions) :
    (S.mapModels f).Unannotated := by
  intro e he
  obtain ⟨e₀, he₀, rfl⟩ := List.mem_map.mp he
  obtain ⟨hext, hvars⟩ := hf e₀.2
  refine ⟨hext.trans (hU e₀ he₀).1, fun q hq => ?_⟩
  obtain ⟨p, hp, hqp⟩ := hvars q hq
  exact hqp.trans ((hU e₀ he₀).2 p hp)

end Lower

/-- **Template flags agree whichever list is iterated.** In the normalized result of a document
read from text, every property of every model's own list, flat list and parent's view is
flagged escaped exactly when its name differs from its raw name, and optional scalar exactly
when it is a scalar written as an optional type under the manifest's naming; a model is flagged
exactly when its flat list holds an escaped property; and the entries of one raw name in a
model's three lists are equal apart from their follow-on flag. -/
theorem normalize_template_flags_agree {text filename : String} {doc : SchemaDocument}
    {manifest : Manifest} {out : Normalized} (hdoc : SchemaDocument.ofText text filename = .ok doc)
    (h : normalize doc manifest = .ok out) :
    ∀ M ∈ out.models.models, TemplateFlags manifest.naming M := by
  obtain ⟨⟨hD, -, -⟩, rfl⟩ := normalize_eq_ok_iff.mp h
  -- the lowered map repeats no raw name in an own list and carries no annotation
  set S := (Context.new doc manifest).lower.models with hS
  have hDS : S.OwnKeysDistinct := by
    rw [hS, models_lower]
    exact hD.mapModels (map_baseName_lowerModel_vars _ _)
  have hUS : S.Unannotated := by
    rw [hS, models_lower]
    exact (SchemaDocument.unannotated_of_ofText hdoc).mapModels (extensions_lowerModel _ _)
  -- a normalized model is a model of the lowered map, reconciled against it and annotated
  intro M hM
  simp only [ModelMap.annotate, ModelMap.models_mapModels, reconcileAll_fst, List.map_map,
    List.mem_map, Function.comp_apply] at hM
  obtain ⟨M₁, hM₁, rfl⟩ := hM
  exact (reconcile_annotatable hDS hUS hM₁).templateFlags manifest.naming

/-- A document of two models: `Dog` under `Animal`, declaring `id` again, and `Animal` with a
raw name that lowering escapes. -/
def petLineText : String :=
  "\x7b\"models\":\x7b\"Dog\":\x7b\"parent\":\"Animal\",\"properties\":\x7b\"id\":\x7b\"type\":\"string\"\x7d,\"bark\":\x7b\"type\":\"boolean\"\x7d\x7d\x7d,\"Animal\":\x7b\"properties\":\x7b\"id\":\x7b\"type\":\"string\"\x7d,\"created-at\":\x7b\"type\":\"integer\"\x7d\x7d\x7d\x7d\x7d"

/-- The document `petLineText` reads as. -/
def petLineDocument : SchemaDocument :=
  ⟨⟨[("Dog", { Model.new "Dog" with
      parentSchema := some "Animal"
      vars := [Property.new "id" (.primitive "string"), Property.new "bark" (.primitive "boolean")] }),
    ("Animal", { Model.new "Animal" with
      vars := [Property.new "id" (.primitive "string"),
        Property.new "created-at" (.primitive "integer")] })]⟩, []⟩

theorem petLine_template_flags :
    let out : Normalized := ⟨(Context.new petLineDocument {}).lower.models.reconcileAll.1.annotate {},
      (Context.new petLineDocument {}).lower.operations⟩
    SchemaDocument.ofText petLineText "schema.json" = .ok petLineDocument ∧
      normalize petLineDocument {} = .ok out ∧
      ∀ M ∈ out.models.models, TemplateFlags ({} : Manifest).naming M := by
  intro out
  have hdoc : SchemaDocument.ofText petLineText "schema.json" = .ok petLineDocument := by
    decide +kernel
  have h : normalize petLineDocument {} = .ok out :=
    normalize_eq_ok_iff.mpr ⟨⟨by decide, by decide, by decide⟩, rfl⟩
  exact ⟨hdoc, h, normalize_template_flags_agree hdoc h⟩

end SwiftSchema
