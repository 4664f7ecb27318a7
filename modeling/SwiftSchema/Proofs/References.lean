import SwiftSchema.Proofs.DocumentText
import SwiftSchema.Proofs.FollowFlags

/-! # References name the models they point to

A model names its parent, and a type descriptor refers to models, by raw name. Lowering gives a
model its Swift name through the model namer, and its parent the model name of the parent's raw
name, so on a map keyed by raw name a parent is named as the parent model is. A type leaf goes
through the type table first: a name the table aliases becomes its Swift type, a built-in name
stays as it is, and only a name left to the models gets a model name. So a reference prints as
the Swift name of the model it points to exactly for the names the table leaves to the models;
a model named `file` is printed `URL` when referenced, though it is named `File`
(`fileReference_prints_builtin`).

* `TypeDesc.refs` — the raw model names a descriptor refers to.
* `TypeDesc.print`, `TypeDesc.printLeaf` — a descriptor printed with a text for each leaf.
* `Types.LeftToModels` — a leaf name the type table leaves to the models.
* `NamesReferences` — a text printing every reference to a model as that model's name.
* `lower_names_referenced_models` — after lowering, parents and references name their models.
-/

namespace SwiftSchema

open SwiftSchema.Types SwiftSchema.Naming

/-! ## Printing with a text per leaf -/

namespace Types

/-- The raw model names a descriptor refers to. -/
def TypeDesc.refs : TypeDesc → List String
  | .array t | .map t => t.refs
  | .primitive _ => []
  | .reference k => [k]

/-- A descriptor **printed** as a Swift type expression, with the text of each primitive and of
each reference given. -/
def TypeDesc.print (prim ref : String → String) : TypeDesc → String
  | .array t => "[" ++ t.print prim ref ++ "]"
  | .map t => "[String:" ++ t.print prim ref ++ "]"
  | .primitive k => prim k
  | .reference k => ref k

/-- The innermost leaf of a descriptor printed, with the text of each primitive and of each
reference given. -/
def TypeDesc.printLeaf (prim ref : String → String) : TypeDesc → String
  | .array t | .map t => t.printLeaf prim ref
  | .primitive k => prim k
  | .reference k => ref k

/-- A leaf name that the type table **leaves to the models**: the table aliases it to no Swift
type, and it is not a Swift built-in. -/
def LeftToModels (name : String) : Prop := swiftTypeOf name = none ∧ isBuiltin name = false

instance (name : String) : Decidable (LeftToModels name) :=
  inferInstanceAs (Decidable (swiftTypeOf name = none ∧ isBuiltin name = false))

end Types

/-- The text a reference to a raw name should print as: the Swift name of the model the map holds
under it, and the leaf's own text for a name the map lacks. -/
def referenceText (L : ModelMap) (n : Namer) (k : String) : String :=
  ((L.get? k).map (·.name)).getD (n.leafText k)

/-- A text **names the models a descriptor references**: whenever the type table leaves every
model the descriptor refers to to the models, the text is the descriptor printed with each
reference to a model as that model's Swift name. -/
def NamesReferences (L : ModelMap) (n : Namer) (t : TypeDesc) (text : String) : Prop :=
  (∀ k ∈ t.refs, L.contains k = true → LeftToModels k) → text = t.print n.leafText (referenceText L n)

/-- The innermost leaf's text names the model it references, as `NamesReferences` says. -/
def NamesLeafReference (L : ModelMap) (n : Namer) (t : TypeDesc) (text : String) : Prop :=
  (∀ k ∈ t.refs, L.contains k = true → LeftToModels k) →
    text = t.printLeaf n.leafText (referenceText L n)

section Leaves

variable {L : ModelMap} {n : Namer}

/-- A name left to the models is printed as its model name. -/
theorem leafText_of_leftToModels {k : String} (hk : LeftToModels k) :
    n.leafText k = (n.modelName k).name := by
  simp [Namer.leafText, hk.1, hk.2]

/-- A leaf is printed as the model it references when every model of the map is named by the
namer and the table leaves the name to the models. -/
theorem leafText_eq_referenceText
    (hL : ∀ k M, L.get? k = some M → M.name = (n.modelName k).name) {k : String}
    (hk : L.contains k = true → LeftToModels k) : n.leafText k = referenceText L n k := by
  unfold referenceText
  cases hg : L.get? k with
  | none => rfl
  | some M =>
    have hleft := hk (by simp [ModelMap.contains, hg])
    rw [Option.map_some, Option.getD_some, hL k M hg, leafText_of_leftToModels hleft]

/-- The type expression of a descriptor prints each reference to a model of the map as that
model's name, when every model of the map is named by the namer and the table leaves the names
to the models. -/
theorem typeText_eq_print (hL : ∀ k M, L.get? k = some M → M.name = (n.modelName k).name) :
    ∀ t : TypeDesc, (∀ k ∈ t.refs, L.contains k = true → LeftToModels k) →
      n.typeText t = t.print n.leafText (referenceText L n)
  | .array t, ht => by
    rw [Namer.typeText, TypeDesc.print, typeText_eq_print hL t ht]
  | .map t, ht => by
    rw [Namer.typeText, TypeDesc.print, typeText_eq_print hL t ht]
  | .primitive _, _ => rfl
  | .reference k, ht => leafText_eq_referenceText hL (ht k (List.mem_singleton_self k))

/-- The innermost leaf's text prints a reference to a model of the map as that model's name, as
`typeText_eq_print` says. -/
theorem baseType_eq_printLeaf (hL : ∀ k M, L.get? k = some M → M.name = (n.modelName k).name) :
    ∀ t : TypeDesc, (∀ k ∈ t.refs, L.contains k = true → LeftToModels k) →
      n.baseType t = t.printLeaf n.leafText (referenceText L n)
  | .array t, ht => by
    rw [Namer.baseType, TypeDesc.printLeaf, baseType_eq_printLeaf hL t ht]
  | .map t, ht => by
    rw [Namer.baseType, TypeDesc.printLeaf, baseType_eq_printLeaf hL t ht]
  | .primitive _, _ => rfl
  | .reference k, ht => leafText_eq_referenceText hL (ht k (List.mem_singleton_self k))

end Leaves

/-! ## After lowering -/

/-- What lowering promises of a model of the lowered map `L` under the namer `n`: its parent is
named as the model its parent name looks up, and every text of a descriptor it holds names the
models the descriptor references. -/
structure Model.NamesItsModels (L : ModelMap) (n : Namer) (M : Model) : Prop where
  parent : M.parent = (M.parentSchema.bind L.get?).map (·.name)
  datatype : ∀ q ∈ M.vars, NamesReferences L n q.schemaType q.datatype
  baseType : ∀ q ∈ M.vars, NamesLeafReference L n q.schemaType q.baseType
  additional : ∀ t, M.additionalProperties = some t →
    ∃ s, M.additionalPropertiesType = some s ∧ NamesReferences L n t s

/-- What lowering promises of an operation: its return type and the types of its parameters name
the models their descriptors reference. -/
structure Operation.NamesItsModels (L : ModelMap) (n : Namer) (o : Operation) : Prop where
  returnType : ∀ t, o.response = some t → ∃ s, o.returnType = some s ∧ NamesReferences L n t s
  parameters : ∀ q ∈ o.parameters, NamesReferences L n q.schemaType q.datatype

section Lower

variable {c : Context} {n : Namer} {location : String} {p : Property} {k : String} {M : Model}

theorem ModelMap.keys_contains (S : ModelMap) (k : String) : S.keys.contains k = S.contains k := by
  apply Bool.eq_iff_iff.mpr
  rw [List.contains_iff_mem, ModelMap.contains, ModelMap.get?, List.lookup_isSome_iff, ModelMap.keys,
    List.mem_map]
  exact exists_congr fun e => and_congr_right fun _ => by rw [beq_iff_eq, eq_comm]

theorem get?_lower_models (c : Context) (k : String) :
    c.lower.models.get? k = (c.models.get? k).map fun m => (lowerModel c.namer c.models.keys m).1 := by
  rw [models_lower, ModelMap.get?_mapModels]

/-- On a map keyed by raw name, every lowered model is named by the namer from its key. -/
theorem name_of_get?_lower (hK : c.models.KeyedByName) (h : c.lower.models.get? k = some M) :
    M.name = (c.namer.modelName k).name := by
  rw [get?_lower_models] at h
  obtain ⟨M₀, hM₀, rfl⟩ := Option.map_eq_some_iff.mp h
  rw [← hK.baseName_eq hM₀]
  rfl

/-- On a map keyed by raw name, a lowered model's parent is the Swift name of the model its parent
name looks up, and nothing when there is no parent name or no model under it. -/
theorem parent_of_get?_lower (hK : c.models.KeyedByName) (h : c.lower.models.get? k = some M) :
    M.parent = (M.parentSchema.bind c.lower.models.get?).map (·.name) := by
  have hM := h
  rw [get?_lower_models] at hM
  obtain ⟨M₀, -, rfl⟩ := Option.map_eq_some_iff.mp hM
  show (M₀.parentSchema.filter (c.models.keys.contains ·)).map (fun p => (c.namer.modelName p).name) =
    (M₀.parentSchema.bind c.lower.models.get?).map (·.name)
  cases M₀.parentSchema with
  | none => rfl
  | some p =>
    -- the parent name is a key exactly when the lowered map holds a model under it
    have hkey : c.models.keys.contains p = (c.lower.models.get? p).isSome := by
      rw [ModelMap.keys_contains, ModelMap.contains, get?_lower_models, Option.isSome_map]
    rw [Option.filter_some, hkey]
    show _ = (c.lower.models.get? p).map (·.name)
    cases hP : c.lower.models.get? p with
    | none => rfl
    | some P => rw [Option.map_some, name_of_get?_lower hK hP]; rfl

theorem datatype_lowerProperty : (lowerProperty n location p).1.datatype = n.typeText p.schemaType := by
  unfold lowerProperty
  split <;> rfl

theorem baseType_lowerProperty : (lowerProperty n location p).1.baseType = n.baseType p.schemaType := by
  unfold lowerProperty
  split <;> rfl

theorem schemaType_lowerProperty : (lowerProperty n location p).1.schemaType = p.schemaType := by
  unfold lowerProperty
  split <;> rfl

/-- Every property of a lowered model has its types printed from its own descriptor. -/
theorem types_of_mem_lowerModel_vars {known : List String} {m : Model} {q : Property}
    (h : q ∈ (lowerModel n known m).1.vars) :
    q.datatype = n.typeText q.schemaType ∧ q.baseType = n.baseType q.schemaType := by
  obtain ⟨q₀, hq₀, hqq₀⟩ := exists_of_mem_markHasMore h
  simp only [List.map_map, List.mem_map, Function.comp_apply] at hq₀
  obtain ⟨p, -, rfl⟩ := hq₀
  -- the marked copy differs from the lowered property in its follow-on flag alone
  have hd := congrArg Property.datatype hqq₀
  have hb := congrArg Property.baseType hqq₀
  have ht := congrArg Property.schemaType hqq₀
  simp only [Property.unmark] at hd hb ht
  rw [hd, hb, ht, datatype_lowerProperty, baseType_lowerProperty, schemaType_lowerProperty]
  exact ⟨rfl, rfl⟩

/-- A lowered model's value type is printed from its descriptor. -/
theorem additionalPropertiesType_lowerModel (known : List String) (m : Model) :
    (lowerModel n known m).1.additionalPropertiesType =
      (lowerModel n known m).1.additionalProperties.map n.typeText := rfl

/-- Every marked parameter is one of the list with its follow-on flag set. -/
theorem exists_of_mem_markParametersHaveMore :
    ∀ {ps : List Parameter} {q : Parameter}, q ∈ markParametersHaveMore ps →
      ∃ p ∈ ps, q = { p with hasMore := q.hasMore }
  | [], _, h => by cases h
  | [p], q, h => by
    rw [markParametersHaveMore, List.mem_singleton] at h
    subst h
    exact ⟨p, List.mem_singleton_self p, rfl⟩
  | p :: p' :: rest, q, h => by
    simp only [markParametersHaveMore] at h
    rcases List.mem_cons.mp h with rfl | h
    · exact ⟨p, List.mem_cons_self, rfl⟩
    · obtain ⟨r, hr, hqr⟩ := exists_of_mem_markParametersHaveMore h
      exact ⟨r, List.mem_cons_of_mem p hr, hqr⟩

/-- An operation lowering keeps has its return type and its parameters' types printed from their
descriptors. -/
theorem types_of_lowerOperation {i : Nat} {o o' : Operation} (h : (lowerOperation n i o).1 = some o') :
    o'.returnType = o'.response.map n.typeText ∧
      ∀ q ∈ o'.parameters, q.datatype = n.typeText q.schemaType := by
  unfold lowerOperation at h
  split at h
  · cases h
  · cases h
    refine ⟨rfl, fun q hq => ?_⟩
    obtain ⟨r, hr, hqr⟩ := exists_of_mem_markParametersHaveMore hq
    rw [hqr]
    obtain ⟨p, -, rfl⟩ := List.mem_map.mp (by simpa only [List.map_map] using hr)
    rfl

end Lower

/-- **References name the models they point to.** Take a document read from text and any context
holding its models, with any manifest. After lowering, every model's parent is the Swift name of
the model its parent name looks up, and nothing when the name is absent or not a model's; and in
every property type, model value type, operation response and parameter type, each reference to
a model of the map prints as that model's Swift name, as long as the type table leaves the
referenced names to the models. -/
theorem lower_names_referenced_models {text filename : String} {doc : SchemaDocument}
    (hdoc : SchemaDocument.ofText text filename = .ok doc) (c : Context) (hc : c.models = doc.models) :
    (∀ k M, c.lower.models.get? k = some M → M.NamesItsModels c.lower.models c.namer) ∧
      ∀ o ∈ c.lower.operations, o.NamesItsModels c.lower.models c.namer := by
  have hK : c.models.KeyedByName := hc ▸ SchemaDocument.keyedByName_of_ofText hdoc
  have hL : ∀ k M, c.lower.models.get? k = some M → M.name = (c.namer.modelName k).name :=
    fun k M h => name_of_get?_lower hK h
  refine ⟨fun k M h => ?_, fun o ho => ?_⟩
  · have hM := h
    rw [get?_lower_models] at hM
    obtain ⟨M₀, -, rfl⟩ := Option.map_eq_some_iff.mp hM
    refine ⟨parent_of_get?_lower hK h, fun q hq ht => ?_, fun q hq ht => ?_, fun t ht => ?_⟩
    · rw [(types_of_mem_lowerModel_vars hq).1]
      exact typeText_eq_print hL _ ht
    · rw [(types_of_mem_lowerModel_vars hq).2]
      exact baseType_eq_printLeaf hL _ ht
    · exact ⟨_, by rw [additionalPropertiesType_lowerModel, ht, Option.map_some], typeText_eq_print hL t⟩
  · obtain ⟨i, o₀, ho₀⟩ := exists_of_mem_lower_operations ho
    obtain ⟨hret, hparams⟩ := types_of_lowerOperation ho₀
    refine ⟨fun t ht => ⟨_, by rw [hret, ht, Option.map_some], typeText_eq_print hL t⟩,
      fun q hq hrefs => ?_⟩
    rw [hparams q hq]
    exact typeText_eq_print hL _ hrefs

/-- A document of a model `Pet` and a model `Owner` under it, holding an array of pets. -/
def ownerPetsText : String :=
  "\x7b\"models\":\x7b\"Pet\":\x7b\"properties\":\x7b\"name\":\x7b\"type\":\"string\"\x7d\x7d\x7d,\"Owner\":\x7b\"parent\":\"Pet\",\"properties\":\x7b\"pets\":\x7b\"type\":\"array\",\"items\":\x7b\"$ref\":\"#/models/Pet\"\x7d\x7d\x7d\x7d\x7d\x7d"

/-- The document `ownerPetsText` reads as. -/
def ownerPetsDocument : SchemaDocument :=
  ⟨⟨[("Pet", { Model.new "Pet" with vars := [Property.new "name" (.primitive "string")] }),
    ("Owner", { Model.new "Owner" with
      parentSchema := some "Pet"
      vars := [Property.new "pets" (.array (.reference "Pet"))] })]⟩, []⟩

theorem ownerPets_names_models :
    SchemaDocument.ofText ownerPetsText "schema.json" = .ok ownerPetsDocument ∧
      (Context.new ownerPetsDocument {}).models = ownerPetsDocument.models ∧
      (∀ k M, (Context.new ownerPetsDocument {}).lower.models.get? k = some M →
        M.NamesItsModels (Context.new ownerPetsDocument {}).lower.models
          (Context.new ownerPetsDocument {}).namer) ∧
      ∀ o ∈ (Context.new ownerPetsDocument {}).lower.operations,
        o.NamesItsModels (Context.new ownerPetsDocument {}).lower.models
          (Context.new ownerPetsDocument {}).namer := by
  have hdoc : SchemaDocument.ofText ownerPetsText "schema.json" = .ok ownerPetsDocument := by
    decide +kernel
  exact ⟨hdoc, rfl, lower_names_referenced_models hdoc _ rfl⟩

/-- A document of a model `file` and a model `Holder` whose property `doc` refers to it. -/
def fileHolderText : String :=
  "\x7b\"models\":\x7b\"file\":\x7b\"properties\":\x7b\"x\":\x7b\"type\":\"string\"\x7d\x7d\x7d,\"Holder\":\x7b\"properties\":\x7b\"doc\":\x7b\"$ref\":\"#/models/file\"\x7d\x7d\x7d\x7d\x7d"

/-- The document `fileHolderText` reads as. -/
def fileHolderDocument : SchemaDocument :=
  ⟨⟨[("file", { Model.new "file" with vars := [Property.new "x" (.primitive "string")] }),
    ("Holder", { Model.new "Holder" with vars := [Property.new "doc" (.reference "file")] })]⟩, []⟩

/-- A reference to a model whose raw name the type table aliases prints as the table's Swift
type: the model `file` is named `File`, but `Holder`'s reference to it prints as `URL`. -/
theorem fileReference_prints_builtin :
    SchemaDocument.ofText fileHolderText "schema.json" = .ok fileHolderDocument ∧
      ((Context.new fileHolderDocument {}).lower.models.get? "file").map (·.name) = some "File" ∧
      ((Context.new fileHolderDocument {}).lower.models.get? "Holder").map
          (fun M => M.vars.map fun q => (q.schemaType, q.datatype, q.baseType)) =
        some [(.reference "file", "URL", "URL")] := by
  decide +kernel

end SwiftSchema
