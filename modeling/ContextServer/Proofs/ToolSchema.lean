import ContextServer.Payload.Tool
import ContextServer.Proofs.Dict
import Mathlib.Data.List.Induction

/-!
# Schemas of tools

A tool that is built step by step takes an object whose *properties* the steps declare
(`ToolBuilder.declarations`). Of the declarations of one name the latest counts for the schema
of the property (`ToolBuilder.properties_steps`). The names that are required, however, are
those of all declarations that say so, one for each (`ToolBuilder.required_steps`): a name that
is declared again keeps its place there, whatever its latest declaration says, and may get a
second one. So the schema is the one of the latest declarations (`Json.Declares`) exactly if
no name is declared again after it was declared as required (`Tool.schema_ofSteps`).
-/

namespace ContextServer

namespace ToolBuilder

/-! ## Declarations -/

/-- A property as a step declares it. -/
structure Declaration where
  name : String
  schema : Json
  /-- The caller must supply it. -/
  required : Bool

/-- The property that a step declares. -/
def Step.declaration? : Step → Option Declaration
  | .description _ => none
  | .property name kind text required => some { name, schema := primitive kind text, required }
  | .schemaProperty name schema required => some { name, schema, required }

/-- The properties that steps declare, the first one first. -/
def declarations (steps : List Step) : List Declaration := steps.filterMap Step.declaration?

/-- No later declaration is of that name. -/
def Declaration.IsLatest (d : Declaration) (ds : List Declaration) : Prop :=
  ∃ before after, ds = before ++ d :: after ∧ ∀ d' ∈ after, d'.name ≠ d.name

/-- The names that are declared as required, one for each such declaration. -/
def requiredNames (ds : List Declaration) : List String :=
  (ds.filter (·.required)).map (·.name)

end ToolBuilder

open ToolBuilder (Declaration requiredNames)

/-! ## Schemas -/

namespace Json

/-- The schema requires these names; it says nothing if there are none. -/
def Requires (schema : Json) (names : List String) : Prop :=
  schema.member? "required" = if names = [] then none else some (.array (names.map .string))

/-- The schema has one property of each name, with the schema of the latest declaration. -/
def HasProperties (schema : Json) (ds : List Declaration) : Prop :=
  ∃ ps, schema.member? "properties" = some (.object ps) ∧ (ps.map Prod.fst).Nodup ∧
    ∀ name j, (name, j) ∈ ps ↔ ∃ d : Declaration, d.IsLatest ds ∧ d.name = name ∧ d.schema = j

/-- The schema is the one of the latest declarations: it has their properties, and requires
    those of them that are required, each of them once. -/
structure Declares (schema : Json) (ds : List Declaration) : Prop where
  object : schema.member? "type" = some (.string "object")
  properties : schema.HasProperties ds
  required : ∃ names, schema.Requires names ∧ names.Nodup ∧
    ∀ name, name ∈ names ↔ ∃ d : Declaration, d.IsLatest ds ∧ d.name = name ∧ d.required = true

theorem Requires.eq {schema : Json} {names names' : List String} (h : schema.Requires names)
    (h' : schema.Requires names') : names' = names := by
  rw [Requires] at h h'
  rw [h] at h'
  split at h' <;> split at h'
  · next hnil hnil' => rw [hnil, hnil']
  · cases h'
  · cases h'
  · have hnames := Json.array.inj (Option.some.inj h')
    exact (List.map_inj_right fun _ _ => Json.string.inj).1 hnames.symm

end Json

namespace ToolBuilder

variable {d : Declaration} {ds : List Declaration} {name : String} {steps : List Step}

/-! ## Steps -/

/-- A step that declares a property does nothing else. -/
theorem step_of_declaration {b : ToolBuilder} {x : Step} (hx : x.declaration? = some d) :
    b.step x = b.declare d.name d.schema d.required := by
  cases x with
  | description => cases hx
  | property | schemaProperty =>
    cases hx
    rfl

theorem declarations_concat (steps : List Step) (x : Step) :
    declarations (steps ++ [x]) = declarations steps ++ x.declaration?.toList := by
  rw [declarations, List.filterMap_append, declarations]
  cases hx : x.declaration? <;> simp [hx]

/-- The properties are those of the declarations; of one name the latest counts. -/
theorem properties_steps (name : String) (steps : List Step) :
    (steps.foldl step { name }).properties =
      .ofList ((declarations steps).map fun d => (d.name, d.schema)) := by
  induction steps using List.reverseRecOn with
  | nil => rfl
  | append_singleton steps x ih =>
    rw [List.foldl_append, List.foldl_cons, List.foldl_nil, declarations_concat]
    cases hx : x.declaration? with
    | none =>
      cases x with
      | description => simpa [step] using ih
      | _ => cases hx
    | some d =>
      rw [step_of_declaration hx, declare, ih, Option.toList_some, List.map_append,
        List.map_singleton, Dict.ofList_concat]

/-- Every declaration as required adds its name to those before it. -/
theorem required_steps (name : String) (steps : List Step) :
    (steps.foldl step { name }).required = requiredNames (declarations steps) := by
  induction steps using List.reverseRecOn with
  | nil => rfl
  | append_singleton steps x ih =>
    rw [List.foldl_append, List.foldl_cons, List.foldl_nil, declarations_concat]
    cases hx : x.declaration? with
    | none =>
      cases x with
      | description => simpa [step] using ih
      | _ => cases hx
    | some d =>
      rw [step_of_declaration hx, declare, Option.toList_some, requiredNames, List.filter_append,
        List.map_append, ← requiredNames, ← ih]
      cases hd : d.required <;> simp [hd]

/-! ## Latest declarations -/

/-- The latest declarations are those that a dictionary of all of them holds. -/
theorem get?_ofList_iff {j : Json} :
    (Dict.ofList (ds.map fun d => (d.name, d.schema))).get? name = some j ↔
      ∃ d : Declaration, d.IsLatest ds ∧ d.name = name ∧ d.schema = j := by
  rw [Dict.get?, Dict.ofList, Entries.lookup_sort_eq_some_iff]
  constructor
  · rintro ⟨before, after, hds, hafter⟩
    obtain ⟨before, rest, rfl, rfl, hrest⟩ := List.map_eq_append_iff.1 hds
    obtain ⟨d, after, rfl, hd, rfl⟩ := List.map_eq_cons_iff.1 hrest
    cases hd
    refine ⟨d, ⟨before, after, rfl, fun d' hd' hname => hafter ?_⟩, rfl, rfl⟩
    rw [List.map_map, ← hname]
    exact List.mem_map_of_mem hd'
  · rintro ⟨d, ⟨before, after, rfl, hafter⟩, rfl, rfl⟩
    refine ⟨_, _, by rw [List.map_append, List.map_cons], fun hmem => ?_⟩
    rw [List.map_map, List.mem_map] at hmem
    obtain ⟨d', hd', hname⟩ := hmem
    exact hafter d' hd' hname

/-- Declarations as required are the latest ones of their names, if no such name is declared
    again. -/
theorem isLatest_of_required
    (h : ds.Pairwise fun d d' => d.required = true → d'.name ≠ d.name) (hd : d ∈ ds)
    (hrequired : d.required = true) : d.IsLatest ds := by
  obtain ⟨before, after, rfl⟩ := List.append_of_mem hd
  refine ⟨before, after, rfl, fun d' hd' => ?_⟩
  exact List.rel_of_pairwise_cons (List.pairwise_append.1 h).2.1 hd' hrequired

/-! ## Required names -/

theorem mem_requiredNames :
    name ∈ requiredNames ds ↔ ∃ d ∈ ds, d.name = name ∧ d.required = true := by
  simp only [requiredNames, List.mem_map, List.mem_filter]
  exact ⟨fun ⟨d, ⟨hd, hrequired⟩, hname⟩ => ⟨d, hd, hname, hrequired⟩,
    fun ⟨d, hd, hname, hrequired⟩ => ⟨d, ⟨hd, hrequired⟩, hname⟩⟩

theorem nodup_requiredNames_iff : (requiredNames ds).Nodup ↔
    ds.Pairwise fun d d' => d.required = true → d'.required = true → d.name ≠ d'.name := by
  rw [requiredNames, List.Nodup, List.pairwise_map, List.pairwise_filter]

/-- If the names that are required are so by their latest declarations, and none is there twice,
    none is declared again after it was declared as required. -/
theorem pairwise_of_requiredNames (hnodup : (requiredNames ds).Nodup)
    (hlatest : ∀ d ∈ ds, d.required = true →
      ∃ e : Declaration, e.IsLatest ds ∧ e.name = d.name ∧ e.required = true) :
    ds.Pairwise fun d d' => d.required = true → d'.name ≠ d.name := by
  refine List.pairwise_iff_forall_sublist.2 fun {d d'} hsub hrequired hname => ?_
  have hd : d ∈ ds := hsub.subset List.mem_cons_self
  obtain ⟨e, ⟨before, after, rfl, hafter⟩, hsame, he⟩ := hlatest d hd hrequired
  -- The second declaration is not behind the latest one, so the first one is before it.
  have hbefore : d ∈ before := by
    obtain ⟨front, back, heq, hfront, hback⟩ := List.sublist_append_iff.1 hsub
    cases front with
    | nil =>
      rw [← List.nil_append back, ← heq] at hback
      exact absurd (hname.trans hsame.symm) (hafter d' (hback.tail.subset List.mem_cons_self))
    | cons a front =>
      obtain rfl := (List.cons.inj heq).1
      exact hfront.subset List.mem_cons_self
  have hpairwise := List.pairwise_append.1 (nodup_requiredNames_iff.1 hnodup)
  exact hpairwise.2.2 d hbefore e List.mem_cons_self hrequired he hsame.symm

/-- The names are those of the latest declarations, each once, exactly if none is declared again
    after it was declared as required. -/
theorem requiredNames_iff :
    ((requiredNames ds).Nodup ∧ ∀ name, name ∈ requiredNames ds ↔
        ∃ d : Declaration, d.IsLatest ds ∧ d.name = name ∧ d.required = true) ↔
      ds.Pairwise fun d d' => d.required = true → d'.name ≠ d.name := by
  constructor
  · rintro ⟨hnodup, hlatest⟩
    exact pairwise_of_requiredNames hnodup fun d hd hrequired =>
      (hlatest d.name).1 (mem_requiredNames.2 ⟨d, hd, rfl, hrequired⟩)
  · intro hds
    refine ⟨nodup_requiredNames_iff.2 (hds.imp fun h hd _ hname => h hd hname.symm),
      fun name => ?_⟩
    rw [mem_requiredNames]
    constructor
    · rintro ⟨d, hd, hname, hrequired⟩
      exact ⟨d, isLatest_of_required hds hd hrequired, hname, hrequired⟩
    · rintro ⟨d, ⟨before, after, rfl, -⟩, hname, hrequired⟩
      exact ⟨d, List.mem_append_right _ List.mem_cons_self, hname, hrequired⟩

end ToolBuilder

/-! ## Tools -/

namespace Tool

theorem hasProperties_ofSteps (name : String) (steps : List ToolBuilder.Step) :
    (ofSteps name steps).inputSchema.HasProperties (ToolBuilder.declarations steps) := by
  refine ⟨_, rfl, Dict.nodup_keys _, fun n j => ?_⟩
  rw [Dict.mem_entries, ToolBuilder.properties_steps, ToolBuilder.get?_ofList_iff]

theorem requires_ofSteps (name : String) (steps : List ToolBuilder.Step) :
    (ofSteps name steps).inputSchema.Requires
      (requiredNames (ToolBuilder.declarations steps)) := by
  rw [← ToolBuilder.required_steps name, Json.Requires, ofSteps, ToolBuilder.build,
    ToolBuilder.schema]
  cases (steps.foldl ToolBuilder.step { name }).required <;>
    simp [Json.member?, Entries.lookup]

theorem type_ofSteps (name : String) (steps : List ToolBuilder.Step) :
    (ofSteps name steps).inputSchema.member? "type" = some (.string "object") := by
  rw [ofSteps, ToolBuilder.build, ToolBuilder.schema]
  cases (steps.foldl ToolBuilder.step { name }).required <;>
    simp [Json.member?, Entries.lookup]

/-- The schema is the one of the latest declarations exactly if no name is declared again after
    it was declared as required. -/
theorem declares_ofSteps_iff (name : String) (steps : List ToolBuilder.Step) :
    (ofSteps name steps).inputSchema.Declares (ToolBuilder.declarations steps) ↔
      (ToolBuilder.declarations steps).Pairwise fun d d' =>
        d.required = true → d'.name ≠ d.name := by
  have hrequires := requires_ofSteps name steps
  rw [← ToolBuilder.requiredNames_iff]
  constructor
  · rintro ⟨-, -, names, hnames, hlatest⟩
    rwa [hrequires.eq hnames] at hlatest
  · exact fun hlatest =>
      ⟨type_ofSteps name steps, hasProperties_ofSteps name steps, _, hrequires, hlatest⟩

/-- **Schemas of tools.** The schema of a tool that is built from steps is one of an object, has
    one property of each name that they declare, with its latest schema, and requires the name of
    each declaration as required. This is what the latest declarations say exactly if no name is
    declared again after it was declared as required. -/
theorem schema_ofSteps (name : String) (steps : List ToolBuilder.Step) :
    let ds := ToolBuilder.declarations steps
    let schema := (ofSteps name steps).inputSchema
    schema.member? "type" = some (.string "object") ∧ schema.HasProperties ds ∧
      schema.Requires (requiredNames ds) ∧
      (schema.Declares ds ↔ ds.Pairwise fun d d' => d.required = true → d'.name ≠ d.name) :=
  ⟨type_ofSteps name steps, hasProperties_ofSteps name steps, requires_ofSteps name steps,
    declares_ofSteps_iff name steps⟩

/-- A name is declared as required and then as one that is not: it is required all the same. -/
theorem schema_ofSteps_again :
    let steps : List ToolBuilder.Step :=
      [.property "a" "number" "x" true, .property "a" "number" "x" false]
    ¬(ofSteps "t" steps).inputSchema.Declares (ToolBuilder.declarations steps) := by
  intro steps hdeclares
  have hpairwise := (declares_ofSteps_iff "t" steps).1 hdeclares
  exact List.pairwise_pair.1 hpairwise rfl rfl

end Tool

end ContextServer
