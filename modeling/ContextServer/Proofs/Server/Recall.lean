import ContextServer.Proofs.Dict
import ContextServer.Server.Basic

/-!
# What handlers remember

A handler remembers what it was asked, and this is the only trace that an operation
of the registry leaves (`Registry.unasked_callTool`, `Registry.unasked_readResource`,
`Registry.unasked_getPrompt`): the registry as it was before anybody asked it anything
(`Registry.unasked`) stays what it is. A trace it is, though: a registry is not the one that
it was exactly if one of its handlers was asked (`Registry.callTool_ne_iff`,
`Registry.readResource_ne_iff`, `Registry.getPrompt_ne_iff`).

A *forgetful* handler answers from its input alone. Registries of such handlers that
differ in nothing but what was asked give the same answers (`Registry.callTool_congr`,
`Registry.readResource_congr`, `Registry.getPrompt_congr`).
-/

namespace ContextServer

/-! ## Handlers -/

namespace Handler

variable {ι α : Type}

/-- The handler before it was asked anything. -/
def unasked (h : Handler ι α) : Handler ι α := { h with earlier := [] }

/-- The handler after it was asked these inputs as well, of which the first one is the latest. -/
def after (h : Handler ι α) (inputs : List ι) : Handler ι α :=
  { h with earlier := inputs ++ h.earlier }

/-- What was asked earlier has no part in the answers. -/
def IsForgetful (h : Handler ι α) : Prop :=
  ∀ earlier input, h.respond earlier input = h.respond [] input

/-- To be asked leaves a trace. -/
theorem ask_ne (h : Handler ι α) (input : ι) : (h.ask input).2 ≠ h :=
  fun he => List.cons_ne_self input h.earlier (congrArg Handler.earlier he)

theorem IsForgetful.ask_unasked {h : Handler ι α} (hf : h.IsForgetful) (input : ι) :
    (h.unasked.ask input).1 = (h.ask input).1 :=
  (hf h.earlier input).symm

end Handler

/-! ## Components -/

/-- The tool before it was called. -/
def ToolComponent.unasked (c : ToolComponent) : ToolComponent :=
  { c with handler := c.handler.unasked }

/-- The resource before it was read. -/
def ResourceComponent.unasked (c : ResourceComponent) : ResourceComponent :=
  { c with handler := c.handler.unasked }

/-- The template before anything of it was read. -/
def TemplateComponent.unasked (c : TemplateComponent) : TemplateComponent :=
  { c with handler := c.handler.unasked }

/-- The prompt before it was filled in. -/
def PromptComponent.unasked (c : PromptComponent) : PromptComponent :=
  { c with handler := c.handler.unasked }

/-- The tool after calls with these arguments. -/
def ToolComponent.after (c : ToolComponent) (inputs : List Json) : ToolComponent :=
  { c with handler := c.handler.after inputs }

/-- The resource after these readings. -/
def ResourceComponent.after (c : ResourceComponent) (inputs : List String) : ResourceComponent :=
  { c with handler := c.handler.after inputs }

/-- The template after these readings. -/
def TemplateComponent.after (c : TemplateComponent) (inputs : List TemplateQuery) :
    TemplateComponent :=
  { c with handler := c.handler.after inputs }

/-- The prompt after it was filled in with these arguments. -/
def PromptComponent.after (c : PromptComponent) (inputs : List (Dict String)) : PromptComponent :=
  { c with handler := c.handler.after inputs }

namespace Component

/-- The component before it was asked anything. -/
def unasked : Component → Component
  | .tool c => .tool c.unasked
  | .resource c => .resource c.unasked
  | .template c => .template c.unasked
  | .prompt c => .prompt c.unasked

/-- The component answers from its input alone. -/
def IsForgetful : Component → Prop
  | .tool c => c.handler.IsForgetful
  | .resource c => c.handler.IsForgetful
  | .template c => c.handler.IsForgetful
  | .prompt c => c.handler.IsForgetful

theorem isForgetful_unasked (c : Component) : c.unasked.IsForgetful ↔ c.IsForgetful := by
  cases c <;> rfl

end Component

/-! ## Registries -/

namespace Registry

variable {r r' : Registry}

/-- The registry before it was asked anything. -/
def unasked (r : Registry) : Registry where
  tools := r.tools.map .unasked
  resources := r.resources.map .unasked
  templates := r.templates.map .unasked
  prompts := r.prompts.map .unasked

/-- The component of a family under a key. -/
def component? (r : Registry) : Family → (key : String) → Option Component
  | .tools, key => (r.tools.get? key).map .tool
  | .resources, key => (r.resources.get? key).map .resource
  | .templates, key => (r.templates.get? key).map .template
  | .prompts, key => (r.prompts.get? key).map .prompt

/-- Every component answers from its input alone. -/
def IsForgetful (r : Registry) : Prop :=
  ∀ family key c, r.component? family key = some c → c.IsForgetful

theorem component?_unasked (family : Family) (key : String) :
    r.unasked.component? family key = (r.component? family key).map .unasked := by
  cases family <;> simp only [component?, unasked, Dict.get?_map, Option.map_map] <;> rfl

theorem component?_add (c : Component) (family : Family) (key : String) :
    (r.add c).component? family key =
      if family = c.family ∧ key = c.key then some c else r.component? family key := by
  cases c <;> cases family <;>
    simp only [add, component?, Component.family, Component.key, Dict.get?_insert, reduceCtorEq,
      false_and, if_false, true_and, eq_comm (a := key)]
  all_goals split <;> rfl

theorem component?_remove (f : Family) (k : String) (family : Family) (key : String) :
    (r.remove f k).component? family key =
      if family = f ∧ key = k then none else r.component? family key := by
  cases f <;> cases family <;>
    simp only [remove, component?, Dict.get?_erase, reduceCtorEq, false_and, if_false, true_and,
      eq_comm (a := key)]
  all_goals split <;> rfl

theorem isForgetful_empty : IsForgetful {} := by
  intro family key c hc
  cases family <;> cases hc

theorem IsForgetful.add (h : r.IsForgetful) {c : Component} (hc : c.IsForgetful) :
    (r.add c).IsForgetful := by
  intro family key c' hc'
  rw [component?_add] at hc'
  split at hc'
  · cases hc'
    exact hc
  · exact h family key c' hc'

theorem IsForgetful.remove (h : r.IsForgetful) (f : Family) (k : String) :
    (r.remove f k).IsForgetful := by
  intro family key c hc
  rw [component?_remove] at hc
  split at hc
  · cases hc
  · exact h family key c hc

/-- What was asked has no part in whether the handlers are forgetful. -/
theorem IsForgetful.congr (h : r.IsForgetful) (he : r'.unasked = r.unasked) :
    r'.IsForgetful := by
  intro family key c' hc'
  have hsame : (r'.component? family key).map Component.unasked =
      (r.component? family key).map Component.unasked := by
    rw [← component?_unasked, he, component?_unasked]
  rw [hc', Option.map_some, eq_comm, Option.map_eq_some_iff] at hsame
  obtain ⟨c, hc, hcc⟩ := hsame
  rw [← c'.isForgetful_unasked, ← hcc, c.isForgetful_unasked]
  exact h family key c hc

/-! ### Registering -/

theorem unasked_add (c : Component) : (r.add c).unasked = r.unasked.add c.unasked := by
  cases c <;> simp only [add, unasked, Component.unasked, Dict.map_insert] <;> rfl

theorem unasked_remove (f : Family) (k : String) :
    (r.remove f k).unasked = r.unasked.remove f k := by
  cases f <;> simp only [remove, unasked, Dict.map_erase]

theorem has_unasked (f : Family) (k : String) : r.unasked.has f k = r.has f k := by
  cases f <;> exact Dict.contains_map _ _ k

/-! ### Listing -/

theorem listTools_unasked : r.unasked.listTools = r.listTools := by
  simp only [listTools, unasked, Dict.values, Dict.map, List.map_map]
  rfl

theorem listResources_unasked : r.unasked.listResources = r.listResources := by
  simp only [listResources, unasked, Dict.values, Dict.map, List.map_map]
  rfl

theorem listTemplates_unasked : r.unasked.listTemplates = r.listTemplates := by
  simp only [listTemplates, unasked, Dict.values, Dict.map, List.map_map]
  rfl

theorem listPrompts_unasked : r.unasked.listPrompts = r.listPrompts := by
  simp only [listPrompts, unasked, Dict.values, Dict.map, List.map_map]
  rfl

/-! ### Serving -/

theorem unasked_callTool (request : CallToolRequest) :
    (r.callTool request).2.unasked = r.unasked := by
  rw [callTool]
  split
  · rfl
  · next c hc =>
    -- The handler is written back under the key that it was found under.
    simp only [unasked, Handler.ask]
    rw [Dict.map_insert_of_get? hc]
    rfl

/-- The template that is found is the one under its key. -/
theorem get?_of_templateFor? {uri key : String} {c : TemplateComponent} {bindings : Dict String}
    (h : r.templateFor? uri = some (key, c, bindings)) : r.templates.get? key = some c := by
  obtain ⟨⟨key', c'⟩, hmem, hmatch⟩ := List.exists_of_findSome?_eq_some h
  obtain ⟨bindings', -, heq⟩ := Option.map_eq_some_iff.1 hmatch
  cases heq
  exact Dict.mem_entries.1 hmem

theorem templateFor?_unasked (uri : String) :
    r.unasked.templateFor? uri =
      (r.templateFor? uri).map fun (key, c, bindings) => (key, c.unasked, bindings) := by
  simp only [templateFor?, unasked, Dict.map, List.findSome?_map, List.map_findSome?]
  congr 1
  funext e
  simp only [Function.comp_apply, Option.map_map]
  rfl

theorem unasked_readResource (uri : String) : (r.readResource uri).2.unasked = r.unasked := by
  rw [readResource]
  split
  · next c hc =>
    simp only [unasked, Handler.ask]
    rw [Dict.map_insert_of_get? hc]
    rfl
  · split
    · next key c bindings htemplate =>
      simp only [unasked, Handler.ask]
      rw [Dict.map_insert_of_get? (get?_of_templateFor? htemplate)]
      rfl
    · rfl

theorem unasked_getPrompt (request : GetPromptRequest) :
    (r.getPrompt request).2.unasked = r.unasked := by
  rw [getPrompt]
  split
  · rfl
  · next c hc =>
    split
    · rfl
    · simp only [unasked, Handler.ask]
      rw [Dict.map_insert_of_get? hc]
      rfl

/-! ### Traces -/

theorem callTool_ne {request : CallToolRequest} {c : ToolComponent}
    (hc : r.tools.get? request.name = some c) : (r.callTool request).2 ≠ r := by
  simp only [callTool, hc]
  exact fun he => Dict.insert_ne hc (fun hc' => c.handler.ask_ne _ (congrArg (·.handler) hc'))
    (congrArg Registry.tools he)

theorem readResource_ne {uri : String} {c : ResourceComponent}
    (hc : r.resources.get? uri = some c) : (r.readResource uri).2 ≠ r := by
  simp only [readResource, hc]
  exact fun he => Dict.insert_ne hc (fun hc' => c.handler.ask_ne _ (congrArg (·.handler) hc'))
    (congrArg Registry.resources he)

theorem readTemplate_ne {uri key : String} {c : TemplateComponent} {bindings : Dict String}
    (hnone : r.resources.get? uri = none) (hc : r.templateFor? uri = some (key, c, bindings)) :
    (r.readResource uri).2 ≠ r := by
  simp only [readResource, hnone, hc]
  exact fun he => Dict.insert_ne (get?_of_templateFor? hc)
    (fun hc' => c.handler.ask_ne _ (congrArg (·.handler) hc')) (congrArg Registry.templates he)

theorem getPrompt_ne {request : GetPromptRequest} {c : PromptComponent}
    (hc : r.prompts.get? request.name = some c)
    (hgiven : missingArgument? c.descriptor request.arguments = none) :
    (r.getPrompt request).2 ≠ r := by
  simp only [getPrompt, hc, hgiven]
  exact fun he => Dict.insert_ne hc (fun hc' => c.handler.ask_ne _ (congrArg (·.handler) hc'))
    (congrArg Registry.prompts he)

/-- A call leaves a trace exactly if there is such a tool. -/
theorem callTool_ne_iff {request : CallToolRequest} :
    (r.callTool request).2 ≠ r ↔ ∃ c, r.tools.get? request.name = some c := by
  constructor
  · intro hne
    cases hc : r.tools.get? request.name with
    | none => exact absurd (by rw [callTool, hc]) hne
    | some c => exact ⟨c, rfl⟩
  · rintro ⟨c, hc⟩
    exact callTool_ne hc

/-- A reading leaves a trace exactly if there is such a resource, or a template that the URI
    is an instance of. -/
theorem readResource_ne_iff {uri : String} :
    (r.readResource uri).2 ≠ r ↔
      (∃ c, r.resources.get? uri = some c) ∨ ∃ found, r.templateFor? uri = some found := by
  constructor
  · intro hne
    cases hc : r.resources.get? uri with
    | some c => exact .inl ⟨c, rfl⟩
    | none =>
      cases ht : r.templateFor? uri with
      | some found => exact .inr ⟨found, rfl⟩
      | none => exact absurd (by simp only [readResource, hc, ht]) hne
  · rintro (⟨c, hc⟩ | ⟨⟨key, c, bindings⟩, ht⟩)
    · exact readResource_ne hc
    · cases hc : r.resources.get? uri with
      | some c => exact readResource_ne hc
      | none => exact readTemplate_ne hc ht

/-- A filling in leaves a trace exactly if there is such a prompt and it has all that it
    requires. -/
theorem getPrompt_ne_iff {request : GetPromptRequest} :
    (r.getPrompt request).2 ≠ r ↔ ∃ c, r.prompts.get? request.name = some c ∧
      missingArgument? c.descriptor request.arguments = none := by
  constructor
  · intro hne
    cases hc : r.prompts.get? request.name with
    | none => exact absurd (by simp only [getPrompt, hc]) hne
    | some c =>
      refine ⟨c, rfl, ?_⟩
      cases hgiven : missingArgument? c.descriptor request.arguments with
      | none => rfl
      | some name => exact absurd (by simp only [getPrompt, hc, hgiven]) hne
  · rintro ⟨c, hc, hgiven⟩
    exact getPrompt_ne hc hgiven

/-! ### Answers of forgetful handlers -/

theorem callTool_unasked (h : r.IsForgetful) (request : CallToolRequest) :
    (r.unasked.callTool request).1 = (r.callTool request).1 := by
  cases hc : r.tools.get? request.name with
  | none => simp only [callTool, unasked, Dict.get?_map, hc, Option.map_none]
  | some c =>
    have hforgetful : c.handler.IsForgetful :=
      h .tools request.name (.tool c) (by rw [component?, hc, Option.map_some])
    simp only [callTool, unasked, Dict.get?_map, hc, Option.map_some, ToolComponent.unasked]
    rw [hforgetful.ask_unasked]

theorem readResource_unasked (h : r.IsForgetful) (uri : String) :
    (r.unasked.readResource uri).1 = (r.readResource uri).1 := by
  have hget : r.unasked.resources.get? uri = (r.resources.get? uri).map .unasked :=
    Dict.get?_map _ _ _
  cases hc : r.resources.get? uri with
  | some c =>
    have hforgetful : c.handler.IsForgetful :=
      h .resources uri (.resource c) (by rw [component?, hc, Option.map_some])
    simp only [readResource, hget, hc, Option.map_some, ResourceComponent.unasked]
    rw [hforgetful.ask_unasked]
  | none =>
    simp only [readResource, hget, hc, Option.map_none, templateFor?_unasked]
    cases ht : r.templateFor? uri with
    | none => rfl
    | some found =>
      obtain ⟨key, c, bindings⟩ := found
      have hforgetful : c.handler.IsForgetful :=
        h .templates key (.template c)
          (by rw [component?, get?_of_templateFor? ht, Option.map_some])
      simp only [Option.map_some, TemplateComponent.unasked]
      rw [hforgetful.ask_unasked]

theorem getPrompt_unasked (h : r.IsForgetful) (request : GetPromptRequest) :
    (r.unasked.getPrompt request).1 = (r.getPrompt request).1 := by
  cases hc : r.prompts.get? request.name with
  | none => simp only [getPrompt, unasked, Dict.get?_map, hc, Option.map_none]
  | some c =>
    have hforgetful : c.handler.IsForgetful :=
      h .prompts request.name (.prompt c) (by rw [component?, hc, Option.map_some])
    simp only [getPrompt, unasked, Dict.get?_map, hc, Option.map_some, PromptComponent.unasked]
    cases missingArgument? c.descriptor request.arguments with
    | some name => rfl
    | none =>
      dsimp only
      rw [hforgetful.ask_unasked]

section

variable (h : r.IsForgetful) (he : r'.unasked = r.unasked)

include h he

theorem callTool_congr (request : CallToolRequest) :
    (r'.callTool request).1 = (r.callTool request).1 := by
  rw [← callTool_unasked (h.congr he), he, callTool_unasked h]

theorem readResource_congr (uri : String) : (r'.readResource uri).1 = (r.readResource uri).1 := by
  rw [← readResource_unasked (h.congr he), he, readResource_unasked h]

theorem getPrompt_congr (request : GetPromptRequest) :
    (r'.getPrompt request).1 = (r.getPrompt request).1 := by
  rw [← getPrompt_unasked (h.congr he), he, getPrompt_unasked h]

end

end Registry

end ContextServer
