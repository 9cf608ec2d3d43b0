import ContextServer.Proofs.Server.Answer
import ContextServer.Proofs.Server.Reading

/-!
# Components in use

What becomes of components while they are in use. A component that is asked more is the same
component with a longer memory (`Component.Later`), and a registry that is used is the same
registry with such components (`Registry.Later`). All that a request does to a registry is of
this kind (`Server.later_perform`), and it goes along with every change
(`Registry.Later.change`). So the components of a registry are still those that stand after its
changes, whoever asked them what in between.
-/

namespace ContextServer

/-! ## Components -/

theorem Handler.after_after {ι α : Type} (h : Handler ι α) (inputs later : List ι) :
    (h.after inputs).after later = h.after (later ++ inputs) := by
  rw [after, after, after, List.append_assoc]

/-- The second component is the first one after it was asked more. -/
inductive Component.Later : Component → Component → Prop
  | tool (c : ToolComponent) (inputs : List Json) : Later (.tool c) (.tool (c.after inputs))
  | resource (c : ResourceComponent) (inputs : List String) :
      Later (.resource c) (.resource (c.after inputs))
  | template (c : TemplateComponent) (inputs : List TemplateQuery) :
      Later (.template c) (.template (c.after inputs))
  | prompt (c : PromptComponent) (inputs : List (Dict String)) :
      Later (.prompt c) (.prompt (c.after inputs))

namespace Component.Later

variable {c c' c'' : Component}

theorem refl (c : Component) : c.Later c := by
  cases c with
  | tool c => exact .tool c []
  | resource c => exact .resource c []
  | template c => exact .template c []
  | prompt c => exact .prompt c []

theorem trans (h : c.Later c') (h' : c'.Later c'') : c.Later c'' := by
  cases h with
  | tool c inputs =>
    cases h' with
    | tool _ later =>
      rw [ToolComponent.after, ToolComponent.after, Handler.after_after]
      exact .tool c (later ++ inputs)
  | resource c inputs =>
    cases h' with
    | resource _ later =>
      rw [ResourceComponent.after, ResourceComponent.after, Handler.after_after]
      exact .resource c (later ++ inputs)
  | template c inputs =>
    cases h' with
    | template _ later =>
      rw [TemplateComponent.after, TemplateComponent.after, Handler.after_after]
      exact .template c (later ++ inputs)
  | prompt c inputs =>
    cases h' with
    | prompt _ later =>
      rw [PromptComponent.after, PromptComponent.after, Handler.after_after]
      exact .prompt c (later ++ inputs)

theorem unasked (h : c.Later c') : c'.unasked = c.unasked := by
  cases h <;> rfl

theorem family (h : c.Later c') : c'.family = c.family := by
  cases h <;> rfl

theorem key (h : c.Later c') : c'.key = c.key := by
  cases h <;> rfl

end Component.Later

/-! ## Registries -/

namespace Registry

variable {r r' r'' : Registry} {f : Family} {key : String} {xs : List Change}

/-- The second registry is the first one after its components were asked more. -/
structure Later (r r' : Registry) : Prop where
  found : ∀ f key c, r.component? f key = some c →
    ∃ c', r'.component? f key = some c' ∧ c.Later c'
  missing : ∀ f key, r.component? f key = none → r'.component? f key = none

theorem Later.refl (r : Registry) : r.Later r :=
  ⟨fun _ _ c hc => ⟨c, hc, .refl c⟩, fun _ _ hno => hno⟩

theorem Later.trans (h : r.Later r') (h' : r'.Later r'') : r.Later r'' where
  found f key c hc := by
    obtain ⟨c', hc', hlater⟩ := h.found f key c hc
    obtain ⟨c'', hc'', hlater'⟩ := h'.found f key c' hc'
    exact ⟨c'', hc'', hlater.trans hlater'⟩
  missing f key hno := h'.missing f key (h.missing f key hno)

/-- A change is the same before and after. -/
theorem Later.change (h : r.Later r') (x : Change) : (r.change x).Later (r'.change x) where
  found f key c hc := by
    rw [component?_change] at hc ⊢
    split
    · next hx =>
      rw [if_pos hx] at hc
      exact ⟨c, hc, .refl c⟩
    · next hx => exact h.found f key c (by rwa [if_neg hx] at hc)
  missing f key hno := by
    rw [component?_change] at hno ⊢
    split
    · next hx => rwa [if_pos hx] at hno
    · next hx => exact h.missing f key (by rwa [if_neg hx] at hno)

/-- A component that is asked more stays under its key. -/
theorem later_add {c c' : Component} (hc : r.component? c'.family c'.key = some c)
    (hlater : c.Later c') : r.Later (r.add c') where
  found f key c₀ hc₀ := by
    rw [component?_add]
    split
    · next hkey =>
      rw [hkey.1, hkey.2, hc] at hc₀
      cases hc₀
      exact ⟨c', rfl, hlater⟩
    · exact ⟨c₀, hc₀, .refl c₀⟩
  missing f key hno := by
    rw [component?_add]
    split
    · next hkey =>
      rw [hkey.1, hkey.2, hc] at hno
      cases hno
    · exact hno

theorem Later.unasked (h : r.Later r') : r'.unasked = r.unasked :=
  ext_component? fun f key => by
    rw [component?_unasked, component?_unasked]
    cases hc : r.component? f key with
    | none => rw [h.missing f key hc]
    | some c =>
      obtain ⟨c', hc', hlater⟩ := h.found f key c hc
      rw [hc', Option.map_some, Option.map_some, hlater.unasked]

/-! ### Keys -/

/-- Components are found under their own keys. -/
def IsKeyed (r : Registry) : Prop :=
  ∀ f key c, r.component? f key = some c → c.family = f ∧ c.key = key

theorem isKeyed_ofChanges (xs : List Change) : (ofChanges xs).IsKeyed :=
  fun _ _ _ hc => (component?_ofChanges.1 hc).2

theorem Later.isKeyed (h : r.Later r') (hkeyed : r.IsKeyed) : r'.IsKeyed := by
  intro f key c' hc'
  cases hc : r.component? f key with
  | none =>
    rw [h.missing f key hc] at hc'
    cases hc'
  | some c =>
    obtain ⟨c'', hc'', hlater⟩ := h.found f key c hc
    obtain rfl : c'' = c' := Option.some.inj (hc''.symm.trans hc')
    rw [hlater.family, hlater.key]
    exact hkeyed f key c hc

/-! ### Operations -/

/-- A tool that is called remembers it. -/
theorem callTool_of_get? {p : CallToolRequest} {c : ToolComponent}
    (hc : r.tools.get? p.name = some c) (hkey : c.descriptor.name = p.name) :
    r.callTool p =
      (((c.handler.ask (p.arguments.getD (.object []))).1.mapError .handler).map .ofText,
        r.add (.tool (c.after [p.arguments.getD (.object [])]))) := by
  rw [callTool, hc]
  dsimp only
  rw [← hkey]
  rfl

/-- A resource that is read remembers it. -/
theorem readResource_of_get? {uri : String} {c : ResourceComponent}
    (hc : r.resources.get? uri = some c) (hkey : c.descriptor.uri = uri) :
    r.readResource uri =
      (ReadResourceResult.ofHandler (c.handler.ask uri).1,
        r.add (.resource (c.after [uri]))) := by
  subst hkey
  rw [readResource, hc, ← ofHandler_eq]
  rfl

/-- A prompt that is filled in remembers it. -/
theorem getPrompt_of_get? {p : GetPromptRequest} {c : PromptComponent}
    (hc : r.prompts.get? p.name = some c) (hkey : c.descriptor.name = p.name)
    (hgiven : missingArgument? c.descriptor p.arguments = none) :
    r.getPrompt p =
      (((c.handler.ask p.arguments).1.mapError .handler).map fun text =>
        { description := c.descriptor.description
          messages := [{ role := .user, content := .ofText text }] },
        r.add (.prompt (c.after [p.arguments]))) := by
  rw [getPrompt, hc]
  dsimp only
  rw [hgiven, ← hkey]
  rfl

theorem IsKeyed.later_callTool (hkeyed : r.IsKeyed) (p : CallToolRequest) :
    r.Later (r.callTool p).2 := by
  cases hc : r.tools.get? p.name with
  | none =>
    simp only [callTool, hc]
    exact .refl r
  | some c =>
    have hfound : r.component? .tools p.name = some (.tool c) := by
      rw [component?, hc, Option.map_some]
    have hkey : c.descriptor.name = p.name := (hkeyed _ _ _ hfound).2
    rw [callTool_of_get? hc hkey]
    refine later_add ?_ (.tool c _)
    rwa [← hkey] at hfound

theorem IsKeyed.later_readResource (hkeyed : r.IsKeyed) (uri : String) :
    r.Later (r.readResource uri).2 := by
  cases hc : r.resources.get? uri with
  | some c =>
    have hfound : r.component? .resources uri = some (.resource c) := by
      rw [component?, hc, Option.map_some]
    have hkey : c.descriptor.uri = uri := (hkeyed _ _ _ hfound).2
    rw [readResource_of_get? hc hkey]
    refine later_add ?_ (.resource c _)
    rwa [← hkey] at hfound
  | none =>
    cases htemplate : r.templateFor? uri with
    | none =>
      simp only [readResource, hc, htemplate]
      exact .refl r
    | some found =>
      obtain ⟨key, c, bindings⟩ := found
      have hfound : r.component? .templates key = some (.template c) := by
        rw [component?, get?_of_templateFor? htemplate, Option.map_some]
      obtain rfl : c.descriptor.uriTemplate = key := (hkeyed _ _ _ hfound).2
      simp only [readResource, hc, htemplate]
      exact later_add hfound (.template c [{ uri, bindings }])

theorem IsKeyed.later_getPrompt (hkeyed : r.IsKeyed) (p : GetPromptRequest) :
    r.Later (r.getPrompt p).2 := by
  cases hc : r.prompts.get? p.name with
  | none =>
    simp only [getPrompt, hc]
    exact .refl r
  | some c =>
    cases hgiven : missingArgument? c.descriptor p.arguments with
    | some name =>
      simp only [getPrompt, hc, hgiven]
      exact .refl r
    | none =>
      have hfound : r.component? .prompts p.name = some (.prompt c) := by
        rw [component?, hc, Option.map_some]
      have hkey : c.descriptor.name = p.name := (hkeyed _ _ _ hfound).2
      rw [getPrompt_of_get? hc hkey hgiven]
      refine later_add ?_ (.prompt c _)
      rwa [← hkey] at hfound

end Registry

/-! ## Requests -/

namespace Server

variable {server : Server} {s : Session}

theorem later_given {α : Type} {shape : Shape α} {params : Option Json}
    {operation : α → Served (Outcome Failure Json)}
    (h : ∀ p, server.registry.Later (operation p).server.registry) :
    server.registry.Later (server.given s shape params operation).server.registry :=
  given_induction (P := fun x => server.registry.Later x.server.registry)
    (fun _ _ => .refl _) fun p _ => h p

theorem later_serve (hkeyed : server.registry.IsKeyed) (route : Route) (params : Option Json) :
    server.registry.Later (server.serve s route params).server.registry := by
  cases route with
  | ping => exact .refl _
  | toolsCall => exact later_given hkeyed.later_callTool
  | resourcesRead => exact later_given fun p => hkeyed.later_readResource p.uri
  | promptsGet => exact later_given hkeyed.later_getPrompt
  | toolsList | resourcesList | templatesList | promptsList | subscribe | unsubscribe | setLevel =>
    exact later_given fun _ => .refl _

/-- A request asks components, and does nothing else to them. -/
theorem later_perform (hkeyed : server.registry.IsKeyed) (s : Session) (r : Request) :
    server.registry.Later (server.perform s r).server.registry := by
  rw [perform]
  split
  · rw [introduce]
    refine later_given fun p => ?_
    split <;> exact .refl _
  · split
    · exact .refl _
    · split
      · exact later_serve hkeyed _ _
      · exact .refl _

end Server

end ContextServer
