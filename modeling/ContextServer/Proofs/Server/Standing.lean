import ContextServer.Proofs.Server.Listing

/-!
# What stands is what is served

The changes of a registry tell what it lists, what is in it, and which handler a call, a reading
of a resource or a filling in is for (`Registry.Reflects`): of each key the component that was
registered last, unless it was taken out since. This is so whatever its components were asked
in between (`Registry.Later.reflects`). And what a client gets is what the registry has to say
(`Server.relays`).
-/

namespace ContextServer

/-! ## Registries -/

/-- What is told of a registry by the changes that led to it: what is listed, what is there, and
    which handler is asked by whom. A handler that is asked may have been asked other things
    since it was registered; it remembers them, and now one more. -/
structure Registry.Reflects (xs : List Change) (r : Registry) : Prop where
  listed : ∀ f : Family, ∃ cs, f.IsListing xs cs ∧ r.listed f = cs.map Component.descriptor
  has : ∀ f key, r.has f key = true ↔
    ∃ c : Component, c.StandsAfter xs ∧ c.family = f ∧ c.key = key
  called : ∀ (p : CallToolRequest) (c : ToolComponent), (Component.tool c).StandsAfter xs →
    c.descriptor.name = p.name → ∃ inputs, r.callTool p =
      ((((c.after inputs).handler.ask (p.arguments.getD (.object []))).1.mapError .handler).map
        .ofText, r.add (.tool (c.after (p.arguments.getD (.object []) :: inputs))))
  uncalled : ∀ p : CallToolRequest, (∀ c : ToolComponent, (Component.tool c).StandsAfter xs →
    c.descriptor.name ≠ p.name) → r.callTool p = (.returned .failure, r)
  read : ∀ c : ResourceComponent, (Component.resource c).StandsAfter xs →
    ∃ inputs, r.readResource c.descriptor.uri =
      (ReadResourceResult.ofHandler ((c.after inputs).handler.ask c.descriptor.uri).1,
        r.add (.resource (c.after (c.descriptor.uri :: inputs))))
  filled : ∀ (p : GetPromptRequest) (c : PromptComponent), (Component.prompt c).StandsAfter xs →
    c.descriptor.name = p.name → missingArgument? c.descriptor p.arguments = none →
    ∃ inputs, r.getPrompt p =
      ((((c.after inputs).handler.ask p.arguments).1.mapError .handler).map fun text =>
        { description := c.descriptor.description
          messages := [{ role := .user, content := .ofText text }] },
        r.add (.prompt (c.after (p.arguments :: inputs))))
  incomplete : ∀ (p : GetPromptRequest) (c : PromptComponent) name,
    (Component.prompt c).StandsAfter xs → c.descriptor.name = p.name →
    missingArgument? c.descriptor p.arguments = some name →
    r.getPrompt p = (.failed (.invalidParams (.missingArgument name)), r)
  unfilled : ∀ p : GetPromptRequest, (∀ c : PromptComponent, (Component.prompt c).StandsAfter xs →
    c.descriptor.name ≠ p.name) →
    r.getPrompt p = (.failed (.invalidParams (.unknownPrompt p.name)), r)

namespace Registry

variable {r : Registry} {xs : List Change}

theorem has_eq_isSome (r : Registry) (f : Family) (key : String) :
    r.has f key = (r.component? f key).isSome := by
  cases f <;> exact Option.isSome_map.symm

/-- Nothing is under a key that no component stands under. -/
theorem component?_ofChanges_eq_none_iff {f : Family} {key : String} :
    (ofChanges xs).component? f key = none ↔
      ∀ c : Component, c.StandsAfter xs → c.family = f → c.key ≠ key := by
  simp only [Option.eq_none_iff_forall_ne_some, ne_eq, component?_ofChanges, not_and]

namespace Later

variable (h : (ofChanges xs).Later r)

include h

/-- A component that stands is there, and may have been asked something. -/
theorem of_standsAfter {c : Component} (hc : c.StandsAfter xs) :
    ∃ c', r.component? c.family c.key = some c' ∧ c.Later c' :=
  h.found _ _ _ (component?_ofChanges.2 ⟨hc, rfl, rfl⟩)

theorem eq_none (f : Family) (key : String)
    (hno : ∀ c : Component, c.StandsAfter xs → c.family = f → c.key ≠ key) :
    r.component? f key = none :=
  h.missing f key (component?_ofChanges_eq_none_iff.2 hno)

theorem tool {c : ToolComponent} (hc : (Component.tool c).StandsAfter xs) :
    ∃ inputs, r.tools.get? c.descriptor.name = some (c.after inputs) := by
  obtain ⟨c', hfound, hlater⟩ := h.of_standsAfter hc
  cases hlater with
  | tool _ inputs => exact ⟨inputs, Option.map_injective (fun _ _ => Component.tool.inj) hfound⟩

theorem resource {c : ResourceComponent} (hc : (Component.resource c).StandsAfter xs) :
    ∃ inputs, r.resources.get? c.descriptor.uri = some (c.after inputs) := by
  obtain ⟨c', hfound, hlater⟩ := h.of_standsAfter hc
  cases hlater with
  | resource _ inputs =>
    exact ⟨inputs, Option.map_injective (fun _ _ => Component.resource.inj) hfound⟩

theorem prompt {c : PromptComponent} (hc : (Component.prompt c).StandsAfter xs) :
    ∃ inputs, r.prompts.get? c.descriptor.name = some (c.after inputs) := by
  obtain ⟨c', hfound, hlater⟩ := h.of_standsAfter hc
  cases hlater with
  | prompt _ inputs =>
    exact ⟨inputs, Option.map_injective (fun _ _ => Component.prompt.inj) hfound⟩

theorem has_iff (f : Family) (key : String) :
    r.has f key = true ↔ ∃ c : Component, c.StandsAfter xs ∧ c.family = f ∧ c.key = key := by
  rw [has_eq_isSome]
  constructor
  · intro hhas
    by_contra hno
    rw [h.eq_none f key fun c hc hfamily hkey => hno ⟨c, hc, hfamily, hkey⟩] at hhas
    cases hhas
  · rintro ⟨c, hc, rfl, rfl⟩
    obtain ⟨c', hfound, -⟩ := h.of_standsAfter hc
    rw [hfound, Option.isSome_some]

/-- The components that stand are served, whatever they were asked. -/
theorem reflects : r.Reflects xs where
  listed f := ⟨_, isListing_components xs f, by rw [h.listed, listed_eq]⟩
  has := h.has_iff
  called p c hc hkey := by
    obtain ⟨inputs, hget⟩ := h.tool hc
    rw [hkey] at hget
    exact ⟨inputs, callTool_of_get? hget hkey⟩
  uncalled p hno := by
    have hnone := h.eq_none .tools p.name fun c hc hfamily hkey => by
      cases c with
      | tool c => exact hno c hc hkey
      | _ => cases hfamily
    rw [callTool, Option.map_eq_none_iff.1 hnone]
  read c hc := by
    obtain ⟨inputs, hget⟩ := h.resource hc
    exact ⟨inputs, readResource_of_get? hget rfl⟩
  filled p c hc hkey hgiven := by
    obtain ⟨inputs, hget⟩ := h.prompt hc
    rw [hkey] at hget
    exact ⟨inputs, getPrompt_of_get? hget hkey hgiven⟩
  incomplete p c name hc hkey hname := by
    obtain ⟨inputs, hget⟩ := h.prompt hc
    rw [hkey] at hget
    have hmissing : missingArgument? (c.after inputs).descriptor p.arguments = some name := hname
    simp only [getPrompt, hget, hmissing]
  unfilled p hno := by
    have hnone := h.eq_none .prompts p.name fun c hc hfamily hkey => by
      cases c with
      | prompt c => exact hno c hc hkey
      | _ => cases hfamily
    rw [getPrompt, Option.map_eq_none_iff.1 hnone]

end Later

end Registry

/-! ## Requests -/

namespace Server

variable {server : Server} {s : Session} {r : Request}

/-- The answer to a request that came to an operation of the registry. -/
def operated {α : Type} (server : Server) (s : Session) (id : RequestId) (shape : Shape α)
    (result : Outcome Failure α × Registry) : Served Response :=
  { value := respond id (result.1.map shape.encode), session := s
    server := { server with registry := result.2 } }

/-- What a client gets for a request about components is what the registry has to say. -/
structure Relays (server : Server) (s : Session) (r : Request) : Prop where
  listed : ∀ (f : Family) p, r.method = f.listRoute.method →
    decodeParams PaginatedRequest.shape r.params = .ok p → server.answer s r =
      { value := .success (some r.id) (f.listing (server.registry.listed f)), session := s, server }
  called : ∀ p, r.method = "tools/call" → decodeParams CallToolRequest.shape r.params = .ok p →
    server.answer s r =
      server.operated s r.id CallToolResult.shape (server.registry.callTool p)
  read : ∀ p, r.method = "resources/read" →
    decodeParams ReadResourceRequest.shape r.params = .ok p → server.answer s r =
      server.operated s r.id ReadResourceResult.shape (server.registry.readResource p.uri)
  filled : ∀ p, r.method = "prompts/get" → decodeParams GetPromptRequest.shape r.params = .ok p →
    server.answer s r =
      server.operated s r.id GetPromptResult.shape (server.registry.getPrompt p)

theorem relays (hstate : s.state ≠ .uninitialized)
    (hserves : server.config.capabilities.Serves r.method) : server.Relays s r where
  listed f p hm hp := by
    rw [answer, perform_served hstate hserves f.listRoute hm, serve_listRoute, given, hp]
    rfl
  called p hm hp := by
    rw [answer, perform_served hstate hserves .toolsCall hm, serve, given, hp]
    rfl
  read p hm hp := by
    rw [answer, perform_served hstate hserves .resourcesRead hm, serve, given, hp]
    rfl
  filled p hm hp := by
    rw [answer, perform_served hstate hserves .promptsGet hm, serve, given, hp]
    rfl

end Server

end ContextServer
