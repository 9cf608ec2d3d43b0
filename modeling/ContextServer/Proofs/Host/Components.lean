import ContextServer.Proofs.Host.Isolation
import ContextServer.Proofs.Server.Standing

/-!
# The components of a host

Of all that happens to a host, four events change its components (`Event.change?`): they are
registered or taken out, and the clients are told or not. The rest leave them as they are, but
for what handlers remember (`Host.later_of_no_change`). So the components of a host are at any
time those that stand after the changes so far: they are what it lists, what it finds and whom
it asks, in each family for itself (`Host.components_run`).
-/

namespace ContextServer

/-- The change of the components that an event makes. -/
def Event.change? : Event → Option Change
  | .install c | .addComponent c => some (.add c)
  | .uninstall f key | .removeComponent f key => some (.remove f key)
  | _ => none

namespace Host

variable {h : Host} {e : Event} {x : Change} {xs : List Change}

/-- A change of the components is all that becomes of the registry. -/
theorem registry_of_change (hx : e.change? = some x) :
    (h.step e).server.registry = h.server.registry.change x := by
  cases e with
  | install c | uninstall f key =>
    cases hx
    rfl
  | addComponent c =>
    cases hx
    rw [step, addComponent, blindToSending_server.announce]
    rfl
  | removeComponent f key =>
    cases hx
    rw [step, removeComponent]
    dsimp only [Host.uninstall]
    split
    · rw [blindToSending_server.announce]
      rfl
    · rfl
  | _ => cases hx

theorem registry_close (h : Host) (i : Nat) (c : Closing) :
    (h.close i c).server.registry = h.server.registry := by
  cases hs : h.sessions[i]? with
  | none => simp only [close, hs]
  | some s =>
    by_cases hstate : s.state = .closed
    · rw [close_of_closed hs hstate]
    · rw [server_close hs hstate]

/-- Any other event leaves the components, but for what they are asked. -/
theorem later_of_no_change (hkeyed : h.server.registry.IsKeyed) (hx : e.change? = none) :
    h.server.registry.Later (h.step e).server.registry := by
  have hsame {h' : Host} (hserver : h'.server = h.server) :
      h.server.registry.Later h'.server.registry := by
    rw [hserver]
    exact .refl _
  cases e with
  | install | uninstall | addComponent | removeComponent => cases hx
  | deliver i m =>
    cases hs : h.sessions[i]? with
    | none =>
      simp only [step, deliver, hs]
      exact .refl _
    | some s =>
      rw [step]
      rcases server_deliver_cases hs m with hserver | hserver | ⟨r, hserver⟩ <;> rw [hserver]
      · exact .refl _
      · exact .refl _
      · exact Server.later_perform hkeyed s r
  | answer i r =>
    cases hs : h.sessions[i]? with
    | none =>
      simp only [step, answer, hs]
      exact .refl _
    | some s =>
      rw [step, answer_of_session hs]
      exact Server.later_perform hkeyed s r
  | callTool r => exact hkeyed.later_callTool r
  | readResource uri => exact hkeyed.later_readResource uri
  | getPrompt r => exact hkeyed.later_getPrompt r
  | close i c =>
    rw [step, registry_close]
    exact .refl _
  | closeAll c =>
    have hregistry : (h.closeAll c).server.registry = h.server.registry :=
      foldl_frame (g := fun h => h.server.registry) (fun h i => h.registry_close i c) _ h
    rw [step, hregistry]
    exact .refl _
  | connect => exact hsame rfl
  | reject => exact hsame blindToSending_server.reject
  | send => exact hsame blindToSending_server.send
  | request => exact hsame (request_frame blindToSending_server blindToWaiting_server)
  | listRoots => exact hsame (listRoots_frame blindToSending_server blindToWaiting_server)
  | createMessage => exact hsame (createMessage_frame blindToSending_server blindToWaiting_server)
  | log => exact hsame blindToSending_server.log
  | broadcast => exact hsame blindToSending_server.broadcast
  | resourceChanged uri =>
    rw [step, server_resourceChanged]
    exact .refl _
  | setLogLevel | hangUp | setFault => exact hsame (change_frame fun _ _ => rfl)
  | subscribe i uri =>
    rw [step, subscribe]
    split <;> exact .refl _
  | unsubscribe => exact .refl _
  | closeLink => exact hsame blindToSending_server.closeLink
  | release => exact hsame (blindToWaiting_server.bury.trans (change_frame fun _ _ => rfl))
  | collect => exact hsame blindToSending_server.collect
  | collectSettled => exact hsame rfl
  | advance => exact hsame blindToWaiting_server.advance

/-- The components go along with the changes. -/
theorem later_step (hlater : (Registry.ofChanges xs).Later h.server.registry) (e : Event) :
    (Registry.ofChanges (xs ++ e.change?.toList)).Later (h.step e).server.registry := by
  cases hx : e.change? with
  | none =>
    rw [Option.toList_none, List.append_nil]
    exact hlater.trans
      (later_of_no_change (hlater.isKeyed (Registry.isKeyed_ofChanges xs)) hx)
  | some x =>
    rw [Option.toList_some, Registry.ofChanges_concat, registry_of_change hx]
    exact hlater.change x

/-- In a run, too. -/
theorem later_run (hlater : (Registry.ofChanges xs).Later h.server.registry) (es : List Event) :
    (Registry.ofChanges (xs ++ es.filterMap Event.change?)).Later
      (h.run es).server.registry := by
  induction es generalizing xs h with
  | nil =>
    rw [List.filterMap_nil, List.append_nil]
    exact hlater
  | cons e es ih =>
    have hes : xs ++ (e :: es).filterMap Event.change? =
        xs ++ e.change?.toList ++ es.filterMap Event.change? := by
      cases hx : e.change? <;> simp [hx]
    rw [hes]
    exact ih (later_step hlater e)

/-! ## What changes do -/

/-- A change is about one key of one family. -/
theorem component?_step (hx : e.change? = some x) (f : Family) (key : String) :
    (h.step e).server.registry.component? f key =
      if x.IsAbout f key then x.component? else h.server.registry.component? f key := by
  rw [registry_of_change hx, Registry.component?_change]

/-- Whether a component is there does not depend on a change of another key. -/
theorem has_step (hx : e.change? = some x) {f : Family} {key : String}
    (hother : ¬x.IsAbout f key) :
    (h.step e).server.registry.has f key = h.server.registry.has f key := by
  rw [Registry.has_eq_isSome, Registry.has_eq_isSome, component?_step hx, if_neg hother]

/-- The components of a host are those that stand after changes, and so it serves them. -/
structure HasComponents (xs : List Change) (h : Host) : Prop where
  reflects : h.server.registry.Reflects xs
  /-- Clients are told of the components as they are. -/
  relays : ∀ s r, s.state ≠ .uninitialized → h.server.config.capabilities.Serves r.method →
    h.server.Relays s r
  /-- Who takes a component out learns whether it was there. -/
  removed : ∀ f key,
    ((h.uninstall f key).1 = true ↔
      ∃ c : Component, c.StandsAfter xs ∧ c.family = f ∧ c.key = key) ∧
      (h.removeComponent f key).1 = (h.uninstall f key).1
  /-- A change is about one key of one family; the others have what they had. -/
  changed : ∀ e x, e.change? = some x → ∀ f key,
    (h.step e).server.registry.component? f key =
      if x.IsAbout f key then x.component? else h.server.registry.component? f key
  /-- Changes of different keys can change places, and do not notice each other. -/
  apart : ∀ e e' x x', e.change? = some x → e'.change? = some x' →
    ¬x.IsAbout x'.family x'.key →
    ((h.step e).step e').server.registry = ((h.step e').step e).server.registry ∧
      ((h.step e).uninstall x'.family x'.key).1 = (h.uninstall x'.family x'.key).1

theorem hasComponents (hlater : (Registry.ofChanges xs).Later h.server.registry) :
    h.HasComponents xs where
  reflects := hlater.reflects
  relays _ _ hstate hserves := Server.relays hstate hserves
  removed f key := ⟨hlater.has_iff f key, rfl⟩
  changed _ _ hx := component?_step hx
  apart e e' x x' hx hx' hother := by
    refine ⟨?_, has_step hx hother⟩
    rw [registry_of_change hx', registry_of_change hx, registry_of_change hx,
      registry_of_change hx']
    exact Registry.change_comm _ hother

/-- **Components.** Whatever happens to a host, its components are those that stand after the
    changes so far. -/
theorem components_run (medium : Medium) (naming : Naming) (config : ServerConfig)
    (es : List Event) :
    ((start medium naming config).run es).HasComponents (es.filterMap Event.change?) := by
  have hstart : (Registry.ofChanges []).Later (start medium naming config).server.registry :=
    .refl _
  have hlater := later_run hstart es
  rw [List.nil_append] at hlater
  exact hasComponents hlater

end Host

end ContextServer
