import ContextServer.Proofs.Server.Effect
import ContextServer.Proofs.Server.Subscriptions

/-!
# Servers that look alike to a session

What a session can see of a server is its configuration, its components without what
their handlers remember, and which URIs the session itself is subscribed to. Servers that
agree in this *look alike* to the session (`Server.Alike`). If the handlers are forgetful,
they serve every request of the session in the same way, and look alike afterwards
(`Server.perform_alike`). And what a server does for one session is not seen by another
(`Server.Leaves.alike_of_other`, `Server.alike_forget_of_other`).
-/

namespace ContextServer

variable {id : String} {server server' : Server} {s : Session} {r : Request}

/-- Two servers are the same to the session of a name. -/
structure Server.Alike (id : String) (server server' : Server) : Prop where
  config : server'.config = server.config
  registry : server'.registry.unasked = server.registry.unasked
  subscriptions : ∀ uri,
    server'.subscriptions.holds uri id = server.subscriptions.holds uri id

theorem Server.Alike.refl : server.Alike id server := ⟨rfl, rfl, fun _ => rfl⟩

theorem Server.Alike.trans {server'' : Server} (ha : server.Alike id server')
    (ha' : server'.Alike id server'') : server.Alike id server'' where
  config := ha'.config.trans ha.config
  registry := ha'.registry.trans ha.registry
  subscriptions uri := (ha'.subscriptions uri).trans (ha.subscriptions uri)

/-- Servers are alike to all sessions if they differ in what handlers remember only. -/
theorem Server.Alike.of_unasked (h : server'.unasked = server.unasked) :
    server.Alike id server' := by
  obtain ⟨hconfig, hregistry, hsubscriptions⟩ := Server.mk.inj h
  exact ⟨hconfig, hregistry, fun uri => congrArg (·.holds uri id) hsubscriptions⟩

/-- Two outcomes of a request are the same to the session of a name. -/
structure Served.Alike {α : Type} (id : String) (x x' : Served α) : Prop where
  value : x'.value = x.value
  session : x'.session = x.session
  server : x.server.Alike id x'.server

namespace Server

/-! ## Serving -/

section

variable {α : Type} {shape : Shape α} {params : Option Json} (ha : server.Alike id server')

include ha

theorem Alike.only (value : Outcome Failure Json) :
    (server.only s value).Alike id (server'.only s value) :=
  ⟨rfl, rfl, ha⟩

theorem Alike.given {operation operation' : α → Served (Outcome Failure Json)}
    (h : ∀ a, (operation a).Alike id (operation' a)) :
    (server.given s shape params operation).Alike id (server'.given s shape params operation') := by
  rw [Server.given, Server.given]
  split
  · exact h _
  · exact ha.only _

theorem Alike.list {listing listing' : α} (h : listing' = listing) :
    (server.list s params shape listing).Alike id (server'.list s params shape listing') :=
  ha.given fun _ => h ▸ ha.only _

/-- An operation of the registry shows in what handlers remember only. -/
theorem Alike.operate {result result' : Outcome Failure α × Registry}
    (hvalue : result'.1 = result.1) (h : result.2.unasked = server.registry.unasked)
    (h' : result'.2.unasked = server'.registry.unasked) :
    (server.operate s shape result).Alike id (server'.operate s shape result') := by
  refine ⟨congrArg (Outcome.map shape.encode) hvalue, rfl, ha.config, ?_, ha.subscriptions⟩
  exact h'.trans (ha.registry.trans h.symm)

theorem Alike.add (uri session : String) :
    Alike id { server with subscriptions := server.subscriptions.add uri session }
      { server' with subscriptions := server'.subscriptions.add uri session } where
  config := ha.config
  registry := ha.registry
  subscriptions uri' := by
    dsimp only
    rw [Subscriptions.holds_add, Subscriptions.holds_add, ha.subscriptions]

theorem Alike.remove (uri session : String) :
    Alike id { server with subscriptions := server.subscriptions.remove uri session }
      { server' with subscriptions := server'.subscriptions.remove uri session } where
  config := ha.config
  registry := ha.registry
  subscriptions uri' := by
    dsimp only
    rw [Subscriptions.holds_remove, Subscriptions.holds_remove, ha.subscriptions]

theorem Alike.forget (session : String) :
    Alike id { server with subscriptions := server.subscriptions.forget session }
      { server' with subscriptions := server'.subscriptions.forget session } where
  config := ha.config
  registry := ha.registry
  subscriptions uri := by
    dsimp only
    rw [Subscriptions.holds_forget, Subscriptions.holds_forget, ha.subscriptions]

/-- The subscribers of a URI are looked through with tests that the session does not tell
    apart. -/
theorem Alike.keep (uri : String) {test test' : String → Bool} (htest : test' id = test id) :
    Alike id { server with subscriptions := server.subscriptions.keep uri test }
      { server' with subscriptions := server'.subscriptions.keep uri test' } where
  config := ha.config
  registry := ha.registry
  subscriptions uri' := by
    dsimp only
    rw [Subscriptions.holds_keep, Subscriptions.holds_keep, ha.subscriptions, htest]

theorem Alike.install (c : Component) :
    Alike id { server with registry := server.registry.add c }
      { server' with registry := server'.registry.add c } where
  config := ha.config
  registry := by
    dsimp only
    rw [Registry.unasked_add, Registry.unasked_add, ha.registry]
  subscriptions := ha.subscriptions

theorem Alike.uninstall (family : Family) (key : String) :
    Alike id { server with registry := server.registry.remove family key }
      { server' with registry := server'.registry.remove family key } where
  config := ha.config
  registry := by
    dsimp only
    rw [Registry.unasked_remove, Registry.unasked_remove, ha.registry]
  subscriptions := ha.subscriptions

theorem Alike.has (family : Family) (key : String) :
    server'.registry.has family key = server.registry.has family key := by
  rw [← Registry.has_unasked, ha.registry, Registry.has_unasked]

end

section

variable (ha : server.Alike id server') (hf : server.registry.IsForgetful)

include ha hf

theorem serve_alike (route : Route) (params : Option Json) :
    (server.serve s route params).Alike id (server'.serve s route params) := by
  cases route with
  | ping => exact ha.only _
  | toolsList =>
    refine ha.list ?_
    rw [← Registry.listTools_unasked, ha.registry, Registry.listTools_unasked]
  | resourcesList =>
    refine ha.list ?_
    rw [← Registry.listResources_unasked, ha.registry, Registry.listResources_unasked]
  | templatesList =>
    refine ha.list ?_
    rw [← Registry.listTemplates_unasked, ha.registry, Registry.listTemplates_unasked]
  | promptsList =>
    refine ha.list ?_
    rw [← Registry.listPrompts_unasked, ha.registry, Registry.listPrompts_unasked]
  | toolsCall =>
    exact ha.given fun request => ha.operate (Registry.callTool_congr hf ha.registry request)
      (Registry.unasked_callTool request) (Registry.unasked_callTool request)
  | resourcesRead =>
    exact ha.given fun request =>
      ha.operate (Registry.readResource_congr hf ha.registry request.uri)
        (Registry.unasked_readResource request.uri) (Registry.unasked_readResource request.uri)
  | promptsGet =>
    exact ha.given fun request => ha.operate (Registry.getPrompt_congr hf ha.registry request)
      (Registry.unasked_getPrompt request) (Registry.unasked_getPrompt request)
  | subscribe => exact ha.given fun request => ⟨rfl, rfl, ha.add request.uri s.id⟩
  | unsubscribe => exact ha.given fun request => ⟨rfl, rfl, ha.remove request.uri s.id⟩
  | setLevel => exact ha.given fun _ => ⟨rfl, rfl, ha⟩

/-- Servers that look alike serve a request in one way. -/
theorem perform_alike : (server.perform s r).Alike id (server'.perform s r) := by
  rw [perform, perform, ha.config]
  split
  · rw [introduce, introduce, ha.config]
    refine ha.given fun p => ?_
    split
    · exact ⟨rfl, rfl, ha⟩
    · exact ha.only _
  · split
    · exact ha.only _
    · split
      · exact serve_alike ha hf _ _
      · exact ha.only _

theorem answer_alike : (server.answer s r).Alike id (server'.answer s r) := by
  have h := perform_alike ha hf (s := s) (r := r)
  exact ⟨congrArg (respond r.id) h.value, h.session, h.server⟩

end

/-! ## Other sessions -/

section

variable {x : Served (Outcome Failure Json)} (hleaves : server.Leaves s r x)

include hleaves

theorem Leaves.registry : x.server.registry.unasked = server.registry.unasked := by
  cases hleaves with
  | nothing _ _ hserver => exact congrArg (·.registry) hserver
  | client | logLevel | subscribed | unsubscribed => rfl

/-- A request of one session concerns no subscriptions but its own. -/
theorem Leaves.alike_of_other (hid : s.id ≠ id) : server.Alike id x.server := by
  cases hleaves with
  | nothing _ _ hserver => exact .of_unasked hserver
  | client | logLevel => exact .refl
  | subscribed =>
    refine ⟨rfl, rfl, fun uri => ?_⟩
    rw [Subscriptions.holds_add]
    simp [hid]
  | unsubscribed =>
    refine ⟨rfl, rfl, fun uri => ?_⟩
    rw [Subscriptions.holds_remove]
    simp [hid]

end

theorem alike_forget_of_other {id' : String} (hid : id' ≠ id) :
    server.Alike id { server with subscriptions := server.subscriptions.forget id' } := by
  refine ⟨rfl, rfl, fun uri => ?_⟩
  rw [Subscriptions.holds_forget]
  simp [hid]

end Server

end ContextServer
