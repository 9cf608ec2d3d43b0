import ContextServer.Proofs.Server.Alike
import ContextServer.Proofs.Server.Hear

/-!
# Sessions at one point

What a request comes to depends on the configuration and the components of the server and
on how far the handshake is. Who the session is has no part in it but to say whose
subscriptions and whose record are changed, and they change in the same way for everybody
(`Server.perform_uniform`).

So two sessions with servers of their own, or with one server, can be at the same point:
they are *counterparts* (`Counterparts`). If the handlers answer from their input alone,
counterparts get the same responses to a text and are counterparts afterwards
(`Counterparts.hear`).
-/

namespace ContextServer

/-! ## Effects -/

/-- What a request changes of its session and of the subscriptions of the session. -/
inductive Mark where
  | nothing
  /-- The client is known. -/
  | client (c : Client)
  | logLevel (level : LoggingLevel)
  | subscribed (uri : String)
  | unsubscribed (uri : String)

namespace Mark

/-- The change to the record of a session. -/
def onSession (s : Session) : Mark → Session
  | .client c => { s with state := .initializing, client := some c }
  | .logLevel level => { s with logLevel := level }
  | .nothing | .subscribed _ | .unsubscribed _ => s

/-- The change to the table, for the session of a name. -/
def onSubscriptions (id : String) (t : Subscriptions) : Mark → Subscriptions
  | .subscribed uri => t.add uri id
  | .unsubscribed uri => t.remove uri id
  | .nothing | .client _ | .logLevel _ => t

end Mark

/-- What a request comes to, whoever sends it. -/
structure Effect where
  value : Outcome Failure Json
  /-- The components, which may remember that they were asked. -/
  registry : Registry
  mark : Mark := .nothing

/-- The effect of a request for a session and its server. -/
def Effect.on (e : Effect) (server : Server) (s : Session) : Served (Outcome Failure Json) where
  value := e.value
  session := e.mark.onSession s
  server :=
    { server with
      registry := e.registry, subscriptions := e.mark.onSubscriptions s.id server.subscriptions }

namespace Server

variable {server : Server} {state : SessionState} {r : Request} {α : Type} {shape : Shape α}
  {params : Option Json}

/-- An operation has one effect for all sessions that are as far with the handshake, and for
    all subscriptions. -/
def IsUniform (server : Server) (state : SessionState)
    (operation : Server → Session → Served (Outcome Failure Json)) : Prop :=
  ∃ effect : Effect, ∀ (t : Subscriptions) (s : Session), s.state = state →
    operation { server with subscriptions := t } s =
      effect.on { server with subscriptions := t } s

theorem IsUniform.congr {operation operation' : Server → Session → Served (Outcome Failure Json)}
    (h : server.IsUniform state operation)
    (he : ∀ (t : Subscriptions) (s : Session), s.state = state →
      operation' { server with subscriptions := t } s =
        operation { server with subscriptions := t } s) :
    server.IsUniform state operation' := by
  obtain ⟨effect, heffect⟩ := h
  exact ⟨effect, fun t s hs => (he t s hs).trans (heffect t s hs)⟩

theorem uniform_only (value : Outcome Failure Json) :
    server.IsUniform state fun server s => server.only s value :=
  ⟨{ value, registry := server.registry }, fun _ _ _ => rfl⟩

theorem uniform_given {operation : Server → Session → α → Served (Outcome Failure Json)}
    (h : ∀ a, server.IsUniform state fun server s => operation server s a) :
    server.IsUniform state fun server s => server.given s shape params (operation server s) := by
  cases hp : decodeParams shape params with
  | ok a =>
    simp only [given, hp]
    exact h a
  | error e =>
    simp only [given, hp]
    exact uniform_only _

theorem uniform_list (listing : Registry → α) :
    server.IsUniform state fun server s => server.list s params shape (listing server.registry) :=
  uniform_given fun _ => uniform_only (.returned (shape.encode (listing server.registry)))

theorem uniform_operate (result : Registry → Outcome Failure α × Registry) :
    server.IsUniform state fun server s => server.operate s shape (result server.registry) :=
  ⟨{ value := (result server.registry).1.map shape.encode
     registry := (result server.registry).2 }, fun _ _ _ => rfl⟩

theorem uniform_serve (route : Route) (params : Option Json) :
    server.IsUniform state fun server s => server.serve s route params := by
  cases route with
  | ping => exact uniform_only _
  | toolsList => exact uniform_list fun r => ({ tools := r.listTools } : ListToolsResult)
  | resourcesList =>
    exact uniform_list fun r => ({ resources := r.listResources } : ListResourcesResult)
  | templatesList => exact uniform_list fun r =>
    ({ resourceTemplates := r.listTemplates } : ListResourceTemplatesResult)
  | promptsList => exact uniform_list fun r => ({ prompts := r.listPrompts } : ListPromptsResult)
  | toolsCall => exact uniform_given fun p => uniform_operate fun r => r.callTool p
  | resourcesRead => exact uniform_given fun p => uniform_operate fun r => r.readResource p.uri
  | promptsGet => exact uniform_given fun p => uniform_operate fun r => r.getPrompt p
  | subscribe =>
    exact uniform_given fun p => ⟨⟨_, server.registry, .subscribed p.uri⟩, fun _ _ _ => rfl⟩
  | unsubscribe =>
    exact uniform_given fun p => ⟨⟨_, server.registry, .unsubscribed p.uri⟩, fun _ _ _ => rfl⟩
  | setLevel =>
    exact uniform_given fun p => ⟨⟨_, server.registry, .logLevel p.level⟩, fun _ _ _ => rfl⟩

theorem uniform_introduce :
    server.IsUniform state fun server s => server.introduce s params := by
  refine uniform_given fun p => ?_
  by_cases hstate : state = .uninitialized
  · refine ⟨⟨.returned (server.config.welcome p), server.registry,
      .client (server.config.clientOf p)⟩, fun t s hs => ?_⟩
    exact if_pos (hs.trans hstate)
  · exact (uniform_only (.failed (.invalidRequest .alreadyInitialized))).congr fun t s hs =>
      if_neg (hs ▸ hstate)

/-- Whoever sends a request, it has one effect. -/
theorem perform_uniform (server : Server) (state : SessionState) (r : Request) :
    server.IsUniform state fun server s => server.perform s r := by
  by_cases hopening : r.method = Method.opening
  · exact uniform_introduce.congr fun t s _ => by rw [perform, if_pos hopening]
  by_cases hearly : state = .uninitialized ∧ r.method ≠ Route.ping.method
  · refine (uniform_only (.failed (.invalidRequest .notInitialized))).congr fun t s hs => ?_
    rw [perform, if_neg hopening, if_pos (hs ▸ hearly)]
  cases hroute : Route.find? server.config.capabilities r.method with
  | some route =>
    refine (uniform_serve route r.params).congr fun t s hs => ?_
    rw [perform, if_neg hopening, if_neg (hs ▸ hearly), hroute]
  | none =>
    refine (uniform_only (.failed (.methodNotFound r.method))).congr fun t s hs => ?_
    rw [perform, if_neg hopening, if_neg (hs ▸ hearly), hroute]

end Server

/-! ## Counterparts -/

/-- Two sessions, each with its server, are at the same point. -/
structure Counterparts (server : Server) (s : Session) (server' : Server) (s' : Session) :
    Prop where
  config : server'.config = server.config
  registry : server'.registry.unasked = server.registry.unasked
  state : s'.state = s.state
  client : s'.client = s.client
  logLevel : s'.logLevel = s.logLevel
  subscriptions : ∀ uri,
    server'.subscriptions.holds uri s'.id = server.subscriptions.holds uri s.id

namespace Counterparts

variable {server server' : Server} {s s' : Session}

/-- A server is as good as another one that looks like it to the session. -/
theorem alike (hc : Counterparts server s server' s') {server'' : Server}
    (ha : server'.Alike s'.id server'') : Counterparts server s server'' s' :=
  { hc with
    config := ha.config.trans hc.config
    registry := ha.registry.trans hc.registry
    subscriptions uri := (ha.subscriptions uri).trans (hc.subscriptions uri) }

/-- Counterparts change in the same way. -/
theorem on (hc : Counterparts server s server' s') (e : Effect) :
    Counterparts (e.on server s).server (e.on server s).session
      (e.on server' s').server (e.on server' s').session := by
  obtain ⟨value, registry, mark⟩ := e
  cases mark with
  | nothing => exact { hc with registry := rfl }
  | client c => exact { hc with registry := rfl, state := rfl, client := rfl }
  | logLevel level => exact { hc with registry := rfl, logLevel := rfl }
  | subscribed uri =>
    refine { hc with registry := rfl, subscriptions := fun uri' => ?_ }
    simp only [Effect.on, Mark.onSession, Mark.onSubscriptions, Subscriptions.holds_add,
      hc.subscriptions, and_true]
  | unsubscribed uri =>
    refine { hc with registry := rfl, subscriptions := fun uri' => ?_ }
    simp only [Effect.on, Mark.onSession, Mark.onSubscriptions, Subscriptions.holds_remove,
      hc.subscriptions, and_true]

/-- Counterparts that are over. -/
theorem forget (hc : Counterparts server s server' s') :
    Counterparts { server with subscriptions := server.subscriptions.forget s.id } s.ended
      { server' with subscriptions := server'.subscriptions.forget s'.id } s'.ended :=
  { hc with
    state := rfl
    subscriptions uri := by
      simp only [Session.ended, Subscriptions.holds_forget, decide_true, Bool.not_true,
        Bool.false_and] }

section

variable (hc : Counterparts server s server' s') (hf : server.registry.IsForgetful)

include hc hf

/-- Counterparts get the same response to a request. -/
theorem answer (r : Request) :
    (server'.answer s' r).value = (server.answer s r).value ∧
      Counterparts (server.answer s r).server (server.answer s r).session
        (server'.answer s' r).server (server'.answer s' r).session := by
  -- Between the two servers there is one with the components of the one and the
  -- subscriptions of the other.
  let between : Server := { server with subscriptions := server'.subscriptions }
  have hbetween : Counterparts server s between s' := { hc with config := rfl, registry := rfl }
  obtain ⟨effect, heffect⟩ := server.perform_uniform s.state r
  have hperform : server.perform s r = effect.on server s := heffect server.subscriptions s rfl
  have hperform' : between.perform s' r = effect.on between s' :=
    heffect server'.subscriptions s' hc.state
  have halike : (between.perform s' r).Alike (between.perform s' r).session.id
      (server'.perform s' r) :=
    Server.perform_alike ⟨hc.config, hc.registry, fun _ => rfl⟩ hf
  constructor
  · refine congrArg (Server.respond r.id) (halike.value.trans ?_)
    rw [hperform, hperform']
    rfl
  · have hafter := hbetween.on effect
    rw [← hperform, ← hperform'] at hafter
    change Counterparts (server.perform s r).server (server.perform s r).session
      (server'.perform s' r).server (server'.perform s' r).session
    rw [halike.session]
    exact hafter.alike halike.server

/-- **Counterparts.** They get the same responses to a text, and are counterparts
    afterwards. -/
theorem hear (text : String) :
    (server'.hear s' text).value = (server.hear s text).value ∧
      Counterparts (server.hear s text).server (server.hear s text).session
        (server'.hear s' text).server (server'.hear s' text).session := by
  rw [Server.hear, Server.hear]
  cases Message.parse text with
  | error fault => exact ⟨rfl, hc⟩
  | ok m =>
    cases m with
    | request r =>
      obtain ⟨hvalue, hafter⟩ := hc.answer hf r
      exact ⟨congrArg (fun a => [a]) hvalue, hafter⟩
    | notification n =>
      dsimp only
      split
      · refine ⟨rfl, { hc with state := ?_ }⟩
        exact congrArg SessionState.confirmed hc.state
      · split
        · exact ⟨rfl, { hc.forget with }⟩
        · exact ⟨rfl, hc⟩
    | response r =>
      dsimp only
      cases r.id with
      | none => exact ⟨rfl, hc⟩
      | some id => exact ⟨rfl, { hc with }⟩

end

end Counterparts

/-- What handlers remember is all that a text changes of the components. -/
theorem Server.registry_hear {server : Server} {s : Session} {text : String} :
    (server.hear s text).server.registry.unasked = server.registry.unasked := by
  rw [hear]
  split
  · exact (server.perform_leaves s _).registry
  · split
    · rfl
    · split <;> rfl
  · rfl
  · rfl

end ContextServer
