import ContextServer.Proofs.Server.Answer
import ContextServer.Proofs.Server.Recall

/-!
# What a request leaves behind

Of twelve methods four can leave something behind in the session or in the server
(`Method.altering`): a client introduces itself, sets its level of log messages,
subscribes to a URI, or ends a subscription. Each does so in the one place that it is
about, and only if it succeeds (`Server.perform_leaves`). Any other request, and any
request that fails, leaves nothing that shows, whatever the handler that it reached did:
what handlers remember is their own.
-/

namespace ContextServer

/-- The methods of the requests that can leave something behind. -/
def Method.altering : List String :=
  [Method.opening, Route.setLevel.method, Route.subscribe.method, Route.unsubscribe.method]

namespace Server

/-- The server before its handlers were asked anything. -/
def unasked (server : Server) : Server := { server with registry := server.registry.unasked }

/-- What is left after a request, and what comes of it. -/
inductive Leaves (server : Server) (s : Session) (r : Request) :
    Served (Outcome Failure Json) → Prop
  /-- Nothing shows: the request failed, or it was not to leave anything. -/
  | nothing {x : Served (Outcome Failure Json)} :
      (∀ result, x.value = .returned result → r.method ∉ Method.altering) →
      x.session = s → x.server.unasked = server.unasked → Leaves server s r x
  /-- The client is known. -/
  | client {p : InitializeRequest} {result : Json} : r.Introduces p → s.state = .uninitialized →
      Leaves server s r
        { value := .returned result
          session := { s with state := .initializing, client := some (server.config.clientOf p) }
          server }
  /-- The client has another level of log messages. -/
  | logLevel {p : SetLevelRequest} {result : Json} : r.method = Route.setLevel.method →
      decodeParams SetLevelRequest.shape r.params = .ok p →
      Leaves server s r
        { value := .returned result, session := { s with logLevel := p.level }, server }
  /-- The session is subscribed. -/
  | subscribed {p : SubscribeRequest} {result : Json} : r.method = Route.subscribe.method →
      decodeParams SubscribeRequest.shape r.params = .ok p →
      Leaves server s r
        { value := .returned result, session := s
          server := { server with subscriptions := server.subscriptions.add p.uri s.id } }
  /-- The session is not subscribed any more. -/
  | unsubscribed {p : UnsubscribeRequest} {result : Json} :
      r.method = Route.unsubscribe.method →
      decodeParams UnsubscribeRequest.shape r.params = .ok p →
      Leaves server s r
        { value := .returned result, session := s
          server := { server with subscriptions := server.subscriptions.remove p.uri s.id } }

variable {server : Server} {s : Session} {r : Request} {α : Type} {shape : Shape α}

theorem leaves_failed (e : Failure) : server.Leaves s r (server.only s (.failed e)) :=
  .nothing nofun rfl rfl

/-- An operation on decoded params leaves what it leaves on those that the params are. -/
theorem leaves_given {operation : α → Served (Outcome Failure Json)}
    (h : ∀ p, decodeParams shape r.params = .ok p → server.Leaves s r (operation p)) :
    server.Leaves s r (server.given s shape r.params operation) :=
  given_induction (fun e _ => leaves_failed e) h

section

variable (hr : r.method ∉ Method.altering)

include hr

theorem leaves_only (value : Outcome Failure Json) :
    server.Leaves s r (server.only s value) :=
  .nothing (fun _ _ => hr) rfl rfl

theorem leaves_list {listing : α} :
    server.Leaves s r (server.list s r.params shape listing) :=
  leaves_given fun _ _ => leaves_only hr _

/-- An operation of the registry shows in what handlers remember only. -/
theorem leaves_operate {result : Outcome Failure α × Registry}
    (h : result.2.unasked = server.registry.unasked) :
    server.Leaves s r (server.operate s shape result) :=
  .nothing (fun _ _ => hr) rfl (congrArg (fun registry => { server with registry }) h)

end

/-- The operation of the route that the request names. -/
theorem serve_leaves {route : Route} (hr : route.method = r.method) :
    server.Leaves s r (server.serve s route r.params) := by
  have hplain (h : route.method ∉ Method.altering) : r.method ∉ Method.altering := hr ▸ h
  cases route with
  | ping => exact leaves_only (hplain (by decide)) _
  | toolsList | resourcesList | templatesList | promptsList =>
    exact leaves_list (hplain (by decide))
  | toolsCall =>
    exact leaves_given fun request _ =>
      leaves_operate (hplain (by decide)) (Registry.unasked_callTool request)
  | resourcesRead =>
    exact leaves_given fun request _ =>
      leaves_operate (hplain (by decide)) (Registry.unasked_readResource request.uri)
  | promptsGet =>
    exact leaves_given fun request _ =>
      leaves_operate (hplain (by decide)) (Registry.unasked_getPrompt request)
  | subscribe => exact leaves_given fun _ hp => .subscribed hr.symm hp
  | unsubscribe => exact leaves_given fun _ hp => .unsubscribed hr.symm hp
  | setLevel => exact leaves_given fun _ hp => .logLevel hr.symm hp

/-- What any request leaves. -/
theorem perform_leaves (server : Server) (s : Session) (r : Request) :
    server.Leaves s r (server.perform s r) := by
  rw [perform]
  split
  · next hm =>
    rw [introduce]
    refine leaves_given fun p hp => ?_
    split
    · next hstate => exact .client ⟨hm, hp⟩ hstate
    · exact leaves_failed _
  · split
    · exact leaves_failed _
    · split
      · next route hroute =>
        have hfound := List.find?_some hroute
        rw [Bool.and_eq_true, beq_iff_eq] at hfound
        exact serve_leaves hfound.1
      · exact leaves_failed _

end Server

end ContextServer
