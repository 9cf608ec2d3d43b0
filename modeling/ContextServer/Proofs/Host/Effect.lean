import ContextServer.Proofs.Host.Frame
import ContextServer.Proofs.Server.Effect

/-!
# What a request makes of a host

A request is answered by the server, and what it leaves in the session and in the
server is all that it changes of the host (`Host.unasked_answer`). So a request whose
response is an error changes nothing that shows, and one that succeeded changes at most
one thing, which its method tells (`Host.answer_alters`).
-/

namespace ContextServer

namespace Host

/-- The host before the handlers of its server were asked anything. -/
def unasked (h : Host) : Host := { h with server := h.server.unasked }

/-- What a request in a session may have made of a host, if it succeeded. -/
inductive Alters (h : Host) (i : Nat) (s : Session) (r : Request) : Host → Prop
  /-- Nothing. -/
  | nothing : r.method ∉ Method.altering → Alters h i s r h.unasked
  /-- The state of the session and its client. -/
  | client (state : SessionState) (client : Option Client) : r.method = Method.opening →
      Alters h i s r (h.put i { s with state, client }).unasked
  /-- The level of log messages of the session. -/
  | logLevel (logLevel : LoggingLevel) : r.method = Route.setLevel.method →
      Alters h i s r (h.put i { s with logLevel }).unasked
  /-- The subscription of the session to the one URI that the request names. -/
  | subscribed (p : SubscribeRequest) (t : Subscriptions) : r.method = Route.subscribe.method →
      decodeParams SubscribeRequest.shape r.params = .ok p →
      (∀ uri id, t.holds uri id =
        (decide (p.uri = uri ∧ s.id = id) || h.server.subscriptions.holds uri id)) →
      Alters h i s r (h.withSubscriptions t).unasked
  /-- The subscription of the session to the one URI that the request names, which ended. -/
  | unsubscribed (p : UnsubscribeRequest) (t : Subscriptions) :
      r.method = Route.unsubscribe.method →
      decodeParams UnsubscribeRequest.shape r.params = .ok p →
      (∀ uri id, t.holds uri id =
        (!decide (p.uri = uri ∧ s.id = id) && h.server.subscriptions.holds uri id)) →
      Alters h i s r (h.withSubscriptions t).unasked

variable {h : Host} {i : Nat} {s : Session} {r : Request}

theorem put_self (hs : h.sessions[i]? = some s) : h.put i s = h := by
  obtain ⟨hi, rfl⟩ := List.getElem?_eq_some_iff.1 hs
  rw [put, List.set_getElem_self]

/-- The host after a request, from what the request leaves. -/
theorem unasked_answer (hs : h.sessions[i]? = some s) :
    (h.answer i r).2.unasked =
      { h.put i (h.server.perform s r).session with
        server := (h.server.perform s r).server.unasked } := by
  rw [answer_of_session hs]
  rfl

/-- **Failed and read-only requests.** A request whose response is an error leaves the
    host as it was, but for what handlers remember; so does one that succeeded, unless its
    method is one of four, and then it alters the one thing that it is about. -/
theorem answer_alters (h : Host) (i : Nat) (s : Session) (hs : h.sessions[i]? = some s)
    (r : Request) :
    ∃ response, (h.answer i r).1 = some response ∧
      (response.isError = true → (h.answer i r).2.unasked = h.unasked) ∧
      (response.isError = false → h.Alters i s r (h.answer i r).2.unasked) := by
  refine ⟨(h.server.answer s r).value, by rw [answer_of_session hs], ?_⟩
  rw [unasked_answer hs, Server.answer]
  have hleaves := h.server.perform_leaves s r
  generalize h.server.perform s r = x at hleaves
  cases hleaves with
  | nothing hmethod hsession hserver =>
    -- What is put back is what was there.
    rw [hsession, hserver, put_self hs]
    refine ⟨fun _ => rfl, fun hok => .nothing ?_⟩
    cases hx : x.value with
    | returned result => exact hmethod result hx
    | failed | crashed =>
      rw [hx] at hok
      cases hok
  | client hintroduces => exact ⟨nofun, fun _ => .client _ _ hintroduces.method⟩
  | logLevel hmethod => exact ⟨nofun, fun _ => .logLevel _ hmethod⟩
  | @subscribed p _ hmethod hp =>
    refine ⟨nofun, fun _ => ?_⟩
    rw [put_self hs]
    exact .subscribed p _ hmethod hp (h.server.subscriptions.holds_add p.uri · s.id ·)
  | @unsubscribed p _ hmethod hp =>
    refine ⟨nofun, fun _ => ?_⟩
    rw [put_self hs]
    exact .unsubscribed p _ hmethod hp (h.server.subscriptions.holds_remove p.uri · s.id ·)

/-- A tool that crashes leaves nothing but what its handler remembers. -/
theorem answer_alters_crash :
    let tool : ToolComponent :=
      { descriptor := { name := "crash", inputSchema := .object [] }
        handler := .pure fun _ => .crashed }
    let h : Host :=
      { medium := .memory, naming := .numbered "session-" "request-" ""
        server :=
          { config := { info := ⟨"server", "1"⟩, capabilities := { tools := some {} } }
            registry := Registry.add {} (.tool tool) }
        sessions := [{ id := "session-0", state := .initialized }] }
    let r : Request :=
      { id := .number 1, method := Route.toolsCall.method
        params := some (.object [("name", .string "crash")]) }
    (h.answer 0 r).1.map (·.isError) = some true ∧ (h.answer 0 r).2.unasked = h.unasked := by
  intro tool h r
  have herror : (h.answer 0 r).1.map (·.isError) = some true := rfl
  obtain ⟨response, hresponse, hfailed, -⟩ := h.answer_alters 0 _ rfl r
  refine ⟨herror, hfailed ?_⟩
  rw [hresponse] at herror
  exact Option.some.inj herror

end Host

end ContextServer
