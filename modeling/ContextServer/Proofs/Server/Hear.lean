import ContextServer.Proofs.Server.Answer

/-!
# What a text says to a server

A text of a client is heard by the server in a session of the client (`Server.hear`).
It can ask for a response (`Question.ofText?`): by being a request, or by being no message
and still telling whom to answer. Such a text gets just one response, which answers it
(`Response.Answers`), and any other text none (`Server.hear_answers`). One notification ends
the session (`Message.endsSession`), and no other text does (`Server.hear_over`,
`Server.hear_up`).
-/

namespace ContextServer

/-! ## Questions -/

/-- What a text asks a response for. -/
inductive Question where
  /-- The text is a request. -/
  | asked (r : Request)
  /-- The text is no message, and tells whom to answer. -/
  | refused (id : RequestId)

namespace Question

/-- What the response will be tied to. -/
def id : Question → RequestId
  | asked r => r.id
  | refused id => id

/-- The question that a text asks. -/
def ofText? (text : String) : Option Question :=
  match Message.parse text with
  | .ok (.request r) => some (.asked r)
  | .ok _ => none
  | .error fault => fault.id?.map .refused

end Question

/-- The text is the notification that ends a session. -/
def Message.endsSession (text : String) : Bool :=
  match Message.parse text with
  | .ok (.notification n) => n.method = Method.cancelled
  | _ => false

/-- The response is an answer to the question: it is tied to it and has one outcome,
    and what is no message is told to be an invalid request. -/
structure Response.Answers (a : Response) (q : Question) : Prop where
  id : a.id = some q.id
  outcome : a.result.isSome ≠ a.error.isSome
  refusal : ∀ id, q = .refused id → a.error.map (·.code) = some (-32600)

theorem Server.answers_answer (server : Server) (s : Session) (r : Request) :
    (server.answer s r).value.Answers (.asked r) := by
  have hrespond (x : Outcome Failure Json) : (respond r.id x).Answers (.asked r) := by
    cases x <;> exact ⟨rfl, Bool.noConfusion, nofun⟩
  exact hrespond _

theorem ParseFault.answers_answer? {fault : ParseFault} {a : Response}
    (h : fault.answer? = some a) : ∃ id, fault.id? = some id ∧ a.Answers (.refused id) := by
  obtain ⟨id, hid, rfl⟩ := Option.map_eq_some_iff.1 h
  exact ⟨id, hid, rfl, Bool.noConfusion, fun _ _ => rfl⟩

/-! ## Sessions that hear -/

namespace Session

/-- The session takes messages, and what is sent to its client arrives. -/
structure IsUp (s : Session) : Prop where
  state : s.state ≠ .closed
  link : s.link.isOpen = true
  fault : s.link.fault = none

/-- The session takes nothing and sends nothing any more. -/
structure IsOver (s : Session) : Prop where
  state : s.state = .closed
  link : s.link.isOpen = false

end Session

namespace Server

variable {server : Server} {s : Session} {text : String}

/-- What a text makes of a session that is up and of the server, and the responses to it. -/
def hear (server : Server) (s : Session) (text : String) : Served (List Response) :=
  match Message.parse text with
  | .ok (.request r) =>
    let served := server.answer s r
    { served with value := [served.value] }
  | .ok (.notification n) =>
    if n.method = Method.initialized then server.only { s with state := s.state.confirmed } []
    else if n.method = Method.cancelled then
      { value := [], session := { s.ended with link := s.link.close .abrupt }
        server := { server with subscriptions := server.subscriptions.forget s.id } }
    else server.only s []
  | .ok (.response r) => server.only ((r.id.map s.dropPending).getD s) []
  | .error fault => server.only s fault.answer?.toList

/-- A question gets an answer, and what is no question gets none. -/
theorem hear_answers (server : Server) (s : Session) (text : String) :
    ∃ answered : List (Question × Response),
      answered.map Prod.fst = (Question.ofText? text).toList ∧
      (∀ x ∈ answered, x.2.Answers x.1) ∧ (server.hear s text).value = answered.map Prod.snd := by
  rw [hear, Question.ofText?]
  cases Message.parse text with
  | ok m =>
    cases m with
    | request r =>
      exact ⟨[(.asked r, _)], rfl, List.forall_mem_singleton.2 (server.answers_answer s r), rfl⟩
    | notification n =>
      refine ⟨[], rfl, List.forall_mem_nil _, ?_⟩
      dsimp only
      split
      · rfl
      · split <;> rfl
    | response r => exact ⟨[], rfl, List.forall_mem_nil _, rfl⟩
  | error fault =>
    cases ha : fault.answer? with
    | none =>
      have hid : fault.id? = none := Option.map_eq_none_iff.1 ha
      refine ⟨[], ?_, List.forall_mem_nil _, ?_⟩
      · simp only [hid, Option.map_none, Option.toList_none, List.map_nil]
      · simp only [ha]
        rfl
    | some a =>
      obtain ⟨id, hid, hanswers⟩ := ParseFault.answers_answer? ha
      refine ⟨[(.refused id, a)], ?_, List.forall_mem_singleton.2 hanswers, ?_⟩
      · simp only [hid, Option.map_some, Option.toList_some, List.map_cons, List.map_nil]
      · simp only [ha]
        rfl

/-- A request leaves its session up. -/
theorem answer_up (server : Server) {r : Request} (hs : s.state ≠ .closed) :
    (server.answer s r).session.state ≠ .closed ∧
      (server.answer s r).session.link = s.link ∧ (server.answer s r).session.id = s.id := by
  rw [answer]
  rcases server.perform_cases s r with ⟨p, -, -, hperform⟩ | ⟨-, ⟨-, level, hsession⟩, -⟩
  · rw [hperform]
    exact ⟨nofun, rfl, rfl⟩
  · rw [hsession]
    exact ⟨hs, rfl, rfl⟩

/-- The text that ends the session. -/
theorem hear_over (server : Server) (s : Session) (hends : Message.endsSession text = true) :
    server.hear s text =
      { value := [], session := { s.ended with link := s.link.close .abrupt }
        server := { server with subscriptions := server.subscriptions.forget s.id } } := by
  unfold Message.endsSession at hends
  split at hends
  · next n ht =>
    have hm : n.method = Method.cancelled := of_decide_eq_true hends
    simp only [hear, ht, hm]
    rfl
  · cases hends

/-- Any other text leaves the session up. -/
theorem hear_up (server : Server) (hends : Message.endsSession text = false)
    (hs : s.state ≠ .closed) :
    (server.hear s text).session.state ≠ .closed ∧
      (server.hear s text).session.link = s.link ∧ (server.hear s text).session.id = s.id := by
  rw [Message.endsSession] at hends
  rw [hear]
  cases ht : Message.parse text with
  | error fault => exact ⟨hs, rfl, rfl⟩
  | ok m =>
    rw [ht] at hends
    cases m with
    | request r => exact server.answer_up hs
    | notification n =>
      have hm : n.method ≠ Method.cancelled := of_decide_eq_false hends
      dsimp only
      rw [if_neg hm]
      split
      · refine ⟨?_, rfl, rfl⟩
        change s.state.confirmed ≠ .closed
        cases hstate : s.state with
        | closed => exact absurd hstate hs
        | uninitialized | initializing | initialized => nofun
      · exact ⟨hs, rfl, rfl⟩
    | response r =>
      dsimp only
      cases r.id <;> exact ⟨hs, rfl, rfl⟩

end Server

end ContextServer
