import ContextServer.Proofs.Host.Lifecycle
import ContextServer.Proofs.Server.Hear

/-!
# Replies

What a text of a client brings about at the host. As long as its session is up and there
is room in the queue, the server hears it, and the responses to it go into the queue
(`Host.heard_deliverText`): so a question puts the answer to it there, and any other text
nothing (`Host.deliverText_up`). A session that is over takes no text and its link no
response (`Host.deliverText_over`).
-/

namespace ContextServer

/-- A request of the server that nobody made cannot be dropped. -/
theorem Session.dropPending_of_none {s : Session} {id : RequestId} (h : s.pending? id = none) :
    s.dropPending id = s := by
  have hkept : (s.pending.filter fun p => p.id != id) = s.pending := by
    refine List.filter_eq_self.2 fun p hp => ?_
    have hne := List.find?_eq_none.1 h p hp
    rwa [Bool.not_eq_true, ← Bool.not_eq_true'] at hne
  rw [dropPending, hkept]

namespace Host

variable {h : Host} {i : Nat} {s : Session}

/-- What is sent over an open link comes to the end of its queue, if there is room. -/
theorem send_of_room {m : Message} (hs : h.sessions[i]? = some s) (hopen : s.link.isOpen = true)
    (hfault : s.link.fault = none) (hroom : s.link.isFull h.medium.capacity? = false) :
    (h.send i m).2 = h.put i { s with link := { s.link with queue := s.link.queue ++ [m] } } := by
  simp only [send, hs, Link.send_of_room hopen hfault hroom, hopen, if_true]

theorem send_up {m : Message} (hs : h.sessions[i]? = some s) (hup : s.IsUp)
    (hroom : s.link.isFull h.medium.capacity? = false) :
    (h.send i m).2 = h.put i { s with link := { s.link with queue := s.link.queue ++ [m] } } :=
  send_of_room hs hup.link hup.fault hroom

/-- Nothing is sent on a session that is over. -/
theorem send_over {m : Message} (hs : h.sessions[i]? = some s) (hover : s.IsOver) :
    (h.send i m).2.sessions[i]? = some s := by
  rw [getElem?_send hs, Link.send_of_closed hover.link]

/-! ## Texts -/

/-- A session after the server heard a text, with the responses in its queue. -/
def afterText (h : Host) (s : Session) (text : String) : Session :=
  { (h.server.hear s text).session with
    link := { (h.server.hear s text).session.link with
      queue := s.link.queue ++ (h.server.hear s text).value.map .response } }

theorem afterText_over {text : String} (hends : Message.endsSession text = true) :
    (h.afterText s text).IsOver := by
  rw [afterText, h.server.hear_over s hends]
  exact ⟨rfl, rfl⟩

theorem afterText_up {text : String} (hup : s.IsUp) (hends : Message.endsSession text = false) :
    (h.afterText s text).IsUp := by
  obtain ⟨hstate, hlink, -⟩ := h.server.hear_up hends hup.state
  exact ⟨hstate, (congrArg Link.isOpen hlink).trans hup.link,
    (congrArg Link.fault hlink).trans hup.fault⟩

/-- The server heard a text: the responses to it are in the queue, and the session is in
    the register unless the text ended it. -/
structure Heard (h : Host) (i : Nat) (s : Session) (text : String) (h' : Host) : Prop where
  session : h'.sessions[i]? = some (h.afterText s text)
  server : h'.server = (h.server.hear s text).server
  live : h'.live = if Message.endsSession text then h.live.erase s.id else h.live

section

variable (hs : h.sessions[i]? = some s) (hup : s.IsUp)

include hs

/-- A text that does nothing to the session and gets no response. -/
theorem heard_nothing {text : String} {h' : Host}
    (hhear : h.server.hear s text = h.server.only s [])
    (hends : Message.endsSession text = false) (hh' : h' = h) : Heard h i s text h' := by
  subst hh'
  refine ⟨?_, ?_, ?_⟩
  · simp only [afterText, hhear, Server.only, List.map_nil, List.append_nil, hs]
  · rw [hhear, Server.only]
  · rw [hends, if_neg Bool.false_ne_true]

theorem heard_response {r : Response} {text : String}
    (ht : Message.parse text = .ok (.response r)) :
    Heard h i s text (h.takeResponse i r) := by
  have hends : Message.endsSession text = false := by rw [Message.endsSession, ht]
  cases hid : r.id with
  | none =>
    refine heard_nothing hs ?_ hends ?_
    · simp only [Server.hear, ht, hid, Option.map_none, Option.getD_none]
    · simp only [takeResponse, hs, hid]
  | some id =>
    have hhear : h.server.hear s text = h.server.only (s.dropPending id) [] := by
      simp only [Server.hear, ht, hid, Option.map_some, Option.getD_some]
    cases hp : s.pending? id with
    | none =>
      refine heard_nothing hs ?_ hends ?_
      · rw [hhear, s.dropPending_of_none hp]
      · simp only [takeResponse, hs, hid, hp]
    | some p =>
      have htaken : h.takeResponse i r =
          (h.put i (s.dropPending id)).settle p r.outcome := by
        simp only [takeResponse, hs, hid, hp]
      rw [htaken]
      refine ⟨?_, ?_, ?_⟩
      · rw [sessions_settle, getElem?_put hs, if_pos rfl, afterText, hhear]
        simp only [Server.only, List.map_nil, List.append_nil, Session.dropPending]
      · rw [settle_frame (g := Host.server) fun _ _ => rfl, hhear]
        rfl
      · rw [settle_frame (g := Host.live) fun _ _ => rfl, hends]
        rfl

include hup

theorem heard_request {r : Request} {text : String} (ht : Message.parse text = .ok (.request r))
    (hroom : s.link.isFull h.medium.capacity? = false) :
    Heard h i s text (h.takeRequest i r) := by
  obtain ⟨hstate, hlink, -⟩ := h.server.answer_up (r := r) hup.state
  have hup' : (h.server.answer s r).session.IsUp :=
    ⟨hstate, hlink ▸ hup.link, hlink ▸ hup.fault⟩
  have hmedium : (h.answer i r).2.medium = h.medium := medium_of_constants constants_answer
  have hanswer := getElem?_answer hs (r := r)
  rw [takeRequest_of_session hs, send_up hanswer hup' (by rw [hlink, hmedium, hroom])]
  have hends : Message.endsSession text = false := by rw [Message.endsSession, ht]
  refine ⟨?_, ?_, ?_⟩
  · rw [getElem?_put hanswer, if_pos rfl]
    simp only [afterText, Server.hear, ht, hlink, List.map_cons, List.map_nil]
  · simp only [Server.hear, ht, answer_of_session hs]
    rfl
  · rw [hends, answer_of_session hs]
    rfl

theorem heard_notification {n : Notification} {text : String}
    (ht : Message.parse text = .ok (.notification n)) :
    Heard h i s text (h.takeNotification i n) := by
  have hends : Message.endsSession text = decide (n.method = Method.cancelled) := by
    rw [Message.endsSession, ht]
  rw [takeNotification]
  split
  · next hm =>
    have hne : n.method ≠ Method.cancelled := fun hc => absurd (hm.symm.trans hc) (by decide)
    refine ⟨?_, ?_, ?_⟩
    · rw [getElem?_change hs]
      simp only [afterText, Server.hear, ht, if_pos hm, Server.only, List.map_nil,
        List.append_nil]
    · simp only [Server.hear, ht, if_pos hm, Server.only]
      exact change_frame fun _ _ => rfl
    · rw [hends, decide_eq_false hne, if_neg Bool.false_ne_true]
      exact change_frame (g := Host.live) fun _ _ => rfl
  · next hm =>
    split
    · next hc =>
      have hhear := h.server.hear_over s (hends.trans (decide_eq_true hc))
      refine ⟨?_, ?_, ?_⟩
      · rw [getElem?_close hs hup.state, afterText, hhear]
        simp only [List.map_nil, List.append_nil, Link.close]
      · rw [server_close hs hup.state, hhear]
      · rw [live_close hs hup.state, hends, decide_eq_true hc, if_pos rfl]
    · next hc =>
      refine heard_nothing hs ?_ (hends.trans (decide_eq_false hc)) rfl
      simp only [Server.hear, ht, if_neg hm, if_neg hc]

/-- A text that is no message. -/
theorem heard_reject {fault : ParseFault} {text : String}
    (ht : Message.parse text = .error fault)
    (hroom : s.link.isFull h.medium.capacity? = false) :
    Heard h i s text (h.reject i fault).2 := by
  have hends : Message.endsSession text = false := by rw [Message.endsSession, ht]
  have hhear : h.server.hear s text = h.server.only s fault.answer?.toList := by
    simp only [Server.hear, ht]
  rw [reject]
  cases ha : fault.answer? with
  | none => exact heard_nothing hs (by rw [hhear, ha]; rfl) hends rfl
  | some a =>
    dsimp only
    rw [send_up hs hup hroom]
    refine ⟨?_, ?_, ?_⟩
    · rw [getElem?_put hs, if_pos rfl, afterText, hhear, ha]
      rfl
    · rw [hhear]
      rfl
    · rw [hends]
      rfl

end

/-- **One step.** A text reaches a session that is up. -/
theorem heard_deliverText (hs : h.sessions[i]? = some s) (hup : s.IsUp)
    (hroom : s.link.isFull h.medium.capacity? = false) (text : String) :
    Heard h i s text (h.deliverText i text) := by
  rw [deliverText]
  cases ht : Message.parse text with
  | error fault => exact heard_reject hs hup ht hroom
  | ok m =>
    simp only [deliver, hs, if_neg hup.state]
    cases m with
    | request r => exact heard_request hs hup ht hroom
    | notification n => exact heard_notification hs hup ht
    | response r => exact heard_response hs ht

/-- What a text makes of a session that is up: an answer in the queue if the text asks a
    question, and nothing otherwise. -/
structure Hears (s : Session) (text : String) (s' : Session)
    (answered : List (Question × Response)) : Prop where
  ended : Message.endsSession text = true → s'.IsOver
  up : Message.endsSession text = false → s'.IsUp
  question : answered.map Prod.fst = (Question.ofText? text).toList
  answers : ∀ x ∈ answered, x.2.Answers x.1
  queue : s'.link.queue = s.link.queue ++ answered.map fun x => .response x.2

/-- A text reaches a session that is up. -/
theorem deliverText_up (hs : h.sessions[i]? = some s) (hup : s.IsUp)
    (hroom : s.link.isFull h.medium.capacity? = false) (text : String) :
    ∃ s' answered, (h.deliverText i text).sessions[i]? = some s' ∧ Hears s text s' answered := by
  have hheard := heard_deliverText hs hup hroom text
  obtain ⟨answered, hquestion, hanswers, hvalue⟩ := h.server.hear_answers s text
  refine ⟨_, answered, hheard.session, afterText_over, afterText_up hup, hquestion, hanswers, ?_⟩
  rw [afterText, hvalue, List.map_map]
  rfl

/-- A text that reaches a session that is over changes nothing of it. -/
theorem deliverText_over (hs : h.sessions[i]? = some s) (hover : s.IsOver) (text : String) :
    (h.deliverText i text).sessions[i]? = some s := by
  rw [deliverText]
  cases Message.parse text with
  | error fault =>
    dsimp only [reject]
    cases fault.answer? with
    | none => exact hs
    | some a => exact send_over hs hover
  | ok m => simp only [deliver, hs, if_pos hover.state]

end Host

end ContextServer
