import ContextServer.Proofs.Host.Reply
import ContextServer.Proofs.Http.Aligned

/-!
# Conversations

A client over HTTP that posts a text and reads of its stream what there is to read, again
and again (`HttpService.talk`). As long as its session is up, it reads after each post the
responses to the text, and its stream never fills (`HttpService.Attends.exchange_up`). Once
a text ended the session, the session is not found any more and the stream has come to its
end (`HttpService.HasEnded.talk`).
-/

namespace ContextServer

namespace HttpService

/-- A client posts a text to its session, and reads what there is to read of its stream. -/
def exchange (s : HttpService) (i : Nat) (id text : String) : Option String × HttpService :=
  let (piece, s) := (s.post (some id) text).2.read i
  (piece.map (·.1), s)

/-- A client posts texts to its session, and reads its stream after each of them. -/
def talk (s : HttpService) (i : Nat) (id : String) :
    List String → List (Option String) × HttpService
  | [] => ([], s)
  | text :: texts =>
    let (piece, s) := s.exchange i id text
    let (pieces, s) := s.talk i id texts
    (piece :: pieces, s)

variable {s s' : HttpService} {h : Host} {i : Nat} {session : Session} {text : String}

/-! ## Steps -/

theorem live?_eq (hs : s.host? = some h) (id : String) :
    s.live? id = (h.live.get? id).map fun i => (h, i) := by
  have hhost : s.provider.host = some h := hs
  simp only [live?, hhost, Option.pure_def, Option.bind_eq_bind, Option.bind_some]
  cases h.live.get? id <;> rfl

theorem post_live (hs : s.host? = some h) (hlive : h.live.get? session.id = some i)
    (text : String) :
    (s.post (some session.id) text).2 = s.withHost (h.deliverText i text) := by
  simp only [post, live?_eq hs, hlive, Option.map_some, Host.deliverText]
  cases Message.parse text <;> rfl

theorem post_gone (hs : s.host? = some h) (hlive : h.live.get? session.id = none)
    (text : String) : (s.post (some session.id) text).2 = s := by
  simp only [post, live?_eq hs, hlive, Option.map_none]

/-- The stream was opened, its first event was read, and the client is still there. -/
def IsRead (s : HttpService) (i : Nat) : Prop := s.streams[i]? = some { isGreeted := true }

/-- All messages that wait are read at once. -/
theorem read_open (hs : s.host? = some h) (hi : s.IsRead i)
    (hsession : h.sessions[i]? = some session) (hcut : session.link.isCut = false) :
    s.read i =
      (some (messageEvents session.link.queue, !session.link.isOpen),
        s.withHost (h.put i { session with link := { session.link with queue := [] } })) := by
  have hstreams : s.streams.set i { isGreeted := true } = s.streams := by
    obtain ⟨hlt, hget⟩ := List.getElem?_eq_some_iff.1 hi
    rw [← hget, List.set_getElem_self]
  have hempty (text : String) : "" ++ text = text := String.empty_append
  have hhost : s.provider.host = some h := hs
  have hstream : s.streams[i]? = some { isGreeted := true } := hi
  simp only [read, hstream, hhost, hsession, hcut, Host.collect, Link.collect, hstreams, hempty,
    if_true, Bool.false_eq_true, if_false]
  rfl

/-- Nothing is read of a stream that was cut. -/
theorem read_cut (hs : s.host? = some h) (hi : s.IsRead i)
    (hsession : h.sessions[i]? = some session) (hcut : session.link.isCut = true) :
    s.read i = (some ("", true), s) := by
  have hhost : s.provider.host = some h := hs
  have hstream : s.streams[i]? = some { isGreeted := true } := hi
  simp only [read, hstream, hhost, hsession, hcut, if_true]

/-! ## Sessions -/

/-- The session is up, and its client has read all there was to read. -/
structure Attends (s : HttpService) (i : Nat) (h : Host) (session : Session) : Prop where
  host : s.host? = some h
  medium : h.medium = .stream
  found : h.sessions[i]? = some session
  state : session.state ≠ .closed
  link : session.link = {}
  live : h.live.get? session.id = some i
  read : s.IsRead i

/-- The session is over, and its stream has come to its end. -/
structure HasEnded (s : HttpService) (i : Nat) (h : Host) (session : Session) : Prop where
  host : s.host? = some h
  found : h.sessions[i]? = some session
  live : h.live.get? session.id = none
  link : session.link.isCut = true
  read : s.IsRead i

theorem Attends.isUp (ha : s.Attends i h session) : session.IsUp :=
  ⟨ha.state, by rw [ha.link], by rw [ha.link]⟩

theorem Attends.heard (ha : s.Attends i h session) (text : String) :
    Host.Heard h i session text (h.deliverText i text) := by
  refine Host.heard_deliverText ha.found ha.isUp ?_ text
  rw [ha.medium, ha.link]
  rfl

/-- A client opens a stream and reads its first event. -/
theorem Aligned.attends (ha : s.Aligned) (hs : s.host? = some h) :
    ∃ s' h', s.openStream.1 = .stream h.size ∧ s.openStream.2.read h.size =
        (some (s.openStream.2.greeting (h.naming.session h.size), false), s') ∧
      s'.Attends h.size h' { id := h.naming.session h.size } ∧ h'.server = h.server := by
  obtain ⟨hfound, hstream⟩ := ha.sessions_opened hs
  let h' : Host := h.connect.2.put h.size { id := h.naming.session h.size }
  let streams := (s.opened h).streams.set h.size { isGreeted := true }
  refine ⟨{ s.withHost h' with streams }, h', congrArg Prod.fst (openStream_of_host hs), ?_,
    ⟨rfl, ha.medium h hs, ?_, SessionState.noConfusion, rfl, ?_, ?_⟩, rfl⟩
  · have hnothing (text : String) : text ++ messageEvents [] = text := String.append_empty
    have hprovider : (s.opened h).provider.host = some h.connect.2 := rfl
    simp only [openStream_of_host hs, HttpService.read, hstream, hprovider, hfound, Host.collect,
      Link.collect, hnothing, Bool.false_eq_true, if_false]
    rfl
  · exact (Host.getElem?_put hfound _ _).trans (if_pos rfl)
  · exact (Dict.get?_insert _ _ _ _).trans (if_pos rfl)
  · exact List.getElem?_set_self (List.getElem?_eq_some_iff.1 hstream).1

/-- A text that does not end the session: its responses are read. -/
theorem Attends.exchange_up (ha : s.Attends i h session)
    (hends : Message.endsSession text = false) :
    ∃ s' h',
      s.exchange i session.id text =
        (some (messageEvents ((h.server.hear session text).value.map .response)), s') ∧
      s'.Attends i h' (h.server.hear session text).session ∧
      h'.server = (h.server.hear session text).server := by
  have hheard := ha.heard text
  obtain ⟨hstate, hlink, hid⟩ := h.server.hear_up hends ha.state
  rw [ha.link] at hlink
  -- What is in the queue before the client reads it are the responses.
  have hfound : (h.deliverText i text).sessions[i]? =
      some { (h.server.hear session text).session with
        link := { queue := (h.server.hear session text).value.map .response } } := by
    rw [hheard.session, Host.afterText, hlink, ha.link]
    rfl
  rw [exchange, post_live ha.host ha.live,
    read_open (s := s.withHost (h.deliverText i text)) rfl ha.read hfound rfl]
  refine ⟨_, _, rfl, ⟨rfl, ?_, ?_, hstate, hlink, ?_, ha.read⟩, hheard.server⟩
  · exact (Host.medium_of_constants Host.constants_deliverText).trans ha.medium
  · rw [Host.getElem?_put hfound, if_pos rfl, ← hlink]
  · change (h.deliverText i text).live.get? (h.server.hear session text).session.id = some i
    rw [hheard.live, hends, if_neg Bool.false_ne_true, hid, ha.live]

/-- The text that ends the session: nothing is read. -/
theorem Attends.exchange_over (ha : s.Attends i h session)
    (hends : Message.endsSession text = true) :
    ∃ s' h',
      s.exchange i session.id text = (some "", s') ∧
      s'.HasEnded i h' (h.server.hear session text).session ∧
      h'.server = (h.server.hear session text).server := by
  have hheard := ha.heard text
  have hhear := h.server.hear_over session hends
  have hfound : (h.deliverText i text).sessions[i]? =
      some (h.server.hear session text).session := by
    rw [hheard.session, Host.afterText, hhear, ha.link]
    rfl
  have hcut : (h.server.hear session text).session.link.isCut = true := by
    rw [hhear]
    rfl
  rw [exchange, post_live ha.host ha.live,
    read_cut (s := s.withHost (h.deliverText i text)) rfl ha.read hfound hcut]
  refine ⟨_, _, rfl, ⟨rfl, hfound, ?_, hcut, ha.read⟩, hheard.server⟩
  rw [hheard.live, hends, if_pos rfl, hhear]
  exact (Dict.get?_erase _ _ _).trans (if_pos rfl)

theorem HasEnded.exchange (he : s.HasEnded i h session) (text : String) :
    s.exchange i session.id text = (some "", s) := by
  rw [HttpService.exchange, post_gone he.host he.live, read_cut he.host he.read he.found he.link]
  rfl

/-- After the end of the session nothing happens and nothing is read. -/
theorem HasEnded.talk (he : s.HasEnded i h session) (texts : List String) :
    s.talk i session.id texts = (texts.map fun _ => some "", s) := by
  induction texts with
  | nil => rfl
  | cons text texts ih => simp only [HttpService.talk, he.exchange, ih, List.map_cons]

end HttpService

end ContextServer
