import ContextServer.Proofs.Host.Run
import ContextServer.Proofs.Server.Answer

/-!
# What operations leave alone

Most of what happens to a host changes little of it. A function of hosts can be
blind to what is sent (`Host.BlindToSending`), to who waits for what
(`Host.BlindToWaiting`), to both and to how sessions and components are set up
(`Host.BlindToTraffic`), and to all that a host is used for between the beginning and
the end of its sessions (`Host.BlindToUse`). Each operation is shown once to change
nothing for the functions that are blind to what it is about.

Two kinds of functions are used: what is seen of the sessions one by one, their
*view* (`Host.view`), and what never changes (`Host.constants`). So an event that
opens no session, closes none and brings none anything to take shows only in what a
session is used for (`Host.BlindToUse.step`), and no event changes the configuration
(`Host.constants_step`).
-/

namespace ContextServer

universe u v w

/-- A fold leaves alone what each of its steps does. -/
theorem foldl_frame {α : Type u} {β : Type v} {γ : Type w} {f : α → β → α} {g : α → γ}
    (h : ∀ a b, g (f a b) = g a) (bs : List β) (a : α) : g (bs.foldl f a) = g a := by
  induction bs generalizing a with
  | nil => rfl
  | cons b bs ih => rw [List.foldl_cons, ih, h]

/-- The event opens no session, closes none, and no session takes anything. -/
def Event.isQuiet : Event → Bool
  | .connect | .deliver _ _ | .answer _ _ | .close _ _ | .closeAll _ => false
  | _ => true

/-- The event opens a session. -/
def Event.isConnection : Event → Bool
  | .connect => true
  | _ => false

/-- The event writes into the table of subscriptions from this side. -/
def Event.isSubscribing : Event → Bool
  | .resourceChanged _ | .subscribe _ _ | .unsubscribe _ _ => true
  | _ => false

namespace Host

variable {γ : Type u} {f : Session → γ} {g : Host → γ} {h : Host} {i : Nat}

/-- What is seen of the sessions, in their order. -/
def view (f : Session → γ) (h : Host) : List γ := h.sessions.map f

/-- What never changes. -/
def constants (h : Host) : Medium × Naming × ServerConfig := (h.medium, h.naming, h.server.config)

/-- Nothing is seen of what goes over the links, and of who is registered. -/
structure BlindToSending (g : Host → γ) : Prop where
  link : ∀ (h : Host) i s link, h.sessions[i]? = some s → g (h.put i { s with link }) = g h
  live : ∀ (h : Host) live, g { h with live } = g h

/-- Nothing is seen of the waits for answers, and of the time. -/
structure BlindToWaiting (g : Host → γ) : Prop where
  pending : ∀ (h : Host) i s pending, h.sessions[i]? = some s →
    g (h.put i { s with pending }) = g h
  settled : ∀ (h : Host) settled, g { h with settled } = g h
  issued : ∀ (h : Host) issued, g { h with issued } = g h
  now : ∀ (h : Host) now, g { h with now } = g h

/-- Nothing is seen of what goes over the links and is waited for, nor of the components. -/
structure BlindToTraffic (g : Host → γ) : Prop extends BlindToSending g, BlindToWaiting g where
  isReleased : ∀ (h : Host) i s isReleased, h.sessions[i]? = some s →
    g (h.put i { s with isReleased }) = g h
  logLevel : ∀ (h : Host) i s logLevel, h.sessions[i]? = some s →
    g (h.put i { s with logLevel }) = g h
  registry : ∀ (h : Host) registry,
    g { h with server := { h.server with registry } } = g h

/-- Nothing is seen of what sessions are used for, and of what the server offers. -/
structure BlindToUse (g : Host → γ) : Prop extends BlindToSending g, BlindToWaiting g where
  isReleased : ∀ (h : Host) i s isReleased, h.sessions[i]? = some s →
    g (h.put i { s with isReleased }) = g h
  logLevel : ∀ (h : Host) i s logLevel, h.sessions[i]? = some s →
    g (h.put i { s with logLevel }) = g h
  registry : ∀ (h : Host) registry,
    g { h with server := { h.server with registry } } = g h
  subscriptions : ∀ (h : Host) subscriptions, g (h.withSubscriptions subscriptions) = g h

theorem blindToUse_constants : BlindToUse constants where
  link _ _ _ _ _ := rfl
  live _ _ := rfl
  pending _ _ _ _ _ := rfl
  settled _ _ := rfl
  issued _ _ := rfl
  now _ _ := rfl
  isReleased _ _ _ _ _ := rfl
  logLevel _ _ _ _ _ := rfl
  registry _ _ := rfl
  subscriptions _ _ := rfl

/-! ## Views -/

theorem view_getElem? : (h.view f)[i]? = h.sessions[i]?.map f := List.getElem?_map

theorem view_put (s : Session) : (h.put i s).view f = (h.view f).set i (f s) := List.map_set

theorem view_put_eq {s s' : Session} (hs : h.sessions[i]? = some s) (hf : f s' = f s) :
    (h.put i s').view f = h.view f := by
  have hi : i < (h.view f).length := by
    rw [view, List.length_map]
    exact (List.getElem?_eq_some_iff.1 hs).1
  refine List.ext_getElem? fun j => ?_
  rw [view_put]
  by_cases hij : i = j
  · subst hij
    rw [List.getElem?_set_self hi, view_getElem?, hs, Option.map_some, hf]
  · exact List.getElem?_set_ne hij

/-- The session of that number, by what is seen of it. -/
theorem exists_of_view {x : γ} (hx : (h.view f)[i]? = some x) :
    ∃ s, h.sessions[i]? = some s ∧ f s = x :=
  Option.map_eq_some_iff.1 (view_getElem?.symm.trans hx)

/-- Nothing is seen of the requests that are not answered. -/
def IgnoresPending (f : Session → γ) : Prop := ∀ s pending, f { s with pending } = f s

/-- Nothing is seen of what a session is used for. -/
structure IgnoresUse (f : Session → γ) : Prop where
  link : ∀ s link, f { s with link } = f s
  pending : IgnoresPending f
  isReleased : ∀ s isReleased, f { s with isReleased } = f s
  logLevel : ∀ s logLevel, f { s with logLevel } = f s

theorem blindToWaiting_view (hf : IgnoresPending f) : BlindToWaiting (view f) where
  pending _ _ s pending hs := view_put_eq hs (hf s pending)
  settled _ _ := rfl
  issued _ _ := rfl
  now _ _ := rfl

theorem blindToUse_view (hf : IgnoresUse f) : BlindToUse (view f) where
  link _ _ s link hs := view_put_eq hs (hf.link s link)
  live _ _ := rfl
  toBlindToWaiting := blindToWaiting_view hf.pending
  isReleased _ _ s isReleased hs := view_put_eq hs (hf.isReleased s isReleased)
  logLevel _ _ s logLevel hs := view_put_eq hs (hf.logLevel s logLevel)
  registry _ _ := rfl
  subscriptions _ _ := rfl

/-! ## Changes to one session -/

theorem change_frame {k : Session → Session}
    (hk : ∀ s, h.sessions[i]? = some s → g (h.put i (k s)) = g h) : g (h.change i k) = g h := by
  rw [change]
  split
  · next s hs => exact hk s hs
  · rfl

theorem getElem?_change {s : Session} {k : Session → Session} (hs : h.sessions[i]? = some s) :
    (h.change i k).sessions[i]? = some (k s) := by
  simp only [change, hs]
  exact List.getElem?_set_self (List.getElem?_eq_some_iff.1 hs).1

theorem getElem?_send {s : Session} {m : Message} (hs : h.sessions[i]? = some s) :
    (h.send i m).2.sessions[i]? =
      some { s with link := (s.link.send h.medium.capacity? m).2 } := by
  have hi : i < h.sessions.length := (List.getElem?_eq_some_iff.1 hs).1
  simp only [send, hs]
  split
  · exact List.getElem?_set_self hi
  · exact List.getElem?_set_self hi

/-! ## Sending -/

namespace BlindToSending

variable {m : Message} {method : String} {params : Option Json} {c : Closing}
  (hg : BlindToSending g)

include hg

theorem send : g (h.send i m).2 = g h := by
  rw [Host.send]
  split
  · rfl
  · next s hs =>
    have hput := hg.link h i s (s.link.send h.medium.capacity? m).2 hs
    dsimp only
    split
    · exact hput
    · exact (hg.live _ _).trans hput

theorem reject {fault : ParseFault} : g (h.reject i fault).2 = g h := by
  rw [Host.reject]
  split
  · rfl
  · exact hg.send

theorem broadcast : g (h.broadcast method params) = g h :=
  foldl_frame (fun _ _ => hg.send) _ h

theorem log {message : LoggingMessageNotification} : g (h.log i message).2 = g h := by
  rw [Host.log]
  split
  · rfl
  · split
    · exact hg.send
    · rfl

theorem announce {family : Family} : g (h.announce family) = g h := by
  rw [Host.announce]
  split
  · exact hg.broadcast
  · rfl

theorem closeLink : g (h.closeLink i c) = g h := by
  rw [Host.closeLink]
  split
  · rfl
  · next s hs => exact (hg.live _ _).trans (hg.link h i s _ hs)

theorem collect : g (h.collect i).2 = g h := by
  rw [Host.collect]
  split
  · rfl
  · next s hs => exact hg.link h i s _ hs

end BlindToSending

/-! ## Waiting -/

theorem settle_frame {p : Pending} {outcome : Except Failure Json}
    (hg : ∀ (h : Host) settled, g { h with settled } = g h) : g (h.settle p outcome) = g h := by
  rw [settle]
  split
  · rfl
  · exact hg _ _

theorem settleAll_frame {ps : List Pending} {outcome : Pending → Except Failure Json}
    (hg : ∀ (h : Host) settled, g { h with settled } = g h) :
    g (h.settleAll ps outcome) = g h :=
  foldl_frame (fun _ _ => settle_frame hg) ps h

theorem sessions_settle {p : Pending} {outcome : Except Failure Json} :
    (h.settle p outcome).sessions = h.sessions :=
  settle_frame fun _ _ => rfl

theorem sessions_settleAll {ps : List Pending} {outcome : Pending → Except Failure Json} :
    (h.settleAll ps outcome).sessions = h.sessions :=
  settleAll_frame fun _ _ => rfl

namespace BlindToWaiting

variable (hg : BlindToWaiting g)

include hg

theorem bury : g (h.bury i) = g h := by
  rw [Host.bury]
  split
  · rfl
  · next s hs =>
    split
    · rfl
    · exact (settleAll_frame hg.settled).trans (hg.pending h i s [] hs)

theorem expireWait {p : Pending} : g (h.expireWait i p) = g h := by
  rw [Host.expireWait]
  split
  · rfl
  · next s hs =>
    split
    · exact hg.bury.trans ((settle_frame hg.settled).trans (hg.pending h i s _ hs))
    · rfl

theorem expire : g h.expire = g h := by
  refine foldl_frame (fun h i => ?_) _ h
  rw [expireSession]
  split
  · rfl
  · exact foldl_frame (fun _ _ => hg.expireWait) _ h

theorem advance {milliseconds : Nat} : g (h.advance milliseconds) = g h :=
  hg.expire.trans (hg.now h _)

theorem takeResponse {r : Response} : g (h.takeResponse i r) = g h := by
  rw [Host.takeResponse]
  split
  · next s id hs _ =>
    split
    · exact (settle_frame hg.settled).trans (hg.pending h i s _ hs)
    · rfl
  · rfl

end BlindToWaiting

/-! ## Requests to clients -/

section

variable {method : String} {params : Option Json} (hsending : BlindToSending g)
  (hwaiting : BlindToWaiting g)

include hsending hwaiting

theorem request_frame {waiter : Waiter} : g (h.request i method params waiter).2 = g h := by
  rw [Host.request]
  split
  · rfl
  · split
    · rfl
    · dsimp only
      split
      · next hsend => exact (congrArg (fun x => g x.2) hsend).symm.trans hsending.send
      · next h' hsend =>
        have hh' : g h' = g h := (congrArg (fun x => g x.2) hsend).symm.trans hsending.send
        -- The message is sent, then the wait is added, then the time is looked at.
        refine hwaiting.expire.trans ((hwaiting.issued _ _).trans (Eq.trans ?_ hh'))
        exact change_frame fun s hs => hwaiting.pending h' i s _ hs

theorem listRoots_frame : g (h.listRoots i).2 = g h := by
  rw [Host.listRoots]
  split
  · split
    · exact request_frame hsending hwaiting
    · rfl
  · rfl

theorem createMessage_frame {r : CreateMessageRequest} : g (h.createMessage i r).2 = g h := by
  rw [Host.createMessage]
  split
  · split
    · exact request_frame hsending hwaiting
    · rfl
  · rfl

end

/-! ## Events that only use sessions -/

namespace BlindToTraffic

variable (hg : BlindToTraffic g)

include hg

theorem release : g (h.release i) = g h :=
  hg.bury.trans (change_frame fun s hs => hg.isReleased h i s true hs)

theorem removeComponent {family : Family} {key : String} :
    g (h.removeComponent family key).2 = g h := by
  rw [Host.removeComponent, uninstall]
  dsimp only
  split
  · exact hg.announce.trans (hg.registry h _)
  · exact hg.registry h _

/-- A quiet event that nobody subscribes by is not seen. -/
theorem step {e : Event} (he : e.isQuiet = true) (hs : e.isSubscribing = false) :
    g (h.step e) = g h := by
  cases e with
  | connect | deliver | answer | close | closeAll => cases he
  | resourceChanged | subscribe | unsubscribe => cases hs
  | reject => exact hg.reject
  | send => exact hg.send
  | request => exact request_frame hg.toBlindToSending hg.toBlindToWaiting
  | listRoots => exact listRoots_frame hg.toBlindToSending hg.toBlindToWaiting
  | createMessage => exact createMessage_frame hg.toBlindToSending hg.toBlindToWaiting
  | log => exact hg.log
  | broadcast => exact hg.broadcast
  | install | uninstall | callTool | readResource | getPrompt => exact hg.registry h _
  | addComponent => exact hg.announce.trans (hg.registry h _)
  | removeComponent => exact hg.removeComponent
  | setLogLevel => exact change_frame fun s hs => hg.logLevel h _ s _ hs
  | closeLink => exact hg.closeLink
  | hangUp | setFault => exact change_frame fun s hs => hg.link h _ s _ hs
  | release => exact hg.release
  | collect => exact hg.collect
  | collectSettled => exact hg.settled h _
  | advance => exact hg.advance

end BlindToTraffic

namespace BlindToUse

variable (hg : BlindToUse g)

include hg

theorem blindToTraffic : BlindToTraffic g :=
  ⟨hg.toBlindToSending, hg.toBlindToWaiting, hg.isReleased, hg.logLevel, hg.registry⟩

theorem resourceChanged {uri : String} : g (h.resourceChanged uri) = g h :=
  (foldl_frame (fun _ _ => hg.send) _ _).trans (hg.subscriptions h _)

theorem subscribe {uri : String} : g (h.subscribe i uri) = g h := by
  rw [Host.subscribe]
  split
  · exact hg.subscriptions h _
  · rfl

/-- A quiet event is not seen. -/
theorem step {e : Event} (he : e.isQuiet = true) : g (h.step e) = g h := by
  cases e with
  | resourceChanged => exact hg.resourceChanged
  | subscribe => exact hg.subscribe
  | unsubscribe => exact hg.subscriptions h _
  | _ => exact hg.blindToTraffic.step he rfl

end BlindToUse

/-! ## Requests -/

section

variable {r : Request}

theorem config_perform {server : Server} {s : Session} :
    (server.perform s r).server.config = server.config := by
  rcases server.perform_cases s r with ⟨p, -, -, hperform⟩ | ⟨-, hkeeps, -⟩
  · rw [hperform]
  · exact hkeeps.1

theorem link_perform {server : Server} {s : Session} :
    (server.perform s r).session.link = s.link := by
  rcases server.perform_cases s r with ⟨p, -, -, hperform⟩ | ⟨-, ⟨-, level, hsession⟩, -⟩
  · rw [hperform]
  · rw [hsession]

theorem id_perform {server : Server} {s : Session} :
    (server.perform s r).session.id = s.id := by
  rcases server.perform_cases s r with ⟨p, -, -, hperform⟩ | ⟨-, ⟨-, level, hsession⟩, -⟩
  · rw [hperform]
  · rw [hsession]

theorem answer_of_session {s : Session} (hs : h.sessions[i]? = some s) :
    h.answer i r = (some (h.server.answer s r).value,
      { h.put i (h.server.answer s r).session with server := (h.server.answer s r).server }) := by
  simp only [answer, hs]

theorem takeRequest_of_session {s : Session} (hs : h.sessions[i]? = some s) :
    h.takeRequest i r =
      ((h.answer i r).2.send i (.response (h.server.answer s r).value)).2 := by
  simp only [takeRequest, answer_of_session hs]

theorem getElem?_answer {s : Session} (hs : h.sessions[i]? = some s) :
    (h.answer i r).2.sessions[i]? = some (h.server.answer s r).session := by
  rw [answer_of_session hs]
  exact List.getElem?_set_self (List.getElem?_eq_some_iff.1 hs).1

theorem constants_answer : (h.answer i r).2.constants = h.constants := by
  cases hs : h.sessions[i]? with
  | none => simp only [answer, hs]
  | some s =>
    rw [answer_of_session hs]
    exact congrArg (fun config => (h.medium, h.naming, config)) config_perform

theorem constants_takeRequest : (h.takeRequest i r).constants = h.constants := by
  cases hs : h.sessions[i]? with
  | none => simp only [takeRequest, answer, hs]
  | some s =>
    rw [takeRequest_of_session hs]
    exact blindToUse_constants.send.trans constants_answer

end

/-! ## The end of a session -/

theorem getElem?_closeLink {s : Session} {c : Closing} (hs : h.sessions[i]? = some s) :
    (h.closeLink i c).sessions[i]? = some { s with link := s.link.close c } := by
  simp only [closeLink, hs]
  exact List.getElem?_set_self (List.getElem?_eq_some_iff.1 hs).1

theorem getElem?_close {s : Session} {c : Closing} (hs : h.sessions[i]? = some s)
    (hstate : s.state ≠ .closed) :
    (h.close i c).sessions[i]? = some { s.ended with link := s.link.close c } := by
  simp only [close, hs, if_neg hstate]
  refine getElem?_closeLink (s := s.ended) ?_
  rw [sessions_settleAll]
  exact List.getElem?_set_self (List.getElem?_eq_some_iff.1 hs).1

theorem close_of_closed {s : Session} {c : Closing} (hs : h.sessions[i]? = some s)
    (hstate : s.state = .closed) : h.close i c = h := by
  simp only [close, hs, if_pos hstate]

theorem constants_close {c : Closing} : (h.close i c).constants = h.constants := by
  rw [close]
  split
  · rfl
  · split
    · rfl
    · dsimp only
      rw [blindToUse_constants.closeLink, settleAll_frame blindToUse_constants.settled]
      rfl

/-! ## Other sessions -/

section

variable {j : Nat} (hij : j ≠ i)

include hij

theorem put_ne {s : Session} : (h.put j s).sessions[i]? = h.sessions[i]? :=
  List.getElem?_set_ne hij

theorem change_ne {g : Session → Session} : (h.change j g).sessions[i]? = h.sessions[i]? := by
  rw [change]
  split
  · exact put_ne hij
  · rfl

theorem send_ne {m : Message} : (h.send j m).2.sessions[i]? = h.sessions[i]? := by
  rw [send]
  split
  · rfl
  · dsimp only
    split
    · exact put_ne hij
    · exact put_ne hij

theorem closeLink_ne {c : Closing} : (h.closeLink j c).sessions[i]? = h.sessions[i]? := by
  rw [closeLink]
  split
  · rfl
  · exact put_ne hij

theorem close_ne {c : Closing} : (h.close j c).sessions[i]? = h.sessions[i]? := by
  rw [close]
  split
  · rfl
  · split
    · rfl
    · rw [closeLink_ne hij, sessions_settleAll]
      exact put_ne hij

theorem collect_ne : (h.collect j).2.sessions[i]? = h.sessions[i]? := by
  rw [collect]
  split
  · rfl
  · exact put_ne hij

theorem answer_ne {r : Request} : (h.answer j r).2.sessions[i]? = h.sessions[i]? := by
  rw [answer]
  split
  · rfl
  · exact put_ne hij

/-- A message changes no session but the one that it reaches. -/
theorem deliver_ne {m : Message} : (h.deliver j m).sessions[i]? = h.sessions[i]? := by
  unfold deliver
  split
  · rfl
  · next s hs =>
    split
    · rfl
    · cases m with
      | request r =>
        -- The response goes over the link of the session that took the request.
        dsimp only
        rw [takeRequest_of_session hs, send_ne hij, answer_ne hij]
      | notification n =>
        dsimp only [takeNotification]
        split
        · exact change_ne hij
        · split
          · exact close_ne hij
          · rfl
      | response r =>
        dsimp only [takeResponse]
        split
        · split
          · rw [sessions_settle]
            exact put_ne hij
          · rfl
        · rfl

end

/-! ## Events -/

theorem constants_deliver {m : Message} : (h.deliver i m).constants = h.constants := by
  unfold deliver
  split
  · rfl
  · split
    · rfl
    · cases m with
      | request r => exact constants_takeRequest
      | notification n =>
        dsimp only [takeNotification]
        split
        · exact change_frame fun _ _ => rfl
        · split
          · exact constants_close
          · rfl
      | response r => exact blindToUse_constants.takeResponse

theorem constants_deliverText {text : String} :
    (h.deliverText i text).constants = h.constants := by
  rw [deliverText]
  split
  · exact constants_deliver
  · exact blindToUse_constants.reject

theorem medium_of_constants {h' : Host} (hc : h'.constants = h.constants) :
    h'.medium = h.medium :=
  (Prod.mk.inj hc).1

/-- No event changes what never does. -/
theorem constants_step (e : Event) : (h.step e).constants = h.constants := by
  cases e with
  | connect => rfl
  | deliver => exact constants_deliver
  | answer => exact constants_answer
  | close => exact constants_close
  | closeAll => exact foldl_frame (g := constants) (fun _ _ => constants_close) _ h
  | _ => exact blindToUse_constants.step rfl

theorem constants_run (es : List Event) : (h.run es).constants = h.constants :=
  foldl_frame (fun _ e => constants_step e) es h

theorem config_step (e : Event) : (h.step e).server.config = h.server.config :=
  congrArg (·.2.2) (constants_step e)

theorem config_run (es : List Event) : (h.run es).server.config = h.server.config :=
  congrArg (·.2.2) (constants_run es)

/-! ## How many sessions there are -/

/-- How many sessions were opened. -/
def size (h : Host) : Nat := h.sessions.length

theorem size_put {s : Session} : (h.put i s).size = h.size := List.length_set

theorem blindToUse_size : BlindToUse size where
  link _ _ _ _ _ := size_put
  live _ _ := rfl
  pending _ _ _ _ _ := size_put
  settled _ _ := rfl
  issued _ _ := rfl
  now _ _ := rfl
  isReleased _ _ _ _ _ := size_put
  logLevel _ _ _ _ _ := size_put
  registry _ _ := rfl
  subscriptions _ _ := rfl

theorem size_answer {r : Request} : (h.answer i r).2.size = h.size := by
  rw [answer]
  split
  · rfl
  · exact size_put

theorem size_close {c : Closing} : (h.close i c).size = h.size := by
  rw [close]
  split
  · rfl
  · split
    · rfl
    · dsimp only
      rw [blindToUse_size.closeLink, settleAll_frame blindToUse_size.settled]
      exact size_put

theorem size_deliver {m : Message} : (h.deliver i m).size = h.size := by
  unfold deliver
  split
  · rfl
  · next s hs =>
    split
    · rfl
    · cases m with
      | request r =>
        dsimp only
        rw [takeRequest_of_session hs, blindToUse_size.send, size_answer]
      | notification n =>
        dsimp only [takeNotification]
        split
        · exact change_frame fun _ _ => size_put
        · split
          · exact size_close
          · rfl
      | response r => exact blindToUse_size.takeResponse

/-- Nothing but a client that connects opens a session. -/
theorem size_step {e : Event} (he : e.isConnection = false) : (h.step e).size = h.size := by
  cases e with
  | connect => cases he
  | deliver => exact size_deliver
  | answer => exact size_answer
  | close => exact size_close
  | closeAll => exact foldl_frame (fun _ _ => size_close) _ h
  | _ => exact blindToUse_size.step rfl

end Host

end ContextServer
