import Mathlib.Logic.Relation
import ContextServer.Proofs.Host.Effect
import ContextServer.Proofs.Server.Subscriptions

/-!
# Moves

What happens to a host comes down to a few kinds of small changes. A *stir* touches no
wait and ends no session (`Host.Stir`); a *move* is a stir, the end of a session, or a
change to what is waited for (`Host.Move`). Every event that goes the ordinary way is a
chain of moves (`Host.moves_step`), and most events are chains of stirs
(`Host.calm_step`), so that what moves keep, runs keep.
-/

namespace ContextServer

/-- A session is used by its client and closed by either side: no request is put to it,
    and nothing subscribes it, behind its back. -/
def Event.isOrdinary : Event → Bool
  | .answer _ _ | .subscribe _ _ => false
  | _ => true

/-- The event is none that has to do with waits or with the end of a session. -/
def Event.isCalm : Event → Bool
  | .deliver _ _ | .answer _ _ | .request _ _ _ _ | .listRoots _ | .createMessage _ _
  | .subscribe _ _ | .close _ _ | .closeAll _ | .release _ | .collectSettled | .advance _ => false
  | _ => true

/-! ## Links -/

namespace Link

variable {l : Link} {capacity? : Option Nat} {m : Message}

/-- A link never opens again. -/
theorem isOpen_of_send (h : (l.send capacity? m).2.isOpen = true) : l.isOpen = true := by
  cases hopen : l.isOpen with
  | true => rfl
  | false =>
    rw [send_of_closed hopen] at h
    exact hopen.symm.trans h

/-- A link that is closed after a message has taken none. -/
theorem queue_send_of_closed (h : (l.send capacity? m).2.isOpen = false) :
    (l.send capacity? m).2.queue = l.queue := by
  rw [send_queue]
  split
  · next hok =>
    rw [send] at h hok
    split at h
    · next hopen =>
      rw [if_pos hopen] at hok
      split at h
      · next hfault =>
        simp [hfault] at hok
      · next hfault =>
        simp only [hfault] at hok
        split at h
        · next hfull =>
          simp [hfull] at hok
        · cases hopen.symm.trans h
    · next hopen =>
      rw [if_neg hopen] at hok
      cases hok
  · rfl

end Link

namespace Host

/-! ## Sessions -/

section

variable {h : Host} {i : Nat} {s : Session}

theorem getElem?_put (hs : h.sessions[i]? = some s) (s' : Session) (j : Nat) :
    (h.put i s').sessions[j]? = if i = j then some s' else h.sessions[j]? := by
  by_cases hij : i = j
  · subst hij
    rw [if_pos rfl]
    exact List.getElem?_set_self (List.getElem?_eq_some_iff.1 hs).1
  · rw [if_neg hij, put_ne hij]

theorem getElem?_connect (j : Nat) :
    h.connect.2.sessions[j]? =
      if h.sessions.length = j then some { id := h.naming.session j } else h.sessions[j]? := by
  change (h.sessions ++ [_])[j]? = _
  split
  · next hj =>
    subst hj
    exact List.getElem?_concat_length
  · next hj =>
    rcases Nat.lt_or_gt_of_ne hj with hlt | hgt
    · rw [List.getElem?_eq_none (Nat.le_of_lt hlt),
        List.getElem?_eq_none (by rw [List.length_append]; exact hlt)]
    · exact List.getElem?_append_left hgt

end

/-! ## Stirs -/

/-- A small change that no wait has to do with, and that ends no session. -/
inductive Stir (h : Host) : Host → Prop
  /-- A client connects. -/
  | connect : Stir h h.connect.2
  /-- A session goes on, or is told something about its client. -/
  | session {i : Nat} {s : Session} {state : SessionState} {client : Option Client}
      {logLevel : LoggingLevel} : h.sessions[i]? = some s →
      (state = .closed ↔ s.state = .closed) →
      Stir h (h.put i { s with state, client, logLevel })
  /-- A link changes and is as open as it was; if it is closed, it takes nothing. -/
  | link {i : Nat} {s : Session} {link : Link} : h.sessions[i]? = some s →
      link.isOpen = s.link.isOpen → (link.isOpen = false → link.queue <:+ s.link.queue) →
      Stir h (h.put i { s with link })
  /-- A link is closed, and its session out of the register. -/
  | cut {i : Nat} {s : Session} {link : Link} : h.sessions[i]? = some s →
      link.isOpen = false → link.queue <:+ s.link.queue →
      Stir h ((h.put i { s with link }).unregister s.id)
  /-- A session that is not over subscribes. -/
  | subscribed {i : Nat} {s : Session} {uri : String} : h.sessions[i]? = some s →
      s.state ≠ .closed → Stir h (h.withSubscriptions (h.server.subscriptions.add uri s.id))
  /-- Subscriptions end. -/
  | unsubscribed {t : Subscriptions} :
      (∀ uri id, t.holds uri id = true → h.server.subscriptions.holds uri id = true) →
      (h.server.subscriptions.IsTidy → t.IsTidy) → Stir h (h.withSubscriptions t)
  /-- The components of the server change. -/
  | registry (registry : Registry) : Stir h { h with server := { h.server with registry } }

/-- A chain of stirs. -/
def Calm : Host → Host → Prop := Relation.ReflTransGen Stir

variable {h h' : Host} {i : Nat} {s : Session} {m : Message}

theorem Stir.calm (hs : Stir h h') : Calm h h' := .single hs

/-- Operations one after the other are a chain if each of them is one. -/
theorem reflTransGen_foldl {β : Type} {r : Host → Host → Prop} {f : Host → β → Host}
    (hf : ∀ h b, Relation.ReflTransGen r h (f h b)) (bs : List β) (h : Host) :
    Relation.ReflTransGen r h (bs.foldl f h) :=
  List.foldlRecOn bs f (motive := Relation.ReflTransGen r h) .refl fun h' hh' b _ =>
    hh'.trans (hf h' b)

/-! ### Sending -/

theorem calm_send : Calm h (h.send i m).2 := by
  rw [send]
  split
  · exact .refl
  · next s hs =>
    dsimp only
    split
    · next hopen =>
      exact (Stir.link hs (hopen.trans (Link.isOpen_of_send hopen).symm) fun hclosed =>
        absurd hopen (Bool.eq_false_iff.1 hclosed)).calm
    · next hopen =>
      rw [Bool.not_eq_true] at hopen
      have hqueue := Link.queue_send_of_closed hopen
      exact (Stir.cut hs hopen (hqueue ▸ List.suffix_rfl)).calm

theorem calm_notify {method : String} {params : Option Json} :
    Calm h (h.notify i method params).2 :=
  calm_send

theorem calm_broadcast {method : String} {params : Option Json} :
    Calm h (h.broadcast method params) :=
  reflTransGen_foldl (fun _ _ => calm_notify) _ h

theorem calm_announce {family : Family} : Calm h (h.announce family) := by
  rw [announce]
  split
  · exact calm_broadcast
  · exact .refl

theorem calm_reject {fault : ParseFault} : Calm h (h.reject i fault).2 := by
  rw [reject]
  split
  · exact .refl
  · exact calm_send

theorem calm_log {message : LoggingMessageNotification} : Calm h (h.log i message).2 := by
  rw [log]
  split
  · exact .refl
  · split
    · exact calm_notify
    · exact .refl

theorem calm_closeLink {c : Closing} : Calm h (h.closeLink i c) := by
  rw [closeLink]
  split
  · exact .refl
  · next s hs =>
    exact (Stir.cut hs (s.link.close_isOpen c)
      (s.link.close_queue c ▸ List.suffix_rfl)).calm

/-- What waits on a link is gone; the link is as open as it was. -/
theorem stir_emptied {link : Link} (hs : h.sessions[i]? = some s)
    (hopen : link.isOpen = s.link.isOpen) (hqueue : link.queue = []) :
    Stir h (h.put i { s with link }) :=
  .link hs hopen fun _ => hqueue ▸ List.nil_suffix

theorem calm_collect : Calm h (h.collect i).2 := by
  rw [collect]
  split
  · exact .refl
  · next s hs =>
    have hstir : Stir h (h.put i { s with link := s.link.collect.2 }) := stir_emptied hs rfl rfl
    exact hstir.calm

/-- A change to one session, if there is one. -/
theorem calm_change {f : Session → Session}
    (hf : ∀ s, h.sessions[i]? = some s → Stir h (h.put i (f s))) : Calm h (h.change i f) := by
  rw [change]
  split
  · next s hs => exact (hf s hs).calm
  · exact .refl

theorem calm_resourceChanged {uri : String} : Calm h (h.resourceChanged uri) := by
  refine (Stir.unsubscribed (fun uri' id hholds => ?_) fun ht => ht.keep uri _).calm.trans
    (reflTransGen_foldl (fun _ _ => calm_notify) _ _)
  rw [Subscriptions.holds_keep, Bool.and_eq_true] at hholds
  exact hholds.1

theorem stir_unsubscribe (uri session : String) : Stir h (h.unsubscribe uri session) := by
  refine .unsubscribed (fun uri' id hholds => ?_) fun ht => ht.remove uri session
  rw [Subscriptions.holds_remove, Bool.and_eq_true] at hholds
  exact hholds.2

/-- Most events are calm. -/
theorem calm_step {e : Event} (he : e.isCalm = true) : Calm h (h.step e) := by
  cases e with
  | deliver | answer | request | listRoots | createMessage | subscribe | close | closeAll
  | release | collectSettled | advance => cases he
  | connect => exact Stir.connect.calm
  | reject => exact calm_reject
  | send => exact calm_send
  | log => exact calm_log
  | broadcast => exact calm_broadcast
  | resourceChanged => exact calm_resourceChanged
  | install | uninstall | callTool | readResource | getPrompt => exact (Stir.registry _).calm
  | addComponent => exact (Stir.registry _).calm.trans calm_announce
  | removeComponent family key =>
    rw [step, removeComponent, uninstall]
    dsimp only
    split
    · exact (Stir.registry _).calm.trans calm_announce
    · exact (Stir.registry _).calm
  | setLogLevel => exact calm_change fun s hs => .session hs Iff.rfl
  | unsubscribe uri session => exact (stir_unsubscribe uri session).calm
  | closeLink => exact calm_closeLink
  | hangUp => exact calm_change fun s hs => stir_emptied hs rfl rfl
  | setFault => exact calm_change fun s hs => .link hs rfl fun _ => List.suffix_rfl
  | collect => exact calm_collect

/-! ### Messages -/

/-- A host that differs in its components only. -/
theorem eq_of_unasked {server : Server} (hserver : server.unasked = h.server.unasked) :
    { h with server } = { h with server := { h.server with registry := server.registry } } := by
  obtain ⟨config, registry, subscriptions⟩ := server
  obtain ⟨hconfig, -, hsubscriptions⟩ := Server.mk.inj hserver
  rw [show config = h.server.config from hconfig,
    show subscriptions = h.server.subscriptions from hsubscriptions]

theorem calm_of_leaves {r : Request} {x : Served (Outcome Failure Json)}
    (hleaves : h.server.Leaves s r x) (hs : h.sessions[i]? = some s) (hstate : s.state ≠ .closed) :
    Calm h { h.put i x.session with server := x.server } := by
  cases hleaves with
  | nothing _ hsession hserver =>
    dsimp only
    rw [hsession, put_self hs, eq_of_unasked hserver]
    exact (Stir.registry _).calm
  | @client p _ _ _ =>
    have hnever : SessionState.initializing = .closed ↔ s.state = .closed :=
      iff_of_false (by decide) hstate
    exact (Stir.session hs hnever).calm
  | logLevel => exact (Stir.session hs Iff.rfl).calm
  | subscribed =>
    dsimp only
    rw [put_self hs]
    exact (Stir.subscribed hs hstate).calm
  | @unsubscribed p =>
    dsimp only
    rw [put_self hs]
    exact (stir_unsubscribe p.uri s.id).calm

/-- A request in a session that is not over. -/
theorem calm_answer {r : Request} (hs : h.sessions[i]? = some s) (hstate : s.state ≠ .closed) :
    Calm h (h.answer i r).2 := by
  rw [answer_of_session hs]
  exact calm_of_leaves (h.server.perform_leaves s r) hs hstate

theorem calm_takeRequest {r : Request} (hs : h.sessions[i]? = some s)
    (hstate : s.state ≠ .closed) : Calm h (h.takeRequest i r) := by
  rw [takeRequest_of_session hs]
  exact (calm_answer hs hstate).trans calm_send

theorem confirmed_eq_closed_iff (state : SessionState) :
    state.confirmed = .closed ↔ state = .closed := by
  cases state <;> decide

/-- The notice that the answer to the introduction was seen. -/
theorem calm_confirm :
    Calm h (h.change i fun s => { s with state := s.state.confirmed }) :=
  calm_change fun s hs => .session hs (confirmed_eq_closed_iff s.state)

/-! ## Moves -/

/-- A small change. -/
inductive Move (h : Host) : Host → Prop
  /-- A stir. -/
  | stir {h' : Host} : Stir h h' → Move h h'
  /-- A session ends. -/
  | close {i : Nat} {s : Session} {c : Closing} : h.sessions[i]? = some s →
      s.state ≠ .closed → Move h (h.close i c)
  /-- Whoever opened a session lets go of it. -/
  | release {i : Nat} {s : Session} : h.sessions[i]? = some s →
      Move h (h.put i { s with isReleased := true })
  /-- Something else is waited for in a session; in one that is over, nothing. -/
  | waits {i : Nat} {s : Session} {pending : List Pending} : h.sessions[i]? = some s →
      (s.state = .closed → s.pending = [] → pending = []) → Move h (h.put i { s with pending })
  /-- Time passes, or what came of waits is taken down. -/
  | clock (issued now : Nat) (settled : List Settlement) : Move h { h with issued, now, settled }

/-- A chain of moves. -/
def Moves : Host → Host → Prop := Relation.ReflTransGen Move

theorem Move.moves (hm : Move h h') : Moves h h' := .single hm

theorem Calm.moves (hc : Calm h h') : Moves h h' := by
  induction hc with
  | refl => exact .refl
  | tail _ hs ih => exact ih.tail (.stir hs)

/-! ### Waits -/

theorem moves_settle {p : Pending} {outcome : Except Failure Json} :
    Moves h (h.settle p outcome) := by
  rw [settle]
  split
  · exact .refl
  · exact (Move.clock _ _ _).moves

theorem moves_settleAll {ps : List Pending} {outcome : Pending → Except Failure Json} :
    Moves h (h.settleAll ps outcome) :=
  reflTransGen_foldl (fun _ _ => moves_settle) ps h

theorem moves_dropPending {id : RequestId} (hs : h.sessions[i]? = some s) :
    Moves h (h.put i (s.dropPending id)) :=
  (Move.waits hs fun _ hnone => by rw [hnone]; rfl).moves

theorem moves_bury : Moves h (h.bury i) := by
  rw [bury]
  split
  · exact .refl
  · next s hs =>
    split
    · exact .refl
    · exact (Move.waits hs fun _ _ => rfl).moves.trans moves_settleAll

theorem moves_expireWait {p : Pending} : Moves h (h.expireWait i p) := by
  rw [expireWait]
  split
  · exact .refl
  · next s hs =>
    split
    · exact ((moves_dropPending hs).trans moves_settle).trans moves_bury
    · exact .refl

theorem moves_expire : Moves h h.expire := by
  refine reflTransGen_foldl (fun h i => ?_) _ h
  rw [expireSession]
  split
  · exact .refl
  · exact reflTransGen_foldl (fun _ _ => moves_expireWait) _ h

theorem moves_takeResponse {r : Response} : Moves h (h.takeResponse i r) := by
  rw [takeResponse]
  split
  · next s id hs _ =>
    split
    · exact (moves_dropPending hs).trans moves_settle
    · exact .refl
  · exact .refl

/-! ### Requests to clients -/

theorem moves_request {method : String} {params : Option Json} {waiter : Waiter} :
    Moves h (h.request i method params waiter).2 := by
  rw [request]
  split
  · exact .refl
  · next s hs =>
    split
    · exact .refl
    · next hstate =>
      dsimp only
      have hsent := getElem?_send (m := .request
        { id := .text (h.naming.request h.issued), method, params }) hs
      have hcalm := calm_send (h := h) (i := i)
        (m := .request { id := .text (h.naming.request h.issued), method, params })
      split
      · next hsend =>
        rw [hsend] at hcalm
        exact hcalm.moves
      · next h₁ hsend =>
        rw [hsend] at hsent hcalm
        -- The message is sent, then the wait is added, then the time is looked at.
        have hadded : Moves h₁ (h₁.change i fun s =>
            { s with pending := s.pending ++ [⟨.text (h.naming.request h.issued), waiter⟩] }) := by
          simp only [change, hsent]
          exact (Move.waits hsent fun hclosed => absurd hclosed hstate).moves
        exact ((hcalm.moves.trans hadded).trans (Move.clock _ _ _).moves).trans moves_expire

theorem moves_listRoots : Moves h (h.listRoots i).2 := by
  rw [listRoots]
  split
  · split
    · exact moves_request
    · exact .refl
  · exact .refl

theorem moves_createMessage {r : CreateMessageRequest} : Moves h (h.createMessage i r).2 := by
  rw [createMessage]
  split
  · split
    · exact moves_request
    · exact .refl
  · exact .refl

/-! ### The end of sessions -/

theorem moves_close {c : Closing} : Moves h (h.close i c) := by
  cases hs : h.sessions[i]? with
  | none =>
    simp only [close, hs]
    exact .refl
  | some s =>
    by_cases hstate : s.state = .closed
    · rw [close_of_closed hs hstate]
      exact .refl
    · exact (Move.close hs hstate).moves

theorem moves_release : Moves h (h.release i) := by
  have hreleased : Moves h (h.change i fun s => { s with isReleased := true }) := by
    rw [change]
    split
    · next s hs => exact (Move.release hs).moves
    · exact .refl
  exact hreleased.trans moves_bury

theorem moves_deliver : Moves h (h.deliver i m) := by
  unfold deliver
  split
  · exact .refl
  · next s hs =>
    split
    · exact .refl
    · next hstate =>
      cases m with
      | request r => exact (calm_takeRequest hs hstate).moves
      | notification n =>
        dsimp only [takeNotification]
        split
        · exact calm_confirm.moves
        · split
          · exact moves_close
          · exact .refl
      | response r => exact moves_takeResponse

/-- Every event that goes the ordinary way is a chain of moves. -/
theorem moves_step {e : Event} (he : e.isOrdinary = true) : Moves h (h.step e) := by
  cases e with
  | answer | subscribe => cases he
  | deliver => exact moves_deliver
  | request => exact moves_request
  | listRoots => exact moves_listRoots
  | createMessage => exact moves_createMessage
  | close => exact moves_close
  | closeAll => exact reflTransGen_foldl (fun _ _ => moves_close) _ h
  | release => exact moves_release
  | collectSettled => exact (Move.clock _ _ _).moves
  | advance => exact (Move.clock _ _ _).moves.trans moves_expire
  | _ => exact (calm_step rfl).moves

/-- A run of ordinary events is a chain of moves. -/
theorem moves_run {es : List Event} (hes : ∀ e ∈ es, e.isOrdinary = true) :
    Moves h (h.run es) :=
  run_keeps (P := Moves h) (fun e he _ hm => hm.trans (moves_step (hes e he))) .refl

/-- What every move keeps, chains of moves keep. -/
theorem Moves.keeps {P : Host → Prop} (hmove : ∀ h h', Move h h' → P h → P h')
    (hm : Moves h h') (hp : P h) : P h' := by
  induction hm with
  | refl => exact hp
  | tail _ hm ih => exact hmove _ _ hm ih

end Host

end ContextServer
