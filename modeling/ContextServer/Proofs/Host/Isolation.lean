import ContextServer.Proofs.Host.Telling
import ContextServer.Proofs.Server.Alike

/-!
# Isolation of sessions

What a client does is no affair of the others. What concerns a session is its record, with
the link to its client, and what it can see of the server; hosts that agree in this are
*alike* to the session (`Host.Alike`). What another client does leaves a host as it was to
the session (`Host.alike_of_other`). What the client of the session does, and what the
owner of the server does, leaves hosts alike that were (`Host.Alike.step`), provided that
the handlers answer from their input alone.

So the events of one client can be taken out of a run, and another one does not notice
(`Host.isolation`).
-/

namespace ContextServer

/-- The event is one of the client of a session: it sends something, reads its queue or is
    gone, or its link breaks. -/
def Event.isOf (i : Nat) : Event → Bool
  | .deliver j _ | .reject j _ | .close j _ | .closeLink j _ | .hangUp j | .setFault j _
  | .collect j => j = i
  | _ => false

/-- The event is one for all sessions: components come and go, and the sessions are told
    something. New components are forgetful. -/
def Event.IsPublic : Event → Prop
  | .install c | .addComponent c => c.IsForgetful
  | .uninstall _ _ | .removeComponent _ _ | .broadcast _ _ | .resourceChanged _ => True
  | _ => False

namespace Host

variable {h h' : Host} {i j : Nat} {id : String} {s : Session} {m : Message} {c : Closing}

/-- Two hosts are the same to a session. -/
structure Alike (i : Nat) (id : String) (h h' : Host) : Prop where
  constants : h'.constants = h.constants
  session : h'.sessions[i]? = h.sessions[i]?
  server : h.server.Alike id h'.server

theorem Alike.refl : Alike i id h h := ⟨rfl, rfl, rfl, rfl, fun _ => rfl⟩

theorem Alike.trans {h'' : Host} (ha : Alike i id h h') (ha' : Alike i id h' h'') :
    Alike i id h h'' where
  constants := ha'.constants.trans ha.constants
  session := ha'.session.trans ha.session
  server :=
    { config := ha'.server.config.trans ha.server.config
      registry := ha'.server.registry.trans ha.server.registry
      subscriptions uri :=
        (ha'.server.subscriptions uri).trans (ha.server.subscriptions uri) }

/-- Where the server stays, hosts are alike if the session is. -/
theorem alike_of_server (hc : h'.constants = h.constants)
    (hs : h'.sessions[i]? = h.sessions[i]?) (hserver : h'.server = h.server) :
    Alike i id h h' :=
  ⟨hc, hs, hserver ▸ ⟨rfl, rfl, fun _ => rfl⟩⟩

/-- Both hosts go on with the servers they have. -/
theorem Alike.next (ha : Alike i id h h') {k k' : Host} (hc : k.constants = h.constants)
    (hc' : k'.constants = h'.constants) (hserver : k.server = h.server)
    (hserver' : k'.server = h'.server) (hs : k'.sessions[i]? = k.sessions[i]?) :
    Alike i id k k' where
  constants := hc'.trans (ha.constants.trans hc.symm)
  session := hs
  server := by
    rw [hserver, hserver']
    exact ha.server

/-! ## The server meanwhile -/

theorem blindToSending_server : BlindToSending Host.server := ⟨fun _ _ _ _ _ => rfl, fun _ _ => rfl⟩

theorem blindToWaiting_server : BlindToWaiting Host.server :=
  ⟨fun _ _ _ _ _ => rfl, fun _ _ => rfl, fun _ _ => rfl, fun _ _ => rfl⟩

theorem server_resourceChanged (uri : String) :
    (h.resourceChanged uri).server =
      { h.server with subscriptions := h.server.subscriptions.keep uri h.isReachable } :=
  foldl_frame (g := Host.server) (fun _ _ => blindToSending_server.send) _ _

/-- What a request makes of the server. -/
theorem server_deliver_request {r : Request} (hs : h.sessions[j]? = some s)
    (hstate : s.state ≠ .closed) :
    (h.deliver j (.request r)).server = (h.server.perform s r).server := by
  simp only [deliver, hs, if_neg hstate, takeRequest_of_session hs]
  rw [blindToSending_server.send, answer_of_session hs]
  rfl

/-- A message leaves the server as it is, or it ends its session, or it is a request. -/
theorem server_deliver_cases (hs : h.sessions[j]? = some s) (m : Message) :
    (h.deliver j m).server = h.server ∨
    (h.deliver j m).server =
      { h.server with subscriptions := h.server.subscriptions.forget s.id } ∨
    ∃ r, (h.deliver j m).server = (h.server.perform s r).server := by
  by_cases hstate : s.state = .closed
  · exact .inl (congrArg Host.server (deliver_of_closed hs hstate))
  · cases m with
    | request r => exact .inr (.inr ⟨r, server_deliver_request hs hstate⟩)
    | notification n =>
      simp only [deliver, hs, if_neg hstate, takeNotification]
      split
      · exact .inl (change_frame fun _ _ => rfl)
      · split
        · exact .inr (.inl (server_close hs hstate))
        · exact .inl rfl
    | response r =>
      simp only [deliver, hs, if_neg hstate]
      exact .inl blindToWaiting_server.takeResponse

theorem registry_deliver : (h.deliver j m).server.registry.unasked = h.server.registry.unasked := by
  cases hs : h.sessions[j]? with
  | none => simp only [deliver, hs]
  | some s =>
    rcases server_deliver_cases hs m with hserver | hserver | ⟨r, hserver⟩ <;> rw [hserver]
    exact (h.server.perform_leaves s r).registry

/-! ## What other clients do -/

theorem reject_ne (hij : j ≠ i) {fault : ParseFault} :
    (h.reject j fault).2.sessions[i]? = h.sessions[i]? := by
  rw [reject]
  split
  · rfl
  · exact send_ne hij

section

variable (hid : ∀ s, h.sessions[j]? = some s → s.id ≠ id)

include hid

theorem alike_server_deliver : h.server.Alike id (h.deliver j m).server := by
  cases hs : h.sessions[j]? with
  | none =>
    simp only [deliver, hs]
    exact .refl
  | some s =>
    rcases server_deliver_cases hs m with hserver | hserver | ⟨r, hserver⟩ <;> rw [hserver]
    · exact .refl
    · exact Server.alike_forget_of_other (hid s hs)
    · exact (h.server.perform_leaves s r).alike_of_other (hid s hs)

theorem alike_server_close : h.server.Alike id (h.close j c).server := by
  cases hs : h.sessions[j]? with
  | none =>
    simp only [close, hs]
    exact .refl
  | some s =>
    by_cases hstate : s.state = .closed
    · rw [close_of_closed hs hstate]
      exact .refl
    · rw [server_close hs hstate]
      exact Server.alike_forget_of_other (hid s hs)

/-- What another client does leaves the host as it was to the session. -/
theorem alike_of_other {e : Event} (hij : j ≠ i) (he : e.isOf j = true) :
    Alike i id h (h.step e) := by
  cases e with
  | deliver k m =>
    obtain rfl : k = j := of_decide_eq_true he
    exact ⟨constants_deliver, deliver_ne hij, alike_server_deliver hid⟩
  | close k c =>
    obtain rfl : k = j := of_decide_eq_true he
    exact ⟨constants_close, close_ne hij, alike_server_close hid⟩
  | reject k fault =>
    obtain rfl : k = j := of_decide_eq_true he
    exact alike_of_server (constants_step _) (reject_ne hij) blindToSending_server.reject
  | closeLink k c =>
    obtain rfl : k = j := of_decide_eq_true he
    exact alike_of_server (constants_step _) (closeLink_ne hij) blindToSending_server.closeLink
  | hangUp k | setFault k =>
    obtain rfl : k = j := of_decide_eq_true he
    exact alike_of_server (constants_step _) (change_ne hij) (change_frame fun _ _ => rfl)
  | collect k =>
    obtain rfl : k = j := of_decide_eq_true he
    exact alike_of_server (constants_step _) (collect_ne hij) blindToSending_server.collect
  | _ => cases he

end

/-! ## What the client of the session does -/

theorem getElem?_change_map {f : Session → Session} :
    (h.change i f).sessions[i]? = h.sessions[i]?.map f := by
  cases hs : h.sessions[i]? with
  | none => simp only [change, hs, Option.map_none]
  | some s => exact getElem?_change hs

namespace Alike

variable (ha : Alike i id h h')

include ha

theorem send (m : Message) : Alike i id (h.send i m).2 (h'.send i m).2 := by
  refine ha.next blindToUse_constants.send blindToUse_constants.send blindToSending_server.send
    blindToSending_server.send ?_
  rw [getElem?_send_map, getElem?_send_map, ha.session, medium_of_constants ha.constants]

theorem change (f : Session → Session) : Alike i id (h.change i f) (h'.change i f) := by
  refine ha.next (change_frame fun _ _ => rfl) (change_frame fun _ _ => rfl)
    (change_frame fun _ _ => rfl) (change_frame fun _ _ => rfl) ?_
  rw [getElem?_change_map, getElem?_change_map, ha.session]

theorem reject (fault : ParseFault) :
    Alike i id (h.reject i fault).2 (h'.reject i fault).2 := by
  rw [Host.reject, Host.reject]
  split
  · exact ha
  · exact ha.send _

theorem closeLink (c : Closing) : Alike i id (h.closeLink i c) (h'.closeLink i c) := by
  refine ha.next blindToUse_constants.closeLink blindToUse_constants.closeLink
    blindToSending_server.closeLink blindToSending_server.closeLink ?_
  cases hs : h.sessions[i]? with
  | none =>
    have hs' : h'.sessions[i]? = none := ha.session.trans hs
    simp only [Host.closeLink, hs, hs']
  | some s => rw [getElem?_closeLink hs, getElem?_closeLink (ha.session.trans hs)]

theorem collect :
    (h'.collect i).1 = (h.collect i).1 ∧ Alike i id (h.collect i).2 (h'.collect i).2 := by
  cases hs : h.sessions[i]? with
  | none =>
    have hs' : h'.sessions[i]? = none := ha.session.trans hs
    simp only [Host.collect, hs, hs']
    exact ⟨trivial, ha⟩
  | some s =>
    have hs' : h'.sessions[i]? = some s := ha.session.trans hs
    simp only [Host.collect, hs, hs']
    refine ⟨trivial, ha.next rfl rfl rfl rfl ?_⟩
    rw [getElem?_put hs, getElem?_put hs', if_pos rfl, if_pos rfl]

theorem close (c : Closing) : Alike i id (h.close i c) (h'.close i c) := by
  cases hs : h.sessions[i]? with
  | none =>
    have hs' : h'.sessions[i]? = none := ha.session.trans hs
    simp only [Host.close, hs, hs']
    exact ha
  | some s =>
    have hs' : h'.sessions[i]? = some s := ha.session.trans hs
    by_cases hstate : s.state = .closed
    · rw [close_of_closed hs hstate, close_of_closed hs' hstate]
      exact ha
    · refine ⟨constants_close.trans (ha.constants.trans constants_close.symm), ?_, ?_⟩
      · rw [getElem?_close hs hstate, getElem?_close hs' hstate]
      · rw [server_close hs hstate, server_close hs' hstate]
        exact ha.server.forget s.id

theorem takeResponse (r : Response) :
    Alike i id (h.takeResponse i r) (h'.takeResponse i r) := by
  refine ha.next blindToUse_constants.takeResponse blindToUse_constants.takeResponse
    blindToWaiting_server.takeResponse blindToWaiting_server.takeResponse ?_
  cases hs : h.sessions[i]? with
  | none =>
    have hs' : h'.sessions[i]? = none := ha.session.trans hs
    simp only [Host.takeResponse, hs, hs']
  | some s =>
    have hs' : h'.sessions[i]? = some s := ha.session.trans hs
    simp only [Host.takeResponse, hs, hs']
    cases r.id with
    | none => exact ha.session
    | some answered =>
      cases hp : s.pending? answered with
      | none =>
        dsimp only
        rw [hp]
        exact ha.session
      | some p =>
        dsimp only
        rw [hp, sessions_settle, sessions_settle, getElem?_put hs, getElem?_put hs', if_pos rfl,
          if_pos rfl]

theorem takeRequest (hf : h.server.registry.IsForgetful) (hs : h.sessions[i]? = some s)
    (r : Request) : Alike i id (h.takeRequest i r) (h'.takeRequest i r) := by
  have hs' : h'.sessions[i]? = some s := ha.session.trans hs
  have hanswer := Server.answer_alike ha.server hf (s := s) (r := r)
  have hboth : Alike i id (h.answer i r).2 (h'.answer i r).2 := by
    refine ⟨constants_answer.trans (ha.constants.trans constants_answer.symm), ?_, ?_⟩
    · rw [getElem?_answer hs, getElem?_answer hs', hanswer.session]
    · rw [answer_of_session hs, answer_of_session hs']
      exact hanswer.server
  rw [takeRequest_of_session hs, takeRequest_of_session hs', hanswer.value]
  exact hboth.send _

theorem deliver (hf : h.server.registry.IsForgetful) (m : Message) :
    Alike i id (h.deliver i m) (h'.deliver i m) := by
  cases hs : h.sessions[i]? with
  | none =>
    have hs' : h'.sessions[i]? = none := ha.session.trans hs
    simp only [Host.deliver, hs, hs']
    exact ha
  | some s =>
    have hs' : h'.sessions[i]? = some s := ha.session.trans hs
    simp only [Host.deliver, hs, hs']
    split
    · exact ha
    · cases m with
      | request r => exact ha.takeRequest hf hs r
      | notification n =>
        dsimp only [takeNotification]
        split
        · exact ha.change _
        · split
          · exact ha.close _
          · exact ha
      | response r => exact ha.takeResponse r

/-! ### What the owner of the server does -/

theorem install (c : Component) : Alike i id (h.install c) (h'.install c) :=
  ⟨ha.constants, ha.session, ha.server.install c⟩

theorem uninstall (family : Family) (key : String) :
    (h'.uninstall family key).1 = (h.uninstall family key).1 ∧
      Alike i id (h.uninstall family key).2 (h'.uninstall family key).2 :=
  ⟨ha.server.has family key, ha.constants, ha.session, ha.server.uninstall family key⟩

section

variable (hh : h.Sound) (hh' : h'.Sound)

include hh hh'

theorem broadcast (method : String) (params : Option Json) :
    Alike i id (h.broadcast method params) (h'.broadcast method params) := by
  refine ha.next blindToUse_constants.broadcast blindToUse_constants.broadcast
    blindToSending_server.broadcast blindToSending_server.broadcast ?_
  rw [hh.enrolled.getElem?_broadcast, hh'.enrolled.getElem?_broadcast, ha.session,
    medium_of_constants ha.constants]

theorem announce (family : Family) : Alike i id (h.announce family) (h'.announce family) := by
  rw [Host.announce, Host.announce, ha.server.config]
  split
  · exact ha.broadcast hh hh' _ _
  · exact ha

theorem addComponent (c : Component) :
    Alike i id (h.addComponent c) (h'.addComponent c) :=
  (ha.install c).announce ((Stir.registry _).sound hh) ((Stir.registry _).sound hh') c.family

theorem removeComponent (family : Family) (key : String) :
    Alike i id (h.removeComponent family key).2 (h'.removeComponent family key).2 := by
  obtain ⟨hfound, hremoved⟩ := ha.uninstall family key
  simp only [Host.removeComponent, hfound]
  split
  · exact hremoved.announce ((Stir.registry _).sound hh) ((Stir.registry _).sound hh') family
  · exact hremoved

theorem resourceChanged (hid : h.naming.session i = id) (uri : String) :
    Alike i id (h.resourceChanged uri) (h'.resourceChanged uri) := by
  have hnaming : h'.naming = h.naming := congrArg (·.2.1) ha.constants
  have htest : h'.isReachable id = h.isReachable id := by
    rw [← hid, hh.isReachable_eq, ← hnaming, hh'.isReachable_eq, ha.session]
  refine ⟨?_, ?_, ?_⟩
  · exact blindToUse_constants.resourceChanged.trans
      (ha.constants.trans blindToUse_constants.resourceChanged.symm)
  · rw [hh.getElem?_resourceChanged, hh'.getElem?_resourceChanged, ha.session,
      medium_of_constants ha.constants]
    cases hs : h.sessions[i]? with
    | none => rfl
    | some s => rw [Option.map_some, Option.map_some, hh.named i s hs, hid,
        ha.server.subscriptions uri]
  · rw [server_resourceChanged, server_resourceChanged]
    exact ha.server.keep uri htest

end

/-- What the client of a session does, and what the owner of the server does, leaves hosts
    alike that were. -/
theorem step (hh : h.Sound) (hh' : h'.Sound) (hf : h.server.registry.IsForgetful)
    (hid : h.naming.session i = id) {e : Event} (he : e.isOf i = true ∨ e.IsPublic) :
    Alike i id (h.step e) (h'.step e) := by
  rcases he with he | he
  · cases e with
    | deliver k m =>
      obtain rfl : k = i := of_decide_eq_true he
      exact ha.deliver hf m
    | reject k fault =>
      obtain rfl : k = i := of_decide_eq_true he
      exact ha.reject fault
    | close k c =>
      obtain rfl : k = i := of_decide_eq_true he
      exact ha.close c
    | closeLink k c =>
      obtain rfl : k = i := of_decide_eq_true he
      exact ha.closeLink c
    | hangUp k | setFault k =>
      obtain rfl : k = i := of_decide_eq_true he
      exact ha.change _
    | collect k =>
      obtain rfl : k = i := of_decide_eq_true he
      exact ha.collect.2
    | _ => cases he
  · cases e with
    | install c => exact ha.install c
    | uninstall family key => exact (ha.uninstall family key).2
    | addComponent c => exact ha.addComponent hh hh' c
    | removeComponent family key => exact ha.removeComponent hh hh' family key
    | broadcast method params => exact ha.broadcast hh hh' method params
    | resourceChanged uri => exact ha.resourceChanged hh hh' hid uri
    | _ => cases he

end Alike

/-! ## Runs -/

/-- What the client of a session reads at an event. -/
def read (i : Nat) (h : Host) : Event → List Message
  | .collect j => if j = i then (h.collect j).1 else []
  | _ => []

/-- What the client of a session gets in a run: what it reads, and what it finds in its
    queue in the end. -/
def received (i : Nat) (h : Host) : List Event → List Message
  | [] => (h.collect i).1
  | e :: es => h.read i e ++ received i (h.step e) es

theorem read_of_other {e : Event} (hij : j ≠ i) (he : e.isOf j = true) : h.read i e = [] := by
  cases e with
  | collect k =>
    obtain rfl : k = j := of_decide_eq_true he
    exact if_neg hij
  | _ => rfl

theorem Alike.read (ha : Alike i id h h') (e : Event) : h'.read i e = h.read i e := by
  cases e with
  | collect k =>
    rw [Host.read, Host.read]
    split
    · next hki =>
      subst hki
      exact ha.collect.1
    · rfl
  | _ => rfl

/-- The events of clients, and those for all sessions, go the ordinary way. -/
theorem isOrdinary_of {e : Event} (he : e.isOf i = true ∨ e.IsPublic) : e.isOrdinary = true := by
  cases e with
  | answer | subscribe => rcases he with he | he <;> cases he
  | _ => rfl

/-- What a client does leaves the components, but for what handlers remember. -/
theorem registry_of_client {e : Event} (he : e.isOf i = true) :
    (h.step e).server.registry.unasked = h.server.registry.unasked := by
  have hsame (h' : Host) (hserver : h'.server = h.server) :
      h'.server.registry.unasked = h.server.registry.unasked :=
    congrArg (fun server => server.registry.unasked) hserver
  cases e with
  | deliver => exact registry_deliver
  | close j c =>
    rw [step]
    cases hs : h.sessions[j]? with
    | none => simp only [close, hs]
    | some s =>
      by_cases hstate : s.state = .closed
      · rw [close_of_closed hs hstate]
      · rw [server_close hs hstate]
  | reject => exact hsame _ blindToSending_server.reject
  | closeLink => exact hsame _ blindToSending_server.closeLink
  | collect => exact hsame _ blindToSending_server.collect
  | hangUp | setFault => exact hsame _ (change_frame fun _ _ => rfl)
  | _ => cases he

/-- Forgetful handlers stay, and only such come. -/
theorem forgetful_of_public (hf : h.server.registry.IsForgetful) {e : Event} (he : e.IsPublic) :
    (h.step e).server.registry.IsForgetful := by
  cases e with
  | install c => exact hf.add he
  | uninstall family key => exact hf.remove family key
  | addComponent c =>
    rw [step, addComponent, blindToSending_server.announce]
    exact hf.add he
  | removeComponent family key =>
    rw [step, removeComponent]
    dsimp only [Host.uninstall]
    split
    · rw [blindToSending_server.announce]
      exact hf.remove family key
    · exact hf.remove family key
  | broadcast =>
    rw [step, blindToSending_server.broadcast]
    exact hf
  | resourceChanged =>
    rw [step, server_resourceChanged]
    exact hf
  | _ => cases he

theorem forgetful_step (hf : h.server.registry.IsForgetful) {e : Event}
    (he : e.isOf i = true ∨ e.IsPublic) : (h.step e).server.registry.IsForgetful :=
  he.elim (fun he => hf.congr (registry_of_client he)) (forgetful_of_public hf)

/-- Hosts that are alike to a session are so after a run, also if what another client does
    is left out in one of them. -/
theorem Alike.run (hij : j ≠ i) {es : List Event}
    (hes : ∀ e ∈ es, e.isOf i = true ∨ e.isOf j = true ∨ e.IsPublic) (ha : Alike i id h h')
    (hh : h.Sound) (hh' : h'.Sound) (hf : h.server.registry.IsForgetful)
    (hid : h.naming.session i = id) :
    Alike i id (h.run (es.filter fun e => !e.isOf j)) (h'.run es) ∧
      h'.received i es = h.received i (es.filter fun e => !e.isOf j) := by
  induction es generalizing h h' with
  | nil => exact ⟨ha, ha.collect.1⟩
  | cons e es ih =>
    obtain ⟨he, hes⟩ := List.forall_mem_cons.1 hes
    cases hj : e.isOf j with
    | true =>
      -- One host goes on, and the one without the other client waits.
      have hname (s : Session) (hs : h'.sessions[j]? = some s) : s.id ≠ id := by
        intro hsid
        have hnaming : h'.naming = h.naming := congrArg (·.2.1) ha.constants
        rw [hh'.named j s hs, hnaming, ← hid] at hsid
        exact hij (h.naming.session_injective j i hsid)
      have hnext := (moves_step (isOrdinary_of (.inl hj))).sound hh'
      obtain ⟨halike, hreceived⟩ := ih hes (ha.trans (alike_of_other hname hij hj)) hh hnext hf hid
      rw [List.filter_cons_of_neg (by simp [hj]), received, read_of_other hij hj]
      exact ⟨halike, hreceived⟩
    | false =>
      -- Both go on.
      have hshared : e.isOf i = true ∨ e.IsPublic := by simpa [hj] using he
      have hordinary : e.isOrdinary = true := isOrdinary_of hshared
      have hnaming : (h.step e).naming = h.naming := congrArg (·.2.1) (constants_step e)
      obtain ⟨halike, hreceived⟩ := ih hes (ha.step hh hh' hf hid hshared)
        ((moves_step hordinary).sound hh) ((moves_step hordinary).sound hh')
        (forgetful_step hf hshared) (hnaming ▸ hid)
      rw [List.filter_cons_of_pos (by simp [hj]), received, received, ha.read e, hreceived]
      exact ⟨halike, rfl⟩

/-- **Isolation.** Whatever a client does, and however it fails, another client does not
    notice: with all of its events left out, the session of the other one comes to the same
    in the end, with the same subscriptions, and its client gets the same messages. -/
theorem isolation {medium : Medium} {naming : Naming} {config : ServerConfig}
    {before : List Event} (hbefore : ∀ e ∈ before, e.isOrdinary = true) (a b : Nat)
    (hab : a ≠ b) (h : Host) (hh : h = (start medium naming config).run before)
    (hforgetful : h.server.registry.IsForgetful) (es : List Event)
    (hes : ∀ e ∈ es, e.isOf a = true ∨ e.isOf b = true ∨ e.IsPublic) :
    let alone := es.filter fun e => !e.isOf b
    h.received a es = h.received a alone ∧
      (h.run es).sessions[a]? = (h.run alone).sessions[a]? ∧
      ∀ s, h.sessions[a]? = some s → ∀ uri,
        (h.run es).server.subscriptions.holds uri s.id =
          (h.run alone).server.subscriptions.holds uri s.id := by
  have hsound : h.Sound := hh ▸ sound_run hbefore
  have hrefl : Alike a (h.naming.session a) h h := .refl
  obtain ⟨halike, hreceived⟩ := hrefl.run (Ne.symm hab) hes hsound hsound hforgetful rfl
  refine ⟨hreceived, halike.session, fun s hs uri => ?_⟩
  rw [hsound.named a s hs]
  exact halike.server.subscriptions uri

/-- One of two clients cancels its session, and the other one gets the news all the same. -/
theorem isolation_cancelled :
    let config : ServerConfig := { info := ⟨"server", "1"⟩ }
    let before : List Event := [.connect, .connect]
    let h := (start .memory (.numbered "session-" "request-" "") config).run before
    let cancelled : Event := .deliver 1 (.notification { method := Method.cancelled })
    let news : Event := .broadcast "news" none
    (h.step cancelled).live.size = 1 ∧
      h.received 0 [cancelled, news] = h.received 0 [news] ∧
      h.received 0 [news] = [.notification { method := "news" }] := by
  intro config before h cancelled news
  have hes : ∀ e ∈ [cancelled, news], e.isOf 0 = true ∨ e.isOf 1 = true ∨ e.IsPublic := by
    simp [cancelled, news, Event.isOf, Event.IsPublic]
  have halone : [cancelled, news].filter (fun e => !e.isOf 1) = [news] := rfl
  have hbefore : ∀ e ∈ before, e.isOrdinary = true := by decide
  have hisolated := isolation hbefore 0 1 (by decide) h rfl
    Registry.isForgetful_empty [cancelled, news] hes
  rw [halone] at hisolated
  exact ⟨by decide +kernel, hisolated.1, by decide +kernel⟩

end Host

end ContextServer
