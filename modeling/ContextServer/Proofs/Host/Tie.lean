import ContextServer.Proofs.Host.Lifecycle

/-!
# Sessions and their links

A session that is over has closed its link. The other way round, a link is closed by its
session, and by nothing else but itself: one that has no room for a message gives its
client up (`Link.IsLost`), and leaves its session as it is. So in every host a session
whose link is closed is over or its client was given up (`Host.Tied`), as long as nothing
is done to links behind the backs of their sessions (`Host.Tied.step`).

A link without a bound gives nobody up. There the two ends are one
(`Host.Tied.step_unbounded`).
-/

namespace ContextServer

/-- A link was closed because there was no room for a message, and holds what it held
    then. -/
structure Link.IsLost (capacity? : Option Nat) (l : Link) : Prop where
  isCut : l.isCut = true
  isFull : l.isFull capacity? = true

/-- The event closes no link behind the back of its session. -/
def Event.leavesClosing : Event → Bool
  | .closeLink _ _ => false
  | _ => true

/-- The event does nothing to a link but what its session does. -/
def Event.leavesLinks : Event → Bool
  | .closeLink _ _ | .hangUp _ | .setFault _ _ | .collect _ => false
  | _ => true

namespace Host

variable {h h' : Host} {i j : Nat} {s s' : Session} {m : Message} {c : Closing}

/-- A session whose link is closed is over, or its client was given up. -/
def TiedSession (capacity? : Option Nat) (s : Session) : Prop :=
  s.link.isOpen = false → s.state = .closed ∨ s.link.IsLost capacity?

/-- Every session whose link is closed is over, or its client was given up. -/
def Tied (h : Host) : Prop :=
  ∀ (i : Nat) s, h.sessions[i]? = some s → TiedSession h.medium.capacity? s

theorem tied_start {medium : Medium} {naming : Naming} {config : ServerConfig} :
    (start medium naming config).Tied :=
  fun _ _ hs => nomatch List.getElem?_nil.symm.trans hs

/-! ## Small changes -/

/-- What ties are seen by. -/
def ends (h : Host) : Medium × List (SessionState × Link) :=
  (h.medium, h.view fun s => (s.state, s.link))

theorem blindToWaiting_ends : BlindToWaiting ends where
  pending h _ _ _ hs := congrArg (h.medium, ·) (view_put_eq hs rfl)
  settled _ _ := rfl
  issued _ _ := rfl
  now _ _ := rfl

theorem Tied.congr (ht : h.Tied) (hends : h'.ends = h.ends) : h'.Tied := by
  obtain ⟨hmedium, hview⟩ := Prod.mk.inj hends
  intro i s' hs'
  have hseen : (h.view fun s => (s.state, s.link))[i]? = some (s'.state, s'.link) := by
    rw [← hview, view_getElem?, hs', Option.map_some]
  obtain ⟨s, hs, he⟩ := exists_of_view hseen
  obtain ⟨hstate, hlink⟩ := Prod.mk.inj he
  have htied := ht i s hs
  rwa [TiedSession, hmedium, ← hstate, ← hlink]

/-- One session changes, and is tied. -/
theorem Tied.put (ht : h.Tied) (hs : h.sessions[i]? = some s)
    (hs' : TiedSession h.medium.capacity? s') : (h.put i s').Tied := by
  intro j t hj
  rw [getElem?_put hs] at hj
  split at hj
  · cases hj
    exact hs'
  · exact ht j t hj

/-- A session changes that is over afterwards if it was before, and its link does not. -/
theorem Tied.put_state (ht : h.Tied) (hs : h.sessions[i]? = some s) (hlink : s'.link = s.link)
    (hstate : s.state = .closed → s'.state = .closed) : (h.put i s').Tied :=
  ht.put hs fun hclosed => by
    rw [hlink] at hclosed ⊢
    exact (ht i s hs hclosed).imp_left hstate

theorem Tied.change (ht : h.Tied) {f : Session → Session}
    (hf : ∀ s, h.sessions[i]? = some s → TiedSession h.medium.capacity? (f s)) :
    (h.change i f).Tied := by
  rw [Host.change]
  split
  · next s hs => exact ht.put hs (hf s hs)
  · exact ht

theorem Tied.connect (ht : h.Tied) : h.connect.2.Tied := by
  intro j t hj
  rw [getElem?_connect] at hj
  split at hj
  · cases hj
    exact nofun
  · exact ht j t hj

/-! ## Operations -/

theorem Tied.send (ht : h.Tied) : (h.send i m).2.Tied := by
  rw [Host.send]
  split
  · exact ht
  · next s hs =>
    have hput : (h.put i { s with link := (s.link.send h.medium.capacity? m).2 }).Tied := by
      refine ht.put hs fun hclosed => ?_
      dsimp only at hclosed ⊢
      -- A link that closes over the message had no room for it, and is as it was but closed.
      rw [Link.send] at hclosed ⊢
      split at hclosed
      · next hopen =>
        rw [if_pos hopen]
        split at hclosed
        · cases hopen.symm.trans hclosed
        · split at hclosed
          · next hfull =>
            rw [if_pos hfull]
            exact .inr ⟨rfl, hfull⟩
          · cases hopen.symm.trans hclosed
      · next hopen =>
        rw [if_neg hopen]
        exact ht i s hs (Bool.eq_false_iff.2 hopen)
    dsimp only
    split
    · exact hput
    · exact hput.congr rfl

theorem Tied.broadcast (ht : h.Tied) {method : String} {params : Option Json} :
    (h.broadcast method params).Tied :=
  List.foldlRecOn _ _ (motive := Tied) ht fun _ ht _ _ => ht.send

theorem Tied.announce (ht : h.Tied) {family : Family} : (h.announce family).Tied := by
  rw [Host.announce]
  split
  · exact ht.broadcast
  · exact ht

theorem Tied.reject (ht : h.Tied) {fault : ParseFault} : (h.reject i fault).2.Tied := by
  rw [Host.reject]
  split
  · exact ht
  · exact ht.send

theorem Tied.log (ht : h.Tied) {message : LoggingMessageNotification} :
    (h.log i message).2.Tied := by
  rw [Host.log]
  split
  · exact ht
  · split
    · exact ht.send
    · exact ht

theorem Tied.close (ht : h.Tied) : (h.close i c).Tied := by
  intro j t hj
  by_cases hij : i = j
  · subst hij
    cases hs : h.sessions[i]? with
    | none =>
      simp only [Host.close, hs] at hj
      cases hj
    | some s =>
      by_cases hstate : s.state = .closed
      · rw [close_of_closed hs hstate] at hj ⊢
        exact ht i t hj
      · rw [getElem?_close hs hstate] at hj
        cases hj
        exact fun _ => .inl rfl
  · rw [close_ne hij] at hj
    rw [medium_of_constants constants_close]
    exact ht j t hj

/-- A session that is over stays so at a request. -/
theorem closed_of_leaves {server : Server} {r : Request} {x : Served (Outcome Failure Json)}
    (hleaves : server.Leaves s r x) (hstate : s.state = .closed) : x.session.state = .closed := by
  cases hleaves with
  | nothing _ hsession => rw [hsession, hstate]
  | client _ hfresh => cases hstate.symm.trans hfresh
  | logLevel | subscribed | unsubscribed => exact hstate

theorem Tied.answer (ht : h.Tied) {r : Request} : (h.answer i r).2.Tied := by
  cases hs : h.sessions[i]? with
  | none =>
    simp only [Host.answer, hs]
    exact ht
  | some s =>
    rw [answer_of_session hs]
    have hclosed : s.state = .closed → (h.server.answer s r).session.state = .closed :=
      closed_of_leaves (h.server.perform_leaves s r)
    exact (ht.put_state hs link_perform hclosed).congr rfl

theorem Tied.deliver (ht : h.Tied) : (h.deliver i m).Tied := by
  unfold Host.deliver
  split
  · exact ht
  · next s hs =>
    split
    · exact ht
    · cases m with
      | request r =>
        dsimp only
        rw [takeRequest_of_session hs]
        exact ht.answer.send
      | notification n =>
        dsimp only [takeNotification]
        split
        · exact ht.change fun s hs hclosed =>
            (ht _ s hs hclosed).imp_left (confirmed_eq_closed_iff s.state).2
        · split
          · exact ht.close
          · exact ht
      | response r => exact ht.congr blindToWaiting_ends.takeResponse

theorem Tied.request (ht : h.Tied) {method : String} {params : Option Json} {waiter : Waiter} :
    (h.request i method params waiter).2.Tied := by
  rw [Host.request]
  split
  · exact ht
  · split
    · exact ht
    · dsimp only
      have hsent : (h.send i (.request
          { id := .text (h.naming.request h.issued), method, params })).2.Tied := ht.send
      split
      · next hsend =>
        rw [hsend] at hsent
        exact hsent
      · next h₁ hsend =>
        rw [hsend] at hsent
        refine hsent.congr (blindToWaiting_ends.expire.trans ?_)
        exact change_frame fun s hs => blindToWaiting_ends.pending h₁ i s _ hs

theorem Tied.listRoots (ht : h.Tied) : (h.listRoots i).2.Tied := by
  rw [Host.listRoots]
  split
  · split
    · exact ht.request
    · exact ht
  · exact ht

theorem Tied.createMessage (ht : h.Tied) {r : CreateMessageRequest} :
    (h.createMessage i r).2.Tied := by
  rw [Host.createMessage]
  split
  · split
    · exact ht.request
    · exact ht
  · exact ht

/-- A client that was given up has nothing to collect from a link that was not cut. -/
theorem Tied.collect (ht : h.Tied)
    (hcut : ∀ s, h.sessions[i]? = some s → s.link.isCut = false) : (h.collect i).2.Tied := by
  rw [Host.collect]
  split
  · exact ht
  · next s hs =>
    refine ht.put hs fun hclosed => ?_
    exact (ht i s hs hclosed).imp_right fun hlost =>
      absurd hlost.isCut (Bool.eq_false_iff.1 (hcut s hs))

/-! ## Events -/

/-- What becomes of links through their sessions keeps the ties. -/
theorem Tied.step (ht : h.Tied) {e : Event} (he : e.leavesLinks = true) : (h.step e).Tied := by
  cases e with
  | closeLink | hangUp | setFault | collect => cases he
  | connect => exact ht.connect
  | deliver => exact ht.deliver
  | reject => exact ht.reject
  | answer => exact ht.answer
  | send => exact ht.send
  | request => exact ht.request
  | listRoots => exact ht.listRoots
  | createMessage => exact ht.createMessage
  | log => exact ht.log
  | broadcast => exact ht.broadcast
  | resourceChanged uri =>
    have hpruned : (h.withSubscriptions (h.server.subscriptions.keep uri h.isReachable)).Tied :=
      ht.congr rfl
    exact List.foldlRecOn _ _ (motive := Tied) hpruned fun _ ht _ _ => ht.send
  | install | uninstall | callTool | readResource | getPrompt | unsubscribe | collectSettled =>
    exact ht.congr rfl
  | addComponent c =>
    have hinstalled : (h.install c).Tied := ht.congr rfl
    exact hinstalled.announce
  | removeComponent family key =>
    have huninstalled : (h.uninstall family key).2.Tied := ht.congr rfl
    rw [Host.step, Host.removeComponent]
    dsimp only
    split
    · exact huninstalled.announce
    · exact huninstalled
  | setLogLevel => exact ht.change fun s hs => ht _ s hs
  | subscribe i uri =>
    rw [Host.step, Host.subscribe]
    split
    · exact ht.congr rfl
    · exact ht
  | close => exact ht.close
  | closeAll => exact List.foldlRecOn _ _ (motive := Tied) ht fun _ ht _ _ => ht.close
  | release i =>
    have hreleased : (h.change i fun s => { s with isReleased := true }).Tied :=
      ht.change fun s hs => ht _ s hs
    exact hreleased.congr blindToWaiting_ends.bury
  | advance => exact ht.congr blindToWaiting_ends.advance

/-! ## Links without a bound -/

theorem TiedSession.closed (ht : TiedSession none s) (hclosed : s.link.isOpen = false) :
    s.state = .closed :=
  (ht hclosed).resolve_right fun hlost => nomatch hlost.isFull

/-- Where links have no bound, it makes no difference what else happens to one that is not
    closed. -/
theorem Tied.step_unbounded (ht : h.Tied) (hm : h.medium.capacity? = none) {e : Event}
    (he : e.leavesClosing = true) : (h.step e).Tied := by
  have hlink {i : Nat} {link : Link} {s : Session} (hs : h.sessions[i]? = some s)
      (hopen : link.isOpen = s.link.isOpen) :
      TiedSession h.medium.capacity? { s with link } := by
    have htied := ht i s hs
    rw [hm] at htied ⊢
    exact fun hclosed => .inl (htied.closed (hopen.symm.trans hclosed))
  cases e with
  | closeLink => cases he
  | hangUp | setFault => exact ht.change fun s hs => hlink hs rfl
  | collect i =>
    rw [Host.step, Host.collect]
    split
    · exact ht
    · next s hs => exact ht.put hs (hlink hs rfl)
  | _ => exact ht.step rfl

/-- In a run without a bound every session whose link is closed is over. -/
theorem tied_run {medium : Medium} {naming : Naming} {config : ServerConfig} {es : List Event}
    (hm : medium.capacity? = none) (hes : ∀ e ∈ es, e.leavesClosing = true) :
    ((start medium naming config).run es).Tied := by
  have hkeeps : ((start medium naming config).run es).Tied ∧
      ((start medium naming config).run es).medium.capacity? = none := by
    refine run_keeps (P := fun h => h.Tied ∧ h.medium.capacity? = none) (fun e he h hh => ?_)
      ⟨tied_start, hm⟩
    refine ⟨hh.1.step_unbounded hh.2 (hes e he), ?_⟩
    rw [medium_of_constants (constants_step e)]
    exact hh.2
  exact hkeeps.1

end Host

end ContextServer
