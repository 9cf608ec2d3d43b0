import ContextServer.Proofs.Host.Handshake
import ContextServer.Proofs.Host.Isolation

/-!
# Subscribers along a run

What the exchanges of a session say about its subscription to a URI: each that succeeded
may begin it or end it, and the last one that did counts (`Host.wants`). At every event the
table of subscriptions does what the exchange says, if there is one that says anything; and
otherwise a subscription ends at most, together with its session or its link
(`Host.Sound.heeds_step`).

So along a run the table follows the history of the sessions that can still be told
something (`Host.Follows.run`), and when a resource changes, those hear of it that wanted
to, and nobody else (`Host.resourceChanged_run`).
-/

namespace ContextServer

/-- Nobody but the clients ends subscriptions. -/
def Event.sparesSubscriptions : Event → Bool
  | .unsubscribe _ _ => false
  | _ => true

/-! ## Wishes -/

/-- What a request says about the subscription of its session to a URI, if it succeeds: that
    it begins, that it ends, or nothing. -/
def Request.wish? (r : Request) (uri : String) : Option Bool :=
  if r.method = Route.subscribe.method then
    match decodeParams SubscribeRequest.shape r.params with
    | .ok p => if p.uri = uri then some true else none
    | .error _ => none
  else if r.method = Route.unsubscribe.method then
    match decodeParams UnsubscribeRequest.shape r.params with
    | .ok p => if p.uri = uri then some false else none
    | .error _ => none
  else none

/-- Most requests are not about subscriptions. -/
theorem Request.wish?_of_other {r : Request} (uri : String)
    (hr : r.method ∉ [Route.subscribe.method, Route.unsubscribe.method]) :
    r.wish? uri = none := by
  rw [List.mem_cons, List.mem_singleton, not_or] at hr
  rw [Request.wish?, if_neg hr.1, if_neg hr.2]

namespace Host

/-- What an exchange says about the subscription of its session to a URI. One that failed
    says nothing. -/
def wish? (uri : String) (x : Request × Response) : Option Bool :=
  if x.2.isError then none else x.1.wish? uri

theorem wish?_of_other {r : Request} (uri : String) (response : Response)
    (hr : r.method ∉ [Route.subscribe.method, Route.unsubscribe.method]) :
    wish? uri (r, response) = none := by
  rw [wish?, Request.wish?_of_other uri hr, ite_self]

/-- An exchange that succeeded says what its request does. -/
theorem wish?_of_success {r : Request} (uri : String) (result : Json) :
    wish? uri (r, Server.respond r.id (.returned result)) = r.wish? uri :=
  rfl

/-- The session wants to hear of the URI: the last of its exchanges that says anything about
    the subscription says that it begins. -/
def wants (uri : String) (xs : List (Request × Response)) : Bool :=
  (xs.filterMap (wish? uri)).getLast?.getD false

/-- The last element that says something counts: a further one, or else the last before. -/
theorem getLast?_filterMap_append {α β : Type} (f : α → Option β) (default : β) (xs : List α)
    (x : Option α) : ((xs ++ x.toList).filterMap f).getLast?.getD default =
      (x.bind f).getD ((xs.filterMap f).getLast?.getD default) := by
  rw [List.filterMap_append]
  cases x with
  | none => simp
  | some x => cases hx : f x <;> simp [hx]

theorem wants_append (uri : String) (xs : List (Request × Response))
    (x : Option (Request × Response)) :
    wants uri (xs ++ x.toList) = (x.bind (wish? uri)).getD (wants uri xs) :=
  getLast?_filterMap_append (wish? uri) false xs x

end Host

namespace Server

variable {server : Server} {s : Session} {r : Request}

/-- What a request makes of the subscriptions of its session is what the exchange says. -/
theorem Leaves.holds {x : Served (Outcome Failure Json)} (hleaves : server.Leaves s r x)
    (uri : String) : x.server.subscriptions.holds uri s.id =
      (Host.wish? uri (r, respond r.id x.value)).getD (server.subscriptions.holds uri s.id) := by
  cases hleaves with
  | nothing hmethod _ hserver =>
    have hkept : x.server.subscriptions = server.subscriptions :=
      congrArg (fun server => server.subscriptions) hserver
    rw [hkept]
    cases hx : x.value with
    | returned result =>
      have hother := hmethod result hx
      rw [Host.wish?_of_other uri _ fun hr =>
        hother (List.mem_cons_of_mem _ (List.mem_cons_of_mem _ hr)), Option.getD_none]
    | failed | crashed => rfl
  | client hintroduces =>
    rw [Host.wish?_of_other uri _ (hintroduces.method ▸ by decide), Option.getD_none]
  | logLevel hmethod =>
    rw [Host.wish?_of_other uri _ (hmethod ▸ by decide), Option.getD_none]
  | @subscribed p _ hmethod hp =>
    rw [Host.wish?_of_success, Request.wish?, if_pos hmethod, hp, Subscriptions.holds_add]
    by_cases huri : p.uri = uri <;> simp [huri]
  | @unsubscribed p _ hmethod hp =>
    rw [Host.wish?_of_success, Request.wish?, if_neg (hmethod ▸ by decide), if_pos hmethod, hp,
      Subscriptions.holds_remove]
    by_cases huri : p.uri = uri <;> simp [huri]

end Server

namespace Host

variable {h : Host} {i j : Nat} {e : Event} {s : Session} {uri : String} {m : Message}
  {c : Closing} {past : List (Request × Response)}

/-! ## Events one by one -/

/-- The session of that number is subscribed to the URI. -/
def isSubscribed (h : Host) (i : Nat) (uri : String) : Bool :=
  h.server.subscriptions.holds uri (h.naming.session i)

/-- The client of the session of that number can still be told something. -/
def isLinked (h : Host) (i : Nat) : Bool := h.sessions[i]?.any (·.link.isOpen)

/-- What an event says about the subscription of a session to a URI. -/
def wishAt? (h : Host) (i : Nat) (uri : String) (e : Event) : Option Bool :=
  (h.exchange? i e).bind (wish? uri)

/-- The subscription of a session to a URI follows what an event says about it, and else
    stays as it was; it may end without a word together with the link. -/
structure Heeds (h : Host) (i : Nat) (uri : String) (e : Event) : Prop where
  only : (h.step e).isSubscribed i uri = true →
    (h.wishAt? i uri e).getD (h.isSubscribed i uri) = true
  kept : e.sparesSubscriptions = true → (h.step e).isLinked i = true →
    (h.wishAt? i uri e).getD (h.isSubscribed i uri) = true → (h.step e).isSubscribed i uri = true

/-- The event is obeyed, whatever becomes of the link. -/
theorem Heeds.of_eq
    (he : (h.step e).isSubscribed i uri = (h.wishAt? i uri e).getD (h.isSubscribed i uri)) :
    h.Heeds i uri e :=
  ⟨fun hsub => he.symm.trans hsub, fun _ _ hsub => he.trans hsub⟩

/-- The event says nothing, and the subscription ends at most. -/
theorem Heeds.of_lost (hw : h.wishAt? i uri e = none)
    (honly : (h.step e).isSubscribed i uri = true → h.isSubscribed i uri = true)
    (hkept : e.sparesSubscriptions = true → (h.step e).isLinked i = true →
      h.isSubscribed i uri = true → (h.step e).isSubscribed i uri = true) :
    h.Heeds i uri e where
  only := by rwa [hw]
  kept := by rwa [hw]

theorem wishAt?_of_taken? (ht : h.taken? i e = none) : h.wishAt? i uri e = none := by
  rw [wishAt?, exchange?, ht]
  rfl

theorem naming_step (e : Event) : (h.step e).naming = h.naming :=
  congrArg (·.2.1) (constants_step e)

/-- The event says nothing, and the table is as it was. -/
theorem Heeds.of_subscriptions (ht : h.taken? i e = none)
    (hkept : (h.step e).server.subscriptions = h.server.subscriptions) : h.Heeds i uri e := by
  refine .of_eq ?_
  rw [wishAt?_of_taken? ht, Option.getD_none, isSubscribed, isSubscribed, hkept, naming_step]

/-- The event says nothing, and the server is the same to the session. -/
theorem Heeds.of_alike (ht : h.taken? i e = none)
    (ha : h.server.Alike (h.naming.session i) (h.step e).server) : h.Heeds i uri e := by
  refine .of_eq ?_
  rw [wishAt?_of_taken? ht, Option.getD_none, isSubscribed, isSubscribed, naming_step,
    ha.subscriptions]

theorem blindToTraffic_subscriptions : BlindToTraffic fun h => h.server.subscriptions where
  link _ _ _ _ _ := rfl
  live _ _ := rfl
  pending _ _ _ _ _ := rfl
  settled _ _ := rfl
  issued _ _ := rfl
  now _ _ := rfl
  isReleased _ _ _ _ _ := rfl
  logLevel _ _ _ _ _ := rfl
  registry _ _ := rfl

/-- Another session has another name. -/
theorem Sound.id_ne (hh : h.Sound) (hij : j ≠ i) (s : Session) (hs : h.sessions[j]? = some s) :
    s.id ≠ h.naming.session i := by
  rw [hh.named j s hs]
  exact fun hid => hij (h.naming.session_injective j i hid)

/-- The end of a session begins no subscription. -/
theorem holds_of_close {id : String}
    (hsub : (h.close j c).server.subscriptions.holds uri id = true) :
    h.server.subscriptions.holds uri id = true := by
  cases hs : h.sessions[j]? with
  | none =>
    simp only [close, hs] at hsub
    exact hsub
  | some s =>
    by_cases hstate : s.state = .closed
    · rwa [close_of_closed hs hstate] at hsub
    · rw [server_close hs hstate, Subscriptions.holds_forget, Bool.and_eq_true] at hsub
      exact hsub.2

/-- After its end a session has no link. -/
theorem Sound.isLinked_close (hh : h.Sound) : (h.close i c).isLinked i = false := by
  rw [isLinked]
  cases hs : h.sessions[i]? with
  | none =>
    simp only [Host.close, hs]
    rfl
  | some s =>
    by_cases hstate : s.state = .closed
    · rw [close_of_closed hs hstate, hs]
      exact (hh.finished i s hs hstate).link
    · rw [getElem?_close hs hstate]
      exact s.link.close_isOpen c

/-- A link that is there at the end was there before, unless the session is new. -/
theorem KeepsLinks.isLinked {h' : Host} (hk : h.KeepsLinks h') (hs : h.sessions[i]? = some s)
    (hl : h'.isLinked i = true) : h.isLinked i = true := by
  obtain ⟨s', hs', hopen⟩ := hk i s hs
  rw [Host.isLinked, hs'] at hl
  rw [Host.isLinked, hs]
  exact hopen hl

/-- A request that the session takes is obeyed. -/
theorem Sound.heeds_request {r : Request} (hh : h.Sound) (hs : h.sessions[i]? = some s)
    (hstate : s.state ≠ .closed) : h.Heeds i uri (.deliver i (.request r)) := by
  have htaken : h.taken? i (.deliver i (.request r)) = some r := by simp [taken?, hs, hstate]
  have hserver : (h.step (.deliver i (.request r))).server = (h.server.perform s r).server :=
    server_deliver_request hs hstate
  refine .of_eq ?_
  rw [wishAt?, exchange?_of_session hs, htaken, Option.map_some, Option.bind_some, isSubscribed,
    isSubscribed, naming_step, ← hh.named i s hs, hserver]
  exact (h.server.perform_leaves s r).holds uri

/-- The end of a session says nothing, and is the end of its link. -/
theorem Sound.heeds_of_close (hh : h.Sound) (ht : h.taken? i e = none)
    (he : h.step e = h.close i c) : h.Heeds i uri e := by
  refine .of_lost (wishAt?_of_taken? ht) (fun hsub => ?_) fun _ hl => ?_
  · rw [isSubscribed, naming_step, he] at hsub
    exact holds_of_close hsub
  · rw [he, hh.isLinked_close] at hl
    cases hl

theorem Sound.heeds_deliver (hh : h.Sound) : h.Heeds i uri (.deliver j m) := by
  by_cases hij : j = i
  · subst hij
    have hdeaf (hsame : h.deliver j m = h) (ht : h.taken? j (.deliver j m) = none) :
        h.Heeds j uri (.deliver j m) :=
      .of_subscriptions ht (congrArg (fun h => h.server.subscriptions) hsame)
    cases hs : h.sessions[j]? with
    | none =>
      refine hdeaf (by simp only [deliver, hs]) ?_
      cases m <;> simp [taken?, hs]
    | some s =>
      by_cases hstate : s.state = .closed
      · refine hdeaf (deliver_of_closed hs hstate) ?_
        cases m <;> simp [taken?, hs, hstate]
      · cases m with
        | request r => exact hh.heeds_request hs hstate
        | notification n =>
          have hstep : h.step (.deliver j (.notification n)) = h.takeNotification j n := by
            simp only [step, deliver, hs, if_neg hstate]
          rw [takeNotification] at hstep
          split at hstep
          · refine .of_subscriptions rfl ?_
            rw [hstep]
            exact change_frame (g := fun h => h.server.subscriptions) fun _ _ => rfl
          · split at hstep
            · exact hh.heeds_of_close rfl hstep
            · exact .of_subscriptions rfl (congrArg (fun h => h.server.subscriptions) hstep)
        | response r =>
          refine .of_subscriptions rfl ?_
          simp only [step, deliver, hs, if_neg hstate]
          exact congrArg Server.subscriptions blindToWaiting_server.takeResponse
  · refine .of_alike ?_ (alike_server_deliver (hh.id_ne hij))
    cases m <;> simp [taken?, hij]

theorem Sound.heeds_close (hh : h.Sound) : h.Heeds i uri (.close j c) := by
  by_cases hij : j = i
  · subst hij
    exact hh.heeds_of_close rfl rfl
  · exact .of_alike rfl (alike_server_close (hh.id_ne hij))

/-- To close every live session leaves no link. -/
theorem Sound.heeds_closeAll (hh : h.Sound) : h.Heeds i uri (.closeAll c) := by
  refine .of_lost rfl (fun hsub => ?_) fun _ hl => ?_
  · rw [isSubscribed, naming_step] at hsub
    exact List.foldlRecOn _ _
      (motive := fun h' : Host => h'.server.subscriptions.holds uri (h.naming.session i) = true →
        h.server.subscriptions.holds uri (h.naming.session i) = true)
      (fun hsub => hsub) (fun _ hk _ _ hsub => hk (holds_of_close hsub)) hsub
  · have hafter : (h.closeAll c).Sound := (moves_step (e := .closeAll c) rfl).sound hh
    obtain ⟨s, hs, hopen⟩ := (Option.any_eq_true ..).1 hl
    have hlive := hafter.registered i s hs
    rw [hh.live_closeAll, hopen] at hlive
    cases hlive

/-- When a resource changes, subscribers are dropped that cannot be told. -/
theorem Sound.heeds_resourceChanged {uri' : String} (hh : h.Sound) :
    h.Heeds i uri (.resourceChanged uri') := by
  have hholds : (h.step (.resourceChanged uri')).isSubscribed i uri =
      (h.isSubscribed i uri && (decide (uri' ≠ uri) || h.isLinked i)) := by
    rw [isSubscribed, naming_step, step, server_resourceChanged]
    exact (Subscriptions.holds_keep ..).trans (by rw [hh.isReachable_eq]; rfl)
  refine .of_lost rfl (fun hsub => ?_) fun _ hl hsub => ?_
  · rw [hholds, Bool.and_eq_true] at hsub
    exact hsub.1
  · have hbefore : h.isLinked i = true := by
      obtain ⟨s', hs', -⟩ := (Option.any_eq_true ..).1 hl
      rw [step, hh.getElem?_resourceChanged, Option.map_eq_some_iff] at hs'
      obtain ⟨s, hs, -⟩ := hs'
      exact calm_resourceChanged.moves.keepsLinks.isLinked hs hl
    rw [hholds, hsub, hbefore, Bool.or_true, Bool.and_true]

/-- Events are heeded. -/
theorem Sound.heeds_step (hh : h.Sound) (he : e.isOrdinary = true) : h.Heeds i uri e := by
  cases e with
  | answer | subscribe => cases he
  | deliver => exact hh.heeds_deliver
  | close => exact hh.heeds_close
  | closeAll => exact hh.heeds_closeAll
  | resourceChanged => exact hh.heeds_resourceChanged
  | unsubscribe uri' id =>
    refine .of_lost rfl (fun hsub => ?_) nofun
    rw [isSubscribed, naming_step, step] at hsub
    exact (Bool.and_eq_true_iff.1 ((Subscriptions.holds_remove ..).symm.trans hsub)).2
  | connect => exact .of_subscriptions rfl rfl
  | _ => exact .of_subscriptions rfl (blindToTraffic_subscriptions.step rfl rfl)

/-! ## Runs -/

/-- The subscription of a session to a URI is what its exchanges say, as long as it can be
    told something. -/
structure Follows (h : Host) (i : Nat) (uri : String) (past : List (Request × Response)) :
    Prop where
  sound : h.Sound
  /-- A session that is not there had no exchanges. -/
  absent : h.sessions[i]? = none → past = []
  only : h.isSubscribed i uri = true → wants uri past = true
  kept : h.isLinked i = true → wants uri past = true → h.isSubscribed i uri = true

theorem follows_start {medium : Medium} {naming : Naming} {config : ServerConfig} :
    (start medium naming config).Follows i uri [] :=
  ⟨sound_start, fun _ => rfl, nofun, nofun⟩

theorem Follows.step (hf : h.Follows i uri past) (he : e.isOrdinary = true)
    (hspares : e.sparesSubscriptions = true) :
    (h.step e).Follows i uri (past ++ (h.exchange? i e).toList) := by
  have hmoves : Moves h (h.step e) := moves_step he
  have hheeds : h.Heeds i uri e := hf.sound.heeds_step he
  have hwants : wants uri (past ++ (h.exchange? i e).toList) =
      (h.wishAt? i uri e).getD (wants uri past) := wants_append uri past _
  refine ⟨hmoves.sound hf.sound, fun hnone => ?_, fun hsub => ?_, fun hl hw => ?_⟩
  · cases hs : h.sessions[i]? with
    | none =>
      rw [hf.absent hs, exchange?_absent hs]
      rfl
    | some s =>
      obtain ⟨s', hs', -⟩ := hmoves.keepsLinks i s hs
      cases hnone.symm.trans hs'
  · rw [hwants]
    have hsays := hheeds.only hsub
    cases hwish : h.wishAt? i uri e with
    | none => exact hf.only (by rwa [hwish] at hsays)
    | some w => rwa [hwish] at hsays
  · refine hheeds.kept hspares hl ?_
    rw [hwants] at hw
    cases hwish : h.wishAt? i uri e with
    | some w => rwa [hwish] at hw
    | none =>
      rw [hwish] at hw
      -- A session that is new had no exchanges, so it wants nothing.
      cases hs : h.sessions[i]? with
      | none =>
        rw [hf.absent hs] at hw
        cases hw
      | some s => exact hf.kept (hmoves.keepsLinks.isLinked hs hl) hw

/-- Along a run, the table of subscriptions follows the history. -/
theorem Follows.run (hf : h.Follows i uri past) {es : List Event}
    (hes : ∀ e ∈ es, e.isOrdinary = true ∧ e.sparesSubscriptions = true) :
    (h.run es).Follows i uri (past ++ h.exchanges i es) := by
  induction es generalizing h past with
  | nil => rwa [exchanges, List.append_nil]
  | cons e es ih =>
    obtain ⟨⟨he, hspares⟩, hes⟩ := List.forall_mem_cons.1 hes
    rw [exchanges, ← List.append_assoc, run_cons]
    exact ih (hf.step he hspares) hes

/-! ## Changes of resources -/

/-- A session is to hear of a change of the URI: its exchanges say that it wants to, and
    neither the session nor its link is closed. -/
def IsDue (uri : String) (xs : List (Request × Response)) (s : Session) : Prop :=
  wants uri xs = true ∧ s.state ≠ .closed ∧ s.link.isOpen = true

instance : Decidable (IsDue uri past s) := inferInstanceAs (Decidable (_ ∧ _ ∧ _))

/-- Those that are due are the subscribers whose links are open. -/
theorem Follows.isDue_iff (hf : h.Follows i uri past) (hs : h.sessions[i]? = some s) :
    IsDue uri past s ↔ h.server.subscriptions.holds uri s.id = true ∧ s.link.isOpen = true := by
  have hname : h.server.subscriptions.holds uri s.id = h.isSubscribed i uri := by
    rw [isSubscribed, hf.sound.named i s hs]
  rw [hname]
  constructor
  · rintro ⟨hwants, -, hopen⟩
    have hlinked : h.isLinked i = true := by
      rw [isLinked, hs]
      exact hopen
    exact ⟨hf.kept hlinked hwants, hopen⟩
  · rintro ⟨hsub, hopen⟩
    refine ⟨hf.only hsub, fun hstate => ?_, hopen⟩
    exact Bool.eq_false_iff.1 (hf.sound.finished i s hs hstate).link hopen

theorem Follows.getElem?_resourceChanged (hf : h.Follows i uri past) :
    (h.resourceChanged uri).sessions[i]? = h.sessions[i]?.map fun s =>
      if IsDue uri past s then s.told h.medium.capacity? (changeNotice uri) else s := by
  rw [hf.sound.getElem?_resourceChanged]
  cases hs : h.sessions[i]? with
  | none => rfl
  | some s =>
    rw [Option.map_some, Option.map_some]
    by_cases hdue : IsDue uri past s
    · rw [if_pos hdue, if_pos ((hf.isDue_iff hs).1 hdue).1]
    · rw [if_neg hdue]
      split
      · next hsub =>
        -- It is subscribed and not due, so nothing goes over its link.
        rw [Session.told_of_closed]
        exact Bool.eq_false_iff.2 fun hopen => hdue ((hf.isDue_iff hs).2 ⟨hsub, hopen⟩)
      · rfl

/-- The subscribers that are left are those that could be told. -/
theorem Sound.holds_resourceChanged (hh : h.Sound) (hs : h.sessions[i]? = some s) :
    (h.resourceChanged uri).server.subscriptions.holds uri s.id = true ↔
      h.server.subscriptions.holds uri s.id = true ∧ s.link.isOpen = true := by
  rw [server_resourceChanged]
  dsimp only
  rw [Subscriptions.holds_keep, hh.isReachable_id hs]
  simp

/-- **Subscriptions.** When a resource changes, one notice with its URI is sent to every
    session whose last exchange about a subscription to that URI began one, unless the
    session or its link is closed, and nothing to any other. Just these sessions are
    subscribed to it afterwards, and the subscribers of other URIs are those they were. -/
theorem resourceChanged_run (medium : Medium) (naming : Naming) (config : ServerConfig)
    {es : List Event} (hes : ∀ e ∈ es, e.isOrdinary = true ∧ e.sparesSubscriptions = true)
    (uri : String) :
    let before := start medium naming config
    let h := before.run es
    let h' := h.resourceChanged uri
    let notice : Message := .notification
      { method := "notifications/resources/updated"
        params := some (.object [("uri", .string uri)]) }
    (∀ i, h'.sessions[i]? = h.sessions[i]?.map fun s =>
      if IsDue uri (before.exchanges i es) s then s.told h.medium.capacity? notice else s) ∧
    (∀ (i : Nat) s, h.sessions[i]? = some s → IsDue uri (before.exchanges i es) s →
      s.link.fault = none → s.link.isFull h.medium.capacity? = false →
      ∃ s', h'.sessions[i]? = some s' ∧ s'.link.queue = s.link.queue ++ [notice]) ∧
    (∀ (i : Nat) s, h.sessions[i]? = some s →
      (h'.server.subscriptions.holds uri s.id = true ↔
        IsDue uri (before.exchanges i es) s)) ∧
    (∀ id, h'.server.subscriptions.holds uri id = true → ∃ s ∈ h.sessions, s.id = id) ∧
    ∀ uri', uri' ≠ uri →
      h'.server.subscriptions.subscribers uri' = h.server.subscriptions.subscribers uri' := by
  intro before h h' notice
  have hfollows (i : Nat) : h.Follows i uri (before.exchanges i es) := follows_start.run hes
  have hnotice : changeNotice uri = notice := rfl
  have htold (i : Nat) := hnotice ▸ (hfollows i).getElem?_resourceChanged
  have hserver : h'.server.subscriptions = h.server.subscriptions.keep uri h.isReachable :=
    congrArg Server.subscriptions (server_resourceChanged uri)
  refine ⟨htold, fun i s hs hdue hfault hroom => ?_, fun i s hs => ?_, fun id hsub => ?_,
    fun uri' hne => ?_⟩
  · rw [htold, hs, Option.map_some, if_pos hdue]
    refine ⟨_, rfl, ?_⟩
    rw [Session.told, Link.send_of_room hdue.2.2 hfault hroom]
  · exact ((hfollows i).sound.holds_resourceChanged hs).trans ((hfollows i).isDue_iff hs).symm
  · rw [hserver, Subscriptions.holds_keep] at hsub
    have hreach : h.isReachable id = true := by simpa using (Bool.and_eq_true_iff.1 hsub).2
    obtain ⟨s, hs, hid⟩ := List.any_eq_true.1 hreach
    simp only [Bool.and_eq_true, beq_iff_eq] at hid
    exact ⟨s, hs, hid.1.1⟩
  · rw [hserver, Subscriptions.keep, Subscriptions.subscribers_put, if_neg (Ne.symm hne)]

/-- Of two clients one subscribed, twice, and the other one changed its mind. -/
theorem resourceChanged_run_changedMind :
    let config : ServerConfig :=
      { info := ⟨"server", "1"⟩, capabilities := { resources := some { subscribe := some true } } }
    let introduced (i : Nat) : Event := .deliver i (.request
      { id := .number 0, method := Method.opening, params := some (.object
        [("clientInfo", .object [("name", .string "client"), ("version", .string "1")]),
          ("protocolVersion", .string "2024-11-05")]) })
    let asked (i : Nat) (method : String) : Event := .deliver i (.request
      { id := .number 1, method, params := some (.object [("uri", .string "file:a")]) })
    let es : List Event := [.connect, .connect, introduced 0, introduced 1,
      asked 0 "resources/subscribe", asked 0 "resources/subscribe",
      asked 1 "resources/subscribe", asked 1 "resources/unsubscribe"]
    let h := (start .memory (.numbered "session-" "request-" "") config).run es
    let notice : Message := .notification
      { method := "notifications/resources/updated"
        params := some (.object [("uri", .string "file:a")]) }
    (h.resourceChanged "file:a").sessions[0]? =
        h.sessions[0]?.map (Session.told h.medium.capacity? notice) ∧
      (h.resourceChanged "file:a").sessions[1]? = h.sessions[1]? := by
  intro config introduced asked es h notice
  have hes : ∀ e ∈ es, e.isOrdinary = true ∧ e.sparesSubscriptions = true := by
    decide
  have htold := (resourceChanged_run .memory (.numbered "session-" "request-" "") config hes
    "file:a").1
  exact ⟨(htold 0).trans (by decide +kernel), (htold 1).trans (by decide +kernel)⟩

end Host

end ContextServer
