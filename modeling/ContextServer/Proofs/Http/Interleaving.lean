import ContextServer.Proofs.Http.Stream

/-!
# Runs of the service as runs of acts

Whatever happens to a host, the link of one session sees messages that are sent and
closings, one after the other (`Host.Feeds`): responses, notifications and requests all
go the same way, and a session that is over closes its link. So every run of the service
is a run of acts at each of its streams (`HttpService.exists_streamRun`), as long as the
client of the stream is there.
-/

namespace ContextServer

/-- The event opens no session, and does not do to the link of the session of a number what
    is not done to a stream. -/
def Event.sparesLink (i : Nat) : Event → Bool
  | .connect => false
  | .hangUp j | .setFault j _ | .collect j => j != i
  | _ => true

namespace Host

variable {h h' : Host} {i j : Nat} {m : Message} {c : Closing}

/-- The link of the session of a number, with what it is carried over. -/
def tap (i : Nat) (h : Host) : Medium × Option Link := (h.medium, (h.view (·.link))[i]?)

theorem blindToWaiting_tap : BlindToWaiting (tap i) where
  pending h _ _ _ hs := congrArg (fun v => (h.medium, v[i]?)) (view_put_eq hs rfl)
  settled _ _ := rfl
  issued _ _ := rfl
  now _ _ := rfl

/-- What is the same of another host. -/
theorem tap_eq (hconstants : h'.constants = h.constants)
    (hsessions : h'.sessions[i]? = h.sessions[i]?) : tap i h' = tap i h := by
  rw [tap, tap, medium_of_constants hconstants, view_getElem?, view_getElem?, hsessions]

/-- A session changes, and its link does not. -/
theorem tap_put {s s' : Session} (hs : h.sessions[j]? = some s) (hlink : s'.link = s.link) :
    tap i (h.put j s') = tap i h :=
  congrArg (fun v => (h.medium, v[i]?)) (view_put_eq hs hlink)

/-- A message to the client of the session of a number, the end of its link, or something
    that the link does not see. -/
inductive Feed (i : Nat) (h : Host) : Host → Prop
  | send (m : Message) : Feed i h (h.send i m).2
  | close (c : Closing) : Feed i h (h.closeLink i c)
  | other {h' : Host} : tap i h' = tap i h → Feed i h h'

/-- One of these after the other. -/
def Feeds (i : Nat) : Host → Host → Prop := Relation.ReflTransGen (Feed i)

theorem Feeds.trans {h'' : Host} (hf : Feeds i h h') (hf' : Feeds i h' h'') : Feeds i h h'' :=
  Relation.ReflTransGen.trans hf hf'

theorem Feeds.other (htap : tap i h' = tap i h) : Feeds i h h' := .single (.other htap)

/-! ## Operations -/

theorem feeds_send : Feeds i h (h.send j m).2 := by
  by_cases hij : j = i
  · subst hij
    exact .single (.send m)
  · exact .other (tap_eq blindToUse_constants.send (send_ne hij))

theorem feeds_broadcast {method : String} {params : Option Json} :
    Feeds i h (h.broadcast method params) :=
  reflTransGen_foldl (fun _ _ => feeds_send) _ h

theorem feeds_announce {family : Family} : Feeds i h (h.announce family) := by
  rw [announce]
  split
  · exact feeds_broadcast
  · exact .refl

theorem feeds_reject {fault : ParseFault} : Feeds i h (h.reject j fault).2 := by
  rw [reject]
  split
  · exact .refl
  · exact feeds_send

theorem feeds_log {message : LoggingMessageNotification} : Feeds i h (h.log j message).2 := by
  rw [log]
  split
  · exact .refl
  · split
    · exact feeds_send
    · exact .refl

theorem feeds_closeLink : Feeds i h (h.closeLink j c) := by
  by_cases hij : j = i
  · subst hij
    exact .single (.close c)
  · exact .other (tap_eq blindToUse_constants.closeLink (closeLink_ne hij))

/-- A session that is over closes its link at last. -/
theorem feeds_close : Feeds i h (h.close j c) := by
  rw [close]
  split
  · exact .refl
  · next s hs =>
    split
    · exact .refl
    · dsimp only
      refine Feeds.trans (.other ?_) feeds_closeLink
      rw [settleAll_frame blindToWaiting_tap.settled]
      exact tap_put hs rfl

theorem tap_change {k : Session → Session} (hlink : ∀ s, (k s).link = s.link) :
    tap i (h.change j k) = tap i h :=
  change_frame fun s hs => tap_put hs (hlink s)

theorem tap_answer {r : Request} : tap i (h.answer j r).2 = tap i h := by
  cases hs : h.sessions[j]? with
  | none => simp only [answer, hs]
  | some s =>
    rw [answer_of_session hs]
    exact tap_put hs link_perform

theorem feeds_deliver : Feeds i h (h.deliver j m) := by
  unfold deliver
  split
  · exact .refl
  · next s hs =>
    split
    · exact .refl
    · cases m with
      | request r =>
        -- The request is answered, and the response is sent.
        dsimp only
        rw [takeRequest_of_session hs]
        exact Feeds.trans (.other tap_answer) feeds_send
      | notification n =>
        dsimp only [takeNotification]
        split
        · exact .other (tap_change fun _ => rfl)
        · split
          · exact feeds_close
          · exact .refl
      | response r => exact .other blindToWaiting_tap.takeResponse

theorem feeds_request {method : String} {params : Option Json} {waiter : Waiter} :
    Feeds i h (h.request j method params waiter).2 := by
  rw [request]
  split
  · exact .refl
  · next s hs =>
    split
    · exact .refl
    · dsimp only
      have hsent : Feeds i h (h.send j (.request
          { id := .text (h.naming.request h.issued), method, params })).2 := feeds_send
      split
      · next hsend =>
        rw [hsend] at hsent
        exact hsent
      · next h₁ hsend =>
        rw [hsend] at hsent
        -- The wait is added, and then the time is looked at.
        refine hsent.trans (.other (blindToWaiting_tap.expire.trans ?_))
        exact tap_change fun _ => rfl

theorem feeds_listRoots : Feeds i h (h.listRoots j).2 := by
  rw [listRoots]
  split
  · split
    · exact feeds_request
    · exact .refl
  · exact .refl

theorem feeds_createMessage {r : CreateMessageRequest} : Feeds i h (h.createMessage j r).2 := by
  rw [createMessage]
  split
  · split
    · exact feeds_request
    · exact .refl
  · exact .refl

/-- What an event does to the link of a session comes down to messages and closings. -/
theorem feeds_step {e : Event} (he : e.sparesLink i = true) : Feeds i h (h.step e) := by
  cases e with
  | connect => cases he
  | deliver => exact feeds_deliver
  | reject => exact feeds_reject
  | answer => exact .other tap_answer
  | send => exact feeds_send
  | request => exact feeds_request
  | listRoots => exact feeds_listRoots
  | createMessage => exact feeds_createMessage
  | log => exact feeds_log
  | broadcast => exact feeds_broadcast
  | resourceChanged uri =>
    have hpruned : Feeds i h
        (h.withSubscriptions (h.server.subscriptions.keep uri h.isReachable)) := .other rfl
    exact hpruned.trans (reflTransGen_foldl (fun _ _ => feeds_send) _ _)
  | install | uninstall | callTool | readResource | getPrompt => exact .other rfl
  | addComponent c =>
    have hinstalled : Feeds i h (h.install c) := .other rfl
    exact hinstalled.trans feeds_announce
  | removeComponent family key =>
    have huninstalled : Feeds i h (h.uninstall family key).2 := .other rfl
    rw [step, removeComponent]
    dsimp only
    split
    · exact huninstalled.trans feeds_announce
    · exact huninstalled
  | setLogLevel => exact .other (tap_change fun _ => rfl)
  | subscribe j uri =>
    rw [step, subscribe]
    split
    · exact .other rfl
    · exact .refl
  | unsubscribe => exact .other rfl
  | close => exact feeds_close
  | closeAll => exact reflTransGen_foldl (fun _ _ => feeds_close) _ h
  | closeLink => exact feeds_closeLink
  | hangUp j | setFault j =>
    exact .other (tap_eq (constants_step _) (change_ne (by simpa [Event.sparesLink] using he)))
  | release => exact .other (blindToWaiting_tap.bury.trans (tap_change fun _ => rfl))
  | collect j =>
    exact .other (tap_eq (constants_step _) (collect_ne (by simpa [Event.sparesLink] using he)))
  | collectSettled => exact .other rfl
  | advance => exact .other blindToWaiting_tap.advance

end Host

/-! ## The service -/

/-- The event does not mean that the client of the stream of a number goes away. -/
def HttpEvent.keepsClient (i : Nat) : HttpEvent → Bool
  | .drop j => j != i
  | .host e => e.sparesLink i
  | _ => true

namespace HttpService

open Host (Feed Feeds tap)

variable {s s' s'' : HttpService} {h h' : Host} {i j : Nat} {session : Session}
  {stream : EventStream} {as bs : List StreamAct}

theorem StreamStep.run (hstep : StreamStep i s as s') : StreamRun i s as s' :=
  .step .start hstep

theorem StreamRun.trans (hrun : StreamRun i s as s') (hrun' : StreamRun i s' bs s'') :
    StreamRun i s (as ++ bs) s'' := by
  induction hrun' with
  | start =>
    rw [List.append_nil]
    exact hrun
  | step _ hstep ih =>
    rw [← List.append_assoc]
    exact ih.step hstep

/-- A service that differs in nothing that the outlet is made of. -/
theorem outlet?_of_tap (hs : s.host? = some h) (hs' : s'.host? = some h')
    (htap : tap i h' = tap i h) (hstream : s'.streams[i]? = s.streams[i]?) :
    s'.outlet? i = s.outlet? i := by
  obtain ⟨hmedium, hlink⟩ := Prod.mk.inj htap
  rw [Host.view_getElem?, Host.view_getElem?] at hlink
  rw [outlet?, outlet?, hs, hs', hstream]
  cases s.streams[i]? with
  | none => rfl
  | some stream =>
    change h'.sessions[i]?.bind _ = h.sessions[i]?.bind _
    cases hsession : h.sessions[i]? with
    | none =>
      rw [hsession, Option.map_none, Option.map_eq_none_iff] at hlink
      rw [hlink]
      rfl
    | some session =>
      rw [hsession] at hlink
      obtain ⟨session', hsession', hlink'⟩ := Option.map_eq_some_iff.1 hlink
      rw [hsession']
      change some _ = some _
      rw [hlink', hmedium]

theorem exists_streamRun_feeds (hs : s.host? = some h) (hf : Feeds i h h') :
    ∃ as, StreamRun i s as (s.withHost h') := by
  induction hf with
  | refl =>
    rw [withHost_self hs]
    exact ⟨[], .start⟩
  | @tail h₁ h₂ _ hstep ih =>
    obtain ⟨as, hrun⟩ := ih
    cases hstep with
    | send m => exact ⟨_, hrun.step (.send m)⟩
    | close c => exact ⟨_, hrun.step (.close c)⟩
    | other htap =>
      have hother : (s.withHost h₂).outlet? i = (s.withHost h₁).outlet? i :=
        outlet?_of_tap rfl rfl htap rfl
      exact ⟨_, hrun.step (.other hother)⟩

theorem exists_streamRun_nexts (n : Nat) : ∃ as, StreamRun i s as (nexts i n s).2 := by
  induction n generalizing s with
  | zero => exact ⟨[], .start⟩
  | succ n ih =>
    obtain ⟨as, hrun⟩ := ih (s := (s.next i).2)
    exact ⟨_, StreamStep.read.run.trans hrun⟩

/-- Where there is nothing to read, nothing changes. -/
theorem read_eq_none (hread : s.read i = (none, s')) : s' = s := by
  rw [read] at hread
  split at hread
  · split at hread
    · split at hread
      · cases hread
      · cases hread
    · exact (Prod.mk.inj hread).2.symm
  · exact (Prod.mk.inj hread).2.symm

theorem exists_streamRun_read : ∃ as, StreamRun i s as (s.read i).2 := by
  rcases hread : s.read i with ⟨none | ⟨text, isOver⟩, s'⟩
  · exact ⟨[], read_eq_none hread ▸ .start⟩
  · obtain ⟨n, -, rfl, -⟩ := read_eq_nexts hread
    exact exists_streamRun_nexts n

/-- The outlet is the same beside changes to other streams. -/
theorem outlet?_withStreams {streams : List EventStream} (h : streams[i]? = s.streams[i]?) :
    ({ s with streams } : HttpService).outlet? i = s.outlet? i := by
  rw [outlet?, outlet?]
  dsimp only
  rw [h]

theorem outlet?_opened_of_isStream (hs : s.IsStream i h session stream) :
    (s.opened h).outlet? i = s.outlet? i := by
  have hi : i < h.sessions.length := (List.getElem?_eq_some_iff.1 hs.session).1
  have hi' : i < s.streams.length := (List.getElem?_eq_some_iff.1 hs.stream).1
  refine outlet?_of_tap hs.host rfl (Host.tap_eq rfl ?_) (List.getElem?_append_left hi')
  exact List.getElem?_append_left hi

theorem exists_streamRun_onHost {f : Host → Host} (hf : ∀ h, Feeds i h (f h)) :
    ∃ as, StreamRun i s as (s.onHost f) := by
  cases hs : s.host? with
  | none =>
    have hsame : s.onHost f = s := by
      change { s with provider := { s.provider with host := s.host?.map f } } = s
      rw [hs, Option.map_none, ← hs]
    rw [hsame]
    exact ⟨[], .start⟩
  | some h =>
    have hsome : s.onHost f = s.withHost (f h) := by
      change { s with provider := { s.provider with host := s.host?.map f } } = _
      rw [hs]
      rfl
    rw [hsome]
    exact exists_streamRun_feeds hs (hf h)

/-- Every event is a run of acts at a stream whose client is there. -/
theorem IsStream.exists_streamRun_step (hs : s.IsStream i h session stream) {e : HttpEvent}
    (he : e.keepsClient i = true) : ∃ as, StreamRun i s as (s.step e) := by
  have hopen : StreamRun i s [] (s.opened h) :=
    StreamStep.run (.other (outlet?_opened_of_isStream hs))
  have hchanges := s.changes e
  generalize hs' : s.step e = s' at hchanges
  cases hchanges with
  | nothing => exact ⟨[], .start⟩
  | bound hnone => cases hs.host.symm.trans hnone
  | opened hhost =>
    cases hs.host.symm.trans hhost
    exact ⟨[], hopen⟩
  | openedHead hhost =>
    cases hs.host.symm.trans hhost
    obtain ⟨as, hrun⟩ := exists_streamRun_feeds (s := s.opened h) rfl Host.feeds_close
    exact ⟨_, hopen.trans hrun⟩
  | delivered hhost => exact exists_streamRun_feeds hhost Host.feeds_deliver
  | rejected hhost => exact exists_streamRun_feeds hhost Host.feeds_reject
  | @read j _ _ _ hhost =>
    by_cases hij : j = i
    · rw [← hs', hij]
      exact exists_streamRun_read
    · -- Other streams are read beside that of the number.
      refine ⟨[], StreamStep.run (.other (outlet?_of_tap hhost rfl ?_ (List.getElem?_set_ne hij)))⟩
      exact Host.tap_eq Host.blindToUse_constants.collect (Host.collect_ne hij)
  | @dropped j =>
    have hij : j ≠ i := by simpa [HttpEvent.keepsClient] using he
    obtain ⟨as, hrun⟩ := exists_streamRun_onHost (s := s) (i := i) fun h =>
      Host.feeds_close (h := h) (j := j) (c := .abrupt)
    exact ⟨_, hrun.step (.other (outlet?_withStreams (List.getElem?_set_ne hij)))⟩
  | host => exact exists_streamRun_onHost fun _ => Host.feeds_step he

/-- After a stream was opened, whatever happens to the service is a run of acts at the
    stream, and the stream delivers what is sent over it. -/
theorem exists_streamRun {naming : Naming} {config : HttpConfig} {before es : List HttpEvent}
    (hbefore : ∀ e ∈ before, e.opensByRequest = true)
    (hopen : ((fresh naming config).run before).openStream = (.stream i, s))
    (hes : ∀ e ∈ es, e.keepsClient i = true) :
    ∃ as, StreamRun i s as (s.run es) ∧ (s.run es).Delivers i (.ofActs as) := by
  have hs := outlet?_opened hbefore hopen
  suffices ∃ as, StreamRun i s as (s.run es) by
    obtain ⟨as, hrun⟩ := this
    obtain ⟨o, ho, hc⟩ := carries_run hrun hs
    exact ⟨as, hrun, delivers_of_carries ho hc⟩
  refine List.foldlRecOn es step (motive := fun s' => ∃ as, StreamRun i s as s') ⟨[], .start⟩ ?_
  rintro s' ⟨as, hrun⟩ e he
  -- The stream is still there.
  obtain ⟨o, ho, -⟩ := carries_run hrun hs
  obtain ⟨h, session, stream, hstream, -⟩ := outlet?_eq_some_iff.1 ho
  obtain ⟨bs, hstep⟩ := hstream.exists_streamRun_step (hes e he)
  exact ⟨as ++ bs, hrun.trans hstep⟩

end HttpService

end ContextServer
