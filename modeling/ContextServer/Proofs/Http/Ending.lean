import ContextServer.Proofs.Host.Tie
import ContextServer.Proofs.Http.Aligned
import ContextServer.Proofs.Http.Target

/-!
# The end of a session and of its stream

The stream of a session ends in three ways: its session is closed, its client goes away,
or it has no room for a message. In the first two the session is over at once
(`HttpService.Linked`), and so has no waits and no subscriptions. In the third the stream
is cut and its session out of the register, and the session is over as soon as the client,
which can read nothing any more, lets go of the stream (`HttpService.GivenUp`).

There is no fourth way (`HttpService.session_ends`).
-/

namespace ContextServer

/-- The event is one of the service: nothing happens to a link but through its session and
    its stream. -/
def HttpEvent.isServed : HttpEvent → Bool
  | .host e => e.isOrdinary && !e.isConnection && e.leavesLinks
  | _ => true

theorem HttpEvent.isOrdinary_of_isServed {e : HttpEvent} (he : e.isServed = true) :
    e.isOrdinary = true := by
  cases e <;> simp_all [isServed, isOrdinary]

theorem HttpEvent.opensByRequest_of_isServed {e : HttpEvent} (he : e.isServed = true) :
    e.opensByRequest = true := by
  cases e <;> simp_all [isServed, opensByRequest]

namespace HttpService

variable {s s' : HttpService} {h : Host} {i : Nat} {session : Session}

/-! ## Ties -/

/-- Every session whose link is closed is over, or its client was given up. -/
def Tied (s : HttpService) : Prop := ∀ h, s.host? = some h → h.Tied

theorem Tied.withHost (ht : s.Tied) {h' : Host} (hs : s.host? = some h) (hh : h.Tied → h'.Tied) :
    (s.withHost h').Tied := by
  rintro _ ⟨⟩
  exact hh (ht h hs)

theorem Tied.onHost (ht : s.Tied) {f : Host → Host} (hf : ∀ h, h.Tied → (f h).Tied) :
    (s.onHost f).Tied := by
  intro h' hh'
  obtain ⟨h, hs, rfl⟩ := Option.map_eq_some_iff.1 hh'
  exact hf h (ht h hs)

theorem Tied.step (ht : s.Tied) {e : HttpEvent} (he : e.isServed = true) : (s.step e).Tied := by
  have hchanges := s.changes e
  generalize s.step e = s' at hchanges
  cases hchanges with
  | nothing => exact ht
  | bound =>
    rintro _ ⟨⟩
    exact Host.tied_start
  | opened hs =>
    rintro _ ⟨⟩
    exact (ht _ hs).connect
  | openedHead hs =>
    rintro _ ⟨⟩
    exact (ht _ hs).connect.close
  | delivered hs => exact ht.withHost hs fun hh => hh.deliver
  | rejected hs => exact ht.withHost hs fun hh => hh.reject
  | read hs _ _ hsession hcut =>
    -- What is read of a stream is collected from a link that was not cut.
    rintro _ ⟨⟩
    refine (ht _ hs).collect fun session' hsession' => ?_
    cases hsession.symm.trans hsession'
    exact hcut
  | dropped => exact ht.onHost fun _ hh => hh.close
  | host =>
    simp only [HttpEvent.isServed, Bool.and_eq_true] at he
    exact ht.onHost fun _ hh => hh.step he.2

/-! ## Clients that went away -/

/-- The client of the stream of a number went away. -/
def IsLeft (s : HttpService) (i : Nat) : Prop :=
  ∃ stream, s.streams[i]? = some stream ∧ stream.isGone = true

/-- The client of a stream that was just opened is there. -/
theorem isLeft_opened (hleft : (s.opened h).IsLeft i) : s.IsLeft i := by
  obtain ⟨stream, hstream, hgone⟩ := hleft
  rw [opened, List.getElem?_append] at hstream
  split at hstream
  · exact ⟨stream, hstream, hgone⟩
  · have hnew := List.mem_singleton.1 (List.mem_of_getElem? hstream)
    rw [hnew] at hgone
    cases hgone

/-- A client goes away by itself only. -/
theorem isLeft_step {e : HttpEvent} (hleft : (s.step e).IsLeft i) :
    s.IsLeft i ∨ e = .drop i ∧ ∃ stream, s.streams[i]? = some stream := by
  have hset {j : Nat} {stream : EventStream} (hij : j ≠ i) :
      (s.streams.set j stream)[i]? = s.streams[i]? := List.getElem?_set_ne hij
  have hchanges := s.changes e
  generalize s.step e = s' at hchanges hleft
  obtain ⟨stream', hstream', hgone'⟩ := hleft
  cases hchanges with
  | nothing | bound | delivered | rejected | host => exact .inl ⟨stream', hstream', hgone'⟩
  | @opened _ h | @openedHead _ h =>
    exact .inl (isLeft_opened (h := h) ⟨stream', hstream', hgone'⟩)
  | @read j stream _ _ _ hstream hgone =>
    dsimp only at hstream'
    by_cases hij : j = i
    · subst hij
      rw [List.getElem?_set_self (List.getElem?_eq_some_iff.1 hstream).1] at hstream'
      cases hstream'
      cases hgone.symm.trans hgone'
    · exact .inl ⟨stream', (hset hij).symm.trans hstream', hgone'⟩
  | @dropped j stream hstream =>
    by_cases hij : j = i
    · exact .inr ⟨hij ▸ rfl, stream, hij ▸ hstream⟩
    · exact .inl ⟨stream', (hset hij).symm.trans hstream', hgone'⟩

/-! ## Links and streams -/

/-- What is so of the sessions of a service and their streams. -/
structure Linked (s : HttpService) : Prop where
  aligned : s.Aligned
  sound : ∀ h, s.host? = some h → h.Sound
  tied : s.Tied
  /-- A session whose client went away is over. -/
  left : ∀ i, s.IsLeft i → ∀ h session, s.host? = some h → h.sessions[i]? = some session →
    session.state = .closed

theorem linked_fresh {naming : Naming} {config : HttpConfig} : (fresh naming config).Linked where
  aligned := aligned_fresh
  sound := sound_fresh
  tied h hh := by
    rw [fresh] at hh
    cases hh
  left := by
    rintro i ⟨stream, hstream, -⟩
    rw [fresh] at hstream
    cases hstream

theorem closed_drop (hs : s.host? = some h) (hsession : h.sessions[i]? = some session)
    {stream : EventStream} (hstream : s.streams[i]? = some stream) :
    (s.drop i).host? = some (h.close i .abrupt) ∧
      ∃ session', (h.close i .abrupt).sessions[i]? = some session' ∧ session'.state = .closed := by
  refine ⟨?_, Host.closed_close hsession⟩
  have hhost : s.provider.host = some h := hs
  rw [drop, hstream]
  exact congrArg (Option.map _) hhost

theorem Linked.step (hl : s.Linked) {e : HttpEvent} (he : e.isServed = true) :
    (s.step e).Linked where
  aligned := hl.aligned.step (HttpEvent.opensByRequest_of_isServed he)
  sound := sound_step (HttpEvent.isOrdinary_of_isServed he) hl.sound
  tied := hl.tied.step he
  left i hleft h' session' hh' hsession' := by
    -- The session was there before: it has the number of a stream that was.
    have hbefore {stream : EventStream} (hstream : s.streams[i]? = some stream) :
        ∃ h session, s.host? = some h ∧ h.sessions[i]? = some session ∧ Host.Moves h h' := by
      have hi : i < s.streams.length := (List.getElem?_eq_some_iff.1 hstream).1
      rw [← hl.aligned.size] at hi
      cases hs : s.host? with
      | none =>
        rw [hs] at hi
        cases hi
      | some h =>
        rw [hs] at hi
        refine ⟨h, h.sessions[i], rfl, List.getElem?_eq_getElem hi, ?_⟩
        rcases hostMoves_step (s := s) (HttpEvent.isOrdinary_of_isServed he) with hm | ⟨hnone, -⟩
        · rw [hs, hh'] at hm
          cases hm with
          | some hm => exact hm
        · cases hnone.symm.trans hs
    rcases isLeft_step hleft with ⟨stream, hstream, hgone⟩ | ⟨rfl, stream, hstream⟩
    · obtain ⟨h, session, hs, hsession, hm⟩ := hbefore hstream
      have hclosed := hl.left i ⟨stream, hstream, hgone⟩ h session hs hsession
      obtain ⟨session'', hsession'', hstate, -⟩ :=
        hm.keepsEnds (hl.sound h hs) i session hsession hclosed
      cases hsession'.symm.trans hsession''
      exact hstate
    · obtain ⟨h, session, hs, hsession, -⟩ := hbefore hstream
      obtain ⟨hdropped, session'', hsession'', hstate⟩ := closed_drop hs hsession hstream
      cases hdropped.symm.trans hh'
      cases hsession'.symm.trans hsession''
      exact hstate

theorem linked_run {naming : Naming} {config : HttpConfig} {es : List HttpEvent}
    (hes : ∀ e ∈ es, e.isServed = true) : ((fresh naming config).run es).Linked :=
  List.foldlRecOn es HttpService.step linked_fresh fun _ hl e he => hl.step (hes e he)

/-! ## The end of a session -/

/-- The stream of a session was cut for want of room. -/
structure GivenUp (s : HttpService) (h : Host) (i : Nat) (session : Session) : Prop where
  /-- As many messages wait as there is room for, and none is to be read any more. -/
  isFull : Medium.eventBuffer ≤ session.link.queue.length
  isCut : session.link.isCut = true
  ended : s.read i = (some ("", true), s)
  /-- The session is not found by its name. -/
  unregistered : s.live? session.id = none
  /-- Its client has not gone away. -/
  present : ∃ stream, s.streams[i]? = some stream ∧ stream.isGone = false
  /-- Once the client goes away, or the session is closed, it is over. -/
  closes : ∀ c, ∃ session', (h.close i c).sessions[i]? = some session' ∧
    session'.state = .closed ∧ (h.close i c).Over session'
  drops : (s.drop i).host? = some (h.close i .abrupt)

theorem Linked.givenUp (hl : s.Linked) (hs : s.host? = some h)
    (hsession : h.sessions[i]? = some session) (hclosed : session.link.isOpen = false)
    (hstate : session.state ≠ .closed) : s.GivenUp h i session := by
  have hlost := (hl.tied h hs i session hsession hclosed).resolve_left hstate
  have hi : i < s.streams.length := by
    rw [← hl.aligned.size_eq hs]
    exact (List.getElem?_eq_some_iff.1 hsession).1
  have hstream : s.streams[i]? = some s.streams[i] := List.getElem?_eq_getElem hi
  have hgone : s.streams[i].isGone = false :=
    Bool.eq_false_iff.2 fun hgone => hstate (hl.left i ⟨_, hstream, hgone⟩ h session hs hsession)
  have hhost : s.provider.host = some h := hs
  refine ⟨?_, hlost.isCut, ?_, ?_, ⟨_, hstream, hgone⟩, fun c => ?_,
    (closed_drop hs hsession hstream).1⟩
  · have hfull := hlost.isFull
    rw [Link.isFull, hl.aligned.medium h hs] at hfull
    exact of_decide_eq_true hfull
  · simp only [read, hstream, hhost, hgone, hsession, hlost.isCut, if_true]
  · have hlive := (hl.sound h hs).registered i session hsession
    rw [hclosed] at hlive
    rw [live?, hhost]
    change h.live.get? session.id >>= _ = none
    rw [hlive]
    rfl
  · obtain ⟨session', hsession', hstate'⟩ := Host.closed_close (c := c) hsession
    have hsound : (h.close i c).Sound := Host.moves_close.sound (hl.sound h hs)
    exact ⟨session', hsession', hstate', hsound.finished i session' hsession' hstate'⟩

/-- **Sessions and their streams.** Whatever requests a service gets, and whatever its
    clients and its owner do, a session whose stream was closed is over, with no requests to
    wait for and no subscriptions, or else its stream was cut for want of room. -/
theorem session_ends (naming : Naming) (config : HttpConfig) (es : List HttpEvent)
    (hes : ∀ e ∈ es, e.isServed = true) :
    let s := (fresh naming config).run es
    ∀ h, s.host? = some h → ∀ (i : Nat) session, h.sessions[i]? = some session →
      session.link.isOpen = false →
        session.state = .closed ∧ session.pending = [] ∧
            (∀ uri, h.server.subscriptions.holds uri session.id = false) ∨
          session.state ≠ .closed ∧ s.GivenUp h i session := by
  intro s h hs i session hsession hclosed
  have hl : s.Linked := linked_run hes
  by_cases hstate : session.state = .closed
  · have hover := (hl.sound h hs).finished i session hsession hstate
    exact .inl ⟨hstate, hover.pending, hover.subscriptions⟩
  · exact .inr ⟨hstate, hl.givenUp hs hsession hclosed hstate⟩

/-- At the usual paths a stream is asked for by a `GET` of `/sse`. -/
theorem handle_get_sse (hs : s.config = {}) :
    s.handle { method := "GET", target := "/sse" } = s.openStream := by
  have hpath : Http.Request.path { method := "GET", target := "/sse" } = "/sse" :=
    (Http.Request.path_of_plain rfl rfl (by decide) (by decide)).1
  have hendpoints : .events ∈ HttpConfig.endpoints {} "/sse" := by decide +kernel
  simp only [handle, hpath, hs, hendpoints, true_and, if_true]

/-- A client connects, and then something happens. -/
theorem run_connected (naming : Naming) (config : ServerConfig) (es : List HttpEvent) :
    (fresh naming {}).run
        (.bind config :: .handle { method := "GET", target := "/sse" } :: es) =
      ((fresh naming {}).step (.bind config)).openStream.2.run es :=
  congrArg (fun x => run x.2 es) (handle_get_sse rfl)

/-- A client goes away that was asked for something: nobody waits for the answer any more. -/
theorem session_ends_dropped :
    let s := (fresh (.numbered "session-" "request-" "") {}).run
      (.bind { info := ⟨"server", "1"⟩ } :: .handle { method := "GET", target := "/sse" } ::
        [.host (.request 0 "roots/list" none .patient), .drop 0])
    ∃ h session, s.host? = some h ∧ h.sessions[0]? = some session ∧
      session.link.isOpen = false ∧ session.state = .closed ∧ session.pending = [] ∧
      ∀ uri, h.server.subscriptions.holds uri session.id = false := by
  intro s
  have hends : (s.host?.bind fun h => h.sessions[0]?.map fun session =>
      (session.link.isOpen, session.state)) = some (false, .closed) := by
    rw [show s = _ from run_connected _ _ _]
    decide +kernel
  obtain ⟨h, hs, hsession⟩ := Option.bind_eq_some_iff.1 hends
  obtain ⟨session, hsession, heq⟩ := Option.map_eq_some_iff.1 hsession
  obtain ⟨hclosed, hstate⟩ := Prod.mk.inj heq
  rcases session_ends (.numbered "session-" "request-" "") {} _ (by decide) h hs 0 session hsession
    hclosed with hover | ⟨hne, -⟩
  · exact ⟨h, session, hs, hsession, hclosed, hover⟩
  · exact absurd hstate hne

/-- A client reads nothing while it is told one thing more than its stream has room for. Its
    stream is closed, and its session is not over. -/
theorem session_ends_stalled :
    let s := (fresh (.numbered "session-" "request-" "") {}).run
      (.bind { info := ⟨"server", "1"⟩ } :: .handle { method := "GET", target := "/sse" } ::
        List.replicate 257 (.host (.broadcast "notifications/custom" none)))
    (s.host?.map fun h => h.sessions.map fun session => (session.link.isOpen, session.state)) =
      some [(false, .uninitialized)] := by
  rw [run_connected]
  decide +kernel

end HttpService

end ContextServer
