import ContextServer.Proofs.Http.Aligned

/-!
# What goes over a stream

A stream is written from one side, read from the other and closed by anybody, in any
order. What is done to it and comes of it is written down act by act (`StreamAct`), and
such a record says what went over the stream: which messages were sent with success, what
was read, and how the stream was closed (`Traffic`).

The stream with the link of its session is an *outlet*. Whatever the order of the acts,
what was sent is what was read and, after it, what waits in the outlet, and the outlet is
open or closed as the record says (`Outlet.Carries`): every act keeps it
(`HttpService.carries_step`), and so it is after every run of them
(`HttpService.carries_run`). So a stream that a request opened delivers what was sent, in
its order and as far as it was not cut off (`HttpService.stream_run`).

Events are read one by one here (`HttpService.next`). To read all that there is, is to
read on until there is no event left (`HttpService.read_eq_nexts`).
-/

namespace ContextServer

/-! ## Acts -/

/-- What a client gets that reads on in a stream. -/
inductive StreamReading where
  /-- The first event, which says where messages go. -/
  | endpoint (text : String)
  /-- The event of a message. -/
  | message (m : Message)
  /-- There is no event yet. -/
  | nothing
  /-- The stream has ended. -/
  | ended
deriving DecidableEq

namespace StreamReading

/-- The message of an event. -/
def message? : StreamReading → Option Message
  | message m => some m
  | _ => none

/-- An event as it stands in the stream. -/
def text : StreamReading → String
  | endpoint text => text
  | message m => HttpService.eventText "message" m.line
  | nothing | ended => ""

end StreamReading

/-- What is done to a stream, with what comes of it. -/
inductive StreamAct where
  /-- A message is sent. -/
  | send (m : Message) (outcome : Except TransportError Unit)
  /-- The client reads on. -/
  | read (reading : StreamReading)
  /-- The link is closed. -/
  | close (c : Closing)

/-- What went over a stream. -/
structure Traffic where
  /-- The messages that were sent with success. -/
  sent : List Message := []
  /-- The events that were read. -/
  events : List StreamReading := []
  /-- How the stream was closed, each time. -/
  closings : List Closing := []

namespace Traffic

/-- The messages that were read. -/
def got (t : Traffic) : List Message := t.events.filterMap StreamReading.message?

/-- One more act. A message for which there is no room closes the stream at once. -/
def add (t : Traffic) : StreamAct → Traffic
  | .send m (.ok ()) => { t with sent := t.sent ++ [m] }
  | .send _ (.error (.unavailable _)) => { t with closings := t.closings ++ [.abrupt] }
  | .send _ (.error _) => t
  | .read .nothing | .read .ended => t
  | .read event => { t with events := t.events ++ [event] }
  | .close c => { t with closings := t.closings ++ [c] }

/-- What went over a stream at which these were the acts. -/
def ofActs (as : List StreamAct) : Traffic := as.foldl add {}

theorem ofActs_concat (as : List StreamAct) (a : StreamAct) :
    ofActs (as ++ [a]) = (ofActs as).add a := by
  rw [ofActs, List.foldl_append]
  rfl

end Traffic

/-! ## Outlets -/

/-- What the events of a stream come from. -/
structure Outlet where
  /-- What the link is carried over. -/
  medium : Medium
  /-- The link of the session. -/
  link : Link
  /-- How far the stream was read. -/
  stream : EventStream

namespace Outlet

/-- A message is sent. -/
def send (o : Outlet) (m : Message) : Except TransportError Unit × Outlet :=
  let (outcome, link) := o.link.send o.medium.capacity? m
  (outcome, { o with link })

/-- The link is closed. -/
def close (o : Outlet) (c : Closing) : Outlet := { o with link := o.link.close c }

/-- The client reads on. -/
def next (greeting : String) (o : Outlet) : StreamReading × Outlet :=
  if o.stream.isGone ∨ o.link.isCut then (.ended, o)
  else if o.stream.isGreeted then
    match o.link.queue with
    | m :: queue => (.message m, { o with link := { o.link with queue } })
    | [] => (if o.link.isOpen then .nothing else .ended, o)
  else (.endpoint greeting, { o with stream := { o.stream with isGreeted := true } })

/-- The outlet is as what went over it has left it, and holds what was sent and not yet
    read. -/
structure Carries (o : Outlet) (t : Traffic) : Prop where
  medium : o.medium = .stream
  fault : o.link.fault = none
  isGone : o.stream.isGone = false
  sent : t.sent = t.got ++ o.link.queue
  room : o.link.queue.length ≤ Medium.eventBuffer
  fresh : o.stream.isGreeted = false → t.events = []
  greeted : o.stream.isGreeted = true →
    ∃ text, t.events = .endpoint text :: t.got.map .message
  isOpen : o.link.isOpen = true ↔ t.closings = []
  isCut : o.link.isCut = true ↔ .abrupt ∈ t.closings

theorem carries_fresh : Carries { medium := .stream, link := {}, stream := {} } {} where
  medium := rfl
  fault := rfl
  isGone := rfl
  sent := rfl
  room := Nat.zero_le _
  fresh _ := rfl
  greeted := nofun
  isOpen := ⟨fun _ => rfl, fun _ => rfl⟩
  isCut := ⟨nofun, nofun⟩

variable {o : Outlet} {t : Traffic} {m : Message}

theorem send_of_closed (hopen : o.link.isOpen = false) (m : Message) :
    o.send m = (.error .closed, o) := by
  rw [send, Link.send_of_closed hopen]

namespace Carries

variable (hc : o.Carries t)

include hc

/-- The link is closed, once more or for the first time. -/
theorem close (c : Closing) : (o.close c).Carries { t with closings := t.closings ++ [c] } where
  medium := hc.medium
  fault := by cases c <;> exact hc.fault
  isGone := hc.isGone
  sent := (Link.close_queue o.link c).symm ▸ hc.sent
  room := (Link.close_queue o.link c).symm ▸ hc.room
  fresh := hc.fresh
  greeted := hc.greeted
  isOpen := by simp [Outlet.close, Link.close_isOpen]
  isCut := by
    rw [List.mem_append, List.mem_singleton, ← hc.isCut]
    cases c <;> simp [Outlet.close, Link.close]

/-- A message is taken. -/
theorem take (hroom : o.link.queue.length < Medium.eventBuffer) (m : Message) :
    Carries { o with link := { o.link with queue := o.link.queue ++ [m] } }
      { t with sent := t.sent ++ [m] } where
  medium := hc.medium
  fault := hc.fault
  isGone := hc.isGone
  sent := by
    change t.sent ++ [m] = t.got ++ (o.link.queue ++ [m])
    rw [hc.sent, List.append_assoc]
  room := by
    rw [List.length_append]
    exact hroom
  fresh := hc.fresh
  greeted := hc.greeted
  isOpen := hc.isOpen
  isCut := hc.isCut

/-- The endpoint is read. -/
theorem greet (hgreeted : o.stream.isGreeted = false) (text : String) :
    Carries { o with stream := { o.stream with isGreeted := true } }
      { t with events := t.events ++ [.endpoint text] } where
  medium := hc.medium
  fault := hc.fault
  isGone := hc.isGone
  sent := by
    rw [hc.sent, Traffic.got, Traffic.got, List.filterMap_append]
    exact congrArg (· ++ o.link.queue) (List.append_nil _).symm
  room := hc.room
  fresh := nofun
  greeted _ := by
    rw [Traffic.got, hc.fresh hgreeted]
    exact ⟨text, rfl⟩
  isOpen := hc.isOpen
  isCut := hc.isCut

/-- The oldest message that waits is read. -/
theorem pop {queue : List Message} (hgreeted : o.stream.isGreeted = true)
    (hqueue : o.link.queue = m :: queue) :
    Carries { o with link := { o.link with queue } }
      { t with events := t.events ++ [.message m] } where
  medium := hc.medium
  fault := hc.fault
  isGone := hc.isGone
  sent := by
    rw [hc.sent, hqueue, Traffic.got, Traffic.got, List.filterMap_append, List.append_assoc]
    rfl
  room := by
    have hroom := hc.room
    rw [hqueue] at hroom
    exact Nat.le_of_succ_le hroom
  fresh hfresh := absurd (hfresh.symm.trans hgreeted) Bool.false_ne_true
  greeted _ := by
    obtain ⟨text, hevents⟩ := hc.greeted hgreeted
    refine ⟨text, ?_⟩
    rw [Traffic.got, List.filterMap_append, List.map_append, ← Traffic.got]
    exact congrArg (· ++ [.message m]) hevents
  isOpen := hc.isOpen
  isCut := hc.isCut

theorem isFull_eq : o.link.isFull o.medium.capacity? =
    decide (Medium.eventBuffer ≤ o.link.queue.length) := by
  rw [hc.medium]
  rfl

/-- An open outlet takes a message for which there is room. -/
theorem send_of_room (hopen : o.link.isOpen = true)
    (hroom : o.link.queue.length < Medium.eventBuffer) (m : Message) :
    o.send m = (.ok (), { o with link := { o.link with queue := o.link.queue ++ [m] } }) := by
  have hfull := hc.isFull_eq.trans (decide_eq_false (Nat.not_le.2 hroom))
  rw [Outlet.send, Link.send_of_room hopen hc.fault hfull]

/-- It is closed over a message for which there is none. -/
theorem send_of_full (hopen : o.link.isOpen = true)
    (hroom : Medium.eventBuffer ≤ o.link.queue.length) (m : Message) :
    o.send m = (.error (.unavailable "event buffer full"), o.close .abrupt) := by
  have hfull := hc.isFull_eq.trans (decide_eq_true hroom)
  rw [Outlet.send, Link.send_of_full hopen hc.fault hfull]
  rfl

/-- What is sent is taken, or closes the link, or is lost after the end. -/
theorem send (m : Message) : (o.send m).2.Carries (t.add (.send m (o.send m).1)) := by
  cases hopen : o.link.isOpen with
  | false =>
    rw [send_of_closed hopen]
    exact hc
  | true =>
    by_cases hroom : o.link.queue.length < Medium.eventBuffer
    · rw [hc.send_of_room hopen hroom]
      exact hc.take hroom m
    · rw [hc.send_of_full hopen (Nat.le_of_not_lt hroom)]
      exact hc.close .abrupt

/-- What the client reads is the endpoint, and then what waits, the oldest first. -/
theorem next (greeting : String) :
    (o.next greeting).2.Carries (t.add (.read (o.next greeting).1)) := by
  rw [Outlet.next]
  split
  · exact hc
  · split
    · next hgreeted =>
      split
      · next hqueue => exact hc.pop hgreeted hqueue
      · split <;> exact hc
    · next hgreeted => exact hc.greet (Bool.eq_false_iff.2 hgreeted) greeting

/-- The link is closed if it was closed at all. -/
theorem isOpen_eq_false (hclosed : t.closings ≠ []) : o.link.isOpen = false :=
  Bool.eq_false_iff.2 fun hopen => hclosed (hc.isOpen.1 hopen)

end Carries

end Outlet

/-! ## Runs -/

namespace HttpService

/-- The stream of a number, with its session. -/
structure IsStream (s : HttpService) (i : Nat) (h : Host) (session : Session)
    (stream : EventStream) : Prop where
  host : s.host? = some h
  session : h.sessions[i]? = some session
  stream : s.streams[i]? = some stream

section

variable (s : HttpService) (i : Nat)

/-- What the events of the stream of a number come from. -/
def outlet? : Option Outlet := do
  let stream ← s.streams[i]?
  let host ← s.host?
  let session ← host.sessions[i]?
  return { medium := host.medium, link := session.link, stream }

/-- The messages that wait in the stream of a number. -/
def queued : List Message := ((s.outlet? i).map (·.link.queue)).getD []

/-- A message to the client of the stream of a number. -/
def tell (m : Message) : Except TransportError Unit × HttpService :=
  match s.host? with
  | some host =>
    let (outcome, host) := host.send i m
    (outcome, s.withHost host)
  | none => (.error .closed, s)

/-- The service with another link of the session and another stream. -/
def withOutlet (host : Host) (session : Session) (o : Outlet) : HttpService :=
  { s.withHost (host.put i { session with link := o.link }) with
    streams := s.streams.set i o.stream }

/-- The client of the stream of a number reads on. -/
def next : StreamReading × HttpService :=
  match s.streams[i]?, s.host? with
  | some stream, some host =>
    match host.sessions[i]? with
    | some session =>
      let (reading, o) := Outlet.next (s.greeting session.id)
        { medium := host.medium, link := session.link, stream }
      (reading, s.withOutlet i host session o)
    | none => (.ended, s)
  | _, _ => (.ended, s)

/-- The client reads on, so many times. -/
def nexts (i : Nat) : Nat → HttpService → List StreamReading × HttpService
  | 0, s => ([], s)
  | n + 1, s =>
    let (reading, s) := s.next i
    let (readings, s) := nexts i n s
    (reading :: readings, s)

end

/-- Something happens to the service. The acts are what there is of it at the stream of a
    number. -/
inductive StreamStep (i : Nat) (s : HttpService) : List StreamAct → HttpService → Prop
  | send (m : Message) : StreamStep i s [.send m (s.tell i m).1] (s.tell i m).2
  | read : StreamStep i s [.read (s.next i).1] (s.next i).2
  | close (c : Closing) : StreamStep i s [.close c] (s.onHost fun h => h.closeLink i c)
  /-- Anything else, as long as the outlet stays as it is. -/
  | other {s' : HttpService} : s'.outlet? i = s.outlet? i → StreamStep i s [] s'

/-- A run, with the acts at the stream of a number. -/
inductive StreamRun (i : Nat) (s : HttpService) : List StreamAct → HttpService → Prop
  | start : StreamRun i s [] s
  | step {s' s'' : HttpService} {as bs : List StreamAct} :
      StreamRun i s as s' → StreamStep i s' bs s'' → StreamRun i s (as ++ bs) s''

variable {s s' : HttpService} {i : Nat} {h : Host} {session : Session} {stream : EventStream}
  {o : Outlet} {as bs : List StreamAct} {t : Traffic} {m : Message}

theorem outlet?_eq_some_iff : s.outlet? i = some o ↔
    ∃ h session stream, s.IsStream i h session stream ∧
      o = { medium := h.medium, link := session.link, stream } := by
  constructor
  · intro ho
    obtain ⟨stream, hstream, ho⟩ := Option.bind_eq_some_iff.1 ho
    obtain ⟨h, hhost, ho⟩ := Option.bind_eq_some_iff.1 ho
    obtain ⟨session, hsession, ho⟩ := Option.bind_eq_some_iff.1 ho
    exact ⟨h, session, stream, ⟨hhost, hsession, hstream⟩, (Option.some.inj ho).symm⟩
  · rintro ⟨h, session, stream, hs, rfl⟩
    rw [outlet?, hs.stream, Option.bind_eq_bind, Option.bind_some, hs.host, Option.bind_eq_bind,
      Option.bind_some, hs.session]
    rfl

theorem IsStream.tell (hs : s.IsStream i h session stream) (m : Message) :
    s.tell i m = ((h.send i m).1, s.withHost (h.send i m).2) := by
  simp only [HttpService.tell, hs.host]

/-- A message that is sent goes to the outlet. -/
theorem outlet?_tell (ho : s.outlet? i = some o) (m : Message) :
    (s.tell i m).1 = (o.send m).1 ∧ (s.tell i m).2.outlet? i = some (o.send m).2 := by
  obtain ⟨h, session, stream, hs, rfl⟩ := outlet?_eq_some_iff.1 ho
  rw [hs.tell]
  refine ⟨?_, outlet?_eq_some_iff.2 ⟨(h.send i m).2, _, stream,
    ⟨rfl, Host.getElem?_send hs.session, hs.stream⟩, ?_⟩⟩
  · simp only [Host.send, hs.session]
    rfl
  · rw [Host.medium_of_constants Host.blindToUse_constants.send]
    rfl

theorem outlet?_closeLink (ho : s.outlet? i = some o) (c : Closing) :
    (s.onHost fun h => h.closeLink i c).outlet? i = some (o.close c) := by
  obtain ⟨h, session, stream, hs, rfl⟩ := outlet?_eq_some_iff.1 ho
  refine outlet?_eq_some_iff.2 ⟨h.closeLink i c, _, stream,
    ⟨?_, Host.getElem?_closeLink hs.session, hs.stream⟩, ?_⟩
  · change s.host?.map _ = _
    rw [hs.host, Option.map_some]
  · rw [Host.medium_of_constants Host.blindToUse_constants.closeLink]
    rfl

theorem IsStream.withOutlet (hs : s.IsStream i h session stream) (o : Outlet) :
    (s.withOutlet i h session o).IsStream i (h.put i { session with link := o.link })
      { session with link := o.link } o.stream where
  host := rfl
  session := List.getElem?_set_self (List.getElem?_eq_some_iff.1 hs.session).1
  stream := List.getElem?_set_self (List.getElem?_eq_some_iff.1 hs.stream).1

theorem IsStream.withOutlet_self (hs : s.IsStream i h session stream) (medium : Medium) :
    s.withOutlet i h session { medium, link := session.link, stream } = s := by
  obtain ⟨hi, rfl⟩ := List.getElem?_eq_some_iff.1 hs.stream
  have hput : h.put i { session with link := session.link } = h := Host.put_self hs.session
  rw [HttpService.withOutlet, hput, withHost_self hs.host, List.set_getElem_self]

theorem withOutlet_withOutlet (o o' : Outlet) :
    (s.withOutlet i h session o).withOutlet i (h.put i { session with link := o.link })
      { session with link := o.link } o' = s.withOutlet i h session o' := by
  simp only [withOutlet, withHost, Provider.withHost, Host.put, List.set_set]

theorem IsStream.next (hs : s.IsStream i h session stream) :
    let x := Outlet.next (s.greeting session.id)
      { medium := h.medium, link := session.link, stream }
    s.next i = (x.1, s.withOutlet i h session x.2) := by
  simp only [HttpService.next, hs.stream, hs.host, hs.session]

/-- What is read is read from the outlet. -/
theorem outlet?_next (ho : s.outlet? i = some o) : ∃ greeting,
    (s.next i).1 = (o.next greeting).1 ∧ (s.next i).2.outlet? i = some (o.next greeting).2 := by
  obtain ⟨h, session, stream, hs, rfl⟩ := outlet?_eq_some_iff.1 ho
  refine ⟨s.greeting session.id, ?_⟩
  rw [hs.next]
  refine ⟨rfl, outlet?_eq_some_iff.2 ⟨_, _, _, hs.withOutlet _, ?_⟩⟩
  rw [Outlet.next]
  split
  · rfl
  · split
    · split <;> rfl
    · rfl

/-- Every act leaves the outlet as the record says. -/
theorem carries_step (hstep : StreamStep i s bs s')
    (hc : ∃ o, s.outlet? i = some o ∧ o.Carries (.ofActs as)) :
    ∃ o, s'.outlet? i = some o ∧ o.Carries (.ofActs (as ++ bs)) := by
  obtain ⟨o, ho, hc⟩ := hc
  cases hstep with
  | send m =>
    obtain ⟨houtcome, ho'⟩ := outlet?_tell ho m
    rw [houtcome, Traffic.ofActs_concat]
    exact ⟨_, ho', hc.send m⟩
  | read =>
    obtain ⟨greeting, hreading, ho'⟩ := outlet?_next ho
    rw [hreading, Traffic.ofActs_concat]
    exact ⟨_, ho', hc.next greeting⟩
  | close c =>
    rw [Traffic.ofActs_concat]
    exact ⟨_, outlet?_closeLink ho c, hc.close c⟩
  | other ho' =>
    rw [List.append_nil]
    exact ⟨o, ho'.trans ho, hc⟩

/-- And so does every run. -/
theorem carries_run (hrun : StreamRun i s as s')
    (hs : s.outlet? i = some { medium := .stream, link := {}, stream := {} }) :
    ∃ o, s'.outlet? i = some o ∧ o.Carries (.ofActs as) := by
  induction hrun with
  | start => exact ⟨_, hs, Outlet.carries_fresh⟩
  | step _ hstep ih => exact carries_step hstep ih

/-! ## Reading to the end -/

/-- The outlet with nothing left to read. -/
def emptied (h : Host) (session : Session) (stream : EventStream) : Outlet where
  medium := h.medium
  link := { session.link with queue := [] }
  stream := { stream with isGreeted := true }

theorem IsStream.next_greeting (hs : s.IsStream i h session stream) (hgone : stream.isGone = false)
    (hcut : session.link.isCut = false) (hgreeted : stream.isGreeted = false) :
    s.next i = (.endpoint (s.greeting session.id), s.withOutlet i h session
      { medium := h.medium, link := session.link
        stream := { stream with isGreeted := true } }) := by
  rw [hs.next]
  simp [Outlet.next, hgone, hcut, hgreeted]

theorem IsStream.next_message {queue : List Message} (hs : s.IsStream i h session stream)
    (hgone : stream.isGone = false) (hcut : session.link.isCut = false)
    (hgreeted : stream.isGreeted = true) (hqueue : session.link.queue = m :: queue) :
    s.next i = (.message m, s.withOutlet i h session
      { medium := h.medium, link := { session.link with queue }, stream }) := by
  rw [hs.next]
  simp [Outlet.next, hgone, hcut, hgreeted, hqueue]

theorem IsStream.next_end (hs : s.IsStream i h session stream)
    (hgone : stream.isGone = false) (hcut : session.link.isCut = false)
    (hgreeted : stream.isGreeted = true) (hqueue : session.link.queue = []) :
    (s.next i).1 = if session.link.isOpen then .nothing else .ended := by
  rw [hs.next]
  simp [Outlet.next, hgone, hcut, hgreeted, hqueue]

/-- The messages that wait are read one after the other. -/
theorem IsStream.nexts_queue (hs : s.IsStream i h session stream) (hgone : stream.isGone = false)
    (hcut : session.link.isCut = false) (hgreeted : stream.isGreeted = true) :
    nexts i session.link.queue.length s =
      (session.link.queue.map .message, s.withOutlet i h session (emptied h session stream)) := by
  have hstream : { stream with isGreeted := true } = stream := by rw [← hgreeted]
  generalize hqueue : session.link.queue = queue
  induction queue generalizing s h session with
  | nil =>
    have hempty : emptied h session stream =
        { medium := h.medium, link := session.link, stream } := by
      rw [emptied, hstream, ← hqueue]
    rw [hempty, hs.withOutlet_self]
    rfl
  | cons m queue ih =>
    have hnext := hs.next_message hgone hcut hgreeted hqueue
    have hrest := ih (hs.withOutlet
      { medium := h.medium, link := { session.link with queue }, stream }) hcut rfl
    rw [withOutlet_withOutlet] at hrest
    simp only [List.length_cons, nexts, hnext, hrest]
    rfl

/-- All that there is gets read: the endpoint first, unless it was before. -/
theorem IsStream.nexts_all (hs : s.IsStream i h session stream) (hgone : stream.isGone = false)
    (hcut : session.link.isCut = false) :
    ∃ n, nexts i n s =
      ((if stream.isGreeted then [] else [.endpoint (s.greeting session.id)]) ++
          session.link.queue.map .message,
        s.withOutlet i h session (emptied h session stream)) := by
  cases hgreeted : stream.isGreeted with
  | true => exact ⟨_, hs.nexts_queue hgone hcut hgreeted⟩
  | false =>
    have hnext := hs.next_greeting hgone hcut hgreeted
    have hrest := (hs.withOutlet { medium := h.medium, link := session.link
                                   stream := { stream with isGreeted := true } }).nexts_queue
      hgone hcut rfl
    rw [withOutlet_withOutlet] at hrest
    refine ⟨session.link.queue.length + 1, ?_⟩
    simp only [nexts, hnext, hrest]
    rfl

theorem IsStream.next_cut (hs : s.IsStream i h session stream) (hcut : session.link.isCut = true) :
    (s.next i).1 = .ended := by
  rw [hs.next]
  simp [Outlet.next, hcut]

theorem messageEvents_eq (ms : List Message) :
    messageEvents ms = String.join ((ms.map .message).map StreamReading.text) := by
  rw [messageEvents, List.map_map]
  exact congrArg String.join (List.map_congr_left fun _ _ => rfl)

/-- To read what there is, is to read on until there is no event left. -/
theorem read_eq_nexts {text : String} {isOver : Bool}
    (hread : s.read i = (some (text, isOver), s')) :
    ∃ n, text = String.join ((nexts i n s).1.map StreamReading.text) ∧ s' = (nexts i n s).2 ∧
      (s'.next i).1 = if isOver then .ended else .nothing := by
  rw [read] at hread
  split at hread
  · next stream h hstream hhost =>
    split at hread
    · next session hgone hsession =>
      have hs : s.IsStream i h session stream := ⟨hhost, hsession, hstream⟩
      split at hread
      · next hcut =>
        cases hread
        exact ⟨0, rfl, rfl, hs.next_cut hcut⟩
      · next hcut =>
        obtain ⟨n, hn⟩ := hs.nexts_all hgone (Bool.eq_false_iff.2 hcut)
        simp only [Host.collect, hsession] at hread
        cases hread
        refine ⟨n, ?_, ?_, ?_⟩
        · rw [hn, List.map_append, String.join_append, ← messageEvents_eq]
          cases stream.isGreeted with
          | true =>
            rw [if_pos rfl, if_pos rfl, List.map_nil, String.join_nil]
            rfl
          | false =>
            rw [if_neg Bool.false_ne_true, if_neg Bool.false_ne_true, List.map_singleton,
              String.join_cons, String.join_nil, String.append_empty]
            rfl
        · rw [hn]
          rfl
        · have hs' := hs.withOutlet (emptied h session stream)
          have hend := hs'.next_end hgone (Bool.eq_false_iff.2 hcut) rfl rfl
          refine hend.trans ?_
          change (if session.link.isOpen then StreamReading.nothing else .ended) = _
          cases session.link.isOpen <;> rfl
    · cases hread
  · cases hread

/-! ## Delivery -/

/-- A message for which there is no room is refused, and ends the stream and its session. -/
structure Overflows (s : HttpService) (i : Nat) (m : Message) : Prop where
  outcome : (s.tell i m).1 = .error (.unavailable "event buffer full")
  queued : (s.tell i m).2.queued i = s.queued i
  closed : ∃ o, (s.tell i m).2.outlet? i = some o ∧ o.link.isOpen = false ∧ o.link.isCut = true
  unregistered : ∀ h session, (s.tell i m).2.host? = some h → h.sessions[i]? = some session →
    (s.tell i m).2.live? session.id = none

/-- What is sent over the stream of a number gets to its client, where this is what went
    over it. -/
structure Delivers (s : HttpService) (i : Nat) (t : Traffic) : Prop where
  /-- What was read is the endpoint and messages after it. -/
  events : t.events = [] ∨ ∃ text, t.events = .endpoint text :: t.got.map .message
  /-- The messages that were read are the first ones of those that were sent. -/
  got : t.got <+: t.sent
  /-- The others wait. -/
  queued : t.sent = t.got ++ s.queued i
  room : (s.queued i).length ≤ Medium.eventBuffer
  /-- Until the end messages are taken, as long as there is room. -/
  takes : t.closings = [] → (s.queued i).length < Medium.eventBuffer → ∀ m,
    (s.tell i m).1 = .ok () ∧ (s.tell i m).2.queued i = s.queued i ++ [m]
  overflows : t.closings = [] → (s.queued i).length = Medium.eventBuffer → ∀ m,
    s.Overflows i m
  /-- After it, however it came, none is. -/
  refuses : t.closings ≠ [] → ∀ m,
    (s.tell i m).1 = .error .closed ∧ (s.tell i m).2.queued i = s.queued i
  /-- The client does not see an end that did not come. -/
  goes : t.closings = [] → (s.next i).1 ≠ .ended
  /-- It sees the end when it has read all. -/
  drained : .abrupt ∉ t.closings → (s.next i).1 = .ended → t.got = t.sent
  /-- It gets to read all, and then sees the end. -/
  drains : t.closings ≠ [] → .abrupt ∉ t.closings → ∃ n,
    t.got ++ (nexts i n s).1.filterMap StreamReading.message? = t.sent ∧
      .ended ∉ (nexts i n s).1 ∧ ((nexts i n s).2.next i).1 = .ended
  /-- What was closed at once yields nothing more. -/
  cut : .abrupt ∈ t.closings → (s.next i).1 = .ended

theorem queued_eq (ho : s.outlet? i = some o) : s.queued i = o.link.queue := by
  rw [queued, ho]
  rfl

/-- A session whose link closes over a message is not registered any more. -/
theorem IsStream.unregistered (hs : s.IsStream i h session stream)
    (hclosed : (session.link.send h.medium.capacity? m).2.isOpen = false) :
    (s.tell i m).2.live? session.id = none := by
  have hlive : (h.send i m).2.live.get? session.id = none := by
    simp only [Host.send, hs.session, hclosed]
    exact (Dict.get?_erase ..).trans (if_pos rfl)
  rw [hs.tell]
  change (h.send i m).2.live.get? session.id >>= _ = none
  rw [hlive]
  rfl

theorem overflows_of_carries (ho : s.outlet? i = some o) (hc : o.Carries t)
    (hopen : t.closings = []) (hfull : (s.queued i).length = Medium.eventBuffer) (m : Message) :
    s.Overflows i m := by
  rw [queued_eq ho] at hfull
  have hsend := hc.send_of_full (hc.isOpen.2 hopen) (Nat.le_of_eq hfull.symm) m
  obtain ⟨houtcome, ho'⟩ := outlet?_tell ho m
  rw [hsend] at houtcome ho'
  refine ⟨houtcome, ?_, ⟨_, ho', rfl, rfl⟩, fun h' session' hh' hsession' => ?_⟩
  · rw [queued_eq ho', queued_eq ho]
    exact o.link.close_queue .abrupt
  · obtain ⟨h, session, stream, hs, rfl⟩ := outlet?_eq_some_iff.1 ho
    rw [hs.tell] at hh'
    cases hh'
    rw [Host.getElem?_send hs.session] at hsession'
    cases hsession'
    exact hs.unregistered (congrArg (fun x => x.2.link.isOpen) hsend)

/-- The client sees the end where the link was cut, and where nothing waits any more behind
    an end of another kind. -/
theorem next_eq_over_iff (ho : s.outlet? i = some o) (hgone : o.stream.isGone = false) :
    (s.next i).1 = .ended ↔ o.link.isCut = true ∨
      o.stream.isGreeted = true ∧ o.link.queue = [] ∧ o.link.isOpen = false := by
  obtain ⟨greeting, hnext, -⟩ := outlet?_next ho
  rw [hnext, Outlet.next]
  cases hcut : o.link.isCut with
  | true => simp
  | false =>
    cases hgreeted : o.stream.isGreeted with
    | false => simp [hgone]
    | true => cases hqueue : o.link.queue <;> cases hopen : o.link.isOpen <;> simp [hgone]

/-- What is read to the end is all that was sent. -/
theorem drains_of_carries (ho : s.outlet? i = some o) (hc : o.Carries t)
    (hclosed : t.closings ≠ []) (hcut : .abrupt ∉ t.closings) : ∃ n,
    t.got ++ (nexts i n s).1.filterMap StreamReading.message? = t.sent ∧
      .ended ∉ (nexts i n s).1 ∧ ((nexts i n s).2.next i).1 = .ended := by
  have hopen := hc.isOpen_eq_false hclosed
  have hcut : o.link.isCut = false := Bool.eq_false_iff.2 fun h => hcut (hc.isCut.1 h)
  obtain ⟨h, session, stream, hs, rfl⟩ := outlet?_eq_some_iff.1 ho
  obtain ⟨n, hn⟩ := hs.nexts_all hc.isGone hcut
  refine ⟨n, ?_, ?_, ?_⟩
  · have hqueue : (session.link.queue.map StreamReading.message).filterMap StreamReading.message? =
        session.link.queue := by
      rw [List.filterMap_map]
      exact List.filterMap_some
    rw [hn, List.filterMap_append, hqueue, hc.sent]
    cases stream.isGreeted <;> rfl
  · rw [hn]
    cases stream.isGreeted <;> simp
  · rw [hn]
    have hend := (hs.withOutlet (emptied h session stream)).next_end hc.isGone hcut rfl rfl
    rw [hend]
    exact if_neg (Bool.eq_false_iff.1 hopen)

/-- What an outlet carries is delivered. -/
theorem delivers_of_carries (ho : s.outlet? i = some o) (hc : o.Carries t) : s.Delivers i t where
  events := by
    cases hgreeted : o.stream.isGreeted with
    | false => exact .inl (hc.fresh hgreeted)
    | true => exact .inr (hc.greeted hgreeted)
  got := ⟨o.link.queue, hc.sent.symm⟩
  queued := by
    rw [queued_eq ho]
    exact hc.sent
  room := by
    rw [queued_eq ho]
    exact hc.room
  takes hopen hroom m := by
    rw [queued_eq ho] at hroom
    obtain ⟨houtcome, ho'⟩ := outlet?_tell ho m
    rw [hc.send_of_room (hc.isOpen.2 hopen) hroom] at houtcome ho'
    exact ⟨houtcome, by rw [queued_eq ho', queued_eq ho]⟩
  overflows := overflows_of_carries ho hc
  refuses hclosed m := by
    obtain ⟨houtcome, ho'⟩ := outlet?_tell ho m
    rw [Outlet.send_of_closed (hc.isOpen_eq_false hclosed)] at houtcome ho'
    exact ⟨houtcome, by rw [queued_eq ho', queued_eq ho]⟩
  goes hopen hover := by
    rcases (next_eq_over_iff ho hc.isGone).1 hover with hcut | ⟨-, -, hclosed⟩
    · have hmem := hc.isCut.1 hcut
      rw [hopen] at hmem
      cases hmem
    · exact Bool.eq_false_iff.1 hclosed (hc.isOpen.2 hopen)
  drained hcut hover := by
    rcases (next_eq_over_iff ho hc.isGone).1 hover with hcut' | ⟨-, hqueue, -⟩
    · exact absurd (hc.isCut.1 hcut') hcut
    · rw [hc.sent, hqueue, List.append_nil]
  drains := drains_of_carries ho hc
  cut hcut := (next_eq_over_iff ho hc.isGone).2 (.inl (hc.isCut.2 hcut))

/-- Nothing has gone over a stream that was just opened. -/
theorem outlet?_opened {naming : Naming} {config : HttpConfig} {es : List HttpEvent}
    (hes : ∀ e ∈ es, e.opensByRequest = true)
    (hopen : ((fresh naming config).run es).openStream = (.stream i, s)) :
    s.outlet? i = some { medium := .stream, link := {}, stream := {} } := by
  have ha : ((fresh naming config).run es).Aligned := aligned_run hes
  obtain ⟨h, hs, rfl, rfl⟩ := exists_host_of_openStream hopen
  obtain ⟨hsession, hstream⟩ := ha.sessions_opened hs
  refine outlet?_eq_some_iff.2 ⟨h.connect.2, _, {}, ⟨rfl, hsession, hstream⟩, ?_⟩
  have hmedium : h.connect.2.medium = .stream := ha.medium h hs
  rw [hmedium]

/-- A client that reads nothing can be sent so many messages. -/
theorem exists_stalled (hs : s.outlet? i = some { medium := .stream, link := {}, stream := {} })
    (m : Message) {n : Nat} (hn : n ≤ Medium.eventBuffer) :
    let as := List.replicate n (.send m (.ok ()))
    ∃ s', StreamRun i s as s' ∧ (Traffic.ofActs as).closings = [] ∧
      (s'.queued i).length = n := by
  induction n with
  | zero => exact ⟨s, .start, rfl, by rw [queued_eq hs]; rfl⟩
  | succ n ih =>
    obtain ⟨s', hrun, hopen, hlength⟩ := ih (Nat.le_of_succ_le hn)
    obtain ⟨o, ho, hc⟩ := carries_run hrun hs
    obtain ⟨houtcome, hqueued⟩ := (delivers_of_carries ho hc).takes hopen (hlength.symm ▸ hn) m
    have hstep := StreamStep.send (i := i) (s := s') m
    rw [houtcome] at hstep
    rw [List.replicate_succ']
    refine ⟨(s'.tell i m).2, hrun.step hstep, ?_, ?_⟩
    · rw [Traffic.ofActs_concat]
      exact hopen
    · rw [hqueued, List.length_append, hlength]
      rfl

/-- **What goes over a stream.** A stream that a request opened delivers what is sent over
    it, whatever is done to it and in which order: each message once and one after the
    other, with no more of them waiting than there is room for, all of them if it is closed
    in a graceful way, and none any more once it is cut off. -/
theorem stream_run (naming : Naming) (config : HttpConfig) (before : List HttpEvent)
    (hbefore : ∀ e ∈ before, e.opensByRequest = true) (i : Nat) (s₀ : HttpService)
    (hopen : ((fresh naming config).run before).openStream = (.stream i, s₀))
    (as : List StreamAct) (s : HttpService) (hrun : StreamRun i s₀ as s) :
    s.Delivers i (.ofActs as) := by
  obtain ⟨o, ho, hc⟩ := carries_run hrun (outlet?_opened hbefore hopen)
  exact delivers_of_carries ho hc

/-- A client does not read: its stream takes as many messages as there is room for, and
    ends at the next one. -/
theorem stream_run_stalled :
    let config : ServerConfig := { info := ⟨"server", "1"⟩ }
    let s := (fresh (Naming.numbered "session-" "request-" "") {}).run [.bind config]
    let m : Message := .notification { method := "notifications/custom" }
    let as := List.replicate Medium.eventBuffer (.send m (.ok ()))
    ∃ s', StreamRun 0 s.openStream.2 as s' ∧ s'.Delivers 0 (.ofActs as) ∧ s'.Overflows 0 m := by
  intro config s m as
  have hbefore : ∀ e ∈ [HttpEvent.bind config], e.opensByRequest = true := by decide
  have hopen : s.openStream = (.stream 0, s.openStream.2) := rfl
  obtain ⟨s', hrun, hclosings, hlength⟩ :=
    exists_stalled (outlet?_opened hbefore hopen) m (Nat.le_refl _)
  have hdelivers := stream_run _ _ _ hbefore 0 _ hopen as s' hrun
  exact ⟨s', hrun, hdelivers, hdelivers.overflows hclosings hlength m⟩

end HttpService

end ContextServer
