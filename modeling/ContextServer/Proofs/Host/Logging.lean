import ContextServer.Proofs.Host.Subscribers
import ContextServer.Proofs.Schema.RoundTrip

/-!
# Log messages along a run

Which log messages reach the client of a session is a matter of its own exchanges: each that
succeeded may set a level, and the last one that did counts (`Host.wantedLevel`). What every
event says is kept by the level of the session and by what goes over its link, as long as
the link is open (`Host.step_tells`): the level follows the exchange of the event, and the
queue has one notice more if the event is one that the client is due at that level
(`Event.notice?`).

So along a run the client gets the notices that it is due, in their order, and no other
(`Host.log_run`).
-/

namespace ContextServer

/-! ## Notices -/

/-- The message is a notice for the log of a client. -/
def Message.isLog : Message → Bool
  | .notification n => n.method = Method.logMessage
  | .request _ | .response _ => false

/-- The notice that a log message is sent as. -/
def LoggingMessageNotification.notice (m : LoggingMessageNotification) : Message :=
  .notification { method := Method.logMessage, params := some (shape.encode m) }

/-- The notice that an event has for the client of a session who wants messages of a level
    and above. A message that is sent as it stands, to one client or to all, is not asked
    for its level. -/
def Event.notice? (i : Nat) (level : LoggingLevel) : Event → Option Message
  | .log j m => if j = i ∧ level ≤ m.level then some m.notice else none
  | .send j m => if j = i ∧ m.isLog then some m else none
  | .broadcast method params =>
    if method = Method.logMessage then some (.notification { method, params }) else none
  | _ => none

/-- The client of the session sets its level itself, and can be reached. -/
def Event.sparesClient (i : Nat) : Event → Bool
  | .setLogLevel j _ | .hangUp j | .setFault j _ => j ≠ i
  | _ => true

/-! ## Levels -/

/-- The level that a request sets, if it succeeds. -/
def Request.level? (r : Request) : Option LoggingLevel :=
  if r.method = Route.setLevel.method then
    match decodeParams SetLevelRequest.shape r.params with
    | .ok p => some p.level
    | .error _ => none
  else none

theorem Request.level?_of_other {r : Request} (hr : r.method ≠ Route.setLevel.method) :
    r.level? = none := by
  rw [Request.level?, if_neg hr]

namespace Host

/-- The level that an exchange sets. One that failed sets none. -/
def levelSet? (x : Request × Response) : Option LoggingLevel :=
  if x.2.isError then none else x.1.level?

theorem levelSet?_of_other {r : Request} (response : Response)
    (hr : r.method ≠ Route.setLevel.method) : levelSet? (r, response) = none := by
  rw [levelSet?, Request.level?_of_other hr, ite_self]

/-- The level that the last exchange that set one did set; all messages are wanted if none
    did. -/
def wantedLevel (xs : List (Request × Response)) : LoggingLevel :=
  (xs.filterMap levelSet?).getLast?.getD .debug

theorem wantedLevel_append (xs : List (Request × Response)) (x : Option (Request × Response)) :
    wantedLevel (xs ++ x.toList) = (x.bind levelSet?).getD (wantedLevel xs) :=
  getLast?_filterMap_append levelSet? .debug xs x

/-- The notices that a run has for the client of a session, each by the level that the
    exchanges before it set; `past` are those from before the run. -/
def notices (i : Nat) (past : List (Request × Response)) (h : Host) : List Event → List Message
  | [] => []
  | e :: es =>
    (e.notice? i (wantedLevel past)).toList ++
      notices i (past ++ (h.exchange? i e).toList) (h.step e) es

end Host

/-- What a request makes of the level of its session is what the exchange says. -/
theorem Server.Leaves.logLevel_eq {server : Server} {s : Session} {r : Request}
    {x : Served (Outcome Failure Json)} (hleaves : server.Leaves s r x) :
    x.session.logLevel =
      (Host.levelSet? (r, respond r.id x.value)).getD s.logLevel := by
  cases hleaves with
  | nothing hmethod hsession =>
    rw [hsession]
    cases hx : x.value with
    | returned result =>
      have hother : r.method ≠ Route.setLevel.method := fun hr =>
        hmethod result hx (hr ▸ by decide)
      rw [Host.levelSet?_of_other _ hother, Option.getD_none]
    | failed | crashed => rfl
  | client hintroduces =>
    rw [Host.levelSet?_of_other _ (hintroduces.method ▸ by decide), Option.getD_none]
  | logLevel hmethod hp =>
    have hset (result : Json) : Host.levelSet? (r, respond r.id (.returned result)) = r.level? :=
      rfl
    rw [hset, Request.level?, if_pos hmethod, hp, Option.getD_some]
  | subscribed hmethod | unsubscribed hmethod =>
    rw [Host.levelSet?_of_other _ (hmethod ▸ by decide), Option.getD_none]

/-- The notice of a change to a family is none for a log. -/
theorem isLog_of_notice? {c : ServerCapabilities} {f : Family} {method : String}
    (hmethod : f.notice? c = some method) :
    Message.isLog (.notification { method }) = false := by
  cases f <;>
    simp only [Family.notice?, Option.ite_none_right_eq_some, Option.some.injEq] at hmethod
  all_goals
    rw [← hmethod.2]
    rfl

/-! ## What goes over a link -/

/-- The session is as it was, but that these notices went over its link, if that is open. -/
structure Session.Gets (notices : List Message) (s s' : Session) : Prop where
  logLevel : s'.logLevel = s.logLevel
  fault : s'.link.fault = s.link.fault
  queue : s'.link.isOpen = true → s.link.isOpen = true ∧
    s'.link.queue.filter Message.isLog = s.link.queue.filter Message.isLog ++ notices

namespace Session.Gets

variable {s s' s'' : Session} {ns ns' : List Message}

theorem of_eq (hlevel : s'.logLevel = s.logLevel) (hlink : s'.link = s.link) : Gets [] s s' where
  logLevel := hlevel
  fault := by rw [hlink]
  queue hopen := by
    rw [hlink] at hopen ⊢
    exact ⟨hopen, (List.append_nil _).symm⟩

theorem of_closed (hlevel : s'.logLevel = s.logLevel) (hfault : s'.link.fault = s.link.fault)
    (hclosed : s'.link.isOpen = false) : Gets ns s s' where
  logLevel := hlevel
  fault := hfault
  queue hopen := absurd (hclosed.symm.trans hopen) Bool.false_ne_true

theorem trans (hs : Gets ns s s') (hs' : Gets ns' s' s'') : Gets (ns ++ ns') s s'' where
  logLevel := hs'.logLevel.trans hs.logLevel
  fault := hs'.fault.trans hs.fault
  queue hopen := by
    obtain ⟨hopen', hqueue'⟩ := hs'.queue hopen
    obtain ⟨hopen, hqueue⟩ := hs.queue hopen'
    exact ⟨hopen, by rw [hqueue', hqueue, List.append_assoc]⟩

/-- A message that is sent is a notice or it is not. -/
theorem told (hfault : s.link.fault = none) (m : Message) :
    Gets (if m.isLog then [m] else []) s (s.told none m) := by
  cases hopen : s.link.isOpen with
  | false =>
    rw [told_of_closed hopen]
    exact of_closed rfl rfl hopen
  | true =>
    have hsent : (s.link.send none m).2 = { s.link with queue := s.link.queue ++ [m] } := by
      rw [Link.send_of_room hopen hfault rfl]
    refine ⟨rfl, by rw [Session.told, hsent], fun _ => ⟨hopen, ?_⟩⟩
    rw [Session.told, hsent]
    dsimp only
    rw [List.filter_append]
    congr 1
    cases hm : m.isLog <;> simp [hm]

end Session.Gets

namespace Host

variable {h h' : Host} {i j : Nat} {s : Session} {m : Message} {e : Event} {c : Closing}
  {ns : List Message}

/-- What shows of a session in the log of its client, and what its link is carried over. -/
def line (i : Nat) (h : Host) : Medium × Option (LoggingLevel × Link) :=
  (h.medium, (h.view fun s => (s.logLevel, s.link))[i]?)

theorem line_put {t t' : Session} (ht : h.sessions[j]? = some t)
    (hlevel : t'.logLevel = t.logLevel) (hlink : t'.link = t.link) :
    (h.put j t').line i = h.line i :=
  congrArg (fun view => (h.medium, view[i]?)) (view_put_eq ht (Prod.ext hlevel hlink))

theorem blindToWaiting_line : BlindToWaiting (line i) where
  pending _ _ _ _ ht := line_put ht rfl rfl
  issued _ _ := rfl
  now _ _ := rfl
  settled _ _ := rfl

/-- The session of that number is left with these notices for its client, and messages are
    carried over a medium that always has room. -/
structure Gets (i : Nat) (s : Session) (ns : List Message) (h' : Host) : Prop where
  roomy : h'.medium.capacity? = none
  session : ∃ s', h'.sessions[i]? = some s' ∧ s.Gets ns s'

theorem gets_self (hc : h.medium.capacity? = none) (hs : h.sessions[i]? = some s) :
    Gets i s [] h :=
  ⟨hc, s, hs, .of_eq rfl rfl⟩

namespace Gets

variable (hh : Gets i s ns h)

include hh

theorem roomy_of (hc : h'.constants = h.constants) : h'.medium.capacity? = none :=
  (congrArg Medium.capacity? (medium_of_constants hc)).trans hh.roomy

theorem of_line (hline : h'.line i = h.line i) : Gets i s ns h' := by
  obtain ⟨s', hs', hgets⟩ := hh.session
  obtain ⟨hmedium, hview⟩ := Prod.mk.inj hline
  rw [view_getElem?, view_getElem?, hs', Option.map_some, Option.map_eq_some_iff] at hview
  obtain ⟨s'', hs'', hsame⟩ := hview
  obtain ⟨hlevel, hlink⟩ := Prod.mk.inj hsame
  have hboth := hgets.trans (.of_eq hlevel hlink)
  rw [List.append_nil] at hboth
  exact ⟨hmedium ▸ hh.roomy, s'', hs'', hboth⟩

/-- What happens to another session makes no difference. -/
theorem of_ne (hc : h'.constants = h.constants) (hs : h'.sessions[i]? = h.sessions[i]?) :
    Gets i s ns h' := by
  refine hh.of_line ?_
  rw [line, line, view_getElem?, view_getElem?, hs, medium_of_constants hc]

theorem change {f : Session → Session} (hf : ∀ s, (f s).logLevel = s.logLevel)
    (hlink : ∀ s, (f s).link = s.link) : Gets i s ns (h.change j f) :=
  hh.of_line (change_frame fun _ ht => line_put ht (hf _) (hlink _))

/-! ### The end of a link -/

theorem close : Gets i s ns (h.close j c) := by
  obtain ⟨s', hs', hgets⟩ := hh.session
  by_cases hij : j = i
  · subst hij
    by_cases hstate : s'.state = .closed
    · rw [close_of_closed hs' hstate]
      exact hh
    · refine ⟨hh.roomy_of constants_close, _, getElem?_close hs' hstate, ?_⟩
      refine .of_closed hgets.logLevel ?_ (s'.link.close_isOpen c)
      exact (s'.link.close_fault c).trans hgets.fault
  · exact hh.of_ne constants_close (close_ne hij)

theorem closeAll : Gets i s ns (h.closeAll c) :=
  List.foldlRecOn _ _ (motive := Gets i s ns) hh fun _ hh _ _ => hh.close

theorem closeLink : Gets i s ns (h.closeLink j c) := by
  obtain ⟨s', hs', hgets⟩ := hh.session
  by_cases hij : j = i
  · subst hij
    refine ⟨hh.roomy_of blindToUse_constants.closeLink, _, getElem?_closeLink hs', ?_⟩
    refine .of_closed hgets.logLevel ?_ (s'.link.close_isOpen c)
    exact (s'.link.close_fault c).trans hgets.fault
  · exact hh.of_ne blindToUse_constants.closeLink (closeLink_ne hij)

/-! ### Sending -/

variable (hfault : s.link.fault = none)

include hfault

theorem send (j : Nat) (m : Message) :
    Gets i s (ns ++ if j = i ∧ m.isLog then [m] else []) (h.send j m).2 := by
  obtain ⟨s', hs', hgets⟩ := hh.session
  by_cases hij : j = i
  · subst hij
    have htold := Session.Gets.told (hgets.fault.trans hfault) m
    refine ⟨hh.roomy_of blindToUse_constants.send, s'.told none m, ?_, ?_⟩
    · rw [getElem?_send_map, hs', Option.map_some, hh.roomy]
    · simpa using hgets.trans htold
  · have hsame := hh.of_ne blindToUse_constants.send (send_ne (m := m) hij)
    simpa [hij] using hsame

/-- What is no notice makes no difference. -/
theorem send_other (hm : m.isLog = false) : Gets i s ns (h.send j m).2 := by
  simpa [hm] using hh.send hfault j m

theorem sendEach_other (hm : m.isLog = false) (is : List Nat) :
    Gets i s ns (h.sendEach is m) :=
  List.foldlRecOn _ _ (motive := Gets i s ns) hh fun _ hh _ _ => hh.send_other hfault hm

theorem announce {f : Family} : Gets i s ns (h.announce f) := by
  rw [Host.announce]
  split
  · next method hmethod =>
    exact hh.sendEach_other hfault (isLog_of_notice? hmethod) _
  · exact hh

theorem resourceChanged {uri : String} : Gets i s ns (h.resourceChanged uri) := by
  rw [resourceChanged_eq]
  have hkept : Gets i s ns (h.withSubscriptions (h.prunedSubscriptions uri)) :=
    hh.of_ne rfl rfl
  exact hkept.sendEach_other hfault rfl _

theorem reject {fault : ParseFault} : Gets i s ns (h.reject j fault).2 := by
  rw [Host.reject]
  split
  · exact hh
  · exact hh.send_other hfault rfl

theorem request {method : String} {params : Option Json} {waiter : Waiter} :
    Gets i s ns (h.request j method params waiter).2 := by
  rw [Host.request]
  split
  · exact hh
  · split
    · exact hh
    · have hsent := hh.send_other (j := j) hfault (m := .request
        { id := .text (h.naming.request h.issued), method, params }) rfl
      dsimp only
      split
      · next hsend =>
        rw [hsend] at hsent
        exact hsent
      · next h' hsend =>
        rw [hsend] at hsent
        refine hsent.of_line (blindToWaiting_line.expire.trans ?_)
        refine (blindToWaiting_line.issued _ _).trans (change_frame fun t ht => ?_)
        exact blindToWaiting_line.pending h' j t _ ht

theorem listRoots : Gets i s ns (h.listRoots j).2 := by
  rw [Host.listRoots]
  split
  · split
    · exact hh.request hfault
    · exact hh
  · exact hh

theorem createMessage {r : CreateMessageRequest} : Gets i s ns (h.createMessage j r).2 := by
  rw [Host.createMessage]
  split
  · split
    · exact hh.request hfault
    · exact hh
  · exact hh

theorem removeComponent {f : Family} {key : String} :
    Gets i s ns (h.removeComponent f key).2 := by
  have hgone : Gets i s ns (h.uninstall f key).2 := hh.of_ne rfl rfl
  rw [Host.removeComponent]
  dsimp only
  split
  · exact hgone.announce hfault
  · exact hgone

/-- A log message is sent if it is as severe as the client wants it. -/
theorem log (hs : h.sessions[i]? = some s) {m : LoggingMessageNotification} :
    Gets i s (ns ++ if j = i ∧ s.logLevel ≤ m.level then [m.notice] else []) (h.log j m).2 := by
  have hsent := hh.send hfault j m.notice
  rw [Host.log]
  by_cases hij : j = i
  · subst hij
    rw [if_pos ⟨rfl, rfl⟩] at hsent
    simp only [hs, true_and]
    split
    · exact hsent
    · rwa [List.append_nil]
  · simp only [hij, false_and, if_false, List.append_nil] at hsent ⊢
    split
    · exact hh
    · split
      · exact hsent
      · exact hh

end Gets

/-- What all live sessions are told, the session is told. -/
theorem Enrolled.gets_broadcast (he : h.Enrolled) (hc : h.medium.capacity? = none)
    (hs : h.sessions[i]? = some s) (hfault : s.link.fault = none) (method : String)
    (params : Option Json) :
    Gets i s (if Message.isLog (.notification { method, params }) then
      [.notification { method, params }] else []) (h.broadcast method params) := by
  refine ⟨(gets_self hc hs).roomy_of blindToUse_constants.broadcast, s.told none _, ?_,
    .told hfault _⟩
  rw [he.getElem?_broadcast, hs, Option.map_some, hc]

/-! ## Events one by one -/

/-- What an event makes of a session: its level follows the exchange of the event, if there
    is one that sets it, and its client has the notice of the event, if there is one for it
    at the level before. -/
structure Tells (h : Host) (i : Nat) (e : Event) (s s' : Session) : Prop where
  logLevel : s'.logLevel = ((h.exchange? i e).bind levelSet?).getD s.logLevel
  fault : s'.link.fault = s.link.fault
  queue : s'.link.isOpen = true → s.link.isOpen = true ∧
    (h.read i e ++ s'.link.queue).filter Message.isLog =
      s.link.queue.filter Message.isLog ++ (e.notice? i s.logLevel).toList

/-- An event that the session takes nothing by, and that its client reads nothing by. -/
theorem tells_of_gets (ht : h.taken? i e = none) (hread : h.read i e = [])
    (hh : Gets i s (e.notice? i s.logLevel).toList (h.step e)) :
    ∃ s', (h.step e).sessions[i]? = some s' ∧ h.Tells i e s s' := by
  obtain ⟨s', hs', hgets⟩ := hh.session
  refine ⟨s', hs', ?_, hgets.fault, ?_⟩
  · rw [exchange?, ht]
    exact hgets.logLevel
  · rw [hread]
    exact hgets.queue

/-- An event that the session takes a request by. -/
theorem tells_of_taken {r : Request} (hs : h.sessions[i]? = some s) (ht : h.taken? i e = some r)
    (hread : h.read i e = []) (hnotice : e.notice? i s.logLevel = none)
    (hh : Gets i (h.server.answer s r).session [] (h.step e)) :
    ∃ s', (h.step e).sessions[i]? = some s' ∧ h.Tells i e s s' := by
  have hlink : (h.server.answer s r).session.link = s.link := link_perform
  obtain ⟨s', hs', hgets⟩ := hh.session
  refine ⟨s', hs', ?_, hlink ▸ hgets.fault, ?_⟩
  · rw [exchange?_of_session hs, ht, hgets.logLevel]
    exact (h.server.perform_leaves s r).logLevel_eq
  · rw [hread, hnotice, ← hlink]
    exact hgets.queue

/-- A message of the client. -/
theorem tells_deliver (hc : h.medium.capacity? = none) (hs : h.sessions[i]? = some s)
    (hfault : s.link.fault = none) (m : Message) :
    ∃ s', (h.step (.deliver i m)).sessions[i]? = some s' ∧ h.Tells i (.deliver i m) s s' := by
  have hself : Gets i s [] h := gets_self hc hs
  by_cases hstate : s.state = .closed
  · refine tells_of_gets ?_ rfl ?_
    · cases m <;> simp [taken?, hs, hstate]
    · rw [step, deliver_of_closed hs hstate]
      exact hself
  · cases m with
    | request r =>
      have ht : h.taken? i (.deliver i (.request r)) = some r := by simp [taken?, hs, hstate]
      refine tells_of_taken hs ht rfl rfl ?_
      have hanswered : Gets i (h.server.answer s r).session [] (h.answer i r).2 :=
        gets_self (hself.roomy_of constants_answer) (getElem?_answer hs)
      have hlink : (h.server.answer s r).session.link = s.link := link_perform
      simp only [step, deliver, hs, if_neg hstate, takeRequest_of_session hs]
      exact hanswered.send_other (hlink ▸ hfault) rfl
    | notification n =>
      refine tells_of_gets rfl rfl ?_
      simp only [step, deliver, hs, if_neg hstate, takeNotification]
      split
      · exact hself.change (fun _ => rfl) fun _ => rfl
      · split
        · exact hself.close
        · exact hself
    | response r =>
      refine tells_of_gets rfl rfl ?_
      simp only [step, deliver, hs, if_neg hstate]
      exact hself.of_line blindToWaiting_line.takeResponse

/-- What the client reads is what it finds in its queue. -/
theorem tells_collect (hs : h.sessions[i]? = some s) :
    ∃ s', (h.step (.collect i)).sessions[i]? = some s' ∧ h.Tells i (.collect i) s s' := by
  have hcollect : h.collect i = (s.link.queue, h.put i { s with link := s.link.collect.2 }) := by
    simp only [collect, hs]
    rfl
  refine ⟨{ s with link := s.link.collect.2 }, ?_, rfl, rfl, fun hopen => ⟨hopen, ?_⟩⟩
  · rw [step, hcollect, getElem?_put hs, if_pos rfl]
  · rw [read, if_pos rfl, hcollect]
    have hemptied : s.link.queue ++ s.link.collect.2.queue = s.link.queue := List.append_nil _
    exact (congrArg (List.filter Message.isLog) hemptied).trans (List.append_nil _).symm

/-- Every event, in a session that is there and whose client can be reached. -/
theorem step_tells (hh : h.Enrolled) (hc : h.medium.capacity? = none)
    (hs : h.sessions[i]? = some s) (hfault : s.link.fault = none)
    (he : e.sparesClient i = true) :
    ∃ s', (h.step e).sessions[i]? = some s' ∧ h.Tells i e s s' := by
  have hself : Gets i s [] h := gets_self hc hs
  cases e with
  | deliver j m =>
    by_cases hij : j = i
    · subst hij
      exact tells_deliver hc hs hfault m
    · refine tells_of_gets ?_ rfl (hself.of_ne constants_deliver (deliver_ne hij))
      cases m <;> simp [taken?, hij]
  | answer j r =>
    by_cases hij : j = i
    · subst hij
      exact tells_of_taken hs (if_pos rfl) rfl rfl
        (gets_self (hself.roomy_of constants_answer) (getElem?_answer hs))
    · exact tells_of_gets (if_neg hij) rfl (hself.of_ne constants_answer (answer_ne hij))
  | collect j =>
    by_cases hij : j = i
    · subst hij
      exact tells_collect hs
    · exact tells_of_gets rfl (if_neg hij)
        (hself.of_ne blindToUse_constants.collect (collect_ne hij))
  | send j m =>
    refine tells_of_gets rfl rfl ?_
    rw [Event.notice?, apply_ite Option.toList]
    exact hself.send hfault j m
  | log j m =>
    refine tells_of_gets rfl rfl ?_
    rw [Event.notice?, apply_ite Option.toList]
    exact hself.log hfault hs
  | broadcast method params =>
    refine tells_of_gets rfl rfl ?_
    rw [Event.notice?, apply_ite Option.toList]
    simpa [Message.isLog, step] using hh.gets_broadcast hc hs hfault method params
  | connect =>
    refine tells_of_gets rfl rfl (hself.of_ne rfl ?_)
    have hne : h.sessions.length ≠ i := Nat.ne_of_gt (List.getElem?_eq_some_iff.1 hs).1
    rw [step, getElem?_connect, if_neg hne]
  | setLogLevel j | hangUp j | setFault j =>
    have hij : j ≠ i := of_decide_eq_true he
    exact tells_of_gets rfl rfl (hself.of_ne (change_frame fun _ _ => rfl) (change_ne hij))
  | reject => exact tells_of_gets rfl rfl (hself.reject hfault)
  | request => exact tells_of_gets rfl rfl (hself.request hfault)
  | listRoots => exact tells_of_gets rfl rfl (hself.listRoots hfault)
  | createMessage => exact tells_of_gets rfl rfl (hself.createMessage hfault)
  | resourceChanged => exact tells_of_gets rfl rfl (hself.resourceChanged hfault)
  | addComponent c =>
    have hadded : Gets i s [] (h.install c) := hself.of_ne rfl rfl
    exact tells_of_gets rfl rfl (hadded.announce hfault)
  | removeComponent => exact tells_of_gets rfl rfl (hself.removeComponent hfault)
  | close => exact tells_of_gets rfl rfl hself.close
  | closeAll => exact tells_of_gets rfl rfl hself.closeAll
  | closeLink => exact tells_of_gets rfl rfl hself.closeLink
  | release j =>
    have hreleased : Gets i s [] (h.change j fun s => { s with isReleased := true }) :=
      hself.change (fun _ => rfl) fun _ => rfl
    exact tells_of_gets rfl rfl (hreleased.of_line blindToWaiting_line.bury)
  | advance => exact tells_of_gets rfl rfl (hself.of_line blindToWaiting_line.advance)
  | subscribe j uri =>
    refine tells_of_gets rfl rfl (hself.of_ne blindToUse_constants.subscribe ?_)
    rw [step, Host.subscribe]
    split <;> rfl
  | install | uninstall | callTool | readResource | getPrompt | unsubscribe | collectSettled =>
    exact tells_of_gets rfl rfl (hself.of_ne rfl rfl)

/-! ## Runs -/

/-- Along a run the notices of the client are those that it is due: what it finds in its
    queue before the run, and then one after the other. -/
theorem received_log {past : List (Request × Response)} {es : List Event} (hh : h.Enrolled)
    (hc : h.medium.capacity? = none) (hs : h.sessions[i]? = some s)
    (hfault : s.link.fault = none) (hlevel : s.logLevel = wantedLevel past)
    (hes : ∀ e ∈ es, e.sparesClient i = true) (hopen : (h.run es).isLinked i = true) :
    s.link.isOpen = true ∧ (h.received i es).filter Message.isLog =
      s.link.queue.filter Message.isLog ++ notices i past h es := by
  induction es generalizing h s past with
  | nil =>
    rw [isLinked, run, List.foldl_nil, hs] at hopen
    refine ⟨hopen, ?_⟩
    simp only [received, collect, hs, notices, List.append_nil]
    rfl
  | cons e es ih =>
    obtain ⟨he, hes⟩ := List.forall_mem_cons.1 hes
    obtain ⟨s', hs', htells⟩ := step_tells hh hc hs hfault he
    have hlevel' : s'.logLevel = wantedLevel (past ++ (h.exchange? i e).toList) := by
      rw [htells.logLevel, hlevel, wantedLevel_append]
    have hc' : (h.step e).medium.capacity? = none :=
      (congrArg Medium.capacity? (medium_of_constants (constants_step e))).trans hc
    obtain ⟨hopen', hrest⟩ := ih (hh.step e) hc' hs' (htells.fault.trans hfault) hlevel' hes hopen
    obtain ⟨hopen, hqueue⟩ := htells.queue hopen'
    refine ⟨hopen, ?_⟩
    rw [received, notices, List.filter_append, hrest, ← List.append_assoc, ← List.filter_append,
      hqueue, hlevel, List.append_assoc]

end Host

theorem LoggingMessageNotification.decode_encode (m : LoggingMessageNotification) :
    decodeParams shape (some (shape.encode m)) = .ok m := by
  have hwf : shape.isWellFormed = true := by decide +kernel
  have hplain : shape.isPlain m = true := by
    cases m with
    | mk level logger data => cases logger <;> rfl
  rw [decodeParams, Option.getD_some, shape.roundTrips hwf false m hplain]

namespace Host

/-- **Log messages.** Whatever happens to a session that a client opened, as long as its link
    is open: the client gets a notice for its log for just those log messages that are at
    least as severe as the level that its last request for one, of those that succeeded, did
    set, or for all of them if there was none, in their order. The notice carries the log
    message. (What is sent as such a notice without being a log message is received as it
    is.)

    That is to say that requests for a level that failed, and those of other sessions, make
    no difference, as the notices are told from the exchanges of the session alone. -/
theorem log_run (naming : Naming) (config : ServerConfig) (before es : List Event) (i : Nat)
    (h : Host) (hconnect : ((start .memory naming config).run before).connect = (i, h))
    (hes : ∀ e ∈ es, e.sparesClient i = true) (hopen : (h.run es).isLinked i = true) :
    (h.received i es).filter Message.isLog = notices i [] h es ∧
      ∀ m : LoggingMessageNotification, ∃ params,
        m.notice = .notification { method := "notifications/message", params := some params } ∧
          decodeParams LoggingMessageNotification.shape (some params) = .ok m := by
  refine ⟨?_, fun m => ⟨_, rfl, m.decode_encode⟩⟩
  obtain ⟨rfl, rfl⟩ := Prod.mk.inj hconnect
  have hopened : ((start .memory naming config).run before).Enrolled := enrolled_run before
  have hroomy : ((start .memory naming config).run before).medium.capacity? = none :=
    congrArg Medium.capacity? (medium_of_constants (constants_run before))
  have hnew := getElem?_connect (h := (start .memory naming config).run before)
    ((start .memory naming config).run before).sessions.length
  rw [if_pos rfl] at hnew
  exact (received_log hopened.connect hroomy hnew rfl rfl hes hopen).2

/-- Of the requests for a level, one comes too early, one names no level and one is that of
    another client; the one that is left counts. -/
theorem log_run_levels :
    let config : ServerConfig :=
      { info := ⟨"server", "1"⟩, capabilities := { logging := some {} } }
    let naming := Naming.numbered "session-" "request-" ""
    let h := ((start .memory naming config).run [.connect]).connect.2
    let introduced (i : Nat) : Event := .deliver i (.request
      { id := .number 0, method := Method.opening, params := some (.object
        [("clientInfo", .object [("name", .string "client"), ("version", .string "1")]),
          ("protocolVersion", .string "2024-11-05")]) })
    let asked (i : Nat) (level : String) : Event := .deliver i (.request
      { id := .number 1, method := "logging/setLevel"
        params := some (.object [("level", .string level)]) })
    let message (level : LoggingLevel) (text : String) : LoggingMessageNotification :=
      { level, logger := some "db", data := .string text }
    let es : List Event := [asked 1 "error", .log 1 (message .debug "early"), introduced 0,
      introduced 1, asked 1 "warning", .log 1 (message .info "quiet"), asked 1 "loudest",
      asked 0 "debug", .log 1 (message .notice "quiet"), .collect 1,
      .log 1 (message .error "loud")]
    (h.received 1 es).filter Message.isLog =
      [(message .debug "early").notice, (message .error "loud").notice] := by
  intro config naming h introduced asked message es
  have hes : ∀ e ∈ es, e.sparesClient 1 = true := by decide
  have hopen : (h.run es).isLinked 1 = true := by decide +kernel
  have hlogged := (log_run naming config [.connect] es 1 h rfl hes hopen).1
  exact hlogged.trans (by decide +kernel)

end Host

end ContextServer
