import ContextServer.Proofs.Host.Reply
import ContextServer.Proofs.Text.Framing
import ContextServer.Stdio

/-!
# One answer for every question

A server on the standard streams answers every question among the lines of its
input, in their order, with one line of its output each, up to the line that ends
the session (`Stdio.answers_in_order`).

The end of the session and the next line of the input may race: the loop that reads
the input can go on for a while before it sees that the session is over. So its
runs are a relation (`Stdio.Reads`), in which a line can be taken at any time. All of
them write the same, as a session that is over takes nothing and its link neither
(`Stdio.reads_over`), and the run that stops at once is one of them
(`Stdio.reads_foldl`).
-/

namespace ContextServer

namespace Stdio

/-! ## Lines -/

/-- The lines of bytes that come after those of an unfinished line. -/
def linesFrom (unfinished : ByteArray) : List UInt8 → List ByteArray
  | [] => if unfinished.isEmpty then [] else [unfinished]
  | b :: bs =>
    if b = 0x0A then unfinished :: linesFrom .empty bs else linesFrom (unfinished.push b) bs

/-- The lines of an input. The last one needs no line feed. -/
def linesOf (input : ByteArray) : List ByteArray := linesFrom .empty input.toList

/-- The texts of lines without the white space around them, up to the first line that is
    not UTF-8. -/
def texts : List ByteArray → List String
  | [] => []
  | line :: lines =>
    match Utf8.decode line with
    | .ok text => Text.trim text :: texts lines
    | .error _ => []

/-- The questions that texts ask, up to the text that ends the session. -/
def questions (texts : List String) : List Question :=
  (texts.takeWhile fun text => !Message.endsSession text).filterMap Question.ofText?

/-- The text that ends the session asks nothing. -/
theorem ofText?_of_ends {text : String} (h : Message.endsSession text = true) :
    Question.ofText? text = none := by
  unfold Message.endsSession at h
  unfold Question.ofText?
  split at h
  · next n ht => rw [ht]
  · cases h

theorem questions_cons_of_ends {text : String} (h : Message.endsSession text = true)
    (texts : List String) : questions (text :: texts) = [] := by
  rw [questions, List.takeWhile_cons, h]
  rfl

theorem questions_cons {text : String} (h : Message.endsSession text = false)
    (texts : List String) :
    questions (text :: texts) = (Question.ofText? text).toList ++ questions texts := by
  rw [questions, List.takeWhile_cons, h]
  cases hq : Question.ofText? text with
  | none => exact List.filterMap_cons_none hq
  | some q => exact List.filterMap_cons_some hq

/-! ## The loop -/

/-- What a line does to the host. -/
def hear (line : ByteArray) (h : Host) : Host :=
  match Utf8.decode line with
  | .error _ => h.close client .abrupt
  | .ok text =>
    if (Text.trim text).isEmpty then h else h.deliverText client (Text.trim text)

/-- The link to the client is open. -/
def linkIsOpen (h : Host) : Bool := h.sessions[client]?.all fun s => s.link.isOpen

/-- The runs of the loop that reads lines, up to its end, which ends the session. -/
inductive Reads : Host → List ByteArray → Host → Prop
  /-- The input is at its end. -/
  | ended {h : Host} : Reads h [] (h.close client .abrupt)
  /-- The loop sees that the link is closed. -/
  | stopped {h : Host} {lines : List ByteArray} :
      linkIsOpen h = false → Reads h lines (h.close client .abrupt)
  /-- The line is not UTF-8. -/
  | undecodable {h : Host} {line : ByteArray} {lines : List ByteArray} {fault : Utf8Fault} :
      Utf8.decode line = .error fault → Reads h (line :: lines) (h.close client .abrupt)
  /-- The line is taken. -/
  | taken {h h' : Host} {line : ByteArray} {lines : List ByteArray} {text : String} :
      Utf8.decode line = .ok text → Reads (hear line h) lines h' → Reads h (line :: lines) h'

variable {h h' : Host} {queue : List Message}

/-- The session is up, and the messages are in its queue. -/
def Up (h : Host) (queue : List Message) : Prop :=
  h.medium = .pipe ∧ ∃ s, h.sessions[client]? = some s ∧ s.IsUp ∧ s.link.queue = queue

/-- The session is over, and the messages are in its queue. -/
def Over (h : Host) (queue : List Message) : Prop :=
  ∃ s, h.sessions[client]? = some s ∧ s.IsOver ∧ s.link.queue = queue

theorem linkIsOpen_of_up (hup : Up h queue) : linkIsOpen h = true := by
  obtain ⟨-, s, hs, hup, -⟩ := hup
  rw [linkIsOpen, hs, Option.all_some, hup.link]

theorem linkIsOpen_of_over (hover : Over h queue) : linkIsOpen h = false := by
  obtain ⟨s, hs, hover, -⟩ := hover
  rw [linkIsOpen, hs, Option.all_some, hover.link]

theorem over_close_of_up (hup : Up h queue) : Over (h.close client .abrupt) queue := by
  obtain ⟨-, s, hs, hup, hqueue⟩ := hup
  exact ⟨_, Host.getElem?_close hs hup.state, ⟨rfl, rfl⟩, hqueue⟩

theorem close_of_over (hover : Over h queue) : h.close client .abrupt = h := by
  obtain ⟨s, hs, hover, -⟩ := hover
  exact Host.close_of_closed hs hover.state

theorem hear_over (hover : Over h queue) (line : ByteArray) : Over (hear line h) queue := by
  rw [hear]
  split
  · rw [close_of_over hover]
    exact hover
  · split
    · exact hover
    · obtain ⟨s, hs, hover, hqueue⟩ := hover
      exact ⟨s, Host.deliverText_over hs hover _, hover, hqueue⟩

/-- Once the session is over, no run of the loop writes anything. -/
theorem reads_over {lines : List ByteArray} (hr : Reads h lines h') (hover : Over h queue) :
    Over h' queue := by
  induction hr with
  | ended | stopped | undecodable =>
    rw [close_of_over hover]
    exact hover
  | taken _ _ ih => exact ih (hear_over hover _)

/-- An empty line asks nothing. -/
theorem ofText?_empty : Question.ofText? "" = none := rfl

theorem endsSession_empty : Message.endsSession "" = false := rfl

/-- What a line does while the session is up. -/
theorem hear_up {line : ByteArray} {text : String} (hup : Up h queue)
    (hd : Utf8.decode line = .ok text) :
    ∃ answered : List (Question × Response),
      answered.map Prod.fst = (Question.ofText? (Text.trim text)).toList ∧
      (∀ x ∈ answered, x.2.Answers x.1) ∧
      (Message.endsSession (Text.trim text) = true →
        Over (hear line h) (queue ++ answered.map fun x => .response x.2)) ∧
      (Message.endsSession (Text.trim text) = false →
        Up (hear line h) (queue ++ answered.map fun x => .response x.2)) := by
  cases hblank : (Text.trim text).isEmpty with
  | true =>
    -- The loop leaves the line out; if it did not, it would ask nothing either.
    have hhear : hear line h = h := by simp only [hear, hd, hblank, if_true]
    have hempty : Text.trim text = "" := String.isEmpty_iff.1 hblank
    rw [hhear, hempty, ofText?_empty, endsSession_empty]
    refine ⟨[], rfl, List.forall_mem_nil _, fun hn => absurd hn Bool.false_ne_true, fun _ => ?_⟩
    rw [List.map_nil, List.append_nil]
    exact hup
  | false =>
    have hhear : hear line h = h.deliverText client (Text.trim text) := by
      simp only [hear, hd, hblank, Bool.false_eq_true, if_false]
    obtain ⟨hm, s, hs, hup, rfl⟩ := hup
    have hroom : s.link.isFull h.medium.capacity? = false := by rw [hm]; rfl
    have hm' : (h.deliverText client (Text.trim text)).medium = .pipe :=
      (Host.medium_of_constants Host.constants_deliverText).trans hm
    obtain ⟨s', answered, hs', hhears⟩ := Host.deliverText_up hs hup hroom (Text.trim text)
    rw [hhear]
    refine ⟨answered, hhears.question, hhears.answers, fun hends => ?_, fun hends => ?_⟩
    · exact ⟨s', hs', hhears.ended hends, hhears.queue⟩
    · exact ⟨hm', s', hs', hhears.up hends, hhears.queue⟩

section

variable {line : ByteArray} {lines : List ByteArray}

/-- Nothing is answered at a line that is not UTF-8, and the loop ends there. -/
theorem reads_undecodable {fault : Utf8Fault} (hup : Up h queue)
    (hd : Utf8.decode line = .error fault) (hr : Reads h (line :: lines) h') : Over h' queue := by
  cases hr with
  | stopped | undecodable => exact over_close_of_up hup
  | taken hok => cases hd.symm.trans hok

/-- Nothing is answered at the line that ends the session. The loop may or may not take
    the lines after it. -/
theorem reads_ending {text : String} (hup : Up h queue) (hd : Utf8.decode line = .ok text)
    (hends : Message.endsSession (Text.trim text) = true) (hr : Reads h (line :: lines) h') :
    Over h' queue := by
  obtain ⟨answered, hquestion, -, hover, -⟩ := hear_up hup hd
  have hnone : answered = [] := by
    rw [ofText?_of_ends hends] at hquestion
    exact List.map_eq_nil_iff.1 hquestion
  have hnext : Over (hear line h) queue := by simpa [hnone] using hover hends
  cases hr with
  | stopped | undecodable => exact over_close_of_up hup
  | taken _ hr => exact reads_over hr hnext

end

/-- While the session is up, all runs of the loop put the same into the queue: an answer for
    every question of the lines, in their order. -/
theorem reads_up (lines : List ByteArray) (hup : Up h queue) :
    ∃ answered : List (Question × Response),
      answered.map Prod.fst = questions (texts lines) ∧
      (∀ x ∈ answered, x.2.Answers x.1) ∧
      ∀ h', Reads h lines h' → Over h' (queue ++ answered.map fun x => .response x.2) := by
  -- By induction on the lines, for a session that is up before each of them.
  induction lines generalizing h queue with
  | nil =>
    refine ⟨[], rfl, List.forall_mem_nil _, fun h' hr => ?_⟩
    rw [List.map_nil, List.append_nil]
    cases hr with
    | ended | stopped => exact over_close_of_up hup
  | cons line lines ih =>
    cases hd : Utf8.decode line with
    | error fault =>
      have htexts : texts (line :: lines) = [] := by rw [texts, hd]
      refine ⟨[], by rw [htexts]; rfl, List.forall_mem_nil _, fun h' hr => ?_⟩
      rw [List.map_nil, List.append_nil]
      exact reads_undecodable hup hd hr
    | ok text =>
      have htexts : texts (line :: lines) = Text.trim text :: texts lines := by rw [texts, hd]
      cases hends : Message.endsSession (Text.trim text) with
      | true =>
        have hquestions : questions (texts (line :: lines)) = [] := by
          rw [htexts, questions_cons_of_ends hends]
        refine ⟨[], hquestions.symm, List.forall_mem_nil _, fun h' hr => ?_⟩
        rw [List.map_nil, List.append_nil]
        exact reads_ending hup hd hends hr
      | false =>
        obtain ⟨first, hquestion, hanswers, -, hup'⟩ := hear_up hup hd
        obtain ⟨later, hquestions, hlater, hruns⟩ := ih (hup' hends)
        refine ⟨first ++ later, ?_, List.forall_mem_append.2 ⟨hanswers, hlater⟩, fun h' hr => ?_⟩
        · rw [htexts, questions_cons hends, List.map_append, hquestions, hquestion]
        · rw [List.map_append, ← List.append_assoc]
          cases hr with
          | stopped hclosed => cases (linkIsOpen_of_up hup).symm.trans hclosed
          | undecodable hfault => cases hd.symm.trans hfault
          | taken _ hr => exact hruns h' hr

/-! ## The whole input -/

/-- A server that serves the standard streams, and has heard nothing. -/
def serving (naming : Naming) (server : Server) : Stdio :=
  { provider :=
      { medium := .pipe, naming
        host := some ({ medium := .pipe, naming, server : Host }).connect.2 } }

/-- The server that is bound first serves, with no components. -/
theorem bind_fresh (naming : Naming) (config : ServerConfig) :
    (fresh naming).bind config = .ok (serving naming { config }) := by
  have hempty : ByteArray.empty.toList = [] := by
    unfold ByteArray.toList ByteArray.toList.loop
    rfl
  simp only [fresh, Stdio.bind, Provider.bind, Bind.bind, Except.bind, hempty]
  rfl

theorem takeLine_host (s : Stdio) (line : ByteArray) :
    (s.takeLine line).provider.host = s.provider.host.map (hear line) := by
  rw [takeLine]
  cases hd : Utf8.decode line with
  | error fault =>
    refine congrArg (fun f => Option.map f s.provider.host) (funext fun h => ?_)
    simp only [hear, hd]
  | ok text =>
    dsimp only
    split
    · next hblank =>
      have hid : hear line = id := funext fun h => by simp only [hear, hd, if_pos hblank, id]
      rw [hid, Option.map_id, id]
    · next hblank =>
      refine congrArg (fun f => Option.map f s.provider.host) (funext fun h => ?_)
      simp only [hear, hd, if_neg hblank]

theorem isReading_eq {s : Stdio} (hs : s.provider.host = some h) : s.isReading = linkIsOpen h := by
  simp only [isReading, session?, hs, Option.bind_some, linkIsOpen]

theorem stop_host {s : Stdio} (hs : s.provider.host = some h) :
    s.stop.provider.host = some (h.close client .abrupt) :=
  congrArg (Option.map _) hs

/-- Once the link is closed, bytes change nothing of the host. -/
theorem foldl_takeByte_of_closed {s : Stdio} (hs : s.provider.host = some h)
    (hclosed : linkIsOpen h = false) (bytes : List UInt8) : bytes.foldl takeByte s = s := by
  induction bytes with
  | nil => rfl
  | cons b bytes ih =>
    have hb : s.takeByte b = s := by
      rw [takeByte, isReading_eq hs, hclosed]
      rfl
    rw [List.foldl_cons, hb, ih]

theorem finish_of_closed {s : Stdio} (hs : s.provider.host = some h)
    (hclosed : linkIsOpen h = false) : s.finish.provider.host = some h := by
  have hreading : ({ s with atEnd := true } : Stdio).isReading = false :=
    (isReading_eq (s := { s with atEnd := true }) hs).trans hclosed
  rw [finish, readEnd, hreading]
  simp [hs]

/-- The end of the input, while the session is up. -/
theorem finish_of_up {s : Stdio} (hs : s.provider.host = some h) (hup : Up h queue) :
    s.finish.provider.host = some
      (if s.unread.isEmpty then h.close client .abrupt
        else (hear s.unread h).close client .abrupt) := by
  have hreading : ({ s with atEnd := true } : Stdio).isReading = true :=
    (isReading_eq (s := { s with atEnd := true }) hs).trans (linkIsOpen_of_up hup)
  have htaken : (({ s with atEnd := true, unread := .empty } : Stdio).takeLine
      s.unread).provider.host = some (hear s.unread h) := by
    rw [takeLine_host, hs, Option.map_some]
  rw [finish, readEnd, hreading, hs, Bool.and_self, Option.isSome_some, Bool.and_self, if_pos rfl]
  split
  · exact stop_host hs
  · exact stop_host htaken

theorem takeLine_unread (s : Stdio) (line : ByteArray) : (s.takeLine line).unread = s.unread := by
  rw [takeLine]
  split
  · rfl
  · dsimp only
    split <;> rfl

/-- A run of the loop that finds the session over. -/
theorem reads_foldl_over (bytes : List UInt8) {s : Stdio} (hs : s.provider.host = some h)
    (hover : Over h queue) (lines : List ByteArray) :
    (bytes.foldl takeByte s).finish.provider.host = some h ∧ Reads h lines h := by
  have hclosed := linkIsOpen_of_over hover
  have hstopped : Reads h lines (h.close client .abrupt) := .stopped hclosed
  rw [foldl_takeByte_of_closed hs hclosed]
  rw [close_of_over hover] at hstopped
  exact ⟨finish_of_closed hs hclosed, hstopped⟩

/-- The end of the input, with the line before it. -/
theorem reads_finish {s : Stdio} (hs : s.provider.host = some h) (hup : Up h queue) :
    ∃ h', s.finish.provider.host = some h' ∧ Reads h (linesFrom s.unread []) h' := by
  have hfinish := finish_of_up hs hup
  rw [linesFrom]
  by_cases hempty : s.unread.isEmpty = true
  · rw [if_pos hempty] at hfinish ⊢
    exact ⟨_, hfinish, .ended⟩
  · rw [if_neg hempty] at hfinish ⊢
    refine ⟨_, hfinish, ?_⟩
    cases hd : Utf8.decode s.unread with
    | ok text => exact .taken hd .ended
    | error fault =>
      have hhear : hear s.unread h = h.close client .abrupt := by simp only [hear, hd]
      rw [hhear, close_of_over (over_close_of_up hup)]
      exact .undecodable hd

/-- The loop that stops as soon as the link is closed is a run. -/
theorem reads_foldl (bytes : List UInt8) {s : Stdio} (hs : s.provider.host = some h)
    (hup : Up h queue) :
    ∃ h', (bytes.foldl takeByte s).finish.provider.host = some h' ∧
      Reads h (linesFrom s.unread bytes) h' := by
  -- By induction on the bytes. Only a line feed brings the host to the next line.
  induction bytes generalizing s h queue with
  | nil => exact reads_finish hs hup
  | cons b bytes ih =>
    rw [List.foldl_cons, takeByte, isReading_eq hs, linkIsOpen_of_up hup, linesFrom]
    rw [Bool.not_true, if_neg Bool.false_ne_true]
    split
    · have htaken : (({ s with unread := .empty } : Stdio).takeLine s.unread).provider.host =
          some (hear s.unread h) := by
        rw [takeLine_host, hs, Option.map_some]
      have hunread := takeLine_unread { s with unread := .empty } s.unread
      cases hd : Utf8.decode s.unread with
      | error fault =>
        -- The loop ends here; the rest of the bytes is not looked at.
        have hhear : hear s.unread h = h.close client .abrupt := by simp only [hear, hd]
        rw [hhear] at htaken
        obtain ⟨hhost, -⟩ := reads_foldl_over bytes htaken (over_close_of_up hup) []
        exact ⟨_, hhost, .undecodable hd⟩
      | ok text =>
        obtain ⟨answered, -, -, hover, hup'⟩ := hear_up hup hd
        cases hends : Message.endsSession (Text.trim text) with
        | true =>
          obtain ⟨hhost, hreads⟩ := reads_foldl_over bytes htaken (hover hends)
            (linesFrom .empty bytes)
          exact ⟨_, hhost, .taken hd hreads⟩
        | false =>
          obtain ⟨h', hhost, hreads⟩ := ih htaken (hup' hends)
          rw [hunread] at hreads
          exact ⟨h', hhost, .taken hd hreads⟩
    · exact ih (s := { s with unread := s.unread.push b }) hs hup

theorem collect_of_over (hover : Over h queue) : (h.collect client).1 = queue := by
  obtain ⟨s, hs, -, hqueue⟩ := hover
  simp only [Host.collect, hs]
  exact hqueue

theorem output_of_over {s : Stdio} (hs : s.provider.host = some h) (hover : Over h queue) :
    s.output.1 = lines queue := by
  simp only [output, hs]
  exact congrArg lines (collect_of_over hover)

/-- **One answer for every question.** What a server writes while it reads an input are the
    answers to the questions among the lines of the input, in their order, up to the line
    that ends the session, each on a line of its own. It does not matter how long the loop
    that reads the lines takes to see that the session is over. -/
theorem answers_in_order (naming : Naming) (server : Server) (input : ByteArray) :
    ∃ answered : List (Question × Response),
      answered.map Prod.fst = questions (texts (linesOf input)) ∧
      (∀ x ∈ answered, x.2.Answers x.1 ∧ '\n' ∉ (Message.response x.2).line.toList) ∧
      ((serving naming server).write input).2.finish.output.1 =
        lines (answered.map fun x => .response x.2) ∧
      (∀ config, server = { config } →
        transcript naming config input = lines (answered.map fun x => .response x.2)) ∧
      ∀ h ∈ (serving naming server).provider.host, ∀ h', Reads h (linesOf input) h' →
        (h'.collect client).1 = answered.map fun x => .response x.2 := by
  have hup : Up ({ medium := .pipe, naming, server : Host }).connect.2 [] :=
    ⟨rfl, _, rfl, ⟨nofun, rfl, rfl⟩, rfl⟩
  obtain ⟨answered, hquestions, hanswers, hruns⟩ := reads_up (linesOf input) hup
  have hwrite : ((serving naming server).write input).2.finish.output.1 =
      lines (answered.map fun x => .response x.2) := by
    obtain ⟨h', hhost, hreads⟩ := reads_foldl input.toList (s := serving naming server) rfl hup
    exact output_of_over hhost (hruns h' hreads)
  refine ⟨answered, hquestions, fun x hx => ⟨hanswers x hx, ?_⟩, hwrite, ?_, ?_⟩
  · rw [Message.line, Text.escapeNewlines, String.toList_ofList]
    exact (Text.oneLine_escapeBreaks _).1
  · rintro config rfl
    rw [transcript, bind_fresh]
    exact hwrite
  · rintro h hh h' hreads
    cases hh
    exact collect_of_over (hruns h' hreads)

end Stdio

end ContextServer
