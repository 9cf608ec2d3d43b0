import ContextServer.Proofs.Http.Conversation
import ContextServer.Proofs.Server.Counterparts
import ContextServer.Proofs.Stdio.Lines

/-!
# One protocol on two transports

The standard streams and HTTP differ in how a text of the client comes in, in how it is
told that it is no message, and in what becomes of the texts after the one that ends the
session: on the standard streams they are not read, and would change nothing if they were
(`Host.deliverText_over`), and over HTTP the session is not found. None of this shows in
the messages to the client or in the session: the same texts get the same answers, one by
one, and the sessions remain counterparts (`same_protocol`).
-/

namespace ContextServer

/-- The messages that carry the answers to questions. -/
def answerMessages (answered : List (Question × Response)) : List Message :=
  answered.map fun x => .response x.2

variable {io : Stdio} {s : HttpService} {i : Nat} {h h' : Host} {a b : Session}

/-- What came of texts that the one client wrote and the other one posted. -/
structure Agreement (texts : List String) (queue : List Message) (io : Stdio)
    (talk : List (Option String) × HttpService) (i : Nat)
    (answered : List (List (Question × Response))) : Prop where
  questions : answered.flatten.map Prod.fst = Stdio.questions texts
  answers : ∀ x ∈ answered.flatten, x.2.Answers x.1
  /-- After each of its posts the one client reads the answers to the text. -/
  read : talk.1 = answered.map fun xs => some (HttpService.messageEvents (answerMessages xs))
  /-- The answers wait for the other client, and the sessions are at one point. -/
  counterparts : ∃ h h' a b, io.provider.host = some h ∧ talk.2.host? = some h' ∧
    h.sessions[Stdio.client]? = some a ∧ h'.sessions[i]? = some b ∧
    a.link.queue = queue ++ answerMessages answered.flatten ∧ Counterparts h.server a h'.server b

section

variable {text : String} {texts : List String}

/-- A text that does not end the session, and those after it. -/
theorem Agreement.cons {queue : List Message} {s₁ : HttpService} {id : String}
    {first : List (Question × Response)} {later : List (List (Question × Response))}
    (hends : Message.endsSession text = false)
    (hquestion : first.map Prod.fst = (Question.ofText? text).toList)
    (hanswers : ∀ x ∈ first, x.2.Answers x.1)
    (hexchange : s.exchange i id text =
      (some (HttpService.messageEvents (answerMessages first)), s₁))
    (ha : Agreement texts (queue ++ answerMessages first) io (s₁.talk i id texts) i later) :
    Agreement (text :: texts) queue io (s.talk i id (text :: texts)) i (first :: later) where
  questions := by
    rw [List.flatten_cons, List.map_append, hquestion, ha.questions, Stdio.questions_cons hends]
  answers := List.forall_mem_append.2 ⟨hanswers, ha.answers⟩
  read := by
    rw [List.map_cons, ← ha.read]
    simp only [HttpService.talk, hexchange]
  counterparts := by
    obtain ⟨h, h', a, b, hhost, hhost', hfound, hfound', hqueue, hc⟩ := ha.counterparts
    refine ⟨h, h', a, b, hhost, ?_, hfound, hfound', ?_, hc⟩
    · simpa only [HttpService.talk, hexchange] using hhost'
    · rw [hqueue, List.append_assoc, List.flatten_cons, answerMessages, answerMessages,
        answerMessages, List.map_append]

variable (hio : io.Attends h a) (hs : s.Attends i h' b)
  (hc : Counterparts h.server a h'.server b) (hf : h.server.registry.IsForgetful)

include hio hs hc hf

/-- The text that ends the sessions. -/
theorem agreement_over (hends : Message.endsSession text = true) (bytes : List UInt8) :
    Agreement (text :: texts) a.link.queue
      (bytes.foldl Stdio.takeByte (io.onHost fun h => h.deliverText Stdio.client text))
      (s.talk i b.id (text :: texts)) i ([] :: texts.map fun _ => []) := by
  obtain ⟨s₁, h₁, hexchange, hended, hserver⟩ := hs.exchange_over hends
  have hid : (h'.server.hear b text).session.id = b.id := by rw [h'.server.hear_over b hends]; rfl
  have hrest := hended.talk texts
  rw [hid] at hrest
  have htalk : s.talk i b.id (text :: texts) =
      (some "" :: texts.map fun _ => some "", s₁) := by
    simp only [HttpService.talk, hexchange, hrest]
  have hflat : ([] :: texts.map fun _ => ([] : List (Question × Response))).flatten = [] := by
    simp
  have hheard := hio.heard text
  refine ⟨?_, ?_, ?_, _, _, _, _, hio.take_over hends bytes, ?_, hheard.session, hended.found,
    ?_, ?_⟩
  · rw [hflat, Stdio.questions_cons_of_ends hends, List.map_nil]
  · rw [hflat]
    exact List.forall_mem_nil _
  · rw [htalk, List.map_cons, List.map_map]
    rfl
  · rw [htalk]
    exact hended.host
  · rw [hflat, Host.afterText, h.server.hear_over a hends]
    rfl
  · rw [hheard.server, hserver]
    exact { (hc.hear hf text).2 with }

/-- Both clients get the same answers, and their sessions remain counterparts. -/
theorem exists_agreement (ht : ∀ text ∈ texts, Text.IsLine text) :
    ∃ answered, Agreement texts a.link.queue
      ((Stdio.inputOf texts).toList.foldl Stdio.takeByte io) (s.talk i b.id texts) i
      answered := by
  -- By induction on the texts, for sessions that are up before each of them.
  induction texts generalizing io s h h' a b with
  | nil =>
    refine ⟨[], rfl, List.forall_mem_nil _, rfl, h, h', a, b, ?_, hs.host, hio.found, hs.found,
      (List.append_nil _).symm, hc⟩
    rw [Stdio.toList_inputOf_nil, List.foldl_nil, hio.host]
  | cons text texts ih =>
    rw [List.forall_mem_cons] at ht
    rw [Stdio.foldl_inputOf_cons ht.1 hio.isReading hio.unread]
    cases hends : Message.endsSession text with
    | true => exact ⟨_, agreement_over hio hs hc hf hends _⟩
    | false =>
      obtain ⟨hvalue, hafter⟩ := hc.hear hf text
      obtain ⟨first, hquestion, hanswers, hresponses⟩ := h.server.hear_answers a text
      have hheard := hio.heard text
      obtain ⟨s₁, h₁, hexchange, hs₁, hserver⟩ := hs.exchange_up hends
      obtain ⟨-, -, hid⟩ := h'.server.hear_up hends hs.state
      have hc₁ : Counterparts (h.deliverText Stdio.client text).server (h.afterText a text)
          h₁.server (h'.server.hear b text).session := by
        rw [hheard.server, hserver]
        exact { hafter with }
      have hf₁ : (h.deliverText Stdio.client text).server.registry.IsForgetful := by
        rw [hheard.server]
        exact hf.congr Server.registry_hear
      have hmessages : (h'.server.hear b text).value.map Message.response =
          answerMessages first := by
        rw [hvalue, hresponses, List.map_map]
        rfl
      obtain ⟨later, hlater⟩ := ih (hio.take_up hends) hs₁ hc₁ hf₁ ht.2
      rw [hmessages] at hexchange
      rw [hid] at hlater
      refine ⟨first :: later, .cons hends hquestion hanswers hexchange ?_⟩
      have hqueue : (h.afterText a text).link.queue = a.link.queue ++ answerMessages first := by
        rw [Host.afterText, hresponses, List.map_map]
        rfl
      exact hqueue ▸ hlater

end

/-! ## The two transports -/

/-- **One protocol.** Texts that are lines as they stand are sent to a server by a client on
    the standard streams, and posted to a server with the same components by a client over
    HTTP that opens a stream, in whatever state the service is then, and reads it after each
    of its posts. What the one finds in the output are the messages that the other one reads,
    and after the last text the sessions are at the same point. -/
theorem same_protocol (naming naming' : Naming) (config : HttpConfig) (es : List HttpEvent)
    (hes : ∀ e ∈ es, e.isOrdinary = true ∧ e.opensByRequest = true) {h : Host}
    (hh : ((HttpService.fresh naming' config).run es).host? = some h) {registry : Registry}
    (hregistry : h.server.registry.unasked = registry.unasked) (hf : registry.IsForgetful)
    (texts : List String) (ht : ∀ text ∈ texts, Text.IsLine text) :
    let server : Server := { config := h.server.config, registry }
    let io := ((Stdio.serving naming server).write (Stdio.inputOf texts)).2
    let opened := ((HttpService.fresh naming' config).run es).openStream
    let first := opened.2.read h.size
    let id := h.naming.session h.size
    let talk := first.2.talk h.size id texts
    opened.1 = .stream h.size ∧ first.1 = some (opened.2.greeting id, false) ∧
      ∃ answered, io.output.1 = Stdio.lines (answerMessages answered.flatten) ∧
        (∀ m ∈ answerMessages answered.flatten, Text.OneLine m.line.toList) ∧
        Agreement texts [] io talk h.size answered := by
  intro server io opened first id talk
  have haligned : ((HttpService.fresh naming' config).run es).Aligned :=
    HttpService.aligned_run fun e he => (hes e he).2
  have hordinary (e : HttpEvent) (he : e ∈ es) : e.isOrdinary = true := (hes e he).1
  have hsound : h.Sound := HttpService.sound_run hordinary HttpService.sound_fresh h hh
  have hknows : h.KnowsSubscribers :=
    HttpService.keeps_run (fun _ _ _ => Host.knowsSubscribers_start)
      (fun _ _ => Host.Move.knowsSubscribers) hordinary HttpService.keeps_fresh h hh
  obtain ⟨h₁, hio, hserver⟩ := Stdio.attends_serving naming server
  obtain ⟨s', h₂, hopened, hread, hs, hserver'⟩ := haligned.attends hh
  have hc : Counterparts h₁.server { id := naming.session 0 } h₂.server { id } := by
    rw [hserver, hserver']
    exact ⟨rfl, hregistry, rfl, rfl, rfl, fun uri => hsound.holds_next hknows uri⟩
  have hf₁ : h₁.server.registry.IsForgetful := by
    rw [hserver]
    exact hf
  obtain ⟨answered, hagree⟩ := exists_agreement hio hs hc hf₁ ht
  have hwrite : io = (Stdio.inputOf texts).toList.foldl Stdio.takeByte
      (Stdio.serving naming server) := rfl
  have htalk : talk = s'.talk h.size id texts :=
    congrArg (fun x => x.2.talk h.size id texts) hread
  rw [← hwrite, ← htalk] at hagree
  refine ⟨hopened, congrArg Prod.fst hread, answered, ?_, ?_, hagree⟩
  · obtain ⟨k, -, a, -, hhost, -, hfound, -, hqueue, -⟩ := hagree.counterparts
    simp only [Stdio.output, hhost, Host.collect, hfound, Link.collect, hqueue]
    rfl
  · intro m hm
    rw [Message.line, Text.escapeNewlines, String.toList_ofList]
    exact Text.oneLine_escapeBreaks _

/-- The second of three texts ends the session. The first one is no message, and the only
    one to be answered. -/
theorem same_protocol_cancelled :
    let naming := Naming.numbered "session-" "request-" ""
    let config : ServerConfig := { info := ⟨"server", "1"⟩ }
    let texts := ["\x7b\"jsonrpc\":\"2.0\",\"id\":7\x7d",
      "\x7b\"jsonrpc\":\"2.0\",\"method\":\"notifications/cancelled\"\x7d", "no message"]
    let io := ((Stdio.serving naming { config }).write (Stdio.inputOf texts)).2
    let s := ((HttpService.fresh naming {}).run [.bind config]).openStream.2
    ∃ answered : List (List (Question × Response)),
      answered.flatten.map Prod.fst = [.refused (.number 7)] ∧
      io.output.1 = Stdio.lines (answerMessages answered.flatten) ∧
      ((s.read 0).2.talk 0 (naming.session 0) texts).1 =
        answered.map fun xs => some (HttpService.messageEvents (answerMessages xs)) := by
  intro naming config texts io s
  have hline : ∀ text ∈ texts, Text.IsLine text := by decide +kernel
  have hquestions : Stdio.questions texts = [.refused (.number 7)] := by
    have hrefused : Message.parse "\x7b\"jsonrpc\":\"2.0\",\"id\":7\x7d" =
        .error (.invalidShape (some (.number 7)) .noKind) := by
      have hjson : Json.parse? "\x7b\"jsonrpc\":\"2.0\",\"id\":7\x7d" = some (.object
          [("id", .number (.integer (.ofInt32 7))), ("jsonrpc", .string "2.0")]) := by
        decide +kernel
      rw [Message.parse, hjson]
      rfl
    have hcancelled : Message.parse
        "\x7b\"jsonrpc\":\"2.0\",\"method\":\"notifications/cancelled\"\x7d" =
        .ok (.notification { method := Method.cancelled }) := by
      have hjson : Json.parse?
          "\x7b\"jsonrpc\":\"2.0\",\"method\":\"notifications/cancelled\"\x7d" =
          some (.object [("jsonrpc", .string "2.0"),
            ("method", .string "notifications/cancelled")]) := by
        decide +kernel
      rw [Message.parse, hjson]
      rfl
    have hup : Message.endsSession "\x7b\"jsonrpc\":\"2.0\",\"id\":7\x7d" = false := by
      rw [Message.endsSession, hrefused]
    have hends : Message.endsSession
        "\x7b\"jsonrpc\":\"2.0\",\"method\":\"notifications/cancelled\"\x7d" = true := by
      rw [Message.endsSession, hcancelled]
      exact decide_eq_true rfl
    rw [Stdio.questions_cons hup, Stdio.questions_cons_of_ends hends, Question.ofText?, hrefused]
    rfl
  have hhost : ((HttpService.fresh naming {}).run [.bind config]).host? =
      some (Host.start .stream naming config) := rfl
  have hbind : ∀ e ∈ [HttpEvent.bind config], e.isOrdinary = true ∧ e.opensByRequest = true :=
    List.forall_mem_singleton.2 ⟨rfl, rfl⟩
  have hregistry : (Host.start .stream naming config).server.registry.unasked =
      ({} : Registry).unasked := rfl
  have hboth := same_protocol naming naming {} [.bind config] hbind hhost hregistry
    Registry.isForgetful_empty texts hline
  obtain ⟨-, -, answered, hwritten, -, hagree⟩ := hboth
  exact ⟨answered, hagree.questions.trans hquestions, hwritten, hagree.read⟩

end ContextServer
