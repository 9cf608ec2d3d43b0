import ContextServer.Proofs.Message.RoundTrip
import ContextServer.Proofs.Stdio.Lines

/-!
# Messages as lines

Messages that are written one after the other are cut apart again and read as what
they were, whatever their texts hold (`Stdio.framing_lossless`).

A written message is the compact text of an object, so it is a line as it stands: it
holds no line break, and begins and ends with a brace (`Message.isLine_line`). What the
transport writes is then an input in which every message is a line
(`Stdio.inputOf_line`), and on that side it is enough to follow the cutting of the bytes
(`Stdio.linesOf_inputOf`) and the loop that does it (`Stdio.Attends.foldl_lines`).
-/

namespace ContextServer

/-! ## A message is a line -/

namespace Json

theorem writeMembers_eq_append (ms : List (String × Json)) :
    ∃ inner, writeMembers ms = inner ++ ['}'] := by
  induction ms with
  | nil => exact ⟨[], rfl⟩
  | cons e ms ih =>
    obtain ⟨k, v⟩ := e
    obtain ⟨inner, hinner⟩ := ih
    refine ⟨',' :: (writeString k ++ ':' :: (write v ++ inner)), ?_⟩
    rw [writeMembers, hinner]
    simp only [List.cons_append, List.append_assoc]

/-- The text of an object stands between braces. -/
theorem write_object (ms : List (String × Json)) :
    ∃ inner, write (.object ms) = '{' :: (inner ++ ['}']) := by
  cases ms with
  | nil => exact ⟨[], rfl⟩
  | cons e ms =>
    obtain ⟨k, v⟩ := e
    obtain ⟨inner, hinner⟩ := writeMembers_eq_append ms
    refine ⟨writeString k ++ ':' :: (write v ++ inner), ?_⟩
    rw [write, hinner]
    simp only [List.cons_append, List.append_assoc]

end Json

namespace Message

variable {m : Message}

theorem written_object (m : Message) : ∃ ms, m.written = .object ms := by
  cases m with
  | request r => exact ⟨_, Request.written_shape r⟩
  | notification n => exact ⟨_, Notification.written_shape n⟩
  | response r => exact ⟨_, Response.written_shape r⟩

theorem oneLine_compact (m : Message) : Text.OneLine m.written.compact.toList := by
  rw [Json.compact, String.toList_ofList]
  exact Json.oneLine_write _

theorem toList_line (m : Message) : ∃ inner, m.line.toList = '{' :: (inner ++ ['}']) := by
  obtain ⟨ms, hms⟩ := m.written_object
  rw [line_eq_compact, Json.compact, String.toList_ofList, hms]
  exact Json.write_object ms

theorem isLine_line (m : Message) : Text.IsLine m.line := by
  have hone := m.oneLine_compact
  rw [← line_eq_compact] at hone
  obtain ⟨inner, hinner⟩ := m.toList_line
  refine ⟨hone.1, ?_, ?_⟩ <;> rw [hinner]
  · rw [List.head?_cons]
    rintro c ⟨⟩
    decide
  · rw [← List.cons_append, List.getLast?_concat]
    rintro c ⟨⟩
    decide

theorem line_ne_empty (m : Message) : m.line.isEmpty = false := by
  obtain ⟨inner, hinner⟩ := m.toList_line
  refine Bool.eq_false_iff.2 fun he => ?_
  rw [String.isEmpty_iff.1 he] at hinner
  cases hinner

theorem parse_line_of_made (hr : m.Regular) (hm : m.Made) : parse m.line = .ok m := by
  rw [parse_line_eq_ofJson hr, (ofJson_sorted_written hr).2 hm.unambiguous]

end Message

namespace Stdio

/-! ## Cutting -/

theorem linesFrom_append {bytes : List UInt8} (h : 0x0A ∉ bytes) (unfinished : ByteArray)
    (rest : List UInt8) :
    linesFrom unfinished (bytes ++ 0x0A :: rest) =
      bytes.foldl .push unfinished :: linesFrom .empty rest := by
  induction bytes generalizing unfinished with
  | nil => rw [List.nil_append, linesFrom, if_pos rfl, List.foldl_nil]
  | cons b bytes ih =>
    rw [List.mem_cons, not_or] at h
    rw [List.cons_append, linesFrom, if_neg (Ne.symm h.1), ih h.2, List.foldl_cons]

/-- An input is cut into the texts it was put together of. -/
theorem linesOf_inputOf {texts : List String} (h : ∀ text ∈ texts, Text.IsLine text) :
    linesOf (inputOf texts) = texts.map String.toUTF8 := by
  induction texts with
  | nil => rw [linesOf, toList_inputOf_nil]; rfl
  | cons text texts ih =>
    obtain ⟨ht, h⟩ := List.forall_mem_cons.1 h
    have hbytes := Utf8.lineFeed_not_mem_toUTF8 ht.oneLine
    rw [linesOf, toList_inputOf_cons, linesFrom_append hbytes, Utf8.foldl_push_toList,
      List.map_cons, ← ih h, linesOf]

theorem texts_toUTF8 {ts : List String} (h : ∀ text ∈ ts, Text.IsLine text) :
    texts (ts.map String.toUTF8) = ts := by
  induction ts with
  | nil => rfl
  | cons text ts ih =>
    obtain ⟨ht, h⟩ := List.forall_mem_cons.1 h
    rw [List.map_cons, texts, Utf8.decode_toUTF8]
    dsimp only
    rw [ht.trim_eq, ih h]

/-- The texts that the loop takes for messages. -/
def received (input : ByteArray) : List String :=
  (texts (linesOf input)).filter fun text => !text.isEmpty

theorem lines_append (ms ms' : List Message) : lines (ms ++ ms') = lines ms ++ lines ms' := by
  rw [lines, List.map_append, String.join_append]
  rfl

theorem inputOf_line (ms : List Message) :
    (lines ms).toUTF8 = inputOf (ms.map Message.line) := by
  rw [lines, inputOf, List.map_map]
  rfl

theorem received_lines (ms : List Message) :
    received (lines ms).toUTF8 = ms.map Message.line := by
  have hline : ∀ text ∈ ms.map Message.line, Text.IsLine text := by
    intro text ht
    obtain ⟨m, -, rfl⟩ := List.mem_map.1 ht
    exact m.isLine_line
  rw [received, inputOf_line, linesOf_inputOf hline, texts_toUTF8 hline, List.filter_eq_self]
  intro text ht
  obtain ⟨m, -, rfl⟩ := List.mem_map.1 ht
  rw [m.line_ne_empty, Bool.not_false]

/-! ## Writing and reading -/

variable {s : Stdio} {h : Host} {session : Session} {ms : List Message}

/-- The messages are sent one after the other. -/
def sendAll (h : Host) (ms : List Message) : Host := ms.foldl (fun h m => (h.send client m).2) h

/-- The messages reach the session one after the other. -/
def deliverAll (h : Host) (ms : List Message) : Host := ms.foldl (fun h m => h.deliver client m) h

/-- What is sent waits for the output, in its order. -/
theorem getElem?_sendAll (hmedium : h.medium = .pipe) (hs : h.sessions[client]? = some session)
    (hup : session.IsUp) :
    (sendAll h ms).sessions[client]? = some
      { session with link := { session.link with queue := session.link.queue ++ ms } } := by
  induction ms generalizing h session with
  | nil =>
    rw [List.append_nil]
    exact hs
  | cons m ms ih =>
    have hroom : session.link.isFull h.medium.capacity? = false := by rw [hmedium]; rfl
    let session' : Session :=
      { session with link := { session.link with queue := session.link.queue ++ [m] } }
    have hfound : (h.put client session').sessions[client]? = some session' := by
      rw [Host.getElem?_put hs, if_pos rfl]
    have hnext := ih (h := h.put client session') hmedium hfound ⟨hup.state, hup.link, hup.fault⟩
    rw [sendAll, List.foldl_cons, Host.send_up hs hup hroom,
      List.append_cons session.link.queue m ms]
    exact hnext

/-- What is sent is written as lines, after those that wait already. -/
theorem Attends.output_sendAll (ha : s.Attends h session) (ms : List Message) :
    (s.onHost fun h => sendAll h ms).output.1 = lines (session.link.queue ++ ms) := by
  have hfound : (sendAll h ms).sessions[client]? = _ :=
    getElem?_sendAll ha.medium ha.found ha.isUp
  have hhost : (s.onHost fun h => sendAll h ms).provider.host = some (sendAll h ms) :=
    congrArg (Option.map _) ha.host
  simp only [output, hhost, Host.collect, hfound]
  rfl

/-- A session that is over takes none of the messages. -/
theorem deliverAll_of_closed (hs : h.sessions[client]? = some session)
    (hstate : session.state = .closed) (ms : List Message) : deliverAll h ms = h := by
  induction ms with
  | nil => rfl
  | cons m ms ih => rw [deliverAll, List.foldl_cons, Host.deliver_of_closed hs hstate]; exact ih

/-- Lines that are read reach the session as the messages that were written. After the
    message that ends the session nothing is read, and nothing would be taken. -/
theorem Attends.foldl_lines (ha : s.Attends h session)
    (hread : ∀ m ∈ ms, Message.parse m.line = .ok m) :
    ((inputOf (ms.map Message.line)).toList.foldl takeByte s).provider.host =
      some (deliverAll h ms) := by
  -- By induction on the messages, for a session that is up before each of them.
  induction ms generalizing s h session with
  | nil =>
    rw [List.map_nil, toList_inputOf_nil]
    exact ha.host
  | cons m ms ih =>
    obtain ⟨hm, hread⟩ := List.forall_mem_cons.1 hread
    have htaken : h.deliverText client m.line = h.deliver client m := by
      rw [Host.deliverText, hm]
    rw [List.map_cons, foldl_inputOf_cons m.isLine_line ha.isReading ha.unread, deliverAll,
      List.foldl_cons]
    cases hends : Message.endsSession m.line with
    | true =>
      have hstate : (h.afterText session m.line).state = .closed :=
        (Host.afterText_over hends).state
      have hfound := (ha.heard m.line).session
      rw [htaken] at hfound
      rw [ha.take_over hends, htaken]
      exact congrArg some (deliverAll_of_closed hfound hstate ms).symm
    | false =>
      have hnext := ih (ha.take_up hends) hread
      rwa [htaken] at hnext

theorem Attends.write_lines (ha : s.Attends h session) (hopen : s.atEnd = false)
    (hread : ∀ m ∈ ms, Message.parse m.line = .ok m) :
    (s.write (lines ms).toUTF8).2.provider.host = some (deliverAll h ms) := by
  have hbound : s.provider.host.isNone = false := by rw [ha.host, Option.isNone_some]
  rw [write, hopen, ha.isReading, hbound, inputOf_line, Bool.not_true, Bool.or_self,
    if_neg Bool.false_ne_true, if_neg Bool.false_ne_true]
  exact ha.foldl_lines hread

/-- **Lossless framing.** Messages that were made of data that are not null, with integers
    for numbers and not nested too deep, are texts without line breaks, so that the framing
    leaves them alone and each takes one line. A server that sends them writes these lines
    after what it has to write already; the loop that reads cuts the lines apart, finds in
    each the message that was written, and hands the messages to its session in their
    order. -/
theorem framing_lossless (ms : List Message) (hr : ∀ m ∈ ms, m.Regular)
    (hm : ∀ m ∈ ms, m.Made) :
    (∀ m ∈ ms, Text.OneLine m.written.compact.toList ∧
      Text.escapeNewlines m.written.compact = m.written.compact ∧ Text.OneLine m.line.toList) ∧
    (received (lines ms).toUTF8).map Message.parse = ms.map .ok ∧
    (∀ (s : Stdio) (h : Host) (session : Session), s.Attends h session →
      (s.onHost fun h => sendAll h ms).output.1 = lines session.link.queue ++ lines ms) ∧
    (∀ (s : Stdio) (h : Host) (session : Session), s.Attends h session → s.atEnd = false →
      (s.write (lines ms).toUTF8).2.provider.host = some (deliverAll h ms)) := by
  have hread (m : Message) (hmem : m ∈ ms) : Message.parse m.line = .ok m :=
    m.parse_line_of_made (hr m hmem) (hm m hmem)
  refine ⟨fun m _ => ?_, ?_, fun s h session ha => ?_, fun s h session ha hopen => ?_⟩
  · have hone := m.oneLine_compact
    refine ⟨hone, m.line_eq_compact, ?_⟩
    rwa [m.line_eq_compact]
  · rw [received_lines, List.map_map]
    exact List.map_congr_left fun m hmem => by rw [Function.comp_apply, hread m hmem]
  · rw [ha.output_sendAll, lines_append]
  · exact ha.write_lines hopen hread

/-- A request with every kind of line break in it and a response come through from a server
    to one that reads. -/
theorem framing_lossless_breaks :
    let ms : List Message :=
      [.request { id := .text "a\r\nb", method := "m\u0085", params := some (.object
          [("k\u2028", .array [.null, .string "\r", .number (.integer ⟨-1, by decide⟩)])]) },
        .response (.success (some (.number 7)) (.string "\n\u2029"))]
    let s := serving (.numbered "session-" "request-" "") { config := { info := ⟨"server", "1"⟩ } }
    (∀ m ∈ ms, m.Regular) ∧ (∀ m ∈ ms, m.Made) ∧
      (s.onHost fun h => sendAll h ms).output.1 = lines ms ∧
      (received (lines ms).toUTF8).map Message.parse = ms.map .ok ∧
      (s.write (lines ms).toUTF8).2.provider.host =
        s.provider.host.map fun h => deliverAll h ms := by
  intro ms s
  have hr : ∀ m ∈ ms, m.Regular := by
    refine List.forall_mem_cons.2 ⟨⟨rfl, by decide, ?_, ?_⟩,
      List.forall_mem_singleton.2 ⟨rfl, by decide, ?_, ?_⟩⟩ <;>
      simp [Message.data, Response.success, Json.Canonical, Json.MembersCanonical,
        Json.ItemsCanonical, Entries.Ascending, Json.NumbersAll, Json.MembersNumbersAll,
        Json.ItemsNumbersAll, Json.IsInteger]
  have hm : ∀ m ∈ ms, m.Made := List.forall_mem_cons.2
    ⟨.request (by simp), List.forall_mem_singleton.2 (.success (by simp))⟩
  obtain ⟨h, ha, -⟩ := attends_serving (.numbered "session-" "request-" "")
    { config := { info := ⟨"server", "1"⟩ } }
  obtain ⟨-, hreceived, hwritten, hread⟩ := framing_lossless ms hr hm
  refine ⟨hr, hm, ?_, hreceived, ?_⟩
  · rw [hwritten s h _ ha]
    exact String.empty_append
  · rw [hread s h _ ha rfl, ha.host]
    rfl

end Stdio

end ContextServer
