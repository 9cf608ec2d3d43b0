import ContextServer.Proofs.Stdio.ReadLoop
import ContextServer.Proofs.Text.Utf8

/-!
# Texts as lines of the input

A client of the standard streams sends its texts as lines (`Stdio.inputOf`). A text that is
a line as it stands is cut out of the input and decoded to what it was, and reaches the
session if that is still read (`Stdio.foldl_inputOf_cons`).
-/

namespace ContextServer

namespace Stdio

variable {s : Stdio} {text : String} {texts : List String}

/-- The input in which every text is a line. -/
def inputOf (texts : List String) : ByteArray :=
  (String.join (texts.map fun text => text ++ "\n")).toUTF8

theorem toList_inputOf_nil : (inputOf []).toList = [] := by
  rw [inputOf, Utf8.toList_toUTF8]
  rfl

theorem toList_inputOf_cons :
    (inputOf (text :: texts)).toList = text.toUTF8.toList ++ 0x0A :: (inputOf texts).toList := by
  have hfeed : "\n".toList.flatMap String.utf8EncodeChar = [0x0A] := by decide
  simp only [inputOf, Utf8.toList_toUTF8, List.map_cons, String.join_cons, String.toList_append,
    List.flatMap_append, List.append_assoc, hfeed, List.singleton_append]

/-! ## Reading -/

/-- Bytes that end no line are added to the unfinished one. -/
theorem foldl_takeByte_unfinished {bytes : List UInt8} (h : 0x0A ∉ bytes)
    (hs : s.isReading = true) :
    bytes.foldl takeByte s = { s with unread := bytes.foldl .push s.unread } := by
  induction bytes generalizing s with
  | nil => rfl
  | cons b bytes ih =>
    rw [List.mem_cons, not_or] at h
    have hb : s.takeByte b = { s with unread := s.unread.push b } := by
      rw [takeByte, hs, Bool.not_true, if_neg Bool.false_ne_true, if_neg (Ne.symm h.1)]
    rw [List.foldl_cons, hb]
    exact ih (s := { s with unread := s.unread.push b }) h.2 hs

/-- A text that is empty is no message. -/
theorem deliverText_empty (h : Host) (i : Nat) : h.deliverText i "" = h := rfl

/-- The line of a text that is a line as it stands. -/
theorem takeLine_text (ht : Text.IsLine text) :
    s.takeLine text.toUTF8 = s.onHost fun h => h.deliverText client text := by
  rw [takeLine, Utf8.decode_toUTF8]
  dsimp only
  rw [ht.trim_eq]
  split
  · next hempty =>
    have hnothing : (fun h : Host => h.deliverText client text) = id := by
      rw [String.isEmpty_iff.1 hempty]
      exact funext fun h => deliverText_empty h client
    rw [hnothing, onHost, Provider.onHost, Option.map_id, id]
  · rfl

/-- The first text of an input reaches the session, and the others come after it. -/
theorem foldl_inputOf_cons (ht : Text.IsLine text) (hs : s.isReading = true)
    (hunread : s.unread = .empty) :
    (inputOf (text :: texts)).toList.foldl takeByte s =
      (inputOf texts).toList.foldl takeByte (s.onHost fun h => h.deliverText client text) := by
  have hline := foldl_takeByte_unfinished (Utf8.lineFeed_not_mem_toUTF8 ht.oneLine) hs
  rw [hunread, Utf8.foldl_push_toList] at hline
  have hfeed : ({ s with unread := text.toUTF8 } : Stdio).takeByte 0x0A =
      s.takeLine text.toUTF8 := by
    have hreading : ({ s with unread := text.toUTF8 } : Stdio).isReading = true := hs
    rw [takeByte, hreading, Bool.not_true, if_neg Bool.false_ne_true, if_pos rfl, ← hunread]
  rw [toList_inputOf_cons, List.foldl_append, hline, List.foldl_cons, hfeed, takeLine_text ht]

/-! ## The session -/

/-- The session is up, and all that was written has been read. -/
structure Attends (s : Stdio) (h : Host) (session : Session) : Prop where
  host : s.provider.host = some h
  medium : h.medium = .pipe
  found : h.sessions[client]? = some session
  isUp : session.IsUp
  unread : s.unread = .empty

variable {h : Host} {session : Session}

/-- A server that has heard nothing. -/
theorem attends_serving (naming : Naming) (server : Server) :
    ∃ h, (serving naming server).Attends h { id := naming.session 0 } ∧ h.server = server :=
  ⟨_, ⟨rfl, rfl, rfl, ⟨nofun, rfl, rfl⟩, rfl⟩, rfl⟩

theorem Attends.isReading (ha : s.Attends h session) : s.isReading = true := by
  rw [isReading_eq ha.host, linkIsOpen, ha.found, Option.all_some, ha.isUp.link]

theorem Attends.heard (ha : s.Attends h session) (text : String) :
    Host.Heard h client session text (h.deliverText client text) := by
  refine Host.heard_deliverText ha.found ha.isUp ?_ text
  rw [ha.medium]
  rfl

/-- A text that does not end the session. -/
theorem Attends.take_up (ha : s.Attends h session) (hends : Message.endsSession text = false) :
    (s.onHost fun h => h.deliverText client text).Attends (h.deliverText client text)
      (h.afterText session text) := by
  refine ⟨?_, ?_, (ha.heard text).session, Host.afterText_up ha.isUp hends, ha.unread⟩
  · exact congrArg (Option.map _) ha.host
  · exact (Host.medium_of_constants Host.constants_deliverText).trans ha.medium

/-- The text that ends the session: what comes after it is not read. -/
theorem Attends.take_over (ha : s.Attends h session) (hends : Message.endsSession text = true)
    (bytes : List UInt8) :
    (bytes.foldl takeByte (s.onHost fun h => h.deliverText client text)).provider.host =
      some (h.deliverText client text) := by
  have hhost : (s.onHost fun h => h.deliverText client text).provider.host =
      some (h.deliverText client text) := congrArg (Option.map _) ha.host
  have hclosed : linkIsOpen (h.deliverText client text) = false := by
    rw [linkIsOpen, (ha.heard text).session, Option.all_some, (Host.afterText_over hends).link]
  rw [foldl_takeByte_of_closed hhost hclosed, hhost]

end Stdio

end ContextServer
