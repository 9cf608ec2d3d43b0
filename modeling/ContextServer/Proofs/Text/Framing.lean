import ContextServer.Text.Framing

/-!
# Texts of one line

A text without line breaks is left alone by the replacement of line breaks
(`Text.escapeBreaks_of_oneLine`), and what the replacement returns is always such
a text (`Text.oneLine_escapeBreaks`), so a message that was framed takes one line
of its channel whatever it holds.

The other way round, a text that neither has a line feed nor begins or ends with white
space is what is left of a line after the white space around it was taken off
(`Text.IsLine.trim_eq`).
-/

namespace ContextServer

namespace Text

/-- The text has no line break. -/
def OneLine (cs : List Char) : Prop := '\n' ∉ cs ∧ '\r' ∉ cs

instance (cs : List Char) : Decidable (OneLine cs) :=
  inferInstanceAs (Decidable ('\n' ∉ cs ∧ '\r' ∉ cs))

theorem OneLine.append {cs ds : List Char} (hc : OneLine cs) (hd : OneLine ds) :
    OneLine (cs ++ ds) := by
  simp only [OneLine, List.mem_append, not_or]
  exact ⟨⟨hc.1, hd.1⟩, hc.2, hd.2⟩

theorem OneLine.cons {c : Char} {cs : List Char} (hc : c ≠ '\n' ∧ c ≠ '\r') (h : OneLine cs) :
    OneLine (c :: cs) := by
  simp only [OneLine, List.mem_cons, not_or]
  exact ⟨⟨hc.1.symm, h.1⟩, hc.2.symm, h.2⟩

theorem OneLine.subset {cs ds : List Char} (h : OneLine ds) (hs : cs ⊆ ds) : OneLine cs :=
  ⟨fun hn => h.1 (hs hn), fun hr => h.2 (hs hr)⟩

theorem oneLine_iff {cs : List Char} : OneLine cs ↔ ∀ c ∈ cs, c ≠ '\n' ∧ c ≠ '\r' := by
  constructor
  · rintro ⟨hn, hr⟩ c hc
    exact ⟨fun h => hn (h ▸ hc), fun h => hr (h ▸ hc)⟩
  · exact fun h => ⟨fun hn => (h _ hn).1 rfl, fun hr => (h _ hr).2 rfl⟩

/-- Nothing is replaced where the pattern cannot start. -/
theorem replaceAll_of_not_mem {c : Char} {pattern by_ cs : List Char} (h : c ∉ cs) :
    replaceAll (c :: pattern) by_ cs = cs := by
  induction cs with
  | nil => rfl
  | cons d cs ih =>
    rw [List.mem_cons, not_or] at h
    have hp : (c :: pattern).isPrefixOf (d :: cs) = false := by
      rw [List.isPrefixOf, beq_eq_false_iff_ne.2 h.1, Bool.false_and]
    rw [replaceAll, replaceFrom, hp]
    exact congrArg (d :: ·) (ih h.2)

/-- A pattern of one character is replaced character by character. -/
theorem replaceAll_singleton (c : Char) (by_ cs : List Char) :
    replaceAll [c] by_ cs = cs.flatMap fun d => if d = c then by_ else [d] := by
  induction cs with
  | nil => rfl
  | cons d cs ih =>
    rw [replaceAll, replaceFrom, List.flatMap_cons, ← ih]
    by_cases h : d = c
    · simp [h, replaceAll]
    · simp [h, replaceAll, Ne.symm h]

theorem mem_replaceAll_singleton {c d : Char} {by_ cs : List Char}
    (h : d ∈ replaceAll [c] by_ cs) : d ∈ by_ ∨ d ∈ cs ∧ d ≠ c := by
  rw [replaceAll_singleton, List.mem_flatMap] at h
  obtain ⟨e, he, hd⟩ := h
  split at hd
  · exact .inl hd
  · next hne =>
    rw [List.mem_singleton] at hd
    exact .inr (hd ▸ ⟨he, hne⟩)

/-- A text of one line stays as it is. -/
theorem escapeBreaks_of_oneLine {cs : List Char} (h : OneLine cs) : escapeBreaks cs = cs := by
  rw [escapeBreaks, replaceAll_of_not_mem h.2, replaceAll_of_not_mem h.1,
    replaceAll_of_not_mem h.2]

/-- No line break is left. -/
theorem oneLine_escapeBreaks (cs : List Char) : OneLine (escapeBreaks cs) := by
  -- A character that is left comes from the mark, or passed both replacements of one
  -- character.
  have hmark := oneLine_iff.1 (by decide : OneLine breakMark)
  refine oneLine_iff.2 fun c hc => ?_
  rcases mem_replaceAll_singleton hc with hm | ⟨hc, hr⟩
  · exact hmark c hm
  rcases mem_replaceAll_singleton hc with hm | ⟨-, hn⟩
  · exact hmark c hm
  · exact ⟨hn, hr⟩

/-! ## Lines -/

/-- The text is a line as it stands, with no white space to be taken off. -/
structure IsLine (text : String) : Prop where
  oneLine : '\n' ∉ text.toList
  first : ∀ c ∈ text.toList.head?, isWhiteSpace c = false
  last : ∀ c ∈ text.toList.getLast?, isWhiteSpace c = false

theorem isLine_iff {text : String} :
    IsLine text ↔ '\n' ∉ text.toList ∧
      text.toList.head?.all (fun c => !isWhiteSpace c) = true ∧
      text.toList.getLast?.all (fun c => !isWhiteSpace c) = true := by
  simp only [Option.all_eq_true, Bool.not_eq_true']
  exact ⟨fun h => ⟨h.oneLine, h.first, h.last⟩, fun h => ⟨h.1, h.2.1, h.2.2⟩⟩

instance (text : String) : Decidable (IsLine text) := decidable_of_iff _ isLine_iff.symm

theorem dropWhile_isWhiteSpace {cs : List Char} (h : ∀ c ∈ cs.head?, isWhiteSpace c = false) :
    cs.dropWhile isWhiteSpace = cs := by
  cases cs with
  | nil => rfl
  | cons c cs => rw [List.dropWhile_cons_of_neg (Bool.eq_false_iff.1 (h c rfl))]

theorem IsLine.trim_eq {text : String} (h : IsLine text) : trim text = text := by
  have hlast : ∀ c ∈ text.toList.reverse.head?, isWhiteSpace c = false := by
    rw [List.head?_reverse]
    exact h.last
  rw [trim, trimChars, dropWhile_isWhiteSpace h.first, dropWhile_isWhiteSpace hlast,
    List.reverse_reverse, String.ofList_toList]

end Text

end ContextServer
