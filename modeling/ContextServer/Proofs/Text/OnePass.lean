import ContextServer.Proofs.Text.Framing

/-!
# Line breaks replaced in one pass

The three passes that replace the line breaks of a text overlap where its carriage
returns and line feeds run into each other, as in CR CR LF or LF CR. What they come to
is read off the front of the text: a pair CR LF becomes one mark
(`Text.escapeBreaks_pair`), and any other character is replaced by itself
(`Text.escapeBreaks_cons`), as the first pass only takes pairs and the marks that it
leaves hold nothing for the others.

Hence they are the one pass with a look ahead (`Text.escapeBreaks_eq_once`), and they
insert one mark for each line break (`Text.escapeBreaks_perm`).
-/

namespace ContextServer

namespace Text

open scoped List

/-- What stands for a character where no pair CR LF starts. -/
def escapeBreak (c : Char) : List Char := if c = '\n' ∨ c = '\r' then breakMark else [c]

/-- The line breaks of a text: its line feeds, and its carriage returns that no line feed
    follows. -/
def breaks : List Char → Nat
  | [] => 0
  | c :: cs => (if c = '\n' ∨ c = '\r' ∧ cs.head? ≠ some '\n' then 1 else 0) + breaks cs

/-! ## The passes from the front of a text -/

theorem replaceAll_cons_of_not_start {pattern by_ : List Char} {c : Char} {cs : List Char}
    (h : ¬ pattern <+: c :: cs) :
    replaceAll pattern by_ (c :: cs) = c :: replaceAll pattern by_ cs := by
  rw [replaceAll, replaceFrom, if_neg (mt List.isPrefixOf_iff_prefix.1 h), replaceAll]

/-- Once the pairs are gone, the characters are replaced one by one. -/
theorem escapeBreaks_eq_flatMap (cs : List Char) :
    escapeBreaks cs = (replaceAll ['\r', '\n'] breakMark cs).flatMap escapeBreak := by
  rw [escapeBreaks, replaceAll_singleton, replaceAll_singleton, List.flatMap_assoc]
  refine congrArg (List.flatMap · _) (funext fun c => ?_)
  by_cases hn : c = '\n'
  · subst hn
    rfl
  · simp [escapeBreak, hn]

theorem escapeBreaks_pair (cs : List Char) :
    escapeBreaks ('\r' :: '\n' :: cs) = breakMark ++ escapeBreaks cs := by
  have hpair : replaceAll ['\r', '\n'] breakMark ('\r' :: '\n' :: cs)
      = breakMark ++ replaceAll ['\r', '\n'] breakMark cs := rfl
  rw [escapeBreaks_eq_flatMap, hpair, List.flatMap_append, ← escapeBreaks_eq_flatMap]
  rfl

theorem escapeBreaks_cons {c : Char} {cs : List Char} (h : ¬ ['\r', '\n'] <+: c :: cs) :
    escapeBreaks (c :: cs) = escapeBreak c ++ escapeBreaks cs := by
  rw [escapeBreaks_eq_flatMap, replaceAll_cons_of_not_start h, List.flatMap_cons,
    ← escapeBreaks_eq_flatMap]

theorem not_startsPair {c : Char} {cs : List Char}
    (h : ∀ rest, c = '\r' → cs = '\n' :: rest → False) : ¬ ['\r', '\n'] <+: c :: cs := by
  rintro ⟨rest, hrest⟩
  obtain ⟨hc, hcs⟩ := List.cons.inj hrest
  exact h rest hc.symm hcs.symm

/-- The three passes are the one pass. -/
theorem escapeBreaks_eq_once (cs : List Char) : escapeBreaks cs = escapeBreaksOnce cs := by
  -- By the recursion of the one pass, which goes on after the pair or after one character.
  fun_induction escapeBreaksOnce cs with
  | case1 => rfl
  | case2 cs ih => rw [escapeBreaks_pair, ih]
  | case3 c cs hpair hc ih =>
    rw [escapeBreaks_cons (not_startsPair hpair), escapeBreak, if_pos hc, ih]
  | case4 c cs hpair hc ih =>
    rw [escapeBreaks_cons (not_startsPair hpair), escapeBreak, if_neg hc, ih]
    rfl

/-! ## One mark for each line break -/

theorem breaks_pair (cs : List Char) : breaks ('\r' :: '\n' :: cs) = 1 + breaks cs := by
  simp [breaks]

theorem breaks_cons {c : Char} {cs : List Char} (h : ¬ ['\r', '\n'] <+: c :: cs) :
    breaks (c :: cs) = (if c = '\n' ∨ c = '\r' then 1 else 0) + breaks cs := by
  have hnot : c = '\r' → cs.head? ≠ some '\n' := by
    rintro rfl hlf
    obtain ⟨rest, rfl⟩ := List.head?_eq_some_iff.1 hlf
    exact h ⟨rest, rfl⟩
  simp only [breaks, and_iff_left_of_imp hnot]

theorem breakMark_append_perm {cs kept : List Char} {n : Nat}
    (h : cs ~ kept ++ (List.replicate n breakMark).flatten) :
    breakMark ++ cs ~ kept ++ (List.replicate (1 + n) breakMark).flatten := by
  rw [Nat.add_comm, List.replicate_succ, List.flatten_cons]
  exact (h.append_left breakMark).trans (List.perm_append_comm_assoc ..)

/-- The result holds the characters of the text that are no line breaks, and one mark for
    each of its line breaks. -/
theorem escapeBreaks_perm (cs : List Char) :
    escapeBreaks cs ~ cs.filter (fun c => ¬ (c = '\n' ∨ c = '\r')) ++
      (List.replicate (breaks cs) breakMark).flatten := by
  rw [escapeBreaks_eq_once]
  fun_induction escapeBreaksOnce cs with
  | case1 => rfl
  | case2 cs ih =>
    rw [breaks_pair]
    exact breakMark_append_perm ih
  | case3 c cs hpair hc ih =>
    rw [breaks_cons (not_startsPair hpair), if_pos hc, List.filter_cons, decide_eq_false
      (not_not_intro hc), if_neg Bool.false_ne_true]
    exact breakMark_append_perm ih
  | case4 c cs hpair hc ih =>
    rw [breaks_cons (not_startsPair hpair), if_neg hc, Nat.zero_add,
      List.filter_cons, decide_eq_true hc, if_pos rfl]
    exact ih.cons c

/-- A text stays as it is where it has no line break, and only there. -/
theorem escapeBreaks_eq_self_iff {cs : List Char} : escapeBreaks cs = cs ↔ OneLine cs :=
  ⟨fun h => h ▸ oneLine_escapeBreaks cs, escapeBreaks_of_oneLine⟩

@[simp] theorem toList_escapeNewlines (s : String) :
    (escapeNewlines s).toList = escapeBreaks s.toList := String.toList_ofList

theorem escapeNewlines_eq_self_iff {s : String} : escapeNewlines s = s ↔ OneLine s.toList := by
  rw [← escapeBreaks_eq_self_iff, ← toList_escapeNewlines, String.toList_inj]

/-- **Replacing line breaks.** The three passes over a text return what one pass from left
    to right does, which replaces each pair CR LF, and each LF and CR outside of such a
    pair, by a backslash and an `n`, and keeps the other characters in their order.

    The result has no line break; it holds the other characters of the text and one mark
    for each of its line breaks; it is the text itself where that had none, and only there;
    and replacing the line breaks once more changes nothing. -/
theorem escapeNewlines_one_pass (s : String) :
    (escapeNewlines s).toList = escapeBreaksOnce s.toList ∧
      OneLine (escapeNewlines s).toList ∧
      (escapeNewlines s).toList ~ s.toList.filter (fun c => ¬ (c = '\n' ∨ c = '\r')) ++
        (List.replicate (breaks s.toList) breakMark).flatten ∧
      (escapeNewlines s = s ↔ OneLine s.toList) ∧
      escapeNewlines (escapeNewlines s) = escapeNewlines s := by
  have hone : OneLine (escapeNewlines s).toList :=
    toList_escapeNewlines s ▸ oneLine_escapeBreaks s.toList
  refine ⟨?_, hone, ?_, escapeNewlines_eq_self_iff, escapeNewlines_eq_self_iff.2 hone⟩
  · rw [toList_escapeNewlines, escapeBreaks_eq_once]
  · rw [toList_escapeNewlines]
    exact escapeBreaks_perm s.toList

/-- The carriage return before a pair, and the one after a line feed, are breaks of their
    own. -/
example : breaks "a\r\r\nb\n\rc".toList = 4 ∧
    escapeNewlines "a\r\r\nb\n\rc" = "a\\n\\nb\\n\\nc" := ⟨rfl, rfl⟩

end Text

end ContextServer
