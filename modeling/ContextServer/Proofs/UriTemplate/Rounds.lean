import ContextServer.Proofs.UriTemplate.Pieces

/-!
# Reading a template round by round

A template can be read by a loop over the text that is left of it. A round looks for the
first opening brace. The text before it, or all the text if there is none, is a literal;
where the text starts with it, a variable goes up to the first closing brace (`round?`).

What a round can do is said once (`Round`). It takes a piece off the front of the text,
never an empty one (`Round.consumes`), so the loop comes to its end (`readRounds`), and
the pieces of a text are the piece of the first round and those of the rest
(`Round.pieces?_eq`). Hence the loop returns what it has read before and the pieces of
the text that is left (`readRounds_eq`).
-/

namespace ContextServer

namespace UriTemplate

/-- One round on a text: the piece at its front and the text behind that piece, unless a
    variable starts there that has no end or no name. -/
def round? (cs : List Char) : Option (Piece × List Char) :=
  match cs.idxOf? '{' with
  | some 0 => do
    let stop ← cs.idxOf? '}'
    let name := (cs.take stop).drop 1
    if name = [] then none else some (.variable name, cs.drop (stop + 1))
  | some start => some (.literal (cs.take start), cs.drop start)
  | none => some (.literal cs, [])

/-! ## What a round can do -/

/-- What a round makes of a text that is not empty. -/
inductive Round : List Char → Option (Piece × List Char) → Prop
  /-- No variable is left. -/
  | last {text : List Char} (hne : text ≠ []) (hb : '{' ∉ text) :
      Round text (some (.literal text, []))
  /-- There is text before the next variable. -/
  | literal {text cs : List Char} (hne : text ≠ []) (hb : '{' ∉ text) :
      Round (text ++ '{' :: cs) (some (.literal text, '{' :: cs))
  /-- A variable is next. -/
  | variable {name cs : List Char} (hne : name ≠ []) (hb : '}' ∉ name) :
      Round ('{' :: (name ++ '}' :: cs)) (some (.variable name, cs))
  /-- The variable has no end. -/
  | unclosed {cs : List Char} (hb : '}' ∉ cs) : Round ('{' :: cs) none
  /-- The variable has no name. -/
  | unnamed {cs : List Char} : Round ('{' :: '}' :: cs) none

variable {cs text name rest : List Char} {p : Piece}

theorem idxOf?_append_cons {c : Char} {before after : List Char} (h : c ∉ before) :
    (before ++ c :: after).idxOf? c = some before.length := by
  induction before with
  | nil => simp [List.idxOf?_cons]
  | cons d before ih =>
    obtain ⟨hd, hbefore⟩ := not_or.1 (List.mem_cons.not.1 h)
    simp [List.idxOf?_cons, Ne.symm hd, ih hbefore]

theorem idxOf?_brace : ('{' :: cs).idxOf? '{' = some 0 := idxOf?_append_cons List.not_mem_nil

theorem round?_of_not_mem (hb : '{' ∉ cs) : round? cs = some (.literal cs, []) := by
  rw [round?, List.idxOf?_eq_none_iff.2 hb]

theorem round?_literal (hne : text ≠ []) (hb : '{' ∉ text) :
    round? (text ++ '{' :: cs) = some (.literal text, '{' :: cs) := by
  obtain ⟨c, text, rfl⟩ := List.exists_cons_of_ne_nil hne
  rw [round?, idxOf?_append_cons hb]
  simp

theorem round?_unclosed (hb : '}' ∉ cs) : round? ('{' :: cs) = none := by
  have hnone : ('{' :: cs).idxOf? '}' = none := by simpa [List.idxOf?_eq_none_iff] using hb
  rw [round?, idxOf?_brace]
  simp [hnone]

/-- A round on a variable goes up to the first closing brace, and wants a name. -/
theorem round?_variable (hb : '}' ∉ name) :
    round? ('{' :: (name ++ '}' :: cs)) =
      if name = [] then none else some (.variable name, cs) := by
  have hstop : ('{' :: (name ++ '}' :: cs)).idxOf? '}' = some (name.length + 1) :=
    @idxOf?_append_cons '}' ('{' :: name) cs (by simpa using hb)
  rw [round?, idxOf?_brace]
  simp [hstop]

/-- Every round is one of these. -/
theorem round_round? (h : cs ≠ []) : Round cs (round? cs) := by
  by_cases hopen : '{' ∈ cs
  · obtain ⟨text, cs, rfl, hb⟩ := List.eq_append_cons_of_mem hopen
    by_cases hne : text = []
    · subst hne
      rw [List.nil_append]
      by_cases hclose : '}' ∈ cs
      · obtain ⟨name, cs, rfl, hb⟩ := List.eq_append_cons_of_mem hclose
        rw [round?_variable hb]
        split
        · next hname =>
          subst hname
          exact .unnamed
        · next hname => exact .variable hname hb
      · rw [round?_unclosed hclose]
        exact .unclosed hclose
    · rw [round?_literal hne hb]
      exact .literal hne hb
  · rw [round?_of_not_mem hopen]
    exact .last h hopen

/-- A round takes its piece off the front of the text, and that is some text. -/
theorem Round.consumes (h : Round cs (some (p, rest))) :
    p.render ++ rest = cs ∧ p.render ≠ [] := by
  cases h with
  | last hne _ => exact ⟨List.append_nil _, hne⟩
  | literal hne _ => exact ⟨rfl, hne⟩
  | «variable» _ _ => exact ⟨render_variable_append, List.cons_ne_nil _ _⟩

theorem Round.length_lt (h : Round cs (some (p, rest))) : rest.length < cs.length := by
  obtain ⟨rfl, hne⟩ := h.consumes
  have := List.length_pos_iff.2 hne
  rw [List.length_append]
  omega

/-! ## The loop -/

/-- The pieces of the text that is left, behind those that were read before. -/
def readRounds (read : List Piece) (cs : List Char) : Option (List Piece) :=
  if hne : cs = [] then some read
  else
    match hr : round? cs with
    | none => none
    | some (p, rest) =>
      have : rest.length < cs.length := (hr ▸ round_round? hne).length_lt
      readRounds (read ++ [p]) rest
termination_by cs.length

/-- The pieces of a text that starts with a brace start with a variable. -/
theorem isVariable_of_pieces?_brace {ps : List Piece} (h : pieces? ('{' :: cs) = some ps) :
    ∀ q ∈ ps.head?, q.isVariable := by
  obtain ⟨hneat, hrender⟩ := pieces?_eq_some_iff.1 h
  rintro (text | name) hq
  · obtain ⟨ps, rfl⟩ := List.head?_eq_some_iff.1 hq
    obtain ⟨hne, hb⟩ := (neat_cons.1 hneat).1
    obtain ⟨c, text, rfl⟩ := List.exists_cons_of_ne_nil hne
    obtain ⟨rfl, -⟩ := List.cons.inj hrender
    exact absurd List.mem_cons_self hb
  · rfl

/-- A round reads the first piece of the text, and leaves the others in the rest. -/
theorem Round.pieces?_eq {r : Option (Piece × List Char)} (h : Round cs r) :
    pieces? cs = r.bind fun q => (pieces? q.2).map (q.1 :: ·) := by
  cases h with
  | last hne hb =>
    have hnil : pieces? [] = some [] := rfl
    simpa [hnil] using pieces?_literal hne hb hnil (by simp)
  | @literal text cs hne hb =>
    cases hrest : pieces? ('{' :: cs) with
    | none => simpa [hrest] using pieces?_literal_none hb hrest
    | some ps =>
      simpa [hrest] using pieces?_literal hne hb hrest (isVariable_of_pieces?_brace hrest)
  | «variable» hne hb => exact pieces?_variable hb hne
  | unclosed hb => exact pieces?_brace.trans (afterBrace?_of_not_mem hb)
  | unnamed => rfl

theorem readRounds_eq (read : List Piece) (cs : List Char) :
    readRounds read cs = (pieces? cs).map (read ++ ·) := by
  -- By the recursion of the loop: what a round reads goes behind what was read before.
  fun_induction readRounds read cs with
  | case1 read => simp [pieces?]
  | case2 read cs hne hr =>
    rw [(round_round? hne).pieces?_eq, hr, Option.bind_none, Option.map_none]
  | case3 read cs hne p rest hr _ ih =>
    rw [ih, (round_round? hne).pieces?_eq, hr, Option.bind_some, Option.map_map]
    simp [Function.comp_def]

/-- **Reading a template.** A template is refused exactly if, past some pieces, a brace
    opens a variable that has no end or no name. Otherwise it is read as the pieces that
    have its text, where no literal is empty or holds an opening brace, no two literals
    meet, and no name is empty or holds a closing brace; and no other pieces are so.

    They are what the loop reads, and each of its rounds takes a piece off the front of
    the text that is left, at least one character of it. -/
theorem parse_rounds (template : String) :
    (parse? template = none ↔ Malformed template.toList) ∧
      (∀ ps, parse? template = some ps ↔ Neat ps ∧ render ps = template.toList) ∧
      parse? template = readRounds [] template.toList ∧
      ∀ cs, cs ≠ [] → ∀ p rest, round? cs = some (p, rest) →
        p.render ++ rest = cs ∧ rest.length < cs.length := by
  refine ⟨pieces?_eq_none_iff, fun ps => pieces?_eq_some_iff, ?_, fun cs hne p rest h => ?_⟩
  · rw [readRounds_eq]
    simp [parse?]
  · have hround : Round cs (some (p, rest)) := h ▸ round_round? hne
    exact ⟨hround.consumes.1, hround.length_lt⟩

/-- The first round takes the text before the variable. -/
theorem parse_rounds_weather :
    let template := "weather:{city}"
    let rest := "{city}".toList
    round? template.toList = some (.literal "weather:".toList, rest) ∧
      rest.length < template.toList.length ∧
      parse? template = some [.literal "weather:".toList, .variable "city".toList] := by
  intro template rest
  have hround : round? template.toList = some (.literal "weather:".toList, rest) := by
    decide +kernel
  have hneat : Neat [.literal "weather:".toList, .variable "city".toList] := by
    simp [neat_cons, neat_nil, Piece.IsProper, Piece.isVariable]
  obtain ⟨-, hparse, -, hconsumes⟩ := parse_rounds template
  exact ⟨hround, (hconsumes _ (by decide) _ _ hround).2, (hparse _).2 ⟨hneat, by decide +kernel⟩⟩

end UriTemplate

end ContextServer
