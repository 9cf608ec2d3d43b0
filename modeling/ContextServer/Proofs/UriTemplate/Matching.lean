import ContextServer.Proofs.Dict
import ContextServer.Proofs.UriTemplate.Pieces

/-!
# Leftmost decompositions

A URI is an instance of a template if it is the text of the pieces with a value in
place of every variable. Which values those are is settled by the literals: a value
ends where the literal behind it first occurs, counted from the start of the value
(`Decomposes`). Without two variables in a row there is then one choice at most, and
it is the one that the matcher finds from left to right
(`bindings?_eq_some_iff`).

A text that was made by filling in values is decomposed into them again exactly if no
literal starts within the value before it (`decomposes_fill_iff`), as `b` does in `{a}b`
filled with `xb`. None does if every literal behind a variable starts with a slash, which
no value has (`decomposes_fill`).
-/

namespace ContextServer

namespace UriTemplate

/-- The value of every variable, from left to right. -/
abbrev Bindings := List (List Char × List Char)

/-- No occurrence of `pattern` in `value ++ rest` starts within `value`. -/
def NotWithin (pattern value rest : List Char) : Prop :=
  ∀ before after, value ++ rest = before ++ pattern ++ after → value.length ≤ before.length

/-- The text is that of the pieces, with the bound value in place of every variable.
    A value is not empty, has no slash and ends at the first occurrence of the literal
    behind it. -/
inductive Decomposes : List Piece → Bindings → List Char → Prop
  | nil : Decomposes [] [] []
  | literal (text : List Char) {ps : List Piece} {bs : Bindings} {rest : List Char}
      (h : Decomposes ps bs rest) :
      Decomposes (.literal text :: ps) bs (text ++ rest)
  | variable (name : List Char) {value rest : List Char} {ps : List Piece} {bs : Bindings}
      (nonempty : value ≠ []) (slashless : '/' ∉ value)
      (first : ∀ text, ps.head? = some (.literal text) → NotWithin text value rest)
      (h : Decomposes ps bs rest) :
      Decomposes (.variable name :: ps) ((name, value) :: bs) (value ++ rest)

/-- No variable follows a variable. -/
def Apart (ps : List Piece) : Prop := ps.IsChain fun p q => ¬(p.isVariable ∧ q.isVariable)

variable {cs text name value rest : List Char} {p : Piece} {ps qs : List Piece}
  {bs : Bindings}

/-! ## Where a value ends -/

theorem notWithin_nil {pattern : List Char} : NotWithin pattern [] rest :=
  fun _ _ _ => Nat.zero_le _

theorem notWithin_cons {pattern : List Char} {c : Char} :
    NotWithin pattern (c :: value) rest ↔
      ¬pattern <+: c :: (value ++ rest) ∧ NotWithin pattern value rest := by
  constructor
  · intro h
    refine ⟨?_, fun before after heq => ?_⟩
    · rintro ⟨after, heq⟩
      exact absurd (h [] after heq.symm) (Nat.not_succ_le_zero _)
    · exact Nat.le_of_succ_le_succ (h (c :: before) after (congrArg (c :: ·) heq))
  · rintro ⟨hc, h⟩ before after heq
    cases before with
    | nil => exact absurd ⟨after, heq.symm⟩ hc
    | cons d before => exact Nat.succ_le_succ (h before after (List.cons_eq_cons.1 heq).2)

theorem splitAtFirst?_eq_some_iff {pattern : List Char} :
    splitAtFirst? pattern cs = some (value, rest) ↔
      cs = value ++ rest ∧ pattern <+: rest ∧ NotWithin pattern value rest := by
  induction cs generalizing value with
  | nil =>
    rw [splitAtFirst?]
    constructor
    · intro h
      split at h
      · next hp =>
        cases h
        exact ⟨rfl, hp ▸ List.nil_prefix, notWithin_nil⟩
      · cases h
    · rintro ⟨hcs, hp, -⟩
      obtain ⟨rfl, rfl⟩ := List.nil_eq_append_iff.1 hcs
      rw [if_pos (List.prefix_nil.1 hp)]
  | cons c cs ih =>
    rw [splitAtFirst?]
    split
    · next hp =>
      rw [List.isPrefixOf_iff_prefix] at hp
      constructor
      · intro h
        cases h
        exact ⟨rfl, hp, notWithin_nil⟩
      · rintro ⟨hcs, -, hw⟩
        cases value with
        | nil => rw [hcs, List.nil_append]
        | cons d value =>
          obtain ⟨rfl, rfl⟩ := List.cons_eq_cons.1 hcs
          exact absurd hp (notWithin_cons.1 hw).1
    · next hp =>
      rw [List.isPrefixOf_iff_prefix] at hp
      rw [Option.map_eq_some_iff]
      constructor
      · rintro ⟨⟨before, rest⟩, h, heq⟩
        cases heq
        obtain ⟨rfl, hr, hw⟩ := ih.1 h
        exact ⟨rfl, hr, notWithin_cons.2 ⟨hp, hw⟩⟩
      · rintro ⟨hcs, hr, hw⟩
        cases value with
        | nil =>
          rw [hcs] at hp
          exact absurd hr hp
        | cons d value =>
          obtain ⟨rfl, rfl⟩ := List.cons_eq_cons.1 hcs
          exact ⟨(value, rest), ih.2 ⟨rfl, hr, (notWithin_cons.1 hw).2⟩, rfl⟩

theorem isValue_iff : isValue value = true ↔ value ≠ [] ∧ '/' ∉ value := by
  simp [isValue]

/-! ## The matcher -/

theorem apart_cons : Apart (p :: ps) ↔
    (∀ q ∈ ps.head?, ¬(p.isVariable ∧ q.isVariable)) ∧ Apart ps := List.isChain_cons

theorem decomposes_nil : Decomposes [] bs cs ↔ bs = [] ∧ cs = [] := by
  constructor
  · intro h
    cases h
    exact ⟨rfl, rfl⟩
  · rintro ⟨rfl, rfl⟩
    exact .nil

theorem decomposes_literal : Decomposes (.literal text :: ps) bs cs ↔
    ∃ rest, cs = text ++ rest ∧ Decomposes ps bs rest := by
  constructor
  · intro h
    cases h with
    | literal _ h => exact ⟨_, rfl, h⟩
  · rintro ⟨rest, rfl, h⟩
    exact .literal text h

theorem decomposes_variable : Decomposes (.variable name :: ps) bs cs ↔
    ∃ value rest bs', cs = value ++ rest ∧ bs = (name, value) :: bs' ∧
      isValue value = true ∧
      (∀ text, ps.head? = some (.literal text) → NotWithin text value rest) ∧
      Decomposes ps bs' rest := by
  constructor
  · intro h
    cases h with
    | «variable» _ hne hs hf h => exact ⟨_, _, _, rfl, rfl, isValue_iff.2 ⟨hne, hs⟩, hf, h⟩
  · rintro ⟨value, rest, bs', rfl, rfl, hv, hf, h⟩
    exact .variable name (isValue_iff.1 hv).1 (isValue_iff.1 hv).2 hf h

/-- The value is cut where it ends in a decomposition, if there is no variable behind
    it. -/
theorem splitValue?_eq_some_iff (h : Decomposes ps bs rest) :
    splitValue? ps cs = some (value, rest) ↔ cs = value ++ rest ∧
      (∀ q ∈ ps.head?, q.isVariable = false) ∧
      ∀ text, ps.head? = some (.literal text) → NotWithin text value rest := by
  match ps, h with
  | [], h =>
    obtain ⟨-, rfl⟩ := decomposes_nil.1 h
    simp [splitValue?]
  | .variable _ :: _, _ => simp [splitValue?, Piece.isVariable]
  | .literal text :: _, h =>
    obtain ⟨rest', rfl, -⟩ := decomposes_literal.1 h
    simp [splitValue?, splitAtFirst?_eq_some_iff, Piece.isVariable]

theorem apart_cons_literal : Apart (.literal text :: ps) ↔ Apart ps := by
  simp [apart_cons, Piece.isVariable]

theorem apart_cons_variable : Apart (.variable name :: ps) ↔
    (∀ q ∈ ps.head?, q.isVariable = false) ∧ Apart ps := by
  simp [apart_cons, Piece.isVariable]

/-- The matcher finds exactly the decomposition, unless two variables are adjacent. -/
theorem bindings?_eq_some_iff :
    bindings? ps cs = some bs ↔ Apart ps ∧ Decomposes ps bs cs := by
  induction ps generalizing cs bs with
  | nil =>
    rw [bindings?, decomposes_nil]
    split
    · next h =>
      rw [Option.some.injEq, eq_comm]
      exact ⟨fun hbs => ⟨List.isChain_nil, hbs, h⟩, fun hd => hd.2.1⟩
    · next h => exact ⟨nofun, fun hd => absurd hd.2.2 h⟩
  | cons p ps ih =>
    match p with
    | .literal text =>
      rw [bindings?, apart_cons_literal, decomposes_literal]
      constructor
      · intro h
        split at h
        · next rest hp =>
          obtain ⟨hapart, hrest⟩ := ih.1 h
          exact ⟨hapart, rest, (List.isPrefixOf?_eq_some_iff_append_eq.1 hp).symm, hrest⟩
        · cases h
      · rintro ⟨hapart, rest, rfl, hrest⟩
        rw [List.isPrefixOf?_eq_some_iff_append_eq.2 rfl]
        exact ih.2 ⟨hapart, hrest⟩
    | .variable name =>
      rw [bindings?, apart_cons_variable, decomposes_variable]
      constructor
      · intro h
        split at h
        · next value rest hsplit =>
          split at h
          · next hvalue =>
            obtain ⟨bs', hbs, rfl⟩ := Option.map_eq_some_iff.1 h
            -- Where the value ends can be told once the rest is known to decompose.
            obtain ⟨hapart, hrest⟩ := ih.1 hbs
            obtain ⟨rfl, hlit, hfirst⟩ := (splitValue?_eq_some_iff hrest).1 hsplit
            exact ⟨⟨hlit, hapart⟩, value, rest, bs', rfl, rfl, hvalue, hfirst, hrest⟩
          · cases h
        · cases h
      · rintro ⟨⟨hlit, hapart⟩, value, rest, bs', rfl, rfl, hvalue, hfirst, hrest⟩
        rw [(splitValue?_eq_some_iff hrest).2 ⟨rfl, hlit, hfirst⟩]
        simp only [hvalue, if_true]
        rw [ih.2 ⟨hapart, hrest⟩, Option.map_some]

theorem Decomposes.unique {bs' : Bindings} (hps : Apart ps) (h : Decomposes ps bs cs)
    (h' : Decomposes ps bs' cs) : bs = bs' :=
  Option.some.inj
    ((bindings?_eq_some_iff.2 ⟨hps, h⟩).symm.trans (bindings?_eq_some_iff.2 ⟨hps, h'⟩))

/-! ## Filling in values -/

/-- The names of the variables, from left to right. -/
def names (ps : List Piece) : List (List Char) :=
  ps.filterMap fun
    | .literal _ => none
    | .variable name => some name

/-- The text of the pieces with the given values in place of the variables, from left
    to right. -/
def fill : List Piece → List (List Char) → List Char
  | [], _ => []
  | .literal text :: ps, values => text ++ fill ps values
  | .variable _ :: ps, values => values.headD [] ++ fill ps values.tail

/-- No value breaks off early: the literal behind it does not start within it. -/
def Unbroken : List Piece → List (List Char) → Prop
  | [], _ => True
  | .literal _ :: ps, values => Unbroken ps values
  | .variable _ :: ps, values =>
    (∀ text, ps.head? = some (.literal text) →
      NotWithin text (values.headD []) (fill ps values.tail)) ∧ Unbroken ps values.tail

/-- A text is decomposed by filling in: the values are those that it was filled in with,
    and none breaks off early. -/
theorem decomposes_iff : Decomposes ps bs cs ↔
    bs.map (·.1) = names ps ∧ (∀ b ∈ bs, b.2 ≠ [] ∧ '/' ∉ b.2) ∧
      Unbroken ps (bs.map (·.2)) ∧ fill ps (bs.map (·.2)) = cs := by
  induction ps generalizing bs cs with
  | nil =>
    rw [decomposes_nil]
    constructor
    · rintro ⟨rfl, rfl⟩
      exact ⟨rfl, by simp, trivial, rfl⟩
    · rintro ⟨hnames, -, -, hcs⟩
      exact ⟨List.map_eq_nil_iff.1 hnames, hcs.symm⟩
  | cons p ps ih =>
    match p with
    | .literal text =>
      rw [decomposes_literal]
      constructor
      · rintro ⟨rest, rfl, h⟩
        obtain ⟨hnames, hv, hu, rfl⟩ := ih.1 h
        exact ⟨hnames, hv, hu, rfl⟩
      · rintro ⟨hnames, hv, hu, rfl⟩
        exact ⟨_, rfl, ih.2 ⟨hnames, hv, hu, rfl⟩⟩
    | .variable name =>
      rw [decomposes_variable]
      constructor
      · rintro ⟨value, rest, bs', rfl, rfl, hvalue, hfirst, h⟩
        obtain ⟨hnames, hv, hu, rfl⟩ := ih.1 h
        exact ⟨congrArg (name :: ·) hnames,
          List.forall_mem_cons.2 ⟨isValue_iff.1 hvalue, hv⟩, ⟨hfirst, hu⟩, rfl⟩
      · rintro ⟨hnames, hv, hu, rfl⟩
        cases bs with
        | nil => cases hnames
        | cons b bs =>
          obtain ⟨rfl, htail⟩ := List.cons_eq_cons.1 hnames
          obtain ⟨hvalue, hv⟩ := List.forall_mem_cons.1 hv
          exact ⟨b.2, _, bs, rfl, rfl, isValue_iff.2 hvalue, hu.1, ih.2 ⟨htail, hv, hu.2, rfl⟩⟩

/-- What was filled in is decomposed into the same values again exactly if none of them
    breaks off early. -/
theorem decomposes_fill_iff {values : List (List Char)}
    (hlen : values.length = (names ps).length) (hv : ∀ v ∈ values, v ≠ [] ∧ '/' ∉ v) :
    Decomposes ps ((names ps).zip values) (fill ps values) ↔ Unbroken ps values := by
  rw [decomposes_iff, List.map_fst_zip (Nat.le_of_eq hlen.symm),
    List.map_snd_zip (Nat.le_of_eq hlen)]
  exact ⟨fun h => h.2.2.1, fun hu => ⟨rfl, fun b hb => hv b.2 (List.of_mem_zip hb).2, hu, rfl⟩⟩

/-- Every literal behind a variable starts with a slash. -/
def SlashBehind (ps : List Piece) : Prop :=
  ps.IsChain fun p q => p.isVariable → ∀ text, q = .literal text → text.head? = some '/'

/-- Nothing starts within a value that does not have its first character. -/
theorem notWithin_of_head {c : Char} (hv : c ∉ value) (ht : text.head? = some c) :
    NotWithin text value rest := by
  obtain ⟨text, rfl⟩ := List.head?_eq_some_iff.1 ht
  intro before after heq
  rw [List.append_assoc] at heq
  rcases List.append_eq_append_iff.1 heq with ⟨more, rfl, -⟩ | ⟨more, rfl, hmore⟩
  · simp
  · cases more with
    | nil => simp
    | cons c more =>
      obtain ⟨rfl, -⟩ := List.cons_eq_cons.1 hmore
      simp at hv

/-- Values have no slash, so nothing that starts with one breaks them off. -/
theorem SlashBehind.unbroken {values : List (List Char)} (hps : SlashBehind ps)
    (hv : ∀ v ∈ values, '/' ∉ v) : Unbroken ps values := by
  induction ps generalizing values with
  | nil => exact trivial
  | cons p ps ih =>
    obtain ⟨hslash, hbehind⟩ := List.isChain_cons.1 hps
    match p with
    | .literal text => exact ih hbehind hv
    | .variable name =>
      have hhead : '/' ∉ values.headD [] := by
        cases values with
        | nil => exact List.not_mem_nil
        | cons value values => exact hv value List.mem_cons_self
      refine ⟨fun text htext => notWithin_of_head hhead ?_,
        ih hbehind fun v hmem => hv v (List.mem_of_mem_tail hmem)⟩
      exact hslash _ htext rfl text rfl

/-- What was filled in with values is decomposed into them again. -/
theorem decomposes_fill {values : List (List Char)} (hps : SlashBehind ps)
    (hlen : values.length = (names ps).length) (hv : ∀ v ∈ values, v ≠ [] ∧ '/' ∉ v) :
    Decomposes ps ((names ps).zip values) (fill ps values) :=
  (decomposes_fill_iff hlen hv).2 (hps.unbroken fun v hmem => (hv v hmem).2)

/-! ## Templates and URIs -/

/-- The bindings as texts. -/
def texts (bs : Bindings) : List (String × String) :=
  bs.map fun (name, value) => (String.ofList name, String.ofList value)

/-- The template has these pieces, no two variables are adjacent, and the URI is their
    text with these values. -/
structure Leftmost (template uri : String) (ps : List Piece) (bs : Bindings) : Prop where
  neat : Neat ps
  text : render ps = template.toList
  apart : Apart ps
  values : Decomposes ps bs uri.toList

/-- `d` has under every name the value of its last variable. -/
def IsLast (bs : Bindings) (d : Dict String) : Prop :=
  ∀ name value, d.get? name = some value ↔
    ∃ before after, texts bs = before ++ (name, value) :: after ∧ name ∉ after.map (·.1)

theorem isLast_iff {d : Dict String} : IsLast bs d ↔ d = .ofList (texts bs) := by
  have hlast : IsLast bs (.ofList (texts bs)) :=
    fun _ _ => Entries.lookup_sort_eq_some_iff
  constructor
  · intro h
    exact Dict.ext_get? fun k => Option.ext fun v => (h k v).trans (hlast k v).symm
  · rintro rfl
    exact hlast

theorem match?_eq_some_iff {template uri : String} {d : Dict String} :
    match? template uri = some d ↔ ∃ ps bs, Leftmost template uri ps bs ∧ IsLast bs d := by
  simp only [match?, parse?, Option.bind_eq_bind, Option.bind_eq_some_iff, pieces?_eq_some_iff,
    bindings?_eq_some_iff, isLast_iff, Option.some.injEq]
  constructor
  · rintro ⟨ps, ⟨hneat, htext⟩, bs, ⟨hapart, hvalues⟩, rfl⟩
    exact ⟨ps, bs, ⟨hneat, htext, hapart, hvalues⟩, rfl⟩
  · rintro ⟨ps, bs, ⟨hneat, htext, hapart, hvalues⟩, rfl⟩
    exact ⟨ps, ⟨hneat, htext⟩, bs, ⟨hapart, hvalues⟩, rfl⟩

theorem Leftmost.found {template uri : String} (h : Leftmost template uri ps bs) :
    ∃ d, match? template uri = some d ∧ IsLast bs d := by
  have hlast : IsLast bs (.ofList (texts bs)) := isLast_iff.2 rfl
  exact ⟨_, match?_eq_some_iff.2 ⟨ps, bs, h, hlast⟩, hlast⟩

theorem Leftmost.unique {template uri : String} {bs' : Bindings}
    (h : Leftmost template uri ps bs) (h' : Leftmost template uri qs bs') :
    qs = ps ∧ bs' = bs := by
  obtain rfl := h'.neat.eq_of_render h.neat (h'.text.trans h.text.symm)
  exact ⟨rfl, h'.values.unique h.apart h.values⟩

/-- **Leftmost matching.** A template has pieces unless a brace in it opens a variable
    without end or name. A URI matches exactly if it has a leftmost decomposition by the
    pieces; there is one at most, and what is reported is, for every name, the value of
    its last variable. Values without slashes that are filled into a template are found
    again if no two of its variables are adjacent and every literal behind a variable
    starts with a slash. -/
theorem match_leftmost (template uri : String) :
    ((∃ ps, Neat ps ∧ render ps = template.toList) ↔ ¬Malformed template.toList) ∧
    ((∃ d, match? template uri = some d) ↔ ∃ ps bs, Leftmost template uri ps bs) ∧
    (∀ ps bs, Leftmost template uri ps bs →
      (∀ qs bs', Leftmost template uri qs bs' → qs = ps ∧ bs' = bs) ∧
      ∃ d, match? template uri = some d ∧ IsLast bs d) ∧
    (∀ ps values, Neat ps → render ps = template.toList → Apart ps → SlashBehind ps →
      values.length = (names ps).length → (∀ v ∈ values, v ≠ [] ∧ '/' ∉ v) →
      uri.toList = fill ps values →
      ∃ d, match? template uri = some d ∧ IsLast ((names ps).zip values) d) := by
  refine ⟨?_, ?_, fun ps bs h => ⟨fun qs bs' h' => h.unique h', h.found⟩, ?_⟩
  · simp only [← pieces?_eq_some_iff, ← pieces?_eq_none_iff, Option.ne_none_iff_exists']
  · constructor
    · rintro ⟨d, h⟩
      obtain ⟨ps, bs, h, -⟩ := match?_eq_some_iff.1 h
      exact ⟨ps, bs, h⟩
    · rintro ⟨ps, bs, h⟩
      obtain ⟨d, h, -⟩ := h.found
      exact ⟨d, h⟩
  · intro ps values hneat htext hapart hslash hlen hv huri
    have h : Leftmost template uri ps ((names ps).zip values) :=
      ⟨hneat, htext, hapart, huri ▸ decomposes_fill hslash hlen hv⟩
    exact h.found

/-- Values that are filled into a template are found again, and of two values of one name it
    is the last that is reported. -/
theorem match_leftmost_repeated :
    let ps : List Piece := [.literal ['/'], .variable ['x'], .literal ['/'], .variable ['x']]
    Neat ps ∧ Apart ps ∧ SlashBehind ps ∧
      ∃ d, match? "/{x}/{x}" "/1/2" = some d ∧ d.get? "x" = some "2" := by
  intro ps
  have hneat : Neat ps := ⟨by simp [ps, Piece.IsProper], by simp [ps, Piece.isVariable]⟩
  have hapart : Apart ps := by simp [ps, Apart, Piece.isVariable]
  have hslash : SlashBehind ps := by simp [ps, SlashBehind]
  obtain ⟨-, -, -, hfilled⟩ := match_leftmost "/{x}/{x}" "/1/2"
  obtain ⟨d, hd, hlast⟩ := hfilled ps [['1'], ['2']] hneat (by decide +kernel) hapart hslash rfl
    (by decide) (by decide +kernel)
  exact ⟨hneat, hapart, hslash, d, hd, (hlast "x" "2").2 ⟨[("x", "1")], [], rfl, by simp⟩⟩

-- The value is empty up to the first `b`, although `bb` is `b` filled in.
example : match? "{a}b" "bb" = none := by decide +kernel

end UriTemplate

end ContextServer
