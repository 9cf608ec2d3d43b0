import ContextServer.UriTemplate
import Mathlib.Data.List.Basic
import Mathlib.Data.List.Chain

/-!
# Templates and their pieces

The pieces of a template are the one way to write it as a sequence of literals
and variables in which nothing could have been read differently (`Neat`): a
literal is not empty, holds no opening brace and goes as far as it can, so that
no two literals meet; a name is not empty and ends at the first closing brace.

* `pieces?_eq_some_iff`: a template has these pieces exactly if they are neat
  and their text is the template.
* `pieces?_eq_none_iff`: it has none exactly if, after some pieces, a brace opens
  a variable that has no end or no name (`Malformed`).
* `Neat.eq_of_render`: a text is written by one neat sequence at most.
-/

namespace ContextServer

namespace UriTemplate

/-- The piece is a variable. -/
def Piece.isVariable : Piece → Bool
  | .literal _ => false
  | .variable _ => true

/-- What a template can hold as one piece: some text without an opening brace, or
    a name without a closing one. -/
def Piece.IsProper : Piece → Prop
  | .literal text => text ≠ [] ∧ '{' ∉ text
  | .variable name => name ≠ [] ∧ '}' ∉ name

/-- The pieces are what they are read as: each is proper, and no literal follows a
    literal. -/
structure Neat (ps : List Piece) : Prop where
  proper : ∀ p ∈ ps, p.IsProper
  maximal : ps.IsChain fun p q => p.isVariable ∨ q.isVariable

/-- Past some pieces the template has an opening brace without a closing one, or with
    a closing one right behind it. -/
def Malformed (template : List Char) : Prop :=
  ∃ ps rest, Neat ps ∧ template = render ps ++ '{' :: rest ∧
    ('}' ∉ rest ∨ rest.head? = some '}')

variable {cs text name more : List Char} {p : Piece} {ps qs : List Piece}

theorem neat_nil : Neat [] := ⟨by simp, List.isChain_nil⟩

theorem neat_cons : Neat (p :: ps) ↔
    p.IsProper ∧ (∀ q ∈ ps.head?, p.isVariable ∨ q.isVariable) ∧ Neat ps := by
  constructor
  · rintro ⟨hp, hm⟩
    obtain ⟨hq, hm⟩ := List.isChain_cons.1 hm
    exact ⟨hp p List.mem_cons_self, hq, fun q h => hp q (List.mem_cons_of_mem p h), hm⟩
  · rintro ⟨hp, hq, hps, hm⟩
    exact ⟨List.forall_mem_cons.2 ⟨hp, hps⟩, List.isChain_cons.2 ⟨hq, hm⟩⟩

theorem neat_cons_variable : Neat (.variable name :: ps) ↔
    name ≠ [] ∧ '}' ∉ name ∧ Neat ps := by
  simp [neat_cons, Piece.IsProper, Piece.isVariable, and_assoc]

@[simp] theorem render_nil : render [] = [] := rfl

@[simp] theorem render_cons : render (p :: ps) = p.render ++ render ps := rfl

theorem render_variable_append :
    (Piece.variable name).render ++ cs = '{' :: (name ++ '}' :: cs) := by
  rw [Piece.render, List.cons_append, List.append_assoc, List.singleton_append]

theorem render_consLiteral (c : Char) : render (consLiteral c ps) = c :: render ps := by
  match ps with
  | [] => rfl
  | .literal _ :: _ => rfl
  | .variable _ :: _ => rfl

theorem Neat.consLiteral {c : Char} (hc : c ≠ '{') (h : Neat ps) : Neat (consLiteral c ps) := by
  match ps, h with
  | [], _ => exact neat_cons.2 ⟨⟨by simp, by simpa using hc.symm⟩, by simp, neat_nil⟩
  | .variable name :: ps, h =>
    exact neat_cons.2 ⟨⟨by simp, by simpa using hc.symm⟩, by simp [Piece.isVariable], h⟩
  | .literal text :: ps, h =>
    obtain ⟨hp, hq, hps⟩ := neat_cons.1 h
    refine neat_cons.2 ⟨⟨by simp, ?_⟩, hq, hps⟩
    exact List.mem_cons.not.2 (not_or.2 ⟨hc.symm, hp.2⟩)

/-! ## Where the reader stands -/

theorem pieces?_cons {c : Char} (h : c ≠ '{') :
    pieces? (c :: cs) = (pieces? cs).map (consLiteral c) := by
  rw [pieces?, if_neg h]

theorem pieces?_brace : pieces? ('{' :: cs) = afterBrace? [] cs := by
  rw [pieces?, if_pos rfl]

/-- A variable that is not closed is no piece. -/
theorem afterBrace?_of_not_mem (h : '}' ∉ cs) : afterBrace? name cs = none := by
  induction cs generalizing name with
  | nil => rw [afterBrace?]
  | cons c cs ih =>
    obtain ⟨hc, hcs⟩ := not_or.1 (List.mem_cons.not.1 h)
    rw [afterBrace?, if_neg (Ne.symm hc), ih hcs]

/-- A variable ends at the first brace that closes it. -/
theorem afterBrace?_append (h : '}' ∉ more) :
    afterBrace? name (more ++ '}' :: cs) =
      if name ++ more = [] then none
      else (pieces? cs).map (.variable (name ++ more) :: ·) := by
  induction more generalizing name with
  | nil => rw [List.nil_append, afterBrace?, if_pos rfl, List.append_nil]
  | cons c more ih =>
    obtain ⟨hc, hmore⟩ := not_or.1 (List.mem_cons.not.1 h)
    rw [List.cons_append, afterBrace?, if_neg (Ne.symm hc), ih hmore, List.append_assoc,
      List.singleton_append]

theorem pieces?_variable (hb : '}' ∉ name) (hne : name ≠ []) :
    pieces? ('{' :: (name ++ '}' :: cs)) = (pieces? cs).map (.variable name :: ·) := by
  rw [pieces?_brace, afterBrace?_append hb, List.nil_append, if_neg hne]

/-- A literal in front of a template is read as one piece, unless there is a literal
    for it to join. -/
theorem pieces?_literal (hne : text ≠ []) (hb : '{' ∉ text) (h : pieces? cs = some ps)
    (hq : ∀ q ∈ ps.head?, q.isVariable) :
    pieces? (text ++ cs) = some (.literal text :: ps) := by
  induction text with
  | nil => exact absurd rfl hne
  | cons c text ih =>
    obtain ⟨hc, hb⟩ := not_or.1 (List.mem_cons.not.1 hb)
    rw [List.cons_append, pieces?_cons (Ne.symm hc)]
    by_cases hnil : text = []
    · subst hnil
      rw [List.nil_append, h, Option.map_some]
      match ps with
      | [] => rfl
      | .variable _ :: _ => rfl
      | .literal _ :: _ => simp [Piece.isVariable] at hq
    · rw [ih hnil hb, Option.map_some, consLiteral]

theorem pieces?_literal_none (hb : '{' ∉ text) (h : pieces? cs = none) :
    pieces? (text ++ cs) = none := by
  induction text with
  | nil => exact h
  | cons c text ih =>
    obtain ⟨hc, hb⟩ := not_or.1 (List.mem_cons.not.1 hb)
    rw [List.cons_append, pieces?_cons (Ne.symm hc), ih hb, Option.map_none]

/-! ## What is written is read -/

theorem Neat.pieces?_render (h : Neat ps) : pieces? (render ps) = some ps := by
  induction ps with
  | nil => rfl
  | cons p ps ih =>
    obtain ⟨hp, hq, hps⟩ := neat_cons.1 h
    match p, hp, hq with
    | .literal text, hp, hq =>
      refine pieces?_literal hp.1 hp.2 (ih hps) fun q hmem => ?_
      exact (hq q hmem).resolve_left (by simp [Piece.isVariable])
    | .variable name, hp, _ =>
      rw [render_cons, render_variable_append, pieces?_variable hp.2 hp.1, ih hps,
        Option.map_some]

/-- Pieces in front of a text that is no template do not make it one. -/
theorem Neat.pieces?_render_append (h : Neat ps) (hcs : pieces? cs = none) :
    pieces? (render ps ++ cs) = none := by
  induction ps with
  | nil => exact hcs
  | cons p ps ih =>
    obtain ⟨hp, -, hps⟩ := neat_cons.1 h
    rw [render_cons, List.append_assoc]
    match p, hp with
    | .literal text, hp => exact pieces?_literal_none hp.2 (ih hps)
    | .variable name, hp =>
      rw [render_variable_append, pieces?_variable hp.2 hp.1, ih hps, Option.map_none]

theorem Malformed.pieces? (h : Malformed cs) : pieces? cs = none := by
  obtain ⟨ps, rest, hps, rfl, hrest⟩ := h
  refine hps.pieces?_render_append ?_
  rw [pieces?_brace]
  rcases hrest with h | h
  · exact afterBrace?_of_not_mem h
  · obtain ⟨rest, rfl⟩ := List.head?_eq_some_iff.1 h
    have hnone : '}' ∉ ([] : List Char) := List.not_mem_nil
    exact afterBrace?_append hnone

/-! ## What is read was written -/

theorem Malformed.cons {c : Char} (hc : c ≠ '{') (h : Malformed cs) : Malformed (c :: cs) := by
  obtain ⟨ps, rest, hps, rfl, hrest⟩ := h
  exact ⟨_, rest, hps.consLiteral hc, by rw [render_consLiteral, List.cons_append], hrest⟩

theorem Malformed.cons_variable (hne : name ≠ []) (hb : '}' ∉ name) (h : Malformed cs) :
    Malformed ('{' :: (name ++ '}' :: cs)) := by
  obtain ⟨ps, rest, hps, rfl, hrest⟩ := h
  refine ⟨.variable name :: ps, rest, neat_cons_variable.2 ⟨hne, hb, hps⟩, ?_, hrest⟩
  rw [render_cons, List.append_assoc, render_variable_append]

/-- Every text is malformed or is read, and then it was written with what is read. -/
theorem malformed_or_neat (cs : List Char) : Malformed cs ∨ ∃ ps, Neat ps ∧ render ps = cs := by
  -- by the length of the text, as a variable is left at once
  induction hn : cs.length using Nat.strong_induction_on generalizing cs with
  | _ n ih =>
    cases cs with
    | nil => exact .inr ⟨[], neat_nil, rfl⟩
    | cons c cs =>
      by_cases hc : c = '{'
      · subst hc
        by_cases hend : '}' ∈ cs
        · obtain ⟨name, rest, rfl, hb⟩ := List.eq_append_cons_of_mem hend
          by_cases hne : name = []
          · subst hne
            exact .inl ⟨[], '}' :: rest, neat_nil, rfl, .inr rfl⟩
          · refine (ih rest.length (by simp at hn; omega) rest rfl).imp
              (Malformed.cons_variable hne hb) ?_
            rintro ⟨ps, hps, rfl⟩
            exact ⟨_, neat_cons_variable.2 ⟨hne, hb, hps⟩, render_variable_append⟩
        · exact .inl ⟨[], cs, neat_nil, rfl, .inl hend⟩
      · refine (ih cs.length (by simp at hn; omega) cs rfl).imp (Malformed.cons hc) ?_
        rintro ⟨ps, hps, rfl⟩
        exact ⟨_, hps.consLiteral hc, render_consLiteral c⟩

/-- A template has exactly the pieces that are neat and have its text. -/
theorem pieces?_eq_some_iff : pieces? cs = some ps ↔ Neat ps ∧ render ps = cs := by
  constructor
  · intro h
    rcases malformed_or_neat cs with hm | ⟨qs, hqs, rfl⟩
    · exact absurd (hm.pieces?.symm.trans h) nofun
    · obtain rfl := Option.some.inj (hqs.pieces?_render.symm.trans h)
      exact ⟨hqs, rfl⟩
  · rintro ⟨h, rfl⟩
    exact h.pieces?_render

theorem pieces?_eq_none_iff : pieces? cs = none ↔ Malformed cs := by
  refine ⟨fun h => (malformed_or_neat cs).resolve_right ?_, Malformed.pieces?⟩
  rintro ⟨ps, hps, rfl⟩
  exact absurd (hps.pieces?_render.symm.trans h) nofun

theorem Neat.eq_of_render (hp : Neat ps) (hq : Neat qs) (h : render ps = render qs) :
    ps = qs := by
  have := hp.pieces?_render
  rw [h, hq.pieces?_render] at this
  exact (Option.some.inj this).symm

end UriTemplate

end ContextServer
