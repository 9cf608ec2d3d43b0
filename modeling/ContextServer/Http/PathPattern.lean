/-!
# Path patterns

A pattern stands for the paths of an endpoint. It is a text in which `{name}`
stands for the rest of a segment and `{*name}`, at its end, for the rest of the
path; a brace that stands for itself is doubled. A pattern is malformed if it does
not begin with a slash, if a brace is alone, or if a variable has no name or does
not end its segment (`PathPattern.parse?`).

A path can belong to two patterns. They *clash* if nothing tells them apart
(`PathPattern.clash`); otherwise the path is for the one that has a literal where
they part (`PathPattern.isCloser`).
-/

namespace ContextServer

namespace Http

namespace PathPattern

/-- A part of a pattern. -/
inductive Piece where
  /-- A character that stands for itself. -/
  | literal (c : Char)
  /-- What is left of a segment. -/
  | segment
  /-- What is left of the path; there is something left. -/
  | rest
deriving DecidableEq

/-- The piece is a variable. -/
def Piece.isVariable : Piece → Bool
  | .literal _ => false
  | .segment | .rest => true

/-! ## Reading -/

/-- A mark in the text of a pattern. -/
inductive Mark where
  /-- A character, or a brace that was doubled. -/
  | char (c : Char)
  /-- A brace that opens a variable. -/
  | opening
  /-- A brace that closes a variable. -/
  | closing
deriving DecidableEq

/-- The marks of a text. -/
def marks : List Char → List Mark
  | [] => []
  | [c] => [if c = '{' then .opening else if c = '}' then .closing else .char c]
  | c :: d :: cs =>
    if (c = '{' ∨ c = '}') ∧ c = d then .char c :: marks cs
    else if c = '{' then .opening :: marks (d :: cs)
    else if c = '}' then .closing :: marks (d :: cs)
    else .char c :: marks (d :: cs)

/-- A variable can stand before these marks: it ends a segment, or the pattern. -/
def Piece.fitsBefore : Piece → List Mark → Bool
  | .segment, .char '/' :: _ => true
  | .literal _, _ => false
  | _, ms => ms.isEmpty

mutual

/-- The pieces of a pattern, unless it is malformed. The first character of a name can
    be any but a brace that closes. -/
def pieces? : List Mark → Option (List Piece)
  | [] => some []
  | .char c :: ms => (pieces? ms).map (.literal c :: ·)
  | .opening :: .char c :: ms =>
    if c = '*' then name? .rest false ms
    else if c = '}' then none
    else name? .segment true ms
  | .opening :: _ | .closing :: _ => none

/-- The pieces of a pattern inside the name of a variable; `isNamed` if the name has
    begun. -/
def name? (piece : Piece) (isNamed : Bool) : List Mark → Option (List Piece)
  | [] => none
  | .closing :: ms =>
    if isNamed && piece.fitsBefore ms then (pieces? ms).map (piece :: ·) else none
  | .opening :: ms => name? piece true ms
  | .char c :: ms => if c = '*' ∨ c = '/' then none else name? piece true ms

end

/-- How many segments can be left open. -/
def variableLimit : Nat := 25

/-- A segment begins with a colon or a star: an older form of variables, which is
    refused. -/
def hasOldForm : List Char → Bool
  | [] | [_] => false
  | c :: d :: cs => (c == '/' && (d == ':' || d == '*')) || hasOldForm (d :: cs)

/-- The pieces of a pattern, unless it is malformed. -/
def parse? (pattern : String) : Option (List Piece) := do
  let cs := pattern.toList
  let pieces ← pieces? (marks cs)
  if cs.head? = some '/' ∧ ¬hasOldForm cs ∧ pieces.count .segment ≤ variableLimit then some pieces
  else none

/-! ## Matching -/

/-- The path is one that the pieces stand for. A segment in the middle of a path may be
    left empty. -/
def accepts : List Piece → List Char → Bool
  | [], cs => cs.isEmpty
  | .literal _ :: _, [] => false
  | .literal c :: pieces, d :: cs => c == d && accepts pieces cs
  | [.segment], cs => !cs.isEmpty && !cs.contains '/'
  | .segment :: pieces, cs => accepts pieces (cs.dropWhile (· != '/'))
  | .rest :: _, cs => !cs.isEmpty

/-- Nothing tells two patterns apart: they part at two variables, or do not part. -/
def clash : List Piece → List Piece → Bool
  | [], [] => true
  | p :: ps, q :: qs => if p = q then clash ps qs else p.isVariable && q.isVariable
  | _, _ => false

/-- The first of two patterns has a literal where they part. -/
def isCloser : List Piece → List Piece → Bool
  | p :: ps, q :: qs => if p = q then isCloser ps qs else !p.isVariable
  | _, _ => false

example : (parse? "/m/\x7b*rest\x7d").map (accepts · "/m/a/b".toList) = some true := by
  decide +kernel

example : (parse? "/a\x7b\x7bb\x7d\x7d").map (accepts · "/a\x7bb\x7d".toList) = some true := by
  decide +kernel

example : parse? "/\x7ba\x7db" = none := by decide +kernel

end PathPattern

end Http

end ContextServer
