import ContextServer.Dict

/-!
# URI templates

A template is a text in which `{name}` stands for a variable. Read as *pieces*
(`UriTemplate.parse?`), it is a sequence of literals and variables; it is
malformed if a brace that opens a variable has no brace to close it, or no name
before that one.

An instance of a template has a value for every variable: not empty and without
a slash. The value of a variable goes up to the first occurrence of the literal
that follows it, so a value cannot hold that literal; two variables in a row
match nothing (`UriTemplate.match?`). Of two variables of one name the last one
is reported.
-/

namespace ContextServer

namespace UriTemplate

/-- A part of a template. -/
inductive Piece where
  /-- Text that stands for itself. -/
  | literal (text : List Char)
  /-- A variable by its name. -/
  | variable (name : List Char)
deriving DecidableEq

/-- The text of a piece in its template. -/
def Piece.render : Piece → List Char
  | .literal text => text
  | .variable name => '{' :: (name ++ ['}'])

/-- The text of a template. -/
def render (pieces : List Piece) : List Char := pieces.flatMap Piece.render

/-- A character in front of a template; it joins a literal that is there. -/
def consLiteral (c : Char) : List Piece → List Piece
  | .literal text :: pieces => .literal (c :: text) :: pieces
  | pieces => .literal [c] :: pieces

mutual

/-- The pieces of a template, unless it is malformed. -/
def pieces? : List Char → Option (List Piece)
  | [] => some []
  | c :: cs => if c = '{' then afterBrace? [] cs else (pieces? cs).map (consLiteral c)

/-- The pieces of a template inside a variable; `name` is read so far. -/
def afterBrace? (name : List Char) : List Char → Option (List Piece)
  | [] => none
  | c :: cs =>
    if c = '}' then
      if name = [] then none else (pieces? cs).map (.variable name :: ·)
    else afterBrace? (name ++ [c]) cs

end

/-- The pieces of a template, unless it is malformed. -/
def parse? (template : String) : Option (List Piece) := pieces? template.toList

/-- The text before the first occurrence of `pattern` and the text from there. -/
def splitAtFirst? (pattern : List Char) : List Char → Option (List Char × List Char)
  | [] => if pattern = [] then some ([], []) else none
  | c :: cs =>
    if pattern.isPrefixOf (c :: cs) then some ([], c :: cs)
    else (splitAtFirst? pattern cs).map fun (before, rest) => (c :: before, rest)

/-- The text that starts with the value of a variable, cut where the value ends;
    `next` are the pieces after the variable. -/
def splitValue? (next : List Piece) (cs : List Char) : Option (List Char × List Char) :=
  match next with
  | .literal text :: _ => splitAtFirst? text cs
  | .variable _ :: _ => none
  | [] => some (cs, [])

/-- A text that a variable can stand for. -/
def isValue (value : List Char) : Bool := !value.isEmpty && !value.contains '/'

/-- The values of the variables from left to right, if the pieces match the
    whole text. -/
def bindings? : List Piece → List Char → Option (List (List Char × List Char))
  | [], cs => if cs = [] then some [] else none
  | .literal text :: pieces, cs =>
    match text.isPrefixOf? cs with
    | some rest => bindings? pieces rest
    | none => none
  | .variable name :: pieces, cs =>
    match splitValue? pieces cs with
    | some (value, rest) =>
      if isValue value then (bindings? pieces rest).map ((name, value) :: ·) else none
    | none => none

/-- The values of the variables of a template, if the URI is an instance. -/
def match? (template uri : String) : Option (Dict String) := do
  let bound ← bindings? (← parse? template) uri.toList
  some (.ofList (bound.map fun (name, value) => (String.ofList name, String.ofList value)))

example : (match? "weather://{city}/current" "weather://Oslo/current").map (·.entries) =
    some [("city", "Oslo")] := by decide +kernel

example : match? "{a}{b}" "xy" = none := by decide +kernel

end UriTemplate

end ContextServer
