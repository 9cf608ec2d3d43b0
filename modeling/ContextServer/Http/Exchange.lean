/-!
# HTTP exchanges

Requests and replies as far as the server looks at them: of a request the method,
the target, the headers and the body, of a reply the status, the type of its
content and the body. A target names a *resource*: a path and, after a question
mark, a query, in which pairs of a name and a value are written as in a submitted
form (`Http.formPairs`). What stands before the path, a scheme and an authority,
is not looked at (`Http.resource`).
-/

namespace ContextServer

namespace Http

/-! ## Requests -/

/-- A request. -/
structure Request where
  method : String
  /-- What the request is for. -/
  target : String
  headers : List (String × String) := []
  body : ByteArray := .empty

/-- The text before the first occurrence of a mark, and the text after it. -/
def cut (mark text : String) : String × String :=
  match text.splitOn mark with
  | [] => ("", "")
  | before :: after => (before, mark.intercalate after)

/-- A character of a scheme. -/
def isSchemeChar (c : Char) : Bool := c.isAlphanum || c == '+' || c == '-' || c == '.'

/-- What follows a scheme and the marks after it, if a target begins so. -/
def afterScheme? : List Char → Option (List Char)
  | [] => none
  | ':' :: '/' :: '/' :: cs => some cs
  | c :: cs => if isSchemeChar c then afterScheme? cs else none

/-- The path and what follows it in a target. An authority ends at the path, the query
    or the fragment, whichever comes first; the path after it may be left out. A target
    that has neither a path of its own nor a scheme names nothing. -/
def resource : List Char → List Char
  | '/' :: cs => '/' :: cs
  | target =>
    match (afterScheme? target).map (·.dropWhile fun c => c != '/' && c != '?' && c != '#') with
    | none => []
    | some ('/' :: cs) => '/' :: cs
    | some cs => '/' :: cs

/-- The path and the query of the target; a fragment is no part of it. -/
def Request.resource (r : Request) : String :=
  (cut "#" (String.ofList (Http.resource r.target.toList))).1

/-- The path of the target. -/
def Request.path (r : Request) : String := (cut "?" r.resource).1

/-- The query of the target; empty if there is none. -/
def Request.query (r : Request) : String := (cut "?" r.resource).2

/-- The value of the first header of a name, in which case does not count. The
    value of a header is seen only if all its characters are visible ASCII, a
    space or a tab. -/
def Request.header? (r : Request) (name : String) : Option String :=
  let isVisible (c : Char) : Bool := (0x20 ≤ c.toNat && c.toNat < 0x7F) || c == '\t'
  match r.headers.find? fun (n, _) => n.toLower == name.toLower with
  | some (_, value) => if value.all isVisible then some value else none
  | none => none

/-! ## Forms -/

/-- The value of a hexadecimal digit. -/
def hexValue? (b : UInt8) : Option UInt8 :=
  if 0x30 ≤ b && b ≤ 0x39 then some (b - 0x30)
  else if 0x41 ≤ b && b ≤ 0x46 then some (b - 0x41 + 10)
  else if 0x61 ≤ b && b ≤ 0x66 then some (b - 0x61 + 10)
  else none

/-- The bytes that a form writes: a plus stands for a space, and a percent sign
    with two digits for a byte; one without them stands for itself. -/
def formDecode : List UInt8 → List UInt8
  | [] => []
  | [b] => [if b = 0x2B then 0x20 else b]
  | [b, c] => (if b = 0x2B then 0x20 else b) :: formDecode [c]
  | b :: c :: d :: rest =>
    match if b = 0x25 then hexValue? c else none, hexValue? d with
    | some high, some low => (high * 16 + low) :: formDecode rest
    | _, _ => (if b = 0x2B then 0x20 else b) :: formDecode (c :: d :: rest)

/-- The text that a form writes; bytes that are no text are the one character that
    stands for such. -/
def formText (written : String) : String :=
  (String.fromUTF8? ⟨(formDecode written.toUTF8.toList).toArray⟩).getD "\ufffd"

/-- The pairs of a form: names and values, in order. -/
def formPairs (form : String) : List (String × String) :=
  ((form.splitOn "&").filter fun pair => !pair.isEmpty).map fun pair =>
    ((fun (name, value) => (formText name, formText value)) (cut "=" pair))

/-! ## Replies -/

/-- The outcome of a request. -/
inductive Status where
  | ok
  | badRequest
  | notFound
  | methodNotAllowed
  | contentTooLarge
  | serviceUnavailable
deriving DecidableEq

/-- The number of an outcome. -/
def Status.code : Status → Nat
  | .ok => 200
  | .badRequest => 400
  | .notFound => 404
  | .methodNotAllowed => 405
  | .contentTooLarge => 413
  | .serviceUnavailable => 503

/-- A reply. -/
structure Reply where
  status : Status
  contentType : Option String := none
  body : String := ""
deriving DecidableEq

/-- A reply of plain text. -/
def Reply.ofText (status : Status) (body : String) : Reply :=
  { status, contentType := some "text/plain; charset=utf-8", body }

end Http

end ContextServer
