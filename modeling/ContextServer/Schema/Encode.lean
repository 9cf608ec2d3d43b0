import ContextServer.Schema.Shape

/-!
# Encoding records

A record has two written forms, which differ in the order of members alone: the
*wire form*, with the fields in the order of declaration (`Shape.written`), and
the *free form*, with them in the order of their names (`Shape.encode`), which
is the form of a JSON value with no declaration.
-/

namespace ContextServer

mutual

/-- The JSON value of a value of a type, its members arranged in some way. -/
def Shape.encodeWith (arrange : List (String × Json) → List (String × Json)) {α : Type} :
    Shape α → α → Json
  | .string, s => .string s
  | .boolean, b => .bool b
  | .int32, n => .number (.integer (.ofInt32 n))
  | .int64, n => .number (.integer (.ofInt64 n))
  | .uint32, n => .number (.integer (.ofUInt32 n))
  | .double, x => .number (.double x)
  | .free, j => j
  | .list items, xs => .array (xs.map (items.encodeWith arrange))
  | .dict items, d => .object (d.entries.map fun e => (e.1, items.encodeWith arrange e.2))
  | .choice names, a => .string (names.name a)
  | .record _ fields view, a => .object (arrange (fields.encodeWith arrange (view.unpack a)))
  | .tagged _ tag cases view, a =>
    match cases.encodeWith arrange (view.unpack a) with
    | (label, .object ms) => .object (arrange ((tag, .string label) :: ms))
    | (_, j) => j
  | .union _ cases view, a => (cases.encodeWith arrange (view.unpack a)).2

/-- The members of the fields. -/
def Fields.encodeWith (arrange : List (String × Json) → List (String × Json)) {α : Type} :
    Fields α → α → List (String × Json)
  | .nil, _ => []
  | .required name shape rest, (a, b) =>
    (name, shape.encodeWith arrange a) :: rest.encodeWith arrange b
  | .optional name _ shape rest, (some a, b) =>
    (name, shape.encodeWith arrange a) :: rest.encodeWith arrange b
  | .optional name nulled _ rest, (none, b) =>
    if nulled then (name, .null) :: rest.encodeWith arrange b else rest.encodeWith arrange b
  | .defaulted name shape _ hidden _ rest, (a, b) =>
    if hidden a then rest.encodeWith arrange b
    else (name, shape.encodeWith arrange a) :: rest.encodeWith arrange b

/-- The label and the content of a variant. -/
def Cases.encodeWith (arrange : List (String × Json) → List (String × Json)) {α : Type} :
    Cases α → α → String × Json
  | .nil, e => nomatch e
  | .cons label shape _, .inl a => (label, shape.encodeWith arrange a)
  | .cons _ _ rest, .inr b => rest.encodeWith arrange b

end

/-- The free form: members in the order of their names. -/
def Shape.encode {α : Type} (shape : Shape α) (a : α) : Json :=
  shape.encodeWith Entries.sort a

/-- The wire form: members in the order of declaration. -/
def Shape.written {α : Type} (shape : Shape α) (a : α) : Json :=
  shape.encodeWith (fun ms => ms) a

end ContextServer
