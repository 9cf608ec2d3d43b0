import ContextServer.Schema.Fault
import ContextServer.Schema.Shape

/-!
# Decoding records

`Shape.decode` reads a value of a type from a JSON value. It looks at the
members of an object by name alone, so members that no field names make no
difference. Of several faults it reports the one in the member that comes first
in the order of names, and only if all members are sound the first field that is
missing, in the order of declaration (`Gathered.pair`).

A value inside a sum is *held*: it was taken apart before its type was known.
Held values differ in two small ways: in the wording for an array with too many
fields, and in that an empty object may stand for the null of a named variant.
-/

namespace ContextServer

/-- What the members of an object say about some of the fields of a record. -/
inductive Gathered (α : Type) where
  /-- All the fields have values. -/
  | complete (a : α)
  /-- All members are sound, but this field is missing. -/
  | lacking (field : String)
  /-- The member of this field is the first one at fault. -/
  | faulty (field : String) (fault : Fault)

namespace Gathered

variable {α β : Type}

/-- What two groups of fields say together. -/
def pair : Gathered α → Gathered β → Gathered (α × β)
  | .faulty k e, .faulty k' e' => if k' < k then .faulty k' e' else .faulty k e
  | .faulty k e, _ => .faulty k e
  | _, .faulty k e => .faulty k e
  | .lacking k, _ => .lacking k
  | _, .lacking k => .lacking k
  | .complete a, .complete b => .complete (a, b)

/-- The value of a field that has a member. -/
def ofMember (field : String) : Except Fault α → Gathered α
  | .ok a => .complete a
  | .error e => .faulty field e

/-- The value, or the fault to report. -/
def toExcept : Gathered α → Except Fault α
  | .complete a => .ok a
  | .lacking k => .error (.missing k)
  | .faulty _ e => .error e

end Gathered

/-- An integer of a word type, from a value and the conversion into the type. -/
def decodeWord {α : Type} (expected : String) (convert : Int → Option α) :
    Json → Except Fault α
  | .number (.integer n) =>
    match convert n.val with
    | some a => .ok a
    | none => .error (.outOfRange n expected)
  | j => .error (.wrongType (.ofJson j) expected)

/-- The nearest double, from a value. -/
def decodeDouble : Json → Except Fault Double
  | .number (.double x) => .ok x
  | .number (.integer n) =>
    match Double.ofInt? n.val with
    | some x => .ok x
    | none => .error (.outOfRange n "f64")
  | j => .error (.wrongType (.ofJson j) "f64")

/-- The value of that name. -/
def Choice.find {α : Type} (names : Choice α) (name : String) : Except Fault α :=
  match Entries.lookup name names.variants with
  | some a => .ok a
  | none => .error (.unknownVariant name (names.variants.map (·.1)))

/-- A value of a finite type, from its name or from an object that names it. -/
def Choice.decode {α : Type} (names : Choice α) (held : Bool) : Json → Except Fault α
  | .string s => names.find s
  | .object [(name, content)] =>
    match names.find name with
    | .error e => .error e
    | .ok a =>
      match content with
      | .null => .ok a
      | .object [] => if held then .ok a else .error (.wrongType .map "unit")
      | j => .error (.wrongType (.ofJson j) "unit")
  | .object _ => .error .notSingle
  | j => .error (.wrongType (.ofJson j) "string or map")

/-- The label that a tag gives, if it is one of those known. -/
def decodeTag (known : List String) : Json → Except Fault String
  | .string s => if s ∈ known then .ok s else .error (.unknownVariant s known)
  | j => .error (.wrongType (.ofJson j) "variant identifier")

/-- What is left of a list of fields must be empty. -/
def finish {α : Type} (held : Bool) (length fields : Nat) :
    Except Fault (α × List Json) → Except Fault α
  | .error e => .error e
  | .ok (a, []) => .ok a
  | .ok (_, _ :: _) => .error (if held then .surplus length fields else .tooLong length)

/-- A field before others; its fault is reported first. -/
def follow {α β : Type} : Except Fault α → Except Fault (β × List Json) →
    Except Fault ((α × β) × List Json)
  | .error e, _ => .error e
  | .ok _, .error e => .error e
  | .ok a, .ok (b, left) => .ok ((a, b), left)

mutual

/-- The value of a type that a JSON value stands for. -/
def Shape.decode {α : Type} : Shape α → (held : Bool) → Json → Except Fault α
  | .string, _, j =>
    match j with
    | .string s => .ok s
    | j => .error (.wrongType (.ofJson j) "a string")
  | .boolean, _, j =>
    match j with
    | .bool b => .ok b
    | j => .error (.wrongType (.ofJson j) "a boolean")
  | .int32, _, j =>
    decodeWord "i32" (fun n =>
      if -2147483648 ≤ n ∧ n < 2147483648 then some (Int32.ofInt n) else none) j
  | .int64, _, j =>
    decodeWord "i64" (fun n =>
      if -9223372036854775808 ≤ n ∧ n < 9223372036854775808 then some (Int64.ofInt n) else none) j
  | .uint32, _, j =>
    decodeWord "u32" (fun n =>
      if 0 ≤ n ∧ n < 4294967296 then some (UInt32.ofNat n.toNat) else none) j
  | .double, _, j => decodeDouble j
  | .free, _, j => .ok j
  | .list items, held, j =>
    match j with
    | .array xs => xs.mapM (items.decode held)
    | j => .error (.wrongType (.ofJson j) "a sequence")
  | .dict items, held, j =>
    match j with
    | .object ms =>
      (ms.mapM fun m => (items.decode held m.2).map (m.1, ·)).map Dict.ofList
    | j => .error (.wrongType (.ofJson j) "a map")
  | .choice names, held, j => names.decode held j
  | .record name fields view, held, j =>
    match j with
    | .object ms => (fields.ofMembers held ms).toExcept.map view.pack
    | .array xs =>
      (finish held xs.length fields.count
        (fields.ofItems held (fun i => .tooShort i name fields.count) 0 xs)).map view.pack
    | j => .error (.wrongType (.ofJson j) ("struct " ++ name))
  | .tagged name tag cases view, _, j =>
    let choose (mark content : Json) : Except Fault α :=
      match decodeTag cases.labels mark with
      | .error e => .error e
      | .ok label => (cases.decodeLabelled label content).map view.pack
    match j with
    | .object ms =>
      match Entries.lookup tag ms with
      | some mark => choose mark (.object (Entries.drop tag ms))
      | none => .error (.missing tag)
    | .array (mark :: xs) => choose mark (.array xs)
    | .array [] => .error (.missing tag)
    | j => .error (.wrongType (.ofJson j) ("internally tagged enum " ++ name))
  | .union name cases view, _, j =>
    match cases.decodeFirst? j with
    | some a => .ok (view.pack a)
    | none => .error (.noVariant name)

/-- What the members of an object say about the fields. -/
def Fields.ofMembers {α : Type} : Fields α → (held : Bool) → List (String × Json) → Gathered α
  | .nil, _, _ => .complete ()
  | .required name shape rest, held, ms =>
    .pair
      (match Entries.lookup name ms with
      | some v => .ofMember name (shape.decode held v)
      | none => .lacking name)
      (rest.ofMembers held ms)
  | .optional name _ shape rest, held, ms =>
    .pair
      (match Entries.lookup name ms with
      | some .null | none => .complete none
      | some v => .ofMember name ((shape.decode held v).map some))
      (rest.ofMembers held ms)
  | .defaulted name shape default _ _ rest, held, ms =>
    .pair
      (match Entries.lookup name ms with
      | some v => .ofMember name (shape.decode held v)
      | none => .complete default)
      (rest.ofMembers held ms)

/-- The fields from the items of an array in order, and the items left over;
    `short` is the fault of a required field with no item at its place. -/
def Fields.ofItems {α : Type} : Fields α → (held : Bool) → (short : Nat → Fault) →
    (place : Nat) → List Json → Except Fault (α × List Json)
  | .nil, _, _, _, xs => .ok ((), xs)
  | .required _ shape rest, held, short, place, xs =>
    match xs with
    | [] => .error (short place)
    | x :: xs =>
      follow (shape.decode held x) (rest.ofItems held short (place + 1) xs)
  | .optional _ _ shape rest, held, short, place, xs =>
    follow
      (match xs with
      | [] | .null :: _ => .ok none
      | x :: _ => (shape.decode held x).map some)
      (rest.ofItems held short (place + 1) xs.tail)
  | .defaulted _ shape default _ _ rest, held, short, place, xs =>
    follow
      (match xs with
      | [] => .ok default
      | x :: _ => shape.decode held x)
      (rest.ofItems held short (place + 1) xs.tail)

/-- The variant with that label. -/
def Cases.decodeLabelled {α : Type} : Cases α → (label : String) → Json → Except Fault α
  | .nil, label, _ => .error (.unknownVariant label [])
  | .cons label' shape rest, label, j =>
    if label' = label then (shape.decode true j).map .inl
    else (rest.decodeLabelled label j).map .inr

/-- The first variant that the value decodes as. -/
def Cases.decodeFirst? {α : Type} : Cases α → Json → Option α
  | .nil, _ => none
  | .cons _ shape rest, j =>
    match shape.decode true j with
    | .ok a => some (.inl a)
    | .error _ => (rest.decodeFirst? j).map .inr

end

/-! ## What decodes without further ado -/

section

variable {held : Bool}

theorem Shape.decode_double {x : Double} : double.decode held (.number (.double x)) = .ok x := by
  rw [decode]
  rfl

theorem Shape.decode_free {j a : Json} : free.decode held j = .ok a ↔ j = a := by
  rw [decode, Except.ok.injEq]

theorem Fields.nil_complete {ms : List (String × Json)} {u : Unit} :
    Fields.nil.ofMembers held ms = .complete u ↔ True := by
  rw [Fields.ofMembers, iff_true]

theorem Fields.nil_ofItems {short : Nat → Fault} {place : Nat} {xs left : List Json} {u : Unit} :
    Fields.nil.ofItems held short place xs = .ok (u, left) ↔ xs = left := by
  rw [Fields.ofItems]
  simp

end

end ContextServer
