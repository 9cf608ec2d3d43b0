import ContextServer.Json.Basic

/-!
# Shapes of records

A *shape* says how the values of a type are written as JSON. Shapes are data: a
type has one description, from which decoding (`Shape.decode`), the free form
(`Shape.encode`) and the wire form (`Shape.written`) are all derived, so what
holds of every shape holds of every record.

A record is a list of named fields, read from an object or from an array of the
fields in order. A field is required, optional, or has a default. Two kinds of
sum exist: a tagged one, whose object names its variant in a member of its own,
and a bare one, whose variants are tried in order.
-/

namespace ContextServer

/-- The correspondence of a structure and the tuple of its fields. -/
structure View (α β : Type) where
  /-- The tuple of a structure. -/
  unpack : α → β
  /-- The structure of a tuple. -/
  pack : β → α
  /-- Nothing is lost on the way to the tuple. -/
  pack_unpack : ∀ a, pack (unpack a) = a := by intro _; rfl
  /-- Nothing is lost on the way back. -/
  unpack_pack : ∀ b, unpack (pack b) = b := by intro _; rfl

/-- The names of the values of a finite type. -/
structure Choice (α : Type) where
  /-- The values under their names, in the order in which messages list them. -/
  variants : List (String × α)
  /-- The name of a value. -/
  name : α → String
  /-- Every value is found under its name. -/
  lookup_name : ∀ a, Entries.lookup (name a) variants = some a

mutual

/-- How the values of a type are written as JSON. -/
inductive Shape : Type → Type 1
  /-- A text. -/
  | string : Shape String
  /-- A truth value. -/
  | boolean : Shape Bool
  /-- A signed word of 32 bits. -/
  | int32 : Shape Int32
  /-- A signed word of 64 bits. -/
  | int64 : Shape Int64
  /-- An unsigned word of 32 bits. -/
  | uint32 : Shape UInt32
  /-- A double, which an integer may stand for. -/
  | double : Shape Double
  /-- Any JSON value. -/
  | free : Shape Json
  /-- An array of values of one shape. -/
  | list {α : Type} (items : Shape α) : Shape (List α)
  /-- An object whose members are all of one shape. -/
  | dict {α : Type} (items : Shape α) : Shape (Dict α)
  /-- A value of a finite type by its name, alone or as the one member of an
      object with the value null. -/
  | choice {α : Type} (names : Choice α) : Shape α
  /-- A structure with named fields. -/
  | record {α β : Type} (name : String) (fields : Fields β) (view : View α β) : Shape α
  /-- A sum of records, each marked by its label in the member `tag`. -/
  | tagged {α β : Type} (name tag : String) (cases : Cases β) (view : View α β) : Shape α
  /-- A sum of shapes with no mark. -/
  | union {α β : Type} (name : String) (cases : Cases β) (view : View α β) : Shape α

/-- The fields of a record in the order of their declaration. -/
inductive Fields : Type → Type 1
  /-- No field. -/
  | nil : Fields Unit
  /-- A field that must be present. -/
  | required {α β : Type} (name : String) (shape : Shape α) (rest : Fields β) :
    Fields (α × β)
  /-- A field that may be absent or null; without a value it is written as null
      if `nulled`, and not at all otherwise. -/
  | optional {α β : Type} (name : String) (nulled : Bool) (shape : Shape α)
    (rest : Fields β) : Fields (Option α × β)
  /-- A field that has the value `default` if it is absent. It is not written
      if it is `hidden`, which only the default may be. -/
  | defaulted {α β : Type} (name : String) (shape : Shape α) (default : α)
    (hidden : α → Bool) (eq_default : ∀ a, hidden a = true → a = default)
    (rest : Fields β) : Fields (α × β)

/-- The variants of a sum, with their labels. -/
inductive Cases : Type → Type 1
  /-- No variant. -/
  | nil : Cases Empty
  /-- A variant before others. -/
  | cons {α β : Type} (label : String) (shape : Shape α) (rest : Cases β) : Cases (α ⊕ β)

end

/-- A field that has the value `default` if it is absent, and is always written. -/
abbrev Fields.withDefault {α β : Type} (name : String) (shape : Shape α) (default : α)
    (rest : Fields β) : Fields (α × β) :=
  .defaulted name shape default (fun _ => false) (fun _ h => absurd h Bool.false_ne_true) rest

/-- The number of fields. -/
def Fields.count {α : Type} : Fields α → Nat
  | .nil => 0
  | .required _ _ rest | .optional _ _ _ rest | .defaulted _ _ _ _ _ rest => rest.count + 1

/-- The names of the fields. -/
def Fields.names {α : Type} : Fields α → List String
  | .nil => []
  | .required n _ rest | .optional n _ _ rest | .defaulted n _ _ _ _ rest => n :: rest.names

/-- The labels of the variants. -/
def Cases.labels {α : Type} : Cases α → List String
  | .nil => []
  | .cons label _ rest => label :: rest.labels

end ContextServer
