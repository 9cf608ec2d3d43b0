import ContextServer.Schema.Shape

/-!
# Descriptions without ambiguity

A description of records is *well formed* (`Shape.isWellFormed`) if nothing in it stands in
the way of anything else: the fields of a record have different names, the variants of a
tagged sum are records that have different labels and no field of the name of the tag, and
of the variants of a bare sum no one takes what a later one writes.

One kind of record is ambiguous even so: an optional field for any JSON value may hold null,
which reads as no value. The others are *plain* (`Shape.isPlain`).

Both can be computed from the description.
-/

namespace ContextServer

/-! ## Plain records -/

/-- A value that an optional field can hold without being taken for none. -/
def Shape.isGiven {α : Type} : Shape α → α → Bool
  | .free, j => j ≠ .null
  | _, _ => true

mutual

/-- No optional field for any JSON value holds null, here or further inside. -/
def Shape.isPlain {α : Type} : Shape α → α → Bool
  | .list items, xs => xs.all items.isPlain
  | .dict items, d => d.values.all items.isPlain
  | .record _ fields view, a => fields.isPlain (view.unpack a)
  | .tagged _ _ cases view, a | .union _ cases view, a => cases.isPlain (view.unpack a)
  | .string, _ | .boolean, _ | .int32, _ | .int64, _ | .uint32, _ | .double, _ | .free, _
  | .choice _, _ => true

/-- The same of the fields of a record. -/
def Fields.isPlain {α : Type} : Fields α → α → Bool
  | .nil, _ => true
  | .required _ shape rest, (a, b) => shape.isPlain a && rest.isPlain b
  | .optional _ _ shape rest, (a, b) =>
    a.all (fun a => shape.isGiven a && shape.isPlain a) && rest.isPlain b
  | .defaulted _ shape _ _ _ rest, (a, b) => shape.isPlain a && rest.isPlain b

/-- The same of a variant. -/
def Cases.isPlain {α : Type} : Cases α → α → Bool
  | .nil, _ => true
  | .cons _ shape _, .inl a => shape.isPlain a
  | .cons _ _ rest, .inr b => rest.isPlain b

end

/-! ## Well-formed descriptions -/

/-- A sum of either kind. -/
def Shape.isSum {α : Type} : Shape α → Bool
  | .tagged .. | .union .. => true
  | _ => false

/-- A record without a field of that name. -/
def Shape.isRecordWithout (tag : String) {α : Type} : Shape α → Bool
  | .record _ fields _ => !fields.names.contains tag
  | _ => false

/-- All variants are records without a field of that name. -/
def Cases.areRecordsWithout (tag : String) {α : Type} : Cases α → Bool
  | .nil => true
  | .cons _ shape rest => shape.isRecordWithout tag && rest.areRecordsWithout tag

/-- The names of the required fields. -/
def Fields.requiredNames {α : Type} : Fields α → List String
  | .nil => []
  | .required n _ rest => n :: rest.requiredNames
  | .optional _ _ _ rest | .defaulted _ _ _ _ _ rest => rest.requiredNames

/-- Nothing that the other shape writes is taken for a value of this one: a text is no
    word, and an object without a required field no record. -/
def Shape.excludes {α β : Type} : Shape α → Shape β → Bool
  | .int64, .string => true
  | .record _ fields _, .record _ fields' _ =>
    fields.requiredNames.any fun n => !fields'.names.contains n
  | _, _ => false

/-- The shape excludes all variants. -/
def Shape.excludesAll {α β : Type} (shape : Shape α) : Cases β → Bool
  | .nil => true
  | .cons _ shape' rest => shape.excludes shape' && shape.excludesAll rest

/-- Every variant excludes those after it. -/
def Cases.areApart {α : Type} : Cases α → Bool
  | .nil => true
  | .cons _ shape rest => shape.excludesAll rest && rest.areApart

mutual

/-- Nothing in the description stands in the way of anything else. -/
def Shape.isWellFormed {α : Type} : Shape α → Bool
  | .list items | .dict items => items.isWellFormed
  | .record _ fields _ => fields.isWellFormed && decide fields.names.Nodup
  | .tagged _ tag cases _ =>
    cases.isWellFormed && cases.areRecordsWithout tag && decide cases.labels.Nodup
  | .union _ cases _ => cases.isWellFormed && cases.areApart
  | .string | .boolean | .int32 | .int64 | .uint32 | .double | .free | .choice _ => true

/-- The fields are well formed one by one. An optional one is no sum, which could be null,
    and a default is plain. -/
def Fields.isWellFormed {α : Type} : Fields α → Bool
  | .nil => true
  | .required _ shape rest => shape.isWellFormed && rest.isWellFormed
  | .optional _ _ shape rest => shape.isWellFormed && !shape.isSum && rest.isWellFormed
  | .defaulted _ shape default _ _ rest =>
    shape.isWellFormed && shape.isPlain default && rest.isWellFormed

/-- The variants are well formed one by one. -/
def Cases.isWellFormed {α : Type} : Cases α → Bool
  | .nil => true
  | .cons _ shape rest => shape.isWellFormed && rest.isWellFormed

end

end ContextServer
