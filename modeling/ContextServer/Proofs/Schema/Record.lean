import ContextServer.Message.Basic

/-!
# What decodes

Which JSON values decode, shape by shape. A scalar is decoded from itself only. An
object decodes as a record exactly if all of its fields are complete
(`Shape.decode_record_object`), and each kind of field says by itself what its
member must be:

* `Fields.required_complete`: a required field has a member that decodes;
* `Fields.optional_complete`: an optional field has no member, or the member null,
  or one that decodes (`Json.given?`);
* `Fields.defaulted_complete`: a field with a default has a member that decodes, or
  none.

An array decodes as a record by its items in the order of the fields
(`Shape.decode_record_array`, `Fields.required_ofItems`, `Fields.optional_ofItems`,
`Fields.defaulted_ofItems`).

A value decodes as a union by the first variant that takes it
(`Cases.decodeFirst?_inl`, `Cases.decodeFirst?_inr`).
-/

namespace ContextServer

/-! ## Values and faults -/

theorem Except.map_eq_ok {α β : Type} {x : Except Fault α} {f : α → β} {b : β} :
    x.map f = .ok b ↔ ∃ a, x = .ok a ∧ f a = b := by
  cases x <;> simp [Except.map]

theorem Except.bind_eq_ok {α β : Type} {x : Except Fault α} {f : α → Except Fault β} {b : β} :
    x >>= f = .ok b ↔ ∃ a, x = .ok a ∧ f a = .ok b := by
  cases x <;> simp [bind, Except.bind]

/-! ## Scalars -/

/-- A word decodes from itself: `word` is the integer of a word, and `convert` its
    inverse on the integers in range. -/
theorem decodeWord_eq_ok {α : Type} {expected : String} {inRange : Int → Prop}
    [DecidablePred inRange] {convert : Int → α} {word : α → Integer}
    (hconvert : ∀ n : Integer, inRange n.val → word (convert n.val) = n)
    (hword : ∀ a, inRange (word a).val ∧ convert (word a).val = a) {j : Json} {a : α} :
    decodeWord expected (fun n => if inRange n then some (convert n) else none) j = .ok a ↔
      j = .number (.integer (word a)) := by
  unfold decodeWord
  constructor
  · intro h
    split at h
    · next n =>
      by_cases hr : inRange n.val
      · simp only [hr, if_true, Except.ok.injEq] at h
        rw [← h, hconvert n hr]
      · simp only [hr, if_false, reduceCtorEq] at h
    · cases h
  · rintro rfl
    simp only [hword a, if_true]

namespace Shape

variable {held : Bool} {j : Json}

theorem decode_string {s : String} : string.decode held j = .ok s ↔ j = .string s := by
  cases j <;> simp [decode]

theorem decode_int64 {n : Int64} :
    int64.decode held j = .ok n ↔ j = .number (.integer (.ofInt64 n)) := by
  refine decodeWord_eq_ok (fun m hm => ?_) fun n => ⟨⟨n.le_toInt, n.toInt_lt⟩, Int64.ofInt_toInt n⟩
  rw [Integer.ofInt64, Integer.mk.injEq]
  exact Int64.toInt_ofInt_of_le hm.1 hm.2

theorem decode_int32 {n : Int32} :
    int32.decode held j = .ok n ↔ j = .number (.integer (.ofInt32 n)) := by
  refine decodeWord_eq_ok (fun m hm => ?_) fun n => ⟨⟨n.le_toInt, n.toInt_lt⟩, Int32.ofInt_toInt n⟩
  obtain ⟨m, hr⟩ := m
  rw [Integer.ofInt32, Integer.mk.injEq]
  exact Int32.toInt_ofInt_of_le hm.1 hm.2

theorem decode_uint32 {n : UInt32} :
    uint32.decode held j = .ok n ↔ j = .number (.integer (.ofUInt32 n)) := by
  refine @decodeWord_eq_ok _ _ _ _ (fun n => UInt32.ofNat n.toNat) _ (fun m hm => ?_)
    (fun n => ?_) _ _
  · have hlt : m.val.toNat < UInt32.size := by rw [UInt32.size]; omega
    obtain ⟨m, hr⟩ := m
    rw [Integer.ofUInt32, Integer.mk.injEq, UInt32.toNat_ofNat_of_lt' hlt]
    exact Int.toNat_of_nonneg hm.1
  · have hlt : (n.toNat : Int) < 4294967296 := by have := n.toNat_lt; omega
    refine ⟨⟨Int.natCast_nonneg _, hlt⟩, ?_⟩
    rw [Integer.ofUInt32, Int.toNat_natCast, UInt32.ofNat_toNat]

theorem rel_decode_free {j a : Option Json} :
    Option.Rel (fun j a => free.decode held j = .ok a) j a ↔ j = a := by
  cases j <;> cases a <;> simp [decode_free]

end Shape

/-! ## Records -/

/-- The member of that name, of an object, unless it is null. -/
def Json.given? (name : String) (j : Json) : Option Json :=
  match j.member? name with
  | some .null | none => none
  | some j => some j

/-- A member is given as it is unless it is null. -/
theorem Json.given?_eq_iff {v : Json} {name : String} {j : Option Json} (h : v.member? name = j) :
    v.given? name = j ↔ j ≠ some .null := by
  rw [given?, h]
  split <;> simp_all

theorem Json.given?_eq_some_iff {v j : Json} {name : String} :
    v.given? name = some j ↔ v.member? name = some j ∧ j ≠ .null := by
  rw [given?]
  rcases v.member? name with _ | (_ | _ | _ | _ | _ | _)
  case none => simp
  case some.null => simp [eq_comm]
  all_goals
    refine ⟨fun h => ⟨h, ?_⟩, And.left⟩
    rintro rfl
    cases h

namespace Gathered

variable {α β : Type}

theorem pair_eq_complete {g : Gathered α} {g' : Gathered β} {a : α} {b : β} :
    g.pair g' = .complete (a, b) ↔ g = .complete a ∧ g' = .complete b := by
  cases g <;> cases g' <;> simp only [pair] <;> try split
  all_goals simp

theorem ofMember_eq_complete {field : String} {x : Except Fault α} {a : α} :
    ofMember field x = .complete a ↔ x = .ok a := by
  cases x <;> simp [ofMember]

end Gathered

section

variable {α β : Type} {name : String} {shape : Shape α} {rest : Fields β} {held : Bool}
  {ms : List (String × Json)}

theorem Fields.required_complete {a : α} {b : β} :
    (Fields.required name shape rest).ofMembers held ms = .complete (a, b) ↔
      (∃ j, Json.member? name (.object ms) = some j ∧ shape.decode held j = .ok a) ∧
        rest.ofMembers held ms = .complete b := by
  rw [Fields.ofMembers, Gathered.pair_eq_complete, Json.member?]
  refine and_congr_left' ?_
  cases Entries.lookup name ms with
  | none => simp
  | some j => simp [Gathered.ofMember_eq_complete]

theorem Fields.optional_complete {nulled : Bool} {a : Option α} {b : β} :
    (Fields.optional name nulled shape rest).ofMembers held ms = .complete (a, b) ↔
      Option.Rel (fun j a => shape.decode held j = .ok a) (Json.given? name (.object ms)) a ∧
        rest.ofMembers held ms = .complete b := by
  rw [Fields.ofMembers, Gathered.pair_eq_complete, Json.given?, Json.member?]
  refine and_congr_left' ?_
  -- Null is the one member that counts as none.
  rcases Entries.lookup name ms with _ | (_ | _ | _ | _ | _ | _)
  case none | some.null => cases a <;> simp
  all_goals
    rw [Gathered.ofMember_eq_complete]
    dsimp only
    cases hj : shape.decode held _ <;> cases a <;> simp [Except.map, hj]

theorem Fields.defaulted_complete {default : α} {hidden : α → Bool}
    {eq_default : ∀ a, hidden a = true → a = default} {a : α} {b : β} :
    (Fields.defaulted name shape default hidden eq_default rest).ofMembers held ms =
        .complete (a, b) ↔
      ((∃ j, Json.member? name (.object ms) = some j ∧ shape.decode held j = .ok a) ∨
        Json.member? name (.object ms) = none ∧ a = default) ∧
        rest.ofMembers held ms = .complete b := by
  rw [Fields.ofMembers, Gathered.pair_eq_complete, Json.member?]
  refine and_congr_left' ?_
  cases Entries.lookup name ms with
  | none => simp [eq_comm]
  | some j => simp [Gathered.ofMember_eq_complete]

theorem Shape.decode_record_object {record : String} {fields : Fields β} {view : View α β}
    {a : α} : (Shape.record record fields view).decode held (.object ms) = .ok a ↔
      ∃ b, fields.ofMembers held ms = .complete b ∧ view.pack b = a := by
  rw [Shape.decode]
  cases fields.ofMembers held ms <;> simp [Gathered.toExcept, Except.map]

end

/-! ## Records as arrays -/

section

variable {α β : Type} {name : String} {shape : Shape α} {rest : Fields β} {held : Bool}
  {short : Nat → Fault} {place : Nat} {xs left : List Json}

theorem follow_eq_ok {x : Except Fault α} {y : Except Fault (β × List Json)} {a : α} {b : β} :
    follow x y = .ok ((a, b), left) ↔ x = .ok a ∧ y = .ok (b, left) := by
  rcases x with _ | _ <;> rcases y with _ | ⟨_, _⟩ <;> simp [follow, and_assoc]

theorem finish_eq_ok {length fields : Nat} {x : Except Fault (α × List Json)} {a : α} :
    finish held length fields x = .ok a ↔ x = .ok (a, []) := by
  rcases x with _ | ⟨_, _ | _⟩ <;> simp [finish]

theorem Fields.required_ofItems {a : α} {b : β} :
    (Fields.required name shape rest).ofItems held short place xs = .ok ((a, b), left) ↔
      ∃ x ys, xs = x :: ys ∧ shape.decode held x = .ok a ∧
        rest.ofItems held short (place + 1) ys = .ok (b, left) := by
  cases xs with
  | nil => simp [Fields.ofItems]
  | cons x ys =>
    simp only [Fields.ofItems, follow_eq_ok, List.cons.injEq]
    constructor
    · exact fun h => ⟨x, ys, ⟨rfl, rfl⟩, h⟩
    · rintro ⟨_, _, ⟨rfl, rfl⟩, h⟩
      exact h

theorem Fields.optional_ofItems {nulled : Bool} {a : Option α} {b : β} :
    (Fields.optional name nulled shape rest).ofItems held short place xs = .ok ((a, b), left) ↔
      Option.Rel (fun j a => shape.decode held j = .ok a) (xs.head?.filter (· ≠ .null)) a ∧
        rest.ofItems held short (place + 1) xs.tail = .ok (b, left) := by
  simp only [Fields.ofItems, follow_eq_ok]
  refine and_congr_left' ?_
  -- Null is the one item that counts as none.
  rcases xs with _ | ⟨_ | _ | _ | _ | _ | _, _⟩
  case nil | cons.null => cases a <;> simp [Option.filter]
  all_goals
    rw [List.head?_cons, Option.filter_some, if_pos (by simp)]
    dsimp only
    cases hj : shape.decode held _ <;> cases a <;> simp [Except.map, hj]

theorem Fields.defaulted_ofItems {default : α} {hidden : α → Bool}
    {eq_default : ∀ a, hidden a = true → a = default} {a : α} {b : β} :
    (Fields.defaulted name shape default hidden eq_default rest).ofItems held short place xs =
        .ok ((a, b), left) ↔
      ((∃ x ∈ xs.head?, shape.decode held x = .ok a) ∨ xs = [] ∧ a = default) ∧
        rest.ofItems held short (place + 1) xs.tail = .ok (b, left) := by
  simp only [Fields.ofItems, follow_eq_ok]
  refine and_congr_left' ?_
  cases xs <;> simp [eq_comm]

theorem Shape.decode_record_array {record : String} {fields : Fields β} {view : View α β}
    {a : α} : (Shape.record record fields view).decode held (.array xs) = .ok a ↔
      ∃ b, fields.ofItems held (fun i => .tooShort i record fields.count) 0 xs = .ok (b, []) ∧
        view.pack b = a := by
  rw [Shape.decode]
  simp only [← @finish_eq_ok _ held xs.length fields.count]
  cases finish held xs.length fields.count _ <;> simp [Except.map]

end

/-! ## Tagged sums -/

section

variable {α β : Type} {name tag label : String} {cases : Cases β} {view : View α β} {held : Bool}
  {j : Json} {ms : List (String × Json)}

/-- An object is decoded as the variant of its tag. -/
theorem Shape.decode_tagged_object (hmark : Entries.lookup tag ms = some (.string label))
    (hlabel : label ∈ cases.labels) :
    (Shape.tagged name tag cases view).decode held (.object ms) =
      (cases.decodeLabelled label (.object (Entries.drop tag ms))).map view.pack := by
  simp only [Shape.decode, hmark, decodeTag, if_pos hlabel]

/-- What is decoded is some variant. -/
theorem Shape.decodeLabelled_of_tagged {a : α}
    (h : (Shape.tagged name tag cases view).decode held j = .ok a) :
    ∃ label content b, cases.decodeLabelled label content = .ok b ∧ view.pack b = a := by
  have hvariant {label : String} {content : Json}
      (h : (cases.decodeLabelled label content).map view.pack = .ok a) :
      ∃ label content b, cases.decodeLabelled label content = .ok b ∧ view.pack b = a := by
    obtain ⟨b, hb, hpack⟩ := Except.map_eq_ok.1 h
    exact ⟨label, content, b, hb, hpack⟩
  cases j with
  | object ms =>
    rw [Shape.decode] at h
    cases hmark : Entries.lookup tag ms with
    | none => rw [hmark] at h; cases h
    | some mark =>
      rw [hmark] at h
      cases hlabel : decodeTag cases.labels mark with
      | error e => simp only [hlabel, reduceCtorEq] at h
      | ok label => simp only [hlabel] at h; exact hvariant h
  | array xs =>
    -- In an array the tag comes first.
    cases xs with
    | nil => rw [Shape.decode] at h; cases h
    | cons mark xs =>
      rw [Shape.decode] at h
      cases hlabel : decodeTag cases.labels mark with
      | error e => simp only [hlabel, reduceCtorEq] at h
      | ok label => simp only [hlabel] at h; exact hvariant h
  | null | bool | number | string => rw [Shape.decode] at h <;> cases h

end

/-! ## Unions -/

section

variable {α β : Type} {label : String} {shape : Shape α} {rest : Cases β} {j : Json}

theorem Cases.decodeFirst?_inl {a : α} :
    (Cases.cons label shape rest).decodeFirst? j = some (.inl a) ↔ shape.decode true j = .ok a := by
  rw [Cases.decodeFirst?]
  cases shape.decode true j <;> simp

theorem Cases.decodeFirst?_inr {b : β} :
    (Cases.cons label shape rest).decodeFirst? j = some (.inr b) ↔
      (∀ a, shape.decode true j ≠ .ok a) ∧ rest.decodeFirst? j = some b := by
  rw [Cases.decodeFirst?]
  cases shape.decode true j <;> simp

theorem Shape.decode_union {name : String} {cases : Cases β} {view : View α β} {held : Bool}
    {a : α} : (Shape.union name cases view).decode held j = .ok a ↔
      ∃ b, cases.decodeFirst? j = some b ∧ view.pack b = a := by
  rw [Shape.decode]
  cases cases.decodeFirst? j <;> simp

end

end ContextServer
