import ContextServer.Proofs.Dict
import ContextServer.Proofs.Schema.Record
import ContextServer.Proofs.Schema.WellFormed

/-!
# Records that were read

What is decoded is plain (`Shape.yieldsPlain`): null in the place of an optional value is
taken for none, in an object and in an array, so that an optional field never holds it, and a
default is plain as the description says.
-/

namespace ContextServer

/-! ## Decoded values are plain -/

/-- What is decoded is plain. -/
def Shape.YieldsPlain {α : Type} (shape : Shape α) : Prop :=
  ∀ held j a, shape.decode held j = .ok a → shape.isPlain a = true

/-- What is decoded from an object or an array is plain. -/
structure Fields.YieldPlain {α : Type} (fields : Fields α) : Prop where
  ofMembers : ∀ held ms a, fields.ofMembers held ms = .complete a → fields.isPlain a = true
  ofItems : ∀ held short place xs a left, fields.ofItems held short place xs = .ok (a, left) →
    fields.isPlain a = true

/-- What is decoded as a variant, by its label or as the first one, is plain. -/
structure Cases.YieldPlain {α : Type} (cases : Cases α) : Prop where
  labelled : ∀ label j a, cases.decodeLabelled label j = .ok a → cases.isPlain a = true
  first : ∀ j a, cases.decodeFirst? j = some a → cases.isPlain a = true

theorem all_of_mapM {α β : Type} {f : β → Except Fault α} {p : α → Bool}
    (hf : ∀ x a, f x = .ok a → p a = true) {xs : List β} {ys : List α}
    (h : xs.mapM f = .ok ys) : ys.all p = true := by
  induction xs generalizing ys with
  | nil =>
    cases h
    rfl
  | cons x xs ih =>
    rw [List.mapM_cons] at h
    obtain ⟨y, hy, h⟩ := Except.bind_eq_ok.1 h
    obtain ⟨ys', hys, h⟩ := Except.bind_eq_ok.1 h
    cases h
    rw [List.all_cons, hf x y hy, ih hys]
    rfl

namespace Shape

variable {α β : Type}

theorem list_yieldsPlain {items : Shape α} (hi : items.YieldsPlain) :
    (list items).YieldsPlain := by
  intro held j xs h
  rw [isPlain]
  match j with
  | .array _ =>
    rw [decode] at h
    exact all_of_mapM (hi held) h
  | .null | .bool _ | .number _ | .string _ | .object _ => rw [decode] at h <;> cases h

theorem dict_yieldsPlain {items : Shape α} (hi : items.YieldsPlain) :
    (dict items).YieldsPlain := by
  intro held j d h
  rw [isPlain]
  match j with
  | .object ms =>
    rw [decode] at h
    obtain ⟨es, hes, rfl⟩ := Except.map_eq_ok.1 h
    have hall : es.all (fun e => items.isPlain e.2) = true :=
      all_of_mapM (fun m e he => by
        obtain ⟨a, ha, rfl⟩ := Except.map_eq_ok.1 he
        exact hi held m.2 a ha) hes
    rw [List.all_eq_true] at hall ⊢
    intro a ha
    obtain ⟨e, he, rfl⟩ := List.mem_map.1 ha
    exact hall e (Entries.mem_sort he)
  | .null | .bool _ | .number _ | .string _ | .array _ => rw [decode] at h <;> cases h

theorem record_yieldsPlain {name : String} {fields : Fields β} {view : View α β}
    (h : fields.YieldPlain) : (record name fields view).YieldsPlain := by
  intro held j a hok
  rw [isPlain]
  match j with
  | .object ms =>
    obtain ⟨b, hb, rfl⟩ := decode_record_object.1 hok
    rw [view.unpack_pack]
    exact h.ofMembers _ _ _ hb
  | .array xs =>
    obtain ⟨b, hb, rfl⟩ := decode_record_array.1 hok
    rw [view.unpack_pack]
    exact h.ofItems _ _ _ _ _ _ hb
  | .null | .bool _ | .number _ | .string _ => rw [decode] at hok <;> cases hok

theorem tagged_yieldsPlain {name tag : String} {cases : Cases β} {view : View α β}
    (h : cases.YieldPlain) : (tagged name tag cases view).YieldsPlain := by
  intro held j a hok
  obtain ⟨label, content, b, hb, rfl⟩ := decodeLabelled_of_tagged hok
  rw [isPlain, view.unpack_pack]
  exact h.labelled _ _ _ hb

theorem union_yieldsPlain {name : String} {cases : Cases β} {view : View α β}
    (h : cases.YieldPlain) : (union name cases view).YieldsPlain := by
  intro held j a hok
  obtain ⟨b, hb, rfl⟩ := decode_union.1 hok
  rw [isPlain, view.unpack_pack]
  exact h.first _ _ hb

/-- A free value that is no null is given. -/
theorem isGiven_of_decode {shape : Shape α} {held : Bool} {j : Json} {a : α} (hj : j ≠ .null)
    (h : shape.decode held j = .ok a) : shape.isGiven a = true := by
  cases shape with
  | free =>
    cases decode_free.1 h
    simpa [isGiven] using hj
  | _ => rfl

/-- The value of an optional field. -/
theorem YieldsPlain.optional {shape : Shape α} (hs : shape.YieldsPlain) {held : Bool}
    {j : Option Json} {a : Option α} (hj : j ≠ some .null)
    (h : Option.Rel (fun j a => shape.decode held j = .ok a) j a) :
    a.all (fun a => shape.isGiven a && shape.isPlain a) = true := by
  cases h with
  | none => rfl
  | some h =>
    rw [Option.all_some, isGiven_of_decode (fun hn => hj (congrArg some hn)) h, hs _ _ _ h]
    rfl

/-- The value of a field with a default. -/
theorem YieldsPlain.defaulted {shape : Shape α} (hs : shape.YieldsPlain) {held : Bool}
    {default a : α} (hd : shape.isPlain default = true)
    (ha : (∃ j, shape.decode held j = .ok a) ∨ a = default) : shape.isPlain a = true := by
  rcases ha with ⟨j, ha⟩ | rfl
  · exact hs held j a ha
  · exact hd

end Shape

namespace Fields

variable {α β : Type} {name : String} {shape : Shape α} {rest : Fields β}

theorem required_yieldPlain (hs : shape.YieldsPlain) (hrest : rest.YieldPlain) :
    (required name shape rest).YieldPlain where
  ofMembers := by
    rintro held ms ⟨a, b⟩ h
    obtain ⟨⟨j, -, ha⟩, hb⟩ := required_complete.1 h
    rw [isPlain, hs _ _ _ ha, hrest.ofMembers _ _ _ hb, Bool.and_self]
  ofItems := by
    rintro held short place xs ⟨a, b⟩ left h
    obtain ⟨x, ys, -, ha, hb⟩ := required_ofItems.1 h
    rw [isPlain, hs _ _ _ ha, hrest.ofItems _ _ _ _ _ _ hb, Bool.and_self]

theorem optional_yieldPlain {nulled : Bool} (hs : shape.YieldsPlain) (hrest : rest.YieldPlain) :
    (optional name nulled shape rest).YieldPlain where
  ofMembers := by
    rintro held ms ⟨a, b⟩ h
    obtain ⟨ha, hb⟩ := optional_complete.1 h
    have hnull : Json.given? name (.object ms) ≠ some .null := fun h =>
      (Json.given?_eq_some_iff.1 h).2 rfl
    rw [isPlain, hs.optional hnull ha, hrest.ofMembers _ _ _ hb, Bool.and_self]
  ofItems := by
    rintro held short place xs ⟨a, b⟩ left h
    obtain ⟨ha, hb⟩ := optional_ofItems.1 h
    have hnull : xs.head?.filter (· ≠ .null) ≠ some .null := fun h => by
      simpa using (Option.filter_eq_some_iff.1 h).2
    rw [isPlain, hs.optional hnull ha, hrest.ofItems _ _ _ _ _ _ hb, Bool.and_self]

theorem defaulted_yieldPlain {default : α} {hidden : α → Bool}
    {eq_default : ∀ a, hidden a = true → a = default} (hs : shape.YieldsPlain)
    (hd : shape.isPlain default = true) (hrest : rest.YieldPlain) :
    (defaulted name shape default hidden eq_default rest).YieldPlain where
  ofMembers := by
    rintro held ms ⟨a, b⟩ h
    obtain ⟨ha, hb⟩ := defaulted_complete.1 h
    rw [isPlain, hs.defaulted hd (ha.imp (Exists.imp fun _ => And.right) And.right),
      hrest.ofMembers _ _ _ hb, Bool.and_self]
  ofItems := by
    rintro held short place xs ⟨a, b⟩ left h
    obtain ⟨ha, hb⟩ := defaulted_ofItems.1 h
    rw [isPlain, hs.defaulted hd (ha.imp (Exists.imp fun _ => And.right) And.right),
      hrest.ofItems _ _ _ _ _ _ hb, Bool.and_self]

end Fields

theorem Cases.cons_yieldPlain {α β : Type} {label : String} {shape : Shape α} {rest : Cases β}
    (hs : shape.YieldsPlain) (hrest : rest.YieldPlain) :
    (cons label shape rest).YieldPlain where
  labelled := by
    intro label' j a h
    rw [decodeLabelled] at h
    split at h <;> obtain ⟨b, hb, rfl⟩ := Except.map_eq_ok.1 h <;> rw [isPlain]
    · exact hs _ _ _ hb
    · exact hrest.labelled _ _ _ hb
  first := by
    intro j a h
    match a with
    | .inl a => rw [isPlain]; exact hs _ _ _ (decodeFirst?_inl.1 h)
    | .inr b => rw [isPlain]; exact hrest.first _ _ (decodeFirst?_inr.1 h).2

mutual

/-- What is described without ambiguity is decoded to plain values. -/
theorem Shape.yieldsPlain {α : Type} : (shape : Shape α) → shape.isWellFormed = true →
    shape.YieldsPlain
  | .string, _ | .boolean, _ | .int32, _ | .int64, _ | .uint32, _ | .double, _ | .free, _
  | .choice _, _ => fun _ _ _ _ => by rw [Shape.isPlain]
  | .list items, h => by
    rw [Shape.isWellFormed] at h
    exact Shape.list_yieldsPlain (items.yieldsPlain h)
  | .dict items, h => by
    rw [Shape.isWellFormed] at h
    exact Shape.dict_yieldsPlain (items.yieldsPlain h)
  | .record _ fields _, h => by
    rw [Shape.isWellFormed, Bool.and_eq_true] at h
    exact Shape.record_yieldsPlain (fields.yieldPlain h.1)
  | .tagged _ _ cases _, h => by
    simp only [Shape.isWellFormed, Bool.and_eq_true] at h
    exact Shape.tagged_yieldsPlain (cases.yieldPlain h.1.1)
  | .union _ cases _, h => by
    rw [Shape.isWellFormed, Bool.and_eq_true] at h
    exact Shape.union_yieldsPlain (cases.yieldPlain h.1)

theorem Fields.yieldPlain {α : Type} : (fields : Fields α) → fields.isWellFormed = true →
    fields.YieldPlain
  | .nil, _ => ⟨fun _ _ _ _ => by rw [Fields.isPlain], fun _ _ _ _ _ _ _ => by rw [Fields.isPlain]⟩
  | .required _ shape rest, h => by
    rw [Fields.isWellFormed, Bool.and_eq_true] at h
    exact Fields.required_yieldPlain (shape.yieldsPlain h.1) (rest.yieldPlain h.2)
  | .optional _ _ shape rest, h => by
    simp only [Fields.isWellFormed, Bool.and_eq_true] at h
    exact Fields.optional_yieldPlain (shape.yieldsPlain h.1.1) (rest.yieldPlain h.2)
  | .defaulted _ shape _ _ _ rest, h => by
    simp only [Fields.isWellFormed, Bool.and_eq_true] at h
    exact Fields.defaulted_yieldPlain (shape.yieldsPlain h.1.1) h.1.2 (rest.yieldPlain h.2)

theorem Cases.yieldPlain {α : Type} : (cases : Cases α) → cases.isWellFormed = true →
    cases.YieldPlain
  | .nil, _ => ⟨fun _ _ => nofun, fun _ => nofun⟩
  | .cons _ shape rest, h => by
    rw [Cases.isWellFormed, Bool.and_eq_true] at h
    exact Cases.cons_yieldPlain (shape.yieldsPlain h.1) (rest.yieldPlain h.2)

end

end ContextServer
