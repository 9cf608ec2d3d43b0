import ContextServer.Proofs.Dict
import ContextServer.Proofs.Schema.Record
import ContextServer.Proofs.Schema.WellFormed

/-!
# Records that come back

What is described without ambiguity is decoded from its own encoding, if it is plain
(`Shape.roundTrips`). The proof follows the description, with one lemma for each way to
build one:

* The members of a record are put in order, which no look-up notices, and a field looks at
  the member of its name alone (`Fields.ofMembers_congr`), so that a field can be followed
  by others (`Fields.required_roundTrips` and its siblings).
* The tag of a variant is one more member of the record that it is
  (`Shape.tagged_roundTrips`).
* A variant without a tag is found as the first one that takes what was written
  (`Shape.union_roundTrips`).
-/

namespace ContextServer

/-! ## Members by name -/

open Entries (lookup)

/-- Only what is written under the names of the fields counts. -/
theorem Fields.ofMembers_congr {held : Bool} {ms ms' : List (String × Json)} {α : Type} :
    (fields : Fields α) → (∀ n ∈ fields.names, lookup n ms = lookup n ms') →
      fields.ofMembers held ms = fields.ofMembers held ms'
  | .nil, _ => by rw [ofMembers, ofMembers]
  | .required _ _ rest, h | .optional _ _ _ rest, h | .defaulted _ _ _ _ _ rest, h => by
    obtain ⟨hn, hrest⟩ := List.forall_mem_cons.1 h
    rw [ofMembers, ofMembers, hn, ofMembers_congr rest hrest]

/-- The members that are written have names of fields, each once at most. -/
theorem Fields.keys_encode {α : Type} : (fields : Fields α) → (a : α) →
    ((fields.encodeWith Entries.sort a).map (·.1)).Sublist fields.names
  | .nil, _ => by rw [encodeWith]; exact .slnil
  | .required _ _ rest, (a, b) => by
    rw [encodeWith]
    exact (rest.keys_encode b).cons_cons _
  | .optional _ nulled _ rest, (none, b) => by
    rw [encodeWith]
    cases nulled
    · exact (rest.keys_encode b).cons _
    · exact (rest.keys_encode b).cons_cons _
  | .optional _ _ _ rest, (some a, b) => by
    rw [encodeWith]
    exact (rest.keys_encode b).cons_cons _
  | .defaulted _ _ _ hidden _ rest, (a, b) => by
    rw [encodeWith]
    cases hidden a
    · exact (rest.keys_encode b).cons_cons _
    · exact (rest.keys_encode b).cons _

theorem Fields.lookup_encode_eq_none {α : Type} {fields : Fields α} {n : String}
    (h : n ∉ fields.names) (a : α) : lookup n (fields.encodeWith Entries.sort a) = none :=
  Entries.lookup_eq_none fun hn => h ((fields.keys_encode a).subset hn)

/-- A member of no field makes no difference. -/
theorem Fields.ofMembers_cons {held : Bool} {n : String} {j : Json} {ms : List (String × Json)}
    {α : Type} {fields : Fields α} (h : n ∉ fields.names) :
    fields.ofMembers held ((n, j) :: ms) = fields.ofMembers held ms :=
  fields.ofMembers_congr fun k hk => by rw [lookup, if_neg (ne_of_mem_of_not_mem hk h).symm]

theorem Json.member?_cons_self {n : String} {j : Json} {ms : List (String × Json)} :
    Json.member? n (.object ((n, j) :: ms)) = some j := by
  rw [Json.member?, lookup, if_pos rfl]

/-! ## Values that come back -/

/-- Plain values come back. -/
def Shape.RoundTrips {α : Type} (shape : Shape α) : Prop :=
  ∀ held a, shape.isPlain a = true → shape.decode held (shape.encode a) = .ok a

/-- Plain values of the fields come back. -/
def Fields.RoundTrips {α : Type} (fields : Fields α) : Prop :=
  ∀ held a, fields.isPlain a = true → fields.names.Nodup →
    fields.ofMembers held (fields.encodeWith Entries.sort a) = .complete a

/-- Plain values of every variant come back. -/
def Cases.RoundTrip {α : Type} : Cases α → Prop
  | .nil => True
  | .cons _ shape rest => shape.RoundTrips ∧ rest.RoundTrip

namespace Shape

variable {α β : Type}

theorem mapM_encode {items : Shape α} (h : items.RoundTrips) (held : Bool) {xs : List α}
    (hp : xs.all items.isPlain = true) :
    (xs.map items.encode).mapM (items.decode held) = .ok xs := by
  induction xs with
  | nil => rfl
  | cons x xs ih =>
    rw [List.all_cons, Bool.and_eq_true] at hp
    rw [List.map_cons, List.mapM_cons, h held x hp.1, ih hp.2]
    rfl

theorem list_roundTrips {items : Shape α} (h : items.RoundTrips) : (list items).RoundTrips := by
  intro held xs hp
  rw [isPlain] at hp
  rw [encode, encodeWith, decode]
  exact mapM_encode h held hp

theorem mapM_encode_entries {items : Shape α} (h : items.RoundTrips) (held : Bool)
    {es : List (String × α)} (hp : (es.map (·.2)).all items.isPlain = true) :
    (es.map fun e => (e.1, items.encode e.2)).mapM
      (fun m => (items.decode held m.2).map (m.1, ·)) = .ok es := by
  induction es with
  | nil => rfl
  | cons e es ih =>
    rw [List.map_cons, List.all_cons, Bool.and_eq_true] at hp
    rw [List.map_cons, List.mapM_cons, h held e.2 hp.1, ih hp.2]
    rfl

theorem dict_roundTrips {items : Shape α} (h : items.RoundTrips) : (dict items).RoundTrips := by
  intro held d hp
  rw [isPlain] at hp
  have hentries := mapM_encode_entries h held hp
  have hsorted : Dict.ofList d.entries = d := Dict.ext_get? fun k =>
    congrArg (lookup k) d.ascending.sort_eq
  rw [encode, encodeWith, decode]
  exact (congrArg (Except.map Dict.ofList) hentries).trans (congrArg Except.ok hsorted)

theorem choice_roundTrips (names : Choice α) : (choice names).RoundTrips := by
  intro held a _
  rw [encode, encodeWith, decode, Choice.decode, Choice.find, names.lookup_name]

/-- Null is written for nothing but a free value and, perhaps, a sum. -/
theorem encode_ne_null {shape : Shape α} (hs : shape.isSum = false) {a : α}
    (hg : shape.isGiven a = true) : shape.encode a ≠ .null := by
  cases shape <;> simp_all [encode, encodeWith, isSum, isGiven]

theorem record_roundTrips {name : String} {fields : Fields β} {view : View α β}
    (h : fields.RoundTrips) (hn : fields.names.Nodup) :
    (record name fields view).RoundTrips := by
  intro held a hp
  rw [isPlain] at hp
  have hkeys := hn.sublist (fields.keys_encode (view.unpack a))
  rw [encode, encodeWith]
  refine decode_record_object.2 ⟨view.unpack a, ?_, view.pack_unpack a⟩
  rw [fields.ofMembers_congr fun k _ => Entries.lookup_sort hkeys k]
  exact h held _ hp hn

end Shape

namespace Fields

variable {α β : Type} {name : String} {shape : Shape α} {rest : Fields β}

theorem required_roundTrips (hs : shape.RoundTrips) (hrest : rest.RoundTrips) :
    (required name shape rest).RoundTrips := by
  rintro held ⟨a, b⟩ hp hn
  rw [isPlain, Bool.and_eq_true] at hp
  obtain ⟨hname, hn⟩ := List.nodup_cons.1 hn
  rw [encodeWith, required_complete, ofMembers_cons hname]
  exact ⟨⟨_, Json.member?_cons_self, hs held a hp.1⟩, hrest held b hp.2 hn⟩

theorem optional_roundTrips {nulled : Bool} (hs : shape.RoundTrips) (hsum : shape.isSum = false)
    (hrest : rest.RoundTrips) : (optional name nulled shape rest).RoundTrips := by
  rintro held ⟨a, b⟩ hp hn
  rw [isPlain, Bool.and_eq_true] at hp
  obtain ⟨hname, hrestn⟩ := List.nodup_cons.1 hn
  cases a with
  | none =>
    have hgiven (ms : List (String × Json)) (hms : lookup name ms = none ∨
        lookup name ms = some .null) : Json.given? name (.object ms) = none := by
      rw [Json.given?, Json.member?]
      rcases hms with hms | hms <;> rw [hms]
    have hnone := lookup_encode_eq_none hname b
    -- Nothing is written, or null; both are read as none.
    rw [encodeWith, optional_complete]
    cases nulled with
    | false =>
      rw [if_neg Bool.false_ne_true, hgiven _ (.inl hnone)]
      exact ⟨.none, hrest held b hp.2 hrestn⟩
    | true =>
      rw [if_pos rfl, hgiven _ (.inr (by rw [lookup, if_pos rfl])), ofMembers_cons hname]
      exact ⟨.none, hrest held b hp.2 hrestn⟩
  | some a =>
    obtain ⟨⟨hg, ha⟩, hb⟩ : (shape.isGiven a = true ∧ shape.isPlain a = true) ∧ _ := by
      simpa using hp
    have hgiven : Json.given? name (.object ((name, shape.encode a) ::
        rest.encodeWith Entries.sort b)) = some (shape.encode a) :=
      Json.given?_eq_some_iff.2 ⟨Json.member?_cons_self, Shape.encode_ne_null hsum hg⟩
    rw [encodeWith, optional_complete, ofMembers_cons hname]
    refine ⟨?_, hrest held b hb hrestn⟩
    rw [← Shape.encode, hgiven]
    exact .some (hs held a ha)

theorem defaulted_roundTrips {default : α} {hidden : α → Bool}
    {eq_default : ∀ a, hidden a = true → a = default} (hs : shape.RoundTrips)
    (hrest : rest.RoundTrips) :
    (defaulted name shape default hidden eq_default rest).RoundTrips := by
  rintro held ⟨a, b⟩ hp hn
  rw [isPlain, Bool.and_eq_true] at hp
  obtain ⟨hname, hn⟩ := List.nodup_cons.1 hn
  rw [encodeWith, defaulted_complete]
  cases hh : hidden a with
  | true =>
    rw [if_pos rfl]
    exact ⟨.inr ⟨lookup_encode_eq_none hname b, eq_default a hh⟩, hrest held b hp.2 hn⟩
  | false =>
    rw [if_neg Bool.false_ne_true, ofMembers_cons hname]
    exact ⟨.inl ⟨_, Json.member?_cons_self, hs held a hp.1⟩,
      hrest held b hp.2 hn⟩

end Fields

/-! ## Tagged sums -/

section

variable {tag label : String} {held : Bool} {ms ms' : List (String × Json)}

/-- The member of the tag makes no difference to a variant. -/
theorem Shape.decode_congr {α : Type} {shape : Shape α}
    (h : shape.isRecordWithout tag = true) (hms : ∀ k, k ≠ tag → lookup k ms = lookup k ms') :
    shape.decode held (.object ms) = shape.decode held (.object ms') := by
  match shape, h with
  | .record _ fields _, h =>
    rw [isRecordWithout, Bool.not_eq_true', List.contains_eq_mem, decide_eq_false_iff_not] at h
    rw [decode, decode, fields.ofMembers_congr fun k hk => hms k (ne_of_mem_of_not_mem hk h)]

theorem Cases.decodeLabelled_congr (hms : ∀ k, k ≠ tag → lookup k ms = lookup k ms') {α : Type} :
    (cases : Cases α) → cases.areRecordsWithout tag = true →
      cases.decodeLabelled label (.object ms) = cases.decodeLabelled label (.object ms')
  | .nil, _ => by rw [decodeLabelled, decodeLabelled]
  | .cons _ shape rest, h => by
    rw [areRecordsWithout, Bool.and_eq_true] at h
    rw [decodeLabelled, decodeLabelled, Shape.decode_congr h.1 hms,
      rest.decodeLabelled_congr hms h.2]

/-- What is written of a variant is an object to which the tag can be added. -/
theorem Shape.encode_record {α : Type} {shape : Shape α} (h : shape.isRecordWithout tag = true)
    (a : α) : ∃ ms, shape.encode a = .object ms ∧ (tag :: ms.map (·.1)).Nodup := by
  match shape, h with
  | .record _ fields view, h =>
    rw [isRecordWithout, Bool.not_eq_true', List.contains_eq_mem, decide_eq_false_iff_not] at h
    refine ⟨_, by rw [encode, encodeWith], List.nodup_cons.2 ⟨fun htag => ?_,
      (Entries.ascending_sort _).nodup⟩⟩
    obtain ⟨e, he, rfl⟩ := List.mem_map.1 htag
    have hkeys := (fields.keys_encode (view.unpack a)).subset
    exact h (hkeys (List.mem_map_of_mem (Entries.mem_sort he)))

theorem Cases.encode_record {α : Type} : (cases : Cases α) →
    cases.areRecordsWithout tag = true → (a : α) →
    ∃ ms, (cases.encodeWith Entries.sort a).2 = .object ms ∧ (tag :: ms.map (·.1)).Nodup
  | .cons _ shape _, h, .inl a => by
    rw [areRecordsWithout, Bool.and_eq_true] at h
    rw [encodeWith]
    exact Shape.encode_record h.1 a
  | .cons _ _ rest, h, .inr b => by
    rw [areRecordsWithout, Bool.and_eq_true] at h
    rw [encodeWith]
    exact rest.encode_record h.2 b

theorem Cases.label_mem {α : Type} : (cases : Cases α) → (a : α) →
    (cases.encodeWith Entries.sort a).1 ∈ cases.labels
  | .cons _ _ _, .inl _ => by rw [encodeWith]; exact List.mem_cons_self
  | .cons _ _ rest, .inr b => by
    rw [encodeWith]
    exact List.mem_cons_of_mem _ (rest.label_mem b)

/-- A variant comes back by its label. -/
theorem Cases.decodeLabelled_encode {α : Type} : (cases : Cases α) → cases.RoundTrip →
    cases.labels.Nodup → (a : α) → cases.isPlain a = true →
    cases.decodeLabelled (cases.encodeWith Entries.sort a).1
      (cases.encodeWith Entries.sort a).2 = .ok a
  | .cons _ shape _, h, _, .inl a, hp => by
    rw [isPlain] at hp
    rw [encodeWith, decodeLabelled, if_pos rfl, ← Shape.encode, h.1 true a hp]
    rfl
  | .cons _ _ rest, h, hl, .inr b, hp => by
    obtain ⟨hlabel, hl⟩ := List.nodup_cons.1 hl
    rw [isPlain] at hp
    rw [encodeWith, decodeLabelled, if_neg (ne_of_mem_of_not_mem (rest.label_mem b) hlabel).symm,
      rest.decodeLabelled_encode h.2 hl b hp]
    rfl

theorem Shape.tagged_roundTrips {α β : Type} {name : String} {cases : Cases β} {view : View α β}
    (h : cases.RoundTrip) (hrecords : cases.areRecordsWithout tag = true)
    (hl : cases.labels.Nodup) : (tagged name tag cases view).RoundTrips := by
  intro held a hp
  rw [isPlain] at hp
  have hvariant := cases.decodeLabelled_encode h hl _ hp
  have hlabel := cases.label_mem (view.unpack a)
  obtain ⟨ms, hms, hnodup⟩ := cases.encode_record hrecords (view.unpack a)
  rw [encode, encodeWith]
  generalize cases.encodeWith Entries.sort (view.unpack a) = written at *
  obtain ⟨label, j⟩ := written
  cases hms
  have hkeys : (((tag, Json.string label) :: ms).map (·.1)).Nodup := hnodup
  have hlookup := Entries.lookup_sort hkeys
  -- Without the tag, the variant finds the members that it wrote, in another order.
  have hcontent : ∀ k, k ≠ tag →
      lookup k (Entries.drop tag (Entries.sort ((tag, .string label) :: ms))) = lookup k ms := by
    intro k hk
    rw [Entries.lookup_drop, if_neg hk.symm, hlookup, lookup, if_neg hk.symm]
  have hmark : lookup tag (Entries.sort ((tag, .string label) :: ms)) = some (.string label) := by
    rw [hlookup, lookup, if_pos rfl]
  dsimp only
  rw [decode_tagged_object hmark hlabel, cases.decodeLabelled_congr hcontent hrecords, hvariant,
    Except.map, view.pack_unpack]

end

/-! ## Bare sums -/

/-- A record takes no object without a member for a required field. -/
theorem Fields.ofMembers_ne_complete {held : Bool} {n : String} {ms : List (String × Json)}
    (hnone : lookup n ms = none) {α : Type} : (fields : Fields α) → n ∈ fields.requiredNames →
    (a : α) → fields.ofMembers held ms ≠ .complete a
  | .required _ _ rest, hn, (a, b) => fun h => by
    obtain ⟨⟨j, hj, -⟩, hrest⟩ := required_complete.1 h
    rcases List.mem_cons.1 hn with rfl | hn
    · cases hnone.symm.trans hj
    · exact rest.ofMembers_ne_complete hnone hn b hrest
  | .optional _ _ _ rest, hn, (a, b) => fun h =>
    rest.ofMembers_ne_complete hnone hn b (optional_complete.1 h).2
  | .defaulted _ _ _ _ _ rest, hn, (a, b) => fun h =>
    rest.ofMembers_ne_complete hnone hn b (defaulted_complete.1 h).2

theorem Shape.decode_ne_ok_of_excludes {α β : Type} : (shape : Shape α) → (shape' : Shape β) →
    shape.excludes shape' = true → (held : Bool) → (a : α) → (b : β) →
    shape.decode held (shape'.encode b) ≠ .ok a
  | .int64, .string, _, _, _, _ => fun h => by cases decode_int64.1 h
  | .record _ fields _, .record _ fields' view, h, held, a, b => fun hok => by
    rw [excludes, List.any_eq_true] at h
    -- This field is required here, and nothing is written under its name there.
    obtain ⟨n, hn, hn'⟩ := h
    rw [Bool.not_eq_true', List.contains_eq_mem, decide_eq_false_iff_not] at hn'
    have hnone : lookup n (Entries.sort (fields'.encodeWith Entries.sort (view.unpack b))) = none :=
      Entries.lookup_eq_none fun hmem => by
        obtain ⟨e, he, rfl⟩ := List.mem_map.1 hmem
        have hkeys := (fields'.keys_encode (view.unpack b)).subset
        exact hn' (hkeys (List.mem_map_of_mem (Entries.mem_sort he)))
    rw [encode, encodeWith] at hok
    obtain ⟨c, hc, -⟩ := decode_record_object.1 hok
    exact fields.ofMembers_ne_complete hnone hn c hc

theorem Shape.decode_ne_ok_of_excludesAll {α : Type} {shape : Shape α} {β : Type} :
    (cases : Cases β) → shape.excludesAll cases = true → (held : Bool) → (a : α) → (b : β) →
    shape.decode held (cases.encodeWith Entries.sort b).2 ≠ .ok a
  | .cons _ _ _, h, held, a, .inl b => by
    rw [excludesAll, Bool.and_eq_true] at h
    rw [Cases.encodeWith]
    exact decode_ne_ok_of_excludes shape _ h.1 held a b
  | .cons _ _ rest, h, held, a, .inr b => by
    rw [excludesAll, Bool.and_eq_true] at h
    rw [Cases.encodeWith]
    exact decode_ne_ok_of_excludesAll rest h.2 held a b

/-- The first variant that takes what was written is the one that wrote it. -/
theorem Cases.decodeFirst?_encode {α : Type} : (cases : Cases α) → cases.RoundTrip →
    cases.areApart = true → (a : α) → cases.isPlain a = true →
    cases.decodeFirst? (cases.encodeWith Entries.sort a).2 = some a
  | .cons _ shape _, h, _, .inl a, hp => by
    rw [isPlain] at hp
    rw [encodeWith]
    exact decodeFirst?_inl.2 (h.1 true a hp)
  | .cons _ shape rest, h, hapart, .inr b, hp => by
    rw [isPlain] at hp
    rw [areApart, Bool.and_eq_true] at hapart
    rw [encodeWith]
    exact decodeFirst?_inr.2 ⟨fun a => Shape.decode_ne_ok_of_excludesAll rest hapart.1 true a b,
      rest.decodeFirst?_encode h.2 hapart.2 b hp⟩

theorem Shape.union_roundTrips {α β : Type} {name : String} {cases : Cases β} {view : View α β}
    (h : cases.RoundTrip) (hapart : cases.areApart = true) :
    (union name cases view).RoundTrips := by
  intro held a hp
  rw [isPlain] at hp
  rw [encode, encodeWith]
  exact decode_union.2 ⟨_, cases.decodeFirst?_encode h hapart _ hp, view.pack_unpack a⟩

/-! ## All shapes -/

mutual

/-- What is described without ambiguity comes back. -/
theorem Shape.roundTrips {α : Type} : (shape : Shape α) → shape.isWellFormed = true →
    shape.RoundTrips
  | .string, _ => fun _ _ _ => Shape.decode_string.2 rfl
  | .boolean, _ => fun _ _ _ => by rw [Shape.encode, Shape.encodeWith, Shape.decode]
  | .int32, _ => fun _ _ _ => Shape.decode_int32.2 rfl
  | .int64, _ => fun _ _ _ => Shape.decode_int64.2 rfl
  | .uint32, _ => fun _ _ _ => Shape.decode_uint32.2 rfl
  | .double, _ => fun _ _ _ => Shape.decode_double
  | .free, _ => fun _ _ _ => Shape.decode_free.2 rfl
  | .choice names, _ => Shape.choice_roundTrips names
  | .list items, h => by
    rw [Shape.isWellFormed] at h
    exact Shape.list_roundTrips (items.roundTrips h)
  | .dict items, h => by
    rw [Shape.isWellFormed] at h
    exact Shape.dict_roundTrips (items.roundTrips h)
  | .record _ fields _, h => by
    rw [Shape.isWellFormed, Bool.and_eq_true, decide_eq_true_iff] at h
    exact Shape.record_roundTrips (fields.roundTrips h.1) h.2
  | .tagged _ _ cases _, h => by
    simp only [Shape.isWellFormed, Bool.and_eq_true, decide_eq_true_iff] at h
    exact Shape.tagged_roundTrips (cases.roundTrip h.1.1) h.1.2 h.2
  | .union _ cases _, h => by
    rw [Shape.isWellFormed, Bool.and_eq_true] at h
    exact Shape.union_roundTrips (cases.roundTrip h.1) h.2

theorem Fields.roundTrips {α : Type} : (fields : Fields α) → fields.isWellFormed = true →
    fields.RoundTrips
  | .nil, _ => fun _ _ _ _ => Fields.nil_complete.2 trivial
  | .required _ shape rest, h => by
    rw [Fields.isWellFormed, Bool.and_eq_true] at h
    exact Fields.required_roundTrips (shape.roundTrips h.1) (rest.roundTrips h.2)
  | .optional _ _ shape rest, h => by
    simp only [Fields.isWellFormed, Bool.and_eq_true, Bool.not_eq_true'] at h
    exact Fields.optional_roundTrips (shape.roundTrips h.1.1) h.1.2 (rest.roundTrips h.2)
  | .defaulted _ shape _ _ _ rest, h => by
    simp only [Fields.isWellFormed, Bool.and_eq_true] at h
    exact Fields.defaulted_roundTrips (shape.roundTrips h.1.1) (rest.roundTrips h.2)

theorem Cases.roundTrip {α : Type} : (cases : Cases α) → cases.isWellFormed = true →
    cases.RoundTrip
  | .nil, _ => trivial
  | .cons _ shape rest, h => by
    rw [Cases.isWellFormed, Bool.and_eq_true] at h
    exact ⟨shape.roundTrips h.1, rest.roundTrip h.2⟩

end

end ContextServer
