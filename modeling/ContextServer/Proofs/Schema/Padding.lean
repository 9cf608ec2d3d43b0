import ContextServer.Proofs.Schema.RoundTrip

/-!
# Members that make no difference

A value can be *padded* (`Shape.Padded`): a record in it, wherever it stands, may have more
members than it has fields, and may have null for a member of an optional field that it
lacks. Where a record can stand is told by the description: as an item, as a member or an
element of another record, as the variant of a sum, at any depth.

What is decoded is the same, and so is the fault (`Shape.Padded.alike`). The proof follows
the padding, with one lemma for each place to put it:

* A record looks at the members of its fields alone (`Fields.ofMembers_sameBut`), and for an
  optional field null is no member (`Fields.ofMembers_null`).
* A record that holds a padded value finds the same in it, among its members
  (`Fields.At.ofMembers_eq`) or in its place (`Fields.At.ofItems_eq`), and goes on to the
  same fields after it.
* A tagged sum takes the variant of its label (`Cases.decodeLabelled_eq`); a bare one finds
  that each variant takes the padded value if it takes the other (`Cases.decodeFirst?_eq`).
-/

namespace ContextServer

open Entries (lookup put drop)

/-! ## Members one by one -/

/-- The second object has the same members as the first one, but for one name. -/
def Entries.SameBut (k : String) (ms ms' : List (String × Json)) : Prop :=
  ∀ n, n ≠ k → lookup n ms' = lookup n ms

theorem Entries.sameBut_put (k : String) (j : Json) (ms : List (String × Json)) :
    SameBut k ms (put k j ms) := fun n hn => by rw [lookup_put, if_neg hn.symm]

theorem Entries.SameBut.drop {k : String} {ms ms' : List (String × Json)} (h : SameBut k ms ms')
    (tag : String) : SameBut k (drop tag ms) (drop tag ms') := fun n hn => by
  rw [lookup_drop, lookup_drop, h n hn]

/-! ## The parts of a description -/

/-- The names of the optional fields. -/
def Fields.optionalNames {α : Type} : Fields α → List String
  | .nil => []
  | .optional n _ _ rest => n :: rest.optionalNames
  | .required _ _ rest | .defaulted _ _ _ _ _ rest => rest.optionalNames

/-- The field at that place has that name and that shape. -/
inductive Fields.At {γ : Type} (name : String) (shape : Shape γ) :
    {α : Type} → Fields α → (place : Nat) → Prop
  | required {β : Type} {rest : Fields β} : At name shape (.required name shape rest) 0
  | optional {β : Type} {nulled : Bool} {rest : Fields β} :
    At name shape (.optional name nulled shape rest) 0
  | defaulted {β : Type} {default : γ} {hidden : γ → Bool}
    {eq_default : ∀ a, hidden a = true → a = default} {rest : Fields β} :
    At name shape (.defaulted name shape default hidden eq_default rest) 0
  | after_required {α β : Type} {n : String} {s : Shape α} {rest : Fields β} {place : Nat}
    (h : At name shape rest place) : At name shape (.required n s rest) (place + 1)
  | after_optional {α β : Type} {n : String} {nulled : Bool} {s : Shape α} {rest : Fields β}
    {place : Nat} (h : At name shape rest place) :
    At name shape (.optional n nulled s rest) (place + 1)
  | after_defaulted {α β : Type} {n : String} {s : Shape α} {default : α} {hidden : α → Bool}
    {eq_default : ∀ a, hidden a = true → a = default} {rest : Fields β} {place : Nat}
    (h : At name shape rest place) :
    At name shape (.defaulted n s default hidden eq_default rest) (place + 1)

/-- The variants of a sum, with their labels. -/
def Cases.variants {α : Type} : Cases α → List (String × (γ : Type) × Shape γ)
  | .nil => []
  | .cons label shape rest => (label, ⟨_, shape⟩) :: rest.variants

/-- A variant with that label has that shape. -/
def Cases.Has {α γ : Type} (label : String) (shape : Shape γ) (cases : Cases α) : Prop :=
  (label, ⟨γ, shape⟩) ∈ cases.variants

/-! ## Padding -/

/-- The second value is the first one with padding, at any depth. -/
inductive Shape.Padded : {α : Type} → Shape α → Json → Json → Prop
  /-- There need not be any. -/
  | refl {α : Type} {shape : Shape α} (j : Json) : Padded shape j j
  /-- There may be more than one piece of it. -/
  | trans {α : Type} {shape : Shape α} {j j' j'' : Json} (h : Padded shape j j')
    (h' : Padded shape j' j'') : Padded shape j j''
  /-- A record has any member, or another one, under a name that is none of a field. -/
  | extra {α β : Type} {name k : String} {fields : Fields β} {view : View α β}
    {ms ms' : List (String × Json)} (hk : k ∉ fields.names) (h : Entries.SameBut k ms ms') :
    Padded (.record name fields view) (.object ms) (.object ms')
  /-- A record has null for a member of an optional field that was not there. -/
  | null {α β : Type} {name k : String} {fields : Fields β} {view : View α β}
    {ms ms' : List (String × Json)} (hk : k ∈ fields.optionalNames)
    (h : Entries.SameBut k ms ms') (hnone : lookup k ms = none)
    (hnull : lookup k ms' = some .null) :
    Padded (.record name fields view) (.object ms) (.object ms')
  /-- The padding is in a member of a record. -/
  | member {α β γ : Type} {name k : String} {fields : Fields β} {view : View α β}
    {inner : Shape γ} {place : Nat} {ms ms' : List (String × Json)} {j j' : Json}
    (hat : fields.At k inner place) (h : Entries.SameBut k ms ms') (hj : lookup k ms = some j)
    (hj' : lookup k ms' = some j') (hp : Padded inner j j') :
    Padded (.record name fields view) (.object ms) (.object ms')
  /-- The padding is in an element of a record that is given as an array. -/
  | element {α β γ : Type} {name k : String} {fields : Fields β} {view : View α β}
    {inner : Shape γ} {before after : List Json} {j j' : Json}
    (hat : fields.At k inner before.length) (hp : Padded inner j j') :
    Padded (.record name fields view) (.array (before ++ j :: after))
      (.array (before ++ j' :: after))
  /-- The padding is in an item. -/
  | item {α : Type} {items : Shape α} {before after : List Json} {j j' : Json}
    (hp : Padded items j j') :
    Padded (.list items) (.array (before ++ j :: after)) (.array (before ++ j' :: after))
  /-- The padding is in an entry of a dictionary. -/
  | entry {α : Type} {items : Shape α} {k : String} {before after : List (String × Json)}
    {j j' : Json} (hp : Padded items j j') :
    Padded (.dict items) (.object (before ++ (k, j) :: after))
      (.object (before ++ (k, j') :: after))
  /-- The padding is in the variant that the tag of an object names. -/
  | variant {α β : Type} {name tag : String} {cases : Cases β} {view : View α β}
    {ms ms' : List (String × Json)} (hmark : lookup tag ms' = lookup tag ms)
    (hp : ∀ label {γ : Type} (inner : Shape γ), cases.Has label inner →
      lookup tag ms = some (.string label) →
      Padded inner (.object (drop tag ms)) (.object (drop tag ms'))) :
    Padded (.tagged name tag cases view) (.object ms) (.object ms')
  /-- The padding is in the variant that the first item of an array names. -/
  | variantItems {α β : Type} {name tag : String} {cases : Cases β} {view : View α β}
    {mark : Json} {xs xs' : List Json}
    (hp : ∀ label {γ : Type} (inner : Shape γ), cases.Has label inner → mark = .string label →
      Padded inner (.array xs) (.array xs')) :
    Padded (.tagged name tag cases view) (.array (mark :: xs)) (.array (mark :: xs'))
  /-- The value is padded whatever variant it stands for. -/
  | alternative {α β : Type} {name : String} {cases : Cases β} {view : View α β} {j j' : Json}
    (hnull : j' = .null ↔ j = .null)
    (hp : ∀ label {γ : Type} (inner : Shape γ), cases.Has label inner → Padded inner j j') :
    Padded (.union name cases view) j j'

/-! ## What padding does to a part -/

/-- The two values are decoded to the same result, and both or none of them count as given. -/
structure Shape.Alike {α : Type} (shape : Shape α) (j j' : Json) : Prop where
  decode : ∀ held, shape.decode held j' = shape.decode held j
  null : j' = .null ↔ j = .null

section

variable {α β γ : Type} {held : Bool} {k label tag name : String} {ms ms' : List (String × Json)}
  {inner : Shape γ} {j j' : Json} {fields : Fields α} {cases : Cases α} {place : Nat}

theorem Fields.ofMembers_sameBut (h : Entries.SameBut k ms ms') (hk : k ∉ fields.names) :
    fields.ofMembers held ms' = fields.ofMembers held ms :=
  fields.ofMembers_congr fun n hn => h n (ne_of_mem_of_not_mem hn hk)

theorem Fields.mem_names_of_mem_optionalNames {α : Type} : (fields : Fields α) →
    k ∈ fields.optionalNames → k ∈ fields.names
  | .required _ _ rest, h | .defaulted _ _ _ _ _ rest, h =>
    List.mem_cons_of_mem _ (rest.mem_names_of_mem_optionalNames h)
  | .optional _ _ _ rest, h =>
    List.mem_cons.2 ((List.mem_cons.1 h).imp_right rest.mem_names_of_mem_optionalNames)

/-- For an optional field, null is no member. -/
theorem Fields.ofMembers_null (h : Entries.SameBut k ms ms') (hnone : lookup k ms = none)
    (hnull : lookup k ms' = some .null) {α : Type} : (fields : Fields α) →
    k ∈ fields.optionalNames → fields.names.Nodup →
    fields.ofMembers held ms' = fields.ofMembers held ms
  | .required n _ rest, hk, hn | .defaulted n _ _ _ _ rest, hk, hn => by
    obtain ⟨hname, hn⟩ := List.nodup_cons.1 hn
    have hne : n ≠ k := (ne_of_mem_of_not_mem (rest.mem_names_of_mem_optionalNames hk) hname).symm
    rw [ofMembers, ofMembers, h n hne, rest.ofMembers_null h hnone hnull hk hn]
  | .optional n _ _ rest, hk, hn => by
    obtain ⟨hname, hn⟩ := List.nodup_cons.1 hn
    rw [ofMembers, ofMembers]
    rcases List.mem_cons.1 hk with rfl | hk
    · rw [hnone, hnull, rest.ofMembers_sameBut h hname]
    · have hne : n ≠ k := (ne_of_mem_of_not_mem (rest.mem_names_of_mem_optionalNames hk) hname).symm
      rw [h n hne, rest.ofMembers_null h hnone hnull hk hn]

theorem Fields.At.mem_names (hat : fields.At k inner place) : k ∈ fields.names := by
  induction hat with
  | required | optional | defaulted => exact List.mem_cons_self
  | after_required _ ih | after_optional _ ih | after_defaulted _ ih =>
    exact List.mem_cons_of_mem _ ih

/-- The member of an optional field is read unless it is null. -/
theorem Fields.optional_ofMembers {nulled : Bool} (hj : lookup k ms = some j) :
    (optional k nulled inner fields).ofMembers held ms =
      .pair (if j = .null then .complete none else .ofMember k ((inner.decode held j).map some))
        (fields.ofMembers held ms) := by
  rw [ofMembers, hj]
  cases j <;> rfl

/-- A record finds the same in a member that is padded. -/
theorem Fields.At.ofMembers_eq (hat : fields.At k inner place) (hn : fields.names.Nodup)
    (h : Entries.SameBut k ms ms') (hj : lookup k ms = some j) (hj' : lookup k ms' = some j')
    (ha : inner.Alike j j') : fields.ofMembers held ms' = fields.ofMembers held ms := by
  induction hat with
  | required | defaulted =>
    obtain ⟨hname, -⟩ := List.nodup_cons.1 hn
    rw [ofMembers, ofMembers, hj, hj', ofMembers_sameBut h hname]
    dsimp only
    rw [ha.decode]
  | optional =>
    obtain ⟨hname, -⟩ := List.nodup_cons.1 hn
    rw [optional_ofMembers hj, optional_ofMembers hj', ofMembers_sameBut h hname]
    simp only [ha.decode, ha.null]
  | @after_required _ _ n _ _ _ hat ih | @after_optional _ _ n _ _ _ _ hat ih
  | @after_defaulted _ _ n _ _ _ _ _ _ hat ih =>
    obtain ⟨hname, hn⟩ := List.nodup_cons.1 hn
    have hne : n ≠ k := (ne_of_mem_of_not_mem hat.mem_names hname).symm
    rw [ofMembers, ofMembers, h n hne, ih hn]

theorem Fields.optional_ofItems_cons {β : Type} {shape : Shape β} {nulled : Bool}
    {short : Nat → Fault} {start : Nat} {x : Json} {xs : List Json} :
    (optional k nulled shape fields).ofItems held short start (x :: xs) =
      follow (if x = .null then .ok none else (shape.decode held x).map some)
        (fields.ofItems held short (start + 1) xs) := by
  cases x <;> simp [ofItems]

/-- The same of an element that is padded. -/
theorem Fields.At.ofItems_eq {short : Nat → Fault} {after : List Json}
    (hat : fields.At k inner place) (ha : inner.Alike j j') :
    ∀ {before : List Json} (start : Nat), before.length = place →
      fields.ofItems held short start (before ++ j' :: after) =
        fields.ofItems held short start (before ++ j :: after) := by
  -- Up to the place of the field, the two arrays have the same items.
  induction hat with
  | required | defaulted =>
    intro before start hlen
    obtain rfl := List.length_eq_zero_iff.1 hlen
    simp only [List.nil_append, ofItems, ha.decode, List.tail_cons]
  | optional =>
    intro before start hlen
    obtain rfl := List.length_eq_zero_iff.1 hlen
    rw [List.nil_append, List.nil_append, optional_ofItems_cons, optional_ofItems_cons]
    simp only [ha.decode, ha.null]
  | after_required _ ih | after_defaulted _ ih =>
    intro before start hlen
    obtain ⟨x, before, rfl⟩ := List.exists_cons_of_length_eq_add_one hlen
    simp only [List.cons_append, ofItems, List.tail_cons, ih _ (Nat.succ.inj hlen)]
  | after_optional _ ih =>
    intro before start hlen
    obtain ⟨x, before, rfl⟩ := List.exists_cons_of_length_eq_add_one hlen
    simp only [List.cons_append, optional_ofItems_cons, ih _ (Nat.succ.inj hlen)]

/-- A tagged sum decodes the variants of the label. -/
theorem Cases.decodeLabelled_eq {α : Type} : (cases : Cases α) →
    (∀ {γ : Type} (inner : Shape γ), cases.Has label inner → inner.Alike j j') →
      cases.decodeLabelled label j' = cases.decodeLabelled label j
  | .nil, _ => by rw [decodeLabelled, decodeLabelled]
  | .cons l shape rest, h => by
    have hrest := rest.decodeLabelled_eq fun inner hhas => h inner (List.mem_cons_of_mem _ hhas)
    rw [decodeLabelled, decodeLabelled, hrest]
    split
    · next hl =>
      subst hl
      rw [(h shape List.mem_cons_self).decode]
    · rfl

/-- A bare sum decodes the first variant that takes the value. -/
theorem Cases.decodeFirst?_eq {α : Type} : (cases : Cases α) →
    (∀ label {γ : Type} (inner : Shape γ), cases.Has label inner → inner.Alike j j') →
      cases.decodeFirst? j' = cases.decodeFirst? j
  | .nil, _ => by rw [decodeFirst?, decodeFirst?]
  | .cons l shape rest, h => by
    have hrest := rest.decodeFirst?_eq fun label _ inner hhas =>
      h label inner (List.mem_cons_of_mem _ hhas)
    rw [decodeFirst?, decodeFirst?, (h l shape List.mem_cons_self).decode, hrest]

theorem decodeTag_eq_ok {known : List String} {mark : Json} (h : decodeTag known mark = .ok label) :
    mark = .string label := by
  cases mark with
  | string s =>
    rw [decodeTag] at h
    split at h
    · rw [Except.ok.inj h]
    · cases h
  | null | bool | number | array | object => cases h

/-! ## Padding in its places -/

namespace Shape

variable {record sum : String} {view : View β α} {items : Shape α}

theorem alike_extra (hk : k ∉ fields.names) (h : Entries.SameBut k ms ms') :
    (Shape.record record fields view).Alike (.object ms) (.object ms') :=
  ⟨fun held => by rw [decode, decode, Fields.ofMembers_sameBut h hk], by simp⟩

theorem alike_null (hn : fields.names.Nodup) (hk : k ∈ fields.optionalNames)
    (h : Entries.SameBut k ms ms') (hnone : lookup k ms = none)
    (hnull : lookup k ms' = some .null) :
    (Shape.record record fields view).Alike (.object ms) (.object ms') :=
  ⟨fun held => by rw [decode, decode, fields.ofMembers_null h hnone hnull hk hn], by simp⟩

theorem alike_member (hn : fields.names.Nodup) (hat : fields.At k inner place)
    (h : Entries.SameBut k ms ms') (hj : lookup k ms = some j) (hj' : lookup k ms' = some j')
    (ha : inner.Alike j j') : (Shape.record record fields view).Alike (.object ms) (.object ms') :=
  ⟨fun held => by rw [decode, decode, hat.ofMembers_eq hn h hj hj' ha], by simp⟩

theorem alike_element {before after : List Json} (hat : fields.At k inner before.length)
    (ha : inner.Alike j j') : (Shape.record record fields view).Alike
      (.array (before ++ j :: after)) (.array (before ++ j' :: after)) := by
  refine ⟨fun held => ?_, by simp⟩
  simp only [decode, hat.ofItems_eq ha 0 rfl, List.length_append, List.length_cons]

theorem alike_item {before after : List Json} (ha : items.Alike j j') :
    (list items).Alike (.array (before ++ j :: after)) (.array (before ++ j' :: after)) := by
  refine ⟨fun held => ?_, by simp⟩
  simp only [decode, List.mapM_append, List.mapM_cons, ha.decode]

theorem alike_entry {before after : List (String × Json)} (ha : items.Alike j j') :
    (dict items).Alike (.object (before ++ (k, j) :: after))
      (.object (before ++ (k, j') :: after)) := by
  refine ⟨fun held => ?_, by simp⟩
  simp only [decode, List.mapM_append, List.mapM_cons, ha.decode]

theorem alike_variant (hmark : lookup tag ms' = lookup tag ms)
    (ha : ∀ label {γ : Type} (inner : Shape γ), cases.Has label inner →
      lookup tag ms = some (.string label) →
      inner.Alike (.object (drop tag ms)) (.object (drop tag ms'))) :
    (tagged sum tag cases view).Alike (.object ms) (.object ms') := by
  refine ⟨fun held => ?_, by simp⟩
  simp only [decode, hmark]
  cases hm : lookup tag ms with
  | none => rfl
  | some mark =>
    cases hl : decodeTag cases.labels mark with
    | error => simp only [hl]
    | ok label =>
      obtain rfl := decodeTag_eq_ok hl
      simp only [hl, cases.decodeLabelled_eq fun inner hhas => ha label inner hhas hm]

theorem alike_variantItems {mark : Json} {xs xs' : List Json}
    (ha : ∀ label {γ : Type} (inner : Shape γ), cases.Has label inner → mark = .string label →
      inner.Alike (.array xs) (.array xs')) :
    (tagged sum tag cases view).Alike (.array (mark :: xs)) (.array (mark :: xs')) := by
  refine ⟨fun held => ?_, by simp⟩
  simp only [decode]
  cases hl : decodeTag cases.labels mark with
  | error => rfl
  | ok label =>
    dsimp only
    rw [cases.decodeLabelled_eq fun inner hhas => ha label inner hhas (decodeTag_eq_ok hl)]

theorem alike_alternative (hnull : j' = .null ↔ j = .null)
    (ha : ∀ label {γ : Type} (inner : Shape γ), cases.Has label inner → inner.Alike j j') :
    (union sum cases view).Alike j j' :=
  ⟨fun held => by rw [decode, decode, cases.decodeFirst?_eq ha], hnull⟩

end Shape

end

/-! ## Padding at any depth -/

theorem Fields.At.isWellFormed {α γ : Type} {fields : Fields α} {k : String} {inner : Shape γ}
    {place : Nat} (hat : fields.At k inner place) (h : fields.isWellFormed = true) :
    inner.isWellFormed = true := by
  induction hat with simp only [Fields.isWellFormed, Bool.and_eq_true] at h
  | required => exact h.1
  | optional | defaulted => exact h.1.1
  | after_required _ ih | after_optional _ ih | after_defaulted _ ih => exact ih h.2

theorem Cases.Has.isWellFormed {γ : Type} {label : String} {inner : Shape γ} {α : Type} :
    {cases : Cases α} → cases.Has label inner → cases.isWellFormed = true →
      inner.isWellFormed = true
  | .cons _ _ _, hhas, h => by
    rw [Cases.isWellFormed, Bool.and_eq_true] at h
    rcases List.mem_cons.1 hhas with hhead | hrest
    · cases hhead
      exact h.1
    · exact isWellFormed hrest h.2

/-- A padded value is decoded as the value without padding, to the same record or the same
    fault. -/
theorem Shape.Padded.alike {α : Type} {shape : Shape α} {j j' : Json} (h : shape.Padded j j')
    (hwf : shape.isWellFormed = true) : shape.Alike j j' := by
  induction h with
  | refl j => exact ⟨fun _ => rfl, Iff.rfl⟩
  | trans _ _ ih ih' =>
    exact ⟨fun held => ((ih' hwf).decode held).trans ((ih hwf).decode held),
      (ih' hwf).null.trans (ih hwf).null⟩
  | extra hk h => exact alike_extra hk h
  | null hk h hnone hnull =>
    simp only [isWellFormed, Bool.and_eq_true, decide_eq_true_iff] at hwf
    exact alike_null hwf.2 hk h hnone hnull
  | member hat h hj hj' _ ih =>
    simp only [isWellFormed, Bool.and_eq_true, decide_eq_true_iff] at hwf
    exact alike_member hwf.2 hat h hj hj' (ih (hat.isWellFormed hwf.1))
  | element hat _ ih =>
    simp only [isWellFormed, Bool.and_eq_true] at hwf
    exact alike_element hat (ih (hat.isWellFormed hwf.1))
  | item _ ih =>
    rw [isWellFormed] at hwf
    exact alike_item (ih hwf)
  | entry _ ih =>
    rw [isWellFormed] at hwf
    exact alike_entry (ih hwf)
  | variant hmark _ ih =>
    simp only [isWellFormed, Bool.and_eq_true] at hwf
    exact alike_variant hmark fun label _ inner hhas hm =>
      ih label inner hhas hm (hhas.isWellFormed hwf.1.1)
  | variantItems _ ih =>
    simp only [isWellFormed, Bool.and_eq_true] at hwf
    exact alike_variantItems fun label _ inner hhas hm =>
      ih label inner hhas hm (hhas.isWellFormed hwf.1.1)
  | alternative hnull _ ih =>
    simp only [isWellFormed, Bool.and_eq_true] at hwf
    exact alike_alternative hnull fun label _ inner hhas =>
      ih label inner hhas (hhas.isWellFormed hwf.1)

/-! ## Padding of a record or a sum -/

/-- A record with such fields. -/
def Shape.isRecord (p : {γ : Type} → Fields γ → Bool) {α : Type} : Shape α → Bool
  | .record _ fields _ => p fields
  | _ => false

/-- All variants are records with such fields. -/
def Cases.areRecords (p : {γ : Type} → Fields γ → Bool) {α : Type} : Cases α → Bool
  | .nil => true
  | .cons _ shape rest => shape.isRecord p && rest.areRecords p

/-- A record with such fields, or a sum of such records whose variants are not told by the
    member of that name. -/
def Shape.isOfRecords (k : String) (p : {γ : Type} → Fields γ → Bool) {α : Type} : Shape α → Bool
  | .record _ fields _ => p fields
  | .tagged _ tag cases _ => tag ≠ k && cases.areRecords p
  | .union _ cases _ => cases.areRecords p
  | _ => false

/-- A record or a sum of records to which a member of that name means nothing. -/
def Shape.isWithout (k : String) {α : Type} (shape : Shape α) : Bool :=
  shape.isOfRecords k fun fields => !fields.names.contains k

/-- A record with an optional field of that name, or a sum of such records. -/
def Shape.hasOptional (k : String) {α : Type} (shape : Shape α) : Bool :=
  shape.isOfRecords k fun fields => fields.optionalNames.contains k

section

variable {k : String} {ms ms' : List (String × Json)} {p : {γ : Type} → Fields γ → Bool}

theorem Cases.Has.isRecord {γ : Type} {label : String} {inner : Shape γ} {α : Type} :
    {cases : Cases α} → cases.Has label inner → cases.areRecords p = true →
      inner.isRecord p = true
  | .cons _ _ _, hhas, h => by
    rw [Cases.areRecords, Bool.and_eq_true] at h
    rcases List.mem_cons.1 hhas with hhead | hrest
    · cases hhead
      exact h.1
    · exact isRecord hrest h.2

/-- What pads the records of a sum, in a member other than the tag, pads the sum. -/
theorem Shape.padded_of_records
    (hrecord : ∀ {α β : Type} {name : String} {fields : Fields β} {view : View α β}
      {ns ns' : List (String × Json)}, p fields = true → Entries.SameBut k ns ns' →
      lookup k ns = lookup k ms → lookup k ns' = lookup k ms' →
      (Shape.record name fields view).Padded (.object ns) (.object ns'))
    (h : Entries.SameBut k ms ms') {α : Type} :
    {shape : Shape α} → shape.isOfRecords k p = true → shape.Padded (.object ms) (.object ms')
  | .record _ _ _, hs => hrecord hs h rfl rfl
  | .tagged _ tag _ _, hs => by
    rw [isOfRecords, Bool.and_eq_true, decide_eq_true_iff] at hs
    refine .variant (h tag hs.1) fun label _ inner hhas _ => ?_
    match inner, hhas.isRecord hs.2 with
    | .record _ _ _, hp =>
      exact hrecord hp (h.drop tag) (by rw [Entries.lookup_drop, if_neg hs.1])
        (by rw [Entries.lookup_drop, if_neg hs.1])
  | .union _ _ _, hs => by
    refine .alternative (by simp) fun label _ inner hhas => ?_
    match inner, hhas.isRecord hs with
    | .record _ _ _, hp => exact hrecord hp h rfl rfl

/-- A member that no field is named after pads a record or a sum of records. -/
theorem Shape.padded_of_isWithout {α : Type} {shape : Shape α} (hk : shape.isWithout k = true)
    (h : Entries.SameBut k ms ms') : shape.Padded (.object ms) (.object ms') :=
  padded_of_records (fun hp h _ _ => .extra (by simpa using hp) h) h hk

/-- Null pads a record or a sum of records that lacks the optional member. -/
theorem Shape.padded_of_hasOptional {α : Type} {shape : Shape α}
    (hk : shape.hasOptional k = true) (h : Entries.SameBut k ms ms') (hnone : lookup k ms = none)
    (hnull : lookup k ms' = some .null) : shape.Padded (.object ms) (.object ms') :=
  padded_of_records (fun hp h hns hns' => .null (by simpa using hp) h (hns.trans hnone)
    (hns'.trans hnull)) h hk

end

end ContextServer
