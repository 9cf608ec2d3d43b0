/-!
# Dictionaries

A *dictionary* is a finite map from texts, held as the list of its entries in
strictly increasing order of their keys. Texts are ordered by code point, which
is the order of their UTF-8 bytes.

The list itself is the one form of the map: two dictionaries with the same
look-ups are equal (`Dict.ext_get?`), so neither the order of insertions nor
entries since replaced can be told from the result. The primitives work on
plain lists of entries, as the members of a JSON object are such a list too:

* `lookup_put`, `lookup_drop`: what a look-up finds after a write or a removal;
* `Ascending.put`, `Ascending.drop`: both keep the order.
-/

namespace ContextServer

universe u

variable {α : Type u}

/-! ## Lists of entries -/

namespace Entries

/-- The value of the first entry under `k`. -/
def lookup (k : String) : List (String × α) → Option α
  | [] => none
  | (k', v) :: rest => if k' = k then some v else lookup k rest

/-- The entries with `v` under `k`, put where the order wants it. -/
def put (k : String) (v : α) : List (String × α) → List (String × α)
  | [] => [(k, v)]
  | (k', v') :: rest =>
    if k < k' then (k, v) :: (k', v') :: rest
    else if k' = k then (k, v) :: rest
    else (k', v') :: put k v rest

/-- The entries without those under `k`. -/
def drop (k : String) (es : List (String × α)) : List (String × α) :=
  es.filter fun e => e.1 ≠ k

/-- Keys strictly increase along the list. -/
def Ascending (es : List (String × α)) : Prop :=
  es.Pairwise fun a b => a.1 < b.1

/-- The given entries in order; a later one replaces an earlier one of its key. -/
def sort (es : List (String × α)) : List (String × α) :=
  es.foldl (fun acc e => put e.1 e.2 acc) []

theorem lookup_put (k k' : String) (v : α) (es : List (String × α)) :
    lookup k' (put k v es) = if k = k' then some v else lookup k' es := by
  induction es with
  | nil => simp [put, lookup]
  | cons e rest ih =>
    obtain ⟨k₀, v₀⟩ := e
    rw [put]
    split
    · rw [lookup]
    · split
      · next h₀ =>
        subst h₀
        by_cases h : k₀ = k' <;> simp [lookup, h]
      · by_cases h₀ : k₀ = k'
        · have : ¬k = k' := fun h => by simp_all
          simp [lookup, h₀, this]
        · rw [lookup, if_neg h₀, ih, lookup, if_neg h₀]

theorem lookup_drop (k k' : String) (es : List (String × α)) :
    lookup k' (drop k es) = if k = k' then none else lookup k' es := by
  induction es with
  | nil => simp [drop, lookup]
  | cons e rest ih =>
    obtain ⟨k₀, v₀⟩ := e
    by_cases h₀ : k₀ = k
    · subst h₀
      simp only [drop, ne_eq, not_true_eq_false, decide_false, Bool.false_eq_true,
        not_false_eq_true, List.filter_cons_of_neg] at ih ⊢
      rw [ih, lookup]
      by_cases h : k₀ = k' <;> simp [h]
    · rw [drop, List.filter_cons_of_pos (by simpa using h₀), lookup, lookup,
        show List.filter _ rest = drop k rest from rfl, ih]
      by_cases h : k₀ = k'
      · have : ¬k = k' := fun h' => h₀ (h.trans h'.symm)
        simp [h, this]
      · simp [h]

theorem mem_put {k : String} {v : α} {es : List (String × α)} {e : String × α}
    (h : e ∈ put k v es) : e = (k, v) ∨ e ∈ es := by
  induction es with
  | nil => simpa [put] using h
  | cons e₀ rest ih =>
    rw [put] at h
    split at h
    · simpa using h
    · split at h
      · rcases List.mem_cons.1 h with h | h
        · exact .inl h
        · exact .inr (List.mem_cons_of_mem _ h)
      · rcases List.mem_cons.1 h with h | h
        · exact .inr (h ▸ List.mem_cons_self)
        · exact (ih h).imp_right (List.mem_cons_of_mem _)

theorem Ascending.put {es : List (String × α)} (h : Ascending es) (k : String) (v : α) :
    Ascending (put k v es) := by
  induction es with
  | nil => simp [Entries.put, Ascending]
  | cons e rest ih =>
    obtain ⟨k₀, v₀⟩ := e
    obtain ⟨hall, hrest⟩ := List.pairwise_cons.1 h
    rw [Entries.put]
    split
    · next hlt =>
      refine List.pairwise_cons.2 ⟨fun a ha => ?_, h⟩
      rcases List.mem_cons.1 ha with rfl | ha
      · exact hlt
      · exact String.lt_trans hlt (hall a ha)
    · next hnlt =>
      split
      · next heq => subst heq; exact List.pairwise_cons.2 ⟨hall, hrest⟩
      · next hne =>
        refine List.pairwise_cons.2 ⟨fun a ha => ?_, ih hrest⟩
        rcases mem_put ha with rfl | ha
        · exact String.not_le.1 fun hle =>
            hne (String.le_antisymm (String.not_lt.1 hnlt) hle)
        · exact hall a ha

theorem Ascending.drop {es : List (String × α)} (h : Ascending es) (k : String) :
    Ascending (drop k es) :=
  List.Pairwise.filter _ h

theorem ascending_sort (es : List (String × α)) : Ascending (sort es) := by
  suffices ∀ acc, Ascending acc →
      Ascending (es.foldl (fun acc e => Entries.put e.1 e.2 acc) acc) from
    this [] List.Pairwise.nil
  induction es with
  | nil => exact fun _ h => h
  | cons e rest ih => exact fun acc h => ih _ (h.put e.1 e.2)

theorem lookup_eq_none_of_lt {k : String} {es : List (String × α)}
    (h : ∀ e ∈ es, k < e.1) : lookup k es = none := by
  induction es with
  | nil => rfl
  | cons e rest ih =>
    have hne : ¬e.1 = k := fun heq =>
      String.lt_irrefl k (heq ▸ h e List.mem_cons_self)
    rw [lookup, if_neg hne]
    exact ih fun e' he' => h e' (List.mem_cons_of_mem _ he')

/-- Lists of entries in order are determined by their look-ups. -/
theorem Ascending.eq_of_lookup {es fs : List (String × α)} (he : Ascending es)
    (hf : Ascending fs) (h : ∀ k, lookup k es = lookup k fs) : es = fs := by
  induction es generalizing fs with
  | nil =>
    cases fs with
    | nil => rfl
    | cons f fs => simpa [lookup] using h f.1
  | cons e es ih =>
    obtain ⟨ke, ve⟩ := e
    obtain ⟨hke, hes⟩ := List.pairwise_cons.1 he
    cases fs with
    | nil => simpa [lookup] using h ke
    | cons f fs =>
      obtain ⟨kf, vf⟩ := f
      obtain ⟨hkf, hfs⟩ := List.pairwise_cons.1 hf
      have hk : ke = kf := by
        rcases Std.lt_trichotomy ke kf with hlt | heq | hgt
        · have := h ke
          rw [lookup, if_pos rfl, lookup_eq_none_of_lt (k := ke) fun e' he' => ?_] at this
          · cases this
          · rcases List.mem_cons.1 he' with rfl | he'
            · exact hlt
            · exact String.lt_trans hlt (hkf e' he')
        · exact heq
        · have := h kf
          rw [lookup_eq_none_of_lt (k := kf) fun e' he' => ?_, lookup, if_pos rfl] at this
          · cases this
          · rcases List.mem_cons.1 he' with rfl | he'
            · exact hgt
            · exact String.lt_trans hgt (hke e' he')
      subst hk
      have hv : ve = vf := by simpa [lookup] using h ke
      subst hv
      congr 1
      refine ih hes hfs fun k => ?_
      by_cases hk : ke = k
      · subst hk
        rw [lookup_eq_none_of_lt hke, lookup_eq_none_of_lt hkf]
      · simpa [lookup, hk] using h k

end Entries

/-! ## Dictionaries -/

/-- A finite map from texts to `α`, in the order of its keys. -/
structure Dict (α : Type u) where
  /-- The entries, one for each key. -/
  entries : List (String × α)
  /-- The order of the keys. -/
  ascending : Entries.Ascending entries
deriving DecidableEq

namespace Dict

/-- The map without entries. -/
def empty : Dict α := ⟨[], List.Pairwise.nil⟩

instance : EmptyCollection (Dict α) := ⟨empty⟩

instance : Inhabited (Dict α) := ⟨empty⟩

/-- The value under `k`. -/
def get? (d : Dict α) (k : String) : Option α := Entries.lookup k d.entries

/-- `k` has a value. -/
def contains (d : Dict α) (k : String) : Bool := (d.get? k).isSome

/-- The map with `v` under `k`, whatever was there. -/
def insert (d : Dict α) (k : String) (v : α) : Dict α :=
  ⟨Entries.put k v d.entries, d.ascending.put k v⟩

/-- The map without a value under `k`. -/
def erase (d : Dict α) (k : String) : Dict α :=
  ⟨Entries.drop k d.entries, d.ascending.drop k⟩

/-- The map of the given entries; of two with one key the later counts. -/
def ofList (es : List (String × α)) : Dict α :=
  ⟨Entries.sort es, Entries.ascending_sort es⟩

/-- The keys in order. -/
def keys (d : Dict α) : List String := d.entries.map (·.1)

/-- The values in the order of their keys. -/
def values (d : Dict α) : List α := d.entries.map (·.2)

/-- The number of entries. -/
def size (d : Dict α) : Nat := d.entries.length

/-- The map has no entry. -/
def isEmpty (d : Dict α) : Bool := d.entries.isEmpty

/-- The entries that pass the test. -/
def filter (p : String → α → Bool) (d : Dict α) : Dict α :=
  ⟨d.entries.filter fun e => p e.1 e.2, List.Pairwise.filter _ d.ascending⟩

/-- The value under every key replaced by its image. -/
def map {β : Type u} (f : α → β) (d : Dict α) : Dict β :=
  ⟨d.entries.map fun e => (e.1, f e.2), by
    have := d.ascending
    rw [Entries.Ascending, List.pairwise_map]
    exact this⟩

@[simp] theorem get?_empty (k : String) : (∅ : Dict α).get? k = none := rfl

@[simp, grind =] theorem get?_insert (d : Dict α) (k k' : String) (v : α) :
    (d.insert k v).get? k' = if k = k' then some v else d.get? k' :=
  Entries.lookup_put k k' v d.entries

@[simp, grind =] theorem get?_erase (d : Dict α) (k k' : String) :
    (d.erase k).get? k' = if k = k' then none else d.get? k' :=
  Entries.lookup_drop k k' d.entries

@[simp] theorem contains_insert (d : Dict α) (k k' : String) (v : α) :
    (d.insert k v).contains k' = (decide (k = k') || d.contains k') := by
  by_cases h : k = k' <;> simp [contains, h]

@[simp] theorem contains_erase (d : Dict α) (k k' : String) :
    (d.erase k).contains k' = (!decide (k = k') && d.contains k') := by
  by_cases h : k = k' <;> simp [contains, h]

theorem isEmpty_iff {d : Dict α} : d.isEmpty = true ↔ d = ∅ := by
  obtain ⟨es, hes⟩ := d
  cases es with
  | nil => exact ⟨fun _ => rfl, fun _ => rfl⟩
  | cons e es =>
    constructor <;> intro h
    · simp [isEmpty] at h
    · exact absurd (congrArg Dict.entries h) (List.cons_ne_nil e es)

/-- Dictionaries with the same look-ups are equal. -/
theorem ext_get? {d e : Dict α} (h : ∀ k, d.get? k = e.get? k) : d = e := by
  obtain ⟨es, hes⟩ := d
  obtain ⟨fs, hfs⟩ := e
  congr 1
  exact hes.eq_of_lookup hfs h

end Dict

end ContextServer
