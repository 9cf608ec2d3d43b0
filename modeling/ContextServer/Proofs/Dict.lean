import ContextServer.Dict

/-!
# Lists of entries in order, and dictionaries as maps

What sorting does to a list of entries. If no key occurs twice, nothing is lost:
every look-up finds what it found before (`Entries.lookup_sort`); otherwise the last
entry of a key is found (`Entries.lookup_sort_eq_some_iff`). A list that is in order
already stays as it is (`Entries.Ascending.sort_eq`).

What is listed of a dictionary is what a look-up finds (`Dict.mem_entries`,
`Dict.mem_values`, `Dict.mem_keys`), each key once, and the image of a dictionary
goes along with its operations (`Dict.map_insert`, `Dict.map_erase`).
-/

namespace ContextServer

universe u

variable {α β : Type u}

namespace Entries

theorem lookup_map (f : α → β) (k : String) (es : List (String × α)) :
    lookup k (es.map fun e => (e.1, f e.2)) = (lookup k es).map f := by
  induction es with
  | nil => rfl
  | cons e es ih =>
    rw [List.map_cons, lookup, lookup, ih]
    split <;> rfl

theorem lookup_eq_none {k : String} {es : List (String × α)} (h : k ∉ es.map (·.1)) :
    lookup k es = none := by
  induction es with
  | nil => rfl
  | cons e es ih =>
    rw [List.map_cons, List.mem_cons, not_or] at h
    rw [lookup, if_neg fun he => h.1 he.symm, ih h.2]

/-- A look-up finds something exactly under the keys of the list. -/
theorem isSome_lookup_iff {k : String} {es : List (String × α)} :
    (lookup k es).isSome = true ↔ k ∈ es.map (·.1) := by
  induction es with
  | nil => exact iff_of_false Bool.false_ne_true List.not_mem_nil
  | cons e es ih =>
    rw [List.map_cons, List.mem_cons, lookup]
    split
    · next he => exact iff_of_true rfl (.inl he.symm)
    · next he => rw [ih, or_iff_right fun hk : k = e.1 => he hk.symm]

theorem mem_of_lookup {k : String} {v : α} {es : List (String × α)}
    (h : lookup k es = some v) : (k, v) ∈ es := by
  induction es with
  | nil => cases h
  | cons e es ih =>
    rw [lookup] at h
    split at h
    · next hk =>
      cases h
      exact hk ▸ List.mem_cons_self
    · exact List.mem_cons_of_mem _ (ih h)

theorem mem_sort {e : String × α} {es : List (String × α)} (h : e ∈ sort es) : e ∈ es := by
  -- What is in the list so far came from an entry that was put.
  suffices ∀ acc, e ∈ es.foldl (fun acc e => put e.1 e.2 acc) acc → e ∈ acc ∨ e ∈ es from
    (this [] h).resolve_left List.not_mem_nil
  clear h
  induction es with
  | nil => exact fun acc h => .inl h
  | cons e' es ih =>
    intro acc h
    rcases ih _ h with h | h
    · rcases mem_put h with rfl | h
      · exact .inr List.mem_cons_self
      · exact .inl h
    · exact .inr (List.mem_cons_of_mem _ h)

theorem lookup_append (k : String) (es fs : List (String × α)) :
    lookup k (es ++ fs) = (lookup k es).or (lookup k fs) := by
  induction es with
  | nil => rfl
  | cons e es ih =>
    rw [List.cons_append, lookup, lookup, ih]
    split <;> rfl

/-- Of the entries with one key the last one counts. -/
theorem lookup_sort_reverse (es : List (String × α)) (k : String) :
    lookup k (sort es) = lookup k es.reverse := by
  -- Sorting puts the entries one by one into the list so far, which is any list in
  -- the induction.
  suffices ∀ acc, lookup k (es.foldl (fun acc e => put e.1 e.2 acc) acc) =
      (lookup k es.reverse).or (lookup k acc) by
    rw [sort, this, lookup, Option.or_none]
  induction es with
  | nil => exact fun _ => rfl
  | cons e es ih =>
    intro acc
    rw [List.foldl_cons, ih, lookup_put, List.reverse_cons, lookup_append, Option.or_assoc,
      lookup]
    split <;> rfl

theorem lookup_sort {es : List (String × α)} (h : (es.map (·.1)).Nodup) (k : String) :
    lookup k (sort es) = lookup k es := by
  rw [lookup_sort_reverse]
  induction es with
  | nil => rfl
  | cons e es ih =>
    rw [List.map_cons, List.nodup_cons] at h
    rw [List.reverse_cons, lookup_append, ih h.2, lookup, lookup, lookup]
    split
    · next he =>
      rw [lookup_eq_none (he ▸ h.1), Option.none_or]
    · rw [Option.or_none]

theorem lookup_eq_some_iff {k : String} {v : α} {es : List (String × α)} :
    lookup k es = some v ↔
      ∃ before after, es = before ++ (k, v) :: after ∧ k ∉ before.map (·.1) := by
  constructor
  · intro h
    induction es with
    | nil => cases h
    | cons e es ih =>
      rw [lookup] at h
      split at h
      · next hk =>
        cases h
        exact ⟨[], es, by rw [← hk, List.nil_append], List.not_mem_nil⟩
      · next hk =>
        obtain ⟨before, after, rfl, hb⟩ := ih h
        refine ⟨e :: before, after, rfl, ?_⟩
        rw [List.map_cons, List.mem_cons, not_or]
        exact ⟨fun he => hk he.symm, hb⟩
  · rintro ⟨before, after, rfl, hb⟩
    induction before with
    | nil => rw [List.nil_append, lookup, if_pos rfl]
    | cons e before ih =>
      rw [List.map_cons, List.mem_cons, not_or] at hb
      rw [List.cons_append, lookup, if_neg fun he => hb.1 he.symm, ih hb.2]

/-- A key has in the sorted list the value of its last entry. -/
theorem lookup_sort_eq_some_iff {k : String} {v : α} {es : List (String × α)} :
    lookup k (sort es) = some v ↔
      ∃ before after, es = before ++ (k, v) :: after ∧ k ∉ after.map (·.1) := by
  rw [lookup_sort_reverse, lookup_eq_some_iff]
  constructor
  · rintro ⟨after, before, hes, ha⟩
    refine ⟨before.reverse, after.reverse, ?_, by simpa using ha⟩
    simpa using congrArg List.reverse hes
  · rintro ⟨before, after, rfl, ha⟩
    exact ⟨after.reverse, before.reverse, by simp, by simpa using ha⟩

theorem Ascending.nodup {es : List (String × α)} (h : Ascending es) :
    (es.map (·.1)).Nodup := by
  rw [List.Nodup, List.pairwise_map]
  refine h.imp fun {a b} hlt he => ?_
  rw [he] at hlt
  exact String.lt_irrefl _ hlt

theorem Ascending.sort_eq {es : List (String × α)} (h : Ascending es) : sort es = es :=
  (ascending_sort es).eq_of_lookup h (lookup_sort h.nodup)

theorem Ascending.mem_iff {es : List (String × α)} (h : Ascending es) {k : String} {v : α} :
    (k, v) ∈ es ↔ lookup k es = some v := by
  induction es with
  | nil => simp [lookup]
  | cons e es ih =>
    obtain ⟨k₀, v₀⟩ := e
    obtain ⟨hall, hes⟩ := List.pairwise_cons.1 h
    rw [List.mem_cons, ih hes, lookup]
    by_cases hk : k₀ = k
    · -- The key is the first one, so it does not occur in the rest.
      subst hk
      rw [lookup_eq_none_of_lt hall]
      simp [eq_comm]
    · have hne : ¬k = k₀ := fun he => hk he.symm
      simp [hk, hne]

theorem lookup_filter (p : String → α → Bool) {es : List (String × α)} (h : Ascending es)
    (k : String) :
    lookup k (es.filter fun e => p e.1 e.2) = (lookup k es).filter (p k) := by
  have hf : Ascending (es.filter fun e => p e.1 e.2) := List.Pairwise.filter _ h
  refine Option.ext fun v => ?_
  rw [← hf.mem_iff, List.mem_filter, h.mem_iff, Option.filter_eq_some_iff]

end Entries

/-! ## Dictionaries -/

namespace Dict

variable {d : Dict α} {k : String} {v : α}

theorem mem_entries : (k, v) ∈ d.entries ↔ d.get? k = some v := d.ascending.mem_iff

/-- The first of the entries that have an image, in the order of the keys. -/
theorem findSome?_entries_eq_some_iff {g : String × α → Option β} {b : β} :
    d.entries.findSome? g = some b ↔
      ∃ k v, d.get? k = some v ∧ g (k, v) = some b ∧
        ∀ k' v', d.get? k' = some v' → (g (k', v')).isSome = true → k' ≠ k → k < k' := by
  simp only [← mem_entries]
  rw [List.findSome?_eq_some_iff]
  constructor
  · rintro ⟨before, ⟨k, v⟩, after, hd, hb, hbefore⟩
    refine ⟨k, v, hd ▸ List.mem_append_right _ List.mem_cons_self, hb, fun k' v' hmem hg hk => ?_⟩
    rw [hd, List.mem_append, List.mem_cons] at hmem
    rcases hmem with hmem | heq | hmem
    · exact absurd hg (by rw [hbefore _ hmem]; exact Bool.false_ne_true)
    · exact absurd (congrArg Prod.fst heq) hk
    · have hascending := d.ascending
      rw [hd] at hascending
      exact List.rel_of_pairwise_cons (List.pairwise_append.1 hascending).2.1 hmem
  · rintro ⟨k, v, hmem, hb, hleast⟩
    obtain ⟨before, after, hd⟩ := List.append_of_mem hmem
    refine ⟨before, (k, v), after, hd, hb, fun ⟨k', v'⟩ hmem' => ?_⟩
    have hascending := d.ascending
    rw [hd] at hascending
    have hlt : k' < k := (List.pairwise_append.1 hascending).2.2 _ hmem' _ List.mem_cons_self
    refine Option.not_isSome_iff_eq_none.1 fun hg => ?_
    have hgt := hleast k' v' (hd ▸ List.mem_append_left _ hmem') hg
      fun he => String.lt_irrefl _ (he ▸ hlt)
    exact String.lt_irrefl _ (String.lt_trans hlt hgt)

theorem mem_values : v ∈ d.values ↔ ∃ k, d.get? k = some v := by
  simp only [values, List.mem_map, Prod.exists, mem_entries, exists_eq_right]

theorem mem_keys : k ∈ d.keys ↔ d.contains k = true := by
  simp only [keys, contains, List.mem_map, Prod.exists, mem_entries, exists_and_right,
    exists_eq_right, Option.isSome_iff_exists]

theorem nodup_keys (d : Dict α) : d.keys.Nodup := d.ascending.nodup

/-- If no two keys have one value, no value is listed twice. -/
theorem nodup_values (h : ∀ k k' v, d.get? k = some v → d.get? k' = some v → k = k') :
    d.values.Nodup := by
  have hkeys : d.entries.Pairwise fun a b => a.1 ≠ b.1 := List.pairwise_map.1 d.nodup_keys
  rw [values, List.Nodup, List.pairwise_map]
  refine hkeys.imp_of_mem fun {a b} ha hb hne he => hne ?_
  exact h a.1 b.1 a.2 (mem_entries.1 ha) (mem_entries.1 (he ▸ hb))

theorem eq_empty_iff : d = ∅ ↔ ∀ k, d.get? k = none :=
  ⟨fun h _ => h ▸ rfl, fun h => ext_get? h⟩

/-- One more entry is put in last. -/
theorem ofList_concat (es : List (String × α)) (k : String) (v : α) :
    ofList (es ++ [(k, v)]) = (ofList es).insert k v := by
  have hsort : Entries.sort (es ++ [(k, v)]) = Entries.put k v (Entries.sort es) :=
    List.foldl_append
  exact ext_get? fun k' => congrArg (Entries.lookup k') hsort

/-- The keys of a dictionary are those of the entries that it was made of. -/
theorem contains_ofList (es : List (String × α)) (k : String) :
    (ofList es).contains k = true ↔ k ∈ es.map (·.1) := by
  rw [contains, get?, ofList, Entries.lookup_sort_reverse, Entries.isSome_lookup_iff,
    List.map_reverse, List.mem_reverse]

/-- So are its entries. -/
theorem mem_of_get?_ofList {es : List (String × α)} (h : (ofList es).get? k = some v) :
    (k, v) ∈ es :=
  Entries.mem_sort (Entries.mem_of_lookup h)

/-- What has a value under a key is not changed by putting it there again. -/
theorem insert_of_get? (h : d.get? k = some v) : d.insert k v = d :=
  ext_get? fun k' => by
    rw [get?_insert]
    split
    · next hk => rw [← hk, h]
    · rfl

/-- What has no value under a key is not changed by taking it out. -/
theorem erase_of_get? (h : d.get? k = none) : d.erase k = d :=
  ext_get? fun k' => by
    rw [get?_erase]
    split
    · next hk => rw [← hk, h]
    · rfl

/-- What gets another value under a key is changed. -/
theorem insert_ne {v' : α} (h : d.get? k = some v) (hne : v' ≠ v) : d.insert k v' ≠ d := by
  intro he
  have hget := get?_insert d k k v'
  rw [he, h, if_pos rfl] at hget
  exact hne (Option.some.inj hget).symm

theorem get?_map (f : α → β) (d : Dict α) (k : String) : (d.map f).get? k = (d.get? k).map f :=
  Entries.lookup_map f k d.entries

theorem get?_filter (p : String → α → Bool) (d : Dict α) (k : String) :
    (d.filter p).get? k = (d.get? k).filter (p k) :=
  Entries.lookup_filter p d.ascending k

theorem map_insert (f : α → β) (d : Dict α) (k : String) (v : α) :
    (d.insert k v).map f = (d.map f).insert k (f v) :=
  ext_get? fun k' => by
    rw [get?_map, get?_insert, get?_insert, get?_map]
    split <;> rfl

/-- A value replaced by one with the same image is not seen in the image. -/
theorem map_insert_of_get? {f : α → β} {v' : α} (h : d.get? k = some v) (hf : f v' = f v) :
    (d.insert k v').map f = d.map f :=
  ext_get? fun k' => by
    rw [map_insert, get?_insert, get?_map]
    split
    · next hk => rw [← hk, h, hf, Option.map_some]
    · rfl

theorem map_erase (f : α → β) (d : Dict α) (k : String) :
    (d.erase k).map f = (d.map f).erase k :=
  ext_get? fun k' => by
    rw [get?_map, get?_erase, get?_erase, get?_map]
    split <;> rfl

theorem contains_map (f : α → β) (d : Dict α) (k : String) :
    (d.map f).contains k = d.contains k := by
  rw [contains, get?_map, Option.isSome_map, contains]

end Dict

end ContextServer
