import ContextServer.Proofs.Dict
import ContextServer.Proofs.Json.Token

/-!
# Written values

A value that was written is read back, up to the order of members
(`Json.parse?_compact`). Reading puts the members of every object in order and
keeps the last of those with one name (`Json.sorted`), which changes nothing of a
canonical value (`Json.sorted_of_canonical`).

Two things can keep a value from being read: a nesting beyond `Json.maxDepth`,
and a number that is not read back from its text. The first is a hypothesis, the
second is asked of every number in the value (`Json.NumbersAll`); integers meet
it (`Json.readsBack_integer`).
-/

namespace ContextServer

namespace Json

/-! ## Numbers of a value -/

mutual

/-- Every number in the value has the property. -/
def NumbersAll (p : Number → Prop) : Json → Prop
  | .number n => p n
  | .array items => ItemsNumbersAll p items
  | .object ms => MembersNumbersAll p ms
  | _ => True

/-- Every number in the items has the property. -/
def ItemsNumbersAll (p : Number → Prop) : List Json → Prop
  | [] => True
  | x :: xs => NumbersAll p x ∧ ItemsNumbersAll p xs

/-- Every number in the values of the members has the property. -/
def MembersNumbersAll (p : Number → Prop) : List (String × Json) → Prop
  | [] => True
  | (_, v) :: ms => NumbersAll p v ∧ MembersNumbersAll p ms

end

mutual

theorem NumbersAll.mono {p q : Number → Prop} (h : ∀ n, p n → q n) :
    ∀ j, NumbersAll p j → NumbersAll q j
  | .number n, hj => h n hj
  | .array items, hj => ItemsNumbersAll.mono h items hj
  | .object ms, hj => MembersNumbersAll.mono h ms hj
  | .null, _ | .bool _, _ | .string _, _ => trivial

theorem ItemsNumbersAll.mono {p q : Number → Prop} (h : ∀ n, p n → q n) :
    ∀ xs, ItemsNumbersAll p xs → ItemsNumbersAll q xs
  | [], _ => trivial
  | x :: xs, hx => ⟨NumbersAll.mono h x hx.1, ItemsNumbersAll.mono h xs hx.2⟩

theorem MembersNumbersAll.mono {p q : Number → Prop} (h : ∀ n, p n → q n) :
    ∀ ms, MembersNumbersAll p ms → MembersNumbersAll q ms
  | [], _ => trivial
  | (_, v) :: ms, hm => ⟨NumbersAll.mono h v hm.1, MembersNumbersAll.mono h ms hm.2⟩

end

theorem membersNumbersAll_append {p : Number → Prop} {ms ns : List (String × Json)} :
    MembersNumbersAll p (ms ++ ns) ↔ MembersNumbersAll p ms ∧ MembersNumbersAll p ns := by
  induction ms with
  | nil => exact (and_iff_right trivial).symm
  | cons m ms ih => exact (and_congr_right' ih).trans and_assoc.symm

/-- The number is read back from its text, which starts like no other value. -/
structure ReadsBack (n : Number) : Prop where
  starts : ∃ c, (writeNumber n).head? = some c ∧ (c = '-' ∨ c.isDigit = true)
  reads : ∀ cs, EndsNumber cs → readNumber (writeNumber n ++ cs) = some (n, cs)

/-- The number is an integer. -/
def IsInteger (n : Number) : Prop := ∃ i, n = .integer i

theorem readsBack_integer {n : Number} (h : IsInteger n) : ReadsBack n := by
  obtain ⟨i, rfl⟩ := h
  refine ⟨?_, fun cs => readNumber_writeInt i⟩
  obtain ⟨d, ds, hds⟩ := List.exists_cons_of_ne_nil (digitsOf_ne_nil i.val.natAbs)
  have hd := isDigit_of_mem_digitsOf (hds ▸ List.mem_cons_self : d ∈ _)
  rw [writeNumber, writeInt]
  split
  · exact ⟨'-', rfl, .inl rfl⟩
  · exact ⟨d, by rw [hds]; rfl, .inr hd⟩

/-! ## Members in order -/

mutual

/-- The value with the members of every object in the order of their names; of
    two with one name the later counts. -/
def sorted : Json → Json
  | .array items => .array (sortedItems items)
  | .object ms => ofMembers (sortedMembers ms)
  | j => j

/-- The items, each with its members in order. -/
def sortedItems : List Json → List Json
  | [] => []
  | x :: xs => sorted x :: sortedItems xs

/-- The members, the value of each with its members in order. -/
def sortedMembers : List (String × Json) → List (String × Json)
  | [] => []
  | (k, v) :: ms => (k, sorted v) :: sortedMembers ms

end

theorem sortedMembers_eq_map (ms : List (String × Json)) :
    sortedMembers ms = ms.map fun m => (m.1, sorted m.2) := by
  induction ms with
  | nil => rfl
  | cons m ms ih => rw [sortedMembers, ih, List.map_cons]

mutual

/-- A canonical value is in order already. -/
theorem sorted_of_canonical : ∀ j, Canonical j → sorted j = j
  | .array items, h => congrArg array (sortedItems_of_canonical items h)
  | .object ms, h => by
    rw [sorted, sortedMembers_of_canonical ms h.2, ofMembers, h.1.sort_eq]
  | .null, _ | .bool _, _ | .number _, _ | .string _, _ => rfl

theorem sortedItems_of_canonical : ∀ xs, ItemsCanonical xs → sortedItems xs = xs
  | [], _ => rfl
  | x :: xs, h => by
    rw [sortedItems, sorted_of_canonical x h.1, sortedItems_of_canonical xs h.2]

theorem sortedMembers_of_canonical : ∀ ms, MembersCanonical ms → sortedMembers ms = ms
  | [], _ => rfl
  | (k, v) :: ms, h => by
    rw [sortedMembers, sorted_of_canonical v h.1, sortedMembers_of_canonical ms h.2]

end

/-- What a look-up finds in the value as it is read. -/
theorem member?_sorted_object {ms : List (String × Json)} (h : (ms.map (·.1)).Nodup)
    (name : String) :
    (sorted (.object ms)).member? name = (Entries.lookup name ms).map sorted := by
  have hn : ((sortedMembers ms).map (·.1)).Nodup := by
    rw [sortedMembers_eq_map, List.map_map]
    exact h
  rw [sorted, ofMembers, member?, Entries.lookup_sort hn, sortedMembers_eq_map,
    Entries.lookup_map]

theorem map_sorted_of_canonical {j : Option Json} (h : ∀ v ∈ j, v.Canonical) :
    j.map sorted = j := by
  cases j with
  | none => rfl
  | some j => exact congrArg some (sorted_of_canonical j (h j rfl))

/-- What a look-up finds in a written object with its members in order. -/
theorem member?_sorted_eq {ms : List (String × Json)} {j : Option Json}
    (hkeys : (ms.map (·.1)).Nodup) (name : String) (hl : Entries.lookup name ms = j)
    (hj : j.map sorted = j) :
    (sorted (.object ms)).member? name = j := by
  rw [member?_sorted_object hkeys, hl, hj]

/-! ## Reading -/

theorem skipBlanks_cons {c : Char} (h : isBlank c = false) (cs : List Char) :
    skipBlanks (c :: cs) = c :: cs := by
  rw [skipBlanks, List.dropWhile_cons, h]
  rfl

theorem not_isBlank_of_isDigit {c : Char} (h : c.isDigit = true) : isBlank c = false := by
  refine Bool.eq_false_iff.2 fun hb => ?_
  simp only [isBlank, Bool.or_eq_true, beq_iff_eq] at hb
  rcases hb with ((rfl | rfl) | rfl) | rfl <;> revert h <;> decide

/-- The text of a value starts with neither a blank nor the end of an array. -/
theorem head?_write : ∀ j, NumbersAll ReadsBack j →
    ∃ c, (write j).head? = some c ∧ isBlank c = false ∧ c ≠ ']'
  | .null, _ => ⟨'n', rfl, rfl, by decide⟩
  | .bool true, _ => ⟨'t', rfl, rfl, by decide⟩
  | .bool false, _ => ⟨'f', rfl, rfl, by decide⟩
  | .string _, _ => ⟨'"', rfl, rfl, by decide⟩
  | .array [], _ | .array (_ :: _), _ => ⟨'[', by rw [write]; rfl, rfl, by decide⟩
  | .object [], _ | .object (_ :: _), _ => ⟨'{', by rw [write]; rfl, rfl, by decide⟩
  | .number n, h => by
    obtain ⟨c, hn, hc⟩ := h.starts
    refine ⟨c, hn, ?_⟩
    rcases hc with rfl | hc
    · decide
    · refine ⟨not_isBlank_of_isDigit hc, ?_⟩
      rintro rfl
      revert hc
      decide

theorem length_write_pos {j : Json} (h : NumbersAll ReadsBack j) : 0 < (write j).length := by
  obtain ⟨c, hc, -⟩ := head?_write j h
  obtain ⟨cs, hcs⟩ := List.head?_eq_some_iff.1 hc
  rw [hcs]
  exact Nat.succ_pos _

section

variable (supply depth : Nat) {text : List Char}

/-! The reader looks at one character and goes on by it; these lemmas say how. -/

theorem readValue_null :
    readValue (supply + 1) depth ('n' :: 'u' :: 'l' :: 'l' :: text) = some (.null, text) := by
  rw [readValue]; rfl

theorem readValue_true :
    readValue (supply + 1) depth ('t' :: 'r' :: 'u' :: 'e' :: text) = some (.bool true, text) := by
  rw [readValue]; rfl

theorem readValue_false :
    readValue (supply + 1) depth ('f' :: 'a' :: 'l' :: 's' :: 'e' :: text) =
      some (.bool false, text) := by
  rw [readValue]; rfl

theorem readValue_string : readValue (supply + 1) depth ('"' :: text) =
    (readString text).map fun (s, r) => (.string (String.ofList s), r) := by
  rw [readValue]; rfl

theorem readValue_number {c : Char} (h : text.head? = some c) (hc : c = '-' ∨ c.isDigit = true) :
    readValue (supply + 1) depth text = (readNumber text).map fun (n, r) => (.number n, r) := by
  obtain ⟨cs, rfl⟩ := List.head?_eq_some_iff.1 h
  have hb : isBlank c = false := by
    rcases hc with rfl | hc
    · rfl
    · exact not_isBlank_of_isDigit hc
  -- No other value starts like a number.
  have hne (d : Char) (hd : d ≠ '-' ∧ d.isDigit = false) : c ≠ d := by
    rintro rfl
    rcases hc with rfl | hc
    · exact hd.1 rfl
    · exact absurd hc (by simp [hd.2])
  rw [readValue, skipBlanks_cons hb]
  split
  · next he => exact absurd (List.cons.inj he).1 (hne 'n' (by decide))
  · next he => exact absurd (List.cons.inj he).1 (hne 't' (by decide))
  · next he => exact absurd (List.cons.inj he).1 (hne 'f' (by decide))
  · next he => exact absurd (List.cons.inj he).1 (hne '"' (by decide))
  · next he => exact absurd (List.cons.inj he).1 (hne '[' (by decide))
  · next he => exact absurd (List.cons.inj he).1 (hne '{' (by decide))
  · rfl

theorem readValue_emptyArray :
    readValue (supply + 1) (depth + 1) ('[' :: ']' :: text) = some (.array [], text) := by
  rw [readValue]; rfl

theorem readValue_emptyObject :
    readValue (supply + 1) (depth + 1) ('{' :: '}' :: text) = some (.object [], text) := by
  rw [readValue]; rfl

theorem readValue_array {c : Char} (h : text.head? = some c) (hb : isBlank c = false)
    (hc : c ≠ ']') : readValue (supply + 1) (depth + 1) ('[' :: text) =
      (readItems supply depth text).map fun (xs, r) => (.array xs, r) := by
  obtain ⟨cs, rfl⟩ := List.head?_eq_some_iff.1 h
  rw [readValue, skipBlanks_cons rfl]
  simp only [skipBlanks_cons hb]
  split
  · next he => exact absurd (List.cons.inj he).1 hc
  · rfl

theorem readValue_object (h : text.head? = some '"') :
    readValue (supply + 1) (depth + 1) ('{' :: text) =
      (readMembers supply depth text).map fun (ms, r) => (ofMembers ms, r) := by
  obtain ⟨cs, rfl⟩ := List.head?_eq_some_iff.1 h
  rw [readValue]; rfl

variable {supply depth} {x v : Json} {rest : List Char}

theorem readItems_last (h : readValue supply depth text = some (x, ']' :: rest)) :
    readItems (supply + 1) depth text = some ([x], rest) := by
  rw [readItems, h]; rfl

theorem readItems_more (h : readValue supply depth text = some (x, ',' :: rest)) :
    readItems (supply + 1) depth text =
      (readItems supply depth rest).map fun (xs, r) => (x :: xs, r) := by
  rw [readItems, h]; rfl

theorem readMembers_last (k : String)
    (h : readValue supply depth text = some (v, '}' :: rest)) :
    readMembers (supply + 1) depth (writeString k ++ ':' :: text) = some ([(k, v)], rest) := by
  rw [writeString, List.cons_append, List.append_assoc, readMembers, skipBlanks_cons rfl]
  simp only [List.singleton_append, readString_write, String.ofList_toList]
  rw [skipBlanks_cons rfl]
  simp only [h]
  rfl

theorem readMembers_more (k : String)
    (h : readValue supply depth text = some (v, ',' :: rest)) :
    readMembers (supply + 1) depth (writeString k ++ ':' :: text) =
      (readMembers supply depth rest).map fun (ms, r) => ((k, v) :: ms, r) := by
  rw [writeString, List.cons_append, List.append_assoc, readMembers, skipBlanks_cons rfl]
  simp only [List.singleton_append, readString_write, String.ofList_toList]
  rw [skipBlanks_cons rfl]
  simp only [h]
  rfl

end

theorem endsNumber_writeItems (xs : List Json) (cs : List Char) :
    EndsNumber (writeItems xs ++ cs) := by
  cases xs <;> exact endsNumber_cons _ (by decide)

theorem endsNumber_writeMembers (ms : List (String × Json)) (cs : List Char) :
    EndsNumber (writeMembers ms ++ cs) := by
  rcases ms with _ | ⟨⟨k, v⟩, ms⟩ <;> exact endsNumber_cons _ (by decide)

theorem length_writeItems_pos (xs : List Json) : 0 < (writeItems xs).length := by
  cases xs <;> exact Nat.succ_pos _

theorem length_writeMembers_pos (ms : List (String × Json)) : 0 < (writeMembers ms).length := by
  rcases ms with _ | ⟨⟨k, v⟩, ms⟩ <;> exact Nat.succ_pos _

mutual

/-- A written value is read back. Each call of the reader gets at least as large a
    supply as there is text of its own. -/
theorem readValue_write : ∀ (j : Json) (supply depth : Nat) (cs : List Char),
    (write j).length ≤ supply + 1 → j.depth ≤ depth → NumbersAll ReadsBack j → EndsNumber cs →
    readValue (supply + 1) depth (write j ++ cs) = some (sorted j, cs)
  | .null, supply, depth, _, _, _, _, _ => readValue_null supply depth
  | .bool true, supply, depth, _, _, _, _, _ => readValue_true supply depth
  | .bool false, supply, depth, _, _, _, _, _ => readValue_false supply depth
  | .string s, supply, depth, cs, _, _, _, _ => by
    rw [write, writeString, List.cons_append, List.append_assoc, List.singleton_append,
      readValue_string, readString_write, Option.map_some]
    exact congrArg (fun s => some (string s, cs)) String.ofList_toList
  | .number n, supply, depth, cs, _, _, hn, hcs => by
    obtain ⟨c, hhead, hc⟩ := hn.starts
    rw [write, readValue_number supply depth (by rw [List.head?_append, hhead]; rfl) hc,
      hn.reads cs hcs]
    rfl
  | .array [], supply, depth + 1, _, _, _, _, _ => readValue_emptyArray supply depth
  | .object [], supply, depth + 1, _, _, _, _, _ => readValue_emptyObject supply depth
  | .array (x :: xs), supply, depth + 1, cs, hs, hd, hn, _ => by
    obtain ⟨c, hhead, hb, hc⟩ := head?_write x hn.1
    rw [write, List.length_cons] at hs
    rw [write, List.cons_append, readValue_array supply depth _ hb hc,
      readItems_write x xs supply depth cs (by omega) (Nat.le_of_succ_le_succ hd) hn]
    · rfl
    · rw [List.append_assoc, List.head?_append, hhead]
      rfl
  | .object ((k, v) :: ms), supply, depth + 1, cs, hs, hd, hn, _ => by
    rw [write, List.length_cons] at hs
    rw [write, List.cons_append, readValue_object supply depth rfl,
      readMembers_write k v ms supply depth cs (by omega) (Nat.le_of_succ_le_succ hd) hn]
    rfl
termination_by j => sizeOf j

/-- Written items are read back up to the end of the array. -/
theorem readItems_write : ∀ (x : Json) (xs : List Json) (supply depth : Nat) (cs : List Char),
    (write x ++ writeItems xs).length ≤ supply → itemsDepth (x :: xs) ≤ depth →
    ItemsNumbersAll ReadsBack (x :: xs) →
    readItems supply depth (write x ++ writeItems xs ++ cs) = some (sortedItems (x :: xs), cs)
  | x, xs, supply, depth, cs, hs, hd, hn => by
    have hpos := length_write_pos hn.1
    have hend := length_writeItems_pos xs
    rw [List.length_append] at hs
    -- One step goes to the items and one to the first of them; the text is as long.
    obtain ⟨supply, rfl⟩ : ∃ s, supply = s + 2 := ⟨supply - 2, by omega⟩
    have hx := readValue_write x supply depth (writeItems xs ++ cs) (by omega)
      (Nat.le_trans (Nat.le_max_left _ _) hd) hn.1 (endsNumber_writeItems xs cs)
    rw [List.append_assoc]
    cases xs with
    | nil => exact readItems_last hx
    | cons y ys =>
      rw [writeItems, List.length_cons] at hs
      have hread := readItems_write y ys (supply + 1) depth cs (by omega)
        (Nat.le_trans (Nat.le_max_right _ _) hd) hn.2
      exact (readItems_more hx).trans (congrArg (Option.map _) hread)
termination_by x xs => sizeOf (x :: xs)

/-- Written members are read back up to the end of the object. -/
theorem readMembers_write : ∀ (k : String) (v : Json) (ms : List (String × Json))
    (supply depth : Nat) (cs : List Char),
    (writeString k ++ ':' :: (write v ++ writeMembers ms)).length ≤ supply →
    membersDepth ((k, v) :: ms) ≤ depth → MembersNumbersAll ReadsBack ((k, v) :: ms) →
    readMembers supply depth (writeString k ++ ':' :: (write v ++ writeMembers ms) ++ cs) =
      some (sortedMembers ((k, v) :: ms), cs)
  | k, v, ms, supply, depth, cs, hs, hd, hn => by
    have hpos := length_write_pos hn.1
    have hend := length_writeMembers_pos ms
    rw [List.length_append, List.length_cons, List.length_append] at hs
    obtain ⟨supply, rfl⟩ : ∃ s, supply = s + 2 := ⟨supply - 2, by omega⟩
    have hv := readValue_write v supply depth (writeMembers ms ++ cs) (by omega)
      (Nat.le_trans (Nat.le_max_left _ _) hd) hn.1 (endsNumber_writeMembers ms cs)
    rw [List.append_assoc, List.cons_append, List.append_assoc]
    cases ms with
    | nil => exact readMembers_last k hv
    | cons m ms =>
      cases m with | mk k' v' =>
      rw [writeMembers, List.length_cons] at hs
      have hread := readMembers_write k' v' ms (supply + 1) depth cs (by omega)
        (Nat.le_trans (Nat.le_max_right _ _) hd) hn.2
      exact (readMembers_more k hv).trans (congrArg (Option.map _) hread)
termination_by k v ms => sizeOf ((k, v) :: ms)

end

/-- A written value is read back, with the members of its objects in order. -/
theorem parse?_compact {j : Json} (hd : j.depth ≤ maxDepth) (hn : NumbersAll ReadsBack j) :
    parse? j.compact = some (sorted j) := by
  have hread := readValue_write j (2 * (write j).length + 1) maxDepth [] (by omega) hd hn
    (fun _ h => nomatch h)
  rw [List.append_nil] at hread
  rw [parse?, compact, String.toList_ofList, readText, hread]
  rfl

/-- The shortest text of a double is not always read back: those of two neighbours are read as
    the same number. -/
example : parse? "0.9454390403667347" = parse? "0.9454390403667348" := by decide +kernel

end Json

end ContextServer
