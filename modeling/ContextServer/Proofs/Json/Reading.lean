import ContextServer.Json.Reader
import ContextServer.Proofs.Dict

/-!
# What is read

A value that was read from a text is canonical and nested no deeper than the
reader goes (`Json.fits_parse?`), and so are the members of a value that is
(`Json.Fits.member`).

The reader puts the members of an object in order as the object ends. Until then
they are a plain list, of which only the values count (`Json.MembersFit`).
-/

namespace ContextServer

namespace Json

/-- The value is canonical, with at most `depth` containers inside one another. -/
structure Fits (depth : Nat) (j : Json) : Prop where
  canonical : j.Canonical
  depth_le : j.depth ≤ depth

/-- Every item fits. -/
def ItemsFit (depth : Nat) (xs : List Json) : Prop := ∀ x ∈ xs, Fits depth x

/-- The value of every member fits. -/
def MembersFit (depth : Nat) (ms : List (String × Json)) : Prop := ∀ m ∈ ms, Fits depth m.2

variable {depth : Nat}

theorem itemsFit_iff {xs : List Json} :
    ItemsFit depth xs ↔ ItemsCanonical xs ∧ itemsDepth xs ≤ depth := by
  induction xs with
  | nil => exact ⟨fun _ => ⟨trivial, Nat.zero_le _⟩, fun _ _ h => nomatch h⟩
  | cons x xs ih =>
    rw [ItemsFit, List.forall_mem_cons, ← ItemsFit, ih, ItemsCanonical, itemsDepth, Nat.max_le]
    exact ⟨fun ⟨⟨hx, hd⟩, hxs, hds⟩ => ⟨⟨hx, hxs⟩, hd, hds⟩,
      fun ⟨⟨hx, hxs⟩, hd, hds⟩ => ⟨⟨hx, hd⟩, hxs, hds⟩⟩

theorem membersFit_iff {ms : List (String × Json)} :
    MembersFit depth ms ↔ MembersCanonical ms ∧ membersDepth ms ≤ depth := by
  induction ms with
  | nil => exact ⟨fun _ => ⟨trivial, Nat.zero_le _⟩, fun _ _ h => nomatch h⟩
  | cons m ms ih =>
    rw [MembersFit, List.forall_mem_cons, ← MembersFit, ih, MembersCanonical, membersDepth,
      Nat.max_le]
    exact ⟨fun ⟨⟨hx, hd⟩, hxs, hds⟩ => ⟨⟨hx, hxs⟩, hd, hds⟩,
      fun ⟨⟨hx, hxs⟩, hd, hds⟩ => ⟨⟨hx, hd⟩, hxs, hds⟩⟩

theorem fits_array_iff {xs : List Json} : Fits (depth + 1) (.array xs) ↔ ItemsFit depth xs := by
  rw [itemsFit_iff]
  exact ⟨fun h => ⟨h.canonical, Nat.le_of_succ_le_succ h.depth_le⟩,
    fun h => ⟨h.1, Nat.succ_le_succ h.2⟩⟩

theorem fits_object_iff {ms : List (String × Json)} :
    Fits (depth + 1) (.object ms) ↔ Entries.Ascending ms ∧ MembersFit depth ms := by
  rw [membersFit_iff]
  exact ⟨fun h => ⟨h.canonical.1, h.canonical.2, Nat.le_of_succ_le_succ h.depth_le⟩,
    fun h => ⟨⟨h.1, h.2.1⟩, Nat.succ_le_succ h.2.2⟩⟩

/-- The members of an object that fits have room for the object around them. -/
theorem Fits.member {v j : Json} {name : String} (h : Fits (depth + 1) v)
    (hj : v.member? name = some j) : Fits depth j := by
  unfold member? at hj
  split at hj
  · exact (fits_object_iff.1 h).2 _ (Entries.mem_of_lookup hj)
  · cases hj

theorem fits_ofMembers {ms : List (String × Json)} (h : MembersFit depth ms) :
    Fits (depth + 1) (ofMembers ms) :=
  fits_object_iff.2 ⟨Entries.ascending_sort ms, fun m hm => h m (Entries.mem_sort hm)⟩

/-! ## Reading -/

mutual

theorem fits_readValue : ∀ {supply depth : Nat} {cs rest : List Char} {j : Json},
    readValue supply depth cs = some (j, rest) → Fits depth j
  | 0, _, _, _, _, h => nomatch h
  | supply + 1, depth, cs, rest, j, h => by
    rw [readValue] at h
    split at h
    · cases h
      exact ⟨trivial, Nat.zero_le _⟩
    · cases h
      exact ⟨trivial, Nat.zero_le _⟩
    · cases h
      exact ⟨trivial, Nat.zero_le _⟩
    · obtain ⟨_, -, ⟨⟩⟩ := Option.map_eq_some_iff.1 h
      exact ⟨trivial, Nat.zero_le _⟩
    · split at h
      · cases h
      · split at h
        · cases h
          exact fits_array_iff.2 nofun
        · obtain ⟨_, hxs, ⟨⟩⟩ := Option.map_eq_some_iff.1 h
          exact fits_array_iff.2 (itemsFit_readItems hxs)
    · split at h
      · cases h
      · split at h
        · cases h
          exact fits_object_iff.2 ⟨.nil, nofun⟩
        · obtain ⟨_, hms, ⟨⟩⟩ := Option.map_eq_some_iff.1 h
          exact fits_ofMembers (membersFit_readMembers hms)
    · obtain ⟨_, -, ⟨⟩⟩ := Option.map_eq_some_iff.1 h
      exact ⟨trivial, Nat.zero_le _⟩

theorem itemsFit_readItems : ∀ {supply depth : Nat} {cs rest : List Char} {xs : List Json},
    readItems supply depth cs = some (xs, rest) → ItemsFit depth xs
  | 0, _, _, _, _, h => nomatch h
  | supply + 1, depth, cs, rest, xs, h => by
    rw [readItems] at h
    split at h
    · cases h
    · next x _ hx =>
      have hfit := fits_readValue hx
      split at h
      · obtain ⟨_, hxs, ⟨⟩⟩ := Option.map_eq_some_iff.1 h
        exact List.forall_mem_cons.2 ⟨hfit, itemsFit_readItems hxs⟩
      · cases h
        exact List.forall_mem_singleton.2 hfit
      · cases h

theorem membersFit_readMembers : ∀ {supply depth : Nat} {cs rest : List Char}
    {ms : List (String × Json)},
    readMembers supply depth cs = some (ms, rest) → MembersFit depth ms
  | 0, _, _, _, _, h => nomatch h
  | supply + 1, depth, cs, rest, ms, h => by
    rw [readMembers] at h
    split at h
    · split at h
      · cases h
      · split at h
        · split at h
          · cases h
          · next v _ hv =>
            have hfit := fits_readValue hv
            dsimp only at h
            split at h
            · obtain ⟨_, hms, ⟨⟩⟩ := Option.map_eq_some_iff.1 h
              exact List.forall_mem_cons.2 ⟨hfit, membersFit_readMembers hms⟩
            · cases h
              exact List.forall_mem_singleton.2 hfit
            · cases h
        · cases h
    · cases h

end

/-- What a text spells is canonical and not nested too deep. -/
theorem fits_parse? {text : String} {j : Json} (h : parse? text = some j) : Fits maxDepth j := by
  rw [parse?, readText] at h
  split at h
  · next hread =>
    split at h
    · cases h
      exact fits_readValue hread
    · cases h
  · cases h

end Json

end ContextServer
