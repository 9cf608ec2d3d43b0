import ContextServer.Proofs.Host.Lifecycle

/-!
# What all sessions are told

A message to many sessions goes over their links one by one (`Host.sendEach`), and each of
them has it once (`Host.getElem?_sendEach`). Where sessions are enrolled, it is every session
that is told something when all live ones are, for the links of the others are closed
(`Host.Enrolled.getElem?_broadcast`). Where all that the host has of its sessions agrees, it
is every session that is subscribed to a resource that is told when it changes
(`Host.Sound.getElem?_resourceChanged`).
-/

namespace ContextServer

namespace Session

variable {s : Session} {capacity? : Option Nat} {m : Message}

/-- The session after a message was sent to its client. -/
def told (capacity? : Option Nat) (m : Message) (s : Session) : Session :=
  { s with link := (s.link.send capacity? m).2 }

theorem told_of_closed (h : s.link.isOpen = false) : s.told capacity? m = s := by
  rw [told, Link.send_of_closed h]

end Session

namespace Host

variable {h : Host} {i : Nat} {s : Session} {m : Message} {id : String}

theorem getElem?_send_map :
    (h.send i m).2.sessions[i]? = h.sessions[i]?.map (Session.told h.medium.capacity? m) := by
  cases hs : h.sessions[i]? with
  | none => simp only [send, hs, Option.map_none]
  | some s => exact getElem?_send hs

/-! ## Many sessions -/

/-- A message to some sessions, one after the other. -/
def sendEach (h : Host) (is : List Nat) (m : Message) : Host :=
  is.foldl (fun h i => (h.send i m).2) h

/-- Every session that the message is for has it once. -/
theorem getElem?_sendEach {is : List Nat} (hnodup : is.Nodup) (i : Nat) :
    (h.sendEach is m).sessions[i]? =
      if i ∈ is then h.sessions[i]?.map (Session.told h.medium.capacity? m)
      else h.sessions[i]? := by
  induction is generalizing h with
  | nil => rfl
  | cons j is ih =>
    obtain ⟨hj, hnodup⟩ := List.nodup_cons.1 hnodup
    have hmedium : (h.send j m).2.medium = h.medium :=
      medium_of_constants blindToUse_constants.send
    change ((h.send j m).2.sendEach is m).sessions[i]? = _
    rw [ih hnodup, hmedium]
    by_cases hij : j = i
    · subst hij
      rw [if_neg hj, if_pos List.mem_cons_self, getElem?_send_map]
    · simp only [send_ne hij, List.mem_cons, Ne.symm hij, false_or]

/-- A message for some sessions reaches all that it would reach, if it is for none but
    those whose links are open. -/
theorem getElem?_sendEach_of_open {is : List Nat} (hnodup : is.Nodup) (i : Nat)
    (hopen : ∀ s, h.sessions[i]? = some s → i ∉ is → s.link.isOpen = false) :
    (h.sendEach is m).sessions[i]? =
      h.sessions[i]?.map (Session.told h.medium.capacity? m) := by
  rw [getElem?_sendEach hnodup]
  split
  · rfl
  · next hi =>
    cases hs : h.sessions[i]? with
    | none => rfl
    | some s => rw [Option.map_some, Session.told_of_closed (hopen s hs hi)]

theorem id_of_number? {j : Nat} (hj : h.number? id = some j) :
    ∃ s, h.sessions[j]? = some s ∧ s.id = id := by
  obtain ⟨hlt, hid, -⟩ := List.findIdx?_eq_some_iff_getElem.1 hj
  exact ⟨_, List.getElem?_eq_getElem hlt, beq_iff_eq.1 hid⟩

/-- What the subscribers of a resource are told when it changes. -/
def changeNotice (uri : String) : Message :=
  .notification
    { method := Method.resourcesUpdated
      params := some (ResourceUpdatedNotification.shape.encode { uri }) }

/-- The subscriptions after a resource changed. -/
def prunedSubscriptions (h : Host) (uri : String) : Subscriptions :=
  h.server.subscriptions.keep uri h.isReachable

/-- The sessions that are told that a resource changed. -/
def toldOfChange (h : Host) (uri : String) : List Nat :=
  ((h.prunedSubscriptions uri).subscribers uri).keys.filterMap h.number?

theorem resourceChanged_eq (uri : String) :
    h.resourceChanged uri =
      (h.withSubscriptions (h.prunedSubscriptions uri)).sendEach (h.toldOfChange uri)
        (changeNotice uri) :=
  rfl

theorem nodup_toldOfChange (uri : String) : (h.toldOfChange uri).Nodup := by
  refine List.Pairwise.filterMap _ (fun id id' hne j hj j' hj' he => hne ?_)
    ((h.prunedSubscriptions uri).subscribers uri).nodup_keys
  obtain ⟨s, hs, hid⟩ := id_of_number? hj
  obtain ⟨s', hs', hid'⟩ := id_of_number? hj'
  rw [← hid, ← hid', Option.some.inj (hs.symm.trans (he ▸ hs'))]

/-! ## Live sessions -/

namespace Enrolled

variable (hh : h.Enrolled)

include hh

theorem nodup_live : h.live.values.Nodup := by
  refine Dict.nodup_values fun id id' i hi hi' => ?_
  obtain ⟨s, hs, hid⟩ := hh.known id i hi
  obtain ⟨s', hs', hid'⟩ := hh.known id' i hi'
  rw [← hid, ← hid', Option.some.inj (hs.symm.trans hs')]

/-- A session is live if its link is open. -/
theorem mem_live (hs : h.sessions[i]? = some s) (hopen : s.link.isOpen = true) :
    i ∈ h.live.values := by
  refine Dict.mem_values.2 ⟨s.id, ?_⟩
  rw [hh.registered i s hs, if_pos hopen]

/-- What all live sessions are told, every session is told. -/
theorem getElem?_broadcast (method : String) (params : Option Json) (i : Nat) :
    (h.broadcast method params).sessions[i]? =
      h.sessions[i]?.map
        (Session.told h.medium.capacity? (.notification { method, params })) := by
  refine getElem?_sendEach_of_open hh.nodup_live i fun s hs hi => ?_
  exact Bool.eq_false_iff.2 fun hopen => hi (hh.mem_live hs hopen)

end Enrolled

/-! ## Subscribers -/

namespace Sound

variable (hh : h.Sound)

include hh

/-- The session of a name has the number that it was opened with. -/
theorem number?_eq_some (hs : h.sessions[i]? = some s) : h.number? s.id = some i := by
  obtain ⟨hi, rfl⟩ := List.getElem?_eq_some_iff.1 hs
  refine List.findIdx?_eq_some_iff_getElem.2 ⟨hi, beq_self_eq_true _, fun j hji hid => ?_⟩
  have hj : h.sessions[j]? = some h.sessions[j] := List.getElem?_eq_getElem _
  exact Nat.ne_of_lt hji (hh.eq_of_id hj hs (beq_iff_eq.1 hid))

/-- A session can still be told something if its link is open. -/
theorem isReachable_eq (i : Nat) :
    h.isReachable (h.naming.session i) = h.sessions[i]?.any fun s => s.link.isOpen := by
  rw [Bool.eq_iff_iff, isReachable, List.any_eq_true, Option.any_eq_true]
  constructor
  · rintro ⟨s, hs, hreach⟩
    simp only [Bool.and_eq_true, beq_iff_eq] at hreach
    obtain ⟨j, hj⟩ := List.getElem?_of_mem hs
    rw [hh.named j s hj] at hreach
    obtain rfl := h.naming.session_injective j i hreach.1.1
    exact ⟨s, hj, hreach.2⟩
  · rintro ⟨s, hs, hopen⟩
    refine ⟨s, List.mem_of_getElem? hs, ?_⟩
    have hstate : s.state ≠ .closed := fun hclosed =>
      Bool.eq_false_iff.1 (hh.finished i s hs hclosed).link hopen
    simp [hh.named i s hs, hstate, hopen]

theorem isReachable_id (hs : h.sessions[i]? = some s) : h.isReachable s.id = s.link.isOpen := by
  rw [hh.named i s hs, hh.isReachable_eq i, hs, Option.any_some]

theorem mem_toldOfChange (hs : h.sessions[i]? = some s) (uri : String) :
    i ∈ h.toldOfChange uri ↔
      h.server.subscriptions.holds uri s.id = true ∧ s.link.isOpen = true := by
  have hkept (id : String) : id ∈ ((h.prunedSubscriptions uri).subscribers uri).keys ↔
      h.server.subscriptions.holds uri id = true ∧ h.isReachable id = true := by
    rw [Dict.mem_keys, ← Subscriptions.holds, prunedSubscriptions, Subscriptions.holds_keep]
    simp
  rw [toldOfChange, List.mem_filterMap, ← hh.isReachable_id hs]
  constructor
  · rintro ⟨id, hid, hi⟩
    obtain ⟨t, ht, rfl⟩ := id_of_number? hi
    obtain rfl := Option.some.inj (hs.symm.trans ht)
    exact (hkept s.id).1 hid
  · exact fun hid => ⟨s.id, (hkept s.id).2 hid, hh.number?_eq_some hs⟩

/-- What the subscribers of a resource are told, every session that is subscribed is. -/
theorem getElem?_resourceChanged (uri : String) (i : Nat) :
    (h.resourceChanged uri).sessions[i]? =
      h.sessions[i]?.map fun s =>
        if h.server.subscriptions.holds uri s.id then
          s.told h.medium.capacity? (changeNotice uri)
        else s := by
  rw [resourceChanged_eq, getElem?_sendEach (nodup_toldOfChange uri)]
  change (if i ∈ h.toldOfChange uri then h.sessions[i]?.map _ else h.sessions[i]?) = _
  cases hs : h.sessions[i]? with
  | none => simp
  | some s =>
    have hmem := hh.mem_toldOfChange hs uri
    rw [Option.map_some, Option.map_some]
    split
    · next hi =>
      rw [if_pos (hmem.1 hi).1]
      rfl
    · next hi =>
      split
      · next hsub =>
        -- The session is subscribed and was not told, so its link is closed.
        rw [Session.told_of_closed]
        exact Bool.eq_false_iff.2 fun hopen => hi (hmem.2 ⟨hsub, hopen⟩)
      · rfl

end Sound

end Host

end ContextServer
