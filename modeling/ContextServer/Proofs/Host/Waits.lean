import Mathlib.Data.List.Nodup
import ContextServer.Proofs.Host.Lifecycle

/-!
# Waits

What bears on the waits of a host: of every session, which requests to its client are not
answered, whether it is over and whether its opener let go of it; and of the host, how many
requests were sent, the time and what came of waits (`Host.waits`). Stirs do not touch any
of it (`Host.Stir.waits_eq`).

Between two such states some waits end (`Waits.Ends`): they are taken out of the sessions,
and their callers are told, each once and nobody else. This composes
(`Waits.Ends.trans`), so an operation that ends the waits of many sessions is followed
session by session. It is shown of a response (`Host.ends_takeResponse`), of the time that
passes (`Host.ends_expire`) and of the end of sessions (`Host.ends_close`,
`Host.ends_closeEach`).
-/

namespace ContextServer

/-- How a wait ends. -/
abbrev Ending := Except Failure Json

/-- A request to the client of a session, and how the wait for its answer ended, if it
    did. -/
structure Wait where
  session : Nat
  pending : Pending
  ending : Option Ending := none

namespace Wait

/-- The wait has not ended. -/
def isOpen (w : Wait) : Bool := w.ending.isNone

/-- What the caller is told, if there is one and the wait ended. -/
def settlement? (w : Wait) : Option Settlement :=
  if w.pending.waiter = .nobody then none
  else w.ending.map fun outcome => { id := w.pending.id, outcome }

end Wait

/-- What of a session bears on its waits. -/
structure Standing where
  /-- The requests that are not answered. -/
  pending : List Pending := []
  /-- The session is over. -/
  isOver : Bool := false
  /-- Its opener let go of it. -/
  isReleased : Bool := false

/-- What of a session bears on its waits. -/
def Session.standing (s : Session) : Standing :=
  { pending := s.pending, isOver := s.state = .closed, isReleased := s.isReleased }

/-- What of a host bears on its waits. -/
@[ext]
structure Waits where
  /-- What of every session does; of one that does not exist nothing does. -/
  standing : Nat → Standing
  /-- How many requests were sent. -/
  issued : Nat
  /-- The time. -/
  now : Nat
  /-- What came of waits and was not collected. -/
  settled : List Settlement

/-! ## The end of waits -/

namespace Waits

variable {v v' v'' : Waits} {how how' : Nat → Pending → Option Ending}

/-- The requests to the client of a session that are not answered. -/
def pending (v : Waits) (i : Nat) : List Pending := (v.standing i).pending

/-- No request is waited for twice, and nothing in a session that is over; nobody let go
    of a session. -/
structure IsOrderly (v : Waits) : Prop where
  nodup : ∀ i, ((v.pending i).map (·.id)).Nodup
  finished : ∀ i, (v.standing i).isOver = true → v.pending i = []
  held : ∀ i, (v.standing i).isReleased = false

/-- Some waits ended, in the ways that are told. -/
structure Ends (v v' : Waits) (how : Nat → Pending → Option Ending) : Prop where
  pending : ∀ i, v'.pending i = (v.pending i).filter fun p => (how i p).isNone
  held : ∀ i, (v'.standing i).isReleased = (v.standing i).isReleased
  issued : v'.issued = v.issued
  now : v'.now = v.now
  settled : ∃ ws : List Wait, ws.Nodup ∧
    (∀ w, w ∈ ws ↔ w.pending ∈ v.pending w.session ∧
      w.isOpen = false ∧ how w.session w.pending = w.ending) ∧
    v'.settled = v.settled ++ ws.filterMap Wait.settlement?

theorem Ends.refl (v : Waits) : v.Ends v fun _ _ => none where
  pending i := (List.filter_eq_self.2 fun _ _ => rfl).symm
  held _ := rfl
  issued := rfl
  now := rfl
  settled := by
    refine ⟨[], List.nodup_nil, fun w => ⟨nofun, fun ⟨_, hopen, hnone⟩ => ?_⟩, by simp⟩
    rw [Wait.isOpen, ← hnone] at hopen
    cases hopen

/-- Only the waits that there are matter. -/
theorem Ends.congr (h : v.Ends v' how) (heq : ∀ i, ∀ p ∈ v.pending i, how i p = how' i p) :
    v.Ends v' how' where
  pending i := (h.pending i).trans (List.filter_congr fun p hp => by rw [heq i p hp])
  held := h.held
  issued := h.issued
  now := h.now
  settled := by
    obtain ⟨ws, hnodup, hmem, hsettled⟩ := h.settled
    refine ⟨ws, hnodup, fun w => (hmem w).trans ?_, hsettled⟩
    exact and_congr_right fun hw => by rw [heq w.session w.pending hw]

/-- First these waits end, then those. -/
theorem Ends.trans (h : v.Ends v' how) (h' : v'.Ends v'' how') :
    v.Ends v'' fun i p => (how i p).or (how' i p) where
  pending i := by
    rw [h'.pending, h.pending, List.filter_filter]
    refine List.filter_congr fun p _ => ?_
    cases how i p <;> simp
  held i := (h'.held i).trans (h.held i)
  issued := h'.issued.trans h.issued
  now := h'.now.trans h.now
  settled := by
    obtain ⟨ws, hnodup, hmem, hsettled⟩ := h.settled
    obtain ⟨ws', hnodup', hmem', hsettled'⟩ := h'.settled
    have hlater (w : Wait) : w ∈ ws' ↔ w.pending ∈ v.pending w.session ∧
        how w.session w.pending = none ∧ w.isOpen = false ∧
        how' w.session w.pending = w.ending := by
      rw [hmem', h.pending, List.mem_filter, Option.isNone_iff_eq_none, and_assoc]
    refine ⟨ws ++ ws', List.nodup_append.2 ⟨hnodup, hnodup', ?_⟩, fun w => ?_, ?_⟩
    · -- What ended earlier is not there to end again.
      rintro w hw _ hw' rfl
      obtain ⟨-, hopen, hhow⟩ := (hmem w).1 hw
      rw [Wait.isOpen, ← hhow, ((hlater w).1 hw').2.1] at hopen
      cases hopen
    · rw [List.mem_append, hmem, hlater]
      cases hw : how w.session w.pending with
      | none =>
        have hne : w.isOpen = false → none ≠ w.ending := by
          intro hopen hnone
          rw [Wait.isOpen, ← hnone] at hopen
          cases hopen
        simp only [Option.none_or, true_and]
        exact ⟨fun h => h.elim (fun h => absurd h.2.2 (hne h.2.1)) fun h => h, .inr⟩
      | some outcome => simp
    · rw [hsettled', hsettled, List.filterMap_append, List.append_assoc]

/-- A wait is as single afterwards as it was. -/
theorem Ends.nodup (h : v.Ends v' how) {i : Nat} (hv : ((v.pending i).map (·.id)).Nodup) :
    ((v'.pending i).map (·.id)).Nodup := by
  rw [h.pending]
  exact (List.filter_sublist.map _).nodup hv

end Waits

/-! ## The waits of a host -/

/-- What a caller is told at the end of a wait, if there is one. -/
def Pending.settlement? (p : Pending) (outcome : Ending) : Option Settlement :=
  if p.waiter = .nobody then none else some { id := p.id, outcome }

theorem Wait.settlement?_of_ending {i : Nat} {p : Pending} {outcome : Ending} :
    Wait.settlement? { session := i, pending := p, ending := some outcome } =
      p.settlement? outcome :=
  rfl

namespace Host

variable {h h' : Host} {i j : Nat} {s : Session} {p : Pending}

/-- What of a host bears on its waits. -/
def waits (h : Host) : Waits where
  standing i := (h.sessions[i]?.map Session.standing).getD {}
  issued := h.issued
  now := h.now
  settled := h.settled

theorem standing_of_session (hs : h.sessions[i]? = some s) :
    h.waits.standing i = s.standing := by
  simp only [waits, hs, Option.map_some, Option.getD_some]

theorem pending_of_session (hs : h.sessions[i]? = some s) : h.waits.pending i = s.pending := by
  rw [Waits.pending, standing_of_session hs, Session.standing]

theorem pending_of_none (hs : h.sessions[i]? = none) : h.waits.pending i = [] := by
  simp only [Waits.pending, waits, hs, Option.map_none, Option.getD_none]

/-- A session with waits exists. -/
theorem session_of_pending (hp : p ∈ h.waits.pending i) :
    ∃ s, h.sessions[i]? = some s ∧ p ∈ s.pending := by
  cases hs : h.sessions[i]? with
  | none =>
    rw [pending_of_none hs] at hp
    cases hp
  | some s =>
    rw [pending_of_session hs] at hp
    exact ⟨s, rfl, hp⟩

theorem standing_put (hs : h.sessions[i]? = some s) (s' : Session) (j : Nat) :
    (h.put i s').waits.standing j = if i = j then s'.standing else h.waits.standing j := by
  simp only [waits, getElem?_put hs]
  split <;> rfl

/-- A change to a session that bears on nothing of this. -/
theorem waits_put (hs : h.sessions[i]? = some s) {s' : Session}
    (hstanding : s'.standing = s.standing) : (h.put i s').waits = h.waits := by
  refine Waits.ext (funext fun j => ?_) rfl rfl rfl
  rw [standing_put hs, hstanding, ← standing_of_session hs]
  split
  · next hij => rw [hij]
  · rfl

/-- Stirs do not touch waits. -/
theorem Stir.waits_eq (hm : Stir h h') : h'.waits = h.waits := by
  cases hm with
  | connect =>
    refine Waits.ext (funext fun i => ?_) rfl rfl rfl
    simp only [waits, getElem?_connect]
    split
    · next hi =>
      rw [List.getElem?_eq_none (Nat.le_of_eq hi)]
      rfl
    · rfl
  | session hs hstate => exact waits_put hs (by simp only [Session.standing, hstate])
  | link hs => exact waits_put hs rfl
  | cut hs => exact waits_put hs rfl
  | subscribed | unsubscribed | registry => rfl

theorem Calm.waits_eq (hc : Calm h h') : h'.waits = h.waits := by
  induction hc with
  | refl => rfl
  | tail _ hm ih => exact hm.waits_eq.trans ih

/-! ### Telling callers -/

theorem settled_settle {outcome : Ending} :
    (h.settle p outcome).settled = h.settled ++ (p.settlement? outcome).toList := by
  rw [settle, Pending.settlement?]
  split
  · rw [Option.toList_none, List.append_nil]
  · rfl

theorem settled_settleAll {ps : List Pending} {outcome : Pending → Ending} :
    (h.settleAll ps outcome).settled =
      h.settled ++ ps.filterMap fun p => p.settlement? (outcome p) := by
  induction ps generalizing h with
  | nil => exact (List.append_nil _).symm
  | cons p ps ih =>
    change ((h.settle p (outcome p)).settleAll ps outcome).settled = _
    rw [ih, settled_settle, List.append_assoc]
    cases hp : p.settlement? (outcome p) <;> simp [hp]

theorem waits_settleAll {ps : List Pending} {outcome : Pending → Ending} :
    (h.settleAll ps outcome).waits =
      { h.waits with
        settled := h.settled ++ ps.filterMap fun p => p.settlement? (outcome p) } :=
  Waits.ext (settleAll_frame (g := fun h => h.waits.standing) fun _ _ => rfl)
    (settleAll_frame (g := Host.issued) fun _ _ => rfl)
    (settleAll_frame (g := Host.now) fun _ _ => rfl) settled_settleAll

/-! ### One wait -/

/-- A wait is taken out, and its caller is told. -/
theorem ends_dropPending (hs : h.sessions[i]? = some s) (hp : p ∈ s.pending)
    (hnodup : (s.pending.map (·.id)).Nodup) (outcome : Ending) :
    h.waits.Ends ((h.put i (s.dropPending p.id)).settle p outcome).waits
      fun j q => if i = j ∧ p = q then some outcome else none := by
  have hsame {q : Pending} (hq : q ∈ s.pending) : p = q ↔ q.id = p.id :=
    ⟨fun he => he ▸ rfl, fun hid => List.inj_on_of_nodup_map hnodup hp hq hid.symm⟩
  have hstanding (j : Nat) :
      ((h.put i (s.dropPending p.id)).settle p outcome).waits.standing j =
        if i = j then (s.dropPending p.id).standing else h.waits.standing j := by
    rw [← standing_put hs]
    exact congrArg (· j) (settle_frame (g := fun h => h.waits.standing) fun _ _ => rfl)
  refine ⟨fun j => ?_, fun j => ?_, settle_frame (g := Host.issued) fun _ _ => rfl,
    settle_frame (g := Host.now) fun _ _ => rfl,
    [{ session := i, pending := p, ending := some outcome }], List.nodup_singleton _,
    fun w => ?_, ?_⟩
  · rw [Waits.pending, hstanding]
    split
    · next hij =>
      subst hij
      rw [pending_of_session hs]
      refine List.filter_congr fun q hq => ?_
      by_cases hid : q.id = p.id <;> simp [hsame hq, hid]
    · next hij => simp [hij, Waits.pending]
  · rw [hstanding]
    split
    · next hij =>
      rw [← hij, standing_of_session hs]
      rfl
    · rfl
  · obtain ⟨j, q, ending⟩ := w
    rw [List.mem_singleton, Wait.mk.injEq]
    constructor
    · rintro ⟨rfl, rfl, rfl⟩
      rw [pending_of_session hs]
      exact ⟨hp, rfl, if_pos ⟨rfl, rfl⟩⟩
    · rintro ⟨-, hopen, hending⟩
      dsimp only at hending
      split at hending
      · next hjq => exact ⟨hjq.1.symm, hjq.2.symm, hending.symm⟩
      · subst hending
        cases hopen
  · change ((h.put i (s.dropPending p.id)).settle p outcome).settled = _
    rw [settled_settle, List.filterMap_cons, Wait.settlement?_of_ending]
    cases p.settlement? outcome <;> rfl

/-- A response ends the wait for it. -/
theorem ends_takeResponse (hnodup : ((h.waits.pending i).map (·.id)).Nodup) (r : Response) :
    h.waits.Ends (h.takeResponse i r).waits
      fun j p => if i = j ∧ r.id = some p.id then some r.outcome else none := by
  cases hs : h.sessions[i]? with
  | none =>
    simp only [takeResponse, hs]
    refine (Waits.Ends.refl _).congr fun j p hp => (if_neg ?_).symm
    rintro ⟨rfl, -⟩
    rw [pending_of_none hs] at hp
    cases hp
  | some s =>
    rw [pending_of_session hs] at hnodup
    cases hid : r.id with
    | none =>
      simp only [takeResponse, hs, hid]
      exact (Waits.Ends.refl _).congr fun j p _ => by simp
    | some id =>
      simp only [takeResponse, hs, hid]
      cases hfound : s.pending? id with
      | none =>
        refine (Waits.Ends.refl _).congr fun j p hp => (if_neg ?_).symm
        rintro ⟨rfl, hpid⟩
        rw [pending_of_session hs] at hp
        have hnot := List.find?_eq_none.1 hfound p hp
        exact hnot (beq_iff_eq.2 (Option.some.inj hpid).symm)
      | some p =>
        have hp : p ∈ s.pending := List.mem_of_find?_eq_some hfound
        have hpid : p.id = id :=
          beq_iff_eq.1 (List.find?_some (p := fun q : Pending => q.id == id) hfound)
        subst hpid
        refine (ends_dropPending hs hp hnodup r.outcome).congr fun j q hq => ?_
        by_cases hij : i = j
        · subst hij
          rw [pending_of_session hs] at hq
          have hsame : p = q ↔ p.id = q.id :=
            ⟨congrArg Pending.id, List.inj_on_of_nodup_map hnodup hp hq⟩
          simp [hsame]
        · simp [hij]

/-! ### Time -/

/-- The wait ends because its time is over. -/
def lapse (now : Nat) (p : Pending) : Option Ending :=
  if p.waiter.isLate now then some (.error (.timeout p.id)) else none

/-- A session that is held is not buried. -/
theorem bury_of_held (hheld : (h.waits.standing i).isReleased = false) : h.bury i = h := by
  rw [bury]
  split
  · rfl
  · next s hs =>
    rw [standing_of_session hs] at hheld
    have huse : h.inUse s = true := by
      rw [inUse, show s.isReleased = false from hheld]
      rfl
    rw [if_pos huse]

theorem ends_expireWait (hnodup : ((h.waits.pending i).map (·.id)).Nodup)
    (hheld : (h.waits.standing i).isReleased = false) (p : Pending) :
    h.waits.Ends (h.expireWait i p).waits
      fun j q => if i = j ∧ p = q then some (.error (.timeout q.id)) else none := by
  have hrefl (hp : p ∉ h.waits.pending i) : h.waits.Ends h.waits
      fun j q => if i = j ∧ p = q then some (.error (.timeout q.id)) else none := by
    refine (Waits.Ends.refl _).congr fun j q hq => (if_neg ?_).symm
    rintro ⟨rfl, rfl⟩
    exact hp hq
  cases hs : h.sessions[i]? with
  | none =>
    simp only [expireWait, hs]
    exact hrefl (by rw [pending_of_none hs]; exact List.not_mem_nil)
  | some s =>
    rw [pending_of_session hs] at hnodup
    simp only [expireWait, hs]
    split
    · next hp =>
      have hends := ends_dropPending hs hp hnodup (.error (.timeout p.id))
      rw [bury_of_held ((hends.held i).trans hheld)]
      refine hends.congr fun j q _ => ?_
      split
      · next hjq => rw [hjq.2]
      · rfl
    · next hp => exact hrefl (by rwa [pending_of_session hs])

/-- Waits of one session that are over end one after the other. -/
theorem ends_expireEach (ps : List Pending) (hnodup : ((h.waits.pending i).map (·.id)).Nodup)
    (hheld : (h.waits.standing i).isReleased = false) :
    h.waits.Ends (ps.foldl (fun h p => h.expireWait i p) h).waits
      fun j q => if i = j ∧ q ∈ ps then some (.error (.timeout q.id)) else none := by
  induction ps generalizing h with
  | nil => exact (Waits.Ends.refl _).congr fun j q _ => by simp
  | cons p ps ih =>
    have hfirst := ends_expireWait hnodup hheld p
    have hrest := ih (hfirst.nodup hnodup) ((hfirst.held i).trans hheld)
    refine (hfirst.trans hrest).congr fun j q _ => ?_
    by_cases hij : i = j <;> by_cases hpq : p = q <;> simp [hij, hpq, eq_comm (a := q)]

/-- The waits of a session whose time is over end. -/
theorem ends_expireSession (hnodup : ((h.waits.pending i).map (·.id)).Nodup)
    (hheld : (h.waits.standing i).isReleased = false) :
    h.waits.Ends (h.expireSession i).waits
      fun j q => if i = j then lapse h.now q else none := by
  cases hs : h.sessions[i]? with
  | none =>
    simp only [expireSession, hs]
    refine (Waits.Ends.refl _).congr fun j p hp => (if_neg ?_).symm
    rintro rfl
    rw [pending_of_none hs] at hp
    cases hp
  | some s =>
    simp only [expireSession, hs]
    refine (ends_expireEach (s.late h.now) hnodup hheld).congr fun j q hq => ?_
    by_cases hij : i = j
    · subst hij
      rw [pending_of_session hs] at hq
      have hlate : q ∈ s.late h.now ↔ q.waiter.isLate h.now = true := by
        rw [Session.late, List.mem_mergeSort, List.mem_filter, and_iff_right hq]
      simp [hlate, lapse]
    · simp [hij]

/-- The waits whose time is over end. -/
theorem ends_expire (hnodup : ∀ i, ((h.waits.pending i).map (·.id)).Nodup)
    (hheld : ∀ i, (h.waits.standing i).isReleased = false) :
    h.waits.Ends h.expire.waits fun _ q => lapse h.now q := by
  have heach (is : List Nat) : h.waits.Ends (is.foldl expireSession h).waits
      fun j q => if j ∈ is then lapse h.now q else none := by
    induction is generalizing h with
    | nil => exact (Waits.Ends.refl _).congr fun j q _ => by simp
    | cons i is ih =>
      have hfirst := ends_expireSession (hnodup i) (hheld i)
      have hrest := ih (fun j => hfirst.nodup (hnodup j)) fun j => (hfirst.held j).trans (hheld j)
      rw [show (h.expireSession i).now = h.now from hfirst.now] at hrest
      refine (hfirst.trans hrest).congr fun j q _ => ?_
      by_cases hij : i = j <;> cases lapse h.now q <;> simp [hij, eq_comm (a := j)]
  refine (heach (List.range h.sessions.length)).congr fun j q hq => if_pos ?_
  refine List.mem_range.2 (Nat.lt_of_not_le fun hj => ?_)
  rw [pending_of_none (List.getElem?_eq_none hj)] at hq
  cases hq

/-! ### The end of sessions -/

theorem waits_close {c : Closing} (hs : h.sessions[i]? = some s) (hstate : s.state ≠ .closed) :
    (h.close i c).waits =
      { h.waits with
        standing := fun j => if i = j then s.ended.standing else h.waits.standing j
        settled := h.settled ++ s.pending.filterMap (·.settlement? (.error .sessionClosed)) } := by
  simp only [close, hs, if_neg hstate]
  rw [calm_closeLink.waits_eq, waits_settleAll]
  exact Waits.ext (funext fun j => standing_put hs s.ended j) rfl rfl rfl

/-- The waits of a session that is closed fail. -/
theorem ends_close (ho : h.waits.IsOrderly) (i : Nat) (c : Closing) :
    h.waits.Ends (h.close i c).waits
      fun j _ => if i = j then some (.error .sessionClosed) else none := by
  have hrefl (hnone : h.waits.pending i = []) : h.waits.Ends h.waits
      fun j _ => if i = j then some (.error .sessionClosed) else none := by
    refine (Waits.Ends.refl _).congr fun j q hq => (if_neg ?_).symm
    rintro rfl
    rw [hnone] at hq
    cases hq
  cases hs : h.sessions[i]? with
  | none =>
    simp only [close, hs]
    exact hrefl (pending_of_none hs)
  | some s =>
    by_cases hstate : s.state = .closed
    · rw [close_of_closed hs hstate]
      refine hrefl (ho.finished i ?_)
      rw [standing_of_session hs]
      exact decide_eq_true hstate
    · have hnodup := ho.nodup i
      rw [pending_of_session hs] at hnodup
      rw [waits_close hs hstate]
      refine ⟨fun j => ?_, fun j => ?_, rfl, rfl,
        s.pending.map fun p =>
          { session := i, pending := p, ending := some (.error .sessionClosed) },
        hnodup.of_map.map fun p q hpq => (Wait.mk.inj hpq).2.1, fun w => ?_, ?_⟩
      · by_cases hij : i = j <;> simp [Waits.pending, hij, Session.standing, Session.ended]
      · by_cases hij : i = j
        · simp [← hij, standing_of_session hs, Session.standing, Session.ended]
        · simp [hij]
      · obtain ⟨j, q, ending⟩ := w
        rw [List.mem_map]
        constructor
        · rintro ⟨p, hp, he⟩
          obtain ⟨rfl, rfl, rfl⟩ := Wait.mk.inj he
          exact ⟨(pending_of_session hs).symm ▸ hp, rfl, if_pos rfl⟩
        · rintro ⟨hq, hopen, hending⟩
          dsimp only at hq hending
          split at hending
          · next hij =>
            subst hij hending
            exact ⟨q, pending_of_session hs ▸ hq, rfl⟩
          · subst hending
            cases hopen
      · rw [List.filterMap_map]
        rfl

theorem orderly_close (ho : h.waits.IsOrderly) (i : Nat) (c : Closing) :
    (h.close i c).waits.IsOrderly where
  nodup j := (ends_close ho i c).nodup (ho.nodup j)
  finished j hover := by
    rw [(ends_close ho i c).pending]
    by_cases hij : i = j
    · simp [hij]
    · have hsame : (h.close i c).waits.standing j = h.waits.standing j := by
        simp only [waits, close_ne hij]
      rw [hsame] at hover
      simp [hij, ho.finished j hover]
  held j := ((ends_close ho i c).held j).trans (ho.held j)

theorem ends_closeEach (ho : h.waits.IsOrderly) (is : List Nat) (c : Closing) :
    h.waits.Ends (h.closeEach is c).waits
      fun j _ => if j ∈ is then some (.error .sessionClosed) else none := by
  induction is generalizing h with
  | nil => exact (Waits.Ends.refl _).congr fun j q _ => by simp
  | cons i is ih =>
    refine ((ends_close ho i c).trans (ih (orderly_close ho i c))).congr fun j q _ => ?_
    by_cases hij : i = j <;> simp [hij, eq_comm (a := j)]

end Host

end ContextServer
