import ContextServer.Proofs.Host.Waits

/-!
# The ledger of requests to clients

What comes of the requests to clients in a run is written down in a *ledger*
(`Host.ledger`): every request whose message was sent, and beside it how the wait for its
answer ends, if it does (`Host.ending`). The first of the later events that can end it
does so (`Host.ending?`): a response with its identifier, with what it says; an event
after which its time is over; or one after which its session is.

The ledger knows nothing of how a host keeps its waits. All the same the host agrees with
it (`Host.correlation`): what is pending in a session is what is open in the ledger, and
what callers were told is what the ledger says, each once.

That this is so is carried along a run event by event. For it the ledger is read from the
front, as a list of entries that an event ends some of and adds one to (`Host.enter`,
`Host.ledgerFrom_eq`). It agrees with what bears on waits (`Waits.Kept`) before an event,
and then after it: if some waits end, in the ways the ledger tells (`Waits.Kept.ends`), and
if a request is sent (`Waits.Kept.asked`).
-/

namespace ContextServer

/-! ## Entries -/

/-- The response that an event brings to a request in a session. -/
def Event.response? (i : Nat) (id : RequestId) : Event → Option Response
  | .deliver j (.response r) => if j = i ∧ r.id = some id then some r else none
  | _ => none

/-- The event goes the ordinary way, and nobody lets go of a session. -/
def Event.isHeld : Event → Bool
  | .release _ => false
  | e => e.isOrdinary

namespace Wait

/-- The wait for the answer to a request, if it was sent. -/
def ofRequest (i : Nat) (waiter : Waiter) : Except Failure RequestId → Option Wait
  | .ok id => some { session := i, pending := { id, waiter } }
  | .error _ => none

/-- The wait after some ended in the ways that are told; one that had ended before stays
    as it is. -/
def endBy (how : Nat → Pending → Option Ending) (w : Wait) : Wait :=
  { w with ending := w.ending.or (how w.session w.pending) }

/-- The wait has not ended, and ends in the ways that are told. -/
def isEndedBy (how : Nat → Pending → Option Ending) (w : Wait) : Bool :=
  w.isOpen && (how w.session w.pending).isSome

end Wait

namespace Host

variable (h : Host)

/-- The session is over. -/
def isOver (i : Nat) : Bool := h.sessions[i]?.any fun s => s.state = .closed

/-- How an event ends the wait for a request in a session, if it does. -/
def ending? (e : Event) (i : Nat) (p : Pending) : Option Ending :=
  match e.response? i p.id with
  | some r => some r.outcome
  | none =>
    if p.waiter.isLate (h.step e).now then some (.error (.timeout p.id))
    else if (h.step e).isOver i then some (.error .sessionClosed)
    else none

/-- The request to a client that is sent at an event. -/
def issued? : Event → Option Wait
  | .request i method params waiter => Wait.ofRequest i waiter (h.request i method params waiter).1
  | .listRoots i => Wait.ofRequest i (.operation (h.now + answerTimeout)) (h.listRoots i).1
  | .createMessage i r =>
    Wait.ofRequest i (.operation (h.now + answerTimeout)) (h.createMessage i r).1
  | _ => none

/-- How the first event of a run that ends a wait does so. -/
def ending (h : Host) (i : Nat) (p : Pending) : List Event → Option Ending
  | [] => none
  | e :: es => (h.ending? e i p).or (ending (h.step e) i p es)

/-- The requests that are sent in a run, and how the waits for their answers end in it. -/
def ledger (h : Host) : List Event → List Wait
  | [] => []
  | e :: es =>
    ((h.issued? e).map (·.endBy fun i p => h.ending i p (e :: es))).toList ++
      ledger (h.step e) es

/-- What of the ends of waits is collected at an event. -/
def collected : Event → List Settlement
  | .collectSettled => h.settled
  | _ => []

/-- What callers are told in a run: what is collected, and what is there in the end. -/
def told (h : Host) : List Event → List Settlement
  | [] => h.settled
  | e :: es => h.collected e ++ told (h.step e) es

end Host

/-! ### Events one by one -/

namespace Wait

theorem endBy_none (w : Wait) : w.endBy (fun _ _ => none) = w := by
  rw [endBy, Option.or_none]

theorem endBy_endBy (w : Wait) (how how' : Nat → Pending → Option Ending) :
    (w.endBy how).endBy how' = w.endBy fun i p => (how i p).or (how' i p) := by
  simp only [endBy, Option.or_assoc]

/-- What does not end now stays as it is. -/
theorem endBy_eq_self {w : Wait} {how : Nat → Pending → Option Ending}
    (hw : w.isEndedBy how = false) : w.endBy how = w := by
  obtain ⟨i, p, ending⟩ := w
  cases ending with
  | none =>
    have hnone : how i p = none := by simpa [isEndedBy, isOpen] using hw
    rw [endBy, hnone]
    rfl
  | some outcome => rfl

theorem settlement?_of_isOpen {w : Wait} (hw : w.isOpen = true) : w.settlement? = none := by
  rw [isOpen, Option.isNone_iff_eq_none] at hw
  rw [settlement?, hw, Option.map_none, ite_self]

/-- Callers are told of no identifier twice, if there is none twice in the ledger. -/
theorem ids_settlement? (ledger : List Wait) :
    ((ledger.filterMap settlement?).map (·.id)).Sublist (ledger.map (·.pending.id)) := by
  induction ledger with
  | nil => exact .refl _
  | cons w ws ih =>
    cases hw : w.settlement? with
    | none =>
      rw [List.filterMap_cons_none hw]
      exact ih.cons _
    | some x =>
      have hid : x.id = w.pending.id := by
        rw [settlement?] at hw
        split at hw
        · cases hw
        · obtain ⟨outcome, -, rfl⟩ := Option.map_eq_some_iff.1 hw
          rfl
      rw [List.filterMap_cons_some hw, List.map_cons, List.map_cons, hid]
      exact ih.cons_cons _

end Wait

namespace Host

variable (h : Host)

/-- The ledger after an event. -/
def enter (ledger : List Wait) (e : Event) : List Wait :=
  (ledger ++ (h.issued? e).toList).map (·.endBy (h.ending? e))

/-- The ledger after a run, from the ledger before it. -/
def ledgerFrom (h : Host) (ledger : List Wait) : List Event → List Wait
  | [] => ledger
  | e :: es => ledgerFrom (h.step e) (h.enter ledger e) es

/-- What was entered before a run ends in it, and what is sent in it is added. -/
theorem ledgerFrom_eq (entries : List Wait) (es : List Event) :
    h.ledgerFrom entries es =
      entries.map (·.endBy fun i p => h.ending i p es) ++ h.ledger es := by
  induction es generalizing h entries with
  | nil =>
    simp only [ledgerFrom, ending, ledger, Wait.endBy_none, List.map_id', List.append_nil]
  | cons e es ih =>
    rw [ledgerFrom, ih, enter, ledger, List.map_map, List.map_append, List.append_assoc]
    simp only [Function.comp_def, Wait.endBy_endBy, ending]
    cases h.issued? e <;> rfl

end Host

/-! ## The ledger and what is pending -/

namespace Waits

variable {naming : Naming} {v v' : Waits} {how : Nat → Pending → Option Ending}
  {ledger : List Wait} {told : List Settlement}

/-- The ledger agrees with what is pending, and with what callers were told. -/
structure Kept (naming : Naming) (v : Waits) (ledger : List Wait) (told : List Settlement) :
    Prop where
  /-- No identifier occurs twice. -/
  nodup : (ledger.map (·.pending.id)).Nodup
  /-- The identifiers are those of the requests that were sent. -/
  numbered : ∀ w ∈ ledger, ∃ n < v.issued, w.pending.id = .text (naming.request n)
  /-- Pending is what is open in the ledger. -/
  pending : ∀ i, v.pending i =
    (ledger.filter fun w => w.session = i && w.isOpen).map (·.pending)
  /-- Callers were told what the ledger says. -/
  told : told.Perm (ledger.filterMap Wait.settlement?)

theorem kept_nil (hv : ∀ i, v.pending i = []) : v.Kept naming [] [] :=
  ⟨List.nodup_nil, fun _ hw => absurd hw List.not_mem_nil, hv, .refl _⟩

theorem Kept.mem_pending (hk : v.Kept naming ledger told) {i : Nat} {p : Pending} :
    p ∈ v.pending i ↔ ∃ w ∈ ledger, w.session = i ∧ w.isOpen = true ∧ w.pending = p := by
  simp [hk.pending, and_assoc]

/-- In no session a request is waited for twice. -/
theorem Kept.nodup_pending (hk : v.Kept naming ledger told) (i : Nat) :
    ((v.pending i).map (·.id)).Nodup := by
  rw [hk.pending, List.map_map]
  exact (List.filter_sublist.map _).nodup hk.nodup

/-- Of the entries that end, the ledger says afterwards what is told of them; of the others
    it says what it said before. -/
theorem perm_settlement?_endBy (ledger : List Wait) (how : Nat → Pending → Option Ending) :
    (ledger.filterMap Wait.settlement? ++
        ((ledger.filter (·.isEndedBy how)).map (·.endBy how)).filterMap Wait.settlement?).Perm
      ((ledger.map (·.endBy how)).filterMap Wait.settlement?) := by
  have hsplit (f : Wait → Option Settlement) :
      (ledger.filterMap f).Perm ((ledger.filter (·.isEndedBy how)).filterMap f ++
        (ledger.filter fun w => !w.isEndedBy how).filterMap f) := by
    rw [← List.filterMap_append]
    exact ((List.filter_append_perm (·.isEndedBy how) ledger).filterMap f).symm
  -- Nothing was said of what ends now; of what does not, the same is said as before.
  have hopen : (ledger.filter (·.isEndedBy how)).filterMap Wait.settlement? = [] :=
    List.filterMap_eq_nil_iff.2 fun w hw =>
      Wait.settlement?_of_isOpen (Bool.and_eq_true_iff.1 (List.mem_filter.1 hw).2).1
  have hstays : (ledger.filter fun w => !w.isEndedBy how).filterMap
      (fun w => (w.endBy how).settlement?) =
      (ledger.filter fun w => !w.isEndedBy how).filterMap Wait.settlement? :=
    List.filterMap_congr fun w hw => congrArg Wait.settlement?
      (Wait.endBy_eq_self (Bool.not_eq_true' _ ▸ (List.mem_filter.1 hw).2))
  have hbefore := hsplit Wait.settlement?
  rw [hopen, List.nil_append] at hbefore
  have hafter := hsplit fun w => (w.endBy how).settlement?
  rw [hstays] at hafter
  rw [List.filterMap_map, List.filterMap_map]
  exact (hbefore.append_right _).trans (List.perm_append_comm.trans hafter.symm)

/-- The waits that ended are the entries that end. -/
theorem Kept.perm_ended (hk : v.Kept naming ledger told) {ws : List Wait} (hnodup : ws.Nodup)
    (hmem : ∀ w, w ∈ ws ↔ w.pending ∈ v.pending w.session ∧
      w.isOpen = false ∧ how w.session w.pending = w.ending) :
    ws.Perm ((ledger.filter (·.isEndedBy how)).map (·.endBy how)) := by
  refine (List.perm_ext_iff_of_nodup hnodup ?_).2 fun w => ?_
  · refine List.Nodup.of_map (·.pending.id) ?_
    rw [List.map_map]
    exact (List.filter_sublist.map _).nodup hk.nodup
  · rw [hmem, hk.mem_pending, List.mem_map]
    constructor
    · rintro ⟨⟨⟨i, p, ending⟩, hu, rfl, huopen, rfl⟩, hopen, hhow⟩
      obtain rfl : ending = none := Option.isNone_iff_eq_none.1 huopen
      refine ⟨_, List.mem_filter.2 ⟨hu, ?_⟩, ?_⟩
      · rw [Wait.isEndedBy, huopen, hhow, ← Option.not_isNone]
        exact Bool.not_eq_true' _ ▸ hopen
      · rw [Wait.endBy, Option.none_or, hhow]
    · rintro ⟨u, hu, rfl⟩
      obtain ⟨hu, hends⟩ := List.mem_filter.1 hu
      obtain ⟨huopen, hsome⟩ := Bool.and_eq_true_iff.1 hends
      obtain ⟨outcome, houtcome⟩ := Option.isSome_iff_exists.1 hsome
      have hnone : u.ending = none := Option.isNone_iff_eq_none.1 huopen
      refine ⟨⟨u, hu, rfl, huopen, rfl⟩, ?_, ?_⟩
      · simp [Wait.endBy, Wait.isOpen, houtcome]
      · simp [Wait.endBy, hnone]

/-- The ledger agrees with waits that end. -/
theorem Kept.ends (hk : v.Kept naming ledger told) (he : v.Ends v' how) :
    ∃ later, v'.settled = v.settled ++ later ∧
      v'.Kept naming (ledger.map (·.endBy how)) (told ++ later) := by
  obtain ⟨ws, hnodup, hmem, hsettled⟩ := he.settled
  refine ⟨_, hsettled, ?_, fun w hw => ?_, fun i => ?_, ?_⟩
  · rw [List.map_map]
    exact hk.nodup
  · obtain ⟨u, hu, rfl⟩ := List.mem_map.1 hw
    rw [he.issued]
    exact hk.numbered u hu
  · rw [he.pending, hk.pending, List.filter_map, List.filter_map, List.map_map,
      List.filter_filter]
    refine congrArg (List.map _) (List.filter_congr fun w _ => ?_)
    by_cases hi : w.session = i
    · subst hi
      cases hw : w.ending <;> simp [Wait.endBy, Wait.isOpen, hw]
    · simp [Wait.endBy, hi]
  · have hended := (hk.perm_ended hnodup hmem).filterMap Wait.settlement?
    exact (hk.told.append hended).trans (perm_settlement?_endBy ledger how)

/-- What bears on waits after a request was sent. -/
def asked (v : Waits) (w : Wait) : Waits :=
  { v with
    standing := fun i =>
      if w.session = i then { v.standing i with pending := v.pending i ++ [w.pending] }
      else v.standing i
    issued := v.issued + 1 }

/-- A request that was sent is entered; its identifier is a new one. -/
theorem Kept.asked (hk : v.Kept naming ledger told) {w : Wait} (hopen : w.isOpen = true)
    (hid : w.pending.id = .text (naming.request v.issued)) :
    (v.asked w).Kept naming (ledger ++ [w]) told where
  nodup := by
    rw [List.map_append, List.nodup_append]
    refine ⟨hk.nodup, List.nodup_singleton _, ?_⟩
    -- An identifier that is there has a number below that of the request.
    intro id hu id' hw he
    obtain ⟨u, hu, hid'⟩ := List.mem_map.1 hu
    obtain ⟨n, hn, hnumber⟩ := hk.numbered u hu
    have hfresh : RequestId.text (naming.request n) = .text (naming.request v.issued) := by
      rw [← hnumber, ← hid, hid', he, List.mem_singleton.1 hw]
    exact Nat.ne_of_lt hn (naming.request_injective _ _ (RequestId.text.inj hfresh))
  numbered u hu := by
    rcases List.mem_append.1 hu with hu | hu
    · obtain ⟨n, hn, hnumber⟩ := hk.numbered u hu
      exact ⟨n, Nat.lt_succ_of_lt hn, hnumber⟩
    · obtain rfl := List.mem_singleton.1 hu
      exact ⟨v.issued, Nat.lt_succ_self _, hid⟩
  pending i := by
    rw [List.filter_append, List.map_append, ← hk.pending]
    by_cases hi : w.session = i
    · simp [Waits.pending, Waits.asked, hi, hopen]
    · simp [Waits.pending, Waits.asked, hi]
  told := by
    rw [List.filterMap_append, List.filterMap_cons, Wait.settlement?_of_isOpen hopen,
      List.filterMap_nil, List.append_nil]
    exact hk.told

end Waits

/-! ## Events -/

namespace Host

variable {h : Host} {e : Event} {i : Nat} {p : Pending} {c : Closing}

/-- Nothing is waited for in vain: not in a session that is over, and not beyond its
    time. -/
structure IsCurrent (h : Host) : Prop extends h.waits.IsOrderly where
  timely : ∀ i, ∀ p ∈ h.waits.pending i, p.waiter.isLate h.now = false

/-- The states of sessions do not show what they are used for. -/
theorem blindToUse_states : BlindToUse (view (·.state)) :=
  blindToUse_view ⟨fun _ _ => rfl, fun _ _ => rfl, fun _ _ => rfl, fun _ _ => rfl⟩

theorem isOver_of_view {h' : Host} (hstates : h'.view (·.state) = h.view (·.state)) (i : Nat) :
    h'.isOver i = h.isOver i := by
  have hview (h : Host) : h.isOver i = (h.view (·.state))[i]?.any fun state => state = .closed := by
    rw [isOver, view_getElem?, Option.any_map]
  rw [hview, hview, hstates]

theorem isOver_eq (h : Host) (i : Nat) : h.isOver i = (h.waits.standing i).isOver := by
  simp only [isOver, waits]
  cases h.sessions[i]? <;> rfl

/-- In a session that is not over, waits end by responses and when their time is over. -/
theorem ending?_eq_lapse (hresponse : e.response? i p.id = none)
    (hover : (h.step e).isOver i = false) : h.ending? e i p = lapse (h.step e).now p := by
  rw [ending?, hresponse, hover]
  rfl

namespace IsCurrent

variable (hc : h.IsCurrent)

include hc

theorem not_isOver (hp : p ∈ h.waits.pending i) : h.isOver i = false := by
  rw [isOver_eq]
  cases hover : (h.waits.standing i).isOver with
  | false => rfl
  | true =>
    rw [hc.finished i hover] at hp
    cases hp

/-- While no time passes, waits end by responses and with their sessions. -/
theorem ending?_eq (hp : p ∈ h.waits.pending i) (hnow : (h.step e).now = h.now) :
    h.ending? e i p =
      match e.response? i p.id with
      | some r => some r.outcome
      | none => if (h.step e).isOver i then some (.error .sessionClosed) else none := by
  rw [ending?, hnow, hc.timely i p hp]
  rfl

/-- An event that does not touch waits ends none. -/
theorem ends_of_eq (hwaits : (h.step e).waits = h.waits)
    (hresponse : ∀ i, ∀ p ∈ h.waits.pending i, e.response? i p.id = none) :
    h.waits.Ends (h.step e).waits (h.ending? e) := by
  rw [hwaits]
  refine (Waits.Ends.refl _).congr fun i p hp => ?_
  have hover : (h.step e).isOver i = false := by
    rw [isOver_eq, hwaits, ← isOver_eq]
    exact hc.not_isOver hp
  rw [hc.ending?_eq hp (congrArg Waits.now hwaits), hresponse i p hp, hover]
  rfl

/-- An event that closes some sessions ends the waits in them. -/
theorem ends_of_closeEach {is : List Nat} (hstep : h.step e = h.closeEach is c)
    (hresponse : ∀ i, ∀ p ∈ h.waits.pending i, e.response? i p.id = none) :
    h.waits.Ends (h.step e).waits (h.ending? e) := by
  have hends := ends_closeEach hc.toIsOrderly is c
  rw [← hstep] at hends
  refine hends.congr fun i p hp => ?_
  rw [hc.ending?_eq hp hends.now, hresponse i p hp]
  split
  · next hi =>
    obtain ⟨s, hs, -⟩ := session_of_pending hp
    obtain ⟨s', hs', hstate⟩ := closed_closeEach (c := c) hi hs
    have hover : (h.step e).isOver i = true := by
      rw [isOver, hstep, hs', Option.any_some]
      exact decide_eq_true hstate
    rw [hover]
    rfl
  · next hi =>
    have hover : (h.step e).isOver i = false := by
      rw [isOver, hstep, closeEach_ne hi]
      exact hc.not_isOver hp
    rw [hover]
    rfl

/-- A response ends the wait for it. -/
theorem ends_response (j : Nat) (r : Response) :
    h.waits.Ends (h.step (.deliver j (.response r))).waits
      (h.ending? (.deliver j (.response r))) := by
  have hidle (hstep : h.step (.deliver j (.response r)) = h) (hnone : h.waits.pending j = []) :
      h.waits.Ends (h.step (.deliver j (.response r))).waits
        (h.ending? (.deliver j (.response r))) := by
    refine hc.ends_of_eq (congrArg Host.waits hstep) fun i p hp => if_neg ?_
    rintro ⟨rfl, -⟩
    rw [hnone] at hp
    cases hp
  cases hs : h.sessions[j]? with
  | none => exact hidle (by simp only [step, deliver, hs]) (pending_of_none hs)
  | some s =>
    by_cases hstate : s.state = .closed
    · refine hidle (by rw [step, deliver_of_closed hs hstate]) (hc.finished j ?_)
      rw [standing_of_session hs]
      exact decide_eq_true hstate
    · have hstep : h.step (.deliver j (.response r)) = h.takeResponse j r := by
        simp only [step, deliver, hs, if_neg hstate]
      have hends := ends_takeResponse (hc.nodup j) r
      rw [← hstep] at hends
      refine hends.congr fun i p hp => ?_
      have hover : (h.step (.deliver j (.response r))).isOver i = false := by
        rw [hstep, isOver_of_view blindToUse_states.takeResponse]
        exact hc.not_isOver hp
      rw [hc.ending?_eq hp hends.now, hover, Event.response?]
      split <;> rfl

/-- A message that a client sends ends what it answers, or what its session waits for. -/
theorem ends_deliver (j : Nat) (m : Message) :
    h.waits.Ends (h.step (.deliver j m)).waits (h.ending? (.deliver j m)) := by
  cases m with
  | response r => exact hc.ends_response j r
  | request r =>
    refine hc.ends_of_eq ?_ fun _ _ _ => rfl
    rw [step]
    unfold deliver
    split
    · rfl
    · next s hs =>
      split
      · rfl
      · next hstate => exact (calm_takeRequest hs hstate).waits_eq
  | notification n =>
    have hcases : Calm h (h.deliver j (.notification n)) ∨
        h.deliver j (.notification n) = h.closeEach [j] .abrupt := by
      unfold deliver
      split
      · exact .inl .refl
      · split
        · exact .inl .refl
        · dsimp only [takeNotification]
          split
          · exact .inl calm_confirm
          · split
            · exact .inr rfl
            · exact .inl .refl
    rcases hcases with hcalm | hclose
    · exact hc.ends_of_eq hcalm.waits_eq fun _ _ _ => rfl
    · exact hc.ends_of_closeEach hclose fun _ _ _ => rfl

theorem ends_advance (milliseconds : Nat) :
    Waits.Ends { h.waits with now := h.now + milliseconds }
      (h.step (.advance milliseconds)).waits (h.ending? (.advance milliseconds)) := by
  let later : Host := { h with now := h.now + milliseconds }
  have hends : later.waits.Ends later.expire.waits fun _ p => lapse later.now p :=
    ends_expire hc.nodup hc.held
  refine hends.congr fun i p hp => ?_
  have hstates : later.expire.view (·.state) = later.view (·.state) := blindToUse_states.expire
  have hover : later.expire.isOver i = false := (isOver_of_view hstates i).trans (hc.not_isOver hp)
  rw [ending?_eq_lapse (e := .advance milliseconds) rfl hover]
  exact congrArg (lapse · p) hends.now.symm

end IsCurrent

/-! ### Requests -/

/-- A wait is added to those of a session. -/
theorem waits_add {s : Session} (hs : h.sessions[i]? = some s) (p : Pending) :
    Host.waits { h.put i { s with pending := s.pending ++ [p] } with issued := h.issued + 1 } =
      h.waits.asked { session := i, pending := p } := by
  refine Waits.ext (funext fun j => (standing_put hs _ j).trans ?_) rfl rfl rfl
  dsimp only [Waits.asked]
  split
  · next hij =>
    subst hij
    rw [pending_of_session hs, standing_of_session hs]
    rfl
  · rfl

/-- A request is sent, and then the time is looked at; or it is not sent, and nothing
    bears on waits. -/
theorem request_cases (h : Host) (i : Nat) (method : String) (params : Option Json)
    (waiter : Waiter) :
    (∃ e, (h.request i method params waiter).1 = .error e ∧
      (h.request i method params waiter).2.waits = h.waits) ∨
    h.isOver i = false ∧ ∃ k : Host,
      k.waits = h.waits.asked
        { session := i, pending := { id := .text (h.naming.request h.issued), waiter } } ∧
      k.view (·.state) = h.view (·.state) ∧
      h.request i method params waiter = (.ok (.text (h.naming.request h.issued)), k.expire) := by
  rw [request]
  split
  · exact .inl ⟨_, rfl, rfl⟩
  · next s hs =>
    split
    · exact .inl ⟨_, rfl, rfl⟩
    · next hstate =>
      dsimp only
      let m : Message := .request { id := .text (h.naming.request h.issued), method, params }
      have hwaits : (h.send i m).2.waits = h.waits := calm_send.waits_eq
      have hstates : (h.send i m).2.view (·.state) = h.view (·.state) := blindToUse_states.send
      have hsent := getElem?_send (m := m) hs
      split
      · next hsend =>
        rw [hsend] at hwaits
        exact .inl ⟨_, rfl, hwaits⟩
      · next h₁ hsend =>
        rw [hsend] at hwaits hsent hstates
        dsimp only at hwaits hsent hstates
        refine .inr ⟨?_, _, ?_, ?_, rfl⟩
        · rw [isOver, hs, Option.any_some]
          exact decide_eq_false hstate
        · rw [← hwaits]
          simp only [change, hsent]
          exact waits_add hsent _
        · simp only [change, hsent]
          exact (blindToUse_states.pending h₁ i _ _ hsent).trans hstates

/-! ## Runs -/

/-- The ledger and what callers were told before agree with the host, in which nothing is
    waited for in vain. -/
structure Correlates (h : Host) (ledger : List Wait) (before : List Settlement) : Prop where
  current : h.IsCurrent
  kept : h.waits.Kept h.naming ledger (before ++ h.settled)

variable {ledger : List Wait} {before : List Settlement}

/-- Some waits ended at an event, and what is left is waited for with good reason. -/
theorem correlates_of_ends {v : Waits} (hk : v.Kept h.naming ledger (before ++ v.settled))
    (hheld : ∀ i, (v.standing i).isReleased = false)
    (he : v.Ends (h.step e).waits (h.ending? e)) :
    (h.step e).Correlates (ledger.map (·.endBy (h.ending? e))) before := by
  obtain ⟨later, hlater, hkept⟩ := hk.ends he
  have hleft {i : Nat} {p : Pending} (hp : p ∈ (h.step e).waits.pending i) :
      h.ending? e i p = none := by
    rw [he.pending] at hp
    exact Option.isNone_iff_eq_none.1 (List.mem_filter.1 hp).2
  refine ⟨⟨⟨hkept.nodup_pending, fun i hover => ?_, fun i => (he.held i).trans (hheld i)⟩,
    fun i p hp => ?_⟩, ?_⟩
  · -- In a session that is over, every wait would have ended at the event.
    refine List.eq_nil_iff_forall_not_mem.2 fun p hp => ?_
    have hnone := hleft hp
    rw [← isOver_eq] at hover
    rw [ending?, hover] at hnone
    split at hnone
    · cases hnone
    · split at hnone <;> cases hnone
  · have hnone := hleft hp
    rw [ending?] at hnone
    split at hnone
    · cases hnone
    · split at hnone
      · cases hnone
      · next hlate => exact Bool.eq_false_iff.2 hlate
  · have hnaming : (h.step e).naming = h.naming := congrArg (·.2.1) (constants_step e)
    rw [hnaming, show (h.step e).settled = v.settled ++ later from hlater, ← List.append_assoc]
    exact hkept

namespace Correlates

variable (hc : h.Correlates ledger before)

include hc

/-- An event at which no request is sent. -/
theorem step_of_ends (he : h.waits.Ends (h.step e).waits (h.ending? e))
    (hissued : h.issued? e = none) : (h.step e).Correlates (h.enter ledger e) before := by
  rw [enter, hissued, Option.toList_none, List.append_nil]
  exact correlates_of_ends hc.kept hc.current.held he

theorem step_request {method : String} {params : Option Json} {waiter : Waiter}
    (hstep : h.step e = (h.request i method params waiter).2)
    (hissued : h.issued? e = Wait.ofRequest i waiter (h.request i method params waiter).1)
    (hresponse : ∀ i id, e.response? i id = none) :
    (h.step e).Correlates (h.enter ledger e) before := by
  rcases h.request_cases i method params waiter with
    ⟨error, herror, hwaits⟩ | ⟨hover, k, hk, hstates, hrequest⟩
  · refine hc.step_of_ends (hc.current.ends_of_eq ?_ fun i p _ => hresponse i p.id) ?_
    · rw [hstep, hwaits]
    · rw [hissued, herror, Wait.ofRequest]
  · rw [enter, hissued, hrequest, Wait.ofRequest, Option.toList_some]
    rw [hrequest] at hstep
    dsimp only at hstep
    let w : Wait := { session := i, pending := ⟨.text (h.naming.request h.issued), waiter⟩ }
    have hasked := hc.kept.asked (w := w) rfl rfl
    rw [← hk] at hasked
    have hheld (j : Nat) : (k.waits.standing j).isReleased = false := by
      rw [hk]
      dsimp only [Waits.asked]
      split <;> exact hc.current.held j
    have hends := ends_expire hasked.nodup_pending hheld
    have hover' (j : Nat) (p : Pending) (hp : p ∈ k.waits.pending j) :
        k.expire.isOver j = false := by
      have hstates' : k.expire.view (·.state) = h.view (·.state) :=
        blindToUse_states.expire.trans hstates
      rw [isOver_of_view hstates']
      rw [hk, Waits.pending, Waits.asked] at hp
      dsimp only at hp
      split at hp
      · next hij => exact hij ▸ hover
      · exact hc.current.not_isOver hp
    rw [← hstep] at hends hover'
    refine correlates_of_ends (v := k.waits) ?_ hheld (hends.congr fun j p hp => ?_)
    · rw [show k.waits.settled = h.settled from congrArg Waits.settled hk]
      exact hasked
    · rw [ending?_eq_lapse (hresponse j p.id) (hover' j p hp)]
      exact congrArg (lapse · p) hends.now.symm

/-- The end of waits is looked at; it stays what it was. -/
theorem step_collectSettled :
    (h.step .collectSettled).Correlates (h.enter ledger .collectSettled) (before ++ h.settled) := by
  have hsame : h.waits.Ends h.waits (h.ending? .collectSettled) := by
    refine (Waits.Ends.refl _).congr fun i p hp => ?_
    rw [hc.current.ending?_eq hp rfl]
    exact (if_neg (Bool.eq_false_iff.1 (hc.current.not_isOver hp))).symm
  obtain ⟨later, hlater, hkept⟩ := hc.kept.ends hsame
  obtain rfl : later = [] := List.append_right_eq_self.1 hlater.symm
  rw [enter, show h.issued? .collectSettled = none from rfl, Option.toList_none, List.append_nil]
  exact ⟨⟨⟨hc.current.nodup, hc.current.finished, hc.current.held⟩, hc.current.timely⟩,
    hkept.nodup, hkept.numbered, hkept.pending, hkept.told⟩

theorem step_advance (milliseconds : Nat) :
    (h.step (.advance milliseconds)).Correlates (h.enter ledger (.advance milliseconds))
      before := by
  rw [enter, show h.issued? (.advance milliseconds) = none from rfl, Option.toList_none,
    List.append_nil]
  refine correlates_of_ends (v := { h.waits with now := h.now + milliseconds }) ?_
    hc.current.held (hc.current.ends_advance milliseconds)
  exact ⟨hc.kept.nodup, hc.kept.numbered, hc.kept.pending, hc.kept.told⟩

/-- An operation of the session is a request, or fails before there is one. -/
theorem step_operation (i : Nat) (method : String) (params : Option Json)
    (hcases : (∃ error, h.issued? e = Wait.ofRequest i
        (.operation (h.now + answerTimeout)) (.error error)) ∧ h.step e = h ∨
      h.step e = (h.operation i method params).2 ∧
        h.issued? e = Wait.ofRequest i (.operation (h.now + answerTimeout))
          (h.operation i method params).1)
    (hresponse : ∀ i id, e.response? i id = none) :
    (h.step e).Correlates (h.enter ledger e) before := by
  rcases hcases with ⟨⟨error, hissued⟩, hstep⟩ | ⟨hstep, hissued⟩
  · exact hc.step_of_ends (hc.current.ends_of_eq (congrArg Host.waits hstep)
      fun i p _ => hresponse i p.id) hissued
  · exact hc.step_request hstep hissued hresponse

/-- An event keeps the ledger right. -/
theorem step (he : e.isHeld = true) :
    (h.step e).Correlates (h.enter ledger e) (before ++ h.collected e) := by
  have hplain {e : Event} (hnone : h.collected e = [])
      (hnext : (h.step e).Correlates (h.enter ledger e) before) :
      (h.step e).Correlates (h.enter ledger e) (before ++ h.collected e) := by
    rw [hnone, List.append_nil]
    exact hnext
  cases e with
  | answer | subscribe | release => cases he
  -- What is collected goes over to what was told before; at no other event anything does.
  | collectSettled => exact hc.step_collectSettled
  | deliver j m => exact hplain rfl (hc.step_of_ends (hc.current.ends_deliver j m) rfl)
  | close j c =>
    have hstep : h.step (.close j c) = h.closeEach [j] c := rfl
    have hends := hc.current.ends_of_closeEach hstep fun _ _ _ => rfl
    exact hplain rfl (hc.step_of_ends hends rfl)
  | closeAll c =>
    have hends := hc.current.ends_of_closeEach (e := .closeAll c) (c := c) rfl fun _ _ _ => rfl
    exact hplain rfl (hc.step_of_ends hends rfl)
  | advance milliseconds => exact hplain rfl (hc.step_advance milliseconds)
  | request i method params waiter => exact hplain rfl (hc.step_request rfl rfl fun _ _ => rfl)
  | listRoots i =>
    refine hplain rfl (hc.step_operation i Method.rootsList none ?_ fun _ _ => rfl)
    simp only [Host.step, issued?, listRoots]
    split
    · split
      · exact .inr ⟨rfl, rfl⟩
      · exact .inl ⟨⟨_, rfl⟩, rfl⟩
    · exact .inl ⟨⟨_, rfl⟩, rfl⟩
  | createMessage i r =>
    refine hplain rfl (hc.step_operation i Method.createMessage
      (some (CreateMessageRequest.shape.encode r)) ?_ fun _ _ => rfl)
    simp only [Host.step, issued?, createMessage]
    split
    · split
      · exact .inr ⟨rfl, rfl⟩
      · exact .inl ⟨⟨_, rfl⟩, rfl⟩
    · exact .inl ⟨⟨_, rfl⟩, rfl⟩
  -- All other events stir.
  | _ =>
    refine hplain rfl (hc.step_of_ends ?_ rfl)
    exact hc.current.ends_of_eq (calm_step rfl).waits_eq fun _ _ _ => rfl

/-- A run keeps the ledger right. -/
theorem run {es : List Event} (hes : ∀ e ∈ es, e.isHeld = true) :
    (h.run es).waits.Kept (h.run es).naming (h.ledgerFrom ledger es) (before ++ h.told es) := by
  induction es generalizing h ledger before with
  | nil => exact hc.kept
  | cons e es ih =>
    obtain ⟨he, hes⟩ := List.forall_mem_cons.1 hes
    have hnext := ih (hc.step he) hes
    rw [List.append_assoc] at hnext
    exact hnext

end Correlates

theorem correlates_start {medium : Medium} {naming : Naming} {config : ServerConfig} :
    (start medium naming config).Correlates [] [] where
  current :=
    { nodup := fun _ => List.nodup_nil
      finished := fun _ _ => rfl
      held := fun _ => rfl
      timely := fun _ _ hp => absurd hp List.not_mem_nil }
  kept := Waits.kept_nil fun _ => rfl

/-- A response that nobody waits for means nothing. -/
theorem deliver_stray {r : Response}
    (hr : ∀ s, h.sessions[i]? = some s → ∀ p ∈ s.pending, r.id ≠ some p.id) :
    h.deliver i (.response r) = h := by
  unfold deliver
  split
  · rfl
  · next s hs =>
    split
    · rfl
    · dsimp only [takeResponse]
      split
      · next s' id hs' hid =>
        obtain rfl := Option.some.inj (hs.symm.trans hs')
        have hnone : s.pending? id = none := by
          refine List.find?_eq_none.2 fun p hp hbeq => hr s hs p hp ?_
          rw [hid, beq_iff_eq.1 hbeq]
        rw [hnone]
      · rfl

/-- A request that is not sent leaves no trace in what is pending. -/
theorem view_pending_request {method : String} {params : Option Json} {waiter : Waiter}
    {error : Failure} (herror : (h.request i method params waiter).1 = .error error) :
    (h.request i method params waiter).2.view (·.pending) = h.view (·.pending) := by
  have hblind : BlindToSending (view (·.pending)) :=
    ⟨fun _ _ s link hs => view_put_eq hs rfl, fun _ _ => rfl⟩
  revert herror
  rw [request]
  split
  · exact fun _ => rfl
  · split
    · exact fun _ => rfl
    · dsimp only
      split
      · next hsend =>
        exact fun _ => (congrArg (fun x => view (·.pending) x.2) hsend).symm.trans hblind.send
      · intro herror
        cases herror

/-- **Correlation.** What is pending in a session after a run is what the ledger of the run
    has of it that did not end, in the order in which it was sent. No identifier is in the
    ledger twice, and what callers were told is what the ledger says of their waits, each
    once.

    A response to nothing that is pending changes nothing at all, and a request that fails
    leaves everything that is pending as it was. -/
theorem correlation (medium : Medium) (naming : Naming) (config : ServerConfig)
    (es : List Event) (hes : ∀ e ∈ es, e.isHeld = true) :
    let first := start medium naming config
    let ledger := first.ledger es
    let h := first.run es
    (ledger.map (·.pending.id)).Nodup ∧
      (∀ i s, h.sessions[i]? = some s →
        s.pending = (ledger.filter fun w => w.session = i && w.isOpen).map (·.pending) ∧
          (s.pending.map (·.id)).Nodup) ∧
      (first.told es).Perm (ledger.filterMap Wait.settlement?) ∧
      ((first.told es).map (·.id)).Nodup ∧
      (∀ i r, (∀ s, h.sessions[i]? = some s → ∀ p ∈ s.pending, r.id ≠ some p.id) →
        h.deliver i (.response r) = h) ∧
      ∀ i method params waiter error, (h.request i method params waiter).1 = .error error →
        (h.request i method params waiter).2.view (·.pending) = h.view (·.pending) := by
  intro first ledger h
  have hkept : h.waits.Kept h.naming ledger (first.told es) := by
    have hstart : first.Correlates [] [] := correlates_start
    have hrun := hstart.run hes
    rw [ledgerFrom_eq] at hrun
    exact hrun
  refine ⟨hkept.nodup, fun i s hs => ?_, hkept.told, ?_, fun i r => deliver_stray,
    fun i method params waiter error => view_pending_request⟩
  · have hpending := hkept.pending i
    have hnodup := hkept.nodup_pending i
    rw [pending_of_session hs] at hpending hnodup
    exact ⟨hpending, hnodup⟩
  · exact (hkept.told.map _).nodup_iff.2 ((Wait.ids_settlement? ledger).nodup hkept.nodup)

/-- Of three requests one is answered, and then answered again, one runs out of time, and
    one is still waited for when its answer to come is named by a number. -/
theorem correlation_twice :
    let first := start .memory (.numbered "session-" "request-" "") { info := ⟨"server", "1"⟩ }
    let ask (waiter : Waiter) : Event := .request 0 "ask" none waiter
    let answer (id : RequestId) : Event := .deliver 0 (.response { id := some id })
    let es : List Event := [.connect, ask .patient, ask (.timed 5), ask .patient,
      answer (.text "request-0"), answer (.text "request-0"), answer (.number 2), .advance 5]
    let ids := (first.told es).map (·.id)
    ids = [.text "request-0", .text "request-1"] ∧
      ids.Perm (((first.ledger es).filterMap Wait.settlement?).map (·.id)) ∧
      ∀ s, (first.run es).sessions[0]? = some s → s.pending.map (·.id) = [.text "request-2"] := by
  intro first ask answer es ids
  have hes : ∀ e ∈ es, e.isHeld = true := by
    simp [es, ask, answer, Event.isHeld, Event.isOrdinary]
  obtain ⟨-, hpending, htold, -⟩ := correlation .memory (.numbered "session-" "request-" "")
    { info := ⟨"server", "1"⟩ } es hes
  refine ⟨by decide +kernel, htold.map _, fun s hs => ?_⟩
  have hopen : (((first.ledger es).filter fun w => w.session = 0 && w.isOpen).map
      (·.pending)).map (·.id) = [.text "request-2"] := by decide +kernel
  exact (congrArg (List.map (·.id)) (hpending 0 s hs).1).trans hopen

end Host

end ContextServer
