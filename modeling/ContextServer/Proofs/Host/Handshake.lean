import ContextServer.Proofs.Host.Frame

/-!
# The handshake along a run

How far the handshake of a session is and who its client is (`Handshake`) change
in three ways only (`Host.Advances`): by an introduction that is the first one, by
the notice that the answer to it was seen, and by the end of the session.
Everything else leaves them alone, whatever it does to the session besides.

So the introductions of a session that were answered with a success are at most
one, and the client of the session is the one that made it
(`Handshake.After`), and a session goes through its states in their order
(`Host.handshake_run`).
-/

namespace ContextServer

/-- How far a session is, and with whom. -/
structure Handshake where
  state : SessionState
  client : Option Client

/-- The handshake of a session. -/
def Session.handshake (s : Session) : Handshake := { state := s.state, client := s.client }

/-- The client of the session has seen the answer to its introduction. -/
def Event.Confirms (i : Nat) (e : Event) : Prop :=
  ∃ n, e = .deliver i (.notification n) ∧ n.method = Method.initialized

namespace Host

/-- The session takes an introduction. -/
def Introduces (h : Host) (i : Nat) (e : Event) : Prop :=
  ∃ r p, h.taken? i e = some r ∧ r.Introduces p

/-- What an event makes of the handshake of a session. -/
inductive Advances (h : Host) (i : Nat) (e : Event) : Handshake → Handshake → Prop
  /-- The first introduction of the client. -/
  | opens {r : Request} {p : InitializeRequest} {client : Option Client} :
      h.taken? i e = some r → r.Introduces p →
      Advances h i e ⟨.uninitialized, client⟩
        ⟨.initializing, some (h.server.config.clientOf p)⟩
  /-- The notice that the answer was seen. -/
  | confirms {client : Option Client} :
      e.Confirms i → Advances h i e ⟨.initializing, client⟩ ⟨.initialized, client⟩
  /-- The end of the session. -/
  | ends {state : SessionState} {client : Option Client} :
      ¬h.Introduces i e → ¬e.Confirms i → Advances h i e ⟨state, client⟩ ⟨.closed, client⟩
  /-- Anything else. -/
  | stays {x : Handshake} :
      (x.state = .uninitialized → ¬h.Introduces i e) → (x.state = .initializing → ¬e.Confirms i) →
      Advances h i e x x

variable {h : Host} {i : Nat} {e : Event} {s : Session}

theorem blindToUse_handshake : BlindToUse (view Session.handshake) :=
  blindToUse_view ⟨fun _ _ => rfl, fun _ _ => rfl, fun _ _ => rfl, fun _ _ => rfl⟩

/-! ## Events one by one -/

/-- Who takes nothing takes no introduction. -/
theorem not_introduces (ht : h.taken? i e = none) : ¬h.Introduces i e := by
  rintro ⟨r, p, hr, -⟩
  cases ht.symm.trans hr

/-- A request that is put to a session. -/
theorem answer_advances {r : Request} (hs : h.sessions[i]? = some s)
    (hr : h.taken? i e = some r) (hc : ¬e.Confirms i) :
    ∃ s', (h.answer i r).2.sessions[i]? = some s' ∧
      h.Advances i e s.handshake s'.handshake := by
  have hi : i < h.sessions.length := (List.getElem?_eq_some_iff.1 hs).1
  refine ⟨(h.server.answer s r).session, ?_, ?_⟩
  · rw [answer_of_session hs]
    exact List.getElem?_set_self hi
  · rw [Server.answer]
    rcases h.server.perform_cases s r with ⟨p, hp, hstate, hperform⟩ | ⟨hnot, hkeeps, -⟩
    · have hbefore : s.handshake = ⟨.uninitialized, s.client⟩ := by rw [Session.handshake, hstate]
      rw [hperform, hbefore]
      exact .opens hr hp
    · obtain ⟨-, level, hsession⟩ := hkeeps
      have hsame : (h.server.perform s r).session.handshake = s.handshake := by
        rw [hsession]
        rfl
      rw [hsame]
      refine .stays ?_ fun _ => hc
      rintro hstate ⟨r', p, hr', hp⟩
      cases hr.symm.trans hr'
      exact hnot p hp hstate

/-- An event that is not seen in the handshake, in no session that takes something. -/
theorem stays_of_view (ht : h.taken? i e = none) (hc : ¬e.Confirms i)
    (hv : ((h.step e).view Session.handshake)[i]? = (h.view Session.handshake)[i]?)
    (hs : h.sessions[i]? = some s) :
    ∃ s', (h.step e).sessions[i]? = some s' ∧ h.Advances i e s.handshake s'.handshake := by
  rw [view_getElem? (h := h), hs] at hv
  obtain ⟨s', hs', hx⟩ := exists_of_view hv
  exact ⟨s', hs', hx ▸ .stays (fun _ => not_introduces ht) fun _ => hc⟩

theorem view_close {j : Nat} {c : Closing} (hs : h.sessions[i]? = some s) :
    ((h.close j c).view Session.handshake)[i]? =
      some (if j = i then ⟨.closed, s.client⟩ else s.handshake) := by
  rw [view_getElem?]
  split
  · next hij =>
    subst hij
    by_cases hstate : s.state = .closed
    · rw [close_of_closed hs hstate, hs, Option.map_some, Session.handshake, hstate]
    · rw [getElem?_close hs hstate]
      rfl
  · next hij => rw [close_ne hij, hs, Option.map_some]

/-- A request that comes over the link. -/
theorem takeRequest_advances {r : Request} (hs : h.sessions[i]? = some s)
    (hopen : s.state ≠ .closed) :
    ∃ s', (h.takeRequest i r).sessions[i]? = some s' ∧
      h.Advances i (.deliver i (.request r)) s.handshake s'.handshake := by
  have hr : h.taken? i (.deliver i (.request r)) = some r := by simp [taken?, hs, hopen]
  -- The response that is sent then shows in the link only.
  obtain ⟨s', hs', hadvances⟩ := answer_advances hs hr nofun
  have hview : (((h.answer i r).2.send i (.response (h.server.answer s r).value)).2.view
      Session.handshake)[i]? = some s'.handshake := by
    rw [blindToUse_handshake.send, view_getElem?, hs', Option.map_some]
  obtain ⟨s'', hs'', hx⟩ := exists_of_view hview
  refine ⟨s'', ?_, hx ▸ hadvances⟩
  rw [takeRequest_of_session hs, hs'']

/-- A notification. -/
theorem takeNotification_advances {n : Notification} (hs : h.sessions[i]? = some s) :
    ∃ s', (h.takeNotification i n).sessions[i]? = some s' ∧
      h.Advances i (.deliver i (.notification n)) s.handshake s'.handshake := by
  have ht : ¬h.Introduces i (.deliver i (.notification n)) := not_introduces rfl
  rw [takeNotification]
  split
  · next hm =>
    refine ⟨_, getElem?_change hs, ?_⟩
    by_cases hstate : s.state = .initializing
    · have hbefore : s.handshake = ⟨.initializing, s.client⟩ := by
        rw [Session.handshake, hstate]
      rw [hbefore, Session.handshake, hstate]
      exact .confirms ⟨n, rfl, hm⟩
    · -- In any other state the notice means nothing.
      have hsame : s.state.confirmed = s.state := by
        rw [SessionState.confirmed]
        exact hstate
      rw [Session.handshake, hsame]
      exact .stays (fun _ => ht) fun h => absurd h hstate
  · next hm =>
    have hc : ¬Event.Confirms i (.deliver i (.notification n)) := by
      rintro ⟨n', he, hm'⟩
      cases he
      exact hm hm'
    split
    · obtain ⟨s', hs', hx⟩ := exists_of_view (view_close hs)
      rw [if_pos rfl] at hx
      exact ⟨s', hs', hx ▸ .ends ht hc⟩
    · exact ⟨s, hs, .stays (fun _ => ht) fun _ => hc⟩

/-- A message that reaches its session. -/
theorem deliver_advances {m : Message} (hs : h.sessions[i]? = some s) :
    ∃ s', (h.deliver i m).sessions[i]? = some s' ∧
      h.Advances i (.deliver i m) s.handshake s'.handshake := by
  by_cases hclosed : s.state = .closed
  · have hsame : h.step (.deliver i m) = h := by simp only [step, deliver, hs, if_pos hclosed]
    refine ⟨s, (congrArg (·.sessions[i]?) hsame).trans hs, .stays ?_ ?_⟩
    · exact fun hstate => nomatch hclosed.symm.trans hstate
    · exact fun hstate => nomatch hclosed.symm.trans hstate
  · simp only [deliver, hs, if_neg hclosed]
    cases m with
    | request r => exact takeRequest_advances hs hclosed
    | notification n => exact takeNotification_advances hs
    | response r =>
      have hview : ((h.takeResponse i r).view Session.handshake)[i]? = some s.handshake := by
        rw [blindToUse_handshake.takeResponse, view_getElem?, hs, Option.map_some]
      obtain ⟨s', hs', hx⟩ := exists_of_view hview
      exact ⟨s', hs', hx ▸ .stays (fun _ => not_introduces rfl) fun _ => nofun⟩

/-- The end of every live session is the end of some. -/
theorem closeAll_advances {c : Closing} (hs : h.sessions[i]? = some s) :
    ∃ s', (h.closeAll c).sessions[i]? = some s' ∧
      h.Advances i (.closeAll c) s.handshake s'.handshake := by
  have ht : ¬h.Introduces i (.closeAll c) := not_introduces rfl
  -- The sessions are closed one after the other, so the invariant of the fold is that
  -- this one is as it was or over.
  have hfold : ∃ s', (h.closeAll c).sessions[i]? = some s' ∧
      (s'.handshake = s.handshake ∨ s'.handshake = ⟨.closed, s.client⟩) := by
    refine List.foldlRecOn _ _ (motive := fun h' : Host => ∃ s', h'.sessions[i]? = some s' ∧
      (s'.handshake = s.handshake ∨ s'.handshake = ⟨.closed, s.client⟩)) ⟨s, hs, .inl rfl⟩ ?_
    rintro h' ⟨s', hs', hx'⟩ j -
    have hclient : s'.client = s.client := by
      rcases hx' with hx' | hx' <;> exact congrArg Handshake.client hx'
    obtain ⟨s'', hs'', hx⟩ := exists_of_view (view_close hs')
    refine ⟨s'', hs'', ?_⟩
    rw [hx, hclient]
    split
    · exact .inr rfl
    · exact hx'
  obtain ⟨s', hs', hx⟩ := hfold
  refine ⟨s', hs', ?_⟩
  rcases hx with hx | hx <;> rw [hx]
  · exact .stays (fun _ => ht) fun _ => nofun
  · exact .ends ht nofun

/-- Every event, in a session that is there. -/
theorem step_advances (hs : h.sessions[i]? = some s) (e : Event) :
    ∃ s', (h.step e).sessions[i]? = some s' ∧ h.Advances i e s.handshake s'.handshake := by
  cases e with
  | connect =>
    refine stays_of_view rfl nofun ?_ hs
    rw [view_getElem?, view_getElem?]
    refine congrArg _ (List.getElem?_append_left ?_)
    exact (List.getElem?_eq_some_iff.1 hs).1
  | deliver j m =>
    by_cases hij : j = i
    · subst hij
      exact deliver_advances hs
    · refine stays_of_view ?_ ?_ ?_ hs
      · cases m with
        | request r => exact if_neg fun hr => hij hr.1
        | notification | response => rfl
      · rintro ⟨n, ⟨⟩, -⟩
        exact hij rfl
      · rw [view_getElem?, view_getElem?]
        exact congrArg _ (deliver_ne hij)
  | answer j r =>
    by_cases hij : j = i
    · subst hij
      exact answer_advances hs (if_pos rfl) nofun
    · refine stays_of_view (if_neg hij) nofun ?_ hs
      rw [view_getElem?, view_getElem?]
      exact congrArg _ (answer_ne hij)
  | close j c =>
    obtain ⟨s', hs', hx⟩ := exists_of_view (view_close (c := c) (j := j) hs)
    have ht : ¬h.Introduces i (.close j c) := not_introduces rfl
    refine ⟨s', hs', ?_⟩
    rw [hx]
    split
    · exact .ends ht nofun
    · exact .stays (fun _ => ht) fun _ => nofun
  | closeAll c => exact closeAll_advances hs
  | _ => exact stays_of_view rfl nofun (congrArg (·[i]?) (blindToUse_handshake.step rfl)) hs

/-- A session that an event brings is a new one. -/
theorem step_absent (hs : h.sessions[i]? = none) (e : Event) :
    ∀ s' ∈ (h.step e).sessions[i]?, s'.handshake = ⟨.uninitialized, none⟩ := by
  have hnone {h' : Host} (h0 : h'.sessions[i]? = none) :
      ∀ s' ∈ h'.sessions[i]?, s'.handshake = ⟨.uninitialized, none⟩ := by
    intro s' hs'
    cases h0.symm.trans hs'
  have hclose {h' : Host} (h0 : h'.sessions[i]? = none) (j : Nat) (c : Closing) :
      (h'.close j c).sessions[i]? = none := by
    by_cases hij : j = i
    · subst hij
      simp only [close, h0]
    · rw [close_ne hij, h0]
  cases e with
  | connect =>
    intro s' hs'
    have hlen : h.sessions.length ≤ i := List.getElem?_eq_none_iff.1 hs
    rw [step, connect, List.getElem?_append_right hlen] at hs'
    obtain ⟨-, rfl⟩ := List.getElem?_eq_some_iff.1 (Option.mem_def.1 hs')
    simp [Session.handshake]
  | deliver j m =>
    refine hnone ?_
    by_cases hij : j = i
    · subst hij
      simp only [step, deliver, hs]
    · exact (deliver_ne hij).trans hs
  | answer j r =>
    refine hnone ?_
    by_cases hij : j = i
    · subst hij
      simp only [step, answer, hs]
    · exact (answer_ne hij).trans hs
  | close j c => exact hnone (hclose hs j c)
  | closeAll c =>
    refine hnone (List.foldlRecOn _ _ (motive := fun h' : Host => h'.sessions[i]? = none) hs ?_)
    exact fun h' h0 j _ => hclose h0 j c
  | _ =>
    refine hnone (Option.map_eq_none_iff (f := Session.handshake).1 ?_)
    rw [← view_getElem?, blindToUse_handshake.step rfl, view_getElem?, hs, Option.map_none]

/-! ## Introductions along a run -/

/-- An introduction that was answered with a success. -/
def isOpening (x : Request × Response) : Bool :=
  x.1.method = Method.opening && !x.2.isError

/-- The introductions of a session that were answered with a success. -/
def openings (h : Host) (i : Nat) (es : List Event) : List (Request × Response) :=
  (h.exchanges i es).filter isOpening

theorem exchange?_of_session (hs : h.sessions[i]? = some s) (e : Event) :
    h.exchange? i e = (h.taken? i e).map fun r => (r, (h.server.answer s r).value) := by
  rw [exchange?]
  cases h.taken? i e with
  | none => rfl
  | some r => rw [Option.bind_some, answer_of_session hs, Option.map_some, Option.map_some]

/-- The first introduction is answered with a success. -/
theorem exchange?_introduction {r : Request} {p : InitializeRequest}
    (hs : h.sessions[i]? = some s) (hstate : s.state = .uninitialized)
    (hr : h.taken? i e = some r) (hp : r.Introduces p) :
    h.exchange? i e = some (r, .success (some r.id) (h.server.config.welcome p)) := by
  rw [exchange?_of_session hs, hr, Option.map_some, Server.answer,
    Server.perform_introduction hp hstate]
  rfl

/-- No other introduction is. -/
theorem not_isOpening {x : Request × Response} (hs : h.sessions[i]? = some s)
    (hx : h.exchange? i e = some x) (hnot : s.state = .uninitialized → ¬h.Introduces i e) :
    isOpening x = false := by
  rw [exchange?_of_session hs] at hx
  obtain ⟨r, hr, rfl⟩ := Option.map_eq_some_iff.1 hx
  refine Bool.eq_false_iff.2 fun hopening => ?_
  rw [isOpening, Bool.and_eq_true, decide_eq_true_iff] at hopening
  have hother : h.server.Keeps s (h.server.perform s r) ∧
      (r.method = Method.opening → ∃ error, (h.server.perform s r).value = .failed error) :=
    Server.perform_other fun p hp hstate => hnot hstate ⟨r, p, hr, hp⟩
  obtain ⟨error, hfailed⟩ := hother.2 hopening.1
  have hvalue : (h.server.answer s r).value = .failure (some r.id) error.errorObject := by
    rw [Server.answer, hfailed]
    rfl
  rw [hvalue] at hopening
  cases hopening.2

end Host

/-- Who the client of a session is after the introductions that were answered with a
    success: there was none, or one. -/
inductive Handshake.After (c : ServerConfig) :
    List (Request × Response) → Option Handshake → Prop
  /-- There is no session. -/
  | absent : After c [] none
  /-- The client has not introduced itself, and may not any more. -/
  | unknown {state : SessionState} :
      state = .uninitialized ∨ state = .closed → After c [] (some ⟨state, none⟩)
  /-- The client is the one that introduced itself. -/
  | introduced {r : Request} {p : InitializeRequest} {state : SessionState} :
      r.Introduces p → state ≠ .uninitialized →
      After c [(r, .success (some r.id) (c.welcome p))] (some ⟨state, some (c.clientOf p)⟩)

namespace Host

variable {h : Host} {i : Nat} {e : Event} {s : Session} {past : List (Request × Response)}

theorem exchange?_absent (hs : h.sessions[i]? = none) (e : Event) : h.exchange? i e = none := by
  have hanswer (r : Request) : (h.answer i r).1 = none := by simp only [answer, hs]
  refine Option.bind_eq_none_iff.2 fun r _ => ?_
  rw [hanswer, Option.map_none]

/-- Before the introduction there was none. -/
theorem eq_nil_of_after {c : ServerConfig} {x : Handshake}
    (ha : Handshake.After c past (some x)) (hx : x.state = .uninitialized) : past = [] := by
  cases ha with
  | unknown => rfl
  | introduced _ hne => exact absurd hx hne

/-- The first introduction makes the client known. -/
theorem after_introduction (hs : h.sessions[i]? = some s) (hstate : s.state = .uninitialized)
    (hi : h.Introduces i e) (ha : Handshake.After h.server.config past (some s.handshake)) :
    Handshake.After h.server.config (past ++ (h.exchange? i e).toList.filter isOpening)
      ((h.step e).sessions[i]?.map Session.handshake) := by
  -- It is the first one (`eq_nil_of_after`), and it is answered with a success.
  obtain ⟨r, p, hr, hp⟩ := id hi
  obtain ⟨s', hs', hadvances⟩ := step_advances hs e
  have hopening : isOpening (r, .success (some r.id) (h.server.config.welcome p)) = true := by
    rw [isOpening, hp.method]
    rfl
  have hbefore : s.handshake = ⟨.uninitialized, s.client⟩ := by rw [Session.handshake, hstate]
  rw [exchange?_introduction hs hstate hr hp, hs', Option.map_some,
    eq_nil_of_after ha hstate, Option.toList_some, List.filter_cons_of_pos hopening]
  rw [hbefore] at hadvances
  generalize s'.handshake = x' at hadvances
  cases hadvances with
  | opens hr' hp' =>
    cases hr.symm.trans hr'
    cases hp.params.symm.trans hp'.params
    exact .introduced hp nofun
  | ends hnot => exact absurd hi hnot
  | stays hnot => exact absurd hi (hnot rfl)

/-- Any other event leaves the client as it is. -/
theorem after_other (hs : h.sessions[i]? = some s)
    (hnot : s.state = .uninitialized → ¬h.Introduces i e)
    (ha : Handshake.After h.server.config past (some s.handshake)) :
    Handshake.After h.server.config (past ++ (h.exchange? i e).toList.filter isOpening)
      ((h.step e).sessions[i]?.map Session.handshake) := by
  obtain ⟨s', hs', hadvances⟩ := step_advances hs e
  -- Nothing is answered that would count, and the client changes with the state only.
  have hnone : (h.exchange? i e).toList.filter isOpening = [] := by
    rw [List.filter_eq_nil_iff]
    intro x hx
    rw [not_isOpening hs (Option.mem_toList.1 hx) hnot]
    exact Bool.false_ne_true
  rw [hnone, List.append_nil, hs', Option.map_some]
  have hstate : s.handshake.state = s.state := rfl
  rw [← hstate] at hnot
  generalize s.handshake = x at *
  generalize s'.handshake = x' at *
  cases hadvances with
  | opens hr hp => exact absurd ⟨_, _, hr, hp⟩ (hnot rfl)
  | confirms =>
    cases ha with
    | unknown hx => rcases hx with hx | hx <;> cases hx
    | introduced hp _ => exact .introduced hp nofun
  | ends =>
    cases ha with
    | unknown => exact .unknown (.inr rfl)
    | introduced hp _ => exact .introduced hp nofun
  | stays => exact ha

theorem after_step (ha : Handshake.After h.server.config past (h.sessions[i]?.map (·.handshake)))
    (e : Event) : Handshake.After h.server.config
      (past ++ (h.exchange? i e).toList.filter isOpening)
      ((h.step e).sessions[i]?.map (·.handshake)) := by
  cases hs : h.sessions[i]? with
  | none =>
    rw [hs] at ha
    rw [exchange?_absent hs, Option.toList_none, List.filter_nil, List.append_nil]
    cases ha
    cases hs' : (h.step e).sessions[i]? with
    | none => exact .absent
    | some s' =>
      rw [Option.map_some, step_absent hs e s' hs']
      exact .unknown (.inl rfl)
  | some s =>
    rw [hs] at ha
    by_cases hi : s.state = .uninitialized ∧ h.Introduces i e
    · exact after_introduction hs hi.1 hi.2 ha
    · exact after_other hs (fun hstate hi' => hi ⟨hstate, hi'⟩) ha

/-- After any run, the client of a session is the one that introduced itself, and one
    did so at most. -/
theorem after_run (ha : Handshake.After h.server.config past (h.sessions[i]?.map (·.handshake)))
    (es : List Event) : Handshake.After h.server.config (past ++ h.openings i es)
      ((h.run es).sessions[i]?.map (·.handshake)) := by
  induction es generalizing h past with
  | nil => rwa [openings, exchanges, List.filter_nil, List.append_nil]
  | cons e es ih =>
    rw [openings, exchanges, List.filter_append, ← List.append_assoc, run_cons]
    -- The configuration in the invariant is that of the host after the event.
    have hnext := after_step ha e
    rw [← config_step e] at hnext ⊢
    exact ih hnext

/-! ## Runs -/

theorem Advances.forward {x x' : Handshake} (ha : h.Advances i e x x') :
    x.state.stage ≤ x'.state.stage ∧
      (x'.state = .closed ∨ x'.state.stage ≤ x.state.stage + 1) := by
  cases ha with
  | opens | confirms => exact ⟨Nat.le_succ _, .inr (Nat.le_refl _)⟩
  | @ends state =>
    have hlast : ∀ state : SessionState, state.stage ≤ SessionState.closed.stage := by
      intro state
      cases state <;> decide
    exact ⟨hlast state, .inl rfl⟩
  | stays => exact ⟨Nat.le_refl _, .inr (Nat.le_succ _)⟩

theorem Advances.opens_iff {x x' : Handshake} (ha : h.Advances i e x x') :
    x.state = .uninitialized ∧ x'.state = .initializing ↔
      x.state = .uninitialized ∧ h.Introduces i e := by
  cases ha with
  | opens hr hp => exact ⟨fun _ => ⟨rfl, _, _, hr, hp⟩, fun _ => ⟨rfl, rfl⟩⟩
  | confirms => exact ⟨fun hx => (nomatch hx.1), fun hx => (nomatch hx.1)⟩
  | ends hnot => exact ⟨fun hx => (nomatch hx.2), fun hx => absurd hx.2 hnot⟩
  | stays hnot =>
    exact ⟨fun hx => (nomatch hx.1.symm.trans hx.2), fun hx => absurd hx.2 (hnot hx.1)⟩

theorem Advances.confirms_iff {x x' : Handshake} (ha : h.Advances i e x x') :
    x.state ≠ .initialized ∧ x'.state = .initialized ↔
      x.state = .initializing ∧ e.Confirms i := by
  cases ha with
  | opens => exact ⟨fun hx => (nomatch hx.2), fun hx => (nomatch hx.1)⟩
  | confirms he => exact ⟨fun _ => ⟨rfl, he⟩, fun _ => ⟨nofun, rfl⟩⟩
  | ends _ hnot => exact ⟨fun hx => (nomatch hx.2), fun hx => absurd hx.2 hnot⟩
  | stays _ hnot => exact ⟨fun hx => absurd hx.2 hx.1, fun hx => absurd hx.2 (hnot hx.1)⟩

/-- What an event means for the handshake of a session. -/
structure Handles (h : Host) (i : Nat) (e : Event) (s s' : Session) : Prop where
  /-- The state goes forward, by one or to the end. -/
  forward : s.state.stage ≤ s'.state.stage ∧
    (s'.state = .closed ∨ s'.state.stage ≤ s.state.stage + 1)
  /-- The session opens exactly by an introduction. -/
  opens : s.state = .uninitialized ∧ s'.state = .initializing ↔
    s.state = .uninitialized ∧ h.Introduces i e
  /-- The handshake is over exactly by the notice that the answer was seen. -/
  confirms : s.state ≠ .initialized ∧ s'.state = .initialized ↔
    s.state = .initializing ∧ e.Confirms i
  /-- The first introduction is answered with a success. -/
  welcomed : ∀ r p, s.state = .uninitialized → h.taken? i e = some r → r.Introduces p →
    h.exchange? i e = some (r, .success (some r.id) (h.server.config.welcome p))
  /-- The response to a request that came over the link goes over the link. -/
  sent : ∀ r response, e = .deliver i (.request r) → h.exchange? i e = some (r, response) →
    s'.link = (s.link.send h.medium.capacity? (.response response)).2
  /-- Any state leads to the end. -/
  ends : ∀ c, e = .close i c → s'.state = .closed

theorem step_sent {r : Request} {response : Response} {s' : Session}
    (hs : h.sessions[i]? = some s)
    (hs' : (h.step (.deliver i (.request r))).sessions[i]? = some s')
    (hx : h.exchange? i (.deliver i (.request r)) = some (r, response)) :
    s'.link = (s.link.send h.medium.capacity? (.response response)).2 := by
  rw [exchange?_of_session hs] at hx
  obtain ⟨r', hr, hpair⟩ := Option.map_eq_some_iff.1 hx
  cases hpair
  have hopen : s.state ≠ .closed := by
    simpa [taken?, hs] using hr
  simp only [step, deliver, hs, if_neg hopen, takeRequest_of_session hs] at hs'
  rw [getElem?_send (getElem?_answer hs), Option.some.injEq] at hs'
  have hlink : (h.server.answer s r).session.link = s.link := link_perform
  rw [← hs', hlink, answer_of_session hs]
  rfl

theorem step_handles (hs : h.sessions[i]? = some s) (e : Event) :
    ∃ s', (h.step e).sessions[i]? = some s' ∧ h.Handles i e s s' := by
  obtain ⟨s', hs', ha⟩ := step_advances hs e
  refine ⟨s', hs', ha.forward, ha.opens_iff, ha.confirms_iff, ?_, ?_, ?_⟩
  · exact fun r p hstate hr hp => exchange?_introduction hs hstate hr hp
  · rintro r response rfl hx
    exact step_sent hs hs' hx
  · rintro c rfl
    obtain ⟨s'', hs'', hx⟩ := exists_of_view (view_close (c := c) (j := i) hs)
    cases hs''.symm.trans hs'
    rw [if_pos rfl] at hx
    exact congrArg Handshake.state hx

/-- **Handshake.** On a server whose configuration was built up from a name, a session
    goes through its states in their order, opens exactly by an introduction of its
    client and is set up exactly by the notice that follows. One introduction at most is
    answered with a success, and with a version of the server; the client is unknown
    before and is the one of that introduction afterwards. -/
theorem handshake_run {c : ServerConfig} (hc : c.Built) (medium : Medium) (naming : Naming)
    (es : List Event) (i : Nat) :
    let h := (start medium naming c).run es
    (∀ s, h.sessions[i]? = some s → ∀ e, ∃ s', (h.step e).sessions[i]? = some s' ∧
      h.Handles i e s s') ∧
    h.server.config = c ∧
    (∀ p : InitializeRequest, c.Agrees p.protocolVersion (c.clientOf p).version ∧
      (c.welcome p).member? "protocolVersion" = some (.string (c.clientOf p).version)) ∧
    Handshake.After c ((start medium naming c).openings i es)
      (h.sessions[i]?.map (·.handshake)) := by
  intro h
  refine ⟨fun s hs e => step_handles hs e, config_run es, fun p => ⟨?_, ?_⟩, ?_⟩
  · exact ServerConfig.agrees_negotiate hc.versions_ne_nil p.protocolVersion
  · exact ServerConfig.member?_initializeResult _
  · have hstart : Handshake.After (start medium naming c).server.config [] none := .absent
    exact after_run hstart es

/-- A client that asks for a version that the server does not speak hears the last one. -/
theorem handshake_run_fallback :
    let c := ServerConfig.withVersions { info := ⟨"server", "1"⟩ } ["2024-11-05", "2025-03-26"]
    let h := (start .memory (.numbered "session-" "request-" "") c).run [.connect]
    let p : InitializeRequest := { protocolVersion := "1999-01-01", clientInfo := ⟨"client", "1"⟩ }
    let r : Request := { id := .number 1, method := Method.opening, params := some (.object
      [("clientInfo", .object [("name", .string "client"), ("version", .string "1")]),
        ("protocolVersion", .string "1999-01-01")]) }
    c.Built ∧ (c.clientOf p).version = "2025-03-26" ∧
      h.exchange? 0 (.deliver 0 (.request r)) = some (r, .success (some r.id) (c.welcome p)) ∧
      ∃ s', (h.step (.deliver 0 (.request r))).sessions[0]? = some s' ∧
        s'.state = .initializing := by
  intro c h p r
  have hc : c.Built := .withVersions _ (.named _)
  have hs : h.sessions[0]? = some { id := "session-" ++ Nat.repr 0 ++ "" } := rfl
  have hp : r.Introduces p := ⟨rfl, rfl⟩
  obtain ⟨hsteps, hconfig, hversions, -⟩ :=
    handshake_run hc .memory (.numbered "session-" "request-" "") [.connect] 0
  obtain ⟨s', hs', hhandles⟩ := hsteps _ hs (.deliver 0 (.request r))
  have hlast := (hversions p).1.last (by decide)
  refine ⟨hc, (Option.some.inj hlast).symm, ?_, s', hs', ?_⟩
  · exact hconfig ▸ hhandles.welcomed r p rfl rfl hp
  · exact (hhandles.opens.2 ⟨rfl, r, p, rfl, hp⟩).2

end Host

end ContextServer
