import ContextServer.Proofs.Host.Move

/-!
# The life of sessions

Where the end of a session shows: in its state, in its link, in the register of the live
sessions and in the table of subscriptions. Each of them is written in another place,
and in every host that is reached in the ordinary way they agree (`Host.Sound`): so it
is at the start (`Host.sound_start`), and every move keeps it (`Host.Move.sound`).

What follows for the host as a whole is that it is *in order* (`Host.InOrder`). In
particular a session that is over is deaf, and to close every live session leaves none.
Whatever happens next, what is over stays over, and nothing is added to what waits for
its client (`Host.KeepsEnds`); and no link opens again (`Host.KeepsLinks`).
-/

namespace ContextServer

namespace Host

variable {h h' : Host} {i j : Nat} {s : Session} {m : Message} {c : Closing}

/-- The session is over in everything that the host has of it. -/
structure Over (h : Host) (s : Session) : Prop where
  link : s.link.isOpen = false
  pending : s.pending = []
  subscriptions : ∀ uri, h.server.subscriptions.holds uri s.id = false

/-- No subscriptions come to a session that is over. -/
theorem Over.mono (hover : h.Over s)
    (hholds : ∀ uri, h'.server.subscriptions.holds uri s.id = true →
      h.server.subscriptions.holds uri s.id = true) : h'.Over s :=
  ⟨hover.link, hover.pending, fun uri => Bool.eq_false_iff.2 fun hsub =>
    Bool.eq_false_iff.1 (hover.subscriptions uri) (hholds uri hsub)⟩

/-- Sessions have names of their own, and those are registered whose links are open. -/
structure Enrolled (h : Host) : Prop where
  /-- Sessions have the names of their numbers. -/
  named : ∀ (i : Nat) s, h.sessions[i]? = some s → s.id = h.naming.session i
  /-- Under the name of a session its number is registered as long as its link is open. -/
  registered : ∀ (i : Nat) s, h.sessions[i]? = some s →
    h.live.get? s.id = if s.link.isOpen then some i else none
  /-- Nothing but sessions is registered, each under its own name. -/
  known : ∀ id i, h.live.get? id = some i → ∃ s, h.sessions[i]? = some s ∧ s.id = id

/-- What the host has of its sessions agrees. -/
structure Sound (h : Host) : Prop where
  /-- Sessions have the names of their numbers. -/
  named : ∀ (i : Nat) s, h.sessions[i]? = some s → s.id = h.naming.session i
  /-- Under the name of a session its number is registered as long as its link is open. -/
  registered : ∀ (i : Nat) s, h.sessions[i]? = some s →
    h.live.get? s.id = if s.link.isOpen then some i else none
  /-- Nothing but sessions is registered, each under its own name. -/
  known : ∀ id i, h.live.get? id = some i → ∃ s, h.sessions[i]? = some s ∧ s.id = id
  /-- A session whose state says so is over. -/
  finished : ∀ (i : Nat) s, h.sessions[i]? = some s → s.state = .closed → h.Over s
  /-- Every URI in the table has a subscriber. -/
  tidy : h.server.subscriptions.IsTidy

theorem Sound.enrolled (hh : h.Sound) : h.Enrolled := ⟨hh.named, hh.registered, hh.known⟩

theorem not_getElem?_start {medium : Medium} {naming : Naming} {config : ServerConfig} (i : Nat)
    (s : Session) : ¬(start medium naming config).sessions[i]? = some s :=
  fun hs => nomatch List.getElem?_nil.symm.trans hs

theorem enrolled_start {medium : Medium} {naming : Naming} {config : ServerConfig} :
    (start medium naming config).Enrolled :=
  ⟨fun i s hs => absurd hs (not_getElem?_start i s),
    fun i s hs => absurd hs (not_getElem?_start i s), nofun⟩

theorem sound_start {medium : Medium} {naming : Naming} {config : ServerConfig} :
    (start medium naming config).Sound :=
  ⟨enrolled_start.named, enrolled_start.registered, enrolled_start.known,
    fun i s hs => absurd hs (not_getElem?_start i s), Subscriptions.isTidy_empty⟩

/-! ## What moves keep -/

/-- No two sessions have one name. -/
theorem Enrolled.eq_of_id (hh : h.Enrolled) {s' : Session} (hs : h.sessions[i]? = some s)
    (hs' : h.sessions[j]? = some s') (hid : s.id = s'.id) : i = j := by
  rw [hh.named i s hs, hh.named j s' hs'] at hid
  exact h.naming.session_injective i j hid

/-- One session changes, with the register. -/
theorem Enrolled.replace (hh : h.Enrolled) (hs : h.sessions[i]? = some s) {s' : Session}
    (hid : s'.id = s.id) (hnaming : h'.naming = h.naming)
    (hsessions : ∀ j, h'.sessions[j]? = if i = j then some s' else h.sessions[j]?)
    (hlive : ∀ id, h'.live.get? id =
      if s.id = id then if s'.link.isOpen then some i else none else h.live.get? id) :
    h'.Enrolled where
  named j t ht := by
    rw [hsessions] at ht
    rw [hnaming]
    split at ht
    · next hij =>
      cases ht
      rw [hid, ← hij]
      exact hh.named i s hs
    · exact hh.named j t ht
  registered j t ht := by
    rw [hsessions] at ht
    rw [hlive]
    split at ht
    · next hij =>
      cases ht
      rw [if_pos hid.symm, hij]
    · next hij =>
      rw [if_neg fun hid' => hij (hh.eq_of_id hs ht hid')]
      exact hh.registered j t ht
  known id j hj := by
    rw [hlive] at hj
    rw [hsessions]
    split at hj
    · next hid' =>
      split at hj
      · cases hj
        exact ⟨s', if_pos rfl, hid.trans hid'⟩
      · cases hj
    · next hne =>
      obtain ⟨t, ht, hid'⟩ := hh.known id j hj
      have hij : i ≠ j := by
        intro hij
        rw [← hij, hs] at ht
        exact hne ((congrArg Session.id (Option.some.inj ht)).trans hid')
      exact ⟨t, (if_neg hij).trans ht, hid'⟩

/-- The register as it is, by what it has of one session. -/
theorem Enrolled.get?_live (hh : h.Enrolled) (hs : h.sessions[i]? = some s) (id : String) :
    h.live.get? id =
      if s.id = id then if s.link.isOpen then some i else none else h.live.get? id := by
  split
  · next hid => exact hid ▸ hh.registered i s hs
  · rfl

/-- A change to a session whose link stays as open as it was. -/
theorem Enrolled.put (hh : h.Enrolled) (hs : h.sessions[i]? = some s) {s' : Session}
    (hid : s'.id = s.id) (hopen : s'.link.isOpen = s.link.isOpen) : (h.put i s').Enrolled := by
  refine hh.replace hs hid rfl (getElem?_put hs s') fun id => ?_
  rw [hopen]
  exact hh.get?_live hs id

/-- The session of a client that connects has a name that none had before. -/
theorem Enrolled.connect (hh : h.Enrolled) : h.connect.2.Enrolled where
  named i s hs := by
    rw [getElem?_connect] at hs
    split at hs
    · cases hs
      rfl
    · exact hh.named i s hs
  registered i s hs := by
    rw [getElem?_connect] at hs
    change (h.live.insert (h.naming.session h.sessions.length) h.sessions.length).get? s.id = _
    rw [Dict.get?_insert]
    split at hs
    · next hi =>
      cases hs
      rw [if_pos (congrArg h.naming.session hi), hi]
      rfl
    · next hi =>
      rw [hh.named i s hs, if_neg fun hid => hi (h.naming.session_injective _ _ hid),
        ← hh.named i s hs]
      exact hh.registered i s hs
  known id i hi := by
    change (h.live.insert (h.naming.session h.sessions.length) h.sessions.length).get? id =
      some i at hi
    rw [Dict.get?_insert] at hi
    rw [getElem?_connect]
    split at hi
    · next hid =>
      obtain rfl := Option.some.inj hi
      exact ⟨_, if_pos rfl, hid⟩
    · obtain ⟨s, hs, hid⟩ := hh.known id i hi
      have hlt : i < h.sessions.length := (List.getElem?_eq_some_iff.1 hs).1
      exact ⟨s, (if_neg (Nat.ne_of_gt hlt)).trans hs, hid⟩

theorem Sound.eq_of_id (hh : h.Sound) {s' : Session} (hs : h.sessions[i]? = some s)
    (hs' : h.sessions[j]? = some s') (hid : s.id = s'.id) : i = j :=
  hh.enrolled.eq_of_id hs hs' hid

/-- One session changes, with the register, and subscriptions may end. -/
theorem Sound.replace (hh : h.Sound) (hs : h.sessions[i]? = some s) {s' : Session}
    (hid : s'.id = s.id) (hover : s'.state = .closed → h'.Over s')
    (hnaming : h'.naming = h.naming)
    (hsessions : ∀ j, h'.sessions[j]? = if i = j then some s' else h.sessions[j]?)
    (hlive : ∀ id, h'.live.get? id =
      if s.id = id then if s'.link.isOpen then some i else none else h.live.get? id)
    (hholds : ∀ uri id, h'.server.subscriptions.holds uri id = true →
      h.server.subscriptions.holds uri id = true)
    (htidy : h'.server.subscriptions.IsTidy) : h'.Sound := by
  have he := hh.enrolled.replace hs hid hnaming hsessions hlive
  refine ⟨he.named, he.registered, he.known, fun j t ht => ?_, htidy⟩
  rw [hsessions] at ht
  split at ht
  · cases ht
    exact hover
  · exact fun hstate => (hh.finished j t ht hstate).mono fun uri => hholds uri t.id

/-- A change to a session whose link stays as open as it was. -/
theorem Sound.put (hh : h.Sound) (hs : h.sessions[i]? = some s) {s' : Session}
    (hid : s'.id = s.id) (hopen : s'.link.isOpen = s.link.isOpen)
    (hover : s'.state = .closed → h.Over s') : (h.put i s').Sound := by
  refine hh.replace hs hid (fun hstate => (hover hstate).mono fun _ hsub => hsub) rfl
    (getElem?_put hs s') (fun id => ?_) (fun _ _ hsub => hsub) hh.tidy
  rw [hopen]
  exact hh.enrolled.get?_live hs id

/-- A change to the table that brings no subscription to a session that is over. -/
theorem Sound.withSubscriptions (hh : h.Sound) {t : Subscriptions}
    (hholds : ∀ (i : Nat) s, h.sessions[i]? = some s → s.state = .closed → ∀ uri,
      t.holds uri s.id = true → h.server.subscriptions.holds uri s.id = true)
    (htidy : t.IsTidy) : (h.withSubscriptions t).Sound where
  named := hh.named
  registered := hh.registered
  known := hh.known
  finished i s hs hstate := (hh.finished i s hs hstate).mono (hholds i s hs hstate)
  tidy := htidy

theorem Sound.connect (hh : h.Sound) : h.connect.2.Sound := by
  have he := hh.enrolled.connect
  refine ⟨he.named, he.registered, he.known, fun i s hs hstate => ?_, hh.tidy⟩
  rw [getElem?_connect] at hs
  split at hs
  · cases hs
    cases hstate
  · exact (hh.finished i s hs hstate).mono fun _ hsub => hsub

/-- Stirs keep what agrees. -/
theorem Stir.sound (hm : Stir h h') (hh : h.Sound) : h'.Sound := by
  cases hm with
  | connect => exact hh.connect
  | @session i s state client logLevel hs hstate =>
    refine hh.put hs rfl rfl fun hclosed => ?_
    have hover := hh.finished i s hs (hstate.1 hclosed)
    exact ⟨hover.link, hover.pending, hover.subscriptions⟩
  | @link i s link hs hopen _ =>
    refine hh.put hs rfl hopen fun hclosed => ?_
    have hover := hh.finished i s hs hclosed
    exact ⟨hopen.trans hover.link, hover.pending, hover.subscriptions⟩
  | @cut i s link hs hclosed _ =>
    have hid : ({ s with link } : Session).id = s.id := rfl
    refine hh.replace hs hid (fun hstate => ?_) rfl (getElem?_put hs _)
      (fun id => ?_) (fun _ _ hsub => hsub) hh.tidy
    · have hover := hh.finished i s hs hstate
      exact ⟨hclosed, hover.pending, hover.subscriptions⟩
    · rw [hclosed]
      exact Dict.get?_erase _ _ _
  | @subscribed i s uri hs hstate =>
    refine hh.withSubscriptions (fun j t ht hclosed uri' hsub => ?_) (hh.tidy.add uri s.id)
    -- The session that subscribes is another one, and so is its name.
    have hne : ¬s.id = t.id := by
      intro hid
      obtain rfl := hh.eq_of_id hs ht hid
      exact hstate ((Option.some.inj (hs.symm.trans ht)) ▸ hclosed)
    rw [Subscriptions.holds_add] at hsub
    simpa [hne] using hsub
  | @unsubscribed t hholds htidy =>
    exact hh.withSubscriptions (fun _ s _ _ uri hsub => hholds uri s.id hsub) (htidy hh.tidy)
  | registry =>
    exact ⟨hh.named, hh.registered, hh.known,
      fun i s hs hstate => (hh.finished i s hs hstate).mono fun _ hsub => hsub, hh.tidy⟩

/-! ### The end of a session -/

theorem live_closeLink (hs : h.sessions[i]? = some s) :
    (h.closeLink i c).live = h.live.erase s.id := by
  simp only [closeLink, hs]
  rfl

theorem server_closeLink : (h.closeLink i c).server = h.server := by
  rw [closeLink]
  split <;> rfl

theorem live_close (hs : h.sessions[i]? = some s) (hstate : s.state ≠ .closed) :
    (h.close i c).live = h.live.erase s.id := by
  simp only [close, hs, if_neg hstate]
  rw [live_closeLink (s := s.ended), settleAll_frame (g := (·.live)) fun _ _ => rfl]
  · rfl
  · rw [sessions_settleAll]
    exact (getElem?_put hs s.ended i).trans (if_pos rfl)

theorem server_close (hs : h.sessions[i]? = some s) (hstate : s.state ≠ .closed) :
    (h.close i c).server =
      { h.server with subscriptions := h.server.subscriptions.forget s.id } := by
  simp only [close, hs, if_neg hstate]
  rw [server_closeLink, settleAll_frame (g := (·.server)) fun _ _ => rfl]

/-- The session that is closed leaves the register. -/
theorem get?_live_close (hs : h.sessions[i]? = some s) (hstate : s.state ≠ .closed)
    (id : String) : (h.close i c).live.get? id =
      if s.id = id then if (s.link.close c).isOpen then some i else none
      else h.live.get? id := by
  rw [live_close hs hstate, s.link.close_isOpen]
  exact Dict.get?_erase _ _ _

theorem getElem?_close_eq (hs : h.sessions[i]? = some s) (hstate : s.state ≠ .closed) (j : Nat) :
    (h.close i c).sessions[j]? =
      if i = j then some { s.ended with link := s.link.close c } else h.sessions[j]? := by
  split
  · next hij => exact hij ▸ getElem?_close hs hstate
  · next hij => exact close_ne hij

theorem Enrolled.close (hh : h.Enrolled) (hs : h.sessions[i]? = some s)
    (hstate : s.state ≠ .closed) : (h.close i c).Enrolled :=
  have hid : ({ s.ended with link := s.link.close c } : Session).id = s.id := rfl
  hh.replace hs hid (congrArg (·.2.1) constants_close) (getElem?_close_eq hs hstate)
    (get?_live_close hs hstate)

theorem Sound.close (hh : h.Sound) (hs : h.sessions[i]? = some s) (hstate : s.state ≠ .closed) :
    (h.close i c).Sound := by
  have hid : ({ s.ended with link := s.link.close c } : Session).id = s.id := rfl
  refine hh.replace hs hid (fun _ => ?_) (congrArg (·.2.1) constants_close)
    (getElem?_close_eq hs hstate) (get?_live_close hs hstate) (fun uri id hsub => ?_) ?_
  · refine ⟨s.link.close_isOpen c, rfl, fun uri => ?_⟩
    rw [server_close hs hstate]
    exact (Subscriptions.holds_forget ..).trans (by simp [Session.ended])
  · rw [server_close hs hstate, Subscriptions.holds_forget, Bool.and_eq_true] at hsub
    exact hsub.2
  · rw [server_close hs hstate]
    exact hh.tidy.forget s.id

/-- Moves keep what agrees. -/
theorem Move.sound (hm : Move h h') (hh : h.Sound) : h'.Sound := by
  cases hm with
  | stir hs => exact hs.sound hh
  | close hs hstate => exact hh.close hs hstate
  | @release i s hs =>
    refine hh.put hs rfl rfl fun hclosed => ?_
    have hover := hh.finished i s hs hclosed
    exact ⟨hover.link, hover.pending, hover.subscriptions⟩
  | @waits i s pending hs hpending =>
    refine hh.put hs rfl rfl fun hclosed => ?_
    have hover := hh.finished i s hs hclosed
    exact ⟨hover.link, hpending hclosed hover.pending, hover.subscriptions⟩
  | clock =>
    exact ⟨hh.named, hh.registered, hh.known,
      fun i s hs hstate => (hh.finished i s hs hstate).mono fun _ hsub => hsub, hh.tidy⟩

theorem Moves.sound (hm : Moves h h') (hh : h.Sound) : h'.Sound :=
  hm.keeps (fun _ _ => Move.sound) hh

/-- What the host has of its sessions agrees along every run of ordinary events. -/
theorem sound_run {medium : Medium} {naming : Naming} {config : ServerConfig}
    {es : List Event} (hes : ∀ e ∈ es, e.isOrdinary = true) :
    ((start medium naming config).run es).Sound :=
  (moves_run hes).sound sound_start

/-! ### Every way to a host -/

theorem Stir.enrolled (hm : Stir h h') (hh : h.Enrolled) : h'.Enrolled := by
  cases hm with
  | connect => exact hh.connect
  | session hs => exact hh.put hs rfl rfl
  | link hs hopen => exact hh.put hs rfl hopen
  | @cut i s link hs hclosed =>
    have hid : ({ s with link } : Session).id = s.id := rfl
    refine hh.replace hs hid rfl (getElem?_put hs _) fun id => ?_
    rw [hclosed]
    exact Dict.get?_erase _ _ _
  | subscribed | unsubscribed | registry => exact ⟨hh.named, hh.registered, hh.known⟩

theorem Move.enrolled (hm : Move h h') (hh : h.Enrolled) : h'.Enrolled := by
  cases hm with
  | stir hs => exact hs.enrolled hh
  | close hs hstate => exact hh.close hs hstate
  | release hs | waits hs => exact hh.put hs rfl rfl
  | clock => exact ⟨hh.named, hh.registered, hh.known⟩

/-- Whatever happens, sessions remain enrolled, also if something is done to them from this
    side. -/
theorem Enrolled.step (hh : h.Enrolled) (e : Event) : (h.step e).Enrolled := by
  by_cases he : e.isOrdinary = true
  · exact (moves_step he).keeps (fun _ _ => Move.enrolled) hh
  · cases e with
    | answer i r =>
      rw [Host.step]
      cases hs : h.sessions[i]? with
      | none =>
        simp only [answer, hs]
        exact hh
      | some s =>
        have hid : (h.server.answer s r).session.id = s.id := id_perform
        have hlink : (h.server.answer s r).session.link = s.link := link_perform
        have hput := hh.put hs hid (congrArg Link.isOpen hlink)
        rw [answer_of_session hs]
        exact ⟨hput.named, hput.registered, hput.known⟩
    | subscribe i uri =>
      rw [Host.step, subscribe]
      split
      · exact ⟨hh.named, hh.registered, hh.known⟩
      · exact hh
    | _ => exact absurd rfl he

theorem enrolled_run {medium : Medium} {naming : Naming} {config : ServerConfig}
    (es : List Event) : ((start medium naming config).run es).Enrolled :=
  run_keeps (fun e _ _ hh => hh.step e) enrolled_start

theorem Stir.isTidy (hm : Stir h h') (ht : h.server.subscriptions.IsTidy) :
    h'.server.subscriptions.IsTidy := by
  cases hm with
  | connect | session | link | cut | registry => exact ht
  | subscribed => exact ht.add _ _
  | unsubscribed _ htidy => exact htidy ht

theorem Move.isTidy (hm : Move h h') (ht : h.server.subscriptions.IsTidy) :
    h'.server.subscriptions.IsTidy := by
  cases hm with
  | stir hs => exact hs.isTidy ht
  | close hs hstate =>
    rw [server_close hs hstate]
    exact ht.forget _
  | release | waits | clock => exact ht

theorem isTidy_of_leaves {server : Server} {r : Request} {x : Served (Outcome Failure Json)}
    (hleaves : server.Leaves s r x) (ht : server.subscriptions.IsTidy) :
    x.server.subscriptions.IsTidy := by
  cases hleaves with
  | nothing _ _ hserver =>
    have hkept : x.server.subscriptions = server.subscriptions :=
      congrArg (fun server => server.subscriptions) hserver
    rwa [hkept]
  | client | logLevel => exact ht
  | subscribed => exact ht.add _ _
  | unsubscribed => exact ht.remove _ _

/-- Whatever happens, every URI in the table has a subscriber. -/
theorem isTidy_step (ht : h.server.subscriptions.IsTidy) (e : Event) :
    (h.step e).server.subscriptions.IsTidy := by
  by_cases he : e.isOrdinary = true
  · exact (moves_step he).keeps (P := fun h => h.server.subscriptions.IsTidy)
      (fun _ _ => Move.isTidy) ht
  · cases e with
    | answer i r =>
      rw [Host.step]
      cases hs : h.sessions[i]? with
      | none =>
        simp only [answer, hs]
        exact ht
      | some s =>
        rw [answer_of_session hs]
        exact isTidy_of_leaves (h.server.perform_leaves s r) ht
    | subscribe i uri =>
      rw [Host.step, subscribe]
      split
      · exact ht.add _ _
      · exact ht
    | _ => exact absurd rfl he

theorem isTidy_run {medium : Medium} {naming : Naming} {config : ServerConfig}
    (es : List Event) : ((start medium naming config).run es).server.subscriptions.IsTidy :=
  run_keeps (P := fun h => h.server.subscriptions.IsTidy) (fun e _ _ ht => isTidy_step ht e)
    Subscriptions.isTidy_empty

/-! ### Subscribers -/

/-- Nobody but sessions is subscribed to anything. -/
def KnowsSubscribers (h : Host) : Prop :=
  ∀ uri id, h.server.subscriptions.holds uri id = true → id ∈ h.view Session.id

theorem knowsSubscribers_start {medium : Medium} {naming : Naming} {config : ServerConfig} :
    (start medium naming config).KnowsSubscribers := nofun

/-- No name is lost, and nobody subscribes. -/
theorem KnowsSubscribers.mono (hk : h.KnowsSubscribers)
    (hview : ∀ id ∈ h.view Session.id, id ∈ h'.view Session.id)
    (hholds : ∀ uri id, h'.server.subscriptions.holds uri id = true →
      h.server.subscriptions.holds uri id = true) : h'.KnowsSubscribers :=
  fun uri id hsub => hview id (hk uri id (hholds uri id hsub))

theorem KnowsSubscribers.put (hk : h.KnowsSubscribers) {s' : Session}
    (hs : h.sessions[i]? = some s) (hid : s'.id = s.id) : (h.put i s').KnowsSubscribers :=
  hk.mono (fun _ hmem => (view_put_eq (f := Session.id) hs hid).symm ▸ hmem) fun _ _ hsub => hsub

theorem view_id_close (hs : h.sessions[i]? = some s) (hstate : s.state ≠ .closed) :
    (h.close i c).view Session.id = h.view Session.id := by
  refine List.ext_getElem? fun j => ?_
  rw [view_getElem?, view_getElem?]
  by_cases hij : i = j
  · rw [← hij, getElem?_close hs hstate, hs]
    rfl
  · rw [close_ne hij]

theorem Stir.knowsSubscribers (hm : Stir h h') (hk : h.KnowsSubscribers) :
    h'.KnowsSubscribers := by
  cases hm with
  | connect =>
    refine hk.mono (fun id hmem => ?_) fun _ _ hsub => hsub
    rw [view, Host.connect, List.map_append, List.mem_append]
    exact .inl hmem
  | session hs => exact hk.put hs rfl
  | link hs => exact hk.put hs rfl
  | cut hs => exact hk.put hs rfl
  | @subscribed i s uri hs =>
    intro uri' id hsub
    rcases Bool.or_eq_true_iff.1 ((Subscriptions.holds_add ..).symm.trans hsub) with hnew | hold
    · rw [← (of_decide_eq_true hnew).2]
      exact List.mem_map_of_mem (List.mem_of_getElem? hs)
    · exact hk uri' id hold
  | unsubscribed hholds => exact hk.mono (fun _ hmem => hmem) hholds
  | registry => exact hk.mono (fun _ hmem => hmem) fun _ _ hsub => hsub

theorem Move.knowsSubscribers (hm : Move h h') (hk : h.KnowsSubscribers) :
    h'.KnowsSubscribers := by
  cases hm with
  | stir hs => exact hs.knowsSubscribers hk
  | close hs hstate =>
    refine hk.mono (fun id hmem => (view_id_close hs hstate).symm ▸ hmem) fun uri id hsub => ?_
    rw [server_close hs hstate, Subscriptions.holds_forget, Bool.and_eq_true] at hsub
    exact hsub.2
  | release hs => exact hk.put hs rfl
  | waits hs => exact hk.put hs rfl
  | clock => exact hk.mono (fun _ hmem => hmem) fun _ _ hsub => hsub

/-- The session of the next client is subscribed to nothing. -/
theorem Sound.holds_next (hh : h.Sound) (hk : h.KnowsSubscribers) (uri : String) :
    h.server.subscriptions.holds uri (h.naming.session h.sessions.length) = false := by
  refine Bool.eq_false_iff.2 fun hsub => ?_
  obtain ⟨s, hs, hid⟩ := List.mem_map.1 (hk uri _ hsub)
  obtain ⟨i, hi, rfl⟩ := List.mem_iff_getElem.1 hs
  have hname := hh.named i _ (List.getElem?_eq_getElem hi)
  exact Nat.ne_of_lt hi (h.naming.session_injective _ _ (hname.symm.trans hid))

/-! ## What is over stays over -/

/-- Sessions that are over stay so, and nothing is added to what waits for their clients. -/
def KeepsEnds (h h' : Host) : Prop :=
  ∀ (i : Nat) s, h.sessions[i]? = some s → s.state = .closed →
    ∃ s', h'.sessions[i]? = some s' ∧ s'.state = .closed ∧ s'.link.queue <:+ s.link.queue

theorem KeepsEnds.refl (h : Host) : h.KeepsEnds h :=
  fun _ s hs hstate => ⟨s, hs, hstate, List.suffix_rfl⟩

theorem KeepsEnds.trans {h'' : Host} (hk : h.KeepsEnds h') (hk' : h'.KeepsEnds h'') :
    h.KeepsEnds h'' := by
  intro i s hs hstate
  obtain ⟨s', hs', hstate', hqueue⟩ := hk i s hs hstate
  obtain ⟨s'', hs'', hstate'', hqueue'⟩ := hk' i s' hs' hstate'
  exact ⟨s'', hs'', hstate'', hqueue'.trans hqueue⟩

/-- A change to one session. -/
theorem keepsEnds_put (hs : h.sessions[i]? = some s) {s' : Session}
    (hk : s.state = .closed → s'.state = .closed ∧ s'.link.queue <:+ s.link.queue) :
    h.KeepsEnds (h.put i s') := by
  intro j t ht hstate
  rw [getElem?_put hs]
  split
  · next hij =>
    obtain rfl := Option.some.inj (hs.symm.trans (hij ▸ ht))
    exact ⟨s', rfl, hk hstate⟩
  · exact ⟨t, ht, hstate, List.suffix_rfl⟩

theorem keepsEnds_close : h.KeepsEnds (h.close i c) := by
  intro j t ht hstate
  by_cases hij : i = j
  · rw [hij, close_of_closed ht hstate]
    exact ⟨t, ht, hstate, List.suffix_rfl⟩
  · exact ⟨t, (close_ne hij).trans ht, hstate, List.suffix_rfl⟩

theorem Stir.keepsEnds (hm : Stir h h') (hh : h.Sound) : h.KeepsEnds h' := by
  cases hm with
  | connect =>
    intro i s hs hstate
    have hlt : i < h.sessions.length := (List.getElem?_eq_some_iff.1 hs).1
    rw [getElem?_connect, if_neg (Nat.ne_of_gt hlt)]
    exact ⟨s, hs, hstate, List.suffix_rfl⟩
  | session hs hstate => exact keepsEnds_put hs fun hclosed => ⟨hstate.2 hclosed, List.suffix_rfl⟩
  | @link i s link hs hopen hqueue =>
    exact keepsEnds_put hs fun hclosed =>
      ⟨hclosed, hqueue (hopen.trans (hh.finished i s hs hclosed).link)⟩
  | cut hs _ hqueue => exact keepsEnds_put hs fun hclosed => ⟨hclosed, hqueue⟩
  | subscribed | unsubscribed | registry => exact KeepsEnds.refl h

theorem Move.keepsEnds (hm : Move h h') (hh : h.Sound) : h.KeepsEnds h' := by
  cases hm with
  | stir hs => exact hs.keepsEnds hh
  | close => exact keepsEnds_close
  | release hs | waits hs => exact keepsEnds_put hs fun hclosed => ⟨hclosed, List.suffix_rfl⟩
  | clock => exact KeepsEnds.refl h

theorem Moves.keepsEnds (hm : Moves h h') (hh : h.Sound) : h.KeepsEnds h' := by
  -- The invariant goes along with what is kept.
  suffices h'.Sound ∧ h.KeepsEnds h' from this.2
  induction hm with
  | refl => exact ⟨hh, KeepsEnds.refl h⟩
  | tail _ hm ih => exact ⟨hm.sound ih.1, ih.2.trans (hm.keepsEnds ih.1)⟩

/-! ## What is closed stays closed -/

/-- Sessions that are there stay there, and no link opens again. -/
def KeepsLinks (h h' : Host) : Prop :=
  ∀ (i : Nat) s, h.sessions[i]? = some s →
    ∃ s', h'.sessions[i]? = some s' ∧ (s'.link.isOpen = true → s.link.isOpen = true)

theorem KeepsLinks.refl (h : Host) : h.KeepsLinks h := fun _ s hs => ⟨s, hs, fun hopen => hopen⟩

theorem KeepsLinks.trans {h'' : Host} (hk : h.KeepsLinks h') (hk' : h'.KeepsLinks h'') :
    h.KeepsLinks h'' := by
  intro i s hs
  obtain ⟨s', hs', hopen⟩ := hk i s hs
  obtain ⟨s'', hs'', hopen'⟩ := hk' i s' hs'
  exact ⟨s'', hs'', fun h => hopen (hopen' h)⟩

/-- A change to one session. -/
theorem keepsLinks_put (hs : h.sessions[i]? = some s) {s' : Session}
    (hk : s'.link.isOpen = true → s.link.isOpen = true) : h.KeepsLinks (h.put i s') := by
  intro j t ht
  rw [getElem?_put hs]
  split
  · next hij =>
    obtain rfl := Option.some.inj (hs.symm.trans (hij ▸ ht))
    exact ⟨s', rfl, hk⟩
  · exact ⟨t, ht, fun hopen => hopen⟩

theorem Stir.keepsLinks (hm : Stir h h') : h.KeepsLinks h' := by
  cases hm with
  | connect =>
    intro i s hs
    have hlt : i < h.sessions.length := (List.getElem?_eq_some_iff.1 hs).1
    rw [getElem?_connect, if_neg (Nat.ne_of_gt hlt)]
    exact ⟨s, hs, fun hopen => hopen⟩
  | session hs => exact keepsLinks_put hs fun hopen => hopen
  | link hs hopen => exact keepsLinks_put hs fun ho => hopen.symm.trans ho
  | cut hs hclosed => exact keepsLinks_put hs fun ho => absurd ho (Bool.eq_false_iff.1 hclosed)
  | subscribed | unsubscribed | registry => exact KeepsLinks.refl h

theorem Move.keepsLinks (hm : Move h h') : h.KeepsLinks h' := by
  cases hm with
  | stir hs => exact hs.keepsLinks
  | @close i s c hs hstate =>
    intro j t ht
    by_cases hij : i = j
    · subst hij
      exact ⟨_, getElem?_close ht ((Option.some.inj (hs.symm.trans ht)) ▸ hstate), fun ho =>
        absurd ho (Bool.eq_false_iff.1 (t.link.close_isOpen c))⟩
    · exact ⟨t, (close_ne hij).trans ht, fun hopen => hopen⟩
  | release hs | waits hs => exact keepsLinks_put hs fun hopen => hopen
  | clock => exact KeepsLinks.refl h

theorem Moves.keepsLinks (hm : Moves h h') : h.KeepsLinks h' := by
  induction hm with
  | refl => exact KeepsLinks.refl h
  | tail _ hm ih => exact ih.trans hm.keepsLinks

/-! ## Order -/

/-- Nothing is sent on the link of a session that is not registered. -/
theorem send_of_closed (hs : h.sessions[i]? = some s) (hopen : s.link.isOpen = false)
    (hlive : h.live.get? s.id = none) : (h.send i m).2 = h := by
  simp only [send, hs, Link.send_of_closed hopen, hopen]
  rw [show { s with link := s.link } = s from rfl, put_self hs]
  exact congrArg (fun live => { h with live }) (Dict.erase_of_get? hlive)

theorem deliver_of_closed (hs : h.sessions[i]? = some s) (hstate : s.state = .closed) :
    h.deliver i m = h := by
  simp only [deliver, hs, if_pos hstate]

/-- A session that is over stays as it is when it is closed, one way or the other. -/
theorem close_close {c' : Closing} : (h.close i c).close i c' = h.close i c := by
  cases hs : h.sessions[i]? with
  | none => simp only [close, hs]
  | some s =>
    by_cases hstate : s.state = .closed
    · rw [close_of_closed hs hstate, close_of_closed hs hstate]
    · exact close_of_closed (getElem?_close hs hstate) rfl

/-- Closing registers nothing. -/
theorem get?_close {id : String} (hlive : (h.close i c).live.get? id = some j) :
    h.live.get? id = some j := by
  cases hs : h.sessions[i]? with
  | none =>
    simp only [close, hs] at hlive
    exact hlive
  | some s =>
    by_cases hstate : s.state = .closed
    · rwa [close_of_closed hs hstate] at hlive
    · rw [live_close hs hstate, Dict.get?_erase] at hlive
      split at hlive
      · cases hlive
      · exact hlive

/-- A session that was closed is over. -/
theorem closed_close (hs : h.sessions[i]? = some s) :
    ∃ s', (h.close i c).sessions[i]? = some s' ∧ s'.state = .closed := by
  by_cases hstate : s.state = .closed
  · rw [close_of_closed hs hstate]
    exact ⟨s, hs, hstate⟩
  · exact ⟨_, getElem?_close hs hstate, rfl⟩

/-- Sessions are closed one after the other. -/
def closeEach (h : Host) (is : List Nat) (c : Closing) : Host :=
  is.foldl (fun h i => h.close i c) h

theorem keepsEnds_closeEach (is : List Nat) : h.KeepsEnds (h.closeEach is c) :=
  List.foldlRecOn is _ (motive := h.KeepsEnds) (.refl h) fun _ hk _ _ => hk.trans keepsEnds_close

theorem get?_closeEach {is : List Nat} {id : String} :
    (h.closeEach is c).live.get? id = some j → h.live.get? id = some j :=
  List.foldlRecOn is _
    (motive := fun h' : Host => h'.live.get? id = some j → h.live.get? id = some j)
    (fun hlive => hlive) fun _ hk _ _ hlive => hk (get?_close hlive)

/-- The other sessions stay as they are. -/
theorem closeEach_ne {is : List Nat} (hi : i ∉ is) :
    (h.closeEach is c).sessions[i]? = h.sessions[i]? :=
  List.foldlRecOn is _ (motive := fun h' : Host => h'.sessions[i]? = h.sessions[i]?) rfl
    fun _ hk j hj => (close_ne fun hij : j = i => hi (hij ▸ hj)).trans hk

/-- Sessions that are closed one after the other are all over in the end. -/
theorem closed_closeEach {is : List Nat} (hi : i ∈ is) (hs : h.sessions[i]? = some s) :
    ∃ s', (h.closeEach is c).sessions[i]? = some s' ∧ s'.state = .closed := by
  induction is generalizing h s with
  | nil => cases hi
  | cons j is ih =>
    by_cases hij : j = i
    · subst hij
      obtain ⟨s', hs', hstate'⟩ := closed_close (c := c) hs
      obtain ⟨s'', hs'', hstate'', -⟩ := keepsEnds_closeEach is j s' hs' hstate'
      exact ⟨s'', hs'', hstate''⟩
    · exact ih ((List.mem_cons.1 hi).resolve_left (Ne.symm hij)) ((close_ne hij).trans hs)

/-- To close every live session leaves none. -/
theorem Sound.live_closeAll (hh : h.Sound) : (h.closeAll c).live = ∅ := by
  refine Dict.eq_empty_iff.2 fun id => Option.eq_none_iff_forall_ne_some.2 fun i hi => ?_
  have hbefore : h.live.get? id = some i := get?_closeEach hi
  obtain ⟨s, hs, -⟩ := hh.known id i hbefore
  obtain ⟨s', hs', hstate⟩ := closed_closeEach (c := c) (Dict.mem_values.2 ⟨id, hbefore⟩) hs
  -- A session that is over is not registered, but this one would be.
  have hafter : (h.closeAll c).Sound := (moves_step (e := .closeAll c) rfl).sound hh
  obtain ⟨t, ht, hid⟩ := hafter.known id i hi
  obtain rfl := Option.some.inj (hs'.symm.trans ht)
  have hnone := hafter.registered i s' ht
  rw [(hafter.finished i s' ht hstate).link, hid, hi] at hnone
  cases hnone

/-- What the host has of its sessions agrees, and the end of a session is an end. -/
structure InOrder (h : Host) : Prop extends h.Sound where
  /-- A session that is over is not registered. -/
  gone : ∀ (i : Nat) s, h.sessions[i]? = some s → s.state = .closed → h.isLive s.id = false
  /-- It takes no message, and no text. -/
  deaf : ∀ (i : Nat) s, h.sessions[i]? = some s → s.state = .closed →
    (∀ m, h.deliver i m = h) ∧ ∀ text, h.deliverText i text = h
  /-- It cannot be closed again. -/
  close_close : ∀ i c c', (h.close i c).close i c' = h.close i c
  /-- To close every live session leaves none. -/
  live_closeAll : ∀ c, (h.closeAll c).live = ∅
  /-- What was live is over then. -/
  closed_closeAll : ∀ c id i, h.live.get? id = some i →
    ∃ s, (h.closeAll c).sessions[i]? = some s ∧ s.state = .closed

theorem Sound.inOrder (hh : h.Sound) : h.InOrder where
  toSound := hh
  gone i s hs hstate := by
    rw [isLive, Dict.contains, hh.registered i s hs, (hh.finished i s hs hstate).link]
    rfl
  deaf i s hs hstate := by
    refine ⟨fun m => deliver_of_closed hs hstate, fun text => ?_⟩
    have hlink := (hh.finished i s hs hstate).link
    have hlive : h.live.get? s.id = none := by
      rw [hh.registered i s hs, hlink]
      rfl
    rw [deliverText]
    split
    · exact deliver_of_closed hs hstate
    · rw [reject]
      split
      · rfl
      · exact send_of_closed hs hlink hlive
  close_close _ _ _ := Host.close_close
  live_closeAll _ := hh.live_closeAll
  closed_closeAll c id i hi := by
    obtain ⟨s, hs, -⟩ := hh.known id i hi
    exact closed_closeEach (Dict.mem_values.2 ⟨id, hi⟩) hs

end Host

end ContextServer
