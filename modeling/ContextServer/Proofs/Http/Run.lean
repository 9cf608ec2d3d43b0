import ContextServer.Http.Service
import ContextServer.Proofs.Host.Lifecycle

/-!
# Runs of the HTTP service

What can happen to the service: a server is bound to it, it gets requests, clients read
their streams or go away, and the owner of the server does something to the host
(`HttpEvent`). What an event does to the service is one of a few changes
(`HttpService.changes`). All of them but those of the owner go the ordinary way, so the
host of a service moves as any other host does (`HttpService.hostMoves_step`).

So the sessions of both providers, the one in the same process and the one over HTTP,
have one life (`Provider.lifecycle`).
-/

namespace ContextServer

/-- What can happen to a service. Streams go by their numbers. -/
inductive HttpEvent where
  /-- A server is bound, unless one was before. -/
  | bind (config : ServerConfig)
  /-- A request arrives. -/
  | handle (r : Http.Request)
  /-- What there is to read of a stream is read. -/
  | read (i : Nat)
  /-- The client of a stream goes away. -/
  | drop (i : Nat)
  /-- Something happens to the host from this side, or time passes. -/
  | host (e : Event)

/-- Nothing is done to the host behind the back of its sessions. -/
def HttpEvent.isOrdinary : HttpEvent → Bool
  | .host e => e.isOrdinary
  | _ => true

namespace HttpService

open Host (Moves)

variable {s s' : HttpService} {h h' : Host}

/-- What an event leaves behind. -/
def step (s : HttpService) : HttpEvent → HttpService
  | .bind config =>
    match s.bind config with
    | .ok s' => s'
    | .error _ => s
  | .handle r => (s.handle r).2
  | .read i => (s.read i).2
  | .drop i => s.drop i
  | .host e => s.onHost fun h => h.step e

/-- What a run leaves behind. -/
def run (s : HttpService) (es : List HttpEvent) : HttpService := es.foldl step s

/-- The host that there may be. -/
abbrev host? (s : HttpService) : Option Host := s.provider.host

theorem withHost_self (hs : s.host? = some h) : s.withHost h = s := by
  rw [withHost, Provider.withHost, ← hs]

/-! ## What an event does -/

theorem live?_eq_some {id : String} {x : Host × Nat} (hx : s.live? id = some x) :
    s.host? = some x.1 := by
  obtain ⟨h, hh, hx⟩ := Option.bind_eq_some_iff.1 hx
  obtain ⟨i, -, hx⟩ := Option.bind_eq_some_iff.1 hx
  obtain rfl := Option.some.inj hx
  exact hh

/-- The service after a stream was opened. -/
def opened (s : HttpService) (h : Host) : HttpService :=
  { s.withHost h.connect.2 with streams := s.streams ++ [{}] }

theorem openStream_of_host (hs : s.host? = some h) :
    s.openStream = (.stream h.size, s.opened h) := by
  have hhost : s.provider.host = some h := hs
  simp only [openStream, Provider.connect, hhost]
  rfl

theorem openStream_of_none (hs : s.host? = none) : s.openStream.2 = s := by
  have hhost : s.provider.host = none := hs
  simp only [openStream, Provider.connect, hhost]

theorem exists_host_of_openStream {i : Nat} (hopen : s.openStream = (.stream i, s')) :
    ∃ h, s.host? = some h ∧ i = h.size ∧ s' = s.opened h := by
  cases hs : s.host? with
  | none =>
    have hhost : s.provider.host = none := hs
    simp only [openStream, Provider.connect, hhost] at hopen
    cases hopen
  | some h =>
    rw [openStream_of_host hs] at hopen
    cases hopen
    exact ⟨h, rfl, rfl, rfl⟩

/-- All that an event can do to a service. -/
inductive Changes (s : HttpService) : HttpEvent → HttpService → Prop where
  | nothing {e : HttpEvent} : Changes s e s
  /-- A server is bound where there was none. -/
  | bound {config : ServerConfig} (hs : s.host? = none) : Changes s (.bind config)
      (s.withHost (.start s.provider.medium s.provider.naming config))
  | opened {r : Http.Request} {h : Host} (hs : s.host? = some h) :
      Changes s (.handle r) (s.opened h)
  /-- A stream was opened for its head alone. -/
  | openedHead {r : Http.Request} {h : Host} (hs : s.host? = some h) :
      Changes s (.handle r) ((s.opened h).withHost (h.connect.2.close h.size .abrupt))
  | delivered {r : Http.Request} {h : Host} {i : Nat} {m : Message} (hs : s.host? = some h) :
      Changes s (.handle r) (s.withHost (h.deliver i m))
  | rejected {r : Http.Request} {h : Host} {i : Nat} {fault : ParseFault}
      (hs : s.host? = some h) : Changes s (.handle r) (s.withHost (h.reject i fault).2)
  /-- What there was to read was read. Nothing is left to be read of a stream that was cut. -/
  | read {i : Nat} {stream : EventStream} {h : Host} {session : Session}
      (hs : s.host? = some h) (hstream : s.streams[i]? = some stream)
      (hgone : stream.isGone = false) (hsession : h.sessions[i]? = some session)
      (hcut : session.link.isCut = false) : Changes s (.read i)
      { s.withHost (h.collect i).2 with
        streams := s.streams.set i { stream with isGreeted := true } }
  | dropped {i : Nat} {stream : EventStream} (hstream : s.streams[i]? = some stream) :
      Changes s (.drop i) { s.onHost fun h => h.close i .abrupt with
        streams := s.streams.set i { stream with isGone := true } }
  | host {e : Event} : Changes s (.host e) (s.onHost fun h => h.step e)

theorem changes_bind (config : ServerConfig) :
    s.Changes (.bind config) (s.step (.bind config)) := by
  rw [step, bind, Provider.bind]
  cases hs : s.provider.host with
  | none => exact .bound hs
  | some h => exact .nothing

theorem changes_receive (r : Http.Request) : s.Changes (.handle r) (s.receive r).2 := by
  rw [receive]
  split
  · exact .nothing
  · split
    · exact .nothing
    · split
      · unfold post
        split
        · exact .nothing
        · split
          · exact .nothing
          · next hlive =>
            split
            · exact .delivered (live?_eq_some hlive)
            · exact .rejected (live?_eq_some hlive)
      · exact .nothing

theorem changes_handle (r : Http.Request) : s.Changes (.handle r) (s.handle r).2 := by
  rw [handle]
  dsimp only
  split
  · cases hs : s.host? with
    | none =>
      rw [openStream_of_none hs]
      exact .nothing
    | some h =>
      rw [openStream_of_host hs]
      exact .opened hs
  · split
    · cases hs : s.host? with
      | none =>
        have hhost : s.provider.host = none := hs
        simp only [openHead, openStream, Provider.connect, hhost]
        exact .nothing
      | some h =>
        rw [openHead, openStream_of_host hs]
        exact .openedHead hs
    · split
      · exact changes_receive r
      · split <;> exact .nothing

theorem changes_read (i : Nat) : s.Changes (.read i) (s.read i).2 := by
  rw [read]
  split
  · next hstream hs =>
    split
    · next hgone hsession =>
      split
      · exact .nothing
      · next hcut => exact .read hs hstream hgone hsession (Bool.eq_false_iff.2 hcut)
    · exact .nothing
  · exact .nothing

theorem changes_drop (i : Nat) : s.Changes (.drop i) (s.drop i) := by
  rw [drop]
  split
  · next hstream => exact .dropped hstream
  · exact .nothing

/-- Whatever an event does is one of the cases. -/
theorem changes (s : HttpService) (e : HttpEvent) : s.Changes e (s.step e) := by
  cases e with
  | bind config => exact changes_bind config
  | handle r => exact changes_handle r
  | read i => exact changes_read i
  | drop i => exact changes_drop i
  | host e => exact .host

/-! ## What the host does meanwhile -/

/-- A host that is there moves, and where there is none, none is made. -/
abbrev HostMoves : Option Host → Option Host → Prop := Option.Rel Moves

theorem hostMoves_onHost {f : Host → Host} (hf : ∀ h, Moves h (f h)) :
    HostMoves s.host? (s.onHost f).host? := by
  change HostMoves s.host? (s.host?.map f)
  cases s.host? with
  | none => exact .none
  | some h => exact .some (hf h)

theorem hostMoves_of_host (hs : s.host? = some h) (hs' : s'.host? = some h') (hm : Moves h h') :
    HostMoves s.host? s'.host? := by
  rw [hs, hs']
  exact .some hm

/-- What an event does to the host: it moves, or there was none and now there is one. -/
theorem hostMoves_step {e : HttpEvent} (he : e.isOrdinary = true) :
    HostMoves s.host? (s.step e).host? ∨
      s.host? = none ∧ ∃ config,
        (s.step e).host? = some (Host.start s.provider.medium s.provider.naming config) := by
  have hconnect {h : Host} : Moves h h.connect.2 := Host.Stir.connect.calm.moves
  have hchanges := s.changes e
  generalize s.step e = s' at hchanges
  cases hchanges with
  | bound hs => exact .inr ⟨hs, _, rfl⟩
  | nothing =>
    refine .inl ?_
    cases s.host? with
    | none => exact .none
    | some h => exact .some .refl
  | opened hs => exact .inl (hostMoves_of_host hs rfl hconnect)
  | openedHead hs =>
    exact .inl (hostMoves_of_host hs rfl (Relation.ReflTransGen.trans hconnect Host.moves_close))
  | delivered hs => exact .inl (hostMoves_of_host hs rfl Host.moves_deliver)
  | rejected hs => exact .inl (hostMoves_of_host hs rfl Host.calm_reject.moves)
  | read hs => exact .inl (hostMoves_of_host hs rfl Host.calm_collect.moves)
  | dropped => exact .inl (hostMoves_onHost fun _ => Host.moves_close)
  | host => exact .inl (hostMoves_onHost fun _ => Host.moves_step he)

/-! ## Runs -/

/-- A fresh service has no host of which anything could fail to hold. -/
theorem keeps_fresh {P : Host → Prop} {naming : Naming} {config : HttpConfig} :
    ∀ h, (fresh naming config).host? = some h → P h := by
  intro h hh
  rw [fresh] at hh
  cases hh

theorem sound_fresh {naming : Naming} {config : HttpConfig} :
    ∀ h, (fresh naming config).host? = some h → h.Sound := keeps_fresh

/-- What holds of a host at the start and is kept by every move holds of the host of a
    service. -/
theorem keeps_step {P : Host → Prop} (hstart : ∀ m n c, P (Host.start m n c))
    (hmove : ∀ h h', Host.Move h h' → P h → P h') {e : HttpEvent} (he : e.isOrdinary = true)
    (hs : ∀ h, s.host? = some h → P h) : ∀ h, (s.step e).host? = some h → P h := by
  intro h' hh'
  rcases hostMoves_step (s := s) he with hm | ⟨-, config, hfirst⟩
  · rw [hh'] at hm
    cases hhost : s.host? with
    | none =>
      rw [hhost] at hm
      cases hm
    | some h =>
      rw [hhost] at hm
      cases hm with
      | some hm => exact hm.keeps hmove (hs h hhost)
  · obtain rfl := Option.some.inj (hh'.symm.trans hfirst)
    exact hstart _ _ _

theorem keeps_run {P : Host → Prop} (hstart : ∀ m n c, P (Host.start m n c))
    (hmove : ∀ h h', Host.Move h h' → P h → P h') {es : List HttpEvent}
    (hes : ∀ e ∈ es, e.isOrdinary = true) (hs : ∀ h, s.host? = some h → P h) :
    ∀ h, (s.run es).host? = some h → P h :=
  List.foldlRecOn es step (motive := fun s => ∀ h, s.host? = some h → P h) hs
    fun _ hs e he => keeps_step hstart hmove (hes e he) hs

theorem sound_step {e : HttpEvent} (he : e.isOrdinary = true)
    (hs : ∀ h, s.host? = some h → h.Sound) : ∀ h, (s.step e).host? = some h → h.Sound :=
  keeps_step (fun _ _ _ => Host.sound_start) (fun _ _ => Host.Move.sound) he hs

/-- The host of a service moves along, once there is one. -/
theorem moves_run {es : List HttpEvent} (hes : ∀ e ∈ es, e.isOrdinary = true) {h : Host}
    (hs : s.host? = some h) : ∃ h', (s.run es).host? = some h' ∧ Moves h h' := by
  induction es generalizing s h with
  | nil => exact ⟨h, hs, .refl⟩
  | cons e es ih =>
    have hrest : ∀ e ∈ es, e.isOrdinary = true := fun e' he' => hes e' (List.mem_cons_of_mem _ he')
    rcases hostMoves_step (s := s) (hes e List.mem_cons_self) with hm | ⟨hnone, -⟩
    · rw [hs] at hm
      generalize hhost : (s.step e).host? = o at hm
      cases hm with
      | some hm =>
        obtain ⟨h', hh', hm'⟩ := ih hrest hhost
        exact ⟨h', hh', Relation.ReflTransGen.trans hm hm'⟩
    · cases hnone.symm.trans hs

theorem sound_run {es : List HttpEvent} (hes : ∀ e ∈ es, e.isOrdinary = true)
    (hs : ∀ h, s.host? = some h → h.Sound) : ∀ h, (s.run es).host? = some h → h.Sound :=
  keeps_run (fun _ _ _ => Host.sound_start) (fun _ _ => Host.Move.sound) hes hs

/-- The sessions of a service are enrolled, whatever is done to its host. -/
theorem enrolled_step (e : HttpEvent) (hs : ∀ h, s.host? = some h → h.Enrolled) :
    ∀ h, (s.step e).host? = some h → h.Enrolled := by
  by_cases he : e.isOrdinary = true
  · exact keeps_step (fun _ _ _ => Host.enrolled_start) (fun _ _ => Host.Move.enrolled) he hs
  · cases e with
    | host e =>
      intro h hh
      obtain ⟨h₀, hh₀, rfl⟩ := Option.map_eq_some_iff.1 hh
      exact (hs h₀ hh₀).step e
    | _ => exact absurd rfl he

theorem enrolled_run (es : List HttpEvent) (hs : ∀ h, s.host? = some h → h.Enrolled) :
    ∀ h, (s.run es).host? = some h → h.Enrolled :=
  List.foldlRecOn es step (motive := fun s => ∀ h, s.host? = some h → h.Enrolled) hs
    fun _ hs e _ => enrolled_step e hs

/-! ### The medium -/

/-- The messages of the service go over streams. -/
def IsStreaming (p : Provider) : Prop :=
  p.medium = .stream ∧ ∀ h, p.host = some h → h.medium = .stream

theorem isStreaming_fresh {naming : Naming} {config : HttpConfig} :
    IsStreaming (fresh naming config).provider :=
  ⟨rfl, keeps_fresh⟩

theorem isStreaming_withHost (hm : IsStreaming s.provider) (hs : s.host? = some h)
    (hc : h'.constants = h.constants) : IsStreaming (s.withHost h').provider := by
  refine ⟨hm.1, fun h'' hh => ?_⟩
  cases hh
  exact (Host.medium_of_constants hc).trans (hm.2 h hs)

theorem isStreaming_onHost (hm : IsStreaming s.provider) {f : Host → Host}
    (hf : ∀ h, (f h).constants = h.constants) : IsStreaming (s.onHost f).provider := by
  refine ⟨hm.1, fun h'' hh => ?_⟩
  obtain ⟨h, hs, rfl⟩ := Option.map_eq_some_iff.1 hh
  exact (Host.medium_of_constants (hf h)).trans (hm.2 h hs)

/-- Whatever happens, the medium stays the same. -/
theorem isStreaming_step (hm : IsStreaming s.provider) (e : HttpEvent) :
    IsStreaming (s.step e).provider := by
  have hchanges := s.changes e
  generalize s.step e = s' at hchanges
  cases hchanges with
  | nothing => exact hm
  | bound =>
    refine ⟨hm.1, fun h hh => ?_⟩
    cases hh
    exact hm.1
  | @opened _ h hs =>
    have hconnect : h.connect.2.constants = h.constants := rfl
    have hopened := isStreaming_withHost hm hs hconnect
    exact hopened
  | @openedHead _ h hs =>
    have hclose : (h.connect.2.close h.size .abrupt).constants = h.constants :=
      Host.constants_close
    have hclosed := isStreaming_withHost hm hs hclose
    exact hclosed
  | delivered hs => exact isStreaming_withHost hm hs Host.constants_deliver
  | rejected hs => exact isStreaming_withHost hm hs Host.blindToUse_constants.reject
  | @read i _ h _ hs =>
    have hcollect : (h.collect i).2.constants = h.constants := Host.blindToUse_constants.collect
    have hread := isStreaming_withHost hm hs hcollect
    exact hread
  | dropped => exact isStreaming_onHost hm fun _ => Host.constants_close
  | host => exact isStreaming_onHost hm fun _ => Host.constants_step _

theorem isStreaming_run {naming : Naming} {config : HttpConfig} (es : List HttpEvent) :
    IsStreaming ((fresh naming config).run es).provider :=
  List.foldlRecOn es HttpService.step (motive := fun s => IsStreaming s.provider)
    isStreaming_fresh fun _ hm e _ => isStreaming_step hm e

end HttpService

/-! ## The life of sessions -/

/-- **The life of sessions.** Whatever goes the ordinary way, the host of a provider is in
    order at any time, and goes on so that what is over stays over: for clients in the same
    process, and for clients over HTTP. -/
theorem Provider.lifecycle (naming : Naming) :
    (∀ (config : ServerConfig) (es es' : List Event),
        (∀ e ∈ es, e.isOrdinary = true) → (∀ e ∈ es', e.isOrdinary = true) →
        let h := (Host.start .memory naming config).run es
        h.InOrder ∧ h.KeepsEnds (h.run es')) ∧
      ∀ (config : HttpConfig) (es es' : List HttpEvent),
        (∀ e ∈ es, e.isOrdinary = true) → (∀ e ∈ es', e.isOrdinary = true) →
        let s := (HttpService.fresh naming config).run es
        ∀ h, s.host? = some h →
          h.InOrder ∧ ∃ h', (s.run es').host? = some h' ∧ h.KeepsEnds h' := by
  refine ⟨fun config es es' hes hes' => ?_, fun config es es' hes hes' h hs => ?_⟩
  · have hsound : ((Host.start .memory naming config).run es).Sound := Host.sound_run hes
    exact ⟨hsound.inOrder, (Host.moves_run hes').keepsEnds hsound⟩
  · have hsound : h.Sound := HttpService.sound_run hes HttpService.sound_fresh h hs
    obtain ⟨h', hh', hm⟩ := HttpService.moves_run hes' hs
    exact ⟨hsound.inOrder, h', hh', hm.keepsEnds hsound⟩

/-- A client in the same process leaves, and so do all clients over HTTP: none is live any
    more. -/
theorem Provider.lifecycle_left :
    let config : ServerConfig := { info := ⟨"server", "1"⟩ }
    let naming := Naming.numbered "session-" "request-" ""
    let h := (Host.start .memory naming config).run [.connect, .close 0 .graceful]
    let s := (HttpService.fresh naming {}).run [.bind config, .host .connect]
    (∃ t, h.sessions[0]? = some t ∧ t.state = .closed ∧ h.isLive t.id = false ∧
      ∀ m, h.deliver 0 m = h) ∧
    ∃ h', s.host? = some h' ∧ h'.live.size = 1 ∧ (h'.closeAll .abrupt).live = ∅ := by
  intro config naming h s
  have hs : s.host? = some ((Host.start .stream naming config).step .connect) := rfl
  have hboth := lifecycle naming
  have hmemory := (hboth.1 config [.connect, .close 0 .graceful] [] (by decide) (by decide)).1
  have hservice :=
    (hboth.2 {} [.bind config, .host .connect] [] (by decide) (by decide) _ hs).1
  exact ⟨⟨_, rfl, rfl, hmemory.gone 0 _ rfl rfl, (hmemory.deaf 0 _ rfl rfl).1⟩, _, hs, rfl,
    hservice.live_closeAll .abrupt⟩

end ContextServer
