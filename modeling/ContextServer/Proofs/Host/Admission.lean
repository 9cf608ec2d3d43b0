import ContextServer.Proofs.Host.Subscribers

/-!
# Nothing before the introduction

A session whose client has not introduced itself is not served: no handler is asked for
it, its answers do not depend on the components, and it has no part in the subscriptions
and in the levels of log messages (`Host.Serves`). In such a session a request is answered
without a look at the components (`Server.withholds`), and nobody is subscribed that has
not introduced itself (`Host.Unknown`); for the end of a session takes its subscriptions
out, which would show.

A session that is over takes nothing. So along a run whatever a message brings about for
its session comes after an introduction that was answered with a success
(`Host.opening_first`).
-/

namespace ContextServer

namespace Server

variable {server : Server} {s : Session} {r : Request}

/-! ## Requests before the introduction -/

/-- A ping is answered at any time. -/
theorem perform_ping (hr : r.method = Route.ping.method) :
    server.perform s r = server.only s (.returned (.object [])) := by
  have hopening : r.method ≠ Method.opening := hr ▸ by decide
  have hroute : Route.find? server.config.capabilities r.method = some .ping := by
    rw [hr]
    rfl
  rw [perform, if_neg hopening, if_neg fun h => h.2 hr, hroute]
  rfl

/-- Anything else is refused as long as the client has not introduced itself. -/
theorem perform_notInitialized (hs : s.state = .uninitialized)
    (hopening : r.method ≠ Method.opening) (hping : r.method ≠ Route.ping.method) :
    server.perform s r = server.only s (.failed (.invalidRequest .notInitialized)) := by
  rw [perform, if_neg hopening, if_pos ⟨hs, hping⟩]

/-- So is an introduction that cannot be read, at any time. -/
theorem perform_undecodable {e : Failure} (hr : r.method = Method.opening)
    (he : decodeParams InitializeRequest.shape r.params = .error e) :
    server.perform s r = server.only s (.failed e) := by
  rw [perform, if_pos hr, introduce, given, he]

/-- A request is answered without a look at the components, and leaves the server and the
    level of log messages as they are. -/
structure Withholds (server : Server) (s : Session) (r : Request) : Prop where
  kept : (server.perform s r).server = server
  logLevel : (server.perform s r).session.logLevel = s.logLevel
  value : ∀ registry, ({ server with registry }.perform s r).value = (server.perform s r).value

theorem withholds_of_only {value : Outcome Failure Json}
    (h : ∀ server : Server, server.perform s r = server.only s value) : server.Withholds s r where
  kept := by rw [h]; rfl
  logLevel := by rw [h]; rfl
  value registry := by rw [h, h]; rfl

/-- Before the introduction every request is answered so, the introduction itself too. -/
theorem withholds (hs : s.state = .uninitialized) : server.Withholds s r := by
  by_cases hopening : r.method = Method.opening
  · cases hp : decodeParams InitializeRequest.shape r.params with
    | error e => exact withholds_of_only fun _ => perform_undecodable hopening hp
    | ok p =>
      have hperform (server : Server) := server.perform_introduction ⟨hopening, hp⟩ hs
      refine ⟨?_, ?_, fun registry => ?_⟩
      · rw [hperform]
      · rw [hperform]
      · rw [hperform, hperform]
  · by_cases hping : r.method = Route.ping.method
    · exact withholds_of_only fun _ => perform_ping hping
    · exact withholds_of_only fun _ => perform_notInitialized hs hopening hping

end Server

namespace Host

variable {h : Host} {i : Nat} {e : Event} {s : Session} {r : Request} {m : Message}
  {uri : String}

/-! ## Service -/

/-- The host with other components. -/
def withRegistry (h : Host) (registry : Registry) : Host :=
  { h with server := { h.server with registry } }

/-- A message to a session makes the host do something for it beyond its handshake. -/
inductive Serves (h : Host) (i : Nat) (m : Message) : Prop
  /-- A handler is asked, and remembers it. -/
  | asks : (h.deliver i m).server.registry ≠ h.server.registry → Serves h i m
  /-- The answer would not be the same with other components. -/
  | discloses (registry : Registry) :
      (h.withRegistry registry).exchange? i (.deliver i m) ≠
        h.exchange? i (.deliver i m) → Serves h i m
  /-- A subscription begins or ends. -/
  | subscribes (uri id : String) : (h.deliver i m).server.subscriptions.holds uri id ≠
      h.server.subscriptions.holds uri id → Serves h i m
  /-- The client gets other log messages. -/
  | sets : (h.deliver i m).sessions[i]?.map (·.logLevel) ≠ h.sessions[i]?.map (·.logLevel) →
      Serves h i m

/-- A message that leaves the components, the subscriptions and the level of log messages as
    they are, and whose answer does not depend on the components, serves nobody. -/
theorem not_serves (hregistry : (h.deliver i m).server.registry = h.server.registry)
    (hexchange : ∀ registry,
      (h.withRegistry registry).exchange? i (.deliver i m) =
        h.exchange? i (.deliver i m))
    (hsubscriptions : ∀ uri id, (h.deliver i m).server.subscriptions.holds uri id =
      h.server.subscriptions.holds uri id)
    (hlevel : (h.deliver i m).sessions[i]?.map (·.logLevel) =
      h.sessions[i]?.map (·.logLevel)) : ¬h.Serves i m := by
  rintro (hne | ⟨registry, hne⟩ | ⟨uri, id, hne⟩ | hne)
  · exact hne hregistry
  · exact hne (hexchange registry)
  · exact hne (hsubscriptions uri id)
  · exact hne hlevel

/-- A message that is not taken changes nothing. -/
theorem not_serves_of_deaf (hdeaf : h.deliver i m = h) (ht : h.taken? i (.deliver i m) = none) :
    ¬h.Serves i m := by
  refine not_serves ?_ (fun registry => ?_) (fun uri id => ?_) ?_
  · rw [hdeaf]
  · have ht' : (h.withRegistry registry).taken? i (.deliver i m) = none := ht
    rw [exchange?, exchange?, ht, ht']
    rfl
  · rw [hdeaf]
  · rw [hdeaf]

section

variable (hs : h.sessions[i]? = some s) (hstate : s.state = .uninitialized)

include hs hstate

/-- A request before the introduction. -/
theorem not_serves_request : ¬h.Serves i (.request r) := by
  have hwithholds : h.server.Withholds s r := Server.withholds hstate
  have hopen : s.state ≠ .closed := hstate ▸ nofun
  have hserver : (h.deliver i (.request r)).server = h.server :=
    (server_deliver_request hs hopen).trans hwithholds.kept
  refine not_serves ?_ (fun registry => ?_) (fun uri id => ?_) ?_
  · rw [hserver]
  · have hs' : (h.withRegistry registry).sessions[i]? = some s := hs
    have ht : h.taken? i (.deliver i (.request r)) = some r := by simp [taken?, hs, hopen]
    have ht' : (h.withRegistry registry).taken? i (.deliver i (.request r)) = some r := ht
    rw [exchange?_of_session hs, exchange?_of_session hs', ht, ht', Option.map_some,
      Option.map_some]
    exact congrArg (fun value => some (r, Server.respond r.id value)) (hwithholds.value registry)
  · rw [hserver]
  · simp only [deliver, hs, if_neg hopen, takeRequest_of_session hs]
    rw [getElem?_send (getElem?_answer hs)]
    exact congrArg some hwithholds.logLevel

/-- A notification before the introduction, which may be the end of the session. -/
theorem not_serves_notification {n : Notification}
    (hunsubscribed : ∀ uri, h.server.subscriptions.holds uri s.id = false) :
    ¬h.Serves i (.notification n) := by
  have hopen : s.state ≠ .closed := hstate ▸ nofun
  have hdeliver : h.deliver i (.notification n) = h.takeNotification i n := by
    simp only [deliver, hs, if_neg hopen]
  rw [takeNotification] at hdeliver
  split at hdeliver
  · have hserver : (h.deliver i (.notification n)).server = h.server := by
      rw [hdeliver]
      exact change_frame (g := Host.server) fun _ _ => rfl
    refine not_serves ?_ (fun _ => rfl) (fun uri id => ?_) ?_
    · rw [hserver]
    · rw [hserver]
    · rw [hdeliver, getElem?_change hs, hs]
      rfl
  · split at hdeliver
    · refine not_serves ?_ (fun _ => rfl) (fun uri id => ?_) ?_
      · rw [hdeliver, server_close hs hopen]
      · rw [hdeliver, server_close hs hopen, Subscriptions.holds_forget]
        by_cases hid : s.id = id
        · rw [← hid, hunsubscribed uri, Bool.and_false]
        · simp [hid]
      · rw [hdeliver, getElem?_close hs hopen, hs]
        rfl
    · exact not_serves_of_deaf hdeliver rfl

/-- A response of the client, at any time. -/
theorem not_serves_response {answer : Response} : ¬h.Serves i (.response answer) := by
  have hopen : s.state ≠ .closed := hstate ▸ nofun
  have hdeliver : h.deliver i (.response answer) = h.takeResponse i answer := by
    simp only [deliver, hs, if_neg hopen]
  have hserver : (h.deliver i (.response answer)).server = h.server := by
    rw [hdeliver]
    exact blindToWaiting_server.takeResponse
  have hview : (h.takeResponse i answer).view (·.logLevel) = h.view (·.logLevel) :=
    (blindToWaiting_view fun _ _ => rfl).takeResponse
  refine not_serves ?_ (fun _ => rfl) (fun uri id => ?_) ?_
  · rw [hserver]
  · rw [hserver]
  · rw [hdeliver, ← view_getElem?, hview, view_getElem?]

/-- Before the introduction no message brings about anything for its session. -/
theorem not_serves_of_uninitialized
    (hunsubscribed : ∀ uri, h.server.subscriptions.holds uri s.id = false) : ¬h.Serves i m := by
  cases m with
  | request r => exact not_serves_request hs hstate
  | notification n => exact not_serves_notification hs hstate hunsubscribed
  | response r => exact not_serves_response hs hstate

end

/-! ## Subscribers are known -/

/-- The client of the session has introduced itself, or the session is over. -/
def HasBegun (h : Host) (i : Nat) : Prop :=
  ∃ s, h.sessions[i]? = some s ∧ s.state ≠ .uninitialized

/-- Nothing that is said before the introduction is about subscriptions. -/
theorem hasBegun_of_wishAt? {w : Bool} (hw : h.wishAt? i uri e = some w) : h.HasBegun i := by
  rw [wishAt?] at hw
  cases hs : h.sessions[i]? with
  | none =>
    rw [exchange?_absent hs] at hw
    cases hw
  | some s =>
    refine ⟨s, hs, fun hstate => ?_⟩
    rw [exchange?_of_session hs] at hw
    cases ht : h.taken? i e with
    | none =>
      rw [ht] at hw
      cases hw
    | some r =>
      rw [ht, Option.map_some, Option.bind_some] at hw
      by_cases hr : r.method ∈ [Route.subscribe.method, Route.unsubscribe.method]
      · have hne {method : String}
            (hm : method ∉ [Route.subscribe.method, Route.unsubscribe.method]) :
            r.method ≠ method := fun he => hm (he ▸ hr)
        rw [Server.answer, Server.perform_notInitialized hstate (hne (by decide))
          (hne (by decide))] at hw
        cases hw
      · rw [wish?_of_other uri _ hr] at hw
        cases hw

/-- Whoever is known stays so. -/
theorem HasBegun.step (hb : h.HasBegun i) (e : Event) : (h.step e).HasBegun i := by
  obtain ⟨s, hs, hstate⟩ := hb
  obtain ⟨s', hs', hhandles⟩ := step_handles hs e
  refine ⟨s', hs', fun hstate' => hstate ?_⟩
  have hforward := hhandles.forward.1
  rw [hstate'] at hforward
  revert hforward
  cases s.state <;> decide

/-- Nobody is subscribed that has not introduced itself. -/
theorem hasBegun_of_isSubscribed {medium : Medium} {naming : Naming} {config : ServerConfig}
    {es : List Event} (hes : ∀ e ∈ es, e.isOrdinary = true)
    (hsub : ((start medium naming config).run es).isSubscribed i uri = true) :
    ((start medium naming config).run es).HasBegun i := by
  -- The invariant needs that what the host has of its sessions agrees.
  suffices hinv : ((start medium naming config).run es).Sound ∧
      (((start medium naming config).run es).isSubscribed i uri = true →
        ((start medium naming config).run es).HasBegun i) from hinv.2 hsub
  refine run_keeps (P := fun h => h.Sound ∧ (h.isSubscribed i uri = true → h.HasBegun i))
    (fun e he h ⟨hh, hknown⟩ => ⟨(moves_step (hes e he)).sound hh, fun hsub => ?_⟩)
    ⟨sound_start, nofun⟩
  have hsays := (hh.heeds_step (hes e he)).only hsub
  cases hw : h.wishAt? i uri e with
  | some w => exact (hasBegun_of_wishAt? hw).step e
  | none =>
    rw [hw] at hsays
    exact (hknown hsays).step e

/-! ## Runs -/

/-- A session answers a request in this way, and the response goes over its link. -/
structure Replies (h : Host) (i : Nat) (r : Request) (response : Response) : Prop where
  answered : h.exchange? i (.deliver i (.request r)) = some (r, response)
  sent : ∃ s s', h.sessions[i]? = some s ∧
    (h.deliver i (.request r)).sessions[i]? = some s' ∧
    s'.link = (s.link.send h.medium.capacity? (.response response)).2

/-- A session that is not over answers every request. -/
theorem replies_of_open (hs : h.sessions[i]? = some s) (hopen : s.state ≠ .closed) :
    h.Replies i r (h.server.answer s r).value := by
  have hx : h.exchange? i (.deliver i (.request r)) = some (r, (h.server.answer s r).value) := by
    rw [exchange?_of_session hs]
    simp [taken?, hs, hopen]
  obtain ⟨s', hs', hhandles⟩ := step_handles hs (.deliver i (.request r))
  exact ⟨hx, s, s', hs, hs', hhandles.sent r _ rfl hx⟩

/-- Where no introduction was answered with a success, the client is not known. -/
theorem state_of_after_nil {c : ServerConfig} {x : Handshake}
    (ha : Handshake.After c [] (some x)) : x.state = .uninitialized ∨ x.state = .closed := by
  cases ha with
  | unknown hx => exact hx

/-- **The introduction comes first.** Along a run, a message brings about something for its
    session only after an introduction of its client was answered with a success. Until then
    a session answers every request but an introduction and a ping with the error that it is
    not set up, tied to the request. A ping is answered with a success at any time. A session
    that is over takes no message at all. -/
theorem opening_first (medium : Medium) (naming : Naming) (config : ServerConfig)
    {es : List Event} (hes : ∀ e ∈ es, e.isOrdinary = true) (i : Nat) :
    let before := start medium naming config
    let h := before.run es
    (∀ m, h.Serves i m → before.openings i es ≠ []) ∧
    ∀ s, h.sessions[i]? = some s →
      (s.state ≠ .closed → before.openings i es = [] → ∀ r : Request,
        r.method ≠ "initialize" → r.method ≠ "ping" → h.Replies i r
          (.failure (some r.id) { code := -32600, message := "Session not initialized" })) ∧
      (s.state ≠ .closed → ∀ r : Request, r.method = "ping" →
        h.Replies i r (.success (some r.id) (.object []))) ∧
      (s.state = .closed → ∀ m, h.deliver i m = h) := by
  intro before h
  have hstart : Handshake.After before.server.config [] none := .absent
  have hafter : Handshake.After config (before.openings i es)
      (h.sessions[i]?.map Session.handshake) := after_run hstart es
  have hunknown (s : Session) (hs : h.sessions[i]? = some s) (hnone : before.openings i es = []) :
      s.state = .uninitialized ∨ s.state = .closed := by
    rw [hnone, hs] at hafter
    exact state_of_after_nil hafter
  refine ⟨fun m hserves hnone => ?_, fun s hs => ⟨fun hopen hnone r hopening hping => ?_,
    fun hopen r hping => ?_, fun hstate m => deliver_of_closed hs hstate⟩⟩
  · cases hs : h.sessions[i]? with
    | none =>
      refine not_serves_of_deaf (by simp only [deliver, hs]) ?_ hserves
      cases m <;> simp [taken?, hs]
    | some s =>
      rcases hunknown s hs hnone with hstate | hstate
      · refine not_serves_of_uninitialized hs hstate (fun uri => ?_) hserves
        refine Bool.eq_false_iff.2 fun hsub => ?_
        rw [(sound_run hes).named i s hs] at hsub
        obtain ⟨s', hs', hstate'⟩ := hasBegun_of_isSubscribed hes hsub
        exact hstate' ((Option.some.inj (hs.symm.trans hs')) ▸ hstate)
      · refine not_serves_of_deaf (deliver_of_closed hs hstate) ?_ hserves
        cases m <;> simp [taken?, hs, hstate]
  · have hstate := (hunknown s hs hnone).resolve_right hopen
    have hreplies := replies_of_open hs hopen (r := r)
    rwa [Server.answer, Server.perform_notInitialized hstate hopening hping] at hreplies
  · have hreplies := replies_of_open hs hopen (r := r)
    rwa [Server.answer, Server.perform_ping hping] at hreplies

/-- A listing is refused before the introduction. -/
theorem opening_first_listing :
    let config : ServerConfig := { info := ⟨"server", "1"⟩, capabilities := .full }
    let h := (start .memory (.numbered "session-" "request-" "") config).run [.connect]
    let r : Request := { id := .number 7, method := "tools/list" }
    h.Replies 0 r
      (.failure (some (.number 7)) { code := -32600, message := "Session not initialized" }) := by
  intro config h r
  have hes : ∀ e ∈ [Event.connect], e.isOrdinary = true := by decide
  have hfirst := opening_first .memory (.numbered "session-" "request-" "") config hes 0
  exact (hfirst.2 _ rfl).1 (by decide) rfl r (by decide) (by decide)

/-- A session that was cancelled before the introduction refuses nothing: it answers no
    request. -/
theorem opening_first_cancelled :
    let config : ServerConfig := { info := ⟨"server", "1"⟩, capabilities := .full }
    let before := start .memory (.numbered "session-" "request-" "") config
    let es : List Event := [.connect, .deliver 0 (.notification { method := Method.cancelled })]
    let r : Request := { id := .number 7, method := "tools/list" }
    before.openings 0 es = [] ∧ r.method ≠ "initialize" ∧ r.method ≠ "ping" ∧
      ¬∃ error : ErrorObject, error.code = -32600 ∧
        (before.run es).Replies 0 r (.failure (some r.id) error) := by
  intro config before es r
  have hnone : (before.run es).exchange? 0 (.deliver 0 (.request r)) = none := rfl
  refine ⟨rfl, by decide, by decide, ?_⟩
  rintro ⟨error, -, hreplies⟩
  cases hnone.symm.trans hreplies.answered

end Host

end ContextServer
