import ContextServer.Proofs.Host.Subscribers
import ContextServer.Proofs.Server.Trace

/-!
# Too late

What becomes of requests that come too late. Another introduction, of a client that is known,
fails in any case and leaves nothing behind; the error tells that there was one before, but
only if the params could be read (`Host.reopening_fails`).

A session that is over takes nothing from its link. A request that is put to it directly,
however, is answered as if the session were in use, and makes the same difference to the
server: its handlers are asked, and the session can be subscribed again
(`Host.answer_closed_run`). What it needs for that is told by the table `Server.Touches`.
-/

namespace ContextServer

/-- Only a subscription says that a subscription begins. -/
theorem Request.wish?_eq_some_true_iff {r : Request} {uri : String} :
    r.wish? uri = some true ↔ r.method = Route.subscribe.method ∧
      ∃ p, decodeParams SubscribeRequest.shape r.params = .ok p ∧ p.uri = uri := by
  rw [Request.wish?]
  split
  · next hm =>
    rw [and_iff_right hm]
    cases decodeParams SubscribeRequest.shape r.params with
    | ok p => simp
    | error e => simp
  · next hm =>
    refine iff_of_false (fun hw => ?_) fun hsub => hm hsub.1
    split at hw
    · split at hw
      · split at hw <;> cases hw
      · cases hw
    · cases hw

namespace Server

variable {server : Server} {s : Session} {r : Request} {uri : String}

/-- A session whose client is known gets a new subscription exactly by a request for it that
    the server serves. -/
theorem holds_perform_iff (hstate : s.state ≠ .uninitialized)
    (hnone : server.subscriptions.holds uri s.id = false) :
    (server.perform s r).server.subscriptions.holds uri s.id = true ↔
      r.method = Route.subscribe.method ∧
        Route.subscribe.offered server.config.capabilities = true ∧
        ∃ p, decodeParams SubscribeRequest.shape r.params = .ok p ∧ p.uri = uri := by
  have hholds : (server.perform s r).server.subscriptions.holds uri s.id =
      (Host.wish? uri (r, (server.answer s r).value)).getD false := by
    rw [(server.perform_leaves s r).holds uri, hnone]
    rfl
  rw [hholds]
  constructor
  · intro hsub
    have hwish : Host.wish? uri (r, (server.answer s r).value) = some true := by
      cases hw : Host.wish? uri (r, (server.answer s r).value) with
      | none =>
        rw [hw] at hsub
        cases hsub
      | some w =>
        rw [hw] at hsub
        exact congrArg some hsub
    rw [Host.wish?] at hwish
    split at hwish
    · cases hwish
    · next hok =>
      obtain ⟨hm, hp⟩ := Request.wish?_eq_some_true_iff.1 hwish
      by_cases hserves : server.config.capabilities.Serves r.method
      · exact ⟨hm, Route.serves_iff.1 (hm ▸ hserves), hp⟩
      · -- A method that is not served is answered with an error.
        have hopening : r.method ≠ Method.opening := hm ▸ by decide
        rw [answer, perform_unserved hstate hopening hserves] at hok
        exact absurd rfl hok
  · rintro ⟨hm, ho, p, hp, huri⟩
    have hserves : server.config.capabilities.Serves r.method := hm ▸ Route.serves_iff.2 ho
    rw [answer, value_of_returns hstate hserves (.subscribed hm hp), Host.wish?_of_success,
      Request.wish?_eq_some_true_iff.2 ⟨hm, p, hp, huri⟩]
    rfl

end Server

namespace Host

variable {h : Host} {i : Nat} {s : Session} {r : Request}

/-! ## Another introduction -/

/-- **Reopening.** A client that is known cannot be introduced again: the request fails, under
    its own id, and neither the session nor the rest of the host changes, except that the
    response goes over the link. The error says so if the params decode; if they do not, it is
    about the params. -/
theorem reopening_fails (h : Host) (i : Nat) (s : Session) (hs : h.sessions[i]? = some s)
    (hstate : s.state = .initializing ∨ s.state = .initialized) (r : Request)
    (hr : r.method = "initialize") :
    ∃ error : ErrorObject,
      let response : Response := .failure (some r.id) error
      h.answer i r = (some response, h) ∧
      h.deliver i (.request r) = (h.send i (.response response)).2 ∧
      (h.deliver i (.request r)).sessions[i]? =
        some { s with link := (s.link.send h.medium.capacity? (.response response)).2 } ∧
      (∀ p, decodeParams InitializeRequest.shape r.params = .ok p →
        error = { code := -32600, message := "Session already initialized" }) ∧
      (∀ e, decodeParams InitializeRequest.shape r.params = .error e →
        error = e.errorObject ∧ error.code = -32602) := by
  obtain ⟨hbegun, hopen⟩ : s.state ≠ .uninitialized ∧ s.state ≠ .closed := by
    rcases hstate with hstate | hstate <;> rw [hstate] <;> decide
  have hserved : h.server.answer s r =
      h.server.only s (.failure (some r.id) r.reopeningFault.errorObject) := by
    rw [Server.answer, Server.perform_reopening hr hbegun]
    rfl
  have hanswer : h.answer i r =
      (some (.failure (some r.id) r.reopeningFault.errorObject), h) := by
    rw [answer_of_session hs, hserved, Server.only, put_self hs]
  have hdeliver : h.deliver i (.request r) =
      (h.send i (.response (.failure (some r.id) r.reopeningFault.errorObject))).2 := by
    simp only [deliver, hs, if_neg hopen, takeRequest, hanswer]
  refine ⟨r.reopeningFault.errorObject, hanswer, hdeliver, ?_, fun p hp => ?_, fun e he => ?_⟩
  · rw [hdeliver, getElem?_send hs]
  · rw [Request.reopeningFault, hp]
    rfl
  · have hfault : r.reopeningFault = e := by rw [Request.reopeningFault, he]
    rw [hfault]
    exact ⟨rfl, code_decodeParams he⟩

/-- The same introduction for a second time. -/
theorem reopening_fails_repeated :
    let params : Json := .object
      [("clientInfo", .object [("name", .string "client"), ("version", .string "1")]),
        ("protocolVersion", .string "2024-11-05")]
    let first : Request := { id := .number 1, method := "initialize", params := some params }
    let second : Request := { first with id := .number 2 }
    let h := (start .memory (.numbered "session-" "request-" "")
      { info := ⟨"server", "1"⟩ }).run [.connect, .deliver 0 (.request first)]
    h.answer 0 second =
      (some (.failure (some (.number 2))
        { code := -32600, message := "Session already initialized" }), h) := by
  intro params first second h
  obtain ⟨error, hanswer, -, -, hknown, -⟩ := reopening_fails h 0 _ rfl (.inl rfl) second rfl
  rw [hanswer, hknown _ rfl]

/-- Params that cannot be read are refused as such. -/
theorem reopening_fails_unreadable :
    let params : Json := .object
      [("clientInfo", .object [("name", .string "client"), ("version", .string "1")]),
        ("protocolVersion", .string "2024-11-05")]
    let first : Request := { id := .number 1, method := "initialize", params := some params }
    let second : Request :=
      { id := .number 2, method := "initialize"
        params := some (.object [("protocolVersion", .number (.integer ⟨5, by decide⟩))]) }
    let h := (start .memory (.numbered "session-" "request-" "")
      { info := ⟨"server", "1"⟩ }).run [.connect, .deliver 0 (.request first)]
    h.sessions[0]?.map (·.state) = some .initializing ∧
      (h.answer 0 second).1 = some (.failure (some (.number 2))
        { code := -32602, message := "invalid type: integer `5`, expected a string" }) ∧
      ¬∃ error : ErrorObject, error.code = -32600 ∧
        (h.answer 0 second).1 = some (.failure (some (.number 2)) error) := by
  intro params first second h
  have hanswer : (h.answer 0 second).1 = some (.failure (some (.number 2))
      { code := -32602, message := "invalid type: integer `5`, expected a string" }) := by
    decide +kernel
  refine ⟨rfl, hanswer, ?_⟩
  rintro ⟨error, hcode, herror⟩
  cases hanswer.symm.trans herror
  cases hcode

/-! ## Requests to a session that is over -/

/-- A request makes a difference to the host exactly if the server says so. -/
theorem answer_ne_iff (hs : h.sessions[i]? = some s) :
    (h.answer i r).2 ≠ h ↔ h.server.Marks s (h.server.perform s r) := by
  rw [answer_of_session hs]
  constructor
  · intro hne
    by_cases hsession : (h.server.perform s r).session = s
    · refine .inr fun hserver => hne ?_
      rw [Server.answer, hsession, hserver, put_self hs]
    · exact .inl hsession
  · intro hmarks he
    have hsession := getElem?_answer (r := r) hs
    rw [answer_of_session hs, he, hs] at hsession
    rcases hmarks with hne | hne
    · exact hne (Option.some.inj hsession).symm
    · exact hne (congrArg Host.server he)

/-- **After the end.** In whatever way a session came to be over, it takes no message; and if
    no request was put to any session directly, it is subscribed to nothing. A request that is
    put to it directly is answered as one in use would answer it. It changes the host exactly
    if it is served by a route that makes a difference, and it subscribes the session exactly
    if it asks for that and the server serves it. The session remains over. -/
theorem answer_closed_run (medium : Medium) (naming : Naming) (config : ServerConfig)
    (es : List Event) (i : Nat) (s : Session)
    (hs : ((start medium naming config).run es).sessions[i]? = some s)
    (hstate : s.state = .closed) :
    let h := (start medium naming config).run es
    (∀ m, h.deliver i m = h) ∧
    ((∀ e ∈ es, e.isOrdinary = true) →
      ∀ uri, h.server.subscriptions.holds uri s.id = false) ∧
    ∀ r : Request,
      ((h.answer i r).2 ≠ h ↔ ∃ route : Route, r.method = route.method ∧
        route.offered config.capabilities = true ∧ h.server.Touches s r.params route) ∧
      (∀ uri, h.server.subscriptions.holds uri s.id = false →
        ((h.answer i r).2.server.subscriptions.holds uri s.id = true ↔
          r.method = "resources/subscribe" ∧ config.capabilities.resourcesSubscribe = true ∧
            ∃ p, decodeParams SubscribeRequest.shape r.params = .ok p ∧ p.uri = uri)) ∧
      (h.answer i r).1 = ((h.put i { s with state := .initialized }).answer i r).1 ∧
      ∃ logLevel, (h.answer i r).2.sessions[i]? = some { s with logLevel } := by
  intro h
  have hbegun : s.state ≠ .uninitialized := hstate ▸ nofun
  have hconfig : h.server.config = config := config_run es
  refine ⟨fun m => deliver_of_closed hs hstate,
    fun hes uri => ((sound_run hes).finished i s hs hstate).subscriptions uri,
    fun r => ⟨?_, fun uri hnone => ?_, ?_, ?_⟩⟩
  · rw [answer_ne_iff hs, Server.marks_perform_iff (isTidy_run es) hbegun, hconfig]
  · rw [answer_of_session hs]
    have hholds := Server.holds_perform_iff (r := r) hbegun hnone
    rwa [hconfig] at hholds
  · have hput : (h.put i { s with state := .initialized }).sessions[i]? =
        some { s with state := .initialized } := (getElem?_put hs _ i).trans (if_pos rfl)
    rw [answer_of_session hs, answer_of_session hput]
    exact congrArg (fun value => some (Server.respond r.id value))
      (Server.value_perform (s := { s with state := .initialized }) nofun hbegun)
  · obtain ⟨-, logLevel, hsession⟩ :=
      (h.server.perform_other (r := r) fun _ _ => hbegun).1
    exact ⟨logLevel, (getElem?_answer hs).trans (congrArg some hsession)⟩

/-- A tool is called in a session that is over. -/
theorem answer_closed_run_tool :
    let tool : ToolComponent :=
      { descriptor := { name := "tool", inputSchema := .object [] }
        handler := .pure fun _ => .returned "" }
    let config : ServerConfig := { info := ⟨"server", "1"⟩, capabilities := .full }
    let h := (start .memory (.numbered "session-" "request-" "") config).run
      [.install (.tool tool), .connect, .close 0 .abrupt]
    let r : Request :=
      { id := .number 1, method := "tools/call"
        params := some (.object [("name", .string "tool")]) }
    h.sessions[0]?.map (·.state) = some .closed ∧ (h.answer 0 r).2 ≠ h := by
  intro tool config h r
  have hlate := (answer_closed_run .memory (.numbered "session-" "request-" "") config
    [.install (.tool tool), .connect, .close 0 .abrupt] 0 _ rfl rfl).2.2 r
  exact ⟨rfl, hlate.1.2 ⟨.toolsCall, rfl, rfl, { name := "tool" }, rfl, tool, rfl⟩⟩

/-- A session that is over subscribes. -/
theorem answer_closed_run_subscribe :
    let config : ServerConfig := { info := ⟨"server", "1"⟩, capabilities := .full }
    let h := (start .memory (.numbered "session-" "request-" "") config).run
      [.connect, .close 0 .abrupt]
    let r : Request :=
      { id := .number 2, method := "resources/subscribe"
        params := some (.object [("uri", .string "file:a")]) }
    h.sessions[0]?.map (·.state) = some .closed ∧
      h.server.subscriptions.holds "file:a" "session-0" = false ∧
      (h.answer 0 r).2.sessions[0]?.map (·.state) = some .closed ∧
      (h.answer 0 r).2.server.subscriptions.holds "file:a" "session-0" = true := by
  decide +kernel

end Host

end ContextServer
