import ContextServer.Proofs.Host.Isolation
import ContextServer.Proofs.Host.Reply
import ContextServer.Proofs.Http.Conversation
import ContextServer.Proofs.Http.Ending
import ContextServer.Proofs.Message.Grammar
import ContextServer.Proofs.Text.Utf8

/-!
# Posting

What comes of a message that a client posts. The session that it is for is named by the query,
or else by a header (`Http.Request.Names`). The reply tells whether a session was named, whether
it is registered and whether the text is a message (`HttpService.Posted`). Only if all is well
does the session take the message, and the others notice nothing of it (`Host.OnlyTo`). In any
other case everything stays as it is, but for one response on the stream of the session: its
client is told that the text is no message, provided that the text says whom to answer
(`Message.Carries`).

All this is so for every request that the service is handed, whatever happened before
(`HttpService.post_run`).
-/

namespace ContextServer

/-! ## Requests -/

namespace Http.Request

/-- The names of sessions in the query. -/
def sessionNames (r : Http.Request) : List String :=
  ((formPairs r.query).filter fun pair => pair.1 == "sessionId").map Prod.snd

/-- The session that a request names, if any: by its query, even if the name is empty, and by
    a header if the query has no name. -/
inductive Names (r : Http.Request) : Option String → Prop
  | query {id : String} : r.sessionNames = [id] → Names r (some id)
  | header : r.sessionNames = [] → Names r (r.header? "mcp-session-id")

end Http.Request

/-- The text is an object with an identifier. -/
def Message.Carries (text : String) (id : RequestId) : Prop :=
  ∃ v, Json.parse? text = some v ∧ v.member? "id" = some id.toJson

theorem ParseFault.id?_eq_some_iff {text : String} {fault : ParseFault} {id : RequestId}
    (ht : Message.parse text = .error fault) : fault.id? = some id ↔ Message.Carries text id := by
  rw [Message.parse] at ht
  split at ht
  · next v hv =>
    have hid : fault.id? = Message.carried? v := by
      rcases Message.ofJson_eq_error ht with ⟨-, found, rfl⟩ | ⟨-, cause, rfl⟩ <;> rfl
    rw [hid, Message.carried?_eq_some_iff]
    constructor
    · exact fun hmember => ⟨v, hv, hmember⟩
    · rintro ⟨v', hv', hmember⟩
      cases hv.symm.trans hv'
      exact hmember
  · next hno =>
    cases ht
    refine iff_of_false (Option.some_ne_none id).symm ?_
    rintro ⟨v, hv, -⟩
    cases hno.symm.trans hv

/-! ## Hosts -/

namespace Host

variable {h h' : Host} {i j : Nat} {s : Session}

/-- The host without its links and without the register of the live sessions. -/
def muted (h : Host) : Host :=
  { h with sessions := h.view fun s => { s with link := {} }, live := ∅ }

theorem blindToSending_muted : BlindToSending muted where
  link h i s link hs := by
    have hview : (h.put i { s with link }).view (fun s => { s with link := {} }) =
        h.view fun s => { s with link := {} } := view_put_eq hs rfl
    rw [muted, muted, hview]
    rfl
  live _ _ := rfl

/-- What happened is the affair of one session: the others find the host as it was, and they
    are registered as before. -/
structure OnlyTo (i : Nat) (h h' : Host) : Prop where
  size : h'.size = h.size
  others : ∀ j t, j ≠ i → h.sessions[j]? = some t →
    Alike j t.id h h' ∧ h'.live.get? t.id = h.live.get? t.id

theorem onlyTo_deliver (hh : h.Enrolled) (i : Nat) (m : Message) :
    OnlyTo i h (h.deliver i m) where
  size := size_deliver
  others j t hij ht := by
    have hname (s' : Session) (hs' : h.sessions[i]? = some s') : s'.id ≠ t.id :=
      fun hid => hij (hh.eq_of_id hs' ht hid).symm
    have halike : Alike j t.id h (h.deliver i m) :=
      alike_of_other (e := .deliver i m) hname (Ne.symm hij) (decide_eq_true rfl)
    have hnext : (h.deliver i m).Enrolled := hh.step (.deliver i m)
    refine ⟨halike, ?_⟩
    rw [hnext.registered j t (halike.session.trans ht), hh.registered j t ht]

end Host

/-! ## The service -/

namespace HttpService

open Http (Reply Status)

variable {s : HttpService} {h : Host} {i : Nat} {r : Http.Request}
  {target : Option String} {text id : String} {reply : Reply}

/-- The request is handed over: it is a message for a session, if any, with this text. -/
structure HandsOver (s : HttpService) (r : Http.Request) (target : Option String)
    (text : String) : Prop where
  path : .messages ∈ s.config.endpoints r.path
  method : r.method = "POST"
  names : r.Names target
  size : r.body.size ≤ bodyLimit
  body : Utf8.decode r.body = .ok text

/-- A session is named, and it is registered, with this number at this host. -/
structure Finds (s : HttpService) (target : Option String) (h : Host) (i : Nat) : Prop where
  host : s.host? = some h
  named : ∃ id, target = some id ∧ h.live.get? id = some i

/-- What comes of a message that was handed over. -/
structure Posted (s : HttpService) (target : Option String) (text : String) (reply : Reply)
    (s' : HttpService) : Prop where
  ok : reply.status.code = 200 ↔
    (∃ h i, s.Finds target h i) ∧ ∃ m, Message.parse text = .ok m
  notFound : reply.status.code = 404 ↔ target ≠ none ∧ ¬∃ h i, s.Finds target h i
  badRequest : reply.status.code = 400 ↔
    target = none ∨ (∃ h i, s.Finds target h i) ∧ ∃ fault, Message.parse text = .error fault
  /-- The session that was named takes the message, and no other one notices. -/
  taken : ∀ h i m, s.Finds target h i → Message.parse text = .ok m →
    s' = s.withHost (h.deliver i m) ∧ Host.OnlyTo i h (h.deliver i m) ∧
      ∃ session, h.sessions[i]? = some session ∧ target = some session.id
  /-- If no message was taken, nothing changes but links and who is registered. -/
  untouched : reply.status.code ≠ 200 →
    s'.streams = s.streams ∧ s'.host?.map Host.muted = s.host?.map Host.muted
  /-- Nothing is said if there is nobody to say it to. -/
  silent : reply.status.code ≠ 200 →
    ((∃ h i, s.Finds target h i) → ¬∃ id, Message.Carries text id) → s' = s
  /-- Otherwise the session that was named is told, if its link is sound and has room. -/
  told : ∀ h i session fault id, s.Finds target h i → h.sessions[i]? = some session →
    Message.parse text = .error fault → Message.Carries text id →
    session.link.fault = none → session.link.queue.length < 256 →
    s' = s.withHost (h.put i { session with link := { session.link with
      queue := session.link.queue ++
        [.response (.failure (some id) { code := -32600, message := fault.message })] } })

/-! ### Requests that are handed over -/

theorem addressee_of_names (hr : r.Names target) : addressee r = .ok target := by
  rw [addressee]
  cases hr with
  | query hnames =>
    rw [Http.Request.sessionNames, List.map_eq_singleton_iff] at hnames
    obtain ⟨⟨name, id⟩, hpairs, rfl⟩ := hnames
    rw [sessionParameter, hpairs]
  | header hnames =>
    rw [Http.Request.sessionNames, List.map_eq_nil_iff] at hnames
    rw [sessionParameter, hnames]
    rfl

theorem HandsOver.handle (hr : s.HandsOver r target text) :
    s.handle r = (.reply (s.post target text).1, (s.post target text).2) := by
  have hreceive : s.receive r = s.post target text := by
    rw [receive, addressee_of_names hr.names]
    dsimp only
    rw [if_neg (Nat.not_lt.2 hr.size), hr.body]
  have hget : ("POST" : String) ≠ "GET" := by decide
  have hhead : ("POST" : String) ≠ "HEAD" := by decide
  simp only [HttpService.handle, hr.path, hr.method, hget, hhead, hreceive, and_false, and_self,
    if_false, if_true]

/-! ### The four outcomes -/

theorem finds_iff : s.Finds (some id) h i ↔ s.live? id = some (h, i) := by
  constructor
  · rintro ⟨hhost, _, ⟨⟩, hlive⟩
    rw [live?_eq hhost, hlive, Option.map_some]
  · intro hfound
    have hhost : s.host? = some h := live?_eq_some hfound
    rw [live?_eq hhost] at hfound
    obtain ⟨_, hlive, ⟨⟩⟩ := Option.map_eq_some_iff.1 hfound
    exact ⟨hhost, id, rfl, hlive⟩

/-- Nothing happens where no session is found. -/
theorem posted_nothing (hno : ¬∃ h i, s.Finds target h i)
    (hnotFound : reply.status.code = 404 ↔ target ≠ none)
    (hbadRequest : reply.status.code = 400 ↔ target = none) :
    s.Posted target text reply s where
  ok := by
    refine iff_of_false (fun hok => ?_) fun h => hno h.1
    by_cases htarget : target = none
    · cases (hbadRequest.2 htarget).symm.trans hok
    · cases (hnotFound.2 htarget).symm.trans hok
  notFound := by rw [hnotFound, and_iff_left hno]
  badRequest := by rw [hbadRequest, or_iff_left fun h => hno h.1]
  taken h i m hfinds := absurd ⟨h, i, hfinds⟩ hno
  untouched _ := ⟨rfl, rfl⟩
  silent _ _ := rfl
  told h i _ _ _ hfinds := absurd ⟨h, i, hfinds⟩ hno

theorem Finds.eq {h' : Host} {i' : Nat} (hfinds : s.Finds target h i)
    (hfinds' : s.Finds target h' i') : h' = h ∧ i' = i := by
  obtain ⟨id, rfl, -⟩ := hfinds.named
  cases (finds_iff.1 hfinds').symm.trans (finds_iff.1 hfinds)
  exact ⟨rfl, rfl⟩

/-- The session that is found has the name, and its link is open. -/
theorem Finds.exists_session (hh : h.Enrolled) (hfinds : s.Finds target h i) :
    ∃ session, h.sessions[i]? = some session ∧ target = some session.id ∧
      session.link.isOpen = true := by
  obtain ⟨id, rfl, hlive⟩ := hfinds.named
  obtain ⟨session, hsession, rfl⟩ := hh.known id i hlive
  refine ⟨session, hsession, rfl, ?_⟩
  rw [hh.registered i session hsession] at hlive
  split at hlive
  · next hopen => exact hopen
  · cases hlive

/-- The session that was found takes the message. -/
theorem posted_message (hh : h.Enrolled) (hfinds : s.Finds target h i) {m : Message}
    (ht : Message.parse text = .ok m) :
    s.Posted target text { status := .ok } (s.withHost (h.deliver i m)) where
  ok := iff_of_true rfl ⟨⟨h, i, hfinds⟩, m, ht⟩
  notFound := iff_of_false (by decide) fun hno => hno.2 ⟨h, i, hfinds⟩
  badRequest := by
    refine iff_of_false (by decide) ?_
    rintro (rfl | ⟨-, fault, hfault⟩)
    · obtain ⟨id, hid, -⟩ := hfinds.named
      cases hid
    · cases ht.symm.trans hfault
  taken h' i' m' hfinds' ht' := by
    obtain ⟨rfl, rfl⟩ := hfinds.eq hfinds'
    cases ht.symm.trans ht'
    obtain ⟨session, hsession, htarget, -⟩ := hfinds.exists_session hh
    exact ⟨rfl, Host.onlyTo_deliver hh _ m, session, hsession, htarget⟩
  untouched hne := absurd rfl hne
  silent hne := absurd rfl hne
  told _ _ _ _ _ _ _ hfault := by cases ht.symm.trans hfault

/-- The session that was found is told that the text is no message. -/
theorem posted_refused (hh : h.Enrolled) (hm : h.medium = .stream) (hfinds : s.Finds target h i)
    {fault : ParseFault} (ht : Message.parse text = .error fault) :
    s.Posted target text (.ofText .badRequest fault.message)
      (s.withHost (h.reject i fault).2) where
  ok := by
    refine iff_of_false (show 400 ≠ 200 by decide) ?_
    rintro ⟨-, m, hm⟩
    cases ht.symm.trans hm
  notFound := iff_of_false (show 400 ≠ 404 by decide) fun hno => hno.2 ⟨h, i, hfinds⟩
  badRequest := iff_of_true rfl (.inr ⟨⟨h, i, hfinds⟩, fault, ht⟩)
  taken _ _ _ _ hm := by cases ht.symm.trans hm
  untouched _ := by
    refine ⟨rfl, ?_⟩
    rw [hfinds.host]
    exact congrArg some Host.blindToSending_muted.reject
  silent _ hnobody := by
    have hid : fault.id? = none := Option.eq_none_iff_forall_ne_some.2 fun id hid =>
      hnobody ⟨h, i, hfinds⟩ ⟨id, (ParseFault.id?_eq_some_iff ht).1 hid⟩
    have hreject : (h.reject i fault).2 = h := by rw [Host.reject, ParseFault.answer?, hid]; rfl
    rw [hreject, withHost_self hfinds.host]
  told h' i' session fault' id hfinds' hsession hfault' hcarries hopen hroom := by
    obtain ⟨rfl, rfl⟩ := hfinds.eq hfinds'
    cases ht.symm.trans hfault'
    obtain ⟨session', hsession', -, hlink⟩ := hfinds.exists_session hh
    cases hsession.symm.trans hsession'
    have hid := (ParseFault.id?_eq_some_iff ht).2 hcarries
    have hfree : session.link.isFull h'.medium.capacity? = false := by
      rw [hm]
      exact decide_eq_false (Nat.not_le.2 hroom)
    rw [Host.reject, ParseFault.answer?, hid]
    dsimp only [Option.map_some]
    rw [Host.send_of_room hsession hlink hopen hfree]
    rfl

/-- What comes of a message for a session. -/
theorem posted_post (hh : ∀ h, s.host? = some h → h.Enrolled) (hm : IsStreaming s.provider)
    (target : Option String) (text : String) :
    s.Posted target text (s.post target text).1 (s.post target text).2 := by
  cases target with
  | none =>
    have hcode : 400 ≠ 404 := by decide
    refine posted_nothing ?_ (iff_of_false hcode fun hne => hne rfl) (iff_of_true rfl rfl)
    rintro ⟨h, i, hfinds⟩
    obtain ⟨id, hid, -⟩ := hfinds.named
    cases hid
  | some id =>
    rw [post]
    cases hfound : s.live? id with
    | none =>
      have hcode : 404 ≠ 400 := by decide
      have hsome := Option.some_ne_none id
      refine posted_nothing ?_ (iff_of_true rfl hsome) (iff_of_false hcode hsome)
      rintro ⟨h, i, hfinds⟩
      cases hfound.symm.trans (finds_iff.1 hfinds)
    | some found =>
      obtain ⟨h, i⟩ := found
      have hfinds := finds_iff.2 hfound
      have henrolled := hh h hfinds.host
      dsimp only
      cases ht : Message.parse text with
      | ok m => exact posted_message henrolled hfinds ht
      | error fault => exact posted_refused henrolled (hm.2 h hfinds.host) hfinds ht

/-- **Posting.** Whatever happened before, a message that is handed over is for the session that
    is named: it takes the message, or is told why not, and no other session notices. -/
theorem post_run (naming : Naming) (config : HttpConfig) (es : List HttpEvent)
    {r : Http.Request} {target : Option String} {text : String}
    (hr : ((fresh naming config).run es).HandsOver r target text) :
    ∃ reply s', ((fresh naming config).run es).handle r = (.reply reply, s') ∧
      ((fresh naming config).run es).Posted target text reply s' :=
  ⟨_, _, hr.handle, posted_post (enrolled_run es keeps_fresh) (isStreaming_run es) target text⟩

/-- A client names its session by a header, and posts what is no message. -/
theorem post_run_refused :
    let naming := Naming.numbered "session-" "request-" ""
    let config : ServerConfig := { info := ⟨"server", "1"⟩ }
    let s := (fresh naming {}).run
      [.bind config, .handle { method := "GET", target := "/sse" }]
    let r : Http.Request :=
      { method := "POST", target := "/message", headers := [("mcp-session-id", "session-0")]
        body := "\x7b\"id\":7\x7d".toUTF8 }
    s.HandsOver r (some "session-0") "\x7b\"id\":7\x7d" ∧
      ∃ reply s', s.handle r = (.reply reply, s') ∧ reply.status.code = 400 ∧
        (s'.host?.map fun h => h.sessions.map fun session => session.link.queue) =
          some [[.response (.failure (some (.number 7))
            { code := -32600, message := "Unsupported JSON-RPC version: <missing>" })]] := by
  intro naming config s r
  have hs : s = ((fresh naming {}).step (.bind config)).openStream.2 := run_connected _ _ []
  have hhost : s.host? = some (Host.start .stream naming config).connect.2 := by
    rw [hs]
    rfl
  have hfinds : s.Finds (some "session-0") (Host.start .stream naming config).connect.2 0 :=
    ⟨hhost, _, rfl, by decide +kernel⟩
  obtain ⟨hpath, hquery⟩ : r.path = "/message" ∧ r.query = "" :=
    Http.Request.path_of_plain rfl rfl (by decide) (by decide)
  have hnames : r.sessionNames = [] := by
    rw [Http.Request.sessionNames, hquery, Http.formPairs_empty]
    rfl
  have hheader : r.header? "mcp-session-id" = some "session-0" := by
    simp only [r, Http.Request.header?, List.find?, beq_self_eq_true, String.all_bool_eq]
    decide +kernel
  have hr : s.HandsOver r (some "session-0") "\x7b\"id\":7\x7d" :=
    { path := by
        rw [hpath, hs]
        decide +kernel
      method := rfl
      names := hheader ▸ .header hnames
      size := by decide +kernel
      body := Utf8.decode_toUTF8 "\x7b\"id\":7\x7d" }
  have hjson : Json.parse? "\x7b\"id\":7\x7d" =
      some (.object [("id", .number (.integer (.ofInt32 7)))]) := by decide +kernel
  have ht : Message.parse "\x7b\"id\":7\x7d" =
      .error (.unsupportedVersion none (some (.number 7))) := by
    rw [Message.parse, hjson]
    rfl
  obtain ⟨reply, s', hhandle, hposted⟩ := post_run naming {} _ hr
  refine ⟨hr, reply, s', hhandle, hposted.badRequest.2 (.inr ⟨⟨_, 0, hfinds⟩, _, ht⟩), ?_⟩
  have hcarries : Message.Carries "\x7b\"id\":7\x7d" (.number 7) := ⟨_, hjson, rfl⟩
  rw [hposted.told _ 0 _ _ _ hfinds rfl ht hcarries rfl (by decide)]
  rfl

end HttpService

end ContextServer
