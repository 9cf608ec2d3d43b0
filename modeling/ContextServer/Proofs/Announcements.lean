import ContextServer.Proofs.Host.Telling
import ContextServer.Proofs.Http.Run

/-!
# Announcements

What the owner of a server announces goes to the sessions that are registered, to each of
them once, and what becomes of one is its own affair (`Session.Reached`): the message is the
last in its queue, or the client is passed over because it cannot be reached, or it is given
up because its buffer is full. Nothing else happens to the host (`Host.Announced`). A
broadcast does this, and so does a change of the components if the server has declared that
it tells of changes to their family (`ServerCapabilities.Tells`). A server that has not
declared it tells nobody, and nor does a change that is none, or one that is made behind the
back of the clients (`Host.Announces`).

It takes no more of a host than that its sessions are enrolled, which they always are: with
the clients in the same process, and with those over HTTP (`Provider.announcements`).
-/

namespace ContextServer

/-! ## One session -/

namespace Link

variable {l : Link} {capacity? : Option Nat}

theorem isFull_eq_true_iff :
    l.isFull capacity? = true ↔ ∃ n, capacity? = some n ∧ n ≤ l.queue.length := by
  rw [isFull, Option.any_eq_true]
  simp only [decide_eq_true_eq]

end Link

namespace Session

variable {s : Session} {capacity? : Option Nat} {m : Message}

/-- What a message to a registered session does: the session after it, and whether it is
    still registered. -/
inductive Reached (capacity? : Option Nat) (m : Message) (s : Session) : Session → Bool → Prop where
  /-- There is room: the message comes after all that waits. -/
  | queued (hfault : s.link.fault = none)
      (hroom : ∀ n, capacity? = some n → s.link.queue.length < n) :
      Reached capacity? m s { s with link := { s.link with queue := s.link.queue ++ [m] } } true
  /-- The client cannot be reached, and the session stays as it is. -/
  | missed {e : TransportError} (hfault : s.link.fault = some e) : Reached capacity? m s s true
  /-- The buffer is full: the link is closed at once, with what waits. -/
  | givenUp {n : Nat} (hfault : s.link.fault = none) (hn : capacity? = some n)
      (hfull : n ≤ s.link.queue.length) :
      Reached capacity? m s { s with link := { s.link with isOpen := false, isCut := true } } false

theorem reached_told (hopen : s.link.isOpen = true) :
    s.Reached capacity? m (s.told capacity? m) (s.told capacity? m).link.isOpen := by
  cases hfault : s.link.fault with
  | some e =>
    have htold : s.told capacity? m = s := by simp [told, Link.send, hopen, hfault]
    rw [htold, hopen]
    exact .missed hfault
  | none =>
    cases hfull : s.link.isFull capacity? with
    | false =>
      have hroom : ∀ n, capacity? = some n → s.link.queue.length < n := fun n hn =>
        Nat.lt_of_not_le fun hle =>
          Bool.eq_false_iff.1 hfull (Link.isFull_eq_true_iff.2 ⟨n, hn, hle⟩)
      have htold : s.told capacity? m =
          { s with link := { s.link with queue := s.link.queue ++ [m] } } := by
        rw [told, Link.send_of_room hopen hfault hfull]
      rw [htold, hopen]
      exact .queued hfault hroom
    | true =>
      obtain ⟨n, hn, hle⟩ := Link.isFull_eq_true_iff.1 hfull
      have htold : s.told capacity? m =
          { s with link := { s.link with isOpen := false, isCut := true } } := by
        rw [told, Link.send_of_full hopen hfault hfull]
        rfl
      rw [htold]
      exact .givenUp hfault hn hle

end Session

/-! ## All sessions -/

namespace Host

variable {h : Host} {m : Message}

/-- A message was announced: it went to the registered sessions, whose queues hold so many
    messages at most, and nothing else happened. -/
structure Announced (capacity? : Option Nat) (m : Message) (h h' : Host) : Prop where
  /-- Every registered session has got it, as far as it could. -/
  reached : ∀ id i, h.live.get? id = some i → ∃ s s' stays,
    h.sessions[i]? = some s ∧ s.id = id ∧ h'.sessions[i]? = some s' ∧
      s.Reached capacity? m s' stays ∧
      h'.live.get? id = if stays then some i else none
  /-- The other sessions are as they were. -/
  others : ∀ i : Nat, (∀ id, h.live.get? id ≠ some i) → h'.sessions[i]? = h.sessions[i]?
  /-- None is registered that was not. -/
  unregistered : ∀ id, h.live.get? id = none → h'.live.get? id = none
  /-- The rest of the host is as it was. -/
  rest : { h' with sessions := h.sessions, live := h.live } = h

/-- Of the host itself, nothing is seen of what is sent but the sessions and the register. -/
theorem blindToSending_rest (sessions : List Session) (live : Dict Nat) :
    BlindToSending fun h : Host => { h with sessions, live } where
  link _ _ _ _ _ := rfl
  live _ _ := rfl

namespace Enrolled

variable (hh : h.Enrolled)

include hh

theorem isOpen_of_live {id : String} {i : Nat} {s : Session} (hi : h.live.get? id = some i)
    (hs : h.sessions[i]? = some s) (hid : s.id = id) : s.link.isOpen = true := by
  have hreg := hh.registered i s hs
  rw [hid, hi] at hreg
  cases hopen : s.link.isOpen with
  | true => rfl
  | false =>
    rw [hopen] at hreg
    cases hreg

/-- A broadcast is an announcement. -/
theorem announced_broadcast (method : String) (params : Option Json) :
    Announced h.medium.capacity? (.notification { method, params }) h
      (h.broadcast method params) where
  reached id i hi := by
    obtain ⟨s, hs, hid⟩ := hh.known id i hi
    have hopen := hh.isOpen_of_live hi hs hid
    have hs' := hh.getElem?_broadcast method params i
    rw [hs, Option.map_some] at hs'
    refine ⟨s, _, _, hs, hid, hs', Session.reached_told hopen, ?_⟩
    rw [← hid]
    exact (hh.step (.broadcast method params)).registered i _ hs'
  others i hi := by
    rw [hh.getElem?_broadcast]
    cases hs : h.sessions[i]? with
    | none => rfl
    | some s =>
      have hclosed : s.link.isOpen = false := Bool.eq_false_iff.2 fun hopen =>
        hi s.id ((hh.registered i s hs).trans (if_pos hopen))
      rw [Option.map_some, Session.told_of_closed hclosed]
  unregistered id hid := by
    have hh' := hh.step (.broadcast method params)
    refine Option.eq_none_iff_forall_ne_some.2 fun i hi => ?_
    -- What is registered afterwards is a session whose link was open before.
    obtain ⟨s', hs', hid'⟩ := hh'.known id i hi
    have hopen' := hh'.isOpen_of_live hi hs' hid'
    obtain ⟨s, hs, rfl⟩ :=
      Option.map_eq_some_iff.1 ((hh.getElem?_broadcast method params i).symm.trans hs')
    have hreg := (hh.registered i s hs).trans (if_pos (Link.isOpen_of_send hopen'))
    rw [show s.id = id from hid', hid] at hreg
    cases hreg
  rest := (blindToSending_rest h.sessions h.live).broadcast

end Enrolled

end Host

/-! ## Changes of the components -/

/-- The capabilities have a family with the flag that its changes are told. Templates count
    as resources. -/
def ServerCapabilities.Tells (c : ServerCapabilities) : Family → Prop
  | .tools => ∃ t, c.tools = some t ∧ t.listChanged = some true
  | .resources | .templates => ∃ r, c.resources = some r ∧ r.listChanged = some true
  | .prompts => ∃ p, c.prompts = some p ∧ p.listChanged = some true

namespace Family

variable {f : Family} {c : ServerCapabilities} {method : String}

/-- The method by which clients are told that a family changed. -/
def changeMethod : Family → String
  | .tools => "notifications/tools/list_changed"
  | .resources | .templates => "notifications/resources/list_changed"
  | .prompts => "notifications/prompts/list_changed"

/-- What clients are told when a family changed. -/
def change (f : Family) : Message := .notification { method := f.changeMethod, params := none }

theorem declared_iff {α : Type} {family : Option α} {flag : α → Option Bool} :
    (family.bind flag).getD false = true ↔ ∃ a, family = some a ∧ flag a = some true := by
  cases family with
  | none => simp
  | some a => cases hflag : flag a <;> simp [hflag]

theorem notice?_eq_some_iff : f.notice? c = some method ↔ c.Tells f ∧ method = f.changeMethod := by
  cases f <;>
    simp only [notice?, Option.ite_none_right_eq_some, Option.some.injEq, eq_comm (b := method),
      ServerCapabilities.Tells, changeMethod, ServerCapabilities.toolsListChanged,
      ServerCapabilities.resourcesListChanged, ServerCapabilities.promptsListChanged, declared_iff,
      Method.toolsListChanged, Method.resourcesListChanged, Method.promptsListChanged]

end Family

namespace Registry

variable {r : Registry} {f : Family} {key : String}

/-- To take out what is not there changes nothing. -/
theorem remove_of_not_has (hr : r.has f key = false) : r.remove f key = r := by
  cases f <;>
  · have hnone := Option.isSome_eq_false_iff.1 hr
    simp only [remove, Dict.erase_of_get? (Option.isNone_iff_eq_none.1 hnone)]

end Registry

namespace Host

variable {h : Host} {f : Family}

theorem announce_of_tells (hf : h.server.config.capabilities.Tells f) :
    h.announce f = h.broadcast f.changeMethod none := by
  simp only [announce, Family.notice?_eq_some_iff.2 ⟨hf, rfl⟩]

theorem announce_of_not_tells (hf : ¬h.server.config.capabilities.Tells f) : h.announce f = h := by
  have hnone : f.notice? h.server.config.capabilities = none :=
    Option.eq_none_iff_forall_ne_some.2 fun _ hsome => hf (Family.notice?_eq_some_iff.1 hsome).1
  simp only [announce, hnone]

theorem removeComponent_of_found {key : String} (hfound : (h.removeComponent f key).1 = true) :
    (h.removeComponent f key).2 = (h.uninstall f key).2.announce f :=
  if_pos hfound

/-- What the owner of the server does, the clients are told of when it is due, and in no other
    case. -/
structure Announces (capacity? : Option Nat) (h : Host) : Prop where
  /-- What is to be told to all is announced. -/
  broadcast : ∀ method params,
    Announced capacity? (.notification { method, params }) h (h.broadcast method params)
  /-- A component that is registered is announced as a change, if that was declared. -/
  add : ∀ c : Component, h.server.config.capabilities.Tells c.family →
    Announced capacity? c.family.change (h.install c) (h.addComponent c)
  /-- Otherwise it is registered, and that is all. -/
  add_undeclared : ∀ c : Component, ¬h.server.config.capabilities.Tells c.family →
    h.addComponent c = h.install c
  /-- Whether a component was there to be taken out. -/
  found : ∀ f key, (h.removeComponent f key).1 = h.server.registry.has f key
  /-- A component that is taken out is announced as a change, if that was declared. -/
  remove : ∀ f key, (h.removeComponent f key).1 = true →
    h.server.config.capabilities.Tells f →
    Announced capacity? f.change (h.uninstall f key).2 (h.removeComponent f key).2
  /-- Otherwise it is taken out, and that is all. -/
  remove_undeclared : ∀ f key, (h.removeComponent f key).1 = true →
    ¬h.server.config.capabilities.Tells f →
    (h.removeComponent f key).2 = (h.uninstall f key).2
  /-- To take out what is not there does nothing. -/
  remove_absent : ∀ f key, (h.removeComponent f key).1 = false → (h.removeComponent f key).2 = h
  /-- Behind the back of the clients a component is registered, -/
  install : ∀ c, ∃ registry, h.install c = { h with server := { h.server with registry } }
  /-- or taken out, and nothing but the registry changes. -/
  uninstall : ∀ f key, ∃ registry,
    (h.uninstall f key).2 = { h with server := { h.server with registry } }

theorem Enrolled.withRegistry (hh : h.Enrolled) (registry : Registry) :
    ({ h with server := { h.server with registry } } : Host).Enrolled :=
  ⟨hh.named, hh.registered, hh.known⟩

/-- A change to a family is announced if that was declared. -/
theorem Enrolled.announced_announce (hh : h.Enrolled)
    (hf : h.server.config.capabilities.Tells f) :
    Announced h.medium.capacity? f.change h (h.announce f) := by
  rw [announce_of_tells hf]
  exact hh.announced_broadcast f.changeMethod none

/-- Where sessions are enrolled, their clients are told as they should be. -/
theorem Enrolled.announces (hh : h.Enrolled) : h.Announces h.medium.capacity? where
  broadcast := hh.announced_broadcast
  add c hf := (hh.withRegistry (h.server.registry.add c)).announced_announce hf
  add_undeclared c hf := announce_of_not_tells (h := h.install c) hf
  found _ _ := rfl
  remove f key hfound hf := by
    rw [removeComponent_of_found hfound]
    exact (hh.withRegistry (h.server.registry.remove f key)).announced_announce hf
  remove_undeclared f key hfound hf := by
    rw [removeComponent_of_found hfound]
    exact announce_of_not_tells (h := (h.uninstall f key).2) hf
  remove_absent f key habsent := by
    have hremove : (h.removeComponent f key).2 = (h.uninstall f key).2 :=
      if_neg (Bool.eq_false_iff.1 habsent)
    have hregistry : h.server.registry.remove f key = h.server.registry :=
      Registry.remove_of_not_has habsent
    rw [hremove, uninstall, hregistry]
  install _ := ⟨_, rfl⟩
  uninstall _ _ := ⟨_, rfl⟩

end Host

/-! ## Both providers -/

/-- **Announcements.** Whatever happened before, the clients of a provider are told what the
    owner of the server announces, each of them once, and of changes to the components if and
    only if that was declared: clients in the same process, whose queues have no bound, and
    clients over HTTP, of whom no more than 256 events are kept. -/
theorem Provider.announcements (naming : Naming) :
    (∀ (config : ServerConfig) (es : List Event),
        ((Host.start .memory naming config).run es).Announces none) ∧
      ∀ (config : HttpConfig) (es : List HttpEvent) h,
        ((HttpService.fresh naming config).run es).host? = some h → h.Announces (some 256) := by
  refine ⟨fun config es => ?_, fun config es h hh => ?_⟩
  · have henrolled : ((Host.start .memory naming config).run es).Enrolled := Host.enrolled_run es
    have hannounces := henrolled.announces
    rwa [Host.medium_of_constants (Host.constants_run es)] at hannounces
  · have hannounces := (HttpService.enrolled_run es HttpService.keeps_fresh h hh).announces
    rwa [(HttpService.isStreaming_run es).2 h hh] at hannounces

/-- Of three clients over HTTP, one reads its stream, one went away, and one has let its buffer
    run full: the first is told that a tool was registered, and the last is given up. -/
theorem Provider.announcements_full_buffer :
    let config : ServerConfig := { info := ⟨"server", "1"⟩, capabilities := .full }
    let naming := Naming.numbered "session-" "request-" ""
    let tool : Component := .tool
      ⟨{ name := "tool", inputSchema := .object [] }, Handler.pure fun _ => .returned ""⟩
    let notice : Message := .notification { method := "notice", params := none }
    let s := (HttpService.fresh naming {}).run
      ([.bind config, .host .connect, .host .connect, .host .connect, .host (.hangUp 1)] ++
        List.replicate Medium.eventBuffer (.host (.send 2 notice)))
    ∃ h, s.host? = some h ∧
      Host.Announced (some 256) (Family.change .tools) (h.install tool) (h.addComponent tool) ∧
      (h.addComponent tool).sessions.map (·.link.queue.length) = [1, 0, 256] ∧
      (h.addComponent tool).live.size = 2 := by
  intro config naming tool notice s
  have hsizes : (s.host?.map fun h => (h.server.config.capabilities.tools,
      (h.addComponent tool).sessions.map (·.link.queue.length),
      (h.addComponent tool).live.size)) =
        some (some { listChanged := some true }, [1, 0, 256], 2) := by
    decide +kernel
  obtain ⟨h, hs, hsizes⟩ := Option.map_eq_some_iff.1 hsizes
  simp only [Prod.mk.injEq] at hsizes
  obtain ⟨htools, hqueues, hlive⟩ := hsizes
  have hannounces := (announcements naming).2 {} _ h hs
  exact ⟨h, hs, hannounces.add tool ⟨_, htools, rfl⟩, hqueues, hlive⟩

end ContextServer
