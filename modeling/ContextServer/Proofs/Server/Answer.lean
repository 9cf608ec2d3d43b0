import ContextServer.Proofs.Dict
import ContextServer.Server.Basic

/-!
# What a request does to its session

An operation of the server changes nothing of a session but the level of its log
messages (`Server.serve_keeps`). What else can change is how far the handshake is
and who the client is, and that only at an introduction: a request for it, with
params that decode, in a session that has seen none (`Server.perform_introduction`).
Any other request for it fails (`Server.perform_other`).

The version in the answer to an introduction is the one that the client asked for
if the server speaks it, and otherwise the last one of the server
(`ServerConfig.Agrees`). It is one of the server's in any case if the server
speaks any, as one does whose configuration was built up from a name
(`ServerConfig.Built`).
-/

namespace ContextServer

/-! ## Configurations -/

namespace ServerConfig

/-- A configuration that was built up from a name. -/
inductive Built : ServerConfig → Prop
  | named (info : Implementation) : Built { info }
  | withCapabilities {c : ServerConfig} (capabilities : ServerCapabilities) :
      Built c → Built (c.withCapabilities capabilities)
  | withInstructions {c : ServerConfig} (text : String) : Built c → Built (c.withInstructions text)
  | withVersions {c : ServerConfig} (versions : List String) :
      Built c → Built (c.withVersions versions)

variable {c : ServerConfig}

/-- Who is built up from a name speaks at least one version. -/
theorem Built.versions_ne_nil (h : c.Built) : c.versions ≠ [] := by
  induction h with
  | named info => exact List.cons_ne_nil _ _
  | withCapabilities capabilities _ ih | withInstructions text _ ih => exact ih
  | withVersions versions _ ih =>
    rw [ServerConfig.withVersions]
    split
    · exact ih
    · next hne => exact fun hnil => hne (List.isEmpty_iff.2 hnil)

/-- What a server and a client that asks for `requested` agree on. -/
structure Agrees (c : ServerConfig) (requested version : String) : Prop where
  spoken : version ∈ c.versions
  asked : requested ∈ c.versions → version = requested
  last : requested ∉ c.versions → c.versions.getLast? = some version

theorem agrees_negotiate (h : c.versions ≠ []) (requested : String) :
    c.Agrees requested (negotiate requested c.versions) := by
  have hlast := List.getLast?_eq_some_getLast h
  rw [negotiate]
  split
  · next hm => exact ⟨hm, fun _ => rfl, fun hn => absurd hm hn⟩
  · next hm =>
    rw [hlast, Option.getD_some]
    exact ⟨List.getLast_mem h, fun hr => absurd hr hm, fun _ => hlast⟩

/-- The answer to an introduction tells the version. -/
theorem member?_initializeResult (version : String) :
    (InitializeResult.shape.encode (c.initializeResult version)).member? "protocolVersion" =
      some (.string version) := by
  simp only [InitializeResult.shape, Shape.encode, Shape.encodeWith, initializeResult]
  rw [Json.member?, Entries.lookup_sort, Fields.encodeWith]
  · simp [Entries.lookup, Shape.encodeWith]
  · cases c.instructions <;> simp [Fields.encodeWith]

end ServerConfig

/-! ## Operations -/

namespace Server

variable {server : Server} {s : Session} {α : Type} {shape : Shape α} {params : Option Json}

/-- What is so of an operation on decoded params and of a refusal is so of both
    together. -/
theorem given_induction {P : Served (Outcome Failure Json) → Prop}
    {operation : α → Served (Outcome Failure Json)}
    (hfail : ∀ e, decodeParams shape params = .error e → P (server.only s (.failed e)))
    (hop : ∀ a, decodeParams shape params = .ok a → P (operation a)) :
    P (server.given s shape params operation) := by
  rw [given]
  split
  · next a ha => exact hop a ha
  · next e he => exact hfail e he

/-- The configuration stays, and of the session all but the level of its log messages. -/
def Keeps (server : Server) (s : Session) (x : Served (Outcome Failure Json)) : Prop :=
  x.server.config = server.config ∧ ∃ logLevel, x.session = { s with logLevel }

theorem keeps_only (value : Outcome Failure Json) : server.Keeps s (server.only s value) :=
  ⟨rfl, s.logLevel, rfl⟩

theorem keeps_list {listing : α} : server.Keeps s (server.list s params shape listing) :=
  given_induction (fun _ _ => keeps_only _) fun _ _ => keeps_only _

theorem serve_keeps (route : Route) (params : Option Json) :
    server.Keeps s (server.serve s route params) := by
  cases route with
  | ping => exact keeps_only _
  | toolsList | resourcesList | templatesList | promptsList => exact keeps_list
  -- Subscriptions belong to the server; nothing of them is in the session.
  | toolsCall | resourcesRead | subscribe | unsubscribe | promptsGet =>
    exact given_induction (fun _ _ => keeps_only _) fun _ _ => ⟨rfl, s.logLevel, rfl⟩
  | setLevel => exact given_induction (fun _ _ => keeps_only _) fun r _ => ⟨rfl, r.level, rfl⟩

end Server

/-! ## Introductions -/

/-- The request introduces a client. -/
structure Request.Introduces (r : Request) (p : InitializeRequest) : Prop where
  method : r.method = Method.opening
  params : decodeParams InitializeRequest.shape r.params = .ok p

/-- What is wrong with an introduction of a client that is known: its params, if they do not
    decode, and otherwise that there was one before. -/
def Request.reopeningFault (r : Request) : Failure :=
  match decodeParams InitializeRequest.shape r.params with
  | .ok _ => .invalidRequest .alreadyInitialized
  | .error e => e

/-- Who a client is that introduced itself to a server. -/
def ServerConfig.clientOf (c : ServerConfig) (p : InitializeRequest) : Client :=
  { info := p.clientInfo, capabilities := p.capabilities,
    version := negotiate p.protocolVersion c.versions }

/-- What a client hears that introduced itself. -/
def ServerConfig.welcome (c : ServerConfig) (p : InitializeRequest) : Json :=
  InitializeResult.shape.encode (c.initializeResult (negotiate p.protocolVersion c.versions))

namespace Server

variable {server : Server} {s : Session} {r : Request}

/-- The first introduction of a client. -/
theorem perform_introduction {p : InitializeRequest} (hr : r.Introduces p)
    (hs : s.state = .uninitialized) : server.perform s r =
      { value := .returned (server.config.welcome p)
        session := { s with state := .initializing, client := some (server.config.clientOf p) }
        server } := by
  rw [perform, if_pos hr.method, introduce, given, hr.params]
  exact if_pos hs

/-- Any other request leaves the handshake and the client as they are, and fails if it
    was to be an introduction. -/
theorem perform_other (h : ∀ p, r.Introduces p → s.state ≠ .uninitialized) :
    server.Keeps s (server.perform s r) ∧
      (r.method = Method.opening → ∃ e, (server.perform s r).value = .failed e) := by
  rw [perform]
  split
  · next hm =>
    rw [introduce, given]
    split
    · next p hp =>
      -- The params decode, so it is the state that was not the first one.
      dsimp only
      rw [if_neg (h p ⟨hm, hp⟩)]
      exact ⟨keeps_only _, fun _ => ⟨_, rfl⟩⟩
    · exact ⟨keeps_only _, fun _ => ⟨_, rfl⟩⟩
  · next hm =>
    refine ⟨?_, fun h => absurd h hm⟩
    split
    · exact keeps_only _
    · split
      · exact serve_keeps _ _
      · exact keeps_only _

/-- An introduction of a client that is known fails, be it for its params or for its time, and
    leaves nothing. -/
theorem perform_reopening (hr : r.method = Method.opening) (hs : s.state ≠ .uninitialized) :
    server.perform s r = server.only s (.failed r.reopeningFault) := by
  rw [perform, if_pos hr, introduce, given, Request.reopeningFault]
  cases decodeParams InitializeRequest.shape r.params with
  | ok p => exact if_neg hs
  | error e => rfl

/-- A request is the first introduction of a client, or any other. -/
theorem perform_cases (server : Server) (s : Session) (r : Request) :
    (∃ p, r.Introduces p ∧ s.state = .uninitialized ∧ server.perform s r =
      { value := .returned (server.config.welcome p)
        session := { s with state := .initializing, client := some (server.config.clientOf p) }
        server }) ∨
    ((∀ p, r.Introduces p → s.state ≠ .uninitialized) ∧ server.Keeps s (server.perform s r) ∧
      (r.method = Method.opening → ∃ e, (server.perform s r).value = .failed e)) := by
  by_cases h : ∃ p, r.Introduces p ∧ s.state = .uninitialized
  · obtain ⟨p, hp, hs⟩ := h
    exact .inl ⟨p, hp, hs, perform_introduction hp hs⟩
  · have hother (p : InitializeRequest) (hp : r.Introduces p) : s.state ≠ .uninitialized :=
      fun hs => h ⟨p, hp, hs⟩
    exact .inr ⟨hother, perform_other hother⟩

end Server

end ContextServer
