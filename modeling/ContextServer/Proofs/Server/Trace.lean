import ContextServer.Proofs.Server.Dispatch
import ContextServer.Proofs.Server.Recall
import ContextServer.Proofs.Server.Subscriptions

/-!
# Traces of requests

Which requests make a difference to their session or to the server (`Server.Marks`). Of the
routes six can make one: three ask a handler, two are about subscriptions and one is about
the level of log messages. `Server.Touches` is the table of what each of them needs for it,
and `Server.marks_serve_iff` says that the table is right. Once the client is known, this is
what any request does: one that no route serves makes no difference, and another introduction
makes none either (`Server.marks_perform_iff`).

No route looks at the session for its result, and so the result of a request is the same in
every session whose client is known (`Server.value_perform`), in one that is over, too.
-/

namespace ContextServer

namespace Server

/-- The session or the server is not what it was. -/
def Marks (server : Server) (s : Session) (x : Served (Outcome Failure Json)) : Prop :=
  x.session ≠ s ∨ x.server ≠ server

/-- What has to be so of the params, the components, the subscriptions of the session and the
    level of its log messages for a route to make a difference. -/
def Touches (server : Server) (s : Session) (params : Option Json) : Route → Prop
  -- A handler is asked, and remembers it.
  | .toolsCall => ∃ p, decodeParams CallToolRequest.shape params = .ok p ∧
      ∃ c, server.registry.tools.get? p.name = some c
  | .resourcesRead => ∃ p, decodeParams ReadResourceRequest.shape params = .ok p ∧
      ((∃ c, server.registry.resources.get? p.uri = some c) ∨
        ∃ found, server.registry.templateFor? p.uri = some found)
  | .promptsGet => ∃ p, decodeParams GetPromptRequest.shape params = .ok p ∧
      ∃ c, server.registry.prompts.get? p.name = some c ∧
        Registry.missingArgument? c.descriptor p.arguments = none
  | .subscribe => ∃ p, decodeParams SubscribeRequest.shape params = .ok p ∧
      server.subscriptions.holds p.uri s.id = false
  | .unsubscribe => ∃ p, decodeParams UnsubscribeRequest.shape params = .ok p ∧
      server.subscriptions.holds p.uri s.id = true
  | .setLevel => ∃ p, decodeParams SetLevelRequest.shape params = .ok p ∧ p.level ≠ s.logLevel
  | .ping | .toolsList | .resourcesList | .templatesList | .promptsList => False

variable {server : Server} {s s' : Session} {r : Request} {α : Type} {shape : Shape α}
  {params : Option Json}

/-! ## Routes -/

theorem not_marks_only (value : Outcome Failure Json) :
    ¬server.Marks s (server.only s value) := by
  rintro (hne | hne) <;> exact hne rfl

/-- Params that do not decode make no difference. -/
theorem marks_given_iff {operation : α → Served (Outcome Failure Json)} :
    server.Marks s (server.given s shape params operation) ↔
      ∃ p, decodeParams shape params = .ok p ∧ server.Marks s (operation p) := by
  rw [given]
  cases decodeParams shape params with
  | ok p => simp
  | error e =>
    refine iff_of_false (not_marks_only _) ?_
    rintro ⟨p, hp, -⟩
    cases hp

theorem not_marks_list {listing : α} :
    ¬server.Marks s (server.list s params shape listing) := by
  intro hmarks
  obtain ⟨p, -, hmarks⟩ := marks_given_iff.1 hmarks
  exact not_marks_only _ hmarks

theorem marks_operate_iff {result : Outcome Failure α × Registry} :
    server.Marks s (server.operate s shape result) ↔ result.2 ≠ server.registry := by
  constructor
  · rintro (hne | hne) he
    · exact hne rfl
    · exact hne (by rw [operate, he])
  · exact fun hne => .inr fun he => hne (congrArg (·.registry) he)

/-- An operation on the table of subscriptions. -/
theorem marks_subscriptions_iff {t : Subscriptions} {value : Outcome Failure Json} :
    server.Marks s { value, session := s, server := { server with subscriptions := t } } ↔
      t ≠ server.subscriptions := by
  constructor
  · rintro (hne | hne) he
    · exact hne rfl
    · exact hne (by rw [he])
  · exact fun hne => .inr fun he => hne (congrArg (·.subscriptions) he)

theorem marks_logLevel_iff {logLevel : LoggingLevel} {value : Outcome Failure Json} :
    server.Marks s { value, session := { s with logLevel }, server } ↔
      logLevel ≠ s.logLevel := by
  constructor
  · rintro (hne | hne) he
    · exact hne (by rw [he])
    · exact hne rfl
  · exact fun hne => .inl fun he => hne (congrArg (·.logLevel) he)

/-- The table says when a route makes a difference. -/
theorem marks_serve_iff (htidy : server.subscriptions.IsTidy) (route : Route) :
    server.Marks s (server.serve s route params) ↔ server.Touches s params route := by
  -- On params that decode, each operation is looked at by itself.
  have hgiven {α : Type} {shape : Shape α} {operation : α → Served (Outcome Failure Json)}
      {t : α → Prop} (hop : ∀ p, server.Marks s (operation p) ↔ t p) :
      server.Marks s (server.given s shape params operation) ↔
        ∃ p, decodeParams shape params = .ok p ∧ t p :=
    marks_given_iff.trans (exists_congr fun p => and_congr_right fun _ => hop p)
  cases route with
  | ping => exact iff_of_false (not_marks_only _) not_false
  | toolsList | resourcesList | templatesList | promptsList =>
    exact iff_of_false not_marks_list not_false
  | toolsCall => exact hgiven fun p => marks_operate_iff.trans Registry.callTool_ne_iff
  | resourcesRead => exact hgiven fun p => marks_operate_iff.trans Registry.readResource_ne_iff
  | promptsGet => exact hgiven fun p => marks_operate_iff.trans Registry.getPrompt_ne_iff
  | subscribe =>
    refine hgiven fun p => marks_subscriptions_iff.trans ?_
    rw [Ne, htidy.add_eq_self_iff, Bool.not_eq_true]
  | unsubscribe =>
    refine hgiven fun p => marks_subscriptions_iff.trans ?_
    rw [Ne, htidy.remove_eq_self_iff, Bool.not_eq_false]
  | setLevel => exact hgiven fun p => marks_logLevel_iff

/-- No route looks at the session for its result. -/
theorem value_serve (route : Route) :
    (server.serve s' route params).value = (server.serve s route params).value := by
  have hgiven {α : Type} {shape : Shape α}
      {operation operation' : α → Served (Outcome Failure Json)}
      (hop : ∀ p, (operation' p).value = (operation p).value) :
      (server.given s' shape params operation').value =
        (server.given s shape params operation).value := by
    rw [given, given]
    cases decodeParams shape params with
    | ok p => exact hop p
    | error e => rfl
  cases route with
  | ping => rfl
  | _ => exact hgiven fun _ => rfl

/-! ## Requests -/

/-- Once the client is known, a request is served by a route or refused, in whichever session
    it is. -/
theorem perform_begun (server : Server) (r : Request) :
    (∃ route : Route, route.method = r.method ∧
      route.offered server.config.capabilities = true ∧
      ∀ s : Session, s.state ≠ .uninitialized →
        server.perform s r = server.serve s route r.params) ∨
    (¬server.config.capabilities.Serves r.method ∧
      ∃ e, ∀ s : Session, s.state ≠ .uninitialized →
        server.perform s r = server.only s (.failed e)) := by
  by_cases hserves : server.config.capabilities.Serves r.method
  · obtain ⟨route, hm, ho⟩ := Route.serves_iff_exists.1 hserves
    exact .inl ⟨route, hm, ho, fun s hs => perform_route hs hm ho⟩
  · refine .inr ⟨hserves, ?_⟩
    by_cases hopening : r.method = Method.opening
    · exact ⟨r.reopeningFault, fun s hs => perform_reopening hopening hs⟩
    · exact ⟨.methodNotFound r.method, fun s hs => perform_unserved hs hopening hserves⟩

/-- A request makes a difference exactly if it is served by a route that makes one. -/
theorem marks_perform_iff (htidy : server.subscriptions.IsTidy)
    (hstate : s.state ≠ .uninitialized) :
    server.Marks s (server.perform s r) ↔
      ∃ route : Route, r.method = route.method ∧
        route.offered server.config.capabilities = true ∧ server.Touches s r.params route := by
  rcases server.perform_begun r with ⟨route, hm, ho, hperform⟩ | ⟨hno, e, hperform⟩
  · rw [hperform s hstate, marks_serve_iff htidy]
    constructor
    · exact fun htouches => ⟨route, hm.symm, ho, htouches⟩
    · rintro ⟨route', hm', -, htouches⟩
      rwa [Route.eq_of_method (hm.trans hm')]
  · rw [hperform s hstate]
    refine iff_of_false (not_marks_only _) ?_
    rintro ⟨route, hm, ho, -⟩
    exact hno (Route.serves_iff_exists.2 ⟨route, hm.symm, ho⟩)

/-- The result of a request is the same in every session whose client is known. -/
theorem value_perform (hstate : s.state ≠ .uninitialized) (hstate' : s'.state ≠ .uninitialized) :
    (server.perform s' r).value = (server.perform s r).value := by
  rcases server.perform_begun r with ⟨route, -, -, hperform⟩ | ⟨-, e, hperform⟩
  · rw [hperform s hstate, hperform s' hstate']
    exact value_serve route
  · rw [hperform s hstate, hperform s' hstate']
    rfl

end Server

end ContextServer
