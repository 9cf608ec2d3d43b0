import ContextServer.Proofs.Schema.Record
import ContextServer.Proofs.Server.Answer

/-!
# Dispatch

What the response to a request is once the client has introduced itself. Which methods are
served is read off the capabilities of the server, by a table (`ServerCapabilities.Serves`)
that says the same as the routes do (`Route.serves_iff`). Of a method that is served, the
params may be of no use (`Request.Refused`); otherwise the result is there without a handler
(`Server.Returns`), or it is up to the handler of a tool (`Registry.Calls`), of a resource or
a template (`Registry.Reads`), or of a prompt (`Registry.Fills`). What a handler reports,
the response tells (`Response.ofHandler`), and no handler can report what looks like a
method that is not served (`Server.errorCode?_serve`).

All this together is what the server answers (`Server.answer_dispatches`).
-/

namespace ContextServer

/-! ## The table of methods -/

/-- A server of these capabilities serves the method. -/
inductive ServerCapabilities.Serves (c : ServerCapabilities) (method : String) : Prop
  | ping : method = "ping" → Serves c method
  | tools : c.tools.isSome = true → method ∈ ["tools/list", "tools/call"] → Serves c method
  | resources : c.resources.isSome = true →
      method ∈ ["resources/list", "resources/read", "resources/templates/list"] → Serves c method
  | subscriptions (r : ResourcesCapability) : c.resources = some r → r.subscribe = some true →
      method ∈ ["resources/subscribe", "resources/unsubscribe"] → Serves c method
  | prompts : c.prompts.isSome = true → method ∈ ["prompts/list", "prompts/get"] → Serves c method
  | logging : c.logging.isSome = true → method = "logging/setLevel" → Serves c method

namespace Route

variable {c : ServerCapabilities} {method : String} {route : Route}

theorem mem_all (route : Route) : route ∈ all := by
  cases route <;> decide

/-- No two routes have one method. -/
theorem eq_of_method {a b : Route} (h : a.method = b.method) : a = b := by
  have hall : ∀ a ∈ all, ∀ b ∈ all, a.method = b.method → a = b := by decide
  exact hall a a.mem_all b b.mem_all h

theorem find?_eq_some_iff :
    find? c method = some route ↔ route.method = method ∧ route.offered c = true := by
  constructor
  · intro h
    simpa using List.find?_some h
  · rintro ⟨rfl, ho⟩
    have hsome : (find? c route.method).isSome = true :=
      List.find?_isSome.2 ⟨route, route.mem_all, by simp [ho]⟩
    obtain ⟨route', h⟩ := Option.isSome_iff_exists.1 hsome
    have hfound : route'.method = route.method ∧ route'.offered c = true := by
      simpa using List.find?_some h
    rw [h, eq_of_method hfound.1]

/-- The methods that are served are those of the routes that are offered. -/
theorem serves_iff_exists :
    c.Serves method ↔ ∃ route : Route, route.method = method ∧ route.offered c = true := by
  constructor
  · rintro (rfl | ⟨hc, hm⟩ | ⟨hc, hm⟩ | ⟨r, hr, hs, hm⟩ | ⟨hc, hm⟩ | ⟨hc, rfl⟩)
    · exact ⟨ping, rfl, rfl⟩
    · simp only [List.mem_cons, List.not_mem_nil, or_false] at hm
      rcases hm with rfl | rfl
      · exact ⟨toolsList, rfl, hc⟩
      · exact ⟨toolsCall, rfl, hc⟩
    · simp only [List.mem_cons, List.not_mem_nil, or_false] at hm
      rcases hm with rfl | rfl | rfl
      · exact ⟨resourcesList, rfl, hc⟩
      · exact ⟨resourcesRead, rfl, hc⟩
      · exact ⟨templatesList, rfl, hc⟩
    · have hoffered : c.resourcesSubscribe = true := by
        rw [ServerCapabilities.resourcesSubscribe, hr, Option.bind_some, hs, Option.getD_some]
      simp only [List.mem_cons, List.not_mem_nil, or_false] at hm
      rcases hm with rfl | rfl
      · exact ⟨subscribe, rfl, hoffered⟩
      · exact ⟨unsubscribe, rfl, hoffered⟩
    · simp only [List.mem_cons, List.not_mem_nil, or_false] at hm
      rcases hm with rfl | rfl
      · exact ⟨promptsList, rfl, hc⟩
      · exact ⟨promptsGet, rfl, hc⟩
    · exact ⟨setLevel, rfl, hc⟩
  · rintro ⟨route, rfl, ho⟩
    cases route with
    | ping => exact .ping rfl
    | toolsList | toolsCall => exact .tools ho (by decide)
    | resourcesList | resourcesRead | templatesList => exact .resources ho (by decide)
    | subscribe | unsubscribe =>
      obtain ⟨r, hr, hs⟩ : ∃ r, c.resources = some r ∧ r.subscribe = some true := by
        have hflag := (Option.getD_eq_iff.1 ho).resolve_right fun h => Bool.false_ne_true h.2
        exact Option.bind_eq_some_iff.1 hflag
      exact .subscriptions r hr hs (by decide)
    | promptsList | promptsGet => exact .prompts ho (by decide)
    | setLevel => exact .logging ho rfl

theorem serves_iff : c.Serves route.method ↔ route.offered c = true := by
  rw [serves_iff_exists]
  constructor
  · rintro ⟨route', hm, ho⟩
    rwa [← eq_of_method hm]
  · exact fun ho => ⟨route, rfl, ho⟩

end Route

/-! ## What handlers report -/

section

variable {α β : Type} {id : RequestId} {written : α → Json} {o : Outcome HandlerError α}

/-- The response to a request that a handler was asked for. -/
def Response.ofHandler (id : RequestId) (written : α → Json) : Outcome HandlerError α → Response
  | .returned a => .success (some id) (written a)
  | .failed (.invalidArguments cause) =>
    .failure (some id) { code := -32602, message := cause }
  | .failed (.failed cause) => .failure (some id) { code := -32603, message := cause }
  | .failed (.application cause) => .failure (some id) { code := 500, message := cause }
  | .crashed => .failure (some id) { code := -32603, message := "Handler panicked" }

theorem Server.respond_handler (f : α → β) (shape : Shape β) :
    Server.respond id (((o.mapError Failure.handler).map f).map shape.encode) =
      .ofHandler id (fun a => shape.encode (f a)) o := by
  rcases o with a | (cause | cause | cause) | _ <;> rfl

/-- A success tells that the handler returned something. -/
theorem Response.ofHandler_eq_success_iff {result : Json} :
    Response.ofHandler id written o = .success (some id) result ↔
      ∃ a, o = .returned a ∧ written a = result := by
  rcases o with a | (cause | cause | cause) | _ <;>
    simp [Response.ofHandler, Response.success, Response.failure]

end

/-! ## Requests by their methods -/

/-- Params that do not decode are invalid. -/
theorem code_decodeParams {α : Type} {shape : Shape α} {params : Option Json} {e : Failure}
    (he : decodeParams shape params = .error e) : e.errorObject.code = -32602 := by
  rw [decodeParams] at he
  split at he
  · cases he
  · cases he
    rfl

/-- The params of a request are of no use: they do not decode as the record of its method. -/
inductive Request.Refused (r : Request) (e : Failure) : Prop
  | listing : r.method ∈ ["tools/list", "resources/list", "resources/templates/list",
      "prompts/list"] → decodeParams PaginatedRequest.shape r.params = .error e → Refused r e
  | call : r.method = "tools/call" → decodeParams CallToolRequest.shape r.params = .error e →
      Refused r e
  | read : r.method = "resources/read" →
      decodeParams ReadResourceRequest.shape r.params = .error e → Refused r e
  | subscription : r.method = "resources/subscribe" →
      decodeParams SubscribeRequest.shape r.params = .error e → Refused r e
  | unsubscription : r.method = "resources/unsubscribe" →
      decodeParams UnsubscribeRequest.shape r.params = .error e → Refused r e
  | prompt : r.method = "prompts/get" → decodeParams GetPromptRequest.shape r.params = .error e →
      Refused r e
  | level : r.method = "logging/setLevel" →
      decodeParams SetLevelRequest.shape r.params = .error e → Refused r e

theorem Request.Refused.code {r : Request} {e : Failure} (h : r.Refused e) :
    e.errorObject.code = -32602 := by
  cases h with
  | listing _ he | call _ he | read _ he | subscription _ he | unsubscription _ he | prompt _ he
  | level _ he => exact code_decodeParams he

/-- The result of a request that is served without a handler. -/
inductive Server.Returns (server : Server) (r : Request) : Json → Prop
  | ping : r.method = "ping" → Returns server r (.object [])
  | tools {p : PaginatedRequest} : r.method = "tools/list" →
      decodeParams PaginatedRequest.shape r.params = .ok p →
      Returns server r (ListToolsResult.shape.encode { tools := server.registry.listTools })
  | resources {p : PaginatedRequest} : r.method = "resources/list" →
      decodeParams PaginatedRequest.shape r.params = .ok p →
      Returns server r
        (ListResourcesResult.shape.encode { resources := server.registry.listResources })
  | templates {p : PaginatedRequest} : r.method = "resources/templates/list" →
      decodeParams PaginatedRequest.shape r.params = .ok p →
      Returns server r (ListResourceTemplatesResult.shape.encode
        { resourceTemplates := server.registry.listTemplates })
  | prompts {p : PaginatedRequest} : r.method = "prompts/list" →
      decodeParams PaginatedRequest.shape r.params = .ok p →
      Returns server r (ListPromptsResult.shape.encode { prompts := server.registry.listPrompts })
  | subscribed {p : SubscribeRequest} : r.method = "resources/subscribe" →
      decodeParams SubscribeRequest.shape r.params = .ok p → Returns server r (.object [])
  | unsubscribed {p : UnsubscribeRequest} : r.method = "resources/unsubscribe" →
      decodeParams UnsubscribeRequest.shape r.params = .ok p → Returns server r (.object [])
  | level {p : SetLevelRequest} : r.method = "logging/setLevel" →
      decodeParams SetLevelRequest.shape r.params = .ok p → Returns server r (.object [])

namespace Registry

/-- The result of a call of a tool that is not registered. -/
def noTool : Json := .object [("content", .array []), ("isError", .bool true)]

/-- The result of a call of a tool that returned a text. -/
def toolText (text : String) : Json :=
  .object
    [("content", .array [.object [("text", .string text), ("type", .string "text")]]),
      ("isError", .bool false)]

/-- The result of a reading that gave these contents. -/
def readContents (contents : List ResourceContents) : Json :=
  .object [("contents", .array (contents.map ResourceContents.shape.encode))]

/-- The result of a prompt that was filled in with a text. -/
def promptText (description : Option String) (text : String) : Json :=
  GetPromptResult.shape.encode
    { description, messages := [{ role := .user, content := .ofText text }] }

variable (registry : Registry) (id : RequestId)

/-- The response to a call of a tool. -/
structure Calls (p : CallToolRequest) (a : Response) : Prop where
  unknown : a = .success (some id) noTool ↔ registry.tools.get? p.name = none
  text : ∀ text, a = .success (some id) (toolText text) ↔
    ∃ c, registry.tools.get? p.name = some c ∧
      (c.handler.ask (p.arguments.getD (.object []))).1 = .returned text
  reported : ∀ c, registry.tools.get? p.name = some c →
    a = .ofHandler id toolText (c.handler.ask (p.arguments.getD (.object []))).1

/-- The response to a reading of a URI: the resource of that very URI comes first, then the
    first template that it is an instance of. -/
structure Reads (uri : String) (a : Response) : Prop where
  unknown : a = .success (some id) (readContents []) ↔
    registry.resources.get? uri = none ∧ ∀ key c, registry.templates.get? key = some c →
      UriTemplate.match? c.descriptor.uriTemplate uri = none
  resource : ∀ c, registry.resources.get? uri = some c →
    a = .ofHandler id (fun contents => readContents [contents]) (c.handler.ask uri).1
  template : ∀ key c bindings, registry.resources.get? uri = none →
    registry.templateFor? uri = some (key, c, bindings) →
    a = .ofHandler id (fun contents => readContents [contents]) (c.handler.ask { uri, bindings }).1

/-- The response to a filling in of a prompt. -/
structure Fills (p : GetPromptRequest) (a : Response) : Prop where
  unknown : registry.prompts.get? p.name = none →
    a = .failure (some id) { code := -32602, message := "Unknown prompt: " ++ p.name }
  missing : ∀ c name, registry.prompts.get? p.name = some c →
    missingArgument? c.descriptor p.arguments = some name →
    a = .failure (some id) { code := -32602, message := "Missing required argument: " ++ name }
  reported : ∀ c, registry.prompts.get? p.name = some c →
    missingArgument? c.descriptor p.arguments = none →
    a = .ofHandler id (promptText c.descriptor.description) (c.handler.ask p.arguments).1

variable {registry id}

/-! ### Tools -/

/-- The members of an answer to a call are written in this order. -/
theorem sort_callToolResult (content isError : Json) :
    Entries.sort [("content", content), ("isError", isError)] =
      [("content", content), ("isError", isError)] := by
  have horder : ("content" : String) < "isError" := by decide
  exact Entries.Ascending.sort_eq (List.pairwise_pair.2 horder)

/-- Those of a text are written in the other order than they have. -/
theorem sort_textContent (type text : Json) :
    Entries.sort [("type", type), ("text", text)] = [("text", text), ("type", type)] := by
  have horder : ("text" : String) < "type" := by decide
  simp only [Entries.sort, List.foldl_cons, List.foldl_nil, Entries.put, if_pos horder]

theorem encode_failure : CallToolResult.shape.encode .failure = noTool :=
  congrArg Json.object (sort_callToolResult _ _)

theorem encode_ofText (text : String) :
    CallToolResult.shape.encode (.ofText text) = toolText text := by
  rw [toolText, ← sort_textContent, ← sort_callToolResult]
  rfl

theorem toolText_injective {text text' : String} (h : toolText text = toolText text') :
    text = text' := by
  simpa [toolText] using h

theorem toolText_ne_noTool (text : String) : toolText text ≠ noTool := by
  simp [toolText, noTool]

theorem success_ne {result result' : Json} (h : result ≠ result') :
    Response.success (some id) result ≠ .success (some id) result' := by
  simpa [Response.success] using h

/-- A call of a tool. -/
theorem calls_callTool (p : CallToolRequest) :
    registry.Calls id p
      (Server.respond id ((registry.callTool p).1.map CallToolResult.shape.encode)) := by
  rw [callTool]
  cases hc : registry.tools.get? p.name with
  | none =>
    have hvalue : Server.respond id (.returned (CallToolResult.shape.encode .failure)) =
        .success (some id) noTool := congrArg (Response.success (some id)) encode_failure
    refine ⟨⟨fun _ => hc, fun _ => hvalue⟩,
      fun text => ⟨fun htext => ?_, fun ⟨c, hc', _⟩ => ?_⟩, fun c hc' => ?_⟩
    · exact absurd (hvalue.symm.trans htext) (success_ne (toolText_ne_noTool text).symm)
    · cases hc.symm.trans hc'
    · cases hc.symm.trans hc'
  | some c =>
    have hvalue : Server.respond id ((((c.handler.ask (p.arguments.getD (.object []))).1.mapError
          Failure.handler).map CallToolResult.ofText).map CallToolResult.shape.encode) =
        .ofHandler id toolText (c.handler.ask (p.arguments.getD (.object []))).1 := by
      rw [Server.respond_handler, funext encode_ofText]
    dsimp only
    rw [hvalue]
    refine ⟨⟨fun hno => ?_, fun hno => ?_⟩, fun text => ?_, fun c' hc' => ?_⟩
    · obtain ⟨text, -, htext⟩ := Response.ofHandler_eq_success_iff.1 hno
      exact absurd htext (toolText_ne_noTool text)
    · cases hc.symm.trans hno
    · rw [Response.ofHandler_eq_success_iff, hc]
      constructor
      · rintro ⟨text', ho, htext⟩
        exact ⟨c, rfl, toolText_injective htext ▸ ho⟩
      · rintro ⟨c', hc', ho⟩
        cases hc'
        exact ⟨text, ho, rfl⟩
    · cases hc.symm.trans hc'
      rfl

/-! ### Resources -/

theorem encode_contents (contents : List ResourceContents) :
    ReadResourceResult.shape.encode { contents } = readContents contents := by
  simp [readContents, ReadResourceResult.shape, Shape.encode, Shape.encodeWith,
    Fields.encodeWith, Entries.sort, Entries.put]

/-- No template is found where the URI is an instance of none. -/
theorem templateFor?_eq_none_iff {uri : String} :
    registry.templateFor? uri = none ↔ ∀ key c, registry.templates.get? key = some c →
      UriTemplate.match? c.descriptor.uriTemplate uri = none := by
  rw [templateFor?, List.findSome?_eq_none_iff]
  constructor
  · exact fun h key c hc => Option.map_eq_none_iff.1 (h (key, c) (Dict.mem_entries.2 hc))
  · exact fun h (key, c) hc => Option.map_eq_none_iff.2 (h key c (Dict.mem_entries.1 hc))

/-- A handler that is asked gives contents, if anything. -/
theorem ofHandler_ne_nil {o : Outcome HandlerError ResourceContents} :
    Response.ofHandler id (fun contents => readContents [contents]) o ≠
      .success (some id) (readContents []) := by
  intro h
  obtain ⟨contents, -, hcontents⟩ := Response.ofHandler_eq_success_iff.1 h
  simp [readContents] at hcontents

/-- A reading of a URI. -/
theorem reads_readResource (uri : String) :
    registry.Reads id uri
      (Server.respond id ((registry.readResource uri).1.map ReadResourceResult.shape.encode)) := by
  have hvalue (o : Outcome HandlerError ResourceContents) :
      Server.respond id (((o.mapError Failure.handler).map fun contents =>
        ({ contents := [contents] } : ReadResourceResult)).map ReadResourceResult.shape.encode) =
        .ofHandler id (fun contents => readContents [contents]) o := by
    simp only [Server.respond_handler, encode_contents]
  rw [readResource]
  cases hc : registry.resources.get? uri with
  | some c =>
    dsimp only
    rw [hvalue]
    refine ⟨⟨fun hno => absurd hno ofHandler_ne_nil, fun hno => ?_⟩, fun c' hc' => ?_,
      fun _ _ _ hno => ?_⟩
    · cases hc.symm.trans hno.1
    · cases hc.symm.trans hc'
      rfl
    · cases hc.symm.trans hno
  | none =>
    cases htemplate : registry.templateFor? uri with
    | some x =>
      obtain ⟨key, c, bindings⟩ := x
      dsimp only
      rw [hvalue]
      refine ⟨⟨fun hno => absurd hno ofHandler_ne_nil, fun hno => ?_⟩, fun c' hc' => ?_,
        fun key' c' bindings' _ hc' => ?_⟩
      · cases htemplate.symm.trans (templateFor?_eq_none_iff.2 hno.2)
      · cases hc.symm.trans hc'
      · cases htemplate.symm.trans hc'
        rfl
    | none =>
      have hnil : Server.respond id (.returned (ReadResourceResult.shape.encode
          { contents := [] })) = .success (some id) (readContents []) :=
        congrArg (Response.success (some id)) (encode_contents [])
      refine ⟨⟨fun _ => ⟨hc, templateFor?_eq_none_iff.1 htemplate⟩, fun _ => hnil⟩,
        fun c' hc' => ?_, fun key' c' bindings' _ hc' => ?_⟩
      · cases hc.symm.trans hc'
      · cases htemplate.symm.trans hc'

/-! ### Prompts -/

/-- A filling in of a prompt. -/
theorem fills_getPrompt (p : GetPromptRequest) :
    registry.Fills id p
      (Server.respond id ((registry.getPrompt p).1.map GetPromptResult.shape.encode)) := by
  rw [getPrompt]
  cases hc : registry.prompts.get? p.name with
  | none =>
    refine ⟨fun _ => rfl, fun c name hc' => ?_, fun c hc' => ?_⟩
    · cases hc.symm.trans hc'
    · cases hc.symm.trans hc'
  | some c =>
    cases hmissing : missingArgument? c.descriptor p.arguments with
    | some name =>
      dsimp only
      rw [hmissing]
      refine ⟨fun hno => ?_, fun c' name' hc' hname => ?_, fun c' hc' hno => ?_⟩
      · cases hc.symm.trans hno
      · cases hc.symm.trans hc'
        cases hmissing.symm.trans hname
        rfl
      · cases hc.symm.trans hc'
        cases hmissing.symm.trans hno
    | none =>
      dsimp only
      rw [hmissing]
      dsimp only
      rw [Server.respond_handler]
      refine ⟨fun hno => ?_, fun c' name' hc' hname => ?_, fun c' hc' _ => ?_⟩
      · cases hc.symm.trans hno
      · cases hc.symm.trans hc'
        cases hmissing.symm.trans hname
      · cases hc.symm.trans hc'
        rfl

end Registry

namespace Server

variable {server : Server} {s : Session} {r : Request} {route : Route}

/-! ## Dispatch -/

/-- The response to a request, by its method and its params. -/
structure Dispatches (server : Server) (r : Request) (a : Response) : Prop where
  id : a.id = some r.id
  /-- One error is for the methods that are not served, and for them alone. -/
  unserved : a.error.map (·.code) = some (-32601) ↔ ¬server.config.capabilities.Serves r.method
  unknown : ¬server.config.capabilities.Serves r.method →
    a = .failure (some r.id) { code := -32601, message := "Method not found: " ++ r.method }
  refused : ∀ e, server.config.capabilities.Serves r.method → r.Refused e →
    a.error.map (·.code) = some (-32602)
  returned : ∀ result, server.config.capabilities.Serves r.method → server.Returns r result →
    a = .success (some r.id) result
  called : ∀ p, server.config.capabilities.Serves r.method → r.method = "tools/call" →
    decodeParams CallToolRequest.shape r.params = .ok p → server.registry.Calls r.id p a
  /-- A call without arguments has none, and so has one whose arguments are null. -/
  arguments : ∀ p, decodeParams CallToolRequest.shape r.params = .ok p →
    p.arguments ≠ some .null ∧
      ∀ ms, r.params = some (.object ms) → p.arguments = Json.given? "arguments" (.object ms)
  read : ∀ p, server.config.capabilities.Serves r.method → r.method = "resources/read" →
    decodeParams ReadResourceRequest.shape r.params = .ok p → server.registry.Reads r.id p.uri a
  filled : ∀ p, server.config.capabilities.Serves r.method → r.method = "prompts/get" →
    decodeParams GetPromptRequest.shape r.params = .ok p → server.registry.Fills r.id p a

/-- The code of the error that a piece of work ends with, if it does. -/
def errorCode? (o : Outcome Failure Json) : Option Int32 :=
  match o with
  | .failed e => some e.errorObject.code
  | .crashed => some (-32603)
  | .returned _ => none

theorem code_respond (id : RequestId) (o : Outcome Failure Json) :
    (respond id o).error.map (·.code) = errorCode? o := by
  cases o <;> rfl

/-- The route that a method names serves it. -/
theorem perform_route (hstate : s.state ≠ .uninitialized) (hr : route.method = r.method)
    (ho : route.offered server.config.capabilities = true) :
    server.perform s r = server.serve s route r.params := by
  have hopening : r.method ≠ Method.opening := by
    rw [← hr]
    cases route <;> decide
  rw [perform, if_neg hopening, if_neg fun h => hstate h.1, Route.find?_eq_some_iff.2 ⟨hr, ho⟩]

/-- A method that no route serves is not found. -/
theorem perform_unserved (hstate : s.state ≠ .uninitialized) (hopening : r.method ≠ Method.opening)
    (hno : ¬server.config.capabilities.Serves r.method) :
    server.perform s r = server.only s (.failed (.methodNotFound r.method)) := by
  have hnone : Route.find? server.config.capabilities r.method = none := by
    refine Option.eq_none_iff_forall_ne_some.2 fun route hroute => hno ?_
    exact Route.serves_iff_exists.2 ⟨route, Route.find?_eq_some_iff.1 hroute⟩
  rw [perform, if_neg hopening, if_neg fun h => hstate h.1, hnone]

/-! ### Errors of routes -/

section

variable {α β : Type} {f : α → β} {shape : Shape β} {registry : Registry}

/-- A handler cannot say that a method is not found. -/
theorem errorCode?_handler (o : Outcome HandlerError α) :
    errorCode? (((o.mapError Failure.handler).map f).map shape.encode) ≠ some (-32601) := by
  rcases o with a | (cause | cause | cause) | _ <;>
    simp [Outcome.mapError, Outcome.map, errorCode?, Failure.errorObject, ErrorObject.ofCode,
      ErrorCode.number]

theorem errorCode?_callTool (p : CallToolRequest) :
    errorCode? ((registry.callTool p).1.map CallToolResult.shape.encode) ≠ some (-32601) := by
  rw [Registry.callTool]
  split
  · nofun
  · exact errorCode?_handler _

theorem errorCode?_readResource (uri : String) :
    errorCode? ((registry.readResource uri).1.map ReadResourceResult.shape.encode) ≠
      some (-32601) := by
  rw [Registry.readResource]
  split
  · exact errorCode?_handler _
  · split
    · exact errorCode?_handler _
    · nofun

theorem errorCode?_getPrompt (p : GetPromptRequest) :
    errorCode? ((registry.getPrompt p).1.map GetPromptResult.shape.encode) ≠ some (-32601) := by
  rw [Registry.getPrompt]
  split
  · simp [Outcome.map, errorCode?, Failure.errorObject, ErrorObject.ofCode, ErrorCode.number]
  · split
    · simp [Outcome.map, errorCode?, Failure.errorObject, ErrorObject.ofCode, ErrorCode.number]
    · exact errorCode?_handler _

end

/-- No route says that its method is not found. -/
theorem errorCode?_serve (route : Route) (params : Option Json) :
    errorCode? (server.serve s route params).value ≠ some (-32601) := by
  have hrefused {α : Type} {shape : Shape α} (e : Failure)
      (he : decodeParams shape params = .error e) :
      errorCode? (server.only s (.failed e)).value ≠ some (-32601) := by
    have hcode : errorCode? (server.only s (.failed e)).value = some (-32602) :=
      congrArg some (code_decodeParams he)
    rw [hcode]
    decide
  cases route with
  | ping => nofun
  | toolsList | resourcesList | templatesList | promptsList | subscribe | unsubscribe | setLevel =>
    exact given_induction (P := fun x => errorCode? x.value ≠ some (-32601)) hrefused
      fun _ _ => nofun
  | toolsCall =>
    exact given_induction (P := fun x => errorCode? x.value ≠ some (-32601)) hrefused
      fun p _ => errorCode?_callTool p
  | resourcesRead =>
    exact given_induction (P := fun x => errorCode? x.value ≠ some (-32601)) hrefused
      fun p _ => errorCode?_readResource p.uri
  | promptsGet =>
    exact given_induction (P := fun x => errorCode? x.value ≠ some (-32601)) hrefused
      fun p _ => errorCode?_getPrompt p

/-! ### Routes one by one -/

section

variable (hstate : s.state ≠ .uninitialized)
  (hserves : server.config.capabilities.Serves r.method)

include hstate hserves

/-- The route of a method that is served. -/
theorem perform_served (route : Route) (hm : r.method = route.method) :
    server.perform s r = server.serve s route r.params :=
  perform_route hstate hm.symm (Route.serves_iff.1 (hm ▸ hserves))

theorem value_of_refused {e : Failure} (h : r.Refused e) :
    (server.perform s r).value = .failed e := by
  have hgiven {α : Type} {shape : Shape α} {operation : α → Served (Outcome Failure Json)}
      (he : decodeParams shape r.params = .error e) :
      (server.given s shape r.params operation).value = .failed e := by
    rw [given, he]
    rfl
  cases h with
  | listing hm he =>
    simp only [List.mem_cons, List.not_mem_nil, or_false] at hm
    rcases hm with hm | hm | hm | hm
    · rw [perform_served hstate hserves .toolsList hm]
      exact hgiven he
    · rw [perform_served hstate hserves .resourcesList hm]
      exact hgiven he
    · rw [perform_served hstate hserves .templatesList hm]
      exact hgiven he
    · rw [perform_served hstate hserves .promptsList hm]
      exact hgiven he
  | call hm he =>
    rw [perform_served hstate hserves .toolsCall hm]
    exact hgiven he
  | read hm he =>
    rw [perform_served hstate hserves .resourcesRead hm]
    exact hgiven he
  | subscription hm he =>
    rw [perform_served hstate hserves .subscribe hm]
    exact hgiven he
  | unsubscription hm he =>
    rw [perform_served hstate hserves .unsubscribe hm]
    exact hgiven he
  | prompt hm he =>
    rw [perform_served hstate hserves .promptsGet hm]
    exact hgiven he
  | level hm he =>
    rw [perform_served hstate hserves .setLevel hm]
    exact hgiven he

theorem value_of_returns {result : Json} (h : server.Returns r result) :
    (server.perform s r).value = .returned result := by
  cases h with
  | ping hm => rw [perform_served hstate hserves .ping hm, serve, only]
  | tools hm hp => rw [perform_served hstate hserves .toolsList hm, serve, list, given, hp, only]
  | resources hm hp =>
    rw [perform_served hstate hserves .resourcesList hm, serve, list, given, hp, only]
  | templates hm hp =>
    rw [perform_served hstate hserves .templatesList hm, serve, list, given, hp, only]
  | prompts hm hp =>
    rw [perform_served hstate hserves .promptsList hm, serve, list, given, hp, only]
  | subscribed hm hp => rw [perform_served hstate hserves .subscribe hm, serve, given, hp]
  | unsubscribed hm hp => rw [perform_served hstate hserves .unsubscribe hm, serve, given, hp]
  | level hm hp => rw [perform_served hstate hserves .setLevel hm, serve, given, hp]

end

/-! ### All requests -/

theorem decode_of_decodeParams {α : Type} {shape : Shape α} {params : Option Json} {p : α}
    (hp : decodeParams shape params = .ok p) :
    shape.decode false (params.getD (.object [])) = .ok p := by
  rw [decodeParams] at hp
  split at hp
  · next a ha =>
    cases hp
    exact ha
  · cases hp

/-- The arguments of a call are the member of that name, where null counts as none. -/
theorem arguments_of_object {ms : List (String × Json)} {p : CallToolRequest}
    (hp : CallToolRequest.shape.decode false (.object ms) = .ok p) :
    p.arguments = Json.given? "arguments" (.object ms) := by
  obtain ⟨b, hcomplete, hpack⟩ := Shape.decode_record_object.1 hp
  have hrest := (Fields.required_complete.1 hcomplete).2
  rw [← hpack]
  exact (Shape.rel_decode_free.1 (Fields.optional_complete.1 hrest).1).symm

theorem arguments_ne_null {j : Json} {p : CallToolRequest}
    (hp : CallToolRequest.shape.decode false j = .ok p) : p.arguments ≠ some .null := by
  intro hnull
  cases j with
  | object ms =>
    rw [arguments_of_object hp, Json.given?] at hnull
    split at hnull
    · cases hnull
    · cases hnull
    · next j hj _ => exact hj (Option.some.inj hnull)
  | array xs =>
    -- The arguments are the second item, if there is one.
    rcases xs with _ | ⟨x, _ | ⟨y, _ | ⟨z, xs⟩⟩⟩
    · cases hp
    · cases x with
      | string name =>
        cases hp
        cases hnull
      | _ => cases hp
    · cases x with
      | string name => cases y <;> cases hp <;> cases hnull
      | _ => cases y <;> cases hp
    · cases x <;> cases y <;> cases hp
  | _ => cases hp

/-- **Dispatch.** Once the client has introduced itself, the response to any request but
    another introduction is told by the table of methods, by the params and by what the
    handler that is asked reports. -/
theorem answer_dispatches (server : Server) (s : Session)
    (hstate : s.state = .initializing ∨ s.state = .initialized) (r : Request)
    (hopening : r.method ≠ "initialize") :
    server.Dispatches r (server.answer s r).value := by
  have hbegun : s.state ≠ .uninitialized := by
    rcases hstate with hstate | hstate <;> rw [hstate] <;> decide
  rw [answer]
  constructor
  · cases (server.perform s r).value <;> rfl
  · rw [code_respond]
    constructor
    · intro hcode hserves
      obtain ⟨route, hm, -⟩ := Route.serves_iff_exists.1 hserves
      rw [perform_served hbegun hserves route hm.symm] at hcode
      exact errorCode?_serve route r.params hcode
    · intro hno
      rw [perform_unserved hbegun hopening hno]
      rfl
  · intro hno
    rw [perform_unserved hbegun hopening hno]
    rfl
  · intro e hserves hrefused
    rw [value_of_refused hbegun hserves hrefused]
    exact congrArg some hrefused.code
  · intro result hserves hreturns
    rw [value_of_returns hbegun hserves hreturns]
    rfl
  · intro p hserves hm hp
    rw [perform_served hbegun hserves .toolsCall hm, serve, given, hp]
    exact Registry.calls_callTool p
  · intro p hp
    refine ⟨arguments_ne_null (decode_of_decodeParams hp), fun ms hms => ?_⟩
    rw [hms] at hp
    exact arguments_of_object (decode_of_decodeParams hp)
  · intro p hserves hm hp
    rw [perform_served hbegun hserves .resourcesRead hm, serve, given, hp]
    exact Registry.reads_readResource p.uri
  · intro p hserves hm hp
    rw [perform_served hbegun hserves .promptsGet hm, serve, given, hp]
    exact Registry.fills_getPrompt p

/-- A tool is called that nobody registered. -/
theorem answer_dispatches_unknownTool :
    let server : Server :=
      { config := { info := ⟨"server", "1"⟩, capabilities := { tools := some {} } } }
    let s : Session := { id := "session", state := .initialized }
    let r : Request :=
      { id := .number 1, method := "tools/call"
        params := some (.object [("arguments", .null), ("name", .string "missing")]) }
    (server.answer s r).value =
      .success (some (.number 1)) (.object [("content", .array []), ("isError", .bool true)]) := by
  intro server s r
  have hserves : server.config.capabilities.Serves r.method := .tools rfl (by decide)
  have hp : decodeParams CallToolRequest.shape r.params = .ok { name := "missing" } := rfl
  have hdispatches := server.answer_dispatches s (.inr rfl) r (by decide)
  exact (hdispatches.called _ hserves rfl hp).unknown.2 rfl

end Server

end ContextServer
