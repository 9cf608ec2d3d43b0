import ContextServer.Proofs.Http.Run

/-!
# Streams and sessions

A session over HTTP and its stream have one number, and neither is there without the
other (`HttpService.Aligned`): so it is in a fresh service, and every event keeps it that
opens sessions by requests alone (`HttpService.aligned_run`). So the stream that a request
opens is that of the new session, and nothing has gone over its link
(`HttpService.Aligned.sessions_opened`).
-/

namespace ContextServer

/-- No session is opened but by a request. -/
def HttpEvent.opensByRequest : HttpEvent → Bool
  | .host e => !e.isConnection
  | _ => true

namespace HttpService

variable {s : HttpService} {h : Host} {i : Nat}

/-! ## Streams and sessions -/

/-- Every session has its stream. -/
structure Aligned (s : HttpService) : Prop where
  provider : s.provider.medium = .stream
  medium : ∀ h, s.host? = some h → h.medium = .stream
  size : (s.host?.map Host.size).getD 0 = s.streams.length

theorem aligned_fresh {naming : Naming} {config : HttpConfig} :
    (fresh naming config).Aligned where
  provider := rfl
  medium h hh := by
    rw [fresh] at hh
    cases hh
  size := by
    rw [fresh]
    rfl

theorem Aligned.size_eq (ha : s.Aligned) (hs : s.host? = some h) :
    h.size = s.streams.length := by
  have hsize := ha.size
  rwa [hs] at hsize

/-- A session is opened with its stream. -/
theorem Aligned.size_opened (ha : s.Aligned) (hs : s.host? = some h) :
    h.connect.2.size = (s.opened h).streams.length := by
  change (h.sessions ++ [_]).length = (s.streams ++ [_]).length
  rw [List.length_append, List.length_append]
  exact congrArg (· + 1) (ha.size_eq hs)

/-- Something happens to the host that opens no session. -/
theorem Aligned.size_onHost (ha : s.Aligned) {f : Host → Host}
    (hf : ∀ h, (f h).size = h.size) :
    ((s.onHost f).host?.map Host.size).getD 0 = s.streams.length := by
  have hsize : Host.size ∘ f = Host.size := funext hf
  change ((s.host?.map f).map Host.size).getD 0 = s.streams.length
  rw [Option.map_map, hsize]
  exact ha.size

theorem Aligned.size_step (ha : s.Aligned) {e : HttpEvent} (he : e.opensByRequest = true) :
    ((s.step e).host?.map Host.size).getD 0 = (s.step e).streams.length := by
  have hchanges := s.changes e
  generalize s.step e = s' at hchanges
  cases hchanges with
  | nothing => exact ha.size
  | bound hs =>
    have hsize := ha.size
    rw [hs] at hsize
    exact hsize
  | opened hs => exact ha.size_opened hs
  | openedHead hs => exact Host.size_close.trans (ha.size_opened hs)
  | delivered hs => exact Host.size_deliver.trans (ha.size_eq hs)
  | rejected hs => exact Host.blindToUse_size.reject.trans (ha.size_eq hs)
  | read hs =>
    rw [List.length_set]
    exact Host.blindToUse_size.collect.trans (ha.size_eq hs)
  | dropped =>
    rw [List.length_set]
    exact ha.size_onHost fun _ => Host.size_close
  | @host e =>
    have he' : e.isConnection = false := by simpa [HttpEvent.opensByRequest] using he
    exact ha.size_onHost fun _ => Host.size_step he'

theorem Aligned.step (ha : s.Aligned) {e : HttpEvent} (he : e.opensByRequest = true) :
    (s.step e).Aligned :=
  have hm := isStreaming_step ⟨ha.provider, ha.medium⟩ e
  ⟨hm.1, hm.2, ha.size_step he⟩

/-- In every run each session has its stream. -/
theorem aligned_run {naming : Naming} {config : HttpConfig} {es : List HttpEvent}
    (hes : ∀ e ∈ es, e.opensByRequest = true) : ((fresh naming config).run es).Aligned :=
  List.foldlRecOn es HttpService.step aligned_fresh fun _ ha e he => ha.step (hes e he)

/-- Nothing has gone over the link of a session whose stream was just opened. -/
theorem Aligned.sessions_opened (ha : s.Aligned) (hs : s.host? = some h) :
    h.connect.2.sessions[h.size]? = some { id := h.naming.session h.size } ∧
      (s.opened h).streams[h.size]? = some {} := by
  refine ⟨List.getElem?_concat_length, ?_⟩
  rw [ha.size_eq hs]
  exact List.getElem?_concat_length

end HttpService

end ContextServer
