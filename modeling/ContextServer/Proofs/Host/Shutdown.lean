import ContextServer.Proofs.Host.Tie

/-!
# After a provider was closed

To close every live session leaves none, and then every session there is has come to its
end (`Host.Sound.closed_of_none_live`). In the same process that is all that the close of
a provider does. It does not say that nobody is to connect any more, so whoever was there
stays away, and whoever connects later is served (`Host.closeAll_run`).
-/

namespace ContextServer

namespace Host

variable {h h' : Host} {i : Nat} {s : Session}

/-- Where links have no bound and no session is live, every session is over. -/
theorem Sound.closed_of_none_live (hh : h.Sound) (ht : h.Tied) (hm : h.medium.capacity? = none)
    (hlive : h.live = ∅) (hs : h.sessions[i]? = some s) : s.state = .closed := by
  have hregistered := hh.registered i s hs
  rw [hlive, Dict.get?_empty] at hregistered
  have htied := ht i s hs
  rw [hm] at htied
  cases hopen : s.link.isOpen with
  | false => exact htied.closed hopen
  | true =>
    rw [hopen] at hregistered
    cases hregistered

/-- Nothing but sessions that are not over is live. -/
theorem Sound.not_closed_of_live (hh : h.Sound) {id : String} (hlive : h.live.get? id = some i) :
    ∃ s, h.sessions[i]? = some s ∧ s.state ≠ .closed := by
  obtain ⟨s, hs, hid⟩ := hh.known id i hlive
  refine ⟨s, hs, fun hstate => ?_⟩
  have hregistered := hh.registered i s hs
  rw [(hh.finished i s hs hstate).link, hid, hlive] at hregistered
  cases hregistered

theorem size_run {es : List Event} (hes : ∀ e ∈ es, e.isConnection = false) :
    (h.run es).size = h.size :=
  run_keeps (P := fun h' => h'.size = h.size)
    (fun e he _ hsize => (size_step (hes e he)).trans hsize) rfl

/-- **Closed providers.** Once a provider in the same process was closed, the sessions that
    there were are over and not live, whatever happens next; as long as no client connects,
    none is live and every session is over. The next client that connects has a live session
    that is not. -/
theorem closeAll_run (naming : Naming) (config : ServerConfig) (es es' : List Event) (c : Closing)
    (hes : ∀ e ∈ es, e.isOrdinary = true ∧ e.leavesClosing = true)
    (hes' : ∀ e ∈ es', e.isOrdinary = true) :
    let h := ((start .memory naming config).run es).closeAll c
    let h' := h.run es'
    (∀ i s, i < h.size → h'.sessions[i]? = some s → s.state = .closed ∧ h'.isLive s.id = false) ∧
      (∀ id i, h'.live.get? id = some i → h.size ≤ i) ∧
      ((∀ e ∈ es', e.isConnection = false) →
        h'.live = ∅ ∧ ∀ (i : Nat) s, h'.sessions[i]? = some s → s.state = .closed) ∧
      h'.connect.2.live.get? (naming.session h'.size) = some h'.size ∧
      h'.connect.2.sessions[h'.size]? = some { id := naming.session h'.size } := by
  intro h h'
  have hbefore : ((start .memory naming config).run es).Sound := sound_run fun e he => (hes e he).1
  have hsound : h.Sound := (moves_step (e := .closeAll c) rfl).sound hbefore
  have hsound' : h'.Sound := (moves_run hes').sound hsound
  have htiedBefore : ((start .memory naming config).run es).Tied :=
    tied_run rfl fun e he => (hes e he).2
  have htied : h.Tied := htiedBefore.step (e := .closeAll c) rfl
  have hconstants : h.constants = (start .memory naming config).constants :=
    (constants_step (.closeAll c)).trans (constants_run es)
  have hnaming : h'.naming = naming := congrArg (·.2.1) ((constants_run es').trans hconstants)
  have hmedium : h.medium.capacity? = none := by rw [medium_of_constants hconstants]; rfl
  have hclosed : ∀ (i : Nat) s, h.sessions[i]? = some s → s.state = .closed :=
    fun i s => hsound.closed_of_none_live htied hmedium hbefore.live_closeAll
  -- What was over at the close stays over, and what is over is not live.
  have hstays : ∀ (i : Nat) s, i < h.size → h'.sessions[i]? = some s → s.state = .closed := by
    intro i s hi hs
    have hthere : h.sessions[i]? = some h.sessions[i] := List.getElem?_eq_getElem hi
    obtain ⟨s', hs', hstate, -⟩ := (moves_run hes').keepsEnds hsound i _ hthere (hclosed i _ hthere)
    cases hs.symm.trans hs'
    exact hstate
  have hnew : ∀ id i, h'.live.get? id = some i → h.size ≤ i := by
    intro id i hlive
    obtain ⟨s, hs, hstate⟩ := hsound'.not_closed_of_live hlive
    exact Nat.le_of_not_lt fun hi => hstate (hstays i s hi hs)
  refine ⟨fun i s hi hs => ?_, hnew, fun hnone => ?_, ?_, ?_⟩
  · have hstate := hstays i s hi hs
    exact ⟨hstate, hsound'.inOrder.gone i s hs hstate⟩
  · have hsize : h'.size = h.size := size_run hnone
    refine ⟨Dict.eq_empty_iff.2 fun id => Option.eq_none_iff_forall_ne_some.2 fun i hlive => ?_,
      fun i s hs => ?_⟩
    · obtain ⟨s, hs, -⟩ := hsound'.not_closed_of_live hlive
      exact Nat.not_lt.2 (Nat.le_trans (Nat.le_of_eq hsize) (hnew id i hlive))
        (List.getElem?_eq_some_iff.1 hs).1
    · exact hstays i s (hsize ▸ (List.getElem?_eq_some_iff.1 hs).1) hs
  · rw [← hnaming]
    exact (Dict.get?_insert ..).trans (if_pos rfl)
  · rw [← hnaming, getElem?_connect]
    exact if_pos rfl

/-- A client was there and is not live after the close, and a message reaches nobody; the
    next client is live. -/
theorem closeAll_run_message :
    let naming := Naming.numbered "session-" "request-" ""
    let message : Message := .request { id := .number 1, method := Method.opening }
    let h := (((start .memory naming { info := ⟨"server", "1"⟩ }).run [.connect]).closeAll
      .graceful).run [.deliver 0 message]
    h.live = ∅ ∧ (∀ (i : Nat) s, h.sessions[i]? = some s → s.state = .closed) ∧
      h.connect.2.live.get? (naming.session h.size) = some h.size := by
  intro naming message h
  obtain ⟨-, -, hnone, hlive, -⟩ := closeAll_run naming { info := ⟨"server", "1"⟩ } [.connect]
    [.deliver 0 message] .graceful (by decide) (by simp [Event.isOrdinary])
  obtain ⟨hempty, hclosed⟩ := hnone (by simp [Event.isConnection])
  exact ⟨hempty, hclosed, hlive⟩

/-- A client that connects after the close is live. -/
theorem closeAll_run_connect :
    let h := (start .memory (.numbered "session-" "request-" "")
      { info := ⟨"server", "1"⟩ }).run [.connect, .closeAll .abrupt, .connect]
    h.live.size = 1 ∧ h.isLive "session-1" = true ∧
      h.sessions.map (·.state) = [.closed, .uninitialized] := by
  decide +kernel

end Host

end ContextServer
