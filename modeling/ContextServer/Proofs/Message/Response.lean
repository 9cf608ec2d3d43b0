import ContextServer.Failure
import ContextServer.Proofs.Json.Reading
import ContextServer.Proofs.Message.RoundTrip

/-!
# Responses that are accepted

Which outcome a response has is looked at twice. Classification counts members: a
response has just one member for an outcome. Decoding reads values, and a member
that is null reads as one that is not there. The two agree unless the one member is
null (`Json.HasNullOutcome`).

An accepted response has just one outcome, and is read back from its line, unless
its outcome is null; then it has none, its line is no message, and whoever waits for
it gets the result null, also in the place of an error (`Message.parse_response`).
-/

namespace ContextServer

open Json (Fits)

/-! ## Members that are null -/

namespace Json

/-- A member for an outcome is there, and is null. -/
def HasNullOutcome (v : Json) : Prop :=
  v.member? "result" = some .null ∨ v.member? "error" = some .null

end Json

/-! ## Data of an error -/

namespace ErrorObject

variable {held : Bool} {depth : Nat} {j d : Json} {e : ErrorObject}

/-- An error may be an array of its fields. -/
theorem decode_array {xs : List Json} : shape.decode held (.array xs) = .ok e ↔
    ∃ ys, xs = .number (.integer (.ofInt32 e.code)) :: .string e.message :: ys ∧
      ys.head?.filter (· ≠ .null) = e.data ∧ ys.tail = [] := by
  simp only [shape, Shape.decode_record_array, Prod.exists, Fields.required_ofItems,
    Fields.optional_ofItems, Fields.nil_ofItems, Shape.decode_string, Shape.decode_int32,
    Shape.rel_decode_free]
  constructor
  · rintro ⟨code, message, data, ⟨⟩, ⟨_, _, rfl, rfl, _, ys, rfl, rfl, hd, hys⟩, rfl⟩
    exact ⟨ys, rfl, hd, hys⟩
  · rintro ⟨ys, rfl, hd, hys⟩
    exact ⟨_, _, _, (), ⟨_, _, rfl, rfl, _, ys, rfl, rfl, hd, hys⟩, rfl⟩

/-- The data of an error that was decoded are part of it, and not null. -/
theorem fits_data (hj : Fits (depth + 1) j) (h : shape.decode held j = .ok e)
    (hd : e.data = some d) : Fits depth d ∧ d ≠ .null := by
  match j with
  | .object ms =>
    obtain ⟨-, -, hdata⟩ := decode_object.1 h
    obtain ⟨hmember, hne⟩ := Json.given?_eq_some_iff.1 (hdata.trans hd)
    exact ⟨hj.member hmember, hne⟩
  | .array xs =>
    obtain ⟨ys, rfl, hdata, -⟩ := decode_array.1 h
    obtain ⟨hhead, hne⟩ := Option.filter_eq_some_iff.1 (hdata.trans hd)
    refine ⟨Json.fits_array_iff.1 hj d ?_, of_decide_eq_true hne⟩
    exact List.mem_cons_of_mem _ (List.mem_cons_of_mem _ (List.mem_of_head? hhead))
  | .null | .bool _ | .number _ | .string _ => cases h

end ErrorObject

/-! ## Depth of a written response -/

namespace Json

theorem membersDepth_append (ms ns : List (String × Json)) :
    membersDepth (ms ++ ns) = max (membersDepth ms) (membersDepth ns) := by
  induction ms with
  | nil => exact (Nat.zero_max _).symm
  | cons m ms ih => rw [List.cons_append, membersDepth, ih, membersDepth, Nat.max_assoc]

theorem membersDepth_optionalMember {name : String} {j : Option Json} {d : Nat} :
    membersDepth (optionalMember name j) ≤ d ↔ ∀ v ∈ j, v.depth ≤ d := by
  cases j with
  | none => exact ⟨fun _ => nofun, fun _ => Nat.zero_le _⟩
  | some j => simp [optionalMember, membersDepth]

theorem depth_toJson (i : RequestId) : i.toJson.depth = 0 := by cases i <;> rfl

/-- The envelope of a response is one object around its result, and two around the data
    of its error. -/
theorem depth_written_response {r : Response} {d : Nat} (hr : ∀ v ∈ r.result, v.depth ≤ d + 1)
    (he : ∀ e ∈ r.error, ∀ v ∈ e.data, v.depth ≤ d) :
    (Response.shape.written r).depth ≤ d + 2 := by
  have hid : ((r.id.map RequestId.toJson).getD .null).depth = 0 := by
    cases r.id with
    | none => rfl
    | some i => exact depth_toJson i
  have herror (e : ErrorObject) (h : e ∈ r.error) :
      (ErrorObject.shape.written e).depth ≤ d + 1 := by
    rw [ErrorObject.written_shape]
    exact Nat.succ_le_succ (Nat.max_le.2 ⟨Nat.zero_le _, Nat.max_le.2 ⟨Nat.zero_le _,
      membersDepth_optionalMember.2 (he e h)⟩⟩)
  rw [Response.written_shape]
  refine Nat.succ_le_succ (Nat.max_le.2 ⟨Nat.zero_le _, Nat.max_le.2 ⟨?_, ?_⟩⟩)
  · rw [hid]
    exact Nat.zero_le _
  · rw [membersDepth_append]
    refine Nat.max_le.2 ⟨membersDepth_optionalMember.2 hr, membersDepth_optionalMember.2 ?_⟩
    intro v hv
    obtain ⟨e, h, rfl⟩ := Option.map_eq_some_iff.1 hv
    exact herror e h

end Json

/-! ## What a text says of a response -/

namespace Message

open Json

/-- The message that a text spells is the one that its value is. -/
theorem parse_eq_ok_iff {text : String} {m : Message} :
    parse text = .ok m ↔ ∃ v, Json.parse? text = some v ∧ v.Spells m := by
  rw [parse]
  cases Json.parse? text with
  | none => simp
  | some v => simp [ofJson_eq_ok_iff]

section

variable {v : Json} {r : Response}

/-- What the one member for an outcome makes of a response. -/
inductive Concludes (v : Json) (r : Response) : Prop
  /-- A result is taken as it is. -/
  | result {j : Json} : v.member? "result" = some j → v.member? "error" = none → j ≠ .null →
      r.result = some j → r.error = none → Concludes v r
  /-- An error is decoded. -/
  | error {j : Json} {e : ErrorObject} : v.member? "result" = none → v.member? "error" = some j →
      j ≠ .null → ErrorObject.shape.decode false j = .ok e →
      r.result = none → r.error = some e → Concludes v r
  /-- A result that is null is lost. -/
  | nullResult : v.member? "result" = some .null → v.member? "error" = none →
      r.result = none → r.error = none → Concludes v r
  /-- An error that is null is lost. -/
  | nullError : v.member? "result" = none → v.member? "error" = some .null →
      r.result = none → r.error = none → Concludes v r

theorem concludes_of_spells (h : v.Spells (.response r)) : Concludes v r := by
  obtain ⟨version, id, result, error⟩ := r
  obtain ⟨-, -, -, hone, -, rfl, herror⟩ := spells_response_iff.1 h
  dsimp only at herror
  cases hr : v.member? "result" with
  | none =>
    rw [hr] at hone
    obtain ⟨j, he⟩ := Option.isSome_iff_exists.1 (Bool.ne_false_iff.1 hone.symm)
    have hgiven : v.given? "result" = none := by rw [given?, hr]
    by_cases hj : j = .null
    · subst hj
      rw [given?, he] at herror
      cases herror
      exact .nullError hr he hgiven rfl
    · rw [given?_eq_some_iff.2 ⟨he, hj⟩] at herror
      cases herror with
      | some hdecode => exact .error hr he hj hdecode hgiven rfl
  | some j =>
    rw [hr] at hone
    have he : v.member? "error" = none := Option.not_isSome_iff_eq_none.1 fun h => hone h.symm
    rw [given?, he] at herror
    cases herror
    by_cases hj : j = .null
    · subst hj
      exact .nullResult hr he (by rw [given?, hr]) rfl
    · exact .result hr he hj (given?_eq_some_iff.2 ⟨hr, hj⟩) rfl

/-- Just one outcome is set unless the member for it is null. -/
theorem Concludes.one_outcome_iff (h : Concludes v r) :
    r.result.isSome ≠ r.error.isSome ↔ ¬v.HasNullOutcome := by
  rw [HasNullOutcome]
  cases h with
  | result hr he hj hresult herror => simp [hr, he, hj, hresult, herror]
  | error hr he hj hd hresult herror => simp [hr, he, hj, hresult, herror]
  | nullResult hr he hresult herror => simp [hr, hresult, herror]
  | nullError hr he hresult herror => simp [he, hresult, herror]

/-- Whoever waits for the response gets the result as it is, or null for an error that
    is null. -/
theorem Concludes.outcome_ok_iff (h : Concludes v r) (j : Json) : r.outcome = .ok j ↔
    v.member? "result" = some j ∨ j = .null ∧ v.member? "error" = some .null := by
  rw [Response.outcome]
  cases h with
  | result hr he hj hresult herror => simp [hr, he, hresult, herror]
  | error hr he hj hd hresult herror => simp [hr, he, hj, herror]
  | nullResult hr he hresult herror => simp [hr, he, hresult, herror, eq_comm]
  | nullError hr he hresult herror => simp [hr, he, hresult, herror, eq_comm]

/-- Whoever waits for the response gets an error that is not null as it decodes. -/
theorem Concludes.outcome_error_iff (h : Concludes v r) (f : Failure) : r.outcome = .error f ↔
    ∃ j e, f = .remote e ∧ v.member? "error" = some j ∧ j ≠ .null ∧
      ErrorObject.shape.decode false j = .ok e := by
  rw [Response.outcome]
  cases h with
  | result hr he hj hresult herror => simp [he, herror]
  | nullResult hr he hresult herror => simp [he, herror]
  | nullError hr he hresult herror =>
    rw [herror]
    refine iff_of_false nofun ?_
    rintro ⟨j, e, -, hj, hne, -⟩
    exact hne (Option.some.inj (hj.symm.trans he))
  | error hr he hj hd hresult herror =>
    rw [herror]
    constructor
    · rintro ⟨⟩
      exact ⟨_, _, rfl, he, hj, hd⟩
    · rintro ⟨j', e', rfl, he', -, hd'⟩
      cases he.symm.trans he'
      cases hd.symm.trans hd'
      rfl

end

/-! ## The line of a response -/

/-- A value with neither a method nor an outcome is no message. -/
theorem ofJson_noKind {ms : List (String × Json)}
    (hv : member? "jsonrpc" (.object ms) = some (.string "2.0"))
    (hm : member? "method" (.object ms) = none) (hr : member? "result" (.object ms) = none)
    (he : member? "error" (.object ms) = none) :
    ofJson (.object ms) = .error (.invalidShape (carried? (.object ms)) .noKind) := by
  rw [member?] at hm hr he
  rw [ofJson_of_version hv]
  simp only [ofMembers, hm, hr, he]
  rfl

section

variable {v : Json} {r : Response}

/-- The line of a response without an outcome is no message. -/
theorem parse_line_noOutcome (hv : r.version = formatVersion) (hr : r.result = none)
    (he : r.error = none) :
    parse (response r).line = .error (.invalidShape r.id .noKind) := by
  have hdepth : (response r).written.depth ≤ maxDepth :=
    Nat.le_trans (depth_written_response (d := 0) (by simp [hr]) (by simp [he])) (by decide)
  obtain ⟨ms, hms⟩ : ∃ ms, sorted (Response.shape.written r) = .object ms :=
    ⟨_, by rw [Response.written_shape]; rfl⟩
  obtain ⟨hversion, hmethod, hid, hresult, herror⟩ := member?_sorted_response r (by simp [hr])
  rw [hms] at hversion hmethod hid hresult herror
  rw [parse_line_of_readsBack hdepth (by simp [data, hr, he]), written, hms,
    ofJson_noKind (by rw [hversion, hv]; rfl) hmethod (by rw [hresult, hr])
      (by rw [herror, he]; rfl), carried?, hid]
  cases r.id with
  | none => rfl
  | some i => exact congrArg _ (congrArg (ParseFault.invalidShape · .noKind)
      (RequestId.ofJson?_eq_some_iff.2 rfl))

/-- A response that was read from a text is read back from its line if its outcome is
    not null and its numbers are read back from theirs. -/
theorem parse_line_response (hfits : Fits maxDepth v) (h : v.Spells (.response r))
    (hn : ∀ j ∈ (response r).data, j.NumbersAll ReadsBack) (hnull : ¬v.HasNullOutcome) :
    parse (response r).line = .ok (.response r) := by
  obtain ⟨hversion, -, -, -, -, hgiven, herror⟩ := spells_response_iff.1 h
  have hresult : ∀ j ∈ r.result, Fits 126 j ∧ j ≠ .null := by
    intro j hj
    obtain ⟨hmember, hne⟩ := given?_eq_some_iff.1 (hgiven.trans hj)
    exact ⟨Fits.member hfits hmember, hne⟩
  have hdata : ∀ e ∈ r.error, ∀ d ∈ e.data, Fits 125 d ∧ d ≠ .null := by
    intro e he d hd
    cases concludes_of_spells h with
    | error _ hmember _ hdecode _ he' =>
      cases he.symm.trans he'
      exact ErrorObject.fits_data (Fits.member hfits hmember) hdecode hd
    | result _ _ _ _ he' | nullResult _ _ _ he' | nullError _ _ _ he' => cases he.symm.trans he'
  have hdepth : (response r).written.depth ≤ maxDepth :=
    depth_written_response (fun j hj => (hresult j hj).1.depth_le)
      fun e he d hd => (hdata e he d hd).1.depth_le
  rw [parse_line_of_readsBack hdepth hn]
  refine (ofJson_sorted_response hversion (fun j hj => (hresult j hj).1.canonical)
    fun e he d hd => (hdata e he d hd).1.canonical).2 ⟨?_, ?_, ?_⟩
  · exact fun hj => (hresult _ hj).2 rfl
  · exact fun e he hd => (hdata e he _ hd).2 rfl
  · exact (concludes_of_spells h).one_outcome_iff.2 hnull

end

/-- **Accepted responses.** The text of a response that was accepted has just one member
    for an outcome. Unless that is null, the response has just one outcome too, and is read
    back from its line as soon as its numbers are. If it is null, the response has no
    outcome, and its line is no message. Whoever waits for the response gets the member
    `result` as it is, the error that the member `error` is, or null for an error that is
    null. -/
theorem parse_response {text : String} {r : Response} (h : parse text = .ok (.response r)) :
    ∃ v, Json.parse? text = some v ∧
      (v.member? "result").isSome ≠ (v.member? "error").isSome ∧
      (r.result.isSome ≠ r.error.isSome ↔ ¬v.HasNullOutcome) ∧
      (¬v.HasNullOutcome → (∀ j ∈ (response r).data, j.NumbersAll ReadsBack) →
        parse (response r).line = .ok (.response r)) ∧
      (v.HasNullOutcome → r.result = none ∧ r.error = none ∧
        parse (response r).line = .error (.invalidShape r.id .noKind)) ∧
      (∀ j, r.outcome = .ok j ↔
        v.member? "result" = some j ∨ j = .null ∧ v.member? "error" = some .null) ∧
      ∀ f, r.outcome = .error f ↔ ∃ j e, f = .remote e ∧ v.member? "error" = some j ∧
        j ≠ .null ∧ ErrorObject.shape.decode false j = .ok e := by
  obtain ⟨v, hv, hspells⟩ := parse_eq_ok_iff.1 h
  have hconcludes := concludes_of_spells hspells
  obtain ⟨hversion, -, -, hone, -⟩ := spells_response_iff.1 hspells
  refine ⟨v, hv, hone, hconcludes.one_outcome_iff, fun hnull hn => ?_, fun hnull => ?_,
    hconcludes.outcome_ok_iff, hconcludes.outcome_error_iff⟩
  · exact parse_line_response (fits_parse? hv) hspells hn hnull
  · have hnone : r.result = none ∧ r.error = none := by
      cases hconcludes with
      | result hr he hj => simp [HasNullOutcome, hr, he, hj] at hnull
      | error hr he hj => simp [HasNullOutcome, hr, he, hj] at hnull
      | nullResult _ _ hr he | nullError _ _ hr he => exact ⟨hr, he⟩
    exact ⟨hnone.1, hnone.2, parse_line_noOutcome hversion hnone.1 hnone.2⟩

/-- A response with a result that is null is accepted, and so is one with an error that is
    null. Both read as a response without an outcome, which cannot be sent on, and whoever
    waits for it gets the result null. -/
theorem parse_response_null :
    let r : Response := { id := some (.number 1) }
    parse "\x7b\"jsonrpc\":\"2.0\",\"id\":1,\"result\":null\x7d" = .ok (.response r) ∧
      parse "\x7b\"jsonrpc\":\"2.0\",\"id\":1,\"error\":null\x7d" = .ok (.response r) ∧
      ¬(r.result.isSome ≠ r.error.isSome) ∧
      parse (response r).line = .error (.invalidShape (some (.number 1)) .noKind) ∧
      r.outcome = .ok .null := by
  refine ⟨?_, ?_, by decide, parse_line_noOutcome rfl rfl rfl, rfl⟩
  · exact parse_eq_ok_iff.2 ⟨.object [("id", (RequestId.number 1).toJson),
      ("jsonrpc", .string "2.0"), ("result", .null)], by decide +kernel,
      .response rfl rfl (by decide) rfl .none⟩
  · exact parse_eq_ok_iff.2 ⟨.object [("error", .null), ("id", (RequestId.number 1).toJson),
      ("jsonrpc", .string "2.0")], by decide +kernel, .response rfl rfl (by decide) rfl .none⟩

/-- An error that is an array is read back from the line, where it is an object. -/
theorem parse_response_array :
    let error : ErrorObject := { code := -32600, message := "no" }
    let r : Response := { id := some (.text "a"), error := some error }
    parse "\x7b\"jsonrpc\":\"2.0\",\"id\":\"a\",\"error\":[-32600,\"no\",null]\x7d" =
        .ok (.response r) ∧
      parse (response r).line = .ok (.response r) ∧ r.outcome = .error (.remote error) := by
  intro error r
  let j : Json := .array [.number (.integer (.ofInt32 (-32600))), .string "no", .null]
  have hdecode : ErrorObject.shape.decode false j = .ok error :=
    ErrorObject.decode_array.2 ⟨[.null], rfl, by simp [error], rfl⟩
  have hread : Json.parse?
      "\x7b\"jsonrpc\":\"2.0\",\"id\":\"a\",\"error\":[-32600,\"no\",null]\x7d" =
        some (.object [("error", j), ("id", .string "a"), ("jsonrpc", .string "2.0")]) := by
    decide +kernel
  have h : parse _ = .ok (.response r) := parse_eq_ok_iff.2 ⟨_, hread,
    spells_response_iff.2 ⟨rfl, rfl, rfl, by decide, rfl, rfl, .some hdecode⟩⟩
  obtain ⟨v, hv, -, -, hline, -, -, herror⟩ := parse_response h
  cases hread.symm.trans hv
  refine ⟨h, hline (by simp [HasNullOutcome, member?, Entries.lookup, j])
    (by simp [data, r, error]), ?_⟩
  exact (herror _).2 ⟨j, error, rfl, rfl, by decide, hdecode⟩

end Message

end ContextServer
