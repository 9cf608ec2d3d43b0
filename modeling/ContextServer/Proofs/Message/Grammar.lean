import ContextServer.Message.Parse
import ContextServer.Proofs.Schema.Record

/-!
# The grammar of messages

Which JSON values are messages, and which message each of them is
(`Json.Spells`), said member by member. Classification accepts exactly these
(`Message.ofJson_eq_ok_iff`), so a value is one message at most; every other value
it refuses, by its version or by its shape, and it recovers the identifier of a
refused value whenever the value carries one.

An identifier is a string or an integer of 64 bits, as it stands
(`RequestId.toJson`): recovering it and decoding it find the same values.
-/

namespace ContextServer

/-! ## Identifiers -/

namespace RequestId

/-- The identifier as a JSON value. -/
def toJson : RequestId → Json
  | .number n => .number (.integer (.ofInt64 n))
  | .text s => .string s

theorem toInt64?_eq_some_iff {n : Integer} {m : Int64} :
    n.toInt64? = some m ↔ n = .ofInt64 m := by
  obtain ⟨v, hv⟩ := n
  rw [Integer.toInt64?, Integer.ofInt64, Integer.mk.injEq]
  constructor
  · intro h
    split at h
    · next hlt =>
      cases h
      exact (Int64.toInt_ofInt_of_le hv.1 hlt).symm
    · cases h
  · rintro rfl
    exact (if_pos m.toInt_lt).trans (congrArg some (Int64.ofInt_toInt m))

/-- Exactly the identifiers are recovered. -/
theorem ofJson?_eq_some_iff {j : Json} {i : RequestId} : ofJson? j = some i ↔ j = i.toJson := by
  constructor
  · intro h
    unfold ofJson? at h
    split at h
    · cases h
      rfl
    · obtain ⟨m, hm, rfl⟩ := Option.map_eq_some_iff.1 h
      rw [toInt64?_eq_some_iff.1 hm]
      rfl
    · cases h
  · rintro rfl
    cases i with
    | number n => exact Option.map_eq_some_iff.2 ⟨n, toInt64?_eq_some_iff.2 rfl, rfl⟩
    | text s => rfl

/-- Exactly the identifiers decode. -/
theorem decode_shape_iff {held : Bool} {j : Json} {i : RequestId} :
    shape.decode held j = .ok i ↔ j = i.toJson := by
  rw [shape, Shape.decode_union]
  constructor
  · rintro ⟨n | s | e, hb, rfl⟩
    · exact Shape.decode_int64.1 (Cases.decodeFirst?_inl.1 hb)
    · exact Shape.decode_string.1 (Cases.decodeFirst?_inl.1 (Cases.decodeFirst?_inr.1 hb).2)
    · exact nomatch e
  · rintro rfl
    cases i with
    | number n => exact ⟨.inl n, Cases.decodeFirst?_inl.2 (Shape.decode_int64.2 rfl), rfl⟩
    | text s =>
      -- The variant for integers is tried first, and takes no string.
      refine ⟨.inr (.inl s), Cases.decodeFirst?_inr.2 ⟨fun n hn => ?_, ?_⟩, rfl⟩
      · cases Shape.decode_int64.1 hn
      · exact Cases.decodeFirst?_inl.2 (Shape.decode_string.2 rfl)

theorem rel_decode_shape {held : Bool} {j : Option Json} {i : Option RequestId} :
    Option.Rel (fun j i => shape.decode held j = .ok i) j i ↔ j = i.map toJson := by
  cases j <;> cases i <;> simp [decode_shape_iff]

end RequestId

/-! ## Messages -/

namespace Json

/-- What a value says as a message. A value that is no object says nothing, as it
    has no members. -/
inductive Spells (v : Json) : Message → Prop
  /-- A request has an identifier and a method, whatever else it has. -/
  | request {id : RequestId} {method : String} :
      v.member? "jsonrpc" = some (.string "2.0") → v.member? "id" = some id.toJson →
      v.member? "method" = some (.string method) →
      Spells v (.request { id, method, params := v.given? "params" })
  /-- A notification has a method and no member for an identifier. -/
  | notification {method : String} :
      v.member? "jsonrpc" = some (.string "2.0") → v.member? "id" = none →
      v.member? "method" = some (.string method) →
      Spells v (.notification { method, params := v.given? "params" })
  /-- A response has no method and just one member for an outcome. Its identifier
      may be missing or null. -/
  | response {id : Option RequestId} {error : Option ErrorObject} :
      v.member? "jsonrpc" = some (.string "2.0") → v.member? "method" = none →
      ((v.member? "result").isSome ≠ (v.member? "error").isSome) →
      v.given? "id" = id.map RequestId.toJson →
      Option.Rel (fun j e => ErrorObject.shape.decode false j = .ok e) (v.given? "error") error →
      Spells v (.response { id, result := v.given? "result", error })

/-- The value is an object of another version of the format, or of none. -/
def WrongVersion (v : Json) : Prop :=
  (∃ ms, v = .object ms) ∧ v.member? "jsonrpc" ≠ some (.string "2.0")

end Json

/-! ## Decoding -/

section

variable {ms : List (String × Json)} {held : Bool}

theorem Request.decode_object {r : Request} : Request.shape.decode held (.object ms) = .ok r ↔
    Json.member? "jsonrpc" (.object ms) = some (.string r.version) ∧
      Json.member? "id" (.object ms) = some r.id.toJson ∧
      Json.member? "method" (.object ms) = some (.string r.method) ∧
      Json.given? "params" (.object ms) = r.params := by
  simp only [shape, Shape.decode_record_object, Prod.exists, Fields.required_complete,
    Fields.optional_complete, Fields.nil_complete, Shape.decode_string,
    RequestId.decode_shape_iff, Shape.rel_decode_free, and_true]
  constructor
  · rintro ⟨version, id, method, params, ⟨⟩, ⟨⟨_, hv, rfl⟩, ⟨_, hi, rfl⟩, ⟨_, hm, rfl⟩, hp⟩, rfl⟩
    exact ⟨hv, hi, hm, hp⟩
  · rintro ⟨hv, hi, hm, hp⟩
    exact ⟨_, _, _, _, (), ⟨⟨_, hv, rfl⟩, ⟨_, hi, rfl⟩, ⟨_, hm, rfl⟩, hp⟩, rfl⟩

theorem Notification.decode_object {n : Notification} :
    Notification.shape.decode held (.object ms) = .ok n ↔
      Json.member? "jsonrpc" (.object ms) = some (.string n.version) ∧
        Json.member? "method" (.object ms) = some (.string n.method) ∧
        Json.given? "params" (.object ms) = n.params := by
  simp only [shape, Shape.decode_record_object, Prod.exists, Fields.required_complete,
    Fields.optional_complete, Fields.nil_complete, Shape.decode_string, Shape.rel_decode_free,
    and_true]
  constructor
  · rintro ⟨version, method, params, ⟨⟩, ⟨⟨_, hv, rfl⟩, ⟨_, hm, rfl⟩, hp⟩, rfl⟩
    exact ⟨hv, hm, hp⟩
  · rintro ⟨hv, hm, hp⟩
    exact ⟨_, _, _, (), ⟨⟨_, hv, rfl⟩, ⟨_, hm, rfl⟩, hp⟩, rfl⟩

theorem Response.decode_object {r : Response} :
    Response.shape.decode held (.object ms) = .ok r ↔
      Json.member? "jsonrpc" (.object ms) = some (.string r.version) ∧
        Json.given? "id" (.object ms) = r.id.map RequestId.toJson ∧
        Json.given? "result" (.object ms) = r.result ∧
        Option.Rel (fun j e => ErrorObject.shape.decode held j = .ok e)
          (Json.given? "error" (.object ms)) r.error := by
  simp only [shape, Shape.decode_record_object, Prod.exists, Fields.required_complete,
    Fields.optional_complete, Fields.nil_complete, Shape.decode_string,
    RequestId.rel_decode_shape, Shape.rel_decode_free, and_true]
  constructor
  · rintro ⟨version, id, result, error, ⟨⟩, ⟨⟨_, hv, rfl⟩, hi, hr, he⟩, rfl⟩
    exact ⟨hv, hi, hr, he⟩
  · rintro ⟨hv, hi, hr, he⟩
    exact ⟨_, _, _, _, (), ⟨⟨_, hv, rfl⟩, hi, hr, he⟩, rfl⟩

theorem ErrorObject.decode_object {e : ErrorObject} :
    ErrorObject.shape.decode held (.object ms) = .ok e ↔
      Json.member? "code" (.object ms) = some (.number (.integer (.ofInt32 e.code))) ∧
        Json.member? "message" (.object ms) = some (.string e.message) ∧
        Json.given? "data" (.object ms) = e.data := by
  simp only [shape, Shape.decode_record_object, Prod.exists, Fields.required_complete,
    Fields.optional_complete, Fields.nil_complete, Shape.decode_string, Shape.decode_int32,
    Shape.rel_decode_free, and_true]
  constructor
  · rintro ⟨code, message, data, ⟨⟩, ⟨⟨_, hc, rfl⟩, ⟨_, hm, rfl⟩, hd⟩, rfl⟩
    exact ⟨hc, hm, hd⟩
  · rintro ⟨hc, hm, hd⟩
    exact ⟨_, _, _, (), ⟨⟨_, hc, rfl⟩, ⟨_, hm, rfl⟩, hd⟩, rfl⟩

end

/-! ## Classification -/

namespace Message

variable {ms : List (String × Json)}

theorem decodeAs_map_eq_ok {α : Type} {shape : Shape α} {id : Option RequestId} {f : α → Message}
    {m : Message} : (decodeAs shape id ms).map f = .ok m ↔
      ∃ a, shape.decode false (.object ms) = .ok a ∧ f a = m := by
  rw [decodeAs]
  cases shape.decode false (.object ms) <;> simp [Except.map]

theorem decodeAs_map_eq_error {α : Type} {shape : Shape α} {id : Option RequestId}
    {f : α → Message} {e : ParseFault} (h : (decodeAs shape id ms).map f = .error e) :
    ∃ cause, e = .invalidShape id cause := by
  rw [decodeAs] at h
  cases hd : shape.decode false (.object ms) <;> simp [Except.map, hd] at h
  exact ⟨_, h.symm⟩

/-- The identifier that a value carries. -/
def carried? (v : Json) : Option RequestId := (v.member? "id").bind RequestId.ofJson?

theorem carried?_eq_some_iff {v : Json} {i : RequestId} :
    carried? v = some i ↔ v.member? "id" = some i.toJson := by
  simp [carried?, Option.bind_eq_some_iff, RequestId.ofJson?_eq_some_iff]

theorem ofJson_of_version (h : Json.member? "jsonrpc" (.object ms) = some (.string "2.0")) :
    ofJson (.object ms) = ofMembers (carried? (.object ms)) ms := by
  unfold Json.member? at h
  simp only [ofJson, h]
  rfl

theorem ofJson_of_wrongVersion
    (h : Json.member? "jsonrpc" (.object ms) ≠ some (.string "2.0")) :
    ∃ found, ofJson (.object ms) = .error (.unsupportedVersion found (carried? (.object ms))) := by
  refine ⟨_, if_neg fun hf => h ?_⟩
  obtain ⟨j, hj, hs⟩ := Option.bind_eq_some_iff.1 hf
  unfold Json.asString? at hs
  split at hs
  · cases hs
    exact hj
  · cases hs

/-- What is accepted is a message of the grammar. -/
theorem spells_of_ofMembers {m : Message}
    (hv : Json.member? "jsonrpc" (.object ms) = some (.string "2.0"))
    (h : ofMembers (carried? (.object ms)) ms = .ok m) : Json.Spells (.object ms) m := by
  rw [ofMembers] at h
  dsimp only at h
  -- Which message it can be depends on the members that are there: a method first, then
  -- an identifier, and the outcomes only if there is no method.
  split at h
  · split at h
    · split at h
      · cases h
      · obtain ⟨⟨version, id, method, params⟩, hr, rfl⟩ := decodeAs_map_eq_ok.1 h
        obtain ⟨hv', hi, hm, rfl⟩ := Request.decode_object.1 hr
        cases hv.symm.trans hv'
        exact .request hv hi hm
    · next hid =>
      obtain ⟨⟨version, method, params⟩, hn, rfl⟩ := decodeAs_map_eq_ok.1 h
      obtain ⟨hv', hm, rfl⟩ := Notification.decode_object.1 hn
      cases hv.symm.trans hv'
      exact .notification hv (Option.not_isSome_iff_eq_none.1 hid) hm
  · next hmethod =>
    split at h
    · next hone =>
      obtain ⟨⟨version, id, result, error⟩, hr, rfl⟩ := decodeAs_map_eq_ok.1 h
      obtain ⟨hv', hi, rfl, he⟩ := Response.decode_object.1 hr
      cases hv.symm.trans hv'
      exact .response hv (Option.not_isSome_iff_eq_none.1 hmethod) (bne_iff_ne.1 hone) hi he
    · cases h

/-- A message of the grammar is accepted. -/
theorem ofJson_of_spells {v : Json} {m : Message} (h : v.Spells m) : ofJson v = .ok m := by
  have hobject : ∃ ms, v = .object ms := by
    have hv : v.member? "jsonrpc" = some (.string "2.0") := by cases h <;> assumption
    unfold Json.member? at hv
    split at hv
    · exact ⟨_, rfl⟩
    · cases hv
  obtain ⟨ms, rfl⟩ := hobject
  cases h with
  | request hv hi hm =>
    have hc := carried?_eq_some_iff.2 hi
    have hi' : Entries.lookup "id" ms = _ := hi
    have hm' : Entries.lookup "method" ms = _ := hm
    rw [ofJson_of_version hv, hc]
    simp only [ofMembers, hi', hm', Option.isSome_some, Option.isNone_some, if_true,
      Bool.false_eq_true, if_false]
    exact decodeAs_map_eq_ok.2 ⟨_, Request.decode_object.2 ⟨hv, hi, hm, rfl⟩, rfl⟩
  | notification hv hi hm =>
    have hi' : Entries.lookup "id" ms = none := hi
    have hm' : Entries.lookup "method" ms = _ := hm
    rw [ofJson_of_version hv]
    simp only [ofMembers, hi', hm', Option.isSome_some, Option.isSome_none, if_true,
      Bool.false_eq_true, if_false]
    exact decodeAs_map_eq_ok.2 ⟨_, Notification.decode_object.2 ⟨hv, hm, rfl⟩, rfl⟩
  | response hv hm hone hi he =>
    have hm' : Entries.lookup "method" ms = none := hm
    rw [ofJson_of_version hv]
    simp only [ofMembers, hm', Option.isSome_none, Bool.false_eq_true, if_false]
    refine (if_pos (bne_iff_ne.2 hone)).trans ?_
    exact decodeAs_map_eq_ok.2 ⟨_, Response.decode_object.2 ⟨hv, hi, rfl, he⟩, rfl⟩

/-- A value of the right version is refused by its shape, and keeps its identifier. -/
theorem ofMembers_eq_error {e : ParseFault}
    (h : ofMembers (carried? (.object ms)) ms = .error e) :
    ∃ cause, e = .invalidShape (carried? (.object ms)) cause := by
  rw [ofMembers] at h
  dsimp only at h
  split at h
  · split at h
    · split at h
      · next hnone =>
        -- The member is no identifier, so there is none to tell.
        cases h
        rw [Option.isNone_iff_eq_none.1 hnone]
        exact ⟨_, rfl⟩
      · exact decodeAs_map_eq_error h
    · next hid =>
      have hc : carried? (.object ms) = none := by
        rw [carried?, Json.member?, Option.not_isSome_iff_eq_none.1 hid]
        rfl
      rw [hc]
      exact decodeAs_map_eq_error h
  · split at h
    · exact decodeAs_map_eq_error h
    · cases h
      exact ⟨_, rfl⟩

/-- Exactly the messages of the grammar are accepted. -/
theorem ofJson_eq_ok_iff {v : Json} {m : Message} : ofJson v = .ok m ↔ v.Spells m := by
  refine ⟨fun h => ?_, ofJson_of_spells⟩
  match v with
  | .object ms =>
    by_cases hv : Json.member? "jsonrpc" (.object ms) = some (.string "2.0")
    · exact spells_of_ofMembers hv (ofJson_of_version hv ▸ h)
    · obtain ⟨found, hf⟩ := ofJson_of_wrongVersion hv
      cases hf.symm.trans h
  | .null | .bool _ | .number _ | .string _ | .array _ => cases h

/-- What is refused is refused by its version or else by its shape, with the
    identifier that it carries. -/
theorem ofJson_eq_error {v : Json} {e : ParseFault} (h : ofJson v = .error e) :
    (v.WrongVersion ∧ ∃ found, e = .unsupportedVersion found (carried? v)) ∨
      (¬v.WrongVersion ∧ ∃ cause, e = .invalidShape (carried? v) cause) := by
  match v with
  | .object ms =>
    by_cases hv : Json.member? "jsonrpc" (.object ms) = some (.string "2.0")
    · exact .inr ⟨fun hw => hw.2 hv, ofMembers_eq_error (ofJson_of_version hv ▸ h)⟩
    · obtain ⟨found, hf⟩ := ofJson_of_wrongVersion hv
      exact .inl ⟨⟨⟨ms, rfl⟩, hv⟩, found, Except.error.inj (h.symm.trans hf)⟩
  | .null | .bool _ | .number _ | .string _ | .array _ =>
    cases h
    refine .inr ⟨?_, _, rfl⟩
    rintro ⟨⟨_, ho⟩, -⟩
    cases ho

/-- **Classification.** Exactly the messages of the grammar are accepted, each as
    itself. Every other value is refused, as one of another version exactly if it is an
    object and says so, and as one of the wrong shape otherwise. The identifier told
    with the refusal is the one that the value carries, and somebody is told of the
    refusal exactly if there is one. -/
theorem ofJson_classifies (v : Json) :
    (∀ m, ofJson v = .ok m ↔ v.Spells m) ∧
    ∀ e, ofJson v = .error e →
      ((∃ found id, e = .unsupportedVersion found id) ↔ v.WrongVersion) ∧
      ((∃ id cause, e = .invalidShape id cause) ↔ ¬v.WrongVersion) ∧
      ∀ i, (e.id? = some i ↔ v.member? "id" = some i.toJson) ∧
        (e.answer? = some (.failure (some i) { code := -32600, message := e.message }) ↔
          v.member? "id" = some i.toJson) := by
  refine ⟨fun m => ofJson_eq_ok_iff, fun e he => ?_⟩
  have hid : e.id? = carried? v := by
    rcases ofJson_eq_error he with ⟨-, found, rfl⟩ | ⟨-, cause, rfl⟩ <;> rfl
  refine ⟨?_, ?_, fun i => ?_⟩
  · rcases ofJson_eq_error he with ⟨hw, found, rfl⟩ | ⟨hw, cause, rfl⟩ <;> simp [hw]
  · rcases ofJson_eq_error he with ⟨hw, found, rfl⟩ | ⟨hw, cause, rfl⟩ <;> simp [hw]
  · rw [ParseFault.answer?, hid, carried?_eq_some_iff, Option.map_eq_some_iff,
      ← carried?_eq_some_iff]
    refine ⟨Iff.rfl, ?_, fun h => ⟨i, h, rfl⟩⟩
    rintro ⟨i', hi', hr⟩
    cases congrArg Response.id hr
    exact hi'

/-- A response with both outcomes is of the wrong shape, and its sender is told so. -/
theorem ofJson_classifies_bothOutcomes :
    let v : Json := .object
      [("error", .null), ("id", .string "7"), ("jsonrpc", .string "2.0"), ("result", .bool true)]
    let e : ParseFault := .invalidShape (some (.text "7")) .bothOutcomes
    ofJson v = .error e ∧ ¬v.WrongVersion ∧ e.id? = some (.text "7") := by
  intro v e
  have he : ofJson v = .error e := by rfl
  have h := (ofJson_classifies v).2 e he
  exact ⟨he, h.2.1.1 ⟨_, _, rfl⟩, (h.2.2 (.text "7")).1.2 rfl⟩

end Message

end ContextServer
