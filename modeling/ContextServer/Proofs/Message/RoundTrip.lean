import ContextServer.Proofs.Json.RoundTrip
import ContextServer.Proofs.Message.Grammar
import ContextServer.Proofs.Text.Framing

/-!
# Messages on the wire

A message that was written on its line is read back as itself, with two
exceptions: a null in the place of something that may be left out reads as if it
were left out, and a response needs just one outcome to be one
(`Message.parse_line`).

Compact text has no line breaks (`Json.oneLine_write`), so the framing leaves it
alone, and the reader finds the message with its members in order
(`Json.parse?_compact`). What is left is to look up the members one by one and to
compare them with the grammar (`Json.Spells`).
-/

namespace ContextServer

/-! ## Compact text takes one line -/

namespace Json

open Text (OneLine oneLine_iff)

theorem oneLine_writeString (s : String) : OneLine (writeString s) := by
  refine .cons (by decide) (.append (oneLine_iff.2 fun c hc => ?_) (by decide))
  obtain ⟨d, -, hd⟩ := List.mem_flatMap.1 hc
  exact escaped_ne_newline hd

theorem oneLine_digitsOf (n : Nat) : OneLine (Decimal.digitsOf n) := by
  refine oneLine_iff.2 fun c hc => ?_
  have hdigit := isDigit_of_mem_digitsOf hc
  constructor <;> rintro rfl <;> revert hdigit <;> decide

theorem oneLine_writeInt (n : Int) : OneLine (writeInt n) := by
  rw [writeInt]
  split
  · exact (oneLine_digitsOf _).cons (by decide)
  · exact oneLine_digitsOf _

/-- The text of a double is made of digits, a sign, a point and an exponent. -/
theorem oneLine_text (x : Double) : OneLine x.text := by
  have hds := oneLine_digitsOf x.shortest.digits
  have hzeros (n : Nat) : OneLine (List.replicate n '0') :=
    oneLine_iff.2 fun c hc => by rw [List.eq_of_mem_replicate hc]; decide
  have hwrite : OneLine (Double.layout.write x.shortest) := by
    unfold Double.Layout.write Double.layout
    dsimp only
    split
    · split
      · exact .append (.append hds (hzeros _)) (by decide)
      · split
        · exact .append (hds.subset (List.take_subset _ _))
            (.cons (by decide) (hds.subset (List.drop_subset _ _)))
        · exact .append (.cons (by decide) (.cons (by decide) (hzeros _))) hds
    · have hexponent {p : Prop} [Decidable p] {mantissa : List Char} (h : OneLine mantissa)
          (up down : Nat) : OneLine (if p then mantissa ++ ['e', '+'] ++ Decimal.digitsOf up
            else mantissa ++ ['e', '-'] ++ Decimal.digitsOf down) := by
        split
        · exact .append (.append h (by decide)) (oneLine_digitsOf _)
        · exact .append (.append h (by decide)) (oneLine_digitsOf _)
      refine hexponent ?_ _ _
      split
      · decide
      · next he => exact he ▸ hds
      · next c rest _ he =>
        rw [he] at hds
        exact (hds.cons (by decide)).subset (List.Perm.swap '.' c rest).subset
  rw [Double.text]
  split
  · exact hwrite.cons (by decide)
  · exact hwrite

mutual

/-- The text of a value has no line breaks. -/
theorem oneLine_write : ∀ j, OneLine (write j)
  | .null | .bool true | .bool false => by decide
  | .number (.integer n) => oneLine_writeInt n.val
  | .number (.double x) => oneLine_text x
  | .string s => oneLine_writeString s
  | .array [] | .object [] => by rw [write]; decide
  | .array (x :: xs) => by
    rw [write]
    exact .cons (by decide) (.append (oneLine_write x) (oneLine_writeItems xs))
  | .object ((k, v) :: ms) => by
    rw [write]
    exact .cons (by decide) (.append (oneLine_writeString k)
      (.cons (by decide) (.append (oneLine_write v) (oneLine_writeMembers ms))))

theorem oneLine_writeItems : ∀ xs, OneLine (writeItems xs)
  | [] => by decide
  | x :: xs => by
    rw [writeItems]
    exact .cons (by decide) (.append (oneLine_write x) (oneLine_writeItems xs))

theorem oneLine_writeMembers : ∀ ms, OneLine (writeMembers ms)
  | [] => by decide
  | (k, v) :: ms => by
    rw [writeMembers]
    exact .cons (by decide) (.append (oneLine_writeString k)
      (.cons (by decide) (.append (oneLine_write v) (oneLine_writeMembers ms))))

end

end Json

/-! ## Members of a written message -/

/-- A member that is left out of an object if there is nothing to put there. -/
def optionalMember (name : String) (j : Option Json) : List (String × Json) :=
  j.toList.map fun j => (name, j)

theorem RequestId.written_shape (i : RequestId) : shape.written i = i.toJson := by
  cases i <;> simp only [Shape.written, shape, Shape.encodeWith, Cases.encodeWith, toJson]

theorem Request.written_shape (r : Request) : shape.written r = .object
    (("jsonrpc", .string r.version) :: ("id", r.id.toJson) :: ("method", .string r.method) ::
      optionalMember "params" r.params) := by
  rw [← RequestId.written_shape]
  obtain ⟨version, id, method, _ | params⟩ := r <;>
    simp only [Shape.written, shape, Shape.encodeWith, Fields.encodeWith] <;> rfl

theorem Notification.written_shape (n : Notification) : shape.written n = .object
    (("jsonrpc", .string n.version) :: ("method", .string n.method) ::
      optionalMember "params" n.params) := by
  obtain ⟨version, method, _ | params⟩ := n <;>
    simp only [Shape.written, shape, Shape.encodeWith, Fields.encodeWith] <;> rfl

theorem ErrorObject.written_shape (e : ErrorObject) : shape.written e = .object
    (("code", .number (.integer (.ofInt32 e.code))) :: ("message", .string e.message) ::
      optionalMember "data" e.data) := by
  obtain ⟨code, message, _ | data⟩ := e <;>
    simp only [Shape.written, shape, Shape.encodeWith, Fields.encodeWith] <;> rfl

theorem Response.written_shape (r : Response) : shape.written r = .object
    (("jsonrpc", .string r.version) :: ("id", (r.id.map RequestId.toJson).getD .null) ::
      (optionalMember "result" r.result ++
        optionalMember "error" (r.error.map ErrorObject.shape.written))) := by
  obtain ⟨version, _ | id, _ | result, _ | error⟩ := r <;>
    simp only [Shape.written, shape, Shape.encodeWith, Fields.encodeWith, Option.map_some,
      Option.getD_some, ← RequestId.written_shape] <;> rfl

/-! ## Messages that a line can hold -/

namespace Message

/-- The version of the message format that a message names. -/
def version : Message → String
  | .request r => r.version
  | .notification n => n.version
  | .response r => r.version

/-- The values of any form in a message. -/
def data : Message → List Json
  | .request r => r.params.toList
  | .notification n => n.params.toList
  | .response r => r.result.toList ++ (r.error.bind (·.data)).toList

/-- A message of the right version that is nested no deeper than the reader goes, whose
    data hold integers for numbers and their members in order. -/
structure Regular (m : Message) : Prop where
  version : m.version = formatVersion
  depth : m.written.depth ≤ Json.maxDepth
  canonical : ∀ j ∈ m.data, j.Canonical
  integers : ∀ j ∈ m.data, j.NumbersAll Json.IsInteger

/-- Nothing in the message reads as if it were left out, and a response has just one
    outcome. -/
def Unambiguous (m : Message) : Prop :=
  .null ∉ m.data ∧ ∀ r, m = .response r → r.result.isSome ≠ r.error.isSome

/-- A message as one is made, of data that are not null. -/
inductive Made : Message → Prop
  | request {id : RequestId} {method : String} {params : Option Json} :
      params ≠ some .null → Made (.request { id, method, params })
  | notification {method : String} {params : Option Json} :
      params ≠ some .null → Made (.notification { method, params })
  | success {id : Option RequestId} {result : Json} :
      result ≠ .null → Made (.response (.success id result))
  | failure {id : Option RequestId} {error : ErrorObject} :
      error.data ≠ some .null → Made (.response (.failure id error))

variable {m : Message}

theorem Made.unambiguous (h : m.Made) : m.Unambiguous := by
  cases h with
  | request h | notification h => exact ⟨fun hn => h (Option.mem_toList.1 hn), nofun⟩
  | success h =>
    refine ⟨fun hn => h (List.mem_singleton.1 hn).symm, ?_⟩
    rintro _ ⟨⟩
    exact Bool.noConfusion
  | failure h =>
    refine ⟨fun hn => h (Option.mem_toList.1 hn), ?_⟩
    rintro _ ⟨⟩
    exact Bool.noConfusion

/-! ## The text of a message -/

section

open Json

variable {p : Number → Prop}

theorem membersNumbersAll_optionalMember {name : String} {j : Option Json} :
    MembersNumbersAll p (optionalMember name j) ↔ ∀ v ∈ j, v.NumbersAll p := by
  cases j with
  | none => exact ⟨fun _ => nofun, fun _ => trivial⟩
  | some j => simp [optionalMember, MembersNumbersAll]

theorem numbersAll_toJson (hp : ∀ i, p (.integer i)) (i : RequestId) : i.toJson.NumbersAll p := by
  cases i with
  | number n => exact hp _
  | text s => trivial

/-- The envelope adds no numbers but integers. -/
theorem numbersAll_written (hp : ∀ i, p (.integer i)) (h : ∀ j ∈ m.data, j.NumbersAll p) :
    m.written.NumbersAll p := by
  cases m with
  | request r =>
    rw [written, Request.written_shape]
    refine ⟨trivial, numbersAll_toJson hp r.id, trivial, membersNumbersAll_optionalMember.2 ?_⟩
    exact fun v hv => h v (Option.mem_toList.2 hv)
  | notification n =>
    rw [written, Notification.written_shape]
    refine ⟨trivial, trivial, membersNumbersAll_optionalMember.2 ?_⟩
    exact fun v hv => h v (Option.mem_toList.2 hv)
  | response r =>
    rw [written, Response.written_shape]
    refine ⟨trivial, ?_, membersNumbersAll_append.2 ⟨membersNumbersAll_optionalMember.2 ?_,
      membersNumbersAll_optionalMember.2 ?_⟩⟩
    · cases r.id with
      | none => trivial
      | some i => exact numbersAll_toJson hp i
    · exact fun v hv => h v (List.mem_append_left _ (Option.mem_toList.2 hv))
    · intro v hv
      obtain ⟨e, he, rfl⟩ := Option.map_eq_some_iff.1 hv
      rw [ErrorObject.written_shape]
      refine ⟨hp _, trivial, membersNumbersAll_optionalMember.2 fun v hv => h v ?_⟩
      rw [data, he]
      exact List.mem_append_right _ (Option.mem_toList.2 hv)

/-- The line of a message is the compact text of its value. -/
theorem line_eq_compact (m : Message) : m.line = m.written.compact := by
  rw [line, Text.escapeNewlines, compact, String.toList_ofList,
    Text.escapeBreaks_of_oneLine (oneLine_write _)]

/-- The line of a message is read as its value, with the members in order. -/
theorem parse_line_of_readsBack (hd : m.written.depth ≤ maxDepth)
    (hn : ∀ j ∈ m.data, j.NumbersAll ReadsBack) : parse m.line = ofJson (sorted m.written) := by
  rw [parse, line_eq_compact,
    parse?_compact hd (numbersAll_written (fun i => readsBack_integer ⟨i, rfl⟩) hn)]

theorem parse_line_eq_ofJson (h : m.Regular) : parse m.line = ofJson (sorted m.written) :=
  parse_line_of_readsBack h.depth fun j hj => (h.integers j hj).mono (fun _ => readsBack_integer) j

end

/-! ## What the text says -/

section

open Json

variable {v : Json}

theorem spells_request_iff {r : Request} : v.Spells (.request r) ↔
    r.version = formatVersion ∧ v.member? "jsonrpc" = some (.string formatVersion) ∧
      v.member? "id" = some r.id.toJson ∧ v.member? "method" = some (.string r.method) ∧
      v.given? "params" = r.params := by
  constructor
  · rintro (⟨hv, hi, hm⟩)
    exact ⟨rfl, hv, hi, hm, rfl⟩
  · obtain ⟨version, id, method, params⟩ := r
    rintro ⟨rfl, hv, hi, hm, rfl⟩
    exact .request hv hi hm

theorem spells_notification_iff {n : Notification} : v.Spells (.notification n) ↔
    n.version = formatVersion ∧ v.member? "jsonrpc" = some (.string formatVersion) ∧
      v.member? "id" = none ∧ v.member? "method" = some (.string n.method) ∧
      v.given? "params" = n.params := by
  constructor
  · rintro (- | ⟨hv, hi, hm⟩)
    exact ⟨rfl, hv, hi, hm, rfl⟩
  · obtain ⟨version, method, params⟩ := n
    rintro ⟨rfl, hv, hi, hm, rfl⟩
    exact .notification hv hi hm

theorem spells_response_iff {r : Response} : v.Spells (.response r) ↔
    r.version = formatVersion ∧ v.member? "jsonrpc" = some (.string formatVersion) ∧
      v.member? "method" = none ∧ ((v.member? "result").isSome ≠ (v.member? "error").isSome) ∧
      v.given? "id" = r.id.map RequestId.toJson ∧ v.given? "result" = r.result ∧
      Option.Rel (fun j e => ErrorObject.shape.decode false j = .ok e)
        (v.given? "error") r.error := by
  constructor
  · rintro (- | - | ⟨hv, hm, hone, hi, he⟩)
    exact ⟨rfl, hv, hm, hone, hi, rfl, he⟩
  · obtain ⟨version, id, result, error⟩ := r
    rintro ⟨rfl, hv, hm, hone, hi, rfl, he⟩
    exact .response hv hm hone hi he

theorem sorted_toJson (i : RequestId) : sorted i.toJson = i.toJson := by
  cases i <;> rfl

/-- A request survives unless its params are null. -/
theorem ofJson_sorted_request {r : Request} (hv : r.version = formatVersion)
    (hc : ∀ v ∈ r.params, v.Canonical) :
    ofJson (sorted (Request.shape.written r)) = .ok (.request r) ↔ r.params ≠ some .null := by
  obtain ⟨version, id, method, params⟩ := r
  cases hv
  rw [ofJson_eq_ok_iff, spells_request_iff, Request.written_shape]
  have hkeys : ((("jsonrpc", .string formatVersion) :: ("id", id.toJson) ::
      ("method", .string method) :: optionalMember "params" params).map (·.1)).Nodup := by
    cases params <;> simp [optionalMember]
  have hparams := given?_eq_iff (member?_sorted_eq hkeys "params"
    (by cases params <;> rfl) (map_sorted_of_canonical hc))
  constructor
  · rintro ⟨-, -, -, -, hp⟩
    exact hparams.1 hp
  · intro hp
    refine ⟨rfl, ?_, ?_, ?_, hparams.2 hp⟩
    · exact member?_sorted_eq hkeys _ rfl rfl
    · exact member?_sorted_eq hkeys _ rfl (congrArg some (sorted_toJson id))
    · exact member?_sorted_eq hkeys _ rfl rfl

/-- A notification survives unless its params are null. -/
theorem ofJson_sorted_notification {n : Notification} (hv : n.version = formatVersion)
    (hc : ∀ v ∈ n.params, v.Canonical) :
    ofJson (sorted (Notification.shape.written n)) = .ok (.notification n) ↔
      n.params ≠ some .null := by
  obtain ⟨version, method, params⟩ := n
  cases hv
  rw [ofJson_eq_ok_iff, spells_notification_iff, Notification.written_shape]
  have hkeys : ((("jsonrpc", .string formatVersion) :: ("method", .string method) ::
      optionalMember "params" params).map (·.1)).Nodup := by
    cases params <;> simp [optionalMember]
  have hparams := given?_eq_iff (member?_sorted_eq hkeys "params"
    (by cases params <;> rfl) (map_sorted_of_canonical hc))
  constructor
  · rintro ⟨-, -, -, -, hp⟩
    exact hparams.1 hp
  · intro hp
    refine ⟨rfl, ?_, ?_, ?_, hparams.2 hp⟩
    · exact member?_sorted_eq hkeys _ rfl rfl
    · exact member?_sorted_eq hkeys _ (by cases params <;> rfl) rfl
    · exact member?_sorted_eq hkeys _ rfl rfl

/-- An error object survives unless its data are null. -/
theorem decode_sorted_error {held : Bool} {e : ErrorObject} (hc : ∀ v ∈ e.data, v.Canonical) :
    ErrorObject.shape.decode held (sorted (ErrorObject.shape.written e)) = .ok e ↔
      e.data ≠ some .null := by
  obtain ⟨code, message, data⟩ := e
  have hkeys : ((("code", .number (.integer (.ofInt32 code))) :: ("message", .string message) ::
      optionalMember "data" data).map (·.1)).Nodup := by
    cases data <;> simp [optionalMember]
  have hdata := given?_eq_iff (member?_sorted_eq hkeys "data"
    (by cases data <;> rfl) (map_sorted_of_canonical hc))
  rw [ErrorObject.written_shape, sorted, Json.ofMembers, ErrorObject.decode_object]
  constructor
  · rintro ⟨-, -, hd⟩
    exact hdata.1 hd
  · intro hd
    refine ⟨?_, ?_, hdata.2 hd⟩
    · exact member?_sorted_eq hkeys _ rfl rfl
    · exact member?_sorted_eq hkeys _ rfl rfl

/-- The members of a written response, as a look-up finds them with the members in
    order. -/
theorem member?_sorted_response (r : Response) (hc : ∀ v ∈ r.result, v.Canonical) :
    let v := sorted (Response.shape.written r)
    v.member? "jsonrpc" = some (.string r.version) ∧ v.member? "method" = none ∧
      v.member? "id" = some ((r.id.map RequestId.toJson).getD .null) ∧
      v.member? "result" = r.result ∧
      v.member? "error" = r.error.map fun e => sorted (ErrorObject.shape.written e) := by
  obtain ⟨version, id, result, error⟩ := r
  rw [Response.written_shape]
  have hkeys : ((("jsonrpc", .string version) :: ("id", (id.map RequestId.toJson).getD .null) ::
      (optionalMember "result" result ++ optionalMember "error"
        (error.map ErrorObject.shape.written))).map (·.1)).Nodup := by
    cases result <;> cases error <;> simp [optionalMember]
  refine ⟨?_, ?_, ?_, ?_, ?_⟩
  · exact member?_sorted_eq hkeys _ rfl rfl
  · exact member?_sorted_eq hkeys _ (by cases result <;> cases error <;> rfl) rfl
  · refine member?_sorted_eq hkeys _ rfl ?_
    cases id with
    | none => rfl
    | some i => exact congrArg some (sorted_toJson i)
  · exact member?_sorted_eq hkeys _ (by cases result <;> cases error <;> rfl)
      (map_sorted_of_canonical hc)
  · rw [member?_sorted_object hkeys]
    cases result <;> cases error <;> rfl

/-- A response survives unless its result or the data of its error are null, or it has
    not just one outcome. -/
theorem ofJson_sorted_response {r : Response} (hv : r.version = formatVersion)
    (hr : ∀ v ∈ r.result, v.Canonical) (he : ∀ e ∈ r.error, ∀ v ∈ e.data, v.Canonical) :
    ofJson (sorted (Response.shape.written r)) = .ok (.response r) ↔
      r.result ≠ some .null ∧ (∀ e ∈ r.error, e.data ≠ some .null) ∧
        r.result.isSome ≠ r.error.isSome := by
  obtain ⟨hversion, hmethod, hid, hresult, herror⟩ := member?_sorted_response r hr
  -- A missing identifier is written as null, and null reads as a missing one.
  have hgiven : (sorted (Response.shape.written r)).given? "id" = r.id.map RequestId.toJson := by
    rw [given?, hid]
    rcases r.id with _ | _ | _ <;> rfl
  -- An error object is never null, so the member is there if the error is.
  have hgivenError : (sorted (Response.shape.written r)).given? "error" =
      r.error.map fun e => sorted (ErrorObject.shape.written e) := by
    refine (given?_eq_iff herror).2 fun hnull => ?_
    obtain ⟨e, -, he⟩ := Option.map_eq_some_iff.1 hnull
    rw [ErrorObject.written_shape] at he
    cases he
  have hrel : Option.Rel (fun j e => ErrorObject.shape.decode false j = .ok e)
      (r.error.map fun e => sorted (ErrorObject.shape.written e)) r.error ↔
      ∀ e ∈ r.error, e.data ≠ some .null := by
    cases hr : r.error with
    | none => simp
    | some e => simp [decode_sorted_error (he e hr)]
  rw [ofJson_eq_ok_iff, spells_response_iff, hversion, hmethod, hgiven, hgivenError, hrel,
    given?_eq_iff hresult, hresult, herror, Option.isSome_map]
  constructor
  · rintro ⟨-, -, -, hone, -, hn, hd⟩
    exact ⟨hn, hd, hone⟩
  · rintro ⟨hn, hd, hone⟩
    exact ⟨hv, by rw [hv], rfl, hone, rfl, hn, hd⟩

/-- A regular message survives exactly if it is unambiguous. -/
theorem ofJson_sorted_written (h : m.Regular) :
    ofJson (sorted m.written) = .ok m ↔ m.Unambiguous := by
  obtain ⟨hv, -, hc, -⟩ := h
  cases m with
  | request r =>
    refine (ofJson_sorted_request hv fun v hp => hc v (Option.mem_toList.2 hp)).trans ?_
    exact ⟨fun hn => ⟨fun hm => hn (Option.mem_toList.1 hm), nofun⟩,
      fun hu hn => hu.1 (Option.mem_toList.2 hn)⟩
  | notification n =>
    refine (ofJson_sorted_notification hv fun v hp => hc v (Option.mem_toList.2 hp)).trans ?_
    exact ⟨fun hn => ⟨fun hm => hn (Option.mem_toList.1 hm), nofun⟩,
      fun hu hn => hu.1 (Option.mem_toList.2 hn)⟩
  | response r =>
    have hdata {v : Json} : v ∈ (response r).data ↔ v ∈ r.result ∨ ∃ e ∈ r.error, v ∈ e.data := by
      simp [data, Option.bind_eq_some_iff]
    refine (ofJson_sorted_response hv (fun v hr => hc v (hdata.2 (.inl hr)))
      fun e he v hd => hc v (hdata.2 (.inr ⟨e, he, hd⟩))).trans ?_
    rw [Unambiguous, hdata, not_or, and_assoc]
    refine and_congr_right' (and_congr ?_ ?_)
    · exact ⟨fun hn ⟨e, he, hd⟩ => hn e he hd, fun hn e he hd => hn ⟨e, he, hd⟩⟩
    · exact ⟨fun hone r hr => by cases hr; exact hone, fun hone => hone r rfl⟩

/-- **Round trip.** A regular message is read back from its line exactly if nothing in
    it reads as if it were left out and, of a response, just one outcome is there. So
    every message that was made of data that are not null comes through. -/
theorem parse_line (h : m.Regular) :
    (parse m.line = .ok m ↔ m.Unambiguous) ∧ (m.Made → parse m.line = .ok m) := by
  have hiff : parse m.line = .ok m ↔ m.Unambiguous := by
    rw [parse_line_eq_ofJson h, ofJson_sorted_written h]
  exact ⟨hiff, fun hm => hiff.2 hm.unambiguous⟩

/-- A request comes through with line breaks, a character beyond ASCII and the least
    integer in it. -/
theorem parse_line_request :
    let m : Message := .request
      { id := .text "a\r\nb", method := "écho", params := some (.object
          [("list", .array [.null, .number (.integer ⟨-9223372036854775808, by decide⟩)])]) }
    m.Regular ∧ m.Made ∧ parse m.line = .ok m := by
  intro m
  have hr : m.Regular := by
    refine ⟨rfl, by decide, ?_, ?_⟩ <;>
      simp [m, data, Canonical, MembersCanonical, ItemsCanonical, Entries.Ascending,
        NumbersAll, MembersNumbersAll, ItemsNumbersAll, IsInteger]
  have hm : m.Made := .request fun hnull => by cases hnull
  exact ⟨hr, hm, (parse_line hr).2 hm⟩

end

end Message

end ContextServer
