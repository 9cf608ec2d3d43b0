import ContextServer.Failure
import ContextServer.Payload.Catalogue
import ContextServer.Proofs.Schema.Padding
import ContextServer.Proofs.Schema.Plain
import ContextServer.Proofs.Schema.RoundTrip

/-!
# Payloads on the way there and back

All the records of the protocol are described without ambiguity
(`RecordType.payloads_wellFormed`, by computation), so a plain record comes back from the
value it is written as, and so does every record that was read
(`RecordType.payload_comes_back`). For the same reason, members that mean nothing make no
difference to what is read, at any depth (`RecordType.payload_padded`).
-/

namespace ContextServer

/-- The records of the protocol are described without ambiguity. -/
theorem RecordType.payloads_wellFormed : ∀ t ∈ payloads, t.shape.isWellFormed = true := by
  have h : payloads.all (fun t => t.shape.isWellFormed) = true := by decide +kernel
  exact List.all_eq_true.1 h

/-- **Round trip.** A record of the protocol comes back from the value it is written as, with
    every variant in it, unless an optional field for any value holds null in it. No record
    that was read does, so it can be written and read again. -/
theorem RecordType.payload_comes_back :
    ∀ t ∈ payloads, (∀ r, t.shape.isPlain r = true →
        decodeParams t.shape (some (t.shape.encode r)) = .ok r) ∧
      ∀ v r, decodeParams t.shape (some v) = .ok r →
        decodeParams t.shape (some (t.shape.encode r)) = .ok r := by
  intro t ht
  have hwf := payloads_wellFormed t ht
  have hback (r : t.Carrier) (hp : t.shape.isPlain r = true) :
      decodeParams t.shape (some (t.shape.encode r)) = .ok r := by
    rw [decodeParams, Option.getD_some, t.shape.roundTrips hwf false r hp]
  refine ⟨hback, fun v r h => hback r ?_⟩
  rw [decodeParams, Option.getD_some] at h
  split at h
  · next r' hr =>
    cases h
    exact t.shape.yieldsPlain hwf false v r hr
  · cases h

/-- All kinds of content come back in one result, and so does a result that was read from an
    object with a member too many. -/
theorem RecordType.payload_comes_back_content :
    let r : CallToolResult :=
      { content := [.ofText "t",
          .image
            { data := "AA==", mimeType := "image/png"
              annotations := some { audience := some [.user], priority := some (.zero true) } },
          .ofResource (.text { uri := "a", text := "" }),
          .ofResource (.blob { uri := "b", mimeType := some "x", blob := "" })] }
    let v : Json := .object [("content", .array []), ("text", .null)]
    CallToolResult.shape.isPlain r = true ∧
      decodeParams CallToolResult.shape (some (CallToolResult.shape.encode r)) = .ok r ∧
      decodeParams CallToolResult.shape (some v) = .ok { content := [] } ∧
      decodeParams CallToolResult.shape
        (some (CallToolResult.shape.encode { content := [] })) = .ok { content := [] } := by
  intro r v
  have hmem : ⟨_, "CallToolResult", CallToolResult.shape⟩ ∈ payloads :=
    List.mem_of_getElem? (i := 22) rfl
  have hp : CallToolResult.shape.isPlain r = true := by decide +kernel
  have hv : decodeParams CallToolResult.shape (some v) = .ok { content := [] } := by rfl
  obtain ⟨hplain, hread⟩ := payload_comes_back _ hmem
  exact ⟨hp, hplain r hp, hv, hread v _ hv⟩

/-- **Padding.** The outcome of decoding a value as a record of the protocol, which is the
    record or the fault, is not changed by padding: neither by members, with any value, under
    names that are no names of the record, nor by members that are null where the record has
    an optional field and had no member; and that at any depth at which a record occurs. -/
theorem RecordType.payload_padded :
    (∀ {α : Type} (shape : Shape α) (k : String) (ms : List (String × Json)),
      (shape.isWithout k = true → ∀ w,
        shape.Padded (.object ms) (.object (Entries.put k w ms))) ∧
      (shape.hasOptional k = true → Entries.lookup k ms = none →
        shape.Padded (.object ms) (.object (Entries.put k .null ms)))) ∧
    ∀ t ∈ payloads, ∀ v v', t.shape.Padded v v' →
      decodeParams t.shape (some v') = decodeParams t.shape (some v) := by
  refine ⟨fun shape k ms => ⟨fun hk w => ?_, fun hk hnone => ?_⟩, fun t ht v v' h => ?_⟩
  · exact Shape.padded_of_isWithout hk (Entries.sameBut_put k w ms)
  · exact Shape.padded_of_hasOptional hk (Entries.sameBut_put k .null ms) hnone
      (by rw [Entries.lookup_put, if_pos rfl])
  · have halike := h.alike (payloads_wellFormed t ht)
    rw [decodeParams, decodeParams, Option.getD_some, Option.getD_some, halike.decode]

/-- Hints that are null and a member too many, inside a piece of content and inside the body
    in it, leave the result as it is. -/
theorem RecordType.payload_padded_resource :
    let body : List (String × Json) := [("text", .string "t"), ("uri", .string "u")]
    let v : Json := .object [("content", .array [.object
      [("resource", .object body), ("type", .string "resource")]])]
    let v' : Json := .object [("content", .array [.object
      [("annotations", .null), ("resource", .object (Entries.put "note" (.bool true) body)),
        ("type", .string "resource")]])]
    CallToolResult.shape.Padded v v' ∧
      decodeParams CallToolResult.shape (some v') = decodeParams CallToolResult.shape (some v) ∧
      decodeParams CallToolResult.shape (some v) =
        .ok { content := [.ofResource (.text { uri := "u", text := "t" })] } := by
  intro body v v'
  have hmem : ⟨_, "CallToolResult", CallToolResult.shape⟩ ∈ payloads :=
    List.mem_of_getElem? (i := 22) rfl
  obtain ⟨hobject, hpadded⟩ := payload_padded
  have hbody : ResourceContents.shape.Padded (.object body)
      (.object (Entries.put "note" (.bool true) body)) :=
    (hobject ResourceContents.shape "note" body).1 (by decide) (.bool true)
  have hpiece : EmbeddedResource.shape.Padded (.object [("resource", .object body)]) (.object
      [("annotations", .null), ("resource", .object (Entries.put "note" (.bool true) body))]) :=
    .trans ((hobject EmbeddedResource.shape "annotations" _).2 (by decide) rfl)
      (.member .required (Entries.sameBut_put "resource" _ _) rfl rfl hbody)
  have hcontent : Content.shape.Padded (.object
      [("resource", .object body), ("type", .string "resource")]) (.object
      [("annotations", .null), ("resource", .object (Entries.put "note" (.bool true) body)),
        ("type", .string "resource")]) := by
    refine .variant rfl fun label _ inner hhas hmark => ?_
    simp only [Cases.Has, Cases.variants, List.mem_cons, List.not_mem_nil, or_false] at hhas
    rcases hhas with h | h | h <;> cases h
    · exact absurd hmark (by decide)
    · exact absurd hmark (by decide)
    · exact hpiece
  have hv : CallToolResult.shape.Padded v v' :=
    .member .required (Entries.sameBut_put "content" _ _) rfl rfl
      (@Shape.Padded.item _ _ [] [] _ _ hcontent)
  exact ⟨hv, hpadded _ hmem v v' hv, rfl⟩

/-- Null pads no member that has a default but is not optional: there it is a fault. -/
example : CallToolResult.shape.hasOptional "isError" = false ∧
    decodeParams CallToolResult.shape (some (.object [("content", .array [])])) =
      .ok { content := [] } ∧
    ∃ e, decodeParams CallToolResult.shape
      (some (.object [("content", .array []), ("isError", .null)])) = .error e :=
  ⟨by decide, rfl, _, rfl⟩

end ContextServer
