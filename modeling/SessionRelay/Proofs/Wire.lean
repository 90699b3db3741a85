import SessionRelay.Wire
import SessionRelay.Proofs.Mcp.Content
import SessionRelay.Proofs.Rpc.Grammar

/-!
# Wire types are read again as they were written

Every type with a form on the wire is stable: what is read from a value is written as a value that
reads as the same (`WireForm.read_write_read`). For records that is said field by field; messages
come from their grammar and from what is known of regular messages.
-/

namespace SessionRelay

open Json Json.Members

/-! ## Definitions and results -/

namespace Mcp

theorem Implementation.stable : Stable ofJson toJson where
  ne_null _ _ := by simp [toJson]
  recovers _ _ := by
    refine Recovers.of_record (by decide) ?_ ?_ ?_ rfl ?_
    · simp [Record.get, Record.get?_known, rules]
    · simp [rules, Decode.text]
    · simp [Decode.text]
    · simp

theorem ToolDefinition.stable : Stable ofJson toJson where
  ne_null _ _ := by simp [toJson]
  recovers hv h := by
    obtain ⟨fields, hread, h⟩ := bind_eq_ok.1 h
    obtain ⟨name, -, h⟩ := bind_eq_ok.1 h
    obtain ⟨description, hdescription, h⟩ := bind_eq_ok.1 h
    obtain ⟨input, hinput, h⟩ := bind_eq_ok.1 h
    obtain ⟨output, houtput, h⟩ := bind_eq_ok.1 h
    obtain ⟨extra, hextra, h⟩ := bind_eq_ok.1 h
    cases h
    have hdescription := Decode.stable_text.of_get? hv hread hdescription
    have hinput := Decode.stable_any.of_get hv hread hinput
    have houtput := Decode.stable_any.of_get? hv hread houtput
    have hextra := Decode.stable_members.of_get? hv hread hextra
    have hback : Decode.any input.canonical = .ok input := hinput.back
    have hfits : input.Fits := hinput.fits
    refine Recovers.of_record (by decide) ?_ ?_ ?_ rfl ?_
    · simp [Record.get, Record.get?, Record.get?_known, rules]
    · simp [rules, Decode.text, hdescription.back, hback, houtput.back_id, hextra.back]
    · simp [Decode.text, hdescription.back, hback, houtput.back_id, hextra.back]
    · simpa using ⟨hfits, houtput.fits, hextra.fits⟩

theorem ResourceDefinition.stable : Stable ofJson toJson where
  ne_null _ _ := by simp [toJson]
  recovers hv h := by
    obtain ⟨fields, hread, h⟩ := bind_eq_ok.1 h
    obtain ⟨uri, -, h⟩ := bind_eq_ok.1 h
    obtain ⟨name, -, h⟩ := bind_eq_ok.1 h
    obtain ⟨description, hdescription, h⟩ := bind_eq_ok.1 h
    obtain ⟨mimeType, hmimeType, h⟩ := bind_eq_ok.1 h
    obtain ⟨size, hsize, h⟩ := bind_eq_ok.1 h
    obtain ⟨extra, hextra, h⟩ := bind_eq_ok.1 h
    cases h
    have hdescription := Decode.stable_text.of_get? hv hread hdescription
    have hmimeType := Decode.stable_text.of_get? hv hread hmimeType
    have hsize := Decode.stable_nat64.of_get? hv hread hsize
    have hextra := Decode.stable_members.of_get? hv hread hextra
    refine Recovers.of_record (by decide) ?_ ?_ ?_ rfl ?_
    · simp [Record.get, Record.get?, Record.get?_known, rules]
    · simp [rules, Decode.text, hdescription.back, hmimeType.back, hsize.back,
        hextra.back]
    · simp [Decode.text, hdescription.back, hmimeType.back, hsize.back, hextra.back]
    · simpa using ⟨hsize.fits, hextra.fits⟩

theorem CallResult.stable : Stable ofJson toJson where
  ne_null _ _ := by simp [toJson]
  recovers hv h := by
    obtain ⟨fields, hread, h⟩ := bind_eq_ok.1 h
    obtain ⟨content, hcontent, h⟩ := bind_eq_ok.1 h
    obtain ⟨isError, -, h⟩ := bind_eq_ok.1 h
    obtain ⟨structured, hstructured, h⟩ := bind_eq_ok.1 h
    cases h
    have hcontent := (Decode.stable_sequence Content.stable).of_get hv hread hcontent
    have hstructured := Decode.stable_any.of_get? hv hread hstructured
    refine Recovers.of_record (by decide) ?_ ?_ ?_ rfl ?_
    · simp [Record.get, Record.getD, Record.get?, Record.get?_known, rules]
    · cases isError <;> simp [rules, FieldRule.admits_defaulted false, Decode.boolean,
        hcontent.back, hstructured.back_id]
    · cases isError <;> simp [Decode.boolean, hcontent.back, hstructured.back_id]
    · cases isError <;> simpa using ⟨hcontent.fits, hstructured.fits⟩

theorem ReadResult.stable : Stable ofJson toJson where
  ne_null _ _ := by simp [toJson]
  recovers hv h := by
    obtain ⟨fields, hread, h⟩ := bind_eq_ok.1 h
    obtain ⟨contents, hcontents, h⟩ := bind_eq_ok.1 h
    cases h
    have hcontents :=
      (Decode.stable_sequence (ResourceContent.stable .document)).of_get hv hread hcontents
    refine Recovers.of_record (by decide) ?_ ?_ ?_ rfl ?_
    · simp [Record.get, Record.get?_known, rules]
    · simp [rules, hcontents.back]
    · simp [hcontents.back]
    · simpa using hcontents.fits

end Mcp

/-! ## Messages -/

namespace Rpc

theorem Id.stable : Stable ofJson toJson where
  ne_null {_ id} _ _ := id.toJson_ne_null
  recovers {_ id} _ h := by
    have hid := Id.regular_of_ofJson h
    exact ⟨by rw [canonical_toJson, ofJson_toJson hid], fun n hn => Id.fits hid hn⟩

theorem ErrorObject.stable : Stable ofJson toJson where
  ne_null _ _ := by simp [toJson]
  recovers hv h := by
    have he := (ErrorObject.of_ofJson hv h).1
    exact ⟨ofJson_toJson he, fun n hn => ErrorObject.fits he hn⟩

/-- A value that is read as a record nests. -/
theorem nesting_pos_of_bind {α : Type} {type : String} {rules : List FieldRule} {v : Json}
    {build : Record → Except DecodeError α} {a : α}
    (h : (Record.read type rules .document v >>= build) = .ok a) : 0 < v.nesting := by
  obtain ⟨fields, hread, -⟩ := bind_eq_ok.1 h
  exact nesting_pos_of_read hread

/-- Whether what a message is written as is read back by the reader of its kind. -/
def Message.KeepsKind : Message → Prop
  | .request r => Request.ofJson r.toJson.canonical = .ok r
  | .notification n => Notification.ofJson n.toJson.canonical = .ok n
  | .success r => Success.ofJson r.toJson.canonical = .ok r
  | .failure r => Failure.ofJson r.toJson.canonical = .ok r

theorem Message.Regular.keepsKind {m : Message} (h : m.Regular) : m.KeepsKind := by
  rcases (ofJson_cases (ofJson_toJson h)).2 with
    ⟨r, hr, rfl⟩ | ⟨n, hn, rfl⟩ | ⟨r, hr, rfl⟩ | ⟨r, hr, rfl⟩
  · exact hr
  · exact hn
  · exact hr
  · exact hr

theorem Request.stable : Stable ofJson toJson where
  ne_null _ _ := by simp [toJson]
  recovers hv h := by
    have hr := (Request.of_ofJson hv (nesting_pos_of_bind h) h).1
    exact ⟨hr.keepsKind, fun _ => Message.fits hr⟩

theorem Notification.stable : Stable ofJson toJson where
  ne_null _ _ := by simp [toJson]
  recovers hv h := by
    have hn := (Notification.of_ofJson hv (nesting_pos_of_bind h) h).1
    exact ⟨hn.keepsKind, fun _ => Message.fits hn⟩

theorem Success.stable : Stable ofJson toJson where
  ne_null _ _ := by simp [toJson]
  recovers hv h := by
    have hr := (Success.of_ofJson hv (nesting_pos_of_bind h) h).1
    exact ⟨hr.keepsKind, fun _ => Message.fits hr⟩

theorem Failure.stable : Stable ofJson toJson where
  ne_null _ _ := by simp [toJson]
  recovers hv h := by
    have hr := (Failure.of_ofJson hv (nesting_pos_of_bind h) h).1
    exact ⟨hr.keepsKind, fun _ => Message.fits hr⟩

/-- An error response has no result, so it is not taken for a success. -/
theorem Failure.not_success (r : Failure) (s : Success) :
    Success.ofJson r.toJson.canonical ≠ .ok s := by
  intro h
  rw [toJson, canonical_object] at h
  have hresult := ((Success.ofJson_object (increasing_sorted _)).1 h).2.2
  simp [Members.get?_sorted] at hresult

theorem Response.stable : Stable ofJson toJson where
  ne_null {_ r} _ _ := by cases r <;> simp [toJson, Success.toJson, Failure.toJson]
  recovers {v r} hv h := by
    unfold ofJson at h
    split at h
    · rename_i s hs
      cases h
      have hs := Success.stable.recovers hv hs
      refine ⟨?_, hs.fits⟩
      rw [ofJson, toJson, hs.back]
    · split at h
      · rename_i f hf
        cases h
        have hf := Failure.stable.recovers hv hf
        refine ⟨?_, hf.fits⟩
        rw [ofJson, toJson]
        cases hread : Success.ofJson f.toJson.canonical with
        | ok s => exact absurd hread (Failure.not_success f s)
        | error e => rw [hf.back]
      · cases h

theorem Message.decoder_eq_ok_iff {v : Json} {m : Message} :
    decoder v = .ok m ↔ ofJson v = .ok m := by
  rw [decoder]
  cases ofJson v <;> simp [Except.mapError]

theorem Message.stable : Stable decoder toJson where
  ne_null {_ m} _ _ := by
    cases m <;> simp [toJson, Request.toJson, Notification.toJson, Success.toJson, Failure.toJson]
  recovers hv h := by
    have hm := (Message.of_ofJson hv (decoder_eq_ok_iff.1 h)).1
    exact ⟨decoder_eq_ok_iff.2 (ofJson_toJson hm), fun n hn => Message.fits hm hn⟩

end Rpc

theorem Mcp.CancelParams.stable : Stable ofJson toJson where
  ne_null _ _ := by simp [toJson]
  recovers hv h := by
    obtain ⟨fields, hread, h⟩ := bind_eq_ok.1 h
    obtain ⟨id, hid, h⟩ := bind_eq_ok.1 h
    obtain ⟨reason, hreason, h⟩ := bind_eq_ok.1 h
    cases h
    have hid := Rpc.Id.stable.of_get hv hread hid
    have hreason := Decode.stable_text.of_get? hv hread hreason
    refine Recovers.of_record (by decide) ?_ ?_ ?_ rfl ?_
    · simp [Record.get, Record.get?, Record.get?_known, rules]
    · simp [rules, hid.back, hreason.back]
    · simp [hid.back, hreason.back]
    · simpa using hid.fits

theorem Envelope.stable : Stable ofJson toJson where
  ne_null _ _ := by simp [toJson]
  recovers hv h := by
    obtain ⟨fields, hread, h⟩ := bind_eq_ok.1 h
    obtain ⟨target, -, h⟩ := bind_eq_ok.1 h
    obtain ⟨client, -, h⟩ := bind_eq_ok.1 h
    obtain ⟨message, hmessage, h⟩ := bind_eq_ok.1 h
    cases h
    have hmessage := Rpc.Message.stable.of_get hv hread hmessage
    refine Recovers.of_record (by decide) ?_ ?_ ?_ rfl ?_
    · simp [Record.get, Record.get?_known, rules]
    · simp [rules, Decode.text, hmessage.back]
    · simp [Decode.text, hmessage.back]
    · simpa using hmessage.fits

/-! ## All wire types -/

/-- The id that a value shows, where `null` counts as none. -/
def Json.shownId (v : Json) : Option Json := (v.member? "id").filter fun id => !id.isNull

@[simp] theorem Rpc.last?_optionalMember {key name : String} {o : Option Json} :
    last? name (optionalMember key o) = if key = name then o else none := by
  cases o <;> simp [optionalMember]

theorem Rpc.Id.canonical_shown (id : Rpc.Id) :
    (some id.toJson.canonical).filter (fun id => !id.isNull) = some id.toJson := by
  simp [Option.filter, Id.canonical_toJson]

/-- A message is written with the id that it was read with. -/
theorem Rpc.Message.shownId_toJson {v : Json} {m : Rpc.Message} (h : Spells v m) :
    m.toJson.canonical.shownId = v.shownId := by
  have hwritten : ∀ written : List (String × Json), (object written).canonical.shownId =
      ((last? "id" written).map canonical).filter fun id => !id.isNull := by
    intro written
    rw [canonical_object, Json.shownId, member?, Members.get?_sorted]
  cases h with
  | request hversion hmethod hid hx =>
    refine Eq.trans ?_ (hx.value? hid).symm
    rw [toJson, Request.toJson, hwritten]
    simp [hx.eq_toJson, Rpc.Id.canonical_shown]
  | notification hversion hmethod hid =>
    refine Eq.trans ?_ hid.symm
    rw [toJson, Notification.toJson, hwritten]
    simp
  | @failure members version x id error hversion hmethod herror hx hid =>
    show _ = Record.value? "id" members
    rw [toJson, Failure.toJson, hwritten]
    generalize Record.value? "id" members = o at hid
    cases hid with
    | none => rfl
    | some hx => simp [hx.eq_toJson, Rpc.Id.canonical_shown]
  | success hversion hmethod herror hid hx hresult =>
    refine Eq.trans ?_ (hx.value? hid).symm
    rw [toJson, Success.toJson, hwritten]
    simp [hx.eq_toJson, Rpc.Id.canonical_shown]

namespace WireForm

/-- A typed value is read back from the JSON value it is written as. -/
structure Again {α : Type} [WireForm α] (x : α) : Prop where
  tidy : (write x).canonical.Tidy
  back : read (write x).canonical = .ok x

theorem again_of_stable {α : Type} [WireForm α] (h : Stable (read (α := α)) write) {v : Json}
    (hv : v.Tidy) {x : α} (hx : read v = .ok x) : Again x :=
  ⟨(h.recovers hv hx).tidy, (h.recovers hv hx).back⟩

/-- Every type on the wire is stable. What is read from a value, be it an object or an array, is
written as a value that reads as the same again. A message so keeps its kind, and is written with
the id that the value shows. -/
theorem read_write_read {v : Json} (hv : v.Tidy) :
    (∀ m : Rpc.Message, read v = .ok m → Again m ∧ (write m).canonical.shownId = v.shownId) ∧
      (∀ r : Rpc.Request, read v = .ok r → Again r) ∧
      (∀ n : Rpc.Notification, read v = .ok n → Again n) ∧
      (∀ r : Rpc.Response, read v = .ok r → Again r) ∧
      (∀ e : Rpc.ErrorObject, read v = .ok e → Again e) ∧
      (∀ id : Rpc.Id, read v = .ok id → Again id) ∧
      (∀ c : Mcp.Content, read v = .ok c → Again c) ∧
      (∀ a : Mcp.Annotations, read v = .ok a → Again a) ∧
      (∀ r : Mcp.CallResult, read v = .ok r → Again r) ∧
      (∀ d : Mcp.ToolDefinition, read v = .ok d → Again d) ∧
      (∀ d : Mcp.ResourceDefinition, read v = .ok d → Again d) ∧
      (∀ r : Mcp.ReadResult, read v = .ok r → Again r) ∧
      (∀ p : Mcp.CancelParams, read v = .ok p → Again p) ∧
      (∀ i : Mcp.Implementation, read v = .ok i → Again i) ∧
      ∀ e : Envelope, read v = .ok e → Again e := by
  refine ⟨fun m hm => ⟨again_of_stable Rpc.Message.stable hv hm, ?_⟩,
    fun _ => again_of_stable Rpc.Request.stable hv,
    fun _ => again_of_stable Rpc.Notification.stable hv,
    fun _ => again_of_stable Rpc.Response.stable hv,
    fun _ => again_of_stable Rpc.ErrorObject.stable hv,
    fun _ => again_of_stable Rpc.Id.stable hv,
    fun _ => again_of_stable Mcp.Content.stable hv,
    fun _ => again_of_stable (Mcp.Annotations.stable .document) hv,
    fun _ => again_of_stable Mcp.CallResult.stable hv,
    fun _ => again_of_stable Mcp.ToolDefinition.stable hv,
    fun _ => again_of_stable Mcp.ResourceDefinition.stable hv,
    fun _ => again_of_stable Mcp.ReadResult.stable hv,
    fun _ => again_of_stable Mcp.CancelParams.stable hv,
    fun _ => again_of_stable Mcp.Implementation.stable hv,
    fun _ => again_of_stable Envelope.stable hv⟩
  have hspells := (Rpc.Message.ofJson_eq_ok_iff hv.ordered).1 (Rpc.Message.decoder_eq_ok_iff.1 hm)
  exact Rpc.Message.shownId_toJson hspells

/-- An envelope as an array, around a request whose parameters are `null`. -/
def listedEnvelope : Json :=
  .array [.string "b", .string "c", .object [("id", .int 1), ("jsonrpc", .string "2.0"),
    ("method", .string "ping"), ("params", .null)]]

theorem read_write_read_listed : ∃ e : Envelope, read listedEnvelope = .ok e ∧
    e.message.kind = "request" ∧ Again e := by
  have htidy : listedEnvelope.Tidy := by
    have hcanonical : listedEnvelope.canonical = listedEnvelope := rfl
    refine ⟨hcanonical ▸ ordered_canonical listedEnvelope, fun n hn => ?_⟩
    cases List.mem_singleton.1 hn
    exact ⟨by decide, by decide⟩
  have hread : read listedEnvelope = .ok (Envelope.mk "b" "c"
      (.request { id := .number 1, method := "ping" })) := rfl
  exact ⟨_, hread, rfl, (read_write_read htidy).2.2.2.2.2.2.2.2.2.2.2.2.2.2 _ hread⟩

end WireForm

end SessionRelay
