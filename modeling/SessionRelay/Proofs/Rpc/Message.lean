import SessionRelay.Rpc.Decode
import SessionRelay.Proofs.Json.Record

/-!
# Messages and their wire form

A message that was read is regular (`Message.of_ofJson`): its ids and codes have their
width, and the values it carries are tidy. Its wire form nests no deeper than the value it was read
from. A regular message is read back from its wire form (`Message.ofJson_toJson`).
-/

namespace SessionRelay.Rpc

open Json

/-- What an optional member may hold: a tidy value other than `null`. -/
def Plain (o : Option Json) : Prop := ∀ v ∈ o, v.Tidy ∧ v ≠ .null

def Id.Regular : Id → Prop
  | .text _ => True
  | .number n => Width.isInt64 n = true

def ErrorObject.Regular (e : ErrorObject) : Prop :=
  (Width.int32Min ≤ e.code ∧ e.code ≤ Width.int32Max) ∧ Plain e.data

/-- What every message that was read is like. -/
def Message.Regular : Message → Prop
  | .request r => r.id.Regular ∧ Plain r.params
  | .notification n => Plain n.params
  | .success r => r.id.Regular ∧ r.result.Tidy
  | .failure r => (∀ id ∈ r.id, id.Regular) ∧ r.error.Regular

/-! ## Reading -/

theorem Id.regular_of_ofJson {v : Json} {id : Id} (h : Id.ofJson v = .ok id) : id.Regular := by
  unfold ofJson at h
  split at h
  · cases h
    trivial
  · split_ifs at h with hn
    cases h
    exact hn
  · cases h

/-- An optional field is tidy and nests less deeply than the record it was read from. -/
theorem plain_of_get? {type : String} {rules : List FieldRule} {v : Json} {fields : Record}
    {name : String} {o : Option Json} (hv : v.Tidy)
    (hread : Record.read type rules .document v = .ok fields)
    (h : fields.get? name Decode.any = .ok o) : Plain o ∧ ∀ w ∈ o, w.nesting < v.nesting := by
  have hchild : ∀ w ∈ o, Child w v ∧ w ≠ .null := by
    intro w hw
    obtain ⟨x, hx, hne, hok⟩ := Record.exists_of_get? h hw
    cases hok
    exact ⟨Record.child_of_read hread hx, hne⟩
  exact ⟨fun w hw => ⟨(hchild w hw).1.tidy hv, (hchild w hw).2⟩,
    fun w hw => (hchild w hw).1.nesting_lt⟩

theorem nesting_optionalMember {n : Nat} {key : String} {o : Option Json}
    (h : ∀ w ∈ o, w.nesting < n) : ∀ m ∈ optionalMember key o, m.2.nesting < n := by
  cases o with
  | none => simp [optionalMember]
  | some w => simpa [optionalMember] using h w rfl

theorem Id.nesting_toJson (id : Id) : id.toJson.nesting = 0 := by
  cases id <;> rfl

theorem ErrorObject.of_ofJson {v : Json} {e : ErrorObject} (hv : v.Tidy)
    (h : ErrorObject.ofJson v = .ok e) :
    e.Regular ∧ (0 < v.nesting → e.toJson.nesting ≤ v.nesting) := by
  obtain ⟨fields, hread, h⟩ := bind_eq_ok.1 h
  obtain ⟨code, hcode, h⟩ := bind_eq_ok.1 h
  obtain ⟨message, _, h⟩ := bind_eq_ok.1 h
  obtain ⟨data, hdata, h⟩ := bind_eq_ok.1 h
  cases h
  obtain ⟨w, _, hw⟩ := Record.exists_of_get hcode
  obtain ⟨hplain, hdepth⟩ := plain_of_get? hv hread hdata
  refine ⟨⟨Decode.integer_eq_ok hw, hplain⟩, fun hpos => ?_⟩
  refine (nesting_object_le_iff hpos).2 fun m hm => ?_
  rcases List.mem_append.1 hm with hm | hm
  · simp only [List.mem_cons, List.not_mem_nil, or_false] at hm
    rcases hm with rfl | rfl <;> exact hpos
  · exact nesting_optionalMember hdepth m hm

theorem Request.of_ofJson {v : Json} {r : Request} (hv : v.Tidy) (hpos : 0 < v.nesting)
    (h : Request.ofJson v = .ok r) :
    (Message.request r).Regular ∧ r.toJson.nesting ≤ v.nesting := by
  obtain ⟨fields, hread, h⟩ := bind_eq_ok.1 h
  obtain ⟨version, _, h⟩ := bind_eq_ok.1 h
  obtain ⟨id, hid, h⟩ := bind_eq_ok.1 h
  obtain ⟨method, _, h⟩ := bind_eq_ok.1 h
  obtain ⟨params, hparams, h⟩ := bind_eq_ok.1 h
  cases h
  obtain ⟨w, _, hw⟩ := Record.exists_of_get hid
  obtain ⟨hplain, hdepth⟩ := plain_of_get? hv hread hparams
  refine ⟨⟨Id.regular_of_ofJson hw, hplain⟩, (nesting_object_le_iff hpos).2 fun m hm => ?_⟩
  rcases List.mem_append.1 hm with hm | hm
  · simp only [List.mem_cons, List.not_mem_nil, or_false] at hm
    rcases hm with rfl | rfl | rfl
    · exact hpos
    · exact lt_of_eq_of_lt (Id.nesting_toJson id) hpos
    · exact hpos
  · exact nesting_optionalMember hdepth m hm

theorem Notification.of_ofJson {v : Json} {n : Notification} (hv : v.Tidy) (hpos : 0 < v.nesting)
    (h : Notification.ofJson v = .ok n) :
    (Message.notification n).Regular ∧ n.toJson.nesting ≤ v.nesting := by
  obtain ⟨fields, hread, h⟩ := bind_eq_ok.1 h
  obtain ⟨version, _, h⟩ := bind_eq_ok.1 h
  obtain ⟨method, _, h⟩ := bind_eq_ok.1 h
  obtain ⟨params, hparams, h⟩ := bind_eq_ok.1 h
  cases h
  obtain ⟨hplain, hdepth⟩ := plain_of_get? hv hread hparams
  refine ⟨hplain, (nesting_object_le_iff hpos).2 fun m hm => ?_⟩
  rcases List.mem_append.1 hm with hm | hm
  · simp only [List.mem_cons, List.not_mem_nil, or_false] at hm
    rcases hm with rfl | rfl <;> exact hpos
  · exact nesting_optionalMember hdepth m hm

theorem Success.of_ofJson {v : Json} {r : Success} (hv : v.Tidy) (hpos : 0 < v.nesting)
    (h : Success.ofJson v = .ok r) :
    (Message.success r).Regular ∧ r.toJson.nesting ≤ v.nesting := by
  obtain ⟨fields, hread, h⟩ := bind_eq_ok.1 h
  obtain ⟨version, _, h⟩ := bind_eq_ok.1 h
  obtain ⟨id, hid, h⟩ := bind_eq_ok.1 h
  obtain ⟨result, hresult, h⟩ := bind_eq_ok.1 h
  cases h
  obtain ⟨w, _, hw⟩ := Record.exists_of_get hid
  obtain ⟨x, hx, hok⟩ := Record.exists_of_get hresult
  cases hok
  have hchild := Record.child_of_read hread hx
  refine ⟨⟨Id.regular_of_ofJson hw, hchild.tidy hv⟩,
    (nesting_object_le_iff hpos).2 fun m hm => ?_⟩
  simp only [List.mem_cons, List.not_mem_nil, or_false] at hm
  rcases hm with rfl | rfl | rfl
  · exact hpos
  · exact lt_of_eq_of_lt (Id.nesting_toJson id) hpos
  · exact hchild.nesting_lt

theorem nesting_pos_of_read {type : String} {rules : List FieldRule} {v : Json} {fields : Record}
    (h : Record.read type rules .document v = .ok fields) : 0 < v.nesting := by
  cases v with
  | array => exact Nat.succ_pos _
  | object => exact Nat.succ_pos _
  | _ => cases h

theorem Failure.of_ofJson {v : Json} {r : Failure} (hv : v.Tidy) (hpos : 0 < v.nesting)
    (h : Failure.ofJson v = .ok r) :
    (Message.failure r).Regular ∧ r.toJson.nesting ≤ v.nesting := by
  obtain ⟨fields, hread, h⟩ := bind_eq_ok.1 h
  obtain ⟨version, _, h⟩ := bind_eq_ok.1 h
  obtain ⟨id, hid, h⟩ := bind_eq_ok.1 h
  obtain ⟨error, herror, h⟩ := bind_eq_ok.1 h
  cases h
  obtain ⟨x, hx, hok⟩ := Record.exists_of_get herror
  have hchild := Record.child_of_read hread hx
  obtain ⟨hregular, hdepth⟩ := ErrorObject.of_ofJson (hchild.tidy hv) hok
  obtain ⟨inner, hinner, _⟩ := bind_eq_ok.1 hok
  refine ⟨⟨fun i hi => ?_, hregular⟩, (nesting_object_le_iff hpos).2 fun m hm => ?_⟩
  · obtain ⟨w, _, _, hw⟩ := Record.exists_of_get? hid hi
    exact Id.regular_of_ofJson hw
  · simp only [List.mem_cons, List.not_mem_nil, or_false] at hm
    rcases hm with rfl | rfl | rfl
    · exact hpos
    · cases id with
      | none => exact hpos
      | some id => exact lt_of_eq_of_lt (Id.nesting_toJson id) hpos
    · exact (hdepth (nesting_pos_of_read hinner)).trans_lt hchild.nesting_lt

namespace Message

/-- The kinds of message that a value can be read as. -/
theorem ofJson_cases {v : Json} {m : Message} (h : ofJson v = .ok m) : 0 < v.nesting ∧
    ((∃ r, Request.ofJson v = .ok r ∧ m = .request r) ∨
      (∃ n, Notification.ofJson v = .ok n ∧ m = .notification n) ∨
      (∃ r, Success.ofJson v = .ok r ∧ m = .success r) ∨
      ∃ r, Failure.ofJson v = .ok r ∧ m = .failure r) := by
  cases v with
  | object members =>
    refine ⟨Nat.succ_pos _, ?_⟩
    unfold ofJson at h
    simp only at h
    split at h
    · rename_i decoded hdecoded
      cases h
      split_ifs at hdecoded
      · obtain ⟨r, hr, h⟩ := map_eq_ok.1 hdecoded
        exact .inl ⟨r, hr, (Option.some.inj h).symm⟩
      · obtain ⟨n, hn, h⟩ := map_eq_ok.1 hdecoded
        exact .inr (.inl ⟨n, hn, (Option.some.inj h).symm⟩)
      · obtain ⟨r, hr, h⟩ := map_eq_ok.1 hdecoded
        exact .inr (.inr (.inr ⟨r, hr, (Option.some.inj h).symm⟩))
      · obtain ⟨r, hr, h⟩ := map_eq_ok.1 hdecoded
        exact .inr (.inr (.inl ⟨r, hr, (Option.some.inj h).symm⟩))
      · cases hdecoded
    · cases h
    · cases h
  | _ => cases h

theorem of_ofJson {v : Json} {m : Message} (hv : v.Tidy) (h : ofJson v = .ok m) :
    m.Regular ∧ m.toJson.nesting ≤ v.nesting := by
  obtain ⟨hpos, h⟩ := ofJson_cases h
  rcases h with ⟨r, hr, rfl⟩ | ⟨n, hn, rfl⟩ | ⟨r, hr, rfl⟩ | ⟨r, hr, rfl⟩
  · exact Request.of_ofJson hv hpos hr
  · exact Notification.of_ofJson hv hpos hn
  · exact Success.of_ofJson hv hpos hr
  · exact Failure.of_ofJson hv hpos hr

end Message

/-! ## Writing -/

theorem fits_of_isInt64 {n : Int} (h : Width.isInt64 n = true) : Number.Fits n := by
  simp only [Width.isInt64, Bool.and_eq_true, decide_eq_true_eq] at h
  exact ⟨h.1, h.2.trans (by decide)⟩

theorem Id.fits {id : Id} (h : id.Regular) {n : Int} (hn : .int n ∈ id.toJson.numbers) :
    Number.Fits n := by
  cases id with
  | text s => cases hn
  | number k =>
    have hk : n = k := by simpa [toJson, Json.int, numbers] using hn
    exact hk ▸ fits_of_isInt64 h

theorem fits_of_plain {key : String} {o : Option Json} (h : Plain o) {n : Int} :
    ∀ m ∈ optionalMember key o, .int n ∈ m.2.numbers → Number.Fits n := by
  cases o with
  | none => simp [optionalMember]
  | some v => simpa [optionalMember] using (h v rfl).1.fits n

theorem ErrorObject.fits {e : ErrorObject} (h : e.Regular) {n : Int}
    (hn : .int n ∈ e.toJson.numbers) : Number.Fits n := by
  obtain ⟨m, hm, hn⟩ := mem_numbers_object.1 hn
  rcases List.mem_append.1 hm with hm | hm
  · simp only [List.mem_cons, List.not_mem_nil, or_false] at hm
    rcases hm with rfl | rfl
    · have hcode : n = e.code := by simpa [Json.int, numbers] using hn
      subst hcode
      exact ⟨h.1.1.trans' (by decide), h.1.2.trans (by decide)⟩
    · cases hn
  · exact fits_of_plain h.2 m hm hn

/-- The integers in a regular message fit 64 bits. -/
theorem Message.fits {m : Message} (h : m.Regular) {n : Int} (hn : .int n ∈ m.toJson.numbers) :
    Number.Fits n := by
  cases m with
  | request r =>
    obtain ⟨x, hx, hn⟩ := mem_numbers_object.1 hn
    rcases List.mem_append.1 hx with hx | hx
    · simp only [List.mem_cons, List.not_mem_nil, or_false] at hx
      rcases hx with rfl | rfl | rfl
      · cases hn
      · exact Id.fits h.1 hn
      · cases hn
    · exact fits_of_plain h.2 x hx hn
  | notification r =>
    obtain ⟨x, hx, hn⟩ := mem_numbers_object.1 hn
    rcases List.mem_append.1 hx with hx | hx
    · simp only [List.mem_cons, List.not_mem_nil, or_false] at hx
      rcases hx with rfl | rfl <;> cases hn
    · exact fits_of_plain h x hx hn
  | success r =>
    obtain ⟨x, hx, hn⟩ := mem_numbers_object.1 hn
    simp only [List.mem_cons, List.not_mem_nil, or_false] at hx
    rcases hx with rfl | rfl | rfl
    · cases hn
    · exact Id.fits h.1 hn
    · exact h.2.fits n hn
  | failure r =>
    obtain ⟨version, id, error⟩ := r
    obtain ⟨x, hx, hn⟩ := mem_numbers_object.1 hn
    simp only [List.mem_cons, List.not_mem_nil, or_false] at hx
    rcases hx with rfl | rfl | rfl
    · cases hn
    · cases id with
      | none => cases hn
      | some id => exact Id.fits (h.1 id rfl) hn
    · exact ErrorObject.fits h.2 hn

/-! ## Reading back -/

theorem Id.ofJson_toJson {id : Id} (h : id.Regular) : ofJson id.toJson = .ok id := by
  cases id with
  | text s => rfl
  | number n =>
    have hn : Width.isInt64 n = true := h
    simp [toJson, Json.int, ofJson, hn]

theorem Id.canonical_toJson (id : Id) : id.toJson.canonical = id.toJson := by
  cases id <;> rfl

@[simp] theorem Id.isNull_toJson (id : Id) : id.toJson.isNull = false := by
  cases id <;> rfl

theorem Id.toJson_ne_null (id : Id) : id.toJson ≠ .null := by
  cases id <;> simp [toJson, Json.int]

theorem nullable_any {v : Json} (h : v ≠ .null) : Decode.nullable Decode.any v = .ok (some v) :=
  Decode.nullable_of_ne h

namespace Request

theorem canonical_toJson {r : Request} (h : Plain r.params) : r.toJson.canonical =
    .object ([("id", r.id.toJson), ("jsonrpc", .string r.version), ("method", .string r.method)]
      ++ optionalMember "params" r.params) := by
  obtain ⟨version, id, method, _ | params⟩ := r
  · simp only [toJson, optionalMember, List.append_nil, canonical, canonicalMembers,
      canonicalMember, Id.canonical_toJson]
    rfl
  · simp only [toJson, optionalMember, List.cons_append, List.nil_append, canonical,
      canonicalMembers, canonicalMember, Id.canonical_toJson,
      canonical_of_ordered (h params rfl).1.ordered]
    rfl

theorem ofJson_toJson {r : Request} (hid : r.id.Regular) (hparams : Plain r.params) :
    Message.ofJson r.toJson.canonical = .ok (.request r) := by
  rw [canonical_toJson hparams]
  have hid := Id.ofJson_toJson hid
  obtain ⟨version, id, method, _ | params⟩ := r
  · simp [Message.ofJson, ofJson, rules, optionalMember, Record.read, Record.checkMembers,
      Record.get, Record.get?, Members.get?, FieldRule.required, FieldRule.optionalOf, Decode.text,
      Except.map, hid]
  · simp [Message.ofJson, ofJson, rules, optionalMember, Record.read, Record.checkMembers,
      Record.get, Record.get?, Members.get?, FieldRule.required, FieldRule.optionalOf, Decode.text,
      Except.map, hid, nullable_any (hparams params rfl).2]

end Request

namespace Notification

theorem canonical_toJson {n : Notification} (h : Plain n.params) : n.toJson.canonical =
    .object ([("jsonrpc", .string n.version), ("method", .string n.method)]
      ++ optionalMember "params" n.params) := by
  obtain ⟨version, method, _ | params⟩ := n
  · simp only [toJson, optionalMember, List.append_nil, canonical, canonicalMembers,
      canonicalMember]
    rfl
  · simp only [toJson, optionalMember, List.cons_append, List.nil_append, canonical,
      canonicalMembers, canonicalMember, canonical_of_ordered (h params rfl).1.ordered]
    rfl

theorem ofJson_toJson {n : Notification} (hparams : Plain n.params) :
    Message.ofJson n.toJson.canonical = .ok (.notification n) := by
  rw [canonical_toJson hparams]
  obtain ⟨version, method, _ | params⟩ := n
  · simp [Message.ofJson, ofJson, rules, optionalMember, Record.read, Record.checkMembers,
      Record.get, Record.get?, Members.get?, FieldRule.required, FieldRule.optionalOf, Decode.text,
      Except.map]
  · simp [Message.ofJson, ofJson, rules, optionalMember, Record.read, Record.checkMembers,
      Record.get, Record.get?, Members.get?, FieldRule.required, FieldRule.optionalOf, Decode.text,
      Except.map, nullable_any (hparams params rfl).2]

end Notification

namespace Success

theorem canonical_toJson {r : Success} (h : r.result.Tidy) : r.toJson.canonical =
    .object [("id", r.id.toJson), ("jsonrpc", .string r.version), ("result", r.result)] := by
  simp only [toJson, canonical, canonicalMembers, canonicalMember, Id.canonical_toJson,
    canonical_of_ordered h.ordered]
  rfl

theorem ofJson_toJson {r : Success} (hid : r.id.Regular) (hresult : r.result.Tidy) :
    Message.ofJson r.toJson.canonical = .ok (.success r) := by
  rw [canonical_toJson hresult]
  have hid := Id.ofJson_toJson hid
  simp [Message.ofJson, ofJson, rules, Record.read, Record.checkMembers, Record.get, Members.get?,
    FieldRule.required, Decode.text, Decode.any, Except.map, hid]

end Success

namespace ErrorObject

theorem canonical_toJson {e : ErrorObject} (h : Plain e.data) : e.toJson.canonical =
    .object ([("code", .int e.code)] ++ optionalMember "data" e.data ++
      [("message", .string e.message)]) := by
  obtain ⟨code, message, _ | data⟩ := e
  · simp only [toJson, optionalMember, List.append_nil, canonical, canonicalMembers,
      canonicalMember]
    rfl
  · simp only [toJson, optionalMember, List.cons_append, List.nil_append, canonical,
      canonicalMembers, canonicalMember, canonical_of_ordered (h data rfl).1.ordered]
    rfl

theorem ofJson_toJson {e : ErrorObject} (h : e.Regular) :
    ErrorObject.ofJson e.toJson.canonical = .ok e := by
  obtain ⟨hcode, hdata⟩ := h
  have hcode : Decode.int32 (.int e.code) = .ok e.code := if_pos hcode
  rw [canonical_toJson hdata]
  obtain ⟨code, message, _ | data⟩ := e
  · simp [ofJson, rules, optionalMember, Record.read, Record.checkMembers, Record.get,
      Record.get?, Members.get?, FieldRule.required, FieldRule.optionalOf, Decode.text, Except.map,
      hcode]
  · simp [ofJson, rules, optionalMember, Record.read, Record.checkMembers, Record.get,
      Record.get?, Members.get?, FieldRule.required, FieldRule.optionalOf, Decode.text, Except.map,
      hcode, nullable_any (hdata data rfl).2]

end ErrorObject

namespace Failure

theorem canonical_toJson (r : Failure) : r.toJson.canonical =
    .object [("error", r.error.toJson.canonical), ("id", (r.id.map Id.toJson).getD .null),
      ("jsonrpc", .string r.version)] := by
  obtain ⟨version, _ | id, error⟩ := r
  · rfl
  · simp only [toJson, canonical, canonicalMembers, canonicalMember, Option.map_some,
      Option.getD_some, Id.canonical_toJson]
    rfl

theorem ofJson_toJson {r : Failure} (hid : ∀ id ∈ r.id, id.Regular) (herror : r.error.Regular) :
    Message.ofJson r.toJson.canonical = .ok (.failure r) := by
  rw [canonical_toJson]
  have herror := ErrorObject.ofJson_toJson herror
  obtain ⟨version, _ | id, error⟩ := r
  · simp [Message.ofJson, ofJson, rules, Record.read, Record.checkMembers, Record.get,
      Record.get?, Members.get?, FieldRule.required, FieldRule.optionalOf, Decode.text,
      Decode.nullable, Except.map, herror]
  · have hid := Id.ofJson_toJson (hid id rfl)
    simp [Message.ofJson, ofJson, rules, Record.read, Record.checkMembers, Record.get,
      Record.get?, Members.get?, FieldRule.required, FieldRule.optionalOf, Decode.text,
      Decode.nullable_of_ne (Id.toJson_ne_null id), Except.map, herror, hid]

end Failure

/-- A regular message is read back from its wire form. -/
theorem Message.ofJson_toJson {m : Message} (h : m.Regular) :
    Message.ofJson m.toJson.canonical = .ok m := by
  cases m with
  | request r => exact Request.ofJson_toJson h.1 h.2
  | notification n => exact Notification.ofJson_toJson h
  | success r => exact Success.ofJson_toJson h.1 h.2
  | failure r => exact Failure.ofJson_toJson h.1 h.2

/-! ## Bodies -/

namespace Message

/-- The messages of a body are regular, and one that nests as deep as a text may is its only
one. -/
theorem of_mem_ofBody {body : String} {ms : List Message} {m : Message} (h : ofBody body = .ok ms)
    (hm : m ∈ ms) : m.Regular ∧ m.toJson.nesting ≤ maxDepth ∧
      (m.toJson.nesting = maxDepth → ms = [m]) := by
  unfold ofBody at h
  split at h
  · cases h
  · cases h
  · rename_i items _ hparse
    obtain ⟨htidy, hnesting⟩ := tidy_of_parse? hparse
    obtain ⟨v, hv, hm⟩ := exists_of_mem_mapM h hm
    obtain ⟨hregular, hle⟩ := of_ofJson (htidy.of_mem_array hv) hm
    have hlt := nesting_lt_of_mem_array hv
    exact ⟨hregular, by omega, by omega⟩
  · rename_i v _ _ hparse
    obtain ⟨htidy, hnesting⟩ := tidy_of_parse? hparse
    obtain ⟨first, hfirst, rfl⟩ := map_eq_ok.1 h
    obtain rfl := List.mem_singleton.1 hm
    obtain ⟨hregular, hle⟩ := of_ofJson htidy hfirst
    exact ⟨hregular, hle.trans hnesting, fun _ => rfl⟩

/-- The numbers of a regular message read back if its reals do. -/
theorem readsBack {m : Message} (h : m.Regular)
    (hreals : ∀ x, .real x ∈ m.toJson.numbers → (Number.real x).ReadsBack) :
    ∀ n ∈ m.toJson.numbers, n.ReadsBack := by
  intro n hn
  cases n with
  | int n => exact Number.readsBack_int (fits h hn)
  | real x => exact hreals x hn

/-- The text of a regular message is a body that holds just this message. -/
theorem ofBody_wire {m : Message} (h : m.Regular)
    (hreals : ∀ x, .real x ∈ m.toJson.numbers → (Number.real x).ReadsBack)
    (hdepth : m.toJson.nesting ≤ maxDepth) : ofBody m.wire = .ok [m] := by
  have hread := ofJson_toJson h
  rw [ofBody, wire, parse?_compact (readsBack h hreals), if_pos hdepth]
  split
  · rename_i hnone
    cases hnone
  · rename_i hnil
    rw [Option.some.inj hnil] at hread
    cases hread
  · rename_i hitems
    rw [Option.some.inj hitems] at hread
    cases hread
  · rename_i v _ _ hv
    rw [← Option.some.inj hv, hread]
    rfl

end Message

end SessionRelay.Rpc
