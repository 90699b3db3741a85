import SessionRelay.Proofs.Json.Object
import SessionRelay.Proofs.Rpc.Message

/-!
# What spells a message

The values that spell a message are told by a grammar over their members (`Message.Spells`): a
request, a notification, an error response or a success, with what it takes from the value. A value
in order is read as a message exactly when it spells it (`Message.ofJson_eq_ok_iff`), and every
other value is an invalid request.
-/

namespace SessionRelay.Rpc

open Json

/-- An id is a string or an integer of 64 bits. -/
inductive Id.Spells : Json → Id → Prop
  | text (s : String) : Spells (.string s) (.text s)
  | number {n : Int} (h : -2 ^ 63 ≤ n ∧ n < 2 ^ 63) : Spells (.int n) (.number n)

/-- An error is an object with a code of 32 bits and a message, or an array that starts with them.
There may be data. -/
inductive ErrorObject.Spells : Json → ErrorObject → Prop
  | object {members : Members} {code : Int} {message : String}
      (hcode : Members.get? "code" members = some (.int code))
      (hrange : -2 ^ 31 ≤ code ∧ code < 2 ^ 31)
      (hmessage : Members.get? "message" members = some (.string message)) :
      Spells (.object members) ⟨code, message, Record.value? "data" members⟩
  | pair {code : Int} {message : String} (hrange : -2 ^ 31 ≤ code ∧ code < 2 ^ 31) :
      Spells (.array [.int code, .string message]) ⟨code, message, none⟩
  | triple {code : Int} {message : String} (hrange : -2 ^ 31 ≤ code ∧ code < 2 ^ 31)
      (data : Json) :
      Spells (.array [.int code, .string message, data])
        ⟨code, message, if data.isNull then none else some data⟩

/-- What a value has to be to count as a message, by kind. Members that are not named may be
anything. -/
inductive Message.Spells : Json → Message → Prop
  | request {members : Members} {version method : String} {x : Json} {id : Id}
      (hversion : Members.get? "jsonrpc" members = some (.string version))
      (hmethod : Members.get? "method" members = some (.string method))
      (hid : Members.get? "id" members = some x) (hx : Id.Spells x id) :
      Spells (.object members) (.request ⟨version, id, method, Record.value? "params" members⟩)
  | notification {members : Members} {version method : String}
      (hversion : Members.get? "jsonrpc" members = some (.string version))
      (hmethod : Members.get? "method" members = some (.string method))
      (hid : Record.value? "id" members = none) :
      Spells (.object members) (.notification ⟨version, method, Record.value? "params" members⟩)
  | failure {members : Members} {version : String} {x : Json} {id : Option Id} {error : ErrorObject}
      (hversion : Members.get? "jsonrpc" members = some (.string version))
      (hmethod : Members.get? "method" members = none)
      (herror : Members.get? "error" members = some x) (hx : ErrorObject.Spells x error)
      (hid : Option.Rel Id.Spells (Record.value? "id" members) id) :
      Spells (.object members) (.failure ⟨version, id, error⟩)
  | success {members : Members} {version : String} {x result : Json} {id : Id}
      (hversion : Members.get? "jsonrpc" members = some (.string version))
      (hmethod : Members.get? "method" members = none)
      (herror : Members.get? "error" members = none)
      (hid : Members.get? "id" members = some x) (hx : Id.Spells x id)
      (hresult : Members.get? "result" members = some result) :
      Spells (.object members) (.success ⟨version, id, result⟩)

/-! ## The parts -/

theorem isInt64_iff {n : Int} : Width.isInt64 n = true ↔ -2 ^ 63 ≤ n ∧ n < 2 ^ 63 := by
  have hwidth : Width.int64Min = -2 ^ 63 ∧ Width.int64Max = 2 ^ 63 - 1 := by decide
  simp only [Width.isInt64, Bool.and_eq_true, decide_eq_true_eq]
  omega

theorem Id.ofJson_eq_ok_iff {v : Json} {id : Id} : Id.ofJson v = .ok id ↔ Id.Spells v id := by
  constructor
  · intro h
    unfold ofJson at h
    split at h
    · cases h
      exact .text _
    · split_ifs at h with hn
      cases h
      exact .number (isInt64_iff.1 hn)
    · cases h
  · rintro (_ | ⟨hn⟩)
    · rfl
    · exact if_pos (isInt64_iff.2 hn)

theorem text_eq_ok_iff {v : Json} {s : String} : Decode.text v = .ok s ↔ v = .string s := by
  cases v <;> simp [Decode.text]

theorem any_eq_ok_iff {v w : Json} : Decode.any v = .ok w ↔ v = w := by
  simp [Decode.any]

theorem nullable_any_eq (v : Json) :
    Decode.nullable Decode.any v = .ok (if v.isNull then none else some v) := by
  cases v <;> rfl

theorem int32_eq_ok_iff {v : Json} {n : Int} :
    Decode.int32 v = .ok n ↔ v = .int n ∧ -2 ^ 31 ≤ n ∧ n < 2 ^ 31 := by
  have hwidth : Width.int32Min = -2 ^ 31 ∧ Width.int32Max = 2 ^ 31 - 1 := by decide
  constructor
  · intro h
    have hrange := Decode.integer_eq_ok h
    refine ⟨?_, by omega⟩
    cases v with
    | number m =>
      cases m with
      | int m =>
        simp only [Decode.int32, Decode.integer] at h
        split_ifs at h
        cases h
        rfl
      | real x => cases h
    | _ => cases h
  · rintro ⟨rfl, hrange⟩
    exact if_pos (by omega)

section

variable {fields : Record} {name : String}

theorem get_text_eq_ok_iff {s : String} :
    fields.get name Decode.text = .ok s ↔ Members.get? name fields = some (.string s) := by
  simp [Record.get_eq_ok, text_eq_ok_iff]

theorem get_int32_eq_ok_iff {n : Int} : fields.get name Decode.int32 = .ok n ↔
    Members.get? name fields = some (.int n) ∧ -2 ^ 31 ≤ n ∧ n < 2 ^ 31 := by
  simp only [Record.get_eq_ok, int32_eq_ok_iff]
  exact ⟨fun ⟨_, hv, rfl, h⟩ => ⟨hv, h⟩, fun ⟨hv, h⟩ => ⟨_, hv, rfl, h⟩⟩

theorem get_any_eq_ok_iff {v : Json} :
    fields.get name Decode.any = .ok v ↔ Members.get? name fields = some v := by
  simp [Record.get_eq_ok, any_eq_ok_iff]

theorem get_id_eq_ok_iff {id : Id} : fields.get name Id.ofJson = .ok id ↔
    ∃ x, Members.get? name fields = some x ∧ Id.Spells x id := by
  simp only [Record.get_eq_ok, Id.ofJson_eq_ok_iff]

theorem get?_any_eq_ok_iff {o : Option Json} :
    fields.get? name Decode.any = .ok o ↔ fields.value? name = o := by
  rw [Record.get?_eq_ok]
  cases fields.value? name <;> cases o <;> simp [any_eq_ok_iff]

theorem get?_id_eq_ok_iff {o : Option Id} : fields.get? name Id.ofJson = .ok o ↔
    Option.Rel Id.Spells (fields.value? name) o := by
  rw [Record.get?_eq_ok]
  simp only [Id.ofJson_eq_ok_iff]

end

namespace ErrorObject

theorem ofJson_object {members : Members} (hmembers : members.Increasing) {e : ErrorObject} :
    ofJson (.object members) = .ok e ↔ Spells (.object members) e := by
  refine (Record.read_bind_eq_ok (by decide) hmembers ?_ ?_).trans ?_
  · simp [Record.get, Record.get?, Record.get?_known, rules]
  · simp +contextual [rules, bind_eq_ok]
  · simp only [bind_eq_ok, get_int32_eq_ok_iff, get_text_eq_ok_iff, get?_any_eq_ok_iff]
    constructor
    · rintro ⟨code, ⟨hcode, hrange⟩, message, hmessage, data, rfl, h⟩
      cases h
      exact .object hcode hrange hmessage
    · rintro ⟨hcode, hrange, hmessage⟩
      exact ⟨_, ⟨hcode, hrange⟩, _, hmessage, _, rfl, rfl⟩

/-- The arrays that can be an error have two items or three. -/
theorem fields_of_items {items : List Json} {fields : Record}
    (h : Record.read "struct JsonRpcError" rules .document (.array items) = .ok fields) :
    (∃ a b, items = [a, b] ∧ fields = [("code", a), ("message", b)]) ∨
      ∃ a b c, items = [a, b, c] ∧ fields = [("code", a), ("message", b), ("data", c)] := by
  match items with
  | [] | [_] | _ :: _ :: _ :: _ :: _ =>
    simp [Record.read, Record.ofItems, rules, FieldRule.required, FieldRule.optionalOf,
      bind_eq_ok] at h
  | [a, b] =>
    simp [Record.read, Record.ofItems, rules, FieldRule.required, FieldRule.optionalOf,
      bind_eq_ok] at h
    exact .inl ⟨a, b, rfl, h.2.2.symm⟩
  | [a, b, c] =>
    simp [Record.read, Record.ofItems, rules, FieldRule.required, FieldRule.optionalOf,
      bind_eq_ok] at h
    exact .inr ⟨a, b, c, rfl, h.2.2.2.symm⟩

theorem ofJson_array {items : List Json} {e : ErrorObject} :
    ofJson (.array items) = .ok e ↔ Spells (.array items) e := by
  constructor
  · intro h
    obtain ⟨fields, hread, h⟩ := bind_eq_ok.1 h
    simp only [bind_eq_ok, get_int32_eq_ok_iff, get_text_eq_ok_iff, get?_any_eq_ok_iff] at h
    obtain ⟨code, ⟨hcode, hrange⟩, message, hmessage, data, rfl, h⟩ := h
    cases h
    rcases fields_of_items hread with ⟨a, b, rfl, rfl⟩ | ⟨a, b, c, rfl, rfl⟩
    · obtain ⟨rfl, rfl⟩ : a = .int code ∧ b = .string message := by
        simpa [Members.get?] using And.intro hcode hmessage
      exact .pair hrange
    · obtain ⟨rfl, rfl⟩ : a = .int code ∧ b = .string message := by
        simpa [Members.get?] using And.intro hcode hmessage
      have hdata : Record.value? "data" [("code", .int code), ("message", .string message),
          ("data", c)] = if c.isNull then none else some c := by
        cases hc : c.isNull <;> simp [Record.value?, Members.get?, Option.filter, hc]
      rw [hdata]
      exact .triple hrange c
  · rintro (_ | hrange | ⟨hrange, data⟩)
    · have hcode := int32_eq_ok_iff.2 ⟨rfl, hrange⟩
      simp [ofJson, Record.read, Record.ofItems, rules, FieldRule.required, FieldRule.optionalOf,
        Record.get, Record.get?, Members.get?, hcode, Decode.text, Except.map]
    · have hcode := int32_eq_ok_iff.2 ⟨rfl, hrange⟩
      simp [ofJson, Record.read, Record.ofItems, rules, FieldRule.required, FieldRule.optionalOf,
        Record.get, Record.get?, Members.get?, hcode, Decode.text, Except.map, nullable_any_eq]

theorem ofJson_eq_ok_iff {v : Json} (hv : v.Ordered) {e : ErrorObject} :
    ofJson v = .ok e ↔ Spells v e := by
  cases v with
  | object members => exact ofJson_object hv.increasing
  | array items => exact ofJson_array
  | _ => exact ⟨nofun, nofun⟩

end ErrorObject

/-! ## The kinds -/

variable {members : Members}

theorem Request.ofJson_object (hmembers : members.Increasing) {r : Request} :
    Request.ofJson (.object members) = .ok r ↔
      Members.get? "jsonrpc" members = some (.string r.version) ∧
        (∃ x, Members.get? "id" members = some x ∧ Id.Spells x r.id) ∧
        Members.get? "method" members = some (.string r.method) ∧
        Record.value? "params" members = r.params := by
  refine (Record.read_bind_eq_ok (by decide) hmembers ?_ ?_).trans ?_
  · simp [Record.get, Record.get?, Record.get?_known, rules]
  · simp +contextual [rules, bind_eq_ok]
  · obtain ⟨version, id, method, params⟩ := r
    simp only [bind_eq_ok, get_text_eq_ok_iff, get_id_eq_ok_iff, get?_any_eq_ok_iff]
    simp

theorem Notification.ofJson_object (hmembers : members.Increasing) {n : Notification} :
    Notification.ofJson (.object members) = .ok n ↔
      Members.get? "jsonrpc" members = some (.string n.version) ∧
        Members.get? "method" members = some (.string n.method) ∧
        Record.value? "params" members = n.params := by
  refine (Record.read_bind_eq_ok (by decide) hmembers ?_ ?_).trans ?_
  · simp [Record.get, Record.get?, Record.get?_known, rules]
  · simp +contextual [rules, bind_eq_ok]
  · obtain ⟨version, method, params⟩ := n
    simp only [bind_eq_ok, get_text_eq_ok_iff, get?_any_eq_ok_iff]
    simp

theorem Success.ofJson_object (hmembers : members.Increasing) {r : Success} :
    Success.ofJson (.object members) = .ok r ↔
      Members.get? "jsonrpc" members = some (.string r.version) ∧
        (∃ x, Members.get? "id" members = some x ∧ Id.Spells x r.id) ∧
        Members.get? "result" members = some r.result := by
  refine (Record.read_bind_eq_ok (by decide) hmembers ?_ ?_).trans ?_
  · simp [Record.get, Record.get?_known, rules]
  · simp +contextual [rules, bind_eq_ok]
  · obtain ⟨version, id, result⟩ := r
    simp only [bind_eq_ok, get_text_eq_ok_iff, get_id_eq_ok_iff, get_any_eq_ok_iff]
    simp

theorem Failure.ofJson_object (hv : (object members).Ordered) {r : Failure} :
    Failure.ofJson (.object members) = .ok r ↔
      Members.get? "jsonrpc" members = some (.string r.version) ∧
        Option.Rel Id.Spells (Record.value? "id" members) r.id ∧
        ∃ x, Members.get? "error" members = some x ∧ ErrorObject.Spells x r.error := by
  have hmembers := hv.increasing
  have herror : ∀ {e : ErrorObject},
      Record.get members "error" ErrorObject.ofJson = .ok e ↔
        ∃ x, Members.get? "error" members = some x ∧ ErrorObject.Spells x e := by
    intro e
    rw [Record.get_eq_ok]
    refine exists_congr fun x => and_congr_right fun hx => ?_
    exact ErrorObject.ofJson_eq_ok_iff (hv.of_mem_object (Members.mem_of_get? hx))
  refine (Record.read_bind_eq_ok (by decide) hmembers ?_ ?_).trans ?_
  · simp [Record.get, Record.get?, Record.get?_known, rules]
  · simp +contextual [rules, bind_eq_ok]
  · obtain ⟨version, id, error⟩ := r
    simp only [bind_eq_ok, get_text_eq_ok_iff, get?_id_eq_ok_iff, herror]
    simp

theorem Id.Spells.value? {name : String} {x : Json} {id : Id} (h : Id.Spells x id)
    (hx : Members.get? name members = some x) : Record.value? name members = some x := by
  cases h <;> simp [Record.value?, hx, Option.filter, isNull, Json.int]

theorem Id.Spells.eq_toJson {x : Json} {id : Id} (h : Id.Spells x id) : x = id.toJson := by
  cases h <;> rfl

theorem isSome_value? {name : String} : (Record.value? name members).isSome =
    match Members.get? name members with
    | some v => !v.isNull
    | none => false := by
  unfold Record.value?
  cases Members.get? name members with
  | none => rfl
  | some v => cases hv : v.isNull <;> simp [Option.filter, hv]

namespace Message

/-- What becomes of a message of the kind that the shape tells. -/
def settle : Except DecodeError (Option Message) → Except ErrorObject Message
  | .ok (some m) => .ok m
  | .ok none => .error (.invalidRequest "Message is neither a request, notification nor response")
  | .error e => .error (.invalidRequest ("Invalid message: " ++ e.message))

theorem settle_map_eq_ok {α : Type} {x : Except DecodeError α} {kind : α → Message} {m : Message} :
    settle (x.map fun a => some (kind a)) = .ok m ↔ ∃ a, x = .ok a ∧ kind a = m := by
  cases x <;> simp [Except.map, settle]

theorem code_of_settle_eq_error {x : Except DecodeError (Option Message)} {e : ErrorObject}
    (h : settle x = .error e) : e.code = -32600 := by
  rcases x with _ | _ | _ <;> cases h <;> rfl

theorem ofJson_object (members : Members) : ofJson (.object members) = settle
    (if (Members.get? "method" members).isSome then
      if (Record.value? "id" members).isSome then
        (Request.ofJson (.object members)).map fun r => some (.request r)
      else (Notification.ofJson (.object members)).map fun n => some (.notification n)
    else if (Members.get? "error" members).isSome then
      (Failure.ofJson (.object members)).map fun r => some (.failure r)
    else if (Record.value? "id" members).isSome && (Members.get? "result" members).isSome then
      (Success.ofJson (.object members)).map fun r => some (.success r)
    else .ok none) := by
  rw [isSome_value?]
  rfl

/-- A value in order is read as a message exactly when it spells it. -/
theorem ofJson_eq_ok_iff {v : Json} (hv : v.Ordered) {m : Message} :
    ofJson v = .ok m ↔ Spells v m := by
  cases v with
  | object members =>
    have hmembers := hv.increasing
    rw [ofJson_object]
    constructor
    · intro h
      split_ifs at h with hmethod hid herror
      · obtain ⟨⟨version, id, method, params⟩, hr, rfl⟩ := settle_map_eq_ok.1 h
        obtain ⟨hversion, ⟨x, hid, hx⟩, hmethod, rfl⟩ := (Request.ofJson_object hmembers).1 hr
        exact .request hversion hmethod hid hx
      · obtain ⟨⟨version, method, params⟩, hr, rfl⟩ := settle_map_eq_ok.1 h
        obtain ⟨hversion, hmethod, rfl⟩ := (Notification.ofJson_object hmembers).1 hr
        exact .notification hversion hmethod (by simpa using hid)
      · obtain ⟨⟨version, id, error⟩, hr, rfl⟩ := settle_map_eq_ok.1 h
        obtain ⟨hversion, hid, x, herror, hx⟩ := (Failure.ofJson_object hv).1 hr
        exact .failure hversion (by simpa using hmethod) herror hx hid
      · obtain ⟨⟨version, id, result⟩, hr, rfl⟩ := settle_map_eq_ok.1 h
        obtain ⟨hversion, ⟨x, hid, hx⟩, hresult⟩ := (Success.ofJson_object hmembers).1 hr
        exact .success hversion (by simpa using hmethod) (by simpa using herror) hid hx hresult
      · cases h
    · rintro (⟨hversion, hmethod, hid, hx⟩ | ⟨hversion, hmethod, hid⟩ |
        ⟨hversion, hmethod, herror, hx, hid⟩ | ⟨hversion, hmethod, herror, hid, hx, hresult⟩)
      · have hr := (Request.ofJson_object hmembers
          (r := ⟨_, _, _, Record.value? "params" members⟩)).2 ⟨hversion, ⟨_, hid, hx⟩, hmethod, rfl⟩
        simp [hmethod, hx.value? hid, hr, Except.map, settle]
      · have hr := (Notification.ofJson_object hmembers
          (n := ⟨_, _, Record.value? "params" members⟩)).2 ⟨hversion, hmethod, rfl⟩
        simp [hmethod, hid, hr, Except.map, settle]
      · have hr := (Failure.ofJson_object hv (r := ⟨_, _, _⟩)).2 ⟨hversion, hid, _, herror, hx⟩
        simp [hmethod, herror, hr, Except.map, settle]
      · have hr := (Success.ofJson_object hmembers (r := ⟨_, _, _⟩)).2
          ⟨hversion, ⟨_, hid, hx⟩, hresult⟩
        simp [hmethod, herror, hx.value? hid, hresult, hr, Except.map, settle]
  | _ => exact ⟨nofun, nofun⟩

theorem code_of_ofJson_eq_error {v : Json} {e : ErrorObject} (h : ofJson v = .error e) :
    e.code = -32600 := by
  cases v with
  | object members =>
    rw [ofJson_object] at h
    exact code_of_settle_eq_error h
  | _ =>
    cases h
    rfl

/-! ## Bodies -/

/-- What the value of a body spells: one message, or those of a batch that is not empty, in
order. -/
inductive SpellsAll : Json → List Message → Prop
  | one {v : Json} {m : Message} (h : Spells v m) : SpellsAll v [m]
  | batch {items : List Json} {ms : List Message} (hne : items ≠ [])
      (h : List.Forall₂ Spells items ms) : SpellsAll (.array items) ms

theorem mapM_ofJson_eq_ok_iff {items : List Json} {ms : List Message}
    (h : ∀ v ∈ items, v.Ordered) : items.mapM ofJson = .ok ms ↔ List.Forall₂ Spells items ms := by
  have hread : ∀ v m, (v.Ordered ∧ ofJson v = .ok m) ↔ (v.Ordered ∧ Spells v m) :=
    fun v m => and_congr_right fun hv => ofJson_eq_ok_iff hv
  calc items.mapM ofJson = .ok ms
      ↔ List.Forall₂ (fun v m => v.Ordered ∧ ofJson v = .ok m) items ms := by
        rw [mapM_eq_ok_iff, List.forall₂_and_left]
        exact (and_iff_right h).symm
    _ ↔ List.Forall₂ (fun v m => v.Ordered ∧ Spells v m) items ms := by simp only [hread]
    _ ↔ List.Forall₂ Spells items ms := by
        rw [List.forall₂_and_left]
        exact and_iff_right h

theorem code_of_mapM_ofJson_eq_error {e : ErrorObject} : ∀ {items : List Json},
    items.mapM ofJson = .error e → e.code = -32600
  | [], h => by cases h
  | v :: items, h => by
    rw [List.mapM_cons] at h
    cases hv : ofJson v with
    | error e' =>
      rw [hv] at h
      cases h
      exact code_of_ofJson_eq_error hv
    | ok m =>
      cases hitems : items.mapM ofJson with
      | error e' =>
        rw [hv, hitems] at h
        cases h
        exact code_of_mapM_ofJson_eq_error hitems
      | ok ms =>
        rw [hv, hitems] at h
        cases h

theorem ofBody_eq_ok_iff {body : String} {v : Json} (hparse : parse? body = some v)
    {ms : List Message} : ofBody body = .ok ms ↔ SpellsAll v ms := by
  have hv := (tidy_of_parse? hparse).1.ordered
  have hone : ((ofJson v).map fun m => [m]) = .ok ms ↔ ∃ m, Spells v m ∧ [m] = ms := by
    simp only [map_eq_ok, ofJson_eq_ok_iff hv]
  rw [ofBody, hparse]
  cases v with
  | array items =>
    cases items with
    | nil =>
      refine ⟨by rintro ⟨⟩, ?_⟩
      rintro (⟨⟨⟩⟩ | ⟨hne, _⟩)
      exact absurd rfl hne
    | cons first rest =>
      refine (mapM_ofJson_eq_ok_iff fun w hw => hv.of_mem_array hw).trans
        ⟨.batch (List.cons_ne_nil first rest), ?_⟩
      rintro (⟨⟨⟩⟩ | ⟨_, h⟩)
      exact h
  | _ =>
    refine hone.trans ⟨?_, ?_⟩
    · rintro ⟨m, h, rfl⟩
      exact .one h
    · rintro (h | _)
      exact ⟨_, h, rfl⟩

theorem code_of_ofBody_eq_error {body : String} {v : Json} (hparse : parse? body = some v)
    {e : ErrorObject} (h : ofBody body = .error e) : e.code = -32600 := by
  have hone : ((ofJson v).map fun m => [m]) = .error e → e.code = -32600 := by
    cases hv : ofJson v with
    | error e' =>
      rintro ⟨⟩
      exact code_of_ofJson_eq_error hv
    | ok m => nofun
  rw [ofBody, hparse] at h
  cases v with
  | array items =>
    cases items with
    | nil =>
      cases h
      rfl
    | cons first rest => exact code_of_mapM_ofJson_eq_error h
  | _ => exact hone h

/-- The grammar of messages. A value in order is read as a message exactly when it spells it, and
any other is an invalid request. A body is a parse error exactly when it is not JSON; otherwise it
is read as the messages that its value spells, all of them and in order, or, if it spells none or
is an empty batch, is an invalid request as a whole. -/
theorem read_by_grammar {v : Json} (hv : v.Ordered) (body : String) :
    (∀ m, ofJson v = .ok m ↔ Spells v m) ∧
      ((∀ m, ¬Spells v m) → ∃ e, ofJson v = .error e ∧ e.code = -32600) ∧
      ((∃ e, ofBody body = .error e ∧ e.code = -32700) ↔ parse? body = none) ∧
      ∀ w, parse? body = some w →
        (∀ ms, ofBody body = .ok ms ↔ SpellsAll w ms) ∧
          ((∀ ms, ¬SpellsAll w ms) → ∃ e, ofBody body = .error e ∧ e.code = -32600) ∧
          (w = .array [] → ∃ e, ofBody body = .error e ∧ e.code = -32600) := by
  refine ⟨fun m => ofJson_eq_ok_iff hv, fun h => ?_, ⟨?_, fun h => ?_⟩, fun w hw => ?_⟩
  · cases hread : ofJson v with
    | error e => exact ⟨e, rfl, code_of_ofJson_eq_error hread⟩
    | ok m => exact absurd ((ofJson_eq_ok_iff hv).1 hread) (h m)
  · rintro ⟨e, he, hcode⟩
    cases hparse : parse? body with
    | none => rfl
    | some w =>
      rw [code_of_ofBody_eq_error hparse he] at hcode
      cases hcode
  · exact ⟨.parseError notJson, by rw [ofBody, h], rfl⟩
  · have hrefused : (∀ ms, ¬SpellsAll w ms) → ∃ e, ofBody body = .error e ∧ e.code = -32600 := by
      intro h
      cases hread : ofBody body with
      | error e => exact ⟨e, rfl, code_of_ofBody_eq_error hw hread⟩
      | ok ms => exact absurd ((ofBody_eq_ok_iff hw).1 hread) (h ms)
    refine ⟨fun ms => ofBody_eq_ok_iff hw, hrefused, ?_⟩
    rintro rfl
    refine hrefused fun ms => ?_
    rintro (⟨⟨⟩⟩ | ⟨hne, _⟩)
    exact hne rfl

/-- A batch of a request with an id and no parameters, and a notification. -/
def pingAndNote : Json :=
  .array [.object [("id", .int 7), ("jsonrpc", .string "2.0"), ("method", .string "ping"),
      ("params", .null)],
    .object [("jsonrpc", .string "2.0"), ("method", .string "note"), ("params", .array [])]]

theorem read_by_grammar_batch :
    ∃ v ∈ pingAndNote.items, v.Ordered ∧
      ofJson v = .ok (.request { id := .number 7, method := "ping" }) ∧
      ofBody pingAndNote.compact = .ok [.request { id := .number 7, method := "ping" },
        .notification { method := "note", params := some (.array []) }] := by
  have hordered : pingAndNote.Ordered := by
    have hcanonical : pingAndNote.canonical = pingAndNote := rfl
    exact hcanonical ▸ ordered_canonical pingAndNote
  have hnumbers : ∀ n ∈ pingAndNote.numbers, n.ReadsBack := by
    intro n hn
    obtain rfl := List.mem_singleton.1 hn
    exact Number.readsBack_int ⟨by decide, by decide⟩
  have hparse : parse? pingAndNote.compact = some pingAndNote := by
    rw [parse?_compact hnumbers, canonical_of_ordered hordered]
    rfl
  have hping : Spells (.object [("id", .int 7), ("jsonrpc", .string "2.0"),
      ("method", .string "ping"), ("params", .null)])
      (.request { id := .number 7, method := "ping" }) :=
    .request rfl rfl rfl (.number (by decide))
  have hnote : Spells (.object [("jsonrpc", .string "2.0"), ("method", .string "note"),
      ("params", .array [])]) (.notification { method := "note", params := some (.array []) }) :=
    .notification rfl rfl rfl
  have hread := read_by_grammar (hordered.of_mem_array List.mem_cons_self) pingAndNote.compact
  exact ⟨_, List.mem_cons_self, hordered.of_mem_array List.mem_cons_self, (hread.1 _).2 hping,
    ((hread.2.2.2 _ hparse).1 _).2 (.batch (List.cons_ne_nil _ _) (.cons hping (.cons hnote .nil)))⟩

end Message

end SessionRelay.Rpc
