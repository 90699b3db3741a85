import SessionRelay.Proofs.Rpc.Grammar

/-!
# Responses on their own and among messages

A response that is read on its own is a success if it can be one; among messages an error makes it an
error response. On a value without a method the two readers come to the same, unless it shows an
error together with all that a success needs (`readers_agree_unless_both`).
-/

namespace SessionRelay.Rpc

open Json

/-- Both readers take the same message from a value, or both refuse it. -/
def Response.ReadersAgree (v : Json) : Prop :=
  (Message.ofJson v).toOption = (Response.ofJson v).toOption.map Response.toMessage

/-- Members that have what a success needs, and an error as well. -/
structure Response.ShowsBoth (members : Members) : Prop where
  version : ∃ s, Members.get? "jsonrpc" members = some (.string s)
  id : ∃ x, Members.get? "id" members = some x ∧ ∃ id, Id.Spells x id
  result : ∃ v, Members.get? "result" members = some v
  error : (Members.get? "error" members).isSome = true

variable {members : Members}

theorem toOption_eq_some {ε α : Type} {x : Except ε α} {a : α} :
    x.toOption = some a ↔ x = .ok a := by
  cases x <;> simp [Except.toOption]

/-! ## The two readers -/

/-- On its own a response is a success, or else an error response. -/
theorem Response.toOption_ofJson (v : Json) : (Response.ofJson v).toOption =
    ((Success.ofJson v).toOption.map .success).or ((Failure.ofJson v).toOption.map .failure) := by
  unfold Response.ofJson
  cases Success.ofJson v with
  | ok s => rfl
  | error e => cases Failure.ofJson v <;> rfl

theorem Message.toOption_settle {α : Type} (x : Except DecodeError α) (kind : α → Message) :
    (settle (x.map fun a => some (kind a))).toOption = x.toOption.map kind := by
  cases x <;> rfl

/-- A success has a result and an id that is not null. -/
theorem Success.of_ofJson_object (hmembers : members.Increasing) {s : Success}
    (h : Success.ofJson (.object members) = .ok s) :
    (Record.value? "id" members).isSome = true ∧
      Members.get? "result" members = some s.result := by
  obtain ⟨-, ⟨x, hid, hx⟩, hresult⟩ := (Success.ofJson_object hmembers).1 h
  rw [hx.value? hid]
  exact ⟨rfl, hresult⟩

/-- Among messages an error makes an error response, and only without one there is a success. -/
theorem Message.toOption_ofJson (hmembers : members.Increasing)
    (hmethod : Members.get? "method" members = none) :
    (Message.ofJson (.object members)).toOption =
      if (Members.get? "error" members).isSome then
        (Failure.ofJson (.object members)).toOption.map .failure
      else (Success.ofJson (.object members)).toOption.map .success := by
  rw [ofJson_object, hmethod, if_neg (by simp)]
  split_ifs with herror hshown
  · exact toOption_settle _ _
  · exact toOption_settle _ _
  · -- What has no id or no result is refused before it is read, and would be refused then.
    cases hs : Success.ofJson (.object members) with
    | error e => rfl
    | ok s =>
      obtain ⟨hid, hresult⟩ := Success.of_ofJson_object hmembers hs
      exact absurd (by simp [hid, hresult]) hshown

theorem Failure.isSome_error (hv : (object members).Ordered) {f : Failure}
    (h : Failure.ofJson (.object members) = .ok f) :
    (Members.get? "error" members).isSome = true := by
  obtain ⟨-, -, x, herror, -⟩ := (Failure.ofJson_object hv).1 h
  rw [herror]
  rfl

/-! ## Where they agree -/

theorem Response.showsBoth_iff (hmembers : members.Increasing) : ShowsBoth members ↔
    (Members.get? "error" members).isSome = true ∧
      ∃ s, Success.ofJson (.object members) = .ok s := by
  constructor
  · rintro ⟨⟨version, hversion⟩, ⟨x, hx, id, hid⟩, ⟨result, hresult⟩, herror⟩
    exact ⟨herror, ⟨version, id, result⟩,
      (Success.ofJson_object hmembers).2 ⟨hversion, ⟨x, hx, hid⟩, hresult⟩⟩
  · rintro ⟨herror, s, hs⟩
    obtain ⟨hversion, ⟨x, hx, hid⟩, hresult⟩ := (Success.ofJson_object hmembers).1 hs
    exact ⟨⟨_, hversion⟩, ⟨x, hx, _, hid⟩, ⟨_, hresult⟩, herror⟩

/-- With an error and all that a success needs, a response on its own is the success, and among
messages it is an error response or refused. -/
theorem Response.of_showsBoth (hmembers : members.Increasing)
    (hmethod : Members.get? "method" members = none) (h : ShowsBoth members) :
    ∃ s, Response.ofJson (.object members) = .ok (.success s) ∧
      ∀ m, Message.ofJson (.object members) = .ok m → ∃ f, m = .failure f := by
  obtain ⟨herror, s, hs⟩ := (showsBoth_iff hmembers).1 h
  refine ⟨s, ?_, fun m hm => ?_⟩
  · rw [Response.ofJson, hs]
  · have hread := Message.toOption_ofJson hmembers hmethod
    rw [if_pos herror, toOption_eq_some.2 hm] at hread
    obtain ⟨f, -, hf⟩ := Option.map_eq_some_iff.1 hread.symm
    exact ⟨f, hf.symm⟩

theorem Response.readersAgree_of_not_showsBoth (hv : (object members).Ordered)
    (hmethod : Members.get? "method" members = none) (h : ¬ ShowsBoth members) :
    ReadersAgree (.object members) := by
  rw [showsBoth_iff hv.increasing] at h
  rw [ReadersAgree, Message.toOption_ofJson hv.increasing hmethod, toOption_ofJson]
  cases hs : Success.ofJson (.object members) with
  | ok s =>
    have herror : ¬ (Members.get? "error" members).isSome = true := fun herror =>
      h ⟨herror, s, hs⟩
    rw [if_neg herror]
    rfl
  | error e =>
    cases hf : Failure.ofJson (.object members) with
    | ok f =>
      rw [if_pos (Failure.isSome_error hv hf)]
      rfl
    | error e' => split_ifs <;> rfl

/-- A value without a method is the same response on its own and among messages, or none for either
reader, exactly unless it shows both a success and an error. Then the one takes it for a success, and
the other for an error response if for anything. -/
theorem Response.readers_agree_unless_both (hv : (object members).Ordered)
    (hmethod : Members.get? "method" members = none) :
    (ReadersAgree (.object members) ↔ ¬ ShowsBoth members) ∧
      (ShowsBoth members → ∃ s, Response.ofJson (.object members) = .ok (.success s) ∧
        ∀ m, Message.ofJson (.object members) = .ok m → ∃ f, m = .failure f) := by
  have hboth := Response.of_showsBoth hv.increasing hmethod
  refine ⟨⟨fun hagree h => ?_, readersAgree_of_not_showsBoth hv hmethod⟩, hboth⟩
  obtain ⟨s, hs, hmessage⟩ := hboth h
  rw [ReadersAgree, toOption_eq_some.2 hs, Option.map_some, toOption_eq_some] at hagree
  obtain ⟨f, hf⟩ := hmessage _ hagree
  cases hf

/-- A success whose result is null. -/
def nullResult : Members := [("id", .int 1), ("jsonrpc", .string "2.0"), ("result", .null)]

theorem Response.readers_agree_on_null_result : ReadersAgree (.object nullResult) := by
  have hordered : (object nullResult).Ordered := by
    have hcanonical : (object nullResult).canonical = .object nullResult := rfl
    exact hcanonical ▸ ordered_canonical (object nullResult)
  refine (Response.readers_agree_unless_both hordered rfl).1.2 fun h => ?_
  exact absurd h.error (by decide)

/-- An error response that gives a result as well. -/
def resultAndError : Members :=
  [("error", .object [("code", .int 1), ("message", .string "m")]), ("id", .int 1),
    ("jsonrpc", .string "2.0"), ("result", .int 1)]

/-- The error is lost on a reader that takes the response on its own. -/
theorem Response.error_beside_result_is_lost :
    (object resultAndError).Ordered ∧ Members.get? "method" resultAndError = none ∧
      Message.ofJson (.object resultAndError) =
        .ok (.failure { id := some (.number 1), error := { code := 1, message := "m" } }) ∧
      Response.ofJson (.object resultAndError) =
        .ok (.success { id := .number 1, result := .int 1 }) ∧
      ¬ ReadersAgree (.object resultAndError) := by
  have hordered : (object resultAndError).Ordered := by
    have hcanonical : (object resultAndError).canonical = .object resultAndError := rfl
    exact hcanonical ▸ ordered_canonical (object resultAndError)
  have hmessage : Message.ofJson (.object resultAndError) =
      .ok (.failure { id := some (.number 1), error := { code := 1, message := "m" } }) := by
    refine (Message.ofJson_eq_ok_iff hordered).2 (.failure rfl rfl rfl ?_ ?_)
    · exact .object rfl (by decide) rfl
    · exact .some (.number (by decide))
  have hresponse : Response.ofJson (.object resultAndError) =
      .ok (.success { id := .number 1, result := .int 1 }) := by
    have hsuccess : Success.ofJson (.object resultAndError) =
        .ok { id := .number 1, result := .int 1 } :=
      (Success.ofJson_object hordered.increasing).2 ⟨rfl, ⟨_, rfl, .number (by decide)⟩, rfl⟩
    rw [Response.ofJson, hsuccess]
  refine ⟨hordered, rfl, hmessage, hresponse, fun hagree => ?_⟩
  rw [ReadersAgree, hmessage, hresponse] at hagree
  cases hagree

end SessionRelay.Rpc
