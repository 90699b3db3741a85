import SessionRelay.Proofs.Rpc.Message
import SessionRelay.Proofs.Text.Utf8
import SessionRelay.Server.Exchange

/-!
# What is too long to be read

A request within the limits is handled (`receive_of_fits`), with the text that its body spells
(`bodyText_eq_ok`). One beyond them is turned away with a reply that says so, and nothing else comes
of it (`receive_of_long`, `receive_of_longBody`). That goes for well-formed bodies as for others:
the length of a body is that of its longest text at least (`length_le_quote`).
-/

namespace SessionRelay

/-- Nothing of the request is too long to be read. -/
structure Http.Request.Fits (r : Http.Request) : Prop where
  target : r.TargetFits
  body : r.BodyFits

/-- The request with another body. -/
def Http.Request.withBody (r : Http.Request) (body : Bytes) : Http.Request := { r with body }

theorem Http.Request.body_withBody (r : Http.Request) (body : Bytes) :
    (r.withBody body).body = body := rfl

namespace Server

open Http

variable {v : Server} {r : Request} {now : Nat} {draw : Draw} {body : String}

theorem bodyText_eq_ok :
    bodyText r = .ok body ↔ r.BodyFits ∧ Utf8.decode r.body = .ok body := by
  unfold bodyText
  split_ifs with hfits
  · cases Utf8.decode r.body <;> simp [hfits]
  · simp [hfits]

theorem bodyText_of_long (h : ¬ r.BodyFits) : bodyText r = .error longBody := if_neg h

/-- A body that is short enough but no text is refused for what is wrong with it. -/
theorem bodyText_eq_error {response : Response} (hfits : r.BodyFits)
    (h : bodyText r = .error response) :
    ∃ f, Utf8.decode r.body = .error f ∧ response = invalidBody f := by
  rw [bodyText, if_pos hfits] at h
  cases hdecode : Utf8.decode r.body with
  | ok body => simp [hdecode] at h
  | error f =>
    rw [hdecode] at h
    exact ⟨f, rfl, (Except.error.inj h).symm⟩

theorem receive_of_fits (h : r.TargetFits) : v.receive now draw r = v.handle now draw r :=
  if_pos h

theorem receive_of_long (h : ¬ r.TargetFits) : v.receive now draw r = replied longTarget v :=
  if_neg h

theorem admitPost_of_long (h : ¬ r.BodyFits) : v.admitPost r = replied longBody v := by
  unfold admitPost
  rw [bodyText_of_long h]

theorem admitExchange_of_long (h : ¬ r.BodyFits) :
    v.admitExchange draw r = replied longBody v := by
  unfold admitExchange
  rw [bodyText_of_long h]

/-- Where bodies are read, one that is too long is turned away before anything else is looked at. -/
theorem receive_of_longBody (htarget : r.TargetFits) (hbody : ¬ r.BodyFits)
    (hroute : v.site.route r.method r.path = .found .messageBox ∨
      v.site.route r.method r.path = .found .exchange) :
    v.receive now draw r = replied longBody v := by
  rw [receive_of_fits htarget]
  unfold handle
  obtain hroute | hroute := hroute <;> simp only [hroute]
  · exact admitPost_of_long hbody
  · exact admitExchange_of_long hbody

end Server

/-! ## Long bodies -/

theorem length_le_length_flatMap {α β : Type} {f : α → List β} (h : ∀ x, 0 < (f x).length) :
    ∀ l : List α, l.length ≤ (l.flatMap f).length
  | [] => Nat.le_refl 0
  | x :: l => by
    have hx := h x
    have ih := length_le_length_flatMap h l
    rw [List.flatMap_cons, List.length_append, List.length_cons]
    omega

theorem Utf8.length_le_encode (s : String) : s.toList.length ≤ (Utf8.encode s).length :=
  length_le_length_flatMap (fun c => by
    obtain ⟨b, bs, hbytes⟩ := Utf8.exists_encodeCode c.toNat
    rw [hbytes]
    exact Nat.succ_pos bs.length) _

theorem Json.length_le_quote (s : String) : s.toList.length ≤ (Json.quote s).length := by
  have hescaped : s.toList.length ≤ (s.toList.flatMap Json.escape).length :=
    length_le_length_flatMap (fun c => by unfold Json.escape; split_ifs <;> exact Nat.succ_pos _) _
  rw [Json.quote, List.length_append, List.length_cons]
  omega

section

variable (t : String)

/-- A string is a body that is no message. -/
theorem ofBody_string : ∃ e, Rpc.Message.ofBody (Json.string t).compact = .error e := by
  have hparse : Json.parse? (Json.string t).compact = some (.string t) :=
    Json.parse?_compact (v := .string t) fun n hn => by cases hn
  rw [Rpc.Message.ofBody, hparse]
  exact ⟨_, rfl⟩

theorem length_le_encode_string :
    t.toList.length ≤ (Utf8.encode (Json.string t).compact).length := by
  have hbytes := Utf8.length_le_encode (Json.string t).compact
  rw [Json.compact, String.toList_ofList, Json.compactChars] at hbytes
  exact (Json.length_le_quote t).trans hbytes

/-- A notification of some method. -/
def notice : Rpc.Message := .notification { method := t }

theorem ofBody_notice : Rpc.Message.ofBody (notice t).wire = .ok [notice t] := by
  have hregular : (notice t).Regular := nofun
  refine Rpc.Message.ofBody_wire hregular ?_ ?_
  · simp [notice, Rpc.Message.toJson, Rpc.Notification.toJson, Rpc.optionalMember, Json.numbers,
      Json.numbersOfMembers, Json.numbersOfMember]
  · simp [notice, Rpc.Message.toJson, Rpc.Notification.toJson, Rpc.optionalMember, Json.nesting,
      Json.nestingMembers, Json.nestingMember, Json.maxDepth]

theorem length_le_encode_notice : t.toList.length ≤ (Utf8.encode (notice t).wire).length := by
  have hquote := Json.length_le_quote t
  have hwire : (Json.quote t).length ≤ (notice t).wire.toList.length := by
    rw [Rpc.Message.wire, Json.compact, String.toList_ofList]
    simp only [notice, Rpc.Message.toJson, Rpc.Notification.toJson, Rpc.optionalMember,
      List.append_nil, Json.compactChars, Json.compactMember, Json.compactMembers,
      List.length_append, List.length_cons]
    omega
  exact (hquote.trans hwire).trans (Utf8.length_le_encode _)

end

namespace Server

open Http

variable {v : Server} {r : Request} {now : Nat} {draw : Draw}

theorem decode_body (t : String) : Utf8.decode (r.withBody (Utf8.encode t)).body = .ok t := by
  rw [Request.body_withBody]
  exact Utf8.decode_eq_ok_iff.2 (Eq.refl _)

theorem route_withBody (body : Bytes) : v.site.route (r.withBody body).method
    (r.withBody body).path = v.site.route r.method r.path := rfl

theorem addressed_withBody (body : Bytes) : v.addressed (r.withBody body) = v.addressed r := rfl

/-- However well it may be formed, a body that is too long is turned away. -/
theorem receive_withBody {body : Bytes} (htarget : r.TargetFits) (hlong : bodyLimit < body.length)
    (hroute : v.site.route r.method r.path = .found .messageBox ∨
      v.site.route r.method r.path = .found .exchange) :
    v.receive now draw (r.withBody body) = replied longBody v :=
  receive_of_longBody htarget (Nat.not_le.2 hlong) hroute

end Server

/-- A text with more characters than a body may have bytes. -/
def longText : String := String.ofList (List.replicate (Http.bodyLimit + 1) 'a')

theorem length_longText : Http.bodyLimit < longText.toList.length := by
  rw [longText, String.toList_ofList, List.length_replicate]
  exact Nat.lt_succ_self _

end SessionRelay
