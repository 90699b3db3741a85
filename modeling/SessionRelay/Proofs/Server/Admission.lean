import SessionRelay.Proofs.ClientState.Forgery
import SessionRelay.Proofs.Server.Limits

/-!
# Requests with bad tokens

A post whose token is missing or cannot be read, and an exchange whose header is text that is no
token, are answered 400 and leave the instance as it was, whatever the body; and so they leave it if
they are too long to be read (`bad_tokens_are_refused`). A header that is no visible ASCII is not seen at all, so the exchange
goes on as one without it (`admitExchange_without`), and may open a session.
-/

namespace SessionRelay

namespace Http.Request

/-- The request without the headers of one name. -/
def without (r : Request) (name : String) : Request :=
  { r with headers := r.headers.filter fun (key, _) => key.map Char.toLower != name }

variable (r : Request) {name other : String}

theorem values_without_self : (r.without name).values name = [] := by
  rw [values, without, List.filter_filter, List.map_eq_nil_iff, List.filter_eq_nil_iff]
  rintro ⟨key, value⟩ -
  simp

theorem values_without (h : other ≠ name) : (r.without name).values other = r.values other := by
  rw [values, values, without, List.filter_filter]
  refine congrArg _ (List.filter_congr fun entry _ => ?_)
  by_cases hkey : entry.1.map Char.toLower = other <;> simp [hkey, h]

theorem header?_without_self : (r.without name).header? name = none := by
  rw [header?, values_without_self]
  rfl

theorem accepts_without (media : String) (h : "accept" ≠ name) :
    (r.without name).accepts media = r.accepts media := by
  rw [accepts, accepts, values_without r h]

end Http.Request

namespace Server

open Http ClientState.Codec

variable {v : Server} {r : Request} {draw : Draw} {outcome : Admission × Server}

/-- The answer is 400, and the instance is as it was before the request. -/
def Refused (v : Server) (outcome : Admission × Server) : Prop :=
  ∃ response : Response, outcome = replied response v ∧ response.status = 400

theorem refused_admitPost (hfits : r.BodyFits)
    (h : ∀ token, Url.Form.get? r.query "state" = some token → v.readToken token = none) :
    Refused v (v.admitPost r) := by
  unfold admitPost
  cases htext : bodyText r with
  | error response =>
    obtain ⟨f, -, rfl⟩ := bodyText_eq_error hfits htext
    exact ⟨_, rfl, rfl⟩
  | ok body =>
    cases hstate : Url.Form.get? r.query "state" with
    | none => exact ⟨_, rfl, rfl⟩
    | some token =>
      simp only [h token hstate]
      exact ⟨_, rfl, rfl⟩

theorem addressed_eq_error {value : String} (hvalue : r.header? sessionHeader = some value)
    (hbad : v.readToken value = none) : v.addressed r = .error () := by
  rw [addressed, hvalue]
  simp only [hbad]

theorem refused_admitExchange (hfits : r.BodyFits) (haccepts : (r.accepts "application/json" &&
      r.accepts "text/event-stream") = true) (h : v.addressed r = .error ()) :
    Refused v (v.admitExchange draw r) := by
  unfold admitExchange
  cases htext : bodyText r with
  | error response =>
    obtain ⟨f, -, rfl⟩ := bodyText_eq_error hfits htext
    exact ⟨_, rfl, rfl⟩
  | ok body =>
    simp only [haccepts, h, Bool.not_true, Bool.false_eq_true, if_false]
    exact ⟨_, rfl, rfl⟩

/-! ## Messages that are admitted -/

section

variable {body : String} {client : ClientState} {named : Option ClientState}
  {messages : List Rpc.Message} {e : Rpc.ErrorObject}

theorem admitExchange_malformed (hbody : bodyText r = .ok body)
    (haccepts : (r.accepts "application/json" && r.accepts "text/event-stream") = true)
    (hnamed : v.addressed r = .ok named) (h : Rpc.Message.ofBody body = .error e) :
    v.admitExchange draw r = replied (.rpcError 400 (recoverId body) e) v := by
  simp only [admitExchange, hbody, haccepts, hnamed, h, Bool.not_true, Bool.false_eq_true, if_false]

/-- Messages without a request go to the session that is named. -/
theorem admitExchange_route (hbody : bodyText r = .ok body)
    (haccepts : (r.accepts "application/json" && r.accepts "text/event-stream") = true)
    (hnamed : v.addressed r = .ok (some client)) (h : Rpc.Message.ofBody body = .ok messages)
    (hnone : messages.countP Rpc.Message.isRequest = 0) :
    v.admitExchange draw r = v.start (.route client) messages := by
  simp only [admitExchange, hbody, haccepts, hnamed, h, hnone, Bool.not_true, Bool.false_eq_true,
    if_false]

/-- Messages with requests get a session of their own, whatever is named. -/
theorem admitExchange_feed (hbody : bodyText r = .ok body)
    (haccepts : (r.accepts "application/json" && r.accepts "text/event-stream") = true)
    (hnamed : v.addressed r = .ok named) (h : Rpc.Message.ofBody body = .ok messages)
    (hsome : 0 < messages.countP Rpc.Message.isRequest) :
    v.admitExchange draw r =
      match v.table.create (.streamable (messages.countP Rpc.Message.isRequest)) shutdown draw with
      | .error _ => replied (.rpcError 500 none (.internalError "Failed to create session")) v
      | .ok (place, table) => { v with table }.start (.feed place) messages := by
  obtain ⟨n, hn⟩ := Nat.exists_eq_add_of_lt hsome
  cases hcreate : v.table.create (.streamable (n + 1)) shutdown draw <;>
    simp only [admitExchange, hbody, haccepts, hnamed, h, hn, hcreate, Bool.not_true,
      Bool.false_eq_true, if_false, Nat.zero_add]

end

/-- Without a readable session header an exchange is admitted as if it had none. -/
theorem admitExchange_without (h : r.header? sessionHeader = none) :
    v.admitExchange draw r = v.admitExchange draw (r.without sessionHeader) := by
  have haddressed : v.addressed (r.without sessionHeader) = v.addressed r := by
    rw [addressed, addressed, h, Request.header?_without_self]
  have haccepts : ∀ media, (r.without sessionHeader).accepts media = r.accepts media :=
    fun media => Request.accepts_without r media (by decide)
  unfold admitExchange
  rw [haddressed, haccepts, haccepts]
  rfl

end Server

namespace ClientState.Codec

variable {c : Codec} {keys : Keys} {token : String} {state other : ClientState}

/-- With keys, the plain token of a state is read as anything only if the spelling of the state is
itself a payload with its signature. -/
theorem spell_eq_signed (hkeys : c.keys = some keys) (hplain : c.parse? token false = some state)
    (h : c.parse? token true = some other) :
    ∃ payload, state.spell = signed keys payload ∧ Sound keys payload := by
  obtain ⟨-, htoken⟩ := parse?_false_eq_some_iff.1 hplain
  obtain ⟨-, payload, hsigned, hsound, -⟩ := (parse?_true_eq_some_iff hkeys).1 h
  exact ⟨payload, Base64.encodeUrl_inj.1 (htoken.symm.trans hsigned), hsound⟩

end ClientState.Codec

namespace Server

open Http ClientState ClientState.Codec

/-- A post without a readable token is refused, and so is an exchange whose session header is text
that is no token; if they are too long to be read, they are turned away for that. An exchange whose
header is no text goes on as one without the header. With keys a plain token is readable only if the
bytes of its ids end in their own signature, so none of fewer than 60 bytes is. -/
theorem bad_tokens_are_refused (v : Server) (now : Nat) (draw : Draw) (r : Request) :
    (¬ r.TargetFits → v.receive now draw r = replied longTarget v) ∧
    (r.TargetFits → ¬ r.BodyFits → (v.site.route r.method r.path = .found .messageBox ∨
      v.site.route r.method r.path = .found .exchange) →
        v.receive now draw r = replied longBody v) ∧
    (v.site.route r.method r.path = .found .messageBox → r.Fits →
      (∀ token, Url.Form.get? r.query "state" = some token → v.readToken token = none) →
        Refused v (v.receive now draw r)) ∧
    (v.site.route r.method r.path = .found .exchange →
      r.accepts "application/json" = true → r.accepts "text/event-stream" = true →
      ∀ value, (r.values sessionHeader).head? = some value → v.readToken value = none →
        (isVisible value = true → r.Fits → Refused v (v.receive now draw r)) ∧
        (isVisible value = false →
          v.receive now draw r = v.receive now draw (r.without sessionHeader))) ∧
    ∀ keys token state, v.table.codec.keys = some keys →
      v.table.codec.parse? token false = some state →
        (state.spell.length < 60 → v.readToken token = none) ∧
        ∀ other, v.readToken token = some other →
          ∃ payload, state.spell = payload ++ Hmac.sign keys.signing payload := by
  refine ⟨receive_of_long, receive_of_longBody, fun hroute hfits hbad => ?_, fun hroute hjson hstream value hvalue hbad =>
    ⟨fun hvisible hfits => ?_, fun hvisible => ?_⟩, fun keys token state hkeys hplain => ?_⟩
  · simp only [receive_of_fits hfits.target, handle, hroute]
    exact refused_admitPost hfits.body hbad
  · simp only [receive_of_fits hfits.target, handle, hroute]
    have hheader : r.header? sessionHeader = some value := by
      rw [Request.header?, hvalue, Option.filter_some_pos hvisible]
    exact refused_admitExchange hfits.body (by rw [hjson, hstream]; rfl)
      (addressed_eq_error hheader hbad)
  · have hheader : r.header? sessionHeader = none := by
      rw [Request.header?, hvalue, Option.filter_some_neg hvisible]
    have hroute' : v.site.route (r.without sessionHeader).method (r.without sessionHeader).path =
        .found .exchange := hroute
    have htarget : (r.without sessionHeader).TargetFits ↔ r.TargetFits := Iff.rfl
    simp only [receive, htarget, handle, hroute, hroute', admitExchange_without hheader]
  · have hencrypts : v.table.codec.encrypts = true := by
      rw [encrypts, hkeys, Option.isSome_some]
    have hsigned : ∀ other, v.readToken token = some other →
        ∃ payload, state.spell = signed keys payload ∧ Sound keys payload := by
      intro other hother
      rw [readToken, hencrypts] at hother
      exact spell_eq_signed hkeys hplain hother
    refine ⟨fun hshort => Option.eq_none_iff_forall_ne_some.2 fun other hother => ?_,
      fun other hother => ?_⟩
    · obtain ⟨payload, hspell, hsound⟩ := hsigned other hother
      have hlong : 28 ≤ payload.length := hsound.length
      rw [hspell, length_signed, signatureLength] at hshort
      omega
    · obtain ⟨payload, hspell, -⟩ := hsigned other hother
      exact ⟨payload, hspell⟩

/-- An instance with a secret, and one without. -/
def guarded : Server := { table := { instanceId := "a", codec := .ofSecret (some "geheim") } }

def unguarded : Server := { table := { instanceId := "a" } }

/-- A ping for the exchange, with a session header. -/
def addressedPing (value : String) : Request where
  method := "POST"
  target := "/mcp"
  headers := [("accept", "application/json, text/event-stream"), ("MCP-Session-Id", value)]
  body := Utf8.encode (Rpc.Message.request { id := .number 1, method := "ping" }).wire

/-- A post that names no session, with a body that is no UTF-8. -/
def unnamedPost : Request := { method := "POST", target := "/message?code=state", body := [255] }

theorem bad_tokens_are_refused_plain :
    Refused guarded (guarded.receive 0 (.numbered 0) unnamedPost) ∧
    guarded.readToken "YXxi" = none ∧
    Refused guarded (guarded.receive 0 (.numbered 0) (addressedPing "YXxi")) ∧
    guarded.receive 0 (.numbered 0) (addressedPing "é") =
      guarded.receive 0 (.numbered 0) ((addressedPing "é").without sessionHeader) := by
  have hplain : guarded.table.codec.parse? "YXxi" false = some ⟨"a", "b"⟩ := by decide +kernel
  have hrefused : guarded.readToken "YXxi" = none :=
    ((bad_tokens_are_refused guarded 0 (.numbered 0) unnamedPost).2.2.2.2 (.ofSecret "geheim") "YXxi"
      ⟨"a", "b"⟩ rfl hplain).1 (by decide)
  have hbad : guarded.readToken "é" = none := by decide +kernel
  refine ⟨(bad_tokens_are_refused _ _ _ _).2.2.1 (by decide +kernel)
      ⟨by decide +kernel, by decide +kernel⟩ (fun token h => ?_), hrefused,
    ((bad_tokens_are_refused _ _ _ _).2.2.2.1 (by decide +kernel) (by decide +kernel)
      (by decide +kernel) "YXxi" (by decide +kernel) hrefused).1 (by decide)
      ⟨by decide +kernel, by decide +kernel⟩,
    ((bad_tokens_are_refused _ _ _ _).2.2.2.1 (by decide +kernel) (by decide +kernel)
      (by decide +kernel) "é" (by decide +kernel) hbad).2 (by decide)⟩
  have hnone : Url.Form.get? unnamedPost.query "state" = none := by decide +kernel
  rw [hnone] at h
  cases h

/-- A header that is no token in any mode, yet opens a session. -/
theorem unreadable_header_opens_session :
    unguarded.site.route (addressedPing "é").method (addressedPing "é").path = .found .exchange ∧
      ((addressedPing "é").values sessionHeader).head? = some "é" ∧
      unguarded.readToken "é" = none ∧
      ¬ Refused unguarded (unguarded.receive 0 (.numbered 0) (addressedPing "é")) ∧
      (unguarded.receive 0 (.numbered 0) (addressedPing "é")).2.table.live =
        [((Draw.numbered 0).clientId, 0)] := by
  have hopened : (unguarded.receive 0 (.numbered 0) (addressedPing "é")).2.table.live =
      [((Draw.numbered 0).clientId, 0)] := by decide +kernel
  refine ⟨by decide +kernel, by decide +kernel, by decide +kernel, ?_, hopened⟩
  rintro ⟨response, h, -⟩
  rw [h] at hopened
  cases hopened

end Server

end SessionRelay
