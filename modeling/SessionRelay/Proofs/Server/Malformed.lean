import SessionRelay.Proofs.Rpc.Grammar
import SessionRelay.Proofs.Server.Admission
import SessionRelay.Proofs.Session.Job

/-!
# Bodies that are no messages

A body that cannot be read as messages is answered once, with one error under the id that it spells,
if it spells one (`recoverId_eq_some_iff`). On the message box the error goes to the stream of the
session, if somebody still reads it; everything else about the instance stays as it was
(`malformed_bodies_are_told`). What is too long to be read is turned away for its length instead.
-/

namespace SessionRelay

/-- Somebody still gets what is sent to the client. -/
structure Session.Reaches (s : Session) : Prop where
  held : s.transport.closed = false
  reader : s.transport.outbound.hasReader = true

namespace Session

variable {s : Session}

theorem send_of_reaches (h : s.Reaches) (m : Rpc.Message) :
    s.send m = .ok (s.put (.message m)) := by
  rw [send, Transport.send, Transport.push_of_open h.held h.reader]
  rfl

theorem send_of_not_reaches (h : ¬ s.Reaches) (m : Rpc.Message) : (s.send m).toOption = none := by
  have hgone : (s.transport.closed || !s.transport.outbound.hasReader) = true := by
    by_contra hnot
    rw [Bool.not_eq_true, Bool.or_eq_false_iff, Bool.not_eq_false'] at hnot
    exact h ⟨hnot.1, hnot.2⟩
  rw [send, Transport.send, Transport.push, if_pos hgone]
  rfl

end Session

namespace Server

open Http

variable {v : Server} {r : Request} {now : Nat} {draw : Draw} {body token : String}
  {client : ClientState} {id : Option Rpc.Id} {e : Rpc.ErrorObject} {place : Nat} {s : Session}

/-! ## The error -/

/-- A body that is not JSON is a parse error, and any other an invalid request. -/
theorem code_of_malformed (h : Rpc.Message.ofBody body = .error e) :
    e.code = if Json.parse? body = none then -32700 else -32600 := by
  cases hparse : Json.parse? body with
  | none =>
    rw [Rpc.Message.ofBody, hparse] at h
    cases h
    rfl
  | some w => exact Rpc.Message.code_of_ofBody_eq_error hparse h

/-- The id of an object is told if it is a string or an integer of 64 bits. Nothing else has one. -/
theorem recoverId_eq_some_iff {id : Rpc.Id} : recoverId body = some id ↔
    ∃ members w, Json.parse? body = some (.object members) ∧
      Json.Members.get? "id" members = some w ∧ Rpc.Id.Spells w id := by
  have hread : ∀ w, (Rpc.Id.ofJson w).toOption = some id ↔ Rpc.Id.Spells w id := fun w => by
    rw [← Rpc.Id.ofJson_eq_ok_iff]
    cases Rpc.Id.ofJson w <;> simp [Except.toOption]
  simp only [recoverId, Option.bind_eq_bind, Option.bind_eq_some_iff, hread]
  constructor
  · rintro ⟨v, hv, w, hw, hspells⟩
    cases v with
    | object members => exact ⟨members, w, hv, hw, hspells⟩
    | _ => cases hw
  · rintro ⟨members, w, hv, hw, hspells⟩
    exact ⟨_, hv, w, hw, hspells⟩

/-! ## The answer -/

/-- The session of the client is here, at this place, and somebody reads its stream. -/
structure Tells (v : Server) (client : ClientState) (place : Nat) (s : Session) : Prop where
  here : client.isLocal v.instanceId = true
  found : v.table.find? client.clientId = some place
  session : v.table.session? place = some s
  reaches : s.Reaches

theorem rejectBody_of_tells (h : v.Tells client place s) : v.rejectBody client id e =
    (accepted, v.modify place fun _ => s.put (.message (Rpc.Response.error id e).toMessage)) := by
  simp only [rejectBody, h.here, if_true, h.found, h.session, Option.bind_some,
    Session.send_of_reaches h.reaches, Except.toOption]

theorem rejectBody_of_gone (here : client.isLocal v.instanceId = true)
    (hgone : ∀ place s, ¬ v.Tells client place s) :
    v.rejectBody client id e = (v.sessionLost, v) := by
  rw [rejectBody, if_pos here]
  cases hplace : v.table.find? client.clientId with
  | none => rfl
  | some place =>
    cases hs : v.table.session? place with
    | none => simp only [hs, Option.bind_none]
    | some s =>
      have hnone := Session.send_of_not_reaches (fun h => hgone place s ⟨here, hplace, hs, h⟩)
        (Rpc.Response.error id e).toMessage
      simp only [hs, Option.bind_some, hnone]

theorem rejectBody_of_remote (hremote : client.isLocal v.instanceId = false) :
    v.rejectBody client id e = (.rpcError 400 id e, v) := by
  rw [rejectBody, hremote, if_neg Bool.false_ne_true]

theorem handle_malformed (hroute : v.site.route r.method r.path = .found .messageBox)
    (hbody : bodyText r = .ok body) (hstate : Url.Form.get? r.query "state" = some token)
    (hclient : v.readToken token = some client) (h : Rpc.Message.ofBody body = .error e) :
    v.handle now draw r = replied (v.rejectBody client (recoverId body) e).1
      (v.rejectBody client (recoverId body) e).2 := by
  simp only [handle, hroute, admitPost, hbody, hstate, hclient, h]

/-- Only an exchange whose client takes both kinds of answer gets as far as its messages. -/
theorem admitExchange_unaccepted (hbody : bodyText r = .ok body)
    (h : (r.accepts "application/json" && r.accepts "text/event-stream") = false) :
    ∃ response : Response, v.admitExchange draw r = replied response v ∧ response.status = 406 := by
  simp only [admitExchange, hbody, h]
  exact ⟨_, rfl, rfl⟩

/-- A body that is no message is an error with the code of its kind, under the id of the object that
it is, if that has one. Posted to a session here it becomes one message for the client, and nothing
else, as long as somebody reads the stream. Any other answer changes nothing: the client is to
reconnect if its session is gone, and gets the error itself if the session is elsewhere or if the
body was meant for an exchange, which has to accept both kinds of answer. A request with a target or
a body that is too long changes nothing either, and is told of that alone. -/
theorem malformed_bodies_are_told (v : Server) (now : Nat) (draw : Draw) (r : Request)
    (hbody : Utf8.decode r.body = .ok body) (h : Rpc.Message.ofBody body = .error e) :
    (e.code = if Json.parse? body = none then -32700 else -32600) ∧
    (∀ id, recoverId body = some id ↔ ∃ members w, Json.parse? body = some (.object members) ∧
      Json.Members.get? "id" members = some w ∧ Rpc.Id.Spells w id) ∧
    (¬ r.TargetFits → v.receive now draw r = replied longTarget v) ∧
    (r.TargetFits → ¬ r.BodyFits → (v.site.route r.method r.path = .found .messageBox ∨
      v.site.route r.method r.path = .found .exchange) →
        v.receive now draw r = replied longBody v) ∧
    (∀ token client, r.Fits → v.site.route r.method r.path = .found .messageBox →
      Url.Form.get? r.query "state" = some token → v.readToken token = some client →
      (∀ place s, v.Tells client place s → v.receive now draw r = replied accepted
        (v.modify place fun _ =>
          s.put (.message (Rpc.Response.error (recoverId body) e).toMessage))) ∧
      (client.isLocal v.instanceId = true → (∀ place s, ¬ v.Tells client place s) →
        v.receive now draw r = replied v.sessionLost v) ∧
      (client.isLocal v.instanceId = false →
        v.receive now draw r = replied (.rpcError 400 (recoverId body) e) v)) ∧
    ∀ named, r.Fits → v.site.route r.method r.path = .found .exchange → v.addressed r = .ok named →
      (r.accepts "application/json" = true ∧ r.accepts "text/event-stream" = true →
        v.receive now draw r = replied (.rpcError 400 (recoverId body) e) v) ∧
      (¬ (r.accepts "application/json" = true ∧ r.accepts "text/event-stream" = true) →
        ∃ response : Response, v.receive now draw r = replied response v ∧
          response.status = 406) := by
  refine ⟨code_of_malformed h, fun id => recoverId_eq_some_iff, receive_of_long,
    receive_of_longBody,
    fun token client hfits hroute hstate hclient => ?_,
    fun named hfits hroute hnamed => ⟨fun haccepts => ?_, fun haccepts => ?_⟩⟩
  · rw [receive_of_fits hfits.target,
      handle_malformed hroute (bodyText_eq_ok.2 ⟨hfits.body, hbody⟩) hstate hclient h]
    refine ⟨fun place s htells => ?_, fun here hgone => ?_, fun hremote => ?_⟩
    · rw [rejectBody_of_tells htells]
    · rw [rejectBody_of_gone here hgone]
    · rw [rejectBody_of_remote hremote]
  · simp only [receive_of_fits hfits.target, handle, hroute]
    exact admitExchange_malformed (bodyText_eq_ok.2 ⟨hfits.body, hbody⟩)
      (Bool.and_eq_true_iff.2 haccepts) hnamed h
  · simp only [receive_of_fits hfits.target, handle, hroute]
    exact admitExchange_unaccepted (bodyText_eq_ok.2 ⟨hfits.body, hbody⟩)
      (Bool.not_eq_true _ ▸ mt Bool.and_eq_true_iff.1 haccepts)

/-- An instance whose client `c` holds an open stream. -/
def attended : Server :=
  (unguarded.receive 0 ⟨"c", List.replicate 12 0⟩ { method := "GET", target := "/sse" }).2

/-- An object with an id that is no message. -/
def stray : String := "\x7b\"id\":7\x7d"

def strayPost : Request :=
  { method := "POST", target := "/message?state=Y3xh", body := Utf8.encode stray }

def strayExchange : Request := { method := "POST", target := "/mcp", body := Utf8.encode stray }

theorem ofBody_stray : ∃ e, Rpc.Message.ofBody stray = .error e := by
  have hnone : (Rpc.Message.ofBody stray).toOption.isNone = true := by decide +kernel
  cases h : Rpc.Message.ofBody stray with
  | error e => exact ⟨e, rfl⟩
  | ok messages =>
    rw [h] at hnone
    cases hnone

theorem malformed_bodies_are_told_id : ∃ e s, Rpc.Message.ofBody stray = .error e ∧
    e.code = -32600 ∧ attended.table.session? 0 = some s ∧
    attended.receive 0 (.numbered 0) strayPost = replied accepted (attended.modify 0 fun _ =>
      s.put (.message (Rpc.Response.error (some (.number 7)) e).toMessage)) := by
  obtain ⟨e, he⟩ := ofBody_stray
  have hbody : Utf8.decode strayPost.body = .ok stray := by decide +kernel
  have hid : recoverId stray = some (.number 7) := by decide +kernel
  obtain ⟨hcode, -, -, -, hpost, -⟩ :=
    malformed_bodies_are_told attended 0 (.numbered 0) strayPost hbody he
  obtain ⟨s, hs⟩ : ∃ s, attended.table.session? 0 = some s :=
    Option.isSome_iff_exists.1 (by decide +kernel)
  have hreads : ((attended.table.session? 0).map fun s =>
      (s.transport.closed, s.transport.outbound.hasReader)) = some (false, true) := by
    decide +kernel
  rw [hs, Option.map_some, Option.some.injEq, Prod.mk.injEq] at hreads
  obtain ⟨htold, -⟩ := hpost "Y3xh" ⟨"c", "a"⟩ ⟨by decide +kernel, by decide +kernel⟩
    (by decide +kernel) (by decide +kernel) (by decide +kernel)
  have hanswer := htold 0 s ⟨by decide +kernel, by decide +kernel, hs, hreads.1, hreads.2⟩
  rw [hid] at hanswer
  refine ⟨e, s, he, ?_, hs, hanswer⟩
  rw [hcode, if_neg]
  exact fun hnone => by simp [recoverId, hnone] at hid

/-- An exchange that accepts both kinds of answer. -/
def acceptingExchange : Request where
  method := "POST"
  target := "/mcp"
  headers := [("accept", "application/json, text/event-stream")]

/-- One that brings a string, which is no message, and is too long to be read. -/
def longExchange : Request :=
  acceptingExchange.withBody (Utf8.encode (Json.string longText).compact)

/-- An exchange that accepts neither kind of answer is told so, and not of its body; and so is one
with a body that is too long, told of that alone. -/
theorem unread_exchanges_hear_no_error : (unguarded.site.route strayExchange.method
        strayExchange.path = .found .exchange ∧
      unguarded.addressed strayExchange = .ok none ∧
      Utf8.decode strayExchange.body = .ok stray ∧ (∃ e, Rpc.Message.ofBody stray = .error e) ∧
      ∀ e, (unguarded.receive 0 (.numbered 0) strayExchange).1 ≠
        .replied (.plain (.rpcError 400 (recoverId stray) e))) ∧
    unguarded.site.route longExchange.method longExchange.path = .found .exchange ∧
      unguarded.addressed longExchange = .ok none ∧
      Utf8.decode longExchange.body = .ok (Json.string longText).compact ∧
      (∃ e, Rpc.Message.ofBody (Json.string longText).compact = .error e) ∧
      unguarded.receive 0 (.numbered 0) longExchange = replied longBody unguarded ∧
      longBody.status = 413 := by
  have hroute : unguarded.site.route acceptingExchange.method acceptingExchange.path =
      .found .exchange := by decide +kernel
  have haddressed : unguarded.addressed acceptingExchange = .ok none := by
    rw [addressed, show acceptingExchange.header? sessionHeader = none by decide +kernel]
  have hlong : bodyLimit < (Utf8.encode (Json.string longText).compact).length :=
    length_longText.trans_le (length_le_encode_string longText)
  refine ⟨⟨by decide +kernel, rfl, by decide +kernel, ofBody_stray, fun e h => ?_⟩,
    (route_withBody _).trans hroute, (addressed_withBody _).trans haddressed, decode_body _,
    ofBody_string longText, receive_withBody (by decide +kernel) hlong (.inr hroute), rfl⟩
  have hstatus : (match (unguarded.receive 0 (.numbered 0) strayExchange).1 with
      | .replied (.plain response) => response.status
      | _ => 0) = 406 := by decide +kernel
  rw [h] at hstatus
  cases hstatus

end Server

end SessionRelay
