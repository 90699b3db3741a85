import SessionRelay.Proofs.Json.Record
import SessionRelay.Proofs.Server.Admission
import SessionRelay.Proofs.Server.Endpoint
import SessionRelay.Startup

/-!
# What a configuration can serve

A configuration that is accepted has room in its queues, but its instance id is not looked at. The
id goes into the token of every session, so an instance whose id is empty or has the separator in it
starts and then can open no session at all, and any other opens one for every client
(`accepted_serves_iff_named`).
-/

namespace SessionRelay

/-- What a token can spell as one of its two ids. -/
def ClientState.IsName (id : String) : Prop := id ≠ "" ∧ separator ∉ id.toList

instance (id : String) : Decidable (ClientState.IsName id) :=
  inferInstanceAs (Decidable (_ ∧ _))

theorem ClientState.proper_iff {state : ClientState} :
    state.Proper ↔ IsName state.clientId ∧ IsName state.instanceId :=
  ⟨fun h => ⟨⟨h.client, h.clientPlain⟩, h.owner, h.ownerPlain⟩,
    fun h => ⟨h.1.1, h.2.1, h.1.2, h.2.2⟩⟩

/-- The draw has an id for a client and a nonce for its token. -/
structure Draw.Usable (draw : Draw) : Prop where
  named : ClientState.IsName draw.clientId
  nonce : draw.nonce.length = Gcm.nonceLength

/-! ## Sessions -/

namespace SessionTable

variable {t t' : SessionTable} {kind : StreamKind} {parent : String} {draw : Draw} {place : Nat}

/-- Only the name of the instance can be in the way of a new session. -/
theorem exists_create_iff (t : SessionTable) (hdraw : draw.Usable) (kind : StreamKind)
    (parent : String) :
    (∃ place t', t.create kind parent draw = .ok (place, t')) ↔
      ClientState.IsName t.instanceId := by
  have htoken : (∃ token, t.codec.format draw.nonce ⟨draw.clientId, t.instanceId⟩ t.codec.encrypts =
      .ok token) ↔ ClientState.IsName t.instanceId := by
    rw [ClientState.Codec.exists_format_iff, ClientState.proper_iff]
    simp [hdraw.named]
  rw [← htoken]
  constructor
  · rintro ⟨place, t', h⟩
    obtain ⟨s, hopens, -⟩ := create_opens h
    exact ⟨s.token, hopens.clientId ▸ hopens.instanceId ▸ hopens.token⟩
  · rintro ⟨token, h⟩
    unfold create
    rw [h]
    exact ⟨_, _, rfl⟩

/-- A session is found under its client id, and its token is read as its two ids. -/
def Holds (t : SessionTable) (codec : ClientState.Codec) (state : ClientState) : Prop :=
  ∃ place s, t.find? state.clientId = some place ∧ t.session? place = some s ∧
    s.clientId = state.clientId ∧ s.instanceId = state.instanceId ∧
    codec.parse? s.token codec.encrypts = some state

theorem find?_filter_ne (live : List (String × Nat)) (id : String) :
    (live.filter fun (key, _) => key != id).find? (fun (key, _) => key == id) = none := by
  simp [List.find?_eq_none]

theorem find?_enter (t : SessionTable) (s : Session) :
    (t.enter s).find? s.clientId = some t.opened.length := by
  rw [find?, enter, List.find?_append, find?_filter_ne]
  simp

theorem create_holds {secret : Option String} (hcodec : t.codec = .ofSecret secret)
    (hdraw : draw.Usable) (h : t.create kind parent draw = .ok (place, t')) :
    t'.Holds t.codec ⟨draw.clientId, t.instanceId⟩ := by
  obtain ⟨s, hopens, rfl⟩ := create_opens h
  have htoken := hopens.token
  rw [hcodec, hopens.clientId, hopens.instanceId] at htoken
  refine ⟨t.opened.length, s, ?_, ?_, hopens.clientId, hopens.instanceId, ?_⟩
  · rw [← hopens.clientId]
    exact t.find?_enter s
  · rw [session?_enter, if_pos rfl]
  · rw [hcodec]
    exact ClientState.Codec.parse?_of_format hdraw.nonce htoken

end SessionTable

/-! ## Requests that need a session -/

/-- The status of an answer that is given at once. -/
def Admission.status? : Admission → Option Nat
  | .replied (.plain response) => some response.status
  | .replied (.stream _ _) => some 200
  | .started _ => none

namespace Server

open Http

variable {v : Server} {now : Nat} {draw : Draw} {r : Request}

/-- The request needs a session of its own. -/
inductive Wants (v : Server) (r : Request) : Prop
  | stream (route : v.site.route r.method r.path = .found .stream)
  | streamByPost (route : v.site.route r.method r.path = .found .streamByPost)
    (html : r.accepts "application/json" = false)
  | exchange (route : v.site.route r.method r.path = .found .exchange)
    (accepts : (r.accepts "application/json" && r.accepts "text/event-stream") = true)
    (client : Option ClientState) (addressed : v.addressed r = .ok client) (fits : r.BodyFits)
    (body : String) (decoded : Utf8.decode r.body = .ok body) (messages : List Rpc.Message)
    (parsed : Rpc.Message.ofBody body = .ok messages)
    (requests : 0 < messages.countP Rpc.Message.isRequest)

theorem status_rejectBody (v : Server) (client : ClientState) (id : Option Rpc.Id)
    (error : Rpc.ErrorObject) : (v.rejectBody client id error).1.status ≠ 500 := by
  unfold rejectBody
  split_ifs
  · split
    · exact nofun
    · dsimp only
      split <;> exact nofun
  · exact nofun

theorem status_forget (r : Request) : (forget r).status ≠ 500 := by
  unfold forget
  split <;> exact nofun

theorem status_bodyText {response : Response} (h : bodyText r = .error response) :
    response.status ≠ 500 := by
  by_cases hfits : r.BodyFits
  · obtain ⟨f, -, rfl⟩ := bodyText_eq_error hfits h
    exact nofun
  · rw [bodyText_of_long hfits] at h
    cases h
    exact nofun

theorem status?_admitPost (v : Server) (r : Request) : (v.admitPost r).1.status? ≠ some 500 := by
  unfold admitPost
  split
  · rename_i hbody
    exact fun h => status_bodyText hbody (Option.some.inj h)
  · split
    · exact nofun
    · split
      · exact nofun
      · split
        · exact nofun
        · exact fun h => v.status_rejectBody _ _ _ (Option.some.inj h)

/-- A new stream is answered with a body, or there is no session for it. -/
theorem openStream_cases (hdraw : draw.Usable) (now : Nat) (query : String) :
    (∃ headers number, (v.openStream now draw query).1 = .stream headers number) ∧
        ClientState.IsName v.instanceId ∨
      (∃ response, (v.openStream now draw query).1 = .plain response ∧ response.status = 500) ∧
        ¬ ClientState.IsName v.instanceId := by
  have hcreates := v.table.exists_create_iff hdraw
    (.sse v.site.messagePath (Url.Form.get? query "code")) shutdown
  unfold openStream
  cases hcreate : v.table.create (.sse v.site.messagePath (Url.Form.get? query "code")) shutdown
      draw with
  | error e =>
    refine .inr ⟨?_, fun h => by simpa [hcreate] using hcreates.2 h⟩
    simp only [hcreate]
    exact ⟨_, rfl, rfl⟩
  | ok opened =>
    obtain ⟨place, table⟩ := opened
    refine .inl ⟨?_, hcreates.1 ⟨_, _, hcreate⟩⟩
    simp only [hcreate]
    obtain ⟨s, -, rfl, -, houtbound, -⟩ := SessionTable.create_framing hcreate
    obtain ⟨rfl, -⟩ := SessionTable.create_spec hcreate
    have hs : (v.table.enter s).session? v.table.opened.length = some s := by
      rw [SessionTable.session?_enter, if_pos rfl]
    obtain ⟨body, -, hbody⟩ := openBody_eq (v := { v with table := v.table.enter s }) hs houtbound
      now
    exact ⟨_, _, congrArg Prod.fst hbody⟩

theorem status?_openStream (hdraw : draw.Usable) (now : Nat) (query : String) :
    (Admission.replied (v.openStream now draw query).1).status? = some 500 ↔
      ¬ ClientState.IsName v.instanceId := by
  obtain ⟨⟨headers, number, h⟩, hnamed⟩ | ⟨⟨response, h, hstatus⟩, hnot⟩ :=
    v.openStream_cases hdraw now query
  · simp [h, Admission.status?, hnamed]
  · simp [h, Admission.status?, hstatus, hnot]

theorem not_wants (h : v.site.route r.method r.path ∉
    [.found .stream, .found .streamByPost, .found .exchange]) : ¬ v.Wants r := by
  rintro (route | route | route) <;> simp [route] at h

/-- Only a request that needs a session is refused for want of one. -/
theorem wants_of_admitExchange (hroute : v.site.route r.method r.path = .found .exchange)
    (h : (v.admitExchange draw r).1.status? = some 500) : v.Wants r := by
  unfold admitExchange at h
  split at h
  · rename_i hbody
    exact absurd (Option.some.inj h) (status_bodyText hbody)
  · rename_i body hbody
    obtain ⟨hfits, hdecoded⟩ := bodyText_eq_ok.1 hbody
    split_ifs at h with haccepts
    · cases h
    · split at h
      · cases h
      · rename_i client hclient
        split at h
        · cases h
        · rename_i messages hmessages
          split at h
          · cases h
          · cases h
          · rename_i named _ _ hsome hnone
            refine .exchange hroute (by simpa using haccepts) named hclient hfits body hdecoded
              messages hmessages (Nat.pos_of_ne_zero fun hzero => ?_)
            cases named with
            | none => exact hnone hzero rfl
            | some client => exact hsome client hzero rfl

theorem status?_admitExchange (hdraw : draw.Usable)
    (hroute : v.site.route r.method r.path = .found .exchange) (hwants : v.Wants r) :
    (v.admitExchange draw r).1.status? = some 500 ↔ ¬ ClientState.IsName v.instanceId := by
  cases hwants with
  | stream route =>
    rw [hroute] at route
    cases route
  | streamByPost route =>
    rw [hroute] at route
    cases route
  | exchange _ accepts client addressed fits body decoded messages parsed requests =>
    rw [admitExchange_feed (bodyText_eq_ok.2 ⟨fits, decoded⟩) accepts addressed parsed requests]
    have hcreates := v.table.exists_create_iff hdraw
      (.streamable (messages.countP Rpc.Message.isRequest)) shutdown
    cases hcreate : v.table.create (.streamable (messages.countP Rpc.Message.isRequest)) shutdown
        draw with
    | error e =>
      refine iff_of_true rfl fun hnamed => ?_
      obtain ⟨place, table, h⟩ := hcreates.2 hnamed
      rw [hcreate] at h
      cases h
    | ok opened => exact iff_of_false nofun (not_not_intro (hcreates.1 ⟨_, _, hcreate⟩))

theorem status?_handle (hdraw : draw.Usable) (now : Nat) (r : Request) :
    (v.handle now draw r).1.status? = some 500 ↔
      v.Wants r ∧ ¬ ClientState.IsName v.instanceId := by
  have unwanted : ∀ {admission : Admission}, ¬ v.Wants r → admission.status? ≠ some 500 →
      (admission.status? = some 500 ↔ v.Wants r ∧ ¬ ClientState.IsName v.instanceId) :=
    fun hnot hstatus => iff_of_false hstatus fun h => hnot h.1
  unfold handle
  cases hroute : v.site.route r.method r.path with
  | unknown => exact unwanted (not_wants (by simp [hroute])) nofun
  | notAllowed allow => exact unwanted (not_wants (by simp [hroute])) nofun
  | found endpoint =>
    cases endpoint with
    | stream =>
      have hopens := v.status?_openStream hdraw now r.query
      rw [and_iff_right (.stream hroute), ← hopens]
      simp only
      split
      · rename_i hreply
        simp [hreply, replied, Admission.status?]
      · rename_i hreply
        simp [hreply, replied, Admission.status?]
      · rfl
    | streamByPost =>
      simp only
      split_ifs with hjson
      · refine unwanted (fun h => ?_) nofun
        cases h with
        | stream route =>
          rw [hroute] at route
          cases route
        | streamByPost _ html =>
          rw [hjson] at html
          cases html
        | exchange route =>
          rw [hroute] at route
          cases route
      · rw [and_iff_right (.streamByPost hroute (by simpa using hjson))]
        exact v.status?_openStream hdraw now r.query
    | messageBox => exact unwanted (not_wants (by simp [hroute])) (v.status?_admitPost r)
    | exchange =>
      by_cases hwants : v.Wants r
      · rw [and_iff_right hwants]
        exact status?_admitExchange hdraw hroute hwants
      · exact unwanted hwants fun h => hwants (wants_of_admitExchange hroute h)
    | forget =>
      exact unwanted (not_wants (by simp [hroute])) fun h => status_forget r (Option.some.inj h)

/-- Exactly the requests that need a session are answered 500, if the instance has no name that a
token can spell; those with a target that is too long are not read so far. -/
theorem status?_receive (hdraw : draw.Usable) (now : Nat) (r : Request) :
    (v.receive now draw r).1.status? = some 500 ↔
      r.TargetFits ∧ v.Wants r ∧ ¬ ClientState.IsName v.instanceId := by
  by_cases hfits : r.TargetFits
  · rw [receive_of_fits hfits, and_iff_right hfits]
    exact status?_handle hdraw now r
  · rw [receive_of_long hfits]
    exact iff_of_false nofun fun h => hfits h.1

end Server

/-! ## Starting with a configuration -/

namespace Startup

variable {σ : Type} {words : List String} {arguments : CommandLine.Arguments}
  {file : String → Config.FileState} {state : Config.FileState} {lookup : String → Option String}
  {detected : String} {made : Plan}

/-- What an accepted configuration makes of its settings. -/
theorem plan_spec (h : plan arguments state lookup detected = .ok made) :
    made.config.validate = .ok () ∧ made.codec = .ofSecret made.config.clientStateKey ∧
      made.instanceId = made.config.resolveInstanceId detected := by
  obtain ⟨base, -, h⟩ := bind_eq_ok.1 h
  obtain ⟨given, -, h⟩ := bind_eq_ok.1 h
  obtain ⟨⟨⟩, hvalid, h⟩ := bind_eq_ok.1 h
  cases h
  exact ⟨hvalid, rfl, rfl⟩

theorem capacity_pos {c : Config} (h : c.validate = .ok ()) : 0 < c.inboundQueueCapacity := by
  unfold Config.validate at h
  split_ifs at h with _ hcapacity
  exact Nat.pos_of_ne_zero hcapacity

/-- Until it listens, the program dies over a queue that would be too long, and over nothing
else. -/
theorem start_eq_died_iff (hwords : CommandLine.parse words = .ok arguments)
    (hplan : plan arguments (file arguments.config) lookup detected = .ok made) :
    start words file lookup detected = .died ↔
      maxQueueCapacity < made.config.inboundQueueCapacity := by
  simp only [start, hwords, hplan]
  split_ifs with hlong
  · exact iff_of_true rfl hlong
  · refine iff_of_false ?_ hlong
    split <;> exact nofun

/-- An accepted configuration has room in its queues, and the program does not die before it listens
unless they are too long to be made. An instance that runs with its id and its codec can open
sessions if and only if the id is not empty and has no separator in it: a request is answered 500
for want of a session just if it is short enough to be read, needs one, and the id is no such name.
A session that is opened is found under the client id that was drawn, and its token is read as that
id and the id of the instance. -/
theorem accepted_serves_iff_named (hwords : CommandLine.parse words = .ok arguments)
    (hplan : plan arguments (file arguments.config) lookup detected = .ok made) :
    (start words file lookup detected = .died ↔
      maxQueueCapacity < made.config.inboundQueueCapacity) ∧
    0 < made.config.inboundQueueCapacity ∧
    ∀ (service : Queue.Service σ) (v₀ v : Server), v₀.instanceId = made.instanceId →
      v₀.table.codec = made.codec → Server.Reaches service v₀ v →
      ∀ draw : Draw, draw.Usable →
        (∀ kind parent, (∃ place table, v.table.create kind parent draw = .ok (place, table)) ↔
          ClientState.IsName made.instanceId) ∧
        (∀ kind parent place table, v.table.create kind parent draw = .ok (place, table) →
          table.Holds made.codec ⟨draw.clientId, made.instanceId⟩) ∧
        ∀ now r, (v.receive now draw r).1.status? = some 500 ↔
          r.TargetFits ∧ v.Wants r ∧ ¬ ClientState.IsName made.instanceId := by
  obtain ⟨hvalid, hmade, -⟩ := plan_spec hplan
  refine ⟨start_eq_died_iff hwords hplan, capacity_pos hvalid,
    fun service v₀ v howner hcodec hreaches draw hdraw => ?_⟩
  obtain ⟨-, halike⟩ := hreaches.alike
  have hname : v.table.instanceId = made.instanceId := halike.owner.trans howner
  have hkept : v.table.codec = made.codec := halike.codec.trans hcodec
  refine ⟨fun kind parent => ?_, fun kind parent place table h => ?_, fun now r => ?_⟩
  · rw [← hname]
    exact v.table.exists_create_iff hdraw kind parent
  · rw [← hname, ← hkept]
    exact SessionTable.create_holds (hkept.trans hmade) hdraw h
  · rw [← hname]
    exact Server.status?_receive hdraw now r

/-- What a start with nothing but an instance id comes to. -/
def named (id : String) : Plan where
  config := { instanceId := some id }
  instanceId := id
  codec := .plain
  address := "127.0.0.1:3000"

/-- The instance that runs with it. -/
def instanceOf (id : String) : Server := { table := { instanceId := id } }

def streamGet : Http.Request := { method := "GET", target := "/sse" }

theorem usable_numbered : (Draw.numbered 0).Usable := ⟨by decide, by decide⟩

theorem accepted_serves_iff_named_default :
    (∃ place table, (instanceOf "a").table.create (.streamable 1) "server" (.numbered 0) =
      .ok (place, table) ∧ table.Holds .plain ⟨(Draw.numbered 0).clientId, "a"⟩) ∧
    ((instanceOf "a").receive 0 (.numbered 0) streamGet).1.status? ≠ some 500 := by
  have hwords : CommandLine.parse ["--instance-id", "a"] = .ok { instanceId := some "a" } := by
    decide +kernel
  obtain ⟨-, -, hserves⟩ := @accepted_serves_iff_named Queue.Store _ _ (fun _ => .missing)
    (fun _ => none) "host-1" (named "a") hwords rfl
  obtain ⟨hcreate, hholds, hstatus⟩ := hserves .ofStore (instanceOf "a") _ rfl rfl .refl
    (.numbered 0) usable_numbered
  obtain ⟨place, table, h⟩ := (hcreate (.streamable 1) "server").2 (by decide)
  refine ⟨⟨place, table, h, hholds _ _ _ _ h⟩, fun h => ?_⟩
  exact ((hstatus 0 streamGet).1 h).2.2 (by decide)

/-- The program starts with an instance id that has the separator in it, and then opens no session
for anybody. -/
theorem separator_in_name_serves_nobody :
    start ["--instance-id", "a|b"] (fun _ => .missing) (fun _ => none) "host-1" =
      .ready (named "a|b") 3000 ∧
    (named "a|b").config.validate = .ok () ∧
    (instanceOf "a|b").table.create (.streamable 1) "server" (.numbered 0) =
      .error (.separatorIn .instanceId) ∧
    ((instanceOf "a|b").receive 0 (.numbered 0) streamGet).1.status? = some 500 := by
  have hwords : CommandLine.parse ["--instance-id", "a|b"] = .ok { instanceId := some "a|b" } := by
    decide +kernel
  refine ⟨?_, rfl, rfl, by decide +kernel⟩
  rw [start, hwords]
  rfl

end Startup

end SessionRelay
