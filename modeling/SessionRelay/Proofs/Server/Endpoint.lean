import SessionRelay.Proofs.Http.Site
import SessionRelay.Proofs.Server.Account
import SessionRelay.Proofs.Server.Post
import SessionRelay.Proofs.Server.Roster

/-!
# Endpoints lead back

A new stream starts by telling its client an endpoint. As long as the session of the stream is live,
a post to that endpoint becomes an exchange that delivers its messages to the session, unless the
post is too long to be read (`endpoint_leads_back`).
-/

namespace SessionRelay

open Http (IsPlainPath)

variable {σ : Type} {service : Queue.Service σ}

/-- A session that has handed out its stream. -/
def Session.streaming (s : Session) : Session :=
  { s with transport := { s.transport with
      outbound := { stream := Outbound.opened s.transport.framing } } }

theorem Session.events_of_fresh {s : Session} (h : s.transport.outbound = {}) :
    s.events = .ok s.streaming := by
  rw [events, Transport.events, h]
  rfl

theorem Session.next_streaming {s : Session} {url : String} (hheld : s.transport.closed = false)
    (hframing : s.transport.framing = .sse url) :
    s.streaming.next.1 = .event (.endpoint url) := by
  simp only [next, streaming, Transport.next, hheld, hframing]
  rfl

/-- The token is found under its name. -/
theorem get?_endpointPairs {query token : String} {code : Option String}
    (h : Url.Form.pairs query = endpointPairs token code) :
    Url.Form.get? query "state" = some token := by
  rw [Url.Form.get?, h, endpointPairs]
  cases code <;> simp

namespace Server

variable {v v' : Server} {now number place : Nat} {draw : Draw} {r : Http.Request} {query : String}
  {headers : List (String × String)} {s : Session} {client : ClientState}
  {messages : List Rpc.Message}

/-! ## New streams -/

theorem sse_of_route {site : Http.Site} {method path : String} {endpoint : Http.Endpoint}
    (h : site.route method path = .found endpoint)
    (hstream : endpoint = .stream ∨ endpoint = .streamByPost) : site.sse = true := by
  by_contra hsse
  rw [Http.Site.route, if_neg fun hboth => hsse hboth.1, if_neg fun hboth => hsse hboth.1] at h
  split_ifs at h <;> cases h <;> simp at hstream

theorem admitPost_ne_stream (v : Server) (r : Http.Request) :
    (v.admitPost r).1 ≠ .replied (.stream headers number) := by
  unfold admitPost
  split
  · exact nofun
  · split
    · exact nofun
    · split
      · exact nofun
      · split <;> exact nofun

theorem admitExchange_ne_stream (v : Server) (draw : Draw) (r : Http.Request) :
    (v.admitExchange draw r).1 ≠ .replied (.stream headers number) := by
  unfold admitExchange
  split
  · exact nofun
  · split_ifs
    · exact nofun
    · split
      · exact nofun
      · split
        · exact nofun
        · split
          · exact nofun
          · exact nofun
          · split <;> exact nofun

theorem handle_stream (h : (v.handle now draw r).1 = .replied (.stream headers number)) :
    v.site.sse = true ∧ (v.openStream now draw r.query).1 = .stream headers number ∧
      (v.handle now draw r).2 = (v.openStream now draw r.query).2 := by
  unfold handle at h ⊢
  cases hroute : v.site.route r.method r.path with
  | unknown =>
    rw [hroute] at h
    cases h
  | notAllowed allow =>
    rw [hroute] at h
    cases h
  | found endpoint =>
    have hsse := sse_of_route hroute
    rw [hroute] at h
    cases endpoint with
    | stream =>
      simp only at h ⊢
      split at h
      · cases h
      · cases h
      · exact ⟨hsse (.inl rfl), by injection h, rfl⟩
    | streamByPost =>
      simp only at h ⊢
      split_ifs at h ⊢
      · cases h
      · exact ⟨hsse (.inr rfl), by injection h, rfl⟩
    | messageBox => exact absurd h (v.admitPost_ne_stream r)
    | exchange => exact absurd h (v.admitExchange_ne_stream draw r)
    | forget => cases h

/-- A request that is answered with a stream has opened it. -/
theorem receive_stream (h : (v.receive now draw r).1 = .replied (.stream headers number)) :
    v.site.sse = true ∧ (v.openStream now draw r.query).1 = .stream headers number ∧
      (v.receive now draw r).2 = (v.openStream now draw r.query).2 := by
  unfold receive at h ⊢
  split_ifs at h ⊢
  · exact handle_stream h
  · cases h

/-- What a new stream tells its client first: the endpoint of its session. -/
structure Advertises (v : Server) (number place : Nat) (code : Option String) (s : Session)
    (url : String) : Prop where
  body : ∃ b, v.bodies[number]? = some b ∧ b.session = place
  session : v.table.session? place = some s
  told : s.next.1 = .event (.endpoint url)
  token : ∀ c ∈ s.token.toList, Base64.IsUrlChar c
  oneLine : '\r' ∉ url.toList ∧ '\n' ∉ url.toList
  leads : ∀ post : Http.Request, post.target = url → post.path = v.site.messagePath ∧
    v.site.route "POST" post.path = .found .messageBox ∧
    Url.Form.pairs post.query = endpointPairs s.token code

theorem openStream_stream (h : (v.openStream now draw query).1 = .stream headers number) :
    ∃ table, v.table.create (.sse v.site.messagePath (Url.Form.get? query "code")) shutdown draw =
        .ok (v.table.opened.length, table) ∧
      v.openStream now draw query = { v with table }.openBody now v.table.opened.length := by
  unfold openStream at h ⊢
  simp only at h ⊢
  split at h
  · cases h
  · rename_i place table hcreate
    obtain ⟨rfl, -⟩ := SessionTable.create_spec hcreate
    exact ⟨table, hcreate, rfl⟩

/-- A session whose stream nobody has taken hands it out as a response body. -/
theorem openBody_eq (hs : v.table.session? place = some s) (houtbound : s.transport.outbound = {})
    (now : Nat) : ∃ body : EventBody, body.session = place ∧
      v.openBody now place = (.stream Http.EventStream.headers v.bodies.length,
        { v.modify place fun _ => s.streaming with bodies := v.bodies ++ [body] }) := by
  refine ⟨{ session := place, due := v.site.keepAlive.map (now + ·) }, rfl, ?_⟩
  rw [openBody, hs, Option.bind_some, Session.events_of_fresh houtbound]
  rfl

theorem advertises_receive {c : Config} (hbase : IsPlainPath c.basePath)
    (hsite : v.site = .ofConfig c)
    (h : (v.receive now draw r).1 = .replied (.stream headers number)) :
    ∃ s url, (v.receive now draw r).2.Advertises number v.table.opened.length
        (Url.Form.get? r.query "code") s url ∧
      (v.receive now draw r).2.table.codec.format draw.nonce
        ⟨s.clientId, (v.receive now draw r).2.instanceId⟩
        (v.receive now draw r).2.table.codec.encrypts = .ok s.token ∧
      s.transport.inbound.line = [] := by
  obtain ⟨hsse, hstream, hv⟩ := receive_stream h
  obtain ⟨table, hcreate, hopen⟩ := openStream_stream hstream
  obtain ⟨s, hopens, rfl, hframing, houtbound, hline⟩ := SessionTable.create_framing hcreate
  have hs : (v.table.enter s).session? v.table.opened.length = some s := by
    rw [SessionTable.session?_enter, if_pos rfl]
  obtain ⟨body, hbody, hopened⟩ := openBody_eq (v := { v with table := v.table.enter s }) hs
    houtbound now
  rw [hopen, hopened] at hstream
  obtain rfl : v.bodies.length = number := by injection hstream
  have htoken := hopens.token
  have hchars := ClientState.Codec.isUrlChar_of_format htoken
  have hroot := Http.Site.isPlainPath_ofConfig hbase
  have hplain := Http.Site.isPlainPath_message hroot
  rw [hopens.instanceId] at htoken
  refine ⟨s.streaming, endpointUrl v.site.messagePath s.token (Url.Form.get? r.query "code"),
    ⟨?_, ?_, ?_, hchars, ?_, fun post hpost => ?_⟩, ?_, hline⟩
  · rw [hv, hopen, hopened]
    exact ⟨body, List.getElem?_concat_length, hbody⟩
  · rw [hv, hopen, hopened]
    simp only [modify, SessionTable.session?_modify, hs, Option.map_some, if_true]
  · exact Session.next_streaming hopens.held hframing
  · rw [hsite]
    exact ⟨notMem_endpointUrl hplain hchars List.mem_cons_self,
      notMem_endpointUrl hplain hchars (List.mem_cons_of_mem _ List.mem_cons_self)⟩
  · have htarget := toList_endpointUrl v.site.messagePath (Url.Form.get? r.query "code") hchars
    rw [← hpost, hsite] at htarget
    obtain ⟨hpath, hquery⟩ := Http.path_and_query (Http.Site.messagePath_ofConfig c) hplain
      (Url.Form.notMem_write List.mem_cons_self _) htarget
    rw [hv, hopen, hopened]
    refine ⟨hsite ▸ hpath, ?_, ?_⟩
    · show v.site.route "POST" post.path = _
      rw [hpath, hsite, Http.Site.route_messagePath (hsite ▸ hsse) hroot, if_pos rfl]
    · rw [hquery, Url.Form.pairs_write]
      rfl
  · rw [hv, hopen, hopened]
    exact htoken

/-! ## Posts -/

theorem Reaches.alike (h : Reaches service v v') :
    v'.site = v.site ∧ v.table.Alike v'.table := by
  induction h with
  | refl => exact ⟨rfl, rfl, rfl⟩
  | @step v' st _ ih =>
    obtain ⟨hsite, halike, -⟩ := alike_step service v' st
    exact ⟨hsite.trans ih.1, halike.codec.trans ih.2.codec, halike.owner.trans ih.2.owner⟩

theorem Reaches.tidy (h : Reaches service v v') (hs : v.table.session? place = some s)
    (htidy : s.transport.inbound.Tidy) :
    ∃ s', v'.table.session? place = some s' ∧ s'.transport.inbound.Tidy := by
  induction h with
  | refl => exact ⟨s, hs, htidy⟩
  | step st _ ih =>
    obtain ⟨s', hs', htidy'⟩ := ih
    exact ⟨_, session_doings service st hs', Session.tidy_foldl _ _ htidy'⟩

theorem receive_post {body token : String} (hfits : r.Fits)
    (hroute : v.site.route r.method r.path = .found .messageBox)
    (hbody : Utf8.decode r.body = .ok body) (hstate : Url.Form.get? r.query "state" = some token)
    (hclient : v.readToken token = some client) (hmessages : Rpc.Message.ofBody body = .ok messages)
    (now : Nat) (draw : Draw) :
    v.receive now draw r = v.start (.post client) messages := by
  have htext : bodyText r = .ok body := bodyText_eq_ok.2 ⟨hfits.body, hbody⟩
  rw [receive_of_fits hfits.target]
  unfold handle
  rw [hroute]
  simp only [admitPost, htext, hstate, hclient, hmessages]

/-- At any later time a post to the endpoint becomes an exchange for the session. -/
theorem Advertises.receive {code secret : Option String} {nonce : Bytes} {url body : String}
    (h : v.Advertises number place code s url) (hlater : Reaches service v v')
    (hcodec : v.table.codec = .ofSecret secret) (hnonce : nonce.length = Gcm.nonceLength)
    (htoken : v.table.codec.format nonce ⟨s.clientId, v.instanceId⟩ v.table.codec.encrypts =
      .ok s.token) (hmethod : r.method = "POST") (htarget : r.target = url) (hfits : r.Fits)
    (hbody : Utf8.decode r.body = .ok body) (hmessages : Rpc.Message.ofBody body = .ok messages)
    (now : Nat) (draw : Draw) :
    v'.receive now draw r = v'.start (.post ⟨s.clientId, v'.instanceId⟩) messages := by
  obtain ⟨hsite, halike⟩ := hlater.alike
  obtain ⟨hpath, hroute, hpairs⟩ := h.leads r htarget
  have hclient : v'.readToken s.token = some ⟨s.clientId, v'.instanceId⟩ := by
    rw [hcodec] at htoken
    rw [readToken, halike.codec, hcodec, instanceId, halike.owner]
    exact ClientState.Codec.parse?_of_format hnonce htoken
  rw [← hmethod, ← hsite] at hroute
  exact receive_post hfits hroute hbody (get?_endpointPairs hpairs) hclient hmessages now draw

/-- An exchange that starts to post to a live session has all its messages to put. -/
theorem sound_start (ho : v.Orderly) (hseated : v.Seated) (hlive : v.Live client.clientId place)
    (hnear : client.isLocal v.instanceId = true)
    (htidy : ∀ s, v.table.session? place = some s → s.transport.inbound.Tidy)
    (messages : List Rpc.Message) :
    Course.Sound client place v.nextExchange messages
      { server := (v.start (.post client) messages).2 } := by
  obtain ⟨s, hs, hattends⟩ := hlive.attends
  refine ⟨⟨hlive.listed, s, hs, hattends⟩, hnear, hseated.start _ messages, Nat.lt_succ_self _,
    htidy, .pending s _ ⟨exchange?_start_self ho _ messages, hs, ⟨rfl, nofun⟩, rfl, rfl, ?_⟩⟩
  simp only [turnsLeft, Option.isSome_none, Bool.false_eq_true, if_false]
  omega

/-- A client that opens a stream is told an endpoint that leads to the message box with the token of
its session, and its access code if it gave one. Whenever the session is live, messages that are
posted to that endpoint become an exchange that delivers them to the session alone, as long as the
endpoint and the body can be read. A post with a longer one is turned away for that. -/
theorem endpoint_leads_back {c : Config} {v₀ : Server} {secret code : Option String}
    (hbase : IsPlainPath c.basePath) (hexchanges : v₀.exchanges = []) (hslot : v₀.relaySlot = none)
    (hsite : v₀.site = .ofConfig c) (hcodec : v₀.table.codec = .ofSecret secret)
    (hreaches : Reaches service v₀ v) (hnonce : draw.nonce.length = Gcm.nonceLength)
    (hcode : Url.Form.get? r.query "code" = code)
    (hopened : (v.receive now draw r).1 = .replied (.stream headers number)) :
    ∃ s url, (v.receive now draw r).2.Advertises number v.table.opened.length code s url ∧
      ∀ v', Reaches service (v.receive now draw r).2 v' → v'.Live s.clientId v.table.opened.length →
        ∀ (now : Nat) (draw : Draw) (post : Http.Request), post.method = "POST" →
          post.target = url →
          (¬ post.TargetFits → v'.receive now draw post = replied longTarget v') ∧
          (post.TargetFits → ¬ post.BodyFits → v'.receive now draw post = replied longBody v') ∧
          (post.Fits → ∀ (body : String) (messages : List Rpc.Message),
            Utf8.decode post.body = .ok body → Rpc.Message.ofBody body = .ok messages →
            (v'.receive now draw post).1 = .started v'.nextExchange ∧
              (v'.receive now draw post).2.table = v'.table ∧
              ∀ course, Course.Run service s.clientId v.table.opened.length v'.nextExchange
                  { server := (v'.receive now draw post).2 } course →
                course.Delivers service v.table.opened.length v'.nextExchange messages) := by
  subst hcode
  obtain ⟨hsame, halike⟩ := hreaches.alike
  obtain ⟨s, url, hadvertises, htoken, hline⟩ :=
    advertises_receive hbase (hsame.trans hsite) hopened
  have hopening : Reaches service v (v.receive now draw r).2 := .step (.receive now draw r) .refl
  refine ⟨s, url, hadvertises, fun v' hlater hlive now' draw' post hmethod htarget =>
    ⟨receive_of_long, fun hfits hlong => receive_of_longBody hfits hlong (.inl ?_),
      fun hfits body messages hbody hmessages => ?_⟩⟩
  · obtain ⟨-, hroute, -⟩ := hadvertises.leads post htarget
    rwa [← hmethod, ← hlater.alike.1] at hroute
  have hall := hreaches.trans (hopening.trans hlater)
  have hkept := hopening.alike.2.codec.trans (halike.codec.trans hcodec)
  rw [hadvertises.receive hlater hkept hnonce htoken hmethod htarget hfits hbody hmessages now'
    draw']
  obtain ⟨s', hs', htidy⟩ := hlater.tidy hadvertises.session (.of_empty hline)
  have hsound : Course.Sound ⟨s.clientId, v'.instanceId⟩ v.table.opened.length v'.nextExchange
      messages { server := (v'.start (.post ⟨s.clientId, v'.instanceId⟩) messages).2 } := by
    refine sound_start (hall.orderly hexchanges) (hall.seated (.of_idle hexchanges hslot)) hlive ?_
      (fun s'' hs'' => ?_) messages
    · exact decide_eq_true rfl
    · obtain rfl := Option.some.inj (hs'.symm.trans hs'')
      exact htidy
  exact ⟨rfl, rfl, fun course hrun => (hrun.sound hsound).delivers service⟩

/-! ## An access code with a separator in it -/

/-- An instance below a path. -/
def gateway : Server :=
  { site := .ofConfig { basePath := "/relay/" }, table := { instanceId := "a" } }

def streamGet : Http.Request := { method := "GET", target := "/relay/sse?code=1%262" }

def streamDraw : Draw := ⟨"c", List.replicate 12 0⟩

/-- The instance with an open stream. -/
def streaming : Server := (gateway.receive 0 streamDraw streamGet).2

/-- A ping for the endpoint of the stream. -/
def pingPost : Http.Request where
  method := "POST"
  target := "/relay/message?state=Y3xh&code=1%262"
  body := Utf8.encode (Rpc.Message.request History.ping).wire

/-- The message is put on the queue, and then the exchange is answered. -/
def pingTurns : List (Step Queue.Store) := [.exchange 0 0 {}, .exchange 0 0 {}]

def pinging : Course := { server := (streaming.receive 0 streamDraw pingPost).2 }

def pinged : Course := pingTurns.foldl (Course.next .ofStore 0 0) pinging

/-- The stream that a request is answered with. -/
def stream? : Admission → Option (List (String × String) × Nat)
  | .replied (.stream headers number) => some (headers, number)
  | _ => none

theorem eq_replied {admission : Admission} (h : stream? admission = some (headers, number)) :
    admission = .replied (.stream headers number) := by
  unfold stream? at h
  split at h
  · cases h
    rfl
  · cases h

/-- The endpoint that is read. -/
def endpoint? : Reading → Option String
  | .event (.endpoint url) => some url
  | _ => none

theorem endpoint_leads_back_coded : ∃ messages, messages.length = 1 ∧ pinged.put = messages ∧
    pinged.replies = [.plain accepted] ∧
      pinged.Delivers (σ := Queue.Store) .ofStore 0 0 messages := by
  have hopened : stream? (gateway.receive 0 streamDraw streamGet).1 =
      some (Http.EventStream.headers, 0) := by decide +kernel
  have htold : (streaming.table.session? 0).map (fun s => (s.clientId, endpoint? s.next.1)) =
      some ("c", some pingPost.target) := by decide +kernel
  have hone : ((Utf8.decode pingPost.body).toOption.bind fun body =>
      (Rpc.Message.ofBody body).toOption).map List.length = some 1 := by decide +kernel
  have hnext : streaming.nextExchange = 0 := by decide +kernel
  have hlive : streaming.Live "c" 0 := by decide +kernel
  have hrun : Course.Run .ofStore "c" 0 0 pinging pinged :=
    Course.Run.refl.steps pingTurns (by decide +kernel)
  have hreplies : pinged.replies.length = 1 := by decide +kernel
  obtain ⟨messages, hmessages, hlength⟩ := Option.map_eq_some_iff.1 hone
  obtain ⟨body, hbody, hmessages⟩ := Option.bind_eq_some_iff.1 hmessages
  have hcodec : gateway.table.codec = .ofSecret none := rfl
  have hreaches : Reaches Queue.Service.ofStore gateway gateway := .refl
  have hbase : IsPlainPath "/relay/" := by decide +kernel
  obtain ⟨s, url, hadvertises, hall⟩ := endpoint_leads_back (c := { basePath := "/relay/" })
    hbase rfl rfl rfl hcodec hreaches rfl rfl (eq_replied hopened)
  -- What the client reads first is the target of the post.
  have htarget : s.clientId = "c" ∧ endpoint? s.next.1 = some pingPost.target := by
    rw [show streaming.table.session? 0 = some s from hadvertises.session] at htold
    exact Prod.mk.inj (Option.some.inj htold)
  rw [hadvertises.told] at htarget
  rw [htarget.1] at hall
  obtain ⟨-, -, hread⟩ := hall streaming .refl hlive 0 streamDraw pingPost rfl
    (Option.some.inj htarget.2).symm
  obtain ⟨-, -, hcourse⟩ := hread ⟨by decide +kernel, by decide +kernel⟩ body messages
    (Account.toOption_eq_some hbody) (Account.toOption_eq_some hmessages)
  rw [hnext] at hcourse
  have hdelivers := hcourse pinged hrun
  obtain ⟨hanswered, hput⟩ := hdelivers.replies.resolve_left fun h => by
    rw [h] at hreplies
    cases hreplies
  exact ⟨messages, hlength, hput, hanswered, hdelivers⟩

/-- A message for the endpoint of the stream that is too long to be read. -/
def longPost : Http.Request := pingPost.withBody (Utf8.encode (notice longText).wire)

/-- The session is live and the message well-formed, yet the post is not accepted. -/
theorem long_message_is_turned_away : streaming.Live "c" 0 ∧
    (streaming.table.session? 0).map (fun s => (s.clientId, endpoint? s.next.1)) =
      some ("c", some longPost.target) ∧
    Utf8.decode longPost.body = .ok (notice longText).wire ∧
    Rpc.Message.ofBody (notice longText).wire = .ok [notice longText] ∧
    streaming.receive 0 streamDraw longPost = replied longBody streaming ∧
    longBody.status = 413 := by
  have hlong : Http.bodyLimit < (Utf8.encode (notice longText).wire).length :=
    length_longText.trans_le (length_le_encode_notice longText)
  have htold : (streaming.table.session? 0).map (fun s => (s.clientId, endpoint? s.next.1)) =
      some ("c", some pingPost.target) := by decide +kernel
  exact ⟨by decide +kernel, htold, decode_body _, ofBody_notice longText,
    receive_withBody (by decide +kernel) hlong (.inl (by decide +kernel)), rfl⟩

end Server

end SessionRelay
