import SessionRelay.Layers
import SessionRelay.Proofs.Json.Value
import SessionRelay.Proofs.Registry
import SessionRelay.Proofs.Session.Job

/-!
# What becomes of a request

The version is looked at first, then the parameters, then the registry, and only a request that
passes all three runs a handler: the one of the tool or resource it names, once, on what the request
says (`requests_are_decided`). Tracing layers change none of it (`respond_layers`).
-/

namespace SessionRelay

namespace Activity

variable {α β γ : Type}

theorem map_map (f : α → β) (g : β → γ) : ∀ work : Activity α,
    (work.map f).map g = work.map fun a => g (f a)
  | .done _ => rfl
  | .crash _ => rfl
  | .await event next => congrArg (await event) (map_map f g next)

theorem map_congr {f g : α → β} (h : ∀ a, f a = g a) (work : Activity α) : work.map f = work.map g := by
  rw [funext h]

/-- What the work ends with, unless it crashes. -/
def result? : Activity α → Option α
  | .done a => some a
  | .crash _ => none
  | .await _ next => next.result?

theorem result?_map (f : α → β) : ∀ work : Activity α, (work.map f).result? = work.result?.map f
  | .done _ => rfl
  | .crash _ => rfl
  | .await _ next => result?_map f next

end Activity

namespace Rpc.Request

variable {q : Request}

/-- The parameters that are decoded. Absent ones count as an empty object. -/
def given (q : Request) : Json := q.params.getD (.object [])

/-- The method reads its parameters strictly, and these are not what it takes. -/
def Undecodable (q : Request) : Prop :=
  q.method = "initialize" ∧ (∀ p, Mcp.HandshakeParams.ofJson q.given ≠ .ok p) ∨
  q.method = "tools/call" ∧ (∀ p, Mcp.CallParams.ofJson q.given ≠ .ok p) ∨
  q.method = "resources/read" ∧ ∀ p, Mcp.ReadParams.ofJson q.given ≠ .ok p

def methods : List String :=
  ["initialize", "ping", "tools/list", "tools/call", "resources/list", "resources/read"]

theorem validate_of_version (h : q.version = "2.0") : q.validate = .ok () := if_pos h

theorem validate_of_other_version (h : q.version ≠ "2.0") :
    ∃ e, q.validate = .error e ∧ e.code = -32600 := ⟨_, if_neg h, rfl⟩

end Rpc.Request

/-! ## Decoding -/

namespace Mcp.Operation

variable {q : Rpc.Request}

theorem ofRequest_handshake (h : q.method = "initialize") :
    ofRequest q = (HandshakeParams.ofJson q.given).map .handshake := by
  simp [ofRequest, h, handshakeMethod, Rpc.Request.given]

theorem ofRequest_ping (h : q.method = "ping") : ofRequest q = .ok .ping := by
  simp [ofRequest, h, handshakeMethod]

theorem ofRequest_listTools (h : q.method = "tools/list") :
    ∃ p, ofRequest q = .ok (.listTools p) := by
  simp [ofRequest, h, handshakeMethod]

theorem ofRequest_callTool (h : q.method = "tools/call") :
    ofRequest q = (CallParams.ofJson q.given).map .callTool := by
  simp [ofRequest, h, handshakeMethod, Rpc.Request.given]

theorem ofRequest_listResources (h : q.method = "resources/list") :
    ∃ p, ofRequest q = .ok (.listResources p) := by
  simp [ofRequest, h, handshakeMethod]

theorem ofRequest_readResource (h : q.method = "resources/read") :
    ofRequest q = (ReadParams.ofJson q.given).map .readResource := by
  simp [ofRequest, h, handshakeMethod, Rpc.Request.given]

theorem ofRequest_unknown (h : q.method ∉ Rpc.Request.methods) :
    ofRequest q = .ok (.unknown q.method q.params) := by
  simp only [Rpc.Request.methods, List.mem_cons, List.not_mem_nil, or_false, not_or] at h
  simp [ofRequest, h, handshakeMethod]

theorem ofRequest_of_undecodable (h : q.Undecodable) : ∃ e, ofRequest q = .error e := by
  have hmap : ∀ {α : Type} {x : Except DecodeError α} {f : α → Operation}, (∀ a, x ≠ .ok a) →
      ∃ e, x.map f = .error e := by
    intro α x f hx
    cases x with
    | ok a => exact absurd rfl (hx a)
    | error e => exact ⟨e, rfl⟩
  obtain ⟨hmethod, h⟩ | ⟨hmethod, h⟩ | ⟨hmethod, h⟩ := h
  · rw [ofRequest_handshake hmethod]
    exact hmap h
  · rw [ofRequest_callTool hmethod]
    exact hmap h
  · rw [ofRequest_readResource hmethod]
    exact hmap h

end Mcp.Operation

namespace Router

variable {r : Router} {q : Rpc.Request} {clientId : String} {cancelled : Bool}

theorem respond_of_operation {operation : Mcp.Operation} (hversion : q.version = "2.0")
    (h : Mcp.Operation.ofRequest q = .ok operation) : r.respond clientId cancelled q =
      (r.perform ⟨q.id, clientId, cancelled⟩ operation).map (responseTo q.id) := by
  simp only [respond, Rpc.Request.validate_of_version hversion, h]

/-! ## Layers -/

theorem respond_service (r : Router) (clientId : String) (cancelled : Bool) (q : Rpc.Request) :
    (r.service.respond clientId cancelled q).map Prod.fst = r.respond clientId cancelled q := by
  unfold RequestService.respond respond
  cases q.validate with
  | error e => rfl
  | ok =>
    cases Mcp.Operation.ofRequest q with
    | error e => rfl
    | ok operation =>
      simp only [service, Activity.map_map]
      refine Activity.map_congr (fun result => ?_) _
      cases result <;> rfl

theorem respond_layer (l : TracingLayer) (inner : RequestService) (clientId : String)
    (cancelled : Bool) (q : Rpc.Request) :
    ((l.layer inner).respond clientId cancelled q).map Prod.fst =
      (inner.respond clientId cancelled q).map Prod.fst := by
  unfold RequestService.respond
  cases q.validate with
  | error e => rfl
  | ok =>
    cases Mcp.Operation.ofRequest q with
    | error e => rfl
    | ok operation => simp only [TracingLayer.layer, Activity.map_map]

/-- Any number of tracing layers leaves the responses as they are. -/
theorem respond_layers (r : Router) (clientId : String) (cancelled : Bool) (q : Rpc.Request) :
    ∀ layers : List TracingLayer,
      ((layers.foldr TracingLayer.layer r.service).respond clientId cancelled q).map Prod.fst =
        r.respond clientId cancelled q
  | [] => respond_service r clientId cancelled q
  | l :: layers =>
    (respond_layer l _ clientId cancelled q).trans (respond_layers r clientId cancelled q layers)

/-! ## Requests that run no handler -/

/-- The same router with other handlers. -/
def withHandlers (r : Router) (tools : Tool → ToolHandler) (resources : Resource → ReadHandler) :
    Router :=
  { r with
    registry :=
      { r.registry with
        tools := r.registry.tools.map fun t => { t with handler := tools t }
        resources := r.registry.resources.map fun x => { x with handler := resources x } } }

/-- The request is answered at once with an error, whatever the handlers do. -/
def Refuses (r : Router) (q : Rpc.Request) (e : Rpc.ErrorObject) : Prop :=
  ∀ tools resources clientId cancelled, (r.withHandlers tools resources).respond clientId cancelled q =
    .done (.error (some q.id) e)

/-- The request is answered at once with a result, whatever the handlers do. -/
def Answers (r : Router) (q : Rpc.Request) (result : Json) : Prop :=
  ∀ tools resources clientId cancelled, (r.withHandlers tools resources).respond clientId cancelled q =
    .done (.result q.id result)

variable {tools : Tool → ToolHandler} {resources : Resource → ReadHandler}

theorem withHandlers_self (r : Router) : r.withHandlers Tool.handler Resource.handler = r := by
  simp [withHandlers]

theorem tool?_withHandlers (name : String) : (r.withHandlers tools resources).registry.tool? name =
    (r.registry.tool? name).map fun t => { t with handler := tools t } := by
  simp [withHandlers, Registry.tool?, Index.entryOf?, Option.map_bind]

theorem resource?_withHandlers (uri : String) :
    (r.withHandlers tools resources).registry.resource? uri =
      (r.registry.resource? uri).map fun x => { x with handler := resources x } := by
  simp [withHandlers, Registry.resource?, Index.entryOf?, Option.map_bind]

theorem toolDefinitions_withHandlers : (r.withHandlers tools resources).registry.toolDefinitions =
    r.registry.toolDefinitions := by
  simp [withHandlers, Registry.toolDefinitions, Function.comp_def, Tool.definition]

theorem resourceDefinitions_withHandlers :
    (r.withHandlers tools resources).registry.resourceDefinitions =
      r.registry.resourceDefinitions := by
  simp [withHandlers, Registry.resourceDefinitions, Function.comp_def, Resource.definition]

theorem handshake_withHandlers (p : Mcp.HandshakeParams) :
    (r.withHandlers tools resources).handshake p = r.handshake p := by
  simp [withHandlers, handshake, Registry.hasTools, Registry.hasResources]

/-- A handler that the request may run crashes on it. -/
def MayCrash (r : Router) (q : Rpc.Request) (clientId : String) (cancelled : Bool) : Prop :=
  (∃ t ∈ r.registry.tools, ∃ arguments,
    (t.handler ⟨q.id, clientId, cancelled⟩ arguments).result? = none) ∨
  ∃ x ∈ r.registry.resources, (x.handler ⟨x.uri, clientId⟩).result? = none

/-- What becomes of a request, by what is wrong with it first. -/
structure Decisions (r : Router) (q : Rpc.Request) : Prop where
  own_id : ∀ clientId cancelled,
    (r.respond clientId cancelled q).All fun response => response.id? = some q.id
  one_response : ∀ clientId cancelled, ¬ r.MayCrash q clientId cancelled →
    ∃ response, (r.respond clientId cancelled q).result? = some response
  version : q.version ≠ "2.0" → ∃ e, e.code = -32600 ∧ r.Refuses q e
  params : q.version = "2.0" → q.Undecodable → ∃ e, e.code = -32602 ∧ r.Refuses q e
  method : q.version = "2.0" → q.method ∉ Rpc.Request.methods →
    ∃ e, e.code = -32601 ∧ r.Refuses q e
  tool : q.version = "2.0" → q.method = "tools/call" →
    ∀ p, Mcp.CallParams.ofJson q.given = .ok p →
      (∀ t ∈ r.registry.tools, ToolName.key t.name ≠ ToolName.key p.name) →
        ∃ e, e.code = -32601 ∧ r.Refuses q e
  resource : q.version = "2.0" → q.method = "resources/read" →
    ∀ p, Mcp.ReadParams.ofJson q.given = .ok p → (∀ x ∈ r.registry.resources, x.uri ≠ p.uri) →
      ∃ e, e.code = -32601 ∧ e.data = some (.object [("uri", .string p.uri)]) ∧ r.Refuses q e
  handshake : q.version = "2.0" → q.method = "initialize" →
    ∀ p, Mcp.HandshakeParams.ofJson q.given = .ok p →
      r.Answers q (r.handshake p).toJson.canonical
  ping : q.version = "2.0" → q.method = "ping" → r.Answers q (.object [])
  toolList : q.version = "2.0" → q.method = "tools/list" →
    r.Answers q (Json.canonical (.object
      [("tools", .array (r.registry.toolDefinitions.map Mcp.ToolDefinition.toJson))]))
  resourceList : q.version = "2.0" → q.method = "resources/list" →
    r.Answers q (Json.canonical (.object
      [("resources", .array (r.registry.resourceDefinitions.map Mcp.ResourceDefinition.toJson))]))
  call : q.version = "2.0" → q.method = "tools/call" →
    ∀ p, Mcp.CallParams.ofJson q.given = .ok p →
      ∀ t ∈ r.registry.tools, ToolName.key t.name = ToolName.key p.name →
        (∀ s ∈ r.registry.tools, ToolName.key s.name = ToolName.key p.name → s = t) ∧
        ∀ clientId cancelled, r.respond clientId cancelled q =
          (t.handler ⟨q.id, clientId, cancelled⟩ p.arguments).map fun output =>
            responseTo q.id (output.map fun o => o.toResult.toJson)
  read : q.version = "2.0" → q.method = "resources/read" →
    ∀ p, Mcp.ReadParams.ofJson q.given = .ok p → ∀ x ∈ r.registry.resources, x.uri = p.uri →
      (∀ y ∈ r.registry.resources, y.uri = p.uri → y = x) ∧
      ∀ clientId cancelled, r.respond clientId cancelled q =
        (x.handler ⟨p.uri, clientId⟩).map fun output =>
          responseTo q.id (output.map fun o => (x.toResult o).toJson)

theorem result?_perform (h : r.registry.Sound) (operation : Mcp.Operation)
    (hcrash : ¬ r.MayCrash q clientId cancelled) :
    ∃ result, (r.perform ⟨q.id, clientId, cancelled⟩ operation).result? = some result := by
  obtain ⟨htools, hresources⟩ := not_or.1 hcrash
  cases operation with
  | handshake | ping | listTools | listResources | unknown => exact ⟨_, rfl⟩
  | callTool p =>
    simp only [perform]
    cases hfound : r.registry.tool? p.name with
    | none => exact ⟨_, rfl⟩
    | some t =>
      have hmem := (h.tool?_eq_some_iff.1 hfound).1
      have hends : (t.handler ⟨q.id, clientId, cancelled⟩ p.arguments).result? ≠ none :=
        fun hnone => htools ⟨t, hmem, _, hnone⟩
      obtain ⟨output, houtput⟩ := Option.ne_none_iff_exists'.1 hends
      simp only [Tool.call, Activity.result?_map, houtput, Option.map_some]
      exact ⟨_, rfl⟩
  | readResource p =>
    simp only [perform]
    cases hfound : r.registry.resource? p.uri with
    | none => exact ⟨_, rfl⟩
    | some x =>
      have hmem := (h.resource?_eq_some_iff.1 hfound).1
      have hends : (x.handler ⟨x.uri, clientId⟩).result? ≠ none :=
        fun hnone => hresources ⟨x, hmem, hnone⟩
      obtain ⟨output, houtput⟩ := Option.ne_none_iff_exists'.1 hends
      simp only [Resource.read, Activity.result?_map, houtput, Option.map_some]
      exact ⟨_, rfl⟩

theorem decisions (h : r.registry.Sound) (q : Rpc.Request) : r.Decisions q where
  own_id clientId cancelled := r.respond_all clientId cancelled q
  one_response clientId cancelled hcrash := by
    unfold respond
    cases q.validate with
    | error e => exact ⟨_, rfl⟩
    | ok =>
      cases Mcp.Operation.ofRequest q with
      | error e => exact ⟨_, rfl⟩
      | ok operation =>
        obtain ⟨result, hresult⟩ := result?_perform h operation hcrash
        exact ⟨_, by rw [Activity.result?_map, hresult]; rfl⟩
  version hversion := by
    obtain ⟨e, he, hcode⟩ := Rpc.Request.validate_of_other_version hversion
    exact ⟨e, hcode, fun _ _ _ _ => by simp only [respond, he]⟩
  params hversion hparams := by
    obtain ⟨e, he⟩ := Mcp.Operation.ofRequest_of_undecodable hparams
    refine ⟨.invalidParams (Fault.decoding e).message, rfl, fun _ _ _ _ => ?_⟩
    simp only [respond, Rpc.Request.validate_of_version hversion, he]
  method hversion hmethod := by
    refine ⟨.methodNotFound q.method, rfl, fun _ _ _ _ => ?_⟩
    rw [respond_of_operation hversion (Mcp.Operation.ofRequest_unknown hmethod)]
    rfl
  tool hversion hmethod p hp hnone := by
    have hop := Mcp.Operation.ofRequest_callTool hmethod
    rw [hp] at hop
    have hmissing : r.registry.tool? p.name = none := by
      refine Option.eq_none_iff_forall_ne_some.2 fun t ht => ?_
      obtain ⟨hmem, hkey⟩ := h.tool?_eq_some_iff.1 ht
      exact hnone t hmem hkey
    refine ⟨.toolNotFound p.name, rfl, fun tools resources clientId cancelled => ?_⟩
    rw [respond_of_operation hversion hop, perform, tool?_withHandlers, hmissing]
    rfl
  resource hversion hmethod p hp hnone := by
    have hop := Mcp.Operation.ofRequest_readResource hmethod
    rw [hp] at hop
    have hmissing : r.registry.resource? p.uri = none := by
      refine Option.eq_none_iff_forall_ne_some.2 fun x hx => ?_
      obtain ⟨hmem, huri⟩ := h.resource?_eq_some_iff.1 hx
      exact hnone x hmem huri
    refine ⟨.resourceNotFound p.uri, rfl, rfl, fun tools resources clientId cancelled => ?_⟩
    rw [respond_of_operation hversion hop, perform, resource?_withHandlers, hmissing]
    rfl
  handshake hversion hmethod p hp tools resources clientId cancelled := by
    have hop := Mcp.Operation.ofRequest_handshake hmethod
    rw [hp] at hop
    rw [respond_of_operation hversion hop, perform, handshake_withHandlers]
    rfl
  ping hversion hmethod tools resources clientId cancelled := by
    rw [respond_of_operation hversion (Mcp.Operation.ofRequest_ping hmethod)]
    rfl
  toolList hversion hmethod tools resources clientId cancelled := by
    obtain ⟨p, hop⟩ := Mcp.Operation.ofRequest_listTools hmethod
    rw [respond_of_operation hversion hop, perform, toolDefinitions_withHandlers]
    rfl
  resourceList hversion hmethod tools resources clientId cancelled := by
    obtain ⟨p, hop⟩ := Mcp.Operation.ofRequest_listResources hmethod
    rw [respond_of_operation hversion hop, perform, resourceDefinitions_withHandlers]
    rfl
  call hversion hmethod p hp t ht hkey := by
    have hop := Mcp.Operation.ofRequest_callTool hmethod
    rw [hp] at hop
    have hfound := h.tool?_eq_some_iff.2 ⟨ht, hkey⟩
    refine ⟨fun s hs hsame => ?_, fun clientId cancelled => ?_⟩
    · rw [h.tool?_eq_some_iff.2 ⟨hs, hsame⟩] at hfound
      exact Option.some.inj hfound
    · rw [respond_of_operation hversion hop, perform, hfound]
      simp only [Tool.call, Activity.map_map]
      refine Activity.map_congr (fun output => ?_) _
      cases output <;> rfl
  read hversion hmethod p hp x hx huri := by
    have hop := Mcp.Operation.ofRequest_readResource hmethod
    rw [hp] at hop
    have hfound := h.resource?_eq_some_iff.2 ⟨hx, huri⟩
    refine ⟨fun y hy hsame => ?_, fun clientId cancelled => ?_⟩
    · rw [h.resource?_eq_some_iff.2 ⟨hy, hsame⟩] at hfound
      exact Option.some.inj hfound
    · rw [respond_of_operation hversion hop, perform, hfound]
      simp only [Resource.read, Activity.map_map, huri]
      refine Activity.map_congr (fun output => ?_) _
      cases output <;> rfl

theorem content_canonical (result : Mcp.CallResult) :
    result.toJson.canonical.member? "content" =
      some (.array (result.content.map fun block => block.toJson.canonical)) := by
  obtain ⟨content, isError, structured⟩ := result
  have hitems : Json.canonicalItems (content.map Mcp.Content.toJson) =
      content.map fun block => block.toJson.canonical := by
    rw [Json.canonicalItems_eq_map, List.map_map]
    rfl
  rw [← hitems]
  cases isError <;> cases structured <;> rfl

theorem contents_canonical (result : Mcp.ReadResult) :
    result.toJson.canonical.member? "contents" =
      some (.array (result.contents.map fun item => item.toJson.canonical)) := by
  have hitems : Json.canonicalItems (result.contents.map Mcp.ResourceContent.toJson) =
      result.contents.map fun item => item.toJson.canonical := by
    rw [Json.canonicalItems_eq_map, List.map_map]
    rfl
  rw [← hitems]
  rfl

/-- Every request to a router whose registry was filled by registrations is decided in this order,
under any tracing layers. What a tool puts out is told block by block, and so is what a resource
reads. -/
theorem requests_are_decided (r : Router) (calls : List Registration)
    (hmade : r.registry = calls.foldl Registry.after .empty) (q : Rpc.Request) :
    r.Decisions q ∧ r.withHandlers Tool.handler Resource.handler = r ∧
    (∀ (layers : List TracingLayer) (clientId : String) (cancelled : Bool),
      ((layers.foldr TracingLayer.layer r.service).respond clientId cancelled q).map Prod.fst =
        r.respond clientId cancelled q) ∧
    (∀ output : ToolOutput, output.toResult.toJson.canonical.member? "content" =
      some (.array (output.toResult.content.map fun block => block.toJson.canonical))) ∧
    (∀ blocks, (ToolOutput.contents blocks).toResult.content = blocks) ∧
    ∀ (x : Resource) (output : ResourceOutput), (x.toResult output).toJson.canonical.member?
      "contents" = some (.array ((x.toResult output).contents.map fun item => item.toJson.canonical)) :=
  ⟨decisions (hmade ▸ Registry.sound_foldl calls) q, withHandlers_self r,
    fun layers clientId cancelled => respond_layers r clientId cancelled q layers,
    fun output => content_canonical output.toResult, fun _ => rfl,
    fun x output => contents_canonical (x.toResult output)⟩

/-- A router with a tool that puts out its arguments. -/
def echoing : Router where
  registry := Registry.empty.after
    (.tool { name := "Echo", handler := fun _ arguments => .done (.ok (.json arguments)) })

def echoCall : Rpc.Request where
  id := .number 1
  method := "tools/call"
  params := some (.object [("arguments", .object []), ("name", .string "ECHO")])

def strayRead : Rpc.Request where
  id := .number 2
  method := "resources/read"
  params := some (.object [("uri", .string "u:")])

theorem requests_are_decided_echo :
    (∃ e, e.code = -32600 ∧ echoing.Refuses { echoCall with version := "1.0" } e) ∧
    (∃ e, e.code = -32602 ∧ echoing.Refuses { echoCall with params := none } e) ∧
    (∃ e, e.code = -32601 ∧ echoing.Refuses strayRead e) ∧
    echoing.respond "c" false echoCall =
      .done (responseTo (.number 1) (.ok (ToolOutput.json (.object [])).toResult.toJson)) := by
  have hdecided := fun q => (requests_are_decided echoing [.tool _] rfl q).1
  refine ⟨(hdecided _).version (by decide), (hdecided _).params rfl (.inr (.inl ⟨rfl, nofun⟩)),
    ?_, ?_⟩
  · obtain ⟨e, hcode, -, hrefused⟩ := (hdecided strayRead).resource rfl rfl ⟨"u:"⟩ rfl nofun
    exact ⟨e, hcode, hrefused⟩
  · have hkey : ToolName.key "Echo" = ToolName.key "ECHO" := by decide +kernel
    obtain ⟨-, hrun⟩ := (hdecided echoCall).call rfl rfl ⟨"ECHO", .object [], none⟩ rfl _
      List.mem_cons_self hkey
    exact hrun "c" false

end Router

end SessionRelay
