import SessionRelay.Proofs.Router

/-!
# What the failure of a handler is told as

A handler that fails with anything but a JSON-RPC error is answered for in its own words, as an
internal error (`failures_are_told`). The exception is a value that does not decode: it gets the
code of parameters that do not decode, although those are refused before any handler runs, and typed
arguments before the work of the tool begins (`typed_fails`).
-/

namespace SessionRelay

namespace Fault

/-- No JSON-RPC error, which is told as it is. -/
def IsPlain (f : Fault) : Prop := ∀ e, f ≠ .rpc e

def isDecoding : Fault → Bool
  | .decoding _ => true
  | _ => false

/-- What whoever raised a fault says of it. -/
def texts : Fault → List String
  | .rpc e => [e.message]
  | .decoding e => [e.message]
  | .invalidUri uri reason => [uri, reason]
  | .tool s | .resource s | .duplicateTool s | .duplicateResource s | .invalidToolName s
  | .clientState s | .sessionNotFound s | .backplane s | .transport s | .config s
  | .internal s => [s]

variable {f : Fault} {s : String}

/-- A message has every text of its fault in it. -/
theorem texts_infix_message (hplain : f.IsPlain) (hs : s ∈ f.texts) :
    s.toList <:+: f.message.toList := by
  have between : ∀ before after : String, s.toList <:+: (before ++ s ++ after).toList :=
    fun before after => ⟨before.toList, after.toList, by simp⟩
  have last : ∀ before : String, s.toList <:+: (before ++ s).toList :=
    fun before => ⟨before.toList, [], by simp⟩
  cases f with
  | rpc e => exact absurd rfl (hplain e)
  | invalidUri uri reason =>
    obtain rfl | rfl : s = uri ∨ s = reason := by simpa [texts] using hs
    · have hfront : ("Invalid resource URI '" ++ s ++ "': ").toList <+:
          (invalidUri s reason).message.toList := ⟨reason.toList, String.toList_append.symm⟩
      exact (between _ _).trans hfront.isInfix
    · exact last _
  | duplicateTool _ | duplicateResource _ | sessionNotFound _ =>
    obtain rfl := List.mem_singleton.1 hs
    exact between _ _
  | decoding _ | tool _ | resource _ | invalidToolName _ | clientState _ | backplane _
  | transport _ | config _ | internal _ =>
    obtain rfl := List.mem_singleton.1 hs
    exact last _

theorem texts_infix_toRpc (hplain : f.IsPlain) (hs : s ∈ f.texts) :
    s.toList <:+: f.toRpc.message.toList := by
  cases f with
  | rpc e => exact absurd rfl (hplain e)
  | decoding _ | tool _ | resource _ =>
    obtain rfl := List.mem_singleton.1 hs
    exact List.infix_rfl
  | _ => exact texts_infix_message hplain hs

theorem code_toRpc (hplain : f.IsPlain) :
    f.toRpc.code = if f.isDecoding then -32602 else -32603 := by
  cases f with
  | rpc e => exact absurd rfl (hplain e)
  | _ => rfl

end Fault

/-- What fails in a typed tool, other than with a JSON-RPC error, is its own work on arguments that
were accepted. -/
theorem ToolHandler.typed_fails {α : Type} {decoder : Decoder α}
    {work : ToolContext → α → Activity (Except Fault ToolOutput)} {context : ToolContext}
    {arguments : Json} {f : Fault} (hplain : f.IsPlain)
    (h : (ToolHandler.typed decoder work context arguments).result? = some (.error f)) :
    ∃ input, decodeArguments decoder arguments = .ok input ∧
      (work context input).result? = some (.error f) := by
  unfold ToolHandler.typed at h
  cases hgiven : decodeArguments decoder arguments with
  | ok input =>
    rw [hgiven] at h
    exact ⟨input, rfl, h⟩
  | error fault =>
    rw [hgiven] at h
    obtain rfl : fault = f := by simpa [Activity.result?] using h
    unfold decodeArguments at hgiven
    cases hdecoded : decoder (if arguments.isNull then .object [] else arguments) with
    | ok input => simp [hdecoded, Except.mapError] at hgiven
    | error e =>
      have hrpc : Fault.rpc (.invalidParams ("Invalid input: " ++ e.message)) = fault := by
        simpa [hdecoded, Except.mapError] using hgiven
      exact absurd hrpc.symm (hplain _)

namespace Router

variable {r : Router} {q : Rpc.Request} {clientId : String} {cancelled : Bool} {f : Fault}

/-- The request names a tool or a resource of the router, and its handler fails. -/
inductive Fails (r : Router) (q : Rpc.Request) (clientId : String) (cancelled : Bool) (f : Fault) :
    Prop
  | call (t : Tool) (p : Mcp.CallParams) (registered : t ∈ r.registry.tools)
    (method : q.method = "tools/call") (params : Mcp.CallParams.ofJson q.given = .ok p)
    (named : ToolName.key t.name = ToolName.key p.name)
    (failed : (t.handler ⟨q.id, clientId, cancelled⟩ p.arguments).result? = some (.error f))
  | read (x : Resource) (p : Mcp.ReadParams) (registered : x ∈ r.registry.resources)
    (method : q.method = "resources/read") (params : Mcp.ReadParams.ofJson q.given = .ok p)
    (named : x.uri = p.uri)
    (failed : (x.handler ⟨p.uri, clientId⟩).result? = some (.error f))

theorem Fails.result?_respond (hsound : r.registry.Sound) (hversion : q.version = "2.0")
    (h : r.Fails q clientId cancelled f) :
    (r.respond clientId cancelled q).result? = some (.error (some q.id) f.toRpc) := by
  cases h with
  | call t p registered method params named failed =>
    obtain ⟨-, hrun⟩ := (decisions hsound q).call hversion method p params t registered named
    rw [hrun, Activity.result?_map, failed]
    rfl
  | read x p registered method params named failed =>
    obtain ⟨-, hrun⟩ := (decisions hsound q).read hversion method p params x registered named
    rw [hrun, Activity.result?_map, failed]
    rfl

/-- A call or a read whose handler fails, other than with a JSON-RPC error, is answered under its id
with an error that has the handler's own texts in its message. It is an internal error, unless the
handler failed on a value that does not decode: then it has the code of invalid parameters. -/
theorem failures_are_told (r : Router) (calls : List Registration)
    (hmade : r.registry = calls.foldl Registry.after .empty) (layers : List TracingLayer)
    (q : Rpc.Request) (hversion : q.version = "2.0") (clientId : String) (cancelled : Bool)
    (f : Fault) (hplain : f.IsPlain) (hfails : r.Fails q clientId cancelled f) :
    ∃ e : Rpc.ErrorObject,
      (((layers.foldr TracingLayer.layer r.service).respond clientId cancelled q).map
        Prod.fst).result? = some (.error (some q.id) e) ∧
      (∀ s ∈ f.texts, s.toList <:+: e.message.toList) ∧
      e.code = if f.isDecoding then -32602 else -32603 := by
  refine ⟨f.toRpc, ?_, fun s hs => Fault.texts_infix_toRpc hplain hs, Fault.code_toRpc hplain⟩
  rw [respond_layers]
  exact hfails.result?_respond (hmade ▸ Registry.sound_foldl calls) hversion

/-- A router with a tool that takes no arguments and fails in this way. -/
def failing (f : Fault) : Router where
  registry := Registry.empty.after (.tool
    { name := "load", handler := .typed noArguments fun _ () => .done (.error f) })

def loadCall : Rpc.Request where
  id := .number 1
  method := "tools/call"
  params := some (.object [("name", .string "load")])

theorem fails_load (f : Fault) : (failing f).Fails loadCall "c" false f :=
  .call _ ⟨"load", .null, none⟩ List.mem_cons_self rfl rfl rfl rfl

theorem failures_are_told_disk : ∃ e : Rpc.ErrorObject,
    (((failing (.tool "disk on fire")).service.respond "c" false loadCall).map Prod.fst).result? =
      some (.error (some (.number 1)) e) ∧
    "disk on fire".toList <:+: e.message.toList ∧ e.code = -32603 := by
  obtain ⟨e, hanswer, htexts, hcode⟩ := failures_are_told (failing (.tool "disk on fire")) [.tool _]
    rfl [] loadCall rfl "c" false (.tool "disk on fire") nofun (fails_load _)
  exact ⟨e, hanswer, htexts _ List.mem_cons_self, hcode⟩

/-- A tool that has accepted its arguments and then comes upon a value that does not decode is told
as if its parameters were invalid. -/
theorem own_decoding_blamed_on_parameters :
    decodeArguments noArguments .null = .ok () ∧
    (failing (.decoding (.missingField "b"))).Fails loadCall "c" false
      (.decoding (.missingField "b")) ∧
    (Fault.decoding (.missingField "b")).IsPlain ∧
    (failing (.decoding (.missingField "b"))).respond "c" false loadCall =
      .done (.error (some (.number 1)) (.invalidParams "missing field `b`")) ∧
    (Rpc.ErrorObject.invalidParams "missing field `b`").code ≠ -32603 :=
  ⟨rfl, fails_load _, nofun, rfl, by decide⟩

end Router

end SessionRelay
