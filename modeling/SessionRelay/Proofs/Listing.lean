import SessionRelay.Proofs.Router

/-!
# What is listed can be called

A registration fails exactly if an earlier one of the same name, up to case, or of the same URI
succeeded, and the lists show those that succeeded in order. A lookup finds the one listed entry it
names, so whatever a client is shown it can call or read, and a handshake declares the lists that
are not empty (`listing_and_calling_agree`).
-/

namespace SessionRelay

variable {ends : Text.WordEnd}

/-! ## Names -/

theorem ToolName.isAscii_of_check {name : String} (h : ToolName.check name = .ok ()) :
    Text.IsAscii name.toList := by
  unfold ToolName.check at h
  split_ifs at h
  cases hbad : name.toList.find? fun c => !ToolName.allowed c with
  | some c =>
    rw [hbad] at h
    cases h
  | none =>
    intro c hc
    have hallowed : ToolName.allowed c = true := by
      simpa using List.find?_eq_none.1 hbad c hc
    simp only [ToolName.allowed, Bool.or_eq_true, beq_iff_eq] at hallowed
    rcases hallowed with ((h | rfl) | rfl) | rfl
    · exact Text.toNat_lt_of_isAlphanum h
    · decide
    · decide
    · decide

theorem Tool.isAscii_of_checked {t : Tool} (h : t.checked = .ok t) :
    Text.IsAscii t.name.toList := by
  unfold Tool.checked at h
  cases hname : ToolName.check t.name with
  | ok => exact ToolName.isAscii_of_check hname
  | error e =>
    rw [hname] at h
    cases h

/-- The name of a tool that was checked is found under the same names whatever ends words. -/
theorem ToolName.key_eq_iff {name other : String} (h : Text.IsAscii name.toList) :
    ToolName.key name = ToolName.key other ↔
      Text.lowercase ends name = Text.lowercase ends other := by
  rw [eq_comm, ToolName.key, ToolName.key, Text.lowercase_eq_iff h, eq_comm]

/-! ## Registrations -/

namespace Registry

variable {r : Registry} {calls : List Registration} {c : Registration}

theorem mem_of_mem_succeeded : ∀ {calls : List Registration} {r : Registry},
    c ∈ r.succeeded calls → c ∈ calls
  | [], _, h => by cases h
  | d :: calls, r, h => by
    unfold succeeded at h
    split at h
    · exact (List.mem_cons.1 h).elim (fun hd => hd ▸ List.mem_cons_self)
        fun hrest => List.mem_cons_of_mem d (mem_of_mem_succeeded hrest)
    · exact List.mem_cons_of_mem d (mem_of_mem_succeeded h)

/-- What is listed after calls, each of something that was checked. -/
structure Shows (r : Registry) (listed : List Registration) : Prop where
  sound : r.Sound
  valid : ∀ c ∈ listed, c.Valid
  tools : r.tools = listed.filterMap Registration.tool?
  resources : r.resources = listed.filterMap Registration.resource?

theorem shows_foldl (hvalid : ∀ c ∈ calls, c.Valid) :
    (calls.foldl after empty).Shows (empty.succeeded calls) := by
  obtain ⟨hsound, htools, hresources⟩ := foldl_after calls sound_empty
  exact ⟨hsound, fun c hc => hvalid c (mem_of_mem_succeeded hc), htools, hresources⟩

namespace Shows

variable {listed : List Registration} (h : r.Shows listed)
include h

theorem mem_tools {t : Tool} : t ∈ r.tools ↔ .tool t ∈ listed := by
  rw [h.tools, List.mem_filterMap]
  constructor
  · rintro ⟨c, hc, hct⟩
    cases c <;> cases hct
    exact hc
  · exact fun ht => ⟨_, ht, rfl⟩

theorem mem_resources {x : Resource} : x ∈ r.resources ↔ .resource x ∈ listed := by
  rw [h.resources, List.mem_filterMap]
  constructor
  · rintro ⟨c, hc, hcx⟩
    cases c <;> cases hcx
    exact hc
  · exact fun hx => ⟨_, hx, rfl⟩

theorem isAscii {t : Tool} (ht : .tool t ∈ listed) : Text.IsAscii t.name.toList :=
  Tool.isAscii_of_checked (h.valid _ ht)

/-- A call fails exactly if something listed is in its way. -/
theorem make_eq_error_iff (c : Registration) :
    (∃ e, c.make r = .error e) ↔ ∃ earlier ∈ listed, earlier.Clashes ends c := by
  have hlists : r.Lists c ↔ ∃ earlier ∈ listed, earlier.Clashes ends c := by
    cases c with
    | tool t =>
      constructor
      · rintro ⟨s, hs, hkey⟩
        have hs := h.mem_tools.1 hs
        exact ⟨_, hs, (ToolName.key_eq_iff (h.isAscii hs)).1 hkey⟩
      · rintro ⟨earlier, hearlier, hclash⟩
        cases earlier with
        | tool s =>
          exact ⟨s, h.mem_tools.2 hearlier, (ToolName.key_eq_iff (h.isAscii hearlier)).2 hclash⟩
        | resource => exact hclash.elim
    | resource x =>
      constructor
      · rintro ⟨y, hy, huri⟩
        exact ⟨_, h.mem_resources.1 hy, huri⟩
      · rintro ⟨earlier, hearlier, hclash⟩
        cases earlier with
        | tool => exact hclash.elim
        | resource y => exact ⟨y, h.mem_resources.2 hearlier, hclash⟩
  rw [← hlists]
  obtain ⟨hmake, hlisted⟩ | ⟨r', hmake, -, hnew⟩ := make_cases h.sound c
  · exact ⟨fun _ => hlisted, fun _ => ⟨_, hmake⟩⟩
  · refine ⟨?_, fun hlisted => absurd hlisted hnew⟩
    rintro ⟨e, herror⟩
    rw [hmake] at herror
    cases herror

theorem tool?_eq_some_iff {name : String} {t : Tool} : r.tool? name = some t ↔
    .tool t ∈ listed ∧ Text.lowercase ends t.name = Text.lowercase ends name := by
  rw [h.sound.tool?_eq_some_iff, h.mem_tools]
  exact and_congr_right fun ht => ToolName.key_eq_iff (h.isAscii ht)

theorem resource?_eq_some_iff {uri : String} {x : Resource} :
    r.resource? uri = some x ↔ .resource x ∈ listed ∧ x.uri = uri := by
  rw [h.sound.resource?_eq_some_iff, h.mem_resources]

theorem pairwise : listed.Pairwise fun c d => ¬ c.Clashes ends d := by
  have htools := h.sound.tools.distinct
  have hresources := h.sound.resources.distinct
  rw [h.tools, List.Nodup, List.pairwise_map, List.pairwise_filterMap] at htools
  rw [h.resources, List.Nodup, List.pairwise_map, List.pairwise_filterMap] at hresources
  refine (htools.and hresources).imp_of_mem fun {c d} hc hd hboth hclash => ?_
  cases c with
  | tool s =>
    cases d with
    | tool t => exact hboth.1 s rfl t rfl ((ToolName.key_eq_iff (h.isAscii hc)).2 hclash)
    | resource => exact hclash
  | resource x =>
    cases d with
    | tool => exact hclash
    | resource y => exact hboth.2 x rfl y rfl hclash

end Shows

end Registry

/-! ## What a client is shown -/

theorem Mcp.ToolDefinition.name_canonical (d : Mcp.ToolDefinition) :
    d.toJson.canonical.member? "name" = some (.string d.name) := by
  obtain ⟨name, description, input, output, extra⟩ := d
  cases description <;> cases output <;> cases extra <;> rfl

theorem Mcp.ResourceDefinition.uri_canonical (d : Mcp.ResourceDefinition) :
    d.toJson.canonical.member? "uri" = some (.string d.uri) := by
  obtain ⟨uri, name, description, mimeType, size, extra⟩ := d
  cases description <;> cases mimeType <;> cases size <;> cases extra <;> rfl

theorem canonical_listing {α : Type} (key : String) (write : α → Json) (entries : List α) :
    (Json.object [(key, .array (entries.map write))]).canonical =
      .object [(key, .array (entries.map fun a => (write a).canonical))] := by
  have hitems : Json.canonicalItems (entries.map write) =
      entries.map fun a => (write a).canonical := by
    rw [Json.canonicalItems_eq_map, List.map_map]
    rfl
  rw [← hitems]
  rfl

namespace Mcp.HandshakeResult

theorem capabilities_canonical (r : HandshakeResult) :
    r.toJson.canonical.member? "capabilities" = some r.capabilities.canonical := by
  obtain ⟨version, hasTools, hasResources, info, instructions⟩ := r
  cases instructions <;> rfl

theorem declares_tools (r : HandshakeResult) :
    (r.capabilities.canonical.member? "tools").isSome = r.hasTools := by
  obtain ⟨version, hasTools, hasResources, info, instructions⟩ := r
  cases hasTools <;> cases hasResources <;> rfl

theorem declares_resources (r : HandshakeResult) :
    (r.capabilities.canonical.member? "resources").isSome = r.hasResources := by
  obtain ⟨version, hasTools, hasResources, info, instructions⟩ := r
  cases hasTools <;> cases hasResources <;> rfl

end Mcp.HandshakeResult

namespace Router

variable {r : Router} {q : Rpc.Request} {result : Json} {t : Tool} {x : Resource}

/-- A call of a name runs a tool, on what the request says. -/
def Calls (r : Router) (name : String) (t : Tool) : Prop :=
  ∀ (q : Rpc.Request) p clientId cancelled, q.version = "2.0" → q.method = "tools/call" →
    Mcp.CallParams.ofJson q.given = .ok p → p.name = name →
      r.respond clientId cancelled q =
        (t.handler ⟨q.id, clientId, cancelled⟩ p.arguments).map fun output =>
          responseTo q.id (output.map fun o => o.toResult.toJson)

/-- A read of a URI reads a resource. -/
def Reads (r : Router) (uri : String) (x : Resource) : Prop :=
  ∀ (q : Rpc.Request) p clientId cancelled, q.version = "2.0" → q.method = "resources/read" →
    Mcp.ReadParams.ofJson q.given = .ok p → p.uri = uri →
      r.respond clientId cancelled q = (x.handler ⟨uri, clientId⟩).map fun output =>
        responseTo q.id (output.map fun o => (x.toResult o).toJson)

theorem Answers.respond (h : r.Answers q result) (clientId : String) (cancelled : Bool) :
    r.respond clientId cancelled q = .done (.result q.id result) := by
  have hself := h Tool.handler Resource.handler clientId cancelled
  rwa [withHandlers_self] at hself

theorem calls_of_mem (h : r.registry.Sound) (ht : t ∈ r.registry.tools) : r.Calls t.name t :=
  fun q p clientId cancelled hversion hmethod hp hname =>
    ((decisions h q).call hversion hmethod p hp t ht (by rw [hname])).2 clientId cancelled

theorem reads_of_mem (h : r.registry.Sound) (hx : x ∈ r.registry.resources) : r.Reads x.uri x :=
  fun q p clientId cancelled hversion hmethod hp huri =>
    huri ▸ ((decisions h q).read hversion hmethod p hp x hx huri.symm).2 clientId cancelled

/-- In a registry filled by registrations of checked tools and resources: a registration fails, and
leaves the registry as it is, exactly if an earlier one that succeeded is in its way; the lists show
those that succeeded, in order, no two with one name or URI; and lookups, calls and reads find them.
Names are compared in lower case, wherever words are held to end. -/
theorem listing_and_calling_agree (ends : Text.WordEnd) (router : Router)
    (calls : List Registration) (hvalid : ∀ c ∈ calls, c.Valid)
    (hmade : router.registry = calls.foldl Registry.after .empty) :
    let r := router.registry
    let listed := Registry.empty.succeeded calls
    (∀ c : Registration,
      ((∃ e, c.make r = .error e) ↔ ∃ earlier ∈ listed, earlier.Clashes ends c) ∧
        ((∃ e, c.make r = .error e) → r.after c = r)) ∧
    r.toolDefinitions = (listed.filterMap Registration.tool?).map Tool.definition ∧
    r.resourceDefinitions = (listed.filterMap Registration.resource?).map Resource.definition ∧
    listed.Pairwise (fun c d => ¬ c.Clashes ends d) ∧
    (∀ name t, r.tool? name = some t ↔
      .tool t ∈ listed ∧ Text.lowercase ends t.name = Text.lowercase ends name) ∧
    (∀ uri x, r.resource? uri = some x ↔ .resource x ∈ listed ∧ x.uri = uri) ∧
    (∀ (q : Rpc.Request) clientId cancelled, q.version = "2.0" → q.method = "tools/list" →
      router.respond clientId cancelled q = .done (.result q.id (.object [("tools", .array
        ((listed.filterMap Registration.tool?).map fun t => t.definition.toJson.canonical))]))) ∧
    (∀ t, .tool t ∈ listed →
      t.definition.toJson.canonical.member? "name" = some (.string t.name) ∧
        router.Calls t.name t) ∧
    (∀ (q : Rpc.Request) clientId cancelled, q.version = "2.0" → q.method = "resources/list" →
      router.respond clientId cancelled q = .done (.result q.id (.object [("resources", .array
        ((listed.filterMap Registration.resource?).map fun x =>
          x.definition.toJson.canonical))]))) ∧
    (∀ x, .resource x ∈ listed →
      x.definition.toJson.canonical.member? "uri" = some (.string x.uri) ∧
        router.Reads x.uri x) ∧
    ∀ (q : Rpc.Request) p clientId cancelled, q.version = "2.0" → q.method = "initialize" →
      Mcp.HandshakeParams.ofJson q.given = .ok p → ∃ result capabilities,
        router.respond clientId cancelled q = .done (.result q.id result) ∧
          result.member? "capabilities" = some capabilities ∧
          ((capabilities.member? "tools").isSome ↔ r.toolDefinitions ≠ []) ∧
          ((capabilities.member? "resources").isSome ↔ r.resourceDefinitions ≠ []) := by
  intro r listed
  have h : r.Shows listed := by
    rw [show r = calls.foldl Registry.after .empty from hmade]
    exact Registry.shows_foldl hvalid
  have hdecided := decisions (r := router) h.sound
  have htools : r.toolDefinitions = (listed.filterMap Registration.tool?).map Tool.definition :=
    congrArg _ h.tools
  have hresources : r.resourceDefinitions =
      (listed.filterMap Registration.resource?).map Resource.definition := congrArg _ h.resources
  refine ⟨fun c => ⟨h.make_eq_error_iff c, ?_⟩, htools, hresources, h.pairwise,
    fun name t => h.tool?_eq_some_iff, fun uri x => h.resource?_eq_some_iff, ?_, ?_, ?_, ?_, ?_⟩
  · rintro ⟨e, he⟩
    rw [Registry.after, he]
  · intro q clientId cancelled hversion hmethod
    rw [((hdecided q).toolList hversion hmethod).respond, htools, List.map_map, canonical_listing]
    rfl
  · exact fun t ht => ⟨t.definition.name_canonical, calls_of_mem h.sound (h.mem_tools.2 ht)⟩
  · intro q clientId cancelled hversion hmethod
    rw [((hdecided q).resourceList hversion hmethod).respond, hresources, List.map_map,
      canonical_listing]
    rfl
  · exact fun x hx => ⟨x.definition.uri_canonical, reads_of_mem h.sound (h.mem_resources.2 hx)⟩
  · intro q p clientId cancelled hversion hmethod hp
    refine ⟨_, _, ((hdecided q).handshake hversion hmethod p hp).respond clientId cancelled,
      Mcp.HandshakeResult.capabilities_canonical _, ?_, ?_⟩
    · rw [Mcp.HandshakeResult.declares_tools]
      simp [handshake, Registry.hasTools, Registry.toolDefinitions, r]
    · rw [Mcp.HandshakeResult.declares_resources]
      simp [handshake, Registry.hasResources, Registry.resourceDefinitions, r]

/-- A tool that puts out its name. -/
def naming (name : String) : Tool := { name, handler := fun _ _ => .done (.ok (.text name)) }

def blank (uri : String) : Resource := { uri, handler := fun _ => .done (.ok (.text "")) }

/-- Registrations of which the second and the fourth fail. -/
def registrations : List Registration :=
  [.tool (naming "Kit"), .tool (naming "KIT"), .resource (blank "u:a"), .resource (blank "u:a"),
    .tool (naming "kit.2")]

/-- The first name is found with a Kelvin sign too, and its tool is called by it as it is listed. -/
theorem listing_and_calling_agree_kit :
    let router : Router := { registry := registrations.foldl Registry.after .empty }
    (∃ e, (Registration.tool (naming "kIT")).make router.registry = .error e) ∧
      router.registry.tool? "\u212aIT" = some (naming "Kit") ∧
      router.registry.resource? "u:b" = none ∧ router.Calls "Kit" (naming "Kit") := by
  intro router
  have hvalid : ∀ c ∈ registrations, c.Valid := by
    simp only [registrations, List.forall_mem_cons]
    exact ⟨rfl, rfl, rfl, rfl, rfl, nofun⟩
  have hlisted : Registry.empty.succeeded registrations =
      [.tool (naming "Kit"), .resource (blank "u:a"), .tool (naming "kit.2")] := rfl
  obtain ⟨hfails, -, -, -, htool, hresource, -, hcalls, -⟩ :=
    listing_and_calling_agree (fun _ _ => true) router registrations hvalid rfl
  rw [hlisted] at hfails htool hresource hcalls
  have hsame : Text.lowercase (fun _ _ => true) "Kit" = Text.lowercase (fun _ _ => true) "kIT" := by
    decide
  refine ⟨(hfails _).1.2 ⟨_, List.mem_cons_self, hsame⟩,
    (htool _ _).2 ⟨List.mem_cons_self, by decide +kernel⟩, ?_, (hcalls _ List.mem_cons_self).2⟩
  refine Option.eq_none_iff_forall_ne_some.2 fun x hx => ?_
  obtain ⟨hmem, huri⟩ := (hresource _ _).1 hx
  simp [blank] at hmem
  simp [hmem] at huri

end Router

end SessionRelay
