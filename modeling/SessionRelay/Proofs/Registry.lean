import SessionRelay.Proofs.Text.Lowercase
import SessionRelay.Registry
import Mathlib.Data.List.Nodup

/-!
# A registry finds what it lists

A registry keeps each list beside an index of keys and places. A registration that succeeds adds one
entry to one list, and one fails if the list has an entry of its key. So after any registrations the
index is that of the list and no key occurs twice (`sound_foldl`): a lookup finds the one entry of
its key, and what is listed is what was registered.
-/

namespace SessionRelay

namespace Index

variable {α : Type} {f : α → String} {key : String}

theorem lookup_zipIdx : ∀ (entries before : List α),
    (((entries.map f).zipIdx before.length).lookup key).bind
      (fun place => (before ++ entries)[place]?) = entries.find? fun a => f a == key
  | [], _ => rfl
  | a :: rest, before => by
    rw [List.map_cons, List.zipIdx_cons, List.lookup_cons, List.find?_cons, BEq.comm]
    cases hkey : f a == key with
    | true => simp
    | false =>
      have hrest := lookup_zipIdx rest (before ++ [a])
      rw [List.length_append, List.append_assoc] at hrest
      exact hrest

/-- Looking up in the index of a list is looking through the list. -/
theorem entryOf?_ofKeys (entries : List α) (key : String) :
    (ofKeys (entries.map f)).entryOf? entries key = entries.find? fun a => f a == key :=
  lookup_zipIdx entries []

theorem lookup_zipIdx_eq_none : ∀ {keys : List String} {n : Nat},
    (keys.zipIdx n).lookup key = none ↔ key ∉ keys
  | [], _ => by simp
  | k :: keys, n => by
    rw [List.zipIdx_cons, List.lookup_cons, List.mem_cons]
    cases hk : key == k with
    | true => simp [eq_of_beq hk]
    | false => simp [ne_of_beq_false hk, lookup_zipIdx_eq_none]

/-- The index is that of the entries, and their keys are distinct. -/
structure Fits (index : Index) (entries : List α) (f : α → String) : Prop where
  eq : index = ofKeys (entries.map f)
  distinct : (entries.map f).Nodup

namespace Fits

variable {index : Index} {entries : List α} {a : α}

theorem nil : Fits (ofKeys []) [] f := ⟨rfl, List.nodup_nil⟩

theorem entryOf?_eq_some_iff (h : index.Fits entries f) :
    index.entryOf? entries key = some a ↔ a ∈ entries ∧ f a = key := by
  have hkey : ∀ {b k}, (entries.find? fun a => f a == k) = some b → f b = k := fun hfind => by
    simpa using List.find?_some hfind
  rw [h.eq, entryOf?_ofKeys]
  constructor
  · intro hfind
    exact ⟨List.mem_of_find?_eq_some hfind, hkey hfind⟩
  · rintro ⟨hmem, rfl⟩
    have hsome : (entries.find? fun b => f b == f a).isSome = true :=
      List.find?_isSome.2 ⟨a, hmem, beq_self_eq_true (f a)⟩
    obtain ⟨b, hfind⟩ := Option.isSome_iff_exists.1 hsome
    have hb := List.mem_of_find?_eq_some hfind
    rw [hfind, List.inj_on_of_nodup_map h.distinct hb hmem (hkey hfind)]

theorem lookup_eq_none_iff (h : index.Fits entries f) :
    index.lookup key = none ↔ key ∉ entries.map f := by
  rw [h.eq]
  exact lookup_zipIdx_eq_none

/-- Something is entered unless there is an entry of its key. -/
theorem add? (h : index.Fits entries f) (a : α) :
    index.add? entries (f a) a = none ∧ (∃ b ∈ entries, f b = f a) ∨
      ∃ index', index.add? entries (f a) a = some (index', entries ++ [a]) ∧
        index'.Fits (entries ++ [a]) f ∧ ∀ b ∈ entries, f b ≠ f a := by
  unfold Index.add?
  cases hlookup : index.lookup (f a) with
  | some place =>
    have htaken : f a ∈ entries.map f := by
      by_contra hnew
      rw [h.lookup_eq_none_iff.2 hnew] at hlookup
      cases hlookup
    exact .inl ⟨rfl, List.mem_map.1 htaken⟩
  | none =>
    have hnew := h.lookup_eq_none_iff.1 hlookup
    refine .inr ⟨_, rfl, ⟨?_, ?_⟩, fun b hb hsame => hnew (hsame ▸ List.mem_map_of_mem hb)⟩
    · rw [h.eq, List.map_append, ofKeys, ofKeys, List.zipIdx_append, List.length_map, Nat.zero_add]
      rfl
    · rw [List.map_append, List.map_singleton, List.nodup_append_comm]
      exact List.nodup_cons.2 ⟨hnew, h.distinct⟩

end Fits

end Index

/-- A call that registers something. -/
inductive Registration
  | tool (t : Tool)
  | resource (x : Resource)

namespace Registration

def tool? : Registration → Option Tool
  | .tool t => some t
  | .resource _ => none

def resource? : Registration → Option Resource
  | .tool _ => none
  | .resource x => some x

def make (r : Registry) : Registration → Except Fault Registry
  | .tool t => r.registerTool t
  | .resource x => r.registerResource x

/-- What a call fails with. -/
def fault : Registration → Fault
  | .tool t => .duplicateTool t.name
  | .resource x => .duplicateResource x.uri

/-- The tool or the resource is one that passes the checks on its name or its URI. -/
def Valid : Registration → Prop
  | .tool t => t.checked = .ok t
  | .resource x => x.checked = .ok x

/-- Two tools with one name but for the case, or two resources with one URI. -/
def Clashes (ends : Text.WordEnd) : Registration → Registration → Prop
  | .tool s, .tool t => Text.lowercase ends s.name = Text.lowercase ends t.name
  | .resource x, .resource y => x.uri = y.uri
  | _, _ => False

end Registration

namespace Registry

variable {r : Registry} {c : Registration} {calls : List Registration}

/-- The registry after a call. One that fails leaves it as it is. -/
def after (r : Registry) (c : Registration) : Registry :=
  match c.make r with
  | .ok r' => r'
  | .error _ => r

/-- The calls that succeed when they are made one after another. -/
def succeeded (r : Registry) : List Registration → List Registration
  | [] => []
  | c :: calls =>
    match c.make r with
    | .ok r' => c :: succeeded r' calls
    | .error _ => succeeded r calls

structure Sound (r : Registry) : Prop where
  tools : r.toolIndex.Fits r.tools fun t => ToolName.key t.name
  resources : r.resourceIndex.Fits r.resources Resource.uri

theorem sound_empty : empty.Sound := ⟨.nil, .nil⟩

theorem Sound.tool?_eq_some_iff (h : r.Sound) {name : String} {t : Tool} :
    r.tool? name = some t ↔ t ∈ r.tools ∧ ToolName.key t.name = ToolName.key name :=
  h.tools.entryOf?_eq_some_iff

theorem Sound.resource?_eq_some_iff (h : r.Sound) {uri : String} {x : Resource} :
    r.resource? uri = some x ↔ x ∈ r.resources ∧ x.uri = uri :=
  h.resources.entryOf?_eq_some_iff

/-- Whether a registry lists something of the key of a call. -/
def Lists (r : Registry) : Registration → Prop
  | .tool t => ∃ s ∈ r.tools, ToolName.key s.name = ToolName.key t.name
  | .resource x => ∃ y ∈ r.resources, y.uri = x.uri

/-- What a call that succeeds does. -/
structure Added (r : Registry) (c : Registration) (r' : Registry) : Prop where
  sound : r'.Sound
  tools : r'.tools = r.tools ++ c.tool?.toList
  resources : r'.resources = r.resources ++ c.resource?.toList

theorem make_cases (h : r.Sound) (c : Registration) :
    c.make r = .error c.fault ∧ r.Lists c ∨ ∃ r', c.make r = .ok r' ∧ r.Added c r' ∧ ¬ r.Lists c := by
  cases c with
  | tool t =>
    simp only [Registration.make, registerTool]
    obtain ⟨hadd, hlists⟩ | ⟨index, hadd, hfits, hnew⟩ := h.tools.add? t
    · exact .inl ⟨by rw [hadd]; rfl, hlists⟩
    · refine .inr ⟨{ r with toolIndex := index, tools := r.tools ++ [t] }, by rw [hadd],
        ⟨⟨hfits, h.resources⟩, rfl, (List.append_nil _).symm⟩, ?_⟩
      rintro ⟨s, hs, hsame⟩
      exact hnew s hs hsame
  | resource x =>
    simp only [Registration.make, registerResource]
    obtain ⟨hadd, hlists⟩ | ⟨index, hadd, hfits, hnew⟩ := h.resources.add? x
    · exact .inl ⟨by rw [hadd]; rfl, hlists⟩
    · refine .inr ⟨{ r with resourceIndex := index, resources := r.resources ++ [x] }, by rw [hadd],
        ⟨⟨h.tools, hfits⟩, (List.append_nil _).symm, rfl⟩, ?_⟩
      rintro ⟨y, hy, hsame⟩
      exact hnew y hy hsame

/-- After any calls the registry is sound and lists, behind what it did, what was registered. -/
theorem foldl_after : ∀ (calls : List Registration) {r : Registry}, r.Sound →
    (calls.foldl after r).Sound ∧
      (calls.foldl after r).tools = r.tools ++ (r.succeeded calls).filterMap Registration.tool? ∧
      (calls.foldl after r).resources =
        r.resources ++ (r.succeeded calls).filterMap Registration.resource?
  | [], r, h => ⟨h, (List.append_nil _).symm, (List.append_nil _).symm⟩
  | c :: calls, r, h => by
    rw [List.foldl_cons, after, succeeded]
    obtain ⟨hmake, -⟩ | ⟨r', hmake, hadded, -⟩ := make_cases h c
    · simp only [hmake]
      exact foldl_after calls h
    · simp only [hmake]
      obtain ⟨hsound, htools, hresources⟩ := foldl_after calls hadded.sound
      refine ⟨hsound, ?_, ?_⟩
      · rw [htools, hadded.tools, List.append_assoc]
        cases c <;> rfl
      · rw [hresources, hadded.resources, List.append_assoc]
        cases c <;> rfl

theorem sound_foldl (calls : List Registration) : (calls.foldl after empty).Sound :=
  (foldl_after calls sound_empty).1

end Registry

end SessionRelay
