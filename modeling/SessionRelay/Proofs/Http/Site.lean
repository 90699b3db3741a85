import Mathlib.Data.List.TakeWhile
import SessionRelay.Http.Site
import SessionRelay.Proofs.Url.Form
import SessionRelay.Session.Table

/-!
# Where an endpoint leads

A base path of unreserved characters and slashes has no captures, so its routes are the paths as they
are written. The endpoint that a stream tells is the path of the message box with a query
(`toList_endpointUrl`); a request for it finds the path and the query as they were put together
(`path_and_query`).
-/

namespace SessionRelay

open Url (Form.write)

theorem Text.mem_of_mem_trimChars {drop : Char → Bool} {cs : List Char} {c : Char}
    (h : c ∈ trimChars drop cs) : c ∈ cs := by
  rw [trimChars, List.mem_reverse] at h
  have hback := (List.dropWhile_sublist drop).subset h
  rw [List.mem_reverse] at hback
  exact (List.dropWhile_sublist drop).subset hback

theorem Config.mem_routeBase {path : List Char} {c : Char} (h : c ∈ (routeBase path).toList) :
    c ∈ path ∨ c = '/' := by
  unfold routeBase at h
  split at h
  · cases h
  · rw [String.toList_ofList, List.mem_cons] at h
    rcases h with h | h
    · exact .inr h
    · exact .inl (Text.mem_of_mem_trimChars h)

/-- A base is empty, or it starts with a slash. -/
theorem Config.routeBase_eq (path : List Char) :
    (routeBase path).toList = [] ∨ ∃ cs, (routeBase path).toList = '/' :: cs := by
  unfold routeBase
  split
  · exact .inl rfl
  · exact .inr ⟨_, String.toList_ofList⟩

namespace Http

/-- The characters that a path may hold as they are. -/
def IsUnreserved (c : Char) : Prop := c.isAlphanum = true ∨ c ∈ ['-', '.', '_', '~']

instance : DecidablePred IsUnreserved := fun _ => inferInstanceAs (Decidable (_ ∨ _))

/-- Whether nothing in a path but its slashes means anything in a target or a pattern. -/
def IsPlainPath (path : String) : Prop := ∀ c ∈ path.toList, IsUnreserved c ∨ c = '/'

instance : DecidablePred IsPlainPath := fun path =>
  decidable_of_iff (path.toList.all (fun c => decide (IsUnreserved c ∨ c = '/')) = true) (by
    simp only [List.all_eq_true, decide_eq_true_eq]
    rfl)

theorem IsPlainPath.notMem {path : String} (h : IsPlainPath path) {c : Char}
    (hc : c ∈ ['?', '#', '\x7b', '\x7d', '\r', '\n']) : c ∉ path.toList := by
  intro hmem
  have hplain := h c hmem
  simp only [List.mem_cons, List.not_mem_nil, or_false] at hc
  rcases hc with rfl | rfl | rfl | rfl | rfl | rfl <;> revert hplain <;> decide

theorem accepts_iff {pattern path : String} (h : IsPlainPath pattern) :
    Pattern.accepts pattern path = true ↔ path = pattern := by
  have hfixed : (pattern.toList.all fun c => c != '\x7b' && c != '\x7d') = true := by
    rw [List.all_eq_true]
    intro c hc
    have hopen : c ≠ '\x7b' := fun heq => h.notMem (by decide) (heq ▸ hc)
    have hclose : c ≠ '\x7d' := fun heq => h.notMem (by decide) (heq ▸ hc)
    simp [hopen, hclose]
  rw [Pattern.accepts, if_pos hfixed, beq_iff_eq]

namespace Site

variable {s : Site} {c : Config}

theorem isPlainPath_append {suffix : String} (h : IsPlainPath s.basePath)
    (hsuffix : IsPlainPath suffix) : IsPlainPath (s.basePath ++ suffix) := by
  intro c hc
  rw [String.toList_append] at hc
  exact (List.mem_append.1 hc).elim (h c) (hsuffix c)

theorem isPlainPath_stream (h : IsPlainPath s.basePath) : IsPlainPath s.streamPath :=
  isPlainPath_append h (by decide +kernel)

theorem isPlainPath_message (h : IsPlainPath s.basePath) : IsPlainPath s.messagePath :=
  isPlainPath_append h (by decide +kernel)

/-- A request with a method for the path of the message box gets there if it posts. -/
theorem route_messagePath (hsse : s.sse = true) (h : IsPlainPath s.basePath) (method : String) :
    s.route method s.messagePath =
      if method = "POST" then .found .messageBox else .notAllowed "POST" := by
  have hstream : ¬ Pattern.accepts s.streamPath s.messagePath = true := by
    rw [accepts_iff (isPlainPath_stream h)]
    simp only [messagePath, streamPath, String.append_right_inj]
    decide
  have hmessage := (accepts_iff (isPlainPath_message h)).2 rfl
  rw [route, if_neg fun hboth => hstream hboth.2, if_pos ⟨hsse, hmessage⟩]

theorem basePath_ofConfig (c : Config) :
    (ofConfig c).basePath = Config.routeBase c.normalizedBasePath.toList := by
  simp only [ofConfig, below]

theorem isPlainPath_ofConfig (h : IsPlainPath c.basePath) :
    IsPlainPath (ofConfig c).basePath := by
  intro ch hch
  rw [basePath_ofConfig] at hch
  rcases Config.mem_routeBase hch with hch | hch
  · rw [Config.normalizedBasePath] at hch
    rcases Config.mem_routeBase hch with hch | hch
    · exact h ch (Text.mem_of_mem_trimChars hch)
    · exact .inr hch
  · exact .inr hch

theorem messagePath_ofConfig (c : Config) :
    ∃ cs, (ofConfig c).messagePath.toList = '/' :: cs := by
  rw [messagePath, basePath_ofConfig, String.toList_append]
  rcases Config.routeBase_eq c.normalizedBasePath.toList with hempty | ⟨cs, hcs⟩
  · rw [hempty]
    exact ⟨_, rfl⟩
  · rw [hcs]
    exact ⟨_, rfl⟩

end Site

/-! ## Targets -/

variable {r : Request} {path : String} {query : List Char}

theorem resource_of_target (hstart : ∃ cs, path.toList = '/' :: cs) (hpath : '#' ∉ path.toList)
    (hquery : '#' ∉ query) (htarget : r.target.toList = path.toList ++ '?' :: query) :
    r.resource = path.toList ++ '?' :: query := by
  obtain ⟨cs, hcs⟩ := hstart
  have hall : r.target.toList.takeWhile (· ≠ '#') = r.target.toList := by
    refine List.takeWhile_eq_self_iff.2 fun c hc => ?_
    rw [htarget, List.mem_append, List.mem_cons] at hc
    rw [decide_eq_true_eq]
    rintro rfl
    rcases hc with hc | hc | hc
    · exact hpath hc
    · cases hc
    · exact hquery hc
  rw [Request.resource, hall, htarget, hcs]
  rfl

/-- A request finds the path and the query of its target. -/
theorem path_and_query (hstart : ∃ cs, path.toList = '/' :: cs) (hplain : IsPlainPath path)
    (hquery : '#' ∉ query) (htarget : r.target.toList = path.toList ++ '?' :: query) :
    r.path = path ∧ r.query = String.ofList query := by
  have hresource := resource_of_target hstart (hplain.notMem (by decide)) hquery htarget
  have hbefore : ∀ c ∈ path.toList, decide (c ≠ '?') = true := by
    intro c hc
    rw [decide_eq_true_eq]
    rintro rfl
    exact hplain.notMem (by decide) hc
  constructor
  · rw [Request.path, hresource, List.takeWhile_append_of_pos hbefore]
    simp
  · rw [Request.query, hresource, List.dropWhile_append_of_pos hbefore]
    simp

end Http

/-! ## Endpoints -/

/-- The names and values in the query of an endpoint. -/
def endpointPairs (token : String) (code : Option String) : List (String × String) :=
  ("state", token) :: (code.map fun code => ("code", code)).toList

variable {token : String}

theorem toList_endpointUrl (path : String) (code : Option String)
    (htoken : ∀ c ∈ token.toList, Base64.IsUrlChar c) :
    (endpointUrl path token code).toList =
      path.toList ++ '?' :: Form.write (endpointPairs token code) := by
  have hstate : Url.Form.encode "state" = "state" := by decide
  have hcode : Url.Form.encode "code" = "code" := by decide
  have hself := Url.Form.encode_eq_self htoken
  cases code with
  | none =>
    simp only [endpointUrl, endpointPairs, Option.map_none, Option.toList_none, Form.write,
      Url.Form.written, hstate, hself, String.toList_append]
    simp
  | some code =>
    simp only [endpointUrl, endpointPairs, Option.map_some, Option.toList_some, Form.write,
      Url.Form.written, hstate, hcode, hself, String.toList_append]
    simp

/-- An endpoint is one line. -/
theorem notMem_endpointUrl {path : String} {code : Option String} (hpath : Http.IsPlainPath path)
    (htoken : ∀ c ∈ token.toList, Base64.IsUrlChar c) {c : Char} (hc : c ∈ ['\r', '\n']) :
    c ∉ (endpointUrl path token code).toList := by
  simp only [List.mem_cons, List.not_mem_nil, or_false] at hc
  rw [toList_endpointUrl path code htoken]
  simp only [List.mem_append, List.mem_cons, not_or]
  rcases hc with rfl | rfl
  · exact ⟨hpath.notMem (by decide), by decide, Url.Form.notMem_write (by decide) _⟩
  · exact ⟨hpath.notMem (by decide), by decide, Url.Form.notMem_write (by decide) _⟩

end SessionRelay
