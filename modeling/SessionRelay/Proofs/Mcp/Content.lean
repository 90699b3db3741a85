import SessionRelay.Mcp.Content
import SessionRelay.Proofs.Json.Stable

/-!
# Content is read again as it was written

A block is written as its type and the members of its kind (`Content.members`). Reading the type
leaves just these (`Content.ofJson_toJson`), and each kind is read back from them.
-/

namespace SessionRelay.Mcp

open Json Json.Members

section

variable {α : Type} {key : String} {write : α → Json} {o : Option α}

@[simp] theorem last?_memberOf {name : String} :
    last? name (memberOf key write o) = if key = name then o.map write else none := by
  cases o <;> simp [memberOf]

@[simp] theorem fitAll_memberOf :
    FitAll (memberOf key write o) ↔ ∀ a ∈ o, (write a).Fits := by
  cases o <;> simp [memberOf]

end

theorem Role.stable (place : Place) : Stable (ofJson place) toJson where
  ne_null {_ role} _ _ := by cases role <;> simp [toJson]
  recovers {_ role} _ _ := by cases role <;> exact ⟨rfl, fits_string _⟩

theorem Annotations.stable (place : Place) : Stable (ofJson place) toJson where
  ne_null _ _ := by simp [toJson]
  recovers hv h := by
    obtain ⟨fields, hread, h⟩ := bind_eq_ok.1 h
    obtain ⟨audience, haudience, h⟩ := bind_eq_ok.1 h
    obtain ⟨priority, hpriority, h⟩ := bind_eq_ok.1 h
    cases h
    have haudience := (Decode.stable_sequence (Role.stable place)).of_get? hv hread haudience
    have hpriority := Decode.stable_double.of_get? hv hread hpriority
    refine Recovers.of_record (by simp [rules]) ?_ ?_ ?_ rfl ?_
    · simp [Record.get?, Record.get?_known, rules]
    · simp [rules, haudience.back, hpriority.back]
    · simp [haudience.back, hpriority.back]
    · simpa using haudience.fits

theorem ResourceContent.stable (place : Place) : Stable (ofJson place) toJson where
  ne_null _ _ := by simp [toJson]
  recovers hv h := by
    obtain ⟨fields, hread, h⟩ := bind_eq_ok.1 h
    obtain ⟨uri, -, h⟩ := bind_eq_ok.1 h
    obtain ⟨mimeType, hmimeType, h⟩ := bind_eq_ok.1 h
    obtain ⟨text, htext, h⟩ := bind_eq_ok.1 h
    obtain ⟨blob, hblob, h⟩ := bind_eq_ok.1 h
    cases h
    have hmimeType := Decode.stable_text.of_get? hv hread hmimeType
    have htext := Decode.stable_text.of_get? hv hread htext
    have hblob := Decode.stable_text.of_get? hv hread hblob
    refine Recovers.of_record (by decide) ?_ ?_ ?_ rfl ?_
    · simp [Record.get, Record.get?, Record.get?_known, rules]
    · simp [rules, Decode.text, hmimeType.back, htext.back, hblob.back]
    · simp [Decode.text, hmimeType.back, htext.back, hblob.back]
    · simp

/-! ## Blocks -/

namespace Content

/-- The members of a block after its type. -/
def members (c : Content) : List (String × Json) :=
  c.body ++ memberOf "annotations" Annotations.toJson c.annotations

/-- A block is read back, as one of its type, from its members after the type. -/
structure RecoversAs (type : String) (c : Content) : Prop where
  back : ofTagged type (.object (sorted c.members)) = .ok c
  fits : FitAll c.members
  tag : c.tag = type

variable {v : Json} {c : Content}

theorem recovers_annotations {type : String} {rules : List FieldRule} {fields : Record}
    {o : Option Annotations} (hv : v.Tidy) (hread : Record.read type rules .block v = .ok fields)
    (h : readAnnotations fields = .ok o) :
    RecoversOption (Annotations.ofJson .block) Annotations.toJson o :=
  (Annotations.stable .block).of_get? hv hread h

theorem recoversAs_text (hv : v.Tidy) (h : ofTagged "text" v = .ok c) :
    RecoversAs "text" c := by
  rw [ofTagged, if_pos rfl] at h
  obtain ⟨fields, hread, h⟩ := bind_eq_ok.1 h
  obtain ⟨text, -, h⟩ := bind_eq_ok.1 h
  obtain ⟨hints, hhints, h⟩ := bind_eq_ok.1 h
  cases h
  have hhints := recovers_annotations hv hread hhints
  refine ⟨?_, ?_, rfl⟩
  · rw [ofTagged, if_pos rfl]
    refine read_sorted (by decide) ?_ ?_ ?_
    · simp [readAnnotations, Record.get, Record.get?, Record.get?_known, textRules, annotationsRule]
    · simp [textRules, annotationsRule, members, body, annotations, Decode.text, hhints.back]
    · simp [readAnnotations, members, body, annotations, Decode.text, hhints.back]
  · simpa [members, body, annotations] using hhints.fits

/-- Images and sounds differ only in what is made of their fields. -/
theorem recovers_data {type : String} (make : String → String → Option Annotations → Content)
    (hmake : ∀ data mimeType hints, (make data mimeType hints).members =
      [("data", .string data), ("mimeType", .string mimeType)]
        ++ memberOf "annotations" Annotations.toJson hints)
    {reading : Decoder Content} (hreading : reading = fun v => do
      let fields ← Record.read type dataRules .block v
      return make (← fields.get "data" Decode.text) (← fields.get "mimeType" Decode.text)
        (← readAnnotations fields))
    (hv : v.Tidy) (h : reading v = .ok c) : reading (.object (sorted c.members)) = .ok c ∧
      FitAll c.members ∧ ∃ data mimeType hints, c = make data mimeType hints := by
  subst hreading
  obtain ⟨fields, hread, h⟩ := bind_eq_ok.1 h
  obtain ⟨data, -, h⟩ := bind_eq_ok.1 h
  obtain ⟨mimeType, -, h⟩ := bind_eq_ok.1 h
  obtain ⟨hints, hhints, h⟩ := bind_eq_ok.1 h
  cases h
  have hhints := recovers_annotations hv hread hhints
  rw [hmake]
  refine ⟨read_sorted (by decide) ?_ ?_ ?_, by simpa using hhints.fits, data, mimeType, hints, rfl⟩
  · simp [readAnnotations, Record.get, Record.get?, Record.get?_known, dataRules, annotationsRule]
  · simp [dataRules, annotationsRule, Decode.text, hhints.back]
  · simp [readAnnotations, Decode.text, hhints.back]

theorem recoversAs_image (hv : v.Tidy) (h : ofTagged "image" v = .ok c) :
    RecoversAs "image" c := by
  obtain ⟨hback, hfits, data, mimeType, hints, rfl⟩ :=
    recovers_data image (fun _ _ _ => rfl)
      (funext fun _ => (if_neg (by decide)).trans (if_pos rfl)) hv h
  exact ⟨hback, hfits, rfl⟩

theorem recoversAs_audio (hv : v.Tidy) (h : ofTagged "audio" v = .ok c) :
    RecoversAs "audio" c := by
  obtain ⟨hback, hfits, data, mimeType, hints, rfl⟩ :=
    recovers_data audio (fun _ _ _ => rfl)
      (funext fun _ => (if_neg (by decide)).trans ((if_neg (by decide)).trans (if_pos rfl))) hv h
  exact ⟨hback, hfits, rfl⟩

theorem recoversAs_link (hv : v.Tidy) (h : ofTagged "resource_link" v = .ok c) :
    RecoversAs "resource_link" c := by
  rw [ofTagged, if_neg (by decide), if_neg (by decide), if_neg (by decide), if_pos rfl] at h
  obtain ⟨fields, hread, h⟩ := bind_eq_ok.1 h
  obtain ⟨uri, -, h⟩ := bind_eq_ok.1 h
  obtain ⟨name, -, h⟩ := bind_eq_ok.1 h
  obtain ⟨description, hdescription, h⟩ := bind_eq_ok.1 h
  obtain ⟨mimeType, hmimeType, h⟩ := bind_eq_ok.1 h
  obtain ⟨size, hsize, h⟩ := bind_eq_ok.1 h
  obtain ⟨hints, hhints, h⟩ := bind_eq_ok.1 h
  cases h
  have hhints := recovers_annotations hv hread hhints
  have hdescription := Decode.stable_text.of_get? hv hread hdescription
  have hmimeType := Decode.stable_text.of_get? hv hread hmimeType
  have hsize := Decode.stable_nat64.of_get? hv hread hsize
  refine ⟨?_, ?_, rfl⟩
  · rw [ofTagged, if_neg (by decide), if_neg (by decide), if_neg (by decide), if_pos rfl]
    refine read_sorted (by decide) ?_ ?_ ?_
    · simp [readAnnotations, Record.get, Record.get?, Record.get?_known, linkRules, annotationsRule]
    · simp [linkRules, annotationsRule, members, body, annotations, Decode.text,
        hhints.back, hdescription.back, hmimeType.back, hsize.back]
    · simp [readAnnotations, members, body, annotations, Decode.text, hhints.back,
        hdescription.back, hmimeType.back, hsize.back]
  · simpa [members, body, annotations] using And.intro hsize.fits hhints.fits

theorem recoversAs_resource (hv : v.Tidy) (h : ofTagged "resource" v = .ok c) :
    RecoversAs "resource" c := by
  rw [ofTagged, if_neg (by decide), if_neg (by decide), if_neg (by decide), if_neg (by decide),
    if_pos rfl] at h
  obtain ⟨fields, hread, h⟩ := bind_eq_ok.1 h
  obtain ⟨resource, hresource, h⟩ := bind_eq_ok.1 h
  obtain ⟨hints, hhints, h⟩ := bind_eq_ok.1 h
  cases h
  have hhints := recovers_annotations hv hread hhints
  have hresource := (ResourceContent.stable .block).of_get hv hread hresource
  refine ⟨?_, ?_, rfl⟩
  · rw [ofTagged, if_neg (by decide), if_neg (by decide), if_neg (by decide), if_neg (by decide),
      if_pos rfl]
    refine read_sorted (by decide) ?_ ?_ ?_
    · simp [readAnnotations, Record.get, Record.get?, Record.get?_known, resourceRules,
        annotationsRule]
    · simp [resourceRules, annotationsRule, members, body, annotations, hhints.back,
        hresource.back]
    · simp [readAnnotations, members, body, annotations, hhints.back, hresource.back]
  · simpa [members, body, annotations] using And.intro hresource.fits hhints.fits

/-- Whatever the type of a block, what is read of it recovers. -/
theorem recoversAs_of_ofTagged {type : String} (htype : type ∈ tags) (hv : v.Tidy)
    (h : ofTagged type v = .ok c) : RecoversAs type c := by
  simp only [tags, List.mem_cons, List.not_mem_nil, or_false] at htype
  rcases htype with rfl | rfl | rfl | rfl | rfl
  · exact recoversAs_text hv h
  · exact recoversAs_image hv h
  · exact recoversAs_audio hv h
  · exact recoversAs_link hv h
  · exact recoversAs_resource hv h

theorem toJson_eq (c : Content) : c.toJson = .object (("type", .string c.tag) :: c.members) := rfl

theorem last?_type_members (c : Content) : last? "type" c.members = none := by
  cases c <;> simp [members, body]

/-- What a block is written as is a block of its type. -/
theorem ofJson_toJson {type : String} (htype : type ∈ tags) (h : RecoversAs type c) :
    ofJson c.toJson.canonical = .ok c := by
  have hread : Members.get? "type" (sorted (("type", .string c.tag) :: c.members)) =
      some (.string type) := by
    rw [Members.get?_sorted, last?_cons, last?_type_members, h.tag]
    rfl
  have hrest : (sorted (("type", .string c.tag) :: c.members)).filter
      (fun m => m.1 ≠ "type") = sorted c.members :=
    filter_sorted_cons (last?_type_members c)
  rw [toJson_eq, canonical_object, ofJson, hread]
  simp only [readTag, if_pos htype, ok_bind, hrest, h.back]

theorem stable : Stable ofJson toJson where
  ne_null _ _ := by simp [toJson]
  recovers {v c} hv h := by
    have hrecovers : ∃ type ∈ tags, RecoversAs type c := by
      have htag : ∀ {w type}, readTag w = .ok type → type ∈ tags := by
        intro w type h
        unfold readTag at h
        split at h
        · split_ifs at h with hmem
          cases h
          exact hmem
        · cases h
      unfold ofJson at h
      split at h
      · split at h
        · cases h
        · obtain ⟨type, htype, h⟩ := bind_eq_ok.1 h
          exact ⟨type, htag htype, recoversAs_of_ofTagged (htag htype) (hv.filter _) h⟩
      · cases h
      · obtain ⟨type, htype, h⟩ := bind_eq_ok.1 h
        exact ⟨type, htag htype, recoversAs_of_ofTagged (htag htype) hv.tail h⟩
      · cases h
    obtain ⟨type, htype, hc⟩ := hrecovers
    refine ⟨ofJson_toJson htype hc, ?_⟩
    rw [toJson_eq]
    exact fits_object_iff.2 (fitAll_cons.2 ⟨fits_string _, hc.fits⟩)

end Content

end SessionRelay.Mcp
