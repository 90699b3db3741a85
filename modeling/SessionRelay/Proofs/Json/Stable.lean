import SessionRelay.Proofs.Json.Object

/-!
# What is read again as it was written

A typed value recovers when it is read back from the JSON value it is written as. A reader and a
writer are stable when everything read from a tidy value recovers; then so do lists, optional
fields and whole records of it. A record is written as members in any order: put in order, they
hold under each key what was written last under it (`get?_sorted`), and reading a record back is
building it from these (`Recovers.of_record`).
-/

namespace SessionRelay

open Json

/-! ## Written members -/

namespace Json.Members

/-- The value that counts of those written under a key. -/
def last? (key : String) : List (String × Json) → Option Json
  | [] => none
  | (k, v) :: rest => (last? key rest).or (if k = key then some v else none)

@[simp] theorem last?_nil {key : String} : last? key [] = none := rfl

@[simp] theorem last?_cons {key k : String} {v : Json} {rest : List (String × Json)} :
    last? key ((k, v) :: rest) = (last? key rest).or (if k = key then some v else none) := rfl

@[simp] theorem last?_append {key : String} {later : List (String × Json)} :
    ∀ {written : List (String × Json)},
      last? key (written ++ later) = (last? key later).or (last? key written)
  | [] => by simp
  | (k, v) :: written => by
    rw [List.cons_append, last?_cons, last?_append, last?_cons, Option.or_assoc]

theorem last?_canonicalMembers {key : String} : ∀ written : List (String × Json),
    last? key (canonicalMembers written) = (last? key written).map canonical
  | [] => rfl
  | (k, v) :: rest => by
    rw [canonicalMembers, canonicalMember, last?_cons, last?_cons, last?_canonicalMembers rest]
    by_cases hk : k = key <;> cases last? key rest <;> simp [hk]

theorem get?_insert {key k : String} {v : Json} : ∀ {members : Members},
    get? key (members.insert k v) = if k = key then some v else get? key members
  | [] => rfl
  | (k', v') :: rest => by
    by_cases hlt : k < k'
    · rw [insert, if_pos hlt]
      rfl
    · by_cases heq : k = k'
      · subst heq
        by_cases hk : k = key <;> simp [insert, get?, hk]
      · have ih : get? key (insert k v rest) = _ := get?_insert
        by_cases hk : k' = key
        · subst hk
          simp [insert, hlt, heq, get?]
        · simp [insert, hlt, heq, get?, hk, ih]

theorem get?_ofList {key : String} (written : List (String × Json)) :
    get? key (ofList written) = last? key written := by
  suffices h : ∀ (written : List (String × Json)) (members : Members),
      get? key (written.foldl (fun members m => insert m.1 m.2 members) members) =
        (last? key written).or (get? key members) by
    simpa [get?, ofList] using h written []
  intro written
  induction written with
  | nil => simp
  | cons m written ih =>
    intro members
    obtain ⟨k, v⟩ := m
    rw [List.foldl_cons, ih, get?_insert, last?_cons, Option.or_assoc]
    by_cases hk : k = key <;> simp [hk]

/-- Written members, put in order. -/
def sorted (written : List (String × Json)) : Members := ofList (canonicalMembers written)

theorem increasing_sorted (written : List (String × Json)) : (sorted written).Increasing :=
  increasing_ofList _

theorem get?_sorted {key : String} (written : List (String × Json)) :
    get? key (sorted written) = (last? key written).map canonical := by
  rw [sorted, get?_ofList, last?_canonicalMembers]

/-- Members in order are told by what they hold under each key. -/
theorem Increasing.ext {a b : Members} (ha : a.Increasing) (hb : b.Increasing)
    (h : ∀ key, get? key a = get? key b) : a = b := by
  have : Std.Asymm fun a b : String × Json => a.1 < b.1 := ⟨fun _ _ => lt_asymm⟩
  have : Std.Irrefl fun a b : String × Json => a.1 < b.1 := ⟨fun _ => lt_irrefl _⟩
  refine List.Pairwise.eq_of_mem_iff ha hb fun ⟨key, value⟩ => ?_
  rw [← get?_eq_some_iff ha, ← get?_eq_some_iff hb, h key]

theorem get?_filter_eq_none {key : String} {p : String → Bool} (hp : p key = false) :
    ∀ members : Members, get? key (members.filter fun (k, _) => p k) = none
  | [] => rfl
  | (k, v) :: rest => by
    by_cases hk : k = key
    · subst hk
      simp [hp, get?_filter_eq_none hp rest]
    · cases hpk : p k <;> simp [hpk, get?, hk, get?_filter_eq_none hp rest]

/-- Written members without one of them, if its key was written once. -/
theorem filter_sorted_cons {key : String} {v : Json} {rest : List (String × Json)}
    (h : last? key rest = none) :
    (sorted ((key, v) :: rest)).filter (fun (k, _) => k ≠ key) = sorted rest := by
  refine Increasing.ext ((increasing_sorted _).filter _) (increasing_sorted _) fun k => ?_
  by_cases hk : k = key
  · subst hk
    rw [get?_filter_eq_none (p := fun k' => k' ≠ k) (by simp), get?_sorted, h]
    rfl
  · have hne : key ≠ k := Ne.symm hk
    rw [get?_filter (p := fun k' => k' ≠ key) (by simpa using hk), get?_sorted, get?_sorted]
    simp [hne]

end Json.Members

/-! ## Parts of tidy values -/

theorem Json.Tidy.filter {members : Members} (h : (object members).Tidy)
    (p : String × Json → Bool) : (object (members.filter p)).Tidy where
  ordered := .object (h.ordered.increasing.filter p) fun _ hm =>
    h.ordered.of_mem_object (List.mem_of_mem_filter hm)
  fits n hn := by
    obtain ⟨m, hm, hn⟩ := mem_numbers_object.1 hn
    exact h.fits n (mem_numbers_object.2 ⟨m, List.mem_of_mem_filter hm, hn⟩)

theorem Json.Tidy.tail {v : Json} {items : List Json} (h : (array (v :: items)).Tidy) :
    (array items).Tidy where
  ordered := .array fun _ hw => h.ordered.of_mem_array (List.mem_cons_of_mem _ hw)
  fits n hn := by
    obtain ⟨w, hw, hn⟩ := mem_numbers_array.1 hn
    exact h.fits n (mem_numbers_array.2 ⟨w, List.mem_cons_of_mem _ hw, hn⟩)

/-! ## Written values -/

@[simp] theorem Json.canonical_string (s : String) : (string s).canonical = .string s := rfl

@[simp] theorem Json.canonical_bool (b : Bool) : (Json.bool b).canonical = .bool b := rfl

theorem Json.canonical_object (written : List (String × Json)) :
    (object written).canonical = object (Members.sorted written) := rfl

theorem Json.mem_numbers_canonical {n : Number} (v : Json) :
    n ∈ v.canonical.numbers → n ∈ v.numbers := by
  induction v using Json.ind with
  | null | bool | number | string => exact id
  | array items ih =>
    rw [canonical, canonicalItems_eq_map, mem_numbers_array, mem_numbers_array]
    rintro ⟨_, hw, hn⟩
    obtain ⟨v, hv, rfl⟩ := List.mem_map.1 hw
    exact ⟨v, hv, ih v hv hn⟩
  | object members ih =>
    rw [canonical, canonicalMembers_eq_map, ofMembers, mem_numbers_object, mem_numbers_object]
    rintro ⟨_, hw, hn⟩
    obtain ⟨m, hm, rfl⟩ := List.mem_map.1 (Members.mem_of_mem_ofList hw)
    exact ⟨m, hm, ih m hm hn⟩

theorem Json.canonical_ne_null {v : Json} (h : v ≠ .null) : v.canonical ≠ .null := by
  cases v <;> simp_all [canonical, ofMembers]

/-! ## Values -/

section

variable {α : Type} {decoder : Decoder α} {write : α → Json}

/-- Integers that fit 64 bits. -/
def Json.Fits (v : Json) : Prop := ∀ n, .int n ∈ v.numbers → Number.Fits n

namespace Json

@[simp] theorem fits_string (s : String) : (string s).Fits := nofun

@[simp] theorem fits_bool (b : Bool) : (Json.bool b).Fits := nofun

@[simp] theorem fits_real (x : Double) : (number (.real x)).Fits := by
  simp [Fits, numbers]

theorem fits_int_iff {n : Int} : (Json.int n).Fits ↔ Number.Fits n := by
  simp [Fits, numbers, Json.int]

theorem fits_array_iff {items : List Json} : (array items).Fits ↔ ∀ v ∈ items, v.Fits := by
  simp only [Fits, mem_numbers_array]
  exact ⟨fun h v hv n hn => h n ⟨v, hv, hn⟩, fun h n ⟨v, hv, hn⟩ => h v hv n hn⟩

/-- Written members whose integers fit 64 bits. -/
def FitAll (written : List (String × Json)) : Prop := ∀ m ∈ written, m.2.Fits

@[simp] theorem fitAll_nil : FitAll [] := nofun

@[simp] theorem fitAll_cons {m : String × Json} {written : List (String × Json)} :
    FitAll (m :: written) ↔ m.2.Fits ∧ FitAll written := List.forall_mem_cons

@[simp] theorem fitAll_append {written later : List (String × Json)} :
    FitAll (written ++ later) ↔ FitAll written ∧ FitAll later := List.forall_mem_append

theorem fits_object_iff {members : List (String × Json)} :
    (object members).Fits ↔ FitAll members := by
  simp only [Fits, FitAll, mem_numbers_object]
  exact ⟨fun h m hm n hn => h n ⟨m, hm, hn⟩, fun h n ⟨m, hm, hn⟩ => h m hm n hn⟩

end Json

/-- A typed value is read back from what it is written as, whose integers fit 64 bits. -/
structure Recovers (decoder : Decoder α) (write : α → Json) (a : α) : Prop where
  back : decoder (write a).canonical = .ok a
  fits : (write a).Fits

theorem Recovers.tidy {a : α} (h : Recovers decoder write a) : (write a).canonical.Tidy :=
  ⟨ordered_canonical _, fun n hn => h.fits n (mem_numbers_canonical _ hn)⟩

/-- Everything read from a tidy value recovers, and `null` is written only for what was read from
it. -/
structure Stable (decoder : Decoder α) (write : α → Json) : Prop where
  recovers : ∀ {v : Json} {a : α}, v.Tidy → decoder v = .ok a → Recovers decoder write a
  ne_null : ∀ {v : Json} {a : α}, v ≠ .null → decoder v = .ok a → write a ≠ .null

/-- An optional value recovers if what is there does, and is not taken for its absence. -/
def RecoversOption (decoder : Decoder α) (write : α → Json) (o : Option α) : Prop :=
  ∀ a ∈ o, Recovers decoder write a ∧ write a ≠ .null

namespace Stable

variable {type : String} {rules : List FieldRule} {place : Place} {v : Json} {fields : Record}
  {name : String}

/-- A field of a record recovers. -/
theorem of_get (hs : Stable decoder write) (hv : v.Tidy)
    (hread : Record.read type rules place v = .ok fields) {a : α}
    (h : fields.get name decoder = .ok a) : Recovers decoder write a := by
  obtain ⟨w, hw, ha⟩ := Record.exists_of_get h
  exact hs.recovers ((Record.child_of_read hread hw).tidy hv) ha

theorem of_get? (hs : Stable decoder write) (hv : v.Tidy)
    (hread : Record.read type rules place v = .ok fields) {o : Option α}
    (h : fields.get? name decoder = .ok o) : RecoversOption decoder write o := by
  intro a ha
  obtain ⟨w, hw, hne, ha⟩ := Record.exists_of_get? h ha
  exact ⟨hs.recovers ((Record.child_of_read hread hw).tidy hv) ha, hs.ne_null hne ha⟩

end Stable

/-! ## Records -/

open Json.Members (sorted last?)

@[simp] theorem get_sorted {name : String} {written : List (String × Json)} :
    Record.get (sorted written) name decoder =
      (last? name written).elim (.error (.missingField name)) fun v => decoder v.canonical := by
  rw [Record.get, Members.get?_sorted]
  cases last? name written <;> rfl

@[simp] theorem get?_sorted {name : String} {written : List (String × Json)} :
    Record.get? (sorted written) name decoder =
      (last? name written).elim (.ok none) fun v => Decode.nullable decoder v.canonical := by
  rw [Record.get?, Members.get?_sorted]
  cases last? name written <;> rfl

@[simp] theorem getD_sorted {name : String} {written : List (String × Json)} {default : α} :
    Record.getD (sorted written) name decoder default =
      (last? name written).elim (.ok default) fun v => decoder v.canonical := by
  rw [Record.getD, Members.get?_sorted]
  cases last? name written <;> rfl

theorem RecoversOption.back {o : Option α} (h : RecoversOption decoder write o) :
    (o.map write).elim (.ok none) (fun v => Decode.nullable decoder v.canonical) = .ok o := by
  cases o with
  | none => rfl
  | some a =>
    obtain ⟨ha, hne⟩ := h a rfl
    simp [Decode.nullable_of_ne (canonical_ne_null hne), ha.back, Except.map]

theorem RecoversOption.back_id {decoder : Decoder Json} {o : Option Json}
    (h : RecoversOption decoder id o) :
    o.elim (.ok none) (fun v => Decode.nullable decoder v.canonical) = .ok o := by
  simpa using h.back

theorem RecoversOption.fits {o : Option α} (h : RecoversOption decoder write o) :
    ∀ a ∈ o, (write a).Fits := fun a ha => (h a ha).1.fits

variable {type : String} {rules : List FieldRule} {place : Place}
  {build : Record → Except DecodeError α} {written : List (String × Json)} {a : α}

/-- What is built of written members is read from them. -/
theorem read_sorted (hrules : (rules.map FieldRule.name).Nodup)
    (hbuild : build (Record.known rules (sorted written)) = build (sorted written))
    (hadmits : ∀ rule ∈ rules, rule.Admits (Members.get? rule.name (sorted written)))
    (hback : build (sorted written) = .ok a) :
    (Record.read type rules place (.object (sorted written)) >>= build) = .ok a :=
  (Record.read_bind_eq_ok hrules (Members.increasing_sorted written) hbuild fun _ => hadmits).2
    hback

theorem Recovers.of_record (hrules : (rules.map FieldRule.name).Nodup)
    (hbuild : build (Record.known rules (sorted written)) = build (sorted written))
    (hadmits : ∀ rule ∈ rules, rule.Admits (Members.get? rule.name (sorted written)))
    (hback : build (sorted written) = .ok a) (hwrite : write a = .object written)
    (hfits : FitAll written) :
    Recovers (fun v => Record.read type rules place v >>= build) write a where
  back := by
    rw [hwrite, canonical_object]
    exact read_sorted hrules hbuild hadmits hback
  fits := by
    rw [hwrite]
    exact fits_object_iff.2 hfits

end

/-! ## The readers of values -/

namespace Decode

theorem stable_any : Stable any id where
  recovers hv h := by
    cases h
    exact ⟨congrArg _ (canonical_of_ordered hv.ordered), hv.fits⟩
  ne_null hv h := by
    cases h
    exact hv

theorem stable_text : Stable text .string where
  recovers {v a} _ _ := ⟨rfl, fits_string a⟩
  ne_null _ _ := by simp

theorem stable_double : Stable double fun x => .number (.real x) where
  recovers {v a} _ _ := ⟨rfl, fits_real a⟩
  ne_null _ _ := by simp

theorem stable_nat64 : Stable nat64 Json.nat where
  recovers {v n} _ h := by
    obtain ⟨k, hk, rfl⟩ := map_eq_ok.1 h
    obtain ⟨hpos, hmax⟩ := integer_eq_ok hk
    obtain ⟨n, rfl⟩ := Int.eq_ofNat_of_zero_le hpos
    refine ⟨?_, fits_int_iff.2 ⟨hpos.trans' (by decide), hmax⟩⟩
    simp [Json.nat, canonical, nat64, integer, hmax, Except.map]
  ne_null _ _ := by simp [Json.nat]

theorem stable_members : Stable members .object where
  recovers {v ms} hv h := by
    cases v with
    | object ms =>
      cases h
      exact ⟨by rw [canonical_of_ordered hv.ordered]; rfl, hv.fits⟩
    | _ => cases h
  ne_null _ _ := by simp

variable {α : Type} {item : Decoder α} {write : α → Json}

theorem stable_sequence (h : Stable item write) :
    Stable (sequence item) fun as => .array (as.map write) where
  recovers {v as} hv has := by
    cases v with
    | array items =>
      have hall : ∀ a ∈ as, Recovers item write a := fun a ha => by
        obtain ⟨w, hw, ha⟩ := exists_of_mem_mapM has ha
        exact h.recovers (hv.of_mem_array hw) ha
      refine ⟨?_, fits_array_iff.2 fun w hw => ?_⟩
      · rw [canonical, canonicalItems_eq_map, List.map_map]
        refine mapM_eq_ok_iff.2 (List.forall₂_map_left_iff.2 (List.forall₂_same.2 fun a ha => ?_))
        exact (hall a ha).back
      · obtain ⟨a, ha, rfl⟩ := List.mem_map.1 hw
        exact (hall a ha).fits
    | _ => cases has
  ne_null _ _ := by simp

end Decode

end SessionRelay
