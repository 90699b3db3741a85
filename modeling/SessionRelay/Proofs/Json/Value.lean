import Mathlib.Data.String.Basic
import Mathlib.Data.List.Sort
import SessionRelay.Json.Basic

/-!
# Values in order, and how deep they nest

A value is ordered when every object in it lists its keys in strictly increasing order. Putting a
value in order makes it so (`ordered_canonical`) and leaves an ordered value as it is
(`canonical_of_ordered`), which keeps the nesting too.
-/

namespace SessionRelay.Json

/-- Induction over values: the cases for containers assume the claim of all that they hold. -/
theorem ind {P : Json → Prop} (null : P .null) (bool : ∀ b, P (.bool b))
    (number : ∀ n, P (.number n)) (string : ∀ s, P (.string s))
    (array : ∀ items, (∀ v ∈ items, P v) → P (.array items))
    (object : ∀ members : Members, (∀ m ∈ members, P m.2) → P (.object members)) : ∀ v, P v :=
  @Json.rec P (fun items => ∀ v ∈ items, P v) (fun members => ∀ m ∈ members, P m.2)
    (fun m => P m.2)
    null bool number string array object (by simp)
    (fun _ _ hv hvs => by simpa using ⟨hv, hvs⟩) (by simp)
    (fun _ _ hm hms => List.forall_mem_cons.2 ⟨hm, hms⟩) (fun _ _ hv => hv)

/-! ## Nesting -/

mutual

/-- How many containers stand inside one another at the deepest place of a value. -/
def nesting : Json → Nat
  | .array items => nestingItems items + 1
  | .object members => nestingMembers members + 1
  | _ => 0

def nestingItems : List Json → Nat
  | [] => 0
  | item :: items => max (nesting item) (nestingItems items)

def nestingMembers : List (String × Json) → Nat
  | [] => 0
  | member :: members => max (nestingMember member) (nestingMembers members)

def nestingMember : String × Json → Nat
  | (_, value) => nesting value

end

theorem nestingItems_le {d : Nat} : ∀ {items : List Json},
    nestingItems items ≤ d ↔ ∀ v ∈ items, v.nesting ≤ d
  | [] => by simp [nestingItems]
  | v :: items => by
    simp only [nestingItems, sup_le_iff, nestingItems_le, List.mem_cons, forall_eq_or_imp]

theorem nestingMembers_le {d : Nat} : ∀ {members : List (String × Json)},
    nestingMembers members ≤ d ↔ ∀ m ∈ members, m.2.nesting ≤ d
  | [] => by simp [nestingMembers]
  | (k, v) :: members => by
    simp only [nestingMembers, nestingMember, sup_le_iff, nestingMembers_le, List.mem_cons,
      forall_eq_or_imp]

theorem nesting_array_le {d : Nat} {items : List Json} :
    (array items).nesting ≤ d + 1 ↔ ∀ v ∈ items, v.nesting ≤ d := by
  simp only [nesting, Nat.add_le_add_iff_right, nestingItems_le]

theorem nesting_object_le {d : Nat} {members : Members} :
    (object members).nesting ≤ d + 1 ↔ ∀ m ∈ members, m.2.nesting ≤ d := by
  simp only [nesting, Nat.add_le_add_iff_right, nestingMembers_le]

theorem nesting_object_le_iff {n : Nat} (hn : 0 < n) {members : Members} :
    (object members).nesting ≤ n ↔ ∀ m ∈ members, m.2.nesting < n := by
  obtain ⟨d, rfl⟩ := Nat.exists_eq_succ_of_ne_zero hn.ne'
  simp only [nesting_object_le, Nat.lt_succ_iff]

theorem nesting_lt_of_mem_array {items : List Json} {v : Json} (h : v ∈ items) :
    v.nesting < (array items).nesting :=
  Nat.lt_succ_of_le (nestingItems_le.1 le_rfl v h)

theorem nesting_lt_of_mem_object {members : Members} {m : String × Json} (h : m ∈ members) :
    m.2.nesting < (object members).nesting :=
  Nat.lt_succ_of_le (nestingMembers_le.1 le_rfl m h)

/-! ## Numbers -/

mutual

/-- The numbers in a value, in order of occurrence. -/
def numbers : Json → List Number
  | .number n => [n]
  | .array items => numbersOfItems items
  | .object members => numbersOfMembers members
  | _ => []

def numbersOfItems : List Json → List Number
  | [] => []
  | item :: items => numbers item ++ numbersOfItems items

def numbersOfMembers : List (String × Json) → List Number
  | [] => []
  | member :: members => numbersOfMember member ++ numbersOfMembers members

def numbersOfMember : String × Json → List Number
  | (_, value) => numbers value

end

theorem mem_numbers_array {n : Number} : ∀ {items : List Json},
    n ∈ (array items).numbers ↔ ∃ v ∈ items, n ∈ v.numbers
  | [] => by simp [numbers, numbersOfItems]
  | v :: items => by
    have ih : n ∈ (array items).numbers ↔ _ := mem_numbers_array
    rw [numbers] at ih
    simp only [numbers, numbersOfItems, List.mem_append, ih, List.mem_cons, exists_eq_or_imp]

theorem mem_numbers_object {n : Number} : ∀ {members : Members},
    n ∈ (object members).numbers ↔ ∃ m ∈ members, n ∈ m.2.numbers
  | [] => by simp [numbers, numbersOfMembers]
  | (k, v) :: members => by
    have ih : n ∈ (object members).numbers ↔ _ := mem_numbers_object
    rw [numbers] at ih
    simp only [numbers, numbersOfMembers, numbersOfMember, List.mem_append, ih, List.mem_cons,
      exists_eq_or_imp]

/-! ## Members -/

namespace Members

theorem mem_insert {key : String} {value : Json} {x : String × Json} : ∀ {members : Members},
    x ∈ members.insert key value → x = (key, value) ∨ x ∈ members
  | [], h => by simpa [insert] using h
  | (k, v) :: rest, h => by
    simp only [insert] at h
    split_ifs at h
    · simpa using h
    · rcases List.mem_cons.1 h with h | h
      · exact .inl h
      · exact .inr (List.mem_cons_of_mem _ h)
    · rcases List.mem_cons.1 h with h | h
      · exact .inr (h ▸ List.mem_cons_self)
      · exact (mem_insert h).imp_right (List.mem_cons_of_mem _)

theorem mem_foldl_insert {x : String × Json} : ∀ (written members : List (String × Json)),
    x ∈ written.foldl (fun members (k, v) => insert k v members) members →
      x ∈ written ∨ x ∈ members
  | [], _, h => .inr h
  | (k, v) :: written, members, h => by
    rcases mem_foldl_insert written _ h with h | h
    · exact .inl (List.mem_cons_of_mem _ h)
    · rcases mem_insert h with rfl | h
      · exact .inl List.mem_cons_self
      · exact .inr h

theorem mem_of_mem_ofList {written : List (String × Json)} {x : String × Json}
    (h : x ∈ ofList written) : x ∈ written := by
  simpa using mem_foldl_insert written [] h

/-- Keys in strictly increasing order. -/
def Increasing (members : Members) : Prop := members.Pairwise fun a b => a.1 < b.1

theorem increasing_insert {key : String} {value : Json} : ∀ {members : Members},
    Increasing members → Increasing (members.insert key value)
  | [], _ => by simp [insert, Increasing]
  | (k, v) :: rest, h => by
    obtain ⟨hk, hrest⟩ := List.pairwise_cons.1 h
    simp only [insert]
    split_ifs with hlt heq
    · refine List.pairwise_cons.2 ⟨fun x hx => ?_, h⟩
      rcases List.mem_cons.1 hx with rfl | hx
      · exact hlt
      · exact hlt.trans (hk x hx)
    · subst heq
      exact List.pairwise_cons.2 ⟨hk, hrest⟩
    · refine List.pairwise_cons.2 ⟨fun x hx => ?_, increasing_insert hrest⟩
      rcases mem_insert hx with rfl | hx
      · exact lt_of_le_of_ne (not_lt.1 hlt) (Ne.symm heq)
      · exact hk x hx

theorem increasing_ofList (written : List (String × Json)) : Increasing (ofList written) := by
  suffices h : ∀ (written : List (String × Json)) (members : Members), Increasing members →
      Increasing (written.foldl (fun members (k, v) => insert k v members) members) from
    h written [] List.Pairwise.nil
  intro written
  induction written with
  | nil => exact fun _ h => h
  | cons m written ih => exact fun _ h => ih _ (increasing_insert h)

/-- A key above all others goes to the end. -/
theorem insert_of_lt {key : String} {value : Json} : ∀ {members : Members},
    (∀ m ∈ members, m.1 < key) → members.insert key value = members ++ [(key, value)]
  | [], _ => rfl
  | (k, v) :: rest, h => by
    have hk : k < key := h (k, v) List.mem_cons_self
    simp only [insert, hk.not_gt, hk.ne', if_false, List.cons_append]
    rw [insert_of_lt fun m hm => h m (List.mem_cons_of_mem _ hm)]

theorem ofList_of_increasing {members : Members} (h : Increasing members) :
    ofList members = members := by
  suffices H : ∀ written before : List (String × Json), Increasing (before ++ written) →
      written.foldl (fun members (k, v) => insert k v members) before = before ++ written from
    H members [] h
  intro written
  induction written with
  | nil => simp
  | cons m written ih =>
    intro before hb
    obtain ⟨k, v⟩ := m
    have hlt : ∀ x ∈ before, x.1 < k := fun x hx =>
      (List.pairwise_append.1 hb).2.2 x hx (k, v) List.mem_cons_self
    have hrest := ih (before ++ [(k, v)]) (by simpa using hb)
    simpa [insert_of_lt hlt] using hrest

theorem mem_of_get? {key : String} {value : Json} : ∀ {members : Members},
    get? key members = some value → (key, value) ∈ members
  | [], h => by simp [get?] at h
  | (k, v) :: rest, h => by
    simp only [get?] at h
    split_ifs at h with hk
    · simp only [Option.some.injEq] at h
      simp [hk, h]
    · exact List.mem_cons_of_mem _ (mem_of_get? h)

end Members

/-! ## Order -/

/-- Every object lists its keys in strictly increasing order. -/
inductive Ordered : Json → Prop
  | null : Ordered .null
  | bool (b : Bool) : Ordered (.bool b)
  | number (n : Number) : Ordered (.number n)
  | string (s : String) : Ordered (.string s)
  | array {items : List Json} (h : ∀ v ∈ items, Ordered v) : Ordered (.array items)
  | object {members : Members} (increasing : members.Increasing)
    (h : ∀ m ∈ members, Ordered m.2) : Ordered (.object members)

theorem Ordered.of_mem_array {items : List Json} {v : Json} (h : Ordered (.array items))
    (hv : v ∈ items) : v.Ordered := by
  cases h with
  | array h => exact h v hv

theorem Ordered.of_mem_object {members : Members} {m : String × Json}
    (h : Ordered (.object members)) (hm : m ∈ members) : m.2.Ordered := by
  cases h with
  | object _ h => exact h m hm

theorem ordered_ofMembers {written : List (String × Json)} (h : ∀ m ∈ written, m.2.Ordered) :
    (ofMembers written).Ordered :=
  .object (Members.increasing_ofList written) fun m hm => h m (Members.mem_of_mem_ofList hm)

theorem canonicalItems_eq_map : ∀ items : List Json, canonicalItems items = items.map canonical
  | [] => rfl
  | v :: items => by rw [canonicalItems, canonicalItems_eq_map items, List.map_cons]

theorem canonicalMembers_eq_map : ∀ members : List (String × Json),
    canonicalMembers members = members.map fun m => (m.1, m.2.canonical)
  | [] => rfl
  | (k, v) :: members => by
    rw [canonicalMembers, canonicalMember, canonicalMembers_eq_map members, List.map_cons]

theorem ordered_canonical (v : Json) : v.canonical.Ordered := by
  induction v using Json.ind with
  | null => exact .null
  | bool b => exact .bool b
  | number n => exact .number n
  | string s => exact .string s
  | array items ih =>
    rw [canonical, canonicalItems_eq_map]
    exact .array (List.forall_mem_map.2 ih)
  | object members ih =>
    rw [canonical, canonicalMembers_eq_map]
    exact ordered_ofMembers (List.forall_mem_map.2 ih)

theorem canonical_of_ordered {v : Json} (h : v.Ordered) : v.canonical = v := by
  induction h with
  | null | bool | number | string => rfl
  | array _ ih =>
    rw [canonical, canonicalItems_eq_map, List.map_congr_left ih, List.map_id']
  | @object members increasing _ ih =>
    have hm : members.map (fun m => (m.1, m.2.canonical)) = members := by
      conv_rhs => rw [← List.map_id' members]
      exact List.map_congr_left fun m hm => Prod.ext rfl (ih m hm)
    rw [canonical, canonicalMembers_eq_map, hm, ofMembers, Members.ofList_of_increasing increasing]

end SessionRelay.Json
