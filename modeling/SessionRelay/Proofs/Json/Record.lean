import SessionRelay.Json.Decode
import SessionRelay.Proofs.Json.Reading

/-!
# What a record holds

The fields of a record are values that stand directly in the object or array it was read from
(`Record.child_of_read`), so what holds of every value inside a container holds of its fields.
-/

namespace SessionRelay

section

variable {ε α β : Type}

@[simp] theorem ok_bind (a : α) (f : α → Except ε β) : ((Except.ok a : Except ε α) >>= f) = f a :=
  rfl

@[simp] theorem pure_eq_ok (a : α) : (pure a : Except ε α) = .ok a := rfl

theorem bind_eq_ok {x : Except ε α} {f : α → Except ε β} {b : β} :
    (x >>= f) = .ok b ↔ ∃ a, x = .ok a ∧ f a = .ok b := by
  cases x with
  | ok a => simp
  | error e => exact ⟨nofun, nofun⟩

theorem map_eq_ok {x : Except ε α} {f : α → β} {b : β} :
    x.map f = .ok b ↔ ∃ a, x = .ok a ∧ f a = b := by
  cases x <;> simp [Except.map]

variable {f : α → Except ε β}

theorem mapM_eq_ok_iff : ∀ {as : List α} {bs : List β},
    as.mapM f = .ok bs ↔ List.Forall₂ (fun a b => f a = .ok b) as bs
  | [], bs => by
    rw [List.mapM_nil, List.forall₂_nil_left_iff]
    simp [eq_comm]
  | a :: as, bs => by
    have ih : ∀ {rest}, as.mapM f = .ok rest ↔ _ := fun {_} => mapM_eq_ok_iff
    simp only [List.mapM_cons, bind_eq_ok, ih, List.forall₂_cons_left_iff]
    simp [eq_comm]

theorem exists_of_mem_mapM {as : List α} {bs : List β} (h : as.mapM f = .ok bs) {b : β}
    (hb : b ∈ bs) : ∃ a ∈ as, f a = .ok b := by
  replace h := mapM_eq_ok_iff.1 h
  induction h with
  | nil => cases hb
  | cons hab _ ih =>
    rcases List.mem_cons.1 hb with rfl | hb
    · exact ⟨_, List.mem_cons_self, hab⟩
    · obtain ⟨a, ha, hab⟩ := ih hb
      exact ⟨a, List.mem_cons_of_mem _ ha, hab⟩

end

namespace Json

/-- The first value stands directly in the second. -/
inductive Child (w : Json) : Json → Prop
  | array {items : List Json} (h : w ∈ items) : Child w (.array items)
  | object {members : Members} {key : String} (h : (key, w) ∈ members) : Child w (.object members)

theorem Child.tidy {w v : Json} (h : Child w v) (hv : v.Tidy) : w.Tidy := by
  cases h with
  | array h => exact hv.of_mem_array h
  | object h => exact hv.of_mem_object h

theorem Child.nesting_lt {w v : Json} (h : Child w v) : w.nesting < v.nesting := by
  cases h with
  | array h => exact nesting_lt_of_mem_array h
  | object h => exact nesting_lt_of_mem_object h

end Json

namespace Decode

theorem nullable_eq_ok {α : Type} {decoder : Decoder α} {v : Json} {o : Option α}
    (h : nullable decoder v = .ok o) : v = .null ∧ o = none ∨
      v ≠ .null ∧ ∃ a, decoder v = .ok a ∧ o = some a := by
  cases v with
  | null =>
    simp only [nullable, Except.ok.injEq] at h
    exact .inl ⟨rfl, h.symm⟩
  | _ =>
    obtain ⟨a, ha, h⟩ := map_eq_ok.1 h
    exact .inr ⟨by simp, a, ha, h.symm⟩

theorem nullable_of_ne {α : Type} {decoder : Decoder α} {v : Json} (h : v ≠ .null) :
    nullable decoder v = (decoder v).map some := by
  cases v with
  | null => exact absurd rfl h
  | _ => rfl

theorem integer_eq_ok {low high n : Int} {wanted : String} {v : Json}
    (h : integer low high wanted v = .ok n) : low ≤ n ∧ n ≤ high := by
  cases v with
  | number m =>
    cases m with
    | int m =>
      simp only [integer] at h
      split_ifs at h with hm
      simp only [Except.ok.injEq] at h
      exact h ▸ hm
    | real x => cases h
  | _ => cases h

end Decode

namespace Record

theorem mem_of_ofItems {type : String} {total : Nat} : ∀ {rules : List FieldRule} {n : Nat}
    {items rest : List Json} {fields : Record},
    ofItems type total n rules items = .ok (fields, rest) → ∀ m ∈ fields, m.2 ∈ items
  | [], n, items, rest, fields, h, m, hm => by
    simp only [ofItems, Except.ok.injEq, Prod.mk.injEq] at h
    simp [← h.1] at hm
  | rule :: rules, n, [], rest, fields, h, m, hm => by
    simp only [ofItems] at h
    split_ifs at h
    exact mem_of_ofItems h m hm
  | rule :: rules, n, item :: items, rest, fields, h, m, hm => by
    simp only [ofItems] at h
    obtain ⟨_, _, h⟩ := bind_eq_ok.1 h
    obtain ⟨⟨later, after⟩, hlater, h⟩ := bind_eq_ok.1 h
    simp only [pure_eq_ok, Except.ok.injEq, Prod.mk.injEq] at h
    rw [← h.1] at hm
    rcases List.mem_cons.1 hm with rfl | hm
    · exact List.mem_cons_self
    · exact List.mem_cons_of_mem _ (mem_of_ofItems hlater m hm)

theorem child_of_read {type : String} {rules : List FieldRule} {place : Place} {v : Json}
    {fields : Record} (h : read type rules place v = .ok fields) {name : String} {w : Json}
    (hw : Json.Members.get? name fields = some w) : Json.Child w v := by
  have hmem := Json.Members.mem_of_get? hw
  cases v with
  | object members =>
    simp only [read] at h
    obtain ⟨_, _, h⟩ := bind_eq_ok.1 h
    split at h
    · cases h
    · simp only [pure_eq_ok, Except.ok.injEq] at h
      rw [← h] at hmem
      exact .object (List.mem_of_mem_filter hmem)
  | array items =>
    simp only [read] at h
    obtain ⟨⟨found, rest⟩, hfound, h⟩ := bind_eq_ok.1 h
    simp only at h
    split_ifs at h
    · simp only [pure_eq_ok, Except.ok.injEq] at h
      exact .array (mem_of_ofItems hfound _ (h ▸ hmem))
    · cases place <;> cases h
  | _ => cases h

variable {α : Type} {fields : Record} {name : String} {decoder : Decoder α}

theorem exists_of_get {a : α} (h : fields.get name decoder = .ok a) :
    ∃ w, Json.Members.get? name fields = some w ∧ decoder w = .ok a := by
  unfold get at h
  split at h
  · exact ⟨_, ‹_›, h⟩
  · cases h

/-- A field that may be absent holds something other than `null` when it is there. -/
theorem exists_of_get? {o : Option α} (h : fields.get? name decoder = .ok o) {a : α} (ha : a ∈ o) :
    ∃ w, Json.Members.get? name fields = some w ∧ w ≠ .null ∧ decoder w = .ok a := by
  unfold get? at h
  split at h
  · rcases Decode.nullable_eq_ok h with ⟨_, rfl⟩ | ⟨hne, b, hb, rfl⟩
    · cases ha
    · cases ha
      exact ⟨_, ‹_›, hne, hb⟩
  · cases h
    cases ha

end Record

end SessionRelay
