import SessionRelay.Proofs.Json.Record

/-!
# Records read from objects

A rule admits a member or its absence. An object whose keys are in order reads as a record exactly
when every rule admits what stands under its name (`read_object_eq_ok`), and then the record holds
the same under these names (`get?_known`). So a typed value is read from an object exactly when it
is built from the members themselves (`read_bind_eq_ok`).
-/

namespace SessionRelay

open Json

theorem check_bind_eq_ok {ε β : Type} {x : Except ε Unit} {f : Unit → Except ε β} {b : β} :
    (x >>= f) = .ok b ↔ x = .ok () ∧ f () = .ok b := by
  cases x <;> simp [bind, Except.bind]

namespace FieldRule

/-- What a rule allows its field to be, absent or not. -/
def Admits (rule : FieldRule) : Option Json → Prop
  | none => rule.optional = true
  | some v => rule.check v = .ok ()

variable {α : Type} {name : String} {decoder : Decoder α} {fields : Record}

@[simp] theorem name_required : (required name decoder).name = name := rfl

@[simp] theorem name_optionalOf : (optionalOf name decoder).name = name := rfl

@[simp] theorem name_placed : (placed name decoder).name = name := rfl

@[simp] theorem name_defaulted : (defaulted name decoder).name = name := rfl

@[simp] theorem admits_required : (required name decoder).Admits (Members.get? name fields) ↔
    ∃ a, fields.get name decoder = .ok a := by
  unfold Record.get
  cases Members.get? name fields <;> simp [Admits, required, map_eq_ok]

@[simp] theorem admits_optionalOf : (optionalOf name decoder).Admits (Members.get? name fields) ↔
    ∃ o, fields.get? name decoder = .ok o := by
  unfold Record.get?
  cases Members.get? name fields <;> simp [Admits, optionalOf, map_eq_ok]

@[simp] theorem admits_placed : (placed name decoder).Admits (Members.get? name fields) ↔
    ∃ o, fields.get? name decoder = .ok o := by
  unfold Record.get?
  cases Members.get? name fields <;> simp [Admits, placed, map_eq_ok]

theorem admits_defaulted (default : α) :
    (defaulted name decoder).Admits (Members.get? name fields) ↔
      ∃ a, fields.getD name decoder default = .ok a := by
  unfold Record.getD
  cases Members.get? name fields <;> simp [Admits, defaulted, map_eq_ok]

end FieldRule

theorem Json.isNull_eq_false_iff {v : Json} : v.isNull = false ↔ v ≠ .null := by
  cases v <;> simp [isNull]

theorem Json.Ordered.increasing {members : Members} (h : (Json.object members).Ordered) :
    Members.Increasing members := by
  cases h with
  | object increasing _ => exact increasing

namespace Json.Members

theorem get?_of_mem {key : String} {value : Json} : ∀ {members : Members},
    members.Increasing → (key, value) ∈ members → get? key members = some value
  | (k, v) :: rest, h, hm => by
    obtain ⟨hk, hrest⟩ := List.pairwise_cons.1 h
    rcases List.mem_cons.1 hm with heq | hm
    · cases heq
      simp [get?]
    · have hne : k ≠ key := (hk _ hm).ne
      simp [get?, hne, get?_of_mem hrest hm]

theorem get?_eq_some_iff {key : String} {value : Json} {members : Members}
    (h : members.Increasing) : get? key members = some value ↔ (key, value) ∈ members :=
  ⟨mem_of_get?, get?_of_mem h⟩

theorem get?_filter {key : String} {p : String → Bool} (hp : p key = true) :
    ∀ members : Members, get? key (members.filter fun (k, _) => p k) = get? key members
  | [] => rfl
  | (k, v) :: rest => by
    by_cases hk : k = key
    · subst hk
      simp [get?, hp]
    · cases hpk : p k <;> simp [hpk, get?, hk, get?_filter hp rest]

end Json.Members

namespace Record

variable {α : Type} {rules : List FieldRule} {type : String} {place : Place} {members : Members}

theorem checkMembers_eq_ok : ∀ {written : List (String × Json)},
    checkMembers rules written = .ok () ↔ ∀ m ∈ written, ∀ rule,
      rules.find? (·.name = m.1) = some rule → rule.check m.2 = .ok ()
  | [] => by simp [checkMembers]
  | (key, value) :: rest => by
    rw [checkMembers, List.forall_mem_cons, ← checkMembers_eq_ok]
    cases rules.find? (·.name = key) with
    | none => simp
    | some rule => simp [check_bind_eq_ok]

/-- The members that a record has a rule for. -/
def known (rules : List FieldRule) (members : Members) : Record :=
  members.filter fun (key, _) => rules.any (·.name = key)

theorem get?_known {name : String} (h : name ∈ rules.map FieldRule.name) :
    Members.get? name (known rules members) = Members.get? name members := by
  obtain ⟨rule, hrule, rfl⟩ := List.mem_map.1 h
  have hany : rules.any (·.name = rule.name) = true :=
    List.any_eq_true.2 ⟨rule, hrule, decide_eq_true rfl⟩
  exact Members.get?_filter (p := fun key => rules.any (·.name = key)) hany members

theorem find?_name (h : (rules.map FieldRule.name).Nodup) {rule : FieldRule} (hr : rule ∈ rules) :
    rules.find? (·.name = rule.name) = some rule := by
  induction rules with
  | nil => cases hr
  | cons first rules ih =>
    rw [List.map_cons, List.nodup_cons] at h
    rcases List.mem_cons.1 hr with rfl | hr
    · simp
    · have hne : first.name ≠ rule.name := fun heq =>
        h.1 (heq ▸ List.mem_map_of_mem (f := FieldRule.name) hr)
      simp [hne, ih h.2 hr]

theorem read_object_eq_ok (hrules : (rules.map FieldRule.name).Nodup)
    (hmembers : members.Increasing) {fields : Record} :
    read type rules place (.object members) = .ok fields ↔
      (∀ rule ∈ rules, rule.Admits (Members.get? rule.name members)) ∧
        fields = known rules members := by
  have hchecked : checkMembers rules members = .ok () ↔ ∀ rule ∈ rules, ∀ v,
      Members.get? rule.name members = some v → rule.check v = .ok () := by
    refine checkMembers_eq_ok.trans ⟨fun h rule hr v hv => ?_, fun h m hm rule hr => ?_⟩
    · exact h _ (Members.mem_of_get? hv) rule (find?_name hrules hr)
    · have hname : rule.name = m.1 := by simpa using List.find?_some hr
      refine h rule (List.mem_of_find?_eq_some hr) m.2 ?_
      rw [hname]
      exact Members.get?_of_mem hmembers hm
  have hpresent : rules.find? (fun rule =>
      !rule.optional && (Members.get? rule.name members).isNone) = none ↔
        ∀ rule ∈ rules, Members.get? rule.name members = none → rule.optional = true := by
    rw [List.find?_eq_none]
    exact forall₂_congr fun rule _ => by
      cases rule.optional <;> cases Members.get? rule.name members <;> simp
  have hadmits : (∀ rule ∈ rules, rule.Admits (Members.get? rule.name members)) ↔
      checkMembers rules members = .ok () ∧ rules.find? (fun rule =>
        !rule.optional && (Members.get? rule.name members).isNone) = none := by
    rw [hchecked, hpresent, ← forall₂_and]
    exact forall₂_congr fun rule _ => by
      cases Members.get? rule.name members <;> simp [FieldRule.Admits]
  rw [read, check_bind_eq_ok, hadmits, and_assoc]
  refine and_congr_right fun _ => ?_
  rw [known]
  cases rules.find? fun rule =>
    !rule.optional && (Members.get? rule.name members).isNone with
  | none => simp [eq_comm]
  | some rule => simp [throw, throwThe, MonadExceptOf.throw]

/-- A typed value is read from an object by building it from the members, if what is built has
fields that every rule admits. -/
theorem read_bind_eq_ok {build : Record → Except DecodeError α} {x : α}
    (hrules : (rules.map FieldRule.name).Nodup) (hmembers : members.Increasing)
    (hbuild : build (known rules members) = build members)
    (hadmits : build members = .ok x →
      ∀ rule ∈ rules, rule.Admits (Members.get? rule.name members)) :
    (read type rules place (.object members) >>= build) = .ok x ↔ build members = .ok x := by
  simp only [bind_eq_ok, read_object_eq_ok hrules hmembers]
  refine ⟨fun ⟨fields, ⟨_, hfields⟩, h⟩ => ?_, fun h => ⟨_, ⟨hadmits h, rfl⟩, hbuild ▸ h⟩⟩
  rw [← hbuild, ← hfields, h]

/-! ## Fields -/

variable {fields : Record} {name : String} {decoder : Decoder α}

theorem get_eq_ok {a : α} : fields.get name decoder = .ok a ↔
    ∃ v, Members.get? name fields = some v ∧ decoder v = .ok a := by
  refine ⟨exists_of_get, fun ⟨v, hv, ha⟩ => ?_⟩
  rw [get, hv]
  exact ha

/-- The value of a member, where `null` counts as none. -/
def value? (name : String) (fields : Record) : Option Json :=
  (Members.get? name fields).filter fun v => !v.isNull

theorem get?_eq_ok {o : Option α} : fields.get? name decoder = .ok o ↔
    Option.Rel (fun v a => decoder v = .ok a) (fields.value? name) o := by
  unfold get? value?
  cases Members.get? name fields with
  | none => cases o <;> simp
  | some v =>
    by_cases hv : v = .null
    · subst hv
      cases o <;> simp [Decode.nullable, Option.filter, isNull]
    · cases o <;>
        simp [Decode.nullable_of_ne hv, map_eq_ok, Option.filter, isNull_eq_false_iff.2 hv]

end Record

end SessionRelay
