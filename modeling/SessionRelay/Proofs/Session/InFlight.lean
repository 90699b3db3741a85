import Mathlib.Data.List.Basic
import SessionRelay.Session.InFlight

/-!
# The table of running requests

The table is read through `numbers`: setting the requests with an id changes that id alone
(`numbers_setNumbers`), and an id without requests is not kept, so a table in which no id has
requests is empty (`running_eq_nil`).
-/

namespace SessionRelay.InFlight

/-- The numbers that a list of running requests has for an id. -/
def lookup (id : Rpc.Id) : List (Rpc.Id × List Nat) → List Nat
  | [] => []
  | (key, numbers) :: rest => if key = id then numbers else lookup id rest

theorem numbers_eq (t : InFlight) (id : Rpc.Id) : t.numbers id = lookup id t.running := by
  unfold numbers
  induction t.running with
  | nil => rfl
  | cons e rest ih =>
    obtain ⟨key, numbers⟩ := e
    by_cases h : key = id <;> simp [lookup, h, ih]

theorem lookup_filter_self (id : Rpc.Id) : ∀ running : List (Rpc.Id × List Nat),
    lookup id (running.filter fun (k, _) => k != id) = []
  | [] => rfl
  | (k, numbers) :: rest => by
    have ih := lookup_filter_self id rest
    by_cases h : k = id <;> simp [lookup, h, ih]

theorem lookup_filter_ne {id key : Rpc.Id} (hne : key ≠ id) :
    ∀ running : List (Rpc.Id × List Nat),
      lookup key (running.filter fun (k, _) => k != id) = lookup key running
  | [] => rfl
  | (k, numbers) :: rest => by
    have ih := lookup_filter_ne hne rest
    by_cases h : k = id
    · subst h
      simp [lookup, hne.symm, ih]
    · simp [lookup, h, ih]

theorem lookup_map_self {id : Rpc.Id} (numbers : List Nat) :
    ∀ {running : List (Rpc.Id × List Nat)}, (running.any fun (k, _) => k == id) = true →
      lookup id (running.map fun (k, old) => if k == id then (k, numbers) else (k, old)) = numbers
  | (k, old) :: rest, h => by
    simp only [List.map_cons]
    by_cases hk : k = id
    · simp [lookup, hk]
    · simp only [List.any_cons, beq_eq_false_iff_ne.2 hk, Bool.false_or] at h
      rw [if_neg (by simpa using hk), lookup, if_neg hk, lookup_map_self numbers h]

theorem lookup_map_ne {id key : Rpc.Id} (hne : key ≠ id) (numbers : List Nat) :
    ∀ running : List (Rpc.Id × List Nat),
      lookup key (running.map fun (k, old) => if k == id then (k, numbers) else (k, old)) =
        lookup key running
  | [] => rfl
  | (k, old) :: rest => by
    have ih := lookup_map_ne hne numbers rest
    simp only [List.map_cons]
    by_cases h : k = id
    · subst h
      rw [if_pos (by simp), lookup, lookup, if_neg hne.symm, if_neg hne.symm, ih]
    · rw [if_neg (by simpa using h), lookup, lookup, ih]

theorem lookup_append_self {id : Rpc.Id} (numbers : List Nat) :
    ∀ {running : List (Rpc.Id × List Nat)}, ¬ (running.any fun (k, _) => k == id) = true →
      lookup id (running ++ [(id, numbers)]) = numbers
  | [], _ => by simp [lookup]
  | (k, old) :: rest, h => by
    simp only [List.any_cons, Bool.or_eq_true, beq_iff_eq, not_or] at h
    simp [lookup, h.1, lookup_append_self numbers h.2]

theorem lookup_append_ne {id key : Rpc.Id} (hne : key ≠ id) (numbers : List Nat) :
    ∀ running : List (Rpc.Id × List Nat),
      lookup key (running ++ [(id, numbers)]) = lookup key running
  | [] => by simp [lookup, hne.symm]
  | (k, old) :: rest => by simp [lookup, lookup_append_ne hne numbers rest]

/-- Setting the requests with an id changes what is read of that id alone. -/
theorem numbers_setNumbers (t : InFlight) (id key : Rpc.Id) (numbers : List Nat) :
    (t.setNumbers id numbers).numbers key = if key = id then numbers else t.numbers key := by
  simp only [numbers_eq]
  unfold setNumbers
  split_ifs with hempty hkey hany hkey hkey
  · subst hkey
    rw [List.isEmpty_iff.1 hempty]
    exact lookup_filter_self key t.running
  · exact lookup_filter_ne hkey t.running
  · subst hkey
    exact lookup_map_self numbers hany
  · exact lookup_map_ne hkey numbers t.running
  · subst hkey
    exact lookup_append_self numbers hany
  · exact lookup_append_ne hkey numbers t.running

@[simp] theorem setNumbers_nextNumber (t : InFlight) (id : Rpc.Id) (numbers : List Nat) :
    (t.setNumbers id numbers).nextNumber = t.nextNumber := by
  unfold setNumbers
  split_ifs <;> rfl

@[simp] theorem setNumbers_cancelled (t : InFlight) (id : Rpc.Id) (numbers : List Nat) :
    (t.setNumbers id numbers).cancelled = t.cancelled := by
  unfold setNumbers
  split_ifs <;> rfl

/-- No id is kept without requests. -/
def NoneEmpty (t : InFlight) : Prop := ∀ e ∈ t.running, e.2 ≠ []

theorem noneEmpty_setNumbers {t : InFlight} (h : t.NoneEmpty) (id : Rpc.Id) (numbers : List Nat) :
    (t.setNumbers id numbers).NoneEmpty := by
  unfold setNumbers
  intro e he
  split_ifs at he with hempty hany
  · exact h e (List.mem_of_mem_filter he)
  · obtain ⟨⟨k, old⟩, hold, rfl⟩ := List.mem_map.1 he
    simp only
    split_ifs
    · simpa using hempty
    · exact h (k, old) hold
  · rcases List.mem_append.1 he with he | he
    · exact h e he
    · rw [List.mem_singleton.1 he]
      simpa using hempty

theorem running_eq_nil {t : InFlight} (h : t.NoneEmpty) (hnone : ∀ id, t.numbers id = []) :
    t.running = [] := by
  cases hrunning : t.running with
  | nil => rfl
  | cons e rest =>
    obtain ⟨key, numbers⟩ := e
    have hkey := hnone key
    rw [numbers_eq, hrunning, lookup, if_pos rfl] at hkey
    exact absurd hkey (h (key, numbers) (hrunning ▸ List.mem_cons_self))

/-! ## Operations -/

theorem register_numbers (t : InFlight) (id key : Rpc.Id) : (t.register id).2.numbers key =
    if key = id then t.numbers id ++ [t.nextNumber] else t.numbers key :=
  numbers_setNumbers t id key _

@[simp] theorem register_cancelled (t : InFlight) (id : Rpc.Id) :
    (t.register id).2.cancelled = t.cancelled :=
  setNumbers_cancelled t id _

theorem finish_numbers (t : InFlight) (id key : Rpc.Id) (number : Nat) :
    (t.finish id number).numbers key =
      if key = id then (t.numbers id).filter (· != number) else t.numbers key :=
  numbers_setNumbers t id key _

@[simp] theorem finish_nextNumber (t : InFlight) (id : Rpc.Id) (number : Nat) :
    (t.finish id number).nextNumber = t.nextNumber :=
  setNumbers_nextNumber t id _

@[simp] theorem finish_cancelled (t : InFlight) (id : Rpc.Id) (number : Nat) :
    (t.finish id number).cancelled = t.cancelled :=
  setNumbers_cancelled t id _

theorem cancel_numbers (t : InFlight) (id key : Rpc.Id) :
    (t.cancel id).2.numbers key = if key = id then [] else t.numbers key := by
  unfold cancel
  split
  · rename_i h
    by_cases hkey : key = id
    · rw [if_pos hkey, hkey, h]
    · rw [if_neg hkey]
  · exact numbers_setNumbers t id key []

theorem cancel_cancelled (t : InFlight) (id : Rpc.Id) :
    (t.cancel id).2.cancelled = t.cancelled ++ t.numbers id := by
  unfold cancel
  split
  · rename_i h
    rw [h, List.append_nil]
  · rfl

@[simp] theorem cancel_nextNumber (t : InFlight) (id : Rpc.Id) :
    (t.cancel id).2.nextNumber = t.nextNumber := by
  unfold cancel
  split
  · rfl
  · exact setNumbers_nextNumber t id []

theorem noneEmpty_cancel {t : InFlight} (h : t.NoneEmpty) (id : Rpc.Id) :
    (t.cancel id).2.NoneEmpty := by
  unfold cancel
  split
  · exact h
  · exact noneEmpty_setNumbers h id []

end SessionRelay.InFlight
