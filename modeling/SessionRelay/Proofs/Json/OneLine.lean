import SessionRelay.Proofs.Json.Value
import SessionRelay.Proofs.Number.Literal

/-!
# A written value stands on one line

Whatever its strings hold, a value is written without ASCII's control characters: a string literal
escapes them, and a number consists of digits and a few marks (`oneLine_compactChars`).
-/

namespace SessionRelay

/-- A text without ASCII's control characters, and so without a line break. -/
def OneLine (cs : List Char) : Prop := ∀ c ∈ cs, 32 ≤ c.toNat

instance : DecidablePred OneLine := fun cs =>
  decidable_of_iff (cs.all (fun c => decide (32 ≤ c.toNat)) = true) (by
    simp only [List.all_eq_true, decide_eq_true_eq]
    rfl)

variable {cs ds : List Char} {c : Char}

namespace OneLine

@[simp] theorem nil : OneLine [] := nofun

@[simp] theorem cons_iff : OneLine (c :: cs) ↔ 32 ≤ c.toNat ∧ OneLine cs := List.forall_mem_cons

@[simp] theorem append_iff : OneLine (cs ++ ds) ↔ OneLine cs ∧ OneLine ds := List.forall_mem_append

theorem of_subset (h : OneLine ds) (hsub : cs ⊆ ds) : OneLine cs := fun c hc => h c (hsub hc)

theorem replicate (n : Nat) (h : 32 ≤ c.toNat) : OneLine (List.replicate n c) := fun d hd => by
  rwa [List.eq_of_mem_replicate hd]

/-- Neither line break is among the characters. -/
theorem notMem (h : OneLine cs) (hc : c = '\r' ∨ c = '\n') : c ∉ cs := fun hmem => by
  have hle := h c hmem
  rcases hc with rfl | rfl <;> revert hle <;> decide

end OneLine

/-! ## Numbers -/

theorem Decimal.oneLine_digitChars (n : Nat) : OneLine (digitChars n) := fun c hc => by
  have hdigit := Numeral.isDigit_of_mem_digitChars hc
  simp only [Char.isDigit, Bool.and_eq_true, decide_eq_true_eq] at hdigit
  exact le_trans (by decide) (UInt32.le_iff_toNat_le.1 hdigit.1)

theorem Decimal.oneLine_chars (d : Decimal) : OneLine d.chars := by
  have hdigits := oneLine_digitChars d.digits
  have htake (n : Nat) : OneLine ((digitChars d.digits).take n) :=
    hdigits.of_subset (List.take_subset n _)
  have hdrop (n : Nat) : OneLine ((digitChars d.digits).drop n) :=
    hdigits.of_subset (List.drop_subset n _)
  have htail : OneLine (digitChars d.digits).tail := by simpa using hdrop 1
  have hzeros (n : Nat) : OneLine (List.replicate n '0') := .replicate n (by decide)
  unfold chars
  dsimp only
  split_ifs <;> simp [hdigits, htake, hdrop, htail, hzeros, oneLine_digitChars]

theorem Number.oneLine_chars (n : Number) : OneLine n.chars := by
  cases n with
  | int n =>
    rw [chars, intChars]
    split_ifs <;> simp [Decimal.oneLine_digitChars]
  | real x =>
    rw [chars, Double.chars]
    split_ifs <;> simp [Decimal.oneLine_chars]

namespace Json

/-! ## Strings -/

theorem le_hexDigit : ∀ n < 16, 32 ≤ (hexDigit n).toNat := by decide

theorem oneLine_escape (c : Char) : OneLine (escape c) := by
  unfold escape
  split_ifs with hquote hslash hback hfeed hline hreturn htab hlow
  any_goals decide
  · have hhigh := le_hexDigit (c.toNat / 16) (by omega)
    have hlow := le_hexDigit (c.toNat % 16) (by omega)
    simp [hhigh, hlow]
  · simpa using hlow

theorem oneLine_quote (s : String) : OneLine (quote s) := by
  have hescaped : OneLine (s.toList.flatMap escape) := fun c hc => by
    obtain ⟨d, -, hd⟩ := List.mem_flatMap.1 hc
    exact oneLine_escape d c hd
  simp [quote, hescaped]

/-! ## Values -/

theorem oneLine_compactItems : ∀ {items : List Json},
    (∀ v ∈ items, OneLine v.compactChars) → OneLine (compactItems items)
  | [], _ => by simp [compactItems]
  | v :: items, h => by
    obtain ⟨hv, hitems⟩ := List.forall_mem_cons.1 h
    simp [compactItems, hv, oneLine_compactItems hitems]

theorem oneLine_compactMember {m : String × Json} (h : OneLine m.2.compactChars) :
    OneLine (compactMember m) := by
  obtain ⟨key, value⟩ := m
  simpa [compactMember, oneLine_quote] using h

theorem oneLine_compactMembers : ∀ {members : Members},
    (∀ m ∈ members, OneLine m.2.compactChars) → OneLine (compactMembers members)
  | [], _ => by simp [compactMembers]
  | m :: members, h => by
    obtain ⟨hm, hmembers⟩ := List.forall_mem_cons.1 h
    simp [compactMembers, oneLine_compactMember hm, oneLine_compactMembers hmembers]

theorem oneLine_compactChars (v : Json) : OneLine v.compactChars := by
  induction v using ind with
  | null => decide
  | bool b => cases b <;> decide
  | number n => exact n.oneLine_chars
  | string s => exact oneLine_quote s
  | array items ih =>
    cases items with
    | nil => decide
    | cons v items =>
      obtain ⟨hv, hitems⟩ := List.forall_mem_cons.1 ih
      simp [compactChars, hv, oneLine_compactItems hitems]
  | object members ih =>
    cases members with
    | nil => decide
    | cons m members =>
      obtain ⟨hm, hmembers⟩ := List.forall_mem_cons.1 ih
      simp [compactChars, oneLine_compactMember hm, oneLine_compactMembers hmembers]

end Json

end SessionRelay
