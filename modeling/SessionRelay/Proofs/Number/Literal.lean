import Mathlib.Data.List.Basic
import Mathlib.Algebra.Order.Group.Int
import SessionRelay.Json.Printer
import SessionRelay.Json.Token

/-!
# Number literals that read back

A number reads back when the literal it is written as names it. Every integer of 64 bits does
(`readsBack_int`), and every integer that a literal names is one (`fits_of_toNumber?`).
A literal consists of numeral characters only and starts with a digit or a minus sign, so that a
reader that has begun one goes on to its end.
-/

namespace SessionRelay

namespace Numeral

/-! ## Digits -/

theorem isDigit_of_digit? {c : Char} {d : Nat} (h : digit? c = some d) : c.isDigit = true := by
  simp only [digit?] at h
  split_ifs at h with hc
  simpa [Char.isDigit, Char.le_def] using hc

theorem digit?_of_isDigit {c : Char} (h : c.isDigit = true) : digit? c = some (c.toNat - 48) := by
  have hc : '0' ≤ c ∧ c ≤ '9' := by simpa [Char.isDigit, Char.le_def] using h
  simp [digit?, hc]

theorem spanDigits_append {rest : List Char} (hrest : ∀ c ∈ rest.head?, c.isDigit = false) :
    ∀ {ds : List Char}, (∀ c ∈ ds, c.isDigit = true) →
      spanDigits (ds ++ rest) = (ds.map fun c => c.toNat - 48, rest)
  | [], _ => by
    cases rest with
    | nil => rfl
    | cons c rest =>
      have hc : digit? c = none := by
        by_contra h
        obtain ⟨d, hd⟩ := Option.ne_none_iff_exists'.1 h
        have := hrest c (by simp)
        rw [isDigit_of_digit? hd] at this
        cases this
      simp [spanDigits, hc]
  | c :: ds, h => by
    have ih := spanDigits_append hrest fun c hc => h c (List.mem_cons_of_mem _ hc)
    simp only [List.cons_append, spanDigits, digit?_of_isDigit (h c List.mem_cons_self), ih,
      List.map_cons]

/-- What is spanned is digits, and the rest follows them. -/
theorem exists_of_spanDigits : ∀ {cs rest : List Char} {ds : List Nat},
    spanDigits cs = (ds, rest) → ∃ before, cs = before ++ rest ∧ before.length = ds.length ∧
      ∀ c ∈ before, c.isDigit = true
  | [], rest, ds, h => by
    simp only [spanDigits, Prod.mk.injEq] at h
    exact ⟨[], by simp [← h.1, ← h.2]⟩
  | c :: cs, rest, ds, h => by
    simp only [spanDigits] at h
    split at h
    · rename_i d hd
      simp only [Prod.mk.injEq] at h
      obtain ⟨rfl, hrest⟩ := h
      have hspan : spanDigits cs = ((spanDigits cs).1, rest) := Prod.ext rfl hrest
      obtain ⟨before, hcs, hlen, hdig⟩ := exists_of_spanDigits hspan
      refine ⟨c :: before, by rw [hcs, List.cons_append], by simp [hlen], ?_⟩
      exact List.forall_mem_cons.2 ⟨isDigit_of_digit? hd, hdig⟩
    · simp only [Prod.mk.injEq] at h
      exact ⟨[], by simp [← h.1, ← h.2]⟩

theorem natOfDigits_append_singleton (ds : List Nat) (d : Nat) :
    natOfDigits (ds ++ [d]) = 10 * natOfDigits ds + d := by
  simp [natOfDigits]

theorem toNat_digitChar : ∀ d < 10, d.digitChar.toNat - 48 = d := by decide

theorem natOfDigits_digitChars (n : Nat) :
    natOfDigits ((Decimal.digitChars n).map fun c => c.toNat - 48) = n := by
  induction n using Nat.strong_induction_on with
  | _ n ih =>
    rw [Decimal.digitChars, Nat.toDigits_eq_if (by decide)]
    split
    · rename_i h
      simp [natOfDigits, toNat_digitChar n h]
    · rename_i h
      have hq := ih (n / 10) (by omega)
      rw [Decimal.digitChars] at hq
      rw [List.map_append, List.map_singleton, natOfDigits_append_singleton, hq,
        toNat_digitChar _ (Nat.mod_lt n (by decide))]
      omega

theorem isDigit_of_mem_digitChars {n : Nat} {c : Char} (h : c ∈ Decimal.digitChars n) :
    c.isDigit = true :=
  Nat.isDigit_of_mem_toDigits (by decide) (by decide) h

theorem head_digitChar_ne : ∀ d < 10, d ≠ 0 → d.digitChar ≠ '0' := by decide

/-- No leading zero is written, except for zero itself. -/
theorem head?_digitChars {n : Nat} (hn : n ≠ 0) :
    ∃ c ds, Decimal.digitChars n = c :: ds ∧ c ≠ '0' := by
  induction n using Nat.strong_induction_on with
  | _ n ih =>
    rw [Decimal.digitChars, Nat.toDigits_eq_if (by decide)]
    split
    · rename_i h
      exact ⟨n.digitChar, [], rfl, head_digitChar_ne n h hn⟩
    · rename_i h
      obtain ⟨c, ds, hds, hc⟩ := ih (n / 10) (by omega) (by omega)
      rw [Decimal.digitChars] at hds
      exact ⟨c, ds ++ [(n % 10).digitChar], by rw [hds, List.cons_append], hc⟩

/-! ## Literals -/

theorem isNumeralChar_of_isDigit {c : Char} (h : c.isDigit = true) :
    Json.isNumeralChar c = true := by
  simp [Json.isNumeralChar, h]

theorem isNumeralChar_of_exponentPart? {cs : List Char} {e : Option (Bool × List Nat)}
    (h : exponentPart? cs = some e) : ∀ c ∈ cs, Json.isNumeralChar c = true := by
  cases cs with
  | nil => simp
  | cons c cs =>
    simp only [exponentPart?] at h
    split_ifs at h with hc
    have hcn : Json.isNumeralChar c = true := by rcases hc with rfl | rfl <;> decide
    refine List.forall_mem_cons.2 ⟨hcn, ?_⟩
    split at h
    · cases h
    · rename_i ds _ hs
      obtain ⟨before, hb, -, hdig⟩ := exists_of_spanDigits hs
      rw [List.append_nil] at hb
      rw [← hb] at hdig
      -- at most one sign stands before the digits
      split at hdig
      · exact List.forall_mem_cons.2 ⟨by decide, fun c hc => isNumeralChar_of_isDigit (hdig c hc)⟩
      · exact List.forall_mem_cons.2 ⟨by decide, fun c hc => isNumeralChar_of_isDigit (hdig c hc)⟩
      · exact fun c hc => isNumeralChar_of_isDigit (hdig c hc)
    · cases h

/-- The characters of a literal without its sign. -/
theorem unsigned_of_ofChars? {unsigned : List Char} {negative : Bool} {l : Numeral}
    (h : (match spanDigits unsigned with
      | ([], _) => none
      | (0 :: _ :: _, _) => none
      | (whole, '.' :: rest) =>
        match spanDigits rest with
        | ([], _) => none
        | (fraction, rest) =>
          (exponentPart? rest).map fun exponent =>
            (⟨negative, whole, some fraction, exponent⟩ : Numeral)
      | (whole, rest) =>
        (exponentPart? rest).map fun exponent => ⟨negative, whole, none, exponent⟩) = some l) :
    (∀ c ∈ unsigned, Json.isNumeralChar c = true) ∧
      ∃ c ∈ unsigned.head?, c.isDigit = true := by
  -- the whole digits, which are there, and what follows them
  have hwhole : ∀ {ds : List Nat} {rest : List Char}, spanDigits unsigned = (ds, rest) → ds ≠ [] →
      (∀ c ∈ rest, Json.isNumeralChar c = true) →
      (∀ c ∈ unsigned, Json.isNumeralChar c = true) ∧
        ∃ c ∈ unsigned.head?, c.isDigit = true := by
    intro ds rest hs hne hrest
    obtain ⟨before, rfl, hlen, hdig⟩ := exists_of_spanDigits hs
    refine ⟨fun c hc => ?_, ?_⟩
    · rcases List.mem_append.1 hc with hc | hc
      · exact isNumeralChar_of_isDigit (hdig c hc)
      · exact hrest c hc
    · cases before with
      | nil => exact absurd (List.length_eq_zero_iff.1 hlen.symm) hne
      | cons c before => exact ⟨c, by simp, hdig c List.mem_cons_self⟩
  split at h
  · cases h
  · cases h
  · rename_i ds rest hne _ hs
    split at h
    · cases h
    · rename_i fraction rest' hne' hs'
      obtain ⟨e, he, -⟩ := Option.map_eq_some_iff.1 h
      obtain ⟨before, rfl, -, hdig⟩ := exists_of_spanDigits hs'
      refine hwhole hs hne (List.forall_mem_cons.2 ⟨by decide, ?_⟩)
      intro c hc
      rcases List.mem_append.1 hc with hc | hc
      · exact isNumeralChar_of_isDigit (hdig c hc)
      · exact isNumeralChar_of_exponentPart? he c hc
  · rename_i ds rest hne _ _ hs
    obtain ⟨e, he, -⟩ := Option.map_eq_some_iff.1 h
    exact hwhole hs hne (isNumeralChar_of_exponentPart? he)

theorem chars_of_ofChars? {cs : List Char} {l : Numeral} (h : ofChars? cs = some l) :
    (∀ c ∈ cs, Json.isNumeralChar c = true) ∧
      ∃ c ∈ cs.head?, c.isDigit = true ∨ c = '-' := by
  obtain ⟨hall, c, hc, hdig⟩ := unsigned_of_ofChars? h
  cases cs with
  | nil => cases hc
  | cons d cs =>
    by_cases hd : d = '-'
    · subst hd
      exact ⟨List.forall_mem_cons.2 ⟨by decide, hall⟩, '-', rfl, .inr rfl⟩
    · split at hall
      · rename_i heq
        cases heq
        exact absurd rfl hd
      · rename_i hne
        split at hc
        · rename_i heq
          cases heq
          exact absurd rfl hd
        · exact ⟨hall, c, hc, .inl hdig⟩

/-- The digits of a number, as they are read. -/
def digitsOf (n : Nat) : List Nat := (Decimal.digitChars n).map fun c => c.toNat - 48

theorem spanDigits_digitChars (n : Nat) :
    spanDigits (Decimal.digitChars n) = (digitsOf n, []) := by
  have h : spanDigits (Decimal.digitChars n ++ []) = _ :=
    spanDigits_append (by simp) fun c => isDigit_of_mem_digitChars
  rwa [List.append_nil] at h

/-- Digits are there, and a leading zero only for zero itself. -/
theorem digitsOf_cases (n : Nat) :
    digitsOf n = [0] ∨ ∃ d ds, digitsOf n = (d + 1) :: ds := by
  rcases eq_or_ne n 0 with rfl | hn
  · exact .inl (by decide)
  · obtain ⟨c, cs, hcs, hc⟩ := head?_digitChars hn
    have hdig : c.isDigit = true := isDigit_of_mem_digitChars (n := n) (hcs ▸ List.mem_cons_self)
    have h48 : 48 ≤ c.toNat := by
      simp only [Char.isDigit, Bool.and_eq_true, decide_eq_true_eq] at hdig
      exact hdig.1
    have hne : c.toNat ≠ 48 := fun h => hc (Char.toNat_inj.1 h)
    exact .inr ⟨c.toNat - 49, cs.map fun c => c.toNat - 48, by
      rw [digitsOf, hcs, List.map_cons, show c.toNat - 48 = c.toNat - 49 + 1 by omega]⟩

theorem ofChars?_intChars (n : Int) : ofChars? (Number.intChars n) =
    some ⟨decide (n < 0), digitsOf n.natAbs, none, none⟩ := by
  have hspan := spanDigits_digitChars n.natAbs
  simp only [Number.intChars]
  split_ifs with hn
  · simp only [ofChars?, hspan, hn, decide_true]
    rcases digitsOf_cases n.natAbs with h | ⟨d, ds, h⟩ <;> simp [h, exponentPart?]
  · obtain ⟨c, cs, hcs⟩ : ∃ c cs, Decimal.digitChars n.natAbs = c :: cs :=
      List.exists_cons_of_ne_nil Nat.toDigits_ne_nil
    have hc : c ≠ '-' := by
      rintro rfl
      have := isDigit_of_mem_digitChars (n := n.natAbs) (hcs ▸ List.mem_cons_self)
      revert this
      decide
    rw [hcs] at hspan ⊢
    rcases digitsOf_cases n.natAbs with h | ⟨d, ds, h⟩ <;>
      simp [ofChars?, hc, hn, hspan, h, exponentPart?]

end Numeral

namespace Number

/-- The literal that a number is written as names it. -/
def ReadsBack (n : Number) : Prop := (Numeral.ofChars? n.chars).bind Numeral.toNumber? = some n

instance (n : Number) : Decidable n.ReadsBack := inferInstanceAs (Decidable (_ = _))

/-- The integers that stay integers in JSON. -/
def Fits (n : Int) : Prop := Width.int64Min ≤ n ∧ n ≤ Width.nat64Max

theorem readsBack_int {n : Int} (h : Fits n) : (Number.int n).ReadsBack := by
  have hdig : Numeral.natOfDigits (Numeral.digitsOf n.natAbs) = n.natAbs :=
    Numeral.natOfDigits_digitChars n.natAbs
  obtain ⟨hlow, hhigh⟩ := h
  simp only [ReadsBack, chars, Numeral.ofChars?_intChars, Option.bind_some, Numeral.toNumber?,
    Option.isNone_none, and_self, if_true, hdig]
  rcases lt_or_ge n 0 with hn | hn
  · have hneg : -(n.natAbs : Int) = n := by omega
    have hpos : 0 < n.natAbs := by omega
    have hw : Width.isInt64 n = true := by
      have h0 : n ≤ Width.int64Max := hn.le.trans (by decide)
      simp [Width.isInt64, hlow, h0]
    rw [hneg, if_neg (by simp [hn]), if_pos ⟨by simp [hn], hpos, hw⟩]
  · have hsame : (n.natAbs : Int) = n := by omega
    have hle : n.natAbs ≤ Width.nat64Max := by omega
    rw [hsame, if_pos ⟨by simp [hn.not_gt], hle⟩]

theorem fits_of_toNumber? {l : Numeral} {n : Int} (h : l.toNumber? = some (.int n)) : Fits n := by
  have hreal : ∀ {d : Option Double}, d.map Number.real ≠ some (.int n) := by
    intro d hd
    obtain ⟨x, -, hx⟩ := Option.map_eq_some_iff.1 hd
    cases hx
  have hpos : (0 : Int) ≤ Width.nat64Max := by decide
  have hneg : Width.int64Min ≤ 0 := by decide
  simp only [Numeral.toNumber?] at h
  split_ifs at h with _ h1 h2
  · simp only [Option.some.injEq, Number.int.injEq] at h
    subst h
    exact ⟨by omega, by exact_mod_cast h1.2⟩
  · simp only [Option.some.injEq, Number.int.injEq] at h
    subst h
    have hw := h2.2.2
    simp only [Width.isInt64, Bool.and_eq_true, decide_eq_true_eq] at hw
    exact ⟨hw.1, by omega⟩
  · exact absurd h hreal
  · exact absurd h hreal

end Number

end SessionRelay
