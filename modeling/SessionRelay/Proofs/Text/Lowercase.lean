import SessionRelay.Text.Lowercase

/-!
# Comparing with a text of ASCII characters

The lower case of a text in ASCII is taken letter by letter, and only a text without a sigma has a
lower case in ASCII. So whether a text and one in ASCII have the same lower case does not depend on
where words end (`lowercase_eq_iff`).
-/

namespace SessionRelay.Text

variable {ends other : WordEnd}

def IsAscii (cs : List Char) : Prop := ∀ c ∈ cs, c.toNat < 128

theorem lowerSigma_not_ascii (final : Bool) : ¬ (lowerSigma final).toNat < 128 := by
  cases final <;> decide

theorem toNat_lt_of_isAlphanum {c : Char} (h : c.isAlphanum = true) : c.toNat < 128 := by
  have hbelow : ∀ d : Char, d.toNat < 128 → c.val ≤ d.val → c.toNat < 128 := fun d hd hc =>
    Nat.lt_of_le_of_lt hc hd
  unfold Char.isAlphanum Char.isAlpha Char.isUpper Char.isLower Char.isDigit at h
  simp only [Bool.or_eq_true, Bool.and_eq_true, decide_eq_true_eq] at h
  rcases h with (h | h) | h
  · exact hbelow 'Z' (by decide) h.2
  · exact hbelow 'z' (by decide) h.2
  · exact hbelow '9' (by decide) h.2

theorem toNat_toLower_lt {c : Char} (h : c.toNat < 128) : c.toLower.toNat < 128 := by
  have hall : ∀ n < 128, (Char.ofNat n).toLower.toNat < 128 := by decide
  have := hall c.toNat h
  rwa [Char.ofNat_toNat] at this

theorem lowerChars_of_ascii (before : List Char) : ∀ {cs : List Char}, IsAscii cs →
    lowerChars ends before cs = cs.map Char.toLower
  | [], _ => rfl
  | c :: cs, h => by
    have hc : c.toNat < 128 := h c List.mem_cons_self
    have hsigma : c ≠ '\u03a3' := by
      rintro rfl
      exact absurd hc (by decide)
    have htail : IsAscii cs := fun d hd => h d (List.mem_cons_of_mem c hd)
    rw [lowerChars, if_neg hsigma, lowerChar, if_pos hc, lowerChars_of_ascii _ htail]
    rfl

theorem isAscii_lowerChars (before : List Char) {cs : List Char} (h : IsAscii cs) :
    IsAscii (lowerChars ends before cs) := by
  rw [lowerChars_of_ascii before h]
  intro d hd
  obtain ⟨c, hc, rfl⟩ := List.mem_map.1 hd
  exact toNat_toLower_lt (h c hc)

/-- A lower case in ASCII comes from a text without a sigma. -/
theorem lowerChars_congr (before before' : List Char) : ∀ {cs : List Char},
    IsAscii (lowerChars ends before cs) → lowerChars other before' cs = lowerChars ends before cs
  | [], _ => rfl
  | c :: cs, h => by
    rw [lowerChars] at h
    have htail : IsAscii (lowerChars ends (c :: before) cs) :=
      fun d hd => h d (List.mem_append_right _ hd)
    have hsigma : c ≠ '\u03a3' := by
      intro hc
      rw [if_pos hc] at h
      exact lowerSigma_not_ascii _ (h _ (List.mem_append_left _ List.mem_cons_self))
    rw [lowerChars, lowerChars, if_neg hsigma, if_neg hsigma, lowerChars_congr _ _ htail]

theorem lowercase_congr {s : String} (h : IsAscii (lowerChars ends [] s.toList)) :
    lowercase other s = lowercase ends s := by
  rw [lowercase, lowercase, lowerChars_congr [] [] h]

theorem lowercase_eq_iff {name s : String} (h : IsAscii name.toList) :
    lowercase ends s = lowercase ends name ↔ lowercase other s = lowercase other name := by
  suffices H : ∀ ends other : WordEnd, lowercase ends s = lowercase ends name →
      lowercase other s = lowercase other name from ⟨H ends other, H other ends⟩
  intro ends other hsame
  have hname : IsAscii (lowerChars ends [] name.toList) := isAscii_lowerChars [] h
  have hs : IsAscii (lowerChars ends [] s.toList) := by
    rwa [String.ofList_inj.1 hsame]
  rw [lowercase_congr hs, lowercase_congr hname, hsame]

/-- The Kelvin sign is a capital `k`, and the capital sigma is small in one way or the other. -/
example : lowercase (fun _ rest => rest.isEmpty) "\u212aΕΛΒΙΝΣ" = "kελβινς" := by decide +kernel

end SessionRelay.Text
