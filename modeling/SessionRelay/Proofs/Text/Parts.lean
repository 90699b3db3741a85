import Mathlib.Data.List.Basic
import SessionRelay.Text.Blank
import SessionRelay.Text.Split

/-!
# Parts of a text

A text falls into two parts exactly when the separator stands in it once, between them
(`splitOn_eq_pair_iff`), and trimming leaves a text without blanks as it is (`trim_eq_self`).
-/

namespace SessionRelay.Text

variable {separator : Char} {cs : List Char}

theorem splitOn_ne_nil : ∀ cs : List Char, splitOn separator cs ≠ []
  | [] => by simp [splitOn]
  | c :: cs => by
    rw [splitOn]
    split
    · split_ifs <;> simp
    · simp

theorem splitOn_of_notMem : ∀ {cs : List Char}, separator ∉ cs → splitOn separator cs = [cs]
  | [], _ => rfl
  | c :: cs, h => by
    have hc : c ≠ separator := fun hc => h (hc ▸ List.mem_cons_self)
    have ih := splitOn_of_notMem fun hcs => h (List.mem_cons_of_mem c hcs)
    simp only [splitOn, ih, if_neg hc]

theorem splitOn_append (rest : List Char) : ∀ {part : List Char}, separator ∉ part →
    splitOn separator (part ++ separator :: rest) = part :: splitOn separator rest
  | [], _ => by
    rw [List.nil_append, splitOn]
    cases hrest : splitOn separator rest with
    | nil => exact absurd hrest (splitOn_ne_nil rest)
    | cons part parts => simp
  | c :: part, h => by
    have hc : c ≠ separator := fun hc => h (hc ▸ List.mem_cons_self)
    have ih := splitOn_append rest fun hpart => h (List.mem_cons_of_mem c hpart)
    rw [List.cons_append, splitOn, ih]
    simp only [if_neg hc]

/-- The first part goes up to the first separator, if there is one. -/
theorem splitOn_cases : ∀ {cs part : List Char} {parts : List (List Char)},
    splitOn separator cs = part :: parts → separator ∉ part ∧
      (parts = [] ∧ cs = part ∨
        ∃ rest, cs = part ++ separator :: rest ∧ splitOn separator rest = parts)
  | [], part, parts, h => by
    simp only [splitOn, List.cons.injEq] at h
    simp [← h.1, ← h.2]
  | c :: cs, part, parts, h => by
    rw [splitOn] at h
    split at h
    · rename_i part' parts' hsplit
      obtain ⟨hnot, hrest⟩ := splitOn_cases hsplit
      split_ifs at h with hc
      · simp only [List.cons.injEq] at h
        obtain ⟨rfl, rfl⟩ := h
        exact ⟨by simp, .inr ⟨cs, by simp [hc], hsplit⟩⟩
      · simp only [List.cons.injEq] at h
        obtain ⟨rfl, rfl⟩ := h
        refine ⟨by simp [hnot, Ne.symm hc], ?_⟩
        rcases hrest with ⟨rfl, rfl⟩ | ⟨rest, rfl, hparts⟩
        · exact .inl ⟨rfl, rfl⟩
        · exact .inr ⟨rest, by simp, hparts⟩
    · exact absurd ‹splitOn separator cs = []› (splitOn_ne_nil cs)

theorem splitOn_eq_pair_iff {left right : List Char} : splitOn separator cs = [left, right] ↔
    cs = left ++ separator :: right ∧ separator ∉ left ∧ separator ∉ right := by
  constructor
  · intro h
    obtain ⟨hleft, ⟨hnil, -⟩ | ⟨rest, rfl, hrest⟩⟩ := splitOn_cases h
    · cases hnil
    · obtain ⟨hright, ⟨-, rfl⟩ | ⟨rest', -, hrest'⟩⟩ := splitOn_cases hrest
      · exact ⟨rfl, hleft, hright⟩
      · exact absurd hrest' (splitOn_ne_nil rest')
  · rintro ⟨rfl, hleft, hright⟩
    rw [splitOn_append _ hleft, splitOn_of_notMem hright]

theorem trimChars_eq_self {drop : Char → Bool} (h : ∀ c ∈ cs, drop c = false) :
    trimChars drop cs = cs := by
  have hdrop : ∀ cs : List Char, (∀ c ∈ cs, drop c = false) → cs.dropWhile drop = cs := by
    intro cs hcs
    cases cs with
    | nil => rfl
    | cons c cs => simp [hcs c List.mem_cons_self]
  rw [trimChars, hdrop cs h, hdrop cs.reverse fun c hc => h c (List.mem_reverse.1 hc),
    List.reverse_reverse]

theorem trim_eq_self {s : String} (h : ∀ c ∈ s.toList, isBlank c = false) : trim s = s := by
  rw [trim, trimChars_eq_self h, String.ofList_toList]

end SessionRelay.Text
