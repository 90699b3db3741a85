import Mathlib.Tactic.SplitIfs
import SessionRelay.Encoding.Base64

/-!
# Base 64 in the URL form

Each text is the written form of at most one string of bytes, and each string of bytes has exactly
one written form (`decodeUrl?_eq_some_iff`): the bits that the last group leaves over are zero on
one side and must be zero on the other.
-/

namespace SessionRelay.Base64

theorem value?_char : ∀ n < 64, value? (char .url n) = some n := by decide

theorem char_of_value? {c : Char} {n : Nat} (h : value? c = some n) :
    n < 64 ∧ char .url n = c := by
  unfold value? at h
  split_ifs at h with hupper hlower hdigit hdash hline
  · have hlow : 65 ≤ c.toNat := hupper.1
    have hhigh : c.toNat ≤ 90 := hupper.2
    simp only [Option.some.injEq] at h
    refine ⟨by omega, ?_⟩
    rw [char, if_pos (by omega), show 65 + n = c.toNat by omega, Char.ofNat_toNat]
  · have hlow : 97 ≤ c.toNat := hlower.1
    have hhigh : c.toNat ≤ 122 := hlower.2
    simp only [Option.some.injEq] at h
    refine ⟨by omega, ?_⟩
    rw [char, if_neg (by omega), if_pos (by omega), show 71 + n = c.toNat by omega,
      Char.ofNat_toNat]
  · have hlow : 48 ≤ c.toNat := hdigit.1
    have hhigh : c.toNat ≤ 57 := hdigit.2
    simp only [Option.some.injEq] at h
    refine ⟨by omega, ?_⟩
    rw [char, if_neg (by omega), if_neg (by omega), if_pos (by omega),
      show n - 4 = c.toNat by omega, Char.ofNat_toNat]
  · simp only [Option.some.injEq] at h
    subst h
    exact ⟨by omega, hdash.symm⟩
  · simp only [Option.some.injEq] at h
    subst h
    exact ⟨by omega, hline.symm⟩

theorem ofNat_eq {n : Nat} {x : UInt8} (h : n = x.toNat) : UInt8.ofNat n = x := by
  rw [h, UInt8.ofNat_toNat]

theorem decodeChars?_encodeChars : ∀ bytes : Bytes,
    decodeChars? (encodeChars .url bytes) = some bytes
  | [] => rfl
  | [x] => by
    have hx := x.toNat_lt
    have h₁ := value?_char (x.toNat / 4) (by omega)
    have h₂ := value?_char (x.toNat % 4 * 16) (by omega)
    have hfirst : UInt8.ofNat (x.toNat / 4 * 4 + x.toNat % 4 * 16 / 16) = x :=
      ofNat_eq (by omega)
    simp only [encodeChars, decodeChars?, h₁, h₂, hfirst, Option.bind_eq_bind, Option.bind_some,
      Nat.mul_mod_left, if_true]
  | [x, y] => by
    have hx := x.toNat_lt
    have hy := y.toNat_lt
    have h₁ := value?_char (x.toNat / 4) (by omega)
    have h₂ := value?_char (x.toNat % 4 * 16 + y.toNat / 16) (by omega)
    have h₃ := value?_char (y.toNat % 16 * 4) (by omega)
    have hfirst : UInt8.ofNat (x.toNat / 4 * 4 + (x.toNat % 4 * 16 + y.toNat / 16) / 16) = x :=
      ofNat_eq (by omega)
    have hsecond : UInt8.ofNat ((x.toNat % 4 * 16 + y.toNat / 16) % 16 * 16 +
        y.toNat % 16 * 4 / 4) = y := ofNat_eq (by omega)
    simp only [encodeChars, decodeChars?, h₁, h₂, h₃, hfirst, hsecond, Option.bind_eq_bind,
      Option.bind_some, Nat.mul_mod_left, if_true]
  | x :: y :: z :: rest => by
    have hx := x.toNat_lt
    have hy := y.toNat_lt
    have hz := z.toNat_lt
    have h₁ := value?_char (x.toNat / 4) (by omega)
    have h₂ := value?_char (x.toNat % 4 * 16 + y.toNat / 16) (by omega)
    have h₃ := value?_char (y.toNat % 16 * 4 + z.toNat / 64) (by omega)
    have h₄ := value?_char (z.toNat % 64) (by omega)
    have hfirst : UInt8.ofNat (x.toNat / 4 * 4 + (x.toNat % 4 * 16 + y.toNat / 16) / 16) = x :=
      ofNat_eq (by omega)
    have hsecond : UInt8.ofNat ((x.toNat % 4 * 16 + y.toNat / 16) % 16 * 16 +
        (y.toNat % 16 * 4 + z.toNat / 64) / 4) = y := ofNat_eq (by omega)
    have hthird : UInt8.ofNat ((y.toNat % 16 * 4 + z.toNat / 64) % 4 * 64 + z.toNat % 64) = z :=
      ofNat_eq (by omega)
    have ih := decodeChars?_encodeChars rest
    simp only [encodeChars, decodeChars?, h₁, h₂, h₃, h₄, hfirst, hsecond, hthird, ih,
      Option.bind_eq_bind, Option.bind_some, Option.pure_def]

theorem encodeChars_of_decodeChars? : ∀ {cs : List Char} {bytes : Bytes},
    decodeChars? cs = some bytes → encodeChars .url bytes = cs
  | [], bytes, h => by
    simp only [decodeChars?, Option.some.injEq] at h
    rw [← h, encodeChars]
  | [_], bytes, h => by simp [decodeChars?] at h
  | [a, b], bytes, h => by
    simp only [decodeChars?, Option.bind_eq_bind, Option.bind_eq_some_iff] at h
    obtain ⟨x, hx, y, hy, h⟩ := h
    obtain ⟨hxlt, rfl⟩ := char_of_value? hx
    obtain ⟨hylt, rfl⟩ := char_of_value? hy
    split_ifs at h with hzero
    simp only [Option.some.injEq] at h
    subst h
    simp only [encodeChars, UInt8.toNat_ofNat_of_lt' (show x * 4 + y / 16 < 256 by omega)]
    rw [show (x * 4 + y / 16) / 4 = x by omega, show (x * 4 + y / 16) % 4 * 16 = y by omega]
  | [a, b, c], bytes, h => by
    simp only [decodeChars?, Option.bind_eq_bind, Option.bind_eq_some_iff] at h
    obtain ⟨x, hx, y, hy, z, hz, h⟩ := h
    obtain ⟨hxlt, rfl⟩ := char_of_value? hx
    obtain ⟨hylt, rfl⟩ := char_of_value? hy
    obtain ⟨hzlt, rfl⟩ := char_of_value? hz
    split_ifs at h with hzero
    simp only [Option.some.injEq] at h
    subst h
    simp only [encodeChars, UInt8.toNat_ofNat_of_lt' (show x * 4 + y / 16 < 256 by omega),
      UInt8.toNat_ofNat_of_lt' (show y % 16 * 16 + z / 4 < 256 by omega)]
    rw [show (x * 4 + y / 16) / 4 = x by omega,
      show (x * 4 + y / 16) % 4 * 16 + (y % 16 * 16 + z / 4) / 16 = y by omega,
      show (y % 16 * 16 + z / 4) % 16 * 4 = z by omega]
  | a :: b :: c :: d :: rest, bytes, h => by
    simp only [decodeChars?, Option.bind_eq_bind, Option.bind_eq_some_iff] at h
    obtain ⟨x, hx, y, hy, z, hz, w, hw, tail, htail, h⟩ := h
    obtain ⟨hxlt, rfl⟩ := char_of_value? hx
    obtain ⟨hylt, rfl⟩ := char_of_value? hy
    obtain ⟨hzlt, rfl⟩ := char_of_value? hz
    obtain ⟨hwlt, rfl⟩ := char_of_value? hw
    simp only [Option.pure_def, Option.some.injEq] at h
    subst h
    have ih := encodeChars_of_decodeChars? htail
    simp only [encodeChars, ih, UInt8.toNat_ofNat_of_lt' (show x * 4 + y / 16 < 256 by omega),
      UInt8.toNat_ofNat_of_lt' (show y % 16 * 16 + z / 4 < 256 by omega),
      UInt8.toNat_ofNat_of_lt' (show z % 4 * 64 + w < 256 by omega)]
    rw [show (x * 4 + y / 16) / 4 = x by omega,
      show (x * 4 + y / 16) % 4 * 16 + (y % 16 * 16 + z / 4) / 16 = y by omega,
      show (y % 16 * 16 + z / 4) % 16 * 4 + (z % 4 * 64 + w) / 64 = z by omega,
      show (z % 4 * 64 + w) % 64 = w by omega]

theorem decodeUrl?_eq_some_iff {text : String} {bytes : Bytes} :
    decodeUrl? text = some bytes ↔ text = encodeUrl bytes := by
  constructor
  · intro h
    rw [encodeUrl, encodeChars_of_decodeChars? h, String.ofList_toList]
  · rintro rfl
    rw [decodeUrl?, encodeUrl, String.toList_ofList, decodeChars?_encodeChars]

theorem encodeUrl_inj {bytes other : Bytes} : encodeUrl bytes = encodeUrl other ↔ bytes = other := by
  rw [← decodeUrl?_eq_some_iff, decodeUrl?_eq_some_iff.2 rfl, Option.some.injEq, eq_comm]

/-- The characters of the URL alphabet. -/
def IsUrlChar (c : Char) : Prop := c.isAlphanum = true ∨ c = '-' ∨ c = '_'

instance : DecidablePred IsUrlChar := fun _ => inferInstanceAs (Decidable (_ ∨ _))

theorem isUrlChar_char : ∀ n < 64, IsUrlChar (char .url n) := by decide

theorem isUrlChar_of_mem_encodeChars : ∀ {bytes : Bytes} {c : Char},
    c ∈ encodeChars .url bytes → IsUrlChar c
  | [], _, h => by simp [encodeChars] at h
  | [x], c, h => by
    have hx := x.toNat_lt
    simp only [encodeChars, List.mem_cons, List.not_mem_nil, or_false] at h
    rcases h with rfl | rfl <;> exact isUrlChar_char _ (by omega)
  | [x, y], c, h => by
    have hx := x.toNat_lt
    have hy := y.toNat_lt
    simp only [encodeChars, List.mem_cons, List.not_mem_nil, or_false] at h
    rcases h with rfl | rfl | rfl <;> exact isUrlChar_char _ (by omega)
  | x :: y :: z :: rest, c, h => by
    have hx := x.toNat_lt
    have hy := y.toNat_lt
    have hz := z.toNat_lt
    simp only [encodeChars, List.mem_cons] at h
    rcases h with rfl | rfl | rfl | rfl | h
    · exact isUrlChar_char _ (by omega)
    · exact isUrlChar_char _ (by omega)
    · exact isUrlChar_char _ (by omega)
    · exact isUrlChar_char _ (by omega)
    · exact isUrlChar_of_mem_encodeChars h

end SessionRelay.Base64
