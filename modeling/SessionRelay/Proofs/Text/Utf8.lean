import SessionRelay.Proofs.Encoding.Base64
import SessionRelay.Text.Utf8

/-!
# Reading UTF-8 undoes writing it

A text is read from its own bytes and from no others (`decode_eq_ok_iff`). The bounds that a leading
byte sets for the next one are those that keep each character from having a second, longer spelling
and that leave out the halves of surrogate pairs.
-/

namespace SessionRelay.Utf8

open Base64 (ofNat_eq)
open UInt8 (toNat_ofNat_of_lt')

theorem toNat_charOfNat {n : Nat} (h : n.isValidChar) : (Char.ofNat n).toNat = n := by
  rw [Char.ofNat, dif_pos h]
  rfl

/-! ## One character -/

theorem lead?_two {n : Nat} (hlow : 0x80 ≤ n) (hhigh : n < 0x800) :
    lead? (0xC0 + n / 64) = some (1, 0x80, 0xC0) := by
  rw [lead?, if_pos (by omega)]

theorem lead?_three {n : Nat} (hvalid : n.isValidChar) (hlow : 0x800 ≤ n) (hhigh : n < 0x10000) :
    ∃ low high, lead? (0xE0 + n / 4096) = some (2, low, high) ∧ low ≤ 0x80 + n / 64 % 64 ∧
      0x80 + n / 64 % 64 < high := by
  simp only [Nat.isValidChar] at hvalid
  unfold lead?
  split_ifs
  · omega
  · exact ⟨_, _, rfl, by omega, by omega⟩
  · exact ⟨_, _, rfl, by omega, by omega⟩
  · exact ⟨_, _, rfl, by omega, by omega⟩
  all_goals omega

theorem lead?_four {n : Nat} (hlow : 0x10000 ≤ n) (hhigh : n < 0x110000) :
    ∃ low high, lead? (0xF0 + n / 262144) = some (3, low, high) ∧ low ≤ 0x80 + n / 4096 % 64 ∧
      0x80 + n / 4096 % 64 < high := by
  unfold lead?
  split_ifs
  · omega
  · omega
  · omega
  · omega
  · exact ⟨_, _, rfl, by omega, by omega⟩
  · exact ⟨_, _, rfl, by omega, by omega⟩
  · exact ⟨_, _, rfl, by omega, by omega⟩
  · omega

theorem isTail_byte {n : Nat} (h : n < 64) : isTail (UInt8.ofNat (0x80 + n)) = true := by
  simp only [isTail, toNat_ofNat_of_lt' (show 0x80 + n < 256 by omega), Bool.and_eq_true,
    decide_eq_true_eq]
  omega

/-- The bytes of a character are read as that character, whatever follows them. -/
theorem head_encodeCode {c : Char} {b : UInt8} {bs : Bytes} (h : encodeCode c.toNat = b :: bs)
    (rest : Bytes) : head b (bs ++ rest) = .char c rest := by
  have hvalid : c.toNat.isValidChar := c.valid
  have hlt : c.toNat < 0x110000 := by
    simp only [Nat.isValidChar] at hvalid
    omega
  unfold encodeCode at h
  split_ifs at h with hone htwo hthree
  · obtain ⟨rfl, rfl⟩ := List.cons.inj h
    simp only [head, toNat_ofNat_of_lt' (show c.toNat < 256 by omega), if_pos hone, List.nil_append,
      Char.ofNat_toNat]
  · obtain ⟨rfl, rfl⟩ := List.cons.inj h
    have hlead := lead?_two (show 0x80 ≤ c.toNat by omega) htwo
    have hvalue : (0xC0 + c.toNat / 64 - 0xC0) * 64 + (0x80 + c.toNat % 64 - 0x80) =
      c.toNat := by omega
    simp only [head, List.singleton_append,
      toNat_ofNat_of_lt' (show 0xC0 + c.toNat / 64 < 256 by omega),
      toNat_ofNat_of_lt' (show 0x80 + c.toNat % 64 < 256 by omega), hlead, hvalue, Char.ofNat_toNat]
    rw [if_neg (by omega), if_neg (by omega), if_pos trivial]
  · obtain ⟨rfl, rfl⟩ := List.cons.inj h
    obtain ⟨low, high, hlead, hlow, hhigh⟩ :=
      lead?_three hvalid (show 0x800 ≤ c.toNat by omega) hthree
    have htail := isTail_byte (show c.toNat % 64 < 64 by omega)
    have hvalue : (0xE0 + c.toNat / 4096 - 0xE0) * 4096 +
      (0x80 + c.toNat / 64 % 64 - 0x80) * 64 + (0x80 + c.toNat % 64 - 0x80) = c.toNat := by omega
    simp only [head, List.cons_append, List.nil_append,
      toNat_ofNat_of_lt' (show 0xE0 + c.toNat / 4096 < 256 by omega),
      toNat_ofNat_of_lt' (show 0x80 + c.toNat / 64 % 64 < 256 by omega),
      toNat_ofNat_of_lt' (show 0x80 + c.toNat % 64 < 256 by omega), hlead, htail, hvalue,
      Char.ofNat_toNat]
    rw [if_neg (by omega), if_neg (by omega), if_neg (by omega), if_neg (by simp),
      if_pos trivial]
  · obtain ⟨rfl, rfl⟩ := List.cons.inj h
    obtain ⟨low, high, hlead, hlow, hhigh⟩ :=
      lead?_four (show 0x10000 ≤ c.toNat by omega) hlt
    have htail₁ := isTail_byte (show c.toNat / 64 % 64 < 64 by omega)
    have htail₂ := isTail_byte (show c.toNat % 64 < 64 by omega)
    have hvalue : (0xF0 + c.toNat / 262144 - 0xF0) * 262144 +
      (0x80 + c.toNat / 4096 % 64 - 0x80) * 4096 + (0x80 + c.toNat / 64 % 64 - 0x80) * 64 +
      (0x80 + c.toNat % 64 - 0x80) = c.toNat := by omega
    simp only [head, List.cons_append, List.nil_append,
      toNat_ofNat_of_lt' (show 0xF0 + c.toNat / 262144 < 256 by omega),
      toNat_ofNat_of_lt' (show 0x80 + c.toNat / 4096 % 64 < 256 by omega),
      toNat_ofNat_of_lt' (show 0x80 + c.toNat / 64 % 64 < 256 by omega),
      toNat_ofNat_of_lt' (show 0x80 + c.toNat % 64 < 256 by omega), hlead, htail₁, htail₂, hvalue,
      Char.ofNat_toNat]
    rw [if_neg (by omega), if_neg (by omega), if_neg (by omega), if_neg (by simp),
      if_neg (by omega), if_neg (by simp)]

/-- What a leading byte and its bounds allow. -/
theorem lead?_cases {b count low high : Nat} (h : lead? b = some (count, low, high)) :
    0x80 ≤ low ∧ high ≤ 0xC0 ∧
      (count = 1 ∧ 0xC2 ≤ b ∧ b < 0xE0 ∨
        count = 2 ∧ 0xE0 ≤ b ∧ b < 0xF0 ∧ (b = 0xE0 → 0xA0 ≤ low) ∧ (b = 0xED → high ≤ 0xA0) ∨
        count = 3 ∧ 0xF0 ≤ b ∧ b ≤ 0xF4 ∧ (b = 0xF0 → 0x90 ≤ low) ∧ (b = 0xF4 → high ≤ 0x90)) := by
  unfold lead? at h
  split_ifs at h <;> simp only [Option.some.injEq, Prod.mk.injEq] at h <;> omega

theorem tail_bounds {b : UInt8} (h : ¬ (!isTail b) = true) : 0x80 ≤ b.toNat ∧ b.toNat < 0xC0 := by
  simpa [isTail] using h

/-- Two bytes within their bounds are the bytes of the number they stand for. -/
theorem encodeCode_two {b x : UInt8} (hlow : 0xC2 ≤ b.toNat) (hhigh : b.toNat < 0xE0)
    (hx : 0x80 ≤ x.toNat ∧ x.toNat < 0xC0) {n : Nat}
    (hn : n = (b.toNat - 0xC0) * 64 + (x.toNat - 0x80)) :
    n.isValidChar ∧ encodeCode n = [b, x] := by
  refine ⟨.inl (by omega), ?_⟩
  rw [encodeCode, if_neg (by omega), if_pos (by omega), ofNat_eq (x := b) (by omega),
    ofNat_eq (x := x) (by omega)]

theorem encodeCode_three {b x y : UInt8} (hlow : 0xE0 ≤ b.toNat) (hhigh : b.toNat < 0xF0)
    (hx : 0x80 ≤ x.toNat ∧ x.toNat < 0xC0) (hshort : b.toNat = 0xE0 → 0xA0 ≤ x.toNat)
    (hsurrogate : b.toNat = 0xED → x.toNat < 0xA0) (hy : 0x80 ≤ y.toNat ∧ y.toNat < 0xC0) {n : Nat}
    (hn : n = (b.toNat - 0xE0) * 4096 + (x.toNat - 0x80) * 64 + (y.toNat - 0x80)) :
    n.isValidChar ∧ encodeCode n = [b, x, y] := by
  constructor
  · simp only [Nat.isValidChar]
    omega
  · rw [encodeCode, if_neg (by omega), if_neg (by omega), if_pos (by omega),
      ofNat_eq (x := b) (by omega), ofNat_eq (x := x) (by omega), ofNat_eq (x := y) (by omega)]

theorem encodeCode_four {b x y z : UInt8} (hlow : 0xF0 ≤ b.toNat) (hhigh : b.toNat ≤ 0xF4)
    (hx : 0x80 ≤ x.toNat ∧ x.toNat < 0xC0) (hshort : b.toNat = 0xF0 → 0x90 ≤ x.toNat)
    (hlast : b.toNat = 0xF4 → x.toNat < 0x90) (hy : 0x80 ≤ y.toNat ∧ y.toNat < 0xC0)
    (hz : 0x80 ≤ z.toNat ∧ z.toNat < 0xC0) {n : Nat}
    (hn : n = (b.toNat - 0xF0) * 262144 + (x.toNat - 0x80) * 4096 + (y.toNat - 0x80) * 64 +
      (z.toNat - 0x80)) :
    n.isValidChar ∧ encodeCode n = [b, x, y, z] := by
  constructor
  · simp only [Nat.isValidChar]
    omega
  · rw [encodeCode, if_neg (by omega), if_neg (by omega), if_neg (by omega),
      ofNat_eq (x := b) (by omega), ofNat_eq (x := x) (by omega), ofNat_eq (x := y) (by omega),
      ofNat_eq (x := z) (by omega)]

/-- A character is read only from its own bytes. -/
theorem eq_of_head {b : UInt8} {bs rest : Bytes} {c : Char} (h : head b bs = .char c rest) :
    b :: bs = encodeCode c.toNat ++ rest := by
  unfold head at h
  simp only at h
  by_cases hone : b.toNat < 0x80
  · rw [if_pos hone] at h
    obtain ⟨rfl, rfl⟩ := Head.char.inj h
    rw [toNat_charOfNat (.inl (by omega)), encodeCode, if_pos hone, UInt8.ofNat_toNat,
      List.singleton_append]
  rw [if_neg hone] at h
  cases hlead : lead? b.toNat with
  | none => simp [hlead] at h
  | some bounds =>
    obtain ⟨count, low, high⟩ := bounds
    obtain ⟨hlow, hhigh, hcount⟩ := lead?_cases hlead
    rw [hlead] at h
    cases bs with
    | nil => simp at h
    | cons x rest₁ =>
      simp only at h
      by_cases hx : x.toNat < low ∨ high ≤ x.toNat
      · simp [hx] at h
      rw [if_neg hx] at h
      -- the number of bytes that follow decides which of the three spellings this is
      rcases hcount with ⟨rfl, htwo⟩ | ⟨rfl, hthree⟩ | ⟨rfl, hfour⟩
      · rw [if_pos rfl] at h
        obtain ⟨rfl, rfl⟩ := Head.char.inj h
        obtain ⟨hvalid, hcode⟩ := encodeCode_two htwo.1 htwo.2 (x := x) (by omega) rfl
        rw [toNat_charOfNat hvalid, hcode]
        rfl
      · cases rest₁ with
        | nil => simp at h
        | cons y rest₂ =>
          by_cases hy : (!isTail y) = true
          · simp [hy] at h
          rw [if_neg (by decide)] at h
          simp only at h
          rw [if_neg hy, if_pos trivial] at h
          obtain ⟨rfl, rfl⟩ := Head.char.inj h
          obtain ⟨hvalid, hcode⟩ := encodeCode_three hthree.1 hthree.2.1 (x := x) (by omega)
            (by omega) (by omega) (tail_bounds hy) rfl
          rw [toNat_charOfNat hvalid, hcode]
          rfl
      · rw [if_neg (by decide)] at h
        cases rest₁ with
        | nil => simp at h
        | cons y rest₂ =>
          by_cases hy : (!isTail y) = true
          · simp [hy] at h
          simp only at h
          rw [if_neg hy, if_neg (by decide)] at h
          cases rest₂ with
          | nil => simp at h
          | cons z rest₃ =>
            by_cases hz : (!isTail z) = true
            · simp [hz] at h
            simp only at h
            rw [if_neg hz] at h
            obtain ⟨rfl, rfl⟩ := Head.char.inj h
            obtain ⟨hvalid, hcode⟩ := encodeCode_four hfour.1 hfour.2.1 (x := x) (by omega)
              (by omega) (by omega) (tail_bounds hy) (tail_bounds hz) rfl
            rw [toNat_charOfNat hvalid, hcode]
            rfl

/-! ## Texts -/

theorem exists_encodeCode (n : Nat) : ∃ b bs, encodeCode n = b :: bs := by
  unfold encodeCode
  split_ifs <;> exact ⟨_, _, rfl⟩

theorem piecesFrom_flatMap : ∀ (cs : List Char) (fuel : Nat),
    (cs.flatMap fun c => encodeCode c.toNat).length ≤ fuel →
      piecesFrom fuel (cs.flatMap fun c => encodeCode c.toNat) = cs.map .char
  | [], fuel, _ => by cases fuel <;> rfl
  | c :: cs, fuel, hfuel => by
    obtain ⟨b, bs, hcode⟩ := exists_encodeCode c.toNat
    rw [List.flatMap_cons, hcode, List.cons_append, List.length_cons, List.length_append] at hfuel
    obtain ⟨fuel, rfl⟩ : ∃ n, fuel = n + 1 := ⟨fuel - 1, by omega⟩
    have ih := piecesFrom_flatMap cs fuel (by omega)
    rw [List.flatMap_cons, hcode, List.cons_append, piecesFrom, head_encodeCode hcode]
    simp only [ih, List.map_cons]

theorem charsOf_map_char : ∀ (cs : List Char) (read : Nat), charsOf read (cs.map .char) = .ok cs
  | [], _ => rfl
  | c :: cs, read => by
    rw [List.map_cons, charsOf, charsOf_map_char cs]
    rfl

theorem eq_flatMap_of_charsOf : ∀ {fuel read : Nat} {bytes : Bytes} {cs : List Char},
    bytes.length ≤ fuel → charsOf read (piecesFrom fuel bytes) = .ok cs →
      bytes = cs.flatMap fun c => encodeCode c.toNat
  | 0, read, bytes, cs, hfuel, h => by
    obtain rfl : bytes = [] := List.length_eq_zero_iff.1 (Nat.le_zero.1 hfuel)
    cases h
    rfl
  | fuel + 1, read, [], cs, _, h => by
    cases h
    rfl
  | fuel + 1, read, b :: bs, cs, hfuel, h => by
    rw [piecesFrom] at h
    split at h
    · rename_i c rest hhead
      have hbytes := eq_of_head hhead
      rw [charsOf] at h
      cases htail : charsOf (read + (encodeCode c.toNat).length) (piecesFrom fuel rest) with
      | error e => rw [htail] at h; cases h
      | ok tail =>
        rw [htail] at h
        cases h
        have hlength : rest.length ≤ fuel := by
          obtain ⟨b', bs', hcode⟩ := exists_encodeCode c.toNat
          have hsame := congrArg List.length hbytes
          rw [hcode, List.length_append, List.length_cons, List.length_cons] at hsame
          rw [List.length_cons] at hfuel
          omega
        rw [hbytes, List.flatMap_cons, ← eq_flatMap_of_charsOf hlength htail]
    · cases h
    · cases h

theorem decode_eq_ok_iff {bytes : Bytes} {s : String} :
    decode bytes = .ok s ↔ bytes = encode s := by
  constructor
  · intro h
    unfold decode at h
    cases hchars : charsOf 0 (pieces bytes) with
    | error e => rw [hchars] at h; cases h
    | ok cs =>
      rw [hchars] at h
      cases h
      rw [encode, String.toList_ofList]
      exact eq_flatMap_of_charsOf (Nat.le_refl _) hchars
  · rintro rfl
    rw [decode, pieces, encode, piecesFrom_flatMap _ _ (Nat.le_refl _), charsOf_map_char]
    simp [Except.map]

theorem decode?_eq_some_iff {bytes : Bytes} {s : String} :
    decode? bytes = some s ↔ bytes = encode s := by
  rw [← decode_eq_ok_iff, decode?]
  cases decode bytes <;> simp [Except.toOption]

end SessionRelay.Utf8
