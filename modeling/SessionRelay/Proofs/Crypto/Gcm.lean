import Mathlib.Data.List.Basic
import Mathlib.Tactic.SplitIfs
import SessionRelay.Crypto.Gcm

/-!
# Decryption undoes encryption

Masking twice with the same masks gives the text back, and the tag, which always has 16 bytes, is
found where encryption has put it (`decrypt?_encryptWithTag`). Blocks and round keys keep their 16
bytes through every round and through the expansion of a key.
-/

namespace SessionRelay

namespace Aes

theorem length_xor {n : Nat} {x y : Bytes} (hx : x.length = n) (hy : y.length = n) :
    (xor x y).length = n := by
  simp [xor, hx, hy]

theorem length_fours {α : Type} : ∀ {xs : List α}, (fours xs).length = xs.length / 4
  | [] | [_] | [_, _] | [_, _, _] => by simp [fours]
  | _ :: _ :: _ :: _ :: rest => by
    have ih : (fours rest).length = rest.length / 4 := length_fours
    simp only [fours, List.length_cons, ih]
    omega

theorem exists_of_mem_fours {α : Type} : ∀ {xs : List α} {four : List α}, four ∈ fours xs →
    ∃ a ∈ xs, ∃ b ∈ xs, ∃ c ∈ xs, ∃ d ∈ xs, four = [a, b, c, d]
  | [], _, h | [_], _, h | [_, _], _, h | [_, _, _], _, h => by simp [fours] at h
  | a :: b :: c :: d :: rest, four, h => by
    rcases List.mem_cons.1 h with rfl | h
    · exact ⟨a, by simp, b, by simp, c, by simp, d, by simp, rfl⟩
    · obtain ⟨a', ha, b', hb, c', hc, d', hd, rfl⟩ := exists_of_mem_fours h
      exact ⟨a', by simp [ha], b', by simp [hb], c', by simp [hc], d', by simp [hd], rfl⟩

/-! ## Keys -/

/-- The words of an expansion have four bytes each, and the last eight are there. -/
structure Expansion.Sound (e : Expansion) : Prop where
  enough : 8 ≤ e.words.length
  four : ∀ w ∈ e.words, w.length = 4

theorem sound_nextWord {e : Expansion} (h : e.Sound) : (nextWord e).Sound := by
  obtain ⟨enough, four⟩ := h
  have hlast : (e.words.headD []).length = 4 := by
    cases hwords : e.words with
    | nil => simp [hwords] at enough
    | cons w words => exact four w (by simp [hwords])
  have hearlier : (e.words.getD 7 []).length = 4 := by
    rw [List.getD_eq_getElem?_getD, List.getElem?_eq_getElem (by omega), Option.getD_some]
    exact four _ (List.getElem_mem _)
  have hturned : ((e.words.headD []).drop 1 ++ (e.words.headD []).take 1).length = 4 := by
    rw [List.length_append, List.length_drop, List.length_take, hlast]
    rfl
  have hcons : ∀ {w : Bytes} {constant : UInt8}, w.length = 4 →
      Expansion.Sound ⟨w :: e.words, constant⟩ := fun hw =>
    ⟨by rw [List.length_cons]; omega, List.forall_mem_cons.2 ⟨hw, four⟩⟩
  unfold nextWord
  simp only
  split_ifs
  · exact hcons (length_xor hearlier (length_xor (by rw [List.length_map, hturned]) rfl))
  · exact hcons (length_xor hearlier (by rw [List.length_map, hlast]))
  · exact hcons (length_xor hearlier hlast)

theorem sound_repeat {e : Expansion} (h : e.Sound) : ∀ n : Nat, (Nat.repeat nextWord n e).Sound
  | 0 => h
  | n + 1 => sound_nextWord (sound_repeat h n)

theorem length_of_mem_roundKeys {key : Bytes} (hkey : key.length = 32) {k : Block}
    (hk : k ∈ roundKeys key) : k.length = 16 := by
  have hstart : Expansion.Sound ⟨(fours key).reverse, 1⟩ := by
    have hlength : (fours key).reverse.length = 8 := by
      rw [List.length_reverse, length_fours, hkey]
    refine ⟨Nat.le_of_eq hlength.symm, fun w hw => ?_⟩
    obtain ⟨a, -, b, -, c, -, d, -, rfl⟩ := exists_of_mem_fours (List.mem_reverse.1 hw)
    rfl
  have hwords := (sound_repeat hstart 52).four
  obtain ⟨four, hfour, rfl⟩ := List.mem_map.1 hk
  obtain ⟨a, ha, b, hb, c, hc, d, hd, rfl⟩ := exists_of_mem_fours hfour
  have ha := hwords a (List.mem_reverse.1 ha)
  have hb := hwords b (List.mem_reverse.1 hb)
  have hc := hwords c (List.mem_reverse.1 hc)
  have hd := hwords d (List.mem_reverse.1 hd)
  simp [ha, hb, hc, hd]

/-! ## Blocks -/

theorem length_shiftRows (b : Block) : (shiftRows b).length = 16 := by simp [shiftRows]

theorem length_mixColumns : ∀ b : Block, (mixColumns b).length = b.length / 4 * 4
  | [] | [_] | [_, _] | [_, _, _] => by simp [mixColumns]
  | _ :: _ :: _ :: _ :: rest => by
    have ih := length_mixColumns rest
    simp only [mixColumns, mixColumn, List.length_append, List.length_cons, List.length_nil, ih]
    omega

theorem length_rounds : ∀ {keys : List Block} {b : Block}, (∀ k ∈ keys, k.length = 16) →
    b.length = 16 → (rounds keys b).length = 16
  | [], _, _, hb => hb
  | [key], _, hkeys, _ => length_xor (hkeys key (by simp)) (length_shiftRows _)
  | key :: key' :: keys, b, hkeys, _ => by
    have hmixed : (mixColumns (shiftRows (b.map substitute))).length = 16 := by
      rw [length_mixColumns, length_shiftRows]
    rw [rounds]
    · exact length_rounds (fun k hk => hkeys k (List.mem_cons_of_mem _ hk))
        (length_xor (hkeys key (by simp)) hmixed)
    · simp

theorem length_encrypt {keys : List Block} {b : Block} (hkeys : ∀ k ∈ keys, k.length = 16)
    (hb : b.length = 16) : (encrypt keys b).length = 16 := by
  cases keys with
  | nil => exact hb
  | cons key keys =>
    exact length_rounds (fun k hk => hkeys k (List.mem_cons_of_mem _ hk))
      (length_xor (hkeys key (by simp)) hb)

end Aes

namespace Gcm

variable {keys : List Aes.Block} {nonce : Bytes}

theorem length_bytesOfNat : ∀ count n : Nat, (Sha256.bytesOfNat count n).length = count
  | 0, _ => rfl
  | count + 1, n => by rw [Sha256.bytesOfNat, List.length_cons, length_bytesOfNat count n]

theorem length_tag (hkeys : ∀ k ∈ keys, k.length = 16) (hnonce : nonce.length = nonceLength)
    (text : Bytes) : (tag keys nonce text).length = tagLength := by
  have hblock : (counterBlock nonce 1).length = 16 := by
    rw [counterBlock, List.length_append, hnonce, length_bytesOfNat]
    rfl
  exact Aes.length_xor (length_bytesOfNat 16 _) (Aes.length_encrypt hkeys hblock)

theorem length_mask : ∀ bytes masks : Bytes, (mask bytes masks).length = bytes.length
  | [], _ => rfl
  | _ :: _, [] => rfl
  | _ :: bytes, _ :: masks => by simp [mask, length_mask bytes masks]

theorem mask_mask : ∀ bytes masks : Bytes, mask (mask bytes masks) masks = bytes
  | [], _ => rfl
  | _ :: _, [] => rfl
  | b :: bytes, m :: masks => by
    rw [mask, mask, mask_mask bytes masks, UInt8.xor_assoc, UInt8.xor_self, UInt8.xor_zero]

theorem length_crypt (keys : List Aes.Block) (nonce text : Bytes) :
    (crypt keys nonce text).length = text.length :=
  length_mask _ _

theorem crypt_crypt (keys : List Aes.Block) (nonce text : Bytes) :
    crypt keys nonce (crypt keys nonce text) = text := by
  rw [crypt, length_crypt, crypt, mask_mask]

theorem decrypt?_encryptWithTag (hkeys : ∀ k ∈ keys, k.length = 16)
    (hnonce : nonce.length = nonceLength) (text : Bytes) :
    decrypt? keys nonce (encryptWithTag keys nonce text) = some text := by
  have htag := length_tag hkeys hnonce (crypt keys nonce text)
  have hlength : (crypt keys nonce text ++ tag keys nonce (crypt keys nonce text)).length -
      tagLength = (crypt keys nonce text).length := by
    rw [List.length_append, htag, Nat.add_sub_cancel]
  rw [decrypt?, encryptWithTag]
  simp only [hlength, List.take_left, List.drop_left, if_true, crypt_crypt]

end Gcm

end SessionRelay
