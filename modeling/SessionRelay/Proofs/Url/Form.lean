import SessionRelay.Proofs.Encoding.Base64
import SessionRelay.Proofs.Text.Lowercase
import SessionRelay.Proofs.Text.Parts
import SessionRelay.Proofs.Text.Utf8
import SessionRelay.Url.Form

/-!
# Form coding can be undone

Every text is read back from its written form, whatever characters it holds (`decode_encode`), and
the written form has none of the characters that a query is taken apart by. So reading a query gives
the names and values that it was written from (`pairs_write`).
-/

namespace SessionRelay.Url

theorem percentDecode_cons {b : UInt8} (h : b ≠ 0x25) (rest : Bytes) :
    percentDecode (b :: rest) = b :: percentDecode rest := by
  rw [percentDecode]
  exact fun _ _ _ hb _ => h hb

theorem hexDigitValue?_upperHexDigit : ∀ n < 16,
    (upperHexDigit n).toNat < 0x80 ∧ upperHexDigit n ≠ '+' ∧ (upperHexDigit n).isAlphanum = true ∧
      hexDigitValue? (UInt8.ofNat (upperHexDigit n).toNat) = some n := by
  decide

namespace Form

/-- The characters of written names and values. -/
def IsFormChar (c : Char) : Prop := c.isAlphanum = true ∨ c ∈ ['*', '-', '.', '_', '+', '%']

instance : DecidablePred IsFormChar := fun _ => inferInstanceAs (Decidable (_ ∨ _))

/-- A plus is read as a space. -/
def spaced (c : Char) : Char := if c = '+' then ' ' else c

/-- The bytes that are read of some characters. -/
def bytesOf (cs : List Char) : Bytes := cs.flatMap fun c => Utf8.encodeCode (spaced c).toNat

theorem bytesOf_cons {c : Char} (hcode : c.toNat < 0x80) (hplus : c ≠ '+') (cs : List Char) :
    bytesOf (c :: cs) = UInt8.ofNat c.toNat :: bytesOf cs := by
  rw [bytesOf, List.flatMap_cons, spaced, if_neg hplus, Utf8.encodeCode, if_pos hcode]
  rfl

theorem decode_eq (cs : List Char) :
    decode cs = Utf8.decodeLossy (percentDecode (bytesOf cs)) := by
  rw [decode, Utf8.encode, String.toList_ofList, List.flatMap_map]
  rfl

theorem isPlain_cases : ∀ n < 0x80, isPlain (UInt8.ofNat n) = true →
    n ≠ 0x25 ∧ Char.ofNat n ≠ '+' ∧ (Char.ofNat n).toNat = n ∧
      ((Char.ofNat n).isAlphanum = true ∨ Char.ofNat n ∈ ['*', '-', '.', '_', '+', '%']) := by
  decide

theorem lt_of_isPlain {b : UInt8} (h : isPlain b = true) : b.toNat < 0x80 := by
  simp only [isPlain, Bool.and_eq_true, decide_eq_true_eq] at h
  exact h.1

/-- Each byte is read back from its written form, whatever follows. -/
theorem percentDecode_encodeByte (b : UInt8) (rest : List Char) :
    percentDecode (bytesOf (encodeByte b ++ rest)) = b :: percentDecode (bytesOf rest) := by
  have hb := b.toNat_lt
  unfold encodeByte
  split_ifs with hspace hplain
  · have hb : b = 32 := UInt8.toNat_inj.1 hspace
    subst hb
    exact percentDecode_cons (by decide) _
  · have hlt := lt_of_isPlain hplain
    obtain ⟨hpercent, hplus, hcode, -⟩ :=
      isPlain_cases b.toNat hlt (by rwa [UInt8.ofNat_toNat])
    rw [List.singleton_append, bytesOf_cons (by omega) hplus, hcode, UInt8.ofNat_toNat]
    refine percentDecode_cons (fun h => hpercent ?_) _
    rw [h]
    rfl
  · obtain ⟨hhigh, hhighPlus, -, hhighValue⟩ :=
      hexDigitValue?_upperHexDigit (b.toNat / 16) (by omega)
    obtain ⟨hlow, hlowPlus, -, hlowValue⟩ :=
      hexDigitValue?_upperHexDigit (b.toNat % 16) (by omega)
    have hvalue : 16 * (b.toNat / 16) + b.toNat % 16 = b.toNat := by omega
    simp only [percentEncode, List.cons_append, List.nil_append]
    rw [bytesOf_cons (by decide) (by decide), bytesOf_cons hhigh hhighPlus,
      bytesOf_cons hlow hlowPlus]
    show percentDecode (0x25 :: _) = _
    rw [percentDecode, hhighValue, hlowValue]
    simp only [hvalue, UInt8.ofNat_toNat]

theorem percentDecode_flatMap_encodeByte : ∀ bytes : Bytes,
    percentDecode (bytesOf (bytes.flatMap encodeByte)) = bytes
  | [] => rfl
  | b :: bytes => by
    rw [List.flatMap_cons, percentDecode_encodeByte, percentDecode_flatMap_encodeByte bytes]

theorem decodeLossy_encode (s : String) : Utf8.decodeLossy (Utf8.encode s) = s := by
  rw [Utf8.decodeLossy, Utf8.pieces, Utf8.encode, Utf8.piecesFrom_flatMap _ _ (Nat.le_refl _),
    List.map_map]
  exact (congrArg String.ofList (List.map_id s.toList)).trans String.ofList_toList

/-- Every text is read back from its written form. -/
theorem decode_encode (s : String) : decode (encode s).toList = s := by
  rw [decode_eq, encode, String.toList_ofList, percentDecode_flatMap_encodeByte,
    decodeLossy_encode]

theorem isFormChar_of_mem_encodeByte {b : UInt8} {c : Char} (h : c ∈ encodeByte b) :
    IsFormChar c := by
  have hb := b.toNat_lt
  unfold encodeByte at h
  split_ifs at h with hspace hplain
  · obtain rfl := List.mem_singleton.1 h
    exact .inr (by decide)
  · obtain rfl := List.mem_singleton.1 h
    obtain ⟨-, -, -, hchar⟩ :=
      isPlain_cases b.toNat (lt_of_isPlain hplain) (by rwa [UInt8.ofNat_toNat])
    exact hchar
  · simp only [percentEncode, List.mem_cons, List.not_mem_nil, or_false] at h
    rcases h with rfl | rfl | rfl
    · exact .inr (by decide)
    · exact .inl (hexDigitValue?_upperHexDigit _ (by omega)).2.2.1
    · exact .inl (hexDigitValue?_upperHexDigit _ (by omega)).2.2.1

theorem isFormChar_of_mem_encode {s : String} {c : Char} (h : c ∈ (encode s).toList) :
    IsFormChar c := by
  rw [encode, String.toList_ofList] at h
  obtain ⟨b, -, hc⟩ := List.mem_flatMap.1 h
  exact isFormChar_of_mem_encodeByte hc

theorem not_isFormChar {c : Char} (h : c ∈ ['&', '=', '#', '?', '\r', '\n']) : ¬ IsFormChar c := by
  simp only [List.mem_cons, List.not_mem_nil, or_false] at h
  rcases h with rfl | rfl | rfl | rfl | rfl | rfl <;> decide

theorem encodeByte_urlChar : ∀ n < 0x80, Base64.IsUrlChar (Char.ofNat n) →
    encodeByte (UInt8.ofNat n) = [Char.ofNat n] := by
  decide

theorem toNat_lt_of_isUrlChar {c : Char} (h : Base64.IsUrlChar c) : c.toNat < 0x80 := by
  rcases h with h | rfl | rfl
  · exact Text.toNat_lt_of_isAlphanum h
  · decide
  · decide

theorem flatMap_encodeByte_urlChars : ∀ cs : List Char, (∀ c ∈ cs, Base64.IsUrlChar c) →
    (cs.flatMap fun c => Utf8.encodeCode c.toNat).flatMap encodeByte = cs
  | [], _ => rfl
  | c :: cs, h => by
    obtain ⟨hc, hcs⟩ := List.forall_mem_cons.1 h
    have hlt := toNat_lt_of_isUrlChar hc
    have hbyte := encodeByte_urlChar c.toNat hlt (by rwa [Char.ofNat_toNat])
    rw [Char.ofNat_toNat] at hbyte
    rw [List.flatMap_cons, List.flatMap_append, flatMap_encodeByte_urlChars cs hcs,
      Utf8.encodeCode, if_pos hlt, List.flatMap_singleton, hbyte, List.singleton_append]

/-- A text of characters that stand for themselves is its own written form. -/
theorem encode_eq_self {s : String} (h : ∀ c ∈ s.toList, Base64.IsUrlChar c) : encode s = s := by
  rw [encode, Utf8.encode, flatMap_encodeByte_urlChars _ h, String.ofList_toList]

/-! ## Queries -/

/-- A name with its value, as it is written in a query. -/
def written (p : String × String) : List Char := (encode p.1).toList ++ '=' :: (encode p.2).toList

/-- Names and values as a query. -/
def write : List (String × String) → List Char
  | [] => []
  | [p] => written p
  | p :: q :: rest => written p ++ '&' :: write (q :: rest)

theorem notMem_encode {s : String} {c : Char} (h : c ∈ ['&', '=', '#', '?', '\r', '\n']) :
    c ∉ (encode s).toList := fun hc => not_isFormChar h (isFormChar_of_mem_encode hc)

theorem notMem_written (p : String × String) {c : Char} (h : c ∈ ['&', '#', '?', '\r', '\n']) :
    c ∉ written p := by
  have hall : c ∈ ['&', '=', '#', '?', '\r', '\n'] := by
    simp only [List.mem_cons] at h ⊢
    tauto
  have hne : c ≠ '=' := by
    rintro rfl
    revert h
    decide
  simp only [written, List.mem_append, List.mem_cons, not_or]
  exact ⟨notMem_encode hall, hne, notMem_encode hall⟩

theorem pair_written (p : String × String) : pair (written p) = p := by
  have hname : ∀ c ∈ (encode p.1).toList, (c ≠ '=') := fun c hc h =>
    notMem_encode (by decide) (h ▸ hc)
  have htake : (written p).takeWhile (· ≠ '=') = (encode p.1).toList := by
    rw [written, List.takeWhile_append_of_pos (by simpa using hname)]
    simp
  have hdrop : (written p).dropWhile (· ≠ '=') = '=' :: (encode p.2).toList := by
    rw [written, List.dropWhile_append_of_pos (by simpa using hname)]
    simp
  rw [pair, htake, hdrop, List.drop_one, List.tail_cons, decode_encode, decode_encode]

theorem splitOn_write : ∀ (p : String × String) (ps : List (String × String)),
    Text.splitOn '&' (write (p :: ps)) = (p :: ps).map written
  | p, [] => Text.splitOn_of_notMem (notMem_written p (by decide))
  | p, q :: ps => by
    rw [write, Text.splitOn_append _ (notMem_written p (by decide)), splitOn_write q ps]
    rfl

/-- Reading a query gives what it was written from. -/
theorem pairs_write (ps : List (String × String)) : pairs (String.ofList (write ps)) = ps := by
  rw [pairs, String.toList_ofList]
  cases ps with
  | nil => rfl
  | cons p ps =>
    have hfull : ∀ piece ∈ (p :: ps).map written, (!piece.isEmpty) = true := by
      intro piece hpiece
      obtain ⟨q, -, rfl⟩ := List.mem_map.1 hpiece
      simp [written]
    have hpair : pair ∘ written = id := funext pair_written
    rw [splitOn_write, List.filter_eq_self.2 hfull, List.map_map, hpair, List.map_id]

theorem notMem_write {c : Char} (h : c ∈ ['#', '?', '\r', '\n']) :
    ∀ ps : List (String × String), c ∉ write ps
  | [] => List.not_mem_nil
  | [p] => notMem_written p (List.mem_cons_of_mem _ h)
  | p :: q :: ps => by
    have hne : c ≠ '&' := by
      rintro rfl
      revert h
      decide
    simp only [write, List.mem_append, List.mem_cons, not_or]
    exact ⟨notMem_written p (List.mem_cons_of_mem _ h), hne, notMem_write h (q :: ps)⟩

end Form

end SessionRelay.Url
