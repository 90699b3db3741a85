import Mathlib.Data.List.Chain
import Mathlib.Data.List.DropRight
import SessionRelay.Backplane.QueueName
import SessionRelay.Proofs.Json.Spelling
import SessionRelay.Proofs.Text.Lowercase

/-!
# Every instance has a valid queue name

A queue name keeps to the rules of queue services for every id (`IsValid`). What can be read in it
are the words of the id (`readable_eq_outline`), and two ids share a queue only if they have both
the same readable part and the same start of their digests: a name says where the one ends and the
other begins, since the latter always has eight characters.
-/

namespace SessionRelay.QueueName

/-- What queue services ask of a name, and the prefix that all queues of the relay share. -/
structure IsValid (name : String) : Prop where
  length : name.length ≤ 63
  chars : ∀ c ∈ name.toList, c.isLower = true ∨ c.isDigit = true ∨ c = '-'
  begins : start.toList <+: name.toList
  single : ¬ ['-', '-'] <:+: name.toList
  ends : name.toList.getLast? ≠ some '-'

/-- The words of an id: its longest runs of ASCII letters and digits. -/
def words (cs : List Char) : List (List Char) :=
  (cs.splitOnP fun c => !c.isAlphanum).filter fun word => !word.isEmpty

/-- Words in lower case with a dash between any two of them. -/
def join (words : List (List Char)) : List Char :=
  ['-'].intercalate (words.map fun word => word.map Char.toLower)

/-- The readable part of a name: the words of the id, cut to its length, with no dash at the end. -/
def outline (instanceId : String) : List Char :=
  ((join (words instanceId.toList)).take readableLength).rdropWhile (· = '-')

/-- The part of the digest of an id that its name shows. -/
def mark (instanceId : String) : Bytes := (Sha256.digest (Utf8.encode instanceId)).take 4

/-- An id before it is cut, as a name in the making. -/
def sanitized (instanceId : String) : List Char := collapse true (instanceId.toList.map plainChar)

/-! ## Words -/

theorem plainChar_of_isAlphanum {c : Char} (h : c.isAlphanum = true) :
    plainChar c = c.toLower := if_pos h

theorem plainChar_of_not_isAlphanum {c : Char} (h : ¬ c.isAlphanum = true) : plainChar c = '-' :=
  if_neg h

theorem lower_of_isAlphanum {c : Char} (h : c.isAlphanum = true) :
    c.toLower.isLower = true ∨ c.toLower.isDigit = true := by
  have hall : ∀ n < 128, (Char.ofNat n).isAlphanum = true →
      (Char.ofNat n).toLower.isLower = true ∨ (Char.ofNat n).toLower.isDigit = true := by decide
  have hchar := hall c.toNat (Text.toNat_lt_of_isAlphanum h)
  rw [Char.ofNat_toNat] at hchar
  exact hchar h

theorem ne_dash {c : Char} (h : c.isLower = true ∨ c.isDigit = true) : c ≠ '-' := by
  rintro rfl
  revert h
  decide

/-- The first piece of an id is nothing or the word that it begins with. -/
theorem words_of_split {cs first : List Char} {rest : List (List Char)}
    (h : cs.splitOnP (fun c => !c.isAlphanum) = first :: rest) :
    words cs = (first :: rest).filter fun word => !word.isEmpty := by
  rw [words, h]

/-- The words after the first, each with the dash before it. -/
def spaced (words : List (List Char)) : List Char :=
  words.flatMap fun word => '-' :: word.map Char.toLower

theorem join_cons (word : List Char) : ∀ rest : List (List Char),
    join (word :: rest) = word.map Char.toLower ++ spaced rest
  | [] => by simp [join, spaced]
  | next :: rest => by
    have ih := join_cons next rest
    simp only [join, List.map_cons] at ih ⊢
    rw [List.intercalate_cons_cons, ih]
    simp [spaced]

/-- Words that were collapsed, perhaps with a dash after the last one. -/
def Ends (joined text : List Char) : Prop := text = joined ∨ text = joined ++ ['-']

theorem Ends.append {joined text : List Char} (h : Ends joined text) (before : List Char) :
    Ends (before ++ joined) (before ++ text) := by
  rcases h with rfl | rfl
  · exact .inl rfl
  · exact .inr (List.append_assoc _ _ _).symm

/-- Collapsing spells the words of an id, after a dash as well as within a word. -/
theorem collapse_eq : ∀ cs : List Char,
    (words cs = [] → collapse true (cs.map plainChar) = []) ∧
      Ends (join (words cs)) (collapse true (cs.map plainChar)) ∧
      ∀ first rest, cs.splitOnP (fun c => !c.isAlphanum) = first :: rest →
        Ends (first.map Char.toLower ++ spaced (rest.filter fun word => !word.isEmpty))
          (collapse false (cs.map plainChar))
  | [] => by
    refine ⟨fun _ => rfl, .inl (by simp [words, join, collapse]), fun first rest h => ?_⟩
    obtain ⟨rfl, rfl⟩ := List.cons_eq_cons.1 (List.splitOnP_nil.symm.trans h)
    exact .inl rfl
  | c :: cs => by
    obtain ⟨hnone, hstart, hwithin⟩ := collapse_eq cs
    obtain ⟨first, rest, hsplit⟩ := List.exists_cons_of_ne_nil
      (List.splitOnP_ne_nil (fun c => !c.isAlphanum) cs)
    have hcons := List.splitOnP_cons_eq_if_modifyHead (p := fun c : Char => !c.isAlphanum) c cs
    rw [hsplit] at hcons
    by_cases hc : c.isAlphanum = true
    · have hdash : c.toLower ≠ '-' := ne_dash (lower_of_isAlphanum hc)
      have hword : (c :: cs).splitOnP (fun c => !c.isAlphanum) = (c :: first) :: rest := by
        simpa [hc] using hcons
      have hwords : words (c :: cs) = (c :: first) :: rest.filter fun word => !word.isEmpty := by
        rw [words_of_split hword, List.filter_cons_of_pos (by rfl)]
      have hends := (hwithin first rest hsplit).append [c.toLower]
      have hcollapse : ∀ b, collapse b ((c :: cs).map plainChar) =
          [c.toLower] ++ collapse false (cs.map plainChar) := fun b => by
        rw [List.map_cons, plainChar_of_isAlphanum hc, collapse, if_neg hdash]
        rfl
      refine ⟨fun h => ?_, ?_, fun first' rest' h => ?_⟩
      · rw [hwords] at h
        cases h
      · rw [hwords, join_cons, hcollapse]
        exact hends
      · obtain ⟨rfl, rfl⟩ := List.cons_eq_cons.1 (hword.symm.trans h)
        rw [hcollapse]
        exact hends
    · have hword : (c :: cs).splitOnP (fun c => !c.isAlphanum) = [] :: first :: rest := by
        simpa [hc] using hcons
      have hwords : words (c :: cs) = words cs := by
        rw [words_of_split hword, List.filter_cons_of_neg (by simp), words_of_split hsplit]
      have hcollapse : collapse true ((c :: cs).map plainChar) =
          collapse true (cs.map plainChar) := by
        rw [List.map_cons, plainChar_of_not_isAlphanum hc, collapse, if_pos rfl, if_pos rfl]
      rw [hwords, hcollapse]
      refine ⟨hnone, hstart, fun first' rest' h => ?_⟩
      obtain ⟨rfl, rfl⟩ := List.cons_eq_cons.1 (hword.symm.trans h)
      rw [List.map_cons, plainChar_of_not_isAlphanum hc, collapse, if_pos rfl,
        if_neg Bool.false_ne_true, ← words_of_split hsplit]
      -- The dash stands before the next word; without one it is the dash at the end.
      cases hnext : words cs with
      | nil =>
        rw [hnone hnext]
        exact .inr rfl
      | cons word others =>
        rw [hnext, join_cons] at hstart
        simpa [spaced] using hstart.append ['-']

theorem rdropWhile_take_of_ends {joined text : List Char} (h : Ends joined text) (n : Nat) :
    (text.take n).rdropWhile (· = '-') = (joined.take n).rdropWhile (· = '-') := by
  rcases h with rfl | rfl
  · rfl
  · rw [List.take_append]
    cases n - joined.length with
    | zero => rw [List.take_zero, List.append_nil]
    | succ k =>
      rw [List.take_succ_cons, List.take_nil, List.rdropWhile_concat_pos _ _ _ (by decide)]

/-- What can be read in a name are the words of the id. -/
theorem readable_eq_outline (instanceId : String) : readable instanceId = outline instanceId :=
  rdropWhile_take_of_ends (collapse_eq instanceId.toList).2.1 readableLength

/-! ## Characters -/

theorem mem_collapse {c : Char} : ∀ {cs : List Char} {afterDash : Bool},
    c ∈ collapse afterDash cs → c ∈ cs
  | [], _, h => absurd h List.not_mem_nil
  | d :: cs, afterDash, h => by
    unfold collapse at h
    split_ifs at h with hdash hafter
    · exact List.mem_cons_of_mem _ (mem_collapse h)
    · rcases List.mem_cons.1 h with rfl | h
      · exact hdash ▸ List.mem_cons_self
      · exact List.mem_cons_of_mem _ (mem_collapse h)
    · rcases List.mem_cons.1 h with rfl | h
      · exact List.mem_cons_self
      · exact List.mem_cons_of_mem _ (mem_collapse h)

theorem mem_readable {c : Char} {instanceId : String} (h : c ∈ readable instanceId) :
    c ∈ sanitized instanceId :=
  List.take_subset _ _ ((List.rdropWhile_prefix _ _).subset h)

theorem chars_sanitized {c : Char} {instanceId : String} (h : c ∈ sanitized instanceId) :
    c.isLower = true ∨ c.isDigit = true ∨ c = '-' := by
  obtain ⟨d, -, rfl⟩ := List.mem_map.1 (mem_collapse h)
  by_cases hd : d.isAlphanum = true
  · rw [plainChar_of_isAlphanum hd]
    exact (lower_of_isAlphanum hd).imp_right .inl
  · exact .inr (.inr (plainChar_of_not_isAlphanum hd))

theorem hexDigit_plain : ∀ n < 16, (hexDigit n).isLower = true ∨ (hexDigit n).isDigit = true := by
  decide

theorem chars_fingerprint {c : Char} {instanceId : String} (h : c ∈ fingerprint instanceId) :
    c.isLower = true ∨ c.isDigit = true := by
  obtain ⟨b, -, hc⟩ := List.mem_flatMap.1 h
  have hb := b.toNat_lt
  simp only [List.mem_cons, List.not_mem_nil, or_false] at hc
  rcases hc with rfl | rfl
  · exact hexDigit_plain _ (by omega)
  · exact hexDigit_plain _ (by omega)

theorem length_fingerprint (instanceId : String) : (fingerprint instanceId).length = 8 := by
  have hmark : (mark instanceId).length = 4 := by
    rw [mark, List.length_take, Sha256.length_digest]
    rfl
  show ((mark instanceId).flatMap _).length = 8
  rw [List.length_flatMap]
  simp [hmark]

theorem fingerprint_ne_nil (instanceId : String) : fingerprint instanceId ≠ [] := by
  intro h
  have hlength := length_fingerprint instanceId
  rw [h] at hlength
  cases hlength

theorem dash_notMem_fingerprint (instanceId : String) : '-' ∉ fingerprint instanceId :=
  fun h => ne_dash (chars_fingerprint h) rfl

theorem toNat_lt_of_nameChar {c : Char} (h : c.isLower = true ∨ c.isDigit = true ∨ c = '-') :
    c.toNat < 128 := by
  have halphanum : c.isLower = true ∨ c.isDigit = true → c.isAlphanum = true := by
    intro h
    unfold Char.isAlphanum Char.isAlpha
    rcases h with h | h <;> simp [h]
  rcases h with h | h | rfl
  · exact Text.toNat_lt_of_isAlphanum (halphanum (.inl h))
  · exact Text.toNat_lt_of_isAlphanum (halphanum (.inr h))
  · decide

/-! ## Dashes -/

/-- Not two dashes in a row. -/
def Apart (c d : Char) : Prop := ¬ (c = '-' ∧ d = '-')

instance : DecidableRel Apart := fun _ _ => inferInstanceAs (Decidable (¬ _))

theorem apart_of_ne {c : Char} (h : c ≠ '-') (d : Char) : Apart c d := fun hboth => h hboth.1

theorem isChain_collapse : ∀ (cs : List Char) (afterDash : Bool),
    (collapse afterDash cs).IsChain Apart ∧
      (afterDash = true → '-' ∉ (collapse afterDash cs).head?)
  | [], _ => ⟨.nil, fun _ => nofun⟩
  | c :: cs, afterDash => by
    unfold collapse
    split_ifs with hdash hafter
    · exact ⟨(isChain_collapse cs true).1, fun _ => (isChain_collapse cs true).2 rfl⟩
    · obtain ⟨hchain, hhead⟩ := isChain_collapse cs true
      refine ⟨List.isChain_cons.2 ⟨fun d hd hboth => hhead rfl (hboth.2 ▸ hd), hchain⟩,
        fun h => absurd h hafter⟩
    · refine ⟨List.isChain_cons.2 ⟨fun d _ => apart_of_ne hdash d, (isChain_collapse cs false).1⟩,
        fun _ h => hdash ?_⟩
      exact (Option.mem_some_iff.1 h)

theorem isChain_readable (instanceId : String) : (readable instanceId).IsChain Apart :=
  List.IsChain.prefix ((isChain_collapse _ true).1.take readableLength)
    (List.rdropWhile_prefix _ _)

theorem head_readable (instanceId : String) : '-' ∉ (readable instanceId).head? := by
  intro h
  have hprefix : readable instanceId <+: sanitized instanceId :=
    (List.rdropWhile_prefix _ _).trans (List.take_prefix _ _)
  obtain ⟨rest, hrest⟩ := hprefix
  refine (isChain_collapse (instanceId.toList.map plainChar) true).2 rfl ?_
  rw [← sanitized, ← hrest]
  exact List.mem_head?_append_of_mem_head? h

theorem last_readable (instanceId : String) : '-' ∉ (readable instanceId).getLast? := by
  intro h
  obtain ⟨hne, hlast⟩ := List.mem_getLast?_eq_getLast h
  have := List.rdropWhile_last_not (p := fun c : Char => decide (c = '-'))
    ((sanitized instanceId).take readableLength) hne
  exact this (decide_eq_true hlast.symm)

theorem isChain_fingerprint (instanceId : String) : (fingerprint instanceId).IsChain Apart :=
  List.Pairwise.isChain (List.pairwise_of_forall_mem_list fun _ hc d _ =>
    apart_of_ne (fun h => dash_notMem_fingerprint instanceId (h ▸ hc)) d)

/-! ## Names -/

/-- The part of a name after the prefix. -/
def ending (instanceId : String) : List Char :=
  if readable instanceId = [] then fingerprint instanceId
  else readable instanceId ++ '-' :: fingerprint instanceId

theorem toList_ofInstance (instanceId : String) :
    (ofInstance instanceId).toList = start.toList ++ ending instanceId := by
  simp [ofInstance, ending, List.isEmpty_iff]

theorem length_readable_le (instanceId : String) : (readable instanceId).length ≤ readableLength :=
  (List.rdropWhile_prefix _ _).length_le.trans (List.length_take_le _ _)

theorem length_ending_le (instanceId : String) : (ending instanceId).length ≤ 49 := by
  have hlength : (readable instanceId).length ≤ 40 := length_readable_le instanceId
  unfold ending
  split_ifs
  · rw [length_fingerprint]
    omega
  · rw [List.length_append, List.length_cons, length_fingerprint]
    omega

theorem chars_ending {c : Char} {instanceId : String} (h : c ∈ ending instanceId) :
    c.isLower = true ∨ c.isDigit = true ∨ c = '-' := by
  have hprint : c ∈ fingerprint instanceId → c.isLower = true ∨ c.isDigit = true ∨ c = '-' :=
    fun h => (chars_fingerprint h).imp_right .inl
  unfold ending at h
  split_ifs at h
  · exact hprint h
  · rcases List.mem_append.1 h with h | h
    · exact chars_sanitized (mem_readable h)
    · exact (List.mem_cons.1 h).elim (fun h => .inr (.inr h)) hprint

theorem head_ending (instanceId : String) : '-' ∉ (ending instanceId).head? := by
  intro h
  unfold ending at h
  split_ifs at h with hempty
  · exact dash_notMem_fingerprint instanceId (List.mem_of_mem_head? h)
  · obtain ⟨c, cs, hshown⟩ := List.exists_cons_of_ne_nil hempty
    refine head_readable instanceId ?_
    rw [hshown] at h ⊢
    exact h

theorem last_ending (instanceId : String) : (ending instanceId).getLast? ≠ some '-' := by
  have hlast : (ending instanceId).getLast? = (fingerprint instanceId).getLast? := by
    unfold ending
    split_ifs
    · rfl
    · rw [List.append_cons, List.getLast?_append_of_ne_nil _ (fingerprint_ne_nil instanceId)]
  rw [hlast]
  exact fun h => dash_notMem_fingerprint instanceId (List.mem_of_getLast? h)

theorem isChain_ending (instanceId : String) : (ending instanceId).IsChain Apart := by
  have hprint := isChain_fingerprint instanceId
  unfold ending
  split_ifs
  · exact hprint
  · refine (isChain_readable instanceId).append (List.isChain_cons.2 ⟨fun c hc hboth => ?_, hprint⟩)
      fun c hc d _ hboth => last_readable instanceId (hboth.1 ▸ hc)
    exact dash_notMem_fingerprint instanceId (hboth.2 ▸ List.mem_of_mem_head? hc)

/-- Every id has a valid queue name. -/
theorem isValid_ofInstance (instanceId : String) : IsValid (ofInstance instanceId) where
  length := by
    have hending := length_ending_le instanceId
    rw [← String.length_toList, toList_ofInstance, List.length_append]
    have hstart : start.toList.length = 14 := by decide
    omega
  chars c hc := by
    rw [toList_ofInstance, List.mem_append] at hc
    have hstart : (start.toList.all fun c => c.isLower || (c.isDigit || c = '-')) = true := by
      decide
    rcases hc with hc | hc
    · simpa using List.all_eq_true.1 hstart c hc
    · exact chars_ending hc
  begins := by
    rw [toList_ofInstance]
    exact List.prefix_append _ _
  single h := by
    rw [toList_ofInstance] at h
    have hstart : start.toList.IsChain Apart := by decide
    have hname := hstart.append (isChain_ending instanceId) fun c _ d hd hboth =>
      head_ending instanceId (hboth.2 ▸ hd)
    have hdashes := List.IsChain.infix hname h
    exact (List.isChain_cons_cons.1 hdashes).1 ⟨rfl, rfl⟩
  ends := by
    rw [toList_ofInstance, List.getLast?_append_of_ne_nil]
    · exact last_ending instanceId
    · intro h
      have := head_ending instanceId
      unfold ending at h
      split_ifs at h with hempty
      · exact fingerprint_ne_nil instanceId h
      · exact absurd h (by simp)

/-! ## Separate queues -/

theorem hexDigit_inj {m n : Nat} (hm : m < 16) (hn : n < 16) (h : hexDigit m = hexDigit n) :
    m = n :=
  Option.some.inj ((Json.hexValue?_hexDigit m hm).symm.trans
    ((congrArg Json.hexValue? h).trans (Json.hexValue?_hexDigit n hn)))

theorem spell_inj : ∀ {bytes others : Bytes},
    (bytes.flatMap fun b => [hexDigit (b.toNat / 16), hexDigit (b.toNat % 16)]) =
      (others.flatMap fun b => [hexDigit (b.toNat / 16), hexDigit (b.toNat % 16)]) →
    bytes = others
  | [], [], _ => rfl
  | [], _ :: _, h => by cases h
  | _ :: _, [], h => by cases h
  | b :: bytes, other :: others, h => by
    simp only [List.flatMap_cons, List.cons_append, List.nil_append, List.cons_eq_cons] at h
    obtain ⟨hhigh, hlow, hrest⟩ := h
    have hb := b.toNat_lt
    have hother := other.toNat_lt
    have hhigh := hexDigit_inj (by omega) (by omega) hhigh
    have hlow := hexDigit_inj (by omega) (by omega) hlow
    rw [spell_inj hrest, UInt8.toNat_inj.1 (show b.toNat = other.toNat by omega)]

theorem fingerprint_inj {instanceId other : String} :
    fingerprint instanceId = fingerprint other ↔ mark instanceId = mark other :=
  ⟨spell_inj, fun h => by
    show (mark instanceId).flatMap _ = (mark other).flatMap _
    rw [h]⟩

theorem ending_inj {instanceId other : String} : ending instanceId = ending other ↔
    readable instanceId = readable other ∧ fingerprint instanceId = fingerprint other := by
  refine ⟨fun h => ?_, fun ⟨hshown, hprint⟩ => by rw [ending, ending, hshown, hprint]⟩
  have hlength := congrArg List.length h
  have hprint := length_fingerprint instanceId
  have hprint' := length_fingerprint other
  unfold ending at h hlength
  -- A readable part and its dash make a name longer than a digest alone is.
  split_ifs at h hlength with hempty hempty' hempty'
  · exact ⟨hempty.trans hempty'.symm, h⟩
  · simp only [List.length_append, List.length_cons] at hlength
    omega
  · simp only [List.length_append, List.length_cons] at hlength
    omega
  · obtain ⟨hshown, hrest⟩ := List.append_inj' h (by simp [hprint, hprint'])
    exact ⟨hshown, (List.cons_eq_cons.1 hrest).2⟩

/-- What is cut are characters of one byte, so the first bytes are the first characters. -/
theorem encode_take_sanitized (instanceId : String) (n : Nat) :
    Utf8.encode (String.ofList ((sanitized instanceId).take n)) =
      (Utf8.encode (String.ofList (sanitized instanceId))).take n := by
  have hone : ∀ cs : List Char, (∀ c ∈ cs, c ∈ sanitized instanceId) →
      cs.flatMap (fun c => Utf8.encodeCode c.toNat) = cs.map fun c => UInt8.ofNat c.toNat := by
    intro cs hcs
    rw [← List.flatMap_singleton' (cs.map _), List.flatMap_map]
    refine List.flatMap_congr fun c hc => if_pos ?_
    exact toNat_lt_of_nameChar (chars_sanitized (hcs c hc))
  rw [Utf8.encode, Utf8.encode, String.toList_ofList, String.toList_ofList,
    hone _ fun c hc => List.take_subset _ _ hc, hone _ fun c hc => hc, List.map_take]

/-- Every id, whatever it is made of, has a valid queue name, and two ids have the same one exactly
if both the words that can be read in it and the digest at its end are the same. -/
theorem names_tell_apart (instanceId : String) : IsValid (ofInstance instanceId) ∧
    Utf8.encode (String.ofList ((sanitized instanceId).take readableLength)) =
      (Utf8.encode (String.ofList (sanitized instanceId))).take readableLength ∧
    ∀ other, ofInstance instanceId = ofInstance other ↔
      outline instanceId = outline other ∧ mark instanceId = mark other := by
  refine ⟨isValid_ofInstance instanceId, encode_take_sanitized instanceId readableLength,
    fun other => ?_⟩
  rw [← String.toList_inj, toList_ofInstance, toList_ofInstance, List.append_right_inj, ending_inj,
    readable_eq_outline, readable_eq_outline, fingerprint_inj]

end SessionRelay.QueueName
