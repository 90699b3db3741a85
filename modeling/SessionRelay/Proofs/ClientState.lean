import SessionRelay.ClientState
import SessionRelay.Proofs.Crypto.Gcm
import SessionRelay.Proofs.Text.Parts
import SessionRelay.Proofs.Text.Utf8

/-!
# Tokens name the state they were made for

A state has a token if its ids can be told apart in it and, for an encrypted one, if there is a key;
what is read from the token is the state, whatever the nonce. A plain token has no second spelling
but for white space around it (`token_round_trip`).
-/

namespace SessionRelay

namespace ClientState

variable {state : ClientState} {token : String} {nonce : Bytes}

/-- Both ids are given, and the separator stands in neither. -/
structure Proper (state : ClientState) : Prop where
  client : state.clientId ≠ ""
  owner : state.instanceId ≠ ""
  clientPlain : separator ∉ state.clientId.toList
  ownerPlain : separator ∉ state.instanceId.toList

theorem checkField_eq_ok_iff {field : Field} {value : String} :
    checkField field value = .ok () ↔ value ≠ "" ∧ separator ∉ value.toList := by
  unfold checkField
  split_ifs <;> simp [*]

theorem toList_spelling (state : ClientState) :
    (state.clientId ++ String.singleton separator ++ state.instanceId).toList =
      state.clientId.toList ++ separator :: state.instanceId.toList := by
  simp [String.toList_append, List.append_assoc]

/-- Bytes spell a state only if it is proper, and only its own spelling does. -/
theorem ofSpelling?_eq_some_iff {bytes : Bytes} :
    ofSpelling? bytes = some state ↔ state.Proper ∧ bytes = state.spell := by
  constructor
  · intro h
    obtain ⟨text, htext, h⟩ := Option.bind_eq_some_iff.1 h
    have hbytes : bytes = Utf8.encode text := Utf8.decode?_eq_some_iff.1 htext
    split at h
    · rename_i client owner hparts
      obtain ⟨hwhole, hclient, howner⟩ := Text.splitOn_eq_pair_iff.1 hparts
      split_ifs at h with hempty
      simp only [Option.some.injEq] at h
      subst h
      simp only [Bool.or_eq_true, List.isEmpty_iff, not_or] at hempty
      refine ⟨⟨?_, ?_, by simpa using hclient, by simpa using howner⟩, ?_⟩
      · simpa [← String.toList_inj] using hempty.1
      · simpa [← String.toList_inj] using hempty.2
      · have hsame : text = String.ofList client ++ String.singleton separator ++
            String.ofList owner := by
          rw [← String.toList_inj, toList_spelling ⟨String.ofList client, String.ofList owner⟩,
            hwhole, String.toList_ofList, String.toList_ofList]
        rw [hbytes, hsame, spell]
    · cases h
  · rintro ⟨hproper, rfl⟩
    have hparts := Text.splitOn_eq_pair_iff.2
      ⟨state.toList_spelling, hproper.clientPlain, hproper.ownerPlain⟩
    have htext := Utf8.decode?_eq_some_iff.2 (show state.spell = _ from rfl)
    have hclient : state.clientId.toList.isEmpty = false := by simpa using hproper.client
    have howner : state.instanceId.toList.isEmpty = false := by simpa using hproper.owner
    simp only [ofSpelling?, htext, Option.bind_eq_bind, Option.bind_some, hparts, hclient, howner,
      Bool.or_self, Bool.false_eq_true, if_false, String.ofList_toList]

namespace Codec

variable {c : Codec} {encrypt : Bool}

/-- The bytes of a token; an encrypted one needs a key. -/
def content? (c : Codec) (nonce : Bytes) (state : ClientState) (encrypt : Bool) : Option Bytes :=
  if encrypt then c.keys.map fun keys => sealBytes keys nonce state.spell else some state.spell

theorem format_eq_ok_iff : c.format nonce state encrypt = .ok token ↔
    state.Proper ∧ (c.content? nonce state encrypt).map Base64.encodeUrl = some token := by
  unfold format
  cases hclient : checkField .clientId state.clientId with
  | error e =>
    have hnot : ¬ state.Proper := fun h => by
      rw [checkField_eq_ok_iff.2 ⟨h.client, h.clientPlain⟩] at hclient
      cases hclient
    simp [hnot, bind, Except.bind]
  | ok =>
    cases howner : checkField .instanceId state.instanceId with
    | error e =>
      have hnot : ¬ state.Proper := fun h => by
        rw [checkField_eq_ok_iff.2 ⟨h.owner, h.ownerPlain⟩] at howner
        cases howner
      simp [hnot, bind, Except.bind]
    | ok =>
      obtain ⟨hclient, hclientPlain⟩ := checkField_eq_ok_iff.1 hclient
      obtain ⟨howner, hownerPlain⟩ := checkField_eq_ok_iff.1 howner
      have hproper : state.Proper := ⟨hclient, howner, hclientPlain, hownerPlain⟩
      simp only [hproper, true_and, bind, Except.bind, pure, Except.pure, content?]
      cases encrypt with
      | false => simp
      | true => cases c.keys <;> simp [throw, throwThe, MonadExceptOf.throw]

theorem exists_format_iff : (∃ token, c.format nonce state encrypt = .ok token) ↔
    state.Proper ∧ (encrypt = true → c.encrypts = true) := by
  simp only [format_eq_ok_iff, exists_and_left, content?, encrypts]
  refine and_congr_right fun _ => ?_
  cases encrypt with
  | false => simp
  | true => cases c.keys <;> simp

theorem encrypts_ofSecret_iff {secret : Option String} :
    (ofSecret secret).encrypts = true ↔ ∃ s, secret = some s ∧ s ≠ "" := by
  unfold ofSecret
  cases secret with
  | none => simp [encrypts, plain]
  | some s => by_cases hs : s = "" <;> simp [encrypts, plain, hs]

theorem isBlank_of_isUrlChar {c : Char} (h : Base64.IsUrlChar c) : Text.isBlank c = false := by
  have hbounds : 45 ≤ c.toNat ∧ c.toNat ≤ 122 := by
    rcases h with h | rfl | rfl
    · have hrange : ∀ a b : Char, 45 ≤ a.toNat → b.toNat ≤ 122 →
          c.val ≥ a.val ∧ c.val ≤ b.val → 45 ≤ c.toNat ∧ c.toNat ≤ 122 := fun a b ha hb hc =>
        ⟨Nat.le_trans ha hc.1, Nat.le_trans hc.2 hb⟩
      unfold Char.isAlphanum Char.isAlpha Char.isUpper Char.isLower Char.isDigit at h
      simp only [Bool.or_eq_true, Bool.and_eq_true, decide_eq_true_eq] at h
      rcases h with (h | h) | h
      · exact hrange 'A' 'Z' (by decide) (by decide) h
      · exact hrange 'a' 'z' (by decide) (by decide) h
      · exact hrange '0' '9' (by decide) (by decide) h
    · decide
    · decide
  simp [Text.isBlank]
  omega

theorem trim_encodeUrl (bytes : Bytes) :
    Text.trim (Base64.encodeUrl bytes) = Base64.encodeUrl bytes :=
  Text.trim_eq_self fun _ hc => isBlank_of_isUrlChar
    (Base64.isUrlChar_of_mem_encodeChars (String.toList_ofList ▸ hc))

theorem isUrlChar_of_format (h : c.format nonce state encrypt = .ok token) :
    ∀ char ∈ token.toList, Base64.IsUrlChar char := by
  obtain ⟨-, h⟩ := format_eq_ok_iff.1 h
  obtain ⟨bytes, -, rfl⟩ := Option.map_eq_some_iff.1 h
  intro char hchar
  rw [Base64.encodeUrl, String.toList_ofList] at hchar
  exact Base64.isUrlChar_of_mem_encodeChars hchar

/-- What was sealed is found inside again. -/
theorem openBytes?_sealBytes {secret : String} (hnonce : nonce.length = Gcm.nonceLength)
    (text : Bytes) :
    openBytes? (.ofSecret secret) (sealBytes (.ofSecret secret) nonce text) = some text := by
  have hkeys : ∀ k ∈ (Keys.ofSecret secret).encryption, k.length = 16 := fun k hk => by
    simp only [Keys.ofSecret] at hk
    exact Aes.length_of_mem_roundKeys (Hmac.length_sign _ _) hk
  generalize Keys.ofSecret secret = keys at hkeys
  have htext := Gcm.decrypt?_encryptWithTag hkeys hnonce text
  have hsign := Hmac.length_sign keys.signing
    (nonce ++ Gcm.encryptWithTag keys.encryption nonce text)
  have hlength : (Gcm.encryptWithTag keys.encryption nonce text).length =
      text.length + Gcm.tagLength := by
    rw [Gcm.encryptWithTag, List.length_append, Gcm.length_crypt, Gcm.length_tag hkeys hnonce]
  rw [openBytes?, sealBytes]
  simp only [List.length_append, hnonce, hlength, hsign, signatureLength]
  rw [if_neg (by omega)]
  simp only [Nat.add_sub_cancel, ← hlength]
  rw [← hnonce, ← List.length_append, List.take_left, List.drop_left, if_pos rfl, List.take_left,
    List.drop_left, htext]

/-- What is inside the bytes of a token. -/
def text? (c : Codec) (bytes : Bytes) (encrypted : Bool) : Option Bytes :=
  if encrypted then c.keys.bind fun keys => openBytes? keys bytes else some bytes

theorem parse?_eq (c : Codec) (token : String) (encrypted : Bool) :
    c.parse? token encrypted = ((Base64.decodeUrl? (Text.trim token)).bind fun bytes =>
      c.text? bytes encrypted).bind ofSpelling? := by
  unfold parse? text?
  cases Base64.decodeUrl? (Text.trim token) with
  | none => rfl
  | some bytes =>
    cases encrypted with
    | false => rfl
    | true => cases c.keys <;> rfl

theorem parse?_false_eq_some_iff : c.parse? token false = some state ↔
    state.Proper ∧ Text.trim token = Base64.encodeUrl state.spell := by
  rw [parse?_eq, ← Base64.decodeUrl?_eq_some_iff]
  cases hbytes : Base64.decodeUrl? (Text.trim token) with
  | none => simp
  | some bytes => simp [text?, ofSpelling?_eq_some_iff]

/-- A state has a token exactly if its ids are given and free of the separator and, for an encrypted
token, there is a secret. The token is read as that state, whatever the nonce, and a plain token is
the only text, trimmed, that is. -/
theorem token_round_trip (secret : Option String) (state : ClientState) (encrypt : Bool) :
    (∀ nonce, (∃ token, (ofSecret secret).format nonce state encrypt = .ok token) ↔
      (state.clientId ≠ "" ∧ state.instanceId ≠ "" ∧ '|' ∉ state.clientId.toList ∧
        '|' ∉ state.instanceId.toList) ∧
      (encrypt = true → ∃ s, secret = some s ∧ s ≠ "")) ∧
    (∀ nonce token, nonce.length = Gcm.nonceLength →
      (ofSecret secret).format nonce state encrypt = .ok token →
        (ofSecret secret).parse? token encrypt = some state) ∧
    ∀ nonce text, (ofSecret secret).parse? text false = some state ↔
      (ofSecret secret).format nonce state false = .ok (Text.trim text) := by
  have hproper : state.Proper ↔ state.clientId ≠ "" ∧ state.instanceId ≠ "" ∧
      '|' ∉ state.clientId.toList ∧ '|' ∉ state.instanceId.toList :=
    ⟨fun h => ⟨h.client, h.owner, h.clientPlain, h.ownerPlain⟩,
      fun h => ⟨h.1, h.2.1, h.2.2.1, h.2.2.2⟩⟩
  refine ⟨fun nonce => ?_, fun nonce token hnonce h => ?_, fun nonce text => ?_⟩
  · rw [exists_format_iff, hproper, encrypts_ofSecret_iff]
  · obtain ⟨hstate, h⟩ := format_eq_ok_iff.1 h
    obtain ⟨bytes, hbytes, rfl⟩ := Option.map_eq_some_iff.1 h
    have hdecoded := Base64.decodeUrl?_eq_some_iff.2 (trim_encodeUrl bytes)
    have hspelled := ofSpelling?_eq_some_iff.2 ⟨hstate, rfl⟩
    have htext : (ofSecret secret).text? bytes encrypt = some state.spell := by
      cases encrypt with
      | false => simpa [content?, text?] using hbytes.symm
      | true =>
        have hexists : ∃ token, (ofSecret secret).format nonce state true = .ok token :=
          ⟨_, format_eq_ok_iff.2 ⟨hstate, h⟩⟩
        obtain ⟨s, rfl, hs⟩ := encrypts_ofSecret_iff.1 ((exists_format_iff.1 hexists).2 rfl)
        have hkeys : (ofSecret (some s)).keys = some (.ofSecret s) := by simp [ofSecret, hs]
        simp only [content?, if_true, hkeys, Option.map_some, Option.some.injEq] at hbytes
        simp only [text?, if_true, hkeys, Option.bind_some, ← hbytes, openBytes?_sealBytes hnonce]
    rw [parse?_eq, hdecoded, Option.bind_some, htext, Option.bind_some, hspelled]
  · rw [parse?_false_eq_some_iff, format_eq_ok_iff]
    simp [content?, eq_comm]

theorem token_round_trip_sealed :
    ∃ token, (ofSecret (some "geheim")).format (List.replicate 12 7) ⟨"gäst 1", "節点"⟩ true =
        .ok token ∧
      (ofSecret (some "geheim")).parse? token true = some ⟨"gäst 1", "節点"⟩ := by
  have htrip := token_round_trip (some "geheim") ⟨"gäst 1", "節点"⟩ true
  obtain ⟨token, htoken⟩ := (htrip.1 (List.replicate 12 7)).2
    ⟨by decide, fun _ => ⟨"geheim", rfl, by decide⟩⟩
  exact ⟨token, htoken, htrip.2.1 _ token (by decide) htoken⟩

example : plain.format [] ⟨"a", "b"⟩ false = .ok "YXxi" := by decide

end Codec

end ClientState

end SessionRelay
