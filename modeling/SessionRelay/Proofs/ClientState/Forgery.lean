import SessionRelay.Proofs.ClientState

/-!
# Encrypted tokens that nobody with the key has made

An encrypted token is accepted only if it is the written form of a payload and the payload's
signature (`openBytes?_eq_some_iff`). So a token that differs from a given one and is accepted
carries a payload of its own, and with it a signature that is right for that payload: whoever made
it could sign (`accepted_tokens_are_signed`).
-/

namespace SessionRelay

namespace Gcm

/-- Whether the tag behind an encrypted text is the one that belongs to it. -/
def Verifies (keys : List Aes.Block) (nonce bytes : Bytes) : Prop :=
  bytes.drop (bytes.length - tagLength) =
    tag keys nonce (bytes.take (bytes.length - tagLength))

theorem decrypt?_eq_some_iff {keys : List Aes.Block} {nonce bytes text : Bytes} :
    decrypt? keys nonce bytes = some text ↔
      Verifies keys nonce bytes ∧ crypt keys nonce (bytes.take (bytes.length - tagLength)) = text := by
  unfold decrypt? Verifies
  simp only
  split_ifs with h <;> simp [h]

end Gcm

namespace ClientState.Codec

variable {keys : Keys} {nonce bytes payload text : Bytes} {state : ClientState} {token : String}

/-- What is signed in the token of a state. -/
def payloadOf (keys : Keys) (nonce : Bytes) (state : ClientState) : Bytes :=
  nonce ++ Gcm.encryptWithTag keys.encryption nonce state.spell

/-- A payload with its signature. -/
def signed (keys : Keys) (payload : Bytes) : Bytes := payload ++ Hmac.sign keys.signing payload

theorem length_signed (keys : Keys) (payload : Bytes) :
    (signed keys payload).length = payload.length + signatureLength := by
  rw [signed, List.length_append, Hmac.length_sign, signatureLength]

/-- The bytes before the signature of a signed payload are the payload. -/
theorem take_signed (keys : Keys) (payload : Bytes) :
    (signed keys payload).take ((signed keys payload).length - signatureLength) = payload := by
  rw [length_signed, Nat.add_sub_cancel, signed, List.take_left]

/-- Bytes whose last part is the signature of the rest are that rest, signed. -/
theorem eq_signed_iff :
    Hmac.sign keys.signing (bytes.take (bytes.length - signatureLength)) =
        bytes.drop (bytes.length - signatureLength) ↔
      bytes = signed keys (bytes.take (bytes.length - signatureLength)) := by
  constructor
  · intro h
    rw [signed, h, List.take_append_drop]
  · intro h
    have hparts := (List.take_append_drop (bytes.length - signatureLength) bytes).trans h
    exact (List.append_cancel_left hparts).symm

/-- What a payload has to be for its text to be found: long enough for a nonce and a tag, with the
tag that belongs to it. -/
structure Sound (keys : Keys) (payload : Bytes) : Prop where
  length : Gcm.nonceLength + Gcm.tagLength ≤ payload.length
  tag : Gcm.Verifies keys.encryption (payload.take Gcm.nonceLength) (payload.drop Gcm.nonceLength)

/-- The text inside a payload. -/
def textOf (keys : Keys) (payload : Bytes) : Bytes :=
  let body := payload.drop Gcm.nonceLength
  Gcm.crypt keys.encryption (payload.take Gcm.nonceLength)
    (body.take (body.length - Gcm.tagLength))

/-- Bytes are opened exactly if they are a sound payload with its signature. -/
theorem openBytes?_eq_some_iff : openBytes? keys bytes = some text ↔
    ∃ payload, bytes = signed keys payload ∧ Sound keys payload ∧ textOf keys payload = text := by
  constructor
  · intro h
    unfold openBytes? at h
    simp only at h
    split_ifs at h with hshort hsign
    have hlength := Nat.le_of_not_lt hshort
    have hbytes := eq_signed_iff.1 hsign
    obtain ⟨htag, htext⟩ := Gcm.decrypt?_eq_some_iff.1 h
    refine ⟨_, hbytes, ⟨?_, htag⟩, htext⟩
    rw [List.length_take]
    omega
  · rintro ⟨payload, rfl, hsound, htext⟩
    have hlength := length_signed keys payload
    have hlong := hsound.length
    have hsign := eq_signed_iff.2 (congrArg (signed keys) (take_signed keys payload)).symm
    unfold openBytes?
    simp only
    rw [if_neg (by omega), if_pos hsign, take_signed]
    exact Gcm.decrypt?_eq_some_iff.2 ⟨hsound.tag, htext⟩

/-- An encrypted token is read as a state exactly if it is the written form of a sound payload with
its signature, and the text inside spells the state. -/
theorem parse?_true_eq_some_iff {c : Codec} (hkeys : c.keys = some keys) :
    c.parse? token true = some state ↔ state.Proper ∧ ∃ payload,
      Text.trim token = Base64.encodeUrl (signed keys payload) ∧ Sound keys payload ∧
        textOf keys payload = state.spell := by
  have htext : ∀ bytes, c.text? bytes true = openBytes? keys bytes := fun bytes => by
    rw [text?, if_pos rfl, hkeys, Option.bind_some]
  simp only [parse?_eq, Option.bind_eq_some_iff, Base64.decodeUrl?_eq_some_iff, htext,
    openBytes?_eq_some_iff, ofSpelling?_eq_some_iff]
  constructor
  · rintro ⟨_, ⟨_, htoken, payload, rfl, hsound, rfl⟩, hproper, hspell⟩
    exact ⟨hproper, payload, htoken, hsound, hspell⟩
  · rintro ⟨hproper, payload, htoken, hsound, hspell⟩
    exact ⟨_, ⟨_, htoken, payload, rfl, hsound, rfl⟩, hproper, hspell⟩

theorem parse?_true_of_no_keys {c : Codec} (hkeys : c.keys = none) (token : String) :
    c.parse? token true = none := by
  rw [parse?_eq, Option.bind_eq_none_iff]
  intro text htext
  obtain ⟨bytes, -, hopened⟩ := Option.bind_eq_some_iff.1 htext
  rw [text?, if_pos rfl, hkeys, Option.bind_none] at hopened
  cases hopened

/-- The token of a state is its payload, signed. -/
theorem format_true_eq_ok {c : Codec} (hkeys : c.keys = some keys)
    (h : c.format nonce state true = .ok token) :
    token = Base64.encodeUrl (signed keys (payloadOf keys nonce state)) := by
  obtain ⟨-, h⟩ := format_eq_ok_iff.1 h
  rw [content?, if_pos rfl, hkeys, Option.map_some, Option.map_some, Option.some.injEq] at h
  exact h.symm

/-- A token is accepted with the given bytes only if they are a payload with its signature. -/
theorem exists_signed_of_parse? {c : Codec} (hkeys : c.keys = some keys)
    (hbytes : Base64.decodeUrl? (Text.trim token) = some bytes)
    (h : c.parse? token true = some state) :
    ∃ payload, bytes = signed keys payload ∧ Sound keys payload := by
  obtain ⟨-, payload, htoken, hsound, -⟩ := (parse?_true_eq_some_iff hkeys).1 h
  rw [Base64.decodeUrl?_eq_some_iff.2 htoken] at hbytes
  exact ⟨payload, (Option.some.inj hbytes).symm, hsound⟩

/-- Without a key no encrypted token is accepted, and with one only what is signed with it: an
accepted token is the written form of a payload with its signature of 32 bytes, in which there is
room for a nonce and a tag, and the tag is right. So, given the token of a state and any token of
other bytes, the other one is refused if its bytes differ in the signature only or are too few, and
if it is accepted it has another payload, and the right signature for that payload. -/
theorem accepted_tokens_are_signed (c : Codec) :
    (c.keys = none → ∀ token, c.parse? token true = none) ∧
    ∀ keys, c.keys = some keys →
      (∀ token state, c.parse? token true = some state → ∃ payload,
        Text.trim token = Base64.encodeUrl (payload ++ Hmac.sign keys.signing payload) ∧
        (Hmac.sign keys.signing payload).length = 32 ∧ 28 ≤ payload.length ∧
        Gcm.Verifies keys.encryption (payload.take 12) (payload.drop 12)) ∧
      ∀ nonce state token, c.format nonce state true = .ok token →
        token = Base64.encodeUrl (payloadOf keys nonce state ++
          Hmac.sign keys.signing (payloadOf keys nonce state)) ∧
        ∀ other bytes, Base64.decodeUrl? (Text.trim other) = some bytes →
          Base64.decodeUrl? token ≠ some bytes →
          (bytes.take (bytes.length - 32) = payloadOf keys nonce state →
            c.parse? other true = none) ∧
          (bytes.length < 60 → c.parse? other true = none) ∧
          ∀ state', c.parse? other true = some state' → ∃ forged,
            forged ≠ payloadOf keys nonce state ∧
            bytes = forged ++ Hmac.sign keys.signing forged := by
  refine ⟨parse?_true_of_no_keys, fun keys hkeys => ⟨fun token state h => ?_,
    fun nonce state token hformat => ?_⟩⟩
  · obtain ⟨-, payload, htoken, hsound, -⟩ := (parse?_true_eq_some_iff hkeys).1 h
    exact ⟨payload, htoken, Hmac.length_sign _ _, hsound.length, hsound.tag⟩
  · have htoken := format_true_eq_ok hkeys hformat
    refine ⟨htoken, fun other bytes hbytes hother => ?_⟩
    rw [Base64.decodeUrl?_eq_some_iff.2 htoken, ne_eq, Option.some.injEq] at hother
    -- Whatever is accepted is signed, so with the same payload it would be the same bytes.
    have hforged : ∀ state', c.parse? other true = some state' → ∃ forged,
        forged ≠ payloadOf keys nonce state ∧ bytes = signed keys forged ∧ Sound keys forged := by
      intro state' h
      obtain ⟨forged, rfl, hsound⟩ := exists_signed_of_parse? hkeys hbytes h
      refine ⟨forged, ?_, rfl, hsound⟩
      rintro rfl
      exact hother rfl
    refine ⟨fun hsame => ?_, fun hshort => ?_, fun state' h => ?_⟩
    · refine Option.eq_none_iff_forall_ne_some.2 fun state' h => ?_
      obtain ⟨forged, hne, rfl, -⟩ := hforged state' h
      exact hne ((take_signed keys forged).symm.trans hsame)
    · refine Option.eq_none_iff_forall_ne_some.2 fun state' h => ?_
      obtain ⟨forged, -, rfl, hsound⟩ := hforged state' h
      have hlong : 28 ≤ forged.length := hsound.length
      rw [length_signed, signatureLength] at hshort
      omega
    · obtain ⟨forged, hne, hbytes', -⟩ := hforged state' h
      exact ⟨forged, hne, hbytes'⟩

/-- The keys of one secret, and a state to make tokens for. -/
def someKeys : Keys := .ofSecret "geheim"

def someState : ClientState := ⟨"gäst 1", "節点"⟩

def somePayload (nonce : UInt8) : Bytes := payloadOf someKeys (List.replicate 12 nonce) someState

theorem format_someState (nonce : UInt8) :
    (⟨some someKeys⟩ : Codec).format (List.replicate 12 nonce) someState true =
      .ok (Base64.encodeUrl (signed someKeys (somePayload nonce))) :=
  format_eq_ok_iff.2 ⟨⟨by decide, by decide, by decide, by decide⟩, rfl⟩

theorem parse?_someState (nonce : UInt8) : (⟨some someKeys⟩ : Codec).parse?
    (Base64.encodeUrl (signed someKeys (somePayload nonce))) true = some someState := by
  have hopened : openBytes? someKeys (signed someKeys (somePayload nonce)) =
      some someState.spell := openBytes?_sealBytes List.length_replicate _
  rw [parse?_eq, Base64.decodeUrl?_eq_some_iff.2 (trim_encodeUrl _), Option.bind_some, text?,
    if_pos rfl, Option.bind_some, hopened, Option.bind_some]
  exact ofSpelling?_eq_some_iff.2 ⟨⟨by decide, by decide, by decide, by decide⟩, rfl⟩

theorem map_xor_ne {bytes : Bytes} (h : bytes ≠ []) : bytes.map (· ^^^ 1) ≠ bytes := by
  cases bytes with
  | nil => exact absurd rfl h
  | cons b rest =>
    intro hsame
    have hb : b ^^^ 1 = b := (List.cons.inj hsame).1
    have hzero : b ^^^ (b ^^^ 1) = b ^^^ b := congrArg (b ^^^ ·) hb
    rw [← UInt8.xor_assoc, UInt8.xor_self, UInt8.zero_xor] at hzero
    exact absurd hzero (by decide)

/-- Another token of the same state is accepted, with a payload of its own; the token with another
signature, or only a few bytes, is refused, and so is the token itself without a key. -/
theorem accepted_tokens_are_signed_again : ∃ token,
    (⟨some someKeys⟩ : Codec).format (List.replicate 12 7) someState true = .ok token ∧
    (∃ forged, forged ≠ somePayload 7 ∧
      signed someKeys (somePayload 8) = forged ++ Hmac.sign someKeys.signing forged) ∧
    (⟨some someKeys⟩ : Codec).parse? (Base64.encodeUrl
      (somePayload 7 ++ (Hmac.sign someKeys.signing (somePayload 7)).map (· ^^^ 1))) true = none ∧
    (⟨some someKeys⟩ : Codec).parse? "AAAA" true = none ∧
    plain.parse? token true = none := by
  obtain ⟨-, hkeyed⟩ := accepted_tokens_are_signed ⟨some someKeys⟩
  obtain ⟨-, hothers⟩ := hkeyed someKeys rfl
  obtain ⟨htoken, hother⟩ := hothers (List.replicate 12 7) someState _ (format_someState 7)
  have hbytes : ∀ bytes, Base64.decodeUrl? (Base64.encodeUrl bytes) = some bytes := fun bytes =>
    Base64.decodeUrl?_eq_some_iff.2 rfl
  refine ⟨_, format_someState 7, ?_, ?_, ?_, (accepted_tokens_are_signed plain).1 rfl _⟩
  · refine (hother _ _ (by rw [trim_encodeUrl]; exact hbytes _) ?_).2.2 someState
      (parse?_someState 8)
    -- The two payloads begin with the nonces.
    rw [hbytes, ne_eq, Option.some.injEq]
    exact fun h => absurd (congrArg List.head? h) (by decide)
  · refine (hother _ _ (by rw [trim_encodeUrl]; exact hbytes _) ?_).1 ?_
    · rw [hbytes, ne_eq, Option.some.injEq, signed, List.append_cancel_left_eq]
      exact (map_xor_ne (List.ne_nil_of_length_pos (by rw [Hmac.length_sign]; decide))).symm
    · rw [List.length_append, List.length_map, Hmac.length_sign, Nat.add_sub_cancel, List.take_left]
      rfl
  · refine (hother "AAAA" [0, 0, 0] (by decide) ?_).2.1 (by decide)
    rw [hbytes, ne_eq, Option.some.injEq]
    intro h
    have hlength := congrArg List.length h
    have hthree : ([0, 0, 0] : Bytes).length = 3 := rfl
    rw [length_signed, signatureLength, hthree] at hlength
    omega

end ClientState.Codec

end SessionRelay
