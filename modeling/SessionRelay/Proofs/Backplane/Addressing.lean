import SessionRelay.Backplane.Envelope
import SessionRelay.Proofs.Json.Reading

/-!
# An envelope keeps its address

Whatever becomes of the message on a queue: if the text of an envelope can be read at all, what is
read has the same instance and the same client on it (`address_ofText?_text`). The two stand before
the message in the text, and a member must not come twice.
-/

namespace SessionRelay

namespace Json

/-- Only the tree of a string literal begins with one. -/
theorem Tree.eq_string_of_spell {t : Tree} {s : Option String} {rest tokens : List Token}
    (h : t.spell ++ rest = .string s :: tokens) : t = .string s ∧ rest = tokens := by
  cases t with
  | string s' => simpa [Tree.spell] using h
  | array items => cases items <;> simp [Tree.spell] at h
  | object members => cases members <;> simp [Tree.spell] at h
  | _ => simp [Tree.spell] at h

end Json

namespace Envelope

open Json (Tree Token)

/-- The tokens of an envelope up to its message. -/
def addressTokens (e : Envelope) : List Token :=
  [.openObject, .string (some "targetInstanceId"), .colon, .string (some e.target), .comma,
    .string (some "clientId"), .colon, .string (some e.clientId), .comma]

theorem tokens?_text (e : Envelope) {tokens : List Token}
    (h : Json.tokens? e.text.toList = some tokens) :
    ∃ rest, tokens = e.addressTokens ++ .string (some "message") :: .colon :: rest := by
  have htext : e.text.toList = '\x7b' :: (Json.quote "targetInstanceId" ++ (':' ::
      (Json.quote e.target ++ (',' :: (Json.quote "clientId" ++ (':' ::
      (Json.quote e.clientId ++ (',' :: (Json.quote "message" ++ (':' ::
      (e.message.toJson.compactChars ++ ['\x7d'])))))))))))  := by
    simp [text, toJson, Json.compact, Json.compactChars, Json.compactMember, Json.compactMembers]
  rw [htext, Json.tokens?, Json.tokensFrom?_mark .openObject (by decide), Json.tokensFrom?_quote,
    Json.tokensFrom?_mark .colon (by decide), Json.tokensFrom?_quote,
    Json.tokensFrom?_mark .comma (by decide), Json.tokensFrom?_quote,
    Json.tokensFrom?_mark .colon (by decide), Json.tokensFrom?_quote,
    Json.tokensFrom?_mark .comma (by decide), Json.tokensFrom?_quote,
    Json.tokensFrom?_mark .colon (by decide)] at h
  simp only [Option.map_map, Option.map_eq_some_iff, Function.comp_apply] at h
  obtain ⟨rest, -, rfl⟩ := h
  exact ⟨rest, rfl⟩

/-- A text that is read as an envelope holds an object that begins with the address. -/
theorem tree?_text_address {e : Envelope} {t : Tree} (h : Json.tree? e.text = some t) :
    ∃ members, t = .object ((some "targetInstanceId", .string (some e.target)) ::
      (some "clientId", .string (some e.clientId)) :: members) := by
  obtain ⟨tokens, htokens, h⟩ := Option.bind_eq_some_iff.1 h
  obtain ⟨rest, hrest⟩ := e.tokens?_text htokens
  have hspell := (Json.treeOfTokens?_eq_some_iff.1 h).symm
  rw [hrest] at hspell
  cases t with
  | object members =>
    rcases members with _ | ⟨⟨key, first⟩, members⟩
    · simp [Tree.spell, addressTokens] at hspell
    simp only [Tree.spell, Tree.spellMember, addressTokens, List.cons_append, List.nil_append,
      List.cons_eq_cons, Token.string.injEq, true_and] at hspell
    obtain ⟨rfl, hspell⟩ := hspell
    obtain ⟨rfl, hafter⟩ := Json.Tree.eq_string_of_spell hspell
    clear hspell
    rcases members with _ | ⟨⟨key, second⟩, members⟩
    · simp [Tree.spellMembers] at hafter
    simp only [Tree.spellMembers, Tree.spellMember, List.cons_append, List.cons_eq_cons,
      Token.string.injEq, true_and] at hafter
    obtain ⟨rfl, hafter⟩ := hafter
    obtain ⟨rfl, -⟩ := Json.Tree.eq_string_of_spell hafter
    exact ⟨members, rfl⟩
  | array items => cases items <;> simp [Tree.spell, addressTokens] at hspell
  | _ => simp [Tree.spell, addressTokens] at hspell

/-- What has been read of the address stays. -/
theorem Draft.add?_keeps {target client : String} {d d' : Draft} {m : Option String × Tree}
    (h : d.add? m = some d') (htarget : d.target = some target)
    (hclient : d.clientId = some client) : d'.target = some target ∧ d'.clientId = some client := by
  obtain ⟨key, tree⟩ := m
  cases key with
  | none => cases h
  | some key =>
    simp only [add?] at h
    split_ifs at h
    · obtain ⟨_, -, h⟩ := Option.bind_eq_some_iff.1 h
      simp [htarget] at h
    · obtain ⟨_, -, h⟩ := Option.bind_eq_some_iff.1 h
      simp [hclient] at h
    · obtain ⟨_, -, h⟩ := Option.bind_eq_some_iff.1 h
      split_ifs at h
      simp only [Option.some.injEq] at h
      exact h ▸ ⟨htarget, hclient⟩
    · simp only [Option.some.injEq] at h
      exact h ▸ ⟨htarget, hclient⟩

theorem Draft.foldlM_keeps {target client : String} :
    ∀ {members : List (Option String × Tree)} {d d' : Draft}, members.foldlM add? d = some d' →
      d.target = some target → d.clientId = some client →
        d'.target = some target ∧ d'.clientId = some client
  | [], d, d', h, htarget, hclient => by
    simp only [List.foldlM_nil, Option.pure_def, Option.some.injEq] at h
    exact h ▸ ⟨htarget, hclient⟩
  | m :: members, d, d', h, htarget, hclient => by
    rw [List.foldlM_cons] at h
    obtain ⟨next, hnext, h⟩ := Option.bind_eq_some_iff.1 h
    obtain ⟨htarget, hclient⟩ := add?_keeps hnext htarget hclient
    exact foldlM_keeps h htarget hclient

theorem address_ofText?_text {e e' : Envelope} (h : ofText? e.text = some e') :
    e'.target = e.target ∧ e'.clientId = e.clientId := by
  obtain ⟨t, ht, h⟩ := Option.bind_eq_some_iff.1 h
  obtain ⟨members, rfl⟩ := tree?_text_address ht
  obtain ⟨d, hd, h⟩ := Option.bind_eq_some_iff.1 h
  have hbegun : members.foldlM Draft.add?
      { target := some e.target, clientId := some e.clientId } = some d := by
    simpa [Draft.add?, Draft.setTarget?, Draft.setClient?, textOfTree?] using hd
  obtain ⟨htarget, hclient⟩ := Draft.foldlM_keeps hbegun rfl rfl
  obtain ⟨message, -, h⟩ : ∃ message, d.message = some message ∧
      Envelope.mk e.target e.clientId message = e' := by
    simpa [Draft.finish?, htarget, hclient, Option.bind_eq_some_iff] using h
  exact h ▸ ⟨rfl, rfl⟩

end Envelope

end SessionRelay
