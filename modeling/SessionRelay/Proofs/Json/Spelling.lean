import SessionRelay.Json.Parser
import SessionRelay.Proofs.Json.Value
import SessionRelay.Proofs.Number.Literal

/-!
# A written value is read token by token

The text of a value consists of the tokens of its tree (`tokensFrom?_compactChars`): every escape is
read back to the character it stands for, and a number or a word ends where the next mark begins.
-/

namespace SessionRelay.Json

namespace Tree

mutual

/-- The tree of a value. -/
def ofJson : Json → Tree
  | .null => .null
  | .bool b => .bool b
  | .number n => .number (some n)
  | .string s => .string (some s)
  | .array items => .array (ofItems items)
  | .object members => .object (ofMembers members)

def ofItems : List Json → List Tree
  | [] => []
  | item :: items => ofJson item :: ofItems items

def ofMembers : List (String × Json) → List (Option String × Tree)
  | [] => []
  | member :: members => ofMember member :: ofMembers members

def ofMember : String × Json → Option String × Tree
  | (key, value) => (some key, ofJson value)

end

mutual

/-- The tokens of a tree. -/
def spell : Tree → List Token
  | .null => [.null]
  | .bool b => [.bool b]
  | .number n => [.number n]
  | .string s => [.string s]
  | .array [] => [.openArray, .closeArray]
  | .array (item :: items) => .openArray :: spell item ++ spellItems items
  | .object [] => [.openObject, .closeObject]
  | .object (member :: members) => .openObject :: spellMember member ++ spellMembers members

/-- The items after the first, and the closing bracket. -/
def spellItems : List Tree → List Token
  | [] => [.closeArray]
  | item :: items => .comma :: spell item ++ spellItems items

def spellMember : Option String × Tree → List Token
  | (key, tree) => .string key :: .colon :: spell tree

/-- The members after the first, and the closing brace. -/
def spellMembers : List (Option String × Tree) → List Token
  | [] => [.closeObject]
  | member :: members => .comma :: spellMember member ++ spellMembers members

end

end Tree

/-! ## One character at a time -/

theorem tokensFrom?_cons (place : Scan) {next : Scan} {c : Char} {ts : List Token}
    (h : scan place c = some (next, ts)) (cs : List Char) :
    tokensFrom? place (c :: cs) = (tokensFrom? next cs).map (ts ++ ·) := by
  simp only [tokensFrom?, h, Option.bind_eq_bind, Option.bind_some]
  cases tokensFrom? next cs <;> rfl

/-- A character that completes no token. -/
theorem tokensFrom?_silent {place : Scan} (next : Scan) {c : Char}
    (h : scan place c = some (next, [])) (cs : List Char) :
    tokensFrom? place (c :: cs) = tokensFrom? next cs := by
  simp [tokensFrom?_cons place h]

/-- A character that is a token of its own. -/
theorem tokensFrom?_mark {c : Char} (token : Token)
    (h : startToken c = some (.between, [token])) (cs : List Char) :
    tokensFrom? .between (c :: cs) = (tokensFrom? .between cs).map (token :: ·) :=
  tokensFrom?_cons .between h cs

/-! ## Strings -/

theorem hexValue?_hexDigit : ∀ n < 16, hexValue? (hexDigit n) = some n := by decide

/-- A string read so far, without an escape in progress. -/
def Partial.ofChars (text : List Char) : Partial := ⟨text, none, true⟩

theorem Partial.push_ofChars (text : List Char) (c : Char) :
    (Partial.ofChars text).push c = Partial.ofChars (c :: text) := rfl

theorem Partial.pushUnit_ofChars (text : List Char) {unit : Nat} (h : unit < 0xD800) :
    (Partial.ofChars text).pushUnit unit = Partial.ofChars (Char.ofNat unit :: text) := by
  simp only [pushUnit, show ¬ (0xD800 ≤ unit ∧ unit < 0xDC00) by omega,
    show ¬ (0xDC00 ≤ unit ∧ unit < 0xE000) by omega, if_false]
  rfl

theorem tokensFrom?_letter_escape {text : List Char} {letter c : Char} (hu : letter ≠ 'u')
    (h : escaped? letter = some c) (cs : List Char) :
    tokensFrom? (.string (.ofChars text)) ('\\' :: letter :: cs) =
      tokensFrom? (.string (.ofChars (c :: text))) cs := by
  rw [tokensFrom?_silent (.escape (.ofChars text)) (by simp [scan]),
    tokensFrom?_silent (.string (.ofChars (c :: text)))]
  simp [scan, hu, h, Partial.push_ofChars]

theorem tokensFrom?_unit_escape {text : List Char} {c : Char} (hc : c.toNat < 32)
    (cs : List Char) :
    tokensFrom? (.string (.ofChars text))
        ('\\' :: 'u' :: '0' :: '0' :: hexDigit (c.toNat / 16) :: hexDigit (c.toNat % 16) :: cs) =
      tokensFrom? (.string (.ofChars (c :: text))) cs := by
  have hhigh := hexValue?_hexDigit (c.toNat / 16) (by omega)
  have hlow := hexValue?_hexDigit (c.toNat % 16) (by omega)
  have hzero : hexValue? '0' = some 0 := by decide
  have hsum : 16 * (c.toNat / 16) + c.toNat % 16 = c.toNat := by omega
  rw [tokensFrom?_silent (.escape (.ofChars text)) (by simp [scan]),
    tokensFrom?_silent (.unit (.ofChars text) 3 0) (by simp [scan]),
    tokensFrom?_silent (.unit (.ofChars text) 2 0) (by simp [scan, hzero]),
    tokensFrom?_silent (.unit (.ofChars text) 1 0) (by simp [scan, hzero]),
    tokensFrom?_silent (.unit (.ofChars text) 0 (c.toNat / 16)) (by simp [scan, hhigh]),
    tokensFrom?_silent (.string (.ofChars (c :: text)))]
  simp only [scan, hlow, Option.map_some, hsum,
    Partial.pushUnit_ofChars text (show c.toNat < 0xD800 by omega), Char.ofNat_toNat]

theorem tokensFrom?_escape (text : List Char) (c : Char) (cs : List Char) :
    tokensFrom? (.string (.ofChars text)) (escape c ++ cs) =
      tokensFrom? (.string (.ofChars (c :: text))) cs := by
  unfold escape
  split_ifs with hquote hslash hb hf hn hr ht hlow
  · exact tokensFrom?_letter_escape (by decide) (by rw [hquote]; decide) cs
  · exact tokensFrom?_letter_escape (by decide) (by rw [hslash]; decide) cs
  · exact tokensFrom?_letter_escape (by decide) (by rw [hb]; decide) cs
  · exact tokensFrom?_letter_escape (by decide) (by rw [hf]; decide) cs
  · exact tokensFrom?_letter_escape (by decide) (by rw [hn]; decide) cs
  · exact tokensFrom?_letter_escape (by decide) (by rw [hr]; decide) cs
  · exact tokensFrom?_letter_escape (by decide) (by rw [ht]; decide) cs
  · exact tokensFrom?_unit_escape hlow cs
  · refine tokensFrom?_silent (.string (.ofChars (c :: text))) ?_ cs
    simp [scan, hquote, hslash, hlow, Partial.push_ofChars]

theorem tokensFrom?_escapes (rest : List Char) : ∀ (cs text : List Char),
    tokensFrom? (.string (.ofChars text)) (cs.flatMap escape ++ '"' :: rest) =
      (tokensFrom? .between rest).map
        (.string (some (String.ofList (text.reverse ++ cs))) :: ·)
  | [], text => by
    have hclosed : scan (.string (.ofChars text)) '"' =
        some (.between, [.string (some (String.ofList text.reverse))]) := by
      simp only [scan, if_true]
      rfl
    rw [List.flatMap_nil, List.nil_append, tokensFrom?_cons _ hclosed, List.append_nil]
    rfl
  | c :: cs, text => by
    rw [List.flatMap_cons, List.append_assoc, tokensFrom?_escape, tokensFrom?_escapes rest cs]
    simp

theorem tokensFrom?_quote (s : String) (rest : List Char) :
    tokensFrom? .between (quote s ++ rest) =
      (tokensFrom? .between rest).map (.string (some s) :: ·) := by
  rw [quote, List.cons_append, List.cons_append, List.append_assoc,
    tokensFrom?_silent (.string (.ofChars [])) (by decide), List.singleton_append,
    tokensFrom?_escapes]
  simp

/-! ## Numbers and words -/

/-- What may follow a value: a comma, a closing mark or nothing. -/
def Delimited (rest : List Char) : Prop := ∀ c ∈ rest.head?, c = ',' ∨ c = ']' ∨ c = '\x7d'

/-- A literal that has begun ends where the next mark begins. -/
theorem tokensFrom?_end {place : Scan} {token : Token} {rest : List Char} (hrest : Delimited rest)
    (hfinish : finishScan place = some [token])
    (hscan : ∀ c, c = ',' ∨ c = ']' ∨ c = '\x7d' →
      scan place c = (startToken c).map fun next => (next.1, token :: next.2)) :
    tokensFrom? place rest = (tokensFrom? .between rest).map (token :: ·) := by
  cases rest with
  | nil =>
    rw [tokensFrom?, hfinish]
    rfl
  | cons c cs =>
    obtain ⟨next, hnext⟩ : ∃ next, startToken c = some next := by
      rcases hrest c rfl with rfl | rfl | rfl <;> exact ⟨_, rfl⟩
    have hplace : scan place c = some (next.1, token :: next.2) := by
      rw [hscan c (hrest c rfl), hnext, Option.map_some]
    rw [tokensFrom?_cons _ hplace, tokensFrom?_cons .between hnext, Option.map_map]
    rfl

theorem tokensFrom?_numeral {token : Token} {rest : List Char} (hrest : Delimited rest) :
    ∀ {cs before : List Char}, (∀ c ∈ cs, isNumeralChar c = true) →
      numeral? (before.reverse ++ cs) = some token →
      tokensFrom? (.numeral before) (cs ++ rest) =
        (tokensFrom? .between rest).map (token :: ·)
  | [], before, _, h => by
    rw [List.append_nil] at h
    refine tokensFrom?_end hrest (by simp [finishScan, h]) fun c hc => ?_
    have hnum : isNumeralChar c = false := by rcases hc with rfl | rfl | rfl <;> decide
    simp only [scan, hnum, h]
    rcases hc with rfl | rfl | rfl <;> rfl
  | c :: cs, before, hcs, h => by
    have hc := hcs c List.mem_cons_self
    rw [List.cons_append, tokensFrom?_silent (.numeral (c :: before)) (by simp [scan, hc])]
    exact tokensFrom?_numeral hrest (fun x hx => hcs x (List.mem_cons_of_mem _ hx))
      (by simpa using h)

theorem startToken_numeral {c : Char} (h : c.isDigit = true ∨ c = '-') :
    startToken c = some (.numeral [c], []) := by
  have hne : ∀ d : Char, d.isDigit = false → d ≠ '-' → c ≠ d := by
    rintro d hd hm rfl
    rcases h with h | h
    · rw [hd] at h
      cases h
    · exact hm h
  have hblank : isBlank c = false := by
    simp only [isBlank, Bool.or_eq_false_iff, beq_eq_false_iff_ne]
    exact ⟨⟨⟨hne _ (by decide) (by decide), hne _ (by decide) (by decide)⟩,
      hne _ (by decide) (by decide)⟩, hne _ (by decide) (by decide)⟩
  simp only [startToken, hblank, hne '[' (by decide) (by decide), hne ']' (by decide) (by decide),
    hne '\x7b' (by decide) (by decide), hne '\x7d' (by decide) (by decide),
    hne ',' (by decide) (by decide), hne ':' (by decide) (by decide),
    hne '"' (by decide) (by decide), if_false, h, if_true, Bool.false_eq_true]

theorem tokensFrom?_number {n : Number} (h : n.ReadsBack) {rest : List Char}
    (hrest : Delimited rest) : tokensFrom? .between (n.chars ++ rest) =
      (tokensFrom? .between rest).map (.number (some n) :: ·) := by
  obtain ⟨l, hl, hn⟩ := Option.bind_eq_some_iff.1 h
  obtain ⟨hall, c, hc, hfirst⟩ := Numeral.chars_of_ofChars? hl
  obtain ⟨cs, hcs⟩ : ∃ cs, n.chars = c :: cs := by
    cases hchars : n.chars with
    | nil => simp [hchars] at hc
    | cons d cs =>
      rw [hchars, List.head?_cons, Option.mem_some_iff] at hc
      exact ⟨cs, by rw [hc]⟩
  have htoken : numeral? ([c].reverse ++ cs) = some (.number (some n)) := by
    rw [List.reverse_singleton, List.singleton_append, ← hcs, numeral?, hl, Option.map_some, hn]
  rw [hcs] at hall
  have hbegun : scan .between c = some (.numeral [c], []) := startToken_numeral hfirst
  rw [hcs, List.cons_append, tokensFrom?_silent _ hbegun]
  exact tokensFrom?_numeral hrest (fun x hx => hall x (List.mem_cons_of_mem _ hx)) htoken

theorem tokensFrom?_word {token : Token} {rest : List Char} (hrest : Delimited rest) :
    ∀ before cs : List Char, (∀ c ∈ cs, c.isAlpha = true) →
      word? (before.reverse ++ cs) = some token →
      tokensFrom? (.word before) (cs ++ rest) = (tokensFrom? .between rest).map (token :: ·)
  | before, [], _, h => by
    rw [List.append_nil] at h
    refine tokensFrom?_end hrest (by simp [finishScan, h]) fun c hc => ?_
    have halpha : c.isAlpha = false := by rcases hc with rfl | rfl | rfl <;> decide
    simp only [scan, halpha, h]
    rcases hc with rfl | rfl | rfl <;> rfl
  | before, c :: cs, hcs, h => by
    have hc := hcs c List.mem_cons_self
    rw [List.cons_append, tokensFrom?_silent (.word (c :: before)) (by simp [scan, hc])]
    exact tokensFrom?_word hrest _ _ (fun x hx => hcs x (List.mem_cons_of_mem _ hx))
      (by simpa using h)

/-! ## Values -/

theorem delimited_compactItems (items : List Json) (rest : List Char) :
    Delimited (compactItems items ++ rest) := by
  cases items <;> simp [compactItems, Delimited]

theorem delimited_compactMembers (members : List (String × Json)) (rest : List Char) :
    Delimited (compactMembers members ++ rest) := by
  cases members <;> simp [compactMembers, Delimited]

/-- What reading the text of a value from between tokens gives, whatever may follow it. -/
def Spelled (v : Json) : Prop := ∀ rest, Delimited rest →
  tokensFrom? .between (v.compactChars ++ rest) =
    (tokensFrom? .between rest).map ((Tree.ofJson v).spell ++ ·)

theorem tokensFrom?_compactItems (rest : List Char) : ∀ {items : List Json},
    (∀ v ∈ items, Spelled v) → tokensFrom? .between (compactItems items ++ rest) =
      (tokensFrom? .between rest).map (Tree.spellItems (Tree.ofItems items) ++ ·)
  | [], _ => tokensFrom?_mark .closeArray (by decide) rest
  | v :: items, h => by
    have hv := h v List.mem_cons_self _ (delimited_compactItems items rest)
    have ih := tokensFrom?_compactItems rest fun x hx => h x (List.mem_cons_of_mem _ hx)
    rw [compactItems, List.cons_append, List.cons_append,
      tokensFrom?_mark .comma (by decide), List.append_assoc, hv, ih]
    simp [Tree.ofItems, Tree.spellItems, Function.comp_def]

theorem tokensFrom?_compactMember (key : String) {v : Json} (h : Spelled v)
    {rest : List Char} (hrest : Delimited rest) :
    tokensFrom? .between (compactMember (key, v) ++ rest) =
      (tokensFrom? .between rest).map (Tree.spellMember (Tree.ofMember (key, v)) ++ ·) := by
  rw [compactMember, List.append_assoc, tokensFrom?_quote, List.cons_append,
    tokensFrom?_mark .colon (by decide), h rest hrest]
  simp [Tree.ofMember, Tree.spellMember, Function.comp_def]

theorem tokensFrom?_compactMembers (rest : List Char) : ∀ {members : List (String × Json)},
    (∀ m ∈ members, Spelled m.2) → tokensFrom? .between (compactMembers members ++ rest) =
      (tokensFrom? .between rest).map (Tree.spellMembers (Tree.ofMembers members) ++ ·)
  | [], _ => tokensFrom?_mark .closeObject (by decide) rest
  | (key, v) :: members, h => by
    have hv := tokensFrom?_compactMember key (h (key, v) List.mem_cons_self)
      (delimited_compactMembers members rest)
    have ih := tokensFrom?_compactMembers rest fun x hx => h x (List.mem_cons_of_mem _ hx)
    rw [compactMembers, List.cons_append, List.cons_append,
      tokensFrom?_mark .comma (by decide), List.append_assoc, hv, ih]
    simp [Tree.ofMembers, Tree.spellMembers, Function.comp_def]

theorem spelled_array {items : List Json} (h : ∀ v ∈ items, Spelled v) :
    Spelled (.array items) := by
  intro rest _
  cases items with
  | nil =>
    rw [compactChars, List.cons_append, List.singleton_append,
      tokensFrom?_mark .openArray (by decide), tokensFrom?_mark .closeArray (by decide)]
    simp [Tree.ofJson, Tree.ofItems, Tree.spell, Function.comp_def]
  | cons v items =>
    have hv := h v List.mem_cons_self _ (delimited_compactItems items rest)
    have hrest := tokensFrom?_compactItems rest fun x hx => h x (List.mem_cons_of_mem _ hx)
    rw [compactChars, List.cons_append, List.cons_append,
      tokensFrom?_mark .openArray (by decide), List.append_assoc, hv, hrest]
    simp [Tree.ofJson, Tree.ofItems, Tree.spell, Function.comp_def]

theorem spelled_object {members : Members} (h : ∀ m ∈ members, Spelled m.2) :
    Spelled (.object members) := by
  intro rest _
  cases members with
  | nil =>
    rw [compactChars, List.cons_append, List.singleton_append,
      tokensFrom?_mark .openObject (by decide), tokensFrom?_mark .closeObject (by decide)]
    simp [Tree.ofJson, Tree.ofMembers, Tree.spell, Function.comp_def]
  | cons m members =>
    obtain ⟨key, v⟩ := m
    have hv := tokensFrom?_compactMember key (h (key, v) List.mem_cons_self)
      (delimited_compactMembers members rest)
    have hrest := tokensFrom?_compactMembers rest fun x hx => h x (List.mem_cons_of_mem _ hx)
    rw [compactChars, List.cons_append, List.cons_append,
      tokensFrom?_mark .openObject (by decide), List.append_assoc, hv, hrest]
    simp [Tree.ofJson, Tree.ofMembers, Tree.spell, Function.comp_def]

/-- The text of a value consists of the tokens of its tree, if its numbers read back. -/
theorem tokensFrom?_compactChars {v : Json} (h : ∀ n ∈ v.numbers, n.ReadsBack) : Spelled v := by
  induction v using Json.ind with
  | null =>
    intro rest hrest
    exact (tokensFrom?_silent _ (by decide) _).trans
      (tokensFrom?_word hrest ['n'] ['u', 'l', 'l'] (by simp) (by decide))
  | bool b =>
    intro rest hrest
    cases b
    · exact (tokensFrom?_silent _ (by decide) _).trans
        (tokensFrom?_word hrest ['f'] ['a', 'l', 's', 'e'] (by simp) (by decide))
    · exact (tokensFrom?_silent _ (by decide) _).trans
        (tokensFrom?_word hrest ['t'] ['r', 'u', 'e'] (by simp) (by decide))
  | number n =>
    intro rest hrest
    rw [compactChars, tokensFrom?_number (h n (by simp [numbers])) hrest]
    rfl
  | string s =>
    intro rest _
    rw [compactChars, tokensFrom?_quote]
    rfl
  | array items ih =>
    exact spelled_array fun v hv => ih v hv fun n hn => h n (mem_numbers_array.2 ⟨v, hv, hn⟩)
  | object members ih =>
    exact spelled_object fun m hm => ih m hm fun n hn => h n (mem_numbers_object.2 ⟨m, hm, hn⟩)

theorem tokens?_compact {v : Json} (h : ∀ n ∈ v.numbers, n.ReadsBack) :
    tokens? v.compact.toList = some (Tree.ofJson v).spell := by
  have hv := tokensFrom?_compactChars h [] (by simp [Delimited])
  rw [List.append_nil] at hv
  rw [compact, String.toList_ofList, tokens?, hv]
  simp [tokensFrom?, finishScan]

end SessionRelay.Json
