import SessionRelay.Proofs.Json.Spelling

/-!
# A text is read as the one value it spells

The tokens of a text make up a tree exactly when they are the tokens of that tree
(`treeOfTokens?_eq_some_iff`), and a tree denotes a value that is in order, nests no deeper than
allowed and holds only numbers that the text names. A written value is read back, put in order, if
its numbers read back and it does not nest too deeply (`parse?_compact`); read a level further in,
it has one level less to nest.
-/

namespace SessionRelay.Json

namespace Tree

/-- Induction over trees: the cases for containers assume the claim of all that they hold. -/
theorem ind {P : Tree → Prop} (null : P .null) (bool : ∀ b, P (.bool b))
    (number : ∀ n, P (.number n)) (string : ∀ s, P (.string s))
    (array : ∀ items, (∀ t ∈ items, P t) → P (.array items))
    (object : ∀ members : List (Option String × Tree), (∀ m ∈ members, P m.2) →
      P (.object members)) : ∀ t, P t :=
  @Tree.rec P (fun items => ∀ t ∈ items, P t) (fun members => ∀ m ∈ members, P m.2)
    (fun m => P m.2)
    null bool number string array object (by simp)
    (fun _ _ ht hts => List.forall_mem_cons.2 ⟨ht, hts⟩) (by simp)
    (fun _ _ hm hms => List.forall_mem_cons.2 ⟨hm, hms⟩) (fun _ _ ht => ht)

end Tree

/-! ## From tokens to a tree -/

theorem readToken_firstItem {token : Token} (h : token ≠ .closeArray) (frames : List Frame) :
    readToken (.firstItem frames) token = readToken (.value (.array [] :: frames)) token := by
  simp [readToken, h]

theorem spell_head (t : Tree) :
    ∃ token tokens, t.spell = token :: tokens ∧ token ≠ .closeArray := by
  cases t with
  | array items => cases items <;> exact ⟨_, _, rfl, by decide⟩
  | object members => cases members <;> exact ⟨_, _, rfl, by decide⟩
  | _ => exact ⟨_, _, rfl, by simp⟩

/-- The tokens of a tree, read where a value may start, complete that tree. -/
def Read (t : Tree) : Prop := ∀ frames rest,
  (t.spell ++ rest).foldlM readToken (.value frames) = rest.foldlM readToken (.complete t frames)

theorem foldlM_spellItems (frames : List Frame) (rest : List Token) :
    ∀ {items : List Tree} (done : List Tree) (t : Tree), (∀ u ∈ items, Read u) →
      (Tree.spellItems items ++ rest).foldlM readToken (.complete t (.array done :: frames)) =
        rest.foldlM readToken (.complete (.array ((t :: done).reverse ++ items)) frames)
  | [], done, t, _ => by
    rw [List.append_nil]
    rfl
  | u :: items, done, t, h => by
    have hu := h u List.mem_cons_self (.array (t :: done) :: frames) (Tree.spellItems items ++ rest)
    have ih := foldlM_spellItems frames rest (t :: done) u fun x hx =>
      h x (List.mem_cons_of_mem _ hx)
    rw [Tree.spellItems, List.cons_append, List.cons_append, List.append_assoc, List.foldlM_cons]
    refine hu.trans (ih.trans ?_)
    simp

theorem foldlM_spellMembers (frames : List Frame) (rest : List Token) :
    ∀ {members : List (Option String × Tree)} (done : List (Option String × Tree))
      (key : Option String) (t : Tree), (∀ m ∈ members, Read m.2) →
      (Tree.spellMembers members ++ rest).foldlM readToken
          (.complete t (.member done key :: frames)) =
        rest.foldlM readToken (.complete (.object (((key, t) :: done).reverse ++ members)) frames)
  | [], done, key, t, _ => by
    rw [List.append_nil]
    rfl
  | (k, u) :: members, done, key, t, h => by
    have hu := h (k, u) List.mem_cons_self (.member ((key, t) :: done) k :: frames)
      (Tree.spellMembers members ++ rest)
    have ih := foldlM_spellMembers frames rest ((key, t) :: done) k u fun x hx =>
      h x (List.mem_cons_of_mem _ hx)
    rw [Tree.spellMembers, Tree.spellMember, List.cons_append, List.cons_append, List.cons_append,
      List.cons_append, List.append_assoc, List.foldlM_cons]
    refine hu.trans (ih.trans ?_)
    simp

theorem read (t : Tree) : Read t := by
  induction t using Tree.ind with
  | null | bool | number | string => exact fun _ _ => rfl
  | array items ih =>
    intro frames rest
    cases items with
    | nil => rfl
    | cons t items =>
      have ht := ih t List.mem_cons_self (.array [] :: frames) (Tree.spellItems items ++ rest)
      have hrest := foldlM_spellItems frames rest [] t fun u hu => ih u (List.mem_cons_of_mem _ hu)
      obtain ⟨token, tokens, htoken, hne⟩ := spell_head t
      rw [Tree.spell, List.cons_append, List.cons_append, List.append_assoc, List.foldlM_cons]
      refine Eq.trans ?_ (ht.trans hrest)
      rw [htoken, List.cons_append, List.foldlM_cons, ← readToken_firstItem hne]
      rfl
  | object members ih =>
    intro frames rest
    cases members with
    | nil => rfl
    | cons m members =>
      obtain ⟨key, t⟩ := m
      have ht := ih (key, t) List.mem_cons_self (.member [] key :: frames)
        (Tree.spellMembers members ++ rest)
      have hrest := foldlM_spellMembers frames rest [] key t fun u hu =>
        ih u (List.mem_cons_of_mem _ hu)
      rw [Tree.spell, Tree.spellMember, List.cons_append, List.cons_append, List.cons_append,
        List.cons_append, List.append_assoc, List.foldlM_cons]
      exact ht.trans hrest

theorem treeOfTokens?_spell (t : Tree) : treeOfTokens? t.spell = some t := by
  have h := read t [] []
  rw [List.append_nil] at h
  rw [treeOfTokens?, h]
  rfl

/-! ## The tokens behind a tree -/

namespace Tree

theorem spell_array_append (t : Tree) : ∀ items : List Tree,
    spell (.array (items ++ [t])) =
      .openArray :: items.flatMap (fun u => u.spell ++ [.comma]) ++ t.spell ++ [.closeArray] := by
  have hrest : ∀ (items : List Tree) (u : Tree), u.spell ++ spellItems (items ++ [t]) =
      (u :: items).flatMap (fun u => u.spell ++ [.comma]) ++ t.spell ++ [.closeArray] := by
    intro items
    induction items with
    | nil => simp [spellItems]
    | cons x items ih => simp [spellItems, ih x]
  intro items
  cases items with
  | nil => simp [spell, spellItems]
  | cons u items => simp only [List.cons_append, spell, hrest items u]

theorem spell_object_append (m : Option String × Tree) : ∀ members : List (Option String × Tree),
    spell (.object (members ++ [m])) =
      .openObject :: members.flatMap (fun x => spellMember x ++ [.comma]) ++ spellMember m ++
        [.closeObject] := by
  have hrest : ∀ (members : List (Option String × Tree)) (x : Option String × Tree),
      spellMember x ++ spellMembers (members ++ [m]) =
        (x :: members).flatMap (fun x => spellMember x ++ [.comma]) ++ spellMember m ++
          [.closeObject] := by
    intro members
    induction members with
    | nil => simp [spellMembers]
    | cons y members ih => simp [spellMembers, ih y]
  intro members
  cases members with
  | nil => simp [spell, spellMembers]
  | cons x members => simp only [List.cons_append, spell, hrest members x]

end Tree

/-- The tokens that opened the containers being read, outermost first, with what these hold. -/
def spellFrames : List Frame → List Token
  | [] => []
  | .array done :: frames =>
    spellFrames frames ++ .openArray :: done.reverse.flatMap fun t => t.spell ++ [.comma]
  | .member done key :: frames =>
    spellFrames frames ++ .openObject ::
      (done.reverse.flatMap fun m => Tree.spellMember m ++ [.comma]) ++ [.string key, .colon]

/-- The members of an object that is open, up to the comma after the last. -/
def spellOpen (done : List (Option String × Tree)) (frames : List Frame) : List Token :=
  spellFrames frames ++ .openObject :: done.reverse.flatMap fun m => Tree.spellMember m ++ [.comma]

/-- The tokens that have been read. -/
def Pending.spell : Pending → List Token
  | .value frames => spellFrames frames
  | .firstItem frames => spellFrames frames ++ [.openArray]
  | .firstKey frames => spellFrames frames ++ [.openObject]
  | .key done frames => spellOpen done frames
  | .colon done waiting frames => spellOpen done frames ++ [.string waiting]
  | .complete tree frames => spellFrames frames ++ tree.spell

theorem spell_beginValue {frames : List Frame} {token : Token} {p : Pending}
    (h : beginValue frames token = some p) : p.spell = spellFrames frames ++ [token] := by
  cases token <;> simp only [beginValue, Option.some.injEq, reduceCtorEq] at h <;> subst h <;> rfl

theorem spell_afterValue {tree : Tree} {frames : List Frame} {token : Token} {p : Pending}
    (h : afterValue tree frames token = some p) :
    p.spell = spellFrames frames ++ tree.spell ++ [token] := by
  unfold afterValue at h
  split at h <;> simp only [Option.some.injEq, reduceCtorEq] at h <;> subst h
  · simp [Pending.spell, spellFrames]
  · simp [Pending.spell, spellFrames, Tree.spell_array_append]
  · simp [Pending.spell, spellFrames, spellOpen, Tree.spellMember]
  · simp [Pending.spell, spellFrames, Tree.spell_object_append, Tree.spellMember]

theorem spell_readToken {p p' : Pending} {token : Token} (h : readToken p token = some p') :
    p'.spell = p.spell ++ [token] := by
  cases p with
  | value frames => exact spell_beginValue h
  | firstItem frames =>
    simp only [readToken] at h
    split_ifs at h with hclose
    · simp only [Option.some.injEq] at h
      subst hclose h
      simp [Pending.spell, Tree.spell]
    · simpa [Pending.spell, spellFrames] using spell_beginValue h
  | firstKey frames =>
    cases token <;> simp only [readToken, Option.some.injEq, reduceCtorEq] at h <;> subst h
    · simp [Pending.spell, Tree.spell]
    · simp [Pending.spell, spellOpen]
  | key done frames =>
    cases token <;> simp only [readToken, Option.some.injEq, reduceCtorEq] at h
    subst h
    rfl
  | colon done key frames =>
    cases token <;> simp only [readToken, Option.some.injEq, reduceCtorEq] at h
    subst h
    simp [Pending.spell, spellOpen, spellFrames]
  | complete tree frames => exact spell_afterValue h

theorem spell_foldlM : ∀ {tokens : List Token} {p p' : Pending},
    tokens.foldlM readToken p = some p' → p'.spell = p.spell ++ tokens
  | [], p, p', h => by
    simp only [List.foldlM_nil, Option.pure_def, Option.some.injEq] at h
    rw [h, List.append_nil]
  | token :: tokens, p, p', h => by
    rw [List.foldlM_cons] at h
    obtain ⟨q, hq, hrest⟩ := Option.bind_eq_some_iff.1 h
    rw [spell_foldlM hrest, spell_readToken hq, List.append_assoc, List.singleton_append]

/-- The tokens of a text make up a tree exactly when they are the tokens of that tree. -/
theorem treeOfTokens?_eq_some_iff {tokens : List Token} {t : Tree} :
    treeOfTokens? tokens = some t ↔ tokens = t.spell := by
  refine ⟨fun h => ?_, fun h => h ▸ treeOfTokens?_spell t⟩
  obtain ⟨p, hp, h⟩ := Option.bind_eq_some_iff.1 h
  split at h
  · simp only [Option.some.injEq] at h
    subst h
    simpa [Pending.spell, spellFrames] using (spell_foldlM hp).symm
  · cases h

/-! ## From a tree to its value -/

namespace Tree

theorem items?_ofItems {d : Nat} : ∀ {items : List Json},
    (∀ v ∈ items, toJson? d (ofJson v) = if v.nesting ≤ d then some v.canonical else none) →
      items? d (ofItems items) =
        if nestingItems items ≤ d then some (canonicalItems items) else none
  | [], _ => by simp [ofItems, items?, nestingItems, canonicalItems]
  | v :: items, h => by
    have hv := h v List.mem_cons_self
    have ih := items?_ofItems fun x hx => h x (List.mem_cons_of_mem _ hx)
    simp only [ofItems, items?, hv, ih, nestingItems, sup_le_iff, canonicalItems]
    by_cases hd : v.nesting ≤ d <;> by_cases hi : nestingItems items ≤ d <;> simp [hd, hi]

theorem members?_ofMembers {d : Nat} : ∀ {members : List (String × Json)},
    (∀ m ∈ members, toJson? d (ofJson m.2) =
      if m.2.nesting ≤ d then some m.2.canonical else none) →
      members? d (ofMembers members) =
        if nestingMembers members ≤ d then some (canonicalMembers members) else none
  | [], _ => by simp [ofMembers, members?, nestingMembers, canonicalMembers]
  | (key, v) :: members, h => by
    have hv := h (key, v) List.mem_cons_self
    have ih := members?_ofMembers fun x hx => h x (List.mem_cons_of_mem _ hx)
    simp only [ofMembers, ofMember, members?, member?, Option.bind_eq_bind, Option.bind_some, hv,
      ih, nestingMembers, nestingMember, sup_le_iff, canonicalMembers, canonicalMember]
    by_cases hd : v.nesting ≤ d <;> by_cases hi : nestingMembers members ≤ d <;> simp [hd, hi]

/-- The tree of a value denotes it, put in order, where it may nest that deep. -/
theorem toJson?_ofJson (v : Json) : ∀ d : Nat,
    toJson? d (ofJson v) = if v.nesting ≤ d then some v.canonical else none := by
  induction v using Json.ind with
  | null | bool | number | string => exact fun _ => rfl
  | array items ih =>
    intro d
    cases d with
    | zero => simp [ofJson, toJson?, nesting]
    | succ d =>
      rw [ofJson, toJson?, items?_ofItems fun v hv => ih v hv d, nesting, canonical]
      by_cases hd : nestingItems items ≤ d <;> simp [hd]
  | object members ih =>
    intro d
    cases d with
    | zero => simp [ofJson, toJson?, nesting]
    | succ d =>
      rw [ofJson, toJson?, members?_ofMembers fun m hm => ih m hm d, nesting, canonical]
      by_cases hd : nestingMembers members ≤ d <;> simp [hd]

theorem exists_of_mem_items? {d : Nat} : ∀ {trees : List Tree} {vs : List Json} {v : Json},
    items? d trees = some vs → v ∈ vs → ∃ t ∈ trees, toJson? d t = some v
  | [], vs, v, h, hv => by
    simp only [items?, Option.some.injEq] at h
    subst h
    cases hv
  | t :: trees, vs, v, h, hv => by
    obtain ⟨x, hx, h⟩ := Option.bind_eq_some_iff.1 h
    obtain ⟨xs, hxs, h⟩ := Option.bind_eq_some_iff.1 h
    simp only [Option.pure_def, Option.some.injEq] at h
    subst h
    rcases List.mem_cons.1 hv with rfl | hv
    · exact ⟨t, List.mem_cons_self, hx⟩
    · obtain ⟨u, hu, hv⟩ := exists_of_mem_items? hxs hv
      exact ⟨u, List.mem_cons_of_mem _ hu, hv⟩

theorem exists_of_mem_members? {d : Nat} : ∀ {trees : List (Option String × Tree)}
    {ms : List (String × Json)} {m : String × Json},
    members? d trees = some ms → m ∈ ms → ∃ t ∈ trees, toJson? d t.2 = some m.2
  | [], ms, m, h, hm => by
    simp only [members?, Option.some.injEq] at h
    subst h
    cases hm
  | (key, t) :: trees, ms, m, h, hm => by
    obtain ⟨x, hx, h⟩ := Option.bind_eq_some_iff.1 h
    obtain ⟨xs, hxs, h⟩ := Option.bind_eq_some_iff.1 h
    simp only [Option.pure_def, Option.some.injEq] at h
    subst h
    rcases List.mem_cons.1 hm with rfl | hm
    · obtain ⟨k, _, hx⟩ := Option.bind_eq_some_iff.1 hx
      obtain ⟨v, hv, hx⟩ := Option.bind_eq_some_iff.1 hx
      simp only [Option.pure_def, Option.some.injEq] at hx
      exact ⟨(key, t), List.mem_cons_self, hx ▸ hv⟩
    · obtain ⟨u, hu, hm⟩ := exists_of_mem_members? hxs hm
      exact ⟨u, List.mem_cons_of_mem _ hu, hm⟩

theorem spell_subset_spellItems {t : Tree} : ∀ {items : List Tree}, t ∈ items →
    t.spell ⊆ spellItems items
  | u :: items, h, token, htoken => by
    rw [spellItems]
    rcases List.mem_cons.1 h with rfl | h
    · simp [htoken]
    · simp [spell_subset_spellItems h htoken]

theorem spell_subset_array {items : List Tree} {t : Tree} (h : t ∈ items) :
    t.spell ⊆ spell (.array items) := by
  intro token htoken
  cases items with
  | nil => cases h
  | cons u items =>
    rw [spell]
    rcases List.mem_cons.1 h with rfl | h
    · simp [htoken]
    · simp [spell_subset_spellItems h htoken]

theorem spell_subset_spellMembers {m : Option String × Tree} :
    ∀ {members : List (Option String × Tree)}, m ∈ members → m.2.spell ⊆ spellMembers members
  | (key, t) :: members, h, token, htoken => by
    rw [spellMembers, spellMember]
    rcases List.mem_cons.1 h with rfl | h
    · simp [htoken]
    · simp [spell_subset_spellMembers h htoken]

theorem spell_subset_object {members : List (Option String × Tree)} {m : Option String × Tree}
    (h : m ∈ members) : m.2.spell ⊆ spell (.object members) := by
  intro token htoken
  cases members with
  | nil => cases h
  | cons x members =>
    obtain ⟨key, t⟩ := x
    rw [spell, spellMember]
    rcases List.mem_cons.1 h with rfl | h
    · simp [htoken]
    · simp [spell_subset_spellMembers h htoken]

/-- What a tree denotes is in order, nests no deeper than allowed and has its numbers from the
tokens. -/
structure Denotes (t : Tree) (d : Nat) (v : Json) : Prop where
  ordered : v.Ordered
  nesting : v.nesting ≤ d
  numbers : ∀ n ∈ v.numbers, .number (some n) ∈ t.spell

theorem denotes_of_toJson? (t : Tree) : ∀ {d : Nat} {v : Json}, toJson? d t = some v →
    Denotes t d v := by
  induction t using Tree.ind with
  | null | bool =>
    intro d v h
    simp only [toJson?, Option.some.injEq] at h
    subst h
    exact ⟨by constructor, Nat.zero_le d, by simp [numbers]⟩
  | number n | string n =>
    intro d v h
    obtain ⟨n, rfl, rfl⟩ := Option.map_eq_some_iff.1 h
    exact ⟨by constructor, Nat.zero_le d, by simp [numbers, spell]⟩
  | array items ih =>
    intro d v h
    cases d with
    | zero => cases h
    | succ d =>
      obtain ⟨vs, hvs, rfl⟩ := Option.map_eq_some_iff.1 h
      have hall : ∀ x ∈ vs, ∃ t ∈ items, Denotes t d x := fun x hx => by
        obtain ⟨t, ht, hx⟩ := exists_of_mem_items? hvs hx
        exact ⟨t, ht, ih t ht hx⟩
      refine ⟨.array fun x hx => ?_, nesting_array_le.2 fun x hx => ?_, fun n hn => ?_⟩
      · obtain ⟨t, _, hx⟩ := hall x hx
        exact hx.ordered
      · obtain ⟨t, _, hx⟩ := hall x hx
        exact hx.nesting
      · obtain ⟨x, hx, hn⟩ := mem_numbers_array.1 hn
        obtain ⟨t, ht, hx⟩ := hall x hx
        exact spell_subset_array ht (hx.numbers n hn)
  | object members ih =>
    intro d v h
    cases d with
    | zero => cases h
    | succ d =>
      obtain ⟨ms, hms, rfl⟩ := Option.map_eq_some_iff.1 h
      have hall : ∀ x ∈ ms, ∃ t ∈ members, Denotes t.2 d x.2 := fun x hx => by
        obtain ⟨t, ht, hx⟩ := exists_of_mem_members? hms hx
        exact ⟨t, ht, ih t ht hx⟩
      refine ⟨ordered_ofMembers fun x hx => ?_, nesting_object_le.2 fun x hx => ?_, fun n hn => ?_⟩
      · obtain ⟨t, _, hx⟩ := hall x hx
        exact hx.ordered
      · obtain ⟨t, _, hx⟩ := hall x (Members.mem_of_mem_ofList hx)
        exact hx.nesting
      · obtain ⟨x, hx, hn⟩ := mem_numbers_object.1 hn
        obtain ⟨t, ht, hx⟩ := hall x (Members.mem_of_mem_ofList hx)
        exact spell_subset_object ht (hx.numbers n hn)

end Tree

/-! ## Integers fit 64 bits -/

theorem number_of_numeral? {cs : List Char} {n : Int}
    (h : numeral? cs = some (.number (some (.int n)))) : Number.Fits n := by
  obtain ⟨l, _, hl⟩ := Option.map_eq_some_iff.1 h
  exact Number.fits_of_toNumber? (Token.number.inj hl)

theorem word?_ne_number {cs : List Char} {n : Option Number} : word? cs ≠ some (.number n) := by
  unfold word?
  split_ifs <;> simp

theorem number_notMem_startToken {c : Char} {next : Scan} {ts : List Token} {n : Option Number}
    (h : startToken c = some (next, ts)) : .number n ∉ ts := by
  unfold startToken at h
  split_ifs at h <;> simp only [Option.some.injEq, Prod.mk.injEq] at h <;>
    obtain ⟨_, rfl⟩ := h <;> simp

theorem fits_of_scan {place next : Scan} {c : Char} {ts : List Token} {n : Int}
    (h : scan place c = some (next, ts)) (hn : .number (some (.int n)) ∈ ts) : Number.Fits n := by
  have hstart : ∀ {token : Token} {place : Scan × List Token},
      startToken c = some place → .number (some (.int n)) ∈ token :: place.2 →
        token = .number (some (.int n)) := by
    intro token place hplace hmem
    rcases List.mem_cons.1 hmem with h | h
    · exact h.symm
    · exact absurd h (number_notMem_startToken hplace)
  cases place with
  | between => exact absurd hn (number_notMem_startToken h)
  | word letters =>
    simp only [scan] at h
    split_ifs at h
    · simp only [Option.some.injEq, Prod.mk.injEq] at h
      simp [← h.2] at hn
    · obtain ⟨token, htoken, h⟩ := Option.bind_eq_some_iff.1 h
      obtain ⟨place, hplace, h⟩ := Option.bind_eq_some_iff.1 h
      simp only [Option.pure_def, Option.some.injEq, Prod.mk.injEq] at h
      rw [← h.2] at hn
      exact absurd (hstart hplace hn ▸ htoken) word?_ne_number
  | numeral chars =>
    simp only [scan] at h
    split_ifs at h
    · simp only [Option.some.injEq, Prod.mk.injEq] at h
      simp [← h.2] at hn
    · obtain ⟨token, htoken, h⟩ := Option.bind_eq_some_iff.1 h
      obtain ⟨place, hplace, h⟩ := Option.bind_eq_some_iff.1 h
      simp only [Option.pure_def, Option.some.injEq, Prod.mk.injEq] at h
      rw [← h.2] at hn
      exact number_of_numeral? (hstart hplace hn ▸ htoken)
  | string p =>
    simp only [scan] at h
    split_ifs at h <;> simp only [Option.some.injEq, Prod.mk.injEq] at h <;>
      obtain ⟨_, rfl⟩ := h <;> simp [Partial.token] at hn
  | escape p =>
    simp only [scan] at h
    split_ifs at h
    · simp only [Option.some.injEq, Prod.mk.injEq] at h
      simp [← h.2] at hn
    · obtain ⟨_, _, h⟩ := Option.map_eq_some_iff.1 h
      simp only [Prod.mk.injEq] at h
      simp [← h.2] at hn
  | unit p left value =>
    obtain ⟨_, _, h⟩ := Option.map_eq_some_iff.1 h
    cases left <;> simp only [Prod.mk.injEq] at h <;> simp [← h.2] at hn

theorem fits_of_finishScan {place : Scan} {ts : List Token} {n : Int}
    (h : finishScan place = some ts) (hn : .number (some (.int n)) ∈ ts) : Number.Fits n := by
  cases place with
  | between =>
    simp only [finishScan, Option.some.injEq] at h
    simp [← h] at hn
  | word letters =>
    obtain ⟨token, htoken, rfl⟩ := Option.map_eq_some_iff.1 h
    exact absurd (List.mem_singleton.1 hn ▸ htoken) word?_ne_number
  | numeral chars =>
    obtain ⟨token, htoken, rfl⟩ := Option.map_eq_some_iff.1 h
    exact number_of_numeral? (List.mem_singleton.1 hn ▸ htoken)
  | string | escape | unit => cases h

theorem fits_of_tokensFrom? {n : Int} : ∀ {cs : List Char} {place : Scan} {ts : List Token},
    tokensFrom? place cs = some ts → .number (some (.int n)) ∈ ts → Number.Fits n
  | [], _, _, h, hn => fits_of_finishScan h hn
  | c :: cs, place, ts, h, hn => by
    obtain ⟨⟨next, first⟩, hfirst, h⟩ := Option.bind_eq_some_iff.1 h
    obtain ⟨rest, hrest, h⟩ := Option.bind_eq_some_iff.1 h
    simp only [Option.pure_def, Option.some.injEq] at h
    rw [← h] at hn
    rcases List.mem_append.1 hn with hn | hn
    · exact fits_of_scan hfirst hn
    · exact fits_of_tokensFrom? hrest hn

/-! ## Texts -/

/-- A value in order whose integers fit 64 bits. -/
structure Tidy (v : Json) : Prop where
  ordered : v.Ordered
  fits : ∀ n, .int n ∈ v.numbers → Number.Fits n

theorem Tidy.of_mem_array {items : List Json} {v : Json} (h : Tidy (.array items))
    (hv : v ∈ items) : v.Tidy :=
  ⟨h.ordered.of_mem_array hv, fun n hn => h.fits n (mem_numbers_array.2 ⟨v, hv, hn⟩)⟩

theorem Tidy.of_mem_object {members : Members} {m : String × Json} (h : Tidy (.object members))
    (hm : m ∈ members) : m.2.Tidy :=
  ⟨h.ordered.of_mem_object hm, fun n hn => h.fits n (mem_numbers_object.2 ⟨m, hm, hn⟩)⟩

theorem tidy_of_parse? {text : String} {v : Json} (h : parse? text = some v) :
    v.Tidy ∧ v.nesting ≤ maxDepth := by
  obtain ⟨t, ht, h⟩ := Option.bind_eq_some_iff.1 h
  obtain ⟨tokens, htokens, ht⟩ := Option.bind_eq_some_iff.1 ht
  have hv := Tree.denotes_of_toJson? t h
  refine ⟨⟨hv.ordered, fun n hn => fits_of_tokensFrom? htokens ?_⟩, hv.nesting⟩
  rw [treeOfTokens?_eq_some_iff.1 ht]
  exact hv.numbers _ hn

theorem tree?_compact {v : Json} (h : ∀ n ∈ v.numbers, n.ReadsBack) :
    tree? v.compact = some (Tree.ofJson v) := by
  rw [tree?, tokens?_compact h]
  exact treeOfTokens?_spell _

/-- A written value is read back, put in order, if its numbers are and it does not nest too
deeply. -/
theorem parse?_compact {v : Json} (h : ∀ n ∈ v.numbers, n.ReadsBack) :
    parse? v.compact = if v.nesting ≤ maxDepth then some v.canonical else none := by
  rw [parse?, tree?_compact h]
  exact Tree.toJson?_ofJson v maxDepth

end SessionRelay.Json
