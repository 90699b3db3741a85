import SessionRelay.Proofs.Server.Onward

/-!
# Who holds the sessions of an instance

A session is opened for an exchange that goes on to feed it, or for a stream that is handed out at
once. The stream of an exchange is handed out with the reply, so a client that goes away before the
reply leaves a session behind whose stream nobody has and nobody will take. Any other session of the
table is ending, is being fed, or has its stream with a client (`Tended`). So when all has come to
rest the table holds the sessions that clients hold, and those left behind (`live_held_iff`).
-/

namespace SessionRelay

open Session (Untaken)

/-- Whether the entries of a table are those of open sessions, under their client ids. -/
def SessionTable.Listed (t : SessionTable) : Prop :=
  ∀ entry ∈ t.live, ∃ s, t.session? entry.2 = some s ∧ s.clientId = entry.1 ∧ s.closed = false

/-- A session that is closed takes its entry with it. -/
theorem SessionTable.Listed.close {t : SessionTable} (h : t.Listed) (place : Nat) :
    (t.close place).Listed := by
  intro entry hentry
  have hsession := t.session?_close place entry.2
  unfold SessionTable.close at hentry hsession ⊢
  cases hs : t.session? place with
  | none =>
    simp only [hs] at hentry ⊢
    exact h entry hentry
  | some s =>
    simp only [hs] at hentry hsession ⊢
    by_cases hclosed : s.closed = true
    · rw [if_pos hclosed] at hentry ⊢
      exact h entry hentry
    · rw [if_neg hclosed] at hentry hsession ⊢
      have hmodified : (t.modify place Session.shutDown).session? place = some s.shutDown := by
        rw [session?_modify, hs, Option.map_some, if_pos rfl]
      obtain ⟨hmem, hne⟩ := (mem_live_remove hmodified).1 hentry
      obtain ⟨s₁, hs₁, hkey, hopen⟩ := h entry hmem
      have hplace : place ≠ entry.2 := by
        rintro rfl
        obtain rfl := Option.some.inj (hs.symm.trans hs₁)
        exact hne (Prod.ext (hkey.symm.trans s.shutDown_spec.2.1.symm) rfl)
      refine ⟨s₁, ?_, hkey, hopen⟩
      rw [hsession, hs₁, Option.map_some, if_neg hplace]

namespace Server

variable {σ : Type} {service : Queue.Service σ} {v v' : Server} {s : Session}
  {place number : Nat} {lost : List Nat}

/-! ## Who tends the sessions -/

/-- What holds of all sessions of an instance. Some were lost: their exchange was given up before
it handed out their stream. -/
structure Tended (lost : List Nat) (v : Server) : Prop where
  listed : v.table.Listed
  whole : ∀ place s, v.table.session? place = some s →
    s.transport.closed = true → s.closed = true
  taken : ∀ body ∈ v.bodies, ∃ s, v.table.session? body.session = some s ∧ ¬ s.Untaken
  fed : ∀ place, v.Fed place →
    ∃ s, v.table.session? place = some s ∧ (s.closed = true ∨ s.Untaken)
  apart : ∀ number number' place, v.feeds? number = some place → v.feeds? number' = some place →
    number = number'
  tended : ∀ place s, v.table.session? place = some s →
    s.Ending ∨ v.Held place ∨ v.Fed place ∨ place ∈ lost
  loose : ∀ place ∈ lost, ¬ v.Fed place ∧ ∃ s, v.table.session? place = some s ∧
    (s.closed = true ∨ ∀ body ∈ v.bodies, body.session ≠ place)

theorem fed_congr (h : ∀ number, v'.feeds? number = v.feeds? number) (place : Nat) :
    v'.Fed place ↔ v.Fed place := by
  simp only [Fed, h]

namespace Tended

theorem taken_of (h : v.Tended lost) : ∀ body ∈ v.bodies, ∀ s,
    v.table.session? body.session = some s → ¬ s.Untaken := by
  intro body hbody s hs
  obtain ⟨s', hs', htaken⟩ := h.taken body hbody
  obtain rfl := Option.some.inj (hs'.symm.trans hs)
  exact htaken

theorem onward (h : v.Tended lost) (honward : Onward v v') : v'.Tended lost where
  listed := by
    intro entry hentry
    rw [honward.live] at hentry
    obtain ⟨s, hs, hkey, hclosed⟩ := h.listed entry hentry
    obtain ⟨s', hs', hstays⟩ := honward.forth hs
    exact ⟨s', hs', hstays.clientId.trans hkey, hstays.closed.trans hclosed⟩
  whole := by
    intro place s' hs'
    obtain ⟨s, hs, hstays⟩ := honward.back hs'
    rw [hstays.disposed, hstays.closed]
    exact h.whole place s hs
  taken := by
    intro body' hbody'
    obtain ⟨body, hbody, hsession⟩ := honward.bodies body' hbody'
    obtain ⟨s, hs, htaken⟩ := h.taken body hbody
    obtain ⟨s', hs', hstays⟩ := honward.forth hs
    exact ⟨s', hsession ▸ hs', fun h => htaken (hstays.untaken.1 h)⟩
  fed := by
    intro place hfed
    obtain ⟨s, hs, hreserved⟩ := h.fed place ((fed_congr honward.feeds place).1 hfed)
    obtain ⟨s', hs', hstays⟩ := honward.forth hs
    exact ⟨s', hs', hreserved.imp hstays.closed.trans hstays.untaken.2⟩
  apart := by
    intro number number' place
    rw [honward.feeds, honward.feeds]
    exact h.apart number number' place
  tended := by
    intro place s' hs'
    obtain ⟨s, hs, hstays⟩ := honward.back hs'
    rw [fed_congr honward.feeds]
    rcases h.tended place s hs with hending | hheld | hrest
    · exact .inl (hstays.ending hending)
    · rcases honward.held place hheld with hheld' | hending
      · exact .inr (.inl hheld')
      · exact .inl (hending s' hs')
    · exact .inr (.inr hrest)
  loose := by
    intro place hplace
    obtain ⟨hfed, s, hs, halone⟩ := h.loose place hplace
    obtain ⟨s', hs', hstays⟩ := honward.forth hs
    refine ⟨fun hfed' => hfed ((fed_congr honward.feeds place).1 hfed'), s', hs', ?_⟩
    refine halone.imp hstays.closed.trans fun hnone body' hbody' => ?_
    obtain ⟨body, hbody, hsession⟩ := honward.bodies body' hbody'
    exact hsession ▸ hnone body hbody

/-- A new session is nobody's. -/
theorem create (h : v.Tended lost) {kind : StreamKind} {parent : String} {draw : Draw}
    {table : SessionTable} (hcreate : v.table.create kind parent draw = .ok (place, table)) :
    ({ v with table } : Server).Tended (place :: lost) ∧ place ∉ lost ∧
      ∃ s, table.session? place = some s ∧ s.Untaken := by
  obtain ⟨rfl, -⟩ := SessionTable.create_spec hcreate
  obtain ⟨new, hopens, rfl, -, houtbound, -⟩ := SessionTable.create_framing hcreate
  have hnew : (v.table.enter new).session? v.table.opened.length = some new := by
    rw [SessionTable.session?_enter, if_pos rfl]
  have hnone : ∀ {s}, v.table.session? v.table.opened.length ≠ some s := fun hs =>
    absurd (SessionTable.lt_of_session? hs) (Nat.lt_irrefl _)
  have hold : ∀ {place s}, v.table.session? place = some s →
      (v.table.enter new).session? place = some s := SessionTable.session?_append v.table rfl
  have huntaken : new.Untaken := by rw [Untaken, houtbound]
  refine ⟨?_, fun hmem => ?_, new, hnew, huntaken⟩
  · constructor
    case listed =>
      intro entry hentry
      rcases List.mem_append.1 hentry with hentry | hentry
      · obtain ⟨s, hs, hkey⟩ := h.listed entry (List.mem_of_mem_filter hentry)
        exact ⟨s, hold hs, hkey⟩
      · obtain rfl := List.mem_singleton.1 hentry
        exact ⟨new, hnew, rfl, hopens.closed⟩
    case whole =>
      intro place s hs hclosed
      rw [SessionTable.session?_enter] at hs
      split_ifs at hs
      · obtain rfl := Option.some.inj hs
        rw [hopens.held] at hclosed
        cases hclosed
      · exact h.whole place s hs hclosed
    case taken =>
      intro body hbody
      obtain ⟨s, hs, htaken⟩ := h.taken body hbody
      exact ⟨s, hold hs, htaken⟩
    case fed =>
      intro place hfed
      obtain ⟨s, hs, hreserved⟩ := h.fed place hfed
      exact ⟨s, hold hs, hreserved⟩
    case apart => exact h.apart
    case tended =>
      intro place s hs
      rw [SessionTable.session?_enter] at hs
      split_ifs at hs with hplace
      · exact .inr (.inr (.inr (hplace ▸ List.mem_cons_self)))
      · exact (h.tended place s hs).imp_right
          (Or.imp_right (Or.imp_right (List.mem_cons_of_mem _)))
    case loose =>
      intro place hplace
      rcases List.mem_cons.1 hplace with rfl | hplace
      · refine ⟨fun hfed => ?_, new, hnew, .inr fun body hbody heq => ?_⟩
        · obtain ⟨s, hs, -⟩ := h.fed _ hfed
          exact hnone hs
        · obtain ⟨s, hs, -⟩ := h.taken body hbody
          exact hnone (heq ▸ hs)
      · obtain ⟨hfed, s, hs, halone⟩ := h.loose place hplace
        exact ⟨hfed, s, hold hs, halone⟩
  · obtain ⟨-, s, hs, -⟩ := h.loose _ hmem
    exact hnone hs

/-- A session that nobody has is that of a new exchange from now on. -/
theorem start (h : v.Tended (place :: lost)) (ho : v.Orderly) (hlost : place ∉ lost)
    (hs : v.table.session? place = some s) (huntaken : s.Untaken) (messages : List Rpc.Message) :
    (v.start (.feed place) messages).2.Tended lost := by
  have hfeeds := feeds?_start ho (.feed place) messages
  have hself : (v.start (.feed place) messages).2.feeds? v.nextExchange = some place := by
    rw [hfeeds, if_pos rfl]
    rfl
  have hfed : ∀ other, (v.start (.feed place) messages).2.Fed other →
      other = place ∨ v.Fed other := by
    rintro other ⟨number, hnumber⟩
    rw [hfeeds] at hnumber
    split_ifs at hnumber
    · exact .inl (Option.some.inj hnumber).symm
    · exact .inr ⟨number, hnumber⟩
  have hkeeps : ∀ other, v.Fed other → (v.start (.feed place) messages).2.Fed other := by
    rintro other ⟨number, hnumber⟩
    refine ⟨number, ?_⟩
    rw [hfeeds, if_neg, hnumber]
    rintro rfl
    rw [feeds?_next ho] at hnumber
    cases hnumber
  have hnot : ¬ v.Fed place := (h.loose place List.mem_cons_self).1
  refine ⟨h.listed, h.whole, h.taken, ?fed, ?apart, ?tended, ?loose⟩
  case fed =>
    intro other hother
    rcases hfed other hother with rfl | hother
    · exact ⟨s, hs, .inr huntaken⟩
    · exact h.fed other hother
  case apart =>
    intro number number' other hn hn'
    rw [hfeeds] at hn hn'
    split_ifs at hn hn' with hnext hnext' hnext'
    · rw [hnext, hnext']
    · cases hn
      exact absurd ⟨number', hn'⟩ hnot
    · cases hn'
      exact absurd ⟨number, hn⟩ hnot
    · exact h.apart number number' other hn hn'
  case tended =>
    intro other s' hs'
    rcases h.tended other s' hs' with hending | hheld | hother | hother
    · exact .inl hending
    · exact .inr (.inl hheld)
    · exact .inr (.inr (.inl (hkeeps other hother)))
    · rcases List.mem_cons.1 hother with rfl | hother
      · exact .inr (.inr (.inl ⟨_, hself⟩))
      · exact .inr (.inr (.inr hother))
  case loose =>
    intro other hother
    obtain ⟨hother', hrest⟩ := h.loose other (List.mem_cons_of_mem _ hother)
    refine ⟨fun hfed' => ?_, hrest⟩
    rcases hfed other hfed' with rfl | hfed'
    · exact hlost hother
    · exact hother' hfed'

/-- An exchange that is over leaves its session to nobody. -/
theorem removeExchange (h : v.Tended lost) (hfeeds : v.feeds? number = some place) :
    (v.removeExchange number).Tended (place :: lost) ∧ place ∉ lost ∧
      ∃ s, v.table.session? place = some s ∧ (s.closed = true ∨ s.Untaken) := by
  have hfed : ∀ other, (v.removeExchange number).Fed other → v.Fed other := by
    rintro other ⟨k, hk⟩
    rw [feeds?_removeExchange] at hk
    split_ifs at hk
    exact ⟨k, hk⟩
  obtain ⟨s, hs, hreserved⟩ := h.fed place ⟨number, hfeeds⟩
  refine ⟨⟨h.listed, h.whole, h.taken, fun other hother => h.fed other (hfed other hother),
    ?apart, ?tended, ?loose⟩, fun hmem => (h.loose place hmem).1 ⟨number, hfeeds⟩, s, hs, hreserved⟩
  case apart =>
    intro k k' other hk hk'
    rw [feeds?_removeExchange] at hk hk'
    split_ifs at hk hk'
    exact h.apart k k' other hk hk'
  case tended =>
    intro other s' hs'
    rcases h.tended other s' hs' with hending | hheld | ⟨k, hk⟩ | hother
    · exact .inl hending
    · exact .inr (.inl hheld)
    · by_cases hnumber : k = number
      · rw [hnumber, hfeeds] at hk
        exact .inr (.inr (.inr (Option.some.inj hk ▸ List.mem_cons_self)))
      · refine .inr (.inr (.inl ⟨k, ?_⟩))
        rw [feeds?_removeExchange, if_neg hnumber, hk]
    · exact .inr (.inr (.inr (List.mem_cons_of_mem _ hother)))
  case loose =>
    intro other hother
    rcases List.mem_cons.1 hother with rfl | hother
    · refine ⟨?_, s, hs, hreserved.imp_right fun huntaken body hbody heq => ?_⟩
      · rintro ⟨k, hk⟩
        rw [feeds?_removeExchange] at hk
        split_ifs at hk with hnumber
        exact hnumber (h.apart k number _ hk hfeeds)
      · exact h.taken_of body hbody s (heq ▸ hs) huntaken
    · obtain ⟨hother', hrest⟩ := h.loose other hother
      exact ⟨fun hfed' => hother' (hfed other hfed'), hrest⟩

/-- A session that is ending is not lost. -/
theorem settle (h : v.Tended (place :: lost))
    (hending : ∀ s, v.table.session? place = some s → s.Ending) : v.Tended lost := by
  refine ⟨h.listed, h.whole, h.taken, h.fed, h.apart, fun other s hs => ?_,
    fun other hother => h.loose other (List.mem_cons_of_mem _ hother)⟩
  rcases h.tended other s hs with hother | hheld | hfed | hother
  · exact .inl hother
  · exact .inr (.inl hheld)
  · exact .inr (.inr (.inl hfed))
  · rcases List.mem_cons.1 hother with rfl | hother
    · exact .inl (hending s hs)
    · exact .inr (.inr (.inr hother))

/-- A session whose stream a client has taken is not lost. -/
theorem handStream (h : v.Tended (place :: lost)) (hlost : place ∉ lost)
    (hs : v.table.session? place = some s) {s' : Session} (htaken : ¬ s'.Untaken)
    (hkey : s'.clientId = s.clientId) (hclosed : s'.closed = s.closed)
    (hdisposed : s'.transport.closed = s.transport.closed) {body : EventBody}
    (hbody : body.session = place) (hholds : body.attention.holds = true) :
    { v.modify place fun _ => s' with bodies := v.bodies ++ [body] }.Tended lost := by
  have hself : (v.table.modify place fun _ => s').session? place = some s' := by
    rw [SessionTable.session?_replace, if_pos rfl, hs, Option.map_some]
  have hother : ∀ {other}, other ≠ place →
      (v.table.modify place fun _ => s').session? other = v.table.session? other := by
    intro other hne
    rw [SessionTable.session?_replace, if_neg (Ne.symm hne)]
  have hnot : ¬ v.Fed place := (h.loose place List.mem_cons_self).1
  constructor
  case listed =>
    intro entry hentry
    obtain ⟨s₁, hs₁, hkey₁, hopen₁⟩ := h.listed entry hentry
    by_cases hplace : entry.2 = place
    · rw [hplace, hs] at hs₁
      obtain rfl := Option.some.inj hs₁
      exact ⟨s', hplace ▸ hself, hkey.trans hkey₁, hclosed.trans hopen₁⟩
    · exact ⟨s₁, (hother hplace).trans hs₁, hkey₁, hopen₁⟩
  case whole =>
    intro other s₁ hs₁
    by_cases hplace : other = place
    · subst hplace
      obtain rfl := Option.some.inj (hself.symm.trans hs₁)
      rw [hdisposed, hclosed]
      exact h.whole _ s hs
    · exact h.whole other s₁ ((hother hplace).symm.trans hs₁)
  case taken =>
    intro body' hbody'
    by_cases hplace : body'.session = place
    · exact ⟨s', hplace ▸ hself, htaken⟩
    · rcases List.mem_append.1 hbody' with hmem | hmem
      · obtain ⟨s₁, hs₁, htaken₁⟩ := h.taken body' hmem
        exact ⟨s₁, (hother hplace).trans hs₁, htaken₁⟩
      · exact absurd (List.mem_singleton.1 hmem ▸ hbody) hplace
  case fed =>
    intro other hfed
    obtain ⟨s₁, hs₁, hreserved₁⟩ := h.fed other hfed
    exact ⟨s₁, (hother fun heq => hnot (heq ▸ hfed)).trans hs₁, hreserved₁⟩
  case apart => exact h.apart
  case tended =>
    intro other s₁ hs₁
    by_cases hplace : other = place
    · exact .inr (.inl ⟨body, List.mem_append_right _ List.mem_cons_self,
        hbody.trans hplace.symm, hholds⟩)
    · rcases h.tended other s₁ ((hother hplace).symm.trans hs₁) with
        hending | ⟨body', hbody', hheld⟩ | hfed | hmem
      · exact .inl hending
      · exact .inr (.inl ⟨body', List.mem_append_left _ hbody', hheld⟩)
      · exact .inr (.inr (.inl hfed))
      · exact .inr (.inr (.inr ((List.mem_cons.1 hmem).resolve_left hplace)))
  case loose =>
    intro other hmem
    obtain ⟨hfed, s₁, hs₁, halone⟩ := h.loose other (List.mem_cons_of_mem _ hmem)
    have hplace : other ≠ place := fun heq => hlost (heq ▸ hmem)
    refine ⟨hfed, s₁, (hother hplace).trans hs₁, halone.imp_right fun hnone body' hbody' => ?_⟩
    rcases List.mem_append.1 hbody' with hmem' | hmem'
    · exact hnone body' hmem'
    · rw [List.mem_singleton.1 hmem', hbody]
      exact Ne.symm hplace

/-- The stream of a session that nobody has goes to a client, unless the session was closed. -/
theorem openBody (h : v.Tended (place :: lost)) (hlost : place ∉ lost)
    (hs : v.table.session? place = some s) (hreserved : s.closed = true ∨ s.Untaken) (now : Nat) :
    (v.openBody now place).2.Tended lost := by
  unfold Server.openBody
  rw [hs, Option.bind_some]
  rcases s.events_spec with ⟨htaken, hnone⟩ | ⟨s', hsome, htaken, hkey, hclosed, hdisposed⟩
  · rw [hnone]
    refine h.settle fun s' hs' => ?_
    obtain rfl := Option.some.inj (hs.symm.trans hs')
    exact .inl (hreserved.resolve_right htaken)
  · rw [hsome]
    exact h.handStream hlost hs htaken hkey hclosed hdisposed rfl rfl

theorem close (h : v.Tended lost) (other : Nat) : (v.close other).Tended lost := by
  -- What is closed is ending and has no stream to take; all other sessions are as they were.
  have hforth : ∀ {place s}, v.table.session? place = some s → ∃ s',
      (v.close other).table.session? place = some s' ∧
        (s' = s ∨ s'.closed = true ∧ (¬ s.Untaken → ¬ s'.Untaken)) := by
    intro place s hs
    obtain ⟨hclosed, -, htaken⟩ := s.shutDown_spec
    refine ⟨_, (v.table.session?_close other place).trans (by rw [hs, Option.map_some]), ?_⟩
    split_ifs
    · exact .inr ⟨hclosed, htaken⟩
    · exact .inl rfl
  have hback : ∀ {place s'}, (v.close other).table.session? place = some s' → ∃ s,
      v.table.session? place = some s ∧ (s' = s ∨ s'.closed = true) := by
    intro place s' hs'
    rw [show (v.close other).table.session? place = _ from v.table.session?_close other place]
      at hs'
    obtain ⟨s, hs, rfl⟩ := Option.map_eq_some_iff.1 hs'
    refine ⟨s, hs, ?_⟩
    split_ifs
    · exact .inr s.shutDown_spec.1
    · exact .inl rfl
  refine ⟨h.listed.close other, ?whole, ?taken, ?fed, h.apart, ?tended, ?loose⟩
  case whole =>
    intro place s' hs'
    obtain ⟨s, hs, rfl | hclosed⟩ := hback hs'
    · exact h.whole place s' hs
    · exact fun _ => hclosed
  case taken =>
    intro body hbody
    obtain ⟨s, hs, htaken⟩ := h.taken body hbody
    obtain ⟨s', hs', rfl | ⟨-, hkeeps⟩⟩ := hforth hs
    · exact ⟨s', hs', htaken⟩
    · exact ⟨s', hs', hkeeps htaken⟩
  case fed =>
    intro place hfed
    obtain ⟨s, hs, hreserved⟩ := h.fed place hfed
    obtain ⟨s', hs', rfl | ⟨hclosed, -⟩⟩ := hforth hs
    · exact ⟨s', hs', hreserved⟩
    · exact ⟨s', hs', .inl hclosed⟩
  case tended =>
    intro place s' hs'
    obtain ⟨s, hs, rfl | hclosed⟩ := hback hs'
    · exact h.tended place s' hs
    · exact .inl (.inl hclosed)
  case loose =>
    intro place hplace
    obtain ⟨hfed, s, hs, halone⟩ := h.loose place hplace
    obtain ⟨s', hs', rfl | ⟨hclosed, -⟩⟩ := hforth hs
    · exact ⟨hfed, s', hs', halone⟩
    · exact ⟨hfed, s', hs', .inl hclosed⟩

theorem watch (h : v.Tended lost) (other : Nat) :
    ({ v with table := v.table.watch other } : Server).Tended lost := by
  unfold SessionTable.watch
  split
  · split_ifs
    · exact h.close other
    · exact h
  · exact h

theorem foldl_close (places : List Nat) : ∀ {v : Server}, v.Tended lost →
    ({ v with table := places.foldl SessionTable.close v.table } : Server).Tended lost := by
  induction places with
  | nil => exact id
  | cons other rest ih => exact fun h => ih (h.close other)

/-! ### Requests -/

theorem openStream (h : v.Tended lost) (now : Nat) (draw : Draw) (query : String) :
    (v.openStream now draw query).2.Tended lost := by
  unfold Server.openStream
  simp only
  split
  · exact h
  · rename_i place table hcreate
    obtain ⟨hcreated, hlost, s, hs, huntaken⟩ := h.create hcreate
    exact hcreated.openBody hlost hs (.inr huntaken) now

theorem dropBody (h : v.Tended lost) (number : Nat) : (v.dropBody number).Tended lost :=
  h.onward (onward_dropBody h.taken_of)

theorem admitPost (h : v.Tended lost) (ho : v.Orderly) (r : Http.Request) :
    (v.admitPost r).2.Tended lost := by
  unfold Server.admitPost
  split
  · exact h
  · split
    · exact h
    · split
      · exact h
      · rename_i client _
        split
        · exact h.onward (onward_start ho rfl _)
        · exact h.onward (onward_rejectBody v client _ _)

theorem admitExchange (h : v.Tended lost) (ho : v.Orderly) (draw : Draw) (r : Http.Request) :
    (v.admitExchange draw r).2.Tended lost := by
  unfold Server.admitExchange
  split
  · exact h
  · split_ifs
    · exact h
    · split
      · exact h
      · split
        · exact h
        · rename_i messages _
          split
          · exact h.onward (onward_start ho rfl _)
          · exact h
          · split
            · exact h
            · rename_i place table hcreate
              obtain ⟨hcreated, hlost, s, hs, huntaken⟩ := h.create hcreate
              have hsame : Change v none { v with table } :=
                .same (touched_create hcreate 0).toFramed
              exact hcreated.start (ho.change hsame) hlost hs huntaken messages

theorem handle (h : v.Tended lost) (ho : v.Orderly) (now : Nat) (draw : Draw)
    (r : Http.Request) : (v.handle now draw r).2.Tended lost := by
  have hopened := h.openStream now draw r.query
  unfold Server.handle
  split
  · exact h
  · exact h
  · simp only
    split
    · exact hopened.dropBody _
    · exact hopened
    · exact hopened
  · split_ifs
    · exact h
    · exact hopened
  · exact h.admitPost ho r
  · exact h.admitExchange ho draw r
  · exact h

theorem receive (h : v.Tended lost) (ho : v.Orderly) (now : Nat) (draw : Draw)
    (r : Http.Request) : (v.receive now draw r).2.Tended lost := by
  unfold Server.receive
  split_ifs
  · exact h.handle ho now draw r
  · exact h

end Tended

/-! ### Exchanges -/

theorem removeExchange_openBody (v : Server) (now place number : Nat) :
    (v.openBody now place).2.removeExchange number =
      ((v.removeExchange number).openBody now place).2 := by
  have htable : (v.removeExchange number).table = v.table := rfl
  unfold openBody
  rw [htable]
  split <;> rfl

theorem Tended.handOut {e : Exchange} (h : v.Tended lost)
    (he : v.feeds? number = e.purpose.own?) (now : Nat) :
    ((v.handOut now e).removeExchange number).Tended lost := by
  unfold Server.handOut
  cases hown : e.purpose.own? with
  | none => exact h.onward (onward_removeExchange (he.trans hown))
  | some place =>
    obtain ⟨hremoved, hlost, s, hs, hreserved⟩ := h.removeExchange (he.trans hown)
    simp only [removeExchange_openBody]
    exact hremoved.openBody hlost hs hreserved now

theorem Tended.stepExchange (h : v.Tended lost) (service : Queue.Service σ) (now number : Nat)
    (queues : σ) : (v.stepExchange service now number queues).2.1.Tended lost := by
  unfold Server.stepExchange
  split
  · exact h
  · rename_i e hfind
    have he : v.exchange? number = some e := hfind
    obtain ⟨v₁, honward, hproceed⟩ := proceed_spec service v now e queues
    have hframed := (touched_proceed service v now e queues 0).toFramed
    split <;> rename_i heq <;> rw [heq] at hframed hproceed
    · obtain ⟨hnumber, hpurpose, -⟩ := proceed_goesOn (congrArg Prod.fst heq)
      have hafter := (exchange?_framed hframed number).trans he
      obtain rfl := hproceed
      exact (h.onward honward).onward
        (onward_setExchange hafter (hnumber.trans (number_of_exchange? he)) hpurpose)
    · obtain rfl := hproceed
      exact h.onward honward
    · rename_i v' queues'
      have hreplied : v' = v₁.handOut now e := hproceed
      rw [hreplied]
      refine (h.onward honward).handOut ?_ now
      rw [honward.feeds, own?_of_exchange he]

/-- The session that is left behind in a step: that of an exchange whose client goes away before the
reply. -/
def orphaned (v : Server) : Step σ → Option Nat
  | .abort number => v.feeds? number
  | _ => none

theorem Tended.abort (h : v.Tended lost) (number : Nat) :
    (v.abort number).Tended ((v.feeds? number).toList ++ lost) := by
  have hremove : ∀ {v₁}, Onward v v₁ →
      (v₁.removeExchange number).Tended ((v.feeds? number).toList ++ lost) := by
    intro v₁ honward
    have hfeeds := honward.feeds number
    cases hnone : v.feeds? number with
    | none => exact (h.onward honward).onward (onward_removeExchange (hfeeds.trans hnone))
    | some place => exact ((h.onward honward).removeExchange (hfeeds.trans hnone)).1
  unfold Server.abort
  split
  · rename_i hnone
    rw [feeds?, exchange?, hnone]
    exact h
  · split
    · exact hremove (v.onward_abandonSlot _)
    · exact hremove (.refl v)

/-! ## Runs -/

theorem Tended.step (h : v.Tended lost) (ho : v.Orderly) (service : Queue.Service σ)
    (st : Step σ) : (v.step service st).Tended ((v.orphaned st).toList ++ lost) := by
  cases st with
  | receive now draw request => exact h.receive ho now draw request
  | exchange now number queues => exact h.stepExchange service now number queues
  | act signals now a =>
    cases a with
    | pump other =>
      exact h.onward (v.onward_modify other fun s _ =>
        s.stays_apply v.router (.pump signals) nofun)
    | stopPump other => exact h.onward (v.onward_modify other fun s _ => s.stays_stopPump)
    | watch other => exact h.watch other
    | work other ticket =>
      exact h.onward (v.onward_modify other fun s _ =>
        s.stays_apply v.router (.work ticket signals) nofun)
    | read number => exact h.onward (onward_readBody h.taken_of h.whole)
    | handOver => exact h.onward v.onward_handOver
  | abort number => exact h.abort number
  | dropBody number => exact h.dropBody number
  | startReading number => exact h.onward (v.onward_startReading number)
  | collect number => exact h.onward (v.onward_collect number)
  | relay envelope => exact h.onward (.of_table rfl rfl rfl)
  | close other => exact h.close other
  | closeAll => exact h.foldl_close _

/-- A server after some steps. -/
def run (service : Queue.Service σ) (v : Server) (steps : List (Step σ)) : Server :=
  steps.foldl (Server.step service) v

/-- The sessions that are left behind in a run. -/
def orphans (service : Queue.Service σ) : Server → List (Step σ) → List Nat
  | _, [] => []
  | v, st :: rest => (v.orphaned st).toList ++ orphans service (v.step service st) rest

theorem Tended.run (service : Queue.Service σ) : ∀ (steps : List (Step σ)) {v : Server}
    {lost : List Nat}, v.Tended lost → v.Orderly →
      ∃ lost', (v.run service steps).Tended lost' ∧
        ∀ place, place ∈ lost' ↔ place ∈ lost ∨ place ∈ v.orphans service steps
  | [], v, lost, h, _ => ⟨lost, h, fun place => by simp [orphans]⟩
  | st :: rest, v, lost, h, ho => by
    obtain ⟨lost', htended, hmem⟩ :=
      Tended.run service rest (h.step ho service st) (ho.change (change_step service v st))
    refine ⟨lost', htended, fun place => ?_⟩
    rw [hmem, orphans, List.mem_append, List.mem_append]
    tauto

/-- An instance that has served nobody yet. -/
structure Unused (v : Server) : Prop where
  opened : v.table.opened = []
  live : v.table.live = []
  exchanges : v.exchanges = []
  bodies : v.bodies = []

theorem Unused.tended (h : v.Unused) : v.Tended [] := by
  have hsession : ∀ {place s}, v.table.session? place ≠ some s := by
    intro place s
    rw [SessionTable.session?, h.opened]
    rintro ⟨⟩
  have hfeeds : ∀ {number place}, v.feeds? number ≠ some place := by
    intro number place
    rw [feeds?, exchange?, h.exchanges]
    rintro ⟨⟩
  constructor
  case listed =>
    rw [SessionTable.Listed, h.live]
    exact List.forall_mem_nil _
  case whole => exact fun place s hs => absurd hs hsession
  case taken =>
    rw [h.bodies]
    exact List.forall_mem_nil _
  case fed =>
    rintro place ⟨number, hnumber⟩
    exact absurd hnumber hfeeds
  case apart => exact fun number number' place hnumber => absurd hnumber hfeeds
  case tended => exact fun place s hs => absurd hs hsession
  case loose => exact List.forall_mem_nil _

theorem watch_mem_acts {signals : List String} {now : Nat} (hs : v.table.session? place = some s)
    (hdue : s.isDue = true) (hopen : s.closed = false) :
    Act.watch place ∈ v.acts signals now := by
  have hasks : Act.watch place ∈ sessionActs signals place s := by
    simp [sessionActs, watchAct?, hdue, hopen]
  refine List.mem_append_left _ (List.mem_append_left _ ?_)
  refine List.mem_flatMap.2 ⟨(s, place), ?_, hasks⟩
  exact List.mk_mem_zipIdx_iff_getElem?.2 hs

/-- When no exchange is under way and no watcher has anything to do, the sessions of the table are
those that clients hold, and those whose exchange was given up before it was replied to. Nobody
holds one of the latter. -/
theorem live_held_iff {steps : List (Step σ)} {signals : List String} {now : Nat} (h : v.Unused)
    (hidle : (v.run service steps).exchanges = [])
    (hwatched : ∀ other, Act.watch other ∉ (v.run service steps).acts signals now)
    (hlive : (v.run service steps).table.isLive place = true) :
    (∃ body ∈ (v.run service steps).bodies, body.session = place ∧ body.attention.holds = true) ↔
      place ∉ v.orphans service steps := by
  obtain ⟨lost, htended, hmem⟩ := Tended.run service steps h.tended (.of_idle h.exchanges)
  have hlost : place ∈ lost ↔ place ∈ v.orphans service steps := by simp [hmem]
  rw [← hlost]
  obtain ⟨entry, hentry, hplace⟩ := List.any_eq_true.1 hlive
  obtain ⟨s, hs, -, hopen⟩ := htended.listed entry hentry
  rw [beq_iff_eq.1 hplace] at hs
  constructor
  · rintro ⟨body, hbody, hsession, -⟩ hplace
    obtain ⟨-, s', hs', halone⟩ := htended.loose place hplace
    obtain rfl := Option.some.inj (hs.symm.trans hs')
    rcases halone with hclosed | hnone
    · rw [hopen] at hclosed
      cases hclosed
    · exact hnone body hbody hsession
  · intro hplace
    rcases htended.tended place s hs with (hclosed | hdue) | hheld | ⟨number, hfeeds⟩ | hmem
    · rw [hopen] at hclosed
      cases hclosed
    · exact absurd (watch_mem_acts hs hdue hopen) (hwatched place)
    · exact hheld
    · rw [feeds?, exchange?, hidle] at hfeeds
      cases hfeeds
    · exact absurd hmem hplace

/-! ## A client that does not wait for the reply -/

/-- An instance whose sessions have room for one message. -/
def narrow : Server := { table := { instanceId := "a", capacity := 1 } }

def sseGet : Http.Request := { method := "GET", target := "/sse" }

/-- An exchange of two requests. -/
def pingPair : Http.Request where
  method := "POST"
  target := "/mcp"
  headers := [("accept", "application/json, text/event-stream")]
  body :=
    let ping := (Rpc.Message.request History.ping).wire
    Utf8.encode ("[" ++ ping ++ "," ++ ping ++ "]")

/-- A client opens a stream and keeps it. Another one posts two requests, and goes away while the
second of them waits for room. Then the first one is worked on. -/
def leaving : List (Step Queue.Store) :=
  [.receive 0 ⟨"c", []⟩ sseGet, .receive 0 ⟨"d", []⟩ pingPair, .exchange 0 0 {}, .exchange 0 0 {},
    .abort 0, .act [] 0 (.pump 1), .act [] 0 (.work 1 0)]

/-- The instance after that. -/
def left : Server := narrow.run .ofStore leaving

theorem left_at_rest : left.exchanges.length = 0 ∧ (left.acts [] 0).length = 0 ∧
    left.table.isLive 0 = true ∧ left.table.isLive 1 = true ∧
    left.bodies.map EventBody.session = [0] ∧ narrow.orphans .ofStore leaving = [1] := by
  decide +kernel

theorem live_held_leaving : left.table.isLive 0 = true ∧ left.table.isLive 1 = true ∧
    (∃ body ∈ left.bodies, body.session = 0 ∧ body.attention.holds = true) ∧
    ¬ ∃ body ∈ left.bodies, body.session = 1 ∧ body.attention.holds = true := by
  obtain ⟨hidle, hacts, hkept, hlost, -, horphans⟩ := left_at_rest
  have hwatched : ∀ other, Act.watch other ∉ left.acts [] 0 := by
    rw [List.eq_nil_of_length_eq_zero hacts]
    exact fun _ => List.not_mem_nil
  have hunused : narrow.Unused := ⟨rfl, rfl, rfl, rfl⟩
  have hheld : ∀ place, left.table.isLive place = true →
      ((∃ body ∈ left.bodies, body.session = place ∧ body.attention.holds = true) ↔
        place ∉ [1]) := by
    rw [← horphans]
    exact fun place => live_held_iff hunused (List.eq_nil_of_length_eq_zero hidle) hwatched
  exact ⟨hkept, hlost, (hheld 0 hkept).2 (by decide), fun h => (hheld 1 hlost).1 h (by decide)⟩

/-- Nothing is under way and nothing is left to do, and the table holds a session that no response
body is a stream of. -/
theorem session_outlives_client : left.exchanges = [] ∧ left.acts [] 0 = [] ∧
    left.table.isLive 1 = true ∧ ∀ body ∈ left.bodies, body.session ≠ 1 := by
  obtain ⟨hidle, hacts, -, hlost, hbodies, -⟩ := left_at_rest
  refine ⟨List.eq_nil_of_length_eq_zero hidle, List.eq_nil_of_length_eq_zero hacts, hlost,
    fun body hbody => ?_⟩
  have hmem := List.mem_map_of_mem (f := EventBody.session) hbody
  rw [hbodies, List.mem_singleton] at hmem
  rw [hmem]
  decide

end Server

end SessionRelay
