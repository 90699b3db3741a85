import SessionRelay.Proofs.Server.Holders

/-!
# What becomes of the table

Whatever happens at an instance, entries of its table only go, unless one session is opened, whose
entry replaces those of its id (`turnover_happen`). So an id leads where it led, or nowhere, until a
session is opened under it (`Turnover.find?`).
-/

namespace SessionRelay

open Session (Doing)

namespace SessionTable

variable {t t' t'' : SessionTable} {id : String} {drawn : Option String} {place : Nat}

/-- No id has two entries, and every entry leads to a session. -/
structure Keyed (t : SessionTable) : Prop where
  nodup : (t.live.map Prod.fst).Nodup
  place_lt : ∀ entry ∈ t.live, entry.2 < t.opened.length

/-- Whether the lines of all sessions are tidy. -/
def Tidy (t : SessionTable) : Prop :=
  ∀ place s, t.session? place = some s → s.transport.inbound.Tidy

theorem mem_live_of_find? (h : t.find? id = some place) : (id, place) ∈ t.live := by
  obtain ⟨⟨key, other⟩, hfind, rfl⟩ := Option.map_eq_some_iff.1 h
  obtain rfl : key = id := by simpa using List.find?_some hfind
  exact List.mem_of_find?_eq_some hfind

theorem Keyed.find?_eq_some_iff (h : t.Keyed) : t.find? id = some place ↔ (id, place) ∈ t.live := by
  refine ⟨mem_live_of_find?, fun hmem => ?_⟩
  obtain ⟨place', hfind⟩ : ∃ place', t.find? id = some place' := by
    rw [← Option.isSome_iff_exists, SessionTable.find?, Option.isSome_map, List.find?_isSome]
    exact ⟨_, hmem, beq_self_eq_true id⟩
  have hsame := List.inj_on_of_nodup_map h.nodup (mem_live_of_find? hfind) hmem rfl
  rw [hfind, (Prod.mk.inj hsame).2]

/-! ## Tables to which nothing comes -/

/-- No session is opened, and entries only go. -/
structure Kept (t t' : SessionTable) : Prop where
  live : t'.live.Sublist t.live
  opened : t'.opened.length = t.opened.length

namespace Kept

theorem refl (t : SessionTable) : Kept t t := ⟨List.Sublist.refl _, rfl⟩

theorem trans (h : Kept t t') (h' : Kept t' t'') : Kept t t'' :=
  ⟨h'.live.trans h.live, h'.opened.trans h.opened⟩

theorem modify (t : SessionTable) (place : Nat) (f : Session → Session) :
    Kept t (t.modify place f) :=
  ⟨List.Sublist.refl _, List.length_modify ..⟩

theorem remove (t : SessionTable) (place : Nat) : Kept t (t.remove place) := by
  unfold SessionTable.remove
  split
  · exact ⟨List.filter_sublist, rfl⟩
  · exact .refl t

theorem close (t : SessionTable) (place : Nat) : Kept t (t.close place) := by
  unfold SessionTable.close
  split
  · split_ifs
    · exact .refl t
    · exact (modify t place _).trans (remove _ place)
  · exact .refl t

theorem watch (t : SessionTable) (place : Nat) : Kept t (t.watch place) := by
  unfold SessionTable.watch
  split
  · split_ifs
    · exact close t place
    · exact .refl t
  · exact .refl t

theorem foldl_close (places : List Nat) : ∀ t : SessionTable,
    Kept t (places.foldl SessionTable.close t) := by
  induction places with
  | nil => exact .refl
  | cons place rest ih => exact fun t => (close t place).trans (ih _)

end Kept

/-! ## Sessions that are opened -/

/-- What becomes of a table, if one session may be opened under an id that is drawn. -/
inductive Turnover (t : SessionTable) : Option String → SessionTable → Prop
  | keeps {drawn : Option String} {t' : SessionTable} (h : Kept t t') : Turnover t drawn t'
  | opens {id : String} {t' : SessionTable}
    (hlive : t'.live = (t.live.filter fun entry => entry.1 != id) ++ [(id, t.opened.length)])
    (hopened : t'.opened.length = t.opened.length + 1)
    (hline : ∀ s, t'.session? t.opened.length = some s → s.transport.inbound.line = []) :
    Turnover t (some id) t'

namespace Turnover

theorem create {kind : StreamKind} {parent : String} {draw : Draw}
    (h : t.create kind parent draw = .ok (place, t')) : Turnover t (some draw.clientId) t' := by
  obtain ⟨s, hopens, rfl, -, -, hline⟩ := create_framing h
  refine .opens ?_ List.length_append fun s' hs' => ?_
  · rw [← hopens.clientId]
    rfl
  · rw [session?_enter, if_pos rfl] at hs'
    rw [← Option.some.inj hs', hline]

theorem keyed (h : Turnover t drawn t') (hkeyed : t.Keyed) : t'.Keyed := by
  cases h with
  | keeps h =>
    exact ⟨hkeyed.nodup.sublist (h.live.map Prod.fst), fun entry hentry =>
      h.opened.symm ▸ hkeyed.place_lt entry (h.live.subset hentry)⟩
  | opens hlive hopened =>
    constructor
    · rw [hlive, List.map_append, List.nodup_append]
      refine ⟨hkeyed.nodup.sublist (List.filter_sublist.map _), List.nodup_singleton _, ?_⟩
      rintro key hkey other hother rfl
      obtain ⟨entry, hentry, hsame⟩ := List.mem_map.1 hkey
      simpa [hsame, List.mem_singleton.1 hother] using (List.mem_filter.1 hentry).2
    · intro entry hentry
      rw [hlive] at hentry
      rw [hopened]
      rcases List.mem_append.1 hentry with hold | hnew
      · exact Nat.lt_succ_of_lt (hkeyed.place_lt entry (List.mem_of_mem_filter hold))
      · rw [List.mem_singleton.1 hnew]
        exact Nat.lt_succ_self _

/-- Where an id under which no session is opened leads, it has led before. -/
theorem find? (h : Turnover t drawn t') (hkeyed : t.Keyed) (hid : drawn ≠ some id)
    (hfind : t'.find? id = some place) : t.find? id = some place := by
  rw [hkeyed.find?_eq_some_iff]
  have hmem := mem_live_of_find? hfind
  cases h with
  | keeps h => exact h.live.subset hmem
  | opens hlive =>
    rw [hlive] at hmem
    rcases List.mem_append.1 hmem with hold | hnew
    · exact List.mem_of_mem_filter hold
    · exact absurd (congrArg some (Prod.mk.inj (List.mem_singleton.1 hnew)).1.symm) hid

/-- What is done to a session that is there besides, not to its line, opens none. -/
theorem besides (h : Turnover t drawn t') {f : Session → Session} (hf : ∀ s,
      t'.session? place = some s → (f s).transport.inbound = s.transport.inbound) :
    Turnover t drawn (t'.modify place f) := by
  cases h with
  | keeps h => exact .keeps (h.trans (.modify t' place f))
  | opens hlive hopened hline =>
    refine .opens hlive ((List.length_modify ..).trans hopened) fun s hs => ?_
    rw [session?_modify] at hs
    obtain ⟨old, hold, rfl⟩ := Option.map_eq_some_iff.1 hs
    have hnone := hline old hold
    split_ifs with hplace
    · rw [hf old (hplace ▸ hold), hnone]
    · exact hnone

end Turnover

end SessionTable

namespace Server

open SessionTable (Kept Turnover)

variable {σ : Type} {v v' : Server} {t : SessionTable} {drawn : Option String}

theorem Onward.kept (h : Onward v v') : Kept v.table v'.table := by
  refine ⟨h.live ▸ List.Sublist.refl _, Nat.le_antisymm ?_ ?_⟩
  · by_contra hlt
    obtain ⟨s, hs, -⟩ := h.back (List.getElem?_eq_getElem (Nat.lt_of_not_le hlt))
    exact Nat.lt_irrefl _ (SessionTable.lt_of_session? hs)
  · by_contra hlt
    obtain ⟨s, hs, -⟩ := h.forth (List.getElem?_eq_getElem (Nat.lt_of_not_le hlt))
    exact Nat.lt_irrefl _ (SessionTable.lt_of_session? hs)

theorem kept_openBody (v : Server) (now other : Nat) :
    Kept v.table (v.openBody now other).2.table := by
  unfold openBody
  split
  · exact .modify v.table other _
  · exact .refl v.table

theorem kept_dropBody (v : Server) (number : Nat) : Kept v.table (v.dropBody number).table := by
  unfold dropBody
  split
  · exact .refl v.table
  · exact .modify v.table _ _

theorem kept_readBody (v : Server) (now number : Nat) :
    Kept v.table (v.readBody now number).table := by
  unfold readBody
  split
  · exact .refl v.table
  · rename_i body _
    by_cases hreads : body.attention ≠ .reads
    · rw [if_pos hreads]
      exact .refl v.table
    · rw [if_neg hreads]
      split
      · exact .refl v.table
      · exact .modify v.table _ _
      · simp only
        split_ifs <;> exact .modify v.table _ _
      · exact .modify v.table _ _
      · exact .modify v.table _ _

theorem kept_stepExchange (service : Queue.Service σ) (v : Server) (now number : Nat)
    (queues : σ) : Kept v.table (v.stepExchange service now number queues).2.1.table := by
  unfold stepExchange
  split
  · exact .refl v.table
  · rename_i e _
    obtain ⟨v₁, honward, hv⟩ := proceed_spec service v now e queues
    have hhanded : Kept v.table (v₁.handOut now e).table := by
      refine honward.kept.trans ?_
      unfold handOut
      split
      · exact kept_openBody v₁ now _
      · exact .refl v₁.table
    split <;> rename_i heq <;> rw [heq] at hv <;> simp only at hv <;> rw [hv]
    · exact honward.kept
    · exact honward.kept
    · exact hhanded

theorem kept_abort (v : Server) (number : Nat) : Kept v.table (v.abort number).table := by
  unfold abort
  split
  · exact .refl v.table
  · split
    · exact (onward_abandonSlot v _).kept
    · exact .refl v.table

/-! ## Requests -/

/-- Handing out a stream, or taking it away, opens no session. -/
theorem turnover_openBody (h : Turnover t drawn v.table) (now other : Nat) :
    Turnover t drawn (v.openBody now other).2.table := by
  unfold openBody
  split
  · rename_i s' hopened
    obtain ⟨s, hs, hevents⟩ := Option.bind_eq_some_iff.1 hopened
    refine h.besides fun s₁ hs₁ => ?_
    obtain rfl := Option.some.inj (hs.symm.trans hs₁)
    rcases s.events_cases with hsame | ⟨-, hsame⟩ <;> rw [hevents, Option.getD_some] at hsame <;>
      rw [hsame]
  · exact h

theorem turnover_dropBody (h : Turnover t drawn v.table) (number : Nat) :
    Turnover t drawn (v.dropBody number).table := by
  unfold dropBody
  split
  · exact h
  · exact h.besides fun _ _ => rfl

theorem turnover_openStream (v : Server) (now : Nat) (draw : Draw) (query : String) :
    Turnover v.table (some draw.clientId) (v.openStream now draw query).2.table := by
  unfold openStream
  simp only
  split
  · exact .keeps (.refl v.table)
  · rename_i place table hcreate
    exact turnover_openBody (v := { v with table }) (.create hcreate) now place

theorem kept_admitPost (v : Server) (r : Http.Request) : Kept v.table (v.admitPost r).2.table := by
  unfold admitPost
  split
  · exact .refl v.table
  · split
    · exact .refl v.table
    · split
      · exact .refl v.table
      · split
        · exact .refl v.table
        · exact (onward_rejectBody v _ _ _).kept

theorem turnover_admitExchange (v : Server) (draw : Draw) (r : Http.Request) :
    Turnover v.table (some draw.clientId) (v.admitExchange draw r).2.table := by
  have hrefl : Turnover v.table (some draw.clientId) v.table := .keeps (.refl v.table)
  unfold admitExchange
  split
  · exact hrefl
  · split_ifs
    · exact hrefl
    · split
      · exact hrefl
      · split
        · exact hrefl
        · split
          · exact hrefl
          · exact hrefl
          · split
            · exact hrefl
            · rename_i hcreate
              exact .create hcreate

theorem turnover_handle (v : Server) (now : Nat) (draw : Draw) (r : Http.Request) :
    Turnover v.table (some draw.clientId) (v.handle now draw r).2.table := by
  have hrefl : Turnover v.table (some draw.clientId) v.table := .keeps (.refl v.table)
  have hopened := v.turnover_openStream now draw r.query
  unfold handle
  split
  · exact hrefl
  · exact hrefl
  · simp only
    split
    · exact turnover_dropBody hopened _
    · exact hopened
    · exact hopened
  · split_ifs
    · exact hrefl
    · exact hopened
  · exact .keeps (v.kept_admitPost r)
  · exact v.turnover_admitExchange draw r
  · exact hrefl

theorem turnover_receive (v : Server) (now : Nat) (draw : Draw) (r : Http.Request) :
    Turnover v.table (some draw.clientId) (v.receive now draw r).2.table := by
  unfold receive
  split_ifs
  · exact v.turnover_handle now draw r
  · exact .keeps (.refl v.table)

/-! ## Whatever happens -/

/-- The id that a session may be opened under. -/
def Happening.drawn? : Happening σ → Option String
  | .step (.receive _ draw _) | .create _ _ draw => some draw.clientId
  | _ => none

theorem turnover_step (service : Queue.Service σ) (v : Server) (st : Step σ) :
    Turnover v.table (Happening.step st).drawn? (v.step service st).table := by
  cases st with
  | receive now draw request => exact v.turnover_receive now draw request
  | exchange now number queues => exact .keeps (kept_stepExchange service v now number queues)
  | act signals now a =>
    refine .keeps ?_
    cases a with
    | pump place => exact .modify v.table place _
    | stopPump place => exact .modify v.table place _
    | watch place => exact .watch v.table place
    | work place ticket => exact .modify v.table place _
    | read number => exact v.kept_readBody now number
    | handOver => exact v.onward_handOver.kept
  | abort number => exact .keeps (v.kept_abort number)
  | dropBody number => exact .keeps (v.kept_dropBody number)
  | startReading number => exact .keeps (v.onward_startReading number).kept
  | collect number => exact .keeps (v.onward_collect number).kept
  | relay envelope => exact .keeps (.refl v.table)
  | close place => exact .keeps (.close v.table place)
  | closeAll => exact .keeps (.foldl_close _ v.table)

theorem turnover_happen (service : Queue.Service σ) (v : Server) (h : Happening σ) :
    Turnover v.table h.drawn? (v.happen service h).table := by
  cases h with
  | step st => exact turnover_step service v st
  | deliver client m queues => exact .keeps (onward_deliver service v client m queues).kept
  | settle slot =>
    simp only [happen]
    cases hsettle : v.settle? slot with
    | none => exact .keeps (.refl v.table)
    | some settled => exact .keeps (onward_settle? hsettle).kept
  | giveUp slot => exact .keeps (v.onward_abandonSlot slot).kept
  | create kind parent draw =>
    simp only [happen]
    split
    · rename_i hcreate
      exact .create hcreate
    · exact .keeps (.refl v.table)
  | stop place => exact .keeps (.modify v.table place _)
  | mark place => exact .keeps (.modify v.table place _)
  | dispose place => exact .keeps (.modify v.table place _)
  | remove place => exact .keeps (.remove v.table place)
  | endParent name => exact .keeps ⟨List.Sublist.refl _, List.length_map _⟩

theorem tidy_happen (service : Queue.Service σ) (h : Happening σ) (htidy : v.table.Tidy) :
    (v.happen service h).table.Tidy := by
  intro place s' hs'
  have hold : place < v.table.opened.length → s'.transport.inbound.Tidy := fun hlt => by
    have hs : v.table.session? place = some v.table.opened[place] := List.getElem?_eq_getElem hlt
    rw [session_happen service h hs] at hs'
    rw [← Option.some.inj hs']
    exact Session.tidy_foldl _ _ (htidy place _ hs)
  have hlt' := SessionTable.lt_of_session? hs'
  have hturnover := turnover_happen service v h
  generalize h.drawn? = drawn at hturnover
  cases hturnover with
  | keeps h => exact hold (h.opened ▸ hlt')
  | opens hlive hopened hline =>
    by_cases hlt : place < v.table.opened.length
    · exact hold hlt
    · obtain rfl : place = v.table.opened.length := by omega
      exact .of_empty (hline s' hs')

/-! ## Exchanges -/

/-- The exchange that goes on or is given up. -/
def Happening.turn? : Happening σ → Option Nat
  | .step st => st.turn?
  | _ => none

/-- Only steps do anything but to sessions and the table. -/
theorem happen_cases (service : Queue.Service σ) (v : Server) (h : Happening σ) :
    (∃ st, h = .step st) ∨ Framed v (v.happen service h) ∧ Alike v (v.happen service h) := by
  have hmodify : ∀ (place : Nat) (f : Session → Session),
      Framed v (v.modify place f) ∧ Alike v (v.modify place f) := fun place f =>
    ⟨⟨rfl, rfl, Nat.le_of_eq (List.length_modify ..).symm, rfl⟩, alike_of_same rfl rfl rfl rfl⟩
  cases h with
  | step st => exact .inl ⟨st, rfl⟩
  | deliver client m queues =>
    exact .inr ⟨(touched_deliver service v client 0 m queues).toFramed,
      alike_deliver service v client m queues⟩
  | settle slot =>
    right
    simp only [happen]
    cases hsettle : v.settle? slot with
    | none => exact ⟨.refl v, .refl v⟩
    | some settled => exact ⟨(touched_settle? hsettle 0).toFramed, alike_settle? hsettle⟩
  | giveUp slot => exact .inr (hmodify _ _)
  | create kind parent draw =>
    right
    simp only [happen]
    split
    · rename_i hcreate
      have halike := SessionTable.alike_create hcreate
      exact ⟨(touched_create hcreate 0).toFramed, alike_of_same rfl halike.codec halike.owner rfl⟩
    · exact ⟨.refl v, .refl v⟩
  | stop place => exact .inr (hmodify _ _)
  | mark place => exact .inr (hmodify _ _)
  | dispose place => exact .inr (hmodify _ _)
  | remove place =>
    have halike := v.table.alike_remove place
    exact .inr ⟨⟨rfl, rfl, Nat.le_of_eq (Kept.remove v.table place).opened.symm, rfl⟩,
      alike_of_same rfl halike.codec halike.owner rfl⟩
  | endParent name =>
    exact .inr ⟨⟨rfl, rfl, Nat.le_of_eq (List.length_map _).symm, rfl⟩,
      alike_of_same rfl rfl rfl rfl⟩

theorem instanceId_happen (service : Queue.Service σ) (v : Server) (h : Happening σ) :
    (v.happen service h).instanceId = v.instanceId := by
  rcases happen_cases service v h with ⟨st, rfl⟩ | ⟨-, halike⟩
  · exact (alike_step service v st).2.1.owner
  · exact halike.table.owner

theorem nextExchange_happen (service : Queue.Service σ) (v : Server) (h : Happening σ) :
    v.nextExchange ≤ (v.happen service h).nextExchange := by
  rcases happen_cases service v h with ⟨st, rfl⟩ | ⟨hframed, -⟩
  · exact (change_step service v st).frame.1
  · exact Nat.le_of_eq hframed.nextExchange.symm

theorem orderly_happen (service : Queue.Service σ) (h : Happening σ) (ho : v.Orderly) :
    (v.happen service h).Orderly := by
  rcases happen_cases service v h with ⟨st, rfl⟩ | ⟨hframed, -⟩
  · exact ho.change (change_step service v st)
  · exact ho.change (.same (k := none) hframed)

theorem seated_happen (service : Queue.Service σ) (h : Happening σ) (hseated : v.Seated) :
    (v.happen service h).Seated := by
  rcases happen_cases service v h with ⟨st, rfl⟩ | ⟨hframed, halike⟩
  · exact hseated.step service st
  · refine @Seated.of_held v _ hseated none (fun holder => .inl ?_) fun place s hs =>
      ⟨_, session_happen service h hs, Session.nextTicket_foldl v.router _ s⟩
    cases holder with
    | none => exact halike.relaySlot
    | some number => rw [held, exchange?_framed hframed, held]

/-- An exchange stays as it is, or stays away, while others have their turns. -/
theorem exchange?_happen (service : Queue.Service σ) {h : Happening σ} {number : Nat}
    (hturn : h.turn? ≠ some number) (hlt : number < v.nextExchange) :
    (v.happen service h).exchange? number = v.exchange? number := by
  rcases happen_cases service v h with ⟨st, rfl⟩ | ⟨hframed, -⟩
  · rcases exchange?_step service (v := v) hturn with hsame | ⟨-, hnew, -⟩
    · exact hsame
    · omega
  · exact exchange?_framed hframed number

/-! ## Instances as they come -/

/-- What holds of every instance that has begun without sessions. -/
structure Ordinary (v : Server) : Prop where
  orderly : v.Orderly
  seated : v.Seated
  keyed : v.table.Keyed
  tidy : v.table.Tidy

theorem Unused.ordinary (h : v.Unused) (hslot : v.relaySlot = none) : v.Ordinary where
  orderly := .of_idle h.exchanges
  seated := .of_idle h.exchanges hslot
  keyed := by
    constructor <;> rw [h.live]
    · exact List.nodup_nil
    · exact List.forall_mem_nil _
  tidy := fun place s hs => by
    rw [SessionTable.session?, h.opened] at hs
    cases hs

theorem Ordinary.happen (h : v.Ordinary) (service : Queue.Service σ) (what : Happening σ) :
    (v.happen service what).Ordinary where
  orderly := orderly_happen service what h.orderly
  seated := seated_happen service what h.seated
  keyed := (turnover_happen service v what).keyed h.keyed
  tidy := tidy_happen service what h.tidy

theorem Ordinary.foldl (service : Queue.Service σ) : ∀ (happenings : List (Happening σ))
    {v : Server}, v.Ordinary → (happenings.foldl (Server.happen service) v).Ordinary
  | [], _, h => h
  | what :: rest, _, h => Ordinary.foldl service rest (h.happen service what)

end Server

end SessionRelay
