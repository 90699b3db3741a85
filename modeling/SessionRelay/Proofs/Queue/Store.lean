import Mathlib.Data.List.Forall2
import Mathlib.Tactic.SplitIfs
import SessionRelay.Queue.Store

/-!
# What calls do to the entries of queues

An entry keeps its number, its text and its place for as long as it is on a queue, and every lease
has a receipt of its own. So a lease is the latest of at most one entry, and only that entry can be
deleted with it.
-/

namespace SessionRelay.Queue

/-- The number and the text of an entry, which no call changes. -/
def Entry.content (e : Entry) : Nat × String := (e.id, e.body)

def Lease.content (l : Lease) : Nat × String := (l.id, l.body)

/-- A lease is the latest one of an entry. -/
structure Lease.Holds (l : Lease) (e : Entry) : Prop where
  content : e.content = l.content
  receipt : e.receipt = some l.receipt

/-! ## Leasing -/

section

variable {now hiddenUntil : Nat}

theorem leaseFirst_hidden {max receipt : Nat} {e : Entry} {rest : List Entry}
    (h : now < e.visibleAt) : leaseFirst now hiddenUntil (max + 1) receipt (e :: rest) =
      ((leaseFirst now hiddenUntil (max + 1) receipt rest).1,
        e :: (leaseFirst now hiddenUntil (max + 1) receipt rest).2) := by
  rw [leaseFirst, if_pos h]

theorem leaseFirst_visible {max receipt : Nat} {e : Entry} {rest : List Entry}
    (h : e.visibleAt ≤ now) : leaseFirst now hiddenUntil (max + 1) receipt (e :: rest) =
      (⟨e.id, receipt, e.body, (e.leases + 1) % countLimit⟩ ::
          (leaseFirst now hiddenUntil max (receipt + 1) rest).1,
        e.lease hiddenUntil receipt ::
          (leaseFirst now hiddenUntil max (receipt + 1) rest).2) := by
  rw [leaseFirst, if_neg (Nat.not_lt.2 h)]
  rfl

section

variable (now hiddenUntil)

/-- Entries stay in place, each as it was or under a new lease. -/
theorem forall₂_leaseFirst : ∀ (max receipt : Nat) (entries : List Entry),
    List.Forall₂ (fun e e' => e'.content = e.content ∧
      (e' = e ∨ ∃ l ∈ (leaseFirst now hiddenUntil max receipt entries).1, l.Holds e'))
      entries (leaseFirst now hiddenUntil max receipt entries).2
  | _, _, [] => .nil
  | 0, _, e :: rest => List.forall₂_same.2 fun _ _ => ⟨rfl, .inl rfl⟩
  | max + 1, receipt, e :: rest => by
    by_cases h : now < e.visibleAt
    · rw [leaseFirst_hidden h]
      exact .cons ⟨rfl, .inl rfl⟩ (forall₂_leaseFirst (max + 1) receipt rest)
    · rw [leaseFirst_visible (Nat.not_lt.1 h)]
      refine .cons ⟨rfl, .inr ⟨_, List.mem_cons_self, rfl, rfl⟩⟩ ?_
      refine (forall₂_leaseFirst max (receipt + 1) rest).imp fun e e' he => ⟨he.1, ?_⟩
      exact he.2.imp_right fun ⟨l, hl, hholds⟩ => ⟨l, List.mem_cons_of_mem _ hl, hholds⟩

theorem contents_leaseFirst (max receipt : Nat) (entries : List Entry) :
    (leaseFirst now hiddenUntil max receipt entries).2.map Entry.content =
      entries.map Entry.content := by
  have hcontents := (forall₂_leaseFirst now hiddenUntil max receipt entries).imp
    fun _ _ h => h.1.symm
  rw [← List.forall₂_map_right_iff, ← List.forall₂_map_left_iff, List.forall₂_eq_eq_eq] at hcontents
  exact hcontents.symm

/-- What an entry is after leasing. -/
theorem exists_mem_leaseFirst (max receipt : Nat) {entries : List Entry} {e : Entry}
    (h : e ∈ entries) : ∃ e' ∈ (leaseFirst now hiddenUntil max receipt entries).2,
      e'.content = e.content ∧
        (e' = e ∨ ∃ l ∈ (leaseFirst now hiddenUntil max receipt entries).1, l.Holds e') := by
  have hall := forall₂_leaseFirst now hiddenUntil max receipt entries
  obtain ⟨i, hi, rfl⟩ := List.getElem_of_mem h
  exact ⟨_, List.getElem_mem (hall.length_eq ▸ hi), hall.get hi (hall.length_eq ▸ hi)⟩

end

/-- Where an entry comes from that is there after leasing. -/
theorem exists_of_mem_leaseFirst {max receipt : Nat} {entries : List Entry} {e : Entry}
    (h : e ∈ (leaseFirst now hiddenUntil max receipt entries).2) :
    ∃ e₀ ∈ entries, e.content = e₀.content ∧
      (e = e₀ ∨ ∃ l ∈ (leaseFirst now hiddenUntil max receipt entries).1, l.Holds e) := by
  have hall := forall₂_leaseFirst now hiddenUntil max receipt entries
  obtain ⟨i, hi, rfl⟩ := List.getElem_of_mem h
  exact ⟨_, List.getElem_mem (hall.length_eq ▸ hi), hall.get (hall.length_eq ▸ hi) hi⟩

theorem holds_of_mem_leases {l : Lease} : ∀ {max receipt : Nat} {entries : List Entry},
    l ∈ (leaseFirst now hiddenUntil max receipt entries).1 →
      ∃ e ∈ (leaseFirst now hiddenUntil max receipt entries).2, l.Holds e
  | _, _, [], h => by cases h
  | 0, _, e :: rest, h => by cases h
  | max + 1, receipt, e :: rest, h => by
    by_cases hhidden : now < e.visibleAt
    · rw [leaseFirst_hidden hhidden] at h ⊢
      obtain ⟨e', he', hholds⟩ := holds_of_mem_leases h
      exact ⟨e', List.mem_cons_of_mem _ he', hholds⟩
    · rw [leaseFirst_visible (Nat.not_lt.1 hhidden)] at h ⊢
      rcases List.mem_cons.1 h with rfl | h
      · exact ⟨_, List.mem_cons_self, rfl, rfl⟩
      · obtain ⟨e', he', hholds⟩ := holds_of_mem_leases h
        exact ⟨e', List.mem_cons_of_mem _ he', hholds⟩

theorem receipts_leases : ∀ (max receipt : Nat) (entries : List Entry),
    (leaseFirst now hiddenUntil max receipt entries).1.map Lease.receipt =
      List.range' receipt (leaseFirst now hiddenUntil max receipt entries).1.length
  | _, _, [] => rfl
  | 0, _, _ :: _ => rfl
  | max + 1, receipt, e :: rest => by
    by_cases h : now < e.visibleAt
    · rw [leaseFirst_hidden h]
      exact receipts_leases (max + 1) receipt rest
    · rw [leaseFirst_visible (Nat.not_lt.1 h), List.map_cons, List.length_cons, List.range'_succ,
        receipts_leases max (receipt + 1) rest]

theorem bounds_of_mem_leases {max receipt : Nat} {entries : List Entry} {l : Lease}
    (h : l ∈ (leaseFirst now hiddenUntil max receipt entries).1) : receipt ≤ l.receipt ∧
      l.receipt < receipt + (leaseFirst now hiddenUntil max receipt entries).1.length := by
  have hreceipt := List.mem_map_of_mem (f := Lease.receipt) h
  rw [receipts_leases, List.mem_range'_1] at hreceipt
  exact hreceipt

theorem contents_leases_sublist : ∀ (max receipt : Nat) (entries : List Entry),
    ((leaseFirst now hiddenUntil max receipt entries).1.map Lease.content).Sublist
      (entries.map Entry.content)
  | _, _, [] => .slnil
  | 0, _, _ :: _ => List.nil_sublist _
  | max + 1, receipt, e :: rest => by
    by_cases h : now < e.visibleAt
    · rw [leaseFirst_hidden h]
      exact (contents_leases_sublist (max + 1) receipt rest).cons _
    · rw [leaseFirst_visible (Nat.not_lt.1 h)]
      exact (contents_leases_sublist max (receipt + 1) rest).cons_cons _

/-- Where nothing is hidden, the first entries are leased, and those after them stay as they are. -/
theorem leaseFirst_of_visible : ∀ (max receipt : Nat) {entries : List Entry},
    (∀ e ∈ entries, e.visibleAt ≤ now) →
      (leaseFirst now hiddenUntil max receipt entries).1.map Lease.content =
          (entries.take max).map Entry.content ∧
        (leaseFirst now hiddenUntil max receipt entries).2.drop max = entries.drop max
  | _, _, [], _ => by simp [leaseFirst]
  | 0, _, _ :: _, _ => ⟨rfl, rfl⟩
  | max + 1, receipt, e :: rest, h => by
    obtain ⟨hleases, hafter⟩ := leaseFirst_of_visible max (receipt + 1)
      fun e he => h e (List.mem_cons_of_mem _ he)
    rw [leaseFirst_visible (h e List.mem_cons_self)]
    exact ⟨congrArg (e.content :: ·) hleases, hafter⟩

end

/-! ## Calls -/

namespace Store

variable {s : Store} {queue name body : String}

theorem entries?_setEntries (s : Store) (queue name : String) (entries : List Entry) :
    (s.setEntries queue entries).entries? name =
      if name = queue then (s.entries? name).map fun _ => entries else s.entries? name := by
  unfold entries? setEntries
  induction s.queues with
  | nil => simp
  | cons q qs ih =>
    obtain ⟨other, old⟩ := q
    by_cases hother : other = queue
    · by_cases hname : name = queue
      · simp [hother, hname]
      · have hne : ¬ queue = name := fun h => hname h.symm
        simp only [List.map_cons, hother, if_true, List.find?_cons, hne, decide_false] at ih ⊢
        exact ih
    · by_cases hname : other = name
      · subst hname
        simp [hother]
      · simp only [List.map_cons, hother, if_false, List.find?_cons, hname, decide_false] at ih ⊢
        exact ih

theorem entries?_create (s : Store) (queue name : String) :
    (s.create queue).entries? name =
      if name = queue then some ((s.entries? queue).getD []) else s.entries? name := by
  unfold create
  cases h : s.entries? queue with
  | some entries =>
    split_ifs with hname
    · rw [hname, h, Option.getD_some]
    · rfl
  | none =>
    simp only [entries?, Option.map_eq_none_iff, List.find?_append] at h ⊢
    split_ifs with hname
    · simp [hname, h]
    · have hne : ¬ queue = name := fun h => hname h.symm
      simp [hne]

theorem entries?_drop (s : Store) (queue name : String) :
    (s.drop queue).entries? name = if name = queue then none else s.entries? name := by
  unfold entries? drop
  split_ifs with hname
  · simp [hname]
  · rw [List.find?_filter]
    congr 2
    funext q
    by_cases hq : q.1 = name <;> simp [hq, hname]

/-- The entry that a text becomes. -/
def newEntry (s : Store) (body : String) : Entry :=
  { id := s.nextEntry, body, visibleAt := s.now, receipt := none, leases := 0 }

theorem send_of_none (h : s.entries? queue = none) (body : String) :
    s.send queue body = (.error (.noQueue queue), s) := by
  rw [send, h]

theorem send_of_some {entries : List Entry} (h : s.entries? queue = some entries) (body : String) :
    s.send queue body = (.ok (),
      { s.setEntries queue (entries ++ [s.newEntry body]) with nextEntry := s.nextEntry + 1 }) := by
  rw [send, h]
  rfl

theorem entries?_send {entries : List Entry} (h : s.entries? queue = some entries)
    (body name : String) : (s.send queue body).2.entries? name =
      if name = queue then some (entries ++ [s.newEntry body]) else s.entries? name := by
  have hset := entries?_setEntries s queue name (entries ++ [s.newEntry body])
  rw [send_of_some h]
  refine Eq.trans hset ?_
  split_ifs with hname
  · rw [hname, h, Option.map_some]
  · rfl

/-- The leases that a receiver gets of some entries, and the entries after it. -/
def leased (s : Store) (max timeout : Nat) (entries : List Entry) : List Lease × List Entry :=
  leaseFirst s.now (s.now + timeout) max s.nextReceipt entries

theorem leased_of_visible {entries : List Entry} (h : ∀ e ∈ entries, e.visibleAt ≤ s.now)
    (max timeout : Nat) :
    (s.leased max timeout entries).1.map Lease.content = (entries.take max).map Entry.content ∧
      (s.leased max timeout entries).2.drop max = entries.drop max :=
  leaseFirst_of_visible max s.nextReceipt h

theorem receive_of_none (h : s.entries? queue = none) (max timeout : Nat) :
    s.receive queue max timeout = (.error (.noQueue queue), s) := by
  rw [receive, h]

theorem receive_of_some {entries : List Entry} (h : s.entries? queue = some entries)
    (max timeout : Nat) : s.receive queue max timeout = (.ok (s.leased max timeout entries).1,
      { s.setEntries queue (s.leased max timeout entries).2 with
        nextReceipt := s.nextReceipt + (s.leased max timeout entries).1.length }) := by
  rw [receive, h]
  rfl

theorem due_of_some {entries : List Entry} (h : s.entries? queue = some entries) (max : Nat) :
    s.due queue max = (entries.filter fun e => e.visibleAt ≤ s.now).take max := by
  rw [due, h]

theorem receive?_of_none (h : s.entries? queue = none) (max timeout : Nat) :
    s.receive? queue max timeout = some (.error (.noQueue queue), s) := by
  have hdue : s.due queue max = [] := by rw [due, h]
  rw [receive?, hdue, receive_of_none h]
  rfl

theorem receive?_eq_none_iff {max timeout : Nat} :
    s.receive? queue max timeout = none ↔
      s.due queue max ≠ [] ∧ clockLimit ≤ s.now + timeout := by
  unfold receive?
  split_ifs with h
  · rw [iff_false_left nofun]
    simpa [outlasts, or_iff_not_imp_left] using h
  · simpa [outlasts] using h

theorem receive?_eq_some {max timeout : Nat} {outcome : Outcome (List Lease)}
    (h : s.receive? queue max timeout = some outcome) : outcome = s.receive queue max timeout := by
  unfold receive? at h
  split_ifs at h
  exact (Option.some.inj h).symm

theorem entries?_receive {entries : List Entry} (h : s.entries? queue = some entries)
    (max timeout : Nat) (name : String) : (s.receive queue max timeout).2.entries? name =
      if name = queue then some (s.leased max timeout entries).2 else s.entries? name := by
  have hset := entries?_setEntries s queue name (s.leased max timeout entries).2
  rw [receive_of_some h]
  refine Eq.trans hset ?_
  split_ifs with hname
  · rw [hname, h, Option.map_some]
  · rfl

/-- Whether an entry is the one that a deletion is for. -/
def isFor (id receipt : Nat) (e : Entry) : Bool := e.id == id && e.receipt == some receipt

theorem isFor_iff {id receipt : Nat} {e : Entry} :
    isFor id receipt e = true ↔ e.id = id ∧ e.receipt = some receipt := by
  simp [isFor]

theorem delete_of_none (h : s.entries? queue = none) (id receipt : Nat) :
    s.delete queue id receipt = (.error (.noQueue queue), s) := by
  rw [delete, h]

theorem delete_of_some {entries : List Entry} (h : s.entries? queue = some entries)
    (id receipt : Nat) : s.delete queue id receipt =
      if entries.any (isFor id receipt) then
        (.ok (), s.setEntries queue (entries.eraseP (isFor id receipt)))
      else (.error (.notLeased id), s) := by
  rw [delete, h]
  rfl

theorem entries?_delete {entries : List Entry} (h : s.entries? queue = some entries)
    (id receipt : Nat) (name : String) : (s.delete queue id receipt).2.entries? name =
      if name = queue then some (entries.eraseP (isFor id receipt)) else s.entries? name := by
  rw [delete_of_some h]
  by_cases hany : entries.any (isFor id receipt)
  · rw [if_pos hany, entries?_setEntries]
    split_ifs with hname
    · rw [hname, h, Option.map_some]
    · rfl
  · rw [if_neg hany]
    split_ifs with hname
    · have hnone : ∀ e ∈ entries, ¬ isFor id receipt e = true := by simpa using hany
      rw [hname, h, List.eraseP_of_forall_not hnone]
    · rfl

/-! ## Numbers and time -/

/-- The clock and the numbers for entries and leases only go up. -/
structure Precedes (s s' : Store) : Prop where
  now : s.now ≤ s'.now
  nextEntry : s.nextEntry ≤ s'.nextEntry
  nextReceipt : s.nextReceipt ≤ s'.nextReceipt

theorem Precedes.refl (s : Store) : s.Precedes s := ⟨Nat.le_refl _, Nat.le_refl _, Nat.le_refl _⟩

theorem precedes_advance (s : Store) (ms : Nat) : s.Precedes (s.advance ms) :=
  ⟨Nat.le_add_right _ _, Nat.le_refl _, Nat.le_refl _⟩

theorem precedes_create (s : Store) (queue : String) : s.Precedes (s.create queue) := by
  unfold create
  split <;> exact ⟨Nat.le_refl _, Nat.le_refl _, Nat.le_refl _⟩

theorem precedes_drop (s : Store) (queue : String) : s.Precedes (s.drop queue) :=
  ⟨Nat.le_refl _, Nat.le_refl _, Nat.le_refl _⟩

theorem precedes_send (s : Store) (queue body : String) : s.Precedes (s.send queue body).2 := by
  cases h : s.entries? queue with
  | none =>
    rw [send_of_none h]
    exact .refl s
  | some entries =>
    rw [send_of_some h]
    exact ⟨Nat.le_refl _, Nat.le_succ _, Nat.le_refl _⟩

theorem precedes_receive (s : Store) (queue : String) (max timeout : Nat) :
    s.Precedes (s.receive queue max timeout).2 := by
  cases h : s.entries? queue with
  | none =>
    rw [receive_of_none h]
    exact .refl s
  | some entries =>
    rw [receive_of_some h]
    exact ⟨Nat.le_refl _, Nat.le_refl _, Nat.le_add_right _ _⟩

theorem precedes_delete (s : Store) (queue : String) (id receipt : Nat) :
    s.Precedes (s.delete queue id receipt).2 := by
  cases h : s.entries? queue with
  | none =>
    rw [delete_of_none h]
    exact .refl s
  | some entries =>
    rw [delete_of_some h]
    split <;> exact ⟨Nat.le_refl _, Nat.le_refl _, Nat.le_refl _⟩

/-! ## Stored entries -/

/-- An entry lies on a queue, hidden or not. -/
def Stores (s : Store) (queue : String) (e : Entry) : Prop :=
  ∃ entries, s.entries? queue = some entries ∧ e ∈ entries

variable {e : Entry}

theorem stores_create_iff : (s.create queue).Stores name e ↔ s.Stores name e := by
  simp only [Stores, entries?_create]
  split_ifs with hname
  · subst hname
    cases s.entries? name <;> simp
  · rfl

theorem Stores.of_drop (h : (s.drop queue).Stores name e) : s.Stores name e := by
  obtain ⟨entries, hentries, he⟩ := h
  rw [entries?_drop] at hentries
  split_ifs at hentries
  exact ⟨entries, hentries, he⟩

theorem stores_send_iff {entries : List Entry} (h : s.entries? queue = some entries) :
    (s.send queue body).2.Stores name e ↔
      s.Stores name e ∨ name = queue ∧ e = s.newEntry body := by
  simp only [Stores, entries?_send h]
  split_ifs with hname
  · simp [hname, h]
  · simp [hname]

theorem Stores.of_receive {max timeout : Nat} (h : (s.receive queue max timeout).2.Stores name e) :
    ∃ e₀, s.Stores name e₀ ∧ e.content = e₀.content := by
  cases hqueue : s.entries? queue with
  | none =>
    rw [receive_of_none hqueue] at h
    exact ⟨e, h, rfl⟩
  | some entries =>
    obtain ⟨after, hafter, he⟩ := h
    rw [entries?_receive hqueue] at hafter
    split_ifs at hafter with hname
    · cases hafter
      obtain ⟨e₀, he₀, hcontent, -⟩ := exists_of_mem_leaseFirst he
      exact ⟨e₀, ⟨entries, hname ▸ hqueue, he₀⟩, hcontent⟩
    · exact ⟨e, ⟨after, hafter, he⟩, rfl⟩

/-- An entry stays on its queue when a receiver comes, as it was or under a new lease. -/
theorem Stores.receive (h : s.Stores name e) (queue : String) (max timeout : Nat) :
    ∃ e', (s.receive queue max timeout).2.Stores name e' ∧ e'.content = e.content ∧
      (e' = e ∨ ∃ r, e'.receipt = some r ∧ s.nextReceipt ≤ r) := by
  cases hqueue : s.entries? queue with
  | none =>
    rw [receive_of_none hqueue]
    exact ⟨e, h, rfl, .inl rfl⟩
  | some entries =>
    obtain ⟨before, hbefore, he⟩ := h
    by_cases hname : name = queue
    · subst hname
      rw [hqueue, Option.some.injEq] at hbefore
      subst hbefore
      obtain ⟨e', he', hcontent, hlease⟩ :=
        exists_mem_leaseFirst s.now (s.now + timeout) max s.nextReceipt he
      have hafter := entries?_receive hqueue max timeout name
      rw [if_pos rfl] at hafter
      refine ⟨e', ⟨_, hafter, he'⟩, hcontent, ?_⟩
      refine hlease.imp_right fun ⟨l, hl, hholds⟩ => ⟨l.receipt, hholds.receipt, ?_⟩
      exact (bounds_of_mem_leases hl).1
    · exact ⟨e, ⟨before, by rw [entries?_receive hqueue, if_neg hname, hbefore], he⟩, rfl, .inl rfl⟩

/-- A lease is the latest of an entry on the queue it comes from, and its receipt is new. -/
theorem holds_of_receive {max timeout : Nat} {leases : List Lease} {l : Lease}
    (h : (s.receive queue max timeout).1 = .ok leases) (hl : l ∈ leases) :
    (∃ e, (s.receive queue max timeout).2.Stores queue e ∧ l.Holds e) ∧
      s.nextReceipt ≤ l.receipt ∧ l.receipt < (s.receive queue max timeout).2.nextReceipt := by
  cases hqueue : s.entries? queue with
  | none =>
    rw [receive_of_none hqueue] at h
    cases h
  | some entries =>
    have hafter := entries?_receive hqueue max timeout queue
    rw [if_pos rfl] at hafter
    rw [receive_of_some hqueue] at h hafter ⊢
    cases h
    obtain ⟨e, he, hholds⟩ := holds_of_mem_leases hl
    exact ⟨⟨e, ⟨_, hafter, he⟩, hholds⟩, bounds_of_mem_leases hl⟩

theorem Stores.of_delete {id receipt : Nat} (h : (s.delete queue id receipt).2.Stores name e) :
    s.Stores name e := by
  cases hqueue : s.entries? queue with
  | none =>
    rw [delete_of_none hqueue] at h
    exact h
  | some entries =>
    obtain ⟨after, hafter, he⟩ := h
    rw [entries?_delete hqueue] at hafter
    split_ifs at hafter with hname
    · cases hafter
      exact ⟨entries, hname ▸ hqueue, List.mem_of_mem_eraseP he⟩
    · exact ⟨after, hafter, he⟩

/-- Only the entry that a deletion is for leaves the queue. -/
theorem Stores.delete {id receipt : Nat} (h : s.Stores name e)
    (hother : name = queue → ¬ (e.id = id ∧ e.receipt = some receipt)) :
    (s.delete queue id receipt).2.Stores name e := by
  obtain ⟨before, hbefore, he⟩ := h
  cases hqueue : s.entries? queue with
  | none =>
    rw [delete_of_none hqueue]
    exact ⟨before, hbefore, he⟩
  | some entries =>
    by_cases hname : name = queue
    · subst hname
      rw [hqueue, Option.some.injEq] at hbefore
      subst hbefore
      refine ⟨_, by rw [entries?_delete hqueue, if_pos rfl], ?_⟩
      exact (List.mem_eraseP_of_neg fun h => hother rfl (isFor_iff.1 h)).2 he
    · exact ⟨before, by rw [entries?_delete hqueue, if_neg hname, hbefore], he⟩

end Store

end SessionRelay.Queue
