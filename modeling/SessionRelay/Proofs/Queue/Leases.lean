import Mathlib.Data.List.Nodup
import SessionRelay.Proofs.Queue.Store

/-!
# What a store is by its history

A log of what was sent, leased and deleted tells all that a store holds: an entry lies on the queue
it was sent to until it is deleted, with the receipt of its last lease, the count of leases that it
was given, and hidden until the last of them has run out. Leases of one entry follow one another
without overlap. So every call does what the log says, whatever calls came before
(`leases_keep_the_law`). The count is that of all leases only as far as 32 bits go
(`count_starts_over`).
-/

namespace SessionRelay.Queue

/-- A call to a store, or time that goes by. -/
inductive Call
  | create (queue : String)
  | send (queue body : String)
  | receive (queue : String) (max timeout : Nat)
  | delete (queue : String) (id receipt : Nat)
  | elapse (ms : Nat)

/-- The queue that a call is for. -/
def Call.queue? : Call → Option String
  | .create queue | .send queue _ | .receive queue _ _ | .delete queue _ _ => some queue
  | .elapse _ => none

/-- A time for which an entry is leased. -/
structure Term where
  receipt : Nat
  start : Nat
  timeout : Nat
  deriving DecidableEq

/-- When a lease has run out. -/
def Term.over (t : Term) : Nat := t.start + t.timeout

/-- What came of a call that succeeded. -/
inductive Record
  | created (queue : String)
  | sent (queue : String) (id : Nat) (body : String)
  | leased (queue : String) (id : Nat) (term : Term)
  | deleted (queue : String) (id : Nat)
  deriving DecidableEq

namespace Record

def queue : Record → String
  | created queue | sent queue _ _ | leased queue _ _ | deleted queue _ => queue

/-- The entry that was sent to a queue, if one was. -/
def sentTo? (queue : String) : Record → Option (Nat × String)
  | .sent name id body => if name = queue then some (id, body) else none
  | _ => none

/-- The lease of an entry that was given, if one was. -/
def termOf? (queue : String) (id : Nat) : Record → Option Term
  | .leased name other term => if name = queue ∧ other = id then some term else none
  | _ => none

end Record

section

variable (log : List Record) (queue : String)

/-- All entries sent to a queue, in order. -/
def sentTo : List (Nat × String) := log.filterMap (Record.sentTo? queue)

/-- The entries sent to a queue and not deleted, in order. -/
def remaining : List (Nat × String) :=
  (sentTo log queue).filter fun entry => Record.deleted queue entry.1 ∉ log

/-- All leases of an entry, in order. -/
def terms (id : Nat) : List Term := log.filterMap (Record.termOf? queue id)

/-- The receipt of the last lease of an entry. -/
def latest? (id : Nat) : Option Nat := (terms log queue id).getLast?.map Term.receipt

/-- Whether every lease of an entry has run out. -/
def eligible (now id : Nat) : Bool := (terms log queue id).all fun term => term.over ≤ now

end

/-- A store and what has been done to it. -/
structure Chronicle where
  log : List Record := []
  store : Store

namespace Chronicle

def next (c : Chronicle) : Call → Chronicle
  | .create queue => ⟨c.log ++ [.created queue], c.store.create queue⟩
  | .send queue body =>
    match c.store.send queue body with
    | (.ok (), store) => ⟨c.log ++ [.sent queue c.store.nextEntry body], store⟩
    | (.error _, store) => ⟨c.log, store⟩
  | .receive queue max timeout =>
    match c.store.receive? queue max timeout with
    | some (.ok leases, store) =>
      ⟨c.log ++ leases.map fun l => .leased queue l.id ⟨l.receipt, c.store.now, timeout⟩, store⟩
    | some (.error _, store) => ⟨c.log, store⟩
    | none => c
  | .delete queue id receipt =>
    match c.store.delete queue id receipt with
    | (.ok (), store) => ⟨c.log ++ [.deleted queue id], store⟩
    | (.error _, store) => ⟨c.log, store⟩
  | .elapse ms => ⟨c.log, c.store.advance ms⟩

/-- What calls do to a store that has no queues yet. A call that panics does nothing. -/
def after (now : Nat) (calls : List Call) : Chronicle :=
  calls.foldl next { store := { now } }

end Chronicle

/-! ## Reading a longer log -/

section

variable {log more : List Record} {queue : String} {id now : Nat}

theorem sentTo_append : sentTo (log ++ more) queue = sentTo log queue ++ sentTo more queue :=
  List.filterMap_append

theorem terms_append : terms (log ++ more) queue id = terms log queue id ++ terms more queue id :=
  List.filterMap_append

theorem sentTo_of_others (h : ∀ r ∈ more, r.queue ≠ queue) : sentTo more queue = [] := by
  refine List.filterMap_eq_nil_iff.2 fun r hr => ?_
  have hne := h r hr
  cases r <;> simp_all [Record.sentTo?, Record.queue]

theorem terms_of_others (h : ∀ r ∈ more, r.queue ≠ queue) : terms more queue id = [] := by
  refine List.filterMap_eq_nil_iff.2 fun r hr => ?_
  have hne := h r hr
  cases r <;> simp_all [Record.termOf?, Record.queue]

theorem terms_leased (leases : List Lease) (start timeout : Nat) :
    terms (leases.map fun l => .leased queue l.id ⟨l.receipt, start, timeout⟩) queue id =
      (leases.filter fun l => l.id = id).map fun l => ⟨l.receipt, start, timeout⟩ := by
  induction leases with
  | nil => rfl
  | cons l rest ih =>
    simp only [terms, List.map_cons] at ih ⊢
    by_cases h : l.id = id <;> simp [Record.termOf?, h, ih]

/-- Records that delete nothing and send nothing leave the entries of a queue as they are. -/
theorem remaining_append_of_quiet (hsent : sentTo more queue = [])
    (hdeleted : ∀ id, Record.deleted queue id ∉ more) :
    remaining (log ++ more) queue = remaining log queue := by
  simp [remaining, sentTo_append, hsent, hdeleted]

end

/-! ## Leasing -/

section

variable {now hiddenUntil : Nat}

theorem map_leases : ∀ (max receipt : Nat) (entries : List Entry),
    (leaseFirst now hiddenUntil max receipt entries).1.map (fun l => (l.content, l.count)) =
      ((entries.filter fun e => e.visibleAt ≤ now).take max).map fun e =>
        (e.content, (e.leases + 1) % countLimit)
  | _, _, [] => by simp [leaseFirst]
  | 0, _, _ :: _ => by simp [leaseFirst]
  | max + 1, receipt, e :: rest => by
    by_cases h : now < e.visibleAt
    · rw [leaseFirst_hidden h, map_leases, List.filter_cons_of_neg (by simpa using h)]
    · have hvisible : e.visibleAt ≤ now := Nat.not_lt.1 h
      rw [leaseFirst_visible hvisible, List.map_cons, map_leases,
        List.filter_cons_of_pos (by simpa using hvisible)]
      rfl

theorem map_leased (s : Store) (max timeout : Nat) (entries : List Entry) :
    (s.leased max timeout entries).1.map (fun l => (l.content, l.count)) =
      ((entries.filter fun e => e.visibleAt ≤ s.now).take max).map fun e =>
        (e.content, (e.leases + 1) % countLimit) :=
  map_leases max s.nextReceipt entries

theorem ids_leases_sublist (max receipt : Nat) (entries : List Entry) :
    ((leaseFirst now hiddenUntil max receipt entries).1.map Lease.id).Sublist
      (entries.map Entry.id) := by
  have h : ((leaseFirst now hiddenUntil max receipt entries).1.map Lease.content).Sublist _ :=
    contents_leases_sublist max receipt entries
  have hids := h.map Prod.fst
  rwa [List.map_map, List.map_map] at hids

/-- An entry is as it was, and nobody got it, or somebody got it under its new lease. -/
theorem lease_of_mem {e' : Entry} : ∀ {max receipt : Nat} {entries : List Entry},
    (entries.map Entry.id).Nodup → e' ∈ (leaseFirst now hiddenUntil max receipt entries).2 →
      ∃ e ∈ entries,
        (leaseFirst now hiddenUntil max receipt entries).1.filter (·.id = e.id) = [] ∧ e' = e ∨
        e.visibleAt ≤ now ∧ ∃ l,
          (leaseFirst now hiddenUntil max receipt entries).1.filter (·.id = e.id) = [l] ∧
            e' = e.lease hiddenUntil l.receipt
  | _, _, [], _, h => by simp [leaseFirst] at h
  | 0, _, e :: rest, _, h => ⟨e', h, .inl ⟨rfl, rfl⟩⟩
  | max + 1, receipt, e :: rest, hids, h => by
    rw [List.map_cons, List.nodup_cons] at hids
    obtain ⟨hnot, hids⟩ := hids
    have hother : ∀ {max receipt : Nat},
        (leaseFirst now hiddenUntil max receipt rest).1.filter (·.id = e.id) = [] := by
      intro max receipt
      rw [List.filter_eq_nil_iff]
      intro l hl heq
      refine hnot ?_
      rw [← of_decide_eq_true heq]
      exact (ids_leases_sublist max receipt rest).subset (List.mem_map_of_mem hl)
    by_cases hhidden : now < e.visibleAt
    · rw [leaseFirst_hidden hhidden] at h ⊢
      rcases List.mem_cons.1 h with rfl | h
      · exact ⟨e', List.mem_cons_self, .inl ⟨hother, rfl⟩⟩
      · obtain ⟨e₀, he₀, hcase⟩ := lease_of_mem hids h
        exact ⟨e₀, List.mem_cons_of_mem _ he₀, hcase⟩
    · have hvisible : e.visibleAt ≤ now := Nat.not_lt.1 hhidden
      rw [leaseFirst_visible hvisible] at h ⊢
      rcases List.mem_cons.1 h with rfl | h
      · refine ⟨e, List.mem_cons_self,
          .inr ⟨hvisible, ⟨e.id, receipt, e.body, (e.leases + 1) % countLimit⟩, ?_, rfl⟩⟩
        rw [List.filter_cons_of_pos (by simp), hother]
      · obtain ⟨e₀, he₀, hcase⟩ := lease_of_mem hids h
        have hne : ¬ e.id = e₀.id := fun heq => hnot (heq ▸ List.mem_map_of_mem he₀)
        refine ⟨e₀, List.mem_cons_of_mem _ he₀, ?_⟩
        rwa [List.filter_cons_of_neg (by simpa using hne)]

end

theorem eraseP_eq_filter {id receipt : Nat} : ∀ {entries : List Entry},
    (entries.map Entry.id).Nodup → entries.any (Store.isFor id receipt) = true →
      entries.eraseP (Store.isFor id receipt) = entries.filter (·.id ≠ id)
  | e :: rest, hids, h => by
    rw [List.map_cons, List.nodup_cons] at hids
    obtain ⟨hnot, hids⟩ := hids
    by_cases he : Store.isFor id receipt e = true
    · have hid : e.id = id := (Store.isFor_iff.1 he).1
      have hrest : rest.filter (·.id ≠ id) = rest := by
        refine List.filter_eq_self.2 fun e' he' => ?_
        rw [decide_eq_true_eq]
        exact fun heq => hnot (hid.trans heq.symm ▸ List.mem_map_of_mem he')
      rw [List.eraseP_cons_of_pos he, List.filter_cons_of_neg (by simpa using hid), hrest]
    · have hany : rest.any (Store.isFor id receipt) = true := by simpa [he] using h
      obtain ⟨e', he', hfor⟩ := List.any_eq_true.1 hany
      have hne : e.id ≠ id := fun heq => by
        refine hnot ?_
        rw [heq, ← (Store.isFor_iff.1 hfor).1]
        exact List.mem_map_of_mem he'
      rw [List.eraseP_cons_of_neg he, List.filter_cons_of_pos (by simpa using hne),
        eraseP_eq_filter hids hany]

/-! ## A store and its log -/

section

variable {log more : List Record} {queue name : String} {s s' : Store} {entries : List Entry}
  {e : Entry} {id : Nat}

/-- An entry is as its leases left it. -/
structure Told (log : List Record) (queue : String) (now : Nat) (e : Entry) : Prop where
  receipt : e.receipt = latest? log queue e.id
  leases : e.leases = (terms log queue e.id).length % countLimit
  unleased : terms log queue e.id = [] → e.visibleAt ≤ now
  last : ∀ before t, terms log queue e.id = before ++ [t] → e.visibleAt = t.over

theorem Told.of_terms {log' : List Record} {now now' : Nat} (h : Told log queue now e)
    (hterms : terms log' queue e.id = terms log queue e.id) (hnow : now ≤ now') :
    Told log' queue now' e where
  receipt := by rw [h.receipt, latest?, latest?, hterms]
  leases := by rw [h.leases, hterms]
  unleased := fun hnil => Nat.le_trans (h.unleased (hterms ▸ hnil)) hnow
  last := fun before t hsplit => h.last before t (hterms ▸ hsplit)

/-- The entries of one queue are as the log tells. -/
structure Kept (log : List Record) (queue : String) (s : Store) (entries : List Entry) : Prop where
  stored : entries.map Entry.content = remaining log queue
  told : ∀ e ∈ entries, Told log queue s.now e
  ids : ((sentTo log queue).map Prod.fst).Nodup
  sent_lt : ∀ c ∈ sentTo log queue, c.1 < s.nextEntry
  deleted_lt : ∀ id, Record.deleted queue id ∈ log → id < s.nextEntry
  term_lt : ∀ id, ∀ t ∈ terms log queue id, id < s.nextEntry ∧ t.start ≤ s.now
  apart : ∀ id, (terms log queue id).Pairwise fun t t' => t.over ≤ t'.start

/-- The leases of an entry end one after another, so all have run out if the last one has. -/
theorem Told.eligible_iff (h : Told log queue s.now e)
    (hapart : (terms log queue e.id).Pairwise fun t t' => t.over ≤ t'.start) :
    eligible log queue s.now e.id = decide (e.visibleAt ≤ s.now) := by
  rw [eligible]
  rcases List.eq_nil_or_concat' (terms log queue e.id) with hnil | ⟨before, t, hterms⟩
  · simp [hnil, h.unleased hnil]
  · rw [hterms, List.pairwise_append] at hapart
    rw [hterms, h.last before t hterms, List.all_append, Bool.eq_iff_iff]
    simp only [Bool.and_eq_true, List.all_eq_true, decide_eq_true_eq, List.mem_singleton, forall_eq]
    refine ⟨And.right, fun hover => ⟨fun t' ht' => ?_, hover⟩⟩
    have hbefore := hapart.2.2 t' ht' t (List.mem_singleton_self t)
    exact Nat.le_trans (Nat.le_trans hbefore (Nat.le_add_right _ _)) hover

namespace Kept

/-- What neither sends to a queue nor leases or deletes its entries leaves them as they are told. -/
theorem quiet (h : Kept log queue s entries) (hsent : sentTo more queue = [])
    (hleased : ∀ id, terms more queue id = []) (hdeleted : ∀ id, Record.deleted queue id ∉ more)
    (hprecedes : s.Precedes s') : Kept (log ++ more) queue s' entries := by
  have hsentTo : sentTo (log ++ more) queue = sentTo log queue := by
    rw [sentTo_append, hsent, List.append_nil]
  have hterms : ∀ id, terms (log ++ more) queue id = terms log queue id := fun id => by
    rw [terms_append, hleased, List.append_nil]
  refine ⟨?_, fun e he => ?_, hsentTo ▸ h.ids, fun c hc => ?_, fun id hid => ?_, fun id t ht => ?_,
    fun id => ?_⟩
  · rw [h.stored, remaining_append_of_quiet hsent hdeleted]
  · exact (h.told e he).of_terms (hterms e.id) hprecedes.now
  · exact Nat.lt_of_lt_of_le (h.sent_lt c (hsentTo ▸ hc)) hprecedes.nextEntry
  · have hold : Record.deleted queue id ∈ log := by simpa [hdeleted] using hid
    exact Nat.lt_of_lt_of_le (h.deleted_lt id hold) hprecedes.nextEntry
  · obtain ⟨hlt, hle⟩ := h.term_lt id t (hterms id ▸ ht)
    exact ⟨Nat.lt_of_lt_of_le hlt hprecedes.nextEntry, Nat.le_trans hle hprecedes.now⟩
  · rw [hterms]
    exact h.apart id

theorem elsewhere (h : Kept log queue s entries) (hothers : ∀ r ∈ more, r.queue ≠ queue)
    (hprecedes : s.Precedes s') : Kept (log ++ more) queue s' entries :=
  h.quiet (sentTo_of_others hothers) (fun _ => terms_of_others hothers)
    (fun _ hr => hothers _ hr rfl) hprecedes

theorem mem_sentTo (h : Kept log queue s entries) (he : e ∈ entries) :
    e.content ∈ sentTo log queue := by
  have hmem := List.mem_map_of_mem (f := Entry.content) he
  rw [h.stored] at hmem
  exact List.mem_of_mem_filter hmem

theorem ids_entries (h : Kept log queue s entries) : (entries.map Entry.id).Nodup := by
  have hids : entries.map Entry.id = (remaining log queue).map Prod.fst := by
    rw [← h.stored, List.map_map]
    rfl
  rw [hids]
  exact h.ids.sublist (List.filter_sublist.map _)

theorem send (h : Kept log queue s entries) (body : String)
    (hentries : s.entries? queue = some entries) :
    Kept (log ++ [.sent queue s.nextEntry body]) queue (s.send queue body).2
      (entries ++ [s.newEntry body]) := by
  have hprecedes := Store.precedes_send s queue body
  have hnext : (s.send queue body).2.nextEntry = s.nextEntry + 1 := by
    rw [Store.send_of_some hentries]
  have hsentTo : sentTo (log ++ [.sent queue s.nextEntry body]) queue =
      sentTo log queue ++ [(s.nextEntry, body)] := by
    rw [sentTo_append]
    simp [sentTo, Record.sentTo?]
  have hterms : ∀ id, terms (log ++ [.sent queue s.nextEntry body]) queue id =
      terms log queue id := fun id => by
    rw [terms_append]
    simp [terms, Record.termOf?]
  have hunleased : terms log queue s.nextEntry = [] := by
    refine List.eq_nil_iff_forall_not_mem.2 fun t ht => ?_
    exact Nat.lt_irrefl _ (h.term_lt _ t ht).1
  have hkept : Record.deleted queue s.nextEntry ∉ log := fun hid =>
    Nat.lt_irrefl _ (h.deleted_lt _ hid)
  refine ⟨?_, fun e he => ?_, ?_, fun c hc => ?_, fun id hid => ?_, fun id t ht => ?_,
    fun id => ?_⟩
  · rw [List.map_append, h.stored, remaining, remaining, hsentTo, List.filter_append]
    simp [hkept, Store.newEntry, Entry.content]
  · rcases List.mem_append.1 he with he | he
    · exact (h.told e he).of_terms (hterms e.id) hprecedes.now
    · obtain rfl := List.mem_singleton.1 he
      have hnil : terms log queue (s.newEntry body).id = [] := hunleased
      refine Told.of_terms ⟨?_, ?_, fun _ => Nat.le_refl s.now, fun before t hsplit => ?_⟩
        (hterms _) hprecedes.now
      · rw [latest?, hnil]
        rfl
      · rw [hnil]
        rfl
      · rw [hnil] at hsplit
        simp at hsplit
  · rw [hsentTo, List.map_append, List.nodup_append]
    refine ⟨h.ids, List.nodup_singleton _, ?_⟩
    rintro id hid id' hid' rfl
    obtain ⟨c, hc, rfl⟩ := List.mem_map.1 hid
    exact Nat.ne_of_lt (h.sent_lt c hc) (List.mem_singleton.1 hid')
  · rw [hsentTo, List.mem_append, List.mem_singleton] at hc
    rw [hnext]
    rcases hc with hc | rfl
    · exact Nat.lt_succ_of_lt (h.sent_lt c hc)
    · exact Nat.lt_succ_self _
  · have hold : Record.deleted queue id ∈ log := by simpa using hid
    exact Nat.lt_of_lt_of_le (h.deleted_lt id hold) hprecedes.nextEntry
  · obtain ⟨hlt, hle⟩ := h.term_lt id t (hterms id ▸ ht)
    exact ⟨Nat.lt_of_lt_of_le hlt hprecedes.nextEntry, Nat.le_trans hle hprecedes.now⟩
  · rw [hterms]
    exact h.apart id

/-- A receiver gets an entry once at most, and only one that is not hidden. -/
theorem leased_once (h : Kept log queue s entries) (max timeout id : Nat) :
    (s.leased max timeout entries).1.filter (·.id = id) = [] ∨
      (∃ e ∈ entries, e.id = id ∧ e.visibleAt ≤ s.now) ∧
        ∃ l, (s.leased max timeout entries).1.filter (·.id = id) = [l] := by
  have hids : ((s.leased max timeout entries).1.map Lease.id).Nodup :=
    h.ids_entries.sublist (ids_leases_sublist max s.nextReceipt entries)
  rcases hfilter : (s.leased max timeout entries).1.filter (·.id = id) with _ | ⟨l, rest⟩
  · exact .inl hfilter
  · have hall : ∀ l' ∈ l :: rest, l' ∈ (s.leased max timeout entries).1 ∧ l'.id = id :=
      fun l' hl' => by
        rw [← hfilter, List.mem_filter, decide_eq_true_eq] at hl'
        exact hl'
    obtain ⟨hl, hid⟩ := hall l List.mem_cons_self
    refine .inr ⟨?_, l, ?_⟩
    · have hmem := List.mem_map_of_mem (f := fun l => (Lease.content l, Lease.count l)) hl
      rw [map_leased] at hmem
      obtain ⟨e, he, hcontent⟩ := List.mem_map.1 hmem
      obtain ⟨hentry, hvisible⟩ := List.mem_filter.1 (List.mem_of_mem_take he)
      have heq : e.id = l.id := congrArg (fun p => p.1.1) hcontent
      exact ⟨e, hentry, heq.trans hid, of_decide_eq_true hvisible⟩
    · have hnodup : ((l :: rest).map Lease.id).Nodup :=
        hids.sublist (hfilter ▸ List.filter_sublist.map _)
      rcases rest with _ | ⟨l', rest⟩
      · exact hfilter
      · have hid' := (hall l' (by simp)).2
        simp [hid, hid'] at hnodup

theorem receive (h : Kept log queue s entries) (max timeout : Nat) :
    Kept (log ++ (s.leased max timeout entries).1.map fun l =>
        .leased queue l.id ⟨l.receipt, s.now, timeout⟩) queue (s.receive queue max timeout).2
      (s.leased max timeout entries).2 := by
  have hprecedes := Store.precedes_receive s queue max timeout
  generalize hmore : ((s.leased max timeout entries).1.map fun l =>
    Record.leased queue l.id ⟨l.receipt, s.now, timeout⟩) = more
  have hsent : sentTo more queue = [] := by
    subst hmore
    refine List.filterMap_eq_nil_iff.2 fun r hr => ?_
    obtain ⟨l, -, rfl⟩ := List.mem_map.1 hr
    rfl
  have hdeleted : ∀ id, Record.deleted queue id ∉ more := by
    subst hmore
    simp
  have hsentTo : sentTo (log ++ more) queue = sentTo log queue := by
    rw [sentTo_append, hsent, List.append_nil]
  have hterms : ∀ id, terms (log ++ more) queue id = terms log queue id ++
      ((s.leased max timeout entries).1.filter (·.id = id)).map fun l =>
        ⟨l.receipt, s.now, timeout⟩ := fun id => by
    rw [terms_append, ← hmore, terms_leased]
  refine ⟨?_, fun e' he' => ?_, hsentTo ▸ h.ids, fun c hc => ?_, fun id hid => ?_,
    fun id t ht => ?_, fun id => ?_⟩
  · rw [remaining_append_of_quiet hsent hdeleted, ← h.stored]
    exact contents_leaseFirst s.now (s.now + timeout) max s.nextReceipt entries
  · obtain ⟨e, he, hcase⟩ := lease_of_mem h.ids_entries he'
    rcases hcase with ⟨hnone, rfl⟩ | ⟨-, l, hl, rfl⟩
    · refine (h.told e' he).of_terms ?_ hprecedes.now
      have hnone' : (s.leased max timeout entries).1.filter (·.id = e'.id) = [] := hnone
      rw [hterms, hnone', List.map_nil, List.append_nil]
    · have hlast : terms (log ++ more) queue e.id =
          terms log queue e.id ++ [⟨l.receipt, s.now, timeout⟩] := by
        have hl' : (s.leased max timeout entries).1.filter (·.id = e.id) = [l] := hl
        rw [hterms, hl', List.map_singleton]
      refine ⟨?_, ?_, fun hnil => ?_, fun before t hsplit => ?_⟩
      · change some l.receipt = latest? (log ++ more) queue e.id
        simp [latest?, hlast]
      · change (e.leases + 1) % countLimit = (terms (log ++ more) queue e.id).length % countLimit
        rw [hlast, (h.told e he).leases, Nat.mod_add_mod, List.length_append, List.length_singleton]
      · change terms (log ++ more) queue e.id = [] at hnil
        rw [hlast] at hnil
        simp at hnil
      · change terms (log ++ more) queue e.id = _ at hsplit
        rw [hlast, List.append_singleton_inj] at hsplit
        rw [← hsplit.2]
        rfl
  · exact Nat.lt_of_lt_of_le (h.sent_lt c (hsentTo ▸ hc)) hprecedes.nextEntry
  · have hold : Record.deleted queue id ∈ log := by simpa [hdeleted] using hid
    exact Nat.lt_of_lt_of_le (h.deleted_lt id hold) hprecedes.nextEntry
  · rw [hterms, List.mem_append] at ht
    rcases ht with ht | ht
    · obtain ⟨hlt, hle⟩ := h.term_lt id t ht
      exact ⟨Nat.lt_of_lt_of_le hlt hprecedes.nextEntry, Nat.le_trans hle hprecedes.now⟩
    · rcases h.leased_once max timeout id with hnone | ⟨⟨e, he, rfl, -⟩, l, hl⟩
      · rw [hnone] at ht
        cases ht
      · rw [hl, List.map_singleton, List.mem_singleton] at ht
        rw [ht]
        exact ⟨Nat.lt_of_lt_of_le (h.sent_lt _ (h.mem_sentTo he)) hprecedes.nextEntry,
          hprecedes.now⟩
  · rw [hterms]
    rcases h.leased_once max timeout id with hnone | ⟨⟨e, he, rfl, hvisible⟩, l, hl⟩
    · rw [hnone, List.map_nil, List.append_nil]
      exact h.apart id
    · rw [hl, List.map_singleton]
      refine List.pairwise_append.2 ⟨h.apart e.id, List.pairwise_singleton _ _, ?_⟩
      intro t ht t' ht'
      have hover := (h.told e he).eligible_iff (h.apart e.id)
      rw [decide_eq_true hvisible, eligible, List.all_eq_true] at hover
      rw [List.mem_singleton.1 ht']
      exact of_decide_eq_true (hover t ht)

theorem delete (h : Kept log queue s entries) {receipt : Nat}
    (hany : entries.any (Store.isFor id receipt) = true) :
    Kept (log ++ [.deleted queue id]) queue (s.delete queue id receipt).2
      (entries.eraseP (Store.isFor id receipt)) := by
  have hprecedes := Store.precedes_delete s queue id receipt
  have hsentTo : sentTo (log ++ [.deleted queue id]) queue = sentTo log queue := by
    rw [sentTo_append]
    simp [sentTo, Record.sentTo?]
  have hterms : ∀ other, terms (log ++ [.deleted queue id]) queue other =
      terms log queue other := fun other => by
    rw [terms_append]
    simp [terms, Record.termOf?]
  refine ⟨?_, fun e he => ?_, hsentTo ▸ h.ids, fun c hc => ?_, fun other hother => ?_,
    fun other t ht => ?_, fun other => ?_⟩
  · have hremaining : remaining (log ++ [.deleted queue id]) queue =
        (remaining log queue).filter (·.1 ≠ id) := by
      simp only [remaining, hsentTo, List.filter_filter]
      refine List.filter_congr fun c _ => ?_
      simp [and_comm]
    rw [hremaining, eraseP_eq_filter h.ids_entries hany, ← h.stored, List.filter_map]
    rfl
  · exact (h.told e (List.mem_of_mem_eraseP he)).of_terms (hterms e.id) hprecedes.now
  · exact Nat.lt_of_lt_of_le (h.sent_lt c (hsentTo ▸ hc)) hprecedes.nextEntry
  · refine Nat.lt_of_lt_of_le ?_ hprecedes.nextEntry
    rcases List.mem_append.1 hother with hother | hother
    · exact h.deleted_lt other hother
    · obtain ⟨e, he, hfor⟩ := List.any_eq_true.1 hany
      have hid : other = e.id := by
        rw [(Store.isFor_iff.1 hfor).1]
        simpa using hother
      exact hid ▸ h.sent_lt _ (h.mem_sentTo he)
  · obtain ⟨hlt, hle⟩ := h.term_lt other t (hterms other ▸ ht)
    exact ⟨Nat.lt_of_lt_of_le hlt hprecedes.nextEntry, Nat.le_trans hle hprecedes.now⟩
  · rw [hterms]
    exact h.apart other

end Kept

end

namespace Chronicle

variable {c : Chronicle} {queue name body : String} {entries : List Entry} {id receipt : Nat}

theorem next_send_of_none (h : c.store.entries? queue = none) : c.next (.send queue body) = c := by
  simp only [next, Store.send_of_none h]

theorem next_send_of_some (h : c.store.entries? queue = some entries) :
    c.next (.send queue body) =
      ⟨c.log ++ [.sent queue c.store.nextEntry body], (c.store.send queue body).2⟩ := by
  simp only [next, Store.send_of_some h]

theorem next_receive_of_none (h : c.store.entries? queue = none) (max timeout : Nat) :
    c.next (.receive queue max timeout) = c := by
  simp only [next, Store.receive?_of_none h]

theorem next_receive_of_panic {max timeout : Nat}
    (h : c.store.receive? queue max timeout = none) : c.next (.receive queue max timeout) = c := by
  simp only [next, h]

theorem next_receive_of_some (h : c.store.entries? queue = some entries) {max timeout : Nat}
    {outcome : Outcome (List Lease)}
    (hreturns : c.store.receive? queue max timeout = some outcome) :
    c.next (.receive queue max timeout) =
      ⟨c.log ++ (c.store.leased max timeout entries).1.map fun l =>
        .leased queue l.id ⟨l.receipt, c.store.now, timeout⟩,
        (c.store.receive queue max timeout).2⟩ := by
  obtain rfl := Store.receive?_eq_some hreturns
  simp only [next, hreturns, Store.receive_of_some h]

/-- A receiver finds no queue, or panics, or gets leases. -/
theorem receive_cases (c : Chronicle) (queue : String) (max timeout : Nat) :
    c.next (.receive queue max timeout) = c ∨
      ∃ entries, c.store.entries? queue = some entries ∧ c.next (.receive queue max timeout) =
        ⟨c.log ++ (c.store.leased max timeout entries).1.map fun l =>
          .leased queue l.id ⟨l.receipt, c.store.now, timeout⟩,
          (c.store.receive queue max timeout).2⟩ := by
  rcases hentries : c.store.entries? queue with _ | entries
  · exact .inl (next_receive_of_none hentries max timeout)
  · rcases hreturns : c.store.receive? queue max timeout with _ | outcome
    · exact .inl (next_receive_of_panic hreturns)
    · exact .inr ⟨entries, rfl, next_receive_of_some hentries hreturns⟩

theorem next_delete_of_none (h : c.store.entries? queue = none) :
    c.next (.delete queue id receipt) = c := by
  simp only [next, Store.delete_of_none h]

theorem next_delete_of_any (h : c.store.entries? queue = some entries)
    (hany : entries.any (Store.isFor id receipt) = true) : c.next (.delete queue id receipt) =
      ⟨c.log ++ [.deleted queue id], (c.store.delete queue id receipt).2⟩ := by
  simp only [next, Store.delete_of_some h, hany, if_true]

theorem next_delete_of_not_any (h : c.store.entries? queue = some entries)
    (hany : ¬ entries.any (Store.isFor id receipt) = true) :
    c.next (.delete queue id receipt) = c := by
  simp only [next, Store.delete_of_some h, hany]
  rfl

/-- A store is as its log tells. -/
structure Sound (c : Chronicle) : Prop where
  created : ∀ queue, (c.store.entries? queue).isSome = true ↔ Record.created queue ∈ c.log
  kept : ∀ queue, Kept c.log queue c.store ((c.store.entries? queue).getD [])

theorem Sound.kept_of_some (h : c.Sound) (hentries : c.store.entries? queue = some entries) :
    Kept c.log queue c.store entries := by
  have hkept := h.kept queue
  rwa [hentries] at hkept

/-- One queue is changed, and the others stay. -/
theorem Sound.change (h : c.Sound) {more : List Record} {store : Store}
    (hmore : ∀ r ∈ more, r.queue = queue) (hprecedes : c.store.Precedes store)
    (hentries : ∀ name, store.entries? name =
      if name = queue then some entries else c.store.entries? name)
    (hcreated : Record.created queue ∈ c.log ++ more)
    (hkept : Kept (c.log ++ more) queue store entries) : Sound ⟨c.log ++ more, store⟩ := by
  have hothers : ∀ name, name ≠ queue → ∀ r ∈ more, r.queue ≠ name := fun name hne r hr heq =>
    hne (heq.symm.trans (hmore r hr))
  refine ⟨fun name => ?_, fun name => ?_⟩ <;> rw [hentries] <;> split_ifs with hname
  · simp [hname, hcreated]
  · have hnew : Record.created name ∉ more := fun hr => hothers name hname _ hr rfl
    simp [h.created, hnew]
  · exact hname ▸ hkept
  · exact (h.kept name).elsewhere (hothers name hname) hprecedes

theorem Sound.next (h : c.Sound) (call : Call) : (c.next call).Sound := by
  cases call with
  | create queue =>
    refine h.change (by simp [Record.queue]) (Store.precedes_create _ _)
      (Store.entries?_create c.store queue) (by simp) ?_
    exact (h.kept queue).quiet rfl (fun _ => rfl) (by simp) (Store.precedes_create _ _)
  | send queue body =>
    rcases hentries : c.store.entries? queue with _ | entries
    · rw [next_send_of_none hentries]
      exact h
    · have hcreated := (h.created queue).1 (by rw [hentries]; rfl)
      rw [next_send_of_some hentries]
      exact h.change (by simp [Record.queue]) (Store.precedes_send _ _ _)
        (Store.entries?_send hentries body) (List.mem_append_left _ hcreated)
        ((h.kept_of_some hentries).send body hentries)
  | receive queue max timeout =>
    rcases c.receive_cases queue max timeout with hsame | ⟨entries, hentries, hnext⟩
    · rwa [hsame]
    · have hcreated := (h.created queue).1 (by rw [hentries]; rfl)
      rw [hnext]
      exact h.change (by simp [Record.queue]) (Store.precedes_receive _ _ _ _)
        (Store.entries?_receive hentries max timeout) (List.mem_append_left _ hcreated)
        ((h.kept_of_some hentries).receive max timeout)
  | delete queue id receipt =>
    rcases hentries : c.store.entries? queue with _ | entries
    · rw [next_delete_of_none hentries]
      exact h
    · by_cases hany : entries.any (Store.isFor id receipt) = true
      · have hcreated := (h.created queue).1 (by rw [hentries]; rfl)
        rw [next_delete_of_any hentries hany]
        exact h.change (by simp [Record.queue]) (Store.precedes_delete _ _ _ _)
          (Store.entries?_delete hentries id receipt) (List.mem_append_left _ hcreated)
          ((h.kept_of_some hentries).delete hany)
      · rw [next_delete_of_not_any hentries hany]
        exact h
  | elapse ms =>
    refine ⟨h.created, fun queue => ?_⟩
    have hkept : Kept (c.log ++ []) queue (c.store.advance ms) _ :=
      (h.kept queue).quiet rfl (fun _ => rfl) nofun (Store.precedes_advance c.store ms)
    rwa [List.append_nil] at hkept

theorem sound_after (now : Nat) (calls : List Call) : (after now calls).Sound := by
  refine List.foldlRecOn calls next ?_ fun c h call _ => h.next call
  refine ⟨by simp [Store.entries?], fun queue => ?_⟩
  exact ⟨rfl, by simp [Store.entries?], List.nodup_nil, by simp [sentTo], by simp,
    by simp [terms], fun _ => List.Pairwise.nil⟩

/-! ## What comes of the next call -/

theorem Sound.exists_entries (h : c.Sound) (hcreated : Record.created queue ∈ c.log) :
    ∃ entries, c.store.entries? queue = some entries :=
  Option.isSome_iff_exists.1 ((h.created queue).2 hcreated)

theorem content_visible (h : Kept c.log queue c.store entries) :
    (entries.filter fun e => e.visibleAt ≤ c.store.now).map Entry.content =
      (remaining c.log queue).filter fun entry => eligible c.log queue c.store.now entry.1 := by
  rw [← h.stored, List.filter_map]
  refine congrArg _ (List.filter_congr fun e he => ?_)
  exact ((h.told e he).eligible_iff (h.apart e.id)).symm

/-- The entries of a queue whose leases have all run out, the first of them. -/
def dueEntries (c : Chronicle) (queue : String) (max : Nat) : List (Nat × String) :=
  ((remaining c.log queue).filter fun entry => eligible c.log queue c.store.now entry.1).take max

theorem Sound.content_due (h : c.Sound) (hentries : c.store.entries? queue = some entries)
    (max : Nat) : (c.store.due queue max).map Entry.content = c.dueEntries queue max := by
  rw [Store.due_of_some hentries, List.map_take, content_visible (h.kept_of_some hentries)]
  rfl

/-- A call panics only for want of time that the clock can tell. -/
theorem Sound.panics_iff (h : c.Sound) (hcreated : Record.created queue ∈ c.log)
    (max timeout : Nat) : c.store.receive? queue max timeout = none ↔
      c.dueEntries queue max ≠ [] ∧ clockLimit ≤ c.store.now + timeout := by
  obtain ⟨entries, hentries⟩ := h.exists_entries hcreated
  rw [Store.receive?_eq_none_iff, ← h.content_due hentries, ne_eq, ne_eq, List.map_eq_nil_iff]

theorem Sound.startsOver_iff (h : c.Sound) (hcreated : Record.created queue ∈ c.log) (max : Nat) :
    c.store.startsOver queue max = true ↔ ∃ entry ∈ c.dueEntries queue max,
      countLimit ∣ (terms c.log queue entry.1).length + 1 := by
  obtain ⟨entries, hentries⟩ := h.exists_entries hcreated
  have hkept := h.kept_of_some hentries
  have hcount : ∀ e ∈ c.store.due queue max, e.leases + 1 = countLimit ↔
      countLimit ∣ (terms c.log queue e.id).length + 1 := fun e he => by
    rw [Store.due_of_some hentries] at he
    have hlimit : countLimit = 4294967296 := rfl
    rw [(hkept.told e (List.mem_of_mem_filter (List.mem_of_mem_take he))).leases, hlimit]
    omega
  rw [← h.content_due hentries, Store.startsOver, List.any_eq_true]
  simp only [decide_eq_true_eq]
  constructor
  · rintro ⟨e, he, hover⟩
    exact ⟨e.content, List.mem_map_of_mem he, (hcount e he).1 hover⟩
  · rintro ⟨_, hmem, hdvd⟩
    obtain ⟨e, he, rfl⟩ := List.mem_map.1 hmem
    exact ⟨e, he, (hcount e he).2 hdvd⟩

theorem Sound.received (h : c.Sound) (hcreated : Record.created queue ∈ c.log) {max timeout : Nat}
    {outcome : Outcome (List Lease)}
    (hreturns : c.store.receive? queue max timeout = some outcome) :
    ∃ leases, outcome.1 = .ok leases ∧ leases.map Lease.content = c.dueEntries queue max ∧
      (leases.map Lease.id).Nodup ∧
      ∀ l ∈ leases, l.count = ((terms c.log queue l.id).length + 1) % countLimit := by
  obtain ⟨entries, hentries⟩ := h.exists_entries hcreated
  have hkept := h.kept_of_some hentries
  obtain rfl := Store.receive?_eq_some hreturns
  refine ⟨_, by rw [Store.receive_of_some hentries], ?_, ?_, fun l hl => ?_⟩
  · have hcontents := congrArg (List.map Prod.fst) (map_leased c.store max timeout entries)
    rw [List.map_map, List.map_map] at hcontents
    rw [← h.content_due hentries, Store.due_of_some hentries]
    exact hcontents
  · exact hkept.ids_entries.sublist (ids_leases_sublist max c.store.nextReceipt entries)
  · have hmem := List.mem_map_of_mem (f := fun l => (Lease.content l, Lease.count l)) hl
    rw [map_leased] at hmem
    obtain ⟨e, he, heq⟩ := List.mem_map.1 hmem
    have hentry : e ∈ entries := List.mem_of_mem_filter (List.mem_of_mem_take he)
    have hid : e.id = l.id := congrArg (fun p => p.1.1) heq
    have hcount : (e.leases + 1) % countLimit = l.count := congrArg Prod.snd heq
    rw [← hcount, (hkept.told e hentry).leases, hid, Nat.mod_add_mod]

theorem Sound.missing (h : c.Sound) (hmissing : Record.created queue ∉ c.log) :
    c.store.entries? queue = none := by
  rw [← Option.not_isSome_iff_eq_none, h.created]
  exact hmissing

theorem Sound.any_isFor_iff (h : c.Sound) (hentries : c.store.entries? queue = some entries) :
    entries.any (Store.isFor id receipt) = true ↔
      (∃ body, (id, body) ∈ remaining c.log queue) ∧ latest? c.log queue id = some receipt := by
  have hkept := h.kept_of_some hentries
  rw [List.any_eq_true, ← hkept.stored]
  constructor
  · rintro ⟨e, he, hfor⟩
    obtain ⟨rfl, hreceipt⟩ := Store.isFor_iff.1 hfor
    exact ⟨⟨e.body, List.mem_map_of_mem he⟩, (hkept.told e he).receipt ▸ hreceipt⟩
  · rintro ⟨⟨body, hmem⟩, hlatest⟩
    obtain ⟨e, he, heq⟩ := List.mem_map.1 hmem
    have hid : e.id = id := congrArg Prod.fst heq
    refine ⟨e, he, Store.isFor_iff.2 ⟨hid, ?_⟩⟩
    rw [(hkept.told e he).receipt, hid, hlatest]

theorem Sound.deleted (h : c.Sound) : (c.store.delete queue id receipt).1 = .ok () ↔
    (∃ body, (id, body) ∈ remaining c.log queue) ∧ latest? c.log queue id = some receipt := by
  rcases hentries : c.store.entries? queue with _ | entries
  · have hstored := (h.kept queue).stored
    rw [hentries] at hstored
    simp [Store.delete_of_none hentries, ← hstored]
  · rw [← h.any_isFor_iff hentries, Store.delete_of_some hentries]
    split_ifs with hany <;> simp [hany]

theorem delete_refused (hfailed : (c.store.delete queue id receipt).1 ≠ .ok ()) :
    (c.store.delete queue id receipt).2 = c.store := by
  rcases hentries : c.store.entries? queue with _ | entries
  · rw [Store.delete_of_none hentries]
  · rw [Store.delete_of_some hentries] at hfailed ⊢
    split_ifs at hfailed ⊢ with hany
    · exact absurd rfl hfailed
    · rfl

/-- Entries stay unless a call deletes. -/
theorem mem_remaining_append {log more : List Record} {entry : Nat × String}
    (h : entry ∈ remaining log queue) (hdeleted : Record.deleted queue entry.1 ∉ more) :
    entry ∈ remaining (log ++ more) queue := by
  simp only [remaining, List.mem_filter, decide_eq_true_eq, sentTo_append, List.mem_append] at h ⊢
  exact ⟨.inl h.1, fun hmem => hmem.elim h.2 hdeleted⟩

theorem Sound.left (h : c.Sound) {call : Call} {entry : Nat × String}
    (hmem : entry ∈ remaining c.log queue) (hgone : entry ∉ remaining (c.next call).log queue) :
    ∃ receipt, call = .delete queue entry.1 receipt ∧
      latest? c.log queue entry.1 = some receipt := by
  cases call with
  | create other => exact absurd (mem_remaining_append hmem (by simp)) hgone
  | send other body =>
    rcases hentries : c.store.entries? other with _ | entries
    · rw [next_send_of_none hentries] at hgone
      exact absurd hmem hgone
    · rw [next_send_of_some hentries] at hgone
      exact absurd (mem_remaining_append hmem (by simp)) hgone
  | receive other max timeout =>
    rcases c.receive_cases other max timeout with hsame | ⟨entries, hentries, hnext⟩
    · rw [hsame] at hgone
      exact absurd hmem hgone
    · rw [hnext] at hgone
      exact absurd (mem_remaining_append hmem (by simp)) hgone
  | delete other id receipt =>
    rcases hentries : c.store.entries? other with _ | entries
    · rw [next_delete_of_none hentries] at hgone
      exact absurd hmem hgone
    · by_cases hany : entries.any (Store.isFor id receipt) = true
      · by_cases hsame : other = queue ∧ id = entry.1
        · obtain ⟨rfl, rfl⟩ := hsame
          exact ⟨receipt, rfl, ((h.any_isFor_iff hentries).1 hany).2⟩
        · rw [next_delete_of_any hentries hany] at hgone
          refine absurd (mem_remaining_append hmem ?_) hgone
          simpa [eq_comm] using hsame
      · rw [next_delete_of_not_any hentries hany] at hgone
        exact absurd hmem hgone
  | elapse ms => exact absurd hmem hgone

theorem next_others {call : Call} (h : call.queue? ≠ some name) :
    (c.next call).store.entries? name = c.store.entries? name := by
  cases call with
  | elapse ms => rfl
  | create queue =>
    have hne : name ≠ queue := fun heq => h (heq ▸ rfl)
    exact (Store.entries?_create c.store queue name).trans (if_neg hne)
  | send queue body =>
    have hne : name ≠ queue := fun heq => h (heq ▸ rfl)
    rcases hentries : c.store.entries? queue with _ | entries
    · rw [next_send_of_none hentries]
    · rw [next_send_of_some hentries]
      exact (Store.entries?_send hentries body name).trans (if_neg hne)
  | receive queue max timeout =>
    have hne : name ≠ queue := fun heq => h (heq ▸ rfl)
    rcases c.receive_cases queue max timeout with hsame | ⟨entries, hentries, hnext⟩
    · rw [hsame]
    · rw [hnext]
      exact (Store.entries?_receive hentries max timeout name).trans (if_neg hne)
  | delete queue id receipt =>
    have hne : name ≠ queue := fun heq => h (heq ▸ rfl)
    rcases hentries : c.store.entries? queue with _ | entries
    · rw [next_delete_of_none hentries]
    · by_cases hany : entries.any (Store.isFor id receipt) = true
      · rw [next_delete_of_any hentries hany]
        exact (Store.entries?_delete hentries id receipt name).trans (if_neg hne)
      · rw [next_delete_of_not_any hentries hany]

/-- What the calls so far make of every call that can come next. -/
structure Lawful (c : Chronicle) : Prop where
  /-- On a queue lie the entries that were sent to it and not deleted, in order. -/
  stored : ∀ queue, Record.created queue ∈ c.log → ∃ entries,
    c.store.entries? queue = some entries ∧ entries.map Entry.content = remaining c.log queue
  sends : ∀ queue, Record.created queue ∈ c.log → ∀ body, (c.store.send queue body).1 = .ok ()
  /-- Nothing comes of a call for a queue that was not created. -/
  missing : ∀ queue, Record.created queue ∉ c.log →
    (∀ body, c.store.send queue body = (.error (.noQueue queue), c.store)) ∧
      ∀ max timeout, c.store.receive? queue max timeout = some (.error (.noQueue queue), c.store)
  /-- A lease of an entry begins when those before it have run out. -/
  apart : ∀ queue id, (terms c.log queue id).Pairwise fun t t' => t.over ≤ t'.start
  /-- A receiver panics if it would get leases that the clock cannot tell the end of. -/
  panics : ∀ queue, Record.created queue ∈ c.log → ∀ max timeout,
    c.store.receive? queue max timeout = none ↔
      c.dueEntries queue max ≠ [] ∧ clockLimit ≤ c.store.now + timeout
  /-- Any other receiver gets the first entries all of whose leases have run out. -/
  received : ∀ queue, Record.created queue ∈ c.log → ∀ max timeout outcome,
    c.store.receive? queue max timeout = some outcome → ∃ leases, outcome.1 = .ok leases ∧
      leases.map Lease.content = c.dueEntries queue max ∧ (leases.map Lease.id).Nodup ∧
      ∀ l ∈ leases, l.count = ((terms c.log queue l.id).length + 1) % countLimit
  /-- The counts that start over are those of entries that were leased so many times. -/
  startsOver : ∀ queue, Record.created queue ∈ c.log → ∀ max,
    c.store.startsOver queue max = true ↔ ∃ entry ∈ c.dueEntries queue max,
      countLimit ∣ (terms c.log queue entry.1).length + 1
  /-- An entry is deleted with the receipt of its last lease and with nothing else. -/
  deleted : ∀ queue id receipt, (c.store.delete queue id receipt).1 = .ok () ↔
    (∃ body, (id, body) ∈ remaining c.log queue) ∧ latest? c.log queue id = some receipt
  refused : ∀ queue id receipt, (c.store.delete queue id receipt).1 ≠ .ok () →
    (c.store.delete queue id receipt).2 = c.store
  left : ∀ call queue entry, entry ∈ remaining c.log queue →
    entry ∉ remaining (c.next call).log queue → ∃ receipt,
      call = .delete queue entry.1 receipt ∧ latest? c.log queue entry.1 = some receipt
  others : ∀ call name, call.queue? ≠ some name →
    (c.next call).store.entries? name = c.store.entries? name
  again : ∀ queue, Record.created queue ∈ c.log → c.store.create queue = c.store

theorem leases_keep_the_law (now : Nat) (calls : List Call) : Lawful (after now calls) := by
  have hsound := sound_after now calls
  refine ⟨fun queue hcreated => ?_, fun queue hcreated body => ?_, fun queue hmissing => ?_,
    fun queue id => (hsound.kept queue).apart id, fun _ hcreated => hsound.panics_iff hcreated,
    fun _ hcreated _ _ _ => hsound.received hcreated,
    fun _ hcreated => hsound.startsOver_iff hcreated, fun _ _ _ => hsound.deleted,
    fun _ _ _ => delete_refused, fun _ _ _ => hsound.left, fun _ _ => next_others,
    fun queue hcreated => ?_⟩
  · obtain ⟨entries, hentries⟩ := hsound.exists_entries hcreated
    exact ⟨entries, hentries, (hsound.kept_of_some hentries).stored⟩
  · obtain ⟨entries, hentries⟩ := hsound.exists_entries hcreated
    rw [Store.send_of_some hentries]
  · have hnone := hsound.missing hmissing
    exact ⟨fun body => Store.send_of_none hnone body, fun _ _ => Store.receive?_of_none hnone _ _⟩
  · obtain ⟨entries, hentries⟩ := hsound.exists_entries hcreated
    rw [Store.create, hentries]

/-- The receipt of a lease that has run out deletes nothing once the entry is leased again. -/
example : (after 0 [.create "q", .send "q" "a", .receive "q" 1 0, .receive "q" 1 5,
    .delete "q" 0 0]).store.length "q" = 1 := by decide

/-! ### Numbers that come to an end -/

/-- Calls that lease an entry so many times, each time for no time at all. -/
def leasing (n : Nat) : List Call :=
  [.create "q", .send "q" "a"] ++ List.replicate n (.receive "q" 1 0)

/-- The entry has been leased so many times, and can be leased again. -/
structure Turning (c : Chronicle) (n : Nat) : Prop where
  now : c.store.now = 0
  entries : ∃ receipt, c.store.entries? "q" = some [⟨0, "a", 0, receipt, n % countLimit⟩]
  terms : (terms c.log "q" 0).length = n

theorem Turning.receive {n : Nat} (h : c.Turning n) :
    ∃ e, c.store.entries? "q" = some [e] ∧ (∃ outcome, c.store.receive? "q" 1 0 = some outcome) ∧
      c.store.leased 1 0 [e] = ([⟨0, c.store.nextReceipt, "a", (n + 1) % countLimit⟩],
        [⟨0, "a", 0, some c.store.nextReceipt, (n + 1) % countLimit⟩]) := by
  obtain ⟨receipt, hentries⟩ := h.entries
  refine ⟨_, hentries, ?_, ?_⟩
  · rw [← Option.isSome_iff_exists, ← Option.ne_none_iff_isSome, ne_eq, Store.receive?_eq_none_iff,
      h.now]
    exact fun hlate => absurd hlate.2 (by decide)
  · have hvisible : (⟨0, "a", 0, receipt, n % countLimit⟩ : Entry).visibleAt ≤ c.store.now :=
      Nat.zero_le _
    rw [Store.leased, leaseFirst_visible hvisible, leaseFirst, Entry.lease, Nat.mod_add_mod, h.now]

theorem Turning.next {n : Nat} (h : c.Turning n) : (c.next (.receive "q" 1 0)).Turning (n + 1) := by
  obtain ⟨e, hentries, ⟨outcome, hreturns⟩, hleased⟩ := h.receive
  have hafter := Store.entries?_receive hentries 1 0 "q"
  rw [if_pos rfl, hleased] at hafter
  rw [next_receive_of_some hentries hreturns, hleased]
  refine ⟨?_, ⟨_, hafter⟩, ?_⟩
  · rw [Store.receive_of_some hentries]
    exact h.now
  · rw [terms_append, List.length_append, h.terms]
    rfl

theorem turning_leasing : ∀ n, (after 0 (leasing n)).Turning n
  | 0 => ⟨rfl, ⟨none, rfl⟩, rfl⟩
  | n + 1 => by
    have hlast : leasing (n + 1) = leasing n ++ [.receive "q" 1 0] := by
      rw [leasing, leasing, List.replicate_succ', List.append_assoc]
    have ih := (turning_leasing n).next
    rw [after] at ih ⊢
    rwa [hlast, List.foldl_append, List.foldl_cons, List.foldl_nil]

/-- The last of so many leases is told under the count 0. A call panics over a lease that would run
out later than the clock can tell, and fails for a queue that was not created. -/
theorem count_starts_over :
    (∃ leases store, (after 0 (leasing (countLimit - 1))).store.receive? "q" 1 0 =
        some (.ok leases, store) ∧ leases.map Lease.count = [0]) ∧
      (terms (after 0 (leasing (countLimit - 1))).log "q" 0).length = countLimit - 1 ∧
      (after 0 (leasing 0)).store.receive? "q" 1 clockLimit = none ∧
      (after 0 []).store.receive? "q" 1 0 = some (.error (.noQueue "q"), (after 0 []).store) := by
  have hturning := turning_leasing (countLimit - 1)
  obtain ⟨e, hentries, ⟨outcome, hreturns⟩, hleased⟩ := hturning.receive
  have houtcome := Store.receive?_eq_some hreturns
  rw [Store.receive_of_some hentries, hleased] at houtcome
  refine ⟨⟨_, _, hreturns.trans (congrArg some houtcome), ?_⟩, hturning.terms, by decide, rfl⟩
  rw [List.map_singleton, Nat.sub_add_cancel (by decide), Nat.mod_self]

end Chronicle

end SessionRelay.Queue
