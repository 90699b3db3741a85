import Mathlib.Data.List.Nodup
import SessionRelay.Proofs.Backplane.Progress
import SessionRelay.Proofs.Queue.Store

/-!
# A queue with one receiver is a channel

One instance alone receives from its queue, one poll after another, while others send to it and time
passes. Its polls hold on to the entries they took until these are deleted, so a lease that runs out
in the meantime gives the entry to nobody else, and what was handed over never comes again. As long
as nothing is refused, what was sent is what was handed over and then what lies on the queue.
-/

namespace SessionRelay.Backplane

open Queue (Entry Lease Store)

/-- A text that the instance reads as an envelope for itself. -/
def Reads (b : Backplane) (text : String) : Prop :=
  ∃ e, Envelope.ofText? text = some e ∧ e.target = b.instanceId

/-- The queue of an instance and its only receiver. -/
structure Channel where
  store : Store := {}
  /-- What is left to do of the poll under way. -/
  tasks : List Task := []
  /-- The entries that were put on the queue, numbers and texts. -/
  sent : List (Nat × String) := []
  handed : List (Lease × Envelope) := []
  refused : List (Lease × Envelope) := []

namespace Channel

section

variable (b : Backplane) (c : Channel)

/-- Somebody sends a text to a queue. -/
def send (queue text : String) : Channel :=
  match c.store.send queue text with
  | (.ok (), store) =>
    { c with
      store
      sent := if queue = b.queue then c.sent ++ [(c.store.nextEntry, text)] else c.sent }
  | (.error _, store) => { c with store }

/-- The receiver begins a poll. -/
def poll : Channel :=
  match b.receive .ofStore c.store with
  | (.ok entries, store) => { c with store, tasks := entries.map .read }
  | (.error _, store) => { c with store }

/-- The receiver goes on with its poll. -/
def go (outcome : Except Fault Unit) : Channel :=
  let (tasks, store) := b.go .ofStore outcome c.store c.tasks
  match outcome with
  | .ok _ => { c with store, tasks, handed := c.handed ++ offered c.tasks }
  | .error _ => { c with store, tasks, refused := c.refused ++ offered c.tasks }

/-- What lies on the queue. -/
def queued : List Entry := (c.store.entries? b.queue).getD []

end

/-- What comes about while all texts for the queue can be read there and are for its instance, and
nobody else receives from the queue, deletes its entries or drops it. -/
inductive Run (b : Backplane) : Channel → Prop
  | start : Run b {}
  | create {c : Channel} (queue : String) (hrun : Run b c) :
    Run b { c with store := c.store.create queue }
  | elapse {c : Channel} (ms : Nat) (hrun : Run b c) :
    Run b { c with store := c.store.advance ms }
  | send {c : Channel} (queue text : String) (hreads : queue = b.queue → b.Reads text)
    (hrun : Run b c) : Run b (c.send b queue text)
  | receiveOther {c : Channel} {queue : String} (max timeout : Nat) (hother : queue ≠ b.queue)
    (hrun : Run b c) : Run b { c with store := (c.store.receive queue max timeout).2 }
  | deleteOther {c : Channel} {queue : String} (id receipt : Nat) (hother : queue ≠ b.queue)
    (hrun : Run b c) : Run b { c with store := (c.store.delete queue id receipt).2 }
  | dropOther {c : Channel} {queue : String} (hother : queue ≠ b.queue) (hrun : Run b c) :
    Run b { c with store := c.store.drop queue }
  | poll {c : Channel} (hidle : c.tasks = []) (hrun : Run b c) : Run b (c.poll b)
  | go {c : Channel} (outcome : Except Fault Unit) (hrun : Run b c) : Run b (c.go b outcome)

variable {b : Backplane} {c : Channel} {store : Store}

/-! ## The entries on the queue -/

/-- A change of the store that leaves the queue as it is. -/
structure Spares (b : Backplane) (s s' : Store) : Prop where
  queued : (s'.entries? b.queue).getD [] = (s.entries? b.queue).getD []
  precedes : s.Precedes s'

theorem spares_create (s : Store) (queue : String) : Spares b s (s.create queue) := by
  refine ⟨?_, Store.precedes_create s queue⟩
  rw [Store.entries?_create]
  split_ifs with hqueue
  · rw [hqueue, Option.getD_some]
  · rfl

theorem spares_advance (s : Store) (ms : Nat) : Spares b s (s.advance ms) :=
  ⟨rfl, Store.precedes_advance s ms⟩

theorem spares_drop (s : Store) {queue : String} (hother : queue ≠ b.queue) :
    Spares b s (s.drop queue) := by
  refine ⟨?_, Store.precedes_drop s queue⟩
  rw [Store.entries?_drop, if_neg hother.symm]

theorem spares_receive (s : Store) {queue : String} (hother : queue ≠ b.queue)
    (max timeout : Nat) : Spares b s (s.receive queue max timeout).2 := by
  refine ⟨?_, Store.precedes_receive s queue max timeout⟩
  cases hqueue : s.entries? queue with
  | none => rw [Store.receive_of_none hqueue]
  | some entries => rw [Store.entries?_receive hqueue, if_neg hother.symm]

theorem spares_delete (s : Store) {queue : String} (hother : queue ≠ b.queue)
    (id receipt : Nat) : Spares b s (s.delete queue id receipt).2 := by
  refine ⟨?_, Store.precedes_delete s queue id receipt⟩
  cases hqueue : s.entries? queue with
  | none => rw [Store.delete_of_none hqueue]
  | some entries => rw [Store.entries?_delete hqueue, if_neg hother.symm]

/-- What a text that is sent does to the queue. -/
theorem send_cases (c : Channel) (b : Backplane) (queue text : String) :
    (queue = b.queue ∧ (c.send b queue text).queued b = c.queued b ++ [c.store.newEntry text] ∧
      c.send b queue text = { c with
        store := (c.store.send queue text).2
        sent := c.sent ++ [(c.store.nextEntry, text)] } ∧
      c.store.nextEntry < (c.send b queue text).store.nextEntry) ∨
    Spares b c.store (c.send b queue text).store ∧
      c.send b queue text = { c with store := (c.send b queue text).store } := by
  have hprecedes := Store.precedes_send c.store queue text
  cases hentries : c.store.entries? queue with
  | none =>
    have hsend : c.send b queue text = c := by
      rw [send, Store.send_of_none hentries]
    rw [hsend]
    exact .inr ⟨⟨rfl, .refl _⟩, rfl⟩
  | some entries =>
    have hafter := Store.entries?_send hentries text b.queue
    by_cases hqueue : queue = b.queue
    · have hsend : c.send b queue text = { c with
          store := (c.store.send queue text).2
          sent := c.sent ++ [(c.store.nextEntry, text)] } := by
        rw [send, Store.send_of_some hentries]
        simp [hqueue]
      rw [if_pos hqueue.symm] at hafter
      refine .inl ⟨hqueue, ?_, hsend, ?_⟩
      · rw [hsend, queued, queued, hafter, ← hqueue, hentries]
        rfl
      · rw [hsend, Store.send_of_some hentries]
        exact Nat.lt_succ_self _
    · have hsend : c.send b queue text = { c with store := (c.store.send queue text).2 } := by
        rw [send, Store.send_of_some hentries]
        simp [hqueue]
      rw [if_neg (Ne.symm hqueue)] at hafter
      rw [hsend]
      exact .inr ⟨⟨by rw [hafter], hprecedes⟩, rfl⟩

/-! ## What holds throughout -/

/-- What there is to do about an entry for the instance. -/
def Due : Task → Prop
  | .read _ | .delete _ => True
  | .handOver entry e => Envelope.ofText? entry.body = some e
  | .prepare _ _ | .move _ _ => False

/-- A poll that is under way has the latest leases of its entries. It has begun with the first of
them at most. -/
structure UnderWay (entries : List Entry) (tasks : List Task) : Prop where
  held : ∀ t ∈ tasks, ∃ e ∈ entries, t.entry.Holds e
  distinct : (tasks.map fun t => t.entry.id).Nodup
  due : ∀ t ∈ tasks, Due t
  begun : ∀ t ∈ tasks.tail, ∃ l, t = .read l

namespace UnderWay

variable {entries : List Entry} {t t' : Task} {rest : List Task}

theorem tail (u : UnderWay entries (t :: rest)) : UnderWay entries rest :=
  { held := fun x hx => u.held x (List.mem_cons_of_mem _ hx)
    distinct := (List.nodup_cons.1 u.distinct).2
    due := fun x hx => u.due x (List.mem_cons_of_mem _ hx)
    begun := fun x hx => u.begun x (List.mem_of_mem_tail hx) }

theorem next (u : UnderWay entries (t :: rest)) (hentry : t'.entry = t.entry) (hdue : Due t') :
    UnderWay entries (t' :: rest) := by
  refine ⟨List.forall_mem_cons.2 ⟨?_, u.tail.held⟩, ?_, List.forall_mem_cons.2 ⟨hdue, u.tail.due⟩,
    u.begun⟩
  · rw [hentry]
    exact u.held t List.mem_cons_self
  · rw [List.map_cons, hentry]
    exact u.distinct

end UnderWay

structure Sound (b : Backplane) (c : Channel) : Prop where
  reads : ∀ p ∈ c.sent, b.Reads p.2
  increasing : (c.sent.map Prod.fst).Pairwise (· < ·)
  number_lt : ∀ p ∈ c.sent, p.1 < c.store.nextEntry
  stored : ((c.queued b).map Entry.content).Sublist c.sent
  underWay : UnderWay (c.queued b) c.tasks
  handed_sent : ∀ h ∈ c.handed, h.1.content ∈ c.sent ∧ Envelope.ofText? h.1.body = some h.2
  once : (c.handed.map fun h => h.1.id).Nodup
  /-- What was handed over and still lies on the queue is about to be deleted. -/
  leaving : ∀ h ∈ c.handed, ∀ e ∈ c.queued b, e.id = h.1.id →
    ∃ l, .delete l ∈ c.tasks ∧ l.id = h.1.id

namespace Sound

theorem numbers (h : Sound b c) : ((c.queued b).map Entry.id).Pairwise (· < ·) := by
  have hsublist := h.stored.map Prod.fst
  rw [List.map_map] at hsublist
  exact h.increasing.sublist hsublist

theorem content_mem (h : Sound b c) {e : Entry} (he : e ∈ c.queued b) : e.content ∈ c.sent :=
  h.stored.subset (List.mem_map_of_mem he)

theorem entry_mem (h : Sound b c) {t : Task} (ht : t ∈ c.tasks) : t.entry.content ∈ c.sent := by
  obtain ⟨e, he, hholds⟩ := h.underWay.held t ht
  rw [← hholds.content]
  exact h.content_mem he

theorem start : Sound b {} := by
  refine ⟨?_, ?_, ?_, ?_, ⟨?_, ?_, ?_, ?_⟩, ?_, ?_, ?_⟩ <;> simp [queued, Store.entries?]

theorem spares (h : Sound b c) (hspares : Spares b c.store store) :
    Sound b { c with store := store } := by
  have hqueued : Channel.queued b { c with store := store } = c.queued b := hspares.queued
  exact
    { h with
      number_lt := fun p hp => Nat.lt_of_lt_of_le (h.number_lt p hp) hspares.precedes.nextEntry
      stored := by rw [hqueued]; exact h.stored
      underWay := by rw [hqueued]; exact h.underWay
      leaving := by rw [hqueued]; exact h.leaving }

theorem send (h : Sound b c) (queue text : String) (hreads : queue = b.queue → b.Reads text) :
    Sound b (c.send b queue text) := by
  rcases send_cases c b queue text with ⟨hqueue, hqueued, hsend, hlt⟩ | ⟨hspares, hsend⟩
  · rw [hsend] at hqueued hlt ⊢
    have hnew : ∀ e ∈ c.queued b ++ [c.store.newEntry text],
        e ∈ c.queued b ∨ e.content = (c.store.nextEntry, text) := by
      intro e he
      rcases List.mem_append.1 he with he | he
      · exact .inl he
      · rw [List.mem_singleton.1 he]
        exact .inr rfl
    refine ⟨?_, ?_, ?_, ?_, { h.underWay with held := ?_ }, ?_, h.once, ?_⟩
    · exact List.forall_mem_append.2 ⟨h.reads, List.forall_mem_singleton.2 (hreads hqueue)⟩
    · rw [List.map_append, List.pairwise_append]
      refine ⟨h.increasing, List.pairwise_singleton _ _, ?_⟩
      intro n hn m hm
      obtain ⟨p, hp, rfl⟩ := List.mem_map.1 hn
      rw [List.mem_singleton.1 hm]
      exact h.number_lt p hp
    · refine List.forall_mem_append.2 ⟨fun p hp => ?_, List.forall_mem_singleton.2 hlt⟩
      exact Nat.lt_trans (h.number_lt p hp) hlt
    · rw [hqueued, List.map_append]
      exact h.stored.append (.refl _)
    · rw [hqueued]
      intro t ht
      obtain ⟨e, he, hholds⟩ := h.underWay.held t ht
      exact ⟨e, List.mem_append_left _ he, hholds⟩
    · intro x hx
      obtain ⟨hsent, hread⟩ := h.handed_sent x hx
      exact ⟨List.mem_append_left _ hsent, hread⟩
    · rw [hqueued]
      intro x hx e he hid
      rcases hnew e he with he | he
      · exact h.leaving x hx e he hid
      · -- a new number was never handed over
        have hlt' := h.number_lt _ (h.handed_sent x hx).1
        have hid' : e.content.1 = x.1.id := hid
        rw [he] at hid'
        exact absurd hid' (Nat.ne_of_gt hlt')
  · rw [hsend]
    exact h.spares hspares

end Sound

/-! ## Polls -/

/-- What a poll that begins does to the queue. -/
theorem poll_cases (c : Channel) (b : Backplane) :
    c.poll b = c ∧ c.store.entries? b.queue = none ∨
    ∃ entries leased, c.store.entries? b.queue = some entries ∧
      leased = c.store.leased (max b.config.batchSize 1) b.config.visibilityTimeout entries ∧
      (c.poll b).queued b = leased.2 ∧
      c.poll b = { c with
        store := (c.store.receive b.queue (max b.config.batchSize 1)
          b.config.visibilityTimeout).2
        tasks := leased.1.map .read } := by
  cases hentries : c.store.entries? b.queue with
  | none =>
    refine .inl ⟨?_, rfl⟩
    rw [poll, receive]
    simp only [Queue.Service.ofStore, Store.receive_of_none hentries]
  | some entries =>
    have hpoll : c.poll b = { c with
        store := (c.store.receive b.queue (max b.config.batchSize 1)
          b.config.visibilityTimeout).2
        tasks := (c.store.leased (max b.config.batchSize 1) b.config.visibilityTimeout
          entries).1.map .read } := by
      rw [poll, receive]
      simp only [Queue.Service.ofStore, Store.receive_of_some hentries]
    refine .inr ⟨entries, _, rfl, rfl, ?_, hpoll⟩
    rw [hpoll, queued, Store.entries?_receive hentries, if_pos rfl, Option.getD_some]

theorem Sound.poll (h : Sound b c) (hidle : c.tasks = []) : Sound b (c.poll b) := by
  rcases poll_cases c b with ⟨hpoll, -⟩ | ⟨entries, leased, hentries, hleased, hqueued, hpoll⟩
  · rw [hpoll]
    exact h
  have hbefore : c.queued b = entries := by rw [queued, hentries, Option.getD_some]
  have hcontents : leased.2.map Entry.content = (c.queued b).map Entry.content := by
    rw [hleased, hbefore]
    exact Queue.contents_leaseFirst _ _ _ _ entries
  have hprecedes := Store.precedes_receive c.store b.queue (max b.config.batchSize 1)
    b.config.visibilityTimeout
  rw [hpoll] at hqueued ⊢
  refine ⟨h.reads, h.increasing, ?_, ?_, ⟨?_, ?_, ?_, ?_⟩, h.handed_sent, h.once, ?_⟩
  · exact fun p hp => Nat.lt_of_lt_of_le (h.number_lt p hp) hprecedes.nextEntry
  · rw [hqueued, hcontents]
    exact h.stored
  · rw [hqueued]
    intro t ht
    obtain ⟨l, hl, rfl⟩ := List.mem_map.1 ht
    rw [hleased] at hl ⊢
    exact Queue.holds_of_mem_leases hl
  · have hsublist : (leased.1.map Lease.content).Sublist ((c.queued b).map Entry.content) := by
      rw [hleased, hbefore]
      exact Queue.contents_leases_sublist _ _ entries
    have hids := hsublist.map Prod.fst
    rw [List.map_map, List.map_map] at hids
    rw [List.map_map]
    exact (h.numbers.sublist hids).imp Nat.ne_of_lt
  · intro t ht
    obtain ⟨l, -, rfl⟩ := List.mem_map.1 ht
    trivial
  · intro t ht
    obtain ⟨l, -, rfl⟩ := List.mem_map.1 (List.mem_of_mem_tail ht)
    exact ⟨l, rfl⟩
  · rw [hqueued]
    intro x hx e he hid
    -- no poll was under way, so nothing was about to be deleted
    obtain ⟨e₀, he₀, hcontent⟩ := List.mem_map.1 (hcontents ▸ List.mem_map_of_mem he)
    have hsame : e₀.id = e.id := congrArg Prod.fst hcontent
    obtain ⟨l, hl, -⟩ := h.leaving x hx e₀ he₀ (hsame.trans hid)
    rw [hidle] at hl
    cases hl

/-- What may become of a queue while its poll goes on. -/
inductive Going (b : Backplane) (c : Channel) : Channel → Prop
  | idle (htasks : c.tasks = []) : Going b c c
  | read {l : Lease} {rest : List Task} {e : Envelope} (htasks : c.tasks = .read l :: rest)
    (he : Envelope.ofText? l.body = some e) :
    Going b c { c with tasks := .handOver l e :: rest }
  | handed {l : Lease} {rest : List Task} {e : Envelope}
    (htasks : c.tasks = .handOver l e :: rest) :
    Going b c { c with tasks := .delete l :: rest, handed := c.handed ++ [(l, e)] }
  | refused {l : Lease} {rest : List Task} {e : Envelope}
    (htasks : c.tasks = .handOver l e :: rest) :
    Going b c { c with tasks := rest, refused := c.refused ++ [(l, e)] }
  | deleted {l : Lease} {rest : List Task} (htasks : c.tasks = .delete l :: rest) :
    Going b c { c with tasks := rest, store := (c.store.delete b.queue l.id l.receipt).2 }

theorem Sound.going (h : Sound b c) (outcome : Except Fault Unit) :
    Going b c (c.go b outcome) := by
  obtain ⟨store, tasks, sent, handed, refused⟩ := c
  rcases tasks with _ | ⟨task, rest⟩
  · cases outcome <;> simp [Channel.go, offered] <;> exact .idle rfl
  cases task with
  | read l =>
    obtain ⟨e, he, htarget⟩ := h.reads l.content (h.entry_mem List.mem_cons_self)
    have he : Envelope.ofText? l.body = some e := he
    have hclassify : b.classify l = [.handOver l e] := by
      rw [classify, he]
      exact if_pos htarget
    cases outcome <;> simp [Channel.go, offered, hclassify] <;> exact .read rfl he
  | handOver l e =>
    cases outcome with
    | ok => exact .handed rfl
    | error => exact .refused rfl
  | delete l => cases outcome <;> simp [Channel.go, offered] <;> exact .deleted rfl
  | prepare => exact (h.underWay.due _ List.mem_cons_self).elim
  | move => exact (h.underWay.due _ List.mem_cons_self).elim

/-- The deletion of the entry of a lease that the poll holds takes just that entry off the queue. -/
theorem Sound.deleted (h : Sound b c) {l : Lease} {rest : List Task}
    (htasks : c.tasks = .delete l :: rest) : ∃ before e after,
      c.queued b = before ++ e :: after ∧ l.Holds e ∧
        ((c.store.delete b.queue l.id l.receipt).2.entries? b.queue).getD [] = before ++ after := by
  obtain ⟨e, he, hholds⟩ := h.underWay.held (.delete l) (htasks ▸ List.mem_cons_self)
  have hfor : Store.isFor l.id l.receipt e = true :=
    Store.isFor_iff.2 ⟨congrArg Prod.fst hholds.content, hholds.receipt⟩
  cases hentries : c.store.entries? b.queue with
  | none =>
    rw [queued, hentries] at he
    cases he
  | some entries =>
    have hqueued : c.queued b = entries := by rw [queued, hentries, Option.getD_some]
    obtain ⟨e', before, after, -, hfor', hsplit, herase⟩ :=
      List.exists_of_eraseP (hqueued ▸ he) hfor
    have hsame : e' = e := by
      refine List.inj_on_of_nodup_map (h.numbers.imp Nat.ne_of_lt) ?_ he ?_
      · rw [hqueued, hsplit]
        exact List.mem_append_right _ List.mem_cons_self
      · rw [(Store.isFor_iff.1 hfor').1, (Store.isFor_iff.1 hfor).1]
    subst hsame
    refine ⟨before, e', after, hqueued.trans hsplit, hholds, ?_⟩
    rw [Store.entries?_delete hentries, if_pos rfl, Option.getD_some, herase]

/-- An entry that is handed over was not handed over before: had it been, the poll would be about
to delete it. -/
theorem Sound.handOver (h : Sound b c) {l : Lease} {rest : List Task} {e : Envelope}
    (htasks : c.tasks = .handOver l e :: rest) :
    Sound b { c with tasks := .delete l :: rest, handed := c.handed ++ [(l, e)] } := by
  have u := h.underWay
  have hleaving := h.leaving
  rw [htasks] at u hleaving
  have hnot : ∀ l', .delete l' ∉ .handOver l e :: rest := fun l' hl' => by
    rcases List.mem_cons.1 hl' with hl' | hl'
    · cases hl'
    · obtain ⟨_, hread⟩ := u.begun _ hl'
      cases hread
  obtain ⟨e₀, he₀, hholds⟩ := u.held _ List.mem_cons_self
  have hid₀ : e₀.id = l.id := congrArg Prod.fst hholds.content
  refine { h with underWay := u.next rfl trivial, handed_sent := ?_, once := ?_, leaving := ?_ }
  · refine List.forall_mem_append.2 ⟨h.handed_sent, List.forall_mem_singleton.2 ⟨?_, ?_⟩⟩
    · exact h.entry_mem (t := .handOver l e) (htasks ▸ List.mem_cons_self)
    · exact u.due _ List.mem_cons_self
  · rw [List.map_append, List.map_singleton, List.nodup_append]
    refine ⟨h.once, List.nodup_singleton _, ?_⟩
    intro n hn m hm hnm
    obtain ⟨x, hx, rfl⟩ := List.mem_map.1 hn
    rw [List.mem_singleton.1 hm] at hnm
    obtain ⟨l', hl', -⟩ := hleaving x hx e₀ he₀ (hid₀.trans hnm.symm)
    exact hnot l' hl'
  · intro x hx e' he' hid
    rcases List.mem_append.1 hx with hx | hx
    · obtain ⟨l', hl', -⟩ := hleaving x hx e' he' hid
      exact absurd hl' (hnot l')
    · rw [List.mem_singleton.1 hx]
      exact ⟨l, List.mem_cons_self, rfl⟩

/-- The entries that stay on the queue when one is deleted are those with another number. -/
theorem Sound.others (h : Sound b c) {before after : List Entry} {e : Entry}
    (hqueued : c.queued b = before ++ e :: after) :
    (before ++ after).Sublist (c.queued b) ∧ ∀ e' ∈ before ++ after, e'.id ≠ e.id := by
  have hdistinct : ((c.queued b).map Entry.id).Nodup := h.numbers.imp Nat.ne_of_lt
  rw [hqueued, List.map_append, List.map_cons, List.nodup_middle, List.nodup_cons,
    ← List.map_append] at hdistinct
  refine ⟨?_, fun e' he' hsame => hdistinct.1 (hsame ▸ List.mem_map_of_mem he')⟩
  rw [hqueued]
  exact (List.Sublist.refl before).append (List.sublist_cons_self e after)

theorem Sound.delete (h : Sound b c) {l : Lease} {rest : List Task}
    (htasks : c.tasks = .delete l :: rest) :
    Sound b { c with tasks := rest, store := (c.store.delete b.queue l.id l.receipt).2 } := by
  obtain ⟨before, e, after, hqueued, hholds, hafter⟩ := h.deleted htasks
  obtain ⟨hsublist, hother⟩ := h.others hqueued
  have hid : e.id = l.id := congrArg Prod.fst hholds.content
  have u := h.underWay
  have hleaving := h.leaving
  rw [htasks] at u hleaving
  have hprecedes := Store.precedes_delete c.store b.queue l.id l.receipt
  have hleft : Channel.queued b { c with
      tasks := rest, store := (c.store.delete b.queue l.id l.receipt).2 } = before ++ after :=
    hafter
  refine { h with number_lt := ?_, stored := ?_, underWay := ?_, leaving := ?_ }
  · exact fun p hp => Nat.lt_of_lt_of_le (h.number_lt p hp) hprecedes.nextEntry
  · rw [hleft]
    exact (hsublist.map _).trans h.stored
  · rw [hleft]
    refine { u.tail with held := fun t ht => ?_ }
    obtain ⟨e', he', hholds'⟩ := u.tail.held t ht
    have hne : e' ≠ e := by
      rintro rfl
      have hids := (List.nodup_cons.1 u.distinct).1
      have hsame : t.entry.id = l.id := (congrArg Prod.fst hholds'.content).symm.trans hid
      exact hids (List.mem_map.2 ⟨t, ht, hsame⟩)
    rw [hqueued, List.mem_append, List.mem_cons] at he'
    refine ⟨e', List.mem_append.2 ?_, hholds'⟩
    exact he'.imp_right fun he' => he'.resolve_left hne
  · rw [hleft]
    intro x hx e' he' hsame
    obtain ⟨l', hl', hid'⟩ := hleaving x hx e' (hsublist.subset he') hsame
    rcases List.mem_cons.1 hl' with hl' | hl'
    · cases hl'
      exact absurd (hsame.trans (hid'.symm.trans hid.symm)) (hother e' he')
    · obtain ⟨_, hread⟩ := u.begun _ hl'
      cases hread

theorem Sound.go (h : Sound b c) (outcome : Except Fault Unit) : Sound b (c.go b outcome) := by
  have hgoing := h.going outcome
  generalize c.go b outcome = c' at hgoing
  have u := h.underWay
  have hleaving := h.leaving
  cases hgoing with
  | idle => exact h
  | @read l rest e htasks he =>
    rw [htasks] at u hleaving
    refine { h with underWay := u.next rfl he, leaving := fun x hx e' he' hid => ?_ }
    obtain ⟨l', hl', hid'⟩ := hleaving x hx e' he' hid
    exact ⟨l', by simpa using hl', hid'⟩
  | handed htasks => exact h.handOver htasks
  | @refused l rest e htasks =>
    rw [htasks] at u hleaving
    refine { h with underWay := u.tail, leaving := fun x hx e' he' hid => ?_ }
    obtain ⟨l', hl', hid'⟩ := hleaving x hx e' he' hid
    exact ⟨l', by simpa using hl', hid'⟩
  | deleted htasks => exact h.delete htasks

theorem Run.sound (hrun : Run b c) : Sound b c := by
  induction hrun with
  | start => exact .start
  | create queue _ ih => exact ih.spares (spares_create _ queue)
  | elapse ms _ ih => exact ih.spares (spares_advance _ ms)
  | send queue text hreads _ ih => exact ih.send queue text hreads
  | receiveOther max timeout hother _ ih => exact ih.spares (spares_receive _ hother max timeout)
  | deleteOther id receipt hother _ ih => exact ih.spares (spares_delete _ hother id receipt)
  | dropOther hother _ ih => exact ih.spares (spares_drop _ hother)
  | poll hidle _ ih => exact ih.poll hidle
  | go outcome _ ih => exact ih.go outcome

/-! ## Without refusals -/

/-- The entries that are still to be handed over: all but one that is about to be deleted. -/
def waiting (entries : List Entry) : List Task → List Entry
  | .delete _ :: _ => entries.tail
  | _ => entries

/-- The poll under way has the first entries of the queue, and no other entry is hidden. What was
sent is what was handed over and then what waits. -/
structure InOrder (b : Backplane) (c : Channel) : Prop where
  first : ∃ held free, c.queued b = held ++ free ∧
    held.map Entry.content = c.tasks.map (fun t => t.entry.content) ∧
    ∀ e ∈ free, e.visibleAt ≤ c.store.now
  sent : c.sent = c.handed.map (fun h => h.1.content) ++
    (waiting (c.queued b) c.tasks).map Entry.content

namespace InOrder

theorem start : InOrder b {} := by
  refine ⟨⟨[], [], ?_⟩, ?_⟩ <;> simp [queued, Store.entries?, waiting]

theorem spares (h : InOrder b c) (hspares : Spares b c.store store) :
    InOrder b { c with store := store } := by
  have hqueued : Channel.queued b { c with store := store } = c.queued b := hspares.queued
  obtain ⟨held, free, hsplit, hheld, hfree⟩ := h.first
  refine ⟨⟨held, free, hqueued.trans hsplit, hheld, fun e he => ?_⟩, ?_⟩
  · exact Nat.le_trans (hfree e he) hspares.precedes.now
  · rw [hqueued]
    exact h.sent

theorem send (h : InOrder b c) (queue text : String) : InOrder b (c.send b queue text) := by
  rcases send_cases c b queue text with ⟨-, hqueued, hsend, -⟩ | ⟨hspares, hsend⟩
  · have hprecedes := Store.precedes_send c.store queue text
    rw [hsend] at hqueued ⊢
    obtain ⟨held, free, hsplit, hheld, hfree⟩ := h.first
    refine ⟨⟨held, free ++ [c.store.newEntry text], ?_, hheld, ?_⟩, ?_⟩
    · rw [hqueued, hsplit, List.append_assoc]
    · refine List.forall_mem_append.2 ⟨fun e he => ?_, List.forall_mem_singleton.2 hprecedes.now⟩
      exact Nat.le_trans (hfree e he) hprecedes.now
    · have hwaiting : waiting (c.queued b ++ [c.store.newEntry text]) c.tasks =
          waiting (c.queued b) c.tasks ++ [c.store.newEntry text] := by
        cases htasks : c.tasks with
        | nil => rfl
        | cons t rest =>
          cases t with
          | delete l =>
            cases hqueue : c.queued b with
            | nil =>
              rw [hqueue] at hsplit
              rw [(List.append_eq_nil_iff.1 hsplit.symm).1, htasks] at hheld
              cases hheld
            | cons e entries => rfl
          | _ => rfl
      rw [hqueued, hwaiting, h.sent, List.map_append, List.append_assoc]
      rfl
  · rw [hsend]
    exact h.spares hspares

/-- Between polls nothing is hidden. -/
theorem free_of_idle (h : InOrder b c) (hidle : c.tasks = []) :
    ∀ e ∈ c.queued b, e.visibleAt ≤ c.store.now := by
  obtain ⟨held, free, hsplit, hheld, hfree⟩ := h.first
  rw [hidle, List.map_nil, List.map_eq_nil_iff] at hheld
  rw [hsplit, hheld, List.nil_append]
  exact hfree

theorem poll (h : InOrder b c) (hidle : c.tasks = []) : InOrder b (c.poll b) := by
  rcases poll_cases c b with ⟨hpoll, -⟩ | ⟨entries, leased, hentries, hleased, hqueued, hpoll⟩
  · rw [hpoll]
    exact h
  have hbefore : c.queued b = entries := by rw [queued, hentries, Option.getD_some]
  have hprecedes := Store.precedes_receive c.store b.queue (max b.config.batchSize 1)
    b.config.visibilityTimeout
  have hfree := h.free_of_idle hidle
  rw [hbefore] at hfree
  have hcontents : leased.2.map Entry.content = entries.map Entry.content := by
    rw [hleased]
    exact Queue.contents_leaseFirst _ _ _ _ entries
  obtain ⟨hleases, hrest⟩ := Store.leased_of_visible hfree (max b.config.batchSize 1)
    b.config.visibilityTimeout
  rw [← hleased] at hleases hrest
  rw [hpoll] at hqueued ⊢
  refine ⟨⟨leased.2.take (max b.config.batchSize 1), leased.2.drop (max b.config.batchSize 1),
    ?_, ?_, fun e he => ?_⟩, ?_⟩
  · rw [hqueued, List.take_append_drop]
  · rw [List.map_map]
    refine Eq.trans ?_ hleases.symm
    rw [List.map_take, List.map_take, hcontents]
  · rw [hrest] at he
    exact Nat.le_trans (hfree e (List.mem_of_mem_drop he)) hprecedes.now
  · have hwaiting : waiting leased.2 (leased.1.map .read) = leased.2 := by
      cases leased.1 <;> rfl
    have hsent := h.sent
    rw [hidle, hbefore] at hsent
    rw [hqueued, hwaiting, hcontents]
    exact hsent

/-- A poll deletes the first entry of the queue: it began with that one. -/
theorem delete (h : InOrder b c) (hsound : Sound b c) {l : Lease} {rest : List Task}
    (htasks : c.tasks = .delete l :: rest) :
    InOrder b { c with tasks := rest, store := (c.store.delete b.queue l.id l.receipt).2 } := by
  obtain ⟨held, free, hsplit, hheld, hfree⟩ := h.first
  obtain ⟨before, e, after, hqueued, hholds, hafter⟩ := hsound.deleted htasks
  have hsent := h.sent
  have hbegun := hsound.underWay.begun
  have hnumbers := hsound.numbers
  rw [htasks] at hheld hsent hbegun
  obtain ⟨e₀, held', rfl, hfirst, hheld'⟩ := List.map_eq_cons_iff.1 hheld
  have hid : e₀.id = e.id := congrArg Prod.fst (hfirst.trans hholds.content.symm)
  have hbefore : before = [] := by
    cases before with
    | nil => rfl
    | cons x before =>
      have hx : e₀ = x := (List.cons_eq_cons.1 (hsplit.symm.trans hqueued)).1
      rw [hqueued, List.cons_append, List.map_cons, List.pairwise_cons] at hnumbers
      have hlt := hnumbers.1 e.id (List.mem_map_of_mem
        (List.mem_append_right _ List.mem_cons_self))
      rw [← hx, hid] at hlt
      exact absurd hlt (Nat.lt_irrefl _)
  subst hbefore
  rw [List.nil_append] at hqueued hafter
  have hrest : held' ++ free = after := (List.cons_eq_cons.1 (hsplit.symm.trans hqueued)).2
  have hleft : Channel.queued b { c with
      tasks := rest, store := (c.store.delete b.queue l.id l.receipt).2 } = after := hafter
  have hwaiting : waiting after rest = after := by
    cases rest with
    | nil => rfl
    | cons t rest =>
      obtain ⟨l', rfl⟩ := hbegun t List.mem_cons_self
      rfl
  have hprecedes := Store.precedes_delete c.store b.queue l.id l.receipt
  refine ⟨⟨held', free, hleft.trans hrest.symm, hheld', fun x hx => ?_⟩, ?_⟩
  · exact Nat.le_trans (hfree x hx) hprecedes.now
  · rw [hleft, hwaiting]
    rw [hqueued] at hsent
    exact hsent

theorem go (h : InOrder b c) (hsound : Sound b c) (outcome : Except Fault Unit)
    (hrefused : (c.go b outcome).refused = []) : InOrder b (c.go b outcome) := by
  have hgoing := hsound.going outcome
  generalize c.go b outcome = c' at hgoing hrefused
  obtain ⟨held, free, hsplit, hheld, hfree⟩ := h.first
  have hsent := h.sent
  cases hgoing with
  | idle => exact h
  | @read l rest e htasks he =>
    rw [htasks] at hheld hsent
    exact ⟨⟨held, free, hsplit, hheld, hfree⟩, hsent⟩
  | @handed l rest e htasks =>
    rw [htasks] at hheld hsent
    refine ⟨⟨held, free, hsplit, hheld, hfree⟩, ?_⟩
    obtain ⟨e₀, held', rfl, hfirst, -⟩ := List.map_eq_cons_iff.1 hheld
    have hwhole : (c.queued b).map Entry.content =
        l.content :: (waiting (c.queued b) (.delete l :: rest)).map Entry.content := by
      rw [hsplit, List.cons_append, List.map_cons, hfirst]
      rfl
    rw [hsent, List.map_append, List.append_assoc]
    exact congrArg (_ ++ ·) hwhole
  | @refused l rest e htasks => exact absurd hrefused (by simp)
  | deleted htasks => exact h.delete hsound htasks

end InOrder

theorem Run.inOrder (hrun : Run b c) : c.refused = [] → InOrder b c := by
  induction hrun with
  | start => exact fun _ => .start
  | create queue _ ih => exact fun h => (ih h).spares (spares_create _ queue)
  | elapse ms _ ih => exact fun h => (ih h).spares (spares_advance _ ms)
  | @send c queue text hreads _ ih =>
    intro h
    refine (ih ?_).send queue text
    rcases send_cases c b queue text with ⟨-, -, hsend, -⟩ | ⟨-, hsend⟩ <;>
      rw [hsend] at h <;> exact h
  | receiveOther max timeout hother _ ih =>
    exact fun h => (ih h).spares (spares_receive _ hother max timeout)
  | deleteOther id receipt hother _ ih =>
    exact fun h => (ih h).spares (spares_delete _ hother id receipt)
  | dropOther hother _ ih => exact fun h => (ih h).spares (spares_drop _ hother)
  | @poll c hidle _ ih =>
    intro h
    refine (ih ?_).poll hidle
    rcases poll_cases c b with ⟨hpoll, -⟩ | ⟨_, _, -, -, -, hpoll⟩ <;> rw [hpoll] at h <;> exact h
  | @go c outcome hrun ih =>
    intro h
    refine (ih ?_).go hrun.sound outcome h
    have hgoing := hrun.sound.going outcome
    generalize c.go b outcome = c' at hgoing h
    cases hgoing with
    | refused => exact absurd h (by simp)
    | _ => exact h

/-- A poll that nobody interrupts is among what comes about, whatever its deliveries do. -/
theorem Run.wholePoll {δ : Type} (delivery : Delivery δ) (d : δ) (hrun : Run b c)
    (hidle : c.tasks = []) : ∃ c', Run b c' ∧ c'.tasks = [] ∧
      c'.store = (b.poll .ofStore delivery c.store d).2.1 := by
  have hpoll := hrun.poll hidle
  unfold Channel.poll at hpoll
  refine b.poll_keep .ofStore c.store delivery
    (P := fun tasks store _ => ∃ c', Run b c' ∧ c'.tasks = tasks ∧ c'.store = store)
    ?_ d (fun entries store hreceive => ?_) fun e store hreceive => ?_
  · rintro _ _ d ⟨c', hrun', rfl, rfl⟩
    obtain ⟨outcome, hgo, -⟩ := step_eq_go .ofStore b c'.store delivery c'.tasks d
    obtain ⟨htasks, hstore⟩ := Prod.mk.inj hgo
    refine ⟨c'.go b outcome, hrun'.go outcome, ?_, ?_⟩
    · rw [← htasks]
      cases outcome <;> rfl
    · rw [← hstore]
      cases outcome <;> rfl
  · rw [hreceive] at hpoll
    exact ⟨_, hpoll, rfl, rfl⟩
  · rw [hreceive] at hpoll
    exact ⟨_, hpoll, hidle, rfl⟩

/-! ## First in, first out -/

/-- The numbers and the envelopes that were sent, as they can be read. -/
def sentEnvelopes (c : Channel) : List (Nat × Option Envelope) :=
  c.sent.map fun p => (p.1, Envelope.ofText? p.2)

def handedEnvelopes (c : Channel) : List (Nat × Option Envelope) :=
  c.handed.map fun h => (h.1.id, some h.2)

/-- No entry is handed over twice. If nothing was refused, what was handed over is the first of what
was sent, in order, and a poll that gets nothing finds the queue empty and all that was sent handed
over. -/
theorem handed_in_order_once (hrun : Run b c) : (c.handed.map fun h => h.1.id).Nodup ∧
    (c.refused = [] → c.handedEnvelopes <+: c.sentEnvelopes ∧
      (c.tasks = [] → (b.receive .ofStore c.store).1 = .ok [] →
        c.store.entries? b.queue = some [] ∧ c.handedEnvelopes = c.sentEnvelopes)) := by
  refine ⟨hrun.sound.once, fun hrefused => ?_⟩
  have horder := hrun.inOrder hrefused
  have hsent := horder.sent
  have hhanded : (c.handed.map fun h => h.1.content).map
      (fun p => (p.1, Envelope.ofText? p.2)) = c.handedEnvelopes := by
    rw [List.map_map]
    refine List.map_congr_left fun x hx => ?_
    exact congrArg (x.1.id, ·) (hrun.sound.handed_sent x hx).2
  refine ⟨?_, fun hidle hnothing => ?_⟩
  · rw [sentEnvelopes, hsent, List.map_append, hhanded]
    exact List.prefix_append _ _
  cases hentries : c.store.entries? b.queue with
  | none =>
    simp only [receive, Queue.Service.ofStore, Store.receive_of_none hentries] at hnothing
    cases hnothing
  | some entries =>
    have hqueued : c.queued b = entries := by rw [queued, hentries, Option.getD_some]
    have hfree := horder.free_of_idle hidle
    rw [hqueued] at hfree
    obtain ⟨hleases, -⟩ := Store.leased_of_visible hfree (max b.config.batchSize 1)
      b.config.visibilityTimeout
    simp only [receive, Queue.Service.ofStore, Store.receive_of_some hentries] at hnothing
    have hnone : (c.store.leased (max b.config.batchSize 1) b.config.visibilityTimeout
        entries).1 = [] := by simpa using hnothing
    have hempty : entries = [] := by
      rw [hnone, List.map_nil, eq_comm, List.map_eq_nil_iff, List.take_eq_nil_iff] at hleases
      exact hleases.resolve_left (by omega)
    refine ⟨by rw [hempty], ?_⟩
    rw [hqueued, hempty, hidle] at hsent
    rw [sentEnvelopes, hsent, List.map_append, hhanded]
    exact (List.append_nil _).symm

/-- An instance whose leases run out at once. -/
def hasty : Backplane := ⟨"b", { batchSize := 2, visibilityTimeout := 0 }⟩

def pingText (client : String) : String :=
  Envelope.text ⟨"b", client, .notification { method := "ping" }⟩

theorem reads_pingText : hasty.Reads (pingText "c") ∧ hasty.Reads (pingText "d") := by
  have hreads : ∀ text, (Envelope.ofText? text).map Envelope.target = some "b" →
      hasty.Reads text := fun text h => by
    obtain ⟨e, he, htarget⟩ := Option.map_eq_some_iff.1 h
    exact ⟨e, he, htarget⟩
  exact ⟨hreads _ (by decide +kernel), hreads _ (by decide +kernel)⟩

/-- A second message comes while the first one is handed over. -/
def first : Channel :=
  ((({ store := Store.create {} hasty.queue } : Channel).send hasty hasty.queue
    (pingText "c")).poll hasty).go hasty (.ok ())

def second : Channel :=
  ((((first.send hasty hasty.queue (pingText "d")).go hasty (.ok ())).go hasty (.ok ())).poll
    hasty)

def both : Channel :=
  ((second.go hasty (.ok ())).go hasty (.ok ())).go hasty (.ok ())

theorem handed_in_order_once_pings : both.handed.map (fun h => (h.1.id, h.2.clientId)) =
      [(0, "c"), (1, "d")] ∧ both.refused = [] ∧ both.handedEnvelopes = both.sentEnvelopes := by
  have hfirst : Run hasty first :=
    .go _ (.poll (List.isEmpty_iff.1 (by decide +kernel))
      (.send _ _ (fun _ => reads_pingText.1) (.create _ .start)))
  have hsecond : Run hasty second :=
    .poll (List.isEmpty_iff.1 (by decide +kernel))
      (.go _ (.go _ (.send _ _ (fun _ => reads_pingText.2) hfirst)))
  have hboth : Run hasty both := .go _ (.go _ (.go _ hsecond))
  have hrun : both.handed.map (fun h => (h.1.id, h.2.clientId)) = [(0, "c"), (1, "d")] ∧
      both.refused.isEmpty ∧ both.tasks.isEmpty ∧
      (hasty.receive .ofStore both.store).1.toOption = some [] := by decide +kernel
  have hrefused := List.isEmpty_iff.1 hrun.2.1
  have hall := (handed_in_order_once hboth).2 hrefused
  refine ⟨hrun.1, hrefused, (hall.2 (List.isEmpty_iff.1 hrun.2.2.1) ?_).2⟩
  have hnothing := hrun.2.2.2
  cases hreceive : (hasty.receive .ofStore both.store).1 with
  | ok entries => simpa [hreceive, Except.toOption] using hnothing
  | error e => simp [hreceive, Except.toOption] at hnothing

end Channel

end SessionRelay.Backplane
