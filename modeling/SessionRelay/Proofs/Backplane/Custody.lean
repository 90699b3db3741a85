import SessionRelay.Proofs.Backplane.Addressing
import SessionRelay.Proofs.Backplane.Progress
import SessionRelay.Proofs.Queue.Rehearsal

/-!
# A relayed message is kept until it is delivered

Backplanes poll side by side, several of them the same queue if it comes to that, leases run out,
and every call may fail. An entry leaves its queue only by a deletion that a poll has come to after
it handed the message over or put its text on another queue. So from the time a text was sent, some
entry with this text is not about to be deleted, or the message was handed over
(`stored_or_handed`).
-/

namespace SessionRelay.Backplane

open Queue (Entry Lease Rehearsal Store)

/-- Backplanes at work on queues whose calls may fail. -/
structure Traffic where
  queues : Rehearsal := {}
  /-- The polls that were begun, with what is left to do of them. -/
  polls : List (Backplane × List Task) := []
  /-- What was handed over, with the instances that took it. -/
  handed : List (String × Envelope) := []

/-- What a task stands for at a backplane. -/
def Fits (b : Backplane) : Task → Prop
  | .read _ | .delete _ => True
  | .handOver entry e => Envelope.ofText? entry.body = some e ∧ e.target = b.instanceId
  | .prepare entry queue | .move entry queue =>
    ∃ e, Envelope.ofText? entry.body = some e ∧ e.target ≠ b.instanceId ∧
      queue = QueueName.ofInstance e.target ∧ queue ≠ b.queue

namespace Traffic

section

variable (w : Traffic)

def store : Store := w.queues.store

/-- Some of the next calls of a kind are made to fail. -/
def plan (kind : Queue.CallKind) (count : Nat) : Traffic :=
  { w with queues := w.queues.setFailures kind count }

def elapse (ms : Nat) : Traffic := { w with queues := Rehearsal.service.elapse ms w.queues }

def create (queue : String) : Traffic :=
  { w with queues := (Rehearsal.service.create queue w.queues).2 }

/-- Somebody puts a text on a queue. -/
def post (queue text : String) : Traffic :=
  { w with queues := (Rehearsal.service.send queue text w.queues).2 }

/-- A backplane begins a poll, whether or not it has others under way. -/
def begin (b : Backplane) : Traffic :=
  match b.receive Rehearsal.service w.queues with
  | (.ok entries, queues) => { w with queues, polls := w.polls ++ [(b, entries.map .read)] }
  | (.error _, queues) => { w with queues }

/-- What is left after a step of a poll. -/
def leave (place : Nat) (b : Backplane) (tasks : List Task) (queues : Rehearsal) : Traffic :=
  { w with queues, polls := w.polls.set place (b, tasks) }

/-- A poll goes on. -/
def go (place : Nat) (outcome : Except Fault Unit) : Traffic :=
  match w.polls[place]? with
  | none => w
  | some (b, tasks) =>
    let (left, queues) := b.go Rehearsal.service outcome w.queues tasks
    match outcome with
    | .ok _ =>
      { w.leave place b left queues with
        handed := w.handed ++ (offered tasks).map fun o => (b.instanceId, o.2) }
    | .error _ => w.leave place b left queues

end

/-- What comes about, with calls made to fail at any time. -/
inductive Run (start : Traffic) : Traffic → Prop
  | refl : Run start start
  | plan {w : Traffic} (kind : Queue.CallKind) (count : Nat) (hrun : Run start w) :
    Run start (w.plan kind count)
  | elapse {w : Traffic} (ms : Nat) (hrun : Run start w) : Run start (w.elapse ms)
  | create {w : Traffic} (queue : String) (hrun : Run start w) : Run start (w.create queue)
  | post {w : Traffic} (queue text : String) (hrun : Run start w) : Run start (w.post queue text)
  | begin {w : Traffic} (b : Backplane) (hrun : Run start w) : Run start (w.begin b)
  | go {w : Traffic} (place : Nat) (outcome : Except Fault Unit) (hrun : Run start w) :
    Run start (w.go place outcome)

/-! ## Steps of a poll -/

/-- What a step of a poll may come to, by its task. -/
inductive Went (w : Traffic) (place : Nat) (b : Backplane) (rest : List Task) :
    Task → Traffic → Prop
  | read (l : Lease) :
    Went w place b rest (.read l) (w.leave place b (b.classify l ++ rest) w.queues)
  | handed (l : Lease) (e : Envelope) :
    Went w place b rest (.handOver l e)
      { w.leave place b (.delete l :: rest) w.queues with
        handed := w.handed ++ [(b.instanceId, e)] }
  /-- Nothing was put on a queue or taken off one. -/
  | kept {t : Task} (new : List Task) (queues : Rehearsal)
    (hnew : new = [] ∨ ∃ l queue, t = .prepare l queue ∧ new = [.move l queue])
    (hstore : queues.store = w.store ∨ ∃ queue, queues.store = w.store.create queue) :
    Went w place b rest t (w.leave place b (new ++ rest) queues)
  | moved (l : Lease) (queue : String) (entries : List Entry) (queues : Rehearsal)
    (hentries : w.store.entries? queue = some entries)
    (hstore : queues.store = (w.store.send queue l.body).2) :
    Went w place b rest (.move l queue) (w.leave place b (.delete l :: rest) queues)
  | deleted (l : Lease) (queues : Rehearsal)
    (hstore : queues.store = (w.store.delete b.queue l.id l.receipt).2) :
    Went w place b rest (.delete l) (w.leave place b rest queues)

variable {w : Traffic} {place : Nat} {b : Backplane} {t : Task} {rest : List Task}

/-- A step that delivers nothing. -/
theorem go_of_offered {tasks : List Task} (hplace : w.polls[place]? = some (b, tasks))
    (hoffered : offered tasks = []) (outcome : Except Fault Unit) : w.go place outcome =
      w.leave place b (b.go Rehearsal.service outcome w.queues tasks).1
        (b.go Rehearsal.service outcome w.queues tasks).2 := by
  unfold go
  rw [hplace]
  cases outcome <;> simp [hoffered, leave]

/-- A poll that has nothing left to do does nothing. -/
theorem go_of_idle (hidle : ∀ b t rest, w.polls[place]? ≠ some (b, t :: rest))
    (outcome : Except Fault Unit) : w.go place outcome = w := by
  cases hplace : w.polls[place]? with
  | none =>
    unfold go
    rw [hplace]
  | some p =>
    obtain ⟨b, _ | ⟨t, rest⟩⟩ := p
    · rw [go_of_offered hplace rfl, go_nil, leave]
      obtain ⟨hlt, hget⟩ := List.getElem?_eq_some_iff.1 hplace
      rw [← hget, List.set_getElem_self]
    · exact absurd hplace (hidle b t rest)

theorem went (hplace : w.polls[place]? = some (b, t :: rest)) (outcome : Except Fault Unit) :
    Went w place b rest t (w.go place outcome) := by
  cases t with
  | read l =>
    rw [go_of_offered hplace rfl, go_read]
    exact .read l
  | handOver l e =>
    unfold go
    rw [hplace]
    cases outcome with
    | ok => exact .handed l e
    | error => exact .kept [] w.queues (.inl rfl) (.inl rfl)
  | prepare l queue =>
    have hstore := Queue.Rehearsal.store_create queue w.queues
    rw [go_of_offered hplace rfl, go_prepare]
    rcases hcreate : Rehearsal.service.create queue w.queues with ⟨_ | _, queues⟩ <;>
      rw [hcreate] at hstore
    · exact .kept [] queues (.inl rfl) (hstore.imp_right fun h => ⟨queue, h⟩)
    · exact .kept [.move l queue] queues (.inr ⟨l, queue, rfl, rfl⟩)
        (hstore.imp_right fun h => ⟨queue, h⟩)
  | move l queue =>
    have hstore := Queue.Rehearsal.store_send queue l.body w.queues
    rw [go_of_offered hplace rfl, go_move]
    rcases hsend : Rehearsal.service.send queue l.body w.queues with ⟨_ | _, queues⟩ <;>
      rw [hsend] at hstore
    · rcases hstore with ⟨_, -, hstore⟩ | ⟨hok, -⟩
      · exact .kept [] queues (.inl rfl) (.inl hstore)
      · cases hok
    · rcases hstore with ⟨_, herror, -⟩ | ⟨-, ⟨entries, hentries⟩, hstore⟩
      · cases herror
      · exact .moved l queue entries queues hentries hstore
  | delete l =>
    have hstore := Queue.Rehearsal.store_delete b.queue l.id l.receipt w.queues
    rw [go_of_offered hplace rfl, go_delete]
    rcases hstore with hstore | hstore
    · exact .kept [] _ (.inl rfl) (.inl hstore)
    · exact .deleted l _ hstore

/-! ## Entries and leases -/

/-- The texts that were ever put on a queue, by the numbers of their entries. Entries and leases of
one number have the same text, and every lease has had its receipt. -/
structure Kept (texts : List String) (store : Store) (polls : List (Backplane × List Task)) :
    Prop where
  length : texts.length = store.nextEntry
  stored : ∀ queue e, store.Stores queue e → texts[e.id]? = some e.body
  leased : ∀ p ∈ polls, ∀ t ∈ p.2, texts[t.entry.id]? = some t.entry.body
  receipt : ∀ p ∈ polls, ∀ t ∈ p.2, t.entry.receipt < store.nextReceipt
  fits : ∀ p ∈ polls, ∀ t ∈ p.2, p.1.Fits t

namespace Kept

variable {texts : List String} {store store' : Store} {polls : List (Backplane × List Task)}

theorem start : Kept [] {} [] := by
  refine ⟨rfl, ?_, ?_, ?_, ?_⟩ <;> simp [Store.Stores, Store.entries?]

/-- A call that puts nothing on a queue. -/
theorem call (k : Kept texts store polls) (hprecedes : store.Precedes store')
    (hnext : store'.nextEntry = store.nextEntry)
    (hstores : ∀ queue e, store'.Stores queue e →
      ∃ e₀, store.Stores queue e₀ ∧ e.content = e₀.content) : Kept texts store' polls := by
  refine ⟨k.length.trans hnext.symm, fun queue e he => ?_, k.leased, fun p hp t ht => ?_, k.fits⟩
  · obtain ⟨e₀, he₀, hcontent⟩ := hstores queue e he
    have hid : e.id = e₀.id := congrArg Prod.fst hcontent
    have hbody : e.body = e₀.body := congrArg Prod.snd hcontent
    rw [hid, hbody]
    exact k.stored queue e₀ he₀
  · exact Nat.lt_of_lt_of_le (k.receipt p hp t ht) hprecedes.nextReceipt

theorem create (k : Kept texts store polls) (queue : String) :
    Kept texts (store.create queue) polls := by
  refine k.call (Store.precedes_create store queue) ?_ fun name e he => ?_
  · unfold Store.create
    split <;> rfl
  · exact ⟨e, Store.stores_create_iff.1 he, rfl⟩

theorem delete (k : Kept texts store polls) (queue : String) (id receipt : Nat) :
    Kept texts (store.delete queue id receipt).2 polls := by
  refine k.call (Store.precedes_delete store queue id receipt) ?_ fun name e he =>
    ⟨e, he.of_delete, rfl⟩
  unfold Store.delete
  split
  · rfl
  · simp only
    split <;> rfl

theorem drop (k : Kept texts store polls) (queue : String) :
    Kept texts (store.drop queue) polls :=
  k.call (Store.precedes_drop store queue) rfl fun _ e he => ⟨e, he.of_drop, rfl⟩

/-- A text that is put on a queue gets the next number. -/
theorem send (k : Kept texts store polls) {queue : String} {entries : List Entry}
    (hentries : store.entries? queue = some entries) (text : String) :
    Kept (texts ++ [text]) (store.send queue text).2 polls := by
  have hprecedes := Store.precedes_send store queue text
  have hold : ∀ {n : Nat} {body : String}, texts[n]? = some body →
      (texts ++ [text])[n]? = some body := fun {n} {body} h => by
    rw [List.getElem?_append_left (List.getElem?_eq_some_iff.1 h).1]
    exact h
  refine ⟨?_, fun name e he => ?_, fun p hp t ht => hold (k.leased p hp t ht),
    fun p hp t ht => Nat.lt_of_lt_of_le (k.receipt p hp t ht) hprecedes.nextReceipt, k.fits⟩
  · rw [Store.send_of_some hentries, List.length_append, k.length]
    rfl
  · rcases (Store.stores_send_iff hentries).1 he with he | ⟨-, rfl⟩
    · exact hold (k.stored name e he)
    · have hlast : (texts ++ [text])[texts.length]? = some text := List.getElem?_concat_length
      rw [k.length] at hlast
      exact hlast

/-- A poll begins with leases of the entries it takes. -/
theorem receive (k : Kept texts store polls) {queue : String} {max timeout : Nat}
    {leases : List Lease} (hleases : (store.receive queue max timeout).1 = .ok leases)
    (b : Backplane) :
    Kept texts (store.receive queue max timeout).2 (polls ++ [(b, leases.map .read)]) := by
  have hnext : (store.receive queue max timeout).2.nextEntry = store.nextEntry := by
    unfold Store.receive
    split <;> rfl
  have hafter := k.call (Store.precedes_receive store queue max timeout) hnext
    fun _ _ he => ⟨_, he.of_receive.choose_spec.1, he.of_receive.choose_spec.2⟩
  have hnew : ∀ p ∈ [(b, leases.map Task.read)], ∀ t ∈ p.2,
      texts[t.entry.id]? = some t.entry.body ∧
        t.entry.receipt < (store.receive queue max timeout).2.nextReceipt ∧ p.1.Fits t := by
    intro p hp t ht
    rw [List.mem_singleton.1 hp] at ht ⊢
    obtain ⟨l, hl, rfl⟩ := List.mem_map.1 ht
    obtain ⟨⟨e, he, hholds⟩, -, hreceipt⟩ := Store.holds_of_receive hleases hl
    have hid : e.id = l.id := congrArg Prod.fst hholds.content
    have hbody : e.body = l.body := congrArg Prod.snd hholds.content
    have htext := hafter.stored queue e he
    rw [hid, hbody] at htext
    exact ⟨htext, hreceipt, trivial⟩
  exact
    { hafter with
      leased := List.forall_mem_append.2 ⟨hafter.leased, fun p hp t ht => (hnew p hp t ht).1⟩
      receipt := List.forall_mem_append.2 ⟨hafter.receipt, fun p hp t ht => (hnew p hp t ht).2.1⟩
      fits := List.forall_mem_append.2 ⟨hafter.fits, fun p hp t ht => (hnew p hp t ht).2.2⟩ }

/-- What follows from a task is about the same entry. -/
theorem left (k : Kept texts store polls) (hplace : polls[place]? = some (b, t :: rest))
    (new : List Task) (hnew : ∀ t' ∈ new, t'.entry = t.entry ∧ b.Fits t') :
    Kept texts store (polls.set place (b, new ++ rest)) := by
  have hmem : (b, t :: rest) ∈ polls := List.mem_of_getElem? hplace
  have htask : ∀ t' ∈ new ++ rest, ∃ t₀ ∈ t :: rest, t'.entry = t₀.entry ∧ b.Fits t' := by
    refine List.forall_mem_append.2 ⟨fun t' ht' => ?_, fun t' ht' => ?_⟩
    · exact ⟨t, List.mem_cons_self, hnew t' ht'⟩
    · exact ⟨t', List.mem_cons_of_mem _ ht', rfl, k.fits _ hmem t' (List.mem_cons_of_mem _ ht')⟩
  have hall : ∀ {P : Backplane × List Task → Prop}, (∀ p ∈ polls, P p) → P (b, new ++ rest) →
      ∀ p ∈ polls.set place (b, new ++ rest), P p := fun hold hone p hp =>
    (List.mem_or_eq_of_mem_set hp).elim (hold p) fun h => h ▸ hone
  refine ⟨k.length, k.stored, hall k.leased fun t' ht' => ?_, hall k.receipt fun t' ht' => ?_,
    hall k.fits fun t' ht' => ?_⟩
  · obtain ⟨t₀, ht₀, hentry, -⟩ := htask t' ht'
    rw [hentry]
    exact k.leased _ hmem t₀ ht₀
  · obtain ⟨t₀, ht₀, hentry, -⟩ := htask t' ht'
    rw [hentry]
    exact k.receipt _ hmem t₀ ht₀
  · obtain ⟨_, -, -, hfits⟩ := htask t' ht'
    exact hfits

/-- The text of a lease is that of every entry with its number. -/
theorem body_eq (k : Kept texts store polls) (hplace : polls[place]? = some (b, t :: rest))
    {queue : String} {e : Entry} (he : store.Stores queue e) (hid : e.id = t.entry.id) :
    e.body = t.entry.body := by
  have hstored := k.stored queue e he
  have hleased := k.leased _ (List.mem_of_getElem? hplace) t List.mem_cons_self
  rw [hid, hleased, Option.some.injEq] at hstored
  exact hstored.symm

end Kept

theorem fits_classify (b : Backplane) (l : Lease) :
    ∀ t ∈ b.classify l, t.entry = l ∧ b.Fits t := by
  intro t ht
  unfold classify at ht
  cases hread : Envelope.ofText? l.body with
  | none =>
    rw [hread] at ht
    rw [List.mem_singleton.1 ht]
    exact ⟨rfl, trivial⟩
  | some e =>
    rw [hread] at ht
    simp only at ht
    split_ifs at ht with htarget hqueue
    · rw [List.mem_singleton.1 ht]
      exact ⟨rfl, hread, htarget⟩
    · cases ht
    · rw [List.mem_singleton.1 ht]
      exact ⟨rfl, e, hread, htarget, rfl, hqueue⟩

/-- A step puts no new text on a queue. -/
theorem Kept.go {texts : List String} (k : Kept texts w.store w.polls) (place : Nat)
    (outcome : Except Fault Unit) : ∃ texts', texts' ⊆ texts ∧
      Kept texts' (w.go place outcome).store (w.go place outcome).polls := by
  by_cases hidle : ∀ b t rest, w.polls[place]? ≠ some (b, t :: rest)
  · rw [go_of_idle hidle]
    exact ⟨texts, List.Subset.refl _, k⟩
  simp only [not_forall, not_not] at hidle
  obtain ⟨b, t, rest, hplace⟩ := hidle
  have hfits := k.fits _ (List.mem_of_getElem? hplace) t List.mem_cons_self
  have hwent := went hplace outcome
  generalize w.go place outcome = w' at hwent
  cases hwent with
  | read l => exact ⟨texts, List.Subset.refl _, k.left hplace _ (fits_classify b l)⟩
  | handed l e =>
    refine ⟨texts, List.Subset.refl _, k.left hplace [.delete l] fun t' ht' => ?_⟩
    rw [List.mem_singleton.1 ht']
    exact ⟨rfl, trivial⟩
  | kept new queues hnew hstore =>
    have hcalled : Kept texts queues.store w.polls := by
      rcases hstore with hstore | ⟨queue, hstore⟩
      · rw [hstore]
        exact k
      · rw [hstore]
        exact k.create queue
    refine ⟨texts, List.Subset.refl _, hcalled.left hplace new fun t' ht' => ?_⟩
    rcases hnew with rfl | ⟨l, queue, rfl, rfl⟩
    · cases ht'
    · rw [List.mem_singleton.1 ht']
      exact ⟨rfl, hfits⟩
  | moved l queue entries queues hentries hstore =>
    have htext := k.leased _ (List.mem_of_getElem? hplace) _ List.mem_cons_self
    have hsubset : texts ++ [l.body] ⊆ texts := fun text htext' => by
      rcases List.mem_append.1 htext' with htext' | htext'
      · exact htext'
      · rw [List.mem_singleton.1 htext']
        exact List.mem_of_getElem? htext
    have hsent := k.send hentries l.body
    rw [← hstore] at hsent
    refine ⟨_, hsubset, hsent.left hplace [.delete l] fun t' ht' => ?_⟩
    rw [List.mem_singleton.1 ht']
    exact ⟨rfl, trivial⟩
  | deleted l queues hstore =>
    have hdeleted := k.delete b.queue l.id l.receipt
    rw [← hstore] at hdeleted
    exact ⟨texts, List.Subset.refl _, hdeleted.left hplace [] (by simp)⟩

theorem begin_cases (w : Traffic) (b : Backplane) :
    w.begin b = { w with queues := (w.begin b).queues } ∧ (w.begin b).store = w.store ∨
    ∃ queue max timeout leases, (w.store.receive queue max timeout).1 = .ok leases ∧
      (w.begin b).polls = w.polls ++ [(b, leases.map .read)] ∧
      (w.begin b).store = (w.store.receive queue max timeout).2 ∧
      (w.begin b).handed = w.handed := by
  have hstore := Queue.Rehearsal.store_receive b.queue (max b.config.batchSize 1)
    b.config.visibilityTimeout w.queues
  unfold begin receive
  rcases hreceive : Rehearsal.service.receive b.queue (max b.config.batchSize 1)
    b.config.visibilityTimeout w.queues with ⟨e | leases, queues⟩ <;> rw [hreceive] at hstore
  · rcases hstore with ⟨_, -, hstore⟩ | ⟨hresult, hstore⟩
    · exact .inl ⟨rfl, hstore⟩
    · cases hentries : w.queues.store.entries? b.queue with
      | none =>
        rw [Store.receive_of_none hentries] at hstore
        exact .inl ⟨rfl, hstore⟩
      | some entries =>
        rw [Store.receive_of_some hentries] at hresult
        cases hresult
  · rcases hstore with ⟨_, herror, -⟩ | ⟨hresult, hstore⟩
    · cases herror
    · exact .inr ⟨_, _, _, leases, hresult.symm, rfl, hstore, rfl⟩

theorem create_cases (w : Traffic) (queue : String) :
    (w.create queue).store = w.store ∨ (w.create queue).store = w.store.create queue :=
  Queue.Rehearsal.store_create queue w.queues

theorem post_cases (w : Traffic) (queue text : String) :
    (∃ e, (Rehearsal.service.send queue text w.queues).1 = .error e ∧
      (w.post queue text).store = w.store) ∨
    (Rehearsal.service.send queue text w.queues).1 = .ok () ∧
      (∃ entries, w.store.entries? queue = some entries) ∧
      (w.post queue text).store = (w.store.send queue text).2 :=
  Queue.Rehearsal.store_send queue text w.queues

theorem Kept.begin {texts : List String} (k : Kept texts w.store w.polls) (b : Backplane) :
    Kept texts (w.begin b).store (w.begin b).polls := by
  rcases begin_cases w b with ⟨hsame, hstore⟩ | ⟨_, _, _, leases, hleases, hpolls, hstore, -⟩
  · rw [hstore, hsame]
    exact k
  · rw [hstore, hpolls]
    exact k.receive hleases b

theorem Kept.post {texts : List String} (k : Kept texts w.store w.polls) (queue text : String) :
    ∃ texts', texts' ⊆ texts ++ [text] ∧
      Kept texts' (w.post queue text).store (w.post queue text).polls := by
  rcases post_cases w queue text with ⟨_, -, hstore⟩ | ⟨-, ⟨entries, hentries⟩, hstore⟩
  · rw [hstore]
    exact ⟨texts, List.subset_append_left _ _, k⟩
  · rw [hstore]
    exact ⟨_, List.Subset.refl _, k.send hentries text⟩

/-- A whole call to send a message puts at most its text on a queue. -/
theorem Kept.sent {texts : List String} (k : Kept texts w.store w.polls) (envelope : Envelope) :
    ∃ texts', texts' ⊆ texts ++ [envelope.text] ∧
      Kept texts' (Backplane.send Rehearsal.service envelope w.queues).2.store w.polls := by
  have hcreated : Kept texts (w.create (QueueName.ofInstance envelope.target)).store w.polls := by
    rcases create_cases w (QueueName.ofInstance envelope.target) with hstore | hstore <;>
      rw [hstore]
    · exact k
    · exact k.create _
  have hposted := Kept.post (w := w.create (QueueName.ofInstance envelope.target)) hcreated
    (QueueName.ofInstance envelope.target) envelope.text
  simp only [Traffic.create, Backplane.send] at hcreated hposted ⊢
  rcases hcreate : Rehearsal.service.create (QueueName.ofInstance envelope.target) w.queues with
    ⟨e | u, queues⟩ <;> simp only [hcreate] at hcreated hposted ⊢
  · exact ⟨texts, List.subset_append_left _ _, hcreated⟩
  · exact hposted

theorem Run.kept {start : Traffic} (hrun : Run start w) {texts : List String}
    (hstart : Kept texts start.store start.polls) : ∃ texts', Kept texts' w.store w.polls := by
  induction hrun with
  | refl => exact ⟨texts, hstart⟩
  | plan kind count _ ih => exact ih
  | elapse ms _ ih =>
    obtain ⟨texts', k⟩ := ih
    exact ⟨texts', k.call (Store.precedes_advance _ ms) rfl fun _ e he => ⟨e, he, rfl⟩⟩
  | @create w queue _ ih =>
    obtain ⟨texts', k⟩ := ih
    refine ⟨texts', ?_⟩
    rcases create_cases w queue with hstore | hstore <;> rw [hstore]
    · exact k
    · exact k.create queue
  | post queue text _ ih =>
    obtain ⟨texts', k⟩ := ih
    obtain ⟨texts₁, -, k₁⟩ := k.post queue text
    exact ⟨texts₁, k₁⟩
  | begin b _ ih =>
    obtain ⟨texts', k⟩ := ih
    exact ⟨texts', k.begin b⟩
  | go place outcome _ ih =>
    obtain ⟨texts', k⟩ := ih
    obtain ⟨texts₁, -, k₁⟩ := k.go place outcome
    exact ⟨texts₁, k₁⟩

/-! ## Safe entries -/

/-- A poll has come to the deletion of an entry of a queue. -/
def Doomed (polls : List (Backplane × List Task)) (queue : String) (e : Entry) : Prop :=
  ∃ p ∈ polls, p.1.queue = queue ∧ ∃ l, .delete l ∈ p.2 ∧ e.id = l.id ∧ e.receipt = some l.receipt

/-- Some entry with a text is not about to be deleted. -/
def Safe (text : String) (store : Store) (polls : List (Backplane × List Task)) : Prop :=
  ∃ queue e, store.Stores queue e ∧ e.body = text ∧ ¬ Doomed polls queue e

theorem doomed_left {queue : String} {e : Entry} {polls : List (Backplane × List Task)}
    (hplace : polls[place]? = some (b, t :: rest)) (new : List Task)
    (h : Doomed (polls.set place (b, new ++ rest)) queue e) : Doomed polls queue e ∨
      b.queue = queue ∧ ∃ l, .delete l ∈ new ∧ e.id = l.id ∧ e.receipt = some l.receipt := by
  obtain ⟨p, hp, hqueue, l, hl, hfor⟩ := h
  rcases List.mem_or_eq_of_mem_set hp with hp | rfl
  · exact .inl ⟨p, hp, hqueue, l, hl, hfor⟩
  · rcases List.mem_append.1 hl with hl | hl
    · exact .inr ⟨hqueue, l, hl, hfor⟩
    · exact .inl ⟨_, List.mem_of_getElem? hplace, hqueue, l, List.mem_cons_of_mem _ hl, hfor⟩

namespace Safe

variable {text : String} {texts : List String} {store store' : Store}
  {polls : List (Backplane × List Task)}

/-- A step after which no further entry is about to be deleted. -/
theorem left (s : Safe text store polls) (hplace : polls[place]? = some (b, t :: rest))
    (new : List Task) (hnew : ∀ l, .delete l ∉ new) :
    Safe text store (polls.set place (b, new ++ rest)) := by
  obtain ⟨queue, e, he, hbody, hsafe⟩ := s
  refine ⟨queue, e, he, hbody, fun hdoomed => ?_⟩
  rcases doomed_left hplace new hdoomed with hdoomed | ⟨-, l, hl, -⟩
  · exact hsafe hdoomed
  · exact hnew l hl

/-- A step after which the entry of a task is about to be deleted, if that has another text. -/
theorem left_of_ne (s : Safe text store polls) (k : Kept texts store polls)
    (hplace : polls[place]? = some (b, t :: rest)) (hbody : t.entry.body ≠ text) :
    Safe text store (polls.set place (b, .delete t.entry :: rest)) := by
  obtain ⟨queue, e, he, rfl, hsafe⟩ := s
  refine ⟨queue, e, he, rfl, fun hdoomed => ?_⟩
  rcases doomed_left hplace [.delete t.entry] hdoomed with hdoomed | ⟨-, l, hl, hid, -⟩
  · exact hsafe hdoomed
  · cases List.mem_singleton.1 hl
    exact hbody (k.body_eq hplace he hid).symm

theorem create (s : Safe text store polls) (queue : String) :
    Safe text (store.create queue) polls := by
  obtain ⟨name, e, he, hrest⟩ := s
  exact ⟨name, e, Store.stores_create_iff.2 he, hrest⟩

theorem send (s : Safe text store polls) {queue body : String} {entries : List Entry}
    (hentries : store.entries? queue = some entries) :
    Safe text (store.send queue body).2 polls := by
  obtain ⟨name, e, he, hrest⟩ := s
  exact ⟨name, e, (Store.stores_send_iff hentries).2 (.inl he), hrest⟩

/-- An entry that was just put on a queue was never leased. -/
theorem of_send {queue : String} {entries : List Entry}
    (hentries : store.entries? queue = some entries) (text : String)
    (polls : List (Backplane × List Task)) : Safe text (store.send queue text).2 polls := by
  refine ⟨queue, store.newEntry text, (Store.stores_send_iff hentries).2 (.inr ⟨rfl, rfl⟩), rfl, ?_⟩
  rintro ⟨_, -, -, l, -, -, hreceipt⟩
  cases hreceipt

/-- Leases have new receipts, which no poll has come to. -/
theorem receive (s : Safe text store polls) (k : Kept texts store polls) (queue : String)
    (max timeout : Nat) (b : Backplane) (leases : List Lease) :
    Safe text (store.receive queue max timeout).2 (polls ++ [(b, leases.map .read)]) := by
  obtain ⟨name, e, he, hbody, hsafe⟩ := s
  obtain ⟨e', he', hcontent, hlease⟩ := he.receive queue max timeout
  have hbody' : e'.body = e.body := congrArg Prod.snd hcontent
  refine ⟨name, e', he', hbody'.trans hbody, ?_⟩
  rintro ⟨p, hp, hqueue, l, hl, hid, hreceipt⟩
  rcases List.mem_append.1 hp with hp | hp
  · rcases hlease with rfl | ⟨r, hr, hnew⟩
    · exact hsafe ⟨p, hp, hqueue, l, hl, hid, hreceipt⟩
    · have hlt : l.receipt < store.nextReceipt := k.receipt p hp _ hl
      rw [hr, Option.some.injEq] at hreceipt
      omega
  · rw [List.mem_singleton.1 hp] at hl
    obtain ⟨_, -, hread⟩ := List.mem_map.1 hl
    cases hread

/-- A step of a poll loses no text that can be read, unless it hands over what it says. -/
theorem go {envelope : Envelope} (s : Safe text w.store w.polls) (k : Kept texts w.store w.polls)
    (hread : Envelope.ofText? text = some envelope) (place : Nat) (outcome : Except Fault Unit) :
    Safe text (w.go place outcome).store (w.go place outcome).polls ∨
      (w.go place outcome).handed = w.handed ++ [(envelope.target, envelope)] := by
  by_cases hidle : ∀ b t rest, w.polls[place]? ≠ some (b, t :: rest)
  · rw [go_of_idle hidle]
    exact .inl s
  simp only [not_forall, not_not] at hidle
  obtain ⟨b, t, rest, hplace⟩ := hidle
  have hfits := k.fits _ (List.mem_of_getElem? hplace) t List.mem_cons_self
  have hwent := went hplace outcome
  generalize w.go place outcome = w' at hwent
  cases hwent with
  | read l =>
    cases hl : Envelope.ofText? l.body with
    | none =>
      have hclassify : b.classify l = [.delete l] := by rw [classify, hl]
      have hbody : l.body ≠ text := by
        rintro rfl
        rw [hl] at hread
        cases hread
      rw [hclassify]
      exact .inl (s.left_of_ne k hplace hbody)
    | some e =>
      refine .inl (s.left hplace _ fun l' hl' => ?_)
      rw [classify, hl] at hl'
      simp only at hl'
      split_ifs at hl' <;> simp at hl'
  | handed l e =>
    by_cases hbody : l.body = text
    · rw [← hbody, hfits.1, Option.some.injEq] at hread
      subst hread
      exact .inr (by rw [hfits.2])
    · exact .inl (s.left_of_ne k hplace hbody)
  | kept new queues hnew hstore =>
    have hcalled : Safe text queues.store w.polls := by
      rcases hstore with hstore | ⟨queue, hstore⟩ <;> rw [hstore]
      · exact s
      · exact s.create queue
    refine .inl (hcalled.left hplace new fun l' hl' => ?_)
    rcases hnew with rfl | ⟨l, queue, -, rfl⟩
    · cases hl'
    · cases List.mem_singleton.1 hl'
  | moved l queue entries queues hentries hstore =>
    left
    by_cases hbody : l.body = text
    · rw [hbody] at hstore
      show Safe text queues.store _
      rw [hstore]
      exact .of_send hentries text _
    · obtain ⟨name, e, he, hsafe⟩ := s.left_of_ne k hplace hbody
      refine ⟨name, e, ?_, hsafe⟩
      show queues.store.Stores name e
      rw [hstore]
      exact (Store.stores_send_iff hentries).2 (.inl he)
  | deleted l queues hstore =>
    left
    -- the entry that goes was about to be deleted
    obtain ⟨name, e, he, hbody, hsafe⟩ := s
    refine Safe.left ⟨name, e, ?_, hbody, hsafe⟩ hplace [] (by simp)
    show queues.store.Stores name e
    rw [hstore]
    refine he.delete fun hname hfor => hsafe ?_
    exact ⟨_, List.mem_of_getElem? hplace, hname.symm, l, List.mem_cons_self, hfor⟩

end Safe

theorem handed_go (w : Traffic) (place : Nat) (outcome : Except Fault Unit) :
    w.handed <+: (w.go place outcome).handed := by
  unfold go
  cases w.polls[place]? with
  | none => exact List.prefix_refl _
  | some p =>
    cases outcome with
    | ok => exact List.prefix_append _ _
    | error => exact List.prefix_refl _

theorem handed_begin (w : Traffic) (b : Backplane) : (w.begin b).handed = w.handed := by
  rcases begin_cases w b with ⟨hsame, -⟩ | ⟨_, _, _, _, -, -, -, hhanded⟩
  · rw [hsame]
  · exact hhanded

/-- What is safe stays safe until it is handed over. -/
theorem Run.safe {start : Traffic} {texts : List String} {text : String} {envelope : Envelope}
    (hrun : Run start w) (k : Kept texts start.store start.polls)
    (s : Safe text start.store start.polls) (hread : Envelope.ofText? text = some envelope) :
    ∃ later, w.handed = start.handed ++ later ∧
      (Safe text w.store w.polls ∨ (envelope.target, envelope) ∈ later) := by
  induction hrun with
  | refl => exact ⟨[], (List.append_nil _).symm, .inl s⟩
  | plan kind count _ ih => exact ih
  | elapse ms _ ih => exact ih
  | @create w queue _ ih =>
    obtain ⟨later, hlater, h⟩ := ih
    refine ⟨later, hlater, h.imp_left fun s => ?_⟩
    rcases create_cases w queue with hstore | hstore <;> rw [hstore]
    · exact s
    · exact s.create queue
  | @post w queue body _ ih =>
    obtain ⟨later, hlater, h⟩ := ih
    refine ⟨later, hlater, h.imp_left fun s => ?_⟩
    rcases post_cases w queue body with ⟨_, -, hstore⟩ | ⟨-, ⟨entries, hentries⟩, hstore⟩ <;>
      rw [hstore]
    · exact s
    · exact s.send hentries
  | @begin w b hrun ih =>
    obtain ⟨later, hlater, h⟩ := ih
    refine ⟨later, (handed_begin w b).trans hlater, h.imp_left fun s => ?_⟩
    obtain ⟨texts', k'⟩ := hrun.kept k
    rcases begin_cases w b with ⟨hsame, hstore⟩ | ⟨_, _, _, leases, -, hpolls, hstore, -⟩
    · rw [hstore, hsame]
      exact s
    · rw [hstore, hpolls]
      exact s.receive k' _ _ _ b leases
  | @go w place outcome hrun ih =>
    obtain ⟨later, hlater, h⟩ := ih
    obtain ⟨more, hmore⟩ := handed_go w place outcome
    refine ⟨later ++ more, by rw [← hmore, hlater, List.append_assoc], ?_⟩
    rcases h with s | hhanded
    · obtain ⟨texts', k'⟩ := hrun.kept k
      refine (s.go k' hread place outcome).imp_right fun hgo => ?_
      rw [hgo, List.append_cancel_left_eq] at hmore
      rw [hmore]
      exact List.mem_append_right _ List.mem_cons_self
    · exact .inr (List.mem_append_left _ hhanded)

/-! ## Moves -/

/-- Whatever a step of a poll puts on a queue comes from an entry for another instance, and that is
the queue of that instance and not the one that is polled. -/
theorem Kept.moves {texts : List String} (k : Kept texts w.store w.polls)
    {outcome : Except Fault Unit} {queue : String} {x : Entry}
    (hafter : (w.go place outcome).store.Stores queue x)
    (hnew : ∀ x₀, w.store.Stores queue x₀ → x₀.id ≠ x.id) :
    ∃ b l rest e, w.polls[place]? = some (b, .move l queue :: rest) ∧ x.body = l.body ∧
      Envelope.ofText? l.body = some e ∧ queue = QueueName.ofInstance e.target ∧
        e.target ≠ b.instanceId ∧ queue ≠ b.queue := by
  have hold : ¬ w.store.Stores queue x := fun hx => hnew x hx rfl
  by_cases hidle : ∀ b t rest, w.polls[place]? ≠ some (b, t :: rest)
  · rw [go_of_idle hidle] at hafter
    exact absurd hafter hold
  simp only [not_forall, not_not] at hidle
  obtain ⟨b, t, rest, hplace⟩ := hidle
  have hfits := k.fits _ (List.mem_of_getElem? hplace) t List.mem_cons_self
  have hwent := went hplace outcome
  generalize w.go place outcome = w' at hwent hafter
  cases hwent with
  | read => exact absurd hafter hold
  | handed => exact absurd hafter hold
  | kept new queues hnew hstore =>
    have hafter : queues.store.Stores queue x := hafter
    rcases hstore with hstore | ⟨name, hstore⟩ <;> rw [hstore] at hafter
    · exact absurd hafter hold
    · exact absurd (Store.stores_create_iff.1 hafter) hold
  | moved l name entries queues hentries hstore =>
    have hafter : queues.store.Stores queue x := hafter
    rw [hstore] at hafter
    rcases (Store.stores_send_iff hentries).1 hafter with hafter | ⟨rfl, rfl⟩
    · exact absurd hafter hold
    · obtain ⟨e, hread, htarget, hqueue, hother⟩ := hfits
      exact ⟨b, l, rest, e, hplace, rfl, hread, hqueue, htarget, hother⟩
  | deleted l queues hstore =>
    have hafter : queues.store.Stores queue x := hafter
    rw [hstore] at hafter
    exact absurd hafter.of_delete hold

/-- From the time an envelope was put on the queue of its instance, if its text can be read, an
entry with this text is stored or the instance has taken what the text says since then. A step of a
poll puts an entry on a queue only if it is for the instance of this queue, and never one that lies
there already. -/
theorem stored_or_handed (hrun : Run {} w) :
    (∀ envelope e : Envelope, Envelope.ofText? envelope.text = some e →
      (Rehearsal.service.send (QueueName.ofInstance envelope.target) envelope.text w.queues).1 =
        .ok () →
      ∀ w', Run (w.post (QueueName.ofInstance envelope.target) envelope.text) w' →
        (∃ queue x, w'.store.Stores queue x ∧ x.body = envelope.text) ∨
          (envelope.target, e) ∈ w'.handed.drop w.handed.length) ∧
    ∀ place outcome queue x, (w.go place outcome).store.Stores queue x →
      (∀ x₀, w.store.Stores queue x₀ → x₀.id ≠ x.id) →
        ∃ b l rest e, w.polls[place]? = some (b, .move l queue :: rest) ∧ x.body = l.body ∧
          Envelope.ofText? l.body = some e ∧ queue = QueueName.ofInstance e.target ∧
            e.target ≠ b.instanceId ∧ queue ≠ b.queue := by
  obtain ⟨texts, k⟩ := hrun.kept .start
  refine ⟨fun envelope e hread hsent w' hrun' => ?_, fun place outcome queue x => k.moves⟩
  rcases post_cases w (QueueName.ofInstance envelope.target) envelope.text with
    ⟨_, herror, -⟩ | ⟨-, ⟨entries, hentries⟩, hstore⟩
  · rw [hsent] at herror
    cases herror
  have hsafe := Safe.of_send hentries envelope.text w.polls
  obtain ⟨texts', -, k'⟩ := k.post (QueueName.ofInstance envelope.target) envelope.text
  rw [← hstore] at hsafe
  obtain ⟨later, hlater, h⟩ := hrun'.safe k' hsafe hread
  have hhanded : w'.handed = w.handed ++ later := hlater
  rw [hhanded, List.drop_left]
  rcases h with ⟨queue, x, hx, hbody, -⟩ | hin
  · exact .inl ⟨queue, x, hx, hbody⟩
  · rw [← (Envelope.address_ofText?_text hread).1]
    exact .inr hin

/-- What a whole call to send a message does is to create the queue and to put the text on it. -/
theorem send_eq (w : Traffic) (envelope : Envelope)
    (hsent : (send Rehearsal.service envelope w.queues).1 = .ok ()) :
    (Rehearsal.service.send (QueueName.ofInstance envelope.target) envelope.text
        (w.create (QueueName.ofInstance envelope.target)).queues).1 = .ok () ∧
      { w with queues := (send Rehearsal.service envelope w.queues).2 } =
        (w.create (QueueName.ofInstance envelope.target)).post
          (QueueName.ofInstance envelope.target) envelope.text := by
  rcases hcreate : Rehearsal.service.create (QueueName.ofInstance envelope.target) w.queues with
    ⟨e | u, queues⟩ <;>
    simp only [send, create, post, hcreate] at hsent ⊢
  · cases hsent
  · exact ⟨hsent, trivial⟩

/-- What a step leaves of a poll. -/
theorem left_go {tasks : List Task} (hplace : w.polls[place]? = some (b, tasks))
    (outcome : Except Fault Unit) :
    (w.go place outcome).queues = (b.go Rehearsal.service outcome w.queues tasks).2 ∧
      (w.go place outcome).polls[place]? =
        some (b, (b.go Rehearsal.service outcome w.queues tasks).1) := by
  obtain ⟨hlt, -⟩ := List.getElem?_eq_some_iff.1 hplace
  unfold Traffic.go
  rw [hplace]
  cases outcome <;> exact ⟨rfl, List.getElem?_set_self hlt⟩

/-- A poll that nobody interrupts is among what comes about, whatever its deliveries do. -/
theorem Run.wholePoll {start : Traffic} {δ : Type} (delivery : Delivery δ) (d : δ) (b : Backplane)
    (hrun : Run start w) : ∃ w', Run start w' ∧
      w'.queues = (b.poll Rehearsal.service delivery w.queues d).2.1 := by
  have hbegin := hrun.begin b
  unfold Traffic.begin at hbegin
  have hpoll := b.poll_keep Rehearsal.service w.queues delivery
    (P := fun tasks queues _ => ∃ (w' : Traffic) (place : Nat), Run start w' ∧
      w'.queues = queues ∧ (tasks = [] ∨ w'.polls[place]? = some (b, tasks)))
    ?_ d (fun entries queues hreceive => ?_) fun e queues hreceive => ?_
  · obtain ⟨w', -, hrun', hqueues, -⟩ := hpoll
    exact ⟨w', hrun', hqueues⟩
  · rintro tasks _ d ⟨w', place, hrun', rfl, rfl | hplace⟩
    · exact ⟨w', place, hrun', rfl, .inl rfl⟩
    · obtain ⟨outcome, hgo, -⟩ := step_eq_go Rehearsal.service b w'.queues delivery tasks d
      obtain ⟨hqueues, hleft⟩ := left_go hplace outcome
      rw [hgo] at hqueues hleft
      exact ⟨w'.go place outcome, place, hrun'.go place outcome, hqueues, .inr hleft⟩
  · rw [hreceive] at hbegin
    exact ⟨_, w.polls.length, hbegin, rfl, .inr List.getElem?_concat_length⟩
  · rw [hreceive] at hbegin
    exact ⟨_, 0, hbegin, rfl, .inl rfl⟩

/-- A message for the instance `b`. -/
def note : Envelope := ⟨"b", "c", .notification { method := "ping" }⟩

def noted : Traffic := Traffic.create {} (QueueName.ofInstance "b")

/-- The message is refused once. -/
def refused : Traffic :=
  (((noted.post (QueueName.ofInstance "b") note.text).begin ⟨"b", {}⟩).go 0 (.ok ())).go 0
    (.error (.backplane "busy"))

/-- The lease runs out, and the next poll hands the message over. -/
def insisted : Traffic :=
  ((((refused.elapse 30000).begin ⟨"b", {}⟩).go 1 (.ok ())).go 1 (.ok ())).go 1 (.ok ())

theorem stored_or_handed_insisted : ∃ e, Envelope.ofText? note.text = some e ∧
    insisted.store.queues.all (fun q => q.2.isEmpty) = true ∧ ("b", e) ∈ insisted.handed := by
  have hrun : Run {} noted := .create _ .refl
  have hrefused : Run (noted.post (QueueName.ofInstance "b") note.text) refused :=
    .go _ _ (.go _ _ (.begin _ .refl))
  have hlater : Run (noted.post (QueueName.ofInstance "b") note.text) insisted :=
    .go _ _ (.go _ _ (.go _ _ (.begin _ (.elapse _ hrefused))))
  have hsent : (Rehearsal.service.send (QueueName.ofInstance "b") note.text noted.queues).1 =
      .ok () := by decide +kernel
  have hreads : (Envelope.ofText? note.text).isSome = true := by decide +kernel
  have hempty : insisted.store.queues.all (fun q => q.2.isEmpty) = true := by decide +kernel
  obtain ⟨e, he⟩ := Option.isSome_iff_exists.1 hreads
  refine ⟨e, he, hempty, ?_⟩
  rcases (stored_or_handed hrun).1 note e he hsent insisted hlater with
    ⟨queue, x, ⟨entries, hentries, hx⟩, -⟩ | hhanded
  · obtain ⟨q, hq, rfl⟩ := Option.map_eq_some_iff.1 hentries
    have hnone := List.all_eq_true.1 hempty q (List.mem_of_find?_eq_some hq)
    rw [List.isEmpty_iff.1 hnone] at hx
    cases hx
  · exact List.mem_of_mem_drop hhanded

end Traffic

end SessionRelay.Backplane
