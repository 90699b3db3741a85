import SessionRelay.Proofs.Session.History
import SessionRelay.Proofs.Transport.Inbound

/-!
# What the client reads

While a session stays open, its outbound queue only grows at the back and is only read from the
front, so what was put on it is what the client has read and what still waits (`Flows`). The stream
of an exchange that expects so many responses ends when that many items have been read. If it should
carry what certain requests of that number came to, then it does just when it carries nothing else
(`Flows.carries_iff`).

Of the requests that a session has taken or will take, each was offered to it (`supply_next`).
-/

namespace SessionRelay

theorem OutboundItem.Answers.counts {request : Rpc.Request} {fired : Bool} {item : OutboundItem}
    (h : item.Answers request fired) : item.counts = true := by
  rcases h with ⟨m, rfl, hresponse, -⟩ | ⟨rfl, -⟩
  · exact hresponse
  · rfl

/-- The request that a message is, if it is one. -/
def Rpc.Message.request? : Rpc.Message → Option Rpc.Request
  | .request r => some r
  | _ => none

/-- The requests among some messages. -/
def Rpc.requests (messages : List Rpc.Message) : List Rpc.Request :=
  messages.filterMap Rpc.Message.request?

theorem Rpc.requests_append (messages more : List Rpc.Message) :
    Rpc.requests (messages ++ more) = Rpc.requests messages ++ Rpc.requests more :=
  List.filterMap_append

theorem Rpc.requests_subperm {messages more : List Rpc.Message} (h : messages.Subperm more) :
    (Rpc.requests messages).Subperm (Rpc.requests more) := by
  obtain ⟨l, hperm, hsublist⟩ := h
  exact ⟨Rpc.requests l, hperm.filterMap _, hsublist.filterMap _⟩

namespace Session

variable {s s' : Session} {router : Router} {signals : List String}

/-- The second session is the first with more items for the client, and nothing else is new about
the way to the client. -/
def Wrote (s s' : Session) : Prop :=
  s'.transport.framing = s.transport.framing ∧
    ∃ items, (∀ i ∈ items, OutboundItem.counts i = true) ∧
      s'.transport.outbound =
        { s.transport.outbound with queue := s.transport.outbound.queue ++ items }

theorem Wrote.of_eq (hframing : s'.transport.framing = s.transport.framing)
    (h : s'.transport.outbound = s.transport.outbound) : s.Wrote s' :=
  ⟨hframing, [], by simp, by rw [h, List.append_nil]⟩

theorem Wrote.of_put {item : OutboundItem} (hcounts : item.counts = true)
    (h : s'.transport = (s.put item).transport) : s.Wrote s' :=
  ⟨by rw [h]; rfl, [item], by simpa using hcounts, by rw [h]; rfl⟩

theorem runJob_transport (h : s.Inv) (hopen : s.Open) (router : Router) (signals : List String)
    (ticket : Nat) : s.Wrote (s.runJob router signals ticket) ∧
      (s.runJob router signals ticket).transport.inbound = s.transport.inbound := by
  obtain ⟨-, -, hcase⟩ := runJob_spec h hopen router signals ticket
  rcases hcase with ⟨-, htransport⟩ | ⟨job, item, -, hanswers, -, htransport⟩
  · rw [htransport]
    exact ⟨.of_eq (by rw [htransport]) (by rw [htransport]), rfl⟩
  · rw [htransport]
    exact ⟨.of_put hanswers.counts htransport, rfl⟩

theorem handle_transport (h : s.Inv) (hopen : s.Open) (router : Router) (signals : List String)
    (m : Rpc.Message) : s.Wrote (s.handle router signals m) ∧
      (s.handle router signals m).transport.inbound = s.transport.inbound := by
  cases hm : m.isRequest with
  | false =>
    obtain ⟨-, -, -, htransport⟩ := handle_other_spec h router signals hm
    rw [htransport]
    exact ⟨.of_eq (by rw [htransport]) (by rw [htransport]), rfl⟩
  | true =>
    cases m with
    | request r =>
      obtain ⟨-, -, hcase⟩ := handle_request_spec h hopen router signals r
      rcases hcase with ⟨-, htransport⟩ | ⟨item, hanswers, -, htransport⟩
      · rw [htransport]
        exact ⟨.of_eq (by rw [htransport]) (by rw [htransport]), rfl⟩
      · rw [htransport]
        exact ⟨.of_put hanswers.counts htransport, rfl⟩
    | _ => cases hm

/-- Taking a message takes it from the inbound queue, and handling it may write something. -/
theorem pump_transport (h : s.Inv) (hopen : s.Open) (router : Router) (signals : List String) :
    s.Wrote (s.pump router signals) ∧
      (Move.taken? s (.pump signals) = none ∧
          (Rpc.requests (s.pump router signals).transport.inbound.messages).Subperm
            (Rpc.requests s.transport.inbound.messages) ∨
        ∃ r, Move.taken? s (.pump signals) = some r ∧ Rpc.requests s.transport.inbound.messages =
          r :: Rpc.requests (s.pump router signals).transport.inbound.messages) := by
  cases htake : s.take? with
  | none =>
    have hpump : s.pump router signals = s := by simp only [pump, htake]
    rw [hpump]
    refine ⟨.of_eq rfl rfl, .inl ⟨?_, .refl _⟩⟩
    simp only [Move.taken?, htake]
  | some taken =>
    obtain ⟨m, s₀⟩ := taken
    have hpump : s.pump router signals = s₀.handle router signals m := by simp only [pump, htake]
    have htaken : Move.taken? s (.pump signals) = m.request? := by
      cases m <;> simp only [Move.taken?, htake, Rpc.Message.request?]
    obtain ⟨inbound, hinbound, rfl⟩ := take?_eq_some htake
    obtain ⟨⟨hframing, items, hcounts, houtbound⟩, hinbound'⟩ := handle_transport
      (s := { s with transport := { s.transport with inbound } }) h
      ⟨hopen.going, hopen.held, hopen.reader⟩ router signals m
    rw [hpump, htaken, hinbound', Inbound.messages_take? hinbound]
    refine ⟨⟨hframing, items, hcounts, houtbound⟩, ?_⟩
    cases m with
    | request r => exact .inr ⟨r, rfl, rfl⟩
    | _ => exact .inl ⟨rfl, .refl _⟩

end Session

namespace History

open Session (Move)

variable {router : Router} {h h' start : History} {move : Move} {n : Nat}

/-! ## Items read and unread -/

/-- What the client has read: everything but what still waits. -/
def read (h : History) : List Entry :=
  h.log.take (h.log.length - h.session.transport.outbound.queue.length)

theorem read_eq {taken waiting : List Entry} (hlog : h.log = taken ++ waiting)
    (hqueue : waiting.map Entry.item = h.session.transport.outbound.queue) : h.read = taken := by
  have hlength : waiting.length = h.session.transport.outbound.queue.length := by
    rw [← hqueue, List.length_map]
  rw [read, hlog, List.length_append, hlength, Nat.add_sub_cancel, List.take_left]

/-- What was put on the outbound queue flows to the client, up to so many items. -/
structure Flows (n : Nat) (h : History) : Prop where
  framing : h.session.transport.framing = .streamable n
  unread : ∃ waiting, h.log = h.read ++ waiting ∧
    waiting.map Entry.item = h.session.transport.outbound.queue
  seen : h.seen = h.read.filterMap fun e => e.item.message?
  counts : ∀ e ∈ h.log, e.item.counts = true
  stream : h.session.transport.outbound.stream = .untaken ∧ h.read = [] ∨
    h.session.transport.outbound.stream = .reading none (some (n - h.read.length)) ∧
      h.read.length ≤ n ∨
    h.session.transport.outbound.stream = .ended ∧ h.read.length = n

theorem Flows.wrote (f : h.Flows n) (hwrote : h.session.Wrote (h.next router move).session)
    (htold : move.told? h.session = none) : (h.next router move).Flows n := by
  obtain ⟨waiting, hlog, hqueue⟩ := f.unread
  obtain ⟨hframing, items, hcounts, houtbound⟩ := hwrote
  have hadded : h.session.added (h.next router move).session = items := by
    rw [Session.added, houtbound]
    exact List.drop_left
  have hentries : (entriesOf router h.session move).map Entry.item = items := by
    rw [entriesOf, List.map_map]
    exact (List.map_id _).trans hadded
  have hlog' : (h.next router move).log =
      h.read ++ (waiting ++ entriesOf router h.session move) := by
    rw [next, hlog, List.append_assoc]
  have hqueue' : (waiting ++ entriesOf router h.session move).map Entry.item =
      (h.next router move).session.transport.outbound.queue := by
    rw [List.map_append, hqueue, hentries, houtbound]
  have hread : (h.next router move).read = h.read := read_eq hlog' hqueue'
  have hstream : (h.next router move).session.transport.outbound.stream =
      h.session.transport.outbound.stream := by rw [houtbound]
  refine ⟨hframing.trans f.framing, ⟨_, hread ▸ hlog', hqueue'⟩, ?_, fun e he => ?_, ?_⟩
  · rw [hread, next, htold, ← f.seen]
    exact List.append_nil _
  · rcases List.mem_append.1 he with he | he
    · exact f.counts e he
    · exact hcounts _ (hentries ▸ List.mem_map_of_mem he)
  · rw [hstream, hread]
    exact f.stream

theorem Flows.openStream (f : h.Flows n) : (h.next router .openStream).Flows n := by
  rcases Session.events_cases h.session with hsame | ⟨huntaken, hopened⟩
  · exact f.wrote (.of_eq (congrArg (fun s => s.transport.framing) hsame)
      (congrArg (fun s => s.transport.outbound) hsame)) rfl
  · have hsession : (h.next router .openStream).session = _ := hopened
    obtain ⟨waiting, hlog, hqueue⟩ := f.unread
    have hentries : entriesOf router h.session .openStream = [] := by
      rw [entriesOf, Session.apply, hopened, Session.added, List.drop_length]
      rfl
    have hlog' : (h.next router .openStream).log = h.read ++ waiting := by
      rw [next, hentries, List.append_nil, ← hlog]
    have hqueue' : waiting.map Entry.item =
        (h.next router .openStream).session.transport.outbound.queue := by rw [hsession, hqueue]
    have hread : (h.next router .openStream).read = h.read := read_eq hlog' hqueue'
    have hnone : h.read = [] := by
      rcases f.stream with ⟨-, hnone⟩ | ⟨hreading, -⟩ | ⟨hended, -⟩
      · exact hnone
      · rw [huntaken] at hreading
        cases hreading
      · rw [huntaken] at hended
        cases hended
    refine ⟨by rw [hsession]; exact f.framing, ⟨_, hread ▸ hlog', hqueue'⟩, ?_, fun e he => ?_,
      .inr (.inl ?_)⟩
    · rw [hread, ← f.seen]
      exact List.append_nil _
    · rw [hlog', ← hlog] at he
      exact f.counts e he
    · rw [hread, hnone, hsession, f.framing]
      exact ⟨rfl, Nat.zero_le _⟩

theorem answers_eq_length {items : List OutboundItem}
    (h : ∀ i ∈ items, OutboundItem.counts i = true) : Outbound.answers items = items.length :=
  List.countP_eq_length.2 h

theorem Flows.reads (f : h.Flows n) (hopen : h.session.Open) : (h.next router .read).Flows n := by
  have hnext := Session.next_outbound hopen
  have hsession : (h.next router .read).session = _ := congrArg Prod.snd hnext
  have htold : Move.told? h.session .read = h.session.transport.outbound.next.1.message? :=
    congrArg (fun p => p.1.message?) hnext
  obtain ⟨waiting, hlog, hqueue⟩ := f.unread
  have hentries : entriesOf router h.session .read = [] := by
    have hshort : h.session.added (h.next router .read).session = [] := by
      rw [Session.added, hsession]
      exact List.drop_eq_nil_of_le (Session.outbound_next_queue _)
    exact congrArg (List.map _) hshort
  have hlog' : (h.next router .read).log = h.log := by
    rw [next, hentries, List.append_nil]
  rcases f.stream with ⟨huntaken, hnone⟩ | ⟨hreading, hle⟩ | ⟨hended, -⟩
  · have hsame : h.session.transport.outbound.next = (.absent, h.session.transport.outbound) := by
      simp only [Outbound.next, huntaken]
    refine f.wrote (.of_eq ?_ ?_) (by rw [htold, hsame]; rfl)
    · rw [hsession]
    · rw [hsession, hsame]
  · have hread : h.session.transport.outbound.next =
        Outbound.read (some (n - h.read.length)) h.session.transport.outbound.queue := by
      simp only [Outbound.next, hreading]
    obtain ⟨taken, htook⟩ := Outbound.read_spec h.session.transport.outbound.queue
      (some (n - h.read.length))
    rw [← hread] at htook
    obtain ⟨first, rest, hwaiting, hfirst, hrest⟩ :=
      List.map_eq_append_iff.1 (hqueue.trans htook.items)
    have hlog'' : (h.next router .read).log = (h.read ++ first) ++ rest := by
      rw [hlog', hlog, hwaiting, List.append_assoc]
    have hrest' : rest.map Entry.item = (h.next router .read).session.transport.outbound.queue := by
      rw [hsession, hrest]
    have hread' : (h.next router .read).read = h.read ++ first := read_eq hlog'' hrest'
    have hanswers : Outbound.answers taken = first.length := by
      rw [← hfirst, ← List.length_map Entry.item]
      refine answers_eq_length fun i hi => ?_
      obtain ⟨e, he, rfl⟩ := List.mem_map.1 hi
      refine f.counts e ?_
      rw [hlog, hwaiting]
      exact List.mem_append_right _ (List.mem_append_left _ he)
    have hbound := htook.bound _ rfl
    refine ⟨by rw [hsession]; exact f.framing, ⟨rest, hread' ▸ hlog'', hrest'⟩, ?_,
      fun e he => f.counts e (hlog' ▸ he), .inr ?_⟩
    · rw [hread', List.filterMap_append, ← f.seen, next, htold, ← htook.told, ← hfirst,
        List.filterMap_map]
      rfl
    · rw [hread', List.length_append, hsession]
      refine htook.stream.imp (fun h => ⟨h.trans ?_, by omega⟩) fun hlast => ⟨hlast.1, ?_⟩
      · have hcount := hlast.2
        rw [hanswers, Option.some.injEq] at hcount
        omega
      · rw [hanswers, Option.map_some, Nat.sub_sub]
  · exact absurd hopen.reader (by simp [Outbound.hasReader, hended])

theorem Flows.next (f : h.Flows n) (l : h.Ledger) (hopen : h.session.Open) (router : Router)
    (move : Move) : (h.next router move).Flows n := by
  cases move with
  | pump signals => exact f.wrote (Session.pump_transport l.inv hopen router signals).1 rfl
  | work ticket signals =>
    exact f.wrote (Session.runJob_transport l.inv hopen router signals ticket).1 rfl
  | offer m =>
    refine f.wrote (.of_eq ?_ ?_) rfl <;>
      simp only [History.next, Session.apply, Session.offer, Transport.offer] <;> split_ifs <;> rfl
  | enter ticket => exact f.wrote (.of_eq rfl rfl) rfl
  | leave ticket => exact f.wrote (.of_eq rfl rfl) rfl
  | openStream => exact f.openStream
  | read => exact f.reads hopen
  | reject id error =>
    exact f.wrote (.of_put rfl (congrArg Session.transport (Session.send_of_open hopen _))) rfl

theorem Flows.of_fresh {s : Session} (hframing : s.transport.framing = .streamable n)
    (houtbound : s.transport.outbound = {}) : Flows n { session := s } where
  framing := hframing
  unread := ⟨[], by simp [read], by rw [houtbound]; rfl⟩
  seen := by simp [read]
  counts := by simp
  stream := .inl ⟨by rw [houtbound], List.take_nil⟩

/-! ## What a finished stream carries -/

/-- No job leaves two items. -/
theorem Ledger.nodup_tickets (l : h.Ledger) : (h.log.filterMap Entry.ticket).Nodup := by
  refine List.nodup_iff_count_le_one.2 fun t => ?_
  have hcount : (h.log.filterMap Entry.ticket).count t = (h.entries t).length := by
    rw [entries, ← List.countP_eq_length_filter, List.count, List.countP_filterMap]
    refine List.countP_congr fun e _ => ?_
    cases e.ticket <;> simp
  rw [hcount]
  by_cases hasked : t ∈ h.asked.map Prod.fst
  · obtain ⟨a, ha, rfl⟩ := List.mem_map.1 hasked
    by_cases hpending : a ∈ h.session.pending
    · rw [(l.pending a hpending).2]
      exact Nat.zero_le _
    · obtain ⟨e, he, -⟩ := l.finished a ha hpending
      rw [he]
      exact Nat.le_refl _
  · have hnone : h.entries t = [] := List.filter_eq_nil_iff.2 fun e he hticket =>
      hasked (l.entry e he t (by simpa using hticket))
    rw [hnone]
    exact Nat.zero_le _

/-- Whatever a job leaves answers its request, and is all that it leaves. -/
theorem Ledger.answers (l : h.Ledger) {e : Entry} (he : e ∈ h.log) :
    e.ticket = none ∨ ∃ q ∈ h.asked, e.ticket = some q.1 ∧ h.entries q.1 = [e] ∧
      e.item.Answers q.2 e.fired := by
  cases hticket : e.ticket with
  | none => exact .inl rfl
  | some t =>
    obtain ⟨q, hq, rfl⟩ := List.mem_map.1 (l.entry e he t hticket)
    have hmem : e ∈ h.entries q.1 := List.mem_filter.2 ⟨he, by simp [hticket]⟩
    have hover : q ∉ h.session.pending := fun hpending => by
      rw [(l.pending q hpending).2] at hmem
      cases hmem
    obtain ⟨e', hentries, hanswers⟩ := l.finished q hq hover
    rw [hentries, List.mem_singleton] at hmem
    exact .inr ⟨q, hq, rfl, hmem ▸ hentries, hmem ▸ hanswers⟩

/-- Whether the client has read the stream to its end. -/
def Ended (h : History) : Prop := h.session.transport.outbound.stream = .ended

theorem Flows.length_read (f : h.Flows n) (hended : h.Ended) : h.read.length = n := by
  rcases f.stream with ⟨hstream, -⟩ | ⟨hstream, -⟩ | ⟨-, hlength⟩
  · rw [hended] at hstream
    cases hstream
  · rw [hended] at hstream
    cases hstream
  · exact hlength

theorem Flows.read_sublist (f : h.Flows n) : h.read.Sublist h.log := by
  obtain ⟨waiting, hlog, -⟩ := f.unread
  rw [hlog]
  exact List.sublist_append_left _ _

/-- A finished stream carries what each of so many jobs came to just if it carries nothing else. -/
theorem Flows.carries_iff (f : h.Flows n) (l : h.Ledger) (hended : h.Ended) {tickets : List Nat}
    (hnodup : tickets.Nodup) (hlength : tickets.length = n) :
    (∀ t ∈ tickets, ∃ e ∈ h.read, e.ticket = some t) ↔
      ∀ e ∈ h.read, ∃ t ∈ tickets, e.ticket = some t := by
  have hcount := f.length_read hended
  have hreads : (h.read.filterMap Entry.ticket).Nodup :=
    l.nodup_tickets.sublist (f.read_sublist.filterMap _)
  have hle : (h.read.filterMap Entry.ticket).length ≤ n := hcount ▸ List.length_filterMap_le _ _
  constructor
  · intro hall e he
    have hsub : tickets ⊆ h.read.filterMap Entry.ticket := fun t ht =>
      List.mem_filterMap.2 (hall t ht)
    have hperm := (hnodup.subperm hsub).perm_of_length_le (hlength ▸ hle)
    -- There are as many tickets as items, so every item has one.
    have hsome : (h.read.filterMap Entry.ticket).length = h.read.length := by
      rw [← hperm.length_eq, hlength, hcount]
    obtain ⟨t, ht⟩ := Option.isSome_iff_exists.1 (List.filterMap_length_eq_length.1 hsome e he)
    exact ⟨t, hperm.mem_iff.2 (List.mem_filterMap.2 ⟨e, he, ht⟩), ht⟩
  · intro hall t ht
    have hsub : h.read.filterMap Entry.ticket ⊆ tickets := fun t ht => by
      obtain ⟨e, he, hticket⟩ := List.mem_filterMap.1 ht
      obtain ⟨t', ht', hticket'⟩ := hall e he
      rw [hticket] at hticket'
      exact Option.some.inj hticket' ▸ ht'
    have hsome : (h.read.filterMap Entry.ticket).length = h.read.length :=
      List.filterMap_length_eq_length.2 fun e he => by
        obtain ⟨t, -, hticket⟩ := hall e he
        rw [hticket]
        rfl
    have hperm := (hreads.subperm hsub).perm_of_length_le
      (Nat.le_of_eq (by rw [hsome, hcount, hlength]))
    exact List.mem_filterMap.1 (hperm.mem_iff.2 ht)

/-- If jobs have left all that a finished stream carries, and no more requests were taken than
responses are expected, it carries what each of them came to. -/
theorem Flows.complete (f : h.Flows n) (l : h.Ledger) (hended : h.Ended)
    (hticket : ∀ e ∈ h.read, e.ticket ≠ none) (hle : h.asked.length ≤ n) :
    h.asked.length = n ∧ ∀ q ∈ h.asked, ∃ e ∈ h.read, e.ticket = some q.1 := by
  have hasked : ∀ e ∈ h.read, ∃ t ∈ h.asked.map Prod.fst, e.ticket = some t := fun e he => by
    obtain ⟨t, ht⟩ := Option.ne_none_iff_exists'.1 (hticket e he)
    exact ⟨t, l.entry e (f.read_sublist.subset he) t ht, ht⟩
  have hsub : h.read.filterMap Entry.ticket ⊆ h.asked.map Prod.fst := fun t ht => by
    obtain ⟨e, he, hticket⟩ := List.mem_filterMap.1 ht
    exact l.entry e (f.read_sublist.subset he) t hticket
  have hsome : (h.read.filterMap Entry.ticket).length = h.read.length :=
    List.filterMap_length_eq_length.2 fun e he => Option.isSome_iff_ne_none.2 (hticket e he)
  have hge := ((l.nodup_tickets.sublist (f.read_sublist.filterMap _)).subperm hsub).length_le
  rw [hsome, f.length_read hended, List.length_map] at hge
  have hlength := Nat.le_antisymm hle hge
  refine ⟨hlength, fun q hq => ?_⟩
  exact (f.carries_iff l hended l.nodup (by rw [List.length_map, hlength])).2 hasked q.1
    (List.mem_map_of_mem hq)

/-! ## Where requests come from -/

/-- The requests that were taken and those that wait to be. -/
def supply (h : History) : List Rpc.Request :=
  h.asked.map Prod.snd ++ Rpc.requests h.session.transport.inbound.messages

/-- The messages that a move brings to a session. -/
def brought : Move → List Rpc.Message
  | .offer m => [m]
  | _ => []

/-- Every request that is taken was brought. -/
theorem supply_next (l : h.Ledger) (hopen : h.session.Open) (router : Router) (move : Move) :
    (h.next router move).supply.Subperm (Rpc.requests (brought move) ++ h.supply) := by
  have hsame : ∀ move : Move, Rpc.requests (brought move) = [] → move.taken? h.session = none →
      (h.session.apply router move).transport.inbound.messages.Subperm
        h.session.transport.inbound.messages →
      (h.next router move).supply.Subperm (Rpc.requests (brought move) ++ h.supply) := by
    intro move hbrought htaken hinbound
    rw [hbrought, List.nil_append, supply, asked_next_none htaken]
    exact (List.subperm_append_left _).2 (Rpc.requests_subperm hinbound)
  cases move with
  | pump signals =>
    obtain ⟨-, ⟨htaken, hinbound⟩ | ⟨r, htaken, hinbound⟩⟩ :=
      Session.pump_transport l.inv hopen router signals
    · rw [supply, asked_next_none htaken]
      exact (List.subperm_append_left _).2 hinbound
    · rw [supply, asked_next_some htaken, supply, hinbound, List.map_append, List.append_assoc]
      exact .refl _
  | work ticket signals =>
    refine hsame _ rfl rfl ?_
    rw [Session.apply, (Session.runJob_transport l.inv hopen router signals ticket).2]
  | offer m =>
    have hinbound : (h.session.apply router (.offer m)).transport.inbound.messages.Subperm
        (m :: h.session.transport.inbound.messages) := by
      simp only [Session.apply, Session.offer, Transport.offer, hopen.held]
      exact Inbound.messages_offer _ m
    have hrequests := Rpc.requests_subperm hinbound
    rw [← List.singleton_append, Rpc.requests_append] at hrequests
    rw [supply, asked_next_none rfl, supply, ← List.append_assoc]
    refine ((List.subperm_append_left _).2 hrequests).trans ?_
    rw [← List.append_assoc]
    exact (List.perm_append_comm.append_right _).subperm
  | enter ticket => exact hsame _ rfl rfl (Inbound.messages_enter _ ticket)
  | leave ticket => exact hsame _ rfl rfl (Inbound.messages_leave _ ticket)
  | openStream =>
    refine hsame _ rfl rfl ?_
    rw [Session.apply]
    rcases Session.events_cases h.session with hopened | ⟨-, hopened⟩ <;> rw [hopened]
  | read =>
    refine hsame _ rfl rfl ?_
    rw [Session.apply, Session.next_outbound hopen]
  | reject id error =>
    refine hsame _ rfl rfl ?_
    rw [Session.apply, Session.send_of_open hopen]
    exact .refl _

end History

end SessionRelay
