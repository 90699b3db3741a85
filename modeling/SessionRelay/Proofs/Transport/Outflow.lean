import SessionRelay.Proofs.Transport.Life
import SessionRelay.Proofs.Transport.Outbound

/-!
# What the event stream tells

The reader of a stream is told what was sent, in order: the endpoint and then everything for a
stream of server-sent events, and for one exchange everything up to the last answer that is
expected. The stream ends with that answer or with its transport, and nothing else ends it
(`stream_tells_what_was_sent`).
-/

namespace SessionRelay.Transport

open Outbound

/-- Some items up to the one that makes the answers so many. -/
def cut : Nat → List OutboundItem → List OutboundItem
  | 0, _ | _, [] => []
  | n + 1, item :: rest => item :: cut (if item.counts then n else n + 1) rest

/-- What a reader is told of some items. -/
def told (items : List OutboundItem) : List TransportEvent :=
  (items.filterMap OutboundItem.message?).map .message

/-- Everything a reader is to be told of what was sent. -/
def due : Framing → List OutboundItem → List TransportEvent
  | .sse endpoint, sent => .endpoint endpoint :: told sent
  | .streamable expected, sent => told (cut expected sent)

/-- All answers that were expected were sent or given up. -/
def Complete : Framing → List OutboundItem → Prop
  | .sse _, _ => False
  | .streamable expected, sent => expected ≤ answers sent

/-! ## Counting down -/

def limit : Framing → Option Nat
  | .sse _ => none
  | .streamable expected => some expected

def opening : Framing → List TransportEvent
  | .sse endpoint => [.endpoint endpoint]
  | .streamable _ => []

/-- How many answers are still to come after an item. -/
def countDown (limit : Option Nat) (item : OutboundItem) : Option Nat :=
  if item.counts then limit.map (· - 1) else limit

def within : Option Nat → List OutboundItem → List OutboundItem
  | none, items => items
  | some n, items => cut n items

def Reached : Option Nat → List OutboundItem → Prop
  | none, _ => False
  | some n, items => n ≤ answers items

/-- A reader that expects so many answers can take some items, and expects the rest after that. -/
inductive Leads : Option Nat → List OutboundItem → Option Nat → Prop
  | nil (limit : Option Nat) : Leads limit [] limit
  | cons {limit left : Option Nat} {item : OutboundItem} {items : List OutboundItem}
      (h : limit ≠ some 0) (rest : Leads (countDown limit item) items left) :
      Leads limit (item :: items) left

section

variable {framing : Framing} {limit left : Option Nat} {item : OutboundItem}
  {items taken sent : List OutboundItem} {events : List TransportEvent} {o : Outbound}

theorem due_eq (framing : Framing) (sent : List OutboundItem) :
    due framing sent = opening framing ++ told (within (Transport.limit framing) sent) := by
  cases framing <;> rfl

theorem complete_iff : Complete framing sent ↔ Reached (Transport.limit framing) sent := by
  cases framing <;> rfl

theorem told_append (items items' : List OutboundItem) :
    told (items ++ items') = told items ++ told items' := by
  simp [told]

theorem within_cons (h : limit ≠ some 0) (item : OutboundItem) (items : List OutboundItem) :
    within limit (item :: items) = item :: within (countDown limit item) items := by
  rcases limit with _ | _ | n
  · simp [within, countDown]
  · exact absurd rfl h
  · cases hitem : item.counts <;> simp [within, countDown, cut, hitem]

theorem reached_cons (h : limit ≠ some 0) :
    Reached limit (item :: items) ↔ Reached (countDown limit item) items := by
  rcases limit with _ | _ | n
  · simp [Reached, countDown]
  · exact absurd rfl h
  · cases hitem : item.counts <;> simp [Reached, countDown, answers, hitem]

theorem Leads.trans {middle : Option Nat} (h : Leads limit taken middle)
    (h' : Leads middle items left) : Leads limit (taken ++ items) left := by
  induction h with
  | nil => exact h'
  | cons hlimit _ ih => exact .cons hlimit (ih h')

theorem Leads.within (h : Leads limit taken left) (items : List OutboundItem) :
    within limit (taken ++ items) = taken ++ Transport.within left items := by
  induction h with
  | nil => rfl
  | cons hlimit _ ih => rw [List.cons_append, within_cons hlimit, ih, List.cons_append]

theorem Leads.reached (h : Leads limit taken left) :
    Reached limit (taken ++ items) ↔ Reached left items := by
  induction h with
  | nil => exact Iff.rfl
  | cons hlimit _ ih => rw [List.cons_append, reached_cons hlimit, ih]

/-! ## One reading -/

/-- What reading on in some items comes to. -/
inductive Reads (limit : Option Nat) : List OutboundItem → Reading × Outbound → Prop
  | event {taken : List OutboundItem} {m : Rpc.Message} {left : Option Nat}
      (leads : Leads limit taken left) (htold : told taken = [.message m])
      (rest : List OutboundItem) :
      Reads limit (taken ++ rest) (.event (.message m), ⟨rest, .reading none left⟩)
  | pending {taken : List OutboundItem} {left : Option Nat} (leads : Leads limit taken left)
      (htold : told taken = []) (hleft : left ≠ some 0) :
      Reads limit taken (.pending, ⟨[], .reading none left⟩)
  | finished {taken : List OutboundItem} (leads : Leads limit taken (some 0))
      (htold : told taken = []) (rest : List OutboundItem) :
      Reads limit (taken ++ rest) (.finished, ⟨rest, .ended⟩)

theorem Reads.skip {r : Reading × Outbound} (hlimit : limit ≠ some 0)
    (h : Reads (countDown limit .abandoned) items r) : Reads limit (.abandoned :: items) r := by
  cases h with
  | event leads htold rest => exact .event (.cons hlimit leads) htold rest
  | pending leads htold hleft => exact .pending (.cons hlimit leads) htold hleft
  | finished leads htold rest => exact .finished (.cons hlimit leads) htold rest

theorem reads_read : ∀ (items : List OutboundItem) (limit : Option Nat),
    Reads limit items (Outbound.read limit items)
  | items, some 0 => by
    unfold Outbound.read
    exact .finished (.nil _) rfl items
  | [], none => .pending (.nil _) rfl nofun
  | [], some (n + 1) => .pending (.nil _) rfl (by simp)
  | .abandoned :: rest, none => (reads_read rest none).skip nofun
  | .abandoned :: rest, some (n + 1) => (reads_read rest (some n)).skip (by simp)
  | .message m :: rest, none => by
    have leads : Leads none [.message m] _ := .cons nofun (.nil _)
    exact .event leads rfl rest
  | .message m :: rest, some (n + 1) => by
    have leads : Leads (some (n + 1)) [.message m] _ := .cons (by simp) (.nil _)
    exact .event leads rfl rest

/-- What is left when somebody reads. -/
inductive Leaves (o : Outbound) : Reading → Outbound → Prop
  | event (e : TransportEvent) (queue : List OutboundItem) (left : Option Nat) :
      Leaves o (.event e) ⟨queue, .reading none left⟩
  | pending {left : Option Nat} (hleft : left ≠ some 0) :
      Leaves o .pending ⟨[], .reading none left⟩
  | finished (queue : List OutboundItem) : Leaves o .finished ⟨queue, .ended⟩
  | absent (h : o.stream = .untaken ∨ o.stream = .dropped) : Leaves o .absent o

theorem leaves_next (o : Outbound) : Leaves o o.next.1 o.next.2 := by
  rcases o with ⟨queue, _ | ⟨_ | url, left⟩ | _ | _⟩
  · exact .absent (.inl rfl)
  · change Leaves _ (Outbound.read left queue).1 (Outbound.read left queue).2
    generalize Outbound.read left queue = r, reads_read queue left = hreads
    cases hreads with
    | event => exact .event _ _ _
    | pending _ _ hleft => exact .pending hleft
    | finished => exact .finished _
  · exact .event _ _ _
  · exact .finished _
  · exact .absent (.inr rfl)

theorem stream_of_absent (h : o.next.1 = .absent) :
    o.stream = .untaken ∨ o.stream = .dropped := by
  have hleaves := leaves_next o
  rw [h] at hleaves
  generalize o.next.2 = o' at hleaves
  cases hleaves
  assumption

theorem stream_next (h : o.stream ≠ .untaken) : o.next.2.stream ≠ .untaken := by
  generalize o.next.1 = reading, o.next.2 = o', leaves_next o = hleaves
  cases hleaves with
  | absent => exact h
  | event | pending | finished => simp

/-! ## What was told so far -/

/-- How a stream stands after some events, when so much was sent. -/
inductive Stands (framing : Framing) :
    List OutboundItem → List TransportEvent → Outbound → Prop
  | untaken (sent : List OutboundItem) : Stands framing sent [] ⟨sent, .untaken⟩
  | opening {url : String} (h : framing = .sse url) (sent : List OutboundItem) :
      Stands framing sent [] ⟨sent, .reading (some url) none⟩
  | reading {taken : List OutboundItem} {left : Option Nat}
      (h : Leads (Transport.limit framing) taken left) (queue : List OutboundItem) :
      Stands framing (taken ++ queue) (Transport.opening framing ++ told taken)
        ⟨queue, .reading none left⟩
  | ended {sent : List OutboundItem} (h : Complete framing sent) (queue : List OutboundItem) :
      Stands framing sent (due framing sent) ⟨queue, .ended⟩
  | dropped {sent : List OutboundItem} {events : List TransportEvent}
      (h : events <+: due framing sent) (queue : List OutboundItem) :
      Stands framing sent events ⟨queue, .dropped⟩

theorem due_of_leads (h : Leads (Transport.limit framing) taken left) (items : List OutboundItem) :
    due framing (taken ++ items) =
      (opening framing ++ told taken) ++ told (within left items) := by
  rw [due_eq, h.within, told_append, List.append_assoc]

namespace Stands

theorem told_prefix (h : Stands framing sent events o) : events <+: due framing sent := by
  cases h with
  | untaken | opening => exact List.nil_prefix
  | reading h queue =>
    rw [due_of_leads h]
    exact List.prefix_append _ _
  | ended => exact List.prefix_refl _
  | dropped h => exact h

theorem push (h : Stands framing sent events o) (hreader : o.hasReader = true)
    (item : OutboundItem) :
    Stands framing (sent ++ [item]) events { o with queue := o.queue ++ [item] } := by
  cases h with
  | untaken => exact .untaken _
  | opening h => exact .opening h _
  | reading h queue =>
    rw [List.append_assoc]
    exact .reading h _
  | ended | dropped => cases hreader

theorem opened (h : Stands framing sent events o) (huntaken : o.stream = .untaken) :
    Stands framing sent events { o with stream := Outbound.opened framing } := by
  cases h with
  | untaken =>
    cases framing with
    | sse url => exact .opening rfl sent
    | streamable n =>
      have leads : Leads (Transport.limit (.streamable n)) [] (some n) := .nil _
      exact .reading leads sent
  | opening | reading | ended | dropped => cases huntaken

theorem told_nothing {r : Reading × Outbound} (h : Stands framing sent events r.2)
    (hr : r.1.event? = none) : Stands framing sent (events ++ r.1.event?.toList) r.2 := by
  rwa [hr, Option.toList_none, List.append_nil]

theorem of_reads {queue : List OutboundItem} {r : Reading × Outbound}
    (h : Leads (Transport.limit framing) taken left) (hreads : Reads left queue r) :
    Stands framing (taken ++ queue) (Transport.opening framing ++ told taken ++ r.1.event?.toList)
      r.2 := by
  cases hreads with
  | event leads htold rest =>
    have hstands := Stands.reading (h.trans leads) rest
    rwa [told_append, htold, ← List.append_assoc, List.append_assoc _ _ rest] at hstands
  | pending leads htold =>
    have hstands := Stands.reading (h.trans leads) []
    rw [told_append, htold, List.append_nil, List.append_nil] at hstands
    exact told_nothing hstands rfl
  | @finished items leads htold rest =>
    -- the last answer was taken, so nothing behind it is due
    have hleads := h.trans leads
    have hcomplete : Complete framing (taken ++ items ++ rest) :=
      complete_iff.2 (hleads.reached.2 (Nat.zero_le _))
    have hstands := Stands.ended hcomplete rest
    have hdue : due framing (taken ++ items ++ rest) = Transport.opening framing ++ told taken := by
      have hnone : within (some 0) rest = [] := by unfold within cut; rfl
      rw [due_of_leads hleads, hnone, told_append, htold]
      simp [told]
    rw [hdue, List.append_assoc] at hstands
    exact told_nothing hstands rfl

theorem next (h : Stands framing sent events o) :
    Stands framing sent (events ++ o.next.1.event?.toList) o.next.2 := by
  cases h with
  | untaken => exact told_nothing (.untaken sent) rfl
  | @opening url h =>
    subst h
    have leads : Leads (Transport.limit (.sse url)) [] none := .nil _
    exact .reading leads sent
  | @reading taken left h queue => exact of_reads h (reads_read queue left)
  | ended h queue => exact told_nothing (.ended h queue) rfl
  | dropped h queue => exact told_nothing (.dropped h queue) rfl

theorem of_event {e : TransportEvent} (h : Stands framing sent events o)
    (he : o.next.1 = .event e) : ∃ rest, due framing sent = events ++ e :: rest := by
  obtain ⟨rest, hrest⟩ := h.next.told_prefix
  rw [he, List.append_assoc] at hrest
  exact ⟨rest, hrest.symm⟩

theorem next_of_none (h : Stands framing sent events o) (hnone : o.next.1.event? = none) :
    Stands framing sent events o.next.2 := by
  have hnext := h.next
  rwa [hnone, Option.toList_none, List.append_nil] at hnext

theorem of_finished (h : Stands framing sent events o) (hfinished : o.next.1 = .finished) :
    due framing sent = events ∧ Complete framing sent := by
  have hnext := h.next_of_none (by rw [hfinished]; rfl)
  have hleaves := leaves_next o
  rw [hfinished] at hleaves
  generalize o.next.2 = o' at hnext hleaves
  cases hleaves
  cases hnext with
  | ended hcomplete => exact ⟨rfl, hcomplete⟩

theorem of_pending (h : Stands framing sent events o) (hpending : o.next.1 = .pending) :
    due framing sent = events ∧ ¬ Complete framing sent := by
  have hnext := h.next_of_none (by rw [hpending]; rfl)
  have hleaves := leaves_next o
  rw [hpending] at hleaves
  generalize o.next.2 = o' at hnext hleaves
  cases hleaves with
  | @pending left hleft =>
    cases hnext with
    | @reading taken _ leads =>
      rw [complete_iff, leads.reached, due_of_leads leads]
      rcases left with _ | _ | n
      · simp [within, Reached, told]
      · exact absurd rfl hleft
      · simp [within, Reached, told, cut, answers]

end Stands

end

/-! ## Along a life -/

namespace Life

variable {framing : Framing} {l l' : Life}

/-- What the stream of a transport tells. -/
structure Tells (framing : Framing) (l : Life) : Prop where
  told : l.told <+: due framing l.sent
  next : l.transport.streamHeld = true → l.transport.closed = false → ∀ e rest,
    due framing l.sent = l.told ++ e :: rest → l.transport.next.1 = .event e
  waits : l.transport.streamHeld = true → l.transport.closed = false →
    due framing l.sent = l.told → ¬ Complete framing l.sent → l.transport.next.1 = .pending
  ends : l.transport.streamHeld = true → l.transport.closed = false →
    due framing l.sent = l.told → Complete framing l.sent → l.transport.next.1 = .finished
  finished : l.transport.next.1 = .finished → l.transport.closed = true ∨
    due framing l.sent = l.told ∧ Complete framing l.sent
  once : l.handed ≤ 1
  again : l.handed = 1 → l.transport.events = .error .streamTaken
  /-- From its end on nothing is told, and whatever is begun fails. -/
  afterEnd : ∀ moves, (l.disposed moves).told = l.told ∧
    (∀ m, (l.disposed moves).transport.send m = .error .closed) ∧
    (l.disposed moves).transport.abandon = .error .closed ∧
    ∀ m, ((l.disposed moves).transport.offer m).1 = .refused

/-- How the outbound half of a transport stands. -/
structure Flowing (framing : Framing) (l : Life) : Prop where
  framed : l.transport.framing = framing
  stands : Stands framing l.sent l.told l.transport.outbound
  once : l.handed ≤ 1
  untaken : l.transport.outbound.stream = .untaken → l.handed = 0

theorem Flowing.of_same (h : Flowing framing l) (hsame : SameOutward l l') :
    Flowing framing l' where
  framed := hsame.framing.trans h.framed
  stands := by
    rw [hsame.sent, hsame.told, hsame.outbound]
    exact h.stands
  once := hsame.handed ▸ h.once
  untaken := by
    rw [hsame.outbound, hsame.handed]
    exact h.untaken

theorem Flowing.push (h : Flowing framing l) (item : OutboundItem) :
    Flowing framing (l.push item (l.transport.push item)) := by
  unfold Transport.push
  split_ifs with hover
  · exact h
  · have hreader : l.transport.outbound.hasReader = true := by simp_all
    exact ⟨h.framed, h.stands.push hreader item, h.once, h.untaken⟩

theorem next_cases (t : Transport) : t.closed = true ∧ t.next = (.finished, t) ∨
    t.next = (t.outbound.next.1, { t with outbound := t.outbound.next.2 }) := by
  unfold Transport.next
  split
  · rename_i hclosed _
    exact .inl ⟨hclosed, rfl⟩
  · exact .inr rfl

theorem events_of_untaken {t : Transport} (h : t.outbound.stream = .untaken) :
    t.events = .ok { t with outbound := { t.outbound with stream := opened t.framing } } := by
  rw [Transport.events, h]

theorem events_of_taken {t : Transport} (h : t.outbound.stream ≠ .untaken) :
    t.events = .error .streamTaken := by
  unfold Transport.events
  split
  · exact absurd ‹_› h
  · rfl

theorem Flowing.next (h : Flowing framing l) (move : Move) : Flowing framing (l.next move) := by
  cases move with
  | process | belated | resume | giveUp | takeInbound | receive | dropInbound =>
    exact h.of_same (sameOutward_next l rfl)
  | send m => exact h.push (.message m)
  | abandon => exact h.push .abandoned
  | openStream =>
    by_cases huntaken : l.transport.outbound.stream = .untaken
    · have hstands := h.stands.opened huntaken
      rw [← h.framed] at hstands ⊢
      simp only [Life.next, events_of_untaken huntaken]
      refine ⟨rfl, hstands, by simp [h.untaken huntaken], fun hnot => ?_⟩
      rcases hframing : l.transport.framing <;> simp [Outbound.opened, hframing] at hnot
    · simp only [Life.next, events_of_taken huntaken]
      exact h
  | read =>
    simp only [Life.next]
    rcases next_cases l.transport with ⟨-, heq⟩ | heq
    · rw [heq]
      simpa [Reading.event?] using h
    · rw [heq]
      refine ⟨h.framed, h.stands.next, h.once, fun hnot => h.untaken ?_⟩
      by_contra hother
      exact stream_next hother hnot
  | dropStream =>
    simp only [Life.next]
    split_ifs
    · exact ⟨h.framed, .dropped h.stands.told_prefix _, h.once, by simp [Transport.dropStream]⟩
    · exact h
  | dispose =>
    simp only [Life.next, dispose]
    split_ifs
    · exact h
    · exact ⟨h.framed, .dropped h.stands.told_prefix _, h.once, by simp⟩
    · exact ⟨h.framed, h.stands, h.once, h.untaken⟩
    · exact ⟨h.framed, .dropped h.stands.told_prefix _, h.once, by simp⟩
    · exact ⟨h.framed, h.stands, h.once, h.untaken⟩

theorem flowing_after (clientId : String) (framing : Framing) (capacity : Nat)
    (moves : List Move) : Flowing framing (after clientId framing capacity moves) :=
  run_induction (Flowing framing) ⟨rfl, .untaken [], Nat.zero_le 1, fun _ => rfl⟩ Flowing.next moves

/-! ## After the end -/

theorem event?_next_of_closed {t : Transport} (h : t.closed = true) : t.next.1.event? = none := by
  cases hstream : t.outbound.stream <;>
    simp [Transport.next, Outbound.next, Reading.event?, h, hstream]

theorem told_next (h : l.transport.closed = true) (move : Move) : (l.next move).told = l.told := by
  cases move with
  | process | belated | resume | giveUp | takeInbound | receive | dropInbound =>
    exact (sameOutward_next l rfl).told
  | send | abandon => simp [Life.next, Life.push, send, abandon, Transport.push, h]
  | openStream =>
    simp only [Life.next]
    split <;> rfl
  | read => simp [Life.next, event?_next_of_closed h]
  | dropStream =>
    simp only [Life.next]
    split_ifs <;> rfl
  | dispose => rfl

theorem told_run (h : l.transport.closed = true) (moves : List Move) :
    (l.run moves).told = l.told :=
  (run_induction (fun l' => l'.transport.closed = true ∧ l'.told = l.told) ⟨h, rfl⟩
    (fun h move => ⟨closed_next h.1 move, (told_next h.1 move).trans h.2⟩) moves).2

/-! ## What is told -/

/-- An open stream that is held tells what is due, ends when all is told, or waits. -/
theorem Flowing.outcome (h : Flowing framing l) (hheld : l.transport.streamHeld = true)
    (hopen : l.transport.closed = false) :
    (∃ e rest, due framing l.sent = l.told ++ e :: rest ∧ l.transport.next.1 = .event e) ∨
      due framing l.sent = l.told ∧ Complete framing l.sent ∧ l.transport.next.1 = .finished ∨
      due framing l.sent = l.told ∧ ¬ Complete framing l.sent ∧ l.transport.next.1 = .pending := by
  have hnext : l.transport.next.1 = l.transport.outbound.next.1 := by
    rcases next_cases l.transport with ⟨hclosed, -⟩ | hnext
    · rw [hopen] at hclosed
      cases hclosed
    · rw [hnext]
  rw [hnext]
  cases hreading : l.transport.outbound.next.1 with
  | event e =>
    obtain ⟨rest, hrest⟩ := h.stands.of_event hreading
    exact .inl ⟨e, rest, hrest, rfl⟩
  | finished =>
    obtain ⟨hdue, hcomplete⟩ := h.stands.of_finished hreading
    exact .inr (.inl ⟨hdue, hcomplete, rfl⟩)
  | pending =>
    obtain ⟨hdue, hcomplete⟩ := h.stands.of_pending hreading
    exact .inr (.inr ⟨hdue, hcomplete, rfl⟩)
  | absent =>
    rcases stream_of_absent hreading with hstream | hstream <;>
      simp [streamHeld, hstream] at hheld

theorem Flowing.tells (h : Flowing framing l) : Tells framing l where
  told := h.stands.told_prefix
  next := fun hheld hopen e rest hdue => by
    rcases h.outcome hheld hopen with ⟨e', rest', hdue', hnext⟩ | ⟨hdue', -⟩ | ⟨hdue', -⟩
    · rw [hdue, List.append_cancel_left_eq, List.cons.injEq] at hdue'
      rw [hnext, hdue'.1]
    · simp [hdue] at hdue'
    · simp [hdue] at hdue'
  waits := fun hheld hopen hdue hcomplete => by
    rcases h.outcome hheld hopen with ⟨e, rest, hdue', -⟩ | ⟨-, hcomplete', -⟩ | ⟨-, -, hnext⟩
    · simp [hdue] at hdue'
    · exact absurd hcomplete' hcomplete
    · exact hnext
  ends := fun hheld hopen hdue hcomplete => by
    rcases h.outcome hheld hopen with ⟨e, rest, hdue', -⟩ | ⟨-, -, hnext⟩ | ⟨-, hcomplete', -⟩
    · simp [hdue] at hdue'
    · exact hnext
    · exact absurd hcomplete hcomplete'
  finished := fun hfinished => by
    rcases next_cases l.transport with ⟨hclosed, -⟩ | hnext
    · exact .inl hclosed
    · rw [hnext] at hfinished
      exact .inr (h.stands.of_finished hfinished)
  once := h.once
  again := fun hhanded => events_of_taken fun huntaken => by
    have hnot := h.untaken huntaken
    omega
  afterEnd := fun moves => by
    have hclosed := closed_disposed l moves
    refine ⟨told_run (closed_dispose l.transport) moves, fun m => ?_, ?_, fun m => ?_⟩
    · simp [send, Transport.push, hclosed]
    · simp [abandon, Transport.push, hclosed]
    · simp [Transport.offer, hclosed]

theorem stream_tells_what_was_sent (clientId : String) (framing : Framing) (capacity : Nat)
    (moves : List Move) : Tells framing (after clientId framing capacity moves) :=
  (flowing_after clientId framing capacity moves).tells

end Life

end SessionRelay.Transport
