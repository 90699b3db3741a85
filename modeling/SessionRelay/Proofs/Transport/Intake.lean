import SessionRelay.Proofs.Transport.Life
import SessionRelay.Proofs.Transport.Slots

/-!
# What comes in

At the end of a transport everybody who waits in line for its inbound queue is sent away, but they
go one by one, and some may still get in. Taken together with those who have not gone yet
(`Inbound.recalled`), the line is one line before and after the end: the end alone does nothing to
it, and every move does to it what it does to the queue of an open transport (`turn_next`).
-/

namespace SessionRelay

namespace Inbound

variable {q q' : Inbound} {ticket : Nat} {m : Rpc.Message} {seat : Option Nat}

theorem recalled_of_leaving (h : q.leaving = []) : q.recalled = q := by
  rcases q with ⟨_, _, line, _, _, _⟩
  subst h
  rfl

theorem recalled_dismiss (q : Inbound) : q.dismiss.recalled = q.recalled := by
  simp only [recalled, dismiss, List.append_nil]

theorem Use.leaving (h : q.Use seat q') (hnone : q.leaving = []) : q'.leaving = [] := by
  cases h with
  | same => exact hnone
  | taken htake =>
    unfold take? at htake
    split at htake <;> cases htake
    simp [hnone, admitFirst]
  | offered m =>
    unfold offer
    split_ifs <;> exact hnone
  | entered ticket _ =>
    unfold enter
    split
    · split_ifs <;> exact hnone
    · exact hnone
  | left ticket _ =>
    unfold leave
    split <;> exact hnone

theorem recalled_depart (q : Inbound) (ticket : Nat) :
    (q.depart ticket).recalled = q.recalled.leave ticket := by
  have huse : q.recalled.Use (some ticket) (q.recalled.leave ticket) := .left ticket rfl
  rw [depart, recalled_dismiss, recalled_of_leaving (huse.leaving rfl)]

theorem recalled_slipIn (q : Inbound) (ticket : Nat) :
    (q.slipIn ticket).recalled = q.recalled.enter ticket := by
  have huse : q.recalled.Use (some ticket) (q.recalled.enter ticket) := .entered ticket rfl
  rw [slipIn, recalled_dismiss, recalled_of_leaving (huse.leaving rfl)]

/-- A slot goes to those who were sent away as if they were in line. -/
theorem take?_recalled (hside : q.line = [] ∨ q.leaving = []) (h : q.take? = some (m, q')) :
    q.recalled.take? = some (m, q'.recalled) := by
  unfold take? at h
  split at h <;> cases h
  rename_i rest hqueue
  rcases hside with hline | hleaving
  · simp [take?, recalled, hqueue, hline, admitFirst]
  · simp [take?, recalled, hqueue, hleaving, admitFirst]

theorem leave_of_dismissed (h : q.standing ticket = .dismissed) : q.leave ticket = q := by
  have hnone : q.writer? ticket = none := by
    unfold standing at h
    split at h
    · assumption
    · split_ifs at h
  rw [leave, h, without_of_writer? hnone]

end Inbound

namespace Transport

open Inbound

/-- What comes in, with the line as if nobody had been sent away. -/
structure Intake where
  whole : Inbound
  calls : List Call
  accepted : List (Nat × Rpc.Message)
  received : List Rpc.Message

def Life.intake (l : Life) : Intake :=
  ⟨l.transport.inbound.recalled, l.calls, l.accepted, l.received⟩

/-- What a move does to what comes in. -/
inductive Turn (i : Intake) : Move → Intake → Prop
  | idle (move : Move) : Turn i move i
  | taken (hreader : i.whole.reader = .untaken) :
      Turn i .takeInbound { i with whole := { i.whole with reader := .taken } }
  | closed {move : Move}
      (hmove : move = .dropInbound ∨ move = .dispose ∧ i.whole.reader = .untaken) :
      Turn i move { i with whole := i.whole.close }
  | received {m : Rpc.Message} {q : Inbound} (hreader : i.whole.reader = .taken)
      (htake : i.whole.take? = some (m, q)) :
      Turn i .receive { i with whole := q, received := i.received ++ [m] }
  | refused {move : Move} (m : Rpc.Message) :
      Turn i move { i with calls := i.calls ++ [⟨m, .refused⟩] }
  | accepted {move : Move} {m : Rpc.Message}
      (hmove : move = .process m ∨ move = .belated m .place) (hreader : i.whole.reader ≠ .gone)
      (hroom : i.whole.hasRoom = true) :
      Turn i move
        { i with
          whole := (i.whole.offer m).2
          calls := i.calls ++ [⟨m, .accepted⟩]
          accepted := i.accepted ++ [(i.calls.length, m)] }
  | queued (m : Rpc.Message) (hreader : i.whole.reader ≠ .gone)
      (hfull : i.whole.hasRoom = false) :
      Turn i (.process m)
        { i with
          whole := (i.whole.offer m).2
          calls := i.calls ++ [⟨m, .waiting i.whole.nextTicket⟩] }
  | entered {k ticket : Nat} {m : Rpc.Message} (first : Glance)
      (hcall : i.calls[k]? = some ⟨m, .waiting ticket⟩)
      (hadmitted : i.whole.standing ticket = .admitted) :
      Turn i (.resume k first)
        { i with
          whole := i.whole.enter ticket
          calls := i.calls.set k ⟨m, .accepted⟩
          accepted := i.accepted ++ [(k, m)] }
  | left {move : Move} {k ticket : Nat} {m : Rpc.Message} {fate : Fate}
      (hmove : (∃ first, move = .resume k first) ∨ move = .giveUp k)
      (hcall : i.calls[k]? = some ⟨m, .waiting ticket⟩)
      (hfate : fate = .refused ∨ fate = .forgotten) :
      Turn i move
        { i with whole := i.whole.leave ticket, calls := i.calls.set k ⟨m, fate⟩ }

/-- Everybody who waits is in line before the end, and was sent away after it. -/
structure Sided (t : Transport) : Prop where
  staying : t.closed = false → t.inbound.leaving = []
  going : t.closed = true → t.inbound.line = []
  /-- After the end nobody is handed the reading end. -/
  claimed : t.closed = true → t.inbound.reader ≠ .untaken

theorem inbound_dispose {t : Transport} (hopen : t.closed = false) : t.dispose.inbound =
    if t.inbound.reader = .untaken then t.inbound.close else t.inbound.dismiss := by
  simp [dispose, hopen]

namespace Sided

variable {t : Transport} {q : Inbound} {seat : Option Nat}

theorem use (h : t.Sided) (hopen : t.closed = false) (huse : t.inbound.Use seat q) :
    Sided { t with inbound := q } where
  staying := fun _ => huse.leaving (h.staying hopen)
  going := fun hclosed => by cases hopen.symm.trans hclosed
  claimed := fun hclosed => by cases hopen.symm.trans hclosed

theorem of_line (h : t.Sided) (hclosed : t.closed = true) (hline : q.line = [])
    (hreader : q.reader = t.inbound.reader) : Sided { t with inbound := q } where
  staying := fun hopen => by cases hopen.symm.trans hclosed
  going := fun _ => hline
  claimed := fun _ => hreader.trans_ne (h.claimed hclosed)

theorem close (t : Transport) : Sided { t with inbound := t.inbound.close } :=
  ⟨fun _ => rfl, fun _ => rfl, fun _ => nofun⟩

theorem offer (h : t.Sided) (m : Rpc.Message) : (t.offer m).2.Sided := by
  unfold Transport.offer
  split_ifs with hclosed
  · exact h
  · exact h.use (by simpa using hclosed) (.offered m : t.inbound.Use none _)

theorem offerLate (h : t.Sided) (hclosed : t.closed = true) (m : Rpc.Message) (first : Glance) :
    (t.offerLate m first).2.Sided := by
  unfold Transport.offerLate
  split_ifs
  · exact h.of_line hclosed (h.going hclosed) rfl
  · exact h

theorem depart (h : t.Sided) (hclosed : t.closed = true) (ticket : Nat) :
    Sided { t with inbound := t.inbound.depart ticket } := by
  have huse : t.inbound.recalled.Use (some ticket) _ := .left ticket rfl
  exact h.of_line hclosed rfl huse.steady.1

theorem look (h : t.Sided) (ticket : Nat) (first : Glance) : (t.look ticket first).2.Sided := by
  unfold Transport.look
  split_ifs with hclosed
  · have huse : t.inbound.recalled.Use (some ticket) _ := .entered ticket rfl
    exact h.of_line hclosed rfl huse.steady.1
  · exact h.depart hclosed ticket
  · split
    · exact h
    · exact h.use (by simpa using hclosed) (.entered ticket rfl)
    · exact h

theorem withdraw (h : t.Sided) (ticket : Nat) : (t.withdraw ticket).Sided := by
  unfold Transport.withdraw
  split_ifs with hclosed
  · exact h.depart hclosed ticket
  · exact h.use (by simpa using hclosed) (.left ticket rfl)

theorem takeInbound? (h : t.Sided) {t' : Transport} (htake : t.takeInbound? = some t') :
    t'.Sided := by
  unfold Transport.takeInbound? at htake
  split at htake <;> cases htake
  exact ⟨h.staying, h.going, fun _ => nofun⟩

theorem takeMessage (h : t.Sided) : t.takeMessage.2.Sided := by
  unfold Transport.takeMessage
  split
  · rename_i m q _ htake
    have huse : t.inbound.Use none q := .taken htake
    by_cases hclosed : t.closed = true
    · refine h.of_line hclosed ?_ huse.steady.1
      have hline := h.going hclosed
      unfold take? at htake
      split at htake <;> cases htake
      rw [hline]
      rfl
    · exact h.use (by simpa using hclosed) huse
  · exact h
  · exact h

theorem dispose (h : t.Sided) : t.dispose.Sided := by
  cases hclosed : t.closed with
  | true =>
    rw [Transport.dispose, if_pos hclosed]
    exact h
  | false =>
    have hinbound := inbound_dispose hclosed
    have hafter : t.dispose.closed = true := by simp [Transport.dispose, hclosed]
    refine ⟨fun hopen => absurd hafter (by simp [hopen]), fun _ => ?_, fun _ => ?_⟩
    · rw [hinbound]
      split_ifs <;> rfl
    · rw [hinbound]
      split_ifs with huntaken
      · nofun
      · exact huntaken

/-- Who does not read at the end does not read after it. -/
theorem reader_dispose (h : t.Sided) (hreader : t.inbound.reader ≠ .taken) :
    t.dispose.inbound.reader = .gone := by
  have hgone : t.inbound.reader ≠ .untaken → t.inbound.reader = .gone := fun huntaken => by
    cases hold : t.inbound.reader <;> simp_all
  cases hclosed : t.closed with
  | true =>
    rw [Transport.dispose, if_pos hclosed]
    exact hgone (h.claimed hclosed)
  | false =>
    rw [inbound_dispose hclosed]
    split_ifs with huntaken
    · rfl
    · exact hgone huntaken

end Sided

namespace Life

variable {l l' : Life} {k ticket : Nat} {m : Rpc.Message} {first : Glance}

theorem SameInward.intake (h : SameInward l l') : l'.intake = l.intake := by
  rw [Life.intake, h.inbound, h.calls, h.accepted, h.received]
  rfl

theorem next_process_of_closed (hclosed : l.transport.closed = true) (m : Rpc.Message) :
    l.next (.process m) = { l with calls := l.calls ++ [⟨m, .refused⟩] } := by
  simp only [next, offer, hclosed, if_true, bring]

/-- Only a call that waits looks again or gives up. -/
theorem waiting_or (l : Life) (k : Nat) : (∃ m ticket, l.calls[k]? = some ⟨m, .waiting ticket⟩) ∨
    (∀ first, l.next (.resume k first) = l) ∧ l.next (.giveUp k) = l := by
  by_cases hcall : ∃ m ticket, l.calls[k]? = some ⟨m, .waiting ticket⟩
  · exact .inl hcall
  · have hnot : ∀ m ticket, l.calls[k]? ≠ some ⟨m, .waiting ticket⟩ := by simpa using hcall
    exact .inr ⟨fun first => by simp only [next], by simp only [next]⟩

theorem next_resume (h : l.calls[k]? = some ⟨m, .waiting ticket⟩) (first : Glance) :
    l.next (.resume k first) = l.settle k m (l.transport.look ticket first) := by
  simp only [next, h]

theorem next_giveUp (h : l.calls[k]? = some ⟨m, .waiting ticket⟩) :
    l.next (.giveUp k) =
      { l with
        transport := l.transport.withdraw ticket
        calls := l.calls.set k ⟨m, .forgotten⟩ } := by
  simp only [next, h]

/-! ## Looking -/

theorem offer_of_open {t : Transport} (hopen : t.closed = false) (m : Rpc.Message) :
    t.offer m = ((t.inbound.offer m).1, { t with inbound := (t.inbound.offer m).2 }) := by
  simp [offer, hopen]

theorem look_of_open {t : Transport} (hopen : t.closed = false) (ticket : Nat) (first : Glance) :
    t.look ticket first = (t.inbound.standing ticket,
      { t with inbound := match t.inbound.standing ticket with
          | .admitted => t.inbound.enter ticket
          | _ => t.inbound }) := by
  rcases t with ⟨_, _, _, _, _⟩
  subst hopen
  unfold look
  split
  · contradiction
  · split <;> simp_all

/-- After the end a writer gets in if it looks at its place first and has a slot. -/
theorem look_of_admitted {t : Transport} (hclosed : t.closed = true)
    (hadmitted : t.inbound.recalled.standing ticket = .admitted) :
    t.look ticket .place = (.admitted, { t with inbound := t.inbound.slipIn ticket }) := by
  simp [look, hclosed, hadmitted]

theorem look_of_closed {t : Transport} (hclosed : t.closed = true)
    (hnot : ¬ (first = .place ∧ t.inbound.recalled.standing ticket = .admitted)) :
    t.look ticket first = (.dismissed, { t with inbound := t.inbound.depart ticket }) := by
  simp [look, hclosed, hnot]

/-! ## What a move does -/

theorem turn_process (h : l.transport.Sided) (m : Rpc.Message) :
    Turn l.intake (.process m) (l.next (.process m)).intake := by
  cases hclosed : l.transport.closed with
  | true =>
    rw [next_process_of_closed hclosed]
    exact .refused m
  | false =>
    have hwhole := recalled_of_leaving (h.staying hclosed)
    have huse : l.transport.inbound.Use none (l.transport.inbound.offer m).2 := .offered m
    have hafter := recalled_of_leaving (huse.leaving (h.staying hclosed))
    simp only [next, offer_of_open hclosed]
    by_cases hgone : l.transport.inbound.reader = .gone
    · rw [Inbound.offer_of_gone hgone]
      exact .refused m
    · cases hroom : l.transport.inbound.hasRoom with
      | true =>
        have hturn : Turn l.intake (.process m) _ :=
          .accepted (.inl rfl) hgone (by rw [intake, hwhole, hroom])
        rw [Inbound.offer_of_room hgone hroom] at hafter ⊢
        simpa only [bring, intake, hwhole, hafter, Inbound.offer_of_room hgone hroom] using hturn
      | false =>
        have hturn : Turn l.intake (.process m) _ :=
          .queued m hgone (by rw [intake, hwhole, hroom])
        rw [Inbound.offer_of_full hgone hroom] at hafter ⊢
        simpa only [bring, intake, hwhole, hafter, Inbound.offer_of_full hgone hroom] using hturn

theorem turn_resume (h : l.transport.Sided) (hcall : l.calls[k]? = some ⟨m, .waiting ticket⟩)
    (first : Glance) : Turn l.intake (.resume k first) (l.next (.resume k first)).intake := by
  rw [next_resume hcall]
  cases hclosed : l.transport.closed with
  | true =>
    by_cases hin : first = .place ∧ l.transport.inbound.recalled.standing ticket = .admitted
    · obtain ⟨rfl, hadmitted⟩ := hin
      rw [look_of_admitted hclosed hadmitted]
      simp only [settle, intake, recalled_slipIn]
      exact .entered .place hcall hadmitted
    · rw [look_of_closed hclosed hin]
      simp only [settle, intake, recalled_depart]
      exact .left (.inl ⟨first, rfl⟩) hcall (.inl rfl)
  | false =>
    have hstaying := h.staying hclosed
    have hwhole : l.intake.whole = l.transport.inbound := recalled_of_leaving hstaying
    rw [look_of_open hclosed]
    cases hstanding : l.transport.inbound.standing ticket with
    | waiting => exact .idle _
    | admitted =>
      have huse : l.transport.inbound.Use (some ticket) (l.transport.inbound.enter ticket) :=
        .entered ticket rfl
      have hturn : Turn l.intake (.resume k first) _ :=
        .entered first hcall (hwhole ▸ hstanding)
      have hafter := recalled_of_leaving (huse.leaving hstaying)
      simpa only [settle, intake, hafter, recalled_of_leaving hstaying] using hturn
    | dismissed =>
      have hturn : Turn l.intake (.resume k first) _ := .left (.inl ⟨first, rfl⟩) hcall (.inl rfl)
      rw [hwhole, leave_of_dismissed hstanding, ← hwhole] at hturn
      exact hturn

theorem turn_giveUp (h : l.transport.Sided) (hcall : l.calls[k]? = some ⟨m, .waiting ticket⟩) :
    Turn l.intake (.giveUp k) (l.next (.giveUp k)).intake := by
  have hturn : Turn l.intake (.giveUp k) _ := .left (.inr rfl) hcall (.inr rfl)
  rw [next_giveUp hcall]
  cases hclosed : l.transport.closed with
  | true => simpa only [intake, withdraw, hclosed, if_true, recalled_depart] using hturn
  | false =>
    have hstaying := h.staying hclosed
    have huse : l.transport.inbound.Use (some ticket) (l.transport.inbound.leave ticket) :=
      .left ticket rfl
    have hwhole : l.intake.whole = l.transport.inbound := recalled_of_leaving hstaying
    have hafter := recalled_of_leaving (huse.leaving hstaying)
    simpa [intake, withdraw, hclosed, hafter, recalled_of_leaving hstaying] using hturn

theorem turn_belated (l : Life) (m : Rpc.Message) (first : Glance) :
    Turn l.intake (.belated m first) (l.next (.belated m first)).intake := by
  simp only [next]
  split_ifs
  · unfold offerLate
    split_ifs with hin
    · obtain ⟨rfl, hreader, hroom⟩ := hin
      have hturn : Turn l.intake (.belated m .place) _ := .accepted (.inr rfl) hreader hroom
      have hoffer := Inbound.offer_of_room (q := l.transport.inbound.recalled) hreader hroom m
      rw [intake, hoffer] at hturn
      exact hturn
    · exact .refused m
  · exact .idle _

/-- The holder of the reading end takes the first message of the whole queue. -/
theorem intake_receive (h : l.transport.Sided) (hreader : l.transport.inbound.reader = .taken)
    {q : Inbound} (htake : l.transport.inbound.take? = some (m, q)) :
    l.intake.whole.take? = some (m, q.recalled) ∧ (l.next .receive).intake =
      { l.intake with whole := q.recalled, received := l.received ++ [m] } := by
  have hside : l.transport.inbound.line = [] ∨ l.transport.inbound.leaving = [] := by
    cases hclosed : l.transport.closed with
    | true => exact .inl (h.going hclosed)
    | false => exact .inr (h.staying hclosed)
  refine ⟨take?_recalled hside htake, ?_⟩
  simp only [next, takeMessage, hreader, htake]
  rfl

theorem turn_receive (h : l.transport.Sided) :
    Turn l.intake .receive (l.next .receive).intake := by
  cases hreader : l.transport.inbound.reader with
  | taken =>
    cases htake : l.transport.inbound.take? with
    | none =>
      simp only [next, takeMessage, hreader, htake]
      exact .idle _
    | some r =>
      obtain ⟨htake', hnext⟩ := intake_receive h hreader htake
      rw [hnext]
      exact .received hreader htake'
  | untaken | gone =>
    simp only [next, takeMessage, hreader]
    exact .idle _

theorem turn_dispose (l : Life) : Turn l.intake .dispose (l.next .dispose).intake := by
  cases hclosed : l.transport.closed with
  | true =>
    simp only [next, dispose, hclosed, if_true]
    exact .idle _
  | false =>
    have hinbound := inbound_dispose hclosed
    by_cases huntaken : l.transport.inbound.reader = .untaken
    · rw [if_pos huntaken] at hinbound
      simp only [next, intake, hinbound]
      exact .closed (.inr ⟨rfl, huntaken⟩)
    · rw [if_neg huntaken] at hinbound
      simp only [next, intake, hinbound, recalled_dismiss]
      exact .idle _

/-- What comes in goes on as the queue of an open transport would. -/
theorem turn_next (h : l.transport.Sided) (move : Move) :
    Turn l.intake move (l.next move).intake := by
  cases move with
  | send | abandon | openStream | read | dropStream =>
    rw [(sameInward_next l rfl).intake]
    exact .idle _
  | process m => exact turn_process h m
  | belated m first => exact turn_belated l m first
  | resume k first =>
    rcases waiting_or l k with ⟨m, ticket, hcall⟩ | ⟨hsame, -⟩
    · exact turn_resume h hcall first
    · rw [hsame]
      exact .idle _
  | giveUp k =>
    rcases waiting_or l k with ⟨m, ticket, hcall⟩ | ⟨-, hsame⟩
    · exact turn_giveUp h hcall
    · rw [hsame]
      exact .idle _
  | receive => exact turn_receive h
  | takeInbound =>
    cases hreader : l.transport.inbound.reader with
    | untaken =>
      simp only [next, takeInbound?, hreader]
      exact .taken hreader
    | taken | gone =>
      simp only [next, takeInbound?, hreader]
      exact .idle _
  | dropInbound =>
    simp only [next, dropInbound]
    split_ifs
    · exact .closed (.inl rfl)
    · exact .idle _
  | dispose => exact turn_dispose l

theorem SameInward.sided (hsame : SameInward l l') (h : l.transport.Sided) :
    l'.transport.Sided := by
  obtain ⟨hstaying, hgoing, hclaimed⟩ := h
  rw [← hsame.closed, ← hsame.inbound] at *
  exact ⟨hstaying, hgoing, hclaimed⟩

theorem transport_bring (l : Life) (m : Rpc.Message) (r : Offer × Transport) :
    (l.bring m r).transport = r.2 := by
  rcases r with ⟨_ | _ | _, t⟩ <;> rfl

theorem transport_settle (l : Life) (k : Nat) (m : Rpc.Message) (r : Standing × Transport) :
    (l.settle k m r).transport = l.transport ∨ (l.settle k m r).transport = r.2 := by
  rcases r with ⟨_ | _ | _, t⟩
  · exact .inl rfl
  · exact .inr rfl
  · exact .inr rfl

theorem sided_next (h : l.transport.Sided) (move : Move) :
    (l.next move).transport.Sided := by
  cases move with
  | send | abandon | openStream | read | dropStream =>
    exact (sameInward_next l rfl).sided h
  | process m =>
    simp only [next, transport_bring]
    exact h.offer m
  | belated m first =>
    simp only [next]
    split_ifs with hclosed
    · rw [transport_bring]
      exact h.offerLate hclosed m first
    · exact h
  | resume k first =>
    simp only [next]
    split
    · rcases transport_settle l k _ _ with heq | heq
      · rw [heq]
        exact h
      · rw [heq]
        exact h.look _ first
    · exact h
  | giveUp k =>
    simp only [next]
    split
    · exact h.withdraw _
    · exact h
  | takeInbound =>
    simp only [next]
    split
    · rename_i htake
      exact h.takeInbound? htake
    · exact h
  | receive =>
    simp only [next]
    have hafter := h.takeMessage
    split
    · rename_i heq
      rw [heq] at hafter
      exact hafter
    · rename_i heq
      rw [heq] at hafter
      exact hafter
  | dropInbound =>
    simp only [next, dropInbound]
    split_ifs
    · exact .close _
    · exact h
  | dispose => exact h.dispose

end Life

end Transport

end SessionRelay
