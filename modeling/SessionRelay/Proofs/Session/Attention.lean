import SessionRelay.Proofs.Session.Deed
import SessionRelay.Proofs.Session.InHand
import SessionRelay.Proofs.Session.Steady
import SessionRelay.Proofs.Transport.Line

/-!
# Sessions that take messages

Whatever is done to a session, its inbound queue is used or the session takes no more messages
(`use_after`). So as long as it takes them, a writer in line keeps its place unless something is done
in the writer's name (`waits?_foldl`).
-/

namespace SessionRelay.Session

open Inbound (Use Emptied Tidy)

variable {s s' : Session} {router : Router} {ticket : Nat} {m : Rpc.Message}

/-- Whether a session still takes messages. -/
structure Attends (s : Session) : Prop where
  held : s.transport.closed = false
  reader : s.transport.inbound.reader ≠ .gone

instance (s : Session) : Decidable s.Attends :=
  decidable_of_iff (s.transport.closed = false ∧ s.transport.inbound.reader ≠ .gone)
    ⟨fun h => ⟨h.1, h.2⟩, fun h => ⟨h.held, h.reader⟩⟩

/-- The place in line that is used or given up. -/
def Doing.seat? : Doing → Option Nat
  | .move (.enter ticket) | .move (.leave ticket) => some ticket
  | _ => none

/-! ## Work -/

/-- The second session has the transport of the first, with other items for the client. -/
def Refills (s s' : Session) : Prop :=
  ∃ queue, s'.transport = { s.transport with outbound := { s.transport.outbound with queue } }

namespace Refills

theorem of_same (h : s'.transport = s.transport) : s.Refills s' :=
  ⟨s.transport.outbound.queue, h⟩

theorem refl (s : Session) : s.Refills s := .of_same rfl

theorem trans {s'' : Session} (h : s.Refills s') (h' : s'.Refills s'') : s.Refills s'' := by
  obtain ⟨queue, hqueue⟩ := h
  obtain ⟨queue', hqueue'⟩ := h'
  exact ⟨queue', by rw [hqueue', hqueue]⟩

theorem inbound (h : s.Refills s') : s'.transport.inbound = s.transport.inbound := by
  obtain ⟨queue, hqueue⟩ := h
  rw [hqueue]

theorem stream (h : s.Refills s') :
    s'.transport.outbound.stream = s.transport.outbound.stream := by
  obtain ⟨queue, hqueue⟩ := h
  rw [hqueue]

end Refills

theorem refills_writeBack (s : Session) (response : Option Rpc.Response) :
    s.Refills (s.writeBack response) := by
  obtain ⟨queue, hwritten⟩ := s.writeBack_queue response
  exact ⟨queue, by rw [hwritten]⟩

theorem refills_answered (s : Session) (request : Rpc.Request) (number : Nat)
    (response : Rpc.Response) : s.Refills (s.answered request number response).2 := by
  unfold answered
  simp only
  split_ifs
  · exact .of_same rfl
  · cases response with
    | success r =>
      unfold agree
      split_ifs <;> exact .of_same rfl
    | failure r => exact .of_same rfl

theorem refills_goOn (s : Session) (signals : List String) (job : Job) (number : Nat)
    (work : Activity Rpc.Response) : s.Refills (s.goOn signals job number work) := by
  have hremoved : s.Refills (s.removeJob job.ticket) := .of_same rfl
  unfold goOn
  split
  · exact .of_same rfl
  · exact hremoved.trans ((refills_answered _ job.request number _).trans (refills_writeBack _ _))
  · have hcrashed : s.Refills ((s.removeJob job.ticket).finish job.request.id number) :=
      .of_same rfl
    exact hcrashed.trans (refills_writeBack _ _)

theorem refills_runJob (s : Session) (router : Router) (signals : List String) (ticket : Nat) :
    s.Refills (s.runJob router signals ticket) := by
  unfold runJob
  split
  · exact .refl s
  · rename_i job _
    split
    · have hregister : s.Refills (s.register job.request.id).2 := .of_same rfl
      exact hregister.trans (refills_goOn _ signals _ _ _)
    · exact refills_goOn s signals _ _ _

theorem refills_handle (s : Session) (router : Router) (signals : List String) (m : Rpc.Message) :
    s.Refills (s.handle router signals m) := by
  cases m with
  | request r =>
    have hadd : s.Refills (s.addJob r) := .of_same rfl
    simp only [handle]
    split_ifs
    · exact hadd.trans (refills_runJob _ router signals s.nextJob)
    · exact hadd
  | notification n =>
    simp only [handle, notice]
    split <;> exact .of_same rfl
  | success r => exact .refl s
  | failure r => exact .refl s

/-! ## What is done to the queue -/

theorem use_pump (s : Session) (router : Router) (signals : List String) (seat : Option Nat) :
    s.transport.inbound.Use seat (s.pump router signals).transport.inbound := by
  unfold pump
  split
  · rename_i m s' htake
    obtain ⟨inbound, hinbound, rfl⟩ := take?_eq_some htake
    rw [(refills_handle _ router signals m).inbound]
    exact .taken hinbound
  · exact .same

theorem use_offer (s : Session) (m : Rpc.Message) (seat : Option Nat) :
    s.transport.inbound.Use seat (s.offer m).2.transport.inbound := by
  simp only [offer, Transport.offer]
  split_ifs
  · exact .same
  · exact .offered m

theorem use_apply (s : Session) (router : Router) (move : Move) :
    s.transport.inbound.Use (Doing.move move).seat? (s.apply router move).transport.inbound := by
  have hsame : ∀ {q : Inbound} {seat : Option Nat}, q = s.transport.inbound →
      s.transport.inbound.Use seat q := by
    rintro q seat rfl
    exact .same
  cases move with
  | pump signals => exact s.use_pump router signals none
  | work ticket signals => exact hsame (s.refills_runJob router signals ticket).inbound
  | offer m => exact s.use_offer m none
  | enter ticket => exact .entered ticket rfl
  | leave ticket => exact .left ticket rfl
  | openStream =>
    rcases events_cases s with h | ⟨-, h⟩
    · exact hsame (by rw [apply, h])
    · exact hsame (by rw [apply, h])
  | read => exact hsame s.transport.inbound_next
  | reject id error =>
    obtain ⟨queue, h⟩ := s.push_queue (.message (Rpc.Response.error id error).toMessage)
    have hsent : s.apply router (.reject id error) = _ := h
    exact hsame (by rw [hsent])

theorem emptied_dispose {t : Transport} (h : t.closed = false) :
    t.inbound.Emptied t.dispose.inbound := by
  rw [Transport.dispose, if_neg (by simp [h])]
  by_cases huntaken : t.inbound.reader = .untaken
  · simp only [huntaken, if_true]
    exact ⟨rfl, rfl⟩
  · simp only [huntaken, if_false]
    exact ⟨rfl, rfl⟩

/-- What becomes of a session when it is disposed of: nothing, or it takes no more messages. -/
theorem cases_dispose (t : Transport) :
    t.dispose = t ∨ t.dispose.closed = true ∧ t.inbound.Emptied t.dispose.inbound := by
  cases hclosed : t.closed with
  | true => exact .inl (by rw [Transport.dispose, if_pos hclosed])
  | false => exact .inr ⟨(Transport.disposed_dispose hclosed).closed, emptied_dispose hclosed⟩

/-- The queue of a session is used, or the session takes no more messages. -/
theorem use_after (s : Session) (router : Router) (doing : Doing) :
    (s.after router doing).transport.closed = s.transport.closed ∧
        s.transport.inbound.Use doing.seat? (s.after router doing).transport.inbound ∨
      ¬ (s.after router doing).Attends ∧
        s.transport.inbound.Emptied (s.after router doing).transport.inbound := by
  have hdispose := cases_dispose s.transport
  have hshut : s.shutDown.transport.closed = s.transport.closed ∧
      s.transport.inbound.Use none s.shutDown.transport.inbound ∨
        ¬ s.shutDown.Attends ∧ s.transport.inbound.Emptied s.shutDown.transport.inbound := by
    unfold shutDown
    split_ifs
    · exact .inl ⟨rfl, .same⟩
    · rcases hdispose with h | ⟨hclosed, hemptied⟩
      · rw [h]
        exact .inl ⟨rfl, .same⟩
      · exact .inr ⟨fun h => Bool.false_ne_true (h.held.symm.trans hclosed), hemptied⟩
  cases doing with
  | move move => exact .inl ⟨(s.steady_apply router move).transport.closed, s.use_apply router move⟩
  | stopPump =>
    simp only [after]
    split_ifs
    · exact .inr ⟨fun h => h.reader rfl, ⟨rfl, rfl⟩⟩
    · exact .inl ⟨rfl, .same⟩
  | dropStream => exact .inl ⟨rfl, .same⟩
  | cancel => exact .inl ⟨rfl, .same⟩
  | mark => exact .inl ⟨rfl, .same⟩
  | dispose =>
    simp only [after]
    rcases hdispose with h | ⟨hclosed, hemptied⟩
    · rw [h]
      exact .inl ⟨rfl, .same⟩
    · exact .inr ⟨fun h => Bool.false_ne_true (h.held.symm.trans hclosed), hemptied⟩
  | shut => exact hshut
  | watch =>
    simp only [after]
    split_ifs
    · exact hshut
    · exact .inl ⟨rfl, .same⟩

/-! ## Writers in line -/

theorem nextTicket_after (s : Session) (router : Router) (doing : Doing) :
    s.transport.inbound.nextTicket ≤ (s.after router doing).transport.inbound.nextTicket := by
  rcases s.use_after router doing with ⟨-, h⟩ | ⟨-, h⟩
  · exact h.steady.2.2
  · exact Nat.le_of_eq h.nextTicket.symm

theorem nextTicket_foldl (router : Router) : ∀ (doings : List Doing) (s : Session),
    s.transport.inbound.nextTicket ≤
      (doings.foldl (after router) s).transport.inbound.nextTicket
  | [], _ => Nat.le_refl _
  | doing :: rest, s =>
    Nat.le_trans (s.nextTicket_after router doing) (nextTicket_foldl router rest _)

theorem tidy_foldl (router : Router) : ∀ (doings : List Doing) {s : Session},
    s.transport.inbound.Tidy → (doings.foldl (after router) s).transport.inbound.Tidy
  | [], _, h => h
  | doing :: rest, s, h => by
    refine tidy_foldl router rest ?_
    rcases s.use_after router doing with ⟨-, huse⟩ | ⟨-, hemptied⟩
    · exact h.use huse
    · exact .of_empty hemptied.line

/-- A session that takes messages did so before. -/
theorem attends_of_after {doing : Doing} (h : (s.after router doing).Attends) : s.Attends := by
  rcases s.use_after router doing with ⟨hclosed, huse⟩ | ⟨hnot, -⟩
  · exact ⟨hclosed ▸ h.held, huse.steady.1 ▸ h.reader⟩
  · exact absurd h hnot

theorem attends_of_foldl : ∀ (doings : List Doing) {s : Session},
    (doings.foldl (after router) s).Attends → s.Attends
  | [], _, h => h
  | _ :: rest, _, h => attends_of_after (attends_of_foldl rest h)

/-- A writer keeps its place unless something is done in its name. -/
theorem waits?_foldl : ∀ (doings : List Doing) {s : Session},
    (doings.foldl (after router) s).Attends → (∀ doing ∈ doings, doing.seat? ≠ some ticket) →
      s.transport.inbound.waits? ticket = some m →
        (doings.foldl (after router) s).transport.inbound.waits? ticket = some m
  | [], _, _, _, h => h
  | doing :: rest, s, hattends, hseat, h => by
    obtain ⟨hdoing, hrest⟩ := List.forall_mem_cons.1 hseat
    refine waits?_foldl rest hattends hrest ?_
    rcases s.use_after router doing with ⟨-, huse⟩ | ⟨hnot, -⟩
    · exact huse.waits? hdoing h
    · exact absurd (attends_of_foldl rest hattends) hnot

/-- Whether a writer awaits its turn with a message, unless the session takes no more messages and
has sent it away. -/
def Awaits (s : Session) (ticket : Nat) (m : Rpc.Message) : Prop :=
  s.transport.inbound.waits? ticket = some m ∨
    ¬ s.Attends ∧ s.transport.inbound.writer? ticket = none

theorem awaits_after {doing : Doing} (hlt : ticket < s.transport.inbound.nextTicket)
    (hseat : doing.seat? ≠ some ticket) (h : s.Awaits ticket m) :
    (s.after router doing).Awaits ticket m := by
  rcases s.use_after router doing with ⟨-, huse⟩ | ⟨hnot, hemptied⟩
  · rcases h with hwaits | ⟨hnot, hnone⟩
    · exact .inl (huse.waits? hseat hwaits)
    · exact .inr ⟨fun hattends => hnot (attends_of_after hattends), huse.writer?_eq_none hlt hnone⟩
  · refine .inr ⟨hnot, ?_⟩
    rw [Inbound.writer?, hemptied.line, List.find?_nil]

theorem awaits_foldl : ∀ (doings : List Doing) {s : Session},
    ticket < s.transport.inbound.nextTicket → (∀ doing ∈ doings, doing.seat? ≠ some ticket) →
      s.Awaits ticket m → (doings.foldl (after router) s).Awaits ticket m
  | [], _, _, _, h => h
  | doing :: rest, s, hlt, hseat, h => by
    obtain ⟨hdoing, hrest⟩ := List.forall_mem_cons.1 hseat
    exact awaits_foldl rest (Nat.lt_of_lt_of_le hlt (s.nextTicket_after router doing)) hrest
      (awaits_after hlt hdoing h)

end SessionRelay.Session
