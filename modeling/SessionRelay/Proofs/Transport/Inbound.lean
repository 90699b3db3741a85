import Mathlib.Data.List.Perm.Subperm
import SessionRelay.Transport.Inbound

/-!
# What waits in an inbound queue

A message waits in the queue or in line for it. Taking gives the first one that waits in the queue
and keeps the rest (`messages_take?`); nothing that waits comes from anywhere but an offer
(`messages_offer`, `messages_enter`, `messages_leave`).
-/

namespace SessionRelay.Inbound

variable {q q' : Inbound}

/-- Everything that waits to be taken. -/
def messages (q : Inbound) : List Rpc.Message := q.queue ++ q.line.map Writer.message

/-- A slot changes nothing else about a writer. -/
theorem map_admitFirst {α : Type} {f : Writer → α} (hf : ∀ w, f { w with admitted := true } = f w) :
    ∀ line : List Writer, (admitFirst line).map f = line.map f
  | [] => rfl
  | w :: rest => by
    unfold admitFirst
    split_ifs
    · rw [List.map_cons, map_admitFirst hf rest, List.map_cons]
    · rw [List.map_cons, hf, List.map_cons]

theorem messages_take? {m : Rpc.Message} (h : q.take? = some (m, q')) :
    q.messages = m :: q'.messages := by
  unfold take? at h
  split at h
  · cases h
  · rename_i m' rest hqueue
    cases h
    rw [messages, hqueue, messages, map_admitFirst fun _ => rfl]
    rfl

theorem messages_offer (q : Inbound) (m : Rpc.Message) :
    (q.offer m).2.messages.Subperm (m :: q.messages) := by
  unfold offer
  split_ifs
  · exact .cons_self
  · refine List.Perm.subperm ?_
    simp only [messages, List.append_assoc, List.singleton_append]
    exact List.perm_middle
  · refine List.Perm.subperm ?_
    simp only [messages, List.map_append, List.map_singleton, ← List.append_assoc]
    exact List.perm_append_singleton m _

theorem line_without_sublist (q : Inbound) (ticket : Nat) :
    ((q.without ticket).line.map Writer.message).Sublist (q.line.map Writer.message) :=
  List.filter_sublist.map _

theorem messages_enter (q : Inbound) (ticket : Nat) :
    (q.enter ticket).messages.Subperm q.messages := by
  unfold enter
  split
  · rename_i w hwriter
    split_ifs
    · -- the writer's own message is taken out of the line before it is put into the queue
      have hmem : w ∈ q.line := List.mem_of_find?_eq_some hwriter
      have hticket : w.ticket = ticket := by simpa using List.find?_some hwriter
      have hline : (w :: (q.line.filter fun w => w.ticket != ticket)).Subperm q.line := by
        rw [← List.filter_append_perm (fun w => w.ticket != ticket) q.line |>.subperm_left]
        refine (List.perm_append_singleton w _).symm.subperm.trans ?_
        refine (List.subperm_append_left _).2 (List.singleton_subperm_iff.2 ?_)
        exact List.mem_filter.2 ⟨hmem, by simp [hticket]⟩
      obtain ⟨line, hperm, hsublist⟩ := hline
      simp only [messages, without, List.append_assoc, List.singleton_append]
      exact (List.subperm_append_left _).2
        ⟨line.map Writer.message, hperm.map _, hsublist.map _⟩
    · exact .refl _
  · exact .refl _

theorem messages_leave (q : Inbound) (ticket : Nat) :
    (q.leave ticket).messages.Subperm q.messages := by
  refine List.Sublist.subperm ?_
  unfold leave
  split
  · rw [messages, messages, map_admitFirst fun _ => rfl]
    exact (List.Sublist.refl _).append (q.line_without_sublist ticket)
  · exact (List.Sublist.refl _).append (q.line_without_sublist ticket)

end SessionRelay.Inbound
