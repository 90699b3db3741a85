import SessionRelay.Transport

/-!
# What a reader takes from the outbound queue

Reading takes items from the front of the queue and tells the messages among them (`read_spec`). A
reader that expects so many responses takes no more than those, and comes to the end just when it
has taken them all.
-/

namespace SessionRelay

namespace OutboundItem

/-- The message that waits to be read, if it is one. -/
def message? : OutboundItem → Option Rpc.Message
  | .message m => some m
  | .abandoned => none

end OutboundItem

/-- The message that a reader is told. -/
def Reading.message? : Reading → Option Rpc.Message
  | .event (.message m) => some m
  | _ => none

namespace Outbound

/-- How many of some items stand for responses. -/
def answers (items : List OutboundItem) : Nat := items.countP OutboundItem.counts

/-- What a reader at one state takes to get to another. -/
structure Took (remaining : Option Nat) (items taken : List OutboundItem) (reading : Reading)
    (o : Outbound) : Prop where
  items : items = taken ++ o.queue
  told : taken.filterMap OutboundItem.message? = reading.message?.toList
  /-- No more responses are taken than were expected. -/
  bound : ∀ n, remaining = some n → answers taken ≤ n
  stream : o.stream = .reading none (remaining.map (· - answers taken)) ∨
    o.stream = .ended ∧ remaining = some (answers taken)

theorem read_spec : ∀ (items : List OutboundItem) (remaining : Option Nat),
    ∃ taken, Took remaining items taken (read remaining items).1 (read remaining items).2
  | items, some 0 => by
    unfold read
    exact ⟨[], rfl, rfl, fun _ _ => Nat.zero_le _, .inr ⟨rfl, rfl⟩⟩
  | [], some (n + 1) => ⟨[], rfl, rfl, fun _ _ => Nat.zero_le _, .inl rfl⟩
  | [], none => ⟨[], rfl, rfl, fun _ _ => Nat.zero_le _, .inl rfl⟩
  | .abandoned :: rest, some (n + 1) => by
    obtain ⟨taken, hitems, htold, hbound, hstream⟩ := read_spec rest (some n)
    have hcount : answers (.abandoned :: taken) = answers taken + 1 := List.countP_cons_of_pos rfl
    have hle := hbound n rfl
    have hread : read (some (n + 1)) (.abandoned :: rest) = read (some n) rest := rfl
    rw [hread]
    refine ⟨.abandoned :: taken, by rw [List.cons_append, ← hitems], htold, fun k hk => ?_, ?_⟩
    · cases hk
      omega
    · rw [hcount]
      refine hstream.imp (fun h => h.trans ?_) fun ⟨hended, h⟩ => ⟨hended, ?_⟩
      · simp
      · simp only [Option.some.injEq] at h ⊢
        omega
  | .abandoned :: rest, none => by
    obtain ⟨taken, hitems, htold, hbound, hstream⟩ := read_spec rest none
    have hread : read none (.abandoned :: rest) = read none rest := rfl
    rw [hread]
    refine ⟨.abandoned :: taken, by rw [List.cons_append, ← hitems], htold, nofun, ?_⟩
    exact hstream.imp id fun h => by cases h.2
  | .message m :: rest, some (n + 1) => by
    refine ⟨[.message m], rfl, rfl, fun k hk => ?_, .inl ?_⟩
    · cases hk
      exact Nat.le_trans List.countP_le_length (by simp)
    · unfold read
      cases hm : m.isResponse <;> simp [answers, OutboundItem.counts, hm]
  | .message m :: rest, none => by
    refine ⟨[.message m], rfl, rfl, nofun, .inl ?_⟩
    unfold read
    simp

end Outbound

end SessionRelay
