import SessionRelay.Queue.Store

/-!
# Queue services

A relay talks to its queues only through the first five calls below. Any of them may fail; the store
of leased queues is one such service.
-/

namespace SessionRelay.Queue

/-- The calls of a queue service with states in `σ`. -/
structure Service (σ : Type) where
  create : String → σ → Except Error Unit × σ
  drop : String → σ → Except Error Unit × σ
  send : String → String → σ → Except Error Unit × σ
  receive : String → Nat → Nat → σ → Except Error (List Lease) × σ
  delete : String → Nat → Nat → σ → Except Error Unit × σ
  /-- What the passing of so many milliseconds does. -/
  elapse : Nat → σ → σ

/-- The store itself; creating and dropping never fail. -/
def Service.ofStore : Service Store :=
  { create := fun queue s => (.ok (), s.create queue)
    drop := fun queue s => (.ok (), s.drop queue)
    send := fun queue body s => s.send queue body
    receive := fun queue max timeout s => s.receive queue max timeout
    delete := fun queue id receipt s => s.delete queue id receipt
    elapse := fun ms s => s.advance ms }

end SessionRelay.Queue
