import SessionRelay.Proofs.Queue.Store
import SessionRelay.Queue.Rehearsal

/-!
# What a call does that may fail

A call that fails leaves the store as it was, whether the failure was planned or is the store's own.
A call that succeeds does what it does to the store.
-/

namespace SessionRelay.Queue.Rehearsal

variable {r r' : Rehearsal} {queue body : String} {e : Error}

theorem attempt_cases {α : Type} (kind : CallKind) (call : Store → Except Error α × Store)
    (r : Rehearsal) :
    (∃ e, (r.attempt kind call).1 = .error e ∧ (r.attempt kind call).2.store = r.store) ∨
      (r.attempt kind call).1 = (call r.store).1 ∧
        (r.attempt kind call).2.store = (call r.store).2 := by
  unfold attempt
  cases r.failures kind with
  | zero => exact .inr ⟨rfl, rfl⟩
  | succ left => exact .inl ⟨_, rfl, rfl⟩

theorem store_create (queue : String) (r : Rehearsal) :
    (service.create queue r).2.store = r.store ∨
      (service.create queue r).2.store = r.store.create queue := by
  have hlog : ∀ outcome : Except Error Unit × Rehearsal,
      (logCreated queue outcome).2.store = outcome.2.store := by
    rintro ⟨e | u, r⟩
    · rfl
    · simp only [logCreated]
      split <;> rfl
  rw [service, hlog]
  rcases attempt_cases .create (fun s => Service.ofStore.create queue s) r with
    ⟨_, -, hstore⟩ | ⟨-, hstore⟩
  · exact .inl hstore
  · exact .inr hstore

theorem store_drop (queue : String) (r : Rehearsal) :
    (service.drop queue r).2.store = r.store ∨
      (service.drop queue r).2.store = r.store.drop queue := by
  rcases attempt_cases .drop (fun s => Service.ofStore.drop queue s) r with
    ⟨_, -, hstore⟩ | ⟨-, hstore⟩
  · exact .inl hstore
  · exact .inr hstore

theorem store_send (queue body : String) (r : Rehearsal) :
    (∃ e, (service.send queue body r).1 = .error e ∧
      (service.send queue body r).2.store = r.store) ∨
    (service.send queue body r).1 = .ok () ∧ (∃ entries, r.store.entries? queue = some entries) ∧
      (service.send queue body r).2.store = (r.store.send queue body).2 := by
  have hlog : ∀ outcome : Except Error Unit × Rehearsal,
      (logSent queue body outcome).1 = outcome.1 ∧
        (logSent queue body outcome).2.store = outcome.2.store := by
    rintro ⟨e | u, r⟩ <;> exact ⟨rfl, rfl⟩
  simp only [service, hlog]
  rcases attempt_cases .send (fun s => s.send queue body) r with
    ⟨e, hresult, hstore⟩ | ⟨hresult, hstore⟩
  · exact .inl ⟨e, hresult, hstore⟩
  · cases hentries : r.store.entries? queue with
    | none =>
      rw [Store.send_of_none hentries] at hresult hstore
      exact .inl ⟨_, hresult, hstore⟩
    | some entries =>
      refine .inr ⟨?_, ⟨entries, rfl⟩, hstore⟩
      rw [hresult, Store.send_of_some hentries]

theorem store_receive (queue : String) (max timeout : Nat) (r : Rehearsal) :
    (∃ e, (service.receive queue max timeout r).1 = .error e ∧
      (service.receive queue max timeout r).2.store = r.store) ∨
    (service.receive queue max timeout r).1 = (r.store.receive queue max timeout).1 ∧
      (service.receive queue max timeout r).2.store = (r.store.receive queue max timeout).2 :=
  attempt_cases .receive (fun s => s.receive queue max timeout)
    { r with polls := r.polls ++ [(queue, r.store.now)] }

theorem store_delete (queue : String) (id receipt : Nat) (r : Rehearsal) :
    (service.delete queue id receipt r).2.store = r.store ∨
      (service.delete queue id receipt r).2.store = (r.store.delete queue id receipt).2 := by
  rcases attempt_cases .delete (fun s => s.delete queue id receipt) r with
    ⟨_, -, hstore⟩ | ⟨-, hstore⟩
  · exact .inl hstore
  · exact .inr hstore

end SessionRelay.Queue.Rehearsal
