import SessionRelay.Proofs.Session.Steady

/-!
# How a session is torn down

A session ends when what it was opened under ends, when its client lets go of the events or has read
them to their end, or when it is closed by a call. Calls and the session's own watcher may come to it
in any order and more than once. Whoever finds it open marks it closed, and then does one thing after
the other: tell everything in it to stop, dispose of its transport, take its entry out of the table.
Anything may happen in between. Whatever happens, what has been done fits what has ended the session
(`Turn.fits`).
-/

namespace SessionRelay

open Session (Move)

/-- What a teardown does next. -/
inductive Closing
  | stop
  | dispose
  | remove

/-- What is under way to end a session, and what has ended it. -/
structure Care where
  /-- How many calls to close the session have not come to it yet. -/
  calls : Nat := 0
  closing : Option Closing := none
  /-- Whether its events were dropped, or read to their end. -/
  left : Bool := false
  /-- Whether it was to be closed by a call. -/
  asked : Bool := false

namespace Care

variable {s s' : Session} {c c' : Care} {parents : List String}

/-- Somebody calls to close the session. -/
def call (c : Care) : Care := { c with calls := c.calls + 1, asked := true }

/-- What happens to one session. -/
inductive Turn : Care → Session → Session → Care → Prop
  /-- It goes on with its messages, or its client or an instance has to do with its queues. -/
  | move {s : Session} {c : Care} (router : Router) (move : Move) :
    Turn c s (s.apply router move) { c with left := c.left || move.ends s }
  /-- It stops taking messages, once it was told to stop. -/
  | stopPump {s : Session} {c : Care} (h : s.cancelled = true) : Turn c s s.stopPump c
  /-- The client lets go of the event stream. -/
  | dropStream {s : Session} {c : Care} (h : s.transport.streamHeld = true) :
    Turn c s s.dropStream { c with left := true }
  /-- Somebody calls to close it. -/
  | call {s : Session} {c : Care} : Turn c s s c.call
  /-- A call finds it closed. -/
  | refused {s : Session} {c : Care} {n : Nat} (hcalls : c.calls = n + 1) (h : s.closed = true) :
    Turn c s s { c with calls := n }
  /-- A call finds it open. -/
  | taken {s : Session} {c : Care} {n : Nat} (hcalls : c.calls = n + 1) (h : s.closed = false) :
    Turn c s { s with closed := true } { c with calls := n, closing := some .stop }
  /-- Its watcher finds it open, and that it has to end. -/
  | watched {s : Session} {c : Care} (hdue : s.isDue = true) (h : s.closed = false) :
    Turn c s { s with closed := true } { c with closing := some .stop }
  | stop {s : Session} {c : Care} (h : c.closing = some .stop) :
    Turn c s { s with cancelled := true } { c with closing := some .dispose }
  | dispose {s : Session} {c : Care} (h : c.closing = some .dispose) :
    Turn c s { s with transport := s.transport.dispose } { c with closing := some .remove }

/-- Whether anything has happened that ends a session. -/
def Ended (parents : List String) (s : Session) (c : Care) : Prop :=
  s.parent ∈ parents ∨ c.left = true ∨ c.asked = true

/-- How far a session is torn down fits what has ended it. -/
structure Fits (parents : List String) (s : Session) (c : Care) : Prop where
  asked : 0 < c.calls → c.asked = true
  told : s.parent ∈ parents → s.cancelled = true
  closing : ∀ next, c.closing = some next → s.closed = true ∧
    (next ≠ .stop → s.cancelled = true) ∧ (next = .remove → s.transport.Disposed)
  done : s.closed = true → c.closing = none → s.cancelled = true ∧ s.transport.Disposed
  disposed : s.transport.closed = true → s.closed = true ∧ s.transport.Disposed
  reason : s.closed = true ∨ s.isDue = true → Ended parents s c
  due : Ended parents s c → s.closed = true ∨ 0 < c.calls ∨ s.isDue = true

/-- A session that nothing was done to yet has to end if what it was opened under has ended. -/
theorem fits_new (hclosed : s.closed = false) (hheld : s.transport.closed = false)
    (hgone : s.transport.streamGone = false) (hcancelled : s.cancelled = parents.contains s.parent) :
    Fits parents s {} where
  asked := fun h => absurd h (Nat.lt_irrefl 0)
  told := fun h => by rw [hcancelled, List.contains_iff_mem]; exact h
  closing := fun _ h => by cases h
  done := fun h => by rw [hclosed] at h; cases h
  disposed := fun h => by rw [hheld] at h; cases h
  reason := by simp [hclosed, Session.isDue, hgone, hcancelled, Ended]
  due := by simp [hclosed, Session.isDue, hgone, hcancelled, Ended]

/-- A session that goes on is torn down as far as before; its client may have left. -/
theorem Fits.steady (f : Fits parents s c) {ended : Bool} (h : s.Steady ended s') :
    Fits parents s' { c with left := c.left || ended } where
  asked := f.asked
  told := by
    rw [h.parent, h.cancelled]
    exact f.told
  closing := by
    rw [h.closed, h.cancelled]
    intro next hnext
    obtain ⟨hclosed, hcancelled, hdisposed⟩ := f.closing next hnext
    exact ⟨hclosed, hcancelled, fun hremove => h.transport.disposed (hdisposed hremove)⟩
  done := by
    rw [h.closed, h.cancelled]
    exact fun hclosed hnext => (f.done hclosed hnext).imp_right h.transport.disposed
  disposed := by
    rw [h.closed, h.transport.closed]
    exact fun hclosed => (f.disposed hclosed).imp_right h.transport.disposed
  reason := by
    have hreason := f.reason
    simp only [Ended, Session.isDue, h.closed, h.cancelled, h.transport.gone, h.parent,
      Bool.or_eq_true] at hreason ⊢
    tauto
  due := by
    have hdue := f.due
    simp only [Ended, Session.isDue, h.closed, h.cancelled, h.transport.gone, h.parent,
      Bool.or_eq_true] at hdue ⊢
    tauto

/-- Whoever finds the session open, and has a reason to end it, starts the teardown. -/
theorem Fits.begin (f : Fits parents s c) (hended : Ended parents s c) {calls : Nat}
    (hcalls : calls ≤ c.calls) :
    Fits parents { s with closed := true } { c with calls, closing := some .stop } where
  asked := fun hpos => f.asked (Nat.lt_of_lt_of_le hpos hcalls)
  told := f.told
  closing := by
    rintro next ⟨⟩
    exact ⟨rfl, fun hnext => absurd rfl hnext, fun hnext => by cases hnext⟩
  done := fun _ hnone => by cases hnone
  disposed := fun hclosed => ⟨rfl, (f.disposed hclosed).2⟩
  reason := fun _ => hended
  due := fun _ => .inl rfl

theorem Fits.stop (f : Fits parents s c) (h : c.closing = some .stop) :
    Fits parents { s with cancelled := true } { c with closing := some .dispose } where
  asked := f.asked
  told := fun _ => rfl
  closing := by
    rintro next ⟨⟩
    exact ⟨(f.closing _ h).1, fun _ => rfl, fun hnext => by cases hnext⟩
  done := fun _ hnone => by cases hnone
  disposed := f.disposed
  reason := fun _ => f.reason (.inl (f.closing _ h).1)
  due := fun _ => .inl (f.closing _ h).1

theorem Fits.dispose (f : Fits parents s c) (h : c.closing = some .dispose) :
    Fits parents { s with transport := s.transport.dispose }
      { c with closing := some .remove } := by
  obtain ⟨hclosed, hcancelled, -⟩ := f.closing _ h
  have hdisposed : s.transport.dispose.Disposed := by
    cases hopen : s.transport.closed with
    | true =>
      rw [Transport.dispose, if_pos hopen]
      exact (f.disposed hopen).2
    | false => exact Transport.disposed_dispose hopen
  exact {
    asked := f.asked
    told := f.told
    closing := by
      rintro next ⟨⟩
      exact ⟨hclosed, fun _ => hcancelled (by simp), fun _ => hdisposed⟩
    done := fun _ hnone => by cases hnone
    disposed := fun _ => ⟨hclosed, hdisposed⟩
    reason := fun _ => f.reason (.inl hclosed)
    due := fun _ => .inl hclosed }

/-- The teardown is over. -/
theorem Fits.remove (f : Fits parents s c) (h : c.closing = some .remove) :
    Fits parents s { c with closing := none } where
  asked := f.asked
  told := f.told
  closing := fun _ hnext => by cases hnext
  done := fun _ _ => ⟨(f.closing _ h).2.1 (by simp), (f.closing _ h).2.2 rfl⟩
  disposed := f.disposed
  reason := f.reason
  due := f.due

/-- More calls do no harm. -/
theorem Fits.call (f : Fits parents s c) :
    Fits parents s c.call where
  asked := fun _ => rfl
  told := f.told
  closing := f.closing
  done := f.done
  disposed := f.disposed
  reason := fun _ => .inr (.inr rfl)
  due := fun _ => .inr (.inl (Nat.succ_pos _))

theorem Fits.refuse (f : Fits parents s c) (h : s.closed = true) {calls : Nat}
    (hcalls : calls ≤ c.calls) : Fits parents s { c with calls } where
  asked := fun hpos => f.asked (Nat.lt_of_lt_of_le hpos hcalls)
  told := f.told
  closing := f.closing
  done := f.done
  disposed := f.disposed
  reason := f.reason
  due := fun _ => .inl h

/-- What a session was opened under ends, if it is this. -/
theorem Fits.endParent (f : Fits parents s c) (name : String) :
    Fits (name :: parents) (if s.parent = name then { s with cancelled := true } else s) c := by
  split_ifs with hparent
  · exact {
      asked := f.asked
      told := fun _ => rfl
      closing := fun next hnext => by
        obtain ⟨hclosed, -, hdisposed⟩ := f.closing next hnext
        exact ⟨hclosed, fun _ => rfl, hdisposed⟩
      done := fun hclosed hnext => ⟨rfl, (f.done hclosed hnext).2⟩
      disposed := f.disposed
      reason := fun _ => .inl (List.mem_cons.2 (.inl hparent))
      due := fun _ => .inr (.inr rfl) }
  · have hsame : s.parent ∈ name :: parents ↔ s.parent ∈ parents := by simp [hparent]
    exact {
      asked := f.asked
      told := fun h => f.told (hsame.1 h)
      closing := f.closing
      done := f.done
      disposed := f.disposed
      reason := fun h => (f.reason h).imp_left hsame.2
      due := fun h => f.due (h.imp_left hsame.1) }

theorem steady_stopPump (s : Session) : s.Steady false s.stopPump := by
  have hinbound : s.Steady false (s.mapInbound Inbound.close) :=
    .of_transport s (.of_inbound (fun _ h => by cases h) fun _ => rfl)
  exact ⟨rfl, rfl, rfl, rfl, rfl, rfl, hinbound.transport⟩

/-- Whatever happens to a session, its teardown goes on to fit it. -/
theorem Turn.fits (h : Turn c s s' c') (f : Fits parents s c) : Fits parents s' c' := by
  cases h with
  | move router move => exact f.steady (s.steady_apply router move)
  | stopPump =>
    have hfits := f.steady (steady_stopPump s)
    rwa [Bool.or_false] at hfits
  | dropStream =>
    have hfits := f.steady (.of_transport s s.transport.steady_dropStream)
    rwa [Bool.or_true] at hfits
  | call => exact f.call
  | refused hcalls h => exact f.refuse h (by omega)
  | taken hcalls => exact f.begin (.inr (.inr (f.asked (by omega)))) (by omega)
  | watched hdue => exact f.begin (f.reason (.inr hdue)) (Nat.le_refl _)
  | stop h => exact f.stop h
  | dispose h => exact f.dispose h

theorem Turn.names (h : Turn c s s' c') :
    s'.clientId = s.clientId ∧ s'.instanceId = s.instanceId ∧ s'.token = s.token := by
  cases h with
  | move router move =>
    have hsteady := s.steady_apply router move
    exact ⟨hsteady.clientId, hsteady.instanceId, hsteady.token⟩
  | _ => exact ⟨rfl, rfl, rfl⟩

/-- Whether the session still has its entry in the table. -/
def Listed (s : Session) (c : Care) : Prop := s.closed = false ∨ c.closing ≠ none

/-- Only the last effect of a teardown touches the entry. -/
theorem Turn.listed (h : Turn c s s' c') : Listed s' c' ↔ Listed s c := by
  cases h with
  | move router move =>
    simp only [Listed, (s.steady_apply router move).closed]
  | taken hcalls h => simp [Listed, h]
  | watched hdue h => simp [Listed, h]
  | stop h => simp [Listed, h]
  | dispose h => simp [Listed, h]
  | _ => exact Iff.rfl

/-- A session that was told to stop has no request in flight that goes on uncancelled. -/
theorem isCancelled_of_cancelled (h : s.cancelled = true) (number : Nat) :
    s.isCancelled number = true := by
  rw [Session.isCancelled, h, Bool.true_or]

end Care

end SessionRelay
