import SessionRelay.Proofs.Session.History

/-!
# One outcome for each request

While a session is open, every request that it takes from its queue leaves exactly one item for the
client, and does so when the work on it is over: a response with its id, or the note that there
will be none (`one_outcome_each`). Nothing else that the session takes leaves anything, and when no
job is left no request runs.
-/

namespace SessionRelay.History

open Session (Move)

variable {router : Router} {h : History}

/-- A session that takes no request from its queue leaves nothing for the client. -/
theorem added_of_taken_none (l : h.Ledger) (hopen : h.session.Open) {signals : List String}
    (htaken : Move.taken? h.session (.pump signals) = none) :
    h.session.added (h.session.pump router signals) = [] := by
  obtain ⟨-, heffect⟩ := Session.effect_of_pump l.inv hopen router signals
  cases heffect with
  | quiet _ _ _ hadded => exact hadded.resolve_right (by simp [Move.ticket?])
  | accepted _ _ _ _ hadded => exact hadded
  | answered r item _ _ htaken' => simp [htaken] at htaken'
  | finished ticket r item hjob _ _ _ hticket =>
    simp only [Move.ticket?, Option.some.injEq] at hticket
    exact absurd (Session.pending_lt l.inv hjob) (by simp [hticket])

/-- Whatever a session takes while it is open, and in whichever order the work on it goes on and
ends: a request that is still worked on has left nothing, and every other request exactly one item,
which answers it; nobody else leaves anything; and with no request left to work on none is in
flight. -/
theorem one_outcome_each {s : Session} (hs : Fresh s) (hrun : Run router { session := s } h) :
    (h.asked.map Prod.fst).Nodup ∧
      (∀ a ∈ h.asked,
        (a ∈ h.session.pending → h.entries a.1 = []) ∧
          (a ∉ h.session.pending → ∃ e, h.entries a.1 = [e] ∧ e.item.Answers a.2 e.fired)) ∧
      (∀ e ∈ h.log, ∀ t, e.ticket = some t → t ∈ h.asked.map Prod.fst) ∧
      (h.session.Open → ∀ signals, Move.taken? h.session (.pump signals) = none →
        h.session.added (h.session.pump router signals) = []) ∧
      h.session.Waits ∧
      (h.session.pending = [] → h.session.inFlight.running = []) := by
  have l := hrun.ledger (.of_fresh hs)
  refine ⟨l.nodup, fun a ha => ⟨fun hpending => (l.pending a hpending).2, l.finished a ha⟩, l.entry,
    fun hopen signals htaken => added_of_taken_none l hopen htaken, l.waits, fun hnone => ?_⟩
  have hinv := l.inv
  unfold Session.Inv at hinv
  rw [List.map_eq_nil_iff.1 hnone] at hinv
  exact hinv.running_eq_nil

/-- The session takes a request and a notification, and works on the request. -/
def pinged : History :=
  (((opened [.request ping, .notification { method := "notifications/initialized" }]).next
    {} (.pump [])).next {} (.pump [])).next {} (.work 0 [])

theorem one_outcome_pinged : pinged.asked = [(0, ping)] ∧ pinged.session.pending = [] ∧
    (∃ e, pinged.entries 0 = [e] ∧ e.item.Answers ping e.fired) ∧
    pinged.session.inFlight.running = [] := by
  have hrun : Run {}
      (opened [.request ping, .notification { method := "notifications/initialized" }]) pinged :=
    ((Run.refl.move (.pump []) ⟨rfl, rfl, rfl⟩).move (.pump []) ⟨rfl, rfl, rfl⟩).move (.work 0 [])
      ⟨rfl, rfl, rfl⟩
  have hasked : pinged.asked = [(0, ping)] := rfl
  have hpending : pinged.session.pending = [] := rfl
  obtain ⟨-, houtcome, -, -, -, hflight⟩ := one_outcome_each ⟨rfl, rfl⟩ hrun
  have hping := (houtcome (0, ping) (by rw [hasked]; exact List.mem_cons_self)).2
    (by rw [hpending]; exact List.not_mem_nil)
  exact ⟨hasked, hpending, hping, hflight hpending⟩

end SessionRelay.History
