import SessionRelay.Proofs.Session.Cancellation
import SessionRelay.Proofs.Session.Handshake

/-!
# What a cancelled request still says

A cancellation that reaches a request silences the work on it: work that returns, with a result or
an error, leaves the note that there will be no response, and agrees on nothing. Work that crashes
is not silenced. The client is told of the crash, cancelled or not (`silenced_unless_crashed`).
-/

namespace SessionRelay

namespace Session

open History (Run)

variable {s s' : Session} {router : Router} {signals : List String} {ticket number : Nat}
  {r : Rpc.Request} {job : Job}

/-- What the work on a cancelled request with an id leaves for the client when it is run. -/
def lastWord (id : Rpc.Id) : Activity Rpc.Response → List OutboundItem
  | .await _ _ => []
  | .done _ => [.abandoned]
  | .crash message =>
    [.message (Rpc.Response.error (some id) (.internalError (message.getD silentCrash))).toMessage]

/-! ## One run of a cancelled job -/

theorem lastWord_cases (id : Rpc.Id) (work : Activity Rpc.Response) :
    lastWord id work = [] ∨ ∃ item, lastWord id work = [item] := by
  cases work with
  | await => exact .inl rfl
  | done | crash => exact .inr ⟨_, rfl⟩

theorem Leaves.lastWord {id : Rpc.Id} {work : Activity Rpc.Response} {item : OutboundItem}
    (h : Leaves id true work item) : lastWord id work = [item] := by
  cases h with
  | answered _ h => cases h
  | dropped _ _ => rfl
  | crashed _ => rfl

/-- Work on a cancelled request agrees on nothing, whatever it ends in. -/
theorem handshake_goOn_cancelled (hcancelled : s.isCancelled number = true)
    (work : Activity Rpc.Response) :
    (s.goOn signals job number work).handshake = s.handshake := by
  have hfinish : ((s.removeJob job.ticket).finish job.request.id number).isCancelled number =
      true := by
    rw [isCancelled, InFlight.isCancelled, finish, InFlight.finish_cancelled]
    exact hcancelled
  unfold goOn
  split
  · rfl
  · rw [handshake_writeBack, answered, if_pos hfinish]
    rfl
  · rw [handshake_writeBack]
    rfl

/-- A cancelled job that is run waits on, or is over and has had its last word. -/
theorem runJob_fired (h : s.Inv) (hopen : s.Open) (hpending : (ticket, r) ∈ s.pending)
    (hbegun : s.Begun ticket) (hfired : s.fired ticket = true) (router : Router)
    (signals : List String) : ∃ work, s.cameTo? router signals ticket = some work ∧
      s.added (s.runJob router signals ticket) = lastWord r.id work ∧
      (s.runJob router signals ticket).handshake = s.handshake ∧
      ((ticket, r) ∈ (s.runJob router signals ticket).pending ↔ lastWord r.id work = []) := by
  obtain ⟨job, hjob, hticket, hrequest⟩ := mem_pending_iff.1 hpending
  simp only at hticket hrequest
  subst hticket hrequest
  obtain ⟨number, work, hstage⟩ := (begun_iff h hjob).1 hbegun
  have hfound := (job?_eq_some_iff h).2 ⟨hjob, rfl⟩
  have hcancelled : s.isCancelled number = true := fired_of_begun h hjob hstage ▸ hfired
  refine ⟨work.proceed (s.happened signals number), ?_, ?_⟩
  · simp only [cameTo?, hfound, hstage]
  rw [runJob_begun hfound hstage]
  refine and_left_comm.1 ⟨handshake_goOn_cancelled hcancelled work, ?_⟩
  rcases goOn_cases hopen signals job number work with ⟨event, next, hawait, hgo⟩ |
    ⟨item, hleaves, hover⟩
  · rw [hgo, hawait]
    refine ⟨added_of_transport rfl, iff_of_true ?_ rfl⟩
    rw [show (s.setStage job.ticket _).pending = s.pending from pending_staged s _ _]
    exact hpending
  · rw [hcancelled] at hleaves
    rw [hleaves.lastWord, added_of_put hover.transport]
    refine ⟨rfl, iff_of_false (fun hmem => ?_) (List.cons_ne_nil _ _)⟩
    obtain ⟨j, hj, hsame, -⟩ := mem_pending_iff.1 hmem
    rw [hover.jobs] at hj
    simpa [hsame] using (List.mem_filter.1 hj).2

/-! ## What a cancellation leaves alone -/

variable (router) in
/-- A cancellation by id cancels no request with another id. -/
theorem fired_pump_of_ne (h : s.Inv) (hopen : s.Open) {id : Rpc.Id}
    (hcancel : Move.cancels? s (.pump signals) = some id) (hjob : job ∈ s.jobs)
    (hid : job.request.id ≠ id) :
    (s.pump router signals).fired job.ticket = s.fired job.ticket := by
  obtain ⟨hkept, -⟩ := effect_of_pump h hopen router signals
  obtain ⟨hjobs, hinFlight, hcancelled⟩ := pump_of_cancels router hcancel
  have hjob' : job ∈ (s.pump router signals).jobs := hjobs ▸ hjob
  cases hstage : job.stage with
  | queued =>
    have hnot : ∀ {t : Session}, t.Inv → job ∈ t.jobs → ¬ t.Begun job.ticket := by
      intro t ht hmem hbegun
      obtain ⟨number, work, hbegun⟩ := (begun_iff ht hmem).1 hbegun
      rw [hstage] at hbegun
      cases hbegun
    rw [fired_of_not_begun hkept.inv hjob' (hnot hkept.inv hjob'), hcancelled,
      fired_of_not_begun h hjob (hnot h hjob)]
  | begun number work =>
    -- The numbers under the id belong to jobs for requests with it, so to none with another.
    have hother : number ∉ s.inFlight.numbers id := by
      intro hmem
      obtain ⟨j, hj, hjid, w, hw⟩ := h.running id number hmem
      have hsame := h.eq_of_ticket hj hjob (h.number_inj j hj job hjob number w work hw hstage)
      exact hid (hsame ▸ hjid)
    rw [fired_of_begun hkept.inv hjob' hstage, fired_of_begun h hjob hstage, isCancelled,
      isCancelled, hcancelled, InFlight.isCancelled, InFlight.isCancelled, hinFlight,
      InFlight.cancel_cancelled, Bool.eq_iff_iff]
    simp [hother]

/-- A job that has begun has begun for good. -/
theorem Onward.begun (honward : s.Onward s') (h : s.Inv) {a : Nat × Rpc.Request}
    (ha : a ∈ s.pending) (ha' : a ∈ s'.pending) (hbegun : s.Begun a.1) : s'.Begun a.1 := by
  obtain ⟨job, hjob, hticket, number, work, hstage⟩ := hbegun
  obtain ⟨job', hjob', hticket', -⟩ := mem_pending_iff.1 ha'
  rcases honward.jobs job' hjob' with hnew | ⟨j, hj, hsame, -, hgoes⟩
  · exact absurd (pending_lt h ha) (by omega)
  · obtain rfl := h.eq_of_ticket hj hjob (hsame.trans (hticket'.trans hticket.symm))
    obtain ⟨work', hstage'⟩ := hgoes number work hstage
    exact ⟨job', hjob', hticket', number, work', hstage'⟩

/-- Only a run of a job ends it. -/
theorem mem_pending_apply (h : s.Inv) (hopen : s.Open) (router : Router) (move : Move)
    {a : Nat × Rpc.Request} (ha : a ∈ s.pending) (hmove : ∀ signals, move ≠ .work a.1 signals) :
    a ∈ (s.apply router move).pending := by
  obtain ⟨-, heffect⟩ := effect_of_move h hopen router move
  cases heffect with
  | quiet hpending => exact hpending ▸ ha
  | accepted _ hpending => exact hpending ▸ List.mem_append_left _ ha
  | answered _ _ hpending => exact hpending ▸ ha
  | finished t _ _ hjob hpending _ htaken hticket =>
    rw [hpending]
    refine List.mem_filter.2 ⟨ha, ?_⟩
    cases move with
    | work t' signals =>
      cases hticket
      simpa using fun heq : a.1 = t => hmove signals (heq ▸ rfl)
    | pump signals =>
      cases hticket
      exact absurd (pending_lt h hjob) (Nat.lt_irrefl _)
    | _ => cases hticket

end Session

namespace History

open Session (Move lastWord)

variable {router : Router} {h h' start : History} {a : Nat × Rpc.Request}

/-- A request has had its last word: on one run of its job its work came to something that leaves
an item, and this item is all that the request has left. -/
def HadLastWord (router : Router) (start h : History) (a : Nat × Rpc.Request) : Prop :=
  ∃ before signals work item, Run router start before ∧
    Run router (before.next router (.work a.1 signals)) h ∧
    before.session.cameTo? router signals a.1 = some work ∧ lastWord a.2.id work = [item] ∧
    h.entries a.1 = [⟨some a.1, true, item⟩]

/-- A cancelled request is still worked on, or it has had its last word. -/
inductive Hushed (router : Router) (start h : History) (a : Nat × Rpc.Request) : Prop
  | waiting (hpending : a ∈ h.session.pending) (hbegun : h.session.Begun a.1)
    (hfired : h.session.fired a.1 = true)
  | ended (hasked : a ∈ h.asked) (hover : a ∉ h.session.pending) (hlast : HadLastWord router start h a)

protected theorem Hushed.next (hushed : Hushed router start h a) (hrun : Run router start h)
    (l : h.Ledger) (hopen : h.session.Open) (move : Move) :
    Hushed router start (h.next router move) a := by
  cases hushed with
  | ended hasked hover hlast =>
    obtain ⟨before, signals, work, item, hbefore, hafter, hcame, hlast, hentries⟩ := hlast
    obtain ⟨hover', hentries'⟩ := l.stays_over hopen router move hasked hover
    exact .ended (List.mem_append_left _ hasked) hover' ⟨before, signals, work, item, hbefore,
      hafter.move move hopen, hcame, hlast, hentries'.trans hentries⟩
  | waiting hpending hbegun hfired =>
    have hkept := (Session.effect_of_move l.inv hopen router move).1
    by_cases hpending' : a ∈ (h.next router move).session.pending
    · exact .waiting hpending' (hkept.onward.begun l.inv hpending hpending' hbegun)
        (hkept.onward.fired l.inv hkept.inv hkept.cancelled hpending hpending' hbegun hfired)
    · -- The request is over, so the move was a run of its job.
      obtain ⟨signals, rfl⟩ : ∃ signals, move = .work a.1 signals := by
        by_contra hnone
        exact hpending' (Session.mem_pending_apply l.inv hopen router move hpending
          fun signals heq => hnone ⟨signals, heq⟩)
      obtain ⟨hasked, hnone⟩ := l.pending a hpending
      obtain ⟨work, hcame, hadded, -, hiff⟩ :=
        Session.runJob_fired l.inv hopen hpending hbegun hfired router signals
      rcases Session.lastWord_cases a.2.id work with hlast | ⟨item, hlast⟩
      · exact absurd (hiff.2 hlast) hpending'
      · refine .ended (List.mem_append_left _ hasked) hpending'
          ⟨h, signals, work, item, hrun, .refl, hcame, hlast, ?_⟩
        rw [entries_next_self rfl (hadded.trans hlast), hnone, hfired]
        rfl

theorem Hushed.run (hushed : Hushed router start start a) (l : start.Ledger)
    (hrun : Run router start h) : Hushed router start h a := by
  induction hrun with
  | refl => exact hushed
  | move m hrun hopen ih => exact ih.next hrun (hrun.ledger l) hopen m

/-- When a session takes a cancellation of an id, it reaches the requests with the id that have
begun, and none with another id. Whatever else happens from then on: when a request that was reached
is worked on, it agrees on nothing, and it leaves nothing while it waits, the note that there will
be no response when its work returns, and the error when its work crashes; and once it is over, one
of the two is all that it has ever left. -/
theorem silenced_unless_crashed {s : Session} (hs : Fresh s) (hrun : Run router { session := s } h)
    (hopen : h.session.Open) {signals : List String} {id : Rpc.Id}
    (hcancel : Move.cancels? h.session (.pump signals) = some id) :
    (∀ b ∈ h.session.pending, b.2.id ≠ id →
      (h.next router (.pump signals)).session.fired b.1 = h.session.fired b.1) ∧
    ∀ a ∈ h.session.pending, a.2.id = id → h.session.Begun a.1 →
      (h.next router (.pump signals)).session.fired a.1 = true ∧
      ∀ h', Run router (h.next router (.pump signals)) h' →
        (a ∈ h'.session.pending → h'.session.Open → ∀ signals', ∃ work,
          h'.session.cameTo? router signals' a.1 = some work ∧
            h'.session.added (h'.session.runJob router signals' a.1) = lastWord a.2.id work ∧
            (h'.session.runJob router signals' a.1).handshake = h'.session.handshake) ∧
        (a ∉ h'.session.pending → HadLastWord router (h.next router (.pump signals)) h' a) := by
  have l := hrun.ledger (.of_fresh hs)
  have l₁ := l.next hopen router (.pump signals)
  refine ⟨fun b hb hid => ?_, fun a ha hid hbegun => ?_⟩
  · obtain ⟨job, hjob, hticket, hrequest⟩ := Session.mem_pending_iff.1 hb
    rw [← hticket]
    exact Session.fired_pump_of_ne router l.inv hopen hcancel hjob (hrequest ▸ hid)
  · obtain ⟨job, hjob, hticket, hrequest⟩ := Session.mem_pending_iff.1 ha
    have hfired : (h.next router (.pump signals)).session.fired a.1 = true := by
      rw [← hticket]
      exact (Session.fired_pump_iff router l.inv hopen hcancel hjob (hrequest ▸ hid)).2
        (hticket.symm ▸ hbegun)
    have hjobs := (Session.pump_of_cancels router hcancel).1
    have ha₁ : a ∈ (h.next router (.pump signals)).session.pending := by
      rw [Session.pending, History.next, Session.apply, hjobs]
      exact ha
    have hbegun₁ : (h.next router (.pump signals)).session.Begun a.1 := by
      rw [Session.Begun, History.next, Session.apply, hjobs]
      exact hbegun
    refine ⟨hfired, fun h' hrun' => ?_⟩
    have l' := hrun'.ledger l₁
    have hushed := (Hushed.waiting ha₁ hbegun₁ hfired).run l₁ hrun'
    refine ⟨fun ha' hopen' signals' => ?_, fun hover => ?_⟩
    · cases hushed with
      | waiting hpending hbegun' hfired' =>
        obtain ⟨work, hcame, hadded, hhandshake, -⟩ :=
          Session.runJob_fired l'.inv hopen' hpending hbegun' hfired' router signals'
        exact ⟨work, hcame, hadded, hhandshake⟩
      | ended _ hover => exact absurd ha' hover
    · cases hushed with
      | waiting hpending => exact absurd hpending hover
      | ended _ _ hlast => exact hlast

theorem silenced_unless_crashed_read :
    let silenced := halfBegun.next patient (.pump [])
    silenced.session.fired 0 = true ∧
      silenced.session.added (silenced.session.runJob patient [] 0) = [.abandoned] ∧
      HadLastWord patient silenced (silenced.next patient (.work 0 [])) (0, waitRead) := by
  have hrun : Run patient (opened [.request waitRead, .request ping, .notification cancelOne])
      halfBegun :=
    ((Run.refl.move (.pump []) ⟨rfl, rfl, rfl⟩).move (.pump []) ⟨rfl, rfl, rfl⟩).move (.work 0 [])
      ⟨rfl, rfl, rfl⟩
  have hpending : halfBegun.session.pending = [(0, waitRead), (1, ping)] := rfl
  have hcancel : Move.cancels? halfBegun.session (.pump []) = some (.number 1) := rfl
  obtain ⟨hfired, hlater⟩ := (silenced_unless_crashed ⟨rfl, rfl⟩ hrun ⟨rfl, rfl, rfl⟩ hcancel).2
    (0, waitRead) (hpending ▸ List.mem_cons_self) rfl ⟨_, List.mem_cons_self, rfl, _, _, rfl⟩
  have hthen : (halfBegun.next patient (.pump [])).session.pending =
      [(0, waitRead), (1, ping)] := rfl
  have hover : ((halfBegun.next patient (.pump [])).next patient (.work 0 [])).session.pending =
      [(1, ping)] := rfl
  refine ⟨hfired, ?_, (hlater _ (Run.refl.move (.work 0 []) ⟨rfl, rfl, rfl⟩)).2 ?_⟩
  · obtain ⟨work, hcame, hadded, -⟩ := (hlater _ .refl).1 (hthen ▸ List.mem_cons_self)
      ⟨rfl, rfl, rfl⟩ []
    cases hcame
    exact hadded
  · rw [hover]
    simp [waitRead, ping]

/-- A server with a resource whose reading crashes when it is cancelled. -/
def brittle : Router where
  registry :=
    { resources :=
        [{ uri := "wait:", handler := fun _ => .await .cancellation (.crash (some "kaboom")) }] }

/-- A request for that resource has begun, and a cancellation of it is next in the queue. -/
def beforeCrash : History :=
  ((opened [.request waitRead, .notification cancelOne]).next brittle (.pump [])).next brittle
    (.work 0 [])

theorem cancelled_crash_is_told : beforeCrash.session.Begun 0 ∧
    Move.cancels? beforeCrash.session (.pump []) = some waitRead.id ∧
    (beforeCrash.next brittle (.pump [])).session.fired 0 = true ∧
    ((beforeCrash.next brittle (.pump [])).next brittle (.work 0 [])).log =
      [⟨some 0, true, .message (Rpc.Response.error (some waitRead.id)
        (.internalError "kaboom")).toMessage⟩] :=
  ⟨⟨_, List.mem_cons_self, rfl, _, _, rfl⟩, rfl, rfl, rfl⟩

end History

end SessionRelay
