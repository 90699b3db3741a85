import SessionRelay.Proofs.Transport.Inbound
import SessionRelay.Session.Work

/-!
# What a session has in hand

A session has in hand the messages that wait for it and the requests it works on. Only an offer adds
to them (`inHand_offer`); whatever else is done to a session leaves it with nothing new (`Within`).
-/

namespace SessionRelay

namespace Transport

variable {t t' : Transport}

theorem inbound_push {item : OutboundItem} (h : t.push item = .ok t') :
    t'.inbound = t.inbound := by
  unfold push at h
  split_ifs at h
  cases h
  rfl

theorem inbound_next (t : Transport) : t.next.2.inbound = t.inbound := by
  unfold next
  split <;> rfl

theorem messages_dispose (t : Transport) :
    t.dispose.inbound.messages ⊆ t.inbound.messages := by
  unfold dispose
  by_cases hclosed : t.closed = true
  · rw [if_pos hclosed]
    exact List.Subset.refl _
  rw [if_neg hclosed]
  by_cases huntaken : t.inbound.reader = .untaken
  · simp [huntaken, Inbound.close, Inbound.messages]
  · simp [huntaken, Inbound.dismiss, Inbound.messages]

end Transport

namespace Session

variable {s s' s'' : Session}

def inHand (s : Session) : List Rpc.Message :=
  s.transport.inbound.messages ++ s.jobs.map fun j => .request j.request

/-- The second session is the first later on, with nothing new in hand. -/
structure Within (s s' : Session) : Prop where
  clientId : s'.clientId = s.clientId
  inHand : s'.inHand ⊆ s.inHand

theorem Within.refl (s : Session) : Within s s := ⟨rfl, List.Subset.refl _⟩

theorem Within.trans (h : Within s s') (h' : Within s' s'') : Within s s'' :=
  ⟨h'.clientId.trans h.clientId, List.Subset.trans h'.inHand h.inHand⟩

theorem Within.of_jobs (hclient : s'.clientId = s.clientId)
    (hinbound : s'.transport.inbound = s.transport.inbound)
    (hjobs : ∀ j' ∈ s'.jobs, ∃ j ∈ s.jobs, j'.request = j.request) : Within s s' := by
  refine ⟨hclient, List.append_subset.2 ⟨?_, fun m hm => ?_⟩⟩
  · rw [hinbound]
    exact List.subset_append_left _ _
  · obtain ⟨j', hj', rfl⟩ := List.mem_map.1 hm
    obtain ⟨j, hj, hrequest⟩ := hjobs j' hj'
    rw [hrequest]
    exact List.mem_append_right _ (List.mem_map_of_mem hj)

/-- What happens to everything but the inbound queue and the jobs brings nothing. -/
theorem Within.of_same (hclient : s'.clientId = s.clientId)
    (hinbound : s'.transport.inbound = s.transport.inbound) (hjobs : s'.jobs = s.jobs) :
    Within s s' :=
  .of_jobs hclient hinbound fun j hj => ⟨j, hjobs ▸ hj, rfl⟩

theorem Within.of_inbound (hclient : s'.clientId = s.clientId)
    (hinbound : s'.transport.inbound.messages ⊆ s.transport.inbound.messages)
    (hjobs : s'.jobs = s.jobs) : Within s s' := by
  refine ⟨hclient, List.append_subset.2 ⟨?_, ?_⟩⟩
  · exact List.Subset.trans hinbound (List.subset_append_left _ _)
  · rw [hjobs]
    exact List.subset_append_right _ _

/-! ## The transport -/

theorem within_mapInbound (s : Session) {f : Inbound → Inbound}
    (h : (f s.transport.inbound).messages ⊆ s.transport.inbound.messages) :
    Within s (s.mapInbound f) :=
  .of_inbound rfl h rfl

theorem inHand_offer (s : Session) (m : Rpc.Message) : (s.offer m).2.clientId = s.clientId ∧
    (s.offer m).2.inHand ⊆ m :: s.inHand := by
  have hoffer : (s.transport.offer m).2.inbound.messages ⊆ m :: s.transport.inbound.messages := by
    unfold Transport.offer
    split_ifs
    · exact List.subset_cons_self _ _
    · exact (Inbound.messages_offer _ m).subset
  refine ⟨rfl, List.append_subset.2 ⟨List.Subset.trans hoffer ?_, ?_⟩⟩
  · exact List.cons_subset_cons _ (List.subset_append_left _ _)
  · exact List.subset_cons_of_subset _ (List.subset_append_right _ _)

theorem within_put {item : OutboundItem}
    (h : ((s.transport.push item).map fun transport => { s with transport }).toOption = some s') :
    Within s s' := by
  cases hpush : s.transport.push item with
  | error e =>
    rw [hpush] at h
    cases h
  | ok t =>
    rw [hpush] at h
    cases h
    exact .of_same rfl (Transport.inbound_push hpush) rfl

theorem within_send {m : Rpc.Message} (h : (s.send m).toOption = some s') : Within s s' :=
  within_put h

theorem within_events (h : s.events.toOption = some s') : Within s s' := by
  unfold events Transport.events at h
  split at h
  · cases h
    exact .of_same rfl rfl rfl
  · cases h

theorem within_next (s : Session) : Within s s.next.2 :=
  .of_same rfl s.transport.inbound_next rfl

theorem within_dropStream (s : Session) : Within s s.dropStream := .of_same rfl rfl rfl

theorem within_shutDown (s : Session) : Within s s.shutDown := by
  unfold shutDown
  split_ifs
  · exact .refl s
  · exact .of_inbound rfl s.transport.messages_dispose rfl

theorem within_stopPump (s : Session) : Within s s.stopPump :=
  .of_inbound rfl (List.nil_subset _) rfl

/-! ## Jobs -/

theorem within_setStage (s : Session) (ticket : Nat) (stage : Stage) :
    Within s (s.setStage ticket stage) := by
  refine .of_jobs rfl rfl fun j' hj' => ?_
  obtain ⟨j, hj, rfl⟩ := List.mem_map.1 hj'
  refine ⟨j, hj, ?_⟩
  split <;> rfl

theorem within_removeJob (s : Session) (ticket : Nat) : Within s (s.removeJob ticket) :=
  .of_jobs rfl rfl fun j hj => ⟨j, List.mem_of_mem_filter hj, rfl⟩

theorem within_agree (s : Session) (request : Rpc.Request) (response : Rpc.Response) :
    Within s (s.agree request response) := by
  cases response with
  | success r =>
    unfold agree
    split_ifs
    · exact .of_same rfl rfl rfl
    · exact .refl s
  | failure r => exact .refl s

theorem within_answered (s : Session) (request : Rpc.Request) (number : Nat)
    (response : Rpc.Response) : Within s (s.answered request number response).2 := by
  have hfinish : Within s (s.finish request.id number) := .of_same rfl rfl rfl
  unfold answered
  simp only
  split_ifs
  · exact hfinish
  · exact hfinish.trans (within_agree _ request response)

theorem within_writeBack (s : Session) (response : Option Rpc.Response) :
    Within s (s.writeBack response) := by
  have hgetD : ∀ written : Except TransportError Session,
      (∀ s', written.toOption = some s' → Within s s') → Within s (written.toOption.getD s) := by
    intro written h
    cases hwritten : written.toOption with
    | none => exact .refl s
    | some s' => exact h s' hwritten
  cases response with
  | none => exact hgetD _ fun s' h => within_put h
  | some r => exact hgetD _ fun s' h => within_send h

theorem within_goOn (s : Session) (signals : List String) (job : Job) (number : Nat)
    (work : Activity Rpc.Response) : Within s (s.goOn signals job number work) := by
  have hremoved := within_removeJob s job.ticket
  unfold goOn
  split
  · exact within_setStage s job.ticket _
  · exact hremoved.trans ((within_answered _ job.request number _).trans (within_writeBack _ _))
  · have hcrashed : Within (s.removeJob job.ticket)
        ((s.removeJob job.ticket).finish job.request.id number) := .of_same rfl rfl rfl
    exact hremoved.trans (hcrashed.trans (within_writeBack _ _))

theorem within_runJob (s : Session) (router : Router) (signals : List String) (ticket : Nat) :
    Within s (s.runJob router signals ticket) := by
  unfold runJob
  split
  · exact .refl s
  · rename_i job _
    split
    · have hregister : Within s (s.register job.request.id).2 := .of_same rfl rfl rfl
      exact hregister.trans (within_goOn _ signals job _ _)
    · exact within_goOn s signals job _ _

/-! ## The queue -/

theorem within_notice (s : Session) (n : Rpc.Notification) : Within s (s.notice n) := by
  unfold notice
  split
  · exact .of_same rfl rfl rfl
  · exact .of_same rfl rfl rfl
  · exact .refl s
  · exact .refl s

theorem inHand_addJob (s : Session) (r : Rpc.Request) :
    (s.addJob r).inHand ⊆ .request r :: s.inHand := by
  intro m hm
  simp only [inHand, addJob, List.map_append, List.map_cons, List.map_nil, List.mem_append,
    List.mem_cons] at hm ⊢
  tauto

/-- A session that handles a message has at most this message more in hand. -/
theorem inHand_handle (s : Session) (router : Router) (signals : List String) (m : Rpc.Message) :
    (s.handle router signals m).clientId = s.clientId ∧
      (s.handle router signals m).inHand ⊆ m :: s.inHand := by
  cases m with
  | request r =>
    have hadd := inHand_addJob s r
    simp only [handle]
    split_ifs
    · obtain ⟨hclient, hinHand⟩ := within_runJob (s.addJob r) router signals s.nextJob
      exact ⟨hclient, List.Subset.trans hinHand hadd⟩
    · exact ⟨rfl, hadd⟩
  | notification n =>
    obtain ⟨hclient, hinHand⟩ := within_notice s n
    exact ⟨hclient, List.subset_cons_of_subset _ hinHand⟩
  | success r => exact ⟨rfl, List.subset_cons_self _ _⟩
  | failure r => exact ⟨rfl, List.subset_cons_self _ _⟩

/-- What a session takes from its queue it had in hand. -/
theorem inHand_take? {m : Rpc.Message} (h : s.take? = some (m, s')) :
    s'.clientId = s.clientId ∧ s.inHand = m :: s'.inHand := by
  unfold take? at h
  split_ifs at h
  obtain ⟨⟨m', inbound⟩, hinbound, heq⟩ := Option.map_eq_some_iff.1 h
  cases heq
  refine ⟨rfl, ?_⟩
  rw [inHand, Inbound.messages_take? hinbound]
  rfl

theorem within_pump (s : Session) (router : Router) (signals : List String) :
    Within s (s.pump router signals) := by
  unfold pump
  split
  · rename_i m s' htake
    obtain ⟨hclient, htaken⟩ := inHand_take? htake
    obtain ⟨hclient', hhandled⟩ := inHand_handle s' router signals m
    rw [← htaken] at hhandled
    exact ⟨hclient'.trans hclient, hhandled⟩
  · exact .refl s

end Session

end SessionRelay
