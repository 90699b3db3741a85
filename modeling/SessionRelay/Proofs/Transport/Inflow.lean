import SessionRelay.Proofs.Transport.Intake

/-!
# What the inbound queue takes

Every call that brings a message is accepted, is refused or waits. The messages of the accepted
calls are received, each once and in the order in which they were accepted, and no more of them are
queued than there is room for. When a message is received, the first call that waits has a slot and
is accepted once it looks. After the end whatever is begun is refused, and so is who waits, except
that a call with a slot, be it freed after the end, still gets in when it looks at its place before
it looks at the end (`queue_takes_what_was_accepted`).

The proof keeps the line of the queue equal to the calls that wait, in order (`Orderly.places`).
-/

namespace SessionRelay.Transport

/-- The place in line of a call that waits, with its message. -/
def Call.place? : Call → Option (Nat × Rpc.Message)
  | ⟨m, .waiting ticket⟩ => some (ticket, m)
  | _ => none

theorem Call.of_place? {c : Call} {place : Nat × Rpc.Message} (h : c.place? = some place) :
    c = ⟨place.2, .waiting place.1⟩ := by
  unfold place? at h
  split at h <;> cases h
  rfl

/-- A call is left in line: its writer does nothing, and the reading end is kept. -/
def Move.Spares (k : Nat) : Move → Prop
  | .resume j _ | .giveUp j => j ≠ k
  | .dropInbound => False
  | _ => True

/-! ## The calls -/

section

variable {calls : List Call} {accepted : List (Nat × Rpc.Message)} {k ticket : Nat}
  {m : Rpc.Message} {c : Call}

theorem getElem?_concat_iff {c' : Call} : (calls ++ [c])[k]? = some c' ↔
    calls[k]? = some c' ∨ k = calls.length ∧ c' = c := by
  rcases Nat.lt_trichotomy k calls.length with hk | rfl | hk
  · rw [List.getElem?_append_left hk]
    simp [Nat.ne_of_lt hk]
  · simp [eq_comm]
  · have hnone : (calls ++ [c])[k]? = none := List.getElem?_eq_none (by simp; omega)
    simp [hnone, List.getElem?_eq_none (Nat.le_of_lt hk), Nat.ne_of_gt hk]

theorem getElem?_set_iff {k' : Nat} {old c' : Call} (h : calls[k]? = some old) :
    (calls.set k c)[k']? = some c' ↔ k' ≠ k ∧ calls[k']? = some c' ∨ k' = k ∧ c' = c := by
  obtain ⟨hk, -⟩ := List.getElem?_eq_some_iff.1 h
  by_cases heq : k' = k
  · simp [heq, hk, eq_comm]
  · simp [List.getElem?_set_ne (Ne.symm heq), heq]

/-- The accepted calls are listed, each once. -/
structure Booked (calls : List Call) (accepted : List (Nat × Rpc.Message)) : Prop where
  mem : ∀ k m, (k, m) ∈ accepted ↔ calls[k]? = some ⟨m, .accepted⟩
  once : (accepted.map Prod.fst).Nodup

namespace Booked

/-- A call that was not accepted yet is listed last. -/
theorem once_append (h : Booked calls accepted) (hcall : ∀ m, calls[k]? ≠ some ⟨m, .accepted⟩)
    (m : Rpc.Message) : ((accepted ++ [(k, m)]).map Prod.fst).Nodup := by
  rw [List.map_append, List.nodup_append]
  refine ⟨h.once, List.nodup_singleton _, ?_⟩
  rintro k' hk' _ hk rfl
  obtain ⟨⟨_, m'⟩, hmem, rfl⟩ := List.mem_map.1 hk'
  obtain rfl : _ = k := List.mem_singleton.1 hk
  exact hcall m' ((h.mem _ m').1 hmem)

theorem append (h : Booked calls accepted) (hc : c.fate ≠ .accepted) :
    Booked (calls ++ [c]) accepted where
  mem := fun k m => by
    rw [h.mem, getElem?_concat_iff]
    refine ⟨.inl, fun hcall => hcall.resolve_right ?_⟩
    rintro ⟨-, rfl⟩
    exact hc rfl
  once := h.once

theorem append_accepted (h : Booked calls accepted) (m : Rpc.Message) :
    Booked (calls ++ [⟨m, .accepted⟩]) (accepted ++ [(calls.length, m)]) where
  mem := fun k m' => by
    rw [List.mem_append, h.mem, getElem?_concat_iff]
    simp
  once := h.once_append (by simp) m

theorem set (h : Booked calls accepted) (hcall : calls[k]? = some ⟨m, .waiting ticket⟩)
    (hc : c.fate ≠ .accepted) : Booked (calls.set k c) accepted where
  mem := fun k' m' => by
    rw [h.mem, getElem?_set_iff hcall]
    constructor
    · refine fun hcall' => .inl ⟨?_, hcall'⟩
      rintro rfl
      simp [hcall] at hcall'
    · rintro (⟨-, hcall'⟩ | ⟨-, rfl⟩)
      · exact hcall'
      · exact absurd rfl hc
  once := h.once

theorem set_accepted (h : Booked calls accepted) (hcall : calls[k]? = some ⟨m, .waiting ticket⟩) :
    Booked (calls.set k ⟨m, .accepted⟩) (accepted ++ [(k, m)]) where
  mem := fun k' m' => by
    rw [List.mem_append, h.mem, getElem?_set_iff hcall]
    by_cases heq : k' = k <;> simp [heq, hcall]
  once := h.once_append (by simp [hcall]) m

end Booked

theorem exists_split (h : calls[k]? = some c) :
    ∃ before after, calls = before ++ c :: after ∧ before.length = k := by
  obtain ⟨hk, rfl⟩ := List.getElem?_eq_some_iff.1 h
  refine ⟨calls.take k, calls.drop (k + 1), ?_, List.length_take_of_le (Nat.le_of_lt hk)⟩
  rw [List.getElem_cons_drop, List.take_append_drop]

theorem filter_middle {before after : List (Nat × Rpc.Message)} {place : Nat × Rpc.Message}
    (hnodup : ((before ++ place :: after).map Prod.fst).Nodup) :
    (before ++ place :: after).filter (·.1 != place.1) = before ++ after := by
  rw [List.map_append, List.map_cons, List.nodup_middle, List.nodup_cons, ← List.map_append]
    at hnodup
  rw [List.filter_append, List.filter_cons_of_neg (by simp), ← List.filter_append]
  refine List.filter_eq_self.2 fun other hother => bne_iff_ne.2 fun heq => hnodup.1 ?_
  exact heq ▸ List.mem_map_of_mem hother

/-- A call that waited leaves the line. -/
theorem filterMap_set (hcall : calls[k]? = some ⟨m, .waiting ticket⟩) (hc : c.place? = none)
    (hnodup : ((calls.filterMap Call.place?).map Prod.fst).Nodup) :
    (calls.set k c).filterMap Call.place? =
      (calls.filterMap Call.place?).filter (·.1 != ticket) := by
  obtain ⟨before, after, rfl, rfl⟩ := exists_split hcall
  have hplaces : (before ++ ⟨m, .waiting ticket⟩ :: after).filterMap Call.place? =
      before.filterMap Call.place? ++ (ticket, m) :: after.filterMap Call.place? := by
    rw [List.filterMap_append]
    rfl
  rw [hplaces] at hnodup ⊢
  rw [filter_middle hnodup, List.set_append_right _ _ (Nat.le_refl _), Nat.sub_self,
    List.set_cons_zero, List.filterMap_append, List.filterMap_cons, hc]

end

/-! ## Order -/

variable {capacity k ticket : Nat} {m : Rpc.Message} {move : Move} {i i' : Intake}

/-- Messages are taken in good order. -/
structure Orderly (capacity : Nat) (i : Intake) : Prop where
  roomy : i.whole.Roomy (max capacity 1)
  booked : Booked i.calls i.accepted
  /-- What was accepted was received, is queued, or is lost with the reading end. -/
  flow : ∃ lost, i.accepted.map Prod.snd = i.received ++ (i.whole.queue ++ lost) ∧
    (i.whole.reader ≠ .gone → lost = [])
  /-- The calls that wait stand in line, in order. -/
  places : i.whole.reader ≠ .gone → i.whole.places = i.calls.filterMap Call.place?
  emptied : i.whole.reader = .gone → i.whole.places = []

namespace Orderly

theorem accepted_eq (h : Orderly capacity i) (hreader : i.whole.reader ≠ .gone) :
    i.accepted.map Prod.snd = i.received ++ i.whole.queue := by
  obtain ⟨lost, hflow, hlost⟩ := h.flow
  rw [hflow, hlost hreader, List.append_nil]

/-- The tickets in line are given once. -/
theorem tickets (h : Orderly capacity i) (hreader : i.whole.reader ≠ .gone) :
    ((i.calls.filterMap Call.place?).map Prod.fst).Nodup := by
  rw [← h.places hreader, Inbound.places, List.map_map]
  exact h.roomy.tidy.nodup

/-- A call that waits has its place in line while there is a reading end. -/
theorem waits?_of_call (h : Orderly capacity i) (hreader : i.whole.reader ≠ .gone)
    (hcall : i.calls[k]? = some ⟨m, .waiting ticket⟩) : i.whole.waits? ticket = some m := by
  refine h.roomy.tidy.waits?_of_mem ?_
  rw [h.places hreader]
  exact List.mem_filterMap.2 ⟨_, List.mem_of_getElem? hcall, rfl⟩

theorem reader_of_standing (h : Orderly capacity i)
    (hstanding : i.whole.standing ticket ≠ .dismissed) : i.whole.reader ≠ .gone := fun hgone =>
  hstanding (Inbound.standing_of_places (h.emptied hgone))

/-- The writer of a call that waits leaves the line when the call has come to something. -/
theorem places_set (h : Orderly capacity i) (hreader : i.whole.reader ≠ .gone)
    (hcall : i.calls[k]? = some ⟨m, .waiting ticket⟩) {c : Call} (hc : c.place? = none) :
    i.whole.places.filter (·.1 != ticket) = (i.calls.set k c).filterMap Call.place? := by
  rw [filterMap_set hcall hc (h.tickets hreader), h.places hreader]

theorem accepted (h : Orderly capacity i) (hreader : i.whole.reader ≠ .gone)
    (hroom : i.whole.hasRoom = true) (m : Rpc.Message) :
    Orderly capacity
      { i with
        whole := (i.whole.offer m).2
        calls := i.calls ++ [⟨m, .accepted⟩]
        accepted := i.accepted ++ [(i.calls.length, m)] } := by
  have hroomy := h.roomy.use (.offered m : i.whole.Use none _)
  rw [Inbound.offer_of_room hreader hroom] at hroomy ⊢
  refine ⟨hroomy, h.booked.append_accepted m, ?_, fun _ => ?_, h.emptied⟩
  · refine ⟨[], ?_, fun _ => rfl⟩
    rw [List.map_append, h.accepted_eq hreader]
    simp
  · rw [List.filterMap_append]
    exact (h.places hreader).trans (List.append_nil _).symm

theorem queued (h : Orderly capacity i) (hreader : i.whole.reader ≠ .gone)
    (hfull : i.whole.hasRoom = false) (m : Rpc.Message) :
    Orderly capacity
      { i with
        whole := (i.whole.offer m).2
        calls := i.calls ++ [⟨m, .waiting i.whole.nextTicket⟩] } := by
  have hroomy := h.roomy.use (.offered m : i.whole.Use none _)
  rw [Inbound.offer_of_full hreader hfull] at hroomy ⊢
  refine ⟨hroomy, h.booked.append (by simp), h.flow, fun _ => ?_, fun hgone => absurd hgone hreader⟩
  rw [List.filterMap_append, ← h.places hreader, Inbound.places, List.map_append]
  rfl

theorem entered (h : Orderly capacity i) (hcall : i.calls[k]? = some ⟨m, .waiting ticket⟩)
    (hadmitted : i.whole.standing ticket = .admitted) :
    Orderly capacity
      { i with
        whole := i.whole.enter ticket
        calls := i.calls.set k ⟨m, .accepted⟩
        accepted := i.accepted ++ [(k, m)] } := by
  have hreader := h.reader_of_standing (hadmitted.trans_ne (by decide))
  have huse : i.whole.Use (some ticket) (i.whole.enter ticket) := .entered ticket rfl
  obtain ⟨hsame, -, -⟩ := huse.steady
  refine ⟨h.roomy.use huse, h.booked.set_accepted hcall, ?_, fun _ => ?_, fun hgone =>
    absurd (hsame ▸ hgone) hreader⟩
  · refine ⟨[], ?_, fun _ => rfl⟩
    rw [List.map_append, h.accepted_eq hreader,
      Inbound.queue_enter (h.waits?_of_call hreader hcall) hadmitted]
    simp
  · exact (Inbound.places_enter hadmitted).trans (h.places_set hreader hcall rfl)

theorem left (h : Orderly capacity i) (hcall : i.calls[k]? = some ⟨m, .waiting ticket⟩)
    {fate : Fate} (hfate : fate = .refused ∨ fate = .forgotten) :
    Orderly capacity
      { i with whole := i.whole.leave ticket, calls := i.calls.set k ⟨m, fate⟩ } := by
  have huse : i.whole.Use (some ticket) (i.whole.leave ticket) := .left ticket rfl
  obtain ⟨hsame, -, -⟩ := huse.steady
  have hplace : Call.place? ⟨m, fate⟩ = none := by rcases hfate with rfl | rfl <;> rfl
  have hout : fate ≠ .accepted := by rcases hfate with rfl | rfl <;> simp
  refine ⟨h.roomy.use huse, h.booked.set hcall hout, ?_, fun hreader => ?_, fun hgone => ?_⟩
  · simp only [Inbound.queue_leave, hsame]
    exact h.flow
  · exact (Inbound.places_leave _ _).trans (h.places_set (hsame ▸ hreader) hcall hplace)
  · exact (Inbound.places_leave _ _).trans (by rw [h.emptied (hsame ▸ hgone), List.filter_nil])

theorem received (h : Orderly capacity i) {q : Inbound} (htake : i.whole.take? = some (m, q)) :
    Orderly capacity { i with whole := q, received := i.received ++ [m] } := by
  have huse : i.whole.Use none q := .taken htake
  obtain ⟨hsame, -, -⟩ := huse.steady
  refine ⟨h.roomy.use huse, h.booked, ?_, fun hreader => ?_, fun hgone => ?_⟩
  · obtain ⟨lost, hflow, hlost⟩ := h.flow
    refine ⟨lost, ?_, fun hreader => hlost (hsame ▸ hreader)⟩
    rw [hflow, Inbound.queue_take? htake]
    simp
  · exact (Inbound.places_take? htake).trans (h.places (hsame ▸ hreader))
  · exact (Inbound.places_take? htake).trans (h.emptied (hsame ▸ hgone))

theorem taken (h : Orderly capacity i) (hreader : i.whole.reader = .untaken) :
    Orderly capacity { i with whole := { i.whole with reader := .taken } } := by
  have hold : i.whole.reader ≠ .gone := by simp [hreader]
  refine ⟨h.roomy.withReader .taken, h.booked, ?_, fun _ => h.places hold, nofun⟩
  obtain ⟨lost, hflow, hlost⟩ := h.flow
  exact ⟨lost, hflow, fun _ => hlost hold⟩

/-- The reading end is gone, and what was queued is lost. -/
theorem close (h : Orderly capacity i) : Orderly capacity { i with whole := i.whole.close } := by
  refine ⟨h.roomy.close, h.booked, ?_, fun hreader => absurd rfl hreader, fun _ => rfl⟩
  obtain ⟨lost, hflow, -⟩ := h.flow
  exact ⟨i.whole.queue ++ lost, hflow, fun hreader => absurd rfl hreader⟩

theorem turn (h : Orderly capacity i) (hturn : Turn i move i') : Orderly capacity i' := by
  cases hturn with
  | idle => exact h
  | taken hreader => exact h.taken hreader
  | closed => exact h.close
  | received _ htake => exact h.received htake
  | refused m =>
    refine ⟨h.roomy, h.booked.append (by simp), h.flow, fun hreader => ?_, h.emptied⟩
    rw [List.filterMap_append]
    exact (h.places hreader).trans (List.append_nil _).symm
  | accepted _ hreader hroom => exact h.accepted hreader hroom _
  | queued m hreader hfull => exact h.queued hreader hfull m
  | entered _ hcall hadmitted => exact h.entered hcall hadmitted
  | left _ hcall hfate => exact h.left hcall hfate

end Orderly

/-! ## Those who wait -/

namespace Intake

/-- A call waits and has no slot yet. -/
def Waits (i : Intake) (k : Nat) (m : Rpc.Message) : Prop :=
  ∃ ticket, i.calls[k]? = some ⟨m, .waiting ticket⟩ ∧ i.whole.standing ticket = .waiting

/-- A call waits and has a slot. -/
def Admitted (i : Intake) (k : Nat) (m : Rpc.Message) : Prop :=
  ∃ ticket, i.calls[k]? = some ⟨m, .waiting ticket⟩ ∧ i.whole.standing ticket = .admitted

end Intake

theorem Orderly.full (h : Orderly capacity i) (hwaits : i.Waits k m) :
    i.whole.occupied = max capacity 1 := by
  obtain ⟨ticket, -, hstanding⟩ := hwaits
  have hfull := h.roomy.tidy.full_of_waiting hstanding
  rw [h.roomy.size] at hfull
  exact Nat.le_antisymm h.roomy.room hfull

/-- The slot of a message that is received goes to the first call that waits for one. -/
theorem Orderly.admits (h : Orderly capacity i) (hwaits : i.Waits k m)
    (hfirst : ∀ j < k, ∀ m', ¬ i.Waits j m') {m' : Rpc.Message} {q : Inbound}
    (htake : i.whole.take? = some (m', q)) :
    Intake.Admitted { i with whole := q, received := i.received ++ [m'] } k m := by
  obtain ⟨ticket, hcall, hstanding⟩ := hwaits
  have hreader := h.reader_of_standing (hstanding.trans_ne (by decide))
  obtain ⟨before, after, hsplit, rfl⟩ := exists_split hcall
  have hplaces : i.whole.places =
      before.filterMap Call.place? ++ (ticket, m) :: after.filterMap Call.place? := by
    rw [h.places hreader, hsplit, List.filterMap_append]
    rfl
  refine ⟨ticket, hcall,
    h.roomy.tidy.standing_take? htake hplaces (fun place hplace => ?_) hstanding⟩
  -- whoever waits further to the front is a call made earlier
  obtain ⟨c, hc, hplace⟩ := List.mem_filterMap.1 hplace
  obtain ⟨j, hj, rfl⟩ := List.getElem_of_mem hc
  intro hwaiting
  refine hfirst j hj place.2 ⟨place.1, ?_, hwaiting⟩
  rw [hsplit, List.getElem?_append_left hj, ← Call.of_place? hplace, List.getElem?_eq_getElem hj]

/-- Tickets of calls that wait are their own. -/
theorem Orderly.ticket_ne (h : Orderly capacity i) (hreader : i.whole.reader ≠ .gone)
    {j ticket' : Nat} {m' : Rpc.Message} (hcall : i.calls[k]? = some ⟨m, .waiting ticket⟩)
    (hcall' : i.calls[j]? = some ⟨m', .waiting ticket'⟩) (hne : j ≠ k) : ticket' ≠ ticket := by
  have hnodup := h.tickets hreader
  rw [List.nodup_iff_pairwise_ne, List.pairwise_map, List.pairwise_filterMap,
    List.pairwise_iff_getElem] at hnodup
  obtain ⟨hk, hcall⟩ := List.getElem?_eq_some_iff.1 hcall
  obtain ⟨hj, hcall'⟩ := List.getElem?_eq_some_iff.1 hcall'
  rcases Nat.lt_or_gt_of_ne hne with hlt | hlt
  · exact hnodup j k hj hk hlt (ticket', m') (by rw [hcall']; rfl) (ticket, m) (by rw [hcall]; rfl)
  · exact (hnodup k j hk hj hlt (ticket, m) (by rw [hcall]; rfl) (ticket', m')
      (by rw [hcall']; rfl)).symm

/-- A call has a slot, and the reading end is kept. -/
def Intake.Holds (i : Intake) (k : Nat) (m : Rpc.Message) : Prop :=
  i.Admitted k m ∧ i.whole.reader = .taken

namespace Intake.Holds

variable {q : Inbound} {accepted : List (Nat × Rpc.Message)} {received : List Rpc.Message}

/-- Nobody in line does anything. -/
theorem grow (h : i.Holds k m) (huse : i.whole.Use none q) {calls : List Call}
    (hcalls : i.calls <+: calls) : Intake.Holds ⟨q, calls, accepted, received⟩ k m := by
  obtain ⟨⟨ticket, hcall, hstanding⟩, hreader⟩ := h
  obtain ⟨more, rfl⟩ := hcalls
  obtain ⟨hk, -⟩ := List.getElem?_eq_some_iff.1 hcall
  exact ⟨⟨ticket, (List.getElem?_append_left hk).trans hcall, huse.admitted nofun hstanding⟩,
    huse.steady.1.trans hreader⟩

/-- Another call leaves the line, with its own ticket. -/
theorem set (h : i.Holds k m) (ho : Orderly capacity i) {j ticket' : Nat} {m' : Rpc.Message}
    (hother : i.calls[j]? = some ⟨m', .waiting ticket'⟩) (hne : j ≠ k)
    (huse : i.whole.Use (some ticket') q) (c : Call) :
    Intake.Holds ⟨q, i.calls.set j c, accepted, received⟩ k m := by
  obtain ⟨⟨ticket, hcall, hstanding⟩, hreader⟩ := h
  have hticket := ho.ticket_ne (hreader.trans_ne (by decide)) hcall hother hne
  exact ⟨⟨ticket, (getElem?_set_iff hother).2 (.inl ⟨hne.symm, hcall⟩),
    huse.admitted (by simpa using hticket) hstanding⟩, huse.steady.1.trans hreader⟩

/-- A call that has a slot keeps it until it uses it or gives it up. -/
theorem turn (h : i.Holds k m) (ho : Orderly capacity i) (hspares : move.Spares k)
    (hturn : Turn i move i') : i'.Holds k m := by
  have hreader : i.whole.reader = .taken := h.2
  cases hturn with
  | idle => exact h
  | taken huntaken => cases hreader.symm.trans huntaken
  | closed hmove =>
    rcases hmove with rfl | ⟨-, huntaken⟩
    · exact hspares.elim
    · cases hreader.symm.trans huntaken
  | received _ htake => exact h.grow (.taken htake) (List.prefix_refl _)
  | refused => exact h.grow .same (List.prefix_append _ _)
  | accepted | queued => exact h.grow (.offered _) (List.prefix_append _ _)
  | entered _ hother => exact h.set ho hother hspares (.entered _ rfl) _
  | @left _ j _ _ _ hmove hother =>
    have hne : j ≠ k := by
      rcases hmove with ⟨first, rfl⟩ | rfl
      · exact hspares
      · exact hspares
    exact h.set ho hother hne (.left _ rfl) _

end Intake.Holds

/-! ## Who gets in -/

/-- Nothing can get in: there is no reading end, or the queue is full. -/
def Intake.Barred (capacity : Nat) (i : Intake) : Prop :=
  i.whole.reader = .gone ∨ i.whole.queue.length = max capacity 1

theorem Orderly.not_barred_of_admitted (h : Orderly capacity i)
    (hadmitted : i.whole.standing ticket = .admitted) : ¬ i.Barred capacity := by
  rintro (hgone | hfull)
  · exact h.reader_of_standing (hadmitted.trans_ne (by decide)) hgone
  · obtain ⟨w, hw, hslot⟩ := Inbound.standing_eq_admitted.1 hadmitted
    have hkept : 0 < i.whole.line.countP Writer.admitted :=
      List.countP_pos_iff.2 ⟨w, List.mem_of_find?_eq_some hw, hslot⟩
    have hroom := h.roomy.room
    rw [Inbound.occupied] at hroom
    omega

theorem Orderly.not_barred_of_room (h : Orderly capacity i) (hreader : i.whole.reader ≠ .gone)
    (hroom : i.whole.hasRoom = true) : ¬ i.Barred capacity := by
  rintro (hgone | hfull)
  · exact hreader hgone
  · simp only [Inbound.hasRoom, Bool.and_eq_true, decide_eq_true_eq, Inbound.occupied,
      h.roomy.size] at hroom
    omega

/-- Where nothing can get in, that stays so until a message is received. -/
theorem Orderly.barred_turn (h : Orderly capacity i) (hbarred : i.Barred capacity)
    (hmove : i.whole.reader = .gone ∨ move ≠ .receive) (hturn : Turn i move i') :
    i'.Barred capacity ∧ i'.accepted = i.accepted := by
  cases hturn with
  | idle | refused => exact ⟨hbarred, rfl⟩
  | taken hreader => exact ⟨.inr (hbarred.resolve_left (by simp [hreader])), rfl⟩
  | closed => exact ⟨.inl rfl, rfl⟩
  | received hreader =>
    rcases hmove with hgone | hnot
    · cases hreader.symm.trans hgone
    · exact absurd rfl hnot
  | accepted _ hreader hroom => exact absurd hbarred (h.not_barred_of_room hreader hroom)
  | queued m hreader hfull =>
    rw [Inbound.offer_of_full hreader hfull]
    exact ⟨hbarred, rfl⟩
  | entered _ _ hadmitted => exact absurd hbarred (h.not_barred_of_admitted hadmitted)
  | @left _ _ ticket =>
    have huse : i.whole.Use (some ticket) (i.whole.leave ticket) := .left ticket rfl
    refine ⟨?_, rfl⟩
    rw [Intake.Barred, huse.steady.1, Inbound.queue_leave]
    exact hbarred

/-- A reading end that is gone does not come back. -/
theorem gone_turn (hgone : i.whole.reader = .gone) (hturn : Turn i move i') :
    i'.whole.reader = .gone := by
  cases hturn with
  | idle | refused => exact hgone
  | taken hreader => cases hreader.symm.trans hgone
  | closed => rfl
  | received hreader => cases hreader.symm.trans hgone
  | accepted _ hreader | queued _ hreader => exact absurd hgone hreader
  | @entered _ ticket =>
    have huse : i.whole.Use (some ticket) (i.whole.enter ticket) := .entered ticket rfl
    exact huse.steady.1.trans hgone
  | @left _ _ ticket =>
    have huse : i.whole.Use (some ticket) (i.whole.leave ticket) := .left ticket rfl
    exact huse.steady.1.trans hgone

/-- What a call has come to is not changed. -/
theorem settled_turn {c : Call} (hcall : i.calls[k]? = some c)
    (hc : ∀ ticket, c.fate ≠ .waiting ticket) (hturn : Turn i move i') :
    i'.calls[k]? = some c := by
  have happend : ∀ c', (i.calls ++ [c'])[k]? = some c := fun c' =>
    getElem?_concat_iff.2 (.inl hcall)
  have hset : ∀ {j m ticket}, i.calls[j]? = some ⟨m, .waiting ticket⟩ → ∀ c',
      (i.calls.set j c')[k]? = some c := fun hwaiting c' => by
    refine (getElem?_set_iff hwaiting).2 (.inl ⟨?_, hcall⟩)
    rintro rfl
    cases hcall.symm.trans hwaiting
    exact hc _ rfl
  cases hturn with
  | idle | taken | closed | received => exact hcall
  | refused | accepted | queued => exact happend _
  | entered _ hwaiting => exact hset hwaiting _
  | left _ hwaiting => exact hset hwaiting _

/-- Who is in or waits after some moves was in, waited or was brought late. -/
structure Intake.Late (i i' : Intake) (moves : List Move) : Prop where
  waits : ∀ (k : Nat) (m : Rpc.Message) (ticket : Nat),
    i'.calls[k]? = some ⟨m, .waiting ticket⟩ → i.calls[k]? = some ⟨m, .waiting ticket⟩
  accepted : ∀ k m, (k, m) ∈ i'.accepted → (k, m) ∈ i.accepted ∨
    (∃ ticket, i.calls[k]? = some ⟨m, .waiting ticket⟩) ∨ .belated m .place ∈ moves

theorem Intake.Late.refl (i : Intake) : i.Late i [] := ⟨fun _ _ _ => id, fun _ _ => .inl⟩

theorem Intake.Late.trans {i'' : Intake} {moves moves' : List Move} (h : i.Late i' moves)
    (h' : i'.Late i'' moves') : i.Late i'' (moves ++ moves') where
  waits := fun k m ticket hcall => h.waits k m ticket (h'.waits k m ticket hcall)
  accepted := fun k m hmem => by
    rcases h'.accepted k m hmem with hmem | ⟨ticket, hcall⟩ | hmove
    · exact (h.accepted k m hmem).imp_right (.imp_right (List.mem_append_left _))
    · exact .inr (.inl ⟨ticket, h.waits k m ticket hcall⟩)
    · exact .inr (.inr (List.mem_append_right _ hmove))

theorem late_refused (i : Intake) (m : Rpc.Message) (moves : List Move) :
    i.Late { i with calls := i.calls ++ [⟨m, .refused⟩] } moves where
  waits := fun _ _ _ hcall => (getElem?_concat_iff.1 hcall).resolve_right (by simp)
  accepted := fun _ _ => .inl

theorem Turn.late (hturn : Turn i move i') (hmove : ∀ m, move ≠ .process m) :
    i.Late i' [move] := by
  cases hturn with
  | idle | taken | closed | received => exact ⟨fun _ _ _ => id, fun _ _ => .inl⟩
  | refused m' => exact late_refused i m' _
  | accepted hbrought =>
    refine ⟨fun k m ticket hcall => ?_, fun k m hmem => ?_⟩
    · exact (getElem?_concat_iff.1 hcall).resolve_right (by simp)
    · rcases List.mem_append.1 hmem with hmem | hnew
      · exact .inl hmem
      · cases List.mem_singleton.1 hnew
        have hbelated := hbrought.resolve_left (hmove _)
        exact .inr (.inr (List.mem_singleton.2 hbelated.symm))
  | queued m' => exact absurd rfl (hmove m')
  | @entered j ticket' m' _ hcall' =>
    refine ⟨fun k m ticket hcall => ?_, fun k m hmem => ?_⟩
    · exact ((getElem?_set_iff hcall').1 hcall).elim And.right (by simp)
    · rcases List.mem_append.1 hmem with hmem | hnew
      · exact .inl hmem
      · cases List.mem_singleton.1 hnew
        exact .inr (.inl ⟨ticket', hcall'⟩)
  | left _ hcall' hfate =>
    refine ⟨fun k m ticket hcall => ?_, fun _ _ => .inl⟩
    refine ((getElem?_set_iff hcall').1 hcall).elim And.right fun hsame => ?_
    rcases hfate with rfl | rfl <;> simp at hsame

/-! ## Along a life -/

namespace Life

variable {l : Life} {first : Glance} {moves : List Move}

/-- The queue of a transport is in good order, and so are those who were sent away. -/
structure Sound (capacity : Nat) (l : Life) : Prop where
  sided : l.transport.Sided
  orderly : Orderly capacity l.intake

theorem Sound.next (h : Sound capacity l) (move : Move) : Sound capacity (l.next move) :=
  ⟨sided_next h.sided move, h.orderly.turn (turn_next h.sided move)⟩

theorem Sound.run (h : Sound capacity l) (moves : List Move) : Sound capacity (l.run moves) :=
  run_induction (Sound capacity) h Sound.next moves

theorem sound_new (clientId : String) (framing : Framing) (capacity : Nat) :
    Sound capacity { transport := .ofFraming clientId framing capacity } where
  sided := ⟨fun _ => rfl, fun _ => rfl, fun hclosed => by cases hclosed⟩
  orderly :=
    { roomy := ⟨.of_empty rfl, rfl, Nat.zero_le _⟩
      booked := ⟨by simp [intake], List.nodup_nil⟩
      flow := ⟨[], rfl, fun _ => rfl⟩
      places := fun _ => rfl
      emptied := fun _ => rfl }

theorem sound_after (clientId : String) (framing : Framing) (capacity : Nat)
    (moves : List Move) : Sound capacity (after clientId framing capacity moves) :=
  (sound_new clientId framing capacity).run moves

theorem holds_run (h : Sound capacity l) (hholds : l.intake.Holds k m)
    (hspares : ∀ move ∈ moves, move.Spares k) : (l.run moves).intake.Holds k m := by
  induction moves generalizing l with
  | nil => exact hholds
  | cons move rest ih =>
    have hafter := hholds.turn h.orderly (hspares move List.mem_cons_self) (turn_next h.sided move)
    exact ih (h.next move) hafter fun move' hmove' =>
      hspares move' (List.mem_cons_of_mem _ hmove')

theorem barred_run (h : Sound capacity l) (hbarred : l.intake.Barred capacity)
    (hmoves : l.intake.whole.reader = .gone ∨ .receive ∉ moves) :
    (l.run moves).intake.Barred capacity ∧ (l.run moves).accepted = l.accepted := by
  induction moves generalizing l with
  | nil => exact ⟨hbarred, rfl⟩
  | cons move rest ih =>
    have hturn := turn_next h.sided move
    have hmove : l.intake.whole.reader = .gone ∨ move ≠ .receive :=
      hmoves.imp_right fun hnot heq => hnot (heq ▸ List.mem_cons_self)
    obtain ⟨hafter, haccepted⟩ := h.orderly.barred_turn hbarred hmove hturn
    obtain ⟨hend, hsame⟩ := ih (h.next move) hafter
      (hmoves.imp (fun hgone => gone_turn hgone hturn) fun hnot hmem =>
        hnot (List.mem_cons_of_mem _ hmem))
    exact ⟨hend, hsame.trans haccepted⟩

theorem take?_of_takeMessage {t : Transport} (h : t.takeMessage.1 = some (some m)) :
    t.inbound.reader = .taken ∧ ∃ q, t.inbound.take? = some (m, q) := by
  unfold takeMessage at h
  split at h <;> simp_all

/-- The slot of a message that is received goes to the first call that waits for one. -/
theorem Sound.admits (h : Sound capacity l) (hwaits : l.intake.Waits k m)
    (hfirst : ∀ j < k, ∀ m', ¬ l.intake.Waits j m') {m' : Rpc.Message}
    (hreceived : l.transport.takeMessage.1 = some (some m')) :
    (l.next .receive).intake.Holds k m := by
  obtain ⟨hreader, q, htake⟩ := take?_of_takeMessage hreceived
  obtain ⟨htake', hnext⟩ := intake_receive h.sided hreader htake
  have huse : l.transport.inbound.Use none q := .taken htake
  rw [hnext]
  exact ⟨h.orderly.admits hwaits hfirst htake', huse.steady.1.trans hreader⟩

/-- A call with a slot gets in before the end, and after it if it looks at its place first. -/
theorem resume_of_admitted (h : l.transport.Sided) (hadmitted : l.intake.Admitted k m)
    (hfirst : l.transport.closed = false ∨ first = .place) :
    (l.next (.resume k first)).calls[k]? = some ⟨m, .accepted⟩ := by
  obtain ⟨ticket, hcall, hstanding⟩ := hadmitted
  obtain ⟨hk, -⟩ := List.getElem?_eq_some_iff.1 hcall
  have hlook : (l.transport.look ticket first).1 = .admitted := by
    cases hclosed : l.transport.closed with
    | false =>
      rw [look_of_open hclosed]
      exact Inbound.recalled_of_leaving (h.staying hclosed) ▸ hstanding
    | true =>
      obtain rfl := hfirst.resolve_left (by simp [hclosed])
      rw [look_of_admitted hclosed hstanding]
  rw [next_resume hcall]
  rcases hr : l.transport.look ticket first with ⟨standing, t⟩
  rw [hr] at hlook
  subst hlook
  exact List.getElem?_set_self hk

/-- After the end everybody else is refused. -/
theorem resume_of_closed (hclosed : l.transport.closed = true)
    (hnot : ¬ (first = .place ∧ l.intake.Admitted k m))
    (hcall : l.calls[k]? = some ⟨m, .waiting ticket⟩) :
    (l.next (.resume k first)).calls[k]? = some ⟨m, .refused⟩ := by
  obtain ⟨hk, -⟩ := List.getElem?_eq_some_iff.1 hcall
  rw [next_resume hcall, look_of_closed hclosed fun hin => hnot ⟨hin.1, ticket, hcall, hin.2⟩]
  exact List.getElem?_set_self hk

/-! ## After the end -/

/-- Nobody has got in since, and nobody who waits gets in. -/
structure Shut (l l' : Life) : Prop where
  accepted : l'.accepted = l.accepted
  refuses : ∀ k m ticket first, l'.calls[k]? = some ⟨m, .waiting ticket⟩ →
    (l'.next (.resume k first)).calls[k]? = some ⟨m, .refused⟩

/-- What is taken in after the end of a transport with room for so many messages. -/
structure Ends (capacity : Nat) (l : Life) (moves : List Move) : Prop where
  /-- Whatever is begun is refused. -/
  begun : ∀ m, ((l.disposed moves).next (.process m)).calls =
    (l.disposed moves).calls ++ [⟨m, .refused⟩]
  /-- Who waits is refused as soon as it looks, unless it looks at a place with a slot first. -/
  refuses : ∀ k m ticket first, (l.disposed moves).calls[k]? = some ⟨m, .waiting ticket⟩ →
    ¬ (first = .place ∧ (l.disposed moves).intake.Admitted k m) →
      ((l.disposed moves).next (.resume k first)).calls[k]? = some ⟨m, .refused⟩
  admits : ∀ k m, (l.disposed moves).intake.Admitted k m →
    ((l.disposed moves).next (.resume k .place)).calls[k]? = some ⟨m, .accepted⟩
  /-- Only calls that were begun before the end get in. -/
  late : ∀ k m, (k, m) ∈ (l.disposed moves).accepted → (k, m) ∈ l.accepted ∨
    (∃ ticket, l.calls[k]? = some ⟨m, .waiting ticket⟩) ∨ .belated m .place ∈ moves
  /-- Nobody gets in where nobody reads. -/
  unread : l.transport.inbound.reader ≠ .taken → l.Shut (l.disposed moves)
  /-- Nobody gets into a full queue unless a message is received. -/
  unreceived : l.transport.inbound.queue.length = max capacity 1 → .receive ∉ moves →
    l.Shut (l.disposed moves)

/-- Who is in or waits after the end was in, waited or was begun before it. -/
theorem late_next (h : l.transport.Sided) (hclosed : l.transport.closed = true) (move : Move) :
    l.intake.Late (l.next move).intake [move] := by
  by_cases hprocess : ∃ m, move = .process m
  · obtain ⟨m, rfl⟩ := hprocess
    rw [next_process_of_closed hclosed]
    exact late_refused l.intake m _
  · exact (turn_next h move).late fun m heq => hprocess ⟨m, heq⟩

theorem late_run (h : Sound capacity l) (hclosed : l.transport.closed = true)
    (moves : List Move) : l.intake.Late (l.run moves).intake moves := by
  induction moves generalizing l with
  | nil => exact .refl _
  | cons move rest ih =>
    exact (late_next h.sided hclosed move).trans (ih (h.next move) (closed_next hclosed move))

theorem Shut.of_barred {l' : Life} (h : Sound capacity l') (hclosed : l'.transport.closed = true)
    (hbarred : l'.intake.Barred capacity) (haccepted : l'.accepted = l.accepted) : l.Shut l' where
  accepted := haccepted
  refuses := fun k m ticket first hcall => by
    refine resume_of_closed hclosed ?_ hcall
    rintro ⟨-, ticket', -, hstanding⟩
    exact h.orderly.not_barred_of_admitted hstanding hbarred

theorem Sound.ends (h : Sound capacity l) (moves : List Move) : Ends capacity l moves where
  begun := fun m => by rw [next_process_of_closed (closed_disposed l moves)]
  refuses := fun _ _ _ _ hcall hnot => resume_of_closed (closed_disposed l moves) hnot hcall
  admits := fun _ _ hadmitted =>
    resume_of_admitted ((h.next .dispose).run moves).sided hadmitted (.inr rfl)
  late := fun k m hmem =>
    (late_run (h.next .dispose) (closed_dispose l.transport) moves).accepted k m hmem
  unread := fun hreader => by
    have hgone : (l.next .dispose).intake.whole.reader = .gone := h.sided.reader_dispose hreader
    have hbarred : (l.next .dispose).intake.Barred capacity := .inl hgone
    have hmoves : _ ∨ .receive ∉ moves := .inl hgone
    obtain ⟨hend, haccepted⟩ := barred_run (h.next .dispose) hbarred hmoves
    exact .of_barred ((h.next .dispose).run moves) (closed_disposed l moves) hend haccepted
  unreceived := fun hfull hmoves => by
    have hbarred : l.intake.Barred capacity := .inr hfull
    have hnone : .receive ∉ Move.dispose :: moves := by simpa using hmoves
    obtain ⟨hend, haccepted⟩ := barred_run h hbarred (.inr hnone)
    exact .of_barred ((h.next .dispose).run moves) (closed_disposed l moves) hend haccepted

/-! ## What is taken in -/

/-- What a transport with room for so many messages does with them. -/
structure Takes (capacity : Nat) (l : Life) : Prop where
  bound : l.transport.inbound.queue.length ≤ max capacity 1
  accepted : ∀ k m, (k, m) ∈ l.accepted ↔ l.calls[k]? = some ⟨m, .accepted⟩
  once : (l.accepted.map Prod.fst).Nodup
  /-- What a call has come to is not changed. -/
  settled : ∀ (k : Nat) (c : Call) (move : Move), l.calls[k]? = some c →
    (∀ ticket, c.fate ≠ .waiting ticket) → (l.next move).calls[k]? = some c
  queued : l.transport.inbound.reader ≠ .gone →
    l.accepted.map Prod.snd = l.received ++ l.transport.inbound.queue
  received : l.received <+: l.accepted.map Prod.snd
  /-- Who holds the reading end gets the first accepted message that was not received yet. -/
  receives : l.transport.inbound.reader = .taken → l.transport.takeMessage.1 =
    some ((l.accepted.map Prod.snd).drop l.received.length).head?
  full : ∀ k m, l.intake.Waits k m → l.intake.whole.occupied = max capacity 1
  /-- When a message is received, the first call without a slot gets one. It is accepted once it
  looks again before the end, and after the end if it looks at its place first. -/
  admits : ∀ k m m', l.intake.Waits k m → (∀ j < k, ∀ m', ¬ l.intake.Waits j m') →
    l.transport.takeMessage.1 = some (some m') → ∀ moves, (∀ move ∈ moves, move.Spares k) →
      ∀ first, ((l.next .receive).run moves).transport.closed = false ∨ first = .place →
        (((l.next .receive).run moves).next (.resume k first)).calls[k]? = some ⟨m, .accepted⟩
  afterEnd : ∀ moves, Ends capacity l moves

theorem Sound.takes (h : Sound capacity l) : Takes capacity l where
  bound := h.orderly.roomy.length_le
  accepted := h.orderly.booked.mem
  once := h.orderly.booked.once
  settled := fun _ _ move hcall hc => settled_turn hcall hc (turn_next h.sided move)
  queued := h.orderly.accepted_eq
  received := by
    obtain ⟨lost, hflow, -⟩ := h.orderly.flow
    exact ⟨_, hflow.symm⟩
  receives := fun hreader => by
    have haccepted : l.accepted.map Prod.snd = l.received ++ l.transport.inbound.queue :=
      h.orderly.accepted_eq (hreader.trans_ne (by decide))
    rw [haccepted, List.drop_left, takeMessage, hreader, Inbound.take?]
    rcases l.transport.inbound.queue with _ | ⟨m, rest⟩ <;> rfl
  full := fun _ _ => h.orderly.full
  admits := fun _ _ _ hwaits hfirst hreceived moves hspares first hlook => by
    obtain ⟨hadmitted, -⟩ := holds_run (h.next .receive) (h.admits hwaits hfirst hreceived) hspares
    exact resume_of_admitted ((h.next .receive).run moves).sided hadmitted hlook
  afterEnd := h.ends

theorem queue_takes_what_was_accepted (clientId : String) (framing : Framing) (capacity : Nat)
    (moves : List Move) : Takes capacity (after clientId framing capacity moves) :=
  (sound_after clientId framing capacity moves).takes

/-- Somebody waits behind a full queue with room for one. -/
def oneWaits : Life :=
  after "c" (.streamable 1) 1
    [.takeInbound, .process (.notification { method := "a" }),
      .process (.notification { method := "b" })]

/-- Whether it gets in is open as soon as there are both a slot and the end: with a slot freed after
the end it may still get in, and with one freed before the end it may still be refused. -/
theorem end_and_slot_race :
    oneWaits.calls[1]? = some ⟨.notification { method := "b" }, .waiting 0⟩ ∧
    (oneWaits.disposed [.receive, .resume 1 .place]).calls[1]? =
      some ⟨.notification { method := "b" }, .accepted⟩ ∧
    (oneWaits.disposed [.receive, .resume 1 .place]).transport.inbound.queue =
      [.notification { method := "b" }] ∧
    ((oneWaits.run [.receive]).disposed [.resume 1 .ending]).calls[1]? =
      some ⟨.notification { method := "b" }, .refused⟩ :=
  ⟨rfl, rfl, rfl, rfl⟩

end Life

end SessionRelay.Transport
