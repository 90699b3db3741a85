import SessionRelay.Proofs.Transport.Line

/-!
# Slots of an inbound queue

No more slots are used or kept than there are (`Roomy`), whatever is done to a queue. A writer that
a slot is kept for keeps it until it uses it or gives it up (`Use.admitted`), and when one is freed
the first of those in line that have none gets it (`Roomy.standing_take?`).
-/

namespace SessionRelay.Inbound

variable {q q' : Inbound} {ticket : Nat} {m : Rpc.Message} {seat : Option Nat} {w : Writer}

/-! ## Places -/

/-- The places in line, each with the message that waits there. -/
def places (q : Inbound) : List (Nat × Rpc.Message) := q.line.map fun w => (w.ticket, w.message)

theorem queue_take? (h : q.take? = some (m, q')) : q.queue = m :: q'.queue := by
  unfold take? at h
  split at h <;> cases h
  assumption

theorem places_take? (h : q.take? = some (m, q')) : q'.places = q.places := by
  unfold take? at h
  split at h <;> cases h
  exact map_admitFirst (fun _ => rfl) q.line

theorem places_without (q : Inbound) (ticket : Nat) :
    (q.without ticket).places = q.places.filter (·.1 != ticket) := by
  rw [places, places, without, List.filter_map]
  rfl

theorem queue_leave (q : Inbound) (ticket : Nat) : (q.leave ticket).queue = q.queue := by
  unfold leave
  split <;> rfl

theorem places_leave (q : Inbound) (ticket : Nat) :
    (q.leave ticket).places = q.places.filter (·.1 != ticket) := by
  rw [← places_without]
  unfold leave
  split
  · exact map_admitFirst (fun _ => rfl) _
  · rfl

theorem standing_eq_admitted :
    q.standing ticket = .admitted ↔ ∃ w, q.writer? ticket = some w ∧ w.admitted = true := by
  unfold standing
  split <;> simp_all

theorem places_enter (h : q.standing ticket = .admitted) :
    (q.enter ticket).places = q.places.filter (·.1 != ticket) := by
  obtain ⟨w, hw, hadmitted⟩ := standing_eq_admitted.1 h
  rw [← places_without, enter, hw]
  simp only [hadmitted, if_true]
  rfl

theorem standing_of_places (h : q.places = []) : q.standing ticket = .dismissed := by
  rw [standing, writer?, List.map_eq_nil_iff.1 h]
  rfl

/-! ## Finding a writer -/

theorem Tidy.writer?_of_mem (h : q.Tidy) (hw : w ∈ q.line) : q.writer? w.ticket = some w := by
  obtain ⟨before, after, hline⟩ := List.append_of_mem hw
  refine List.find?_eq_some_iff_append.2 ⟨by simp, before, after, hline, fun other hother => ?_⟩
  have hnodup := h.nodup
  rw [hline, List.map_append, List.map_cons, List.nodup_append] at hnodup
  have hne := hnodup.2.2 other.ticket (List.mem_map_of_mem hother) w.ticket List.mem_cons_self
  simpa using hne

theorem Tidy.standing_of_mem (h : q.Tidy) (hw : w ∈ q.line) :
    q.standing w.ticket = if w.admitted then .admitted else .waiting := by
  rw [standing, h.writer?_of_mem hw]

theorem Tidy.waits?_of_mem (h : q.Tidy) (hplace : (ticket, m) ∈ q.places) :
    q.waits? ticket = some m := by
  obtain ⟨w, hw, heq⟩ := List.mem_map.1 hplace
  cases heq
  rw [waits?, h.writer?_of_mem hw, Option.map_some]

/-! ## Keeping a slot -/

theorem Use.admitted (h : q.Use seat q') (hseat : seat ≠ some ticket)
    (hadmitted : q.standing ticket = .admitted) : q'.standing ticket = .admitted := by
  obtain ⟨w, hw, hslot⟩ := standing_eq_admitted.1 hadmitted
  obtain ⟨w', hw', hkeeps⟩ := h.writer? hseat hw
  exact standing_eq_admitted.2 ⟨w', hw', hkeeps.admitted hslot⟩

/-! ## How many slots there are -/

theorem countP_admitFirst_le : ∀ line : List Writer,
    (admitFirst line).countP Writer.admitted ≤ line.countP Writer.admitted + 1
  | [] => Nat.zero_le _
  | w :: rest => by
    unfold admitFirst
    split_ifs with hadmitted
    · rw [List.countP_cons_of_pos hadmitted, List.countP_cons_of_pos hadmitted]
      exact Nat.succ_le_succ (countP_admitFirst_le rest)
    · refine Nat.le_of_eq ?_
      rw [List.countP_cons_of_pos rfl, List.countP_cons_of_neg hadmitted]

/-- A queue of a capacity in good order. -/
structure Roomy (capacity : Nat) (q : Inbound) : Prop where
  tidy : q.Tidy
  size : q.capacity = capacity
  room : q.occupied ≤ capacity

variable {capacity : Nat}

theorem Roomy.length_le (h : q.Roomy capacity) : q.queue.length ≤ capacity :=
  Nat.le_trans (Nat.le_add_right _ _) h.room

theorem occupied_take? (h : q.take? = some (m, q')) : q'.occupied ≤ q.occupied := by
  unfold take? at h
  split at h <;> cases h
  rename_i rest hqueue
  have hcount := countP_admitFirst_le q.line
  simp only [occupied, hqueue, List.length_cons]
  omega

theorem Tidy.occupied_enter (h : q.Tidy) (ticket : Nat) :
    (q.enter ticket).occupied ≤ q.occupied := by
  unfold Inbound.enter
  split
  · rename_i w hw
    split_ifs with hadmitted
    · have hcount := countP_without h.nodup hw
      rw [if_pos hadmitted] at hcount
      simp only [occupied, Inbound.without, List.length_append, List.length_singleton]
      omega
    · exact Nat.le_refl _
  · exact Nat.le_refl _

theorem Tidy.occupied_leave (h : q.Tidy) (ticket : Nat) :
    (q.leave ticket).occupied ≤ q.occupied := by
  have hless : (q.without ticket).occupied ≤ q.occupied :=
    Nat.add_le_add_left (List.filter_sublist.countP_le) _
  unfold Inbound.leave
  split
  · rename_i hadmitted
    obtain ⟨w, hw, hslot⟩ := standing_eq_admitted.1 hadmitted
    have hcount := countP_without h.nodup hw
    have hadmit := countP_admitFirst_le (q.without ticket).line
    rw [if_pos hslot] at hcount
    simp only [occupied, Inbound.without] at hadmit ⊢
    omega
  · exact hless

theorem occupied_offer (h : q.occupied ≤ q.capacity) (m : Rpc.Message) :
    (q.offer m).2.occupied ≤ q.capacity := by
  unfold offer
  split_ifs with hgone hroom
  · exact h
  · have hlt : q.occupied < q.capacity := by
      simp only [hasRoom, Bool.and_eq_true, decide_eq_true_eq] at hroom
      exact hroom.1
    simp only [occupied, List.length_append, List.length_singleton] at hlt ⊢
    omega
  · simpa [occupied] using h

theorem Roomy.use (h : q.Roomy capacity) (huse : q.Use seat q') : q'.Roomy capacity := by
  obtain ⟨-, hcapacity, -⟩ := huse.steady
  refine ⟨h.tidy.use huse, hcapacity.trans h.size, ?_⟩
  cases huse with
  | same => exact h.room
  | taken htake => exact Nat.le_trans (occupied_take? htake) h.room
  | offered m =>
    rw [← h.size]
    exact occupied_offer (h.size ▸ h.room) m
  | entered ticket _ => exact Nat.le_trans (h.tidy.occupied_enter ticket) h.room
  | left ticket _ => exact Nat.le_trans (h.tidy.occupied_leave ticket) h.room

theorem Roomy.withReader (h : q.Roomy capacity) (reader : ReadingEnd) :
    ({ q with reader } : Inbound).Roomy capacity :=
  ⟨⟨h.tidy.ticket_lt, h.tidy.nodup, h.tidy.full⟩, h.size, h.room⟩

theorem Roomy.close (h : q.Roomy capacity) : q.close.Roomy capacity :=
  ⟨.of_empty rfl, h.size, Nat.zero_le _⟩

/-! ## Getting a slot -/

theorem mem_admitFirst_of_first {after : List Writer} : ∀ {before : List Writer},
    (∀ w' ∈ before, w'.admitted = true) → w.admitted = false →
      { w with admitted := true } ∈ admitFirst (before ++ w :: after)
  | [], _, hw => by simp [admitFirst, hw]
  | first :: rest, hbefore, hw => by
    rw [List.cons_append, admitFirst, if_pos (hbefore first List.mem_cons_self)]
    exact List.mem_cons_of_mem _
      (mem_admitFirst_of_first (fun w' hw' => hbefore w' (List.mem_cons_of_mem _ hw')) hw)

/-- The slot of a message that is taken goes to the first in line that has none. -/
theorem Tidy.standing_take? (h : q.Tidy) (htake : q.take? = some (m, q'))
    {before after : List (Nat × Rpc.Message)} {m' : Rpc.Message}
    (hplaces : q.places = before ++ (ticket, m') :: after)
    (hbefore : ∀ place ∈ before, q.standing place.1 ≠ .waiting)
    (hwaiting : q.standing ticket = .waiting) : q'.standing ticket = .admitted := by
  obtain ⟨line, rest, hline, hmap, hrest⟩ := List.map_eq_append_iff.1 hplaces
  obtain ⟨w, line', rfl, hw, -⟩ := List.map_eq_cons_iff.1 hrest
  cases hw
  have hmem : ∀ w' ∈ line, w' ∈ q.line := fun w' hw' => hline ▸ List.mem_append_left _ hw'
  have hadmitted : ∀ w' ∈ line, w'.admitted = true := fun w' hw' => by
    have hnot := hbefore (w'.ticket, w'.message) (hmap ▸ List.mem_map_of_mem hw')
    rw [h.standing_of_mem (hmem w' hw')] at hnot
    by_contra hslot
    exact hnot (if_neg hslot)
  have hnone : w.admitted = false := by
    rw [h.standing_of_mem (by rw [hline]; simp)] at hwaiting
    by_contra hslot
    rw [if_pos (by simpa using hslot)] at hwaiting
    cases hwaiting
  have htidy := h.take? htake
  unfold Inbound.take? at htake
  split at htake <;> cases htake
  have hfirst : { w with admitted := true } ∈ Inbound.admitFirst (line ++ w :: line') :=
    mem_admitFirst_of_first hadmitted hnone
  rw [← hline] at hfirst
  exact htidy.standing_of_mem hfirst

end SessionRelay.Inbound
