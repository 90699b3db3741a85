import Mathlib.Data.List.Nodup
import SessionRelay.Proofs.Transport.Inbound

/-!
# Places in line

A writer keeps its place in the line of an inbound queue, with its message and its slot, until it
uses the place or gives it up itself (`Use.writer?`), and it waits there without a slot only while
all slots are used or kept (`Tidy`).
-/

namespace SessionRelay.Inbound

variable {q q' : Inbound} {ticket other : Nat} {m : Rpc.Message} {seat : Option Nat}

/-- The message that a writer in line waits with. -/
def waits? (q : Inbound) (ticket : Nat) : Option Rpc.Message :=
  (q.writer? ticket).map Writer.message

/-- What can be done to a queue that is read; only the writer of a seat uses its place or gives it
up. -/
inductive Use (q : Inbound) (seat : Option Nat) : Inbound → Prop
  | same : Use q seat q
  | taken {m : Rpc.Message} {q' : Inbound} (h : q.take? = some (m, q')) : Use q seat q'
  | offered (m : Rpc.Message) : Use q seat (q.offer m).2
  | entered (ticket : Nat) (h : seat = some ticket) : Use q seat (q.enter ticket)
  | left (ticket : Nat) (h : seat = some ticket) : Use q seat (q.leave ticket)

/-- Everybody in line was sent away. -/
structure Emptied (q q' : Inbound) : Prop where
  line : q'.line = []
  nextTicket : q'.nextTicket = q.nextTicket

/-! ## The writers -/

/-- A writer in its place later on: with its message, and with its slot if it had one. -/
structure Keeps (w w' : Writer) : Prop where
  message : w'.message = w.message
  admitted : w.admitted = true → w'.admitted = true

theorem Keeps.refl (w : Writer) : Keeps w w := ⟨rfl, id⟩

theorem find?_admitFirst {w : Writer} : ∀ {line : List Writer},
    (line.find? fun w => w.ticket == ticket) = some w →
      ∃ w', ((admitFirst line).find? fun w => w.ticket == ticket) = some w' ∧ Keeps w w'
  | old :: rest, h => by
    unfold admitFirst
    by_cases hold : old.ticket = ticket
    · rw [List.find?_cons_of_pos (by simpa using hold), Option.some.injEq] at h
      subst h
      split_ifs with hadmitted
      · exact ⟨old, List.find?_cons_of_pos (by simpa using hold), .refl old⟩
      · exact ⟨_, List.find?_cons_of_pos (by simpa using hold), rfl, fun _ => rfl⟩
    · rw [List.find?_cons_of_neg (by simpa using hold)] at h
      split_ifs
      · rw [List.find?_cons_of_neg (by simpa using hold)]
        exact find?_admitFirst h
      · rw [List.find?_cons_of_neg (by simpa using hold)]
        exact ⟨w, h, .refl w⟩

theorem writer?_without (h : other ≠ ticket) :
    (q.without other).writer? ticket = q.writer? ticket := by
  rw [writer?, without, List.find?_filter, writer?]
  congr 1
  funext w
  by_cases hw : w.ticket = ticket
  · simp [hw, Ne.symm h]
  · simp [hw]

theorem Use.writer? (h : q.Use seat q') (hseat : seat ≠ some ticket) {w : Writer}
    (hw : q.writer? ticket = some w) : ∃ w', q'.writer? ticket = some w' ∧ Keeps w w' := by
  cases h with
  | same => exact ⟨w, hw, .refl w⟩
  | taken htake =>
    unfold take? at htake
    split at htake <;> cases htake
    exact find?_admitFirst hw
  | offered new =>
    unfold offer
    split_ifs
    · exact ⟨w, hw, .refl w⟩
    · exact ⟨w, hw, .refl w⟩
    · rw [Inbound.writer?] at hw
      rw [Inbound.writer?, List.find?_append, hw]
      exact ⟨w, rfl, .refl w⟩
  | entered other hother =>
    have hne : other ≠ ticket := fun heq => hseat (heq ▸ hother)
    unfold enter
    split
    · split_ifs
      · exact ⟨w, (writer?_without hne).trans hw, .refl w⟩
      · exact ⟨w, hw, .refl w⟩
    · exact ⟨w, hw, .refl w⟩
  | left other hother =>
    have hne : other ≠ ticket := fun heq => hseat (heq ▸ hother)
    have hwithout := (writer?_without hne).trans hw
    unfold leave
    split
    · exact find?_admitFirst hwithout
    · exact ⟨w, hwithout, .refl w⟩

theorem Use.waits? (h : q.Use seat q') (hseat : seat ≠ some ticket)
    (hwaits : q.waits? ticket = some m) : q'.waits? ticket = some m := by
  obtain ⟨w, hw, rfl⟩ := Option.map_eq_some_iff.1 hwaits
  obtain ⟨w', hw', hkeeps⟩ := h.writer? hseat hw
  rw [Inbound.waits?, hw', Option.map_some, hkeeps.message]

/-- The reading end stays where it is, and tickets are never given again. -/
theorem Use.steady (h : q.Use seat q') :
    q'.reader = q.reader ∧ q'.capacity = q.capacity ∧ q.nextTicket ≤ q'.nextTicket := by
  have hrefl : q.reader = q.reader ∧ q.capacity = q.capacity ∧ q.nextTicket ≤ q.nextTicket :=
    ⟨rfl, rfl, Nat.le_refl _⟩
  cases h with
  | same => exact hrefl
  | taken htake =>
    unfold take? at htake
    split at htake <;> cases htake
    exact hrefl
  | offered m =>
    unfold offer
    split_ifs
    · exact hrefl
    · exact hrefl
    · exact ⟨rfl, rfl, Nat.le_succ _⟩
  | entered other _ =>
    unfold enter
    split
    · split_ifs <;> exact hrefl
    · exact hrefl
  | left other _ =>
    unfold leave
    split <;> exact hrefl

/-! ## Writers that are sent away -/

theorem writer?_eq_none_iff : q.writer? ticket = none ↔ ticket ∉ q.line.map Writer.ticket := by
  rw [writer?, List.find?_eq_none, List.mem_map]
  simp

/-- Whoever is in line was there before, or has just come. -/
theorem Use.tickets (h : q.Use seat q') :
    q'.line.map Writer.ticket ⊆ q.line.map Writer.ticket ++ [q.nextTicket] := by
  have hsame : q.line.map Writer.ticket ⊆ q.line.map Writer.ticket ++ [q.nextTicket] :=
    List.subset_append_left _ _
  have hwithout : ∀ ticket, (q.without ticket).line.map Writer.ticket ⊆
      q.line.map Writer.ticket ++ [q.nextTicket] := fun ticket =>
    List.Subset.trans (List.filter_sublist.map _).subset hsame
  cases h with
  | same => exact hsame
  | taken htake =>
    unfold take? at htake
    split at htake <;> cases htake
    rw [map_admitFirst fun _ => rfl]
    exact hsame
  | offered m =>
    unfold offer
    split_ifs
    · exact hsame
    · exact hsame
    · rw [List.map_append]
      exact List.Subset.refl _
  | entered other _ =>
    unfold enter
    split
    · split_ifs
      · exact hwithout other
      · exact hsame
    · exact hsame
  | left other _ =>
    unfold leave
    split
    · rw [map_admitFirst fun _ => rfl]
      exact hwithout other
    · exact hwithout other

/-- A writer that was sent away does not come back: its ticket is not given again. -/
theorem Use.writer?_eq_none (h : q.Use seat q') (hlt : ticket < q.nextTicket)
    (hnone : q.writer? ticket = none) : q'.writer? ticket = none := by
  rw [writer?_eq_none_iff] at hnone ⊢
  intro hmem
  rcases List.mem_append.1 (h.tickets hmem) with hold | hnew
  · exact hnone hold
  · exact Nat.ne_of_lt hlt (List.mem_singleton.1 hnew)

/-! ## The line -/

/-- Tickets are given once, and nobody waits without a slot unless all slots are used or kept. -/
structure Tidy (q : Inbound) : Prop where
  ticket_lt : ∀ w ∈ q.line, w.ticket < q.nextTicket
  nodup : (q.line.map Writer.ticket).Nodup
  full : ∀ w ∈ q.line, w.admitted = false → q.capacity ≤ q.occupied

theorem Tidy.of_empty (h : q.line = []) : q.Tidy := by
  constructor <;> simp [h]

theorem mem_admitFirst {w : Writer} : ∀ {line : List Writer}, w ∈ admitFirst line →
    w.admitted = false → w ∈ line
  | [], h, _ => h
  | old :: rest, h, hout => by
    unfold admitFirst at h
    split_ifs at h
    · rcases List.mem_cons.1 h with rfl | h
      · exact List.mem_cons_self
      · exact List.mem_cons_of_mem _ (mem_admitFirst h hout)
    · rcases List.mem_cons.1 h with rfl | h
      · cases hout
      · exact List.mem_cons_of_mem _ h

/-- One more has a slot if anybody had none. -/
theorem countP_admitFirst {w : Writer} : ∀ {line : List Writer}, w ∈ line → w.admitted = false →
    (admitFirst line).countP Writer.admitted = line.countP Writer.admitted + 1
  | old :: rest, h, hout => by
    unfold admitFirst
    split_ifs with hold
    · have hrest : w ∈ rest := by
        rcases List.mem_cons.1 h with rfl | h
        · rw [hout] at hold
          cases hold
        · exact h
      rw [List.countP_cons_of_pos hold, List.countP_cons_of_pos hold, countP_admitFirst hrest hout]
    · rw [List.countP_cons_of_pos rfl, List.countP_cons_of_neg hold]

/-- Without one writer, its slot is kept no more. -/
theorem countP_without {w : Writer} : ∀ {line : List Writer}, (line.map Writer.ticket).Nodup →
    (line.find? fun w => w.ticket == ticket) = some w →
      line.countP Writer.admitted =
        (line.filter fun w => w.ticket != ticket).countP Writer.admitted +
          if w.admitted then 1 else 0
  | old :: rest, hnodup, hfind => by
    rw [List.map_cons, List.nodup_cons] at hnodup
    obtain ⟨hnot, hnodup⟩ := hnodup
    by_cases hold : old.ticket = ticket
    · have hrest : rest.filter (fun w => w.ticket != ticket) = rest := by
        refine List.filter_eq_self.2 fun w' hw' => ?_
        rw [bne_iff_ne]
        intro heq
        exact hnot (List.mem_map.2 ⟨w', hw', heq.trans hold.symm⟩)
      rw [List.find?_cons_of_pos (by simpa using hold), Option.some.injEq] at hfind
      rw [List.filter_cons_of_neg (by simpa using hold), hrest, List.countP_cons, hfind]
    · rw [List.find?_cons_of_neg (by simpa using hold)] at hfind
      rw [List.filter_cons_of_pos (by simpa using hold), List.countP_cons, List.countP_cons,
        countP_without hnodup hfind]
      omega

/-- When a slot becomes free, the first writer without one gets it. -/
theorem Tidy.admitFirst (hlt : ∀ w ∈ q.line, w.ticket < q.nextTicket)
    (hnodup : (q.line.map Writer.ticket).Nodup)
    (hfull : ∀ w ∈ q.line, w.admitted = false → q.capacity ≤ q.occupied + 1) :
    Tidy { q with line := Inbound.admitFirst q.line } where
  ticket_lt := fun w hw => by
    have hticket := List.mem_map_of_mem (f := Writer.ticket) hw
    rw [map_admitFirst (f := Writer.ticket) fun _ => rfl] at hticket
    obtain ⟨old, hold, heq⟩ := List.mem_map.1 hticket
    exact heq ▸ hlt old hold
  nodup := by
    rw [map_admitFirst fun _ => rfl]
    exact hnodup
  full := fun w hw hout => by
    have hold := mem_admitFirst hw hout
    have hfull := hfull w hold hout
    simp only [occupied, countP_admitFirst hold hout] at hfull ⊢
    omega

theorem Tidy.take? (h : q.Tidy) (htake : q.take? = some (m, q')) : q'.Tidy := by
  unfold Inbound.take? at htake
  split at htake
  · cases htake
  · rename_i rest hqueue
    cases htake
    refine admitFirst (q := { q with queue := rest, leaving := _ }) h.ticket_lt h.nodup
      fun w hw hout => ?_
    have hfull := h.full w hw hout
    simp only [occupied, hqueue, List.length_cons] at hfull ⊢
    omega

theorem Tidy.offer (h : q.Tidy) (m : Rpc.Message) : (q.offer m).2.Tidy := by
  unfold Inbound.offer
  split_ifs with hgone hroom
  · exact h
  · refine ⟨h.ticket_lt, h.nodup, fun w hw hout => ?_⟩
    simp only [hasRoom, Bool.and_eq_true, List.all_eq_true] at hroom
    rw [hroom.2 w hw] at hout
    cases hout
  · refine ⟨fun w hw => ?_, ?_, fun w hw hout => ?_⟩
    · rcases List.mem_append.1 hw with hw | hw
      · exact Nat.lt_succ_of_lt (h.ticket_lt w hw)
      · rw [List.mem_singleton.1 hw]
        exact Nat.lt_succ_self _
    · rw [List.map_append, List.nodup_append]
      refine ⟨h.nodup, List.nodup_singleton _, ?_⟩
      rintro t ht t' ht' rfl
      obtain ⟨w, hw, rfl⟩ := List.mem_map.1 ht
      exact Nat.ne_of_lt (h.ticket_lt w hw) (List.mem_singleton.1 ht')
    · have hfull : q.capacity ≤ q.occupied := by
        by_contra hlt
        refine hroom ?_
        rw [hasRoom, Bool.and_eq_true, decide_eq_true_eq, List.all_eq_true]
        refine ⟨Nat.lt_of_not_le hlt, fun w hw => ?_⟩
        cases hadmitted : w.admitted with
        | true => rfl
        | false => exact absurd (h.full w hw hadmitted) hlt
      simpa [occupied, List.countP_append] using hfull

/-- Without one writer the others wait as they did. -/
theorem Tidy.without (h : q.Tidy) (ticket : Nat) {capacity : Nat} {queue : List Rpc.Message}
    (hfull : ∀ w ∈ (q.without ticket).line, w.admitted = false → capacity ≤
      queue.length + (q.without ticket).line.countP Writer.admitted) :
    Tidy { q.without ticket with capacity, queue } where
  ticket_lt := fun w hw => h.ticket_lt w (List.mem_of_mem_filter hw)
  nodup := h.nodup.sublist (List.filter_sublist.map _)
  full := hfull

theorem Tidy.enter (h : q.Tidy) (ticket : Nat) : (q.enter ticket).Tidy := by
  unfold Inbound.enter
  split
  · rename_i w hw
    split_ifs with hadmitted
    · refine h.without ticket fun old hold hout => ?_
      have hcount := countP_without h.nodup hw
      have hfull := h.full old (List.mem_of_mem_filter hold) hout
      rw [if_pos hadmitted] at hcount
      simp only [occupied, Inbound.without, List.length_append, List.length_singleton] at hfull ⊢
      omega
    · exact h
  · exact h

theorem without_of_writer? (h : q.writer? ticket = none) : q.without ticket = q := by
  have hall : q.line.filter (fun w => w.ticket != ticket) = q.line :=
    List.filter_eq_self.2 fun w hmem => by
      simpa using List.find?_eq_none.1 h w hmem
  rw [without, hall]

theorem Tidy.leave (h : q.Tidy) (ticket : Nat) : (q.leave ticket).Tidy := by
  have hlt : ∀ w ∈ (q.without ticket).line, w.ticket < q.nextTicket := fun w hw =>
    h.ticket_lt w (List.mem_of_mem_filter hw)
  have hnodup := h.nodup.sublist ((List.filter_sublist (p := fun w => w.ticket != ticket)).map _)
  have hold : ∀ w ∈ (q.without ticket).line, w.admitted = false → q.capacity ≤ q.occupied :=
    fun w hw => h.full w (List.mem_of_mem_filter hw)
  unfold Inbound.leave standing
  cases hw : q.writer? ticket with
  | none =>
    exact (without_of_writer? hw).symm ▸ h
  | some w =>
    have hcount := countP_without h.nodup hw
    simp only
    split_ifs with hadmitted
    · refine admitFirst hlt hnodup fun old hmem hout => ?_
      have hfull := hold old hmem hout
      rw [if_pos hadmitted] at hcount
      simp only [occupied, Inbound.without] at hfull ⊢
      omega
    · refine h.without ticket fun old hmem hout => ?_
      have hfull := hold old hmem hout
      rw [if_neg hadmitted] at hcount
      simp only [occupied, Inbound.without] at hfull ⊢
      omega

theorem Tidy.use (h : q.Tidy) (huse : q.Use seat q') : q'.Tidy := by
  cases huse with
  | same => exact h
  | taken htake => exact h.take? htake
  | offered m => exact h.offer m
  | entered ticket _ => exact h.enter ticket
  | left ticket _ => exact h.leave ticket

/-! ## One writer -/

theorem offer_of_gone (hgone : q.reader = .gone) (m : Rpc.Message) :
    q.offer m = (.refused, q) := by
  rw [offer, if_pos hgone]

theorem offer_of_room (hreader : q.reader ≠ .gone) (hroom : q.hasRoom = true) (m : Rpc.Message) :
    q.offer m = (.accepted, { q with queue := q.queue ++ [m] }) := by
  rw [offer, if_neg hreader, if_pos hroom]

theorem offer_of_full (hreader : q.reader ≠ .gone) (hfull : q.hasRoom = false) (m : Rpc.Message) :
    q.offer m = (.waiting q.nextTicket,
      { q with line := q.line ++ [{ ticket := q.nextTicket, message := m }],
               nextTicket := q.nextTicket + 1 }) := by
  rw [offer, if_neg hreader, if_neg (by simp [hfull])]

/-- A writer that comes to the line waits with its own message. -/
theorem Tidy.waits?_offer (h : q.Tidy) (hreader : q.reader ≠ .gone) (hfull : q.hasRoom = false)
    (m : Rpc.Message) : (q.offer m).2.waits? q.nextTicket = some m := by
  have hnone : (q.line.find? fun w => w.ticket == q.nextTicket) = none :=
    List.find?_eq_none.2 fun w hw => by simpa using Nat.ne_of_lt (h.ticket_lt w hw)
  rw [offer_of_full hreader hfull, waits?, writer?, List.find?_append, hnone]
  simp

theorem standing_of_waits? (h : q.waits? ticket = some m) : q.standing ticket ≠ .dismissed := by
  obtain ⟨w, hw, -⟩ := Option.map_eq_some_iff.1 h
  rw [standing, hw]
  simp only
  split_ifs <;> decide

theorem queue_enter (h : q.waits? ticket = some m) (hstanding : q.standing ticket = .admitted) :
    (q.enter ticket).queue = q.queue ++ [m] := by
  obtain ⟨w, hw, rfl⟩ := Option.map_eq_some_iff.1 h
  rw [standing, hw] at hstanding
  simp only at hstanding
  split_ifs at hstanding with hadmitted
  simp only [enter, hw, if_pos hadmitted]

theorem Tidy.full_of_waiting (h : q.Tidy) (hstanding : q.standing ticket = .waiting) :
    q.capacity ≤ q.occupied := by
  unfold standing at hstanding
  split at hstanding
  · cases hstanding
  · rename_i w hw
    split_ifs at hstanding with hadmitted
    exact h.full w (List.mem_of_find?_eq_some hw) (by simpa using hadmitted)

end SessionRelay.Inbound
