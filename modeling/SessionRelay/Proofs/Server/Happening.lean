import SessionRelay.Proofs.Server.Roster
import SessionRelay.Proofs.Session.Deed

/-!
# What is done to the sessions of an instance

An instance makes steps, is called, and is told to stop. Whatever happens is for the session at a
given place a list of things done to that session, also when they end it (`doings`,
`session_happen`). Nothing is done to a session that is not named (`doings_eq_nil`).
-/

namespace SessionRelay

open Session (Move Doing)

namespace SessionTable

variable {t : SessionTable} {s : Session} {place : Nat}

theorem session?_close (t : SessionTable) (other place : Nat) :
    (t.close other).session? place =
      (t.session? place).map fun s => if other = place then s.shutDown else s := by
  have hsame : (∀ s, t.session? other = some s → s.closed = true) →
      t.session? place = (t.session? place).map fun s =>
        if other = place then s.shutDown else s := fun hclosed => by
    cases hs : t.session? place with
    | none => rfl
    | some s =>
      rw [Option.map_some]
      split_ifs with hplace
      · rw [Session.shutDown, if_pos (hclosed s (hplace ▸ hs))]
      · rfl
  unfold close
  split
  · rename_i s hs
    by_cases hclosed : s.closed = true
    · rw [if_pos hclosed]
      refine hsame fun s' hs' => ?_
      obtain rfl := Option.some.inj (hs.symm.trans hs')
      exact hclosed
    · rw [if_neg hclosed, Server.session?_remove, session?_modify]
  · rename_i hnone
    exact hsame fun s hs => by rw [hnone] at hs; cases hs

theorem session?_watch (t : SessionTable) (other : Nat) (hs : t.session? place = some s) :
    (t.watch other).session? place =
      some (if other = place then (if s.isDue then s.shutDown else s) else s) := by
  unfold watch
  split
  · rename_i s₁ hs₁
    by_cases hplace : other = place
    · subst hplace
      obtain rfl := Option.some.inj (hs₁.symm.trans hs)
      rw [if_pos rfl]
      split_ifs
      · rw [session?_close, hs, Option.map_some, if_pos rfl]
      · exact hs
    · rw [if_neg hplace]
      split_ifs
      · rw [session?_close, hs, Option.map_some, if_neg hplace]
      · exact hs
  · rename_i hnone
    rw [if_neg, hs]
    rintro rfl
    rw [hnone] at hs
    cases hs

theorem session?_foldl_close (places : List Nat) : ∀ {t : SessionTable} {s : Session},
    t.session? place = some s → (places.foldl close t).session? place =
      some ((places.filter (· = place)).foldl (fun s _ => s.shutDown) s) := by
  induction places with
  | nil => exact fun hs => hs
  | cons other rest ih =>
    intro t s hs
    have hclose := session?_close t other place
    rw [hs, Option.map_some] at hclose
    rw [List.foldl_cons, ih hclose]
    by_cases hplace : other = place <;> simp [hplace]

end SessionTable

namespace Server

variable {σ : Type} {v : Server} {s : Session} {place : Nat}

/-! ## Things that happen -/

/-- What happens at an instance: its own steps, what its sessions are called to do, and what ends
them. -/
inductive Happening (σ : Type)
  | step (st : Step σ)
  /-- A message for a client is delivered, with the queues of the relay as they are then. -/
  | deliver (client : ClientState) (message : Rpc.Message) (queues : σ)
  /-- A delivery that waits looks whether it has come to its turn. -/
  | settle (slot : Slot)
  /-- A delivery that waits is given up. -/
  | giveUp (slot : Slot)
  /-- A session is opened. -/
  | create (kind : StreamKind) (parent : String) (draw : Draw)
  /-- All that goes on in a session is told to stop. -/
  | stop (place : Nat)
  /-- A teardown that is not at one go marks its session as closed. -/
  | mark (place : Nat)
  /-- It disposes of the transport. -/
  | dispose (place : Nat)
  /-- It takes the entry of the session out. -/
  | remove (place : Nat)
  /-- What sessions were opened under ends. -/
  | endParent (name : String)

def happen (service : Queue.Service σ) (v : Server) : Happening σ → Server
  | .step st => v.step service st
  | .deliver client message queues => (v.deliver service client message queues).2.1
  | .settle slot => ((v.settle? slot).map Prod.snd).getD v
  | .giveUp slot => v.abandonSlot slot
  | .create kind parent draw =>
    match v.table.create kind parent draw with
    | .ok (_, table) => { v with table }
    | .error _ => v
  | .stop place => v.modify place fun s => { s with cancelled := true }
  | .mark place => v.modify place fun s => { s with closed := true }
  | .dispose place => v.modify place fun s => { s with transport := s.transport.dispose }
  | .remove place => { v with table := v.table.remove place }
  | .endParent name => { v with table := v.table.endParent name }

/-- What is done to the session at a place if that is the other one. -/
def doneIf (other place : Nat) (doing : Doing) : List Doing := if other = place then [doing] else []

/-- What a step does to the session at a place besides its moves. -/
def endings (v : Server) (place : Nat) : Step σ → List Doing
  | .act _ _ (.stopPump other) => doneIf other place .stopPump
  | .act _ _ (.watch other) => doneIf other place .watch
  | .dropBody number =>
    match v.bodies[number]? with
    | some body => doneIf body.session place .dropStream
    | none => []
  | .close other => doneIf other place .shut
  | .closeAll => ((v.table.live.map Prod.snd).filter (· = place)).map fun _ => .shut
  | _ => []

/-- What is done to the session at a place when something happens. -/
def doings (service : Queue.Service σ) (v : Server) (place : Nat) : Happening σ → List Doing
  | .step st => (v.touches service place st).map (fun touch => .move touch.2) ++ v.endings place st
  | .deliver client message _ =>
    if client.isLocal v.instanceId then (v.movesFor client.clientId place message).map .move else []
  | .settle slot => doneIf slot.session place (.move (.enter slot.ticket))
  | .giveUp slot => doneIf slot.session place (.move (.leave slot.ticket))
  | .create _ _ _ => []
  | .stop other => doneIf other place .cancel
  | .mark other => doneIf other place .mark
  | .dispose other => doneIf other place .dispose
  | .remove _ => []
  | .endParent name =>
    match v.table.session? place with
    | some s => if s.parent = name then [.cancel] else []
    | none => []

theorem foldl_moves (router : Router) (s : Session) (moves : List Move) :
    (moves.map Doing.move).foldl (Session.after router) s =
      moves.foldl (fun s move => s.apply router move) s :=
  List.foldl_map

theorem foldl_doneIf (router : Router) (s : Session) (other place : Nat) (doing : Doing) :
    (doneIf other place doing).foldl (Session.after router) s =
      if other = place then s.after router doing else s := by
  unfold doneIf
  split_ifs <;> rfl

theorem mem_doneIf {other place : Nat} {doing d : Doing} :
    d ∈ doneIf other place doing ↔ other = place ∧ d = doing := by
  unfold doneIf
  split_ifs with h <;> simp [h]

theorem map_movesIf (other place : Nat) (move : Move) :
    (movesIf other place move).map Doing.move = doneIf other place (.move move) :=
  (apply_ite (List.map Doing.move) _ _ _)

theorem Touched.doings {v' : Server} {moves : List Move} (h : Touched v place moves v')
    (hs : v.table.session? place = some s) : v'.table.session? place =
      some ((moves.map Doing.move).foldl (Session.after v.router) s) := by
  rw [foldl_moves]
  exact h.session s hs

theorem session_modify (v : Server) (other : Nat) {f : Session → Session} {doing : Doing}
    (hf : ∀ s, f s = s.after v.router doing) (hs : v.table.session? place = some s) :
    (v.modify other f).table.session? place =
      some ((doneIf other place doing).foldl (Session.after v.router) s) := by
  rw [modify, SessionTable.session?_modify, hs, Option.map_some, foldl_doneIf, hf]

/-- What a step is for a session is its moves and the ways it ends the session. -/
theorem session_doings (service : Queue.Service σ) (st : Step σ)
    (hs : v.table.session? place = some s) :
    (v.step service st).table.session? place =
      some ((v.doings service place (.step st)).foldl (Session.after v.router) s) := by
  have hmoves : ∀ {st : Step σ}, v.endings place st = [] →
      (v.step service st).table.session? place =
        some (((v.touches service place st).map Prod.snd).foldl
          (fun s move => s.apply v.router move) s) →
      (v.step service st).table.session? place =
        some ((v.doings service place (.step st)).foldl (Session.after v.router) s) := by
    intro st hendings h
    rw [h, doings, hendings, List.append_nil, ← foldl_moves, List.map_map]
    rfl
  cases st with
  | receive now draw request =>
    refine hmoves rfl ?_
    obtain ⟨v₁, htouched, hv⟩ := received_receive v now draw request place
    simp only [step, touches, map_snd]
    rcases hv with hv | ⟨purpose, messages, -, hv⟩ <;> rw [hv] <;> exact htouched.session s hs
  | exchange now number queues => exact hmoves rfl (session_exchange service now number queues hs)
  | act signals now a =>
    cases a with
    | pump other =>
      refine hmoves rfl ?_
      simp only [step, touches, map_snd, act]
      exact (Touched.modify v other place (.pump signals) fun _ _ => rfl).session s hs
    | work other ticket =>
      refine hmoves rfl ?_
      simp only [step, touches, map_snd, act]
      exact (Touched.modify v other place (.work ticket signals) fun _ _ => rfl).session s hs
    | stopPump other => exact session_modify v other (fun _ => rfl) hs
    | watch other =>
      refine (SessionTable.session?_watch v.table other hs).trans ?_
      simp only [doings, touches, endings, List.map_nil, List.nil_append, foldl_doneIf]
      rfl
    | read number =>
      refine hmoves rfl ?_
      have htouched := (touched_readBody v now number place).session s hs
      simp only [step, touches, act]
      split_ifs at htouched ⊢ <;> exact htouched
    | handOver =>
      refine hmoves rfl ?_
      simp only [step, touches, map_snd, act]
      exact (touched_handOver v place).session s hs
  | abort number => exact hmoves rfl (session_abort service number hs)
  | dropBody number =>
    simp only [step, dropBody, doings, touches, endings, List.map_nil, List.nil_append]
    cases v.bodies[number]? with
    | none => exact hs
    | some body => exact session_modify v body.session (fun _ => rfl) hs
  | startReading number =>
    refine hmoves rfl ?_
    simp only [step, startReading]
    split
    · split_ifs <;> exact hs
    · exact hs
  | collect number =>
    refine hmoves rfl ?_
    simp only [step, collect]
    split <;> exact hs
  | relay envelope => exact hs
  | close other =>
    refine (SessionTable.session?_close v.table other place).trans ?_
    simp only [doings, touches, endings, List.map_nil, List.nil_append, foldl_doneIf, hs,
      Option.map_some]
    rfl
  | closeAll =>
    refine (SessionTable.session?_foldl_close _ hs).trans ?_
    simp only [doings, touches, endings, List.map_nil, List.nil_append, List.foldl_map]
    rfl

/-- A session becomes what it is after all that was done to it. -/
theorem session_happen (service : Queue.Service σ) (h : Happening σ)
    (hs : v.table.session? place = some s) :
    (v.happen service h).table.session? place =
      some ((v.doings service place h).foldl (Session.after v.router) s) := by
  cases h with
  | step st => exact session_doings service st hs
  | deliver client message queues =>
    have htouched := (touched_deliver service v client place message queues).doings hs
    rw [apply_ite (List.map Doing.move)] at htouched
    exact htouched
  | settle slot =>
    simp only [happen, doings, ← map_movesIf]
    cases hsettle : v.settle? slot with
    | none => exact (touched_settle?_none hsettle place).doings hs
    | some settled => exact (touched_settle? hsettle place).doings hs
  | giveUp slot => exact session_modify v _ (fun _ => rfl) hs
  | create kind parent draw =>
    simp only [happen]
    split
    · rename_i other table hcreate
      exact (touched_create hcreate place).doings hs
    · exact hs
  | stop other => exact session_modify v _ (fun _ => rfl) hs
  | mark other => exact session_modify v _ (fun _ => rfl) hs
  | dispose other => exact session_modify v _ (fun _ => rfl) hs
  | remove other => exact (session?_remove v.table other).trans hs
  | endParent name =>
    simp only [happen, doings, SessionTable.session?_endParent, hs, Option.map_some]
    split_ifs <;> rfl

/-! ## The sessions that are named -/

/-- Whether an exchange has to do with the session at a place when it goes on: the session is its
own, or it waits in line there, or it has a message for the client. -/
def Involves (v : Server) (place : Nat) (e : Exchange) : Prop :=
  e.purpose = .feed place ∨
    match e.slot with
    | some slot => slot.session = place
    | none => ∃ client, (e.purpose = .post client ∨ e.purpose = .route client) ∧
        v.holds client place = true

/-- Whether a stream is that of the session at a place. -/
def Streams (v : Server) (place number : Nat) : Prop :=
  ∃ body, v.bodies[number]? = some body ∧ body.session = place

/-- Whether what happens names the session at a place. A new session names those that were opened
under its id. -/
def Names (v : Server) (place : Nat) : Happening σ → Prop
  | .step (.receive _ draw request) => (draw.clientId, place) ∈ v.table.live ∨
      ∃ client id error, v.complaint? request = some (client, id, error) ∧
        v.holds client place = true
  | .step (.exchange _ number _) =>
    ∃ e, (v.exchanges.find? fun e => e.number == number) = some e ∧ v.Involves place e
  | .step (.act _ _ (.pump other)) | .step (.act _ _ (.stopPump other))
  | .step (.act _ _ (.watch other)) | .step (.act _ _ (.work other _)) => other = place
  | .step (.act _ _ (.read number)) => v.Streams place number
  | .step (.act _ _ .handOver) =>
    match v.relaySlot, v.relayed with
    | some slot, _ => slot.session = place
    | none, envelope :: _ => v.table.find? envelope.clientId = some place
    | none, [] => False
  | .step (.abort number) =>
    ∃ e slot, (v.exchanges.find? fun e => e.number == number) = some e ∧ e.slot = some slot ∧
      slot.session = place
  | .step (.dropBody number) | .step (.startReading number) | .step (.collect number) =>
    v.Streams place number
  | .step (.relay _) => False
  | .step (.close other) => other = place
  | .step .closeAll => ∃ entry ∈ v.table.live, entry.2 = place
  | .deliver client _ _ => v.holds client place = true
  | .settle slot | .giveUp slot => slot.session = place
  | .create _ _ draw => (draw.clientId, place) ∈ v.table.live
  | .stop other | .mark other | .dispose other | .remove other => other = place
  | .endParent name => ∃ s, v.table.session? place = some s ∧ s.parent = name

theorem movesFor_eq_nil {client : ClientState} (h : ¬ v.holds client place = true)
    (m : Rpc.Message) :
    (if client.isLocal v.instanceId then v.movesFor client.clientId place m else []) = [] := by
  unfold movesFor
  split_ifs with hlocal hfind
  · exact absurd (by simp [holds, hlocal, hfind]) h
  · rfl
  · rfl

theorem deliveries_eq_nil {e : Exchange} (h : ¬ v.Involves place e) :
    v.deliveries e place = [] := by
  unfold deliveries
  split
  · rename_i slot hslot
    exact if_neg fun hplace => h (.inr (by rw [hslot]; exact hplace))
  · rename_i m rest hslot hrest
    have hclient : ∀ client, e.purpose = .post client ∨ e.purpose = .route client →
        ¬ v.holds client place = true := fun client hpurpose hholds =>
      h (.inr (by rw [hslot]; exact ⟨client, hpurpose, hholds⟩))
    unfold movesOf
    split
    · exact movesFor_eq_nil (hclient _ (.inl ‹_›)) m
    · exact movesFor_eq_nil (hclient _ (.inr ‹_›)) m
    · rename_i own hpurpose
      exact if_neg fun hplace : own = place => h (.inl (hplace ▸ hpurpose))
  · rfl

theorem openings_eq_nil {e : Exchange} (h : e.purpose ≠ .feed place) (p : Progress) :
    openings e place p = [] := by
  unfold openings
  split
  · split
    · rename_i own hpurpose
      exact if_neg fun hplace : own = place => h (hplace ▸ hpurpose)
    · rfl
  · rfl

/-- Nothing is done to a session that is not named. -/
theorem doings_eq_nil (service : Queue.Service σ) {h : Happening σ} (hnot : ¬ v.Names place h) :
    v.doings service place h = [] := by
  cases h with
  | step st =>
    cases st with
    | receive now draw request =>
      simp only [doings, touches, complaints, endings, List.append_nil, List.map_eq_nil_iff]
      split
      · rename_i client id error hcomplaint
        exact if_neg fun hholds => hnot (.inr ⟨client, id, error, hcomplaint, hholds⟩)
      · rfl
    | exchange now number queues =>
      simp only [doings, touches, endings, List.append_nil, List.map_eq_nil_iff]
      split
      · rename_i e hfind
        have hout : ¬ v.Involves place e := fun h => hnot ⟨e, hfind, h⟩
        rw [deliveries_eq_nil hout, openings_eq_nil fun hpurpose => hout (.inl hpurpose)]
        rfl
      · rfl
    | act signals now a =>
      cases a with
      | pump other =>
        simp only [doings, touches, movesIf, if_neg (show ¬ other = place from hnot)]
        rfl
      | stopPump other => exact if_neg hnot
      | watch other => exact if_neg hnot
      | work other ticket =>
        simp only [doings, touches, movesIf, if_neg (show ¬ other = place from hnot)]
        rfl
      | read number =>
        have hreads : v.reads place number = false := by
          unfold reads
          split
          · rename_i body hbody
            simp [show ¬ body.session = place from fun h => hnot ⟨body, hbody, h⟩]
          · rfl
        simp [doings, touches, endings, hreads]
      | handOver =>
        simp only [doings, touches, endings, List.append_nil, List.map_eq_nil_iff, handovers]
        simp only [Names] at hnot
        split <;> rename_i hslot <;> simp only [hslot] at hnot
        · exact if_neg hnot
        · rename_i hrelayed
          simp only [hrelayed] at hnot
          exact if_neg hnot
        · rfl
    | abort number =>
      simp only [doings, touches, endings, List.append_nil, List.map_eq_nil_iff]
      split
      · rename_i slot hslot
        obtain ⟨e, hfind, hslot⟩ := Option.bind_eq_some_iff.1 hslot
        rw [movesIf, if_neg fun h => hnot ⟨e, slot, hfind, hslot, h⟩]
        rfl
      · rfl
    | dropBody number =>
      simp only [doings, touches, endings, List.map_nil, List.nil_append]
      split
      · rename_i body hbody
        exact if_neg fun h => hnot ⟨body, hbody, h⟩
      · rfl
    | startReading number => rfl
    | collect number => rfl
    | relay envelope => rfl
    | close other => exact if_neg hnot
    | closeAll =>
      simp only [doings, touches, endings, List.map_nil, List.nil_append, List.map_eq_nil_iff,
        List.filter_eq_nil_iff, decide_eq_true_eq]
      rintro p hp rfl
      obtain ⟨entry, hentry, rfl⟩ := List.mem_map.1 hp
      exact hnot ⟨entry, hentry, rfl⟩
  | deliver client message queues =>
    have hnone := movesFor_eq_nil hnot message
    simp only [doings]
    split_ifs at hnone ⊢
    · rw [hnone]
      rfl
    · rfl
  | settle slot => exact if_neg hnot
  | giveUp slot => exact if_neg hnot
  | create kind parent draw => rfl
  | stop other => exact if_neg hnot
  | mark other => exact if_neg hnot
  | dispose other => exact if_neg hnot
  | remove other => rfl
  | endParent name =>
    simp only [doings]
    split
    · rename_i s hs
      exact if_neg fun h => hnot ⟨s, hs, h⟩
    · rfl

end Server

end SessionRelay
