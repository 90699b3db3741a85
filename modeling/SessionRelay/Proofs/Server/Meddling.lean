import SessionRelay.Proofs.Server.Exchanges

/-!
# Who meddles with the session of an exchange

The session of an exchange is fed by the exchange, but its token can be named by others. A step
meddles if it brings the session a request from elsewhere, or tells its client of a posted body that
is no message (`Server.meddles`). A step that does not meddle brings the session no request but what
its exchange delivers, and tells its client nothing that no job wrote (`touches_of_not_meddles`).
-/

namespace SessionRelay

open Session (Move)
open History (brought)

/-! ## Several moves at once -/

/-- A move that only has to do with the inbound queue, or hands out the stream. -/
def Session.Move.Calm : Move → Prop
  | .offer _ | .enter _ | .leave _ | .openStream => True
  | _ => False

theorem Session.Open.calm {s : Session} (hopen : s.Open) (router : Router) {move : Move}
    (hcalm : move.Calm) : (s.apply router move).Open := by
  cases move with
  | offer m =>
    refine ⟨hopen.going, ?_, ?_⟩
    · simp [Session.apply, Session.offer, Transport.offer, hopen.held]
    · simpa [Session.apply, Session.offer, Transport.offer, hopen.held] using hopen.reader
  | enter ticket => exact ⟨hopen.going, hopen.held, hopen.reader⟩
  | leave ticket => exact ⟨hopen.going, hopen.held, hopen.reader⟩
  | openStream =>
    rw [Session.apply]
    rcases Session.events_cases s with hsame | ⟨-, hopened⟩
    · rw [hsame]
      exact hopen
    · rw [hopened]
      refine ⟨hopen.going, hopen.held, ?_⟩
      cases s.transport.framing <;> rfl
  | pump signals => cases hcalm
  | work ticket signals => cases hcalm
  | read => cases hcalm
  | reject id error => cases hcalm

namespace History

variable {router : Router} {h : History}

/-- Whether a move tells the client of something that no job wrote. -/
def Unasked : Move → Prop
  | .reject _ _ => True
  | _ => False

/-- Whatever is put on the outbound queue but a rejection was left by a job. -/
theorem ticket_of_mem_entriesOf {s : Session} (hopen : s.Open) {move : Move}
    (hmove : ¬ Unasked move) : ∀ e ∈ entriesOf router s move, e.ticket ≠ none := by
  have hnone : ∀ {move : Move},
      (s.apply router move).transport.outbound = s.transport.outbound →
      ∀ e ∈ entriesOf router s move, e.ticket ≠ none := fun houtbound e he => by
    rw [entriesOf, Session.added_of_transport houtbound] at he
    cases he
  intro e he
  cases move with
  | pump signals =>
    obtain ⟨item, -, rfl⟩ := List.mem_map.1 he
    exact Option.some_ne_none _
  | work ticket signals =>
    obtain ⟨item, -, rfl⟩ := List.mem_map.1 he
    exact Option.some_ne_none _
  | offer m =>
    refine hnone ?_ e he
    simp only [Session.apply, Session.offer, Transport.offer]
    split_ifs <;> rfl
  | enter ticket => exact hnone rfl e he
  | leave ticket => exact hnone rfl e he
  | openStream =>
    rw [entriesOf, Session.apply, Session.added] at he
    rcases Session.events_cases s with hsame | ⟨-, hopened⟩
    · rw [hsame, List.drop_length] at he
      cases he
    · rw [hopened, List.drop_length] at he
      cases he
  | read =>
    rw [entriesOf, Session.apply, Session.next_outbound hopen, Session.added,
      List.drop_eq_nil_of_le (Session.outbound_next_queue _)] at he
    cases he
  | reject id error => exact absurd trivial hmove

/-- What comes of several moves. -/
structure Came (router : Router) (h : History) (moves : List Move) (h' : History) : Prop where
  run : Run router h h'
  supply : h'.supply.Subperm (Rpc.requests (moves.flatMap brought) ++ h.supply)
  asked : (∀ move ∈ moves, ¬ Unasked move) → ∀ e ∈ h'.log, e ∈ h.log ∨ e.ticket ≠ none

theorem Came.move (l : h.Ledger) (hopen : h.session.Open) (move : Move) :
    Came router h [move] (h.next router move) where
  run := Run.refl.move move hopen
  supply := by
    rw [List.flatMap_singleton]
    exact supply_next l hopen router move
  asked := fun hmoves e he => by
    rcases List.mem_append.1 he with he | he
    · exact .inl he
    · exact .inr (ticket_of_mem_entriesOf hopen (hmoves move List.mem_cons_self) e he)

theorem Came.trans {h' h'' : History} {moves more : List Move} (hfirst : Came router h moves h')
    (hthen : Came router h' more h'') : Came router h (moves ++ more) h'' where
  run := hfirst.run.trans hthen.run
  supply := by
    rw [List.flatMap_append, Rpc.requests_append]
    refine hthen.supply.trans (((List.subperm_append_left _).2 hfirst.supply).trans ?_)
    rw [← List.append_assoc]
    exact (List.perm_append_comm.append_right _).subperm
  asked := fun hmoves e he => by
    rcases hthen.asked (fun m hm => hmoves m (List.mem_append_right _ hm)) e he with he | hticket
    · exact hfirst.asked (fun m hm => hmoves m (List.mem_append_left _ hm)) e he
    · exact .inr hticket

/-- Moves can be made one after another if all but the last of them are calm. -/
theorem came_of_moves : ∀ (moves : List Move) {h : History}, h.Ledger → h.session.Open →
    (∀ move ∈ moves.dropLast, move.Calm) → Came router h moves (moves.foldl (History.next router) h)
  | [], h, _, _, _ => ⟨.refl, .refl _, fun _ e he => .inl he⟩
  | [move], h, l, hopen, _ => .move l hopen move
  | move :: move' :: rest, h, l, hopen, hcalm => by
    have hfirst : Came router h [move] _ := .move l hopen move
    have hopen' : (h.next router move).session.Open := hopen.calm router (hcalm move (by simp))
    exact hfirst.trans (came_of_moves (move' :: rest) (l.next hopen router move) hopen' fun m hm =>
      hcalm m (by simpa using .inr hm))

end History

/-! ## Meddling -/

namespace Server

variable {σ : Type} {v : Server} {place number : Nat}

/-- Whether a step brings the session at a place a request that its own exchange does not bring, or
tells its client of a posted body that is no message. -/
def meddles (v : Server) (place : Nat) : Step σ → Bool
  | .receive _ _ request =>
    match v.complaint? request with
    | some (client, _, _) => v.holds client place
    | none => false
  | .exchange _ number _ =>
    match v.exchanges.find? fun e => e.number == number with
    | some ⟨_, .post client, m :: _, none⟩ => m.isRequest && v.holds client place
    | _ => false
  | .act _ _ .handOver =>
    match v.relaySlot, v.relayed with
    | none, envelope :: _ =>
      envelope.message.isRequest && v.table.find? envelope.clientId == some place
    | _, _ => false
  | _ => false

theorem requests_singleton {m : Rpc.Message} (h : m.isRequest = false) : Rpc.requests [m] = [] := by
  cases m with
  | request r => cases h
  | _ => rfl

/-- An exchange that is not the session's own and does not meddle brings it no request. -/
theorem requests_deliveries {e : Exchange} (ho : v.Orderly) (hmem : e ∈ v.exchanges)
    (hfeed : e.purpose ≠ .feed place)
    (hpost : ∀ client m rest, e.purpose = .post client → v.holds client place = true →
      e.slot = none → e.rest = m :: rest → m.isRequest = false) :
    Rpc.requests ((v.deliveries e place).flatMap brought) = [] := by
  cases hslot : e.slot with
  | some slot => rw [brought_deliveries_of_slot v (by simp [hslot])]; rfl
  | none =>
    cases hrest : e.rest with
    | nil =>
      have hsub := brought_deliveries_sublist v e place
      rw [hrest, List.sublist_nil] at hsub
      rw [hsub]
      rfl
    | cons m rest =>
      simp only [deliveries, hslot, hrest, movesOf]
      cases hpurpose : e.purpose with
      | post client =>
        simp only [movesFor]
        split_ifs with hlocal hfind
        · refine requests_singleton (hpost client m rest hpurpose ?_ hslot hrest)
          simp [holds, hlocal, hfind]
        · rfl
        · rfl
      | route client =>
        have hm := ho.route e hmem client hpurpose m (hrest ▸ List.mem_cons_self)
        simp only [movesFor]
        split_ifs
        · exact requests_singleton hm
        · rfl
        · rfl
      | feed other =>
        have hne : other ≠ place := fun h => hfeed (h ▸ hpurpose)
        simp only [movesIf, if_neg hne]
        rfl

theorem calm_movesIf {other : Nat} {move : Move} (h : move.Calm) :
    ∀ m ∈ movesIf other place move, m.Calm := by
  unfold movesIf
  split_ifs
  · exact List.forall_mem_singleton.2 h
  · exact nofun

theorem calm_movesFor (v : Server) (clientId : String) (place : Nat) (message : Rpc.Message) :
    ∀ m ∈ v.movesFor clientId place message, m.Calm := by
  unfold movesFor
  split_ifs
  · exact List.forall_mem_singleton.2 trivial
  · exact nofun

theorem calm_deliveries (v : Server) (e : Exchange) (place : Nat) :
    ∀ m ∈ v.deliveries e place, m.Calm := by
  unfold deliveries
  split
  · exact calm_movesIf trivial
  · unfold movesOf
    split
    · split_ifs
      · exact calm_movesFor v _ place _
      · exact nofun
    · split_ifs
      · exact calm_movesFor v _ place _
      · exact nofun
    · exact calm_movesIf trivial
  · exact nofun

theorem calm_openings (e : Exchange) (place : Nat) (p : Progress) :
    ∀ m ∈ openings e place p, m.Calm := by
  unfold openings
  split
  · split
    · exact calm_movesIf trivial
    · exact nofun
  · exact nofun

theorem calm_handovers (v : Server) (place : Nat) : ∀ m ∈ v.handovers place, m.Calm := by
  unfold handovers
  split
  · exact calm_movesIf trivial
  · exact calm_movesFor v _ place _
  · exact nofun

theorem not_unasked {move : Move} (h : move.Calm) : ¬ History.Unasked move := by
  cases move with
  | reject id error => cases h
  | _ => exact id

/-- What a step makes of the session at a place: nothing, one move that brings it no message, or
what an exchange or the relay hands to it. -/
inductive Touching (service : Queue.Service σ) (v : Server) (place : Nat) :
    Step σ → List Move → Prop
  | none {st : Step σ} : Touching service v place st []
  | plain {st : Step σ} (move : Move) (hstill : st.moves? = none) (hbrought : brought move = [])
    (hasked : History.Unasked move → v.meddles place st = true) : Touching service v place st [move]
  | exchange {now k : Nat} {queues : σ} {e : Exchange}
    (hfind : (v.exchanges.find? fun e => e.number == k) = some e) :
    Touching service v place (.exchange now k queues)
      (v.deliveries e place ++ openings e place (v.proceed service now e queues).1)
  | handOver {signals : List String} {now : Nat} :
    Touching service v place (.act signals now .handOver) (v.handovers place)

theorem Touching.movesIf {service : Queue.Service σ} {st : Step σ} (other : Nat) {move : Move}
    (hstill : st.moves? = .none) (hbrought : brought move = [])
    (hasked : ¬ History.Unasked move) :
    Touching service v place st (Server.movesIf other place move) := by
  unfold Server.movesIf
  split_ifs
  · exact .plain move hstill hbrought fun h => absurd h hasked
  · exact .none

theorem touching (service : Queue.Service σ) (v : Server) (place : Nat) (st : Step σ) :
    Touching service v place st ((v.touches service place st).map Prod.snd) := by
  cases st with
  | receive now draw request =>
    simp only [touches, map_snd, complaints]
    split
    · rename_i client id error hcomplaint
      split_ifs with hholds
      · exact .plain _ rfl rfl fun _ => by simp only [meddles, hcomplaint, hholds]
      · exact .none
    · exact .none
  | exchange now k queues =>
    simp only [touches]
    split
    · rename_i e hfind
      rw [map_snd]
      exact .exchange hfind
    · exact .none
  | act signals now a =>
    cases a with
    | pump other =>
      rw [touches, map_snd]
      exact .movesIf other rfl rfl id
    | work other ticket =>
      rw [touches, map_snd]
      exact .movesIf other rfl rfl id
    | read k =>
      simp only [touches]
      split_ifs
      · exact .plain .read rfl rfl fun h => absurd h id
      · exact .none
    | handOver =>
      rw [touches, map_snd]
      exact .handOver
    | stopPump other => exact .none
    | watch other => exact .none
  | abort k =>
    simp only [touches]
    split
    · rename_i slot _
      rw [map_snd]
      exact .movesIf slot.session rfl rfl id
    · exact .none
  | _ => exact .none

/-- All the moves of a step but the last one are calm. -/
theorem calm_touches (service : Queue.Service σ) (v : Server) (place : Nat) (st : Step σ) :
    ∀ m ∈ ((v.touches service place st).map Prod.snd).dropLast, m.Calm := by
  intro m hm
  have htouching := v.touching service place st
  generalize (v.touches service place st).map Prod.snd = moves at hm htouching
  cases htouching with
  | none => cases hm
  | plain move => cases hm
  | @exchange now k queues e hfind =>
    rcases List.mem_append.1 (List.dropLast_subset _ hm) with hm | hm
    · exact calm_deliveries v e place m hm
    · exact calm_openings e place _ m hm
  | handOver => exact calm_handovers v place m (List.dropLast_subset _ hm)

/-- What an exchange delivers to its own session is what its steps bring; what another one brings
has no requests unless it meddles. -/
theorem requests_exchange {service : Queue.Service σ} {now k : Nat} {queues : σ} {e : Exchange}
    (ho : v.Orderly) (hf : v.Feeds place number)
    (hfind : (v.exchanges.find? fun e => e.number == k) = some e)
    (h : v.meddles place (.exchange now k queues) = false) :
    Rpc.requests ((v.deliveries e place ++
        openings e place (v.proceed service now e queues).1).flatMap brought) =
      Rpc.requests (v.delivered service place number (.exchange now k queues)) := by
  have hk : e.number = k := by simpa using List.find?_some hfind
  rw [List.flatMap_append, brought_openings, List.append_nil]
  by_cases hnumber : k = number
  · subst hnumber
    rw [delivered_exchange hfind]
  · have hne : (Step.exchange now k queues).moves? ≠ some number :=
      fun heq => hnumber (Option.some.inj heq)
    rw [delivered_eq_nil service v place hne]
    have hmem := List.mem_of_find?_eq_some hfind
    refine requests_deliveries ho hmem (fun hfeed => hnumber (hk ▸ hf e hmem hfeed)) ?_
    intro client m rest hpost hholds hslot hrest
    obtain ⟨_, purpose, _, slot⟩ := e
    cases hpost
    cases hslot
    cases hrest
    simpa [meddles, hfind, hholds] using h

theorem requests_handovers {signals : List String} {now : Nat}
    (h : v.meddles place (.act (σ := σ) signals now .handOver) = false) :
    Rpc.requests ((v.handovers place).flatMap brought) = [] := by
  unfold handovers movesFor movesIf
  split
  · split_ifs <;> rfl
  · rename_i envelope rest hslot hrelayed
    split_ifs with hfind
    · exact requests_singleton (by simpa [meddles, hslot, hrelayed, hfind] using h)
    · rfl
  · rfl

/-- Without meddling, every request that a step brings to the session of an exchange is one that
the exchange delivers, and nothing is said that no job wrote. -/
theorem touches_of_not_meddles (service : Queue.Service σ) (ho : v.Orderly)
    (hf : v.Feeds place number) {st : Step σ} (h : v.meddles place st = false) :
    Rpc.requests (((v.touches service place st).map Prod.snd).flatMap brought) =
        Rpc.requests (v.delivered service place number st) ∧
      ∀ m ∈ (v.touches service place st).map Prod.snd, ¬ History.Unasked m := by
  -- Only the exchange with the number delivers, so the other steps must bring no request.
  have hidle : st.moves? = none → Rpc.requests (v.delivered service place number st) = [] :=
    fun hstill => by
      rw [delivered_eq_nil service v place (by rw [hstill]; exact (Option.some_ne_none _).symm)]
      rfl
  have htouching := v.touching service place st
  generalize hmoves : (v.touches service place st).map Prod.snd = moves at htouching ⊢
  cases htouching with
  | none =>
    rw [delivered, List.map_eq_nil_iff.1 hmoves]
    exact ⟨rfl, fun m hm => absurd hm List.not_mem_nil⟩
  | plain move hstill hbrought hasked =>
    refine ⟨?_, List.forall_mem_singleton.2 fun hmove => ?_⟩
    · rw [hidle hstill, List.flatMap_singleton, hbrought]
      rfl
    · rw [hasked hmove] at h
      cases h
  | @exchange now k queues e hfind =>
    refine ⟨requests_exchange ho hf hfind h, fun m hm => not_unasked ?_⟩
    rcases List.mem_append.1 hm with hm | hm
    · exact calm_deliveries v e place m hm
    · exact calm_openings e place _ m hm
  | handOver =>
    exact ⟨(requests_handovers h).trans (hidle rfl).symm,
      fun m hm => not_unasked (calm_handovers v place m hm)⟩

end Server

end SessionRelay
