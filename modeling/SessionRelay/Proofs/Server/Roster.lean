import SessionRelay.Proofs.ClientState
import SessionRelay.Proofs.Server.Step
import SessionRelay.Proofs.Session.Teardown

/-!
# The sessions of an instance

Sessions are opened, go on and are torn down side by side, each on its own (`Care.Sound`). So once
all calls and watchers have run, the table holds the sessions that have not ended, and nothing is
left to do for any other (`table_holds_unended`).
-/

namespace SessionRelay

/-- A token that a codec writes in the way it prefers names the state to that codec. -/
theorem ClientState.Codec.parse?_of_format {secret : Option String} {nonce : Bytes}
    {state : ClientState} {token : String} (hnonce : nonce.length = Gcm.nonceLength)
    (h : (ofSecret secret).format nonce state (ofSecret secret).encrypts = .ok token) :
    (ofSecret secret).parse? token (ofSecret secret).encrypts = some state := by
  obtain ⟨hproper, h⟩ := format_eq_ok_iff.1 h
  obtain ⟨bytes, hbytes, rfl⟩ := Option.map_eq_some_iff.1 h
  have htext : (ofSecret secret).text? bytes (ofSecret secret).encrypts = some state.spell := by
    have hkeys : (ofSecret secret).keys = none ∨
        ∃ s, (ofSecret secret).keys = some (.ofSecret s) := by
      unfold ofSecret
      split
      · split_ifs
        · exact .inl rfl
        · exact .inr ⟨_, rfl⟩
      · exact .inl rfl
    rcases hkeys with hnone | ⟨s, hsome⟩
    · simp only [encrypts, hnone, content?, text?] at hbytes ⊢
      exact hbytes.symm
    · simp only [encrypts, hsome, content?, text?] at hbytes ⊢
      obtain rfl := Option.some.inj hbytes
      exact openBytes?_sealBytes hnonce _
  rw [parse?_eq, Base64.decodeUrl?_eq_some_iff.2 (trim_encodeUrl bytes), Option.bind_some, htext]
  exact ofSpelling?_eq_some_iff.2 ⟨hproper, rfl⟩

namespace SessionTable

variable {t t' : SessionTable} {s : Session} {place : Nat}

/-- A new session belongs to this instance and is to end only if what it is opened under has. -/
structure Opens (t : SessionTable) (draw : Draw) (s : Session) : Prop where
  clientId : s.clientId = draw.clientId
  instanceId : s.instanceId = t.instanceId
  token : t.codec.format draw.nonce ⟨s.clientId, s.instanceId⟩ t.codec.encrypts = .ok s.token
  closed : s.closed = false
  held : s.transport.closed = false
  gone : s.transport.streamGone = false
  cancelled : s.cancelled = t.endedParents.contains s.parent

/-- A new session has nothing in its queues yet, and its events come as its kind of stream says. -/
theorem create_framing {kind : StreamKind} {parent : String} {draw : Draw}
    (h : t.create kind parent draw = .ok (place, t')) :
    ∃ s, t.Opens draw s ∧ t' = t.enter s ∧ s.transport.framing = kind.framing s.token ∧
      s.transport.outbound = {} ∧ s.transport.inbound.line = [] := by
  unfold create at h
  cases htoken : t.codec.format draw.nonce ⟨draw.clientId, t.instanceId⟩ t.codec.encrypts with
  | error e =>
    rw [htoken] at h
    cases h
  | ok token =>
    rw [htoken] at h
    cases h
    exact ⟨_, ⟨rfl, rfl, htoken, rfl, rfl, rfl, rfl⟩, rfl, rfl, rfl, rfl⟩

theorem create_opens {kind : StreamKind} {parent : String} {draw : Draw}
    (h : t.create kind parent draw = .ok (place, t')) : ∃ s, t.Opens draw s ∧ t' = t.enter s := by
  obtain ⟨s, hopens, ht', -⟩ := create_framing h
  exact ⟨s, hopens, ht'⟩

theorem session?_enter (t : SessionTable) (s : Session) (place : Nat) :
    (t.enter s).session? place =
      if place = t.opened.length then some s else t.session? place := by
  unfold session? enter
  split_ifs with hplace
  · rw [hplace]
    exact List.getElem?_concat_length
  · rcases Nat.lt_or_gt_of_ne hplace with hlt | hgt
    · exact List.getElem?_append_left hlt
    · rw [List.getElem?_eq_none (by simp; omega), List.getElem?_eq_none (by omega)]

theorem session?_replace (t : SessionTable) (s : Session) (other place : Nat) :
    (t.modify other fun _ => s).session? place =
      if other = place then (t.session? place).map fun _ => s else t.session? place := by
  rw [session?_modify]
  split_ifs <;> simp

theorem modify_modify (t : SessionTable) (place : Nat) (f g : Session → Session) :
    (t.modify place f).modify place g = t.modify place (g ∘ f) := by
  rw [modify, modify, modify, List.modify_modify_eq]

theorem modify_eq_replace (hs : t.session? place = some s) (f : Session → Session) :
    t.modify place f = t.modify place fun _ => f s := by
  rw [modify, modify, List.modify_eq_set_getElem?, List.modify_eq_set_getElem?]
  rw [session?] at hs
  rw [hs]
  rfl

theorem session?_endParent (t : SessionTable) (name : String) (place : Nat) :
    (t.endParent name).session? place = (t.session? place).map fun s =>
      if s.parent = name then { s with cancelled := true } else s := by
  rw [session?, endParent, List.getElem?_map]
  rfl

theorem mem_live_remove (hs : t.session? place = some s) {entry : String × Nat} :
    entry ∈ (t.remove place).live ↔ entry ∈ t.live ∧ entry ≠ (s.clientId, place) := by
  simp only [remove, hs, List.mem_filter, bne_iff_ne]

end SessionTable

namespace Care

variable {t : SessionTable} {care : Nat → Care} {s s' : Session} {c' : Care} {place : Nat}
  {instanceId : String} {secret : Option String}

/-- What holds of all sessions of an instance, whatever happens to them. -/
structure Sound (instanceId : String) (secret : Option String) (t : SessionTable)
    (care : Nat → Care) : Prop where
  owner : t.instanceId = instanceId
  codec : t.codec = .ofSecret secret
  named : ∀ place s, t.session? place = some s → s.instanceId = instanceId ∧
    (ClientState.Codec.ofSecret secret).parse? s.token
      (ClientState.Codec.ofSecret secret).encrypts = some ⟨s.clientId, instanceId⟩
  keys : (t.live.map Prod.fst).Nodup
  entries : ∀ entry ∈ t.live, ∃ s, t.session? entry.2 = some s ∧ s.clientId = entry.1
  live : ∀ place s, t.session? place = some s →
    ((s.clientId, place) ∈ t.live ↔ Care.Listed s (care place))
  fits : ∀ place s, t.session? place = some s →
    Care.Fits t.endedParents s (care place)
  unborn : ∀ place, t.opened.length ≤ place → care place = {}

theorem sound_fresh (instanceId : String) (secret : Option String) (capacity : Nat) :
    Sound instanceId secret { instanceId, codec := .ofSecret secret, capacity } fun _ => {} where
  owner := rfl
  codec := rfl
  named := fun _ _ hs => by cases hs
  keys := List.nodup_nil
  entries := fun _ hentry => by cases hentry
  live := fun _ _ hs => by cases hs
  fits := fun _ _ hs => by cases hs
  unborn := fun _ _ => rfl

namespace Sound

/-- What happens to one session leaves the others where they are. -/
theorem turn (h : Sound instanceId secret t care) (hs : t.session? place = some s)
    (hturn : (care place).Turn s s' c') :
    Sound instanceId secret (t.modify place fun _ => s') (Function.update care place c') := by
  obtain ⟨hclient, hinstance, htoken⟩ := hturn.names
  -- A session of the new table is an old one, or what became of the one that had the turn.
  have hcases : ∀ q q', (t.modify place fun _ => s').session? q = some q' →
      q = place ∧ q' = s' ∨ q ≠ place ∧ t.session? q = some q' := by
    intro q q' hq
    rw [SessionTable.session?_replace] at hq
    by_cases hplace : place = q
    · subst hplace
      rw [if_pos rfl, hs] at hq
      exact .inl ⟨rfl, (Option.some.inj hq).symm⟩
    · rw [if_neg hplace] at hq
      exact .inr ⟨Ne.symm hplace, hq⟩
  refine ⟨h.owner, h.codec, fun q q' hq => ?_, h.keys, fun entry hentry => ?_, fun q q' hq => ?_,
    fun q q' hq => ?_, fun q hq => ?_⟩
  · rcases hcases q q' hq with ⟨rfl, rfl⟩ | ⟨-, hq⟩
    · rw [hclient, hinstance, htoken]
      exact h.named _ s hs
    · exact h.named q q' hq
  · obtain ⟨q', hq, hkey⟩ := h.entries entry hentry
    rw [SessionTable.session?_replace]
    split_ifs with hplace
    · rw [hq, Option.map_some]
      rw [← hplace, hs] at hq
      exact ⟨s', rfl, by rw [hclient, Option.some.inj hq, hkey]⟩
    · exact ⟨q', hq, hkey⟩
  · rcases hcases q q' hq with ⟨rfl, rfl⟩ | ⟨hne, hq⟩
    · rw [Function.update_self, hclient, hturn.listed]
      exact h.live _ s hs
    · rw [Function.update_of_ne hne]
      exact h.live q q' hq
  · rcases hcases q q' hq with ⟨rfl, rfl⟩ | ⟨hne, hq⟩
    · rw [Function.update_self]
      exact hturn.fits (h.fits _ s hs)
    · rw [Function.update_of_ne hne]
      exact h.fits q q' hq
  · have hlength : t.opened.length ≤ q := by
      simpa [SessionTable.modify] using hq
    have hlt := SessionTable.lt_of_session? hs
    rw [Function.update_of_ne (by omega)]
    exact h.unborn q hlength

/-- A teardown takes out the entry of its own session only. -/
theorem remove (h : Sound instanceId secret t care) (hs : t.session? place = some s)
    (hnext : (care place).closing = some .remove) :
    Sound instanceId secret (t.remove place)
      (Function.update care place { care place with closing := none }) := by
  have hsame : ∀ q, (t.remove place).session? q = t.session? q := fun q =>
    Server.session?_remove t place
  have hlive : ∀ entry, entry ∈ (t.remove place).live ↔
      entry ∈ t.live ∧ entry ≠ (s.clientId, place) := fun _ =>
    SessionTable.mem_live_remove hs
  have hremove : (t.remove place).live.Sublist t.live ∧
      (t.remove place).instanceId = t.instanceId ∧
      (t.remove place).codec = t.codec ∧
      (t.remove place).opened = t.opened ∧
      (t.remove place).endedParents = t.endedParents := by
    simp only [SessionTable.remove, hs, and_self, and_true]
    exact List.filter_sublist
  obtain ⟨hsublist, howner, hcodec, hopened, hparents⟩ := hremove
  refine ⟨howner.trans h.owner, hcodec.trans h.codec, fun q q' hq => h.named q q' (hsame q ▸ hq),
    h.keys.sublist (hsublist.map _), fun entry hentry => ?_, fun q q' hq => ?_, fun q q' hq => ?_,
    fun q hq => ?_⟩
  · rw [hsame]
    exact h.entries entry ((hlive entry).1 hentry).1
  · rw [hsame] at hq
    rw [hlive]
    by_cases hplace : q = place
    · subst hplace
      obtain rfl := Option.some.inj (hs.symm.trans hq)
      rw [Function.update_self]
      have hclosed := ((h.fits _ s hs).closing _ hnext).1
      simp [Care.Listed, hclosed]
    · rw [Function.update_of_ne hplace, ← h.live q q' hq]
      simp [hplace]
  · rw [hsame] at hq
    rw [hparents]
    by_cases hplace : q = place
    · subst hplace
      obtain rfl := Option.some.inj (hs.symm.trans hq)
      rw [Function.update_self]
      exact (h.fits _ s hs).remove hnext
    · rw [Function.update_of_ne hplace]
      exact h.fits q q' hq
  · have hlt := SessionTable.lt_of_session? hs
    rw [hopened] at hq
    rw [Function.update_of_ne (by omega)]
    exact h.unborn q hq

theorem endParent (h : Sound instanceId secret t care) (name : String) :
    Sound instanceId secret (t.endParent name) care := by
  have hcases : ∀ q q', (t.endParent name).session? q = some q' →
      ∃ s, t.session? q = some s ∧
        (if s.parent = name then { s with cancelled := true } else s) = q' := by
    intro q q' hq
    rw [SessionTable.session?_endParent] at hq
    exact Option.map_eq_some_iff.1 hq
  have hkeeps : ∀ s : Session, (if s.parent = name then { s with cancelled := true } else s).clientId =
      s.clientId ∧ (if s.parent = name then { s with cancelled := true } else s).instanceId =
      s.instanceId ∧ (if s.parent = name then { s with cancelled := true } else s).token = s.token ∧
      (if s.parent = name then { s with cancelled := true } else s).closed = s.closed := by
    intro s
    split_ifs <;> exact ⟨rfl, rfl, rfl, rfl⟩
  refine ⟨h.owner, h.codec, fun q q' hq => ?_, h.keys, fun entry hentry => ?_, fun q q' hq => ?_,
    fun q q' hq => ?_, fun q hq => ?_⟩
  · obtain ⟨s, hs, rfl⟩ := hcases q q' hq
    obtain ⟨hclient, hinstance, htoken, -⟩ := hkeeps s
    rw [hclient, hinstance, htoken]
    exact h.named q s hs
  · obtain ⟨s, hs, hkey⟩ := h.entries entry hentry
    refine ⟨_, ?_, (hkeeps s).1.trans hkey⟩
    rw [SessionTable.session?_endParent, hs, Option.map_some]
  · obtain ⟨s, hs, rfl⟩ := hcases q q' hq
    obtain ⟨hclient, -, -, hclosed⟩ := hkeeps s
    rw [hclient, Care.Listed, hclosed]
    exact h.live q s hs
  · obtain ⟨s, hs, rfl⟩ := hcases q q' hq
    exact (h.fits q s hs).endParent name
  · refine h.unborn q ?_
    simpa [SessionTable.endParent] using hq

theorem closeAll (h : Sound instanceId secret t care) :
    Sound instanceId secret t fun place =>
      if t.isLive place then (care place).call else care place := by
  refine ⟨h.owner, h.codec, h.named, h.keys, h.entries, fun q q' hq => ?_, fun q q' hq => ?_,
    fun q hq => ?_⟩
  · rw [h.live q q' hq]
    split_ifs <;> rfl
  · split_ifs
    · exact (h.fits q q' hq).call
    · exact h.fits q q' hq
  · rw [if_neg]
    · exact h.unborn q hq
    · intro hlive
      obtain ⟨entry, hentry, hplace⟩ := List.any_eq_true.1 hlive
      obtain ⟨s, hs, -⟩ := h.entries entry hentry
      have hlt := SessionTable.lt_of_session? hs
      have hsame : entry.2 = q := by simpa using hplace
      omega

theorem create (h : Sound instanceId secret t care) {kind : StreamKind} {parent : String} {draw : Draw}
    {t' : SessionTable} (hfresh : ∀ s ∈ t.opened, s.clientId ≠ draw.clientId)
    (hnonce : draw.nonce.length = Gcm.nonceLength)
    (hcreate : t.create kind parent draw = .ok (place, t')) : Sound instanceId secret t' care := by
  obtain ⟨new, hnew, rfl⟩ := SessionTable.create_opens hcreate
  have htoken := hnew.token
  rw [h.codec] at htoken
  have howner := hnew.instanceId.trans h.owner
  -- No entry has the key of the new session, so all entries stay.
  have hkeys : ∀ entry ∈ t.live, entry.1 ≠ draw.clientId := fun entry hentry heq => by
    obtain ⟨s, hs, hkey⟩ := h.entries entry hentry
    exact hfresh s (List.mem_of_getElem? hs) (hkey.trans heq)
  have hlive : (t.enter new).live = t.live ++ [(draw.clientId, t.opened.length)] := by
    have hall : ∀ entry ∈ t.live, (entry.1 != new.clientId) = true := fun entry hentry => by
      simpa [hnew.clientId] using hkeys entry hentry
    rw [SessionTable.enter, List.filter_eq_self.2 hall, hnew.clientId]
  have hcases : ∀ q q', (t.enter new).session? q = some q' →
      q = t.opened.length ∧ q' = new ∨ q ≠ t.opened.length ∧ t.session? q = some q' := by
    intro q q' hq
    rw [SessionTable.session?_enter] at hq
    split_ifs at hq with hplace
    · exact .inl ⟨hplace, (Option.some.inj hq).symm⟩
    · exact .inr ⟨hplace, hq⟩
  refine ⟨h.owner, h.codec, fun q q' hq => ?_, ?_, fun entry hentry => ?_, fun q q' hq => ?_,
    fun q q' hq => ?_, fun q hq => h.unborn q ?_⟩
  · rcases hcases q q' hq with ⟨rfl, rfl⟩ | ⟨-, hq⟩
    · exact ⟨howner, howner ▸ ClientState.Codec.parse?_of_format hnonce htoken⟩
    · exact h.named q q' hq
  · rw [hlive, List.map_append, List.nodup_append]
    refine ⟨h.keys, List.nodup_singleton _, ?_⟩
    rintro key hkey _ hadded rfl
    obtain ⟨entry, hentry, rfl⟩ := List.mem_map.1 hkey
    exact hkeys entry hentry (List.mem_singleton.1 hadded)
  · rw [hlive] at hentry
    rw [SessionTable.session?_enter]
    rcases List.mem_append.1 hentry with hentry | hentry
    · obtain ⟨s, hs, hkey⟩ := h.entries entry hentry
      rw [if_neg (Nat.ne_of_lt (SessionTable.lt_of_session? hs))]
      exact ⟨s, hs, hkey⟩
    · obtain rfl := List.mem_singleton.1 hentry
      exact ⟨new, if_pos rfl, hnew.clientId⟩
  · rw [hlive, List.mem_append, List.mem_singleton]
    rcases hcases q q' hq with ⟨rfl, rfl⟩ | ⟨hne, hq⟩
    · simp [Care.Listed, hnew.clientId, hnew.closed]
    · rw [← h.live q q' hq]
      simp [hne]
  · rcases hcases q q' hq with ⟨rfl, rfl⟩ | ⟨-, hq⟩
    · rw [h.unborn _ (Nat.le_refl _)]
      exact fits_new hnew.closed hnew.held hnew.gone hnew.cancelled
    · exact h.fits q q' hq
  · simp only [SessionTable.enter, List.length_append] at hq
    exact Nat.le_of_succ_le hq

end Sound

end Care

/-- The sessions of an instance, and what is under way to end each of them, by place. -/
structure Roster where
  table : SessionTable
  care : Nat → Care := fun _ => {}

namespace Roster

variable {r r' : Roster} {s s' : Session} {c' : Care} {place : Nat} {instanceId : String}
  {secret : Option String}

/-- An instance that has opened no session. -/
def fresh (instanceId : String) (secret : Option String) (capacity : Nat) : Roster where
  table := { instanceId, codec := .ofSecret secret, capacity }

/-- What happens to the sessions of an instance. -/
inductive Step : Roster → Roster → Prop
  /-- A session is opened, under an id that no session has yet. -/
  | create {r : Roster} {kind : StreamKind} {parent : String} {draw : Draw} {place : Nat}
      {table : SessionTable} (hfresh : ∀ s ∈ r.table.opened, s.clientId ≠ draw.clientId)
      (hnonce : draw.nonce.length = Gcm.nonceLength)
      (h : r.table.create kind parent draw = .ok (place, table)) : Step r { r with table }
  /-- Something happens to one session. -/
  | turn {r : Roster} {s s' : Session} {c' : Care} {place : Nat}
      (hs : r.table.session? place = some s) (h : (r.care place).Turn s s' c') :
    Step r
      { table := r.table.modify place fun _ => s'
        care := Function.update r.care place c' }
  /-- A teardown takes the entry of its session out. -/
  | remove {r : Roster} {s : Session} {place : Nat} (hs : r.table.session? place = some s)
      (h : (r.care place).closing = some .remove) :
    Step r
      { table := r.table.remove place
        care := Function.update r.care place { r.care place with closing := none } }
  /-- What sessions were opened under ends. -/
  | endParent {r : Roster} (name : String) : Step r { r with table := r.table.endParent name }
  /-- All sessions that are in the table now are called to close. -/
  | closeAll {r : Roster} :
    Step r { r with care := fun place =>
      if r.table.isLive place then (r.care place).call else r.care place }

/-- One roster becomes another, step by step. -/
inductive Run (start : Roster) : Roster → Prop
  | refl : Run start start
  | step {r r' : Roster} (hrun : Run start r) (h : Step r r') : Run start r'

theorem Step.sound (hstep : Step r r') (h : Care.Sound instanceId secret r.table r.care) :
    Care.Sound instanceId secret r'.table r'.care := by
  cases hstep with
  | create hfresh hnonce hcreate => exact h.create hfresh hnonce hcreate
  | turn hs hturn => exact h.turn hs hturn
  | remove hs hnext => exact h.remove hs hnext
  | endParent name => exact h.endParent name
  | closeAll => exact h.closeAll

theorem Run.sound {start : Roster} (hrun : Run start r)
    (h : Care.Sound instanceId secret start.table start.care) :
    Care.Sound instanceId secret r.table r.care := by
  induction hrun with
  | refl => exact h
  | step _ hstep ih => exact hstep.sound ih

/-- A session has two turns in a row. -/
theorem Run.again {start : Roster} {t : SessionTable} {care : Nat → Care} {c : Care} {other : Session}
    (hrun : Run start ⟨t.modify place fun _ => s, Function.update care place c⟩)
    (hplace : t.session? place = some other) (h : c.Turn s s' c') :
    Run start ⟨t.modify place fun _ => s', Function.update care place c'⟩ := by
  have hs : (t.modify place fun _ => s).session? place = some s := by
    rw [SessionTable.session?_replace, if_pos rfl, hplace, Option.map_some]
  have hturn : (Function.update care place c place).Turn s s' c' := by
    rwa [Function.update_self]
  have hstep := hrun.step (.turn hs hturn)
  simp only [SessionTable.modify_modify, Function.update_idem] at hstep
  exact hstep

/-- A teardown that nothing comes between is what closing a session does at one go. -/
theorem Run.close {start : Roster} (hrun : Run start r) (hs : r.table.session? place = some s)
    (hopen : s.closed = false) (hbegin : (r.care place).Turn s { s with closed := true } c')
    (hstop : c'.closing = some .stop) :
    Run start ⟨r.table.close place, Function.update r.care place { c' with closing := none }⟩ := by
  have hdisposed := ((hrun.step (.turn hs hbegin)).again hs (.stop hstop)).again hs (.dispose rfl)
  have hshut : { s with closed := true, cancelled := true, transport := s.transport.dispose } =
      s.shutDown := by
    rw [Session.shutDown, if_neg (by simp [hopen])]
  have hdown : (r.table.modify place fun _ => s.shutDown).session? place = some s.shutDown := by
    rw [SessionTable.session?_replace, if_pos rfl, hs, Option.map_some]
  have hclose : r.table.close place = (r.table.modify place fun _ => s.shutDown).remove place := by
    simp only [SessionTable.close, hs, hopen, Bool.false_eq_true, if_false,
      SessionTable.modify_eq_replace hs]
  rw [hshut] at hdisposed
  have hremoved := hdisposed.step (.remove hdown (by simp only [Function.update_self]))
  simp only [Function.update_self, Function.update_idem] at hremoved
  rw [hclose]
  exact hremoved

/-- Whether anything has happened that ends the session at a place. -/
def Ended (r : Roster) (place : Nat) (s : Session) : Prop :=
  Care.Ended r.table.endedParents s (r.care place)

/-- All calls have come to their sessions, all watchers have run, and all teardowns are over. -/
structure Settled (r : Roster) : Prop where
  calls : ∀ place, (r.care place).calls = 0
  closing : ∀ place, (r.care place).closing = none
  watched : ∀ place s, r.table.session? place = some s → s.isDue = true → s.closed = true

/-- Whatever happens to the sessions of an instance: each entry of the table leads from a client id
to the session of that client, which belongs to this instance and says so, and so does its token.
Once all calls and watchers have run, the table holds exactly the sessions that have not ended. All
others are closed, have nothing that goes on in them, and no request in flight that was not told to
stop. -/
theorem table_holds_unended {capacity : Nat} (hrun : Run (fresh instanceId secret capacity) r) :
    (∀ entry ∈ r.table.live, ∃ s, r.table.session? entry.2 = some s ∧ s.clientId = entry.1 ∧
        s.instanceId = instanceId ∧ (ClientState.Codec.ofSecret secret).parse? s.token
          (ClientState.Codec.ofSecret secret).encrypts = some ⟨entry.1, instanceId⟩) ∧
      (r.table.live.map Prod.fst).Nodup ∧
      (r.Settled → ∀ place s, r.table.session? place = some s →
        ((s.clientId, place) ∈ r.table.live ↔ ¬ r.Ended place s) ∧
          (r.Ended place s → s.closed = true ∧ s.transport.Disposed ∧ s.cancelled = true ∧
            ∀ id, ∀ number ∈ s.inFlight.numbers id, s.isCancelled number = true)) := by
  have h := hrun.sound (Care.sound_fresh instanceId secret capacity)
  refine ⟨fun entry hentry => ?_, h.keys, fun hsettled place s hs => ?_⟩
  · obtain ⟨s, hs, hkey⟩ := h.entries entry hentry
    obtain ⟨hinstance, htoken⟩ := h.named _ s hs
    exact ⟨s, hs, hkey, hinstance, hkey ▸ htoken⟩
  · have hfits := h.fits place s hs
    have hended : r.Ended place s → s.closed = true := by
      intro hended
      rcases hfits.due hended with hclosed | hcalls | hdue
      · exact hclosed
      · exact absurd (hsettled.calls place) (Nat.ne_of_gt hcalls)
      · exact hsettled.watched place s hs hdue
    refine ⟨?_, fun hover => ?_⟩
    · rw [h.live place s hs, Care.Listed, hsettled.closing place]
      simp only [ne_eq, not_true_eq_false, or_false]
      refine ⟨fun hopen hover => ?_, fun hnot => ?_⟩
      · rw [hended hover] at hopen
        cases hopen
      · by_contra hclosed
        exact hnot (hfits.reason (.inl (by simpa using hclosed)))
    · obtain ⟨hcancelled, hdisposed⟩ := hfits.done (hended hover) (hsettled.closing place)
      exact ⟨hended hover, hdisposed, hcancelled, fun _ number _ =>
        Care.isCancelled_of_cancelled hcancelled number⟩

def drawn (clientId : String) : Draw := ⟨clientId, List.replicate 12 0⟩

/-- The table with a session opened in it. -/
def opening (t : SessionTable) (parent clientId : String) : SessionTable :=
  ((t.create (.streamable 1) parent (drawn clientId)).toOption.map Prod.snd).getD t

def oneOpened : SessionTable := opening (fresh "i" none 4).table "p" "a"

/-- Two sessions under different parents, of which one has ended. -/
def halfEnded : SessionTable := (opening oneOpened "q" "b").endParent "p"

theorem table_holds_unended_watched : ∃ r s₀ s₁, Run (fresh "i" none 4) r ∧ r.Settled ∧
    r.table.session? 0 = some s₀ ∧ r.table.session? 1 = some s₁ ∧ s₀.closed = true ∧
      s₀.transport.Disposed ∧ s₀.cancelled = true ∧ ("a", 0) ∉ r.table.live ∧
        ("b", 1) ∈ r.table.live := by
  have hfirst : (fresh "i" none 4).table.create (.streamable 1) "p" (drawn "a") =
      .ok (0, oneOpened) := rfl
  have hsecond : oneOpened.create (.streamable 1) "q" (drawn "b") =
      .ok (1, opening oneOpened "q" "b") := rfl
  have hother : ∀ s ∈ oneOpened.opened, s.clientId ≠ "b" := by
    intro s hs
    rw [List.mem_singleton.1 hs]
    decide
  have hopened : Run (fresh "i" none 4) ⟨halfEnded, fun _ => {}⟩ :=
    ((Run.refl.step (.create (fun _ h => by cases h) rfl hfirst)).step
      (.create hother rfl hsecond)).step (.endParent "p")
  obtain ⟨s, hs⟩ : ∃ s, halfEnded.session? 0 = some s := ⟨_, rfl⟩
  obtain ⟨s₀, hs₀⟩ : ∃ s, (halfEnded.close 0).session? 0 = some s := ⟨_, rfl⟩
  obtain ⟨s₁, hs₁⟩ : ∃ s, (halfEnded.close 0).session? 1 = some s := ⟨_, rfl⟩
  have hdue : s.isDue = true ∧ s.closed = false := by
    obtain rfl := Option.some.inj hs
    exact ⟨rfl, rfl⟩
  have hrun := hopened.close hs hdue.2 (.watched hdue.1 hdue.2) rfl
  rw [Function.update_eq_self] at hrun
  obtain ⟨-, -, hend⟩ := table_holds_unended hrun
  have hsettled : Settled ⟨halfEnded.close 0, fun _ => {}⟩ := by
    refine ⟨fun _ => rfl, fun _ => rfl, fun place s hs hdue => ?_⟩
    rcases place with _ | _ | n
    · obtain rfl := Option.some.inj hs
      rfl
    · obtain rfl := Option.some.inj hs
      cases hdue
    · cases hs
  have hended : Ended ⟨halfEnded.close 0, fun _ => {}⟩ 0 s₀ := by
    obtain rfl := Option.some.inj hs₀
    exact .inl List.mem_cons_self
  have hnot : ¬ Ended ⟨halfEnded.close 0, fun _ => {}⟩ 1 s₁ := by
    obtain rfl := Option.some.inj hs₁
    rintro (h | h | h)
    · exact absurd (List.mem_singleton.1 h) (by decide)
    · cases h
    · cases h
  obtain ⟨hlisted₀, hover⟩ := hend hsettled 0 s₀ hs₀
  obtain ⟨hlisted₁, -⟩ := hend hsettled 1 s₁ hs₁
  obtain ⟨hclosed, hdisposed, hcancelled, -⟩ := hover hended
  refine ⟨_, s₀, s₁, hrun, hsettled, hs₀, hs₁, hclosed, hdisposed, hcancelled, ?_, ?_⟩
  · obtain rfl := Option.some.inj hs₀
    exact fun hlive => hlisted₀.1 hlive hended
  · obtain rfl := Option.some.inj hs₁
    exact hlisted₁.2 hnot

end Roster

end SessionRelay
