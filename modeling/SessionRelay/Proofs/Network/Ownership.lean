import SessionRelay.Proofs.Backplane.Custody
import SessionRelay.Proofs.Server.InHand

/-!
# Only the owner gets a message

Instances deliver messages, poll their queues, which may fail them at any call, and hand over what
they were given, in any order. Whatever a session ever has in hand was to be delivered to its client
at its instance, and no other place has an instance of that name (`given_to_owner`). A message that
was given to its owner at once arrives as it was; one that was relayed arrives as its text reads,
which is another message if a number in it does not read back.
-/

namespace SessionRelay

open Backplane (Task Traffic offered)
open Queue (Rehearsal Store)

/-- A message that was to be delivered. -/
structure Given where
  /-- The instance that was to deliver it. -/
  giver : String
  client : ClientState
  message : Rpc.Message

namespace Given

def envelope (g : Given) : Envelope := ⟨g.client.instanceId, g.client.clientId, g.message⟩

/-- What arrives of it, if anything does. -/
def arrival (g : Given) : Option Rpc.Message :=
  if g.giver = g.client.instanceId then some g.message
  else (Envelope.ofText? g.envelope.text).map Envelope.message

/-- Whether the message came in a body. -/
def Posted (g : Given) : Prop := ∃ body ms, Rpc.Message.ofBody body = .ok ms ∧ g.message ∈ ms

/-- A message whose numbers read back arrives as it was. -/
theorem arrival_eq {g : Given} (hposted : g.Posted) {m : Rpc.Message} (h : g.arrival = some m)
    (hreals : ∀ x, .real x ∈ g.message.toJson.numbers → (Number.real x).ReadsBack) :
    m = g.message := by
  unfold arrival at h
  split_ifs at h
  · exact (Option.some.inj h).symm
  obtain ⟨body, ms, hbody, hm⟩ := hposted
  obtain ⟨hregular, -⟩ := Rpc.Message.of_mem_ofBody hbody hm
  rw [Envelope.ofText?_text (e := g.envelope) hregular hreals] at h
  split_ifs at h
  · exact (Option.some.inj h).symm
  · cases h

/-- An envelope that is read off its text has the same address. -/
theorem of_read {g : Given} (hrelayed : g.giver ≠ g.client.instanceId) {e : Envelope}
    (hread : Envelope.ofText? g.envelope.text = some e) :
    g.client = ⟨e.clientId, e.target⟩ ∧ g.arrival = some e.message := by
  obtain ⟨htarget, hclient⟩ := Envelope.address_ofText?_text hread
  rw [arrival, if_neg hrelayed, hread, htarget, hclient]
  exact ⟨rfl, rfl⟩

end Given

/-- Instances that share their queues. -/
structure Fleet where
  traffic : Traffic := {}
  servers : List Server
  given : List Given := []

namespace Fleet

section

variable (f : Fleet)

def withQueues (queues : Rehearsal) : Fleet := { f with traffic := { f.traffic with queues } }

/-- The queue service is called by somebody else, or some of its next calls are made to fail, or
time passes. -/
inductive Disturbs (queues : Rehearsal) : Rehearsal → Prop
  | plan (kind : Queue.CallKind) (count : Nat) : Disturbs queues (queues.setFailures kind count)
  | elapse (ms : Nat) : Disturbs queues (Rehearsal.service.elapse ms queues)
  | create (queue : String) : Disturbs queues (Rehearsal.service.create queue queues).2
  | drop (queue : String) : Disturbs queues (Rehearsal.service.drop queue queues).2

def give (g : Given) : Fleet := { f with given := f.given ++ [g] }

/-- An instance changes. -/
def change (place : Nat) (g : Server → Server) : Fleet :=
  { f with servers := f.servers.modify place g }

/-- An instance is given a message to deliver. -/
def deliver (place : Nat) (client : ClientState) (m : Rpc.Message) : Fleet :=
  match f.servers[place]? with
  | none => f
  | some v =>
    let (_, v', queues) := v.deliver Rehearsal.service client m f.traffic.queues
    ((f.give ⟨v.instanceId, client, m⟩).withQueues queues).change place fun _ => v'

/-- An instance that was given a message for another one puts it on the queue there, which it may
have prepared some time ago. -/
def relay (place : Nat) (client : ClientState) (m : Rpc.Message) : Fleet :=
  match f.servers[place]? with
  | none => f
  | some v =>
    let g : Given := ⟨v.instanceId, client, m⟩
    if client.isLocal v.instanceId then f
    else
      { f.give g with
        traffic := f.traffic.post (QueueName.ofInstance client.instanceId) g.envelope.text }

/-- A delivery that waits for room goes on. -/
def settle (place : Nat) (slot : Slot) : Fleet :=
  f.change place fun v => ((v.settle? slot).map Prod.snd).getD v

/-- A delivery that waits is given up. -/
def quit (place : Nat) (slot : Slot) : Fleet := f.change place fun v => v.abandonSlot slot

/-- An instance begins a poll. -/
def begin (place : Nat) (config : BackplaneConfig) : Fleet :=
  match f.servers[place]? with
  | none => f
  | some v => { f with traffic := f.traffic.begin ⟨v.instanceId, config⟩ }

/-- An instance takes what it is handed. -/
def takeAll : List (Queue.Lease × Envelope) → Server → Server
  | [], v => v
  | (_, e) :: rest, v => takeAll rest (Server.takeRelayed e v).2

/-- The instance that polls takes what the next task hands over. -/
def feed (b : Backplane) (tasks : List Task) (v : Server) : Server :=
  if v.instanceId = b.instanceId then takeAll (offered tasks) v else v

/-- A poll goes on. What is handed over goes to the instance that polls, or it is refused. -/
def go (poll : Nat) (outcome : Except Fault Unit) : Fleet :=
  { f with
    traffic := f.traffic.go poll outcome
    servers :=
      match outcome, f.traffic.polls[poll]? with
      | .ok _, some (b, tasks) => f.servers.map (feed b tasks)
      | _, _ => f.servers }

/-- An instance makes a step of its own. -/
def step (place : Nat) (st : Server.Step Rehearsal) : Fleet :=
  f.change place fun v => v.step Rehearsal.service st

end

/-- What comes about. Everything that is delivered came in a body. -/
inductive Run (start : Fleet) : Fleet → Prop
  | refl : Run start start
  | disturb {f : Fleet} {queues : Rehearsal} (h : Disturbs f.traffic.queues queues)
    (hrun : Run start f) : Run start (f.withQueues queues)
  | deliver {f : Fleet} (place : Nat) (client : ClientState) {body : String}
    {ms : List Rpc.Message} {m : Rpc.Message} (hbody : Rpc.Message.ofBody body = .ok ms)
    (hm : m ∈ ms) (hrun : Run start f) : Run start (f.deliver place client m)
  | relay {f : Fleet} (place : Nat) (client : ClientState) {body : String}
    {ms : List Rpc.Message} {m : Rpc.Message} (hbody : Rpc.Message.ofBody body = .ok ms)
    (hm : m ∈ ms) (hrun : Run start f) : Run start (f.relay place client m)
  | settle {f : Fleet} (place : Nat) (slot : Slot) (hrun : Run start f) :
    Run start (f.settle place slot)
  | quit {f : Fleet} (place : Nat) (slot : Slot) (hrun : Run start f) :
    Run start (f.quit place slot)
  | begin {f : Fleet} (place : Nat) (config : BackplaneConfig) (hrun : Run start f) :
    Run start (f.begin place config)
  | go {f : Fleet} (poll : Nat) (outcome : Except Fault Unit) (hrun : Run start f) :
    Run start (f.go poll outcome)
  | step {f : Fleet} (place : Nat) {st : Server.Step Rehearsal} (hown : st.isOwn = true)
    (hrun : Run start f) : Run start (f.step place st)

/-- A message may have come to a client of an instance. -/
def Came (given : List Given) (instanceId clientId : String) (m : Rpc.Message) : Prop :=
  ∃ g ∈ given, g.client = ⟨clientId, instanceId⟩ ∧ g.arrival = some m

/-- The texts on the queues are those of messages that were given to somebody else than their owner,
and the sessions have nothing in hand but what was given for them. -/
structure Sound (f : Fleet) : Prop where
  distinct : (f.servers.map Server.instanceId).Nodup
  posted : ∀ g ∈ f.given, g.Posted
  texts : ∃ texts, Traffic.Kept texts f.traffic.store f.traffic.polls ∧ ∀ text ∈ texts,
    ∃ g ∈ f.given, g.giver ≠ g.client.instanceId ∧ text = g.envelope.text
  servers : ∀ v ∈ f.servers, v.Only v.instanceId (Came f.given v.instanceId)

namespace Sound

variable {f : Fleet} {v v' : Server} {place : Nat}

theorem of_mem (h : f.Sound) (hv : f.servers[place]? = some v) :
    v.Only v.instanceId (Came f.given v.instanceId) :=
  h.servers v (List.mem_of_getElem? hv)

/-- Instances may change as long as they get nothing in hand that was not given for them. -/
theorem servers_like (h : f.Sound) {servers : List Server} {g : Nat → Server → Server}
    (hservers : ∀ place, servers[place]? = (f.servers[place]?).map (g place))
    (hg : ∀ place v, f.servers[place]? = some v →
      (g place v).Only v.instanceId (Came f.given v.instanceId)) :
    Sound { f with servers } := by
  have hids : servers.map Server.instanceId = f.servers.map Server.instanceId := by
    refine List.ext_getElem? fun place => ?_
    rw [List.getElem?_map, List.getElem?_map, hservers]
    cases hv : f.servers[place]? with
    | none => rfl
    | some v => exact congrArg some (hg place v hv).table.owner
  refine ⟨hids.symm ▸ h.distinct, h.posted, h.texts, fun w hw => ?_⟩
  obtain ⟨place, hplace⟩ := List.mem_iff_getElem?.1 hw
  obtain ⟨v, hv, rfl⟩ := Option.map_eq_some_iff.1 ((hservers place).symm.trans hplace)
  have honly := hg place v hv
  have hid : (g place v).instanceId = v.instanceId := honly.table.owner
  rw [hid]
  exact honly

theorem change (h : f.Sound) {place : Nat} {g : Server → Server}
    (hg : ∀ v, f.servers[place]? = some v →
      (g v).Only v.instanceId (Came f.given v.instanceId)) : (f.change place g).Sound := by
  refine h.servers_like (g := fun other v => if place = other then g v else v)
    (fun other => List.getElem?_modify g place f.servers other) fun other v hv => ?_
  split_ifs with hplace
  · exact hg v (hplace ▸ hv)
  · exact h.of_mem hv

/-- A message is given to somebody, who has not done anything about it yet. -/
theorem give (h : f.Sound) {g : Given} (hposted : g.Posted) : (f.give g).Sound := by
  obtain ⟨texts, k, hgiven⟩ := h.texts
  refine ⟨h.distinct, List.forall_mem_append.2 ⟨h.posted, List.forall_mem_singleton.2 hposted⟩,
    ⟨texts, k, fun text htext => ?_⟩, fun w hw => (h.servers w hw).mono fun c m hcame => ?_⟩
  · obtain ⟨g', hg', hrest⟩ := hgiven text htext
    exact ⟨g', List.mem_append_left _ hg', hrest⟩
  · obtain ⟨g', hg', hrest⟩ := hcame
    exact ⟨g', List.mem_append_left _ hg', hrest⟩

/-- Calls to the queue service that put nothing on a queue. -/
theorem disturb (h : f.Sound) {queues : Rehearsal}
    (hdisturbs : Disturbs f.traffic.queues queues) : (f.withQueues queues).Sound := by
  obtain ⟨texts, k, hgiven⟩ := h.texts
  have hkept : Traffic.Kept texts queues.store f.traffic.polls := by
    cases hdisturbs with
    | plan => exact k
    | elapse ms => exact k.call (Store.precedes_advance _ ms) rfl fun _ e he => ⟨e, he, rfl⟩
    | create queue =>
      rcases Queue.Rehearsal.store_create queue f.traffic.queues with hstore | hstore <;>
        rw [hstore]
      · exact k
      · exact k.create queue
    | drop queue =>
      rcases Queue.Rehearsal.store_drop queue f.traffic.queues with hstore | hstore <;>
        rw [hstore]
      · exact k
      · exact k.drop queue
  exact { h with texts := ⟨texts, hkept, hgiven⟩ }

/-- A message is given to somebody who puts at most its text on a queue. -/
theorem forward (h : f.Sound) {g : Given} (hposted : g.Posted)
    (hother : g.giver ≠ g.client.instanceId) {w : Traffic}
    (hkept : ∀ texts, Traffic.Kept texts f.traffic.store f.traffic.polls →
      ∃ texts', texts' ⊆ texts ++ [g.envelope.text] ∧ Traffic.Kept texts' w.store w.polls) :
    Sound { f.give g with traffic := w } := by
  obtain ⟨texts, k, hgiven⟩ := (h.give hposted).texts
  obtain ⟨texts', hsubset, k'⟩ := hkept texts k
  refine { h.give hposted with texts := ⟨texts', k', fun text htext => ?_⟩ }
  rcases List.mem_append.1 (hsubset htext) with htext | htext
  · exact hgiven text htext
  · exact ⟨g, List.mem_append_right _ List.mem_cons_self, hother, List.mem_singleton.1 htext⟩

/-- A delivery puts the message in the hand of its client here, or its text on a queue. -/
theorem deliver (h : f.Sound) (place : Nat) {client : ClientState} {m : Rpc.Message}
    (hposted : ∀ giver, (Given.mk giver client m).Posted) : (f.deliver place client m).Sound := by
  unfold Fleet.deliver
  cases hv : f.servers[place]? with
  | none => exact h
  | some v =>
    have hgiven := h.give (hposted v.instanceId)
    have howned : client.instanceId = v.instanceId →
        Came (f.give ⟨v.instanceId, client, m⟩).given v.instanceId client.clientId m :=
      fun howner => ⟨_, List.mem_append_right _ List.mem_cons_self, by rw [← howner],
        if_pos howner.symm⟩
    have honly := (hgiven.of_mem hv).deliver Rehearsal.service howned f.traffic.queues
    have hsent : ((f.give ⟨v.instanceId, client, m⟩).withQueues
        (v.deliver Rehearsal.service client m f.traffic.queues).2.2).Sound := by
      rcases v.queues_deliver Rehearsal.service client m f.traffic.queues with
        hqueues | ⟨hother, hqueues⟩ <;> rw [hqueues]
      · exact hgiven
      · exact h.forward (hposted v.instanceId) (Ne.symm hother) fun _ k =>
          k.sent ⟨client.instanceId, client.clientId, m⟩
    refine hsent.change fun w hw => ?_
    obtain rfl : v = w := Option.some.inj (hv.symm.trans hw)
    exact honly

theorem relay (h : f.Sound) (place : Nat) {client : ClientState} {m : Rpc.Message}
    (hposted : ∀ giver, (Given.mk giver client m).Posted) : (f.relay place client m).Sound := by
  unfold Fleet.relay
  cases f.servers[place]? with
  | none => exact h
  | some v =>
    simp only
    split_ifs with hlocal
    · exact h
    · have hother : v.instanceId ≠ client.instanceId := fun hsame =>
        hlocal (decide_eq_true hsame.symm)
      exact h.forward (hposted v.instanceId) hother fun _ k => k.post _ _

theorem settle (h : f.Sound) (place : Nat) (slot : Slot) : (f.settle place slot).Sound :=
  h.change fun v hv => by
    cases hsettle : v.settle? slot with
    | none => exact h.of_mem hv
    | some p => exact (h.of_mem hv).settle? hsettle

theorem quit (h : f.Sound) (place : Nat) (slot : Slot) : (f.quit place slot).Sound :=
  h.change fun _ hv => (h.of_mem hv).abandonSlot slot

theorem begin (h : f.Sound) (place : Nat) (config : BackplaneConfig) :
    (f.begin place config).Sound := by
  unfold Fleet.begin
  split
  · exact h
  · obtain ⟨texts, k, hgiven⟩ := h.texts
    exact { h with texts := ⟨texts, k.begin _, hgiven⟩ }

/-- What a poll hands over was given to somebody for this instance. -/
theorem came_of_offered (h : f.Sound) {poll : Nat} {b : Backplane} {tasks : List Task}
    (hpoll : f.traffic.polls[poll]? = some (b, tasks)) :
    ∀ o ∈ offered tasks, Came f.given b.instanceId o.2.clientId o.2.message := by
  intro o ho
  obtain ⟨l, e, rest, rfl, rfl⟩ : ∃ l e rest, tasks = .handOver l e :: rest ∧ o = (l, e) := by
    unfold offered at ho
    split at ho
    · exact ⟨_, _, _, rfl, List.mem_singleton.1 ho⟩
    · cases ho
  obtain ⟨texts, k, hgiven⟩ := h.texts
  have hmem := List.mem_of_getElem? hpoll
  obtain ⟨hread, htarget⟩ := k.fits _ hmem _ List.mem_cons_self
  have htext := List.mem_of_getElem? (k.leased _ hmem _ List.mem_cons_self)
  obtain ⟨g, hg, hrelayed, hbody⟩ := hgiven _ htext
  have hbody : l.body = g.envelope.text := hbody
  rw [hbody] at hread
  obtain ⟨hclient, harrival⟩ := g.of_read hrelayed hread
  rw [htarget] at hclient
  exact ⟨g, hg, hclient, harrival⟩

theorem only_takeAll {id : String} {P : String → Rpc.Message → Prop} :
    ∀ {handed : List (Queue.Lease × Envelope)} {v : Server}, v.Only id P →
      (∀ o ∈ handed, P o.2.clientId o.2.message) → (takeAll handed v).Only id P
  | [], _, honly, _ => honly
  | (_, e) :: rest, v, honly, hall => by
    obtain ⟨hfirst, hrest⟩ := List.forall_mem_cons.1 hall
    have htaken := only_takeAll (honly.takeRelayed hfirst) hrest
    exact htaken

theorem go (h : f.Sound) (poll : Nat) (outcome : Except Fault Unit) :
    (f.go poll outcome).Sound := by
  obtain ⟨texts, k, hgiven⟩ := h.texts
  obtain ⟨texts', hsubset, k'⟩ := k.go poll outcome
  have hgone : Sound { f with traffic := f.traffic.go poll outcome } :=
    { h with texts := ⟨texts', k', fun text htext => hgiven text (hsubset htext)⟩ }
  unfold Fleet.go
  split
  · rename_i b tasks hpoll
    refine hgone.servers_like (g := fun _ => feed b tasks) (fun _ => List.getElem?_map)
      fun place v hv => ?_
    unfold feed
    split_ifs with hid
    · have hcame := h.came_of_offered hpoll
      rw [← hid] at hcame
      exact only_takeAll (h.of_mem hv) hcame
    · exact h.of_mem hv
  · exact hgone

theorem step (h : f.Sound) (place : Nat) {st : Server.Step Rehearsal} (hown : st.isOwn = true) :
    (f.step place st).Sound :=
  h.change fun _ hv => (h.of_mem hv).step Rehearsal.service hown

end Sound

/-- Nothing has been given yet, and nobody has anything in hand. -/
structure Fresh (f : Fleet) : Prop where
  traffic : f.traffic = {}
  given : f.given = []
  distinct : (f.servers.map Server.instanceId).Nodup
  idle : ∀ v ∈ f.servers, v.Only v.instanceId fun _ _ => False

theorem Fresh.sound {f : Fleet} (h : f.Fresh) : f.Sound where
  distinct := h.distinct
  posted := by simp [h.given]
  texts := by
    rw [h.traffic]
    exact ⟨[], .start, by simp⟩
  servers := fun v hv => (h.idle v hv).mono fun _ _ => False.elim

theorem Run.sound {start f : Fleet} (hrun : Run start f) (hstart : start.Sound) : f.Sound := by
  induction hrun with
  | refl => exact hstart
  | disturb hdisturbs _ ih => exact ih.disturb hdisturbs
  | deliver place client hbody hm _ ih => exact ih.deliver place fun _ => ⟨_, _, hbody, hm⟩
  | relay place client hbody hm _ ih => exact ih.relay place fun _ => ⟨_, _, hbody, hm⟩
  | settle place slot _ ih => exact ih.settle place slot
  | quit place slot _ ih => exact ih.quit place slot
  | begin place config _ ih => exact ih.begin place config
  | go poll outcome _ ih => exact ih.go poll outcome
  | step place hown _ ih => exact ih.step place hown

theorem given_step (f : Fleet) (place : Nat) (st : Server.Step Rehearsal) :
    (f.step place st).given = f.given := rfl

theorem given_go (f : Fleet) (poll : Nat) (outcome : Except Fault Unit) :
    (f.go poll outcome).given = f.given := rfl

theorem given_deliver {f : Fleet} {place : Nat} {v : Server} (hv : f.servers[place]? = some v)
    (client : ClientState) (m : Rpc.Message) :
    (f.deliver place client m).given = f.given ++ [⟨v.instanceId, client, m⟩] := by
  simp only [Fleet.deliver, hv]
  rfl

theorem given_begin (f : Fleet) (place : Nat) (config : BackplaneConfig) :
    (f.begin place config).given = f.given := by
  unfold Fleet.begin
  split <;> rfl

/-- No two places have an instance of the same name. -/
theorem place_eq {servers : List Server} (hdistinct : (servers.map Server.instanceId).Nodup)
    {place other : Nat} {v w : Server} (hv : servers[place]? = some v)
    (hw : servers[other]? = some w) (hid : w.instanceId = v.instanceId) : other = place := by
  have hids : (servers.map Server.instanceId)[other]? =
      (servers.map Server.instanceId)[place]? := by
    rw [List.getElem?_map, List.getElem?_map, hv, hw, Option.map_some, Option.map_some, hid]
  refine (List.getElem?_inj ?_ hdistinct).1 hids
  rw [List.length_map]
  exact (List.getElem?_eq_some_iff.1 hw).1

/-! ## Whole polls -/

theorem instanceId_takeAll : ∀ (handed : List (Queue.Lease × Envelope)) (v : Server),
    (takeAll handed v).instanceId = v.instanceId
  | [], _ => rfl
  | (_, e) :: rest, v => instanceId_takeAll rest (Server.takeRelayed e v).2

/-- A step of a poll whose deliveries are taken. -/
theorem step_takeRelayed (b : Backplane) (tasks : List Task) (queues : Rehearsal) (v : Server) :
    b.step Rehearsal.service Server.takeRelayed tasks queues v =
      ((b.go Rehearsal.service (.ok ()) queues tasks).1,
        (b.go Rehearsal.service (.ok ()) queues tasks).2, takeAll (offered tasks) v) := by
  rcases tasks with _ | ⟨task, rest⟩
  · rfl
  cases task with
  | read entry => rfl
  | handOver entry e => rfl
  | prepare entry queue =>
    rw [Backplane.go_prepare]
    rcases hcreate : Rehearsal.service.create queue queues with ⟨e | u, queues'⟩ <;>
      simp [Backplane.step, Backplane.perform, hcreate, offered, takeAll]
  | move entry queue =>
    rw [Backplane.go_move]
    rcases hsend : Rehearsal.service.send queue entry.body queues with ⟨e | u, queues'⟩ <;>
      simp [Backplane.step, Backplane.perform, hsend, offered, takeAll]
  | delete entry => rfl

theorem servers_go {f : Fleet} {place poll : Nat} {v : Server} {b : Backplane}
    {tasks : List Task} (hdistinct : (f.servers.map Server.instanceId).Nodup)
    (hv : f.servers[place]? = some v) (hpoll : f.traffic.polls[poll]? = some (b, tasks))
    (hid : b.instanceId = v.instanceId) :
    (f.go poll (.ok ())).servers = f.servers.set place (takeAll (offered tasks) v) := by
  obtain ⟨hlt, hget⟩ := List.getElem?_eq_some_iff.1 hv
  simp only [Fleet.go, hpoll]
  refine List.ext_getElem? fun other => ?_
  rw [List.getElem?_map, List.getElem?_set]
  split_ifs with hplace
  · rw [← hplace, hv, Option.map_some, feed, if_pos hid.symm]
  · cases hw : f.servers[other]? with
    | none => rfl
    | some w =>
      have hother : w.instanceId ≠ b.instanceId := fun hsame =>
        hplace (place_eq hdistinct hw hv (hid.symm.trans hsame.symm))
      rw [Option.map_some, feed, if_neg hother]

/-- A poll that nobody interrupts is among what comes about. -/
theorem Run.wholePoll {start f : Fleet} (hstart : start.Fresh) (hrun : Run start f) {place : Nat}
    {v : Server} (hv : f.servers[place]? = some v) (config : BackplaneConfig) :
    ∃ f', Run start f' ∧ f'.given = f.given ∧
      f'.traffic.queues = (Backplane.poll Rehearsal.service Server.takeRelayed
        ⟨v.instanceId, config⟩ f.traffic.queues v).2.1 ∧
      f'.servers = f.servers.set place (Backplane.poll Rehearsal.service Server.takeRelayed
        ⟨v.instanceId, config⟩ f.traffic.queues v).2.2 := by
  let b : Backplane := ⟨v.instanceId, config⟩
  have hbegin := hrun.begin place config
  simp only [Fleet.begin, Traffic.begin, hv] at hbegin
  obtain ⟨hlt, hget⟩ := List.getElem?_eq_some_iff.1 hv
  have hsame : f.servers = f.servers.set place v := by
    rw [← hget, List.set_getElem_self]
  have hpoll := b.poll_keep Rehearsal.service f.traffic.queues Server.takeRelayed
    (P := fun tasks queues v' => v'.instanceId = v.instanceId ∧
      ∃ (f' : Fleet) (poll : Nat), Run start f' ∧ f'.given = f.given ∧
        f'.traffic.queues = queues ∧ f'.servers = f.servers.set place v' ∧
          (tasks = [] ∨ f'.traffic.polls[poll]? = some (b, tasks)))
    ?_ v (fun entries queues hreceive => ?_) fun e queues hreceive => ?_
  · obtain ⟨-, f', -, hrun', hgiven, hqueues, hservers, -⟩ := hpoll
    exact ⟨f', hrun', hgiven, hqueues, hservers⟩
  · rintro tasks _ v' ⟨hid, f', poll, hrun', hgiven, rfl, hservers, rfl | hplace⟩
    · exact ⟨hid, f', poll, hrun', hgiven, rfl, hservers, .inl rfl⟩
    · have hv' : f'.servers[place]? = some v' := by
        rw [hservers]
        exact List.getElem?_set_self hlt
      have hserved := servers_go (hrun'.sound hstart.sound).distinct hv' hplace hid.symm
      obtain ⟨hqueues, hleft⟩ := Traffic.left_go hplace (.ok ())
      rw [hservers, List.set_set] at hserved
      rw [step_takeRelayed]
      exact ⟨(instanceId_takeAll _ v').trans hid, f'.go poll (.ok ()), poll,
        hrun'.go poll (.ok ()), hgiven, hqueues, hserved, .inr hleft⟩
  · rw [hreceive] at hbegin
    exact ⟨rfl, _, f.traffic.polls.length, hbegin, rfl, rfl, hsame,
      .inr List.getElem?_concat_length⟩
  · rw [hreceive] at hbegin
    exact ⟨rfl, _, 0, hbegin, rfl, rfl, hsame, .inl rfl⟩

/-! ## Only the owner -/

/-- Whatever a session has in hand arrived from a message that was given for its client and its
instance, which is nowhere else. It is this message if the numbers in it read back. -/
theorem given_to_owner {start f : Fleet} (hstart : start.Fresh) (hrun : Run start f) {place : Nat}
    {v : Server} (hv : f.servers[place]? = some v) {s : Session} (hs : s ∈ v.table.opened)
    {m : Rpc.Message} (hm : m ∈ s.inHand) :
    ∃ g ∈ f.given, g.client = ⟨s.clientId, v.instanceId⟩ ∧ g.arrival = some m ∧
      ((∀ x, .real x ∈ g.message.toJson.numbers → (Number.real x).ReadsBack) → m = g.message) ∧
      ∀ other w, f.servers[other]? = some w → w.instanceId = g.client.instanceId →
        other = place := by
  have hsound := hrun.sound hstart.sound
  obtain ⟨g, hg, hclient, harrival⟩ := (hsound.of_mem hv).table.inHand s hs m hm
  refine ⟨g, hg, hclient, harrival, Given.arrival_eq (hsound.posted g hg) harrival,
    fun other w hw hother => ?_⟩
  rw [hclient] at hother
  exact place_eq hsound.distinct hv hw hother

/-- An instance that can relay, and another one. -/
def pair : Fleet where
  servers :=
    [{ table := { instanceId := "a" }, linked := true }, { table := { instanceId := "b" } }]

/-- A client of the second instance opens a stream. -/
def opened : Fleet := pair.step 1 (.receive 0 ⟨"c", []⟩ { method := "GET", target := "/sse" })

/-- The first instance is given a message for this client, and the second begins a poll. -/
def begun (m : Rpc.Message) : Fleet := (opened.deliver 0 ⟨"c", "b"⟩ m).begin 1 {}

def taken (m : Rpc.Message) : Fleet := ((begun m).go 0 (.ok ())).go 0 (.ok ())

def carried (m : Rpc.Message) : Fleet := (taken m).step 1 (.act [] 0 .handOver)

theorem fresh_pair : pair.Fresh := by
  refine ⟨rfl, rfl, by decide, ?_⟩
  have hidle : ∀ v : Server, v.table.opened = [] → v.table.live = [] → v.relayed = [] →
      v.Only v.instanceId fun _ _ => False := fun v hopened hlive hrelayed =>
    ⟨⟨rfl, by simp [hlive], by simp [hopened]⟩, by simp [hrelayed]⟩
  simp only [pair, List.forall_mem_cons]
  exact ⟨hidle _ rfl rfl rfl, hidle _ rfl rfl rfl, nofun⟩

theorem run_carried {body : String} {ms : List Rpc.Message} {m : Rpc.Message}
    (hbody : Rpc.Message.ofBody body = .ok ms) (hm : m ∈ ms) : Run pair (carried m) := by
  have hopened : Run pair opened := .step 1 rfl .refl
  have hbegun : Run pair (begun m) := .begin 1 {} (.deliver 0 ⟨"c", "b"⟩ hbody hm hopened)
  exact .step 1 rfl (.go 0 _ (.go 0 _ hbegun))

theorem given_carried (m : Rpc.Message) : (carried m).given = [⟨"a", ⟨"c", "b"⟩, m⟩] := by
  have hfirst : (opened.servers[0]?).map Server.instanceId = some "a" := by decide +kernel
  obtain ⟨v, hv, hid⟩ := Option.map_eq_some_iff.1 hfirst
  rw [carried, given_step, taken, given_go, given_go, begun, given_begin, given_deliver hv, hid,
    opened, given_step]
  rfl

/-- The wire forms of what the sessions of an instance have in hand. -/
def wires (v : Server) : List String :=
  v.table.opened.flatMap fun s => s.inHand.map Rpc.Message.wire

theorem exists_of_mem_wires {v : Server} {wire : String} (h : wire ∈ wires v) :
    ∃ s ∈ v.table.opened, ∃ m ∈ s.inHand, m.wire = wire := by
  obtain ⟨s, hs, hwire⟩ := List.mem_flatMap.1 h
  obtain ⟨m, hm, rfl⟩ := List.mem_map.1 hwire
  exact ⟨s, hs, m, hm, rfl⟩

def ping : Rpc.Message := .notification { method := "ping" }

theorem given_to_owner_ping : ∃ v s m, (carried ping).servers[1]? = some v ∧
    s ∈ v.table.opened ∧ m ∈ s.inHand ∧ m.wire = ping.wire ∧
      ∃ g ∈ (carried ping).given, g.client = ⟨s.clientId, v.instanceId⟩ ∧ g.arrival = some m := by
  have hregular : ping.Regular := nofun
  have hnone : ∀ x, .real x ∈ ping.toJson.numbers → (Number.real x).ReadsBack := by
    simp [ping, Rpc.Message.toJson, Rpc.Notification.toJson, Rpc.optionalMember, Json.numbers,
      Json.numbersOfMembers, Json.numbersOfMember]
  have hbody := Rpc.Message.ofBody_wire hregular hnone (by decide)
  have hrun : Run pair (carried ping) := run_carried hbody List.mem_cons_self
  have hwires : ((carried ping).servers[1]?).map wires = some [ping.wire] := by decide +kernel
  obtain ⟨v, hv, hwire⟩ := Option.map_eq_some_iff.1 hwires
  obtain ⟨s, hs, m, hm, hwire⟩ := exists_of_mem_wires (hwire ▸ List.mem_cons_self)
  obtain ⟨g, hg, hclient, harrival, -⟩ := given_to_owner fresh_pair hrun hv hs hm
  exact ⟨v, s, m, hv, hs, hm, hwire, g, hg, hclient, harrival⟩

/-- The text of a notification with one number. -/
def noteText (number : String) : String :=
  "\x7b\"jsonrpc\":\"2.0\",\"method\":\"note\",\"params\":[" ++ number ++ "]\x7d"

/-- Its number is read as another one once it has been written. -/
def drift : Rpc.Message :=
  ((Rpc.Message.ofBody (noteText "10e-24")).toOption.bind List.head?).getD ping

/-- The client has a message in hand that nobody was given. -/
theorem relayed_number_drifts : pair.Fresh ∧ Run pair (carried drift) ∧
    ∃ v s m, (carried drift).servers[1]? = some v ∧ s ∈ v.table.opened ∧ m ∈ s.inHand ∧
      ∀ g ∈ (carried drift).given, g.message ≠ m := by
  have hread : ((Rpc.Message.ofBody (noteText "10e-24")).toOption.bind List.head?).isSome =
      true := by decide +kernel
  have hwires : ((carried drift).servers[1]?).map wires =
      some [noteText "1.0000000000000001e-23"] := by decide +kernel
  have hwire : drift.wire = noteText "1e-23" := by decide +kernel
  obtain ⟨ms, hbody, hm⟩ : ∃ ms, Rpc.Message.ofBody (noteText "10e-24") = .ok ms ∧
      drift ∈ ms := by
    unfold drift
    generalize Rpc.Message.ofBody (noteText "10e-24") = read at hread ⊢
    rcases read with e | _ | ⟨m, rest⟩
    · cases hread
    · cases hread
    · exact ⟨_, rfl, List.mem_cons_self⟩
  refine ⟨fresh_pair, run_carried hbody hm, ?_⟩
  obtain ⟨v, hv, hall⟩ := Option.map_eq_some_iff.1 hwires
  obtain ⟨s, hs, m, hm, hother⟩ := exists_of_mem_wires (hall ▸ List.mem_cons_self)
  refine ⟨v, s, m, hv, hs, hm, fun g hg hsame => ?_⟩
  rw [given_carried] at hg
  have hdrift : g.message = drift := by
    rw [List.mem_singleton.1 hg]
  rw [← hsame, hdrift, hwire] at hother
  exact absurd hother (by decide +kernel)

end Fleet

end SessionRelay
