import SessionRelay.Backplane.Relay
import SessionRelay.Http.Site
import SessionRelay.Session.Table
import SessionRelay.Session.Work

/-!
# Instances

One instance owns the sessions in its table. A message for a session goes to that session's queue if
the instance owns it, and otherwise onto the relay queue of the owner, so that only the owner ever
handles it. Messages that come in over the relay are handed to their sessions one after another.
-/

namespace SessionRelay

/-- A place in line at the queue of a session. -/
structure Slot where
  session : Nat
  ticket : Nat
  deriving DecidableEq

/-- What an HTTP exchange still has to do with its messages. -/
inductive Purpose
  /-- They were posted to a session. -/
  | post (client : ClientState)
  /-- They hold no request, and are for the exchange that a token names. -/
  | route (client : ClientState)
  /-- They make up a new exchange with a session of its own. -/
  | feed (session : Nat)
  deriving DecidableEq

/-- An HTTP exchange that is under way. -/
structure Exchange where
  number : Nat
  purpose : Purpose
  rest : List Rpc.Message
  /-- Set while a message waits for room. -/
  slot : Option Slot := none

/-- What the client of an event stream does with it. -/
inductive Attention
  | reads
  /-- Holds the stream without reading it. -/
  | waits
  /-- Has read it to its end. -/
  | sawEnd
  | left
  deriving DecidableEq

/-- A response body that is an event stream, with what its client has read of it. -/
structure EventBody where
  session : Nat
  /-- When the next sign of life is due, if the stream shows any. -/
  due : Option Nat := none
  attention : Attention := .waits
  received : List String := []

structure Server where
  site : Http.Site := {}
  router : Router := {}
  table : SessionTable
  /-- Whether messages can be relayed to other instances. -/
  linked : Bool := false
  /-- Relayed messages that wait to be handed over. -/
  relayed : List Envelope := []
  /-- Set while a relayed message waits for room. -/
  relaySlot : Option Slot := none
  exchanges : List Exchange := []
  nextExchange : Nat := 0
  bodies : List EventBody := []

/-- What became of a message that was to be delivered. -/
inductive Handed
  | queued
  | waiting (slot : Slot)
  | failed (fault : Fault)

namespace Server

def instanceId (v : Server) : String := v.table.instanceId

/-- What all sessions of an instance are opened under. -/
def shutdown : String := "server"

/-- Changes one session. -/
def modify (v : Server) (place : Nat) (f : Session → Session) : Server :=
  { v with table := v.table.modify place f }

/-- Offers a message to a session. -/
def offer (v : Server) (place : Nat) (message : Rpc.Message) : Offer × Server :=
  match v.table.session? place with
  | none => (.refused, v)
  | some s =>
    let (outcome, s) := s.offer message
    (outcome, v.modify place fun _ => s)

/-- Delivers a message to a live session of this instance. -/
def deliverLocal (v : Server) (clientId : String) (message : Rpc.Message) : Handed × Server :=
  match v.table.find? clientId with
  | none => (.failed (.sessionNotFound clientId), v)
  | some place =>
    match v.offer place message with
    | (.accepted, v) => (.queued, v)
    | (.waiting ticket, v) => (.waiting ⟨place, ticket⟩, v)
    | (.refused, v) => (.failed (.sessionNotFound clientId), v)

/-- What a delivery that waited comes to: nothing yet, a place in the queue, or a session that is
gone. It looks at the end of the session first. -/
def settle? (v : Server) (slot : Slot) : Option (Bool × Server) :=
  match v.table.session? slot.session with
  | none => some (false, v)
  | some s =>
    match s.transport.inbound.standing slot.ticket with
    | .waiting => none
    | .admitted => some (true, v.modify slot.session (Session.mapInbound fun q => q.enter slot.ticket))
    | .dismissed => some (false, v)

/-- Gives up a place in line. -/
def abandonSlot (v : Server) (slot : Slot) : Server :=
  v.modify slot.session (Session.mapInbound fun q => q.leave slot.ticket)

/-- Delivers a message to the session that a token names, wherever it is. -/
def deliver {σ : Type} (service : Queue.Service σ) (v : Server) (client : ClientState)
    (message : Rpc.Message) (queues : σ) : Handed × Server × σ :=
  if client.isLocal v.instanceId then
    let (handed, v) := v.deliverLocal client.clientId message
    (handed, v, queues)
  else if v.linked then
    match Backplane.send service ⟨client.instanceId, client.clientId, message⟩ queues with
    | (.ok (), queues) => (.queued, v, queues)
    | (.error e, queues) => (.failed (toFault e), v, queues)
  else (.failed (.sessionNotFound client.clientId), v, queues)

/-- Takes a relayed message. -/
def takeRelayed : Backplane.Delivery Server := fun envelope v =>
  (.ok (), { v with relayed := v.relayed ++ [envelope] })

/-- Hands the next relayed message to its session. One whose session is gone is dropped. -/
def handOver (v : Server) : Server :=
  match v.relaySlot with
  | some slot =>
    match v.settle? slot with
    | some (_, v) => { v with relaySlot := none }
    | none => v
  | none =>
    match v.relayed with
    | [] => v
    | envelope :: rest =>
      match { v with relayed := rest }.deliverLocal envelope.clientId envelope.message with
      | (.waiting slot, v) => { v with relaySlot := some slot }
      | (_, v) => v

end Server

end SessionRelay
