import SessionRelay.Number.Decimal

/-!
# Leased queues

A receiver gets entries on lease: they stay on the queue, hidden until the lease runs out, and leave
it only when they are deleted with the receipt of their latest lease. Entries and leases are
numbered, and the clock never goes back.

Two numbers come to an end. The leases of an entry are counted in 32 bits, so the count starts over
after them, or the call panics if the program was built with checks for that. And the clock can tell
no time from `clockLimit` on: a call panics that would lease an entry for longer.
-/

namespace SessionRelay.Queue

/-- How many leases it takes for their count to start over. -/
def countLimit : Nat := Nat.pow 2 32

/-- The first millisecond that the clock cannot tell; it counts seconds in 63 bits. -/
def clockLimit : Nat := Nat.pow 2 63 * 1000

structure Entry where
  id : Nat
  body : String
  visibleAt : Nat
  /-- The receipt of the latest lease. -/
  receipt : Option Nat
  /-- The count of leases, which is below `countLimit`. -/
  leases : Nat
  deriving DecidableEq

/-- What a receiver gets of an entry. -/
structure Lease where
  id : Nat
  receipt : Nat
  body : String
  /-- How many times the entry has been leased, this time included, unless the count has started
  over. -/
  count : Nat
  deriving DecidableEq

/-- Why a call to a queue store fails. -/
inductive Error
  | noQueue (queue : String)
  | notLeased (id : Nat)
  | failed (reason : String)
  deriving DecidableEq

def Error.message : Error → String
  | .noQueue queue => "queue '" ++ queue ++ "' does not exist"
  | .notLeased id =>
    "entry '" ++ String.ofList (Decimal.digitChars id) ++ "' is not leased with that receipt"
  | .failed reason => reason

structure Store where
  now : Nat := 0
  nextEntry : Nat := 0
  nextReceipt : Nat := 0
  queues : List (String × List Entry) := []

/-- The outcome of a call together with the store after it. -/
abbrev Outcome (α : Type) := Except Error α × Store

namespace Store

def entries? (s : Store) (queue : String) : Option (List Entry) :=
  (s.queues.find? fun (name, _) => name = queue).map Prod.snd

/-- Entries on a queue, hidden or not. -/
def length (s : Store) (queue : String) : Nat :=
  match s.entries? queue with
  | some entries => entries.length
  | none => 0

/-- Replaces the entries of a queue. -/
def setEntries (s : Store) (queue : String) (entries : List Entry) : Store :=
  { s with
    queues := s.queues.map fun (name, old) => if name = queue then (name, entries) else (name, old) }

def advance (s : Store) (ms : Nat) : Store := { s with now := s.now + ms }

/-- Creates a queue unless it exists. -/
def create (s : Store) (queue : String) : Store :=
  match s.entries? queue with
  | some _ => s
  | none => { s with queues := s.queues ++ [(queue, [])] }

def drop (s : Store) (queue : String) : Store :=
  { s with queues := s.queues.filter fun (name, _) => name ≠ queue }

/-- Puts an entry at the end of a queue. -/
def send (s : Store) (queue body : String) : Outcome Unit :=
  match s.entries? queue with
  | none => (.error (.noQueue queue), s)
  | some entries =>
    let entry : Entry :=
      { id := s.nextEntry, body, visibleAt := s.now, receipt := none, leases := 0 }
    (.ok (), { s.setEntries queue (entries ++ [entry]) with nextEntry := s.nextEntry + 1 })

end Store

/-- The entry after a lease. -/
def Entry.lease (e : Entry) (hiddenUntil : Nat) (receipt : Nat) : Entry :=
  { e with
    visibleAt := hiddenUntil
    receipt := some receipt
    leases := (e.leases + 1) % countLimit }

/-- Leases the first entries that are not hidden, at most so many, with receipts from a number on.
Gives the leases and all entries after it. -/
def leaseFirst (now hiddenUntil : Nat) : Nat → Nat → List Entry → List Lease × List Entry
  | _, _, [] => ([], [])
  | 0, _, entries => ([], entries)
  | max + 1, receipt, e :: rest =>
    if now < e.visibleAt then
      let (leases, after) := leaseFirst now hiddenUntil (max + 1) receipt rest
      (leases, e :: after)
    else
      let (leases, after) := leaseFirst now hiddenUntil max (receipt + 1) rest
      let leased := e.lease hiddenUntil receipt
      (⟨e.id, receipt, e.body, leased.leases⟩ :: leases, leased :: after)

namespace Store

/-- Leases up to `max` entries for a time that the clock can tell. -/
def receive (s : Store) (queue : String) (max timeout : Nat) : Outcome (List Lease) :=
  match s.entries? queue with
  | none => (.error (.noQueue queue), s)
  | some entries =>
    let (leases, after) := leaseFirst s.now (s.now + timeout) max s.nextReceipt entries
    (.ok leases,
      { s.setEntries queue after with nextReceipt := s.nextReceipt + leases.length })

/-- The entries that a receiver gets: the first that are not hidden. -/
def due (s : Store) (queue : String) (max : Nat) : List Entry :=
  match s.entries? queue with
  | none => []
  | some entries => (entries.filter fun e => e.visibleAt ≤ s.now).take max

/-- Whether the clock cannot tell when a lease would run out. -/
def outlasts (s : Store) (timeout : Nat) : Bool := clockLimit ≤ s.now + timeout

/-- Whether a count of leases is at its end. A program that checks for that panics. -/
def startsOver (s : Store) (queue : String) (max : Nat) : Bool :=
  (s.due queue max).any fun e => e.leases + 1 = countLimit

/-- A call that leases entries for any time. If it panics, before it has changed anything, nothing
comes of it. -/
def receive? (s : Store) (queue : String) (max timeout : Nat) : Option (Outcome (List Lease)) :=
  if (s.due queue max).isEmpty || !s.outlasts timeout then some (s.receive queue max timeout)
  else none

/-- Takes an entry off its queue, for the receipt of its latest lease. -/
def delete (s : Store) (queue : String) (id receipt : Nat) : Outcome Unit :=
  match s.entries? queue with
  | none => (.error (.noQueue queue), s)
  | some entries =>
    let held (e : Entry) : Bool := e.id == id && e.receipt == some receipt
    if entries.any held then (.ok (), s.setEntries queue (entries.eraseP held))
    else (.error (.notLeased id), s)

end Store

end SessionRelay.Queue
