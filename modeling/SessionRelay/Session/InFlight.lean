import SessionRelay.Rpc.Message

/-!
# Requests in flight

A session numbers its requests. A client may use one id for several requests at a time: a
cancellation by id meets all of them, and a request that is over leaves the others alone.
-/

namespace SessionRelay

/-- The requests that run. -/
structure InFlight where
  nextNumber : Nat := 0
  /-- The numbers of the running requests by id. -/
  running : List (Rpc.Id × List Nat) := []
  /-- The requests that were cancelled by id. -/
  cancelled : List Nat := []

namespace InFlight

/-- The running requests with an id. -/
def numbers (t : InFlight) (id : Rpc.Id) : List Nat :=
  match t.running.find? fun (key, _) => key == id with
  | some (_, numbers) => numbers
  | none => []

/-- Sets the requests with an id. An id without requests is not kept. -/
def setNumbers (t : InFlight) (id : Rpc.Id) (numbers : List Nat) : InFlight :=
  if numbers.isEmpty then { t with running := t.running.filter fun (key, _) => key != id }
  else if t.running.any fun (key, _) => key == id then
    { t with
      running := t.running.map fun (key, old) => if key == id then (key, numbers) else (key, old) }
  else { t with running := t.running ++ [(id, numbers)] }

/-- Registers a request. Gives its number. The counter has 64 bits, but no session lives to see 2^64
requests, so it does not run over here. -/
def register (t : InFlight) (id : Rpc.Id) : Nat × InFlight :=
  (t.nextNumber,
    { t.setNumbers id (t.numbers id ++ [t.nextNumber]) with nextNumber := t.nextNumber + 1 })

/-- Takes exactly this request out. -/
def finish (t : InFlight) (id : Rpc.Id) (number : Nat) : InFlight :=
  t.setNumbers id ((t.numbers id).filter (· != number))

/-- Cancels every request with an id. Tells whether there was one. -/
def cancel (t : InFlight) (id : Rpc.Id) : Bool × InFlight :=
  match t.numbers id with
  | [] => (false, t)
  | numbers => (true, { t.setNumbers id [] with cancelled := t.cancelled ++ numbers })

/-- Whether a request was cancelled by its id. -/
def isCancelled (t : InFlight) (number : Nat) : Bool := t.cancelled.contains number

/-- How many requests run. -/
def count (t : InFlight) : Nat := (t.running.flatMap fun (_, numbers) => numbers).length

end InFlight

end SessionRelay
