/-!
# What a handler does

A handler's work is a chain of waits that ends with a value or a crash. It can wait for its request
to be cancelled and for a named signal from outside.
-/

namespace SessionRelay

/-- What a handler can wait for. -/
inductive Event
  | cancellation
  | signal (name : String)
  deriving DecidableEq

/-- The rest of a handler's work. A crash may come with a message. -/
inductive Activity (α : Type)
  | done (value : α)
  | crash (message : Option String)
  | await (event : Event) (next : Activity α)

namespace Activity

variable {α β : Type}

def map (f : α → β) : Activity α → Activity β
  | .done a => .done (f a)
  | .crash message => .crash message
  | .await event next => .await event (next.map f)

/-- Goes on past every wait whose event has happened. -/
def proceed (happened : Event → Bool) : Activity α → Activity α
  | .done a => .done a
  | .crash message => .crash message
  | .await event next => if happened event then next.proceed happened else .await event next

/-- Whether there is nothing left to wait for. -/
def isOver : Activity α → Bool
  | .await _ _ => false
  | _ => true

end Activity

end SessionRelay
