import SessionRelay.Mcp.Definition

/-!
# The handshake of a session

A session gets its handshake with the first request for one that succeeds, and the client then
confirms it. Phases only go forward.
-/

namespace SessionRelay

/-- How far a handshake is. -/
inductive Phase
  | uninitialized
  | initializing
  | initialized
  deriving DecidableEq

def Phase.rank : Phase → Nat
  | .uninitialized => 0
  | .initializing => 1
  | .initialized => 2

def Phase.name : Phase → String
  | .uninitialized => "Uninitialized"
  | .initializing => "Initializing"
  | .initialized => "Initialized"

/-- What was agreed on, and how far the handshake is. -/
structure Handshake where
  phase : Phase := .uninitialized
  protocolVersion : String
  client : Option Mcp.Implementation
  deriving DecidableEq

namespace Handshake

/-- Moves from one phase to another; in any other phase nothing happens. Tells whether it moved. -/
def move (h : Handshake) (source target : Phase) : Handshake × Bool :=
  if h.phase = source then ({ h with phase := target }, true) else (h, false)

/-- The server has answered. -/
def answered (h : Handshake) : Handshake × Bool := h.move .uninitialized .initializing

/-- The client has confirmed. -/
def confirmed (h : Handshake) : Handshake × Bool := h.move .initializing .initialized

def isComplete (h : Handshake) : Bool := h.phase = .initialized

/-- The handshake after a success: the first one stays. -/
def establish (current : Option Handshake) (protocolVersion : String)
    (client : Option Mcp.Implementation) : Handshake :=
  (current.getD { protocolVersion, client }).answered.1

end Handshake

end SessionRelay
