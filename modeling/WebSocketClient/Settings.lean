import WebSocketClient.Duration
import WebSocketClient.Text.Shape

/-!
# Settings

The settings of a connection: how large a frame and a message from the peer may be, how long the
two handshakes may take, and whether small packets are sent without delay.  Without time limits the
connection waits for as long as it takes.
-/

namespace WebSocketClient

set_option autoImplicit false

/-- Limits on what the peer may send, in bytes of payload; a message counts over all its frames. -/
structure Limits where
  frame : Nat := 16 * 1024 * 1024
  message : Nat := 64 * 1024 * 1024
deriving DecidableEq, Repr

namespace Limits

/-- Limits for a host with little memory. -/
def embedded : Limits :=
  ⟨64 * 1024, 256 * 1024⟩

/-- The limits field by field. -/
def describe (limits : Limits) : String :=
  Text.record "Limits"
    [Text.field "max_frame_size" (toString limits.frame),
      Text.field "max_message_size" (toString limits.message)]

end Limits

/-- Limits on how long the handshakes may take. -/
structure Timeouts where
  /-- From the start of the attempt until the connection is open. -/
  handshake : Duration := .ofSeconds 30
  /-- From our close frame until the close frame of the peer. -/
  close : Duration := .ofSeconds 5
deriving DecidableEq, Repr

namespace Timeouts

/-- The time limits field by field. -/
def describe (timeouts : Timeouts) : String :=
  Text.record "Timeouts"
    [Text.field "handshake" timeouts.handshake.text, Text.field "close" timeouts.close.text]

end Timeouts

/-- The settings of a connection. -/
structure Settings where
  limits : Limits := {}
  /-- Without them a connection waits without end. -/
  timeouts : Option Timeouts := none
  /-- Small packets are sent at once instead of being gathered. -/
  disableNagle : Bool := true
deriving DecidableEq, Repr

namespace Settings

/-- Replaces the limits. -/
def withLimits (settings : Settings) (limits : Limits) : Settings :=
  { settings with limits }

/-- Sets the time limits. -/
def withTimeouts (settings : Settings) (timeouts : Timeouts) : Settings :=
  { settings with timeouts := some timeouts }

/-- Removes the time limits. -/
def withoutTimeouts (settings : Settings) : Settings :=
  { settings with timeouts := none }

/-- Chooses whether small packets are gathered. -/
def withNagle (settings : Settings) (enabled : Bool) : Settings :=
  { settings with disableNagle := !enabled }

/-- The time limit of the opening handshake. -/
def handshakeTimeout (settings : Settings) : Option Duration :=
  settings.timeouts.map Timeouts.handshake

/-- The time limit of the closing handshake. -/
def closeTimeout (settings : Settings) : Option Duration :=
  settings.timeouts.map Timeouts.close

/-- The settings field by field. -/
def describe (settings : Settings) : String :=
  Text.record "Config"
    [Text.field "limits" settings.limits.describe,
      Text.field "timeouts" (Text.optional (settings.timeouts.map Timeouts.describe)),
      Text.field "disable_nagle" (Text.truth settings.disableNagle)]

end Settings

end WebSocketClient
