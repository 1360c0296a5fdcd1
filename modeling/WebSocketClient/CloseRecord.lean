import WebSocketClient.CloseCode
import WebSocketClient.Text.Quoted
import WebSocketClient.Text.Shape

/-!
# Close records

A close record says how a connection ended: the code and the reason, whether the peer began it,
and whether it counts as clean.  For a close that the transport reports, the code decides whether
it is clean (`ofReport`); a record made up for a failure is never clean, whatever its code
(`ofFailure`).
-/

namespace WebSocketClient

set_option autoImplicit false

/-- How a connection ended. -/
structure CloseRecord where
  code : CloseCode
  reason : String
  remote : Bool
  clean : Bool
deriving Repr, BEq

namespace CloseRecord

/-- The record of a close that the transport reports. -/
def ofReport (code : CloseCode) (reason : String) (remote : Bool) : CloseRecord :=
  ⟨code, reason, remote, code.isClean⟩

/-- The record of a failure. -/
def ofFailure (code : CloseCode) (reason : String) : CloseRecord :=
  ⟨code, reason, false, false⟩

/-- The record field by field. -/
def describe (record : CloseRecord) : String :=
  Text.record "CloseEvent"
    [Text.field "code" record.code.describe,
      Text.field "reason" (Text.quoted record.reason),
      Text.field "remote" (Text.truth record.remote),
      Text.field "clean" (Text.truth record.clean)]

end CloseRecord

end WebSocketClient
