import WebSocketClient.Notice

/-!
# The lifecycle of a connection

The lifecycle turns the signals of a transport into the notices of a host.  It keeps two things:
the ready state and, once the connection is over, the close record.  `accept` is the whole rule:

* an opening counts only while the connection is connecting;
* a message is passed on only while the connection is open;
* the first close or failure ends the connection: the state goes through closing to closed, the
  record is kept, and the host is told of a failure first if there is one to tell;
* whatever comes after that is dropped.

All changes of state happen before the host is told anything, so whoever looks from inside a
callback sees the state that the notice announces.
-/

namespace WebSocketClient

set_option autoImplicit false

/-- The ready state of a connection and the record of its end. -/
structure Lifecycle where
  state : ReadyState := .connecting
  record : Option CloseRecord := none
deriving Repr

namespace Lifecycle

/-- Moves to another state, if that is a legal move. -/
def advance (lifecycle : Lifecycle) (next : ReadyState) : Lifecycle :=
  if lifecycle.state.canBecome next then { lifecycle with state := next } else lifecycle

/-- Keeps a close record, unless there already is one. -/
def keep (lifecycle : Lifecycle) (record : CloseRecord) : Lifecycle :=
  { lifecycle with record := some (lifecycle.record.getD record) }

/-- Ends the connection: an open one passes through closing. -/
def finish (lifecycle : Lifecycle) (record : CloseRecord) : Lifecycle :=
  (((lifecycle.advance .closing).advance .closed).keep record)

/-- The failure that a close announces, if it is not a clean one. -/
def closeFailure? (record : CloseRecord) : Option Failure :=
  if record.clean then none else some (.abnormalClose record.code record.reason)

/-- What the host is told when the connection is over. -/
def farewell (failure : Option Failure) (record : CloseRecord) : List Notice :=
  (failure.map Notice.failed).toList ++ [.closed record]

/-- The close record of a transport that failed. -/
def failureRecord (state : ReadyState) (failure : Failure) : CloseRecord :=
  .ofFailure (if state = .connecting then .neverConnected else .abnormal) failure.message

/-- Ends the connection and tells the host, with the record that was kept. -/
def conclude (lifecycle : Lifecycle) (record : CloseRecord) (failure : Option Failure) :
    Lifecycle × List Notice :=
  let after := lifecycle.finish record
  (after, farewell failure (after.record.getD record))

/-- The effect of one signal: the lifecycle after it, and the notices for the host in order. -/
def accept (lifecycle : Lifecycle) : Signal → Lifecycle × List Notice
  | .opened =>
    if lifecycle.state.canBecome .opened then (lifecycle.advance .opened, [.opened])
    else (lifecycle, [])
  | .message payload =>
    if lifecycle.state.canSend then (lifecycle, [.message payload]) else (lifecycle, [])
  | .closed code reason remote =>
    if lifecycle.state.isActive then
      let record := CloseRecord.ofReport code reason remote
      lifecycle.conclude record (closeFailure? record)
    else (lifecycle, [])
  | .failed failure =>
    if lifecycle.state.isActive then
      lifecycle.conclude (failureRecord lifecycle.state failure) (some failure)
    else (lifecycle, [])

/-- The effect of several signals, one after another. -/
def acceptAll (lifecycle : Lifecycle) : List Signal → Lifecycle × List Notice
  | [] => (lifecycle, [])
  | signal :: signals =>
    let (next, notices) := lifecycle.accept signal
    let (last, others) := next.acceptAll signals
    (last, notices ++ others)

/-! ## What a connection shows -/

/-- The state shown to a transport that reports signals. -/
def describeSink (lifecycle : Lifecycle) : String :=
  Text.record "EventSink" [Text.field "state" lifecycle.state.text]

/-- The lifecycle field by field. -/
def describe (lifecycle : Lifecycle) : String :=
  Text.openRecord "Bridge"
    [Text.field "state" lifecycle.state.text,
      Text.field "close" (Text.optional (lifecycle.record.map CloseRecord.describe))]

end Lifecycle

end WebSocketClient
