import WebSocketClient.CloseRecord
import WebSocketClient.Duration
import WebSocketClient.ReadyState

/-!
# Failures

Everything that can go wrong has its own constructor with the data that belongs to it.  `message`
is the one place that knows the wording for a reader, and `describe` shows the constructor with its
data.  Two failures are equal when they have the same constructor and the same data, close codes
being compared by number.
-/

namespace WebSocketClient

set_option autoImplicit false

/-- Why a call was refused or a connection failed. -/
inductive Failure where
  | invalidUrl (text : String)
  | notOpen (state : ReadyState)
  | invalidCloseCode (number : Int32)
  | closeReasonTooLong (length limit : Nat)
  | connectionClosed
  | noRuntime
  | handshakeTimeout (limit : Duration)
  | transport (text : String)
  | abnormalClose (code : CloseCode) (reason : String)
  | inputOutput (text : String)
deriving DecidableEq, Repr, BEq

namespace Failure

/-- Whether the connection was closed, rather than that something failed. -/
def isClose : Failure → Bool
  | abnormalClose .. => true
  | _ => false

/-- The wording for a reader. -/
def message : Failure → String
  | invalidUrl text => "Invalid URL: " ++ text
  | notOpen state => "Connection is not open (state: " ++ state.text ++ ")"
  | invalidCloseCode number => "Invalid close code: " ++ toString number.toInt
  | closeReasonTooLong length limit =>
    "Close reason too long: " ++ toString length ++ " bytes (max: " ++ toString limit ++ ")"
  | connectionClosed => "Connection closed"
  | noRuntime => "No tokio runtime available"
  | handshakeTimeout limit => "Handshake timed out after " ++ limit.text
  | transport text => "Transport error: " ++ text
  | abnormalClose code reason => "Abnormal close: " ++ code.text ++ " " ++ Text.quoted reason
  | inputOutput text => "I/O error: " ++ text

/-- The constructor with its data. -/
def describe : Failure → String
  | invalidUrl text => Text.wrapped "InvalidUrl" (Text.quoted text)
  | notOpen state => Text.wrapped "NotOpen" state.text
  | invalidCloseCode number => Text.wrapped "InvalidCloseCode" (toString number.toInt)
  | closeReasonTooLong length limit =>
    Text.record "CloseReasonTooLong"
      [Text.field "len" (toString length), Text.field "max" (toString limit)]
  | connectionClosed => "ConnectionClosed"
  | noRuntime => "NoRuntime"
  | handshakeTimeout limit => Text.wrapped "HandshakeTimeout" limit.text
  | transport text => Text.wrapped "Transport" (Text.quoted text)
  | abnormalClose code reason =>
    Text.record "AbnormalClose"
      [Text.field "code" code.describe, Text.field "reason" (Text.quoted reason)]
  | inputOutput text => Text.wrapped "Io" (Text.quoted text)

end Failure

end WebSocketClient
