import WebSocketClient.Failure
import WebSocketClient.Url

/-!
# Endpoints

An endpoint is where a connection goes: a URL with the scheme `ws`, or `wss` for a secure
connection, and without a fragment.  It keeps the text it was made from, so that a host reads back
what it wrote.
-/

namespace WebSocketClient

set_option autoImplicit false

/-- A URL that a connection can be made to. -/
structure Endpoint where
  /-- The text as it was given. -/
  text : String
  url : Url
deriving DecidableEq, Repr

namespace Endpoint

/-- The schemes of endpoints. -/
def isScheme (scheme : String) : Bool :=
  scheme == "ws" || scheme == "wss"

/-- The failure of a text that is no endpoint. -/
def refuse (text reason : String) : Failure :=
  .invalidUrl (text ++ ": " ++ reason)

/-- Reads an endpoint. -/
def parse (text : String) : Except Failure Endpoint :=
  match Url.parse text with
  | .error fault => .error (refuse text fault.message)
  | .ok url =>
    if !isScheme url.scheme then
      .error (refuse text ("unsupported scheme " ++ Text.quoted url.scheme))
    else if url.hostText = [] then .error (refuse text "missing host")
    else if url.fragment.isSome then .error (refuse text "fragments are not allowed")
    else .ok ⟨text, url⟩

/-- The connection is to be secure. -/
def isSecure (endpoint : Endpoint) : Bool :=
  endpoint.url.scheme == "wss"

/-- The host in its written form. -/
def host (endpoint : Endpoint) : String :=
  String.ofList endpoint.url.hostText

/-- The port: the written one, or the default of the scheme. -/
def port (endpoint : Endpoint) : Nat :=
  endpoint.url.port.getD (if endpoint.isSecure then 443 else 80)

end Endpoint

end WebSocketClient
