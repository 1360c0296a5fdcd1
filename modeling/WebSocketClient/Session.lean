import WebSocketClient.Http.Opening
import WebSocketClient.Link
import WebSocketClient.Session.Script
import WebSocketClient.TransportFault
import WebSocketClient.Wire.Intake

/-!
# Sessions

A session plays a script against a connection with its transport.  The transport does all that it
can before the next step is taken (`settle`): it reads the commands of the host, then what the
server has written, and last the end of the stream.  Every choice that this order makes is one of
the orders in which a link can move, so a session shows one run of a link.
-/

namespace WebSocketClient

set_option autoImplicit false

/-- How the stream from the server ends. -/
inductive StreamEnd where
  | closed
  | reset
deriving DecidableEq, Repr

/-- A connection to a server that follows a script. -/
structure Session where
  endpoint : Endpoint
  settings : Settings
  /-- The value in the response that belongs to the key of the request. -/
  accept : String
  dial : Except TransportFault Dial
  link : Link := {}
  intake : Wire.Intake := {}
  streamEnd : Option StreamEnd := none
  broken : Bool := false
  outcomes : List Outcome := []

namespace Session

/-! ## Moves of the transport -/

/-- The link makes a move. -/
def move (session : Session) (move : Move) : Session :=
  { session with link := session.link.step session.settings.closeTimeout move }

/-- The opening handshake fails. -/
def fail (session : Session) (fault : TransportFault) : Session :=
  session.move (.fail (.transport fault.message))

/-- Reading or writing fails. -/
def breakOff (session : Session) (fault : TransportFault) : Session :=
  session.move (.arrive (.fault fault.message) false)

/-- Makes a move as often as there can be commands to read. -/
def moveAll (session : Session) (next : Move) : Session :=
  (List.replicate (session.link.queue.length + 1) next).foldl move session

/-- Whether the opening handshake is under way. -/
def isConnecting (session : Session) : Bool :=
  match session.link.stage with
  | .connecting => true
  | _ => false

/-- Whether the conversation is under way and no close of ours has been sent. -/
def isTalking (session : Session) : Bool :=
  match session.link.stage with
  | .talking => true
  | _ => false

/-! ## Opening -/

/-- The stream from the server ends before the opening handshake has succeeded. -/
def endOpening (session : Session) : Session :=
  match session.streamEnd with
  | none => session
  | some .closed => session.fail (.opening .unfinished)
  | some .reset => session.fail (.stream .reset)

/-- The opening handshake goes as far as it can. -/
def advanceOpening (session : Session) : Session :=
  match session.dial with
  | .error fault => session.fail fault
  | .ok _ =>
    match Http.Opening.ofBytes session.accept session.intake.bytes with
    | .pending => session.endOpening
    | .failed fault => session.fail (.opening fault)
    | .granted rest => { session with intake := { bytes := rest } }.move .connect

/-! ## Talking -/

/-- A message arrives.  A reply that cannot be written is found out before anything more is
read. -/
def receive (session : Session) (message : Wire.Message) : Session :=
  let taken := if session.isTalking then message.admitted else message
  let unanswered := session.isTalking && session.broken && taken.reply?.isSome
  let after := session.move (.arrive (.message taken) (!session.broken))
  if unanswered && !taken.isClose then after.breakOff (.stream .broken) else after

/-- All that has come is read. -/
def receiveAll (session : Session) : Session :=
  let haul := session.intake.readAll session.settings.limits
  let after := haul.messages.foldl receive { session with intake := haul.rest }
  match haul.fault with
  | none => after
  | some fault => after.breakOff (.wire fault)

/-- The end of the stream is read. -/
def endStream (session : Session) : Session :=
  match session.streamEnd with
  | none => session
  | some .closed => session.move (.arrive .cut false)
  | some .reset => session.breakOff (.stream .reset)

/-- Whether writing a message succeeds. -/
def writing (session : Session) : Except String Unit :=
  if session.broken then .error StreamFault.broken.message else .ok ()

/-- The instant at which everything happens. -/
def now : Instant :=
  .origin

/-! ## Settling -/

/-- The transport does all that it can. -/
def settle (session : Session) : Session :=
  let heard := if session.isConnecting then session.moveAll .overhear else session
  let opened := if heard.isConnecting then heard.advanceOpening else heard
  if opened.isConnecting then opened
  else ((opened.moveAll (.obey opened.writing now)).receiveAll).endStream

/-- Both sides wait: time passes until a limit is reached. -/
def await (session : Session) : Session :=
  let settled := session.settle
  match settled.link.stage, settled.settings.handshakeTimeout with
  | .connecting, some limit => settled.move (.fail (.handshakeTimeout limit))
  | .closing _ _, _ => settled.move .expire
  | _, _ => settled

/-! ## Steps -/

/-- The payload of the pings that are sent only to wait for their pongs. -/
def syncPayload : List UInt8 :=
  "sync-1".toUTF8.toList

/-- The server writes bytes. -/
def feed (session : Session) (bytes : List UInt8) : Session :=
  { session with intake := session.intake.feed bytes }

/-- Records the outcome of a step. -/
def note (session : Session) (outcome : Outcome) : Session :=
  { session with outcomes := session.outcomes ++ [outcome] }

/-- The host asks for something.  It waits for a command that is going to be read. -/
def ask (session : Session) (command : Command) (wait : Bool) : Session :=
  if session.link.handle then
    let (answer, link) := session.link.ask command
    let asked := { session with link }.note (.ofResult answer)
    match answer with
    | .ok () => if wait then asked.settle else asked
    | .error _ => asked
  else session.note .noConnection

/-- Takes one step. -/
def perform (session : Session) : Act → Session
  | .frames drafts => (session.feed (drafts.flatMap Draft.encode)).settle
  | .bytes bytes => (session.feed bytes).settle
  | .sync =>
    let ping : Draft := { opcode := Wire.Opcode.ping.number, payload := syncPayload }
    let after := (session.feed ping.encode).settle
    if after.isTalking then after else after.await
  | .close => { session with streamEnd := some .closed }.await
  | .reset => { session with streamEnd := some .reset }.await
  | .breakWrites => { session with broken := true }
  | .await => session.await
  | .ask command wait => session.ask command wait
  | .query =>
    if session.link.handle then
      session.note
        (.snapshot
          ⟨session.endpoint, session.link.lifecycle.state, session.link.lifecycle.record⟩)
    else session.note .noConnection
  | .drop => session.move .drop

/-! ## Whole sessions -/

/-- Whether the steps of a script are taken only after the first thing has happened. -/
def Server.isAnswering : Server → Bool
  | .answering .. => true
  | _ => false

/-- A session before its first step. -/
def start (script : Script) (endpoint : Endpoint) : Session :=
  let reachable := match script.server with
    | .absent => false
    | _ => true
  let session : Session :=
    { endpoint
      settings := script.settings
      accept := script.accept
      dial := Dial.attempt script.url reachable }
  match script.server with
  | .answering response frames ends =>
    { session with
      intake := { bytes := response.toUTF8.toList ++ frames.flatMap Draft.encode }
      streamEnd := if ends then some .closed else none }.settle
  | _ => session

/-- Ends a session whose steps have been taken: a server that answered ends its stream, and any
other is waited for. -/
def finish (session : Session) (server : Server) : Session :=
  if server.isAnswering then
    { session with streamEnd := session.streamEnd.or (some .closed) }.settle
  else session.await

/-- The first line of the request, as the server sees it. -/
def requestLine (session : Session) (server : Server) : Option String :=
  if server.isAnswering then
    match session.dial with
    | .ok dial => some dial.requestLine
    | .error _ => some ""
  else none

/-- The last look at a connection. -/
def ending (session : Session) : Option Ending :=
  if session.link.handle then
    let (lateSend, link) := session.link.ask (.send "late")
    let (lateClose, _) := link.ask .normalClose
    some ⟨session.link.lifecycle.state, lateSend, lateClose, session.link.lifecycle.record⟩
  else none

/-- What the server received, without the pongs that it only waited for. -/
def received (session : Session) : List Wire.Message :=
  (session.link.sent.map Outgoing.message).filter (· ≠ .pong syncPayload)

/-- Plays a script. -/
def run (script : Script) : Except Failure Report := do
  let endpoint ← Endpoint.parse script.url
  match script.server with
  | .unattended => throw .noRuntime
  | _ =>
    let played := script.acts.foldl perform (start script endpoint)
    let session := played.finish script.server
    return {
      request := session.requestLine script.server
      notices := (session.link.told.foldl Mailbox.post {}).waiting
      received := session.received
      outcomes := session.outcomes
      ending := session.ending }

end Session

end WebSocketClient
