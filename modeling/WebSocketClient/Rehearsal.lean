import WebSocketClient.Lifecycle
import WebSocketClient.Rehearsal.Script

/-!
# Rehearsals

A rehearsal plays a script against a connection whose transport does nothing of its own.  It shows
what any host and any transport can bring about: signals may be reported, and requests made, from
inside the calls that other signals and requests cause, to any depth.

A signal is dispatched in two parts.  First the lifecycle takes it in, which settles the state, the
record and the notices; then the listener is called for each notice in order, and its reactions run
before the next one is delivered.

How deep calls can nest is bounded: every call that does something uses up a reaction.  `play` is
therefore defined by recursion on the number of uses left.
-/

namespace WebSocketClient

set_option autoImplicit false

/-- A connection that is played through. -/
structure Rehearsal where
  lifecycle : Lifecycle := {}
  sink : Bool := false
  /-- The endpoint of the handle, while the host has it. -/
  handle : Option Endpoint := none
  service : Service := .present (.ok ())
  listener : Listener
  mailbox : Mailbox
  reactions : List Reaction := []
  /-- Every signal that was reported, in order. -/
  reported : List Signal := []
  /-- Every command that the transport was asked to carry out, in order, with what could be seen
  when it was asked. -/
  asked : List (Command × Sight) := []
  log : List Entry := []

namespace Rehearsal

/-- How the code inside a call is run: the steps it takes, on the rehearsal as it is then. -/
abbrev React := CallKind → List Step → Rehearsal → Rehearsal

/-! ## Calls -/

/-- What can be seen at this moment. -/
def sight (rehearsal : Rehearsal) : Sight :=
  ⟨rehearsal.lifecycle.state, rehearsal.lifecycle.record, rehearsal.handle.isSome⟩

/-- Adds an entry to the log. -/
def record (rehearsal : Rehearsal) (entry : Entry) : Rehearsal :=
  { rehearsal with log := rehearsal.log ++ [entry] }

/-- Adds a signal to those that were reported. -/
def emit (rehearsal : Rehearsal) (signal : Signal) : Rehearsal :=
  { rehearsal with reported := rehearsal.reported ++ [signal] }

/-- A call into code of the host or of the transport: it is recorded, and then the reaction to it
runs. -/
def enter (react : React) (call : Call) (rehearsal : Rehearsal) : Rehearsal :=
  let entered := rehearsal.record (.call call rehearsal.sight)
  match takeReaction call.kind entered.reactions with
  | none => entered
  | some (steps, reactions) => react call.kind steps { entered with reactions }

/-- Tells the listener something. -/
def deliver (react : React) (notice : Notice) (rehearsal : Rehearsal) : Rehearsal :=
  if rehearsal.listener.posts then
    { rehearsal with mailbox := rehearsal.mailbox.post notice }
  else if rehearsal.listener.calls notice.kind then enter react (.notice notice) rehearsal
  else rehearsal

/-- Dispatches a signal. -/
def dispatch (react : React) (signal : Signal) (rehearsal : Rehearsal) : Rehearsal :=
  let (lifecycle, notices) := rehearsal.lifecycle.accept signal
  notices.foldl (fun current notice => deliver react notice current) { rehearsal with lifecycle }

/-- Asks the transport to carry out a command. -/
def command (react : React) (command : Command) (rehearsal : Rehearsal) :
    Except Failure Unit × Rehearsal :=
  let asked := { rehearsal with asked := rehearsal.asked ++ [(command, rehearsal.sight)] }
  let after := match rehearsal.service with
    | .present _ => enter react (.ofCommand command) asked
    | .gone => asked
  (rehearsal.service.answer, after)

/-- Carries out what becomes of a request. -/
def request (react : React) (verdict : Verdict) (rehearsal : Rehearsal) :
    Except Failure Unit × Rehearsal :=
  match verdict with
  | .refused failure => (.error failure, rehearsal)
  | .settled => (.ok (), rehearsal)
  | .passed command => rehearsal.command react command

/-! ## Steps -/

/-- A step of the transport, which needs its sink: the signal is emitted, and then dispatched. -/
def reportStep (react : React) (signal : Signal) (rehearsal : Rehearsal) : Outcome × Rehearsal :=
  if rehearsal.sink then (.done, dispatch react signal (rehearsal.emit signal))
  else (.noConnection, rehearsal)

/-- A request of the host, which needs its handle. -/
def requestStep (react : React) (verdict : Verdict) (rehearsal : Rehearsal) :
    Outcome × Rehearsal :=
  if rehearsal.handle.isSome then
    let (result, after) := request react verdict rehearsal
    (.ofResult result, after)
  else (.noConnection, rehearsal)

/-- The description of a connection. -/
def describe (endpoint : Endpoint) (lifecycle : Lifecycle) : String :=
  Text.openRecord "Connection"
    [Text.field "url" (Text.quoted endpoint.text), Text.field "bridge" lifecycle.describe]

mutual

/-- Takes one step. -/
def perform (react : React) : Step → Rehearsal → Outcome × Rehearsal
  | .report signal, rehearsal => reportStep react signal rehearsal
  | .emit signal, rehearsal => reportStep react signal rehearsal
  | .inspect, rehearsal =>
    if rehearsal.sink then
      (.sink rehearsal.lifecycle.state rehearsal.lifecycle.describeSink, rehearsal)
    else (.noConnection, rehearsal)
  | .send payload, rehearsal =>
    requestStep react (.ofSend rehearsal.lifecycle.state payload) rehearsal
  | .close, rehearsal => requestStep react (.ofClose rehearsal.lifecycle.state .normal "") rehearsal
  | .closeWith code reason, rehearsal =>
    requestStep react (.ofClose rehearsal.lifecycle.state code reason) rehearsal
  | .query, rehearsal =>
    match rehearsal.handle with
    | some endpoint =>
      (.snapshot ⟨endpoint, rehearsal.lifecycle.state, rehearsal.lifecycle.record⟩, rehearsal)
    | none => (.noConnection, rehearsal)
  | .describe, rehearsal =>
    match rehearsal.handle with
    | some endpoint => (.description (describe endpoint rehearsal.lifecycle), rehearsal)
    | none => (.noConnection, rehearsal)
  | .dropHandle, rehearsal =>
    (.dropped rehearsal.handle.isSome, { rehearsal with handle := none })
  | .serve service, rehearsal => (.done, { rehearsal with service })
  | .thread steps, rehearsal =>
    let (outcomes, after) := performAll react steps rehearsal
    (.several outcomes, after)
  | .poll _, rehearsal =>
    if rehearsal.mailbox.reader then
      let (poll, mailbox) := rehearsal.mailbox.poll
      (.polled poll, { rehearsal with mailbox })
    else (.noReader, rehearsal)
  | .take, rehearsal =>
    if rehearsal.mailbox.reader then
      let (notice, mailbox) := rehearsal.mailbox.take?
      (.taken notice, { rehearsal with mailbox })
    else (.noReader, rehearsal)
  | .dropReader, rehearsal =>
    (.dropped rehearsal.mailbox.reader,
      { rehearsal with mailbox := rehearsal.mailbox.dropReader })

/-- Takes several steps. -/
def performAll (react : React) : List Step → Rehearsal → List Outcome × Rehearsal
  | [], rehearsal => ([], rehearsal)
  | step :: steps, rehearsal =>
    let (outcome, next) := perform react step rehearsal
    let (outcomes, after) := performAll react steps next
    (outcome :: outcomes, after)

end

/-- Takes one step inside a call, and records its outcome. -/
def performDuring (react : React) (during : CallKind) (step : Step) (rehearsal : Rehearsal) :
    Rehearsal :=
  let (outcome, after) := perform react step rehearsal
  after.record (.step during step outcome)

/-- Runs the code inside a call, where calls may nest as deep as the number says. -/
def play : Nat → React
  | 0 => fun _ _ rehearsal => rehearsal
  | depth + 1 => fun during steps rehearsal =>
    steps.foldl (fun current step => performDuring (play depth) during step current) rehearsal

/-- Runs the code inside a call to its end: no call can nest deeper than there are uses left. -/
def reactAll (during : CallKind) (steps : List Step) (rehearsal : Rehearsal) : Rehearsal :=
  play (usesLeft rehearsal.reactions + 1) during steps rehearsal

/-! ## Scenes -/

/-- What a script begins with. -/
structure Scene where
  url : String
  settings : Settings := {}
  listener : Listener
  /-- Why the transport cannot begin connecting, if it cannot. -/
  refusal : Option Failure := none
  service : Service := .present (.ok ())
  reactions : List Reaction := []

/-- A rehearsal before anything has happened. -/
def ofScene (scene : Scene) : Rehearsal :=
  { service := scene.service
    listener := scene.listener
    mailbox := scene.listener.newMailbox
    reactions := scene.reactions }

/-- Makes the connection: the endpoint is read, and the transport is given its sink and asked to
begin.  Without a usable endpoint the listener is dropped at once. -/
def connect (scene : Scene) (rehearsal : Rehearsal) : Outcome × Rehearsal :=
  match Endpoint.parse scene.url with
  | .error failure =>
    (.refused failure, { rehearsal with mailbox := rehearsal.mailbox.dropWriter })
  | .ok endpoint =>
    let asked := enter reactAll (.connect endpoint scene.settings) { rehearsal with sink := true }
    match scene.refusal with
    | some failure => (.refused failure, asked)
    | none => (.done, { asked with handle := some endpoint })

/-- What one step of a script shows. -/
structure Frame where
  outcome : Outcome
  log : List Entry
  /-- The state after the step, if the transport has its sink. -/
  state : Option ReadyState

/-- What the step between two moments shows. -/
def frame (before : Rehearsal) (outcome : Outcome) (after : Rehearsal) : Frame :=
  { outcome
    log := after.log.drop before.log.length
    state := if after.sink then some after.lifecycle.state else none }

/-- Plays the steps of a script. -/
def playSteps : List Step → Rehearsal → List Frame
  | [], _ => []
  | step :: steps, rehearsal =>
    let (outcome, after) := perform reactAll step rehearsal
    frame rehearsal outcome after :: playSteps steps after

/-- Plays a whole script: the connection is made, and then the steps are taken. -/
def run (scene : Scene) (steps : List Step) : List Frame :=
  let start := ofScene scene
  let (outcome, made) := start.connect scene
  frame start outcome made :: playSteps steps made

end Rehearsal

end WebSocketClient
