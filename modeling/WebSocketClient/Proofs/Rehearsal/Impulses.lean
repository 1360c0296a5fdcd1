import WebSocketClient.Proofs.Rehearsal.Appeals

/-!
# What drives a rehearsal

Whatever happens to a connection begins with an impulse from outside it: the transport emits a
signal, or the host makes a request.  Impulses come as steps of a script and from inside the calls
that other impulses cause, to any depth.  This module gathers them in the order in which they come
(`Impulses.ofScript`), from the steps that are taken and not from what the connection keeps of
them.  The requests among them are the appeals of the host (`Appeals.ofScript`), and the signals
are the emissions of the transport (`Emissions.ofScript`).
-/

namespace WebSocketClient

set_option autoImplicit false

/-- What comes to a connection from outside. -/
inductive Impulse where
  | request (appeal : Appeal)
  | emission (signal : Signal)

namespace Impulse

/-- The request, if it is one. -/
def appeal? : Impulse → Option Appeal
  | request appeal => some appeal
  | emission _ => none

/-- The signal, if it is one. -/
def signal? : Impulse → Option Signal
  | request _ => none
  | emission signal => some signal

end Impulse

/-! ## Gathering -/

namespace Rehearsal

namespace Impulses

/-- How the impulses are gathered that come from inside a call. -/
abbrev Gather := CallKind → List Step → Rehearsal → List Impulse

section Gathering

variable (react : React) (gather : Gather)

/-- Inside the reaction to a call. -/
def respond (kind : CallKind) (rehearsal : Rehearsal) : List Impulse :=
  match takeReaction kind rehearsal.reactions with
  | none => []
  | some (steps, reactions) => gather kind steps { rehearsal with reactions }

/-- While the listener is told something. -/
def deliver (notice : Notice) (rehearsal : Rehearsal) : List Impulse :=
  if rehearsal.listener.posts then []
  else if rehearsal.listener.calls notice.kind then
    respond gather (.notice notice.kind) (rehearsal.tell notice)
  else []

/-- While the listener is told several things. -/
def deliverAll : List Notice → Rehearsal → List Impulse
  | [], _ => []
  | notice :: notices, rehearsal =>
    deliver gather notice rehearsal ++
      deliverAll notices (Rehearsal.deliver react notice rehearsal)

/-- A signal, if the transport has its sink, and what comes while it is dispatched. -/
def report (signal : Signal) (rehearsal : Rehearsal) : List Impulse :=
  if rehearsal.sink then
    .emission signal ::
      deliverAll react gather (rehearsal.lifecycle.accept signal).2 (rehearsal.hear signal)
  else []

/-- The appeal that is made by a request. -/
def appeal (command : Command) (rehearsal : Rehearsal) : Appeal :=
  let verdict := Verdict.ofRequest rehearsal.lifecycle.state command
  { command
    sight := rehearsal.sight
    service := rehearsal.service
    outcome := (requestStep react verdict rehearsal).1 }

/-- While the transport is called for a command. -/
def pass (command : Command) (rehearsal : Rehearsal) : List Impulse :=
  match rehearsal.service with
  | .present _ => respond gather (Call.ofCommand command).kind (rehearsal.pass command)
  | .gone => []

/-- A request, if the host has its handle, and what comes while the transport is called. -/
def request (command : Command) (rehearsal : Rehearsal) : List Impulse :=
  if rehearsal.handle.isSome then
    .request (appeal react command rehearsal) ::
      match Verdict.ofRequest rehearsal.lifecycle.state command with
      | .passed command => pass gather command rehearsal
      | .refused _ | .settled => []
  else []

mutual

/-- During a step. -/
def perform : Step → Rehearsal → List Impulse
  | .report signal, rehearsal => report react gather signal rehearsal
  | .emit signal, rehearsal => report react gather signal rehearsal
  | .send payload, rehearsal => request react gather (.send payload) rehearsal
  | .close, rehearsal => request react gather .normalClose rehearsal
  | .closeWith code reason, rehearsal => request react gather (.close code reason) rehearsal
  | .thread steps, rehearsal => performAll steps rehearsal
  | .inspect, _ => []
  | .query, _ => []
  | .describe, _ => []
  | .dropHandle, _ => []
  | .serve _, _ => []
  | .poll _, _ => []
  | .take, _ => []
  | .dropReader, _ => []

/-- During several steps. -/
def performAll : List Step → Rehearsal → List Impulse
  | [], _ => []
  | step :: steps, rehearsal =>
    perform step rehearsal ++ performAll steps (Rehearsal.perform react step rehearsal).2

end

/-- During the steps inside a call. -/
def performDuring (during : CallKind) : List Step → Rehearsal → List Impulse
  | [], _ => []
  | step :: steps, rehearsal =>
    perform react gather step rehearsal ++
      performDuring during steps (Rehearsal.performDuring react during step rehearsal)

end Gathering

/-- Inside a call, where calls may nest as deep as the number says. -/
def play : Nat → Gather
  | 0 => fun _ _ _ => []
  | depth + 1 => performDuring (Rehearsal.play depth) (play depth)

/-- Inside a call, to the end. -/
def reactAll (during : CallKind) (steps : List Step) (rehearsal : Rehearsal) : List Impulse :=
  play (usesLeft rehearsal.reactions + 1) during steps rehearsal

/-- While the connection is made. -/
def connect (scene : Scene) (rehearsal : Rehearsal) : List Impulse :=
  match Endpoint.parse scene.url with
  | .error _ => []
  | .ok endpoint =>
    let call := Call.connect endpoint scene.settings
    respond reactAll call.kind ({ rehearsal with sink := true }.record (.call call rehearsal.sight))

/-- The impulses of a whole script, in the order in which they come. -/
def ofScript (scene : Scene) (steps : List Step) : List Impulse :=
  connect scene (ofScene scene) ++
    performAll Rehearsal.reactAll reactAll steps ((ofScene scene).connect scene).2

end Impulses

/-- The requests of a whole script, in the order in which they are made. -/
def Appeals.ofScript (scene : Scene) (steps : List Step) : List Appeal :=
  (Impulses.ofScript scene steps).filterMap Impulse.appeal?

/-- The signals of a whole script, in the order in which they are emitted. -/
def Emissions.ofScript (scene : Scene) (steps : List Step) : List Signal :=
  (Impulses.ofScript scene steps).filterMap Impulse.signal?

end Rehearsal

end WebSocketClient
