import WebSocketClient.Endpoint
import WebSocketClient.Listener
import WebSocketClient.Request
import WebSocketClient.Settings

/-!
# Scripts for a connection

A script says what the transport and the host of a connection do.  Steps are signals of the
transport, requests and questions of the host, and looks into the mailbox.  Host and transport also
act from inside the calls that the connection makes to them: a reaction names a call and the steps
to take when that call is made, as often as it has uses left.  Reactions are tried in order, so a
list of reactions with one use each can describe any finite behaviour.

What happens is recorded as entries of a log: the calls, each with what could be seen when it
began, and the outcomes of the steps that were taken inside calls.
-/

namespace WebSocketClient

set_option autoImplicit false

/-! ## Calls -/

/-- The kinds of call that run code of the host or of the transport. -/
inductive CallKind where
  | connect
  | notice (kind : NoticeKind)
  | send
  | close
deriving DecidableEq, Repr

/-- A call that runs code of the host or of the transport. -/
inductive Call where
  | connect (endpoint : Endpoint) (settings : Settings)
  | notice (notice : Notice)
  | send (payload : String)
  | close (code : CloseCode) (reason : String)
deriving Repr

namespace Call

/-- The kind of a call. -/
def kind : Call → CallKind
  | connect .. => .connect
  | notice told => .notice told.kind
  | send _ => .send
  | close .. => .close

/-- The call that asks a transport to carry out a command. -/
def ofCommand : Command → Call
  | .send payload => send payload
  | .close code reason => close code reason

end Call

/-- What can be seen of a connection from inside a call. -/
structure Sight where
  state : ReadyState
  record : Option CloseRecord
  handle : Bool
deriving Repr

/-- How a transport takes commands: it is there and gives an answer to each, or it has shut down and
takes none. -/
inductive Service where
  | present (answer : Except Failure Unit)
  | gone
deriving Repr

/-- The answer to every command. -/
def Service.answer : Service → Except Failure Unit
  | present answer => answer
  | gone => .error .connectionClosed

/-! ## Steps and their outcomes -/

/-- One step of a script. -/
inductive Step where
  | report (signal : Signal)
  /-- The transport reports a signal through a copy of its sink. -/
  | emit (signal : Signal)
  | inspect
  | send (payload : String)
  | close
  | closeWith (code : CloseCode) (reason : String)
  | query
  | describe
  | dropHandle
  /-- The transport takes commands in another way from now on. -/
  | serve (service : Service)
  /-- Several steps on a thread of their own, which is waited for. -/
  | thread (steps : List Step)
  /-- The host looks once into its mailbox, as one that waits does; it may treat the mailbox as a
  stream. -/
  | poll (stream : Bool)
  | take
  | dropReader
deriving Repr, Inhabited

/-- What a host can know of its connection. -/
structure Snapshot where
  endpoint : Endpoint
  state : ReadyState
  record : Option CloseRecord
deriving Repr

/-- What a step comes to. -/
inductive Outcome where
  | done
  | refused (failure : Failure)
  | noConnection
  | sink (state : ReadyState) (description : String)
  | snapshot (snapshot : Snapshot)
  | description (text : String)
  /-- Whether there was something to drop. -/
  | dropped (existed : Bool)
  | several (outcomes : List Outcome)
  | noReader
  | polled (poll : Poll)
  | taken (notice : Option Notice)
deriving Repr, Inhabited

/-- The outcome of a request that nothing stands in the way of, or that is refused. -/
def Outcome.ofResult : Except Failure Unit → Outcome
  | .ok () => done
  | .error failure => refused failure

/-! ## Reactions and the log -/

/-- What is done inside calls of one kind. -/
structure Reaction where
  call : CallKind
  uses : Nat
  steps : List Step
deriving Repr

/-- The steps for a call: those of the first reaction to its kind that has a use left, which it
loses. -/
def takeReaction (call : CallKind) : List Reaction → Option (List Step × List Reaction)
  | [] => none
  | reaction :: others =>
    if reaction.call = call ∧ reaction.uses ≠ 0 then
      some (reaction.steps, { reaction with uses := reaction.uses - 1 } :: others)
    else (takeReaction call others).map fun (steps, rest) => (steps, reaction :: rest)

/-- How many uses reactions have left. -/
def usesLeft : List Reaction → Nat
  | [] => 0
  | reaction :: others => reaction.uses + usesLeft others

/-- An entry of the log. -/
inductive Entry where
  | call (call : Call) (sight : Sight)
  | step (during : CallKind) (step : Step) (outcome : Outcome)
deriving Repr

end WebSocketClient
