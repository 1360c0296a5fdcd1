import WebSocketClient.Mailbox
import WebSocketClient.Text.Shape

/-!
# Listeners

A listener is the part of a host that receives notices.  It may record every notice, call only the
callbacks that were set, ignore everything, or post into a mailbox; and any listener may be shared
or boxed, which changes nothing.
-/

namespace WebSocketClient

set_option autoImplicit false

/-- The callbacks that a host has set. -/
structure Callbacks where
  opened : Bool := false
  message : Bool := false
  failed : Bool := false
  closed : Bool := false
deriving DecidableEq, Repr

namespace Callbacks

/-- Whether there is a callback for a kind of notice. -/
def has (callbacks : Callbacks) : NoticeKind → Bool
  | .opened => callbacks.opened
  | .message => callbacks.message
  | .failed => callbacks.failed
  | .closed => callbacks.closed

/-- Sets one more callback. -/
def insert (callbacks : Callbacks) : NoticeKind → Callbacks
  | .opened => { callbacks with opened := true }
  | .message => { callbacks with message := true }
  | .failed => { callbacks with failed := true }
  | .closed => { callbacks with closed := true }

/-- Which callbacks are set. -/
def describe (callbacks : Callbacks) : String :=
  Text.record "Callbacks"
    [Text.field "open" (Text.truth callbacks.opened),
      Text.field "message" (Text.truth callbacks.message),
      Text.field "error" (Text.truth callbacks.failed),
      Text.field "close" (Text.truth callbacks.closed)]

end Callbacks

/-- The receiver of a connection's notices.  One that is shared or boxed is another one behind a
pointer. -/
inductive Listener where
  | recorder
  | callbacks (set : Callbacks)
  | silent
  | mailbox
  | shared (listener : Listener)
  | boxed (listener : Listener)
deriving Repr

namespace Listener

/-- Whether a notice of this kind runs code of the host. -/
def calls : Listener → NoticeKind → Bool
  | recorder, _ => true
  | callbacks set, kind => set.has kind
  | silent, _ => false
  | mailbox, _ => false
  | shared listener, kind => listener.calls kind
  | boxed listener, kind => listener.calls kind

/-- Whether notices are posted into a mailbox. -/
def posts : Listener → Bool
  | mailbox => true
  | shared listener => listener.posts
  | boxed listener => listener.posts
  | _ => false

/-- The mailbox that belongs to a listener. -/
def newMailbox (listener : Listener) : Mailbox :=
  if listener.posts then {} else .absent

/-! ## A listener on its own -/

/-- A listener whose methods are called directly, with its mailbox. -/
structure Trial where
  listener : Option Listener
  mailbox : Mailbox
deriving Repr

namespace Trial

/-- What can be done with a listener and its mailbox. -/
inductive Act where
  | notify (notice : Notice)
  | dropListener
  /-- A reader looks once into the mailbox, as one that waits does. -/
  | poll
  | take
  | dropReader
deriving Repr

/-- What an act comes to. -/
inductive Outcome where
  /-- The listener was told something, which ran code of the host or did not. -/
  | told (ran : Bool)
  | noListener
  | dropped (existed : Bool)
  | noReader
  | polled (poll : Poll)
  | taken (notice : Option Notice)
deriving Repr

/-- A listener that was just made. -/
def start (listener : Listener) : Trial :=
  ⟨some listener, listener.newMailbox⟩

/-- Calls the method for a notice. -/
def notify (trial : Trial) (notice : Notice) : Outcome × Trial :=
  match trial.listener with
  | none => (.noListener, trial)
  | some listener =>
    let mailbox := if listener.posts then trial.mailbox.post notice else trial.mailbox
    (.told (listener.calls notice.kind), { trial with mailbox })

/-- Drops the listener, and with it the writing end of its mailbox. -/
def dropListener (trial : Trial) : Outcome × Trial :=
  (.dropped trial.listener.isSome, ⟨none, trial.mailbox.dropWriter⟩)

/-- Does one thing. -/
def perform (trial : Trial) : Act → Outcome × Trial
  | .notify notice => trial.notify notice
  | .dropListener => trial.dropListener
  | .poll =>
    if trial.mailbox.reader then
      let (poll, mailbox) := trial.mailbox.poll
      (.polled poll, { trial with mailbox })
    else (.noReader, trial)
  | .take =>
    if trial.mailbox.reader then
      let (notice, mailbox) := trial.mailbox.take?
      (.taken notice, { trial with mailbox })
    else (.noReader, trial)
  | .dropReader =>
    (.dropped trial.mailbox.reader, { trial with mailbox := trial.mailbox.dropReader })

/-- Does several things, and gives what each of them comes to. -/
def run : List Act → Trial → List Outcome
  | [], _ => []
  | act :: acts, trial =>
    let (outcome, after) := trial.perform act
    outcome :: run acts after

end Trial

end Listener

end WebSocketClient
