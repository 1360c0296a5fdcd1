import WebSocketClient.Notice

/-!
# Mailboxes

A mailbox passes notices from a connection to a host that reads them in its own time.  It has a
writing and a reading end.  Notices wait in order; the writing end is given up after the notice of
a close, or with the connection, and then a reader that has taken everything learns that nothing
more will come.  Once the reading end is gone, notices are dropped.
-/

namespace WebSocketClient

set_option autoImplicit false

/-- Notices on their way to a reader, and the ends that still exist. -/
structure Mailbox where
  /-- The notices not yet read, oldest first. -/
  waiting : List Notice := []
  writer : Bool := true
  reader : Bool := true
deriving Repr

/-- What a reader finds when it looks once. -/
inductive Poll where
  | notice (notice : Notice)
  | ended
  | pending
deriving Repr

namespace Mailbox

/-- The mailbox of a connection whose host does not read notices this way. -/
def absent : Mailbox :=
  { writer := false, reader := false }

/-- Puts a notice into the mailbox; after the notice of a close the writing end is given up. -/
def post (mailbox : Mailbox) (notice : Notice) : Mailbox :=
  let filled :=
    if mailbox.writer && mailbox.reader then
      { mailbox with waiting := mailbox.waiting ++ [notice] }
    else mailbox
  if notice.isClosing then { filled with writer := false } else filled

/-- Gives up the writing end. -/
def dropWriter (mailbox : Mailbox) : Mailbox :=
  { mailbox with writer := false }

/-- Gives up the reading end, with everything that waits for it. -/
def dropReader (mailbox : Mailbox) : Mailbox :=
  { mailbox with reader := false, waiting := [] }

/-- Takes the next notice, if there is one. -/
def take? (mailbox : Mailbox) : Option Notice × Mailbox :=
  match mailbox.waiting with
  | [] => (none, mailbox)
  | notice :: rest => (some notice, { mailbox with waiting := rest })

/-- Looks once, as a reader that waits does. -/
def poll (mailbox : Mailbox) : Poll × Mailbox :=
  match mailbox.take? with
  | (some notice, rest) => (.notice notice, rest)
  | (none, rest) => (if mailbox.writer then .pending else .ended, rest)

end Mailbox

end WebSocketClient
