import WebSocketClient.Rehearsal.Script
import WebSocketClient.Wire.Message

/-!
# Scripts for a session

A script for a session says what the server and the host of a connection do, step by step.  The
server need not keep to any rule: it may answer the opening request with any text, write frames
that are out of order in every way, or bytes that are no frames at all, and it may end or reset
the stream at any time.
-/

namespace WebSocketClient.Session

set_option autoImplicit false

/-- A frame that a server writes, whether or not it is in order. -/
structure Draft where
  fin : Bool := true
  reserved : Fin 8 := Wire.noBits
  opcode : Fin 16
  masked : Bool := false
  payload : List UInt8 := []
deriving Repr

/-- The bytes of a frame. -/
def Draft.encode (draft : Draft) : List UInt8 :=
  ({ fin := draft.fin
     reserved := draft.reserved
     opcode := draft.opcode
     masked := draft.masked
     length := draft.payload.length } : Wire.Header).encode ++ draft.payload

/-- How the other side of a connection begins.  A server answers the request and writes frames
behind its answer, or it is silent, or there is none; a session is unattended if there is nothing
that could run the connection. -/
inductive Server where
  | answering (response : String) (frames : List Draft) (ends : Bool)
  | silent
  | absent
  | unattended
deriving Repr

/-- One step of a script.  A synchronisation is a ping of the server, which waits for the pong; a
host that asks for something may wait until it is carried out. -/
inductive Act where
  | frames (drafts : List Draft)
  | bytes (bytes : List UInt8)
  | sync
  | close
  | reset
  | breakWrites
  | await
  | ask (command : Command) (wait : Bool)
  | query
  | drop
deriving Repr

/-- What a session begins with, and its steps.  The server accepts with the value that belongs to
the key of the request. -/
structure Script where
  url : String
  settings : Settings := {}
  server : Server
  accept : String
  acts : List Act

/-- The last look at a connection, with the answers to a message and a close that come too late. -/
structure Ending where
  state : ReadyState
  lateSend : Except Failure Unit
  lateClose : Except Failure Unit
  record : Option CloseRecord

/-- What a session shows. -/
structure Report where
  /-- The first line of the request, or an empty text if none was made; nothing if the server does
  not read it. -/
  request : Option String
  notices : List Notice
  received : List Wire.Message
  outcomes : List Outcome
  ending : Option Ending

end WebSocketClient.Session
