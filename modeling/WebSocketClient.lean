import WebSocketClient.Proofs.Reading
import WebSocketClient.Proofs.Failure
import WebSocketClient.Proofs.Rehearsal.Requests
import WebSocketClient.Proofs.Rehearsal.Surfaces
import WebSocketClient.Proofs.Rehearsal.Undisturbed
import WebSocketClient.Proofs.Link.Answers
import WebSocketClient.Proofs.Link.Release
import WebSocketClient.Proofs.Link.Inbound
import WebSocketClient.Proofs.Rehearsal.Form
import WebSocketClient.Proofs.Session.Closes
import WebSocketClient.Proofs.Link.Deadline
import WebSocketClient.Proofs.Dial.Place
import WebSocketClient.Proofs.Utf8.Portions
import WebSocketClient.Proofs.Wire.Parcels
import WebSocketClient.Proofs.Wire.Stream
import WebSocketClient.Proofs.Session.Frames
import WebSocketClient.Proofs.Session.Limits
import WebSocketClient.Proofs.Session.Plays
