import WebSocketClient.Proofs.Link.Ending
import WebSocketClient.Proofs.Session
import WebSocketClient.Proofs.Wire

/-!
# Closes on the wire

A close goes out with a code and a reason, and its frame conveys both: the status is the number of
the code, the reason is there byte by byte, and whoever reads the payload reads the same close
(`Wire.CloseBody.Conveys`).  This is true of every close that a host may ask for, in whichever form
the code is written.  Hence a host whose close is echoed is told of the close that it asked for.

A close of the peer is read from its frame and then told to the host with the number that it has.
There are two exceptions (`Session.altered_closes`).  Before our own close was written, a status
that must not be sent counts as a violation of the protocol, and the host is told of the violation
instead (`Session.counted`).  And a frame beyond the limit for frames is not read at all, be it an
echo or not.  In all other cases the host is told what was sent (`Session.closes_of_run`).
-/

namespace WebSocketClient

set_option autoImplicit false

open Wire (CloseBody)

/-! ## Codes that may be sent -/

/-- No code that may be sent is reserved. -/
theorem CloseCode.isReserved_of_isValid {code : CloseCode} (valid : code.isValid) :
    code.isReserved = false := by
  simp only [isValid, Bool.or_eq_true, Bool.and_eq_true, decide_eq_true_eq] at valid
  simp only [isReserved, Bool.or_eq_false_iff, Bool.and_eq_false_iff, decide_eq_false_iff_not,
    beq_eq_false_iff_ne]
  omega

namespace Wire.CloseBody

/-- A close frame conveys a code and a reason: its payload is the number and the bytes of the
reason, fits into a control frame, and is read as the same close. -/
structure Conveys (body : CloseBody) (code : CloseCode) (reason : String) : Prop where
  status_eq : (body.status.toNat : Int) = code.number.toInt
  encode_eq : body.encode = toBigEndian 2 code.number.toInt.toNat ++ reason.toUTF8.toList
  length_le : body.encode.length ≤ Message.maxControl
  decode_eq : decode body.encode = .ok (some ⟨body.status, reason⟩)

/-- **A close that may be asked for is conveyed by its frame.** -/
theorem conveys_ofRequest {code : CloseCode} {reason : String}
    (proper : (Command.close code reason).Proper) :
    (ofRequest code reason).Conveys code reason := by
  obtain ⟨valid, short⟩ := proper
  have status : (code.status.toNat : Int) = code.number.toInt := Command.toNat_status valid
  have number : code.status.toNat = code.number.toInt.toNat := by omega
  refine ⟨status, ?_, ?_, decode_encode _⟩
  · rw [← number]
    rfl
  · rw [length_encode]
    exact Nat.add_le_add_left short 2

end Wire.CloseBody

namespace Link

variable {timeout : Option Duration} {moves : List Move}

/-- A close of ours conveys a request that was accepted. -/
theorem exists_order {body : Option CloseBody}
    (sent : .asked (.close body) ∈ (({} : Link).run timeout moves).sent) :
    ∃ code reason, .close code reason ∈ orders timeout moves ∧
      .close code reason ∈ done timeout moves ∧ body = some (.ofRequest code reason) := by
  have written : .close body ∈ (({} : Link).run timeout moves).written :=
    List.mem_filterMap.mpr ⟨_, sent, rfl⟩
  rw [written_run] at written
  obtain ⟨command, carried, message⟩ := List.mem_map.mp written
  have ordered := Command.mem_of_mem_binding ((done_prefix_binding timeout moves).subset carried)
  cases command with
  | send payload => cases message
  | close code reason =>
      cases message
      exact ⟨code, reason, ordered, carried, rfl⟩

/-- While the answer to our close is awaited, no reply is asked for. -/
theorem exists_closing {code : CloseCode} {reason : String}
    (carried : .close code reason ∈ done timeout moves)
    (going : (({} : Link).run timeout moves).stage.keepsQueue) :
    ∃ ours deadline, (({} : Link).run timeout moves).stage = .closing ours deadline := by
  have own : (ownClose? timeout moves).isSome := by
    rw [ownClose?, List.findSome?_isSome_iff]
    exact ⟨_, carried, rfl⟩
  rw [ownClose?_run going] at own
  generalize (({} : Link).run timeout moves).stage = stage at own
  cases stage with
  | closing ours deadline => exact ⟨ours, deadline, rfl⟩
  | _ => cases own

/-- A close that arrives is signalled with the number of its status. -/
theorem exists_closed {link : Link} (opened : link.stage.isOpen) (going : link.stage.keepsQueue)
    (timed : link.stage.Timed timeout) (body : CloseBody) (writable : Bool) :
    ∃ code : CloseCode, code.number.toInt = body.status.toNat ∧
      (link.turn timeout (.arrive (.message (.close (some body))) writable)).signals =
        [.closed code body.reason link.stage.ownClose?.isNone] := by
  have number := CloseCode.toInt_number_ofStatus body.status
  obtain ⟨code, same, signals⟩ := turn_of_ending opened going timed
    (.status body (.ofStatus body.status) number writable)
  rw [CloseCode.beq_iff] at same
  exact ⟨code, by rw [same, number], signals⟩

end Link

namespace Session

/-! ## A close that is read -/

/-- The server writes a close, and the transport reads it. -/
def hear (session : Session) (body : CloseBody) : Session :=
  (session.feed body.serverFrame.encode).receiveAll

/-- What a close of the server counts as.  A status that must not be sent is a violation of the
protocol, unless our own close was sent before. -/
def counted (session : Session) (body : CloseBody) : CloseBody :=
  if session.isTalking && !CloseBody.isAllowed body.status then .violation else body

/-- A close can be read: the connection is open, the conversation goes on, the server is not in the
middle of a frame, and the close is within the limits. -/
structure CanHear (session : Session) (body : CloseBody) : Prop where
  opened : session.link.lifecycle.state = .opened
  going : session.link.stage.keepsQueue
  whole : session.intake.bytes = []
  fits : body.encode.length ≤ Wire.Message.maxControl
  within : body.encode.length ≤ session.settings.limits.frame

/-- A host is told of a close, with a failure in front unless it is a clean one, and its record is
kept. -/
def Ends (before after : Session) (record : CloseRecord) : Prop :=
  after.link.lifecycle = ⟨.closed, some record⟩ ∧
    after.link.told = before.link.told ++
      Lifecycle.farewell (Lifecycle.closeFailure? record) record

variable {session : Session} {body : CloseBody}

/-- A close that was read is one move of the link. -/
theorem link_receive (session : Session) (body : CloseBody) :
    (session.receive (.close (some body))).link = session.link.step session.settings.closeTimeout
      (.arrive (.message (.close (some (session.counted body)))) (!session.broken)) := by
  have taken : (if session.isTalking then (Wire.Message.close (some body)).admitted
      else .close (some body)) = .close (some (session.counted body)) := by
    unfold counted
    cases session.isTalking with
    | false => rfl
    | true =>
        cases allowed : CloseBody.isAllowed body.status <;>
          simp [Wire.Message.admitted, allowed]
  simp only [receive, taken, Wire.Message.isClose, Bool.not_true, Bool.and_false,
    Bool.false_eq_true, if_false]
  rfl

/-- **Reading a close is one move of the link.** -/
theorem link_hear (can : session.CanHear body) :
    (session.hear body).link = session.link.step session.settings.closeTimeout
      (.arrive (.message (.close (some (session.counted body)))) (!session.broken)) := by
  have intake_eq : (session.feed body.serverFrame.encode).intake =
      ⟨body.serverFrame.encode, session.intake.fragments⟩ := by
    show (⟨session.intake.bytes ++ _, _⟩ : Wire.Intake) = _
    rw [can.whole, List.nil_append]
  have haul := Wire.Intake.readAll_serverFrame session.intake.fragments can.fits can.within
  unfold hear receiveAll
  rw [intake_eq, show (session.feed _).settings = session.settings from rfl, haul]
  exact link_receive _ body

/-- Before our own close is written, the conversation is talking. -/
theorem isNone_ownClose? (opened : session.link.stage.isOpen)
    (going : session.link.stage.keepsQueue) :
    session.link.stage.ownClose?.isNone = session.isTalking := by
  unfold isTalking
  cases stage_eq : session.link.stage with
  | talking => rfl
  | closing code deadline => rfl
  | connecting => rw [stage_eq] at opened; cases opened
  | finished => rw [stage_eq] at going; cases going
  | lost => rw [stage_eq] at going; cases going

/-- What an open connection makes of a close. -/
theorem acceptAll_closed (code : CloseCode) (reason : String) (remote : Bool) :
    Lifecycle.acceptAll ⟨.opened, none⟩ [.closed code reason remote] =
      (⟨.closed, some (.ofReport code reason remote)⟩,
        Lifecycle.farewell (Lifecycle.closeFailure? (.ofReport code reason remote))
          (.ofReport code reason remote)) := by
  simp only [Lifecycle.acceptAll, List.append_nil]
  rfl

variable {moves : List Move}

/-- A host that sees an open connection has one, as far as it has been told. -/
theorem open_of_state (reached : session.link = ({} : Link).run session.settings.closeTimeout moves)
    (opened : session.link.lifecycle.state = .opened) :
    session.link.stage.isOpen ∧ session.link.lifecycle = ⟨.opened, none⟩ ∧
      session.link.stage.Timed session.settings.closeTimeout := by
  rw [reached] at opened ⊢
  rcases Link.standing_run session.settings.closeTimeout moves with
    ⟨-, -, lifecycle, -⟩ | ⟨-, stage_open, -, lifecycle, -⟩ | ⟨-, -, lifecycle⟩
  · rw [lifecycle] at opened
    cases opened
  · exact ⟨stage_open, lifecycle, Link.timed_run moves⟩
  · rw [lifecycle] at opened
    cases opened

/-- **A close that is read ends the connection**, with the number and the reason that it counts
for. -/
theorem exists_ends (reached : session.link = ({} : Link).run session.settings.closeTimeout moves)
    (can : session.CanHear body) :
    ∃ code : CloseCode, code.number.toInt = (session.counted body).status.toNat ∧
      session.Ends (session.hear body)
        (.ofReport code (session.counted body).reason session.isTalking) := by
  obtain ⟨stage_open, lifecycle, timed⟩ := open_of_state reached can.opened
  obtain ⟨code, number, signals⟩ := Link.exists_closed stage_open can.going timed
    (session.counted body) (!session.broken)
  have took := Link.took_step session.settings.closeTimeout session.link
    (.arrive (.message (.close (some (session.counted body)))) (!session.broken))
  rw [isNone_ownClose? stage_open can.going] at signals
  refine ⟨code, number, ?_, ?_⟩
  · rw [link_hear can, took.lifecycle_eq, signals, lifecycle, acceptAll_closed]
  · rw [link_hear can, took.told_eq, signals, lifecycle, acceptAll_closed]

/-- **Closes on the wire.**  Consider a session after any run of its link.  No code that a host may
ask for is reserved, and the frame of a close that it may ask for conveys the code and the reason.
This frame is what is written for such a request.  Hence every close that was written conveys a
request that was accepted, and while its answer is awaited, an echo of it is told to the host as the
close that was asked for.  Any close that can be read ends the connection with the number and the
reason that it counts for, and a close that arrives is signalled with the number of its status, be
it any number of sixteen bits. -/
theorem closes_of_run (session : Session) (moves : List Move)
    (reached : session.link = ({} : Link).run session.settings.closeTimeout moves) :
    let timeout := session.settings.closeTimeout
    (∀ code reason, Verdict.ofRequest .opened (.close code reason) = .passed (.close code reason) →
        code.isReserved = false ∧ (CloseBody.ofRequest code reason).Conveys code reason) ∧
      (∀ code reason rest now, session.link.stage = .talking →
        session.link.nextCommand? = some (.close code reason, rest) →
        (session.move (.obey (.ok ()) now)).link.sent =
          session.link.sent ++ [.asked (.close (some (.ofRequest code reason)))]) ∧
      (∀ body, .asked (.close body) ∈ session.link.sent → ∃ code reason,
        .close code reason ∈ Link.orders timeout moves ∧ body = some (.ofRequest code reason) ∧
          (CloseBody.ofRequest code reason).Conveys code reason ∧
          (session.CanHear (.ofRequest code reason) → ∃ same, (same == code) = true ∧
            session.Ends (session.hear (.ofRequest code reason)) (.ofReport same reason false))) ∧
      (∀ body, session.CanHear body →
        ∃ code : CloseCode, code.number.toInt = (session.counted body).status.toNat ∧
          session.Ends (session.hear body)
            (.ofReport code (session.counted body).reason session.isTalking)) ∧
      (session.link.lifecycle.state = .opened → session.link.stage.keepsQueue →
        ∀ body writable, ∃ code : CloseCode, code.number.toInt = body.status.toNat ∧
          (session.link.turn timeout (.arrive (.message (.close (some body))) writable)).signals =
            [.closed code body.reason session.link.stage.ownClose?.isNone]) := by
  intro timeout
  refine ⟨?_, ?_, ?_, fun body can => exists_ends reached can, ?_⟩
  · intro code reason accepted
    have proper := Verdict.proper_of_passed accepted
    exact ⟨CloseCode.isReserved_of_isValid proper.1, CloseBody.conveys_ofRequest proper⟩
  · intro code reason rest now talking next
    simp only [move, Link.step, talking, Link.read, next, Link.meet]
    rfl
  · intro body sent
    rw [reached] at sent
    obtain ⟨code, reason, ordered, carried, rfl⟩ := Link.exists_order sent
    have conveys := CloseBody.conveys_ofRequest (Link.proper_of_mem_orders _ ordered)
    refine ⟨code, reason, ordered, rfl, conveys, ?_⟩
    intro can
    have going := can.going
    rw [reached] at going
    obtain ⟨ours, deadline, closing⟩ := Link.exists_closing carried going
    have silent : session.isTalking = false := by rw [isTalking, reached, closing]
    obtain ⟨same, number, ends⟩ := exists_ends reached can
    have unchanged : session.counted (.ofRequest code reason) = .ofRequest code reason := by
      rw [counted, silent]
      rfl
    rw [unchanged] at number ends
    rw [silent] at ends
    refine ⟨same, ?_, ends⟩
    rw [CloseCode.beq_iff]
    exact Int32.toInt_inj.mp (number.trans conveys.status_eq)
  · intro opened going body writable
    obtain ⟨stage_open, -, timed⟩ := open_of_state reached opened
    exact Link.exists_closed stage_open going timed body writable

/-- A close of our own, and its echo. -/
theorem closes_of_echo :
    let moves : List Move := [.connect, .ask (.close (.other 4000) "bye"), .obey (.ok ()) .origin]
    let session : Session :=
      { endpoint := ⟨"ws://h/", ⟨"ws", [], [], some (.name ['h']), none, ['/'], none, none⟩⟩
        settings := {}
        accept := ""
        dial := .ok ⟨some "ws", "h", "/"⟩
        link := ({} : Link).run none moves }
    let body : CloseBody := .ofRequest (.other 4000) "bye"
    .asked (.close (some body)) ∈ session.link.sent ∧ session.CanHear body ∧
      ∃ same, (same == CloseCode.other 4000) = true ∧
        session.Ends (session.hear body) (.ofReport same "bye" false) := by
  intro moves session body
  have sent : .asked (.close (some body)) ∈ session.link.sent := List.mem_singleton_self _
  have fits : body.encode.length ≤ Wire.Message.maxControl := by
    rw [CloseBody.length_encode]
    decide
  have can : session.CanHear body :=
    ⟨rfl, rfl, rfl, fits, Nat.le_trans fits (by decide)⟩
  obtain ⟨-, -, echoed, -⟩ := closes_of_run session moves rfl
  obtain ⟨code, reason, ordered, -, -, told⟩ := echoed (some body) sent
  have only : Link.orders session.settings.closeTimeout moves = [.close (.other 4000) "bye"] := rfl
  rw [only, List.mem_singleton] at ordered
  cases ordered
  exact ⟨sent, can, told can⟩

/-! ## Closes that do not come through -/

/-- A script in which the server grants the connection. -/
def granted (settings : Settings) (acts : List Act) : Script :=
  { url := "ws://127.0.0.1:40000/"
    settings
    server := .answering
      ("HTTP/1.1 101 Switching Protocols\r\nConnection: Upgrade\r\nUpgrade: websocket\r\n"
        ++ "Sec-WebSocket-Accept: s3pPLMBiTxaQ9kYGzzhZRbK+xOo=\r\n\r\n") [] false
    accept := "s3pPLMBiTxaQ9kYGzzhZRbK+xOo="
    acts }

/-- The server writes a close. -/
def closing (body : CloseBody) : Act :=
  .frames [{ opcode := Wire.Opcode.close.number, payload := body.encode }]

/-- The numbers of the closes that a host is told of. -/
def closeNumbers (script : Script) : List Int :=
  match run script with
  | .error _ => []
  | .ok report => report.notices.filterMap fun
    | .closed record => some record.code.number.toInt
    | .opened | .message _ | .failed _ => none

/-- **Not every close comes through as it is.**  Not every status is shown to the host if the server
closes first: 999 is not.  Nor is every echo of our own close told, whatever the limits are. -/
theorem altered_closes :
    (¬ ∀ status : UInt16,
        closeNumbers (granted {} [closing ⟨status, ""⟩]) = [(status.toNat : Int)]) ∧
      ¬ ∀ limits : Limits, closeNumbers (granted { limits }
        [.ask (.close (.other 4000) "bye") true, closing ⟨4000, "bye"⟩]) = [4000] := by
  have violation : closeNumbers (granted {} [closing ⟨999, ""⟩]) = [1002] := by decide +kernel
  have refused : closeNumbers (granted { limits := ⟨4, 1024⟩ }
      [.ask (.close (.other 4000) "bye") true, closing ⟨4000, "bye"⟩]) = [1006] := by
    decide +kernel
  refine ⟨fun every => ?_, fun every => ?_⟩
  · have same := every 999
    rw [violation] at same
    exact absurd same (by decide)
  · have same := every ⟨4, 1024⟩
    rw [refused] at same
    exact absurd same (by decide)

end Session

end WebSocketClient
