import WebSocketClient.Proofs.Link.Deadline
import WebSocketClient.Proofs.Link.Inbound
import WebSocketClient.Proofs.Session
import WebSocketClient.Proofs.Wire.Stream

/-!
# Sessions frame by frame

A session reads all that has come at once.  Here it is taken apart into beats, in which bytes come,
or at most one frame is read, or the host or the transport does anything else.  Beats can follow
each other in any order, so what is true after all beats does not depend on how much comes at a
time, or when the host asks for something.

All that a play has read are frames at the start of the stream, and they keep to the limits
(`Session.Reads.play`).  The host was told the texts of their parcels.
-/

namespace WebSocketClient

set_option autoImplicit false

/-- Whether a message arrives in a move. -/
def Move.bringsMessage : Move → Bool
  | .arrive (.message _) _ => true
  | _ => false

/-! ## Texts that are told -/

namespace Link

variable {timeout : Option Duration} {link : Link} {moves : List Move}

/-- A move adds the texts that it brings to those that the host was told. -/
theorem texts_step (reached : link = ({} : Link).run timeout moves) (move : Move) :
    (link.step timeout move).told.filterMap Notice.text? =
      link.told.filterMap Notice.text? ++ (link.yielded move).filterMap Arrival.text? := by
  have after : (({} : Link).run timeout (moves ++ [move])).told.filterMap Notice.text? =
      (items timeout (moves ++ [move])).filterMap Arrival.text? := texts_run _
  rw [run_concat, items, gather_concat, List.filterMap_append] at after
  rw [reached, after, texts_run]
  rfl

/-- Without a message no text is told. -/
theorem texts_of_silent (reached : link = ({} : Link).run timeout moves) {move : Move}
    (silent : move.bringsMessage = false) :
    (link.step timeout move).told.filterMap Notice.text? =
      link.told.filterMap Notice.text? := by
  have nothing : (link.yielded move).filterMap Arrival.text? = [] := by
    cases move with
    | arrive arrival writable =>
        simp only [yielded]
        split
        · cases arrival with
          | message message => cases silent
          | _ => rfl
        · rfl
    | _ => rfl
  rw [texts_step reached, nothing, List.append_nil]

/-- A fault ends the conversation as long as the transport listens. -/
theorem turn_of_fault {link : Link} (listens : link.stage.listens) (timeout : Option Duration)
    (text : String) (writable : Bool) : link.turn timeout (.arrive (.fault text) writable) =
      { stage := .finished, signals := [.failed (.transport text)] } := by
  show link.stage.take timeout _ = _
  cases stage : link.stage with
  | talking => rfl
  | closing code deadline => rfl
  | _ =>
      rw [stage] at listens
      cases listens

end Link

theorem Wire.Message.text?_admitted (message : Wire.Message) :
    message.admitted.text? = message.text? := by
  cases message with
  | close body => cases body <;> rfl
  | _ => rfl

namespace Session

/-! ## Beats -/

/-- The transport reads the next frame, if it is there. -/
def readNext (session : Session) : Session :=
  match session.intake.next? session.settings.limits with
  | none => session
  | some (.error fault) => session.breakOff (.wire fault)
  | some (.ok (none, rest)) => { session with intake := rest }
  | some (.ok (some message, rest)) => { session with intake := rest }.receive message

/-- The least that can happen in a session. -/
inductive Beat where
  /-- Bytes come from the server, behind its answer to the opening request. -/
  | feed (bytes : List UInt8)
  /-- The transport reads the next frame; a reply to it can be written or not. -/
  | read (writable : Bool)
  /-- The host or the transport does something else. -/
  | move (move : Move) (silent : move.bringsMessage = false)

/-- The bytes that come in a beat. -/
def Beat.bytes : Beat → List UInt8
  | feed bytes => bytes
  | read _ | move .. => []

/-- The effect of a beat.  Frames are read only while the transport listens. -/
def beat (session : Session) : Beat → Session
  | .feed bytes => session.feed bytes
  | .read writable =>
    if session.link.stage.listens then { session with broken := !writable }.readNext else session
  | .move move _ => session.move move

/-- The effect of several beats. -/
def play (session : Session) (beats : List Beat) : Session :=
  beats.foldl beat session

/-- The bytes that come in several beats. -/
def stream (beats : List Beat) : List UInt8 :=
  beats.flatMap Beat.bytes

/-- The texts that the host was told. -/
def texts (session : Session) : List String :=
  session.link.told.filterMap Notice.text?

/-! ## What a beat leaves as it is -/

theorem intake_receive (session : Session) (message : Wire.Message) :
    (session.receive message).intake = session.intake := by
  unfold receive
  dsimp only
  generalize (if session.isTalking then message.admitted else message) = taken
  split <;> rfl

theorem settings_receive (session : Session) (message : Wire.Message) :
    (session.receive message).settings = session.settings :=
  (Moves.receive session message).settings_eq

namespace Moves

theorem readNext (session : Session) : Moves session session.readNext := by
  unfold Session.readNext
  split
  · exact .refl session
  · exact .move session _
  · exact .of_same rfl rfl
  · exact .behind (.receive _ _) rfl rfl

theorem beat (session : Session) (beat : Beat) : Moves session (session.beat beat) := by
  cases beat with
  | feed bytes => exact .of_same rfl rfl
  | read writable =>
      simp only [Session.beat]
      split
      · exact .behind (.readNext _) rfl rfl
      · exact .refl session
  | move move silent => exact .move session move

theorem play (session : Session) (beats : List Beat) : Moves session (session.play beats) :=
  .foldl .beat beats session

end Moves

/-! ## Reading one frame -/

/-- Without a message no text is told. -/
theorem texts_move {session : Session} (reached : session.Reached) {move : Move}
    (silent : move.bringsMessage = false) : (session.move move).texts = session.texts := by
  obtain ⟨moves, link_eq⟩ := reached
  exact Link.texts_of_silent link_eq silent

/-- A message that arrives while the transport listens tells its text, if it has one. -/
theorem texts_arrive {session : Session} (reached : session.Reached)
    (listens : session.link.stage.listens) (message : Wire.Message) (writable : Bool) :
    (session.move (.arrive (.message message) writable)).texts =
      session.texts ++ message.text?.toList := by
  obtain ⟨moves, link_eq⟩ := reached
  have brought : (session.link.yielded (.arrive (.message message) writable)).filterMap
      Arrival.text? = message.text?.toList := by
    rw [Link.yielded, if_pos listens]
    cases message <;> rfl
  have texts := Link.texts_step link_eq (.arrive (.message message) writable)
  rw [brought] at texts
  exact texts

/-- A message that is received tells its text, if it has one. -/
theorem texts_receive {session : Session} (reached : session.Reached)
    (listens : session.link.stage.listens) (message : Wire.Message) :
    (session.receive message).texts = session.texts ++ message.text?.toList := by
  have same : (if session.isTalking then message.admitted else message).text? =
      message.text? := by
    split
    · exact message.text?_admitted
    · rfl
  unfold receive
  dsimp only
  generalize (if session.isTalking then message.admitted else message) = taken at same
  have arrived := texts_arrive reached listens taken (!session.broken)
  rw [same] at arrived
  split
  · rw [breakOff, texts_move (reached.moves (.move session _)) rfl, arrived]
  · exact arrived

/-! ## Plays -/

/-- What a session has read of a stream.  Frames at the start of it were read, they keep to the
limits, and the host was told the texts of their parcels. -/
structure Reads (session : Session) (stream : List UInt8) (frames : List Wire.Frame) : Prop where
  begins : Wire.Begins stream frames session.intake.bytes
  fits : ({} : Wire.Parcels).Along (Wire.Frame.Fits session.settings.limits) frames
  holds : Wire.Holds session.intake.fragments (Wire.Parcels.ofFrames frames).begun
  bears : List.Forall₂ Wire.Bears (Wire.Parcels.ofFrames frames).texts session.texts

namespace Reads

variable {session : Session} {stream : List UInt8} {frames : List Wire.Frame}

theorem initial {session : Session} (intake_eq : session.intake = {})
    (link_eq : session.link = {}) : Reads session [] [] := by
  refine ⟨?_, trivial, ?_, ?_⟩
  · rw [intake_eq]
    exact .nil []
  · rw [intake_eq]
    exact .nothing
  · rw [texts, link_eq]
    exact .nil

/-- What was read stays read if neither the bytes nor the texts change. -/
theorem of_same (reads : Reads session stream frames) {after : Session}
    (settings_eq : after.settings = session.settings) (intake_eq : after.intake = session.intake)
    (texts_eq : after.texts = session.texts) : Reads after stream frames := by
  refine ⟨?_, ?_, ?_, ?_⟩
  · rw [intake_eq]
    exact reads.begins
  · rw [settings_eq]
    exact reads.fits
  · rw [intake_eq]
    exact reads.holds
  · rw [texts_eq]
    exact reads.bears

theorem feed (reads : Reads session stream frames) (bytes : List UInt8) :
    Reads (session.feed bytes) (stream ++ bytes) frames :=
  ⟨reads.begins.append_right bytes, reads.fits, reads.holds, reads.bears⟩

/-- A frame that was taken in belongs to what was read, with the text that came of it. -/
theorem take (reads : Reads session stream frames) {after : Session} {message : Option Wire.Message}
    {rest : Wire.Intake} (read : session.intake.next? session.settings.limits =
      some (.ok (message, rest)))
    (settings_eq : after.settings = session.settings) (intake_eq : after.intake = rest)
    (texts_eq : after.texts = session.texts ++ (message.bind Wire.Message.text?).toList) :
    ∃ frame, frame.Leads session.intake.bytes after.intake.bytes ∧
      Reads after stream (frames ++ [frame]) := by
  obtain ⟨frame, leads, frame_le, taken⟩ := Wire.Intake.exists_of_next? read
  have taking := Wire.taking_of_takeFrame reads.holds taken
  rw [← intake_eq] at leads
  refine ⟨frame, leads, reads.begins.concat leads, ?_, ?_, ?_⟩
  · rw [settings_eq]
    exact Wire.Parcels.along_concat.mpr ⟨reads.fits, frame_le, taking.length_le⟩
  · rw [intake_eq, Wire.Parcels.ofFrames_concat]
    exact taking.holds reads.holds
  · rw [texts_eq, Wire.Parcels.ofFrames_concat]
    exact taking.bears reads.bears

/-- **Reading goes on by one frame at most**, and only by a frame that keeps to the limits. -/
theorem readNext (reads : Reads session stream frames) (reached : session.Reached)
    (listens : session.link.stage.listens) :
    (session.intake.next? session.settings.limits = none ∧ session.readNext = session) ∨
      (∃ fault, session.readNext = session.breakOff (.wire fault)) ∨
      ∃ frame, frame.Leads session.intake.bytes session.readNext.intake.bytes ∧
        Reads session.readNext stream (frames ++ [frame]) := by
  unfold Session.readNext
  split
  · rename_i nothing
    exact .inl ⟨nothing, rfl⟩
  · exact .inr (.inl ⟨_, rfl⟩)
  · rename_i rest read
    exact .inr (.inr (reads.take read rfl rfl (List.append_nil _).symm))
  · rename_i message rest read
    have again : Reached { session with intake := rest } := reached
    exact .inr (.inr (reads.take read (settings_receive _ message) (intake_receive _ message)
      (texts_receive again listens message)))

theorem beat (reads : Reads session stream frames) (reached : session.Reached) (beat : Beat) :
    ∃ more, Reads (session.beat beat) (stream ++ beat.bytes) (frames ++ more) := by
  have unread {after : Session} (same : Reads after stream frames) :
      ∃ more, Reads after (stream ++ []) (frames ++ more) :=
    ⟨[], by rw [List.append_nil, List.append_nil]; exact same⟩
  cases beat with
  | feed bytes => exact ⟨[], by rw [List.append_nil]; exact reads.feed bytes⟩
  | read writable =>
      simp only [Session.beat, Beat.bytes]
      split
      · rename_i listens
        have again : Reads { session with broken := !writable } stream frames :=
          reads.of_same rfl rfl rfl
        rcases again.readNext reached listens with ⟨-, same⟩ | ⟨fault, broke⟩ | ⟨frame, -, longer⟩
        · rw [same]
          exact unread again
        · rw [broke]
          exact unread (again.of_same rfl rfl (texts_move reached rfl))
        · exact ⟨[frame], by rw [List.append_nil]; exact longer⟩
      · exact unread reads
  | move move silent => exact unread (reads.of_same rfl rfl (texts_move reached silent))

/-- **What a play has read**, it has read of the bytes that came in all its beats. -/
theorem play (reads : Reads session stream frames) (reached : session.Reached)
    (beats : List Beat) :
    ∃ more, Reads (session.play beats) (stream ++ Session.stream beats) (frames ++ more) := by
  induction beats generalizing session stream frames with
  | nil =>
      refine ⟨[], ?_⟩
      rw [List.append_nil, show Session.stream [] = [] from rfl, List.append_nil]
      exact reads
  | cons beat beats ih =>
      obtain ⟨first, once⟩ := reads.beat reached beat
      obtain ⟨more, all⟩ := ih once (reached.moves (.beat session beat))
      refine ⟨first ++ more, ?_⟩
      rw [List.append_assoc, List.append_assoc] at all
      exact all

end Reads

end Session

end WebSocketClient
