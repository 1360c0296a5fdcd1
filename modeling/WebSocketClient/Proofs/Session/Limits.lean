import WebSocketClient.Proofs.Session.Plays

/-!
# Limits on what comes from the server

A server may cut its messages into frames as it likes, put control frames in between, and go on
while the host closes the connection.  Whatever it does, every text that the host is told comes from
a parcel of frames none of which is longer than frames may be, and the text itself is no longer than
messages may be.  This is so in every play (`Session.limits_of_play`), and hence in every session of
a script (`Session.texts_of_script`).

The first frame that goes beyond a limit ends the connection (`Session.BreaksOff`).  The host is
told of a failure of the transport and then of an abnormal close, which is neither the peer's nor
clean, and nothing more.  Nothing behind such a frame is ever read
(`Session.Reads.deaf_of_exceeds`), and if all frames before it are in order, the host was told all
their texts (`Session.Reads.told_of_exceeds`).
-/

namespace WebSocketClient

set_option autoImplicit false

/-! ## Links that listen -/

namespace Link

/-- A link that listens is open for its host, which was told of that and of texts, and of nothing
else. -/
theorem told_of_listens {link : Link} {signals : List Signal} (standing : Standing link signals)
    (listens : link.stage.listens) : link.lifecycle = ⟨.opened, none⟩ ∧
      link.told = .opened :: (link.told.filterMap Notice.text?).map .message := by
  cases standing with
  | connecting stage_eq =>
      rw [stage_eq] at listens
      cases listens
  | opened payloads stage_open signals_eq lifecycle_eq told_eq =>
      refine ⟨lifecycle_eq, ?_⟩
      have texts : (payloads.map Notice.message).filterMap Notice.text? = payloads := by
        rw [List.filterMap_map]
        exact List.filterMap_some
      rw [told_eq, List.filterMap_cons_none rfl, texts]
  | ended stage_eq =>
      rw [stage_eq] at listens
      cases listens

/-- A message that is not a close leaves the transport as far as it was. -/
theorem stage_of_message (timeout : Option Duration) (link : Link) {message : Wire.Message}
    (goes : message.isClose = false) (writable : Bool) :
    (link.step timeout (.arrive (.message message) writable)).stage = link.stage := by
  obtain ⟨lifecycle, stage, queue, handle, told, sent⟩ := link
  show (stage.take timeout (.arrived (.message message) writable)).stage = stage
  cases message with
  | close body => cases goes
  | _ => cases stage <;> rfl

end Link

namespace Session

/-- A session that listens is open for its host, which was told its texts. -/
theorem Reached.told_of_listens {session : Session} (reached : session.Reached)
    (listens : session.link.stage.listens) : session.link.lifecycle = ⟨.opened, none⟩ ∧
      session.link.told = .opened :: session.texts.map .message := by
  obtain ⟨moves, link_eq⟩ := reached
  have standing := Link.standing_run session.settings.closeTimeout moves
  rw [← link_eq] at standing
  exact Link.told_of_listens standing listens

end Session

/-! ## Sessions that break off -/

/-- What the host is told last if the transport of an open connection fails: of the failure, and of
an abnormal close that is neither the peer's nor clean. -/
def TransportFault.farewell (fault : TransportFault) : Farewell where
  failure := some (.transport fault.message)
  record :=
    { code := .abnormal
      reason := (Failure.transport fault.message).message
      remote := false
      clean := false }

namespace Session

/-- A session breaks off with a fault: its host is told of it, and whatever happens afterwards, it
is told nothing more. -/
structure BreaksOff (before after : Session) (fault : TransportFault) : Prop where
  told_eq : after.link.told = before.link.told ++ fault.farewell.notices
  lifecycle_eq : after.link.lifecycle = ⟨.closed, some fault.farewell.record⟩
  stage_eq : after.link.stage = .finished
  stays : ∀ beats, (after.play beats).link.told = after.link.told ∧
    (after.play beats).link.lifecycle = after.link.lifecycle

variable {session : Session} {stream : List UInt8} {frames : List Wire.Frame}

/-- A session that is over stays as it is for its host. -/
theorem play_of_finished (finished : session.link.stage = .finished) (beats : List Beat) :
    (session.play beats).link.told = session.link.told ∧
      (session.play beats).link.lifecycle = session.link.lifecycle := by
  obtain ⟨-, moves, run⟩ := Moves.play session beats
  have ended : session.link.stage.keepsQueue = false := congrArg Stage.keepsQueue finished
  obtain ⟨-, lifecycle, told, -⟩ := Link.run_of_ended session.settings.closeTimeout ended moves
  rw [run]
  exact ⟨told, lifecycle⟩

/-- **A fault breaks off a session** as long as the transport listens. -/
theorem breaksOff (reached : session.Reached) (listens : session.link.stage.listens)
    (fault : TransportFault) : BreaksOff session (session.breakOff fault) fault := by
  obtain ⟨opened, -⟩ := reached.told_of_listens listens
  have took := Link.took_step session.settings.closeTimeout session.link
    (.arrive (.fault fault.message) false)
  rw [Link.turn_of_fault listens] at took
  have told := took.told_eq
  have lifecycle := took.lifecycle_eq
  rw [opened] at told lifecycle
  exact ⟨told, lifecycle, took.stage_eq, play_of_finished took.stage_eq⟩

/-! ## Reads -/

/-- A transport that does not listen reads nothing. -/
theorem beat_of_deaf (deaf : session.link.stage.listens = false) (writable : Bool) :
    session.beat (.read writable) = session := by
  simp only [beat, deaf, Bool.false_eq_true, if_false]

theorem play_of_deaf (deaf : session.link.stage.listens = false) (writables : List Bool) :
    session.play (writables.map .read) = session := by
  induction writables with
  | nil => rfl
  | cons writable writables ih =>
      show (session.beat (.read writable)).play (writables.map .read) = session
      rw [beat_of_deaf deaf, ih]

/-- A transport that listens and can write goes on listening after a message that is not a
close. -/
theorem listens_receive (listens : session.link.stage.listens) (whole : session.broken = false)
    {message : Wire.Message} (goes : message.isClose = false) :
    (session.receive message).link.stage.listens := by
  have same : (if session.isTalking then message.admitted else message) = message := by
    cases message with
    | close body => cases goes
    | _ => exact ite_self _
  unfold receive
  dsimp only
  rw [same, whole, Bool.and_false, Bool.false_and, Bool.false_and, if_neg Bool.false_ne_true]
  show (session.link.step _ _).stage.listens
  rw [Link.stage_of_message _ _ goes]
  exact listens

namespace Reads

/-- **The first frame beyond a limit breaks off the session**, whether replies can be written or
not. -/
theorem exists_breaksOff (reads : Reads session stream frames) (reached : session.Reached)
    (listens : session.link.stage.listens)
    (exceeds : Wire.Exceeds session.settings.limits (Wire.Parcels.ofFrames frames).begun
      session.intake.bytes) (writable : Bool) :
    ∃ fault, BreaksOff session (session.beat (.read writable)) (.wire fault) := by
  obtain ⟨fault, read⟩ := Wire.Intake.exists_fault_of_exceeds reads.holds exceeds
  refine ⟨fault, ?_⟩
  simp only [Session.beat, if_pos listens, Session.readNext, read]
  have again : Reached { session with broken := !writable } := reached
  obtain ⟨told, lifecycle, stage, stays⟩ := breaksOff again listens (.wire fault)
  exact ⟨told, lifecycle, stage, stays⟩

/-- A frame that is there is read, or the transport no longer listens. -/
theorem read_of_leads (reads : Reads session stream frames) (reached : session.Reached)
    {frame : Wire.Frame} {rest : List UInt8} (leads : frame.Leads session.intake.bytes rest)
    {writable : Bool} (listens : (session.beat (.read writable)).link.stage.listens) :
    Reads (session.beat (.read writable)) stream (frames ++ [frame]) ∧
      (session.beat (.read writable)).intake.bytes = rest := by
  cases before : session.link.stage.listens with
  | false =>
      rw [beat_of_deaf before, before] at listens
      cases listens
  | true =>
      simp only [Session.beat, if_pos before] at listens ⊢
      have again : Reads { session with broken := !writable } stream frames :=
        reads.of_same rfl rfl rfl
      have reachedAgain : Reached { session with broken := !writable } := reached
      rcases again.readNext reached before with ⟨nothing, -⟩ | ⟨fault, broke⟩ | ⟨other, led, longer⟩
      · exact absurd nothing (Wire.Intake.next?_ne_none leads)
      · rw [broke, (breaksOff reachedAgain before _).stage_eq] at listens
        cases listens
      · obtain ⟨rfl, rfl⟩ := leads.unique led
        exact ⟨longer, rfl⟩

/-- A frame in order leaves a transport that can write listening. -/
theorem listens_of_inOrder (reads : Reads session stream frames)
    (listens : session.link.stage.listens) {frame : Wire.Frame} {rest : List UInt8}
    (leads : frame.Leads session.intake.bytes rest)
    (inOrder : frame.InOrder session.settings.limits (Wire.Parcels.ofFrames frames).begun) :
    (session.beat (.read true)).link.stage.listens := by
  obtain ⟨message, fragments, read, goes⟩ :=
    Wire.Intake.exists_next?_of_inOrder reads.holds leads inOrder
  simp only [Session.beat, if_pos listens, Session.readNext, read]
  cases message with
  | none => exact listens
  | some message =>
      refine listens_receive ?_ rfl (goes message rfl)
      exact listens

/-! ## Frames beyond a limit -/

section

variable {all more : List Wire.Frame} {rest : List UInt8}

/-- **Nothing beyond a limit is ever read.** -/
theorem exists_more (reads : Reads session stream frames) (begins : Wire.Begins stream all rest)
    (exceeds : Wire.Exceeds session.settings.limits (Wire.Parcels.ofFrames all).begun rest) :
    ∃ more, all = frames ++ more ∧ Wire.Begins session.intake.bytes more rest := by
  rcases reads.begins.cases begins with ahead | ⟨beyond, frames_eq, others⟩
  · exact ahead
  cases others with
  | nil => exact ⟨[], by rw [frames_eq, List.append_nil, List.append_nil], .nil _⟩
  | cons leads later =>
      have fits := reads.fits
      rw [frames_eq, Wire.Parcels.along_append] at fits
      exact absurd exceeds (fits.2.1.not_exceeds leads)

/-- **After as many reads the transport does not listen**, whatever the frames before the limit
are. -/
theorem deaf_of_exceeds (reads : Reads session stream frames) (reached : session.Reached)
    (begins : Wire.Begins session.intake.bytes more rest)
    (exceeds : Wire.Exceeds session.settings.limits (Wire.Parcels.ofFrames (frames ++ more)).begun
      rest) {writables : List Bool} (enough : more.length < writables.length) :
    (session.play (writables.map .read)).link.stage.listens = false := by
  induction writables generalizing session frames more with
  | nil => exact absurd enough (Nat.not_lt_zero _)
  | cons writable writables ih =>
      show ((session.beat (.read writable)).play (writables.map .read)).link.stage.listens = false
      have moves := Moves.beat session (.read writable)
      cases listens : (session.beat (.read writable)).link.stage.listens with
      | false =>
          rw [play_of_deaf listens]
          exact listens
      | true =>
          cases begins with
          | nil =>
              rw [List.append_nil] at exceeds
              cases before : session.link.stage.listens with
              | false =>
                  rw [beat_of_deaf before, before] at listens
                  cases listens
              | true =>
                  obtain ⟨fault, broken⟩ := reads.exists_breaksOff reached before exceeds writable
                  rw [broken.stage_eq] at listens
                  cases listens
          | cons leads later =>
              obtain ⟨longer, bytes_eq⟩ := reads.read_of_leads reached leads listens
              refine ih longer (reached.moves moves) ?_ ?_ (Nat.lt_of_succ_lt_succ enough)
              · rw [bytes_eq]
                exact later
              · rw [moves.settings_eq, List.append_assoc]
                exact exceeds

/-- **If all frames before the limit are in order, the host was told all their texts** when the
session breaks off. -/
theorem told_of_exceeds (reads : Reads session stream frames) (reached : session.Reached)
    (listens : session.link.stage.listens) (begins : Wire.Begins session.intake.bytes more rest)
    (exceeds : Wire.Exceeds session.settings.limits (Wire.Parcels.ofFrames (frames ++ more)).begun
      rest)
    (inOrder : (Wire.Parcels.ofFrames frames).Along (Wire.Frame.InOrder session.settings.limits)
      more) {count : Nat} (enough : more.length < count) :
    ∃ texts fault, List.Forall₂ Wire.Bears (Wire.Parcels.ofFrames (frames ++ more)).texts texts ∧
      (session.play (List.replicate count (.read true))).link.told =
        .opened :: texts.map .message ++ (TransportFault.wire fault).farewell.notices := by
  induction count generalizing session frames more with
  | zero => exact absurd enough (Nat.not_lt_zero _)
  | succ count ih =>
      show ∃ texts fault, _ ∧ ((session.beat (.read true)).play (List.replicate count _)).link.told
        = _
      have moves := Moves.beat session (.read true)
      cases begins with
      | nil =>
          rw [List.append_nil] at exceeds ⊢
          obtain ⟨fault, broken⟩ := reads.exists_breaksOff reached listens exceeds true
          refine ⟨session.texts, fault, reads.bears, ?_⟩
          rw [(broken.stays _).1, broken.told_eq, (reached.told_of_listens listens).2]
      | cons leads later =>
          have goesOn := reads.listens_of_inOrder listens leads inOrder.1
          obtain ⟨longer, bytes_eq⟩ := reads.read_of_leads reached leads goesOn
          rw [← bytes_eq] at later
          have others := inOrder.2
          rw [← Wire.Parcels.ofFrames_concat] at others
          rw [← moves.settings_eq] at exceeds others
          rw [← List.singleton_append, ← List.append_assoc] at exceeds ⊢
          exact ih longer (reached.moves moves) goesOn later exceeds others
            (Nat.lt_of_succ_lt_succ enough)

end

/-- A text that was told is no longer than messages may be. -/
theorem utf8ByteSize_le (reads : Reads session stream frames) {text : String}
    (told : text ∈ session.texts) : text.utf8ByteSize ≤ session.settings.limits.message := by
  obtain ⟨-, short, -⟩ := Wire.length_le_of_along reads.fits
  refine Wire.utf8ByteSize_le_of_bears reads.bears ?_ text told
  intro parcel member
  exact short parcel (List.mem_of_mem_filter member)

end Reads

/-! ## Whole sessions -/

/-- **The texts of a script** come from the frames at the start of what the server has written
behind its answer, and keep to the limits. -/
theorem texts_of_script (script : Script) (endpoint : Endpoint) :
    let session := played script endpoint
    let limits := script.settings.limits
    ∃ stream frames rest, IsBehindAnswer script.accept (written script) stream ∧
      Wire.Begins stream frames rest ∧
      (∀ frame ∈ frames, frame.payload.length ≤ limits.frame) ∧
      List.Forall₂ Wire.Bears (Wire.Parcels.ofFrames frames).texts session.texts ∧
      ∀ text ∈ session.texts, text.utf8ByteSize ≤ limits.message := by
  intro session limits
  let fresh : Session :=
    { endpoint
      settings := script.settings
      accept := script.accept
      dial := session.dial }
  obtain ⟨beats, link_eq, behind⟩ := exists_play script endpoint fresh rfl rfl rfl rfl
  have unread : Reads fresh [] [] := .initial rfl rfl
  obtain ⟨frames, reads⟩ := unread.play (.initial rfl) beats
  have settings_eq : (fresh.play beats).settings = script.settings :=
    (Moves.play fresh beats).settings_eq
  have texts_eq : (fresh.play beats).texts = session.texts := by
    rw [texts, texts, link_eq]
  obtain ⟨short, -, -⟩ := Wire.length_le_of_along reads.fits
  refine ⟨_, frames, _, behind, reads.begins, ?_, ?_, ?_⟩
  · rw [settings_eq] at short
    exact short
  · rw [← texts_eq]
    exact reads.bears
  · intro text told
    rw [← texts_eq] at told
    have within := reads.utf8ByteSize_le told
    rw [settings_eq] at within
    exact within

/-- **The limits of a connection.**  Take any settings, any way in which bytes come from the server
and are read, and anything that the host and the transport do in between, a close included.  The
frames that were read are those at the start of the stream.  None is longer than frames may be; they
make up the parcels of the texts that the host was told, and no text is longer than messages may be.

* If the transport listens and the next frame goes beyond a limit, alone or as part of its message,
  then reading it breaks off the session.
* Wherever the stream goes beyond a limit for the first time, a transport that has read the frames
  before that place does not listen any longer, whatever these frames are.
* If these frames are in order, then the host was told all texts that they complete, and after them
  of the failure and of an abnormal close. -/
theorem limits_of_play (endpoint : Endpoint) (settings : Settings) (accept : String)
    (dial : Except TransportFault Dial) (beats : List Beat) :
    let session := ({ endpoint, settings, accept, dial } : Session).play beats
    ∃ frames, Wire.Begins (Session.stream beats) frames session.intake.bytes ∧
      (∀ frame ∈ frames, frame.payload.length ≤ settings.limits.frame) ∧
      (∀ parcel ∈ (Wire.Parcels.ofFrames frames).texts, parcel.Sublist frames) ∧
      List.Forall₂ Wire.Bears (Wire.Parcels.ofFrames frames).texts session.texts ∧
      (∀ text ∈ session.texts, text.utf8ByteSize ≤ settings.limits.message) ∧
      (session.link.stage.listens →
        Wire.Exceeds settings.limits (Wire.Parcels.ofFrames frames).begun session.intake.bytes →
        ∀ writable, ∃ fault, BreaksOff session (session.beat (.read writable)) (.wire fault)) ∧
      ∀ all rest, Wire.Begins (Session.stream beats) all rest →
        Wire.Exceeds settings.limits (Wire.Parcels.ofFrames all).begun rest →
        (∀ writables : List Bool, all.length < writables.length →
          (session.play (writables.map .read)).link.stage.listens = false) ∧
        (session.link.stage.listens →
          ({} : Wire.Parcels).Along (Wire.Frame.InOrder settings.limits) all →
          ∀ count, all.length < count → ∃ texts fault,
            List.Forall₂ Wire.Bears (Wire.Parcels.ofFrames all).texts texts ∧
            (session.play (List.replicate count (.read true))).link.told =
              .opened :: texts.map .message ++ (TransportFault.wire fault).farewell.notices) := by
  intro session
  have moves := Moves.play { endpoint, settings, accept, dial } beats
  have reached : session.Reached := (Reached.initial rfl).moves moves
  have unread : Reads { endpoint, settings, accept, dial } [] [] := .initial rfl rfl
  obtain ⟨frames, reads⟩ := unread.play (.initial rfl) beats
  have same : session.settings = settings := moves.settings_eq
  rw [← same]
  obtain ⟨short, -, -⟩ := Wire.length_le_of_along reads.fits
  refine ⟨frames, reads.begins, short, ?_, reads.bears, fun _ => reads.utf8ByteSize_le,
    reads.exists_breaksOff reached, ?_⟩
  · intro parcel member
    exact (Wire.Parcels.sublist_ofFrames frames).1 parcel (List.mem_of_mem_filter member)
  intro all rest begins exceeds
  obtain ⟨more, rfl, ahead⟩ := reads.exists_more begins exceeds
  rw [List.length_append]
  refine ⟨?_, ?_⟩
  · intro writables enough
    exact reads.deaf_of_exceeds reached ahead exceeds (by omega)
  · intro listens inOrder count enough
    rw [Wire.Parcels.along_append] at inOrder
    exact reads.told_of_exceeds reached listens ahead exceeds inOrder.2 (by omega)

/-- A message that becomes too long with its second frame, behind another text with a ping between
its frames, and with a close of the host in the middle of it. -/
theorem limits_of_long_message :
    let limits : Limits := ⟨2, 3⟩
    let frames : List Wire.Frame :=
      [{ fin := false, opcode := .text, payload := [0x61, 0xc3] }, { opcode := .ping },
        { opcode := .continuation, payload := [0xa9] },
        { fin := false, opcode := .text, payload := [0x62, 0x62] }]
    let rest : List UInt8 := [0x80, 0x02, 0x62, 0x62]
    let beats : List Beat :=
      [.move .connect rfl, .feed [0x01, 0x02, 0x61, 0xc3, 0x89, 0x00], .read true,
        .move (.ask .normalClose) rfl, .move (.obey (.ok ()) .origin) rfl,
        .feed [0x80, 0x01, 0xa9, 0x01, 0x02, 0x62, 0x62, 0x80, 0x02, 0x62, 0x62]]
    let endpoint : Endpoint :=
      ⟨"ws://h/", "ws", [], [], some (.name ['h']), none, ['/'], none, none⟩
    let settings : Settings := { limits }
    let dial : Except TransportFault Dial := .ok ⟨some "ws", "h", "/"⟩
    let session := ({ endpoint, settings, accept := "", dial } : Session).play beats
    Wire.Begins (Session.stream beats) frames rest ∧
      Wire.Exceeds limits (Wire.Parcels.ofFrames frames).begun rest ∧
      session.link.stage.listens ∧
      ({} : Wire.Parcels).Along (Wire.Frame.InOrder limits) frames ∧
      ∃ fault, (session.play (List.replicate 5 (.read true))).link.told =
        [.opened, .message "aé"] ++ (TransportFault.wire fault).farewell.notices := by
  intro limits frames rest beats endpoint settings dial session
  have begins : Wire.Begins (Session.stream beats) frames rest :=
    .cons rfl (.cons rfl (.cons rfl (.cons rfl (.nil rest))))
  have exceeds : Wire.Exceeds limits (Wire.Parcels.ofFrames frames).begun rest := by
    have leads : Wire.Frame.Leads { opcode := .continuation, payload := [0x62, 0x62] } rest [] :=
      rfl
    exact .message leads rfl (by decide)
  have listens : session.link.stage.listens := by decide +kernel
  have encoded : Utf8.encode "aé" = [0x61, 0xc3, 0xa9] := by decide +kernel
  have others : Utf8.encode "bb" = [0x62, 0x62] := by decide +kernel
  have inOrder : ({} : Wire.Parcels).Along (Wire.Frame.InOrder limits) frames := by
    have first : Wire.OfKind .text (frames.take 1) := .single rfl
    have next : Wire.OfKind .text (frames.drop 3) := .single rfl
    refine ⟨⟨⟨rfl, rfl⟩, by decide, .data rfl first (by decide) ?_⟩,
      ⟨⟨rfl, rfl⟩, by decide, .control (.inl rfl) rfl (by decide)⟩,
      ⟨⟨rfl, rfl⟩, by decide, .data rfl (first.concat rfl) (by decide) ?_⟩,
      ⟨⟨rfl, rfl⟩, by decide, .data rfl next (by decide) ?_⟩, trivial⟩
    · exact fun _ => ⟨"aé", [0xa9], encoded.symm, fun last => by cases last⟩
    · exact fun _ => ⟨"aé", [], encoded.symm, fun _ => rfl⟩
    · exact fun _ => ⟨"bb", [], others.symm, fun _ => rfl⟩
  refine ⟨begins, exceeds, listens, inOrder, ?_⟩
  obtain ⟨-, -, -, -, -, -, -, ends⟩ :=
    limits_of_play endpoint settings "" dial beats
  obtain ⟨-, complete⟩ := ends frames rest begins exceeds
  obtain ⟨texts, fault, bears, told⟩ := complete listens inOrder 5 (by decide)
  refine ⟨fault, ?_⟩
  cases bears with
  | cons bears none =>
      cases none
      rename_i text
      have same := Utf8.decode_encode text
      rw [← bears.content_eq] at same
      have decoded : Utf8.decode [0x61, 0xc3, 0xa9] = .ok "aé" := by decide +kernel
      cases same.symm.trans decoded
      exact told

end Session

end WebSocketClient
