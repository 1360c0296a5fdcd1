import WebSocketClient.Proofs.Session.Frames

/-!
# Sessions of scripts as plays

The session of a script reads all that has come whenever it reads, and a play reads one frame at a
time.  Reading all is reading one frame after another (`Session.receiveAll_eq`), until the transport
does not listen any longer.  So every session of a script has a play beside it that ends with the
same link, and whose stream is what the server wrote behind its answer to the opening request
(`Session.exists_play`).  What is true of all plays is true of all sessions.
-/

namespace WebSocketClient

set_option autoImplicit false

/-! ## Stages -/

/-- What is neither an attempt nor over listens. -/
theorem Stage.cases_listens (stage : Stage) :
    stage = .connecting ∨ stage.listens ∨ stage.keepsQueue = false := by
  cases stage with
  | connecting => exact .inl rfl
  | talking => exact .inr (.inl rfl)
  | closing code deadline => exact .inr (.inl rfl)
  | finished => exact .inr (.inr rfl)
  | lost => exact .inr (.inr rfl)

theorem Stage.listens_of_ended {stage : Stage} (ended : stage.keepsQueue = false) :
    stage.listens = false := by
  cases stage with
  | talking => cases ended
  | closing code deadline => cases ended
  | _ => rfl

namespace Link

variable {timeout : Option Duration} {link : Link}

/-- What arrives while the transport does not listen is lost. -/
theorem step_of_deaf (deaf : link.stage.listens = false) (arrival : Arrival) (writable : Bool) :
    link.step timeout (.arrive arrival writable) = link := by
  obtain ⟨lifecycle, stage, queue, handle, told, sent⟩ := link
  have idle : stage.take timeout (.arrived arrival writable) = stage.idle := by
    cases stage with
    | talking => cases deaf
    | closing code deadline => cases deaf
    | _ => rfl
  simp only [step, meet, idle, Stage.idle, Lifecycle.acceptAll, List.append_nil]

/-- A plain move leaves an attempt under way or ends it. -/
theorem stage_step_of_plain (connecting : link.stage = .connecting) {move : Move}
    (plain : move.isPlain) : (link.step timeout move).stage = .connecting ∨
      (link.step timeout move).stage.keepsQueue = false := by
  rw [(took_step timeout link move).stage_eq, turn]
  split
  · exact .inl connecting
  · rename_i occurrence occurs
    rw [connecting]
    cases occurrence with
    | connected =>
        cases move with
        | connect => cases plain
        | overhear =>
            obtain ⟨-, command, rest, -, other⟩ := eq_overheard occurs
            cases other
        | obey result now =>
            obtain ⟨-, command, rest, -, other⟩ := eq_commanded occurs
            cases other
        | _ => cases occurs
    | failed failure => exact .inr rfl
    | overheard command =>
        cases command with
        | send payload => exact .inl rfl
        | close code reason => exact .inr rfl
    | _ => exact .inl rfl

theorem stage_run_ne_connecting (past : link.stage ≠ .connecting) (moves : List Move) :
    (link.run timeout moves).stage ≠ .connecting := by
  induction moves generalizing link with
  | nil => exact past
  | cons move moves ih => exact ih (stage_step_ne_connecting move past)

end Link

namespace Session

/-! ## Reading all -/

section

variable {session : Session}

theorem receive_of_deaf (deaf : session.link.stage.listens = false) (message : Wire.Message) :
    session.receive message = session := by
  have lost (arrival : Arrival) (writable : Bool) :
      session.move (.arrive arrival writable) = session := by
    rw [move, Link.step_of_deaf deaf]
  unfold receive
  dsimp only
  rw [lost, breakOff, lost, ite_self]

/-- A transport that does not listen may read: its link remains as it is. -/
theorem link_receiveAll_of_deaf (deaf : session.link.stage.listens = false) :
    session.receiveAll.link = session.link := by
  have unheard (messages : List Wire.Message) (intake : Wire.Intake) :
      messages.foldl receive { session with intake } = { session with intake } := by
    induction messages with
    | nil => rfl
    | cons message messages ih =>
        have same : { session with intake }.receive message = { session with intake } := by
          refine receive_of_deaf ?_ message
          exact deaf
        rw [List.foldl_cons, same, ih]
  unfold receiveAll
  dsimp only
  rw [unheard]
  split
  · rfl
  · exact Link.step_of_deaf deaf _ _

/-- Receiving moves the link, and how far depends on the link, the settings and whether replies can
be written. -/
theorem receive_congr (first second : Session) (settings_eq : first.settings = second.settings)
    (link_eq : first.link = second.link) (broken_eq : first.broken = second.broken)
    (message : Wire.Message) : first.receive message =
      { first with link := (second.receive message).link } := by
  have talking : first.isTalking = second.isTalking := by
    rw [isTalking, link_eq]
    rfl
  unfold receive
  dsimp only
  rw [← talking, ← broken_eq]
  generalize (if first.isTalking then message.admitted else message) = taken
  generalize (first.isTalking && first.broken && taken.reply?.isSome && !taken.isClose) = unsent
  cases unsent with
  | false => simp only [move, link_eq, settings_eq, Bool.false_eq_true, if_false]
  | true => simp only [breakOff, move, link_eq, settings_eq, if_true]

theorem link_receive_congr {first second : Session} {message : Wire.Message}
    (settings_eq : first.settings = second.settings) (link_eq : first.link = second.link)
    (broken_eq : first.broken = second.broken) :
    (first.receive message).link = (second.receive message).link := by
  rw [receive_congr first second settings_eq link_eq broken_eq]

/-- What has not been read has no part in receiving. -/
theorem receive_intake (session : Session) (intake : Wire.Intake) (message : Wire.Message) :
    { session with intake }.receive message = { session.receive message with intake } := by
  rw [receive_congr { session with intake } session rfl rfl rfl,
    receive_congr session session rfl rfl rfl]

/-- **Reading all is reading one frame after another.** -/
theorem receiveAll_eq (session : Session) :
    session.receiveAll =
      match session.intake.next? session.settings.limits with
      | some (.ok _) => session.readNext.receiveAll
      | _ => session.readNext := by
  have all := Wire.Intake.readAll_eq session.settings.limits session.intake
  cases read : session.intake.next? session.settings.limits with
  | none =>
      rw [read] at all
      simp only [receiveAll, readNext, all, read]
      rfl
  | some result =>
      rw [read] at all
      cases result with
      | error fault =>
          simp only [receiveAll, readNext, all, read]
          rfl
      | ok taken =>
          obtain ⟨message, rest⟩ := taken
          cases message with
          | none =>
              simp only [receiveAll, readNext, all, read]
              rfl
          | some message =>
              simp only [receiveAll, readNext, all, read, settings_receive, Option.toList_some,
                List.singleton_append, List.foldl_cons, receive_intake]

/-! ## Reading one frame after another -/

/-- A play is beside a session: they have the same settings and the same link, and as long as the
transport listens, the same is left to read. -/
structure Beside (play session : Session) : Prop where
  settings_eq : play.settings = session.settings
  link_eq : play.link = session.link
  intake_eq : session.link.stage.listens → play.intake = session.intake

/-- One beat reads as much as a session that reads once. -/
theorem Beside.readNext {play session : Session} (beside : Beside play session)
    (listens : session.link.stage.listens) :
    Beside (play.beat (.read (!session.broken))) session.readNext := by
  obtain ⟨settings_eq, link_eq, intake_eq⟩ := beside
  have same := intake_eq listens
  have hears : play.link.stage.listens := by
    rw [link_eq]
    exact listens
  simp only [beat, if_pos hears, Bool.not_not, Session.readNext, settings_eq, same]
  split
  · exact ⟨rfl, link_eq, fun _ => rfl⟩
  · refine ⟨rfl, ?_, fun _ => rfl⟩
    simp only [breakOff, move, link_eq]
  · exact ⟨rfl, link_eq, fun _ => rfl⟩
  · refine ⟨?_, ?_, ?_⟩
    · rw [settings_receive, settings_receive]
    · exact link_receive_congr rfl link_eq rfl
    · intro _
      rw [intake_receive, intake_receive]

theorem intake_readNext {message : Option Wire.Message} {rest : Wire.Intake}
    (read : session.intake.next? session.settings.limits = some (.ok (message, rest))) :
    session.readNext.intake = rest := by
  simp only [readNext, read]
  cases message with
  | none => rfl
  | some message => exact intake_receive _ message

/-- Reads, as many as it takes, read as much as a session that reads all. -/
theorem Beside.exists_receiveAll {play session : Session} (beside : Beside play session) :
    ∃ writables : List Bool, Beside (play.play (writables.map .read)) session.receiveAll := by
  induction size : session.intake.bytes.length using Nat.strong_induction_on
    generalizing play session with
  | _ size ih =>
      cases listens : session.link.stage.listens with
      | false =>
          have link_eq := link_receiveAll_of_deaf listens
          refine ⟨[], ?_, ?_, ?_⟩
          · rw [(Moves.receiveAll session).settings_eq]
            exact beside.settings_eq
          · rw [link_eq]
            exact beside.link_eq
          · rw [link_eq, listens]
            exact Bool.noConfusion
      | true =>
          have once := beside.readNext listens
          rw [receiveAll_eq]
          split
          · rename_i taken read
            have shorter := Wire.Intake.length_lt_of_next? read
            rw [← intake_readNext read, size] at shorter
            obtain ⟨writables, all⟩ := ih _ shorter once rfl
            exact ⟨(!session.broken) :: writables, all⟩
          · exact ⟨[!session.broken], once⟩

end

/-! ## Sessions of scripts -/

theorem play_append (session : Session) (first second : List Beat) :
    session.play (first ++ second) = (session.play first).play second :=
  List.foldl_append

theorem stream_append (first second : List Beat) :
    stream (first ++ second) = stream first ++ stream second :=
  List.flatMap_append

theorem stream_reads (writables : List Bool) : stream (writables.map .read) = [] := by
  rw [stream, List.flatMap_map]
  exact List.flatMap_eq_nil_iff.mpr fun _ _ => rfl

/-- How a play that is beside the session of a script has been fed: with nothing as long as there is
no connection, and then with all that the server has written behind its answer. -/
inductive Fed (accept : String) (written : List UInt8) (session : Session) (intake : Wire.Intake)
    (stream : List UInt8) : Prop where
  | opening (connecting : session.link.stage = .connecting) (accept_eq : session.accept = accept)
      (written_eq : session.intake = { bytes := written }) (intake_eq : intake = {})
      (stream_eq : stream = [])
  | granted {first rest later : List UInt8} (past : session.link.stage ≠ .connecting)
      (granted : Http.Opening.ofBytes accept first = .granted rest)
      (written_eq : written = first ++ later) (stream_eq : stream = rest ++ later)
      (intake_eq : session.link.stage.listens → intake = session.intake)
  | refused (ended : session.link.stage.keepsQueue = false) (stream_eq : stream = [])

/-- There is a play beside the session of a script. -/
structure HasPlay (fresh : Session) (written : List UInt8) (session : Session) : Prop where
  settings_eq : session.settings = fresh.settings
  exists_play : ∃ beats, (fresh.play beats).link = session.link ∧
    Fed fresh.accept written session (fresh.play beats).intake (stream beats)

namespace HasPlay

variable {fresh session : Session} {written : List UInt8}

theorem of_same {after : Session} (held : HasPlay fresh written session)
    (settings_eq : after.settings = session.settings) (accept_eq : after.accept = session.accept)
    (intake_eq : after.intake = session.intake) (link_eq : after.link = session.link) :
    HasPlay fresh written after := by
  obtain ⟨settings, beats, link, fed⟩ := held
  refine ⟨settings_eq.trans settings, beats, link.trans link_eq.symm, ?_⟩
  cases fed with
  | opening connecting accept written unfed stream_eq =>
      exact .opening (by rw [link_eq]; exact connecting) (accept_eq.trans accept)
        (intake_eq.trans written) unfed stream_eq
  | granted past granted written stream_eq same =>
      refine .granted (by rw [link_eq]; exact past) granted written stream_eq ?_
      rw [link_eq, intake_eq]
      exact same
  | refused ended stream_eq => exact .refused (by rw [link_eq]; exact ended) stream_eq

theorem feed (held : HasPlay fresh written session) (bytes : List UInt8) :
    HasPlay fresh (written ++ bytes) (session.feed bytes) := by
  obtain ⟨settings, beats, link, fed⟩ := held
  cases fed with
  | opening connecting accept written_eq unfed stream_eq =>
      refine ⟨settings, beats, link, .opening connecting accept ?_ unfed stream_eq⟩
      rw [Session.feed, written_eq]
      rfl
  | granted past granted written_eq stream_eq same =>
      rename_i first rest later
      have longer : written ++ bytes = first ++ (later ++ bytes) := by
        rw [written_eq, List.append_assoc]
      refine ⟨settings, beats ++ [.feed bytes], ?_, .granted past granted longer ?_ ?_⟩
      · rw [play_append]
        exact link
      · rw [stream_append, stream_eq, List.append_assoc]
        exact congrArg _ (congrArg _ (List.append_nil bytes))
      · intro listens
        rw [play_append]
        exact congrArg (Wire.Intake.feed · bytes) (same listens)
  | refused ended stream_eq => exact ⟨settings, beats, link, .refused ended stream_eq⟩

theorem move (held : HasPlay fresh written session) {move : Move} (plain : move.isPlain) :
    HasPlay fresh written (session.move move) := by
  obtain ⟨settings, beats, link, fed⟩ := held
  have silent : move.bringsMessage = false := by
    cases move with
    | arrive arrival writable =>
        cases arrival with
        | message message => cases plain
        | _ => rfl
    | _ => rfl
  have same : (fresh.play (beats ++ [.move move silent])).link = (session.move move).link := by
    rw [play_append]
    show (fresh.play beats).link.step (fresh.play beats).settings.closeTimeout move =
      session.link.step session.settings.closeTimeout move
    rw [(Moves.play fresh beats).settings_eq, link, settings]
  refine ⟨settings, beats ++ [.move move silent], same, ?_⟩
  rw [stream_append, play_append, show stream [.move move silent] = [] from rfl, List.append_nil]
  have stays (ended : session.link.stage.keepsQueue = false) :
      (session.move move).link.stage = session.link.stage :=
    (Link.run_of_ended session.settings.closeTimeout ended [move]).1
  cases fed with
  | opening connecting accept written unfed stream_eq =>
      rcases Link.stage_step_of_plain connecting plain with connecting | ended
      · exact .opening connecting accept written unfed stream_eq
      · exact .refused ended stream_eq
  | granted past granted written stream_eq intake_eq =>
      refine .granted (Link.stage_step_ne_connecting move past) granted written stream_eq ?_
      intro listens
      rcases session.link.stage.cases_listens with connecting | before | ended
      · exact absurd connecting past
      · exact intake_eq before
      · rw [stays ended, Stage.listens_of_ended ended] at listens
        cases listens
  | refused ended stream_eq => exact .refused (by rw [stays ended]; exact ended) stream_eq

theorem connect {rest : List UInt8} (held : HasPlay fresh written session)
    (connecting : session.isConnecting)
    (granted : Http.Opening.ofBytes session.accept session.intake.bytes = .granted rest) :
    HasPlay fresh written ({ session with intake := { bytes := rest } }.move .connect) := by
  rw [isConnecting_iff] at connecting
  obtain ⟨settings, beats, link, fed⟩ := held
  cases fed with
  | opening attempt accept written_eq unfed stream_eq =>
      rw [accept, written_eq] at granted
      refine ⟨settings, beats ++ [.feed rest, .move .connect rfl], ?_,
        .granted ?_ granted (List.append_nil written).symm ?_ ?_⟩
      · rw [play_append]
        show (fresh.play beats).link.step (fresh.play beats).settings.closeTimeout .connect =
          session.link.step session.settings.closeTimeout .connect
        rw [(Moves.play fresh beats).settings_eq, link, settings]
      · show (session.link.stage.take session.settings.closeTimeout .connected).stage ≠ _
        rw [connecting]
        exact Stage.noConfusion
      · rw [stream_append, stream_eq]
        rfl
      · intro listens
        rw [play_append]
        show (fresh.play beats).intake.feed rest = { bytes := rest }
        rw [unfed]
        rfl
  | granted past => exact absurd connecting past
  | refused ended =>
      rw [connecting] at ended
      cases ended

theorem receiveAll (held : HasPlay fresh written session) (past : session.isConnecting = false) :
    HasPlay fresh written session.receiveAll := by
  rw [Bool.eq_false_iff, ne_eq, isConnecting_iff] at past
  obtain ⟨settings, beats, link, fed⟩ := held
  obtain ⟨settings_eq, moves, run⟩ := Moves.receiveAll session
  have beside : Beside (fresh.play beats) session := by
    refine ⟨(Moves.play fresh beats).settings_eq.trans settings.symm, link, ?_⟩
    intro listens
    cases fed with
    | opening connecting => exact absurd connecting past
    | granted past granted written stream_eq intake_eq => exact intake_eq listens
    | refused ended =>
        rw [Stage.listens_of_ended ended] at listens
        cases listens
  obtain ⟨writables, all⟩ := beside.exists_receiveAll
  rw [← play_append] at all
  refine ⟨settings_eq.trans settings, _, all.link_eq, ?_⟩
  rw [stream_append, stream_reads, List.append_nil]
  cases fed with
  | opening connecting => exact absurd connecting past
  | granted past granted written stream_eq intake_eq =>
      refine .granted ?_ granted written stream_eq all.intake_eq
      rw [run]
      exact Link.stage_run_ne_connecting past moves
  | refused ended stream_eq =>
      refine .refused ?_ stream_eq
      rw [run, (Link.run_of_ended _ ended moves).1]
      exact ended

theorem kept (fresh : Session) : Kept (HasPlay fresh) where
  of_same := of_same
  feed := feed
  move := move
  connect := connect
  receiveAll := receiveAll

end HasPlay

/-- A stream is all that a server has written behind its answer to the opening request, or nothing
if it did not grant the connection. -/
def IsBehindAnswer (accept : String) (written stream : List UInt8) : Prop :=
  stream = [] ∨ ∃ first rest later, written = first ++ later ∧
    Http.Opening.ofBytes accept first = .granted rest ∧ stream = rest ++ later

/-- **Every session of a script has a play beside it** with the same link at its end.  Its stream is
what the server has written behind its answer. -/
theorem exists_play (script : Script) (endpoint : Endpoint) (fresh : Session)
    (settings_eq : fresh.settings = script.settings) (accept_eq : fresh.accept = script.accept)
    (link_eq : fresh.link = {}) (intake_eq : fresh.intake = {}) :
    ∃ beats, (fresh.play beats).link = (played script endpoint).link ∧
      IsBehindAnswer script.accept (written script) (stream beats) := by
  have initial (session : Session) (bytes : List UInt8)
      (settings : session.settings = script.settings) (accept : session.accept = script.accept)
      (link : session.link = {}) (intake : session.intake = { bytes }) :
      HasPlay fresh bytes session := by
    refine ⟨settings.trans settings_eq.symm, [], link_eq.trans link.symm, ?_⟩
    exact .opening (by rw [link]) (accept.trans accept_eq.symm) intake intake_eq rfl
  obtain ⟨-, beats, same, fed⟩ := (HasPlay.kept fresh).played initial endpoint
  refine ⟨beats, same, ?_⟩
  rw [accept_eq] at fed
  cases fed with
  | opening connecting accept written unfed stream_eq => exact .inl stream_eq
  | granted past granted written stream_eq => exact .inr ⟨_, _, _, written, granted, stream_eq⟩
  | refused ended stream_eq => exact .inl stream_eq

end Session

end WebSocketClient
