import WebSocketClient.Proofs.Link.Ledger
import WebSocketClient.Session

/-!
# Sessions as runs of links

A session has a clock, a stream and a server, and its transport does things in one fixed order.  Its
link knows nothing of this.  All that a session does is built from a few kinds of small steps: bytes
come, the link makes a move, the connection is opened, or all that has come is read.  What these
steps keep is therefore true of every session (`Session.Kept.played`).

In all of them the link makes some moves (`Session.Moves`), so what is true of every run of a link
is true of every session: in particular a session whose conversation is over has gone through a
story (`Session.exists_story`).
-/

namespace WebSocketClient

set_option autoImplicit false

/-- A move that neither opens the connection nor brings a message. -/
def Move.isPlain : Move → Bool
  | .connect | .arrive (.message _) _ => false
  | .ask _ | .drop | .fail _ | .overhear | .arrive .. | .obey .. | .expire => true

/-- A conversation that is past its attempt never goes back to it. -/
theorem Stage.take_ne_connecting {timeout : Option Duration} {stage : Stage}
    {occurrence : Occurrence} (past : stage ≠ .connecting) :
    (stage.take timeout occurrence).stage ≠ .connecting := by
  have silently (silent : occurrence.Silent) :
      (stage.take timeout occurrence).stage ≠ .connecting := by
    rcases silent.stage_take timeout stage with same | finished | ⟨connecting, -⟩
    · rw [same]
      exact past
    · rw [finished]
      exact Stage.noConfusion
    · exact absurd connecting past
  cases occurrence with
  | commanded command result now =>
      cases stage with
      | talking =>
          cases result with
          | error text => exact Stage.noConfusion
          | ok written =>
              cases command with
              | send payload => exact Stage.noConfusion
              | close code reason =>
                  show ofClose code timeout now ≠ .connecting
                  rcases ofClose_eq code timeout now with lost | ⟨deadline, closing⟩
                  · rw [lost]
                    exact Stage.noConfusion
                  · rw [closing]
                    exact Stage.noConfusion
      | _ => exact past
  | overheard command =>
      cases stage with
      | connecting => exact absurd rfl past
      | _ => exact past
  | _ => exact silently trivial

theorem Link.stage_step_ne_connecting {timeout : Option Duration} {link : Link} (move : Move)
    (past : link.stage ≠ .connecting) : (link.step timeout move).stage ≠ .connecting := by
  rw [(took_step timeout link move).stage_eq, turn]
  split
  · exact past
  · exact Stage.take_ne_connecting past

namespace Session

/-! ## Moves of a session -/

/-- From one session to another the link makes some moves, and the settings stay as they are. -/
structure Moves (before after : Session) : Prop where
  settings_eq : after.settings = before.settings
  exists_run : ∃ moves, after.link = before.link.run before.settings.closeTimeout moves

namespace Moves

variable {before middle after : Session}

/-- Whatever does not touch the link. -/
theorem of_same (settings_eq : after.settings = before.settings)
    (link_eq : after.link = before.link) : Moves before after :=
  ⟨settings_eq, [], link_eq⟩

theorem refl (session : Session) : Moves session session :=
  of_same rfl rfl

theorem trans (first : Moves before middle) (second : Moves middle after) :
    Moves before after := by
  obtain ⟨settings, moves, run⟩ := first
  obtain ⟨laterSettings, laterMoves, laterRun⟩ := second
  refine ⟨laterSettings.trans settings, moves ++ laterMoves, ?_⟩
  rw [laterRun, run, settings, Link.run_append]

/-- Moves from a session that has the same link. -/
theorem behind (moves : Moves middle after) (settings_eq : middle.settings = before.settings)
    (link_eq : middle.link = before.link) : Moves before after :=
  (of_same settings_eq link_eq).trans moves

theorem move (session : Session) (next : Move) : Moves session (session.move next) :=
  ⟨rfl, [next], rfl⟩

/-- Steps that are moves, one after another. -/
theorem foldl {α : Type} {step : Session → α → Session}
    (moves : ∀ session value, Moves session (step session value)) (values : List α)
    (session : Session) : Moves session (values.foldl step session) := by
  induction values generalizing session with
  | nil => exact .refl session
  | cons value values ih => exact (moves session value).trans (ih _)

theorem receive (session : Session) (message : Wire.Message) :
    Moves session (session.receive message) := by
  unfold Session.receive
  dsimp only
  generalize (if session.isTalking then message.admitted else message) = taken
  split
  · exact .trans (.move session _) (.move _ _)
  · exact .move session _

theorem receiveAll (session : Session) : Moves session session.receiveAll := by
  have read : Moves session
      ((session.intake.readAll session.settings.limits).messages.foldl Session.receive
        { session with intake := (session.intake.readAll session.settings.limits).rest }) :=
    .behind (.foldl receive _ _) rfl rfl
  unfold Session.receiveAll
  dsimp only
  split
  · exact read
  · exact read.trans (.move _ _)

end Moves

/-- The link of a session has been reached by moves from the start. -/
def Reached (session : Session) : Prop :=
  ∃ moves, session.link = ({} : Link).run session.settings.closeTimeout moves

theorem Reached.initial {session : Session} (link_eq : session.link = {}) : session.Reached :=
  ⟨[], link_eq⟩

theorem Reached.moves {before after : Session} (reached : before.Reached)
    (moves : Moves before after) : after.Reached := by
  obtain ⟨earlier, link_eq⟩ := reached
  obtain ⟨settings_eq, later, run_eq⟩ := moves
  refine ⟨earlier ++ later, ?_⟩
  rw [settings_eq, run_eq, link_eq, Link.run_append]

/-! ## Opening handshakes -/

theorem isConnecting_iff {session : Session} :
    session.isConnecting = true ↔ session.link.stage = .connecting := by
  unfold isConnecting
  cases session.link.stage <;> simp

theorem isConnecting_move {session : Session} (past : session.isConnecting = false) (next : Move) :
    (session.move next).isConnecting = false := by
  rw [Bool.eq_false_iff, ne_eq, isConnecting_iff] at past ⊢
  exact Link.stage_step_ne_connecting next past

theorem isConnecting_moveAll {session : Session} (past : session.isConnecting = false)
    (next : Move) : (session.moveAll next).isConnecting = false := by
  unfold moveAll
  generalize List.replicate (session.link.queue.length + 1) next = moves
  induction moves generalizing session with
  | nil => exact past
  | cons move moves ih => exact ih (isConnecting_move past move)

/-! ## What every step keeps -/

/-- The bytes that the server writes in a step. -/
def Act.written : Act → List UInt8
  | .frames drafts => drafts.flatMap Draft.encode
  | .bytes portion => portion
  | .sync => ({ opcode := Wire.Opcode.ping.number, payload := syncPayload } : Draft).encode
  | .close | .reset | .breakWrites | .await | .ask .. | .query | .drop => []

/-- The bytes that the server writes before the first step. -/
def Server.written : Server → List UInt8
  | .answering response frames _ => response.toUTF8.toList ++ frames.flatMap Draft.encode
  | .silent | .absent | .unattended => []

/-- The bytes that the server writes in a script. -/
def written (script : Script) : List UInt8 :=
  script.server.written ++ script.acts.flatMap Act.written

/-- A property of the bytes that the server has written and of the session.  The small steps from
which every session is built keep it. -/
structure Kept (holds : List UInt8 → Session → Prop) : Prop where
  of_same {written : List UInt8} {before after : Session} (held : holds written before)
    (settings_eq : after.settings = before.settings) (accept_eq : after.accept = before.accept)
    (intake_eq : after.intake = before.intake) (link_eq : after.link = before.link) :
    holds written after
  feed {written : List UInt8} {session : Session} (held : holds written session)
    (bytes : List UInt8) : holds (written ++ bytes) (session.feed bytes)
  move {written : List UInt8} {session : Session} (held : holds written session) {move : Move}
    (plain : move.isPlain) : holds written (session.move move)
  connect {written rest : List UInt8} {session : Session} (held : holds written session)
    (connecting : session.isConnecting)
    (granted : Http.Opening.ofBytes session.accept session.intake.bytes = .granted rest) :
    holds written ({ session with intake := { bytes := rest } }.move .connect)
  receiveAll {written : List UInt8} {session : Session} (held : holds written session)
    (past : session.isConnecting = false) : holds written session.receiveAll

namespace Kept

variable {holds : List UInt8 → Session → Prop} {written : List UInt8} {session : Session}

theorem moveAll (kept : Kept holds) (held : holds written session) {next : Move}
    (plain : next.isPlain) : holds written (session.moveAll next) := by
  unfold Session.moveAll
  generalize session.link.queue.length + 1 = count
  induction count generalizing session with
  | zero => exact held
  | succ count ih => exact ih (kept.move held plain)

theorem endOpening (kept : Kept holds) (held : holds written session) :
    holds written session.endOpening := by
  unfold Session.endOpening
  split
  · exact held
  · exact kept.move held rfl
  · exact kept.move held rfl

theorem advanceOpening (kept : Kept holds) (held : holds written session)
    (connecting : session.isConnecting) : holds written session.advanceOpening := by
  unfold Session.advanceOpening
  split
  · exact kept.move held rfl
  · split
    · exact kept.endOpening held
    · exact kept.move held rfl
    · rename_i granted
      exact kept.connect held connecting granted

theorem endStream (kept : Kept holds) (held : holds written session) :
    holds written session.endStream := by
  unfold Session.endStream
  split
  · exact held
  · exact kept.move held rfl
  · exact kept.move held rfl

theorem settle (kept : Kept holds) (held : holds written session) :
    holds written session.settle := by
  have heard : holds written
      (if session.isConnecting then session.moveAll .overhear else session) := by
    split
    · exact kept.moveAll held rfl
    · exact held
  unfold Session.settle
  dsimp only
  generalize (if session.isConnecting then session.moveAll .overhear else session) = next at heard
  have opened : holds written (if next.isConnecting then next.advanceOpening else next) := by
    split
    · rename_i connecting
      exact kept.advanceOpening heard connecting
    · exact heard
  generalize (if next.isConnecting then next.advanceOpening else next) = last at opened
  split
  · exact opened
  · rename_i past
    have attempted : last.isConnecting = false := Bool.eq_false_iff.mpr past
    have obeyed := kept.moveAll opened (show (Move.obey last.writing now).isPlain from rfl)
    exact kept.endStream (kept.receiveAll obeyed (isConnecting_moveAll attempted _))

theorem await (kept : Kept holds) (held : holds written session) : holds written session.await := by
  unfold Session.await
  dsimp only
  split
  · exact kept.move (kept.settle held) rfl
  · exact kept.move (kept.settle held) rfl
  · exact kept.settle held

theorem ask (kept : Kept holds) (held : holds written session) (command : Command) (wait : Bool) :
    holds written (session.ask command wait) := by
  unfold Session.ask
  split
  · rename_i handle
    have asked (outcome : Outcome) :
        holds written ({ session with link := (session.link.ask command).2 }.note outcome) := by
      refine kept.of_same (kept.move held (show (Move.ask command).isPlain from rfl)) rfl rfl rfl ?_
      show (session.link.ask command).2 =
        session.link.step session.settings.closeTimeout (.ask command)
      simp only [Link.step, handle, if_true]
    dsimp only
    split
    · split
      · exact kept.settle (asked _)
      · exact asked _
    · exact asked _
  · exact kept.of_same held rfl rfl rfl rfl

/-- **Every step of a script** keeps what the small steps keep. -/
theorem perform (kept : Kept holds) (held : holds written session) (act : Act) :
    holds (written ++ act.written) (session.perform act) := by
  have unwritten {after : Session} (held : holds written after) : holds (written ++ []) after := by
    rw [List.append_nil]
    exact held
  cases act with
  | frames drafts => exact kept.settle (kept.feed held _)
  | bytes bytes => exact kept.settle (kept.feed held _)
  | sync =>
      simp only [Session.perform]
      split
      · exact kept.settle (kept.feed held _)
      · exact kept.await (kept.settle (kept.feed held _))
  | close => exact unwritten (kept.await (kept.of_same held rfl rfl rfl rfl))
  | reset => exact unwritten (kept.await (kept.of_same held rfl rfl rfl rfl))
  | breakWrites => exact unwritten (kept.of_same held rfl rfl rfl rfl)
  | await => exact unwritten (kept.await held)
  | ask command wait => exact unwritten (kept.ask held command wait)
  | query =>
      refine unwritten ?_
      simp only [Session.perform]
      split <;> exact kept.of_same held rfl rfl rfl rfl
  | drop => exact unwritten (kept.move held (show Move.drop.isPlain from rfl))

theorem finish (kept : Kept holds) (held : holds written session) (server : Server) :
    holds written (session.finish server) := by
  unfold Session.finish
  split
  · exact kept.settle (kept.of_same held rfl rfl rfl rfl)
  · exact kept.await held

end Kept

/-! ## Whole sessions -/

/-- The session at the end of a script. -/
def played (script : Script) (endpoint : Endpoint) : Session :=
  (script.acts.foldl perform (start script endpoint)).finish script.server

/-- **What the small steps keep is true of every session**, if it is true before the first of
them. -/
theorem Kept.played {holds : List UInt8 → Session → Prop} (kept : Kept holds) {script : Script}
    (initial : ∀ (session : Session) (bytes : List UInt8), session.settings = script.settings →
      session.accept = script.accept → session.link = {} → session.intake = { bytes } →
      holds bytes session) (endpoint : Endpoint) :
    holds (written script) (played script endpoint) := by
  have started : holds script.server.written (start script endpoint) := by
    unfold start
    dsimp only
    cases script.server with
    | answering response frames ends =>
        refine kept.settle (initial _ _ ?_ ?_ ?_ ?_)
        all_goals rfl
    | _ =>
        refine initial _ _ ?_ ?_ ?_ ?_
        all_goals rfl
  have performed (acts : List Act) {bytes : List UInt8} {session : Session}
      (held : holds bytes session) :
      holds (bytes ++ acts.flatMap Act.written) (acts.foldl Session.perform session) := by
    induction acts generalizing bytes session with
    | nil =>
        rw [List.flatMap_nil, List.append_nil]
        exact held
    | cons act acts ih =>
        rw [List.flatMap_cons, ← List.append_assoc]
        exact ih (kept.perform held act)
  exact kept.finish (performed script.acts started) script.server

/-- The report of a script is about the session at its end. -/
theorem exists_played_of_run {script : Script} {report : Report} (ran : run script = .ok report) :
    ∃ endpoint, Endpoint.parse script.url = .ok endpoint ∧
      report.notices = ((played script endpoint).link.told.foldl Mailbox.post {}).waiting ∧
      report.received = (played script endpoint).received ∧
      report.ending = (played script endpoint).ending := by
  unfold run at ran
  cases parsed : Endpoint.parse script.url with
  | error failure =>
      rw [parsed] at ran
      cases ran
  | ok endpoint =>
      rw [parsed] at ran
      simp only [bind, Except.bind] at ran
      split at ran
      · cases ran
      · cases ran
        exact ⟨endpoint, rfl, rfl, rfl, rfl⟩

/-- **A whole session is a run of a link.** -/
theorem exists_run (script : Script) (endpoint : Endpoint) :
    ∃ moves, (played script endpoint).link =
      ({} : Link).run script.settings.closeTimeout moves := by
  have kept : Kept fun _ session => session.settings = script.settings ∧ session.Reached := by
    have moved {before after : Session}
        (held : before.settings = script.settings ∧ before.Reached) (moves : Moves before after) :
        after.settings = script.settings ∧ after.Reached :=
      ⟨moves.settings_eq.trans held.1, held.2.moves moves⟩
    constructor
    case of_same =>
      intro written before after held settings_eq accept_eq intake_eq link_eq
      exact moved held (.of_same settings_eq link_eq)
    case feed => exact fun held _ => moved held (.of_same rfl rfl)
    case move => exact fun held _ _ => moved held (.move _ _)
    case connect => exact fun held _ _ => moved held (.behind (.move _ .connect) rfl rfl)
    case receiveAll => exact fun held _ => moved held (.receiveAll _)
  obtain ⟨settings_eq, moves, run⟩ :=
    kept.played (fun _ _ settings_eq _ link_eq _ => ⟨settings_eq, .initial link_eq⟩) endpoint
  rw [settings_eq] at run
  exact ⟨moves, run⟩

/-- A session whose conversation is over has gone through a story. -/
theorem exists_story {script : Script} {endpoint : Endpoint}
    (finished : (played script endpoint).link.stage = .finished) :
    ∃ signals farewell, Story signals (played script endpoint).link.told farewell ∧
      (played script endpoint).link.lifecycle = ⟨.closed, some farewell.record⟩ := by
  obtain ⟨moves, run⟩ := exists_run script endpoint
  rw [run] at finished ⊢
  obtain ⟨farewell, story, kept, -⟩ :=
    (Link.follows_run _ moves).exists_story (Link.relayed_run _ moves) finished
  exact ⟨_, farewell, story, kept⟩

end Session

end WebSocketClient
