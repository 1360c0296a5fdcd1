import WebSocketClient.Proofs.Link.Attempt

/-!
# Giving up the handle

A host that gives up its handle and a host that asks for a normal close mean the same, but they
leave different queues.  The one queue ends behind the commands that are in it, and its end reads as
a normal close; the other holds the close, and more may be asked for behind it.

The transport cannot tell the two apart, because it never reads past a close.  Two links are
committed to the same commands (`Link.Committed`) if they agree in everything but their queues and
their handles, and if, as long as commands are read, a close is waiting in both and the commands up
to the first one are the same.  What the host does afterwards changes nothing of this
(`Committed.request`), and every move of the transport leads from committed links to committed ones
(`Committed.step`).  So the two hosts are told the same, and the peer is sent the same
(`Link.release_of_run`).
-/

namespace WebSocketClient

set_option autoImplicit false

/-! ## Requests and the commands behind a close -/

/-- A move of the host. -/
def Move.isRequest : Move → Bool
  | .ask _ | .drop => true
  | .connect | .fail _ | .overhear | .arrive .. | .obey .. | .expire => false

/-- The stages at which commands are read. -/
def Stage.reads : Stage → Bool
  | .connecting | .talking => true
  | .closing .. | .finished | .lost => false

namespace Command

/-- Nothing that comes behind a close is binding. -/
theorem binding_append_of_close {commands : List Command}
    (closes : ∃ command ∈ commands, command.isClose) (more : List Command) :
    binding (commands ++ more) = binding commands := by
  induction commands with
  | nil =>
      obtain ⟨command, member, -⟩ := closes
      cases member
  | cons first commands ih =>
      cases first with
      | close code reason => rfl
      | send payload =>
          obtain ⟨command, member, close⟩ := closes
          rcases List.mem_cons.mp member with rfl | member
          · cases close
          · rw [List.cons_append, binding_send, binding_send, ih ⟨command, member, close⟩]

/-- The first of the commands is the first that is binding, and behind a message the others are
binding as they were. -/
theorem binding_cons (first : Command) (commands : List Command) :
    binding (first :: commands) = first :: if first.isClose then [] else binding commands := by
  cases first with
  | send payload => rfl
  | close code reason => rfl

end Command

namespace Link

variable {timeout : Option Duration}

/-! ## Links but for their queues -/

/-- A link without its queue and its handle. -/
def withoutQueue (link : Link) : Link :=
  { link with queue := [], handle := true }

theorem withoutQueue_meet (link : Link) (occurrence : Occurrence) :
    (link.meet timeout occurrence).withoutQueue = link.withoutQueue.meet timeout occurrence := rfl

/-- Meeting an occurrence leaves what waits. -/
theorem outstanding_meet (link : Link) (occurrence : Occurrence) :
    (link.meet timeout occurrence).outstanding = link.outstanding := rfl

/-- A request leaves everything but the queue and the handle, and what it puts before the transport
waits behind all else. -/
theorem step_of_request (timeout : Option Duration) {move : Move} (request : move.isRequest)
    (link : Link) :
    (link.step timeout move).withoutQueue = link.withoutQueue ∧
      (link.step timeout move).outstanding = link.outstanding ++ link.accepted move := by
  have step := step_cases timeout link move
  generalize link.step timeout move = after at step
  generalize link.accepted move = commands at step
  generalize link.obeyed move = deeds at step
  cases step with
  | ignored => exact ⟨rfl, (List.append_nil _).symm⟩
  | asked handle passed kept =>
      refine ⟨rfl, ?_⟩
      simp only [outstanding, handle, if_true, List.append_nil]
  | dropped handle =>
      refine ⟨rfl, ?_⟩
      simp [outstanding, handle]
  | met occurs silent =>
      cases move with
      | ask command => cases occurs
      | drop => cases occurs
      | _ => cases request
  | overheard connecting next => cases request
  | obeyed talking next result now => cases request

/-! ## Commitment -/

/-- Two links that agree in everything but their queues and handles.  As long as commands are read,
a close is waiting, and the commands up to the first one are the same. -/
structure Committed (one other : Link) : Prop where
  same : one.withoutQueue = other.withoutQueue
  closes : one.stage.reads → ∃ command ∈ one.outstanding, command.isClose
  binding_eq : one.stage.reads →
    Command.binding one.outstanding = Command.binding other.outstanding

namespace Committed

variable {one other : Link}

theorem stage_eq (committed : Committed one other) : one.stage = other.stage := by
  show one.withoutQueue.stage = other.withoutQueue.stage
  rw [committed.same]

/-- Links that read no commands need to agree in nothing else. -/
theorem of_silent (same : one.withoutQueue = other.withoutQueue)
    (silent : one.stage.reads = false) : Committed one other where
  same := same
  closes reads := by
    rw [silent] at reads
    cases reads
  binding_eq reads := by
    rw [silent] at reads
    cases reads

/-- A close waits on both sides. -/
theorem closes_other (committed : Committed one other) (reads : one.stage.reads) :
    ∃ command ∈ other.outstanding, command.isClose := by
  obtain ⟨command, member, close⟩ := committed.closes reads
  have bound : Command.binding one.outstanding = Command.binding other.outstanding :=
    committed.binding_eq reads
  obtain ⟨first, found⟩ :=
    Option.isSome_iff_exists.mp (List.find?_isSome.mpr ⟨command, member, close⟩)
  have binds : first ∈ Command.binding one.outstanding := by
    refine List.mem_append_right _ ?_
    rw [found]
    exact List.mem_singleton_self _
  rw [bound] at binds
  exact ⟨first, Command.mem_of_mem_binding binds, List.find?_some found⟩

/-- **What the host still asks for has no part in the commitment.** -/
theorem request (committed : Committed one other) {move : Move} (asks : move.isRequest) :
    Committed one (other.step timeout move) := by
  obtain ⟨same, outstanding⟩ := step_of_request timeout asks other
  refine ⟨committed.same.trans same.symm, committed.closes, ?_⟩
  intro reads
  rw [outstanding, Command.binding_append_of_close (committed.closes_other reads)]
  exact committed.binding_eq reads

/-- Both links meet the same occurrence, for which no command is read. -/
theorem met (committed : Committed one other) {occurrence : Occurrence}
    (silent : occurrence.Silent) :
    Committed (one.meet timeout occurrence) (other.meet timeout occurrence) := by
  have before (reads : (one.meet timeout occurrence).stage.reads) : one.stage.reads := by
    rcases silent.stage_take timeout one.stage with same | ended | ⟨connecting, -⟩
    · rw [← same]
      exact reads
    · rw [show (one.meet timeout occurrence).stage = _ from ended] at reads
      cases reads
    · rw [connecting]
      rfl
  refine ⟨?_, fun reads => committed.closes (before reads),
    fun reads => committed.binding_eq (before reads)⟩
  rw [withoutQueue_meet, withoutQueue_meet, committed.same]

/-- The next command is the same for both links.  Behind a message the commitment goes on. -/
theorem next (committed : Committed one other) (reads : one.stage.reads) :
    ∃ command rest others, one.nextCommand? = some (command, rest) ∧
      other.nextCommand? = some (command, others) ∧
      (command.isClose = false → Committed { one with queue := rest }
        { other with queue := others }) := by
  obtain ⟨close, member, closes⟩ := committed.closes reads
  have bound := committed.binding_eq reads
  obtain ⟨command, waiting, outstanding⟩ :=
    List.exists_cons_of_ne_nil (List.ne_nil_of_mem member)
  obtain ⟨first, others, outstandingOther⟩ :
      ∃ first others, other.outstanding = first :: others := by
    refine List.exists_cons_of_ne_nil ?_
    intro none
    rw [none, outstanding, Command.binding_cons] at bound
    cases bound
  rw [outstanding, outstandingOther, Command.binding_cons, Command.binding_cons] at bound
  obtain ⟨rfl, tail⟩ := List.cons.inj bound
  obtain ⟨rest, next⟩ := nextCommand?_of_outstanding outstanding
  obtain ⟨restOther, nextOther⟩ := nextCommand?_of_outstanding outstandingOther
  refine ⟨command, rest, restOther, next, nextOther, ?_⟩
  intro send
  obtain ⟨_, splits, kept⟩ := outstanding_eq_cons next
  obtain ⟨_, splitsOther, keptOther⟩ := outstanding_eq_cons nextOther
  obtain ⟨-, rfl⟩ := List.cons.inj (outstanding.symm.trans splits)
  obtain ⟨-, rfl⟩ := List.cons.inj (outstandingOther.symm.trans splitsOther)
  have same : withoutQueue { one with queue := rest } =
      withoutQueue { other with queue := restOther } := committed.same
  refine ⟨same, fun _ => ?_, fun _ => ?_⟩
  · rw [kept send]
    rw [outstanding] at member
    rcases List.mem_cons.mp member with rfl | member
    · rw [send] at closes
      cases closes
    · exact ⟨close, member, closes⟩
  · rw [kept send, keptOther send]
    simpa only [send, Bool.false_eq_true, if_false] using tail

/-- Both links read their next command, and meet the same occurrence. -/
theorem read (committed : Committed one other) (reads : one.stage.reads)
    {occurrence : Command → Occurrence}
    (closing : ∀ command : Command, command.isClose →
      (one.stage.take timeout (occurrence command)).stage.reads = false) :
    Committed (one.read timeout occurrence) (other.read timeout occurrence) := by
  obtain ⟨command, rest, others, next, nextOther, send⟩ := committed.next reads
  have same : (one.read timeout occurrence).withoutQueue =
      (other.read timeout occurrence).withoutQueue := by
    simp only [Link.read, next, nextOther, withoutQueue_meet]
    exact congrArg (meet timeout · (occurrence command)) committed.same
  have stage : (one.read timeout occurrence).stage =
      (one.stage.take timeout (occurrence command)).stage := by
    simp only [Link.read, next]
    rfl
  cases close : command.isClose with
  | true => exact of_silent same (by rw [stage]; exact closing command close)
  | false =>
      have behind := send close
      refine ⟨same, ?_, ?_⟩
      · intro _
        simp only [Link.read, next, outstanding_meet]
        exact behind.closes reads
      · intro _
        simp only [Link.read, next, nextOther, outstanding_meet]
        exact behind.binding_eq reads

/-- **Every move of the transport leads from committed links to committed links.** -/
theorem step (committed : Committed one other) {move : Move} (own : move.isRequest = false) :
    Committed (one.step timeout move) (other.step timeout move) := by
  have stage := committed.stage_eq
  cases move with
  | ask command => cases own
  | drop => cases own
  | connect => exact committed.met (show Occurrence.Silent .connected from trivial)
  | fail failure => exact committed.met (show Occurrence.Silent (.failed failure) from trivial)
  | arrive arrival writable =>
      exact committed.met (show Occurrence.Silent (.arrived arrival writable) from trivial)
  | expire => exact committed.met (show Occurrence.Silent .expired from trivial)
  | overhear =>
      cases here : one.stage with
      | connecting =>
          simp only [Link.step, ← stage, here]
          refine committed.read (by rw [here]; rfl) ?_
          intro command close
          cases command with
          | send payload => cases close
          | close code reason => rw [here]; rfl
      | _ =>
          simp only [Link.step, ← stage, here]
          exact committed
  | obey result now =>
      cases here : one.stage with
      | talking =>
          simp only [Link.step, ← stage, here]
          refine committed.read (by rw [here]; rfl) ?_
          intro command close
          cases command with
          | send payload => cases close
          | close code reason =>
              rw [here]
              cases result with
              | error text => rfl
              | ok written =>
                  show (Stage.ofClose code timeout now).reads = false
                  rcases Stage.ofClose_eq code timeout now with lost | ⟨deadline, closing⟩
                  · rw [lost]
                    rfl
                  · rw [closing]
                    rfl
      | _ =>
          simp only [Link.step, ← stage, here]
          exact committed

/-- Committed links stay committed, whatever one of the hosts asks for in between. -/
theorem run (committed : Committed one other) (moves : List Move) :
    Committed (one.run timeout (moves.filter (!·.isRequest))) (other.run timeout moves) := by
  induction moves generalizing one other with
  | nil => exact committed
  | cons move moves ih =>
      cases asks : move.isRequest with
      | true =>
          rw [List.filter_cons_of_neg (by simp [asks])]
          exact ih (committed.request asks)
      | false =>
          rw [List.filter_cons_of_pos (by simp [asks])]
          exact ih (committed.step asks)

end Committed

/-! ## The two ways of going -/

/-- While commands are read, a normal close that is asked for is put before the transport. -/
theorem accepted_normalClose {moves : List Move}
    (reads : (({} : Link).run timeout moves).stage.reads)
    (handle : (({} : Link).run timeout moves).handle = true) :
    (({} : Link).run timeout moves).accepted (.ask .normalClose) = [.normalClose] := by
  have standing := standing_run timeout moves
  generalize ({} : Link).run timeout moves = link at *
  have kept : link.stage.keepsQueue = true := by
    generalize link.stage = stage at reads
    cases stage with
    | connecting => rfl
    | talking => rfl
    | _ => cases reads
  have passed : Verdict.ofRequest link.lifecycle.state .normalClose = .passed .normalClose := by
    rcases standing with ⟨-, -, lifecycle, -⟩ | ⟨-, -, -, lifecycle, -⟩ | ⟨finished, -⟩
    · rw [lifecycle]
      rfl
    · rw [lifecycle]
      rfl
    · rw [finished] at reads
      cases reads
  simp only [accepted, handle, ask, passed, kept, if_true]

/-- Giving up the handle commits a link to what asking for a normal close commits it to. -/
theorem committed_of_drop (timeout : Option Duration) (moves : List Move) :
    Committed ((({} : Link).run timeout moves).step timeout .drop)
      ((({} : Link).run timeout moves).step timeout (.ask .normalClose)) := by
  have request : (Move.ask .normalClose).isRequest := rfl
  have asked := step_of_request timeout request (({} : Link).run timeout moves)
  have accepted (reads : (({} : Link).run timeout moves).stage.reads)
      (handle : (({} : Link).run timeout moves).handle = true) :=
    accepted_normalClose reads handle
  generalize ({} : Link).run timeout moves = link at *
  obtain ⟨same, waits⟩ := asked
  have left : (link.step timeout .drop).outstanding = link.queue ++ [.normalClose] := rfl
  refine ⟨same.symm, ?_, ?_⟩
  · intro _
    rw [left]
    exact ⟨_, List.mem_append_right _ (List.mem_singleton_self _), rfl⟩
  · intro reads
    rw [left, waits]
    cases handle : link.handle with
    | true => simp only [accepted reads handle, outstanding, handle, if_true, List.append_nil]
    | false => simp only [Link.accepted, outstanding, handle, Bool.false_eq_true, if_false,
        List.append_nil]

/-- **Giving up the handle is asking for a normal close.**  Take any run.  If the host gives up its
handle at its end, or asks for a normal close there and for anything it likes at any later time, and
if the transport makes the same moves in the same order in both cases, then the peer is sent the
same, the host is told the same, and the connection is in the same state with the same record. -/
theorem release_of_run (timeout : Option Duration) (moves more : List Move) :
    let released := ({} : Link).run timeout (moves ++ .drop :: more.filter (!·.isRequest))
    let closed := ({} : Link).run timeout (moves ++ .ask .normalClose :: more)
    released.sent = closed.sent ∧ released.told = closed.told ∧
      released.lifecycle = closed.lifecycle ∧ released.stage = closed.stage := by
  intro released closed
  have committed : Committed released closed := by
    rw [show released = _ from run_append {} moves _, show closed = _ from run_append {} moves _]
    exact (committed_of_drop timeout moves).run more
  have same : released.withoutQueue = closed.withoutQueue := committed.same
  refine ⟨?_, ?_, ?_, committed.stage_eq⟩
  · show released.withoutQueue.sent = closed.withoutQueue.sent
    rw [same]
  · show released.withoutQueue.told = closed.withoutQueue.told
    rw [same]
  · show released.withoutQueue.lifecycle = closed.withoutQueue.lifecycle
    rw [same]

end Link

end WebSocketClient
