import Mathlib.Data.List.Forall2
import Mathlib.Data.List.Infix
import WebSocketClient.Proofs.Link.History

/-!
# What is written for what was asked

The host asks, the transport reads what was asked when it gets to it, and writes.  The first close
is the last thing that counts: of all the commands that the transport accepted, those up to the
first close are binding (`Command.binding`), and nothing is written for any other.

The books of a link are balanced at every stage (`Link.Ledger`).  While it talks, the commands that
were accepted are those that were carried out, all of them messages, followed by those that still
wait.  Once a close was written the binding commands are those that were carried out, whatever is
accepted later.  A conversation that is over may have left some of the binding commands undone, but
only at the end of the list.  Hence the messages that went out carry out the binding commands, from
the first one on and in their order (`Link.written_of_run`).
-/

namespace WebSocketClient

set_option autoImplicit false

/-! ## Binding commands -/

namespace Command

/-- A request to close. -/
def isClose : Command → Bool
  | close .. => true
  | send _ => false

/-- The commands that count: all up to the first close, and this close. -/
def binding (commands : List Command) : List Command :=
  commands.takeWhile (!·.isClose) ++ (commands.find? isClose).toList

theorem binding_nil : binding [] = [] := rfl

theorem binding_send (payload : String) (commands : List Command) :
    binding (.send payload :: commands) = .send payload :: binding commands := rfl

theorem binding_close (code : CloseCode) (reason : String) (commands : List Command) :
    binding (.close code reason :: commands) = [.close code reason] := rfl

theorem binding_sends (payloads : List String) (commands : List Command) :
    binding (payloads.map .send ++ commands) = payloads.map .send ++ binding commands := by
  induction payloads with
  | nil => rfl
  | cons payload payloads ih => rw [List.map_cons, List.cons_append, binding_send, ih]; rfl

/-- Later commands add to the binding ones, but change none of them. -/
theorem binding_prefix (commands more : List Command) :
    binding commands <+: binding (commands ++ more) := by
  induction commands with
  | nil => exact List.nil_prefix
  | cons command commands ih =>
      cases command with
      | send payload => exact (List.prefix_cons_inj _).mpr ih
      | close code reason => exact List.prefix_rfl

theorem mem_of_mem_binding {command : Command} {commands : List Command}
    (member : command ∈ binding commands) : command ∈ commands := by
  rcases List.mem_append.mp member with member | member
  · exact (List.takeWhile_prefix _).subset member
  · exact List.mem_of_find?_eq_some (Option.mem_toList.mp member)

/-- A close is the only one among the binding commands, and the last of them. -/
theorem eq_nil_of_binding {commands before after : List Command} {command : Command}
    (split : binding commands = before ++ command :: after) (close : command.isClose) :
    (∀ other ∈ before, other.isClose = false) ∧ after = [] := by
  induction commands generalizing before with
  | nil => exact absurd split.symm (List.append_ne_nil_of_right_ne_nil _ (List.cons_ne_nil _ _))
  | cons first commands ih =>
      cases first with
      | send payload =>
          rw [binding_send] at split
          cases before with
          | nil =>
              obtain ⟨rfl, -⟩ := List.cons.inj split
              cases close
          | cons other before =>
              obtain ⟨rfl, tail⟩ := List.cons.inj split
              obtain ⟨sends, last⟩ := ih tail
              exact ⟨List.forall_mem_cons.mpr ⟨rfl, sends⟩, last⟩
      | close code reason =>
          cases before with
          | nil => exact ⟨List.forall_mem_nil _, (List.cons.inj split).2.symm⟩
          | cons other before =>
              exact absurd (List.cons.inj split).2.symm
                (List.append_ne_nil_of_right_ne_nil _ (List.cons_ne_nil _ _))

/-! ## Messages that carry out a command -/

/-- A message carries out a command: a text has the payload that was to be sent, and a close has the
number of the code and the reason. -/
inductive CarriedBy : Command → Wire.Message → Prop where
  | send (payload : String) : CarriedBy (.send payload) (.text payload)
  | close {code : CloseCode} {status : UInt16} (number : status.toNat = code.number.toInt)
      (reason : String) : CarriedBy (.close code reason) (.close (some ⟨status, reason⟩))

/-- The message that is written for a command. -/
def message : Command → Wire.Message
  | send payload => .text payload
  | close code reason => .close (some (.ofRequest code reason))

theorem isClose_message (command : Command) : command.message.isClose = command.isClose := by
  cases command <;> rfl

/-- The status of a code that may be sent is its number. -/
theorem toNat_status {code : CloseCode} (valid : code.isValid) :
    (code.status.toNat : Int) = code.number.toInt := by
  have bounds : 0 ≤ code.number.toInt ∧ code.number.toInt ≤ 65535 := by
    simp only [CloseCode.isValid, Bool.or_eq_true, Bool.and_eq_true, decide_eq_true_eq] at valid
    omega
  have fits : code.number.toInt.toNat < 65536 := by omega
  rw [CloseCode.status, if_pos bounds, UInt16.toNat_ofNat_of_lt' fits]
  exact Int.toNat_of_nonneg bounds.1

theorem Proper.carriedBy {command : Command} (proper : command.Proper) :
    command.CarriedBy command.message := by
  cases command with
  | send payload => exact .send payload
  | close code reason => exact .close (toNat_status proper.1) reason

end Command

/-- While connecting, a host can only ask for a close. -/
theorem Verdict.isClose_of_connecting {asked command : Command}
    (passed : Verdict.ofRequest .connecting asked = .passed command) : command.isClose := by
  obtain rfl := Verdict.eq_of_passed passed
  cases asked with
  | send payload => cases passed
  | close code reason => rfl

/-- The message of what was asked for. -/
def Outgoing.asked? : Outgoing → Option Wire.Message
  | asked message => some message
  | reply _ => none

/-- An occurrence for which no command is read lets no message out that was asked for. -/
theorem Occurrence.Silent.asked_take {occurrence : Occurrence} (silent : occurrence.Silent)
    (timeout : Option Duration) (stage : Stage) :
    (stage.take timeout occurrence).sent.filterMap Outgoing.asked? = [] := by
  have receive (ours : Option CloseCode) (writable : Bool) (arrival : Arrival) :
      (stage.receive ours writable arrival).sent.filterMap Outgoing.asked? = [] := by
    cases arrival with
    | message message =>
        cases message <;> cases writable <;> cases ours <;> rfl
    | ended => rfl
    | cut => rfl
    | fault text => rfl
  cases occurrence with
  | overheard command => cases silent
  | commanded command result now => cases silent
  | arrived arrival writable =>
      cases stage with
      | talking => exact receive none writable arrival
      | closing code deadline => exact receive (some code) writable arrival
      | _ => rfl
  | expired =>
      cases stage with
      | closing code deadline => cases deadline <;> rfl
      | _ => rfl
  | _ => cases stage <;> rfl

/-- A close that is sent is waited for, unless the clock cannot show the deadline. -/
theorem Stage.ofClose_eq (code : CloseCode) (timeout : Option Duration) (now : Instant) :
    ofClose code timeout now = .lost ∨
      ∃ deadline, ofClose code timeout now = .closing code deadline := by
  unfold ofClose
  split
  · exact .inr ⟨none, rfl⟩
  · split
    · exact .inr ⟨_, rfl⟩
    · exact .inl rfl

/-- An occurrence for which no command is read leaves the stage, or ends the conversation, or opens
it. -/
theorem Occurrence.Silent.stage_take {occurrence : Occurrence} (silent : occurrence.Silent)
    (timeout : Option Duration) (stage : Stage) :
    (stage.take timeout occurrence).stage = stage ∨
      (stage.take timeout occurrence).stage = .finished ∨
      stage = .connecting ∧ (stage.take timeout occurrence).stage = .talking := by
  have receive (ours : Option CloseCode) (writable : Bool) (arrival : Arrival) :
      (stage.receive ours writable arrival).stage = stage ∨
        (stage.receive ours writable arrival).stage = .finished := by
    cases arrival with
    | message message => cases message <;> first | exact .inl rfl | exact .inr rfl
    | ended => exact .inr rfl
    | cut => exact .inr rfl
    | fault text => exact .inr rfl
  cases occurrence with
  | overheard command => cases silent
  | commanded command result now => cases silent
  | arrived arrival writable =>
      cases stage with
      | talking => exact (receive none writable arrival).imp_right .inl
      | closing code deadline => exact (receive (some code) writable arrival).imp_right .inl
      | _ => exact .inl rfl
  | connected =>
      cases stage with
      | connecting => exact .inr (.inr ⟨rfl, rfl⟩)
      | _ => exact .inl rfl
  | failed failure =>
      cases stage with
      | connecting => exact .inr (.inl rfl)
      | _ => exact .inl rfl
  | expired =>
      cases stage with
      | closing code deadline =>
          cases deadline with
          | none => exact .inl rfl
          | some deadline => exact .inr (.inl rfl)
      | _ => exact .inl rfl

namespace Link

/-! ## Orders -/

variable {timeout : Option Duration}

theorem orders_concat (moves : List Move) (move : Move) :
    orders timeout (moves ++ [move]) =
      orders timeout moves ++ (({} : Link).run timeout moves).accepted move :=
  gather_concat {} moves move

theorem deeds_concat (moves : List Move) (move : Move) :
    deeds timeout (moves ++ [move]) =
      deeds timeout moves ++ (({} : Link).run timeout moves).obeyed move :=
  gather_concat {} moves move

/-- The command that is read next is the first of those that wait. -/
theorem outstanding_eq_cons {link : Link} {command : Command} {rest : List Command}
    (next : link.nextCommand? = some (command, rest)) :
    ∃ others, link.outstanding = command :: others ∧
      (command.isClose = false → outstanding { link with queue := rest } = others) := by
  rcases nextCommand?_eq_some next with queue | ⟨queue, dropped, rfl, rfl⟩
  · refine ⟨outstanding { link with queue := rest }, ?_, fun _ => rfl⟩
    rw [outstanding, queue]
    rfl
  · refine ⟨[], ?_, fun send => by cases send⟩
    rw [outstanding, queue, dropped]
    rfl

/-! ## The books -/

/-- The commands that wait, those that were accepted, and those that were read, at each stage. -/
inductive Ledger : Stage → (waiting orders : List Command) → List Deed → Prop where
  /-- Everything waits, and everything is a close. -/
  | connecting {orders : List Command} (closes : ∀ command ∈ orders, command.isClose) :
      Ledger .connecting orders orders []
  /-- Messages were written, and the rest waits. -/
  | talking (payloads : List String) (waiting : List Command) :
      Ledger .talking waiting (payloads.map .send ++ waiting)
        ((payloads.map Command.send).map .done)
  /-- A close was written behind the messages. -/
  | closing (payloads : List String) {code : CloseCode} (reason : String) {stage : Stage}
      (stage_eq : stage = .lost ∨ ∃ deadline, stage = .closing code deadline)
      (waiting others : List Command) :
      Ledger stage waiting (payloads.map .send ++ .close code reason :: others)
        ((payloads.map Command.send ++ [Command.close code reason]).map .done)
  /-- It is over, and some of the binding commands were carried out. -/
  | finished {done orders : List Command} (bound : done <+: Command.binding orders)
      (waiting : List Command) : Ledger .finished waiting orders (done.map .done)
  /-- It is over because the message of the last command that was read could not be written. -/
  | broken {done orders : List Command} {command : Command}
      (bound : done ++ [command] <+: Command.binding orders) (text : String)
      (waiting : List Command) :
      Ledger .finished waiting orders (done.map .done ++ [⟨command, .error text⟩])

namespace Ledger

variable {stage : Stage} {waiting orders : List Command} {deeds : List Deed}

/-- What was carried out is what is binding, from the first command on. -/
theorem carried_out (ledger : Ledger stage waiting orders deeds) :
    deeds.filterMap Deed.done? <+: Command.binding orders := by
  cases ledger with
  | connecting closes => exact List.nil_prefix
  | talking payloads =>
      rw [Deed.filterMap_done, Command.binding_sends]
      exact List.prefix_append _ _
  | closing payloads reason stage_eq waiting others =>
      rw [Deed.filterMap_done, Command.binding_sends, Command.binding_close]
  | finished bound =>
      rw [Deed.filterMap_done]
      exact bound
  | broken bound text =>
      rw [List.filterMap_append, Deed.filterMap_done,
        show List.filterMap Deed.done? [⟨_, .error text⟩] = [] from rfl, List.append_nil]
      exact (List.prefix_append _ _).trans bound

/-- All that is binding was carried out, if a conversation that goes on has nothing left to read. -/
theorem done_eq (ledger : Ledger stage waiting orders deeds) (running : stage ≠ .finished)
    (read : stage = .connecting ∨ stage = .talking → waiting = []) :
    deeds.filterMap Deed.done? = Command.binding orders := by
  cases ledger with
  | connecting closes =>
      rw [read (.inl rfl)]
      rfl
  | talking payloads =>
      rw [Deed.filterMap_done, Command.binding_sends, read (.inr rfl), Command.binding_nil,
        List.append_nil]
  | closing payloads reason stage_eq =>
      rw [Deed.filterMap_done, Command.binding_sends, Command.binding_close]
  | finished bound => exact absurd rfl running
  | broken bound text => exact absurd rfl running

/-- A conversation can end at any time. -/
theorem finish (ledger : Ledger stage waiting orders deeds) (left : List Command) :
    Ledger .finished left orders deeds := by
  cases ledger with
  | connecting closes => exact finished List.nil_prefix _
  | talking payloads =>
      refine finished ?_ _
      rw [Command.binding_sends]
      exact List.prefix_append _ _
  | closing payloads reason stage_eq waiting others =>
      refine finished ?_ _
      rw [Command.binding_sends, Command.binding_close]
  | finished bound => exact finished bound _
  | broken bound text => exact broken bound text _

/-- More commands are accepted, and wait. -/
theorem accept (ledger : Ledger stage waiting orders deeds) (more : List Command)
    (closes : stage = .connecting → ∀ command ∈ more, command.isClose) :
    Ledger stage (waiting ++ more) (orders ++ more) deeds := by
  cases ledger with
  | connecting before => exact connecting (List.forall_mem_append.mpr ⟨before, closes rfl⟩)
  | talking payloads =>
      rw [List.append_assoc]
      exact talking payloads _
  | closing payloads reason stage_eq waiting others =>
      rw [List.append_assoc, List.cons_append]
      exact closing payloads reason stage_eq _ _
  | finished bound => exact finished (bound.trans (Command.binding_prefix _ more)) _
  | broken bound text => exact broken (bound.trans (Command.binding_prefix _ more)) text _

/-- Something happens for which no command is read. -/
theorem meet (ledger : Ledger stage waiting orders deeds) {occurrence : Occurrence}
    (silent : occurrence.Silent) (timeout : Option Duration) :
    Ledger (stage.take timeout occurrence).stage waiting orders deeds := by
  rcases silent.stage_take timeout stage with same | ended | ⟨rfl, talks⟩
  · rw [same]
    exact ledger
  · rw [ended]
    exact ledger.finish _
  · rw [talks]
    cases ledger with
    | connecting closes => exact talking [] _
    | closing payloads reason stage_eq => exact absurd stage_eq (by simp)

/-- While connecting, everything that was accepted waits, and all of it closes. -/
theorem of_connecting (ledger : Ledger .connecting waiting orders deeds) :
    waiting = orders ∧ (∀ command ∈ orders, command.isClose) ∧ deeds = [] := by
  cases ledger with
  | connecting closes => exact ⟨rfl, closes, rfl⟩
  | closing payloads reason stage_eq => exact absurd stage_eq (by simp)

/-- The first of the waiting commands is read, and its message is written or not. -/
theorem obey {command : Command} {others : List Command}
    (ledger : Ledger .talking (command :: others) orders deeds) (timeout : Option Duration)
    (result : Except String Unit) (now : Instant)
    (rest : command.isClose = false → waiting = others) :
    Ledger (Stage.take timeout .talking (.commanded command result now)).stage waiting orders
      (deeds ++ [⟨command, result⟩]) := by
  cases ledger with
  | closing payloads reason stage_eq => exact absurd stage_eq (by simp)
  | talking payloads =>
      cases result with
      | error text =>
          refine broken ?_ text _
          rw [Command.binding_sends, List.prefix_append_right_inj]
          cases command with
          | send payload => exact (List.prefix_cons_inj _).mpr List.nil_prefix
          | close code reason => exact List.prefix_rfl
      | ok written =>
          cases command with
          | send payload =>
              obtain rfl := rest rfl
              have longer := talking (payloads ++ [payload]) waiting
              rw [List.map_append, List.map_append, List.append_assoc] at longer
              exact longer
          | close code reason =>
              have awaits := Stage.ofClose_eq code timeout now
              have closes := closing payloads reason awaits waiting others
              rw [List.map_append] at closes
              exact closes

end Ledger

/-- Every step keeps the books. -/
theorem Ledger.step {link after : Link} {move : Move} {orders commands : List Command}
    {deeds more : List Deed} (ledger : Ledger link.stage link.outstanding orders deeds)
    (connecting : link.stage = .connecting → link.lifecycle.state = .connecting)
    (step : Step timeout link move commands more after) :
    Ledger after.stage after.outstanding (orders ++ commands) (deeds ++ more) := by
  have adds {commands : List Command}
      (outstanding : after.outstanding = link.outstanding ++ commands)
      (stage : after.stage = link.stage)
      (closes : link.stage = .connecting → ∀ command ∈ commands, command.isClose) :
      Ledger after.stage after.outstanding (orders ++ commands) (deeds ++ []) := by
    rw [outstanding, stage, List.append_nil]
    exact ledger.accept commands closes
  cases step with
  | ignored => exact adds (List.append_nil _).symm rfl fun _ => List.forall_mem_nil _
  | asked handle passed kept =>
      refine adds ?_ rfl ?_
      · simp only [outstanding, handle, if_true, List.append_nil]
      · intro stage
        rw [connecting stage] at passed
        exact List.forall_mem_singleton.mpr (Verdict.isClose_of_connecting passed)
  | dropped handle =>
      refine adds ?_ rfl fun _ => List.forall_mem_singleton.mpr rfl
      simp [outstanding, handle]
  | met occurs silent =>
      rw [List.append_nil, List.append_nil]
      exact ledger.meet silent timeout
  | overheard stage next =>
      rw [List.append_nil, List.append_nil]
      obtain ⟨others, waits, -⟩ := outstanding_eq_cons next
      rename_i command rest
      rw [stage, waits] at ledger
      have close : command.isClose := by
        obtain ⟨rfl, closes, -⟩ := ledger.of_connecting
        exact closes command (List.mem_cons_self ..)
      cases command with
      | send payload => cases close
      | close code reason =>
          simp only [Link.meet, stage, Stage.take]
          exact ledger.finish _
  | obeyed stage next result now =>
      rw [List.append_nil]
      obtain ⟨others, waits, kept⟩ := outstanding_eq_cons next
      rw [stage, waits] at ledger
      simp only [Link.meet, stage]
      exact ledger.obey timeout result now kept

/-- **The books of a run are balanced.** -/
theorem ledger_run (timeout : Option Duration) (moves : List Move) :
    Ledger (({} : Link).run timeout moves).stage (({} : Link).run timeout moves).outstanding
      (orders timeout moves) (deeds timeout moves) := by
  induction moves using List.reverseRecOn with
  | nil => exact .connecting (List.forall_mem_nil _)
  | append_singleton moves move ih =>
      rw [run_concat, orders_concat, deeds_concat]
      refine ih.step ?_ (step_cases timeout _ move)
      intro connecting
      obtain ⟨-, lifecycle, -⟩ := (standing_run timeout moves).of_connecting connecting
      rw [lifecycle]

/-! ## What was written -/

/-- The messages that went out because they were asked for. -/
def written (link : Link) : List Wire.Message :=
  link.sent.filterMap Outgoing.asked?

/-- The commands that the transport is still going to read: none once our close was written. -/
def unread (link : Link) : List Command :=
  match link.stage with
  | .connecting | .talking => link.outstanding
  | .closing .. | .finished | .lost => []

/-- The commands whose messages were written in a run. -/
def done (timeout : Option Duration) (moves : List Move) : List Command :=
  (deeds timeout moves).filterMap Deed.done?

theorem Step.written {link after : Link} {move : Move} {commands : List Command}
    {deeds : List Deed} (step : Step timeout link move commands deeds after) :
    after.written = link.written ++ (deeds.filterMap Deed.done?).map Command.message := by
  have meets (link : Link) (occurrence : Occurrence) :
      (link.meet timeout occurrence).written = link.written ++
        (link.stage.take timeout occurrence).sent.filterMap Outgoing.asked? :=
    List.filterMap_append
  cases step with
  | ignored => exact (List.append_nil _).symm
  | asked handle passed kept => exact (List.append_nil _).symm
  | dropped handle => exact (List.append_nil _).symm
  | met occurs silent =>
      rw [meets, silent.asked_take]
      rfl
  | overheard stage next =>
      rename_i command rest
      rw [meets]
      simp only [stage]
      cases command <;> rfl
  | obeyed stage next result now =>
      rename_i command rest
      rw [meets]
      simp only [stage]
      cases result with
      | error text => rfl
      | ok written => cases command <;> rfl

/-- The messages of a run are those of the commands that were carried out. -/
theorem written_run (timeout : Option Duration) (moves : List Move) :
    (({} : Link).run timeout moves).written = (done timeout moves).map Command.message := by
  induction moves using List.reverseRecOn with
  | nil => rfl
  | append_singleton moves move ih =>
      rw [run_concat, done, deeds_concat, List.filterMap_append, List.map_append]
      exact ((step_cases timeout _ move).written).trans (congrArg (· ++ _) ih)

theorem done_append (timeout : Option Duration) (first second : List Move) :
    done timeout first <+: done timeout (first ++ second) := by
  rw [done, done, deeds_append, List.filterMap_append]
  exact List.prefix_append _ _

/-- What was carried out in a run carries out the binding commands, from the first one on. -/
theorem done_prefix_binding (timeout : Option Duration) (moves : List Move) :
    done timeout moves <+: Command.binding (orders timeout moves) :=
  (ledger_run timeout moves).carried_out

/-- Nothing is carried out behind a close. -/
theorem eq_nil_of_done {moves : List Move} {before after : List Command} {command : Command}
    (split : done timeout moves = before ++ command :: after) (close : command.isClose) :
    (∀ other ∈ before, other.isClose = false) ∧ after = [] := by
  obtain ⟨undone, bound⟩ := done_prefix_binding timeout moves
  rw [split, List.append_assoc, List.cons_append] at bound
  obtain ⟨sends, last⟩ := Command.eq_nil_of_binding bound.symm close
  exact ⟨sends, (List.append_eq_nil_iff.mp last).1⟩

/-- A close that was written is the last message of the run, and of every longer one. -/
theorem last_of_close {moves : List Move} {before after : List Wire.Message}
    {body : Option Wire.CloseBody}
    (split : (({} : Link).run timeout moves).written = before ++ .close body :: after) :
    (∀ message ∈ before, message.isClose = false) ∧ after = [] ∧
      ∀ more, (({} : Link).run timeout (moves ++ more)).written =
        (({} : Link).run timeout moves).written := by
  rw [written_run] at split
  obtain ⟨first, others, done_eq, rfl, tail⟩ := List.map_eq_append_iff.mp split
  obtain ⟨command, last, rfl, message, rfl⟩ := List.map_eq_cons_iff.mp tail
  have close : command.isClose := by
    rw [← Command.isClose_message, message]
    rfl
  obtain ⟨sends, rfl⟩ := eq_nil_of_done done_eq close
  refine ⟨?_, rfl, ?_⟩
  · intro message member
    obtain ⟨other, among, rfl⟩ := List.mem_map.mp member
    rw [Command.isClose_message]
    exact sends other among
  · intro more
    obtain ⟨later, longer⟩ := done_append timeout moves more
    rw [done_eq, List.append_assoc, List.cons_append] at longer
    have none := (eq_nil_of_done longer.symm close).2
    rw [List.nil_append] at none
    rw [written_run, written_run, ← longer, done_eq, none, List.append_nil]

/-- The story of a conversation that is over has a terminal signal. -/
theorem stage_ne_finished {moves : List Move}
    (running : ∀ signal ∈ ({} : Link).signals timeout moves, signal.isTerminal = false) :
    (({} : Link).run timeout moves).stage ≠ .finished := by
  intro finished
  obtain ⟨farewell, story, -⟩ := (standing_run timeout moves).of_finished finished
  obtain ⟨signal, member, terminal⟩ := story.exists_terminal
  rw [running signal member] at terminal
  cases terminal

/-- **What is written is what was asked for, up to the first close.**  The messages that go out
because they were asked for carry out the commands that the transport has accepted, one each and in
the order of the calls: the texts that were accepted before the first close, and then this close.
As long as no terminal signal is reported, all of them are written once nothing is left to read.  A
close that was written is the only one and the last message, however the run goes on. -/
theorem written_of_run (timeout : Option Duration) (moves : List Move) :
    let link := ({} : Link).run timeout moves
    let binding := Command.binding (orders timeout moves)
    ∃ done, done <+: binding ∧ List.Forall₂ Command.CarriedBy done link.written ∧
      ((∀ signal ∈ ({} : Link).signals timeout moves, signal.isTerminal = false) →
        link.unread = [] → done = binding) ∧
      ∀ before body after, link.written = before ++ .close body :: after →
        (∀ message ∈ before, message.isClose = false) ∧ after = [] ∧
          ∀ more, (({} : Link).run timeout (moves ++ more)).written = link.written := by
  intro link binding
  refine ⟨done timeout moves, done_prefix_binding timeout moves, ?_, ?_, ?_⟩
  · rw [show link.written = _ from written_run timeout moves, List.forall₂_map_right_iff,
      List.forall₂_same]
    intro command member
    have ordered := Command.mem_of_mem_binding ((done_prefix_binding timeout moves).subset member)
    exact (proper_of_mem_orders command ordered).carriedBy
  · intro running read
    refine (ledger_run timeout moves).done_eq (stage_ne_finished running) ?_
    rintro (stage | stage) <;> simpa only [unread, link, stage] using read
  · intro before body after split
    exact last_of_close split

/-- A message that is accepted behind a close is not written. -/
theorem written_of_late_message :
    let moves : List Move := [.connect, .ask (.send "first"), .ask (.close (.other 4000) "bye"),
      .ask (.send "late"), .obey (.ok ()) .origin, .obey (.ok ()) .origin]
    orders none moves = [.send "first", .close (.other 4000) "bye", .send "late"] ∧
      (∀ signal ∈ ({} : Link).signals none moves, signal.isTerminal = false) ∧
      (({} : Link).run none moves).unread = [] ∧
      List.Forall₂ Command.CarriedBy [.send "first", .close (.other 4000) "bye"]
        (({} : Link).run none moves).written := by
  intro moves
  have running : ∀ signal ∈ ({} : Link).signals none moves, signal.isTerminal = false :=
    List.forall_mem_singleton.mpr rfl
  have read : (({} : Link).run none moves).unread = [] := rfl
  obtain ⟨done, -, carried, whole, -⟩ := written_of_run none moves
  rw [whole running read] at carried
  exact ⟨rfl, running, read, carried⟩

end Link

end WebSocketClient
