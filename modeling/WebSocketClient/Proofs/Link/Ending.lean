import WebSocketClient.Proofs.Link.Ledger

/-!
# How an open conversation ends

Two things decide the close that a transport reports: what ended the conversation, and whether our
own close had been written by then.  The second is a fact of the history of a run
(`Link.ownClose?`), and as long as the conversation goes on it is also a fact of its stage
(`Link.ownClose?_run`).  The table of all combinations is `Ending`.  A close that is reported is one
of the table, and whatever the table has an entry for is reported as a close
(`Link.ending_of_run`).

A host that asked for a normal close has little to fear from the table.  Its own code is a clean
one, and so is that of a broken connection, so it is told of a failure only if the peer answers with
another status, or if reading fails (`Move.Upsets`).
-/

namespace WebSocketClient

set_option autoImplicit false

/-! ## The table -/

/-- The code and the reason of the close that a move ends an open conversation with; `own` is the
code of our own close, if it was written, and `timeout` the time limit for the answer. -/
inductive Ending (own : Option CloseCode) (timeout : Option Duration) :
    Move → CloseCode → String → Prop where
  /-- A close with a status is reported as it is. -/
  | status (body : Wire.CloseBody) (code : CloseCode)
      (number : code.number.toInt = body.status.toNat) (writable : Bool) :
      Ending own timeout (.arrive (.message (.close (some body))) writable) code body.reason
  /-- A close without a status stands for our own close, if there is one. -/
  | blank (writable : Bool) :
      Ending own timeout (.arrive (.message (.close none)) writable) (own.getD .noStatus) ""
  /-- A stream without a closing handshake is broken. -/
  | cut (writable : Bool) :
      Ending own timeout (.arrive .cut writable) .abnormal
        "connection reset without closing handshake"
  /-- A stream that ends behind our own close was closed by it. -/
  | closed {code : CloseCode} (ours : own = some code) (writable : Bool) :
      Ending own timeout (.arrive .ended writable) code ""
  /-- A stream that ends by itself is broken. -/
  | ended (theirs : own = none) (writable : Bool) :
      Ending own timeout (.arrive .ended writable) .abnormal "connection ended"
  /-- The answer to our own close did not come in time. -/
  | expired (ours : own.isSome) (limited : timeout.isSome) :
      Ending own timeout .expire .abnormal "close handshake timed out"

/-- What an open conversation reports for a move. -/
inductive Report (own : Option CloseCode) (timeout : Option Duration) :
    Move → List Signal → Prop where
  | nothing (move : Move) : Report own timeout move []
  | message (payload : String) (writable : Bool) :
      Report own timeout (.arrive (.message (.text payload)) writable) [.message payload]
  | closed {move : Move} {code : CloseCode} {reason : String}
      (ending : Ending own timeout move code reason) :
      Report own timeout move [.closed code reason own.isNone]
  | fault (text : String) (writable : Bool) :
      Report own timeout (.arrive (.fault text) writable) [.failed (.transport text)]
  | unwritten (unclosed : own = none) (text : String) (now : Instant) :
      Report own timeout (.obey (.error text) now) [.failed (.transport text)]

/-- An arrival that a host is told of as a failure though its own normal close was written: an
answer with a status that is not clean, or a failure to read. -/
inductive Move.Upsets : Move → Prop where
  | status {body : Wire.CloseBody} (normal : body.status ≠ 1000) (abnormal : body.status ≠ 1006)
      (writable : Bool) : Upsets (.arrive (.message (.close (some body))) writable)
  | fault (text : String) (writable : Bool) : Upsets (.arrive (.fault text) writable)

/-- The code of a command to close. -/
def Command.closeCode? : Command → Option CloseCode
  | .close code _ => some code
  | .send _ => none

namespace Stage

variable {stage : Stage} {own : Option CloseCode} {timeout : Option Duration}

/-- The code of our own close, at the stage of waiting for the answer. -/
def ownClose? : Stage → Option CloseCode
  | closing code _ => some code
  | connecting | talking | finished | lost => none

/-- What is reported for an arrival: a text, or a close of the table, or a failure to read. -/
theorem report_receive (timeout : Option Duration) (own : Option CloseCode) (writable : Bool)
    (arrival : Arrival) :
    Report own timeout (.arrive arrival writable) (stage.receive own writable arrival).signals := by
  cases arrival with
  | message message =>
      cases message with
      | text payload => exact .message payload writable
      | binary payload => exact .nothing _
      | ping payload => exact .nothing _
      | pong payload => exact .nothing _
      | close body =>
          cases body with
          | some body =>
              exact .closed (.status body _ (CloseCode.toInt_number_ofStatus body.status) writable)
          | none => cases own <;> exact .closed (.blank writable)
  | ended =>
      cases own with
      | some ours => exact .closed (.closed rfl writable)
      | none => exact .closed (.ended rfl writable)
  | cut => exact .closed (.cut writable)
  | fault text => exact .fault text writable

/-- What the table has an entry for is reported as a close, whether or not a reply can be
written. -/
theorem receive_of_ending (stage : Stage) {writable : Bool} {arrival : Arrival} {code : CloseCode}
    {reason : String} (ending : Ending own timeout (.arrive arrival writable) code reason) :
    ∃ same, (same == code) = true ∧
      (stage.receive own writable arrival).signals = [.closed same reason own.isNone] := by
  cases ending with
  | status body code number =>
      refine ⟨_, ?_, rfl⟩
      rw [CloseCode.beq_iff]
      exact Int32.toInt_inj.mp ((CloseCode.toInt_number_ofStatus _).trans number.symm)
  | blank => cases own <;> exact ⟨_, BEq.rfl, rfl⟩
  | cut => exact ⟨_, BEq.rfl, rfl⟩
  | closed ours =>
      subst ours
      exact ⟨_, BEq.rfl, rfl⟩
  | ended theirs =>
      subst theirs
      exact ⟨_, BEq.rfl, rfl⟩

/-- The deadline of a stage fits the time limit. -/
def Timed (timeout : Option Duration) : Stage → Prop
  | closing _ deadline => deadline.isSome = timeout.isSome
  | connecting | talking | finished | lost => True

/-- There is a deadline exactly if there is a time limit. -/
theorem timed_ofClose (code : CloseCode) (timeout : Option Duration) (now : Instant) :
    (ofClose code timeout now).Timed timeout := by
  unfold ofClose
  split
  · rfl
  · split
    · rfl
    · exact trivial

theorem Timed.receive (timed : stage.Timed timeout) (own : Option CloseCode) (writable : Bool)
    (arrival : Arrival) : (stage.receive own writable arrival).stage.Timed timeout := by
  cases arrival with
  | message message =>
      cases message with
      | close body => exact trivial
      | _ => exact timed
  | _ => exact trivial

theorem Timed.take (timed : stage.Timed timeout) (occurrence : Occurrence) :
    (stage.take timeout occurrence).stage.Timed timeout := by
  cases stage with
  | connecting =>
      cases occurrence with
      | overheard command => cases command <;> exact trivial
      | _ => exact trivial
  | talking =>
      cases occurrence with
      | arrived arrival writable => exact timed.receive none writable arrival
      | commanded command result now =>
          cases result with
          | error text => exact trivial
          | ok written =>
              cases command with
              | send payload => exact trivial
              | close code reason => exact timed_ofClose code timeout now
      | _ => exact trivial
  | closing code deadline =>
      cases occurrence with
      | arrived arrival writable => exact timed.receive (some code) writable arrival
      | expired =>
          cases deadline with
          | none => exact timed
          | some deadline => exact trivial
      | _ => exact timed
  | finished => cases occurrence <;> exact trivial
  | lost => cases occurrence <;> exact trivial

end Stage

namespace Link

variable {timeout : Option Duration}

/-! ## Our own close -/

/-- The code of our own close, if it was written in a run. -/
def ownClose? (timeout : Option Duration) (moves : List Move) : Option CloseCode :=
  (done timeout moves).findSome? Command.closeCode?

/-- The books of a conversation that goes on show our own close at the stage of waiting for the
answer. -/
theorem Ledger.ownClose?_eq {stage : Stage} {waiting orders : List Command} {deeds : List Deed}
    (ledger : Ledger stage waiting orders deeds) (going : stage.keepsQueue) :
    (deeds.filterMap Deed.done?).findSome? Command.closeCode? = stage.ownClose? := by
  have sends (payloads : List String) :
      (payloads.map Command.send).findSome? Command.closeCode? = none := by
    rw [List.findSome?_eq_none_iff]
    intro command member
    obtain ⟨payload, -, rfl⟩ := List.mem_map.mp member
    rfl
  cases ledger with
  | connecting closes => rfl
  | talking payloads =>
      rw [Deed.filterMap_done, sends]
      rfl
  | closing payloads reason stage_eq =>
      rw [Deed.filterMap_done, List.findSome?_append, sends]
      rcases stage_eq with rfl | ⟨deadline, rfl⟩
      · cases going
      · rfl
  | finished bound => cases going
  | broken bound => cases going

/-- As long as a conversation goes on, its stage tells whether our own close was written. -/
theorem ownClose?_run {moves : List Move}
    (going : (({} : Link).run timeout moves).stage.keepsQueue) :
    ownClose? timeout moves = (({} : Link).run timeout moves).stage.ownClose? :=
  (ledger_run timeout moves).ownClose?_eq going

/-- There is a deadline exactly if there is a time limit, in every run. -/
theorem timed_run (moves : List Move) :
    (({} : Link).run timeout moves).stage.Timed timeout := by
  induction moves using List.reverseRecOn with
  | nil => exact trivial
  | append_singleton moves move ih =>
      rw [run_concat, (took_step timeout _ move).stage_eq]
      unfold turn
      split
      · exact ih
      · exact ih.take _

/-! ## The turns of an open conversation -/

/-- A conversation that reports something was not over. -/
theorem keepsQueue_of_signals {link : Link} {move : Move}
    (reported : (link.turn timeout move).signals ≠ []) : link.stage.keepsQueue := by
  refine eq_true_of_ne_false ?_
  intro ended
  rw [turn_of_ended ended] at reported
  exact reported rfl

/-- **An open conversation reports what the table says**, or a text, or a failure to read or to
write. -/
theorem report_turn {link : Link} (opened : link.stage.isOpen) (timed : link.stage.Timed timeout)
    (move : Move) :
    Report link.stage.ownClose? timeout move (link.turn timeout move).signals := by
  obtain ⟨lifecycle, stage, queue, handle, told, sent⟩ := link
  cases stage with
  | connecting => cases opened
  | finished => cases opened
  | lost =>
      rw [turn_of_ended rfl]
      exact .nothing move
  | talking =>
      cases move with
      | arrive arrival writable => exact Stage.report_receive timeout none writable arrival
      | obey result now =>
          unfold turn
          split
          · exact .nothing _
          · rename_i occurs
            obtain ⟨-, command, rest, -, rfl⟩ := eq_commanded occurs
            cases result with
            | error text => exact .unwritten rfl text now
            | ok written => cases command <;> exact .nothing _
      | _ => exact .nothing _
  | closing code deadline =>
      cases move with
      | arrive arrival writable => exact Stage.report_receive timeout (some code) writable arrival
      | expire =>
          cases deadline with
          | none => exact .nothing _
          | some deadline => exact .closed (.expired rfl timed.symm)
      | _ => exact .nothing _

/-- What the table has an entry for ends an open conversation. -/
theorem turn_of_ending {link : Link} (opened : link.stage.isOpen) (going : link.stage.keepsQueue)
    (timed : link.stage.Timed timeout) {move : Move} {code : CloseCode} {reason : String}
    (ending : Ending link.stage.ownClose? timeout move code reason) :
    ∃ same, (same == code) = true ∧
      (link.turn timeout move).signals =
        [.closed same reason link.stage.ownClose?.isNone] := by
  obtain ⟨lifecycle, stage, queue, handle, told, sent⟩ := link
  have arrive {arrival : Arrival} {writable : Bool} (own : Option CloseCode)
      (ending : Ending own timeout (.arrive arrival writable) code reason) :=
    Stage.receive_of_ending stage ending
  cases stage with
  | connecting => cases opened
  | finished => cases opened
  | lost => cases going
  | talking =>
      cases move with
      | arrive arrival writable => exact arrive none ending
      | expire =>
          cases ending with
          | expired ours limited => cases ours
      | _ => cases ending
  | closing ours deadline =>
      cases move with
      | arrive arrival writable => exact arrive (some ours) ending
      | expire =>
          cases ending with
          | expired given limited =>
              cases deadline with
              | none =>
                  rw [← timed] at limited
                  cases limited
              | some deadline => exact ⟨_, BEq.rfl, rfl⟩
      | _ => cases ending

/-! ## Failures behind our own normal close -/

/-- A clean close is told without a failure. -/
theorem not_failed_of_clean {code : CloseCode} (clean : code.isClean) (reason : String)
    (remote : Bool) (failure : Failure) :
    .failed failure ∉
      (Lifecycle.acceptAll ⟨.opened, none⟩ [.closed code reason remote]).2 := by
  have told : (Lifecycle.acceptAll ⟨.opened, none⟩ [.closed code reason remote]).2 =
      Lifecycle.farewell (Lifecycle.closeFailure? (.ofReport code reason remote))
        (.ofReport code reason remote) ++ [] := rfl
  rw [told, Lifecycle.closeFailure?, CloseRecord.ofReport, if_pos clean]
  intro member
  cases List.mem_singleton.mp member

theorem isClean_of_number {code : CloseCode} (clean : code.number = 1000 ∨ code.number = 1006) :
    code.isClean := by
  rcases clean with same | same <;> rw [CloseCode.isClean, same] <;> rfl

/-- An open conversation behind our own normal close: if the host is told of a failure, then for a
reason to be upset. -/
theorem upsets_of_report {own : Option CloseCode} {code : CloseCode} {move : Move}
    {signals : List Signal} (report : Report own timeout move signals) (ours : own = some code)
    (normal : code.number = 1000) {failure : Failure}
    (told : .failed failure ∈ (Lifecycle.acceptAll ⟨.opened, none⟩ signals).2) : move.Upsets := by
  cases report with
  | nothing => cases told
  | message payload writable => cases List.mem_singleton.mp told
  | fault text writable => exact .fault text writable
  | unwritten unclosed text now =>
      rw [ours] at unclosed
      cases unclosed
  | @closed _ reported reason ending =>
      have unclean : ¬ (reported.number = 1000 ∨ reported.number = 1006) :=
        fun clean => not_failed_of_clean (isClean_of_number clean) _ _ _ told
      cases ending with
      | status body _ number writable =>
          have number_eq (clean : UInt16) (value : Int32)
              (same : (clean.toNat : Int) = value.toInt) (status : body.status = clean) :
              reported.number = value := by
            rw [status, same] at number
            exact Int32.toInt_inj.mp number
          refine .status ?_ ?_ writable
          · exact fun status => unclean (.inl (number_eq 1000 1000 rfl status))
          · exact fun status => unclean (.inr (number_eq 1006 1006 rfl status))
      | blank =>
          rw [ours] at unclean
          exact absurd (.inl normal) unclean
      | cut => exact absurd (.inr rfl) unclean
      | closed given =>
          obtain rfl := Option.some.inj (ours.symm.trans given)
          exact absurd (.inl normal) unclean
      | ended theirs =>
          rw [ours] at theirs
          cases theirs
      | expired => exact absurd (.inr rfl) unclean

/-- A move that reports something carries out no command. -/
theorem done_of_report {link : Link} {own : Option CloseCode} {move : Move}
    {signals : List Signal} (report : Report own timeout move signals) (reported : signals ≠ []) :
    (link.obeyed move).filterMap Deed.done? = [] := by
  cases report with
  | nothing => exact absurd rfl reported
  | message payload writable => rfl
  | fault text writable => rfl
  | closed ending => cases ending <;> rfl
  | unwritten unclosed text now =>
      simp only [obeyed]
      split
      · cases link.nextCommand? <;> rfl
      · rfl

theorem ownClose?_concat {moves : List Move} {move : Move}
    (none : ((({} : Link).run timeout moves).obeyed move).filterMap Deed.done? = []) :
    ownClose? timeout (moves ++ [move]) = ownClose? timeout moves := by
  rw [ownClose?, done, deeds_concat, List.filterMap_append, none, List.append_nil]
  rfl

/-- The last move of a run upsets a host whose own normal close was written, if it tells of a
failure. -/
theorem upsets_of_opened {moves : List Move} {move : Move} {code : CloseCode}
    (opened : (({} : Link).run timeout moves).stage.isOpen)
    (fresh : (({} : Link).run timeout moves).lifecycle = ⟨.opened, none⟩)
    (ours : ownClose? timeout (moves ++ [move]) = some code) (normal : code.number = 1000)
    {failure : Failure} (unfailed : .failed failure ∉ (({} : Link).run timeout moves).told)
    (told : .failed failure ∈ (({} : Link).run timeout (moves ++ [move])).told) :
    ownClose? timeout moves = some code ∧ move.Upsets := by
  have report := report_turn opened (timed_run moves) move
  rw [run_concat, (took_step timeout _ move).told_eq, fresh] at told
  have now := (List.mem_append.mp told).resolve_left unfailed
  have reported : ((({} : Link).run timeout moves).turn timeout move).signals ≠ [] := by
    intro none
    rw [none] at now
    cases now
  have going := keepsQueue_of_signals reported
  rw [ownClose?_concat (done_of_report report reported)] at ours
  exact ⟨ours, upsets_of_report report ((ownClose?_run going).symm.trans ours) normal now⟩

/-- A host whose own normal close was written is told of a failure only because of an arrival that
upsets it. -/
theorem exists_upset {moves : List Move} {code : CloseCode}
    (ours : ownClose? timeout moves = some code) (normal : code.number = 1000) {failure : Failure}
    (told : .failed failure ∈ (({} : Link).run timeout moves).told) :
    ∃ before move after, moves = before ++ move :: after ∧
      ownClose? timeout before = some code ∧ move.Upsets ∧
      (∀ other, .failed other ∉ (({} : Link).run timeout before).told) ∧
      .failed failure ∈ (({} : Link).run timeout (before ++ [move])).told := by
  induction moves using List.reverseRecOn with
  | nil => cases told
  | append_singleton moves move ih =>
      rcases standing_run timeout moves with
        ⟨connecting, -, -, -⟩ | ⟨payloads, opened, -, lifecycle, silent⟩ | ⟨finished, -, -⟩
      · -- Nothing is written in the move that ends the attempt.
        rw [ownClose?_concat (by rw [obeyed_eq_nil (by simp [connecting])]; rfl),
          ownClose?_run (by rw [connecting]; rfl), connecting] at ours
        cases ours
      · have unfailed : ∀ other, .failed other ∉ (({} : Link).run timeout moves).told := by
          simp [silent]
        obtain ⟨before, upsets⟩ :=
          upsets_of_opened opened lifecycle ours normal (unfailed failure) told
        exact ⟨moves, move, [], rfl, before, upsets, unfailed, told⟩
      · -- Nothing is written or told any more, so the arrival came earlier.
        rw [ownClose?_concat (by rw [obeyed_eq_nil (by simp [finished])]; rfl)] at ours
        rw [run_concat, (took_step timeout _ move).told_eq,
          turn_of_ended (by rw [finished]; rfl)] at told
        rw [show (Lifecycle.acceptAll _ (Stage.idle _).signals).2 = [] from rfl,
          List.append_nil] at told
        obtain ⟨before, last, after, rfl, found⟩ := ih ours told
        exact ⟨before, last, after ++ [move], List.append_assoc .., found⟩

/-- **How an open conversation ends.**  Consider a run that has gone past the opening.  A close that
is reported next is a close of the peer exactly if our own close was not written, and its code and
its reason are those of the table.  As long as the conversation goes on, whatever the table has an
entry for is reported as that close.  If our own close was written and was a normal one, the host is
told of a failure only because of an answer that is not clean or a failure to read, which came
behind that close. -/
theorem ending_of_run (timeout : Option Duration) (moves : List Move)
    (opened : .opened ∈ ({} : Link).signals timeout moves) :
    let link := ({} : Link).run timeout moves
    let own := ownClose? timeout moves
    (∀ move code reason remote, .closed code reason remote ∈ (link.turn timeout move).signals →
      (remote = true ↔ own = none) ∧ Ending own timeout move code reason) ∧
    (link.stage.keepsQueue → ∀ move code reason, Ending own timeout move code reason →
      ∃ same, (same == code) = true ∧
        (link.turn timeout move).signals = [.closed same reason own.isNone]) ∧
    ∀ code, own = some code → code.number = 1000 → ∀ failure, .failed failure ∈ link.told →
      ∃ before move after, moves = before ++ move :: after ∧
        ownClose? timeout before = some code ∧ move.Upsets ∧
        (∀ other, .failed other ∉ (({} : Link).run timeout before).told) ∧
        .failed failure ∈ (({} : Link).run timeout (before ++ [move])).told := by
  intro link own
  have past (going : link.stage.keepsQueue) : link.stage.isOpen ∧ own = link.stage.ownClose? := by
    refine ⟨?_, ownClose?_run going⟩
    rcases standing_run timeout moves with ⟨-, signals, -⟩ | ⟨-, stage_open, -⟩ | ⟨finished, -⟩
    · rw [signals] at opened
      cases opened
    · exact stage_open
    · rw [show link.stage = _ from finished] at going
      cases going
  refine ⟨?_, ?_, ?_⟩
  · intro move code reason remote reported
    obtain ⟨stage_open, ours⟩ := past (keepsQueue_of_signals (List.ne_nil_of_mem reported))
    have report := report_turn stage_open (timed_run moves) move
    rw [← ours] at report
    generalize (link.turn timeout move).signals = signals at report reported
    cases report with
    | nothing => cases reported
    | message payload writable => cases List.mem_singleton.mp reported
    | fault text writable => cases List.mem_singleton.mp reported
    | unwritten unclosed text now => cases List.mem_singleton.mp reported
    | closed ending =>
        cases List.mem_singleton.mp reported
        exact ⟨Option.isNone_iff_eq_none, ending⟩
  · intro going move code reason ending
    obtain ⟨stage_open, ours⟩ := past going
    rw [ours] at ending ⊢
    exact turn_of_ending stage_open going (timed_run moves) ending
  · intro code ours normal failure told
    exact exists_upset ours normal told

/-- The peer answers our own close without a status: the close is the one that was asked for. -/
theorem ending_of_blank_answer :
    let moves : List Move := [.connect, .ask (.close (.other 4000) "bye"), .obey (.ok ()) .origin]
    let answer : Move := .arrive (.message (.close none)) false
    .opened ∈ ({} : Link).signals none moves ∧ ownClose? none moves = some (.other 4000) ∧
      ∃ code, (code == CloseCode.other 4000) = true ∧
        ((({} : Link).run none moves).turn none answer).signals = [.closed code "" false] := by
  intro moves answer
  have opened : .opened ∈ ({} : Link).signals none moves := List.mem_singleton_self _
  obtain ⟨-, reported, -⟩ := ending_of_run none moves opened
  exact ⟨opened, rfl, reported rfl answer _ _ (.blank false)⟩

end Link

end WebSocketClient
