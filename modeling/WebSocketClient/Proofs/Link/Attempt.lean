import WebSocketClient.Proofs.Link.Ledger

/-!
# Closes that come before the opening

While a link is connecting, the queue is read by the attempt, and afterwards by the conversation.  A
command that the attempt reads is gone for the conversation, so nothing may be lost between the two.

Messages are not, because none is accepted before the opening was signalled: the host is refused
until its connection is open (`Link.opened_of_send`).  A close is not, because the first thing that
happens to the attempt decides alone what becomes of it (`Move.decides`, `Link.Fate`).  If the
attempt reads a close, it is given up and the host is told so.  If it fails, the host is told of the
failure.  If it succeeds, every close is still waiting, and the first one is the first command that
the conversation reads, unless the conversation ends before it reads anything (`Link.fate_of_run`).
-/

namespace WebSocketClient

set_option autoImplicit false

/-- A move that decides an attempt to connect. -/
def Move.decides : Move → Bool
  | .connect | .fail _ | .overhear => true
  | .ask _ | .drop | .arrive .. | .obey .. | .expire => false

/-- A message is let through only while the connection is open. -/
theorem Verdict.opened_of_send {state : ReadyState} {payload : String} {command : Command}
    (passed : Verdict.ofRequest state (.send payload) = .passed command) : state = .opened := by
  cases state with
  | opened => rfl
  | _ => cases passed

namespace Link

variable {timeout : Option Duration}

/-! ## No message before the opening -/

namespace Step

variable {link after : Link} {move : Move} {commands : List Command} {deeds : List Deed}

/-- Only what was accepted gets into the queue. -/
theorem queue_subset (step : Step timeout link move commands deeds after) :
    ∀ command ∈ after.queue, command ∈ link.queue ∨ command ∈ commands := by
  have read {command : Command} {rest : List Command}
      (next : link.nextCommand? = some (command, rest)) : ∀ other ∈ rest, other ∈ link.queue := by
    intro other member
    rcases nextCommand?_eq_some next with queue | ⟨-, -, -, rfl⟩
    · rw [queue]
      exact List.mem_cons_of_mem _ member
    · cases member
  intro command waits
  cases step with
  | ignored => exact .inl waits
  | asked handle passed kept => exact List.mem_append.mp waits
  | dropped handle => exact .inl waits
  | met occurs silent => exact .inl waits
  | overheard stage next => exact .inl (read next command waits)
  | obeyed stage next => exact .inl (read next command waits)

/-- A move puts at most one command before the transport. -/
theorem eq_singleton (step : Step timeout link move commands deeds after) {command : Command}
    (member : command ∈ commands) : commands = [command] := by
  cases step with
  | asked handle passed kept => rw [List.mem_singleton.mp member]
  | dropped handle => rw [List.mem_singleton.mp member]
  | _ => cases member

/-- A message is accepted only while the connection is open. -/
theorem opened_of_send (step : Step timeout link move commands deeds after) {payload : String}
    (accepted : .send payload ∈ commands) : link.lifecycle.state = .opened := by
  cases step with
  | asked handle passed kept =>
      obtain rfl := List.mem_singleton.mp accepted
      exact Verdict.opened_of_send passed
  | dropped handle => cases List.mem_singleton.mp accepted
  | _ => cases accepted

end Step

/-- Whatever waits in the queue was accepted. -/
theorem mem_orders_of_mem_queue {moves : List Move} :
    ∀ command ∈ (({} : Link).run timeout moves).queue, command ∈ orders timeout moves := by
  induction moves using List.reverseRecOn with
  | nil => exact List.forall_mem_nil _
  | append_singleton moves move ih =>
      intro command waits
      rw [run_concat] at waits
      rw [orders_concat]
      rcases (step_cases timeout _ move).queue_subset command waits with before | now
      · exact List.mem_append_left _ (ih command before)
      · exact List.mem_append_right _ now

/-- A message is accepted only after the opening was signalled. -/
theorem opened_of_send {moves : List Move} {payload : String}
    (accepted : .send payload ∈ orders timeout moves) :
    .opened ∈ ({} : Link).signals timeout moves := by
  induction moves using List.reverseRecOn with
  | nil => cases accepted
  | append_singleton moves move ih =>
      rw [orders_concat] at accepted
      rw [signals_concat]
      refine List.mem_append_left _ ?_
      rcases List.mem_append.mp accepted with before | now
      · exact ih before
      · have state := (step_cases timeout _ move).opened_of_send now
        rcases standing_run timeout moves with
          ⟨-, -, lifecycle, -⟩ | ⟨payloads, -, signals, -, -⟩ | ⟨-, -, lifecycle⟩
        · rw [lifecycle] at state
          cases state
        · rw [signals]
          exact List.mem_cons_self ..
        · rw [lifecycle] at state
          cases state

/-- The attempt never reads a message. -/
theorem occurrence?_overhear_ne (moves : List Move) (payload : String) :
    (({} : Link).run timeout moves).occurrence? .overhear ≠ some (.overheard (.send payload)) := by
  intro occurs
  have ledger := ledger_run timeout moves
  obtain ⟨connecting, command, rest, next, heard⟩ := eq_overheard occurs
  obtain ⟨others, waits, -⟩ := outstanding_eq_cons next
  rw [connecting, waits] at ledger
  obtain ⟨orders_eq, closes, -⟩ := ledger.of_connecting
  rw [← orders_eq, ← Occurrence.overheard.inj heard] at closes
  cases closes _ (List.mem_cons_self ..)

/-! ## Moves that decide nothing -/

/-- An attempt goes on as long as nothing decides it. -/
theorem stage_run_of_undecided {link : Link} {moves : List Move}
    (connecting : link.stage = .connecting)
    (undecided : ∀ move ∈ moves, move.decides = false) :
    (link.run timeout moves).stage = .connecting := by
  induction moves generalizing link with
  | nil => exact connecting
  | cons move moves ih =>
      obtain ⟨now, later⟩ := List.forall_mem_cons.mp undecided
      refine ih ?_ later
      rw [(took_step timeout link move).stage_eq, turn]
      cases move with
      | ask command => exact connecting
      | drop => exact connecting
      | arrive arrival writable => simp only [occurrence?, connecting]; rfl
      | obey result instant => simp only [occurrence?, connecting]; rfl
      | expire => simp only [occurrence?, connecting]; rfl
      | connect => cases now
      | fail failure => cases now
      | overhear => cases now

/-- Nothing is told or read after a conversation is over. -/
theorem run_of_finished (timeout : Option Duration) {link : Link}
    (finished : link.stage = .finished) (moves : List Move) :
    (link.run timeout moves).told = link.told ∧ gather timeout obeyed link moves = [] := by
  induction moves generalizing link with
  | nil => exact ⟨rfl, rfl⟩
  | cons move moves ih =>
      have took := took_step timeout link move
      rw [turn_of_ended (by rw [finished]; rfl), finished] at took
      obtain ⟨told, read⟩ := ih took.stage_eq
      refine ⟨told.trans (took.told_eq.trans (List.append_nil _)), ?_⟩
      rw [gather, read, obeyed_eq_nil (by simp [finished])]
      rfl

/-- What was told stays told. -/
theorem told_prefix (timeout : Option Duration) (link : Link) (moves : List Move) :
    link.told <+: (link.run timeout moves).told := by
  induction moves generalizing link with
  | nil => exact List.prefix_rfl
  | cons move moves ih =>
      refine List.IsPrefix.trans ?_ (ih (link.step timeout move))
      rw [(took_step timeout link move).told_eq]
      exact List.prefix_append _ _

/-! ## What becomes of a close -/

/-- What has become of a close that was asked for while connecting, by the first move that decided
the attempt and by what was read since then.  Of several such closes the first is the one that is
read. -/
inductive Fate (command first : Command) (link : Link) : Option Move → List Deed → Prop where
  /-- Nothing has decided the attempt.  The close waits, and the host was told nothing. -/
  | waiting (told_eq : link.told = []) (waits : command ∈ link.outstanding) :
      Fate command first link none []
  /-- The attempt was given up.  The host was told of a clean close, and of nothing else. -/
  | withdrawn (reason : String)
      (told_eq : link.told = [.closed ⟨.neverConnected, reason, false, true⟩]) :
      Fate command first link (some .overhear) []
  /-- The attempt had failed.  The host was told of the failure, and of a close that is not
  clean. -/
  | failed (failure : Failure)
      (told_eq : link.told =
        [.failed failure, .closed ⟨.neverConnected, failure.message, false, false⟩]) :
      Fate command first link (some (.fail failure)) []
  /-- The attempt had succeeded.  The close still waits, and the first one is read next. -/
  | queued (opened : link.told.head? = some .opened) (talking : link.stage = .talking)
      (waits : command ∈ link.outstanding) {rest : List Command}
      (next : link.nextCommand? = some (first, rest)) (written_eq : link.written = []) :
      Fate command first link (some .connect) []
  /-- The attempt had succeeded, and the first close is all that was written. -/
  | sent (opened : link.told.head? = some .opened) {message : Wire.Message}
      (carries : first.CarriedBy message) (written_eq : link.written = [message]) :
      Fate command first link (some .connect) [.done first]
  /-- The attempt had succeeded, but the first close could not be written, which was the end. -/
  | refused (opened : link.told.head? = some .opened) (text : String)
      (closed : link.lifecycle.state = .closed) (written_eq : link.written = []) :
      Fate command first link (some .connect) [⟨first, .error text⟩]
  /-- The attempt had succeeded, but the connection was over before anything was read. -/
  | overtaken (opened : link.told.head? = some .opened) (closed : link.lifecycle.state = .closed)
      (written_eq : link.written = []) : Fate command first link (some .connect) []

/-- The books of a conversation whose first command is a close: it waits, or it was carried out, or
the conversation is over. -/
theorem Ledger.of_close {stage : Stage} {waiting others : List Command} {first : Command}
    {deeds : List Deed} (ledger : Ledger stage waiting (first :: others) deeds)
    (close : first.isClose) :
    (stage = .connecting ∨ stage = .talking) ∧ waiting = first :: others ∧ deeds = [] ∨
      deeds = [.done first] ∨
      stage = .finished ∧ (deeds = [] ∨ ∃ text, deeds = [⟨first, .error text⟩]) := by
  have binding : Command.binding (first :: others) = [first] := by
    cases first with
    | send payload => cases close
    | close code reason => rfl
  generalize orders_eq : first :: others = orders at ledger
  cases ledger with
  | connecting closes => exact .inl ⟨.inl rfl, rfl, rfl⟩
  | talking payloads =>
      cases payloads with
      | nil => exact .inl ⟨.inr rfl, rfl, rfl⟩
      | cons payload payloads =>
          obtain ⟨rfl, -⟩ := List.cons.inj orders_eq
          cases close
  | closing payloads reason stage_eq =>
      cases payloads with
      | nil =>
          obtain ⟨rfl, -⟩ := List.cons.inj orders_eq
          exact .inr (.inl rfl)
      | cons payload payloads =>
          obtain ⟨rfl, -⟩ := List.cons.inj orders_eq
          cases close
  | finished bound =>
      rename_i done
      rw [← orders_eq, binding] at bound
      cases done with
      | nil => exact .inr (.inr ⟨rfl, .inl rfl⟩)
      | cons command done =>
          obtain ⟨rfl, rest⟩ := List.cons_prefix_cons.mp bound
          obtain rfl := List.prefix_nil.mp rest
          exact .inr (.inl rfl)
  | broken bound text =>
      rename_i done command
      rw [← orders_eq, binding] at bound
      cases done with
      | nil =>
          obtain ⟨rfl, -⟩ := List.cons_prefix_cons.mp bound
          exact .inr (.inr ⟨rfl, .inr ⟨text, rfl⟩⟩)
      | cons other done =>
          obtain ⟨-, rest⟩ := List.cons_prefix_cons.mp bound
          exact absurd (List.prefix_nil.mp rest)
            (List.append_ne_nil_of_right_ne_nil _ (List.cons_ne_nil _ _))

/-- The first command that waits is the next to be read. -/
theorem nextCommand?_of_outstanding {link : Link} {command : Command} {others : List Command}
    (waits : link.outstanding = command :: others) :
    ∃ rest, link.nextCommand? = some (command, rest) := by
  simp only [outstanding] at waits
  simp only [nextCommand?]
  cases queue : link.queue with
  | cons first rest =>
      rw [queue] at waits
      obtain ⟨rfl, -⟩ := List.cons.inj waits
      exact ⟨rest, rfl⟩
  | nil =>
      rw [queue, List.nil_append] at waits
      split at waits
      · cases waits
      · rename_i dropped
        obtain ⟨rfl, -⟩ := List.cons.inj waits
        exact ⟨[], if_neg dropped⟩

section

variable {link : Link} (connecting : link.stage = .connecting) (fresh : link.lifecycle = {})
  (silent : link.told = [])

include connecting fresh silent

/-- What is told when an attempt fails. -/
theorem told_of_fail (timeout : Option Duration) (failure : Failure) :
    (link.step timeout (.fail failure)).stage = .finished ∧
      (link.step timeout (.fail failure)).told =
        [.failed failure, .closed ⟨.neverConnected, failure.message, false, false⟩] := by
  simp only [step, meet, connecting, fresh, silent]
  exact ⟨rfl, rfl⟩

/-- What is told when an attempt succeeds. -/
theorem told_of_connect (timeout : Option Duration) :
    (link.step timeout .connect).told = [.opened] := by
  simp only [step, meet, connecting, fresh, silent]
  rfl

/-- What is told when an attempt reads a close. -/
theorem told_of_overhear (timeout : Option Duration) {code : CloseCode} {reason : String}
    {rest : List Command} (next : link.nextCommand? = some (.close code reason, rest)) :
    (link.step timeout .overhear).stage = .finished ∧
      ∃ text, (link.step timeout .overhear).told =
        [.closed ⟨.neverConnected, text, false, true⟩] := by
  have steps : link.step timeout .overhear =
      meet timeout { link with queue := rest } (.overheard (.close code reason)) := by
    simp only [step, connecting, read, next]
  rw [steps]
  simp only [meet, connecting, fresh, silent]
  exact ⟨rfl, _, rfl⟩

end

section

variable {moves : List Move}

/-- An attempt that was decided by nothing: everything that was accepted waits, all of it closes. -/
theorem waiting_of_connecting (connecting : (({} : Link).run timeout moves).stage = .connecting) :
    (({} : Link).run timeout moves).lifecycle = {} ∧ (({} : Link).run timeout moves).told = [] ∧
      (({} : Link).run timeout moves).outstanding = orders timeout moves ∧
      (∀ command ∈ orders timeout moves, command.isClose) ∧ deeds timeout moves = [] := by
  have ledger := ledger_run timeout moves
  rw [connecting] at ledger
  obtain ⟨-, lifecycle, told⟩ := (standing_run timeout moves).of_connecting connecting
  exact ⟨lifecycle, told, ledger.of_connecting⟩

/-- A link whose state is connecting is at the stage of connecting. -/
theorem stage_of_state (state : (({} : Link).run timeout moves).lifecycle.state = .connecting) :
    (({} : Link).run timeout moves).stage = .connecting := by
  rcases standing_run timeout moves with
    ⟨connecting, -⟩ | ⟨-, -, -, lifecycle, -⟩ | ⟨-, -, lifecycle⟩
  · exact connecting
  · rw [lifecycle] at state
    cases state
  · rw [lifecycle] at state
    cases state

/-- What becomes of a close if the attempt succeeds. -/
theorem fate_of_opened {command first : Command} {others : List Command}
    (opened : (({} : Link).run timeout moves).told.head? = some .opened)
    (orders_eq : orders timeout moves = first :: others) (close : first.isClose)
    (member : command ∈ orders timeout moves) :
    Fate command first (({} : Link).run timeout moves) (some .connect) (deeds timeout moves) := by
  have ledger := ledger_run timeout moves
  have written := written_run timeout moves
  rw [done] at written
  rw [orders_eq] at ledger
  have closed (finished : (({} : Link).run timeout moves).stage = .finished) :
      (({} : Link).run timeout moves).lifecycle.state = .closed := by
    obtain ⟨farewell, -, lifecycle⟩ := (standing_run timeout moves).of_finished finished
    rw [lifecycle]
  rcases ledger.of_close close with
    ⟨stage, waits, unread⟩ | carried | ⟨finished, unread | ⟨text, failed⟩⟩
  · rw [unread] at written ⊢
    have talking : (({} : Link).run timeout moves).stage = .talking := by
      rcases stage with connecting | talking
      · rw [(waiting_of_connecting connecting).2.1] at opened
        cases opened
      · exact talking
    obtain ⟨rest, next⟩ := nextCommand?_of_outstanding waits
    refine .queued opened talking ?_ next written
    rw [waits, ← orders_eq]
    exact member
  · rw [carried] at written ⊢
    have ordered : first ∈ orders timeout moves := by
      rw [orders_eq]
      exact List.mem_cons_self ..
    exact .sent opened (proper_of_mem_orders first ordered).carriedBy written
  · rw [unread] at written ⊢
    exact .overtaken opened (closed finished) written
  · rw [failed] at written ⊢
    exact .refused opened text (closed finished) written

/-- What becomes of a close that waits while connecting, after a move that decides the attempt. -/
theorem fate_of_decision {command first : Command} {others : List Command}
    (connecting : (({} : Link).run timeout moves).stage = .connecting)
    (orders_eq : orders timeout moves = first :: others)
    (member : command ∈ orders timeout moves) {move : Move} (decides : move.decides)
    (after : List Move) :
    Fate command first (({} : Link).run timeout (moves ++ move :: after)) (some move)
      (deeds timeout (moves ++ move :: after)) := by
  obtain ⟨fresh, silent, waits, closes, unread⟩ := waiting_of_connecting connecting
  rw [orders_eq] at waits closes
  have close : first.isClose := closes first (List.mem_cons_self ..)
  have run_eq : ({} : Link).run timeout (moves ++ move :: after) =
      ((({} : Link).run timeout moves).step timeout move).run timeout after := run_append ..
  have deeds_eq : deeds timeout (moves ++ move :: after) =
      obeyed (({} : Link).run timeout moves) move ++
        gather timeout obeyed ((({} : Link).run timeout moves).step timeout move) after := by
    rw [deeds_append, unread]
    rfl
  cases move with
  | overhear =>
      obtain ⟨rest, next⟩ := nextCommand?_of_outstanding waits
      cases first with
      | send payload => cases close
      | close code reason =>
          obtain ⟨finished, text, told⟩ := told_of_overhear connecting fresh silent timeout next
          obtain ⟨kept, idle⟩ := run_of_finished timeout finished after
          rw [run_eq, deeds_eq, idle]
          exact .withdrawn text (kept.trans told)
  | fail failure =>
      obtain ⟨finished, told⟩ := told_of_fail connecting fresh silent timeout failure
      obtain ⟨kept, idle⟩ := run_of_finished timeout finished after
      rw [run_eq, deeds_eq, idle]
      exact .failed failure (kept.trans told)
  | connect =>
      have told := told_of_connect connecting fresh silent timeout
      have ordered := orders_append timeout moves (.connect :: after)
      rw [orders_eq, List.cons_append] at ordered
      refine fate_of_opened ?_ ordered close ?_
      · obtain ⟨others, kept⟩ := told_prefix timeout _ after
        rw [run_eq, ← kept, told]
        rfl
      · rw [orders_append]
        exact List.mem_append_left _ member
  | ask command => cases decides
  | drop => cases decides
  | arrive arrival writable => cases decides
  | obey result now => cases decides
  | expire => cases decides

/-- What becomes of a close that waits while connecting: the first move that decides the attempt
decides it. -/
theorem fate_of_waiting {command first : Command} {others : List Command}
    (connecting : (({} : Link).run timeout moves).stage = .connecting)
    (orders_eq : orders timeout moves = first :: others)
    (member : command ∈ orders timeout moves) (more : List Move) :
    Fate command first (({} : Link).run timeout (moves ++ more)) (more.find? Move.decides)
      (deeds timeout (moves ++ more)) := by
  have remains (later : List Move) : command ∈ orders timeout (moves ++ later) := by
    rw [orders_append]
    exact List.mem_append_left _ member
  have stays {later : List Move} (undecided : ∀ move ∈ later, move.decides = false) :
      (({} : Link).run timeout (moves ++ later)).stage = .connecting := by
    rw [run_append]
    exact stage_run_of_undecided connecting undecided
  cases decided : more.find? Move.decides with
  | none =>
      have undecided : ∀ move ∈ more, move.decides = false := fun move among =>
        eq_false_of_ne_true (List.find?_eq_none.mp decided move among)
      obtain ⟨-, told, waits, -, unread⟩ := waiting_of_connecting (stays undecided)
      rw [unread]
      refine .waiting told ?_
      rw [waits]
      exact remains more
  | some move =>
      obtain ⟨decides, before, after, rfl, undecided⟩ :=
        List.find?_eq_some_iff_append.mp decided
      have going : ∀ move ∈ before, move.decides = false := fun move among => by
        simpa using undecided move among
      have ordered := orders_append timeout moves before
      rw [orders_eq, List.cons_append] at ordered
      rw [← List.append_assoc]
      exact fate_of_decision (stays going) ordered (remains before) decides after

end

/-- What is asked for decides nothing by itself. -/
theorem undecided_of_accepted {link : Link} {request : Move} {command : Command}
    (accepted : command ∈ link.accepted request) : request.decides = false := by
  cases request with
  | connect => cases accepted
  | fail failure => cases accepted
  | overhear => cases accepted
  | _ => rfl

/-- **No message is lost before the opening, and no close.**  Before the opening was signalled no
message was accepted, none is in the queue, and the attempt never reads one.  A close that was asked
for while connecting, be it by the loss of the handle, meets the fate that the first move to decide
the attempt has for it. -/
theorem fate_of_run (timeout : Option Duration) (moves : List Move) :
    let link := ({} : Link).run timeout moves
    (.opened ∉ ({} : Link).signals timeout moves → ∀ payload,
      .send payload ∉ orders timeout moves ∧ .send payload ∉ link.queue) ∧
    (∀ payload, link.occurrence? .overhear ≠ some (.overheard (.send payload))) ∧
    ∀ request command more, link.lifecycle.state = .connecting →
      command ∈ link.accepted request →
      let later := moves ++ request :: more
      ∃ first, (orders timeout later).head? = some first ∧ first.isClose ∧
        (orders timeout moves = [] → first = command) ∧
        Fate command first (({} : Link).run timeout later) (more.find? Move.decides)
          (deeds timeout later) := by
  intro link
  refine ⟨?_, occurrence?_overhear_ne moves, ?_⟩
  · intro unopened payload
    have unordered : .send payload ∉ orders timeout moves :=
      fun accepted => unopened (opened_of_send accepted)
    exact ⟨unordered, fun waits => unordered (mem_orders_of_mem_queue _ waits)⟩
  intro request command more state accepted later
  have step := step_cases timeout link request
  have ordered : orders timeout (moves ++ [request]) = orders timeout moves ++ [command] := by
    rw [orders_concat, step.eq_singleton accepted]
  have connecting : (({} : Link).run timeout (moves ++ [request])).stage = .connecting := by
    rw [run_append]
    refine stage_run_of_undecided (stage_of_state state) ?_
    exact List.forall_mem_singleton.mpr (undecided_of_accepted accepted)
  have member : command ∈ orders timeout (moves ++ [request]) := by
    rw [ordered]
    exact List.mem_append_right _ (List.mem_singleton_self _)
  obtain ⟨first, others, orders_eq⟩ := List.exists_cons_of_ne_nil (List.ne_nil_of_mem member)
  obtain ⟨-, -, -, closes, -⟩ := waiting_of_connecting connecting
  have later_eq : later = moves ++ [request] ++ more := List.append_cons ..
  refine ⟨first, ?_, ?_, ?_, ?_⟩
  · rw [later_eq, orders_append, orders_eq]
    rfl
  · rw [orders_eq] at closes
    exact closes first (List.mem_cons_self ..)
  · intro none
    rw [ordered, none] at orders_eq
    exact (List.cons.inj orders_eq).1.symm
  · rw [later_eq]
    exact fate_of_waiting connecting orders_eq member more

/-- A close that was asked for while connecting, and an attempt that succeeds before it is read. -/
theorem fate_of_late_close :
    let request : Move := .ask (.close (.other 4000) "bye")
    let more : List Move := [.connect, .obey (.ok ()) .origin]
    ({} : Link).lifecycle.state = .connecting ∧
      .close (.other 4000) "bye" ∈ ({} : Link).accepted request ∧
      Fate (.close (.other 4000) "bye") (.close (.other 4000) "bye")
        (({} : Link).run none (request :: more)) (some .connect)
        [.done (.close (.other 4000) "bye")] := by
  intro request more
  have accepted : .close (.other 4000) "bye" ∈ ({} : Link).accepted request :=
    List.mem_singleton_self _
  obtain ⟨-, -, fate⟩ := fate_of_run none []
  obtain ⟨first, -, -, same, fate⟩ := fate request _ more rfl accepted
  obtain rfl := same rfl
  exact ⟨rfl, accepted, fate⟩

end Link

end WebSocketClient
