import Mathlib.Data.List.Induction
import WebSocketClient.Proofs.Link.Course

/-!
# The history of a link

A link remembers what was told and what was sent, but not what it was asked.  This module gathers
along a run what its moves amounted to: the commands that the transport accepted from the host
(`Link.orders`), and the commands that it read while it was talking, each with the result of
writing its message (`Link.deeds`).

What a move can do at all is said once, in `Link.Step`.  A move is ignored, or adds a command to the
queue, or gives up the handle, or lets the conversation meet an occurrence, for which a command may
have to be read first.  Every later invariant is preserved because each of these steps preserves it
(`Link.step_cases`).  That the host asks in one step is no loss: a request that was checked earlier
does the same when it is handed over (`Link.handOver_of_passed`).
-/

namespace WebSocketClient

set_option autoImplicit false

/-- The stages at which the connection is open for the host. -/
def Stage.isOpen : Stage → Bool
  | .talking | .closing .. | .lost => true
  | .connecting | .finished => false

/-- A story has a terminal signal. -/
theorem Story.exists_terminal {signals : List Signal} {told : List Notice} {farewell : Farewell}
    (story : Story signals told farewell) : ∃ signal ∈ signals, signal.isTerminal := by
  cases story with
  | withdrawn reason => exact ⟨_, List.mem_cons_self .., rfl⟩
  | failed failure => exact ⟨_, List.mem_cons_self .., rfl⟩
  | parted payloads ends =>
      refine ⟨_, List.mem_append_right _ (List.mem_singleton_self _), ?_⟩
      rw [← Lifecycle.ofSignal_isSome true, ends]
      rfl

/-- An occurrence for which no command is read. -/
def Occurrence.Silent : Occurrence → Prop
  | .connected | .failed _ | .arrived .. | .expired => True
  | .overheard _ | .commanded .. => False

namespace Link

/-! ## Reading a command -/

section

variable {link : Link} {occurrence : Occurrence}

/-- What an attempt can overhear is the next command. -/
theorem eq_overheard (occurs : link.occurrence? .overhear = some occurrence) :
    link.stage = .connecting ∧ ∃ command rest,
      link.nextCommand? = some (command, rest) ∧ occurrence = .overheard command := by
  simp only [occurrence?] at occurs
  split at occurs
  · rename_i connecting
    obtain ⟨next, reads, rfl⟩ := Option.map_eq_some_iff.mp occurs
    exact ⟨connecting, next.1, next.2, reads, rfl⟩
  · cases occurs

/-- What a conversation can be commanded is the next command. -/
theorem eq_commanded {result : Except String Unit} {now : Instant}
    (occurs : link.occurrence? (.obey result now) = some occurrence) :
    link.stage = .talking ∧ ∃ command rest,
      link.nextCommand? = some (command, rest) ∧ occurrence = .commanded command result now := by
  simp only [occurrence?] at occurs
  split at occurs
  · rename_i talking
    obtain ⟨next, reads, rfl⟩ := Option.map_eq_some_iff.mp occurs
    exact ⟨talking, next.1, next.2, reads, rfl⟩
  · cases occurs

end

/-! ## Gathering along a run -/

/-- What is picked from every move of a run, in order. -/
def gather {α : Type} (timeout : Option Duration) (pick : Link → Move → List α) :
    Link → List Move → List α
  | _, [] => []
  | link, move :: moves => pick link move ++ gather timeout pick (link.step timeout move) moves

section

variable {α : Type} {timeout : Option Duration} {pick : Link → Move → List α}

theorem run_append (link : Link) (first second : List Move) :
    link.run timeout (first ++ second) = (link.run timeout first).run timeout second :=
  List.foldl_append

theorem gather_append (link : Link) (first second : List Move) :
    gather timeout pick link (first ++ second) =
      gather timeout pick link first ++ gather timeout pick (link.run timeout first) second := by
  induction first generalizing link with
  | nil => rfl
  | cons move first ih =>
      rw [List.cons_append, gather, gather, ih, List.append_assoc]
      rfl

/-- The last move of a run. -/
theorem gather_concat (link : Link) (moves : List Move) (move : Move) :
    gather timeout pick link (moves ++ [move]) =
      gather timeout pick link moves ++ pick (link.run timeout moves) move := by
  rw [gather_append, gather, gather, List.append_nil]

/-- What holds of everything that can be picked holds of all that is gathered. -/
theorem forall_mem_gather {holds : α → Prop}
    (each : ∀ link move, ∀ value ∈ pick link move, holds value) (link : Link)
    (moves : List Move) : ∀ value ∈ gather timeout pick link moves, holds value := by
  induction moves generalizing link with
  | nil => exact List.forall_mem_nil _
  | cons move moves ih => exact List.forall_mem_append.mpr ⟨each link move, ih _⟩

/-- What is gathered from two sources agrees if it agrees at every move. -/
theorem filterMap_gather {β γ : Type} {other : Link → Move → List β} {read : α → Option γ}
    {readOther : β → Option γ}
    (each : ∀ link move,
      (pick link move).filterMap read = (other link move).filterMap readOther)
    (link : Link) (moves : List Move) :
    (gather timeout pick link moves).filterMap read =
      (gather timeout other link moves).filterMap readOther := by
  induction moves generalizing link with
  | nil => rfl
  | cons move moves ih =>
      rw [gather, gather, List.filterMap_append, List.filterMap_append, each, ih]

end

/-- The signals of a run are gathered from its turns. -/
theorem signals_eq_gather (timeout : Option Duration) (link : Link) (moves : List Move) :
    link.signals timeout moves =
      gather timeout (fun link move => (link.turn timeout move).signals) link moves := by
  induction moves generalizing link with
  | nil => rfl
  | cons move moves ih => rw [signals, gather, ih]

theorem signals_append (timeout : Option Duration) (link : Link) (first second : List Move) :
    link.signals timeout (first ++ second) =
      link.signals timeout first ++ (link.run timeout first).signals timeout second := by
  rw [signals_eq_gather, signals_eq_gather, signals_eq_gather, gather_append]

theorem signals_concat (timeout : Option Duration) (link : Link) (moves : List Move)
    (move : Move) :
    link.signals timeout (moves ++ [move]) =
      link.signals timeout moves ++ ((link.run timeout moves).turn timeout move).signals := by
  rw [signals_eq_gather, signals_eq_gather, gather_concat]

/-! ## Orders -/

/-- The command that a move puts before the transport: a request of the host that is passed on and
answered without a failure, or the close that the loss of the handle stands for. -/
def accepted (link : Link) : Move → List Command
  | .ask command =>
    if link.handle then
      match Verdict.ofRequest link.lifecycle.state command, (link.ask command).1 with
      | .passed command, .ok () => [command]
      | _, _ => []
    else []
  | .drop => if link.handle then [.normalClose] else []
  | _ => []

/-- The commands that the transport has accepted during a run, in the order of the calls. -/
def orders (timeout : Option Duration) (moves : List Move) : List Command :=
  gather timeout accepted {} moves

theorem orders_append (timeout : Option Duration) (first second : List Move) :
    orders timeout (first ++ second) =
      orders timeout first ++ gather timeout accepted (({} : Link).run timeout first) second :=
  gather_append {} first second

/-- The commands that wait to be read.  The close of a lost handle comes last. -/
def outstanding (link : Link) : List Command :=
  link.queue ++ if link.handle then [] else [.normalClose]

/-! ## Deeds -/

/-- A command that was read while talking, and the result of writing its message. -/
structure Deed where
  command : Command
  result : Except String Unit

/-- A command whose message was written. -/
def Deed.done (command : Command) : Deed :=
  ⟨command, .ok ()⟩

/-- The command of a deed, if its message was written. -/
def Deed.done? (deed : Deed) : Option Command :=
  match deed.result with
  | .ok () => some deed.command
  | .error _ => none

theorem Deed.filterMap_done (commands : List Command) :
    (commands.map done).filterMap done? = commands := by
  rw [List.filterMap_map]
  exact List.filterMap_some

/-- What the transport reads in a move while it is talking. -/
def obeyed (link : Link) : Move → List Deed
  | .obey result _ =>
    match link.stage with
    | .talking => (link.nextCommand?.map fun next => ⟨next.1, result⟩).toList
    | _ => []
  | _ => []

theorem obeyed_eq_nil {link : Link} (silent : link.stage ≠ .talking) (move : Move) :
    link.obeyed move = [] := by
  cases move with
  | obey result now => simp only [obeyed]
  | _ => rfl

/-- The commands that the transport has read during a run while it was talking, in order. -/
def deeds (timeout : Option Duration) (moves : List Move) : List Deed :=
  gather timeout obeyed {} moves

theorem deeds_append (timeout : Option Duration) (first second : List Move) :
    deeds timeout (first ++ second) =
      deeds timeout first ++ gather timeout obeyed (({} : Link).run timeout first) second :=
  gather_append {} first second

/-! ## Steps -/

/-- What a move can do: the commands it puts before the transport, the deeds it leads to, and the
link after it. -/
inductive Step (timeout : Option Duration) (link : Link) :
    Move → List Command → List Deed → Link → Prop where
  | ignored (move : Move) : Step timeout link move [] [] link
  | asked {command : Command} (handle : link.handle = true)
      (passed : Verdict.ofRequest link.lifecycle.state command = .passed command)
      (kept : link.stage.keepsQueue = true) :
      Step timeout link (.ask command) [command] [] { link with queue := link.queue ++ [command] }
  | dropped (handle : link.handle = true) :
      Step timeout link .drop [.normalClose] [] { link with handle := false }
  | met {move : Move} {occurrence : Occurrence} (occurs : link.occurrence? move = some occurrence)
      (silent : occurrence.Silent) : Step timeout link move [] [] (link.meet timeout occurrence)
  | overheard {command : Command} {rest : List Command} (connecting : link.stage = .connecting)
      (next : link.nextCommand? = some (command, rest)) :
      Step timeout link .overhear [] []
        (meet timeout { link with queue := rest } (.overheard command))
  | obeyed {command : Command} {rest : List Command} (talking : link.stage = .talking)
      (next : link.nextCommand? = some (command, rest)) (result : Except String Unit)
      (now : Instant) :
      Step timeout link (.obey result now) [] [⟨command, result⟩]
        (meet timeout { link with queue := rest } (.commanded command result now))

theorem Step.ofAsk {link : Link} (handle : link.handle = true) (timeout : Option Duration)
    (command : Command) :
    Step timeout link (.ask command) (link.accepted (.ask command)) [] (link.ask command).2 := by
  simp only [accepted, if_pos handle, Link.ask]
  cases verdict : Verdict.ofRequest link.lifecycle.state command with
  | refused failure => exact .ignored _
  | settled => exact .ignored _
  | passed same =>
      obtain rfl := Verdict.eq_of_passed verdict
      cases kept : link.stage.keepsQueue with
      | true => exact .asked handle verdict kept
      | false => exact .ignored _

/-- **Every move takes one of the steps.** -/
theorem step_cases (timeout : Option Duration) (link : Link) (move : Move) :
    Step timeout link move (link.accepted move) (link.obeyed move) (link.step timeout move) := by
  cases move with
  | ask command =>
      cases handle : link.handle with
      | true =>
          rw [step, if_pos handle]
          exact .ofAsk handle timeout command
      | false =>
          simp only [step, accepted, handle]
          exact .ignored _
  | drop =>
      cases handle : link.handle with
      | true =>
          simp only [accepted, handle, if_true]
          exact .dropped handle
      | false =>
          have same : link.step timeout .drop = link := by
            rw [step, ← handle]
          rw [same]
          simp only [accepted, handle]
          exact .ignored _
  | connect => exact .met rfl trivial
  | fail failure => exact .met rfl trivial
  | arrive arrival writable => exact .met rfl trivial
  | expire => exact .met rfl trivial
  | overhear =>
      obtain ⟨lifecycle, stage, queue, handle, told, sent⟩ := link
      cases stage with
      | connecting =>
          simp only [step, read, accepted, obeyed]
          split
          · exact .ignored _
          · exact .overheard rfl ‹_›
      | _ => exact .ignored _
  | obey result now =>
      obtain ⟨lifecycle, stage, queue, handle, told, sent⟩ := link
      cases stage with
      | talking =>
          simp only [step, read, accepted, obeyed]
          split
          · rename_i none
            rw [none]
            exact .ignored _
          · rename_i some
            rw [some]
            exact .obeyed rfl some result now
      | _ => exact .ignored _

/-- The steps of a run, in front of its last move. -/
theorem run_concat (timeout : Option Duration) (link : Link) (moves : List Move) (move : Move) :
    link.run timeout (moves ++ [move]) = (link.run timeout moves).step timeout move :=
  run_append link moves [move]

/-- What is accepted is proper. -/
theorem Step.proper {timeout : Option Duration} {link after : Link} {move : Move}
    {commands : List Command} {deeds : List Deed}
    (step : Step timeout link move commands deeds after) :
    ∀ command ∈ commands, command.Proper := by
  intro command member
  cases step with
  | asked handle passed kept =>
      obtain rfl := List.mem_singleton.mp member
      exact Verdict.proper_of_passed passed
  | dropped handle =>
      obtain rfl := List.mem_singleton.mp member
      exact Command.normalClose_proper
  | _ => cases member

theorem proper_of_mem_orders {timeout : Option Duration} {moves : List Move} :
    ∀ command ∈ orders timeout moves, command.Proper :=
  forall_mem_gather (fun link move => (step_cases timeout link move).proper) {} moves

/-! ## Stages and states -/

/-- A conversation that is over does nothing any more. -/
theorem turn_of_ended {timeout : Option Duration} {link : Link}
    (ended : link.stage.keepsQueue = false) (move : Move) :
    link.turn timeout move = link.stage.idle := by
  unfold turn
  split
  · rfl
  · exact Stage.take_of_ended ended timeout _

/-- How a link stands: its stage, the signals that led there, and what they made of it. -/
inductive Standing (link : Link) (signals : List Signal) : Prop where
  | connecting (stage_eq : link.stage = .connecting) (signals_eq : signals = [])
      (lifecycle_eq : link.lifecycle = {}) (told_eq : link.told = [])
  | opened (payloads : List String) (stage_open : link.stage.isOpen)
      (signals_eq : signals = .opened :: payloads.map .message)
      (lifecycle_eq : link.lifecycle = ⟨.opened, none⟩)
      (told_eq : link.told = .opened :: payloads.map .message)
  | ended {farewell : Farewell} (stage_eq : link.stage = .finished)
      (story : Story signals link.told farewell)
      (lifecycle_eq : link.lifecycle = ⟨.closed, some farewell.record⟩)

/-- An opening and messages open a connection and are passed on. -/
theorem acceptAll_messages (payloads : List String) :
    ({} : Lifecycle).acceptAll (.opened :: payloads.map .message) =
      (⟨.opened, none⟩, .opened :: payloads.map .message) := by
  have passes : Lifecycle.acceptAll ⟨.opened, none⟩ (payloads.map .message) =
      (⟨.opened, none⟩, payloads.map .message) := by
    induction payloads with
    | nil => rfl
    | cons payload payloads ih =>
        have passed : Lifecycle.accept ⟨.opened, none⟩ (.message payload) =
            (⟨.opened, none⟩, [.message payload]) := rfl
        simp only [List.map_cons, Lifecycle.acceptAll, passed, ih, List.singleton_append]
  have opened : ({} : Lifecycle).accept .opened = (⟨.opened, none⟩, [.opened]) := rfl
  simp only [Lifecycle.acceptAll, opened, passes, List.singleton_append]

/-- **How a link stands after a run.** -/
theorem standing_run (timeout : Option Duration) (moves : List Move) :
    Standing (({} : Link).run timeout moves) (({} : Link).signals timeout moves) := by
  have follows := follows_run timeout moves
  have relayed := relayed_run timeout moves
  generalize ({} : Link).run timeout moves = link at follows relayed ⊢
  generalize ({} : Link).signals timeout moves = signals at follows relayed ⊢
  have connecting (stage_eq : link.stage = .connecting) (signals_eq : signals = []) :
      Standing link signals := by
    rw [Relayed, signals_eq] at relayed
    obtain ⟨lifecycle, told⟩ := Prod.mk.inj relayed
    exact .connecting stage_eq signals_eq lifecycle.symm told.symm
  have opened (payloads : List String) (stage_open : link.stage.isOpen)
      (signals_eq : signals = .opened :: payloads.map .message) : Standing link signals := by
    rw [Relayed, signals_eq, acceptAll_messages] at relayed
    obtain ⟨lifecycle, told⟩ := Prod.mk.inj relayed
    exact .opened payloads stage_open signals_eq lifecycle.symm told.symm
  have course := follows.course
  generalize stage_eq : link.stage = stage at course
  cases course with
  | connecting => exact connecting stage_eq rfl
  | talking payloads => exact opened payloads (by rw [stage_eq]; rfl) rfl
  | closing payloads valid deadline => exact opened payloads (by rw [stage_eq]; rfl) rfl
  | lost payloads => exact opened payloads (by rw [stage_eq]; rfl) rfl
  | withdrawn | failed | parted =>
      obtain ⟨farewell, story, lifecycle, -⟩ := follows.exists_story relayed stage_eq
      exact .ended stage_eq story lifecycle

namespace Standing

variable {link : Link} {signals : List Signal}

theorem of_connecting (standing : Standing link signals) (connecting : link.stage = .connecting) :
    signals = [] ∧ link.lifecycle = {} ∧ link.told = [] := by
  cases standing with
  | connecting _ signals_eq lifecycle_eq told_eq => exact ⟨signals_eq, lifecycle_eq, told_eq⟩
  | opened payloads stage_open =>
      rw [connecting] at stage_open
      cases stage_open
  | ended stage_eq =>
      rw [connecting] at stage_eq
      cases stage_eq

theorem of_finished (standing : Standing link signals) (finished : link.stage = .finished) :
    ∃ farewell, Story signals link.told farewell ∧
      link.lifecycle = ⟨.closed, some farewell.record⟩ := by
  cases standing with
  | connecting stage_eq =>
      rw [finished] at stage_eq
      cases stage_eq
  | opened payloads stage_open =>
      rw [finished] at stage_open
      cases stage_open
  | ended _ story lifecycle_eq => exact ⟨_, story, lifecycle_eq⟩

end Standing

/-! ## Requests that are checked before they are handed over -/

/-- A command is handed over to the transport: it gets into the queue, as long as there is one. -/
def handOver (link : Link) (command : Command) : Except Failure Unit × Link :=
  if link.stage.keepsQueue then (.ok (), { link with queue := link.queue ++ [command] })
  else (.error .connectionClosed, link)

theorem ask_of_ended {link : Link} (ended : link.stage.keepsQueue = false) (command : Command) :
    (link.ask command).2 = link := by
  simp only [ask, ended]
  split <;> rfl

/-- A request that was passed on is passed on later, as long as there is a queue. -/
theorem passed_run {timeout : Option Duration} {moves : List Move} {command : Command}
    (passed : Verdict.ofRequest (({} : Link).run timeout moves).lifecycle.state command =
      .passed command) (more : List Move)
    (kept : (({} : Link).run timeout (moves ++ more)).stage.keepsQueue) :
    Verdict.ofRequest (({} : Link).run timeout (moves ++ more)).lifecycle.state command =
      .passed command := by
  rcases standing_run timeout (moves ++ more) with
    ⟨-, signals, lifecycle, -⟩ | ⟨-, -, -, lifecycle, -⟩ | ⟨finished, -⟩
  · -- Nothing has been signalled, and so nothing had been when the request was checked.
    rw [signals_append] at signals
    have silent := (List.append_eq_nil_iff.mp signals).1
    rcases standing_run timeout moves with
      ⟨-, -, before, -⟩ | ⟨payloads, -, opened, -⟩ | ⟨-, story, -⟩
    · rw [lifecycle, ← before]
      exact passed
    · rw [silent] at opened
      cases opened
    · obtain ⟨signal, member, -⟩ := story.exists_terminal
      rw [silent] at member
      cases member
  · rw [lifecycle]
    exact Verdict.passed_of_opened (Verdict.proper_of_passed passed)
  · rw [finished] at kept
    cases kept

/-- **A request may be checked long before it is handed over.**  Whatever happens in between, the
link is the same as if the host had asked at the moment of handing over, and as long as there is a
queue the answer is the same too. -/
theorem handOver_of_passed {timeout : Option Duration} {moves : List Move} {command : Command}
    (passed : Verdict.ofRequest (({} : Link).run timeout moves).lifecycle.state command =
      .passed command) (more : List Move) :
    let link := ({} : Link).run timeout (moves ++ more)
    (link.handOver command).2 = (link.ask command).2 ∧
      (link.stage.keepsQueue → (link.handOver command).1 = (link.ask command).1) := by
  intro link
  cases kept : link.stage.keepsQueue with
  | true =>
      have verdict : Verdict.ofRequest link.lifecycle.state command = .passed command :=
        passed_run passed more kept
      simp [ask, handOver, verdict]
  | false =>
      rw [ask_of_ended kept, handOver, kept]
      exact ⟨rfl, fun keeps => by cases keeps⟩

end Link

end WebSocketClient
