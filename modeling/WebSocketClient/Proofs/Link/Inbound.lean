import WebSocketClient.Proofs.Link.Ledger

/-!
# What arrives and what is told of it

A stream yields what has arrived as long as the conversation goes on, before and after our own close
(`Link.items`).  Of these items only the texts are passed on, each as it is and in the order of
their arrival (`Link.texts_run`).

The other messages that are not closes have no part in the conversation.  The transport may have to
reply to them, and this is all that they lead to: take them out of a run, or put others in, and the
link is the same in everything but its replies (`Link.withoutReplies_run`).
-/

namespace WebSocketClient

set_option autoImplicit false

/-! ## Texts -/

/-- The payload of a text that arrives. -/
def Arrival.text? : Arrival → Option String
  | .message (.text payload) => some payload
  | _ => none

/-- The payload of a text that is signalled. -/
def Signal.text? : Signal → Option String
  | .message payload => some payload
  | .opened | .closed .. | .failed _ => none

/-- The payload of a text that is told. -/
def Notice.text? : Notice → Option String
  | .message payload => some payload
  | .opened | .failed _ | .closed _ => none

/-- The arrival of a message that is neither a text nor a close. -/
def Move.isQuiet : Move → Bool
  | .arrive (.message (.binary _)) _ | .arrive (.message (.ping _)) _
  | .arrive (.message (.pong _)) _ => true
  | _ => false

/-- An occurrence other than an arrival. -/
def Occurrence.Unheard : Occurrence → Prop
  | .arrived .. => False
  | .connected | .failed _ | .overheard _ | .commanded .. | .expired => True

namespace Stage

variable {timeout : Option Duration}

/-- The stages at which the transport listens to the peer. -/
def listens : Stage → Bool
  | talking | closing .. => true
  | connecting | finished | lost => false

/-- A text that arrives while the transport listens is signalled, and nothing else that arrives is
signalled as a text. -/
theorem texts_arrived (stage : Stage) (arrival : Arrival) (writable : Bool) :
    (stage.take timeout (.arrived arrival writable)).signals.filterMap Signal.text? =
      (if stage.listens then [arrival] else []).filterMap Arrival.text? := by
  have receive (ours : Option CloseCode) :
      (stage.receive ours writable arrival).signals.filterMap Signal.text? =
        [arrival].filterMap Arrival.text? := by
    cases arrival with
    | message message =>
        cases message with
        | close body => cases body <;> cases ours <;> rfl
        | _ => rfl
    | ended => cases ours <;> rfl
    | cut => rfl
    | fault text => rfl
  cases stage with
  | talking => exact receive none
  | closing code deadline => exact receive (some code)
  | _ => rfl

/-- Nothing else is signalled as a text. -/
theorem texts_unheard (stage : Stage) {occurrence : Occurrence} (unheard : occurrence.Unheard) :
    (stage.take timeout occurrence).signals.filterMap Signal.text? = [] := by
  cases occurrence with
  | arrived arrival writable => cases unheard
  | overheard command => cases command <;> cases stage <;> rfl
  | commanded command result now => cases command <;> cases result <;> cases stage <;> rfl
  | expired =>
      cases stage with
      | closing code deadline => cases deadline <;> rfl
      | _ => rfl
  | _ => cases stage <;> rfl

/-- A quiet arrival is not signalled and leaves the stage. -/
theorem take_of_quiet (timeout : Option Duration) {arrival : Arrival} {writable : Bool}
    (quiet : (Move.arrive arrival writable).isQuiet) (stage : Stage) :
    (stage.take timeout (.arrived arrival writable)).stage = stage ∧
      (stage.take timeout (.arrived arrival writable)).signals = [] := by
  have receive (ours : Option CloseCode) :
      (stage.receive ours writable arrival).stage = stage ∧
        (stage.receive ours writable arrival).signals = [] := by
    cases arrival with
    | message message =>
        cases message with
        | binary payload => exact ⟨rfl, rfl⟩
        | ping payload => exact ⟨rfl, rfl⟩
        | pong payload => exact ⟨rfl, rfl⟩
        | text payload => cases quiet
        | close body => cases quiet
    | ended => cases quiet
    | cut => cases quiet
    | fault text => cases quiet
  cases stage with
  | talking => exact receive none
  | closing code deadline => exact receive (some code)
  | _ => exact ⟨rfl, rfl⟩

end Stage

/-- What the host is told in a story has the texts of its signals. -/
theorem Story.texts {signals : List Signal} {told : List Notice} {farewell : Farewell}
    (story : Story signals told farewell) :
    told.filterMap Notice.text? = signals.filterMap Signal.text? := by
  have messages (payloads : List String) :
      (payloads.map Notice.message).filterMap Notice.text? =
        (payloads.map Signal.message).filterMap Signal.text? := by
    rw [List.filterMap_map, List.filterMap_map]
    rfl
  cases story with
  | withdrawn reason => rfl
  | failed failure => rfl
  | parted payloads ends =>
      rename_i last
      have last_text : last.text? = none := by
        cases last with
        | message payload => cases ends
        | _ => rfl
      have farewell_texts : farewell.notices.filterMap Notice.text? = [] := by
        obtain ⟨failure, record⟩ := farewell
        cases failure <;> rfl
      rw [List.filterMap_append, List.filterMap_append, farewell_texts,
        List.filterMap_cons_none last_text]
      exact congrArg (· ++ []) (messages payloads)

namespace Link

variable {timeout : Option Duration}

/-! ## Items of the stream -/

/-- What the stream yields in a move: something, as long as the transport is listening. -/
def yielded (link : Link) : Move → List Arrival
  | .arrive arrival _ => if link.stage.listens then [arrival] else []
  | _ => []

/-- The items that the stream yields in a run, in order. -/
def items (timeout : Option Duration) (moves : List Move) : List Arrival :=
  gather timeout yielded {} moves

/-- A turn signals the texts that the stream yields, and no others. -/
theorem texts_turn (link : Link) (move : Move) :
    (link.turn timeout move).signals.filterMap Signal.text? =
      (link.yielded move).filterMap Arrival.text? := by
  cases move with
  | arrive arrival writable => exact Stage.texts_arrived link.stage arrival writable
  | ask command => rfl
  | drop => rfl
  | connect => exact Stage.texts_unheard link.stage trivial
  | fail failure => exact Stage.texts_unheard link.stage trivial
  | expire => exact Stage.texts_unheard link.stage trivial
  | overhear =>
      unfold turn
      split
      · rfl
      · rename_i occurs
        obtain ⟨-, command, rest, -, rfl⟩ := eq_overheard occurs
        exact Stage.texts_unheard link.stage trivial
  | obey result now =>
      unfold turn
      split
      · rfl
      · rename_i occurs
        obtain ⟨-, command, rest, -, rfl⟩ := eq_commanded occurs
        exact Stage.texts_unheard link.stage trivial

/-- The host is told the texts that were signalled. -/
theorem texts_told (moves : List Move) :
    (({} : Link).run timeout moves).told.filterMap Notice.text? =
      (({} : Link).signals timeout moves).filterMap Signal.text? := by
  rcases standing_run timeout moves with
    ⟨-, signals, -, told⟩ | ⟨payloads, -, signals, -, told⟩ | ⟨-, story, -⟩
  · rw [signals, told]
    rfl
  · rw [signals, told, List.filterMap_cons_none rfl, List.filterMap_cons_none rfl,
      List.filterMap_map, List.filterMap_map]
    rfl
  · exact story.texts

/-- **The host is told the texts that the stream yields**, as they are and in their order. -/
theorem texts_run (moves : List Move) :
    (({} : Link).run timeout moves).told.filterMap Notice.text? =
      (items timeout moves).filterMap Arrival.text? := by
  rw [texts_told, signals_eq_gather]
  exact filterMap_gather texts_turn {} moves

/-! ## Quiet arrivals -/

/-- A link without its replies. -/
def withoutReplies (link : Link) : Link :=
  { link with sent := link.sent.filter (·.asked?.isSome) }

/-- What was sent has no part in reading a command. -/
theorem read_sent (link : Link) (sent : List Outgoing) (occurrence : Command → Occurrence) :
    read timeout { link with sent } occurrence =
      { link.read timeout occurrence with
        sent := sent ++ (match link.nextCommand?.map
            fun next : Command × List Command => occurrence next.1 with
          | none => link.stage.idle
          | some occurrence => link.stage.take timeout occurrence).sent } := by
  have same : nextCommand? { link with sent } = link.nextCommand? := rfl
  simp only [read, same]
  cases link.nextCommand? with
  | none => exact congrArg (fun sent => { link with sent }) (List.append_nil sent).symm
  | some next => rfl

/-- What was sent has no part in what a link does. -/
theorem step_sent (link : Link) (sent : List Outgoing) (move : Move) :
    step timeout { link with sent } move =
      { link.step timeout move with sent := sent ++ (link.turn timeout move).sent } := by
  obtain ⟨lifecycle, stage, queue, handle, told, before⟩ := link
  cases move with
  | ask command =>
      rw [show (turn timeout _ (.ask command)).sent = [] from rfl, List.append_nil]
      simp only [step, ask]
      cases handle <;> cases Verdict.ofRequest lifecycle.state command <;>
        cases stage.keepsQueue <;> rfl
  | drop =>
      rw [show (turn timeout _ .drop).sent = [] from rfl, List.append_nil]
      rfl
  | connect => rfl
  | fail failure => rfl
  | arrive arrival writable => rfl
  | expire => rfl
  | overhear =>
      cases stage with
      | connecting => exact read_sent _ sent .overheard
      | _ =>
          rw [show (turn timeout _ .overhear).sent = [] from rfl, List.append_nil]
          rfl
  | obey result now =>
      cases stage with
      | talking => exact read_sent _ sent fun command => .commanded command result now
      | _ =>
          rw [show (turn timeout _ (.obey result now)).sent = [] from rfl, List.append_nil]
          rfl

/-- Links that differ in their replies alone do the same in every move. -/
theorem withoutReplies_step {link other : Link}
    (same : link.withoutReplies = other.withoutReplies) (move : Move) :
    (link.step timeout move).withoutReplies = (other.step timeout move).withoutReplies := by
  obtain ⟨lifecycle, stage, queue, handle, told, sent⟩ := link
  obtain ⟨otherLifecycle, otherStage, otherQueue, otherHandle, otherTold, otherSent⟩ := other
  obtain ⟨rfl, rfl, rfl, rfl, rfl, asked⟩ := Link.mk.inj same
  have steps (sent : List Outgoing) : (step timeout
      ⟨lifecycle, stage, queue, handle, told, sent⟩ move).withoutReplies =
      { step timeout ⟨lifecycle, stage, queue, handle, told, []⟩ move with
        sent := sent.filter (·.asked?.isSome) ++
          (turn timeout ⟨lifecycle, stage, queue, handle, told, []⟩ move).sent.filter
            (·.asked?.isSome) } := by
    rw [← List.filter_append]
    exact congrArg withoutReplies (step_sent ⟨lifecycle, stage, queue, handle, told, []⟩ sent move)
  rw [steps, steps, asked]

/-- What goes out though no command is read are replies. -/
theorem filter_take_of_silent {occurrence : Occurrence} (silent : occurrence.Silent)
    (stage : Stage) :
    (stage.take timeout occurrence).sent.filter (·.asked?.isSome) = [] := by
  rw [List.filter_eq_nil_iff]
  intro outgoing goes
  rw [List.filterMap_eq_nil_iff.mp (silent.asked_take timeout stage) outgoing goes]
  exact Bool.false_ne_true

/-- A quiet arrival leads to replies at most. -/
theorem withoutReplies_of_quiet {move : Move} (quiet : move.isQuiet) (link : Link) :
    (link.step timeout move).withoutReplies = link.withoutReplies := by
  cases move with
  | arrive arrival writable =>
      obtain ⟨stage, signals⟩ := Stage.take_of_quiet timeout quiet link.stage
      have silent : (Occurrence.arrived arrival writable).Silent := trivial
      simp only [step, meet, withoutReplies, stage, signals, filter_take_of_silent silent,
        Lifecycle.acceptAll, List.filter_append, List.append_nil]
  | _ => cases quiet

/-- **Quiet arrivals have no part in a run.** -/
theorem withoutReplies_run {link other : Link}
    (same : link.withoutReplies = other.withoutReplies) (moves : List Move) :
    (link.run timeout moves).withoutReplies =
      (other.run timeout (moves.filter (!·.isQuiet))).withoutReplies := by
  induction moves generalizing link other with
  | nil => exact same
  | cons move moves ih =>
      cases quiet : move.isQuiet with
      | true =>
          rw [List.filter_cons_of_neg (by simp [quiet])]
          exact ih ((withoutReplies_of_quiet quiet link).trans same)
      | false =>
          rw [List.filter_cons_of_pos (by simp [quiet])]
          exact ih (withoutReplies_step same move)

/-- **What arrives and what is told.**  The messages that the host is told are the texts that the
stream yields, as they are and in their order, before and after our own close.  Other messages that
are not closes may come or not come at any time: the host is told the same, the state and the record
are the same, and the link is the same in everything but its replies. -/
theorem texts_of_run (timeout : Option Duration) (moves : List Move) :
    let link := ({} : Link).run timeout moves
    link.told.filterMap Notice.text? = (items timeout moves).filterMap Arrival.text? ∧
      ∀ others, others.filter (!·.isQuiet) = moves.filter (!·.isQuiet) →
        let other := ({} : Link).run timeout others
        other.told = link.told ∧ other.lifecycle = link.lifecycle ∧
          other.withoutReplies = link.withoutReplies := by
  intro link
  refine ⟨texts_run moves, ?_⟩
  intro others audible other
  have same : other.withoutReplies = link.withoutReplies := by
    rw [show other.withoutReplies = _ from withoutReplies_run rfl others, audible]
    exact (withoutReplies_run rfl moves).symm
  have told : other.withoutReplies.told = link.withoutReplies.told := by rw [same]
  have lifecycle : other.withoutReplies.lifecycle = link.withoutReplies.lifecycle := by rw [same]
  exact ⟨told, lifecycle, same⟩

/-- A text that comes behind our own close, with and without a ping and a pong around it. -/
theorem texts_of_late_message :
    let moves : List Move := [.connect, .ask .normalClose, .obey (.ok ()) .origin,
      .arrive (.message (.text "late")) true]
    let others : List Move := [.connect, .arrive (.message (.ping [1])) true, .ask .normalClose,
      .obey (.ok ()) .origin, .arrive (.message (.text "late")) true,
      .arrive (.message (.pong [])) true]
    others.filter (!·.isQuiet) = moves.filter (!·.isQuiet) ∧
      (({} : Link).run none moves).told.filterMap Notice.text? = ["late"] ∧
      (({} : Link).run none others).told = (({} : Link).run none moves).told := by
  intro moves others
  obtain ⟨texts, quiet⟩ := texts_of_run none moves
  exact ⟨rfl, texts, (quiet others rfl).1⟩

end Link

end WebSocketClient
