import WebSocketClient.Proofs.Link.Form
import WebSocketClient.Proofs.Rehearsal.Mirror
import WebSocketClient.Proofs.Rehearsal.Runs

/-!
# The form of a close code never matters

Two scripts that have the same canonical form show the same: the same calls are made, with the same
notices and commands, whoever looks sees the same, requests come to the same, and everything is
worded alike for a reader.  The same is true of a connection with its transport, where the frames
that go out are not only equal but identical (`forms_of_run`).  Only a description of the connection
shows the form of its code, which is what descriptions are for.
-/

namespace WebSocketClient

set_option autoImplicit false

/-! ## Texts for a reader -/

/-- The texts of a record for a reader. -/
def CloseRecord.wording (record : CloseRecord) : List String :=
  [record.code.text, record.reason]

/-- The texts of a notice for a reader. -/
def Notice.wording : Notice → List String
  | opened => []
  | message payload => [payload]
  | failed failure => [failure.message]
  | closed record => record.wording

/-- The texts of a call for a reader. -/
def Call.wording : Call → List String
  | connect endpoint _ => [endpoint.text]
  | notice told => told.wording
  | send payload => [payload]
  | close code reason => [code.text, reason]

/-- The texts of what is seen. -/
def Sight.wording (sight : Sight) : List String :=
  sight.state.text :: (sight.record.map CloseRecord.wording).getD []

/-- The texts of what a reader finds. -/
def Poll.wording : Poll → List String
  | notice found => found.wording
  | ended | pending => []

/-- The texts of what a host can know. -/
def Snapshot.wording (snapshot : Snapshot) : List String :=
  [snapshot.endpoint.text, snapshot.state.text] ++
    (snapshot.record.map CloseRecord.wording).getD []

mutual

/-- The texts of an outcome for a reader, but for a description. -/
def Outcome.wording : Outcome → List String
  | .refused failure => [failure.message]
  | .sink state text => [state.text, text]
  | .snapshot shown => shown.wording
  | .several all => Outcome.wordingAll all
  | .polled poll => poll.wording
  | .taken notice => (notice.map Notice.wording).getD []
  | .done | .noConnection | .description _ | .dropped _ | .noReader => []

/-- The texts of several outcomes. -/
def Outcome.wordingAll : List Outcome → List String
  | [] => []
  | outcome :: outcomes => outcome.wording ++ Outcome.wordingAll outcomes

end

/-- The texts of an entry for a reader. -/
def Entry.wording : Entry → List String
  | call made sight => made.wording ++ sight.wording
  | step _ _ outcome => outcome.wording

/-- The texts of what a step shows. -/
def Rehearsal.Frame.wording (frame : Frame) : List String :=
  frame.log.flatMap Entry.wording ++ frame.outcome.wording ++
    (frame.state.map ReadyState.text).toList

theorem CloseRecord.wording_canonical (record : CloseRecord) :
    record.canonical.wording = record.wording := by
  simp [wording, canonical]

theorem CloseRecord.wordings_canonical (record : Option CloseRecord) :
    (record.map canonical).map wording = record.map wording := by
  simp [wording_canonical, Function.comp_def]

theorem Notice.wording_canonical (notice : Notice) : notice.canonical.wording = notice.wording := by
  cases notice with
  | failed failure => exact congrArg (fun text => [text]) failure.message_canonical
  | closed record => exact record.wording_canonical
  | _ => rfl

theorem Call.wording_canonical (call : Call) : call.canonical.wording = call.wording := by
  cases call with
  | notice told => exact told.wording_canonical
  | close code reason => exact congrArg (fun text => [text, reason]) code.text_canonical
  | _ => rfl

theorem Sight.wording_canonical (sight : Sight) : sight.canonical.wording = sight.wording := by
  simp only [wording, canonical, CloseRecord.wordings_canonical]

mutual

theorem Outcome.wording_canonical : ∀ outcome : Outcome, outcome.canonical.wording = outcome.wording
  | .refused failure => congrArg (fun text => [text]) failure.message_canonical
  | .snapshot shown => by
      simp only [Outcome.canonical, Outcome.wording, Snapshot.canonical, Snapshot.wording,
        CloseRecord.wordings_canonical]
  | .several all => Outcome.wordingAll_canonicalAll all
  | .polled (.notice found) => found.wording_canonical
  | .taken (some notice) => notice.wording_canonical
  | .polled .ended | .polled .pending | .taken none | .sink _ _ | .done | .noConnection
  | .description _ | .dropped _ | .noReader => rfl

theorem Outcome.wordingAll_canonicalAll : ∀ outcomes : List Outcome,
    Outcome.wordingAll (Outcome.canonicalAll outcomes) = Outcome.wordingAll outcomes
  | [] => rfl
  | outcome :: outcomes => by
      simp only [Outcome.canonicalAll, Outcome.wordingAll, Outcome.wording_canonical outcome,
        Outcome.wordingAll_canonicalAll outcomes]

end

theorem Entry.wording_canonical (entry : Entry) : entry.canonical.wording = entry.wording := by
  cases entry with
  | call made sight =>
      simp only [canonical, wording, made.wording_canonical, sight.wording_canonical]
  | step during taken outcome => exact outcome.wording_canonical

namespace Rehearsal

theorem Frame.wording_canonical (frame : Frame) : frame.canonical.wording = frame.wording := by
  simp only [wording, canonical, List.flatMap_map, Entry.wording_canonical,
    Outcome.wording_canonical]

theorem Frame.notices_canonical (frame : Frame) :
    frame.canonical.notices = frame.notices.map Notice.canonical := by
  have entries (entry : Entry) : entry.canonical.notice? = entry.notice?.map Notice.canonical := by
    cases entry with
    | call made sight => cases made <;> rfl
    | step during taken outcome => rfl
  simp only [notices, canonical, List.filterMap_map, List.map_filterMap, Function.comp_def, entries]

/-! ## Whole rehearsals -/

namespace Mirrors

variable {mirror original : Rehearsal}

/-- What a step shows in both. -/
theorem frame (mirrors : Mirrors mirror original) {others : Outcome × Rehearsal}
    {outcomes : Outcome × Rehearsal} (matched : Matches others outcomes) :
    (Rehearsal.frame mirror others.1 others.2).canonical =
      (Rehearsal.frame original outcomes.1 outcomes.2).canonical := by
  have before := congrArg List.length mirrors.log_eq
  have after := matched.2.log_eq
  rw [List.length_map, List.length_map] at before
  simp only [Rehearsal.frame, Frame.canonical, List.map_drop, after, before, matched.1,
    matched.2.sink_eq, matched.2.state_eq]

theorem playSteps (steps : List Step) (mirrors : Mirrors mirror original) :
    (Rehearsal.playSteps (Step.canonicalAll steps) mirror).map Frame.canonical =
      (Rehearsal.playSteps steps original).map Frame.canonical := by
  induction steps generalizing mirror original with
  | nil => rfl
  | cons step steps ih =>
      have matched := blind_reactAll.perform step mirrors
      simp only [Step.canonicalAll, Rehearsal.playSteps, List.map_cons]
      rw [mirrors.frame matched, ih matched.2]

end Mirrors

theorem mirrors_ofScene (scene : Scene) : Mirrors (ofScene scene.canonical) (ofScene scene) := by
  refine ⟨[], rfl, ?_⟩
  have mailbox : scene.listener.newMailbox.canonical = scene.listener.newMailbox := by
    unfold Listener.newMailbox
    split <;> rfl
  simp [ofScene, Scene.canonical, canonical, mailbox, Lifecycle.canonical]

theorem matches_connect (scene : Scene) :
    Matches ((ofScene scene.canonical).connect scene.canonical)
      ((ofScene scene).connect scene) := by
  have start := mirrors_ofScene scene
  unfold connect
  simp only [show scene.canonical.url = scene.url from rfl]
  cases Endpoint.parse scene.url with
  | error failure =>
      refine ⟨rfl, start.withMailbox ?_⟩
      rw [start.mailbox_eq]
      rfl
  | ok endpoint =>
      obtain ⟨entries, logs, same⟩ := start
      have sink : Mirrors { ofScene scene.canonical with sink := true }
          { ofScene scene with sink := true } := ⟨entries, logs, by rw [same]; rfl⟩
      have asked := blind_reactAll.enter sink (.connect endpoint scene.settings)
      simp only [show scene.canonical.refusal = scene.refusal.map Failure.canonical from rfl]
      cases scene.refusal with
      | some failure => exact ⟨by simp [Outcome.canonical], asked⟩
      | none =>
          obtain ⟨later, laterLogs, laterSame⟩ := asked
          refine ⟨rfl, later, laterLogs, ?_⟩
          show { enter reactAll (Call.connect endpoint scene.settings).canonical
            { ofScene scene.canonical with sink := true } with handle := some endpoint } = _
          rw [laterSame]
          rfl

/-- **A script shows what its canonical form shows**, but for the forms of codes. -/
theorem run_canonical (scene : Scene) (steps : List Step) :
    (run scene.canonical (Step.canonicalAll steps)).map Frame.canonical =
      (run scene steps).map Frame.canonical := by
  have connected := matches_connect scene
  have first := (mirrors_ofScene scene).frame connected
  simp only [run, List.map_cons]
  rw [first, connected.2.playSteps steps]

/-- **A script ends as its canonical form ends**, but for the forms of codes. -/
theorem ending_canonical (scene : Scene) (steps : List Step) :
    (ending scene.canonical (Step.canonicalAll steps)).canonical =
      (ending scene steps).canonical :=
  (blind_reactAll.performAll steps (matches_connect scene).2).2.canonical_eq

/-! ## Two scripts -/

/-- Lists are equal where canonical forms tell whether their entries are. -/
theorem beq_of_map_eq {Item : Type} [BEq Item] {canonical : Item → Item}
    (canonical_eq_iff : ∀ {item other : Item},
      canonical item = canonical other ↔ (item == other) = true) :
    ∀ {items others : List Item}, items.map canonical = others.map canonical →
      (items == others) = true
  | [], [], _ => rfl
  | item :: items, other :: others, same => by
      rw [List.map_cons, List.map_cons, List.cons.injEq] at same
      rw [List.cons_beq_cons, canonical_eq_iff.mp same.1, beq_of_map_eq canonical_eq_iff same.2]
      rfl

/-- **The form of a close code never matters.**  Take two scripts, or the moves of two connections,
that differ in the forms of their codes only.  The scripts show the same, step by step and from
inside of calls: the notices, the states, the records, what the requests come to, and what was asked
of the transport.  The connections come to the same, a request is answered alike in both, and the
same frames go out.  This is so because codes are equal exactly if their numbers are, and nothing
else is ever asked of a code: equal codes are classified, hashed and worded alike, a set of codes
has one entry for each number, and the number of a code leads back to an equal code, which is the
named one if there is a name. -/
theorem forms_of_run {scene other : Scene} (scenes : scene.canonical = other.canonical)
    {steps others : List Step} (same : Step.canonicalAll steps = Step.canonicalAll others)
    {moves otherMoves : List Move}
    (moved : moves.map Move.canonical = otherMoves.map Move.canonical) (timeout : Option Duration) :
    (let frames := run scene steps
      let otherFrames := run other others
      let last := ending scene steps
      let otherLast := ending other others
      frames.map Frame.canonical = otherFrames.map Frame.canonical ∧
        (frames.flatMap Frame.notices == otherFrames.flatMap Frame.notices) = true ∧
        frames.map Frame.state = otherFrames.map Frame.state ∧
        frames.map Frame.wording = otherFrames.map Frame.wording ∧
        (last.lifecycle.record == otherLast.lifecycle.record) = true ∧
        (last.asked.map Prod.fst == otherLast.asked.map Prod.fst) = true ∧
        last.canonical = otherLast.canonical) ∧
      (let link := ({} : Link).run timeout moves
        let otherLink := ({} : Link).run timeout otherMoves
        link.canonical = otherLink.canonical ∧ (link.told == otherLink.told) = true ∧
          link.sent = otherLink.sent ∧
          ∀ command otherCommand : Command, command.canonical = otherCommand.canonical →
            (link.ask command).1.mapError Failure.canonical =
              (otherLink.ask otherCommand).1.mapError Failure.canonical) ∧
      (∀ code other : CloseCode, (code.canonical = other.canonical ↔ code.number = other.number) ∧
        ((code == other) = true ↔ code.number = other.number)) ∧
      (Equivalence fun code other : CloseCode => (code == other) = true) ∧
      (∀ code other : CloseCode, (code == other) = true →
        hash code = hash other ∧ code.isClean = other.isClean ∧ code.isValid = other.isValid ∧
          code.isReserved = other.isReserved ∧ code.text = other.text) ∧
      (∀ codes number, ((CloseCode.set codes).toList.map CloseCode.number).count number =
        if number ∈ codes.map CloseCode.number then 1 else 0) ∧
      ∀ code : CloseCode, (CloseCode.ofNumber code.number == code) = true ∧
        ∀ number, CloseCode.ofNumber code.number = .other number →
          ∀ named ∈ CloseCode.named, named.number ≠ number := by
  have frames : (run scene steps).map Frame.canonical = (run other others).map Frame.canonical := by
    rw [← run_canonical scene, ← run_canonical other, scenes, same]
  have last : (ending scene steps).canonical = (ending other others).canonical := by
    rw [← ending_canonical scene, ← ending_canonical other, scenes, same]
  have link := Link.canonical_run_eq moved timeout {}
  have sent := congrArg Link.sent link
  refine ⟨⟨frames, ?_, ?_, ?_, ?_, ?_, last⟩, ⟨link, ?_, sent, ?_⟩, ?_, CloseCode.equivalence_beq,
    ?_, CloseCode.count_number_set, ?_⟩
  · refine beq_of_map_eq Notice.canonical_eq_iff ?_
    have notices := congrArg (List.flatMap Frame.notices) frames
    simpa only [List.flatMap_map, Frame.notices_canonical, ← List.map_flatMap] using notices
  · have states := congrArg (List.map Frame.state) frames
    rwa [List.map_map, List.map_map] at states
  · have wordings := congrArg (List.map Frame.wording) frames
    simpa only [List.map_map, Function.comp_def, Frame.wording_canonical] using wordings
  · have records : (ending scene steps).lifecycle.record.map CloseRecord.canonical =
        (ending other others).lifecycle.record.map CloseRecord.canonical :=
      congrArg (·.lifecycle.record) last
    cases kept : (ending scene steps).lifecycle.record <;>
      cases otherKept : (ending other others).lifecycle.record <;>
      simp_all [CloseRecord.canonical_eq_iff]
  · refine beq_of_map_eq Command.canonical_eq_iff ?_
    have asked := congrArg (·.asked.map Prod.fst) last
    simpa [canonical, Function.comp_def] using asked
  · exact beq_of_map_eq Notice.canonical_eq_iff (congrArg Link.told link)
  · intro command otherCommand commands
    have answer := congrArg Prod.fst ((({} : Link).run timeout moves).ask_canonical command)
    have otherAnswer :=
      congrArg Prod.fst ((({} : Link).run timeout otherMoves).ask_canonical otherCommand)
    rw [← link, ← commands, answer] at otherAnswer
    exact otherAnswer
  · intro code other
    exact ⟨CloseCode.canonical_eq_iff.trans CloseCode.beq_iff, CloseCode.beq_iff⟩
  · intro code other equal
    have forms := CloseCode.canonical_eq_iff.mpr equal
    refine ⟨LawfulHashable.hash_eq code other equal, ?_, ?_, ?_, ?_⟩
    · rw [← code.isClean_canonical, forms, other.isClean_canonical]
    · rw [← code.isValid_canonical, forms, other.isValid_canonical]
    · rw [← code.isReserved_canonical, forms, other.isReserved_canonical]
    · rw [← code.text_canonical, forms, other.text_canonical]
  · intro code
    exact ⟨CloseCode.beq_iff.mpr code.number_canonical, fun _ nameless _ member =>
      CloseCode.number_ne_of_canonical nameless member⟩

/-- Two hosts that close from inside a call, and two peers, that write their codes differently. -/
theorem forms_of_nested_close :
    let scene (code : CloseCode) : Scene :=
      { url := "ws://h/"
        listener := .recorder
        reactions := [⟨.notice .opened, 1, [.closeWith code "done"]⟩] }
    let steps (code : CloseCode) : List Step := [.report .opened, .report (.closed code "" true)]
    let moves (code : CloseCode) : List Move :=
      [.connect, .ask (.close code "done"), .obey (.ok ()) ⟨0, 0⟩, .expire]
    (scene .normal).canonical = (scene (.other 1000)).canonical ∧
      Step.canonicalAll (steps .goingAway) = Step.canonicalAll (steps (.other 1001)) ∧
      (moves .normal).map Move.canonical = (moves (.other 1000)).map Move.canonical ∧
      ((run (scene .normal) (steps .goingAway)).flatMap Frame.notices ==
        (run (scene (.other 1000)) (steps (.other 1001))).flatMap Frame.notices) = true ∧
      (({} : Link).run none (moves .normal)).sent =
        (({} : Link).run none (moves (.other 1000))).sent := by
  intro scene steps moves
  have scenes : (scene .normal).canonical = (scene (.other 1000)).canonical := rfl
  have same : Step.canonicalAll (steps .goingAway) = Step.canonicalAll (steps (.other 1001)) := rfl
  have moved : (moves .normal).map Move.canonical = (moves (.other 1000)).map Move.canonical := rfl
  obtain ⟨shown, linked, -⟩ := forms_of_run scenes same moved none
  exact ⟨scenes, same, moved, shown.2.1, linked.2.2.1⟩

end Rehearsal

end WebSocketClient
