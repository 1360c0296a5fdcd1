import WebSocketClient.Proofs.Rehearsal.Impulses

/-!
# What impulses account for

A connection counts the signals that are emitted as reported, each once and in their order.  The
transport is asked for what the appeals of a host ask for and for nothing else: each appeal asks at
most once, with the arguments of the host, and exactly if nothing stands in its way.  What an appeal
comes to is the answer of the transport if it asks, and otherwise it is refused, or there is nothing
to do.  `Accounts` says this of the stretch between two rehearsals; it holds of every call and every
step, however calls nest (`Accounted.perform`), and so of every script (`accounts_ending`).
-/

namespace WebSocketClient

set_option autoImplicit false

namespace Rehearsal

section Pass

variable (rehearsal : Rehearsal) (command : Command)

theorem asked_pass :
    (rehearsal.pass command).asked = rehearsal.asked ++ [(command, rehearsal.sight)] := by
  unfold pass
  dsimp only
  split <;> rfl

/-- A transport that has shut down is asked, but not called. -/
theorem log_pass :
    (rehearsal.pass command).log = rehearsal.log ++
      match rehearsal.service with
      | .present _ => [.call (.ofCommand command) rehearsal.sight]
      | .gone => [] := by
  unfold pass
  cases rehearsal.service with
  | gone => exact (List.append_nil _).symm
  | present answer => rfl

end Pass

/-! ## Two rehearsals and what came between them -/

/-- Between two rehearsals the signals among the impulses were reported.  The transport was asked
and called as the appeals say, and each appeal was answered.  Each appeal was also shown by the step
that made it: in the log, or in an outcome that is yet to be recorded. -/
structure Accounts (before : Rehearsal) (impulses : List Impulse)
    (shown : List (Command × Outcome)) (after : Rehearsal) : Prop where
  reported_eq : after.reported = before.reported ++ impulses.filterMap Impulse.signal?
  asked_eq : after.asked =
    before.asked ++ (impulses.filterMap Impulse.appeal?).filterMap Appeal.asked?
  answered : ∀ appeal ∈ impulses.filterMap Impulse.appeal?,
    appeal.outcome = .ofResult appeal.answer
  logged : ∃ entries, after.log = before.log ++ entries ∧
    entries.filterMap Entry.command? =
      (impulses.filterMap Impulse.appeal?).filterMap Appeal.called? ∧
    (entries.flatMap Entry.requests ++ shown).Perm
      ((impulses.filterMap Impulse.appeal?).map Appeal.shown)

namespace Accounts

variable {before middle after : Rehearsal} {impulses others : List Impulse}
  {shown laterShown : List (Command × Outcome)}

theorem of_same (reported_eq : after.reported = before.reported)
    (asked_eq : after.asked = before.asked) (log_eq : after.log = before.log) :
    Accounts before [] [] after where
  reported_eq := by rw [reported_eq, List.filterMap_nil, List.append_nil]
  asked_eq := by rw [asked_eq, List.filterMap_nil, List.filterMap_nil, List.append_nil]
  answered := List.forall_mem_nil _
  logged := ⟨[], by rw [log_eq, List.append_nil], rfl, .refl _⟩

theorem refl (rehearsal : Rehearsal) : Accounts rehearsal [] [] rehearsal :=
  of_same rfl rfl rfl

/-- A step aside is no impulse. -/
theorem of_isAside (react : React) {step : Step} (aside : step.isAside) (rehearsal : Rehearsal) :
    Accounts rehearsal [] [] (perform react step rehearsal).2 := by
  obtain ⟨handle, service, mailbox, same⟩ := perform_of_isAside react aside rehearsal
  rw [same]
  exact .of_same rfl rfl rfl

theorem trans (first : Accounts before impulses shown middle)
    (second : Accounts middle others laterShown after) :
    Accounts before (impulses ++ others) (shown ++ laterShown) after where
  reported_eq := by
    rw [second.reported_eq, first.reported_eq, List.filterMap_append, List.append_assoc]
  asked_eq := by
    rw [second.asked_eq, first.asked_eq, List.filterMap_append, List.filterMap_append,
      List.append_assoc]
  answered := by
    rw [List.filterMap_append]
    exact List.forall_mem_append.mpr ⟨first.answered, second.answered⟩
  logged := by
    obtain ⟨entries, log_eq, called, perm⟩ := first.logged
    obtain ⟨later, later_eq, laterCalled, laterPerm⟩ := second.logged
    refine ⟨entries ++ later, ?_, ?_, ?_⟩
    · rw [later_eq, log_eq, List.append_assoc]
    · rw [List.filterMap_append, List.filterMap_append, List.filterMap_append, called, laterCalled]
    · rw [List.flatMap_append, List.filterMap_append, List.map_append, List.append_assoc]
      have swapped := (List.perm_append_comm_assoc (later.flatMap Entry.requests) shown
        laterShown).append_left (entries.flatMap Entry.requests)
      rw [← List.append_assoc (entries.flatMap Entry.requests) shown] at swapped
      exact swapped.trans (perm.append laterPerm)

/-- A signal is emitted, and nothing has come of it yet. -/
theorem hear (rehearsal : Rehearsal) (signal : Signal) :
    Accounts rehearsal [.emission signal] [] (rehearsal.hear signal) where
  reported_eq := rfl
  asked_eq := (List.append_nil _).symm
  answered := List.forall_mem_nil _
  logged := ⟨[], (List.append_nil _).symm, rfl, .refl _⟩

/-- An appeal is made, and nothing else comes inside it. -/
theorem single {appeal : Appeal} {entries : List Entry}
    (answered : appeal.outcome = .ofResult appeal.answer)
    (reported_eq : after.reported = before.reported)
    (asked_eq : after.asked = before.asked ++ appeal.asked?.toList)
    (log_eq : after.log = before.log ++ entries)
    (called : entries.filterMap Entry.command? = appeal.called?.toList)
    (unshown : entries.flatMap Entry.requests = []) :
    Accounts before [.request appeal] [appeal.shown] after where
  reported_eq := reported_eq.trans (List.append_nil _).symm
  asked_eq := by
    rw [asked_eq]
    cases asked : appeal.asked? <;> simp [Impulse.appeal?, asked]
  answered := List.forall_mem_singleton.mpr answered
  logged := by
    refine ⟨entries, log_eq, ?_, ?_⟩
    · rw [called]
      cases called : appeal.called? <;> simp [Impulse.appeal?, called]
    · rw [unshown]
      exact .refl _

/-- An appeal is answered without asking the transport. -/
theorem unasked {appeal : Appeal} (rehearsal : Rehearsal) (none : appeal.asked? = none)
    (answered : appeal.outcome = .ofResult appeal.answer) :
    Accounts rehearsal [.request appeal] [appeal.shown] rehearsal := by
  have uncalled : appeal.called? = .none := by
    rw [Appeal.called?, none]
    split <;> rfl
  refine .single answered rfl ?_ (List.append_nil _).symm ?_ rfl
  · rw [none, Option.toList_none, List.append_nil]
  · rw [uncalled]
    rfl

/-- What was shown is recorded. -/
theorem record {entry : Entry} (silent : entry.command? = none)
    (accounts : Accounts before impulses entry.requests after) :
    Accounts before impulses [] (after.record entry) where
  reported_eq := accounts.reported_eq
  asked_eq := accounts.asked_eq
  answered := accounts.answered
  logged := by
    obtain ⟨entries, log_eq, called, perm⟩ := accounts.logged
    refine ⟨entries ++ [entry], ?_, ?_, ?_⟩
    · rw [← List.append_assoc, ← log_eq]
      rfl
    · simpa [silent] using called
    · simpa using perm

end Accounts

/-- A way of running the code inside calls, and the impulses that are gathered from it. -/
def Accounted (react : React) (gather : Impulses.Gather) : Prop :=
  ∀ during steps rehearsal,
    Accounts rehearsal (gather during steps rehearsal) [] (react during steps rehearsal)

namespace Accounted

variable {react : React} {gather : Impulses.Gather}

section Calls

variable (accounted : Accounted react gather)

include accounted

theorem respond (kind : CallKind) (rehearsal : Rehearsal) :
    Accounts rehearsal (Impulses.respond gather kind rehearsal) []
      (Rehearsal.respond react kind rehearsal) := by
  unfold Impulses.respond Rehearsal.respond
  cases takeReaction kind rehearsal.reactions with
  | none => exact .refl rehearsal
  | some found =>
      obtain ⟨steps, reactions⟩ := found
      have inside := accounted kind steps { rehearsal with reactions }
      exact ⟨inside.reported_eq, inside.asked_eq, inside.answered, inside.logged⟩

theorem deliver (notice : Notice) (rehearsal : Rehearsal) :
    Accounts rehearsal (Impulses.deliver gather notice rehearsal) []
      (Rehearsal.deliver react notice rehearsal) := by
  unfold Impulses.deliver Rehearsal.deliver
  split
  · exact .of_same rfl rfl rfl
  · split
    · rename_i posts calls
      have told : rehearsal.tell notice =
          rehearsal.record (.call (.notice notice) rehearsal.sight) := by
        simp only [tell, posts, calls, if_true, if_false, Bool.false_eq_true]
      have recorded : Accounts rehearsal [] []
          (rehearsal.record (.call (.notice notice) rehearsal.sight)) :=
        .record rfl (.refl rehearsal)
      rw [enter_eq, told]
      exact recorded.trans (accounted.respond _ _)
    · exact .refl rehearsal

theorem deliverAll (notices : List Notice) (rehearsal : Rehearsal) :
    Accounts rehearsal (Impulses.deliverAll react gather notices rehearsal) []
      (notices.foldl (fun current notice => Rehearsal.deliver react notice current) rehearsal) := by
  induction notices generalizing rehearsal with
  | nil => exact .refl rehearsal
  | cons notice notices ih => exact (accounted.deliver notice rehearsal).trans (ih _)

theorem report (signal : Signal) (rehearsal : Rehearsal) :
    Accounts rehearsal (Impulses.report react gather signal rehearsal) []
      (reportStep react signal rehearsal).2 := by
  unfold Impulses.report reportStep
  split
  · exact (Accounts.hear rehearsal signal).trans (accounted.deliverAll _ _)
  · exact .refl rehearsal

/-- A command that is passed on is asked of the transport, which may react to it. -/
theorem pass (command : Command) (rehearsal : Rehearsal) {appeal : Appeal}
    (asked : appeal.asked? = some (command, rehearsal.sight))
    (service : appeal.service = rehearsal.service)
    (answered : appeal.outcome = .ofResult appeal.answer) :
    Accounts rehearsal (.request appeal :: Impulses.pass gather command rehearsal) [appeal.shown]
      (Rehearsal.command react command rehearsal).2 := by
  have passed : Accounts rehearsal [.request appeal] [appeal.shown] (rehearsal.pass command) := by
    refine .single answered (pass_reported rehearsal command) ?_ (log_pass rehearsal command) ?_ ?_
    · rw [asked_pass, asked, Option.toList_some]
    · rw [Appeal.called?, service]
      cases rehearsal.service with
      | gone => rfl
      | present answer =>
          rw [asked]
          cases command <;> rfl
    · cases rehearsal.service with
      | gone => rfl
      | present answer => rfl
  rw [snd_command, Impulses.pass]
  cases rehearsal.service with
  | present answer => exact passed.trans (accounted.respond (Call.ofCommand command).kind _)
  | gone => exact passed

/-- A request is shown by its outcome, if there is a connection to ask. -/
theorem request (command : Command) (rehearsal : Rehearsal) :
    let verdict := Verdict.ofRequest rehearsal.lifecycle.state command
    Accounts rehearsal (Impulses.request react gather command rehearsal)
      ((requestStep react verdict rehearsal).1.toRequest command)
      (requestStep react verdict rehearsal).2 := by
  intro verdict
  cases handle : rehearsal.handle.isSome with
  | false =>
      simp only [Impulses.request, requestStep, handle, Bool.false_eq_true, if_false]
      exact .refl rehearsal
  | true =>
      have made : (Impulses.appeal react command rehearsal).outcome =
          .ofResult (Rehearsal.request react verdict rehearsal).1 := by
        simp only [Impulses.appeal, requestStep, handle, if_true, verdict]
      have shown : (requestStep react verdict rehearsal).1.toRequest command =
          [(Impulses.appeal react command rehearsal).shown] := by
        simp only [requestStep, handle, if_true, Outcome.toRequest_ofResult, Appeal.shown, made]
        rfl
      rw [shown]
      simp only [Impulses.request, requestStep, handle, if_true]
      obtain ⟨passed, asked, answer⟩ |
          ⟨unasked, ⟨failure, refused, answer⟩ | ⟨settled, answer⟩⟩ :=
        (Impulses.appeal react command rehearsal).verdict
      · change verdict = _ at passed
        rw [passed] at made
        simp only [show Verdict.ofRequest _ _ = _ from passed, passed]
        refine accounted.pass command rehearsal asked rfl ?_
        rw [made, answer]
        rfl
      · change verdict = _ at refused
        rw [refused] at made
        simp only [show Verdict.ofRequest _ _ = _ from refused, refused]
        refine .unasked rehearsal unasked ?_
        rw [made, answer]
        rfl
      · change verdict = _ at settled
        rw [settled] at made
        simp only [show Verdict.ofRequest _ _ = _ from settled, settled]
        refine .unasked rehearsal unasked ?_
        rw [made, answer]
        rfl

end Calls

mutual

/-- A step is accounted for by the impulses that come during it. -/
theorem perform (accounted : Accounted react gather) :
    ∀ (step : Step) (rehearsal : Rehearsal),
      Accounts rehearsal (Impulses.perform react gather step rehearsal)
        (step.requests (Rehearsal.perform react step rehearsal).1)
        (Rehearsal.perform react step rehearsal).2
  | .report signal, rehearsal => by
      simp only [Rehearsal.perform, Impulses.perform]
      exact accounted.report signal rehearsal
  | .emit signal, rehearsal => by
      simp only [Rehearsal.perform, Impulses.perform]
      exact accounted.report signal rehearsal
  | .send payload, rehearsal => by
      simp only [Rehearsal.perform, Impulses.perform]
      exact accounted.request (.send payload) rehearsal
  | .close, rehearsal => by
      simp only [Rehearsal.perform, Impulses.perform]
      exact accounted.request .normalClose rehearsal
  | .closeWith code reason, rehearsal => by
      simp only [Rehearsal.perform, Impulses.perform]
      exact accounted.request (.close code reason) rehearsal
  | .thread steps, rehearsal => by
      simp only [Rehearsal.perform, Impulses.perform, Step.requests]
      exact performAll accounted steps rehearsal
  | .inspect, rehearsal | .query, rehearsal | .describe, rehearsal | .dropHandle, rehearsal
  | .serve _, rehearsal | .poll _, rehearsal | .take, rehearsal | .dropReader, rehearsal => by
      simp only [Impulses.perform]
      exact .of_isAside react rfl rehearsal

/-- Several steps are accounted for by the impulses that come during them. -/
theorem performAll (accounted : Accounted react gather) :
    ∀ (steps : List Step) (rehearsal : Rehearsal),
      Accounts rehearsal (Impulses.performAll react gather steps rehearsal)
        (Step.requestsAll steps (Rehearsal.performAll react steps rehearsal).1)
        (Rehearsal.performAll react steps rehearsal).2
  | [], rehearsal => by
      simp only [Rehearsal.performAll, Impulses.performAll, Step.requestsAll]
      exact .refl rehearsal
  | step :: steps, rehearsal => by
      simp only [Rehearsal.performAll, Impulses.performAll, Step.requestsAll]
      exact (perform accounted step rehearsal).trans (performAll accounted steps _)

end

theorem performDuring (accounted : Accounted react gather) (during : CallKind)
    (steps : List Step) (rehearsal : Rehearsal) :
    Accounts rehearsal (Impulses.performDuring react gather during steps rehearsal) []
      (steps.foldl (fun current step => Rehearsal.performDuring react during step current)
        rehearsal) := by
  induction steps generalizing rehearsal with
  | nil => exact .refl rehearsal
  | cons step steps ih =>
      have first : Accounts rehearsal (Impulses.perform react gather step rehearsal) []
          (Rehearsal.performDuring react during step rehearsal) :=
        (accounted.perform step rehearsal).record rfl
      exact first.trans (ih _)

end Accounted

/-- However deep calls may nest, the impulses account for what happens. -/
theorem accounted_play (depth : Nat) : Accounted (play depth) (Impulses.play depth) := by
  induction depth with
  | zero => exact fun _ _ rehearsal => .refl rehearsal
  | succ depth ih => exact fun during steps rehearsal => ih.performDuring during steps rehearsal

theorem accounted_reactAll : Accounted reactAll Impulses.reactAll :=
  fun during steps rehearsal => accounted_play _ during steps rehearsal

theorem accounts_connect (scene : Scene) (rehearsal : Rehearsal) :
    Accounts rehearsal (Impulses.connect scene rehearsal) [] (connect scene rehearsal).2 := by
  unfold Impulses.connect connect
  cases Endpoint.parse scene.url with
  | error failure => exact .of_same rfl rfl rfl
  | ok endpoint =>
      let call := Call.connect endpoint scene.settings
      let begun := { rehearsal with sink := true }.record (.call call rehearsal.sight)
      have called : Accounts rehearsal [] [] begun := .record rfl (.of_same rfl rfl rfl)
      have entered := called.trans (accounted_reactAll.respond call.kind begun)
      cases scene.refusal with
      | some failure => exact entered
      | none => exact ⟨entered.reported_eq, entered.asked_eq, entered.answered, entered.logged⟩

/-- The outcomes of the steps of a script. -/
def outcomes (scene : Scene) (steps : List Step) : List Outcome :=
  (run scene steps).tail.map Frame.outcome

theorem outcomes_eq (scene : Scene) (steps : List Step) :
    outcomes scene steps = (performAll reactAll steps ((ofScene scene).connect scene).2).1 := by
  have played (steps : List Step) (rehearsal : Rehearsal) :
      (playSteps steps rehearsal).map Frame.outcome = (performAll reactAll steps rehearsal).1 := by
    induction steps generalizing rehearsal with
    | nil => simp only [playSteps, performAll, List.map_nil]
    | cons step steps ih => simp only [playSteps, performAll, List.map_cons, ih, frame]
  exact played steps _

/-- The impulses of a script account for all that is reported and asked. -/
theorem accounts_ending (scene : Scene) (steps : List Step) :
    Accounts (ofScene scene) (Impulses.ofScript scene steps)
      (Step.requestsAll steps (outcomes scene steps)) (ending scene steps) := by
  rw [outcomes_eq]
  exact (accounts_connect scene (ofScene scene)).trans (accounted_reactAll.performAll steps _)

end Rehearsal

end WebSocketClient
