import WebSocketClient.Proofs.Rehearsal.Moment

/-!
# The depth of a rehearsal

Calls nest, and `play` cuts them off at a depth.  The depth that `reactAll` allows is never reached:
every call with a reaction uses up one of its uses, so what runs inside the call has fewer uses left
than what made the call.  Two depths that are both large enough play the same (`agree_play`), and
`reactAll` is the one way of running code inside calls that runs the code inside these calls in the
same way, to any depth (`reactAll_eq`).
-/

namespace WebSocketClient

set_option autoImplicit false

/-- A reaction that is taken loses a use. -/
theorem usesLeft_of_takeReaction {call : CallKind} {before after : List Reaction}
    {steps : List Step} (taken : takeReaction call before = some (steps, after)) :
    usesLeft before = usesLeft after + 1 := by
  induction before generalizing after with
  | nil => cases taken
  | cons reaction others ih =>
      simp only [takeReaction] at taken
      split at taken
      · rename_i applies
        cases taken
        have left : 0 < reaction.uses := Nat.pos_of_ne_zero applies.2
        simp only [usesLeft]
        omega
      · obtain ⟨⟨found, rest⟩, later, same⟩ := Option.map_eq_some_iff.mp taken
        cases same
        have shorter := ih later
        simp only [usesLeft]
        omega

namespace Rehearsal

/-- How many uses the reactions of a rehearsal have left. -/
def left (rehearsal : Rehearsal) : Nat :=
  usesLeft rehearsal.reactions

/-- Two ways of running the code inside calls agree on every rehearsal with fewer uses left than the
bound, and never leave more uses than there were. -/
structure Agree (bound : Nat) (one other : React) : Prop where
  same : ∀ during steps rehearsal, rehearsal.left < bound →
    one during steps rehearsal = other during steps rehearsal
  spends : ∀ during steps rehearsal, rehearsal.left < bound →
    (other during steps rehearsal).left ≤ rehearsal.left

namespace Agree

variable {bound : Nat} {one other : React}

section Calls

variable (agree : Agree bound one other) {rehearsal : Rehearsal} (within : rehearsal.left ≤ bound)

include agree within

theorem enter (call : Call) :
    Rehearsal.enter one call rehearsal = Rehearsal.enter other call rehearsal ∧
      (Rehearsal.enter other call rehearsal).left ≤ rehearsal.left := by
  unfold Rehearsal.enter
  dsimp only
  split
  · exact ⟨rfl, Nat.le_refl _⟩
  · rename_i steps reactions taken
    have fewer : rehearsal.left = usesLeft reactions + 1 := usesLeft_of_takeReaction taken
    have inside : usesLeft reactions < bound := by omega
    refine ⟨agree.same _ _ _ inside, ?_⟩
    have spent := agree.spends call.kind steps
      { rehearsal.record (.call call rehearsal.sight) with reactions } inside
    exact Nat.le_trans spent (show usesLeft reactions ≤ rehearsal.left by omega)

theorem deliver (notice : Notice) :
    Rehearsal.deliver one notice rehearsal = Rehearsal.deliver other notice rehearsal ∧
      (Rehearsal.deliver other notice rehearsal).left ≤ rehearsal.left := by
  unfold Rehearsal.deliver
  split
  · exact ⟨rfl, Nat.le_refl _⟩
  · split
    · exact agree.enter within _
    · exact ⟨rfl, Nat.le_refl _⟩

end Calls

theorem deliverAll (agree : Agree bound one other) (notices : List Notice) {rehearsal : Rehearsal}
    (within : rehearsal.left ≤ bound) :
    notices.foldl (fun current notice => Rehearsal.deliver one notice current) rehearsal =
        notices.foldl (fun current notice => Rehearsal.deliver other notice current) rehearsal ∧
      (notices.foldl (fun current notice => Rehearsal.deliver other notice current)
        rehearsal).left ≤ rehearsal.left := by
  induction notices generalizing rehearsal with
  | nil => exact ⟨rfl, Nat.le_refl _⟩
  | cons notice notices ih =>
      obtain ⟨same, spends⟩ := agree.deliver within notice
      obtain ⟨sameLater, spendsLater⟩ := ih (Nat.le_trans spends within)
      simp only [List.foldl_cons, same]
      exact ⟨sameLater, Nat.le_trans spendsLater spends⟩

theorem report (agree : Agree bound one other) (signal : Signal) {rehearsal : Rehearsal}
    (within : rehearsal.left ≤ bound) :
    reportStep one signal rehearsal = reportStep other signal rehearsal ∧
      (reportStep other signal rehearsal).2.left ≤ rehearsal.left := by
  unfold reportStep
  split
  · have heard : (rehearsal.hear signal).left ≤ bound := within
    obtain ⟨same, spends⟩ := agree.deliverAll (rehearsal.lifecycle.accept signal).2 heard
    exact ⟨congrArg (Prod.mk Outcome.done) same, spends⟩
  · exact ⟨rfl, Nat.le_refl _⟩

theorem request (agree : Agree bound one other) (verdict : Verdict) {rehearsal : Rehearsal}
    (within : rehearsal.left ≤ bound) :
    requestStep one verdict rehearsal = requestStep other verdict rehearsal ∧
      (requestStep other verdict rehearsal).2.left ≤ rehearsal.left := by
  unfold requestStep
  split
  · cases verdict with
    | refused failure => exact ⟨rfl, Nat.le_refl _⟩
    | settled => exact ⟨rfl, Nat.le_refl _⟩
    | passed command =>
        simp only [Rehearsal.request, Rehearsal.command]
        cases rehearsal.service with
        | gone => exact ⟨rfl, Nat.le_refl _⟩
        | present answer =>
            have asked : Rehearsal.left { rehearsal with
                service := .present answer
                asked := rehearsal.asked ++ [(command, rehearsal.sight)] } ≤ bound := within
            obtain ⟨same, spends⟩ := agree.enter asked (.ofCommand command)
            exact ⟨congrArg (Prod.mk _) same, spends⟩
  · exact ⟨rfl, Nat.le_refl _⟩

mutual

/-- Two ways that agree take a step in the same way. -/
theorem perform (agree : Agree bound one other) :
    ∀ (step : Step) (rehearsal : Rehearsal), rehearsal.left ≤ bound →
      Rehearsal.perform one step rehearsal = Rehearsal.perform other step rehearsal ∧
        (Rehearsal.perform other step rehearsal).2.left ≤ rehearsal.left
  | .report signal, _, within => by
      simpa only [Rehearsal.perform] using agree.report signal within
  | .emit signal, _, within => by
      simpa only [Rehearsal.perform] using agree.report signal within
  | .send payload, _, within => by
      simpa only [Rehearsal.perform] using agree.request _ within
  | .close, _, within => by
      simpa only [Rehearsal.perform] using agree.request _ within
  | .closeWith code reason, _, within => by
      simpa only [Rehearsal.perform] using agree.request _ within
  | .inspect, _, _ => by
      simp only [Rehearsal.perform]
      split <;> exact ⟨trivial, Nat.le_refl _⟩
  | .query, _, _ => by
      simp only [Rehearsal.perform]
      split <;> exact ⟨trivial, Nat.le_refl _⟩
  | .describe, _, _ => by
      simp only [Rehearsal.perform]
      split <;> exact ⟨trivial, Nat.le_refl _⟩
  | .dropHandle, _, _ => by
      simp only [Rehearsal.perform]
      exact ⟨trivial, Nat.le_refl _⟩
  | .serve service, _, _ => by
      simp only [Rehearsal.perform]
      exact ⟨trivial, Nat.le_refl _⟩
  | .thread steps, rehearsal, within => by
      obtain ⟨same, spends⟩ := agree.performAll steps rehearsal within
      simp only [Rehearsal.perform, same]
      exact ⟨trivial, spends⟩
  | .poll _, _, _ => by
      simp only [Rehearsal.perform]
      split <;> exact ⟨trivial, Nat.le_refl _⟩
  | .take, _, _ => by
      simp only [Rehearsal.perform]
      split <;> exact ⟨trivial, Nat.le_refl _⟩
  | .dropReader, _, _ => by
      simp only [Rehearsal.perform]
      exact ⟨trivial, Nat.le_refl _⟩

/-- Two ways that agree take several steps in the same way. -/
theorem performAll (agree : Agree bound one other) :
    ∀ (steps : List Step) (rehearsal : Rehearsal), rehearsal.left ≤ bound →
      Rehearsal.performAll one steps rehearsal = Rehearsal.performAll other steps rehearsal ∧
        (Rehearsal.performAll other steps rehearsal).2.left ≤ rehearsal.left
  | [], _, _ => by
      simp only [Rehearsal.performAll]
      exact ⟨trivial, Nat.le_refl _⟩
  | step :: steps, rehearsal, within => by
      obtain ⟨same, spends⟩ := agree.perform step rehearsal within
      obtain ⟨sameLater, spendsLater⟩ :=
        agree.performAll steps _ (Nat.le_trans spends within)
      simp only [Rehearsal.performAll, same, sameLater]
      exact ⟨trivial, Nat.le_trans spendsLater spends⟩

end

/-- Two ways that agree run the code inside a call in the same way. -/
theorem performDuring (agree : Agree bound one other) (during : CallKind) (steps : List Step)
    {rehearsal : Rehearsal} (within : rehearsal.left ≤ bound) :
    let during react :=
      steps.foldl (fun current step => Rehearsal.performDuring react during step current) rehearsal
    during one = during other ∧ (during other).left ≤ rehearsal.left := by
  induction steps generalizing rehearsal with
  | nil => exact ⟨rfl, Nat.le_refl _⟩
  | cons step steps ih =>
      obtain ⟨same, spends⟩ := agree.perform step rehearsal within
      have next : Rehearsal.performDuring one during step rehearsal =
          Rehearsal.performDuring other during step rehearsal := by
        simp only [Rehearsal.performDuring, same]
      have left : (Rehearsal.performDuring other during step rehearsal).left ≤ rehearsal.left :=
        spends
      obtain ⟨sameLater, spendsLater⟩ := ih (Nat.le_trans left within)
      simp only [List.foldl_cons, next]
      exact ⟨sameLater, Nat.le_trans spendsLater left⟩

end Agree

/-- Depths that are large enough play the same. -/
theorem agree_play {bound first second : Nat} (enough : bound ≤ first)
    (alsoEnough : bound ≤ second) : Agree bound (play first) (play second) := by
  induction bound generalizing first second with
  | zero => exact ⟨fun _ _ _ none => absurd none (Nat.not_lt_zero _),
      fun _ _ _ none => absurd none (Nat.not_lt_zero _)⟩
  | succ bound ih =>
      obtain ⟨first, rfl⟩ := Nat.exists_eq_add_of_le' enough
      obtain ⟨second, rfl⟩ := Nat.exists_eq_add_of_le' alsoEnough
      have agree : Agree bound (play (first + bound)) (play (second + bound)) :=
        ih (Nat.le_add_left ..) (Nat.le_add_left ..)
      constructor
      · intro during steps rehearsal within
        exact (agree.performDuring during steps (Nat.le_of_lt_succ within)).1
      · intro during steps rehearsal within
        exact (agree.performDuring during steps (Nat.le_of_lt_succ within)).2

/-- The depth that is allowed is large enough. -/
theorem agree_reactAll (bound : Nat) : Agree bound (play bound) reactAll := by
  constructor
  · intro during steps rehearsal within
    exact (agree_play within (Nat.le_refl _)).same during steps rehearsal (Nat.lt_succ_self _)
  · intro during steps rehearsal _
    have agree := agree_play (Nat.le_refl (rehearsal.left + 1)) (Nat.le_refl (rehearsal.left + 1))
    exact agree.spends during steps rehearsal (Nat.lt_succ_self _)

/-- **Calls nest to any depth.**  The code inside a call is run step by step, and the code inside
the calls that these steps make is run in the same way. -/
theorem reactAll_eq (during : CallKind) (steps : List Step) (rehearsal : Rehearsal) :
    reactAll during steps rehearsal =
      steps.foldl (fun current step => performDuring reactAll during step current) rehearsal :=
  ((agree_reactAll rehearsal.left).performDuring during steps (Nat.le_refl _)).1

end Rehearsal

end WebSocketClient
