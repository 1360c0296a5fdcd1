import Mathlib.Data.List.Induction
import WebSocketClient.Listener

/-!
# What a reader receives

A host that reads its notices from a mailbox receives what was posted, from the first notice to that
of the first close, each once and in order.  This is kept from one access of the mailbox to the next
(`Mailbox.Holds`): the notices that were read, followed by those that wait, are the ones that were
posted, and there is a writing end exactly as long as more may come.

From it follows what any sequence of acts on a listener and its mailbox shows (`reading_of_run`).
What was read is a prefix of what the listener was told, up to the first close and before it was
dropped.  A reader that looks finds the next of these notices whenever there is one; otherwise it
finds the end if a close was told or the listener was dropped, and nothing yet if not; and an end
that was found once is found ever after.  Once the reader is gone, telling the listener something
changes nothing that any later act could show.
-/

namespace WebSocketClient

set_option autoImplicit false

/-! ## Mailboxes -/

namespace Poll

/-- What a look into a mailbox finds: the next notice if there is one, and otherwise the end if
nothing more will come. -/
def ofNext (next : Option Notice) (finished : Bool) : Poll :=
  match next with
  | some found => .notice found
  | none => if finished then .ended else .pending

/-- The notice that a look finds. -/
def read? : Poll → Option Notice
  | notice found => some found
  | ended | pending => none

theorem read?_ofNext (next : Option Notice) (finished : Bool) :
    (ofNext next finished).read? = next := by
  cases next with
  | none => cases finished <;> rfl
  | some found => rfl

theorem ofNext_eq_ended_iff {next : Option Notice} {finished : Bool} :
    ofNext next finished = .ended ↔ next = none ∧ finished = true := by
  cases next <;> cases finished <;> simp [ofNext]

end Poll

namespace Mailbox

/-- A mailbox whose reader exists holds what was posted and not yet read; there is a writing end
unless nothing more will come. -/
structure Holds (posted read : List Notice) (finished : Bool) (mailbox : Mailbox) : Prop where
  reader : mailbox.reader = true
  writer : mailbox.writer = !finished
  posted_eq : read ++ mailbox.waiting = posted

namespace Holds

variable {posted read : List Notice} {finished : Bool} {mailbox : Mailbox}

theorem empty : Holds [] [] false {} :=
  ⟨rfl, rfl, rfl⟩

/-- A notice is added, unless nothing more was to come; after that of a close nothing more will. -/
theorem post (holds : Holds posted read finished mailbox) (notice : Notice) :
    Holds (posted ++ if finished then [] else [notice]) read (finished || notice.isClosing)
      (mailbox.post notice) := by
  obtain ⟨reader, writer, posted_eq⟩ := holds
  unfold Mailbox.post
  cases finished <;> cases closing : notice.isClosing <;>
    refine ⟨?_, ?_, ?_⟩ <;> simp [reader, writer, ← posted_eq]

theorem dropWriter (holds : Holds posted read finished mailbox) :
    Holds posted read true mailbox.dropWriter :=
  ⟨holds.reader, rfl, holds.posted_eq⟩

/-- The next notice is the first one that was not read. -/
theorem take? (holds : Holds posted read finished mailbox) :
    mailbox.take?.1 = posted[read.length]? ∧
      Holds posted (read ++ mailbox.take?.1.toList) finished mailbox.take?.2 := by
  obtain ⟨reader, writer, posted_eq⟩ := holds
  subst posted_eq
  unfold Mailbox.take?
  split
  · rename_i none
    exact ⟨by simp [none], reader, writer, by simp [none]⟩
  · rename_i notice rest first
    exact ⟨by simp [first], reader, writer, by simp [first]⟩

theorem poll (holds : Holds posted read finished mailbox) :
    mailbox.poll = (.ofNext posted[read.length]? finished, mailbox.take?.2) := by
  rw [← holds.take?.1]
  unfold Mailbox.poll Mailbox.take?
  cases mailbox.waiting with
  | nil =>
      simp only [Poll.ofNext, holds.writer]
      cases finished <;> rfl
  | cons notice rest => rfl

theorem read_initial (holds : Holds posted read finished mailbox) : read <+: posted :=
  ⟨mailbox.waiting, holds.posted_eq⟩

end Holds

/-- A mailbox that nobody reads any more, with nothing in it. -/
structure Abandoned (mailbox : Mailbox) : Prop where
  reader : mailbox.reader = false
  waiting : mailbox.waiting = []

theorem Abandoned.post {mailbox : Mailbox} (abandoned : mailbox.Abandoned) (notice : Notice) :
    (mailbox.post notice).Abandoned := by
  obtain ⟨reader, waiting⟩ := abandoned
  unfold Mailbox.post
  cases notice.isClosing <;> constructor <;> simp [reader, waiting]

end Mailbox

/-! ## Acts on a listener and its mailbox -/

namespace Listener.Trial

namespace Act

/-- The listener is told something. -/
def notice? : Act → Option Notice
  | notify notice => some notice
  | dropListener | poll | take | dropReader => none

/-- The listener is dropped. -/
def dropsListener : Act → Bool
  | dropListener => true
  | notify _ | poll | take | dropReader => false

/-- The reader is dropped. -/
def dropsReader : Act → Bool
  | dropReader => true
  | notify _ | dropListener | poll | take => false

/-- Nothing more will be posted after this: the listener is told of a close, or it is dropped. -/
def ends : Act → Bool
  | notify notice => notice.isClosing
  | dropListener => true
  | poll | take | dropReader => false

/-- What a reader can receive: all that the listener is told before it is dropped, up to the first
close and with it. -/
def posted : List Act → List Notice
  | [] => []
  | act :: acts => act.notice?.toList ++ if act.ends then [] else posted acts

theorem posted_concat (acts : List Act) (last : Act) :
    posted (acts ++ [last]) =
      posted acts ++ if acts.any ends then [] else last.notice?.toList := by
  induction acts with
  | nil => simp [posted]
  | cons act acts ih => cases ended : act.ends <;> simp [posted, ended, ih]

/-- Once nothing more will be posted, nothing more is. -/
theorem posted_append_of_ends {acts : List Act} (ended : acts.any ends) (more : List Act) :
    posted (acts ++ more) = posted acts := by
  induction acts with
  | nil => cases ended
  | cons act acts ih =>
      cases here : act.ends
      · rw [List.any_cons, here, Bool.false_or] at ended
        simp [posted, here, ih ended]
      · simp [posted, here]

end Act

/-- The notice that an outcome gives to the reader. -/
def Outcome.read? : Outcome → Option Notice
  | polled poll => poll.read?
  | taken notice => notice
  | told _ | noListener | dropped _ | noReader => none

/-- A listener and its mailbox after several acts. -/
def after (acts : List Act) (trial : Trial) : Trial :=
  acts.foldl (fun current act => (current.perform act).2) trial

theorem run_append (first second : List Act) (trial : Trial) :
    run (first ++ second) trial = run first trial ++ run second (after first trial) := by
  induction first generalizing trial with
  | nil => rfl
  | cons act first ih => exact congrArg _ (ih _)

theorem run_concat (acts : List Act) (last : Act) (trial : Trial) :
    run (acts ++ [last]) trial = run acts trial ++ [((after acts trial).perform last).1] :=
  run_append acts [last] trial

theorem after_append (first second : List Act) (trial : Trial) :
    after (first ++ second) trial = after second (after first trial) :=
  List.foldl_append

/-! ### With a reader -/

/-- The notices that the reader received. -/
def read (acts : List Act) : List Notice :=
  (run acts (start .mailbox)).filterMap Outcome.read?

theorem read_concat (acts : List Act) (last : Act) :
    read (acts ++ [last]) =
      read acts ++ ((after acts (start .mailbox)).perform last).1.read?.toList := by
  rw [read, run_concat, List.filterMap_append]
  cases found : ((after acts (start .mailbox)).perform last).1.read? <;> simp [found, read]

/-- A trial with a reader.  Whether its listener was dropped, what was posted, what the reader
received, and whether nothing more will be posted. -/
structure Reads (dropped : Bool) (posted read : List Notice) (finished : Bool) (trial : Trial) :
    Prop where
  listener_eq : trial.listener = if dropped then none else some .mailbox
  finished_of_dropped : dropped = true → finished = true
  holds : trial.mailbox.Holds posted read finished

/-- What one act makes of a trial with a reader. -/
theorem Reads.perform {dropped finished : Bool} {posted read : List Notice} {trial : Trial}
    (reads : Reads dropped posted read finished trial) {act : Act}
    (keeps : act.dropsReader = false) :
    Reads (dropped || act.dropsListener) (posted ++ if finished then [] else act.notice?.toList)
      (read ++ (trial.perform act).1.read?.toList) (finished || act.ends)
      (trial.perform act).2 := by
  obtain ⟨listener_eq, finished_of_dropped, holds⟩ := reads
  have reader := holds.reader
  cases act with
  | notify notice =>
      cases dropped with
      | true =>
          obtain rfl := finished_of_dropped rfl
          have unheard : trial.perform (.notify notice) = (.noListener, trial) := by
            simp only [Trial.perform, Trial.notify, listener_eq, if_true]
          rw [unheard]
          simpa [Outcome.read?] using Reads.mk listener_eq finished_of_dropped holds
      | false =>
          have posted : trial.perform (.notify notice) =
              (.told false, { trial with mailbox := trial.mailbox.post notice }) := by
            simp only [Trial.perform, Trial.notify, listener_eq]
            rfl
          rw [posted]
          refine ⟨listener_eq, nofun, ?_⟩
          simpa [Outcome.read?, Act.notice?, Act.ends] using holds.post notice
  | dropListener =>
      refine ⟨by simp [Trial.perform, Trial.dropListener, Act.dropsListener],
        by simp [Act.ends], ?_⟩
      simpa [Trial.perform, Trial.dropListener, Outcome.read?, Act.notice?, Act.ends]
        using holds.dropWriter
  | poll =>
      have found : trial.perform .poll =
          (.polled (.ofNext trial.mailbox.take?.1 finished),
            { trial with mailbox := trial.mailbox.take?.2 }) := by
        simp only [Trial.perform, reader, holds.poll, holds.take?.1, if_true]
      rw [found]
      refine ⟨by simpa [Act.dropsListener] using listener_eq,
        by simpa [Act.dropsListener, Act.ends] using finished_of_dropped, ?_⟩
      simpa [Act.ends, Act.notice?, Outcome.read?, Poll.read?_ofNext] using holds.take?.2
  | take =>
      have taken : trial.perform .take =
          (.taken trial.mailbox.take?.1, { trial with mailbox := trial.mailbox.take?.2 }) := by
        simp only [Trial.perform, reader, if_true]
      rw [taken]
      refine ⟨by simpa [Act.dropsListener] using listener_eq,
        by simpa [Act.dropsListener, Act.ends] using finished_of_dropped, ?_⟩
      simpa [Act.ends, Act.notice?, Outcome.read?] using holds.take?.2
  | dropReader => cases keeps

/-- As long as no act drops the reader, there is one. -/
theorem reads_after {acts : List Act} (reading : ∀ act ∈ acts, act.dropsReader = false) :
    Reads (acts.any Act.dropsListener) (Act.posted acts) (read acts) (acts.any Act.ends)
      (after acts (start .mailbox)) := by
  induction acts using List.reverseRecOn with
  | nil => exact ⟨rfl, nofun, .empty⟩
  | append_singleton acts last ih =>
      have before := ih fun act member => reading act (List.mem_append_left _ member)
      have next := before.perform (reading last List.mem_concat_self)
      rw [List.any_append, List.any_append, Act.posted_concat, read_concat, after_append]
      simp only [List.any_cons, List.any_nil, Bool.or_false]
      exact next

/-- What was received stays received. -/
theorem read_append (acts more : List Act) : read acts <+: read (acts ++ more) := by
  rw [read, read, run_append, List.filterMap_append]
  exact List.prefix_append _ _

theorem run_poll {acts : List Act} (reading : ∀ act ∈ acts, act.dropsReader = false) :
    run (acts ++ [.poll]) (start .mailbox) = run acts (start .mailbox) ++
      [.polled (.ofNext (Act.posted acts)[(read acts).length]? (acts.any Act.ends))] := by
  have holds := (reads_after reading).holds
  simp only [run_concat, perform, holds.reader, holds.poll, if_true]

theorem run_take {acts : List Act} (reading : ∀ act ∈ acts, act.dropsReader = false) :
    run (acts ++ [.take]) (start .mailbox) = run acts (start .mailbox) ++
      [.taken (Act.posted acts)[(read acts).length]?] := by
  have holds := (reads_after reading).holds
  simp only [run_concat, perform, holds.reader, holds.take?.1, if_true]

/-- An end that was found is found again. -/
theorem ofNext_append {acts : List Act}
    (ended : Poll.ofNext (Act.posted acts)[(read acts).length]? (acts.any Act.ends) = .ended)
    (more : List Act) :
    Poll.ofNext (Act.posted (acts ++ more))[(read (acts ++ more)).length]?
      ((acts ++ more).any Act.ends) = .ended := by
  obtain ⟨none, finished⟩ := Poll.ofNext_eq_ended_iff.mp ended
  rw [List.getElem?_eq_none_iff] at none
  refine Poll.ofNext_eq_ended_iff.mpr ⟨?_, ?_⟩
  · rw [Act.posted_append_of_ends finished, List.getElem?_eq_none_iff]
    exact Nat.le_trans none (read_append acts more).length_le
  · rw [List.any_append, finished, Bool.true_or]

/-! ### Without a reader -/

/-- A mailbox without a reader stays one, and it does not matter which one it is. -/
theorem perform_of_abandoned (listener : Option Listener) {mailbox other : Mailbox}
    (abandoned : mailbox.Abandoned) (alsoAbandoned : other.Abandoned) (act : Act) :
    (perform ⟨listener, mailbox⟩ act).2.mailbox.Abandoned ∧
      (perform ⟨listener, other⟩ act).1 = (perform ⟨listener, mailbox⟩ act).1 ∧
      (perform ⟨listener, other⟩ act).2.listener =
        (perform ⟨listener, mailbox⟩ act).2.listener := by
  have reader := abandoned.reader
  have otherReader := alsoAbandoned.reader
  cases act with
  | notify notice =>
      cases listener with
      | none => exact ⟨abandoned, rfl, rfl⟩
      | some listener =>
          refine ⟨?_, rfl, rfl⟩
          simp only [Trial.perform, Trial.notify]
          split
          · exact abandoned.post notice
          · exact abandoned
  | dropListener => exact ⟨⟨reader, abandoned.waiting⟩, rfl, rfl⟩
  | poll => simpa [Trial.perform, reader, otherReader] using abandoned
  | take => simpa [Trial.perform, reader, otherReader] using abandoned
  | dropReader =>
      refine ⟨⟨rfl, rfl⟩, ?_, rfl⟩
      simp only [Trial.perform, reader, otherReader]

theorem abandoned_after {trial : Trial} (abandoned : trial.mailbox.Abandoned) (acts : List Act) :
    (after acts trial).mailbox.Abandoned := by
  induction acts generalizing trial with
  | nil => exact abandoned
  | cons act acts ih => exact ih (perform_of_abandoned trial.listener abandoned abandoned act).1

/-- Once the reader is gone, the mailbox makes no difference to what acts show. -/
theorem run_of_abandoned (acts : List Act) {one other : Trial} (abandoned : one.mailbox.Abandoned)
    (alsoAbandoned : other.mailbox.Abandoned) (same : other.listener = one.listener) :
    run acts other = run acts one := by
  induction acts generalizing one other with
  | nil => rfl
  | cons act acts ih =>
      obtain ⟨listener, mailbox⟩ := other
      obtain rfl : listener = one.listener := same
      obtain ⟨gone, outcome, listener⟩ :=
        perform_of_abandoned one.listener abandoned alsoAbandoned act
      have alsoGone := (perform_of_abandoned one.listener alsoAbandoned abandoned act).1
      simp only [run, outcome]
      exact congrArg _ (ih gone alsoGone listener)

/-- **What a reader receives.**  It receives a prefix of what is posted, and a look finds the next
notice whenever there is one; otherwise it finds the end exactly if nothing more will be posted, and
then every later look finds it too.  A reader that does not wait finds the same notices.  Once the
reader is gone, telling the listener something stores nothing, and no later act shows it. -/
theorem reading_of_run (acts : List Act) (reading : ∀ act ∈ acts, act.dropsReader = false) :
    let next := (Act.posted acts)[(read acts).length]?
    let finished := acts.any Act.ends
    read acts <+: Act.posted acts ∧
      run (acts ++ [.poll]) (start .mailbox) =
        run acts (start .mailbox) ++ [.polled (.ofNext next finished)] ∧
      run (acts ++ [.take]) (start .mailbox) = run acts (start .mailbox) ++ [.taken next] ∧
      (Poll.ofNext next finished = .ended → ∀ more : List Act,
        (∀ act ∈ more, act.dropsReader = false) →
          run (acts ++ more ++ [.poll]) (start .mailbox) =
            run (acts ++ more) (start .mailbox) ++ [.polled .ended]) ∧
      ∀ later notice rest,
        let trial := after (acts ++ .dropReader :: later) (start .mailbox)
        (trial.notify notice).2.mailbox.waiting = [] ∧
          run rest (trial.notify notice).2 = run rest trial := by
  intro next finished
  refine ⟨(reads_after reading).holds.read_initial, run_poll reading, run_take reading, ?_, ?_⟩
  · intro ended more others
    rw [run_poll (List.forall_mem_append.mpr ⟨reading, others⟩), ofNext_append ended more]
  · intro later notice rest trial
    have abandoned : trial.mailbox.Abandoned := by
      rw [show trial = _ from after_append acts (.dropReader :: later) _]
      exact abandoned_after ⟨rfl, rfl⟩ later
    have told := (perform_of_abandoned trial.listener abandoned abandoned (.notify notice)).1
    refine ⟨told.waiting, run_of_abandoned rest abandoned told ?_⟩
    unfold notify
    split <;> simp [*]

/-- A reader that comes late: the close was told and the listener dropped before it looks. -/
theorem reading_of_late_look :
    let record : CloseRecord := ⟨.normal, "", true, true⟩
    let acts : List Act := [.notify .opened, .take, .notify (.message "hello"),
      .notify (.closed record), .notify (.message "late"), .dropListener, .poll, .poll]
    (∀ act ∈ acts, act.dropsReader = false) ∧
      read acts <+: [.opened, .message "hello", .closed record] ∧
      run (acts ++ [.poll]) (start .mailbox) = run acts (start .mailbox) ++ [.polled .ended] ∧
      run (acts ++ [.take]) (start .mailbox) = run acts (start .mailbox) ++ [.taken none] := by
  intro record acts
  have reading : ∀ act ∈ acts, act.dropsReader = false := by simp [acts, Act.dropsReader]
  obtain ⟨received, look, taken, -⟩ := reading_of_run acts reading
  exact ⟨reading, received, look, taken⟩

end Listener.Trial

end WebSocketClient
