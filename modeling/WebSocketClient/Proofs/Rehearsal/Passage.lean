import WebSocketClient.Proofs.Rehearsal.Faithful

/-!
# What is recorded on the way

Between two moments of a rehearsal entries are added to its log, and every entry shows something: a
call shows the connection as it was when the call began, and a step inside a call may have been a
look.  This module follows what is shown from one moment to another (`Moment.Stretch`).  The states
that are shown never go down, no look shows a closing connection, a look shows a record exactly if
it shows a closed connection, that record is the one that is kept from then on, and a call of the
listener shows what its notice announces.
-/

namespace WebSocketClient

set_option autoImplicit false

open Relation (ReflTransGen)

/-! ## Looks in order -/

/-- A look at a connection between two signals: the connection is not closing, and it has a record
exactly if it is closed. -/
def Look.Sound (look : Look) : Prop :=
  look.state ≠ .closing ∧
    ∀ record, look.record? = some record → (look.state = .closed ↔ record.isSome)

theorem Look.Shows.sound {look : Look} {lifecycle : Lifecycle} (shows : look.Shows lifecycle)
    (settled : lifecycle.Settled) : look.Sound := by
  obtain ⟨state, record⟩ := shows
  refine ⟨?_, ?_⟩
  · rw [state]
    exact settled.state_ne_closing
  · intro shown same
    rw [state, record shown same]
    exact settled.state_eq_closed_iff

/-- Looks that begin at a state or later, end at a state or earlier, and never go down. -/
inductive Climbs : ReadyState → List Look → ReadyState → Prop where
  | nil {low high : ReadyState} (le : low.number ≤ high.number) : Climbs low [] high
  | cons {low high : ReadyState} {look : Look} {looks : List Look}
      (le : low.number ≤ look.state.number) (rest : Climbs look.state looks high) :
      Climbs low (look :: looks) high

namespace Climbs

variable {low middle high : ReadyState} {looks others : List Look}

theorem of_le (le : low.number ≤ middle.number) (climbs : Climbs middle looks high) :
    Climbs low looks high := by
  cases climbs with
  | nil next => exact .nil (Nat.le_trans le next)
  | cons next rest => exact .cons (Nat.le_trans le next) rest

theorem append (first : Climbs low looks middle) (second : Climbs middle others high) :
    Climbs low (looks ++ others) high := by
  induction first with
  | nil le => exact second.of_le le
  | cons le _ ih => exact .cons le (ih second)

theorem le_of_mem (climbs : Climbs low looks high) :
    ∀ look ∈ looks, low.number ≤ look.state.number := by
  induction climbs with
  | nil le => exact List.forall_mem_nil _
  | cons le _ ih =>
      intro look member
      rcases List.mem_cons.mp member with rfl | member
      · exact le
      · exact Nat.le_trans le (ih look member)

theorem le (climbs : Climbs low looks high) : low.number ≤ high.number := by
  induction climbs with
  | nil le => exact le
  | cons le _ ih => exact Nat.le_trans le ih

theorem pairwise (climbs : Climbs low looks high) :
    looks.Pairwise fun earlier later => earlier.state.number ≤ later.state.number := by
  induction climbs with
  | nil le => exact .nil
  | cons le rest ih => exact .cons rest.le_of_mem ih

end Climbs

/-! ## Passages -/

/-- What looks show while a connection passes from one lifecycle to another. -/
structure Passage (before : Lifecycle) (looks : List Look) (after : Lifecycle) : Prop where
  climbs : Climbs before.state looks after.state
  sound : ∀ look ∈ looks, look.Sound
  /-- A record that was kept before is still kept after. -/
  kept : ∀ record, before.record = some record → after.record = some record
  /-- A record that was shown is kept after. -/
  agrees : ∀ look ∈ looks, ∀ record, look.record? = some (some record) →
    after.record = some record

namespace Passage

variable {before middle after : Lifecycle} {looks others : List Look}

theorem refl (lifecycle : Lifecycle) : Passage lifecycle [] lifecycle :=
  ⟨.nil (Nat.le_refl _), List.forall_mem_nil _, fun _ => id, List.forall_mem_nil _⟩

/-- A signal is taken in. -/
theorem accept (lifecycle : Lifecycle) (signal : Signal) :
    Passage lifecycle [] (lifecycle.accept signal).1 :=
  ⟨.nil (Lifecycle.number_le_accept lifecycle signal), List.forall_mem_nil _,
    fun _ kept => Lifecycle.record_accept kept signal, List.forall_mem_nil _⟩

/-- Nothing happens while someone looks. -/
theorem look {look : Look} {lifecycle : Lifecycle} (shows : look.Shows lifecycle)
    (settled : lifecycle.Settled) : Passage lifecycle [look] lifecycle where
  climbs := .cons (Nat.le_of_eq (by rw [shows.1])) (.nil (Nat.le_of_eq (by rw [shows.1])))
  sound := by
    intro other member
    obtain rfl := List.mem_singleton.mp member
    exact shows.sound settled
  kept := fun _ => id
  agrees := by
    intro other member record shown
    obtain rfl := List.mem_singleton.mp member
    exact (shows.2 _ shown).symm

theorem trans (first : Passage before looks middle) (second : Passage middle others after) :
    Passage before (looks ++ others) after where
  climbs := first.climbs.append second.climbs
  sound := by
    intro look member
    rcases List.mem_append.mp member with member | member
    · exact first.sound look member
    · exact second.sound look member
  kept := fun record kept => second.kept record (first.kept record kept)
  agrees := by
    intro look member record shown
    rcases List.mem_append.mp member with member | member
    · exact second.kept record (first.agrees look member record shown)
    · exact second.agrees look member record shown

/-- Nothing happens while someone may look. -/
theorem look? {look? : Option Look} {lifecycle : Lifecycle}
    (shows : ∀ look, look? = some look → look.Shows lifecycle) (settled : lifecycle.Settled) :
    Passage lifecycle look?.toList lifecycle := by
  cases look? with
  | none => exact .refl lifecycle
  | some look => exact .look (shows look rfl) settled

end Passage

/-! ## Stretches -/

/-- A call of the listener shows what its notice announces. -/
def Entry.Truthful (entry : Entry) : Prop :=
  ∀ notice sight, entry = .call (.notice notice) sight →
    notice.Announces ⟨sight.state, sight.record⟩

/-- A step is no call of the listener. -/
theorem Entry.Truthful.step (during : CallKind) (step : Step) (outcome : Outcome) :
    (Entry.step during step outcome).Truthful := by
  intro notice sight same
  cases same

namespace Moment

/-- The entries that were added between two moments. -/
structure Stretch (before after : Moment) (entries : List Entry) : Prop where
  log_eq : after.now.log = before.now.log ++ entries
  truthful : ∀ entry ∈ entries, entry.Truthful
  passage : Passage before.now.lifecycle (entries.filterMap Entry.look?) after.now.lifecycle

namespace Stretch

variable {before middle after : Moment} {entries others : List Entry}

theorem refl (moment : Moment) : Stretch moment moment [] where
  log_eq := by rw [List.append_nil]
  truthful := List.forall_mem_nil _
  passage := .refl moment.now.lifecycle

theorem trans (first : Stretch before middle entries) (second : Stretch middle after others) :
    Stretch before after (entries ++ others) where
  log_eq := by rw [second.log_eq, first.log_eq, List.append_assoc]
  truthful := by
    intro entry member
    rcases List.mem_append.mp member with member | member
    · exact first.truthful entry member
    · exact second.truthful entry member
  passage := by
    rw [List.filterMap_append]
    exact first.passage.trans second.passage

/-- Nothing is recorded, and no signal is taken in. -/
theorem of_same (log_eq : after.now.log = before.now.log)
    (lifecycle_eq : after.now.lifecycle = before.now.lifecycle) : Stretch before after [] where
  log_eq := by rw [log_eq, List.append_nil]
  truthful := List.forall_mem_nil _
  passage := by
    rw [lifecycle_eq]
    exact .refl before.now.lifecycle

/-- One entry is recorded, and no signal is taken in. -/
theorem of_entry {entry : Entry} (settled : before.now.lifecycle.Settled)
    (log_eq : after.now.log = before.now.log ++ [entry])
    (lifecycle_eq : after.now.lifecycle = before.now.lifecycle) (truthful : entry.Truthful)
    (shows : ∀ look, entry.look? = some look → look.Shows before.now.lifecycle) :
    Stretch before after [entry] where
  log_eq := log_eq
  truthful := by
    intro other member
    obtain rfl := List.mem_singleton.mp member
    exact truthful
  passage := by
    have looks : [entry].filterMap Entry.look? = entry.look?.toList := by
      cases seen : entry.look? <;> simp [seen]
    rw [lifecycle_eq, looks]
    exact .look? shows settled

/-- A call is recorded together with what it shows. -/
theorem of_call (call : Call) (settled : before.now.lifecycle.Settled)
    (log_eq : after.now.log = before.now.log ++ [.call call before.now.sight])
    (lifecycle_eq : after.now.lifecycle = before.now.lifecycle)
    (announces : ∀ notice, call = .notice notice → notice.Announces before.now.lifecycle) :
    Stretch before after [.call call before.now.sight] := by
  refine of_entry settled log_eq lifecycle_eq ?_ ?_
  · intro notice sight same
    cases same
    exact announces notice rfl
  · intro look shown
    cases shown
    exact Look.whole_shows before.now.lifecycle

end Stretch

open Rehearsal

/-- A notice is told, of a connection that is as the notice announces. -/
theorem exists_stretch_tell (owed others : List Notice) {now : Rehearsal} {notice : Notice}
    (settled : now.lifecycle.Settled) (announces : notice.Announces now.lifecycle) :
    ∃ entries, Stretch ⟨owed, now⟩ ⟨others, now.tell notice⟩ entries := by
  by_cases posts : now.listener.posts
  · exact ⟨[], .of_same (by simp [Rehearsal.tell, posts]) (tell_lifecycle now notice)⟩
  · by_cases calls : now.listener.calls notice.kind
    · refine ⟨_, .of_call (.notice notice) settled ?_ (tell_lifecycle now notice) ?_⟩
      · simp [Rehearsal.tell, posts, calls, record]
      · intro other same
        cases same
        exact announces
    · exact ⟨[], .of_same (by simp [Rehearsal.tell, posts, calls]) (tell_lifecycle now notice)⟩

/-- A signal is taken in. -/
theorem stretch_hear {owed others : List Notice} {now : Rehearsal} (signal : Signal) :
    Stretch ⟨owed, now⟩ ⟨others, now.hear signal⟩ [] where
  log_eq := (List.append_nil now.log).symm
  truthful := List.forall_mem_nil _
  passage := .accept now.lifecycle signal

/-- What is recorded by one thing that happens. -/
theorem Faithful.exists_stretch_next {listener : Listener} {before after : Moment}
    (faithful : Faithful listener before) (next : Next before after) :
    ∃ entries, Stretch before after entries := by
  cases next with
  | dropped signal untold => exact ⟨[], stretch_hear signal⟩
  | @heard owed now signal first rest notices =>
      have announces := (faithful.settled.notices_of_accept notices).1
      have settled : (now.hear signal).lifecycle.Settled := by
        have kept := Lifecycle.settled_acceptAll (now.hear signal).reported
        rwa [faithful.acceptAll_hear signal] at kept
      obtain ⟨entries, told⟩ := exists_stretch_tell owed (rest ++ owed) settled announces
      exact ⟨[] ++ entries, (stretch_hear signal).trans told⟩
  | @told owed now notice =>
      refine exists_stretch_tell _ owed faithful.settled ?_
      rcases faithful.owed_cases with none | ⟨record, same, closed⟩
      · cases none
      · cases same
        exact closed
  | connect endpoint settings =>
      exact ⟨_, .of_call (.connect endpoint settings) faithful.settled rfl rfl nofun⟩
  | @passed owed now command verdict =>
      cases service : now.service with
      | present answer =>
          refine ⟨_, .of_call (.ofCommand command) faithful.settled ?_
            (pass_lifecycle now command) ?_⟩
          · simp only [Rehearsal.pass, service]
            rfl
          · intro notice same
            cases command <;> cases same
      | gone =>
          refine ⟨[], .of_same ?_ (pass_lifecycle now command)⟩
          simp only [Rehearsal.pass, service]
  | noted during step shown =>
      exact ⟨_, .of_entry faithful.settled rfl rfl (.step during step _) shown⟩
  | aside sink handle service reactions => exact ⟨[], .of_same rfl rfl⟩
  | read => exact ⟨[], .of_same rfl rfl⟩
  | readerDropped => exact ⟨[], .of_same rfl rfl⟩
  | writerDropped => exact ⟨[], .of_same rfl rfl⟩

/-- **What is recorded from one moment to another.** -/
theorem Faithful.exists_stretch {listener : Listener} {before after : Moment}
    (faithful : Faithful listener before) (reaches : Reaches before after) :
    Faithful listener after ∧ ∃ entries, Stretch before after entries := by
  induction reaches with
  | refl => exact ⟨faithful, [], .refl before⟩
  | tail _ next ih =>
      obtain ⟨middle, entries, stretch⟩ := ih
      obtain ⟨others, last⟩ := middle.exists_stretch_next next
      exact ⟨middle.next next, entries ++ others, stretch.trans last⟩

end Moment

end WebSocketClient
