import Mathlib.Data.List.Induction
import WebSocketClient.Proofs.Wire
import WebSocketClient.Proofs.Wire.Parcels

/-!
# Frames of a stream

A stream of bytes begins with frames, one after another (`Begins`).  Which frames these are does not
depend on how many bytes have come so far (`Begins.append_right`), and two ways to cut a stream
agree as far as they go (`Begins.cases`).

A peer keeps to two limits.  No frame may be longer than the one, and no parcel longer than the
other, and both count from the first frame on (`Parcels.Along`, `Frame.Fits`).  A stream exceeds
them with the first frame that does not (`Exceeds`).

Reading takes frames off a stream that fit (`Intake.exists_of_next?`), finds a fault as soon as the
limits are exceeded (`Intake.exists_fault_of_exceeds`), and takes off every frame that is in order
(`Intake.exists_next?_of_inOrder`).
-/

namespace WebSocketClient.Wire

set_option autoImplicit false

/-! ## Headers of a longer stream -/

namespace Header

theorem take?_append_right {count : Nat} {bytes taken rest : List UInt8}
    (found : take? count bytes = some (taken, rest)) (more : List UInt8) :
    take? count (bytes ++ more) = some (taken, rest ++ more) := by
  unfold take? at found
  split at found
  · rename_i enough
    cases found
    rw [take?, if_pos (Nat.le_trans enough (by rw [List.length_append]; omega)),
      List.take_append_of_le_length enough, List.drop_append_of_le_length enough]
  · cases found

theorem readRest?_append_right {first second : Nat} {bytes rest : List UInt8} {header : Header}
    (found : readRest? first second bytes = some (header, rest)) (more : List UInt8) :
    readRest? first second (bytes ++ more) = some (header, rest ++ more) := by
  unfold readRest? at found ⊢
  split at found
  · cases found
  · rename_i digits tail taken
    rw [take?_append_right taken]
    dsimp only
    split at found
    · cases found
    · rename_i takenKey
      cases found
      rw [take?_append_right takenKey]

/-- A header is read as soon as it is there, whatever comes behind it. -/
theorem read?_append_right {bytes rest : List UInt8} {header : Header}
    (found : read? bytes = some (header, rest)) (more : List UInt8) :
    read? (bytes ++ more) = some (header, rest ++ more) := by
  match bytes with
  | [] => cases found
  | [_] => cases found
  | first :: second :: tail => exact readRest?_append_right found more

end Header

/-! ## Frames one after another -/

namespace Frame.Leads

variable {frame other : Frame} {bytes rest after : List UInt8}

theorem append_right (leads : frame.Leads bytes rest) (more : List UInt8) :
    frame.Leads (bytes ++ more) (rest ++ more) := by
  rw [Frame.Leads, ← List.append_assoc]
  exact Header.read?_append_right leads more

/-- Bytes lead with one frame at most. -/
theorem unique (leads : frame.Leads bytes rest) (others : other.Leads bytes after) :
    frame = other ∧ rest = after := by
  obtain ⟨header_eq, payload_eq⟩ := Prod.mk.inj (Option.some.inj (leads.symm.trans others))
  obtain ⟨fin, reserved, opcode, masked, payload⟩ := frame
  obtain ⟨otherFin, otherReserved, otherOpcode, otherMasked, otherPayload⟩ := other
  obtain ⟨rfl, rfl, number_eq, rfl, length_eq⟩ := Header.mk.inj header_eq
  have opcode_eq : some opcode = some otherOpcode := by
    rw [← Opcode.ofNumber?_number, ← Opcode.ofNumber?_number, number_eq]
  obtain ⟨rfl, rest_eq⟩ := List.append_inj payload_eq length_eq
  obtain rfl := Option.some.inj opcode_eq
  exact ⟨rfl, rest_eq⟩

end Frame.Leads

/-- Some bytes begin with the given frames, and the rest follows. -/
inductive Begins : List UInt8 → List Frame → List UInt8 → Prop where
  | nil (bytes : List UInt8) : Begins bytes [] bytes
  | cons {bytes middle rest : List UInt8} {frame : Frame} {frames : List Frame}
      (leads : frame.Leads bytes middle) (later : Begins middle frames rest) :
      Begins bytes (frame :: frames) rest

namespace Begins

variable {bytes rest after : List UInt8} {frames others : List Frame}

theorem append_right (begins : Begins bytes frames rest) (more : List UInt8) :
    Begins (bytes ++ more) frames (rest ++ more) := by
  induction begins with
  | nil bytes => exact .nil _
  | cons leads _ ih => exact .cons (leads.append_right more) ih

theorem trans (begins : Begins bytes frames rest) (later : Begins rest others after) :
    Begins bytes (frames ++ others) after := by
  induction begins with
  | nil bytes => exact later
  | cons leads _ ih => exact .cons leads (ih later)

theorem concat (begins : Begins bytes frames rest) {frame : Frame}
    (leads : frame.Leads rest after) : Begins bytes (frames ++ [frame]) after :=
  begins.trans (.cons leads (.nil after))

/-- Two ways to cut some bytes into frames agree as far as they go. -/
theorem cases (begins : Begins bytes frames rest) (also : Begins bytes others after) :
    (∃ more, others = frames ++ more ∧ Begins rest more after) ∨
      ∃ more, frames = others ++ more ∧ Begins after more rest := by
  induction begins generalizing others with
  | nil bytes => exact .inl ⟨others, rfl, also⟩
  | cons leads later ih =>
      cases also with
      | nil => exact .inr ⟨_, rfl, .cons leads later⟩
      | cons otherLeads otherLater =>
          obtain ⟨rfl, rfl⟩ := leads.unique otherLeads
          rcases ih otherLater with ⟨more, rfl, follows⟩ | ⟨more, rfl, follows⟩
          · exact .inl ⟨more, rfl, follows⟩
          · exact .inr ⟨more, rfl, follows⟩

end Begins

/-! ## Limits -/

/-- Every frame has a property that may depend on the frames of the message it would continue. -/
def Parcels.Along (holds : List Frame → Frame → Prop) : Parcels → List Frame → Prop
  | _, [] => True
  | parcels, frame :: frames => holds parcels.begun frame ∧ (parcels.add frame).Along holds frames

namespace Parcels

variable {holds : List Frame → Frame → Prop} {parcels : Parcels} {first second : List Frame}
  {frame : Frame}

theorem along_append : parcels.Along holds (first ++ second) ↔
    parcels.Along holds first ∧ (first.foldl add parcels).Along holds second := by
  induction first generalizing parcels with
  | nil => simp only [List.nil_append, List.foldl_nil, Along, true_and]
  | cons frame first ih => simp only [List.cons_append, List.foldl_cons, Along, ih, and_assoc]

theorem along_concat : parcels.Along holds (first ++ [frame]) ↔
    parcels.Along holds first ∧ holds (first.foldl add parcels).begun frame := by
  simp only [along_append, Along, and_true]

theorem Along.imp {other : List Frame → Frame → Prop}
    (implies : ∀ begun frame, holds begun frame → other begun frame)
    (along : parcels.Along holds first) : parcels.Along other first := by
  induction first generalizing parcels with
  | nil => trivial
  | cons frame first ih => exact ⟨implies _ _ along.1, ih along.2⟩

end Parcels

/-- A frame keeps to the limits: it is no longer than frames may be, and if it belongs to a message,
neither is what has come of the message. -/
structure Frame.Fits (limits : Limits) (begun : List Frame) (frame : Frame) : Prop where
  frame_le : frame.payload.length ≤ limits.frame
  message_le : frame.opcode.isControl = false →
    (content (begun ++ [frame])).length ≤ limits.message

/-- Some bytes go beyond the limits at once.  A header announces too long a frame, or a data frame
makes too long a message. -/
inductive Exceeds (limits : Limits) (begun : List Frame) (bytes : List UInt8) : Prop where
  | frame {header : Header} {tail : List UInt8} (read : Header.read? bytes = some (header, tail))
      (long : limits.frame < header.length) : Exceeds limits begun bytes
  | message {frame : Frame} {rest : List UInt8} (leads : frame.Leads bytes rest)
      (data : frame.opcode.isControl = false)
      (long : limits.message < (content (begun ++ [frame])).length) : Exceeds limits begun bytes

/-- A frame that keeps to the limits does not go beyond them. -/
theorem Frame.Fits.not_exceeds {limits : Limits} {begun : List Frame} {frame : Frame}
    (fits : frame.Fits limits begun) {bytes rest : List UInt8} (leads : frame.Leads bytes rest) :
    ¬ Exceeds limits begun bytes := by
  intro exceeds
  cases exceeds with
  | frame read long =>
      obtain ⟨header_eq, -⟩ := Prod.mk.inj (Option.some.inj (read.symm.trans leads))
      rw [header_eq] at long
      exact absurd fits.frame_le (Nat.not_le.mpr long)
  | message otherLeads data long =>
      obtain ⟨rfl, -⟩ := leads.unique otherLeads
      exact absurd (fits.message_le data) (Nat.not_le.mpr long)

/-- Frames that keep to the limits, and all their parcels, are as short as they must be. -/
theorem length_le_of_along {limits : Limits} {frames : List Frame}
    (along : ({} : Parcels).Along (Frame.Fits limits) frames) :
    (∀ frame ∈ frames, frame.payload.length ≤ limits.frame) ∧
      (∀ parcel ∈ (Parcels.ofFrames frames).complete, (content parcel).length ≤ limits.message) ∧
      (content (Parcels.ofFrames frames).begun).length ≤ limits.message := by
  induction frames using List.reverseRecOn with
  | nil => exact ⟨List.forall_mem_nil _, List.forall_mem_nil _, Nat.zero_le _⟩
  | append_singleton frames frame ih =>
      obtain ⟨before, fits⟩ := Parcels.along_concat.mp along
      obtain ⟨short, complete, begun⟩ := ih before
      refine ⟨List.forall_mem_append.mpr ⟨short, List.forall_mem_singleton.mpr fits.frame_le⟩, ?_⟩
      rw [Parcels.ofFrames_concat]
      cases control : frame.opcode.isControl with
      | true =>
          rw [Parcels.add_of_control _ control]
          exact ⟨complete, begun⟩
      | false =>
          have longer := fits.message_le control
          rw [Parcels.add_of_data _ control]
          cases frame.fin with
          | false => exact ⟨complete, longer⟩
          | true =>
              refine ⟨List.forall_mem_append.mpr ⟨complete, ?_⟩, Nat.zero_le _⟩
              exact List.forall_mem_singleton.mpr longer

/-- A frame is in order: it has no mark that frames of a server may not have, it is in its place,
and it keeps to the limits. -/
structure Frame.InOrder (limits : Limits) (begun : List Frame) (frame : Frame) : Prop where
  plain : frame.Plain
  frame_le : frame.payload.length ≤ limits.frame
  placed : Placed limits.message begun frame

theorem Frame.InOrder.fits {limits : Limits} {begun : List Frame} {frame : Frame}
    (inOrder : frame.InOrder limits begun) : frame.Fits limits begun := by
  refine ⟨inOrder.frame_le, ?_⟩
  intro data
  cases inOrder.placed with
  | control opcode fin short =>
      rcases opcode with opcode | opcode <;> rw [opcode] at data <;> cases data
  | data data ofKind within readable => exact within

/-! ## Reading -/

theorem Opcode.number_of_ofNumber? {number : Fin 16} {opcode : Opcode}
    (known : ofNumber? number = some opcode) : opcode.number = number := by
  unfold ofNumber? at known
  split at known <;> cases known <;> rfl

namespace Frame

variable {limit : Nat} {frame : Frame} {bytes rest : List UInt8}

theorem leads_of_read (reading : read limit bytes = .frame frame rest) :
    frame.Leads bytes rest := by
  unfold read at reading
  split at reading
  · cases reading
  rename_i header tail found
  unfold readPayload at reading
  split at reading
  · cases reading
  rename_i opcode known
  split at reading
  · cases reading
  split at reading
  · cases reading
  rename_i complete
  cases reading
  have header_eq : Frame.header ⟨header.fin, header.reserved, opcode, header.masked,
      tail.take header.length⟩ = header := by
    rw [Frame.header, Opcode.number_of_ofNumber? known, List.length_take,
      Nat.min_eq_left (Nat.le_of_not_lt complete)]
  rw [Leads, header_eq, List.take_append_drop]
  exact found

/-- A frame that is announced too long is not read, whatever else is wrong with it. -/
theorem exists_fault_of_long {header : Header} (found : Header.read? bytes = some (header, rest))
    (long : limit < header.length) : ∃ fault, read limit bytes = .fault fault := by
  rw [read, found]
  dsimp only
  unfold readPayload
  split
  · exact ⟨_, rfl⟩
  · rw [if_pos long]
    exact ⟨_, rfl⟩

end Frame

namespace Intake

variable {limits : Limits} {intake : Intake}

/-- **A frame that is read stands at the start of the bytes**, and it is taken in. -/
theorem exists_of_next? {message : Option Message} {rest : Intake}
    (read : intake.next? limits = some (.ok (message, rest))) :
    ∃ frame : Frame, frame.Leads intake.bytes rest.bytes ∧
      frame.payload.length ≤ limits.frame ∧
      takeFrame limits.message intake.fragments frame = .ok (message, rest.fragments) := by
  unfold next? at read
  split at read
  · cases read
  · cases read
  rename_i frame tail reading
  split at read
  · cases read
  rename_i taken
  cases read
  exact ⟨frame, Frame.leads_of_read reading, Frame.length_payload_le_of_read reading, taken⟩

/-- A frame within the limit is taken in, or it has a fault. -/
theorem next?_of_leads {frame : Frame} {rest : List UInt8} (leads : frame.Leads intake.bytes rest)
    (within : frame.payload.length ≤ limits.frame) :
    intake.next? limits = some ((takeFrame limits.message intake.fragments frame).map
      fun taken => (taken.1, ⟨rest, taken.2⟩)) := by
  unfold next?
  rw [Frame.read_of_leads leads within]
  dsimp only
  cases takeFrame limits.message intake.fragments frame <;> rfl

/-- A frame that is there is read or has a fault. -/
theorem next?_ne_none {frame : Frame} {rest : List UInt8} (leads : frame.Leads intake.bytes rest) :
    intake.next? limits ≠ none := by
  rcases Nat.lt_or_ge limits.frame frame.payload.length with long | within
  · obtain ⟨fault, reading⟩ := Frame.exists_fault_of_long leads long
    unfold next?
    rw [reading]
    exact Option.some_ne_none _
  · rw [next?_of_leads leads within]
    exact Option.some_ne_none _

/-- **Beyond the limits there is nothing to read but a fault.** -/
theorem exists_fault_of_exceeds {begun : List Frame} (holds : Holds intake.fragments begun)
    (exceeds : Exceeds limits begun intake.bytes) :
    ∃ fault, intake.next? limits = some (.error fault) := by
  have long {header : Header} {tail : List UInt8}
      (found : Header.read? intake.bytes = some (header, tail))
      (longer : limits.frame < header.length) :
      ∃ fault, intake.next? limits = some (.error fault) := by
    obtain ⟨fault, reading⟩ := Frame.exists_fault_of_long found longer
    unfold next?
    rw [reading]
    exact ⟨fault, rfl⟩
  cases exceeds with
  | frame found longer => exact long found longer
  | message leads data longer =>
      rename_i frame rest
      -- A frame that is too long itself is not even taken in.
      rcases Nat.lt_or_ge limits.frame frame.payload.length with tooLong | within
      · exact long leads tooLong
      · obtain ⟨fault, refused⟩ := exists_error_of_long holds data longer
        rw [next?_of_leads leads within, refused]
        exact ⟨fault, rfl⟩

/-- **A frame in order is read**, and it is not the last word of the peer. -/
theorem exists_next?_of_inOrder {begun : List Frame} (holds : Holds intake.fragments begun)
    {frame : Frame} {rest : List UInt8} (leads : frame.Leads intake.bytes rest)
    (inOrder : frame.InOrder limits begun) :
    ∃ message fragments, intake.next? limits = some (.ok (message, ⟨rest, fragments⟩)) ∧
      ∀ said ∈ message, said.isClose = false := by
  obtain ⟨⟨message, fragments⟩, taken⟩ := exists_takeFrame holds inOrder.plain inOrder.placed
  refine ⟨message, fragments, ?_, ?_⟩
  · rw [next?_of_leads leads inOrder.frame_le, taken]
    rfl
  · exact (taking_of_takeFrame holds taken).isClose_eq_false inOrder.placed

end Intake

end WebSocketClient.Wire
