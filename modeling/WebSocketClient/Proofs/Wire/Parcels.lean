import Mathlib.Data.List.Induction
import WebSocketClient.Proofs.Utf8.Portions
import WebSocketClient.Wire.Fragments

/-!
# The frames of a message

The data frames of one message make up its parcel.  The first of them names the kind of the message
and the others continue it; only the last one is final, and control frames may stand in between.
`Parcels.ofFrames` sorts frames into parcels, without looking at their payloads.

A reader keeps less than that: the text so far, or the bytes so far.  It is shown here that this is
enough (`Holds`).  When a frame is taken in, either it is a control frame, or it is added to a
parcel that stays within the limit; and the message that comes of a complete parcel says exactly
what its frames say, one after another (`Taking.holds`, `Taking.bears`).

In the other direction, a frame that is in its place is taken in (`exists_takeFrame`), and a data
frame that makes its parcel too long is not (`exists_error_of_long`).
-/

namespace WebSocketClient.Wire

set_option autoImplicit false

/-! ## Parcels -/

/-- Whether frames of a meaning stand between the frames of a message. -/
def Opcode.isControl : Opcode → Bool
  | continuation | text | binary => false
  | close | ping | pong => true

/-- The opcode of the first frame of a message. -/
def Kind.opcode : Kind → Opcode
  | .text => .text
  | .binary => .binary

/-- The bytes that some frames say, one after another. -/
def content (parcel : List Frame) : List UInt8 :=
  parcel.flatMap Frame.payload

theorem content_concat (parcel : List Frame) (frame : Frame) :
    content (parcel ++ [frame]) = content parcel ++ frame.payload := by
  rw [content, List.flatMap_append, List.flatMap_singleton]
  rfl

/-- The frames of a message of some kind, or the first ones of them. -/
inductive OfKind (kind : Kind) : List Frame → Prop where
  | intro {first : Frame} {others : List Frame} (names : first.opcode = kind.opcode)
      (continues : ∀ frame ∈ others, frame.opcode = .continuation) : OfKind kind (first :: others)

namespace OfKind

variable {kind : Kind} {parcel : List Frame} {frame : Frame}

theorem single (names : frame.opcode = kind.opcode) : OfKind kind [frame] :=
  .intro names (List.forall_mem_nil _)

theorem concat (ofKind : OfKind kind parcel) (continues : frame.opcode = .continuation) :
    OfKind kind (parcel ++ [frame]) := by
  cases ofKind with
  | intro names others =>
      refine .intro names (List.forall_mem_append.mpr ⟨others, ?_⟩)
      intro last member
      rw [List.mem_singleton.mp member]
      exact continues

end OfKind

/-- Frames sorted into parcels. -/
structure Parcels where
  /-- The parcels whose last frame has come, in order. -/
  complete : List (List Frame) := []
  /-- The frames of a message that is not complete. -/
  begun : List Frame := []

namespace Parcels

/-- Adds a frame.  A control frame belongs to no parcel, and a final data frame completes one. -/
def add (parcels : Parcels) (frame : Frame) : Parcels :=
  if frame.opcode.isControl then parcels
  else if frame.fin then ⟨parcels.complete ++ [parcels.begun ++ [frame]], []⟩
  else { parcels with begun := parcels.begun ++ [frame] }

/-- The parcels of some frames. -/
def ofFrames (frames : List Frame) : Parcels :=
  frames.foldl add {}

theorem ofFrames_concat (frames : List Frame) (frame : Frame) :
    ofFrames (frames ++ [frame]) = (ofFrames frames).add frame :=
  List.foldl_concat ..

/-- Every parcel is made of frames that were added, in their order. -/
theorem sublist_ofFrames (frames : List Frame) :
    (∀ parcel ∈ (ofFrames frames).complete, parcel.Sublist frames) ∧
      (ofFrames frames).begun.Sublist frames := by
  induction frames using List.reverseRecOn with
  | nil => exact ⟨List.forall_mem_nil _, .slnil⟩
  | append_singleton frames frame ih =>
      obtain ⟨complete, begun⟩ := ih
      have before : ∀ parcel ∈ (ofFrames frames).complete, parcel.Sublist (frames ++ [frame]) :=
        fun parcel member => (complete parcel member).trans (List.sublist_append_left _ _)
      have longer := begun.append (List.Sublist.refl [frame])
      rw [ofFrames_concat, add]
      split
      · exact ⟨before, begun.trans (List.sublist_append_left _ _)⟩
      · split
        · exact ⟨List.forall_mem_append.mpr ⟨before, List.forall_mem_singleton.mpr longer⟩,
            List.nil_sublist _⟩
        · exact ⟨before, longer⟩

/-- Whether the first frame of a parcel says that it carries a text. -/
def isText (parcel : List Frame) : Bool :=
  parcel.head?.any (·.opcode = .text)

/-- The complete parcels that carry a text, in order. -/
def texts (parcels : Parcels) : List (List Frame) :=
  parcels.complete.filter isText

end Parcels

/-- A parcel bears a text: its first frame says so, the others continue it, and together they say
the bytes of the text. -/
structure Bears (parcel : List Frame) (text : String) : Prop where
  ofKind : OfKind .text parcel
  content_eq : content parcel = Utf8.encode text

/-- Texts take as many bytes as their parcels. -/
theorem utf8ByteSize_le_of_bears {limit : Nat} {parcels : List (List Frame)} {texts : List String}
    (bears : List.Forall₂ Bears parcels texts)
    (short : ∀ parcel ∈ parcels, (content parcel).length ≤ limit) :
    ∀ text ∈ texts, text.utf8ByteSize ≤ limit := by
  induction bears with
  | nil => exact List.forall_mem_nil _
  | cons first others ih =>
      obtain ⟨within, later⟩ := List.forall_mem_cons.mp short
      rw [first.content_eq, Utf8.length_encode] at within
      exact List.forall_mem_cons.mpr ⟨within, ih later⟩

/-! ## What a reader keeps of a parcel -/

/-- The payload of a text. -/
def Message.text? : Message → Option String
  | text payload => some payload
  | binary _ | ping _ | pong _ | close _ => none

/-- The fragments of a message keep the bytes of its frames. -/
inductive Fragments.Keeps : Fragments → Kind → List UInt8 → Prop where
  | text {start : String} {pending bytes : List UInt8}
      (bytes_eq : Utf8.encode start ++ pending = bytes) : Keeps (.text start pending) .text bytes
  | binary (start : List UInt8) : Keeps (.binary start) .binary start

/-- What a reader keeps between two frames, and the parcel that is not complete. -/
inductive Holds : Option Fragments → List Frame → Prop where
  | nothing : Holds none []
  | fragments {fragments : Fragments} {kind : Kind} {parcel : List Frame}
      (ofKind : OfKind kind parcel) (keeps : fragments.Keeps kind (content parcel)) :
      Holds (some fragments) parcel

namespace Fragments.Keeps

variable {fragments extended : Fragments} {kind : Kind} {bytes payload : List UInt8} {limit : Nat}

theorem empty (kind : Kind) : (Fragments.empty kind).Keeps kind [] := by
  cases kind with
  | text =>
      refine .text ?_
      rw [List.append_nil, Utf8.encode_eq]
      rfl
  | binary => exact .binary []

theorem size_eq (keeps : fragments.Keeps kind bytes) : fragments.size = bytes.length := by
  cases keeps with
  | text bytes_eq => rw [size, ← bytes_eq, List.length_append, Utf8.length_encode]
  | binary start => rfl

/-- What is added is kept, and it is no more than the limit allows. -/
theorem extend (keeps : fragments.Keeps kind bytes)
    (grown : fragments.extend limit payload = .ok extended) :
    extended.Keeps kind (bytes ++ payload) ∧ (bytes ++ payload).length ≤ limit := by
  unfold Fragments.extend at grown
  rw [keeps.size_eq] at grown
  split at grown
  · cases grown
  rename_i allowed
  refine ⟨?_, by rw [List.length_append]; omega⟩
  cases keeps with
  | text bytes_eq =>
      rename_i start pending
      have all := Utf8.encode_scan (pending ++ payload)
      simp only [extendText] at grown
      split at grown
      · cases grown
      · cases grown
        refine .text ?_
        rw [Utf8.encode_append, List.append_assoc, all, ← bytes_eq, List.append_assoc]
  | binary start =>
      cases grown
      exact .binary _

/-- A complete message says what was kept. -/
theorem complete (keeps : fragments.Keeps kind bytes) {message : Message}
    (whole : fragments.complete = .ok message) :
    message.opcode = kind.opcode ∧ message.payload = bytes := by
  cases keeps with
  | text bytes_eq =>
      rename_i start pending
      cases pending with
      | nil =>
          cases whole
          exact ⟨rfl, (List.append_nil _).symm.trans bytes_eq⟩
      | cons byte pending => cases whole
  | binary start =>
      cases whole
      exact ⟨rfl, rfl⟩

end Fragments.Keeps

/-! ## Frames that are taken in -/

/-- What comes of a data frame whose parcel now has the given bytes: the message if the frame is
final, and otherwise the fragments of it. -/
inductive Added (kind : Kind) (bytes : List UInt8) : Bool → Taken → Prop where
  | whole {message : Message} (opcode_eq : message.opcode = kind.opcode)
      (payload_eq : message.payload = bytes) : Added kind bytes true (some message, none)
  | part {fragments : Fragments} (keeps : fragments.Keeps kind bytes) :
      Added kind bytes false (none, some fragments)

section

variable {limit : Nat} {fragments : Option Fragments} {frame : Frame} {taken : Taken}

theorem added_of_takeFragment {before : Fragments} {kind : Kind} {bytes : List UInt8}
    (keeps : before.Keeps kind bytes) (ok : takeFragment limit before frame = .ok taken) :
    Added kind (bytes ++ frame.payload) frame.fin taken ∧
      (bytes ++ frame.payload).length ≤ limit := by
  unfold takeFragment at ok
  cases grown : before.extend limit frame.payload with
  | error fault =>
      rw [grown] at ok
      cases ok
  | ok extended =>
      rw [grown] at ok
      obtain ⟨longer, within⟩ := keeps.extend grown
      refine ⟨?_, within⟩
      cases fin : frame.fin with
      | false =>
          simp only [bind, Except.bind, fin] at ok
          cases ok
          exact .part longer
      | true =>
          simp only [bind, Except.bind, fin, if_true] at ok
          cases whole : extended.complete with
          | error fault =>
              rw [whole] at ok
              cases ok
          | ok message =>
              rw [whole] at ok
              cases ok
              obtain ⟨opcode_eq, payload_eq⟩ := longer.complete whole
              exact .whole opcode_eq payload_eq

theorem opcode_of_ofPayload {kind : Kind} {payload : List UInt8} {message : Message}
    (ok : Message.ofPayload limit kind payload = .ok message) :
    message.opcode = kind.opcode ∧ message.payload = payload ∧ payload.length ≤ limit := by
  unfold Message.ofPayload at ok
  split at ok
  · cases ok
  rename_i allowed
  have within : payload.length ≤ limit := Nat.le_of_not_lt allowed
  cases kind with
  | text =>
      dsimp only at ok
      split at ok
      · rename_i decoded read
        cases ok
        exact ⟨rfl, Utf8.eq_of_decode read, within⟩
      · cases ok
  | binary =>
      cases ok
      exact ⟨rfl, rfl, within⟩

theorem added_of_takeFirst {kind : Kind} (ok : takeFirst limit kind fragments frame = .ok taken) :
    fragments = none ∧ Added kind frame.payload frame.fin taken ∧
      frame.payload.length ≤ limit := by
  unfold takeFirst at ok
  cases fragments with
  | some fragments => cases ok
  | none =>
      refine ⟨rfl, ?_⟩
      cases fin : frame.fin with
      | false =>
          simp only [fin] at ok
          obtain ⟨added, within⟩ := added_of_takeFragment (.empty kind) ok
          rw [fin] at added
          exact ⟨added, within⟩
      | true =>
          simp only [fin, if_true, bind, Except.bind] at ok
          cases whole : Message.ofPayload limit kind frame.payload with
          | error fault =>
              rw [whole] at ok
              cases ok
          | ok message =>
              rw [whole] at ok
              cases ok
              obtain ⟨opcode_eq, payload_eq, within⟩ := opcode_of_ofPayload whole
              exact ⟨.whole opcode_eq payload_eq, within⟩

/-- What happens to a frame that is taken in. -/
inductive Taking (limit : Nat) (begun : List Frame) (fragments : Option Fragments)
    (frame : Frame) : Taken → Prop where
  /-- It is a control frame, and nothing changes for the message that is not complete. -/
  | control {message : Message} (control : frame.opcode.isControl)
      (opcode_eq : message.opcode = frame.opcode) :
      Taking limit begun fragments frame (some message, fragments)
  /-- It is added to the parcel of a message. -/
  | data {kind : Kind} {taken : Taken} (data : frame.opcode.isControl = false)
      (ofKind : OfKind kind (begun ++ [frame]))
      (within : (content (begun ++ [frame])).length ≤ limit)
      (added : Added kind (content (begun ++ [frame])) frame.fin taken) :
      Taking limit begun fragments frame taken

theorem taking_of_takeControl {begun : List Frame} {message : Except Fault Message}
    (control : frame.opcode.isControl)
    (said : ∀ value, message = .ok value → value.opcode = frame.opcode)
    (ok : takeControl fragments frame message = .ok taken) :
    Taking limit begun fragments frame taken := by
  unfold takeControl Message.ofControl at ok
  split at ok
  · cases ok
  split at ok
  · cases ok
  cases message with
  | error fault => cases ok
  | ok message =>
      cases ok
      exact .control control (said message rfl)

theorem taking_of_takeFirst {begun : List Frame} {kind : Kind} (holds : Holds fragments begun)
    (names : frame.opcode = kind.opcode) (ok : takeFirst limit kind fragments frame = .ok taken) :
    Taking limit begun fragments frame taken := by
  obtain ⟨rfl, added, within⟩ := added_of_takeFirst ok
  cases holds with
  | nothing =>
      have alone : content ([] ++ [frame]) = frame.payload := content_concat [] frame
      rw [← alone] at added within
      refine .data ?_ (.single names) within added
      rw [names]
      cases kind <;> rfl

/-- **A frame that is taken in** is a control frame, or is added to a parcel within the limit. -/
theorem taking_of_takeFrame {begun : List Frame} (holds : Holds fragments begun)
    (ok : takeFrame limit fragments frame = .ok taken) :
    Taking limit begun fragments frame taken := by
  unfold takeFrame at ok
  split at ok
  · cases ok
  split at ok
  · cases ok
  cases opcode : frame.opcode with
  | continuation =>
      rw [opcode] at ok
      cases holds with
      | nothing => cases ok
      | fragments ofKind keeps =>
          obtain ⟨added, within⟩ := added_of_takeFragment keeps ok
          rw [← content_concat] at added within
          refine .data ?_ (ofKind.concat opcode) within added
          rw [opcode]
          rfl
  | text =>
      rw [opcode] at ok
      exact taking_of_takeFirst holds (show frame.opcode = Kind.text.opcode from opcode) ok
  | binary =>
      rw [opcode] at ok
      exact taking_of_takeFirst holds (show frame.opcode = Kind.binary.opcode from opcode) ok
  | ping =>
      rw [opcode] at ok
      refine taking_of_takeControl (by rw [opcode]; rfl) ?_ ok
      intro value said
      cases said
      exact opcode.symm
  | pong =>
      rw [opcode] at ok
      refine taking_of_takeControl (by rw [opcode]; rfl) ?_ ok
      intro value said
      cases said
      exact opcode.symm
  | close =>
      rw [opcode] at ok
      refine taking_of_takeControl (by rw [opcode]; rfl) ?_ ok
      intro value said
      cases read : CloseBody.decode frame.payload with
      | error fault =>
          rw [read] at said
          cases said
      | ok body =>
          rw [read] at said
          cases said
          exact opcode.symm

/-! ## What becomes of the parcels -/

theorem Parcels.add_of_control (parcels : Parcels) (control : frame.opcode.isControl) :
    parcels.add frame = parcels := by
  rw [add, if_pos control]

theorem Parcels.add_of_data (parcels : Parcels) (data : frame.opcode.isControl = false) :
    parcels.add frame =
      if frame.fin then ⟨parcels.complete ++ [parcels.begun ++ [frame]], []⟩
      else { parcels with begun := parcels.begun ++ [frame] } := by
  rw [add, data]
  rfl

theorem isText_of_ofKind {kind : Kind} {parcel : List Frame} (ofKind : OfKind kind parcel) :
    Parcels.isText parcel = decide (kind = .text) := by
  cases ofKind with
  | intro names continues =>
      rw [Parcels.isText, List.head?_cons, Option.any_some, names]
      cases kind <;> rfl

variable {parcels : Parcels}

/-- What a reader keeps is what it needs of the parcels. -/
theorem Taking.holds (taking : Taking limit parcels.begun fragments frame taken)
    (holds : Holds fragments parcels.begun) : Holds taken.2 (parcels.add frame).begun := by
  cases taking with
  | control control opcode_eq =>
      rw [parcels.add_of_control control]
      exact holds
  | data data ofKind within added =>
      rw [parcels.add_of_data data]
      cases fin : frame.fin with
      | false =>
          rw [fin] at added
          cases added with
          | part keeps => exact .fragments ofKind keeps
      | true =>
          rw [fin] at added
          cases added with
          | whole opcode_eq payload_eq => exact .nothing

/-- A complete parcel adds its text, if it carries one. -/
theorem bears_of_whole {complete : List (List Frame)} {begun : List Frame} {payloads : List String}
    (bears : List.Forall₂ Bears (complete.filter Parcels.isText) payloads) {kind : Kind}
    {parcel : List Frame} (ofKind : OfKind kind parcel) {message : Message}
    (opcode_eq : message.opcode = kind.opcode) (payload_eq : message.payload = content parcel) :
    List.Forall₂ Bears (Parcels.texts ⟨complete ++ [parcel], begun⟩)
      (payloads ++ ((some message).bind Message.text?).toList) := by
  rw [Parcels.texts, List.filter_append]
  refine List.rel_append bears ?_
  cases kind with
  | text =>
      rw [List.filter_singleton, isText_of_ofKind ofKind]
      cases message with
      | text payload => exact .cons ⟨ofKind, payload_eq.symm⟩ .nil
      | _ => cases opcode_eq
  | binary =>
      rw [List.filter_singleton, isText_of_ofKind ofKind]
      cases message with
      | binary payload => exact .nil
      | _ => cases opcode_eq

/-- **The texts that come of frames are those of the parcels**, in their order. -/
theorem Taking.bears (taking : Taking limit parcels.begun fragments frame taken)
    {payloads : List String} (bears : List.Forall₂ Bears parcels.texts payloads) :
    List.Forall₂ Bears (parcels.add frame).texts
      (payloads ++ (taken.1.bind Message.text?).toList) := by
  cases taking with
  | control control opcode_eq =>
      rename_i message
      have quiet : message.text? = none := by
        rw [← opcode_eq] at control
        cases message with
        | text payload => cases control
        | _ => rfl
      rw [parcels.add_of_control control, Option.bind_some, quiet, Option.toList_none,
        List.append_nil]
      exact bears
  | data data ofKind within added =>
      rw [parcels.add_of_data data]
      cases fin : frame.fin with
      | false =>
          rw [fin] at added
          cases added with
          | part keeps =>
              rw [Option.bind_none, Option.toList_none, List.append_nil]
              exact bears
      | true =>
          rw [fin] at added
          cases added with
          | whole opcode_eq payload_eq =>
              exact bears_of_whole bears ofKind opcode_eq payload_eq

/-- A data frame that is taken in leaves its parcel within the limit. -/
theorem Taking.length_le {begun : List Frame}
    (taking : Taking limit begun fragments frame taken) (data : frame.opcode.isControl = false) :
    (content (begun ++ [frame])).length ≤ limit := by
  cases taking with
  | control control opcode_eq =>
      rw [data] at control
      cases control
  | data data ofKind within added => exact within

/-- **A data frame that makes its parcel too long is not taken in.** -/
theorem exists_error_of_long {begun : List Frame} (holds : Holds fragments begun)
    (data : frame.opcode.isControl = false) (long : limit < (content (begun ++ [frame])).length) :
    ∃ fault, takeFrame limit fragments frame = .error fault := by
  cases taken : takeFrame limit fragments frame with
  | error fault => exact ⟨fault, rfl⟩
  | ok taken =>
      have within := (taking_of_takeFrame holds ‹_›).length_le data
      omega

/-! ## Frames in their place -/

/-- What is said so far of a message of some kind can be read: a text is one so far, and it is
complete with the last frame. -/
def Readable (kind : Kind) (fin : Bool) (bytes : List UInt8) : Prop :=
  kind = .text → ∃ (text : String) (later : List UInt8),
    bytes ++ later = Utf8.encode text ∧ (fin → later = [])

/-- A frame is in its place behind the frames of a message that is not complete.  It is a ping or a
pong of the form that control frames have, or it begins or continues a message within the limit that
can be read so far. -/
inductive Placed (limit : Nat) (begun : List Frame) (frame : Frame) : Prop where
  | control (opcode : frame.opcode = .ping ∨ frame.opcode = .pong) (fin : frame.fin)
      (short : frame.payload.length ≤ Message.maxControl)
  | data {kind : Kind} (data : frame.opcode.isControl = false)
      (ofKind : OfKind kind (begun ++ [frame]))
      (within : (content (begun ++ [frame])).length ≤ limit)
      (readable : Readable kind frame.fin (content (begun ++ [frame])))

/-- A frame without the marks that no frame of a server may have. -/
structure Frame.Plain (frame : Frame) : Prop where
  reserved_eq : frame.reserved = noBits
  masked_eq : frame.masked = false

theorem OfKind.cases_concat {kind : Kind} {begun : List Frame}
    (ofKind : OfKind kind (begun ++ [frame])) :
    begun = [] ∧ frame.opcode = kind.opcode ∨
      OfKind kind begun ∧ frame.opcode = .continuation := by
  cases begun with
  | nil =>
      cases ofKind with
      | intro names continues => exact .inl ⟨rfl, names⟩
  | cons first others =>
      cases ofKind with
      | intro names continues =>
          obtain ⟨before, last⟩ := List.forall_mem_append.mp continues
          exact .inr ⟨.intro names before, last frame (List.mem_singleton_self _)⟩

/-- Frames have one kind at most. -/
theorem OfKind.unique {kind other : Kind} {parcel : List Frame} (ofKind : OfKind kind parcel)
    (ofOther : OfKind other parcel) : kind = other := by
  have same := (isText_of_ofKind ofKind).symm.trans (isText_of_ofKind ofOther)
  cases kind <;> cases other <;> first | rfl | cases same

theorem exists_extendText {start text : String} {pending payload later : List UInt8}
    (begins : Utf8.encode start ++ pending ++ payload ++ later = Utf8.encode text) :
    ∃ chars, Fragments.extendText start pending payload =
      .ok (.text (start ++ String.ofList chars) (Utf8.scan (pending ++ payload)).rest) := by
  have apart : Utf8.encode start ++ ((pending ++ payload) ++ later) = Utf8.encode text := by
    rw [← begins, List.append_assoc, List.append_assoc, List.append_assoc]
  have mendable := Utf8.not_isFinal_of_encode apart
  simp only [Fragments.extendText]
  split
  · rename_i index length found
    exact absurd rfl (mendable _ found)
  · exact ⟨_, rfl⟩

/-- A fragment within the limit is added, and the last one completes the message. -/
theorem exists_extend {before : Fragments} {kind : Kind} {bytes payload : List UInt8} {fin : Bool}
    (keeps : before.Keeps kind bytes) (within : (bytes ++ payload).length ≤ limit)
    (readable : Readable kind fin (bytes ++ payload)) :
    ∃ extended, before.extend limit payload = .ok extended ∧
      (fin → ∃ message, extended.complete = .ok message) := by
  have allowed : ¬ limit < before.size + payload.length := by
    rw [keeps.size_eq, ← List.length_append]
    exact Nat.not_lt.mpr within
  unfold Fragments.extend
  rw [if_neg allowed]
  cases keeps with
  | text bytes_eq =>
      obtain ⟨text, later, begins, ends⟩ := readable rfl
      subst bytes_eq
      obtain ⟨chars, extended⟩ := exists_extendText begins
      refine ⟨_, extended, ?_⟩
      intro last
      rw [ends last, List.append_nil, List.append_assoc] at begins
      rw [Utf8.rest_scan_of_encode begins]
      exact ⟨_, rfl⟩
  | binary start => exact ⟨_, rfl, fun _ => ⟨_, rfl⟩⟩

theorem exists_takeFragment {before : Fragments} {kind : Kind} {bytes : List UInt8}
    (keeps : before.Keeps kind bytes) (within : (bytes ++ frame.payload).length ≤ limit)
    (readable : Readable kind frame.fin (bytes ++ frame.payload)) :
    ∃ taken, takeFragment limit before frame = .ok taken := by
  obtain ⟨extended, grown, whole⟩ := exists_extend keeps within readable
  unfold takeFragment
  rw [grown]
  cases fin : frame.fin with
  | false => exact ⟨_, rfl⟩
  | true =>
      obtain ⟨message, complete⟩ := whole fin
      simp only [bind, Except.bind, if_true, complete]
      exact ⟨_, rfl⟩

theorem exists_takeFirst {kind : Kind} (within : frame.payload.length ≤ limit)
    (readable : Readable kind frame.fin frame.payload) :
    ∃ taken, takeFirst limit kind none frame = .ok taken := by
  unfold takeFirst
  cases fin : frame.fin with
  | false => exact exists_takeFragment (.empty kind) within readable
  | true =>
      have whole : ∃ message, Message.ofPayload limit kind frame.payload = .ok message := by
        unfold Message.ofPayload
        rw [if_neg (Nat.not_lt.mpr within)]
        cases kind with
        | text =>
            obtain ⟨text, later, begins, ends⟩ := readable rfl
            rw [ends fin, List.append_nil] at begins
            rw [begins, Utf8.decode_encode]
            exact ⟨_, rfl⟩
        | binary => exact ⟨_, rfl⟩
      obtain ⟨message, complete⟩ := whole
      simp only [if_true, bind, Except.bind, complete]
      exact ⟨_, rfl⟩

/-- **A frame in its place is taken in.** -/
theorem exists_takeFrame {begun : List Frame} (holds : Holds fragments begun) (plain : frame.Plain)
    (placed : Placed limit begun frame) :
    ∃ taken, takeFrame limit fragments frame = .ok taken := by
  unfold takeFrame
  rw [if_neg (not_not_intro plain.reserved_eq), plain.masked_eq, if_neg Bool.false_ne_true]
  cases placed with
  | control opcode fin short =>
      have control (message : Message) :
          ∃ taken, takeControl fragments frame (.ok message) = .ok taken := by
        unfold takeControl Message.ofControl
        rw [fin, if_neg (by exact Bool.false_ne_true), if_neg (Nat.not_lt.mpr short)]
        exact ⟨_, rfl⟩
      rcases opcode with opcode | opcode
      · rw [opcode]
        exact control _
      · rw [opcode]
        exact control _
  | data data ofKind within readable =>
      rw [content_concat] at within readable
      rcases ofKind.cases_concat with ⟨rfl, names⟩ | ⟨before, continues⟩
      · cases holds with
        | nothing =>
            rw [names]
            rename_i kind
            cases kind <;> exact exists_takeFirst within readable
        | fragments other keeps => cases other
      · rw [continues]
        cases holds with
        | nothing => cases before
        | fragments other keeps =>
            rw [other.unique before] at keeps
            exact exists_takeFragment keeps within readable

theorem Message.isClose_eq_false {message : Message} (other : message.opcode ≠ .close) :
    message.isClose = false := by
  cases message with
  | close body => exact absurd rfl other
  | _ => rfl

/-- A frame in its place is not the last word of a peer. -/
theorem Taking.isClose_eq_false {begun : List Frame}
    (taking : Taking limit begun fragments frame taken) (placed : Placed limit begun frame) :
    ∀ message ∈ taken.1, message.isClose = false := by
  cases taking with
  | control control opcode_eq =>
      intro message said
      cases said
      refine Message.isClose_eq_false ?_
      rw [opcode_eq]
      cases placed with
      | control opcode fin short =>
          rcases opcode with opcode | opcode <;> rw [opcode] <;> exact Opcode.noConfusion
      | data data ofKind within readable =>
          rw [data] at control
          cases control
  | data data ofKind within added =>
      rename_i kind
      intro message said
      generalize frame.fin = fin at added
      cases added with
      | part keeps => cases said
      | whole opcode_eq payload_eq =>
          cases said
          refine Message.isClose_eq_false ?_
          rw [opcode_eq]
          cases kind <;> exact Opcode.noConfusion

end

end WebSocketClient.Wire
