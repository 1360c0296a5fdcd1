import Mathlib.Data.List.Forall2
import WebSocketClient.Utf8

/-!
# Texts come back from their bytes

A text that is written in UTF-8 and read again is the same text (`Utf8.decode_encode`).  The bytes
of a text are those of its characters, one after another (`Utf8.encode_eq`), and each of them is
read as itself whatever follows (`Utf8.exists_readChar`).

What is read behind a first byte are the bytes that lie between its bounds, and their lowest six
bits are added to the value (`Utf8.readTail_of_within`).  So for each length it remains to be seen
that the bytes of a character lie between the bounds and that their bits are those of its number.
The second byte has the narrowest bounds.  Characters that would need fewer bytes are beyond them,
and so are the numbers between the two halves of the characters.
-/

namespace WebSocketClient.Utf8

set_option autoImplicit false

/-! ## The bytes of a text -/

/-- A byte array is turned into a list from the byte on that comes next. -/
theorem loop_eq (before after seen : List UInt8) :
    ByteArray.toList.loop ⟨⟨before ++ after⟩⟩ before.length seen = seen.reverse ++ after := by
  have size_eq (bytes : List UInt8) : (ByteArray.mk ⟨bytes⟩).size = bytes.length := rfl
  induction after generalizing before seen with
  | nil =>
      rw [ByteArray.toList.loop, size_eq, List.append_nil, if_neg (Nat.lt_irrefl _),
        List.append_nil]
  | cons byte after ih =>
      have inside : before.length < (before ++ byte :: after).length := by simp
      have found : (ByteArray.mk ⟨before ++ byte :: after⟩).get! before.length = byte := by
        simp [ByteArray.get!]
      have next := ih (before ++ [byte]) (byte :: seen)
      rw [List.append_assoc, List.singleton_append, List.length_append, List.length_singleton,
        List.reverse_cons, List.append_assoc, List.singleton_append] at next
      rw [ByteArray.toList.loop, size_eq, if_pos inside, found, next]

theorem toList_eq (bytes : ByteArray) : bytes.toList = bytes.data.toList :=
  loop_eq [] bytes.data.toList []

/-- The bytes of a text are those of its characters. -/
theorem encode_eq (text : String) : encode text = text.toList.flatMap String.utf8EncodeChar := by
  rw [encode, toList_eq, String.toUTF8_eq_toByteArray, ← String.utf8Encode_toList,
    List.utf8Encode, List.toList_data_toByteArray]

theorem length_encode (text : String) : (encode text).length = text.utf8ByteSize := by
  rw [encode, toList_eq]
  rfl

/-! ## One character -/

/-- A byte that lies between bounds. -/
def Within (bound : Nat × Nat) (byte : UInt8) : Prop :=
  bound.1 ≤ byte.toNat ∧ byte.toNat ≤ bound.2

/-- Bytes that lie between the bounds are read, and their lowest six bits are added. -/
theorem readTail_of_within {bounds : List (Nat × Nat)} {bytes : List UInt8}
    (within : List.Forall₂ Within bounds bytes) (value count : Nat) (rest : List UInt8) :
    readTail value count bounds (bytes ++ rest) =
      .char (Char.ofNat (bytes.foldl (fun value byte => value * 64 + byte.toNat % 64) value))
        rest := by
  induction within generalizing value count with
  | nil => rfl
  | cons lies _ ih => exact (if_pos lies).trans (ih _ _)

/-- Bytes that are read as a number: a first byte, and bytes that lie between its bounds and have
the rest of the bits. -/
inductive Spells (number : Nat) : List UInt8 → Prop where
  | intro {lead : UInt8} {bounds : List (Nat × Nat)} {tail : List UInt8}
      (bounds_eq : tailBounds? lead.toNat = some bounds) (within : List.Forall₂ Within bounds tail)
      (bits : tail.foldl (fun value byte => value * 64 + byte.toNat % 64) (leadBits lead.toNat) =
        number) : Spells number (lead :: tail)

section

variable {number : Nat}

theorem toNat_byte (small : number < 256) : (UInt8.ofNat number).toNat = number :=
  UInt8.toNat_ofNat_of_lt' small

/-- A byte that carries six bits. -/
theorem toNat_carrier (number : Nat) :
    (UInt8.ofNat (number % 64 + 128)).toNat = number % 64 + 128 :=
  toNat_byte (by omega)

theorem within_carrier {low high : Nat} (above : low ≤ number % 64 + 128)
    (below : number % 64 + 128 ≤ high) :
    Within (low, high) (UInt8.ofNat (number % 64 + 128)) := by
  rw [Within, toNat_carrier]
  exact ⟨above, below⟩

theorem spells_one (small : number ≤ 0x7f) : Spells number [UInt8.ofNat number] := by
  have lead : (UInt8.ofNat number).toNat = number := toNat_byte (by omega)
  have bounds_eq : tailBounds? (UInt8.ofNat number).toNat = some [] := by
    rw [lead, tailBounds?, if_pos small]
  refine .intro bounds_eq .nil ?_
  rw [List.foldl_nil, lead, leadBits, if_pos small]

theorem spells_two (large : 0x7f < number) (small : number ≤ 0x7ff) :
    Spells number [UInt8.ofNat (number / 64 % 32 + 192), UInt8.ofNat (number % 64 + 128)] := by
  have lead : (UInt8.ofNat (number / 64 % 32 + 192)).toNat = number / 64 % 32 + 192 :=
    toNat_byte (by omega)
  have bounds_eq : tailBounds? (UInt8.ofNat (number / 64 % 32 + 192)).toNat =
      some [(0x80, 0xbf)] := by
    rw [lead, tailBounds?, if_neg (by omega), if_pos (by omega)]
  refine .intro bounds_eq (.cons (within_carrier (by omega) (by omega)) .nil) ?_
  rw [List.foldl_cons, List.foldl_nil, lead, toNat_carrier, leadBits, if_neg (by omega),
    if_pos (by omega)]
  omega

/-- The bounds behind the first byte of three.  Those of the second byte are narrower behind the
lowest first byte, and where there would be numbers that belong to no character. -/
theorem tailBounds?_three {lead : Nat} (large : 0xe0 ≤ lead) (small : lead ≤ 0xef) :
    tailBounds? lead = some [(if lead = 0xe0 then 0xa0 else 0x80,
      if lead = 0xed then 0x9f else 0xbf), (0x80, 0xbf)] := by
  rw [tailBounds?, if_neg (by omega), if_neg (by omega)]
  by_cases first : lead = 0xe0
  · rw [if_pos first, if_pos first, if_neg (by omega)]
  rw [if_neg first, if_neg first]
  by_cases gap : lead = 0xed
  · rw [if_pos gap, if_pos gap]
  · rw [if_neg gap, if_neg gap, if_pos (by omega)]

/-- The bounds behind the first byte of four.  Those of the second byte are narrower behind the
lowest and the highest first byte. -/
theorem tailBounds?_four {lead : Nat} (large : 0xf0 ≤ lead) (small : lead ≤ 0xf4) :
    tailBounds? lead = some [(if lead = 0xf0 then 0x90 else 0x80,
      if lead = 0xf4 then 0x8f else 0xbf), (0x80, 0xbf), (0x80, 0xbf)] := by
  rw [tailBounds?, if_neg (by omega), if_neg (by omega), if_neg (by omega), if_neg (by omega),
    if_neg (by omega)]
  by_cases first : lead = 0xf0
  · rw [if_pos first, if_pos first, if_neg (by omega)]
  rw [if_neg first, if_neg first]
  by_cases last : lead = 0xf4
  · rw [if_neg (by omega), if_pos last, if_pos last]
  · rw [if_pos (by omega), if_neg last]

theorem spells_three (large : 0x7ff < number) (small : number ≤ 0xffff)
    (valid : number < 0xd800 ∨ 0xdfff < number) :
    Spells number [UInt8.ofNat (number / 4096 % 16 + 224),
      UInt8.ofNat (number / 64 % 64 + 128), UInt8.ofNat (number % 64 + 128)] := by
  have lead : (UInt8.ofNat (number / 4096 % 16 + 224)).toNat = number / 4096 % 16 + 224 :=
    toNat_byte (by omega)
  have bounds_eq := tailBounds?_three (Nat.le_add_left 224 (number / 4096 % 16)) (by omega)
  rw [← lead] at bounds_eq
  refine .intro bounds_eq (.cons (within_carrier ?_ ?_)
    (.cons (within_carrier (by omega) (by omega)) .nil)) ?_
  · rw [lead]
    split <;> omega
  · rw [lead]
    split <;> omega
  · rw [List.foldl_cons, List.foldl_cons, List.foldl_nil, lead, toNat_carrier, toNat_carrier,
      leadBits, if_neg (by omega), if_neg (by omega), if_pos (by omega)]
    omega

theorem spells_four (large : 0xffff < number) (small : number < 0x110000) :
    Spells number [UInt8.ofNat (number / 262144 % 8 + 240),
      UInt8.ofNat (number / 4096 % 64 + 128), UInt8.ofNat (number / 64 % 64 + 128),
      UInt8.ofNat (number % 64 + 128)] := by
  have lead : (UInt8.ofNat (number / 262144 % 8 + 240)).toNat = number / 262144 % 8 + 240 :=
    toNat_byte (by omega)
  have bounds_eq := tailBounds?_four (Nat.le_add_left 240 (number / 262144 % 8)) (by omega)
  rw [← lead] at bounds_eq
  refine .intro bounds_eq (.cons (within_carrier ?_ ?_)
    (.cons (within_carrier (by omega) (by omega))
      (.cons (within_carrier (by omega) (by omega)) .nil))) ?_
  · rw [lead]
    split <;> omega
  · rw [lead]
    split <;> omega
  · rw [List.foldl_cons, List.foldl_cons, List.foldl_cons, List.foldl_nil, lead, toNat_carrier,
      toNat_carrier, toNat_carrier, leadBits, if_neg (by omega), if_neg (by omega),
      if_neg (by omega)]
    omega

end

/-- The bytes of a character are read as its number. -/
theorem spells_utf8EncodeChar (c : Char) : Spells c.toNat (String.utf8EncodeChar c) := by
  have valid : c.toNat < 0xd800 ∨ 0xdfff < c.toNat ∧ c.toNat < 0x110000 := c.valid
  have toNat_eq : c.val.toNat = c.toNat := rfl
  rw [String.utf8EncodeChar, toNat_eq]
  split
  · exact spells_one ‹_›
  split
  · exact spells_two (by omega) ‹_›
  split
  · exact spells_three (by omega) ‹_› (by omega)
  · exact spells_four (by omega) (by omega)

/-- **A character is read from its bytes**, whatever follows. -/
theorem exists_readChar (c : Char) : ∃ lead tail, String.utf8EncodeChar c = lead :: tail ∧
    ∀ rest, readChar lead (tail ++ rest) = .char c rest := by
  cases bytes_eq : String.utf8EncodeChar c with
  | nil => exact absurd bytes_eq String.utf8EncodeChar_ne_nil
  | cons lead tail =>
      have spells := spells_utf8EncodeChar c
      rw [bytes_eq] at spells
      obtain ⟨bounds_eq, within, bits⟩ := spells
      refine ⟨lead, tail, rfl, ?_⟩
      intro rest
      rw [readChar, bounds_eq]
      dsimp only
      rw [readTail_of_within within, bits, Char.ofNat_toNat]

/-! ## Whole texts -/

/-- Characters are read one after another. -/
theorem scanFrom_flatMap (chars seen : List Char) (index : Nat) :
    scanFrom seen index (chars.flatMap String.utf8EncodeChar) =
      ⟨seen.reverse ++ chars, [], none⟩ := by
  induction chars generalizing seen index with
  | nil =>
      rw [List.flatMap_nil, scanFrom, List.append_nil]
  | cons c chars ih =>
      obtain ⟨lead, tail, bytes_eq, read⟩ := exists_readChar c
      rw [List.flatMap_cons, bytes_eq, List.cons_append, scanFrom]
      split
      · rename_i found
        rw [read] at found
        cases found
        rw [ih, List.reverse_cons, List.append_assoc, List.singleton_append]
      · rename_i found
        rw [read] at found
        cases found
      · rename_i found
        rw [read] at found
        cases found

/-- All bytes behind a first byte lie beyond the first 128. -/
theorem le_of_tailBounds? {lead : Nat} {bounds : List (Nat × Nat)}
    (bounds_eq : tailBounds? lead = some bounds) : ∀ bound ∈ bounds, 0x80 ≤ bound.1 := by
  unfold tailBounds? at bounds_eq
  repeat' split at bounds_eq
  all_goals first
    | cases bounds_eq
      decide
    | cases bounds_eq

/-- A byte of the first 128 is not read as part of the character before it. -/
theorem mem_of_readTail {bounds : List (Nat × Nat)} (wide : ∀ bound ∈ bounds, 0x80 ≤ bound.1)
    {value count : Nat} {bytes rest : List UInt8} {c : Char}
    (read : readTail value count bounds bytes = .char c rest) {byte : UInt8}
    (basic : byte.toNat < 0x80) (member : byte ∈ bytes) : byte ∈ rest := by
  induction bounds generalizing value count bytes with
  | nil =>
      rw [readTail] at read
      cases read
      exact member
  | cons bound bounds ih =>
      cases bytes with
      | nil => cases member
      | cons first bytes =>
          rw [readTail] at read
          split at read
          · rename_i within
            refine ih (fun other inside => wide other (List.mem_cons_of_mem _ inside)) read ?_
            rcases List.mem_cons.mp member with rfl | member
            · have low := wide bound (List.mem_cons_self ..)
              omega
            · exact member
          · cases read

/-- A byte of the first 128 is read as itself. -/
theorem readChar_of_basic {lead : UInt8} (basic : lead.toNat < 0x80) (bytes : List UInt8) :
    readChar lead bytes = .char (Char.ofNat lead.toNat) bytes := by
  rw [readChar, tailBounds?, if_pos (by omega)]
  dsimp only
  rw [readTail, leadBits, if_pos (by omega)]

/-- Nothing of what was read gets lost, and a byte of the first 128 is read as itself. -/
theorem mem_of_scanFrom {byte : UInt8} (basic : byte.toNat < 0x80) (seen : List Char) (index : Nat)
    (bytes : List UInt8) (whole : (scanFrom seen index bytes).fault = none) :
    (∀ c ∈ seen, c ∈ (scanFrom seen index bytes).chars) ∧
      (byte ∈ bytes → Char.ofNat byte.toNat ∈ (scanFrom seen index bytes).chars) := by
  fun_induction scanFrom seen index bytes with
  | case1 seen index =>
      refine ⟨fun c member => List.mem_reverse.mpr member, ?_⟩
      intro member
      cases member
  | case2 seen index lead tail c rest read ih =>
      obtain ⟨kept, later⟩ := ih whole
      refine ⟨fun other member => kept other (List.mem_cons_of_mem _ member), ?_⟩
      intro member
      by_cases low : lead.toNat < 0x80
      · rw [readChar_of_basic low] at read
        cases read
        rcases List.mem_cons.mp member with rfl | member
        · exact kept _ (List.mem_cons_self ..)
        · exact later member
      · rcases List.mem_cons.mp member with rfl | member
        · exact absurd basic low
        · unfold readChar at read
          split at read
          · cases read
          · rename_i bounds bounds_eq
            exact later (mem_of_readTail (le_of_tailBounds? bounds_eq) read basic member)
  | case3 seen index lead tail length read => cases whole
  | case4 seen index lead tail read => cases whole

/-- **A byte of the first 128 is a character of its own**, wherever it stands. -/
theorem mem_of_decode {bytes : List UInt8} {text : String} (read : decode bytes = .ok text)
    {byte : UInt8} (basic : byte.toNat < 0x80) (member : byte ∈ bytes) :
    Char.ofNat byte.toNat ∈ text.toList := by
  simp only [decode, scan] at read
  split at read
  · rename_i whole
    cases read
    rw [String.toList_ofList]
    exact (mem_of_scanFrom basic [] 0 bytes whole).2 member
  · cases read

/-- **A text comes back from its bytes.** -/
theorem decode_encode (text : String) : decode (encode text) = .ok text := by
  rw [decode, scan, encode_eq, scanFrom_flatMap]
  dsimp only
  rw [List.reverse_nil, List.nil_append, String.ofList_toList]

end WebSocketClient.Utf8
