import WebSocketClient.Proofs.Utf8

/-!
# Texts that come in portions

A text may be cut anywhere, also within a character.  Whatever bytes are read, nothing of them is
lost: the characters that were found and the bytes that are left make up all of them
(`Utf8.encode_scan`).  A character is therefore found only where exactly its bytes stand
(`Utf8.eq_of_readChar`).

The bytes of a text can be read in portions.  After a portion the characters so far begin the text,
and no portion shows a sequence that no further byte could mend (`Utf8.not_isFinal_of_encode`).
-/

namespace WebSocketClient.Utf8

set_option autoImplicit false

/-! ## The bytes that were read as a character -/

/-- What is read behind a first byte are bytes that lie between its bounds. -/
theorem exists_of_readTail {bounds : List (Nat × Nat)} {value count : Nat}
    {bytes rest : List UInt8} {c : Char} (read : readTail value count bounds bytes = .char c rest) :
    ∃ tail, bytes = tail ++ rest ∧ List.Forall₂ Within bounds tail ∧
      c = Char.ofNat (tail.foldl (fun value byte => value * 64 + byte.toNat % 64) value) := by
  induction bounds generalizing value count bytes with
  | nil =>
      rw [readTail] at read
      cases read
      exact ⟨[], rfl, .nil, rfl⟩
  | cons bound bounds ih =>
      cases bytes with
      | nil => cases read
      | cons byte bytes =>
          rw [readTail] at read
          split at read
          · rename_i within
            obtain ⟨tail, rfl, later, value_eq⟩ := ih read
            exact ⟨byte :: tail, rfl, .cons within later, value_eq⟩
          · cases read

/-- The four kinds of first bytes, and the bounds behind them. -/
theorem cases_of_tailBounds? {lead : Nat} {bounds : List (Nat × Nat)}
    (bounds_eq : tailBounds? lead = some bounds) :
    (lead ≤ 0x7f ∧ bounds = []) ∨
      (0xc2 ≤ lead ∧ lead ≤ 0xdf ∧ bounds = [(0x80, 0xbf)]) ∨
      (0xe0 ≤ lead ∧ lead ≤ 0xef ∧ bounds = [(if lead = 0xe0 then 0xa0 else 0x80,
        if lead = 0xed then 0x9f else 0xbf), (0x80, 0xbf)]) ∨
      (0xf0 ≤ lead ∧ lead ≤ 0xf4 ∧ bounds = [(if lead = 0xf0 then 0x90 else 0x80,
        if lead = 0xf4 then 0x8f else 0xbf), (0x80, 0xbf), (0x80, 0xbf)]) := by
  by_cases three : 0xe0 ≤ lead ∧ lead ≤ 0xef
  · rw [tailBounds?_three three.1 three.2] at bounds_eq
    exact .inr (.inr (.inl ⟨three.1, three.2, (Option.some.inj bounds_eq).symm⟩))
  by_cases four : 0xf0 ≤ lead ∧ lead ≤ 0xf4
  · rw [tailBounds?_four four.1 four.2] at bounds_eq
    exact .inr (.inr (.inr ⟨four.1, four.2, (Option.some.inj bounds_eq).symm⟩))
  unfold tailBounds? at bounds_eq
  split at bounds_eq
  · rename_i one
    exact .inl ⟨one, (Option.some.inj bounds_eq).symm⟩
  split at bounds_eq
  · rename_i two
    exact .inr (.inl ⟨two.1, two.2, (Option.some.inj bounds_eq).symm⟩)
  rw [if_neg (by omega), if_neg (by omega), if_neg (by omega), if_neg (by omega),
    if_neg (by omega), if_neg (by omega)] at bounds_eq
  cases bounds_eq

section

variable {lead second third fourth : UInt8} {low high : Nat}

/-- The number of a character that a valid number stands for. -/
theorem toNat_ofNat {number : Nat} (valid : number.isValidChar) :
    (Char.ofNat number).val.toNat = number := by
  rw [Char.ofNat, dif_pos valid]
  rfl

/-- A byte is known by its number. -/
theorem ofNat_eq (byte : UInt8) {number : Nat} (same : number = byte.toNat) :
    UInt8.ofNat number = byte := by
  rw [same, UInt8.ofNat_toNat]

theorem encode_one (small : lead.toNat ≤ 0x7f) :
    String.utf8EncodeChar (Char.ofNat lead.toNat) = [lead] := by
  rw [String.utf8EncodeChar, toNat_ofNat (.inl (by omega)), if_pos small, UInt8.ofNat_toNat]

theorem encode_two (large : 0xc2 ≤ lead.toNat) (small : lead.toNat ≤ 0xdf)
    (within : Within (0x80, 0xbf) second) :
    String.utf8EncodeChar (Char.ofNat (lead.toNat % 32 * 64 + second.toNat % 64)) =
      [lead, second] := by
  obtain ⟨above, below⟩ : 0x80 ≤ second.toNat ∧ second.toNat ≤ 0xbf := within
  rw [String.utf8EncodeChar, toNat_ofNat (.inl (by omega))]
  rw [if_neg (by omega), if_pos (by omega), ofNat_eq lead (by omega),
    ofNat_eq second (by omega)]

theorem encode_three (large : 0xe0 ≤ lead.toNat) (small : lead.toNat ≤ 0xef)
    (within : Within (if lead.toNat = 0xe0 then 0xa0 else 0x80,
      if lead.toNat = 0xed then 0x9f else 0xbf) second)
    (next : Within (0x80, 0xbf) third) :
    String.utf8EncodeChar (Char.ofNat
        ((lead.toNat % 16 * 64 + second.toNat % 64) * 64 + third.toNat % 64)) =
      [lead, second, third] := by
  obtain ⟨above, below⟩ : 0x80 ≤ third.toNat ∧ third.toNat ≤ 0xbf := next
  obtain ⟨low, high⟩ : (if lead.toNat = 0xe0 then 0xa0 else 0x80) ≤ second.toNat ∧
      second.toNat ≤ (if lead.toNat = 0xed then 0x9f else 0xbf) := within
  have bounds : 0x80 ≤ second.toNat ∧ second.toNat ≤ 0xbf := by
    constructor
    · split at low <;> omega
    · split at high <;> omega
  have least : lead.toNat = 0xe0 → 0xa0 ≤ second.toNat := fun first => by
    rwa [if_pos first] at low
  have gap : lead.toNat = 0xed → second.toNat ≤ 0x9f := fun first => by
    rwa [if_pos first] at high
  clear low high
  rw [String.utf8EncodeChar, toNat_ofNat (by unfold Nat.isValidChar; omega)]
  rw [if_neg (by omega), if_neg (by omega), if_pos (by omega), ofNat_eq lead (by omega),
    ofNat_eq second (by omega), ofNat_eq third (by omega)]

theorem encode_four (large : 0xf0 ≤ lead.toNat) (small : lead.toNat ≤ 0xf4)
    (within : Within (if lead.toNat = 0xf0 then 0x90 else 0x80,
      if lead.toNat = 0xf4 then 0x8f else 0xbf) second)
    (next : Within (0x80, 0xbf) third) (last : Within (0x80, 0xbf) fourth) :
    String.utf8EncodeChar (Char.ofNat
        (((lead.toNat % 8 * 64 + second.toNat % 64) * 64 + third.toNat % 64) * 64
          + fourth.toNat % 64)) =
      [lead, second, third, fourth] := by
  obtain ⟨above, below⟩ : 0x80 ≤ third.toNat ∧ third.toNat ≤ 0xbf := next
  obtain ⟨aboveLast, belowLast⟩ : 0x80 ≤ fourth.toNat ∧ fourth.toNat ≤ 0xbf := last
  obtain ⟨low, high⟩ : (if lead.toNat = 0xf0 then 0x90 else 0x80) ≤ second.toNat ∧
      second.toNat ≤ (if lead.toNat = 0xf4 then 0x8f else 0xbf) := within
  have bounds : 0x80 ≤ second.toNat ∧ second.toNat ≤ 0xbf := by
    constructor
    · split at low <;> omega
    · split at high <;> omega
  have least : lead.toNat = 0xf0 → 0x90 ≤ second.toNat := fun first => by
    rwa [if_pos first] at low
  have most : lead.toNat = 0xf4 → second.toNat ≤ 0x8f := fun first => by
    rwa [if_pos first] at high
  clear low high
  rw [String.utf8EncodeChar, toNat_ofNat (by unfold Nat.isValidChar; omega)]
  rw [if_neg (by omega), if_neg (by omega), if_neg (by omega), ofNat_eq lead (by omega),
    ofNat_eq second (by omega), ofNat_eq third (by omega),
    ofNat_eq fourth (by omega)]

end

/-- **A character is read from its own bytes** and from no others. -/
theorem eq_of_readChar {lead : UInt8} {bytes rest : List UInt8} {c : Char}
    (read : readChar lead bytes = .char c rest) :
    lead :: bytes = String.utf8EncodeChar c ++ rest := by
  unfold readChar at read
  split at read
  · cases read
  rename_i bounds bounds_eq
  obtain ⟨tail, rfl, within, rfl⟩ := exists_of_readTail read
  rw [← List.cons_append]
  congr 1
  rcases cases_of_tailBounds? bounds_eq with
    ⟨one, rfl⟩ | ⟨large, small, rfl⟩ | ⟨large, small, rfl⟩ | ⟨large, small, rfl⟩
  · cases within
    rw [List.foldl_nil, leadBits, if_pos one, encode_one one]
  · obtain _ | ⟨second, _ | _⟩ := within
    rw [List.foldl_cons, List.foldl_nil, leadBits, if_neg (by omega), if_pos small,
      encode_two large small second]
  · obtain _ | ⟨second, _ | ⟨third, _ | _⟩⟩ := within
    rw [List.foldl_cons, List.foldl_cons, List.foldl_nil, leadBits, if_neg (by omega),
      if_neg (by omega), if_pos small, encode_three large small second third]
  · obtain _ | ⟨second, _ | ⟨third, _ | ⟨fourth, _ | _⟩⟩⟩ := within
    rw [List.foldl_cons, List.foldl_cons, List.foldl_cons, List.foldl_nil, leadBits,
      if_neg (by omega), if_neg (by omega), if_neg (by omega),
      encode_four large small second third fourth]

/-! ## Whole texts -/

/-- The bytes of two texts, one behind the other. -/
theorem encode_append (first second : String) :
    encode (first ++ second) = encode first ++ encode second := by
  rw [encode_eq, encode_eq, encode_eq, String.toList_append, List.flatMap_append]

/-- What was found and what is left make up the bytes. -/
theorem flatMap_scanFrom (seen : List Char) (index : Nat) (bytes : List UInt8) :
    (scanFrom seen index bytes).chars.flatMap String.utf8EncodeChar
        ++ (scanFrom seen index bytes).rest =
      seen.reverse.flatMap String.utf8EncodeChar ++ bytes := by
  fun_induction scanFrom seen index bytes with
  | case1 seen index => rfl
  | case2 seen index lead tail c rest read ih =>
      rw [ih, eq_of_readChar read, List.reverse_cons, List.flatMap_append, List.flatMap_singleton,
        List.append_assoc]
  | case3 seen index lead tail length read => rfl
  | case4 seen index lead tail read => rfl

/-- **Nothing gets lost in reading**: the characters that were found and the bytes that are left
make up all the bytes. -/
theorem encode_scan (bytes : List UInt8) :
    encode (String.ofList (scan bytes).chars) ++ (scan bytes).rest = bytes := by
  rw [encode_eq, String.toList_ofList]
  exact flatMap_scanFrom [] 0 bytes

/-- Without a fault nothing is left. -/
theorem rest_scanFrom (seen : List Char) (index : Nat) (bytes : List UInt8)
    (whole : (scanFrom seen index bytes).fault = none) :
    (scanFrom seen index bytes).rest = [] := by
  fun_induction scanFrom seen index bytes with
  | case1 seen index => rfl
  | case2 seen index lead tail c rest read ih => exact ih whole
  | case3 seen index lead tail length read => cases whole
  | case4 seen index lead tail read => cases whole

/-- **A text is read from its own bytes** and from no others. -/
theorem eq_of_decode {bytes : List UInt8} {text : String} (read : decode bytes = .ok text) :
    encode text = bytes := by
  simp only [decode] at read
  split at read
  · rename_i whole
    cases read
    have all := encode_scan bytes
    rwa [scan, rest_scanFrom [] 0 bytes whole, List.append_nil] at all
  · cases read

/-! ## Portions -/

/-- Characters whose bytes begin those of others begin the others. -/
theorem exists_of_flatMap {first : List Char} {rest : List UInt8} {all : List Char}
    (begins : first.flatMap String.utf8EncodeChar ++ rest = all.flatMap String.utf8EncodeChar) :
    ∃ later, all = first ++ later ∧ rest = later.flatMap String.utf8EncodeChar := by
  induction first generalizing all with
  | nil => exact ⟨all, rfl, begins⟩
  | cons c first ih =>
      obtain ⟨lead, tail, bytes_eq, read⟩ := exists_readChar c
      rw [List.flatMap_cons, bytes_eq, List.append_assoc, List.cons_append] at begins
      cases all with
      | nil => cases begins
      | cons d all =>
          obtain ⟨otherLead, otherTail, other_eq, readOther⟩ := exists_readChar d
          rw [List.flatMap_cons, other_eq, List.cons_append] at begins
          obtain ⟨rfl, tails⟩ := List.cons.inj begins
          -- The same bytes cannot be read as two characters.
          have same := read (first.flatMap String.utf8EncodeChar ++ rest)
          rw [tails, readOther] at same
          obtain ⟨rfl, rest_eq⟩ := Reading.char.inj same
          obtain ⟨later, rfl, later_eq⟩ := ih rest_eq.symm
          exact ⟨later, rfl, later_eq⟩

/-- Bytes between the bounds that are not all there may still become a character. -/
theorem readTail_of_short {bounds : List (Nat × Nat)} {bytes missing : List UInt8}
    (within : List.Forall₂ Within bounds (bytes ++ missing)) (short : missing ≠ [])
    (value count : Nat) : readTail value count bounds bytes = .incomplete := by
  induction bytes generalizing bounds value count with
  | nil =>
      cases within with
      | nil => exact absurd rfl short
      | cons lies later => rfl
  | cons byte bytes ih =>
      cases within with
      | cons lies later => exact (if_pos lies).trans (ih later _ _)

/-- The first bytes of a character may still become one. -/
theorem readChar_of_short {c : Char} {lead : UInt8} {bytes missing : List UInt8}
    (bytes_eq : String.utf8EncodeChar c = lead :: (bytes ++ missing)) (short : missing ≠ []) :
    readChar lead bytes = .incomplete := by
  have spells := spells_utf8EncodeChar c
  rw [bytes_eq] at spells
  obtain ⟨bounds_eq, within, -⟩ := spells
  rw [readChar, bounds_eq]
  exact readTail_of_short within short _ _

/-! ### Faults of a portion -/

theorem scanFrom_of_char {lead : UInt8} {bytes rest : List UInt8} {c : Char}
    (read : readChar lead bytes = .char c rest) (seen : List Char) (index : Nat) :
    scanFrom seen index (lead :: bytes) = scanFrom (c :: seen) (index + c.utf8Size) rest := by
  rw [scanFrom]
  split <;> rename_i found <;> rw [read] at found <;> cases found
  rfl

theorem scanFrom_of_incomplete {lead : UInt8} {bytes : List UInt8}
    (read : readChar lead bytes = .incomplete) (seen : List Char) (index : Nat) :
    scanFrom seen index (lead :: bytes) = ⟨seen.reverse, lead :: bytes, some ⟨index, none⟩⟩ := by
  rw [scanFrom]
  split <;> rename_i found <;> rw [read] at found <;> cases found

/-- A fault that no further byte can mend. -/
def Fault.IsFinal (fault : Fault) : Prop :=
  fault.length.isSome

/-- The first bytes of some characters have no fault that no further byte could mend. -/
theorem not_isFinal_of_begins {chars : List Char} {portion later : List UInt8}
    (begins : portion ++ later = chars.flatMap String.utf8EncodeChar) (seen : List Char)
    (index : Nat) : ∀ fault ∈ (scanFrom seen index portion).fault, ¬ fault.IsFinal := by
  have nothing (seen : List Char) (index : Nat) :
      ∀ fault ∈ (scanFrom seen index []).fault, ¬ fault.IsFinal := by
    intro fault found
    rw [scanFrom] at found
    cases found
  induction chars generalizing portion seen index with
  | nil =>
      obtain ⟨rfl, -⟩ := List.append_eq_nil_iff.mp begins
      exact nothing seen index
  | cons c chars ih =>
      obtain ⟨lead, tail, bytes_eq, read⟩ := exists_readChar c
      rw [List.flatMap_cons, bytes_eq, List.cons_append] at begins
      cases portion with
      | nil => exact nothing seen index
      | cons first portion =>
          obtain ⟨rfl, tails⟩ := List.cons.inj begins
          -- Some bytes of the character are missing, or all of them are there.
          have cut : (∃ missing, missing ≠ [] ∧ tail = portion ++ missing) ∨
              ∃ behind, portion = tail ++ behind ∧
                behind ++ later = chars.flatMap String.utf8EncodeChar := by
            rcases List.append_eq_append_iff.mp tails with
              ⟨missing, tail_eq, later_eq⟩ | ⟨behind, portion_eq, later_eq⟩
            · rcases eq_or_ne missing [] with rfl | short
              · exact .inr ⟨[], by simpa using tail_eq.symm, later_eq⟩
              · exact .inl ⟨missing, short, tail_eq⟩
            · exact .inr ⟨behind, portion_eq, later_eq.symm⟩
          rcases cut with ⟨missing, short, rfl⟩ | ⟨behind, rfl, rest⟩
          · rw [scanFrom_of_incomplete (readChar_of_short bytes_eq short)]
            intro fault found
            cases found
            exact Bool.false_ne_true
          · rw [scanFrom_of_char (read behind)]
            exact ih rest _ _

/-- **Portions of a text.**  If some characters of a text were read, the bytes that come next begin
with further characters and have no fault that no further byte could mend. -/
theorem not_isFinal_of_encode {start text : String} {portion later : List UInt8}
    (begins : encode start ++ (portion ++ later) = encode text) :
    ∀ fault ∈ (scan portion).fault, ¬ fault.IsFinal := by
  rw [encode_eq, encode_eq] at begins
  obtain ⟨chars, -, rest⟩ := exists_of_flatMap begins
  exact not_isFinal_of_begins rest [] 0

/-- With the last portion of a text nothing is left. -/
theorem rest_scan_of_encode {start text : String} {portion : List UInt8}
    (ends : encode start ++ portion = encode text) : (scan portion).rest = [] := by
  rw [encode_eq, encode_eq] at ends
  obtain ⟨chars, -, rfl⟩ := exists_of_flatMap ends
  rw [scan, scanFrom_flatMap]

end WebSocketClient.Utf8
