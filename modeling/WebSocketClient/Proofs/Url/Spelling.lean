import Mathlib.Data.List.TakeWhile
import WebSocketClient.Proofs.Text
import WebSocketClient.Url

/-!
# How a web address is spelled

Reading a URL cuts its text into pieces, and for web addresses nothing gets lost in cutting: the
pieces can be put together again.  `Spelling` lists the pieces of a web address in the order in
which they are written, with the marks between them left out, and `Spelling.WellFormed` says which
characters each piece can have.  The text of a well-formed spelling is cut into these pieces again
(`Spelling.parse_eq`), so it is read piece by piece (`Spelling.parse_eq_ok_iff`), and the port can
be exchanged without touching anything else (`Spelling.WellFormed.withPort`).
-/

namespace WebSocketClient.Url

set_option autoImplicit false

open Text (Stops stops_dropWhile)

/-! ## Cleaning -/

/-- A text that cleaning leaves alone. -/
structure IsClean (text : List Char) : Prop where
  head : Stops isOuterBlank text
  last : Stops isOuterBlank text.reverse
  inner : ∀ c ∈ text, isInnerBlank c = false

/-- What is kept around a text is kept within it. -/
theorem isInnerBlank_of_isOuterBlank {c : Char} (kept : isOuterBlank c = false) :
    isInnerBlank c = false := by
  refine eq_false_of_ne_true ?_
  intro blank
  simp only [isInnerBlank, Bool.or_eq_true, beq_iff_eq] at blank
  rcases blank with (rfl | rfl) | rfl <;> cases kept

/-- Letters and digits are no blanks. -/
theorem isOuterBlank_of_isAlphanum {c : Char} (letter : c.isAlphanum) : isOuterBlank c = false := by
  refine decide_eq_false (Nat.not_le_of_lt ?_)
  rcases Bool.or_eq_true_iff.mp letter with alpha | digit
  · rcases Bool.or_eq_true_iff.mp alpha with upper | lower
    · have low := UInt32.le_iff_toNat_le.mp (of_decide_eq_true upper).1
      exact Nat.lt_of_lt_of_le (by decide) low
    · have low := UInt32.le_iff_toNat_le.mp (of_decide_eq_true (Bool.and_eq_true_iff.mp lower).1)
      exact Nat.lt_of_lt_of_le (by decide) low
  · exact Nat.lt_of_lt_of_le (by decide) (Char.isDigit_iff_toNat.mp digit).1

theorem clean_of_isClean {text : List Char} (sound : IsClean text) :
    clean (String.ofList text) = text := by
  rw [clean, String.toList_ofList, trim, sound.head.dropWhile_eq, sound.last.dropWhile_eq,
    List.reverse_reverse, List.filter_eq_self]
  intro c member
  rw [sound.inner c member]
  rfl

/-- A text without blanks is clean. -/
theorem isClean_of_unblank {text : List Char} (unblank : ∀ c ∈ text, isOuterBlank c = false) :
    IsClean text where
  head c first := unblank c (List.mem_of_mem_head? first)
  last c last := unblank c (List.mem_reverse.mp (List.mem_of_mem_head? last))
  inner c member := isInnerBlank_of_isOuterBlank (unblank c member)

/-- A text that does not begin with a blank does not do so without its inner blanks. -/
theorem stops_filter {text : List Char} (stops : Stops isOuterBlank text) :
    Stops isOuterBlank (text.filter fun c => !isInnerBlank c) := by
  cases text with
  | nil => exact .nil
  | cons c text =>
      have outer := stops c rfl
      have inner := isInnerBlank_of_isOuterBlank outer
      rw [List.filter_cons_of_pos (by rw [inner]; rfl)]
      exact .cons outer _

/-- **What was cleaned is clean.** -/
theorem isClean_clean (text : String) : IsClean (clean text) := by
  have last : Stops isOuterBlank (trim text.toList).reverse := by
    rw [trim, List.reverse_reverse]
    exact stops_dropWhile _
  have head : Stops isOuterBlank (trim text.toList) := by
    have start : Stops isOuterBlank (text.toList.dropWhile isOuterBlank) := stops_dropWhile _
    rw [trim]
    generalize text.toList.dropWhile isOuterBlank = rest at start
    -- What is dropped at the end leaves the beginning, or nothing at all.
    obtain ⟨dropped, whole⟩ := List.dropWhile_suffix (l := rest.reverse) isOuterBlank
    have kept : (rest.reverse.dropWhile isOuterBlank).reverse ++ dropped.reverse = rest := by
      rw [← List.reverse_append, whole, List.reverse_reverse]
    cases same : (rest.reverse.dropWhile isOuterBlank).reverse with
    | nil => exact .nil
    | cons c inside =>
        refine .cons ?_ inside
        refine start c ?_
        rw [← kept, same]
        rfl
  refine ⟨stops_filter head, ?_, ?_⟩
  · rw [clean, ← List.filter_reverse]
    exact stops_filter last
  · intro c member
    have kept := (List.mem_filter.mp member).2
    rwa [Bool.not_eq_true'] at kept

theorem mem_of_dropWhile {blank : Char → Bool} {c : Char} (kept : blank c = false)
    {text : List Char} (member : c ∈ text) : c ∈ text.dropWhile blank := by
  rw [← List.takeWhile_append_dropWhile (p := blank) (l := text)] at member
  rcases List.mem_append.mp member with member | member
  · rw [List.mem_takeWhile_imp member] at kept
    cases kept
  · exact member

/-- Nothing but blanks is dropped. -/
theorem mem_clean {text : String} {c : Char} (kept : isOuterBlank c = false)
    (member : c ∈ text.toList) : c ∈ clean text := by
  refine List.mem_filter.mpr ⟨?_, ?_⟩
  · refine List.mem_reverse.mpr (mem_of_dropWhile kept (List.mem_reverse.mpr ?_))
    exact mem_of_dropWhile kept member
  · rw [Bool.not_eq_true']
    exact isInnerBlank_of_isOuterBlank kept

/-! ## Cutting at a mark -/

/-- A piece with the mark in front of it, if there is one. -/
def marked (mark : Char) : Option (List Char) → List Char
  | none => []
  | some piece => mark :: piece

section

variable {mark : Char} {first : List Char}

theorem stops_marked (mark : Char) (piece : Option (List Char)) :
    Stops (· != mark) (marked mark piece) := by
  cases piece with
  | none => exact .nil
  | some piece =>
      refine .cons ?_ piece
      exact bne_self_eq_false mark

theorem marked_inj {piece other : Option (List Char)}
    (same : marked mark piece = marked mark other) : piece = other := by
  cases piece <;> cases other
  · rfl
  · cases same
  · cases same
  · rw [(List.cons.inj same).2]

theorem forall_ne_of_notMem (absent : mark ∉ first) : ∀ c ∈ first, (c != mark) = true := by
  intro c member
  rw [bne_iff_ne]
  rintro rfl
  exact absent member

theorem cutAtMark_marked (absent : mark ∉ first) (piece : Option (List Char)) :
    cutAtMark mark (first ++ marked mark piece) = (first, piece) := by
  have stops := stops_marked mark piece
  have within := forall_ne_of_notMem absent
  rw [cutAtMark, stops.takeWhile_append within, stops.dropWhile_append within]
  cases piece <;> rfl

/-- Every text is cut into two pieces, the first of which has no mark. -/
theorem exists_marked (mark : Char) (text : List Char) :
    ∃ first piece, text = first ++ marked mark piece ∧ mark ∉ first := by
  have absent : mark ∉ text.takeWhile (· != mark) := by
    intro member
    have differs := List.mem_takeWhile_imp member
    rw [bne_self_eq_false] at differs
    cases differs
  have stops : Stops (· != mark) (text.dropWhile (· != mark)) := stops_dropWhile text
  have whole := List.takeWhile_append_dropWhile (p := (· != mark)) (l := text)
  generalize text.dropWhile (· != mark) = rest at stops whole
  cases rest with
  | nil => exact ⟨_, none, whole.symm, absent⟩
  | cons c rest =>
      have same : c = mark := by
        have stop := stops c rfl
        rwa [bne_eq_false_iff_eq] at stop
      subst same
      exact ⟨_, some rest, whole.symm, absent⟩

end

/-! ## Cutting at the last at-sign -/

/-- A piece with an at-sign behind it, if there is one. -/
def signed : Option (List Char) → List Char
  | none => []
  | some piece => piece ++ ['@']

theorem cutUserinfo_signed {rest : List Char} (absent : '@' ∉ rest)
    (piece : Option (List Char)) : cutUserinfo (signed piece ++ rest) = (piece, rest) := by
  cases piece with
  | none =>
      have without : rest.contains '@' = false := by
        rw [List.contains_eq_mem, decide_eq_false absent]
      rw [signed, List.nil_append, cutUserinfo, without]
      rfl
  | some piece =>
      have within : ∀ c ∈ rest.reverse, (c != '@') = true := by
        intro c member
        exact forall_ne_of_notMem absent c (List.mem_reverse.mp member)
      have stops : Stops (· != '@') ('@' :: piece.reverse) := .cons rfl _
      have reversed : (signed (some piece) ++ rest).reverse =
          rest.reverse ++ '@' :: piece.reverse := by
        simp [signed]
      rw [cutUserinfo, reversed, stops.takeWhile_append within, stops.dropWhile_append within]
      simp [signed]

theorem exists_signed (text : List Char) :
    ∃ piece rest, text = signed piece ++ rest ∧ '@' ∉ rest := by
  obtain ⟨first, piece, reversed, absent⟩ := exists_marked '@' text.reverse
  refine ⟨piece.map List.reverse, first.reverse, ?_, ?_⟩
  · have whole := congrArg List.reverse reversed
    rw [List.reverse_reverse, List.reverse_append] at whole
    rw [whole]
    cases piece <;> simp [marked, signed]
  · intro member
    exact absent (List.mem_reverse.mp member)

/-! ## Cutting at the port -/

/-- A colon behind a host ends it: the host has no other colon outside of brackets, and all brackets
are closed. -/
def EndsAtColon (bracketed : Bool) (host : List Char) : Prop :=
  cutPort bracketed (host ++ [':']) = (host, some [])

/-- Whether the last bracket of a text is an opening one. -/
def bracketedAfter (bracketed : Bool) (text : List Char) : Bool :=
  text.foldl (fun inside c => if c = '[' then true else if c = ']' then false else inside) bracketed

section

variable {host : List Char}

/-- Reading one more character of a host. -/
theorem cutPort_cons {bracketed : Bool} {c : Char} (inner : ¬(c = ':' ∧ bracketed = false))
    (text : List Char) :
    cutPort bracketed (c :: text) =
      (c :: (cutPort (bracketedAfter bracketed [c]) text).1,
        (cutPort (bracketedAfter bracketed [c]) text).2) := by
  rw [cutPort, if_neg inner]
  rfl

theorem cutPort_marked {bracketed : Bool} (ends : EndsAtColon bracketed host)
    (port : Option (List Char)) : cutPort bracketed (host ++ marked ':' port) = (host, port) := by
  induction host generalizing bracketed with
  | nil =>
      cases bracketed with
      | true => cases ends
      | false => cases port <;> rfl
  | cons c host ih =>
      by_cases colon : c = ':' ∧ bracketed = false
      · obtain ⟨rfl, rfl⟩ := colon
        cases ends
      · rw [EndsAtColon, List.cons_append, cutPort_cons colon, Prod.mk.injEq,
          List.cons.injEq] at ends
        rw [List.cons_append, cutPort_cons colon, ih (Prod.ext ends.1.2 ends.2)]

/-- A text is its host and its port again. -/
theorem cutPort_append (bracketed : Bool) (text : List Char) :
    (cutPort bracketed text).1 ++ marked ':' (cutPort bracketed text).2 = text := by
  induction text generalizing bracketed with
  | nil => rfl
  | cons c text ih =>
      by_cases colon : c = ':' ∧ bracketed = false
      · rw [cutPort, if_pos colon, colon.1]
        rfl
      · rw [cutPort_cons colon, List.cons_append, ih]

/-- A host with a port behind it ends at the colon. -/
theorem endsAtColon_of_port {bracketed : Bool} {text digits : List Char}
    (cut : cutPort bracketed text = (host, some digits)) : EndsAtColon bracketed host := by
  induction text generalizing bracketed host with
  | nil => cases cut
  | cons c text ih =>
      by_cases colon : c = ':' ∧ bracketed = false
      · rw [cutPort, if_pos colon] at cut
        cases cut
        rw [colon.2]
        rfl
      · rw [cutPort_cons colon] at cut
        obtain ⟨rfl, port⟩ := Prod.mk.inj cut
        rw [EndsAtColon, List.cons_append, cutPort_cons colon, ih (Prod.ext rfl port)]

/-- A host without a port ends at a colon if all its brackets are closed. -/
theorem endsAtColon_of_closed {bracketed : Bool} {text : List Char}
    (cut : cutPort bracketed text = (host, none)) (closed : bracketedAfter bracketed host = false) :
    EndsAtColon bracketed host := by
  induction text generalizing bracketed host with
  | nil =>
      cases cut
      cases closed
      rfl
  | cons c text ih =>
      by_cases colon : c = ':' ∧ bracketed = false
      · rw [cutPort, if_pos colon] at cut
        cases cut
      · rw [cutPort_cons colon] at cut
        obtain ⟨rfl, port⟩ := Prod.mk.inj cut
        rw [EndsAtColon, List.cons_append, cutPort_cons colon, ih (Prod.ext rfl port) closed]

/-- A host without brackets has no colon. -/
theorem notMem_of_endsAtColon (bare : '[' ∉ host)
    (ends : EndsAtColon false host) : ':' ∉ host := by
  induction host with
  | nil => exact List.not_mem_nil
  | cons c host ih =>
      rw [List.mem_cons, not_or] at bare
      have differs : c ≠ ':' := by
        rintro rfl
        cases ends
      have still : bracketedAfter false [c] = false := by
        rw [bracketedAfter, List.foldl_cons, if_neg (Ne.symm bare.1), ite_self]
        rfl
      rw [EndsAtColon, List.cons_append, cutPort_cons (fun colon => differs colon.1), still,
        Prod.mk.injEq, List.cons.injEq] at ends
      have absent := ih bare.2 (Prod.ext ends.1.2 ends.2)
      exact List.not_mem_cons_of_ne_of_not_mem (Ne.symm differs) absent

end

/-! ## Numbers -/

theorem numberOfDigits?_eq {digits : List Char} (all : ∀ c ∈ digits, c.isDigit) :
    numberOfDigits? 10 digits = some (Nat.ofDigitChars 10 digits 0) := by
  have value (c : Char) (digit : c.isDigit) : digitValue? 10 c = some (c.toNat - '0'.toNat) := by
    have low : '0' ≤ c ∧ c ≤ '9' := by simpa [Char.isDigit, Char.le_def] using digit
    have small : c.toNat - '0'.toNat < 10 := by
      have high : c.toNat ≤ 57 := low.2
      have zero : '0'.toNat = 48 := rfl
      omega
    rw [digitValue?, if_pos low]
    exact Option.filter_eq_some_iff.mpr ⟨rfl, decide_eq_true small⟩
  have values : digits.mapM (digitValue? 10) = some (digits.map fun c => c.toNat - '0'.toNat) := by
    induction digits with
    | nil => rfl
    | cons c digits ih =>
        rw [List.mapM_cons, value c (all c (List.mem_cons_self ..)),
          ih fun c member => all c (List.mem_cons_of_mem _ member)]
        rfl
  rw [numberOfDigits?, values, Option.map_some, List.foldl_map, Nat.ofDigitChars_eq_foldl]

/-- The number that the digits of a port write, if there are any. -/
def portNumber? (digits : List Char) : Option Nat :=
  if digits = [] then none else some (Nat.ofDigitChars 10 digits 0)

/-- A port is read exactly if it has digits only, and its number fits. -/
theorem readPort_eq_ok_iff {digits : List Char} {number : Option Nat} :
    readPort digits = .ok number ↔
      (∀ c ∈ digits, c.isDigit) ∧ portNumber? digits = number ∧ ∀ n ∈ number, n ≤ 65535 := by
  cases digits with
  | nil =>
      rw [readPort, if_pos rfl, portNumber?, if_pos rfl, Except.ok.injEq]
      constructor
      · rintro rfl
        exact ⟨List.forall_mem_nil _, rfl, fun n written => by cases written⟩
      · exact fun read => read.2.1
  | cons c rest =>
      have written := List.cons_ne_nil c rest
      rw [readPort, if_neg written, portNumber?, if_neg written]
      by_cases all : (c :: rest).all Char.isDigit
      · rw [if_pos all, numberOfDigits?_eq (List.all_eq_true.mp all)]
        dsimp only
        split
        · rename_i fits
          constructor
          · intro read
            cases read
            refine ⟨List.all_eq_true.mp all, rfl, ?_⟩
            rintro n ⟨⟩
            exact fits
          · rintro ⟨-, rfl, -⟩
            rfl
        · rename_i beyond
          refine iff_of_false (fun read => by cases read) ?_
          rintro ⟨-, rfl, fits⟩
          exact beyond (fits _ rfl)
      · rw [if_neg all]
        refine iff_of_false (fun read => by cases read) ?_
        rintro ⟨every, -⟩
        exact all (List.all_eq_true.mpr every)

/-- Zeros in front of a number do not change it. -/
theorem portNumber?_zeros (zeros : Nat) (number : Nat) :
    portNumber? (List.replicate zeros '0' ++ (toString number).toList) = some number := by
  have value : Nat.ofDigitChars 10 (List.replicate zeros '0' ++ (toString number).toList) 0 =
      number := by
    rw [Nat.ofDigitChars_append, Nat.ofDigitChars_replicate_zero, Nat.mul_zero,
      Nat.toString_eq_ofList_toDigits, String.toList_ofList, Nat.ofDigitChars_ten_toDigits]
  have written : List.replicate zeros '0' ++ (toString number).toList ≠ [] := by
    refine List.append_ne_nil_of_right_ne_nil _ ?_
    rw [Nat.toString_eq_ofList_toDigits, String.toList_ofList]
    exact Nat.toDigits_ne_nil
  rw [portNumber?, if_neg written, value]

/-! ## Spellings -/

theorem endsAuthority_web_iff {c : Char} : SchemeKind.endsAuthority .web c = true ↔
    c = '/' ∨ c = '\\' ∨ c = '?' ∨ c = '#' := by
  simp [SchemeKind.endsAuthority, SchemeKind.isSlash, or_assoc]

/-- An authority does not begin with a slash. -/
theorem stops_of_authority {authority : List Char} (written : authority ≠ [])
    (plain : ∀ c ∈ authority, SchemeKind.endsAuthority .web c = false) (rest : List Char) :
    Stops (SchemeKind.isSlash .web) (authority ++ rest) := by
  cases authority with
  | nil => exact absurd rfl written
  | cons c authority =>
      have inner := plain c (List.mem_cons_self ..)
      rw [SchemeKind.endsAuthority, Bool.or_eq_false_iff, Bool.or_eq_false_iff] at inner
      exact .cons inner.1.1 _

/-- A port ends nothing but the host. -/
theorem plain_of_digits {port : Option (List Char)} (digits : ∀ c ∈ port.getD [], c.isDigit) :
    ∀ c ∈ marked ':' port, SchemeKind.endsAuthority .web c = false ∧ c ≠ '@' := by
  have plain (c : Char) (digit : c.isDigit) :
      SchemeKind.endsAuthority .web c = false ∧ c ≠ '@' := by
    refine ⟨eq_false_of_ne_true ?_, ?_⟩
    · intro ends
      rcases endsAuthority_web_iff.mp ends with rfl | rfl | rfl | rfl <;> cases digit
    · rintro rfl
      cases digit
  cases port with
  | none => exact List.forall_mem_nil _
  | some piece =>
      intro c member
      rcases List.mem_cons.mp member with rfl | member
      · exact ⟨by decide, by decide⟩
      · exact plain c (digits c member)

/-- The pieces of a web address, in the order in which they are written. -/
structure Spelling where
  scheme : List Char
  /-- The slashes between the scheme and the authority, as many as there are. -/
  slashes : List Char
  userinfo : Option (List Char)
  host : List Char
  port : Option (List Char)
  path : List Char
  query : Option (List Char)
  fragment : Option (List Char)

namespace Spelling

/-- The authority of a spelling. -/
def authority (spelling : Spelling) : List Char :=
  signed spelling.userinfo ++ (spelling.host ++ marked ':' spelling.port)

/-- What follows the authority. -/
def tail (spelling : Spelling) : List Char :=
  spelling.path ++ marked '?' spelling.query ++ marked '#' spelling.fragment

/-- The text of a spelling. -/
def text (spelling : Spelling) : List Char :=
  spelling.scheme ++ ':' :: (spelling.slashes ++ (spelling.authority ++ spelling.tail))

/-- The pieces before the host. -/
def front (spelling : Spelling) : List Char :=
  spelling.scheme ++ ':' :: (spelling.slashes ++ signed spelling.userinfo)

theorem text_eq (spelling : Spelling) : spelling.text =
    spelling.front ++ (spelling.host ++ (marked ':' spelling.port ++ spelling.tail)) := by
  simp [text, front, authority]

/-- The scheme in small letters. -/
def schemeName (spelling : Spelling) : String :=
  String.ofList (spelling.scheme.map Char.toLower)

/-- The characters of each piece, and where a piece is to end. -/
structure WellFormed (spelling : Spelling) : Prop where
  scheme_head : spelling.scheme.head?.any Char.isAlpha
  scheme_chars : ∀ c ∈ spelling.scheme, isSchemeChar c
  slashes : ∀ c ∈ spelling.slashes, SchemeKind.isSlash .web c
  authority : ∀ c ∈ spelling.authority, SchemeKind.endsAuthority .web c = false
  host_ne : spelling.host ≠ []
  host_ends : EndsAtColon false spelling.host
  unsigned : '@' ∉ spelling.host ++ marked ':' spelling.port
  digits : ∀ c ∈ spelling.port.getD [], c.isDigit
  path_head : Stops (!SchemeKind.isSlash .web ·) spelling.path
  path : '?' ∉ spelling.path ∧ '#' ∉ spelling.path
  query : '#' ∉ spelling.query.getD []

/-- The same spelling with another port piece. -/
def withPort (spelling : Spelling) (port : Option (List Char)) : Spelling :=
  { spelling with port }

/-- What is read from a spelling whose host is read. -/
def toUrl (spelling : Spelling) (host : Host) : Url where
  scheme := spelling.schemeName
  username := (readUserinfo (spelling.userinfo.getD [])).1
  password := (readUserinfo (spelling.userinfo.getD [])).2
  host := some host
  port :=
    if portNumber? (spelling.port.getD []) = defaultPort? spelling.schemeName then none
    else portNumber? (spelling.port.getD [])
  path := readPath (SchemeKind.isSlash .web) spelling.path
  query := spelling.query.map (percentEncode encodedInWebQuery)
  fragment := spelling.fragment.map (percentEncode encodedInFragment)

namespace WellFormed

variable {spelling : Spelling}

theorem stops_tail (formed : spelling.WellFormed) :
    Stops (!SchemeKind.endsAuthority .web ·) spelling.tail := by
  have head := formed.path_head
  unfold tail
  generalize spelling.path = path at head
  generalize spelling.query = query
  generalize spelling.fragment = fragment
  cases path with
  | cons c path =>
      refine .cons ?_ _
      have slash : SchemeKind.isSlash .web c = true := by simpa using head c rfl
      rw [SchemeKind.endsAuthority, slash]
      rfl
  | nil =>
      cases query with
      | some query => exact .cons (by decide) _
      | none =>
          cases fragment with
          | some fragment => exact .cons (by decide) _
          | none => exact .nil

theorem authority_ne (formed : spelling.WellFormed) : spelling.authority ≠ [] := by
  have host := formed.host_ne
  simp [Spelling.authority, host]

/-- The scheme is cut off. -/
theorem cutScheme?_text (formed : spelling.WellFormed) : cutScheme? spelling.text =
    some (spelling.scheme.map Char.toLower,
      spelling.slashes ++ (spelling.authority ++ spelling.tail)) := by
  have head : spelling.text.head?.any Char.isAlpha := by
    have first := formed.scheme_head
    unfold text
    cases same : spelling.scheme with
    | nil =>
        rw [same] at first
        cases first
    | cons c rest =>
        rw [same] at first
        exact first
  have stops : Stops isSchemeChar
      (':' :: (spelling.slashes ++ (spelling.authority ++ spelling.tail))) := .cons (by decide) _
  rw [cutScheme?, if_pos head, text, stops.dropWhile_append formed.scheme_chars,
    stops.takeWhile_append formed.scheme_chars]
  rfl

/-- What follows the scheme is cut into its pieces. -/
theorem pieces_eq (formed : spelling.WellFormed) :
    Pieces.ofText .web (spelling.slashes ++ (spelling.authority ++ spelling.tail)) =
      ⟨some spelling.authority, spelling.path, spelling.query, spelling.fragment⟩ := by
  have stops := stops_of_authority formed.authority_ne formed.authority spelling.tail
  have within : ∀ c ∈ spelling.authority, (!SchemeKind.endsAuthority .web c) = true := by
    intro c member
    rw [formed.authority c member]
    rfl
  have unmarked : '#' ∉ spelling.path ++ marked '?' spelling.query := by
    have query := formed.query
    intro member
    rcases List.mem_append.mp member with member | member
    · exact formed.path.2 member
    · cases same : spelling.query with
      | none =>
          rw [same] at member
          cases member
      | some piece =>
          rw [same] at member query
          rcases List.mem_cons.mp member with mark | member
          · cases mark
          · exact query member
  rw [Pieces.ofText]
  simp only [afterSlashes?, stops.dropWhile_append formed.slashes,
    formed.stops_tail.dropWhile_append within, formed.stops_tail.takeWhile_append within,
    Option.map_some]
  rw [Spelling.tail, cutAtMark_marked unmarked]
  dsimp only
  rw [cutAtMark_marked formed.path.1]

theorem authority_eq (formed : spelling.WellFormed) :
    Authority.ofText spelling.authority = ⟨spelling.userinfo, spelling.host, spelling.port⟩ := by
  simp only [Authority.ofText, Spelling.authority, cutUserinfo_signed formed.unsigned,
    cutPort_marked formed.host_ends]

/-- The port can be exchanged. -/
theorem withPort (formed : spelling.WellFormed) {port : Option (List Char)}
    (digits : ∀ c ∈ port.getD [], c.isDigit) : (spelling.withPort port).WellFormed where
  scheme_head := formed.scheme_head
  scheme_chars := formed.scheme_chars
  slashes := formed.slashes
  authority := by
    intro c member
    rw [Spelling.authority, ← List.append_assoc] at member
    rcases List.mem_append.mp member with member | member
    · refine formed.authority c ?_
      rw [Spelling.authority, ← List.append_assoc]
      exact List.mem_append_left _ member
    · exact (plain_of_digits digits c member).1
  host_ne := formed.host_ne
  host_ends := formed.host_ends
  unsigned := by
    intro member
    rcases List.mem_append.mp member with member | member
    · exact formed.unsigned (List.mem_append_left _ member)
    · exact (plain_of_digits digits _ member).2 rfl
  digits := digits
  path_head := formed.path_head
  path := formed.path
  query := formed.query

end WellFormed

/-- **A spelling is read piece by piece.** -/
theorem parse_eq {spelling : Spelling} (formed : spelling.WellFormed) {text : String}
    (written : clean text = spelling.text) (web : SchemeKind.of spelling.schemeName = .web) :
    Url.parse text = readWebPieces spelling.schemeName
      ⟨some spelling.authority, spelling.path, spelling.query, spelling.fragment⟩ := by
  rw [parse, written, formed.cutScheme?_text]
  dsimp only
  rw [show String.ofList (spelling.scheme.map Char.toLower) = spelling.schemeName from rfl, web,
    formed.pieces_eq]

theorem parse_eq_ok_iff {spelling : Spelling} (formed : spelling.WellFormed) {text : String}
    (written : clean text = spelling.text) (web : SchemeKind.of spelling.schemeName = .web)
    {url : Url} :
    Url.parse text = .ok url ↔
      ∃ host, Host.readWeb spelling.host = .ok host ∧
        (∀ number ∈ portNumber? (spelling.port.getD []), number ≤ 65535) ∧
        url = spelling.toUrl host := by
  rw [parse_eq formed written web, readWebPieces, Option.getD_some, readWebSite,
    formed.authority_eq]
  dsimp only
  rw [if_neg formed.host_ne]
  cases read : Host.readWeb spelling.host with
  | error fault =>
      refine iff_of_false (fun parsed => by cases parsed) ?_
      rintro ⟨host, same, -⟩
      cases same
  | ok host =>
      cases port : readPort (spelling.port.getD []) with
      | error fault =>
          refine iff_of_false (fun parsed => by cases parsed) ?_
          rintro ⟨-, -, fits, -⟩
          rw [readPort_eq_ok_iff.mpr ⟨formed.digits, rfl, fits⟩] at port
          cases port
      | ok number =>
          obtain ⟨-, rfl, fits⟩ := readPort_eq_ok_iff.mp port
          constructor
          · intro parsed
            cases parsed
            exact ⟨host, rfl, fits, rfl⟩
          · rintro ⟨other, same, -, rfl⟩
            cases same
            rfl

end Spelling

end WebSocketClient.Url
