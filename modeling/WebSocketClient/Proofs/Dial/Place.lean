import WebSocketClient.Proofs.Dial.Parts
import WebSocketClient.Proofs.Endpoint
import WebSocketClient.Proofs.Url.Path

/-!
# Dialling what was checked

The text of an endpoint is read twice: once by the rules of URLs, when the endpoint is made, and
once by the rules of a client, when it is dialled.  The first reading tidies up, the second does
not.  `Dial.IsDialable` says which spellings need no tidying, and these are the ones that a client
dials (`Dial.exists_parse_iff`).

For them, both readings find the same parts (`Dial.Parts.eq_of_text`).  The host and the port are
therefore those of the endpoint.  The port takes an argument, since a client looks for the last
colon anywhere in the authority: if that colon is not the one in front of the port, then a closing
bracket or an at-sign follows it, and no number is read (`Dial.writtenPort?_eq`).

The target is what the text has.  A query without a path, a path with dots to resolve, and
characters to be encoded are sent as they are (`Dial.place_of_endpoint`).
-/

namespace WebSocketClient

set_option autoImplicit false

open Text (Stops)
open Url (Spelling marked signed)

namespace Dial

/-! ## One text, read twice -/

/-- Both ways of reading find the same parts. -/
theorem Parts.eq_of_text {text : String} {dial : Dial} {scheme authority after : List Char}
    {spelling : Spelling} (parts : Parts text dial scheme authority after)
    (formed : spelling.WellFormed) (whole : text.toList = spelling.text) :
    scheme = spelling.scheme ∧ spelling.slashes = ['/', '/'] ∧ authority = spelling.authority ∧
      after = spelling.tail := by
  have plain : ∀ c ∈ authority, Url.SchemeKind.endsAuthority .web c = false :=
    fun c member => (isInner_of_checkAuthority parts.checked c member).2
  have inner {text : List Char}
      (plain : ∀ c ∈ text, Url.SchemeKind.endsAuthority .web c = false) :
      ∀ c ∈ text, (!Url.SchemeKind.endsAuthority .web c) = true := by
    intro c member
    rw [plain c member]
    rfl
  have ends : Stops (!Url.SchemeKind.endsAuthority .web ·) after := by
    intro c first
    have stop := parts.ends c first
    simp only [endsAuthority, Bool.not_eq_false', Bool.or_eq_true, beq_iff_eq] at stop
    rcases stop with (rfl | rfl) | rfl <;> rfl
  have same := parts.whole.symm.trans whole
  obtain ⟨rfl, behind⟩ := Text.eq_of_append_eq parts.chars formed.scheme_chars
    (.cons (by decide) _) (.cons (by decide) _) same
  have slashes : ∀ c ∈ ['/', '/'], Url.SchemeKind.isSlash .web c :=
    List.forall_mem_cons.mpr ⟨rfl, List.forall_mem_cons.mpr ⟨rfl, List.forall_mem_nil _⟩⟩
  have tails : ['/', '/'] ++ (authority ++ after) =
      spelling.slashes ++ (spelling.authority ++ spelling.tail) := (List.cons.inj behind).2
  obtain ⟨twice, site⟩ := Text.eq_of_append_eq slashes formed.slashes
    (Url.stops_of_authority parts.written plain after)
    (Url.stops_of_authority formed.authority_ne formed.authority spelling.tail) tails
  obtain ⟨rfl, rfl⟩ := Text.eq_of_append_eq (inner plain) (inner formed.authority) ends
    formed.stops_tail site
  exact ⟨rfl, twice.symm, rfl, rfl⟩

/-! ## The host -/

section

variable {separator : Char} {rest : List Char}

theorem afterLast_of_notMem (absent : separator ∉ rest) : afterLast separator rest = rest := by
  rw [afterLast, List.takeWhile_eq_self_iff.mpr, List.reverse_reverse]
  intro c member
  exact Url.forall_ne_of_notMem absent c (List.mem_reverse.mp member)

theorem afterLast_append (before : List Char) (absent : separator ∉ rest) :
    afterLast separator (before ++ separator :: rest) = rest := by
  have within : ∀ c ∈ rest.reverse, (c != separator) = true := by
    intro c member
    exact Url.forall_ne_of_notMem absent c (List.mem_reverse.mp member)
  have stops : Stops (· != separator) (separator :: before.reverse) := by
    refine .cons ?_ _
    exact bne_self_eq_false separator
  have reversed : (before ++ separator :: rest).reverse =
      rest.reverse ++ separator :: before.reverse := by
    simp
  rw [afterLast, reversed, stops.takeWhile_append within, List.reverse_reverse]

/-- What follows the last separator holds every character that no separator follows. -/
theorem mem_afterLast {c : Char} (differs : c ≠ separator) (absent : separator ∉ rest)
    (before : List Char) : c ∈ afterLast separator (before ++ c :: rest) := by
  have within : ∀ d ∈ rest.reverse, (d != separator) = true := by
    intro d member
    exact Url.forall_ne_of_notMem absent d (List.mem_reverse.mp member)
  have reversed : (before ++ c :: rest).reverse = rest.reverse ++ c :: before.reverse := by
    simp
  rw [afterLast, List.mem_reverse, reversed, List.takeWhile_append_of_pos within,
    List.takeWhile_cons_of_pos (p := (· != separator)) (bne_iff_ne.mpr differs)]
  exact List.mem_append_right _ (List.mem_cons_self ..)

end

theorem afterLast_signed {rest : List Char} (absent : '@' ∉ rest) (userinfo : Option (List Char)) :
    afterLast '@' (signed userinfo ++ rest) = rest := by
  cases userinfo with
  | none => exact afterLast_of_notMem absent
  | some name =>
      rw [signed, List.append_assoc]
      exact afterLast_append name absent

section

variable {spelling : Spelling} {host : Url.Host} {dial : Dial}

/-- **The host is the written one.** -/
theorem host_eq (formed : spelling.WellFormed) (read : Url.Host.readWeb spelling.host = .ok host)
    (checked : checkAuthority spelling.authority = .ok ())
    (authority : dial.authority = String.ofList spelling.authority) :
    dial.host.toList = spelling.host := by
  rw [Dial.host, authority, String.toList_ofList, String.toList_ofList, Spelling.authority,
    afterLast_signed formed.unsigned, List.head?_append_of_ne_nil _ formed.host_ne]
  rcases Url.Host.cases_of_readWeb read with ⟨inner, pieces, written, -, -⟩ | ⟨bare, -⟩
  · -- There is no closing bracket within the brackets, because there is one at the end.
    have absent : ']' ∉ inner := by
      intro member
      obtain ⟨front, back, rfl⟩ := List.append_of_mem member
      have whole : spelling.authority = (signed spelling.userinfo ++ '[' :: front) ++
          ']' :: (back ++ ']' :: marked ':' spelling.port) := by
        simp [Spelling.authority, written]
      rw [whole] at checked
      have none_else := notMem_of_checkAuthority checked
      simp at none_else
    have within : ∀ c ∈ '[' :: inner, (c != ']') = true := by
      refine List.forall_mem_cons.mpr ⟨by decide, ?_⟩
      exact Url.forall_ne_of_notMem absent
    have stops : Stops (· != ']') (']' :: marked ':' spelling.port) := .cons rfl _
    have place : spelling.host ++ marked ':' spelling.port =
        ('[' :: inner) ++ ']' :: marked ':' spelling.port := by
      simp [written]
    have head : spelling.host.head? = some '[' := by
      rw [written]
      rfl
    rw [if_pos head, place, stops.takeWhile_append within, written]
    rfl
  · have head : spelling.host.head? ≠ some '[' :=
      fun bracket => bare (List.mem_of_mem_head? bracket)
    have within := Url.forall_ne_of_notMem (Url.notMem_of_endsAtColon bare formed.host_ends)
    rw [if_neg head, (Url.stops_marked ':' spelling.port).takeWhile_append within]

/-! ## The port -/

/-- What is no number is no port. -/
theorem portNumber?_eq_none {c : Char} (digit : c.isDigit = false) (sign : c ≠ '+')
    {chars : List Char} (member : c ∈ chars) : portNumber? chars = none := by
  have kept : c ∈ if chars.head? = some '+' then chars.drop 1 else chars := by
    split
    · rename_i plus
      cases chars with
      | nil => cases member
      | cons d chars =>
          cases plus
          exact List.mem_of_ne_of_mem sign member
    · exact member
  have every :
      (if chars.head? = some '+' then chars.drop 1 else chars).all Char.isDigit = false := by
    refine eq_false_of_ne_true ?_
    intro every
    rw [List.all_eq_true.mp every c kept] at digit
    cases digit
  rw [portNumber?]
  dsimp only
  rw [every, Bool.not_false, Bool.or_true, if_pos rfl]

/-- Digits are read in the same way. -/
theorem portNumber?_eq {digits : List Char} (every : ∀ c ∈ digits, c.isDigit)
    (fits : ∀ number ∈ Url.portNumber? digits, number ≤ 65535) :
    portNumber? digits = Url.portNumber? digits := by
  have head : digits.head? ≠ some '+' := by
    intro plus
    cases every '+' (List.mem_of_mem_head? plus)
  rw [portNumber?, if_neg head]
  dsimp only
  by_cases empty : digits = []
  · subst empty
    rfl
  · rw [Url.portNumber?, if_neg empty] at fits
    have number : digits.foldl (fun value digit => value * 10 + (digit.toNat - '0'.toNat)) 0 =
        Nat.ofDigitChars 10 digits 0 := by
      rw [Nat.ofDigitChars_eq_foldl]
      congr 1
      funext value digit
      rw [Nat.mul_comm]
    have small := fits _ rfl
    rw [number, List.all_eq_true.mpr every, decide_eq_false empty, Url.portNumber?, if_neg empty]
    exact if_pos (Nat.lt_succ_of_le small)

/-- **The port is the written one**, if it is written with digits. -/
theorem writtenPort?_eq (formed : spelling.WellFormed)
    (read : Url.Host.readWeb spelling.host = .ok host)
    (fits : ∀ number ∈ Url.portNumber? (spelling.port.getD []), number ≤ 65535)
    (authority : dial.authority = String.ofList spelling.authority) :
    dial.writtenPort? = Url.portNumber? (spelling.port.getD []) := by
  have digits := formed.digits
  rw [writtenPort?, authority, String.toList_ofList, Spelling.authority]
  cases port : spelling.port with
  | some written =>
      rw [port, Option.getD_some] at fits digits
      have absent : ':' ∉ written := by
        intro member
        cases digits ':' member
      have whole : signed spelling.userinfo ++ (spelling.host ++ marked ':' (some written)) =
          (signed spelling.userinfo ++ spelling.host) ++ ':' :: written := by
        simp [marked]
      rw [whole, afterLast_append _ absent, portNumber?_eq digits fits, if_pos]
      · rfl
      · simp
  | none =>
      rw [marked, List.append_nil]
      split
      · rename_i colon
        rw [List.contains_iff_mem] at colon
        -- Something that is no digit stands behind the last colon.
        rcases Url.Host.cases_of_readWeb read with ⟨inner, pieces, written, -, -⟩ | ⟨bare, -⟩
        · have whole : signed spelling.userinfo ++ spelling.host =
              (signed spelling.userinfo ++ '[' :: inner) ++ [']'] := by
            simp [written]
          rw [whole]
          refine portNumber?_eq_none (c := ']') (by decide) (by decide) ?_
          exact mem_afterLast (by decide) List.not_mem_nil _
        · have absent := Url.notMem_of_endsAtColon bare formed.host_ends
          cases userinfo : spelling.userinfo with
          | none =>
              rw [userinfo] at colon
              exact absurd colon absent
          | some name =>
              rw [signed, List.append_assoc]
              refine portNumber?_eq_none (c := '@') (by decide) (by decide) ?_
              exact mem_afterLast (by decide) absent name
      · rfl

end

/-- **The port is that of the endpoint**, if the scheme is one of a connection in small letters. -/
theorem port?_eq {endpoint : Endpoint} {spelling : Spelling} {host : Url.Host} {dial : Dial}
    (formed : spelling.WellFormed) (read : Url.Host.readWeb spelling.host = .ok host)
    (fits : ∀ number ∈ Url.portNumber? (spelling.port.getD []), number ≤ 65535)
    (url_eq : endpoint.url = spelling.toUrl host)
    (scheme : spelling.scheme = "ws".toList ∨ spelling.scheme = "wss".toList)
    (scheme_eq : dial.scheme = some (String.ofList spelling.scheme))
    (authority : dial.authority = String.ofList spelling.authority) :
    dial.port? = some endpoint.port := by
  have name : endpoint.url.scheme = spelling.schemeName := congrArg Url.scheme url_eq
  have default : Endpoint.isScheme endpoint.url.scheme ∧
      schemePort? dial.scheme = some endpoint.defaultPort := by
    rw [Endpoint.defaultPort, Endpoint.isSecure, name, Spelling.schemeName, scheme_eq]
    rcases scheme with same | same <;> rw [same] <;> exact ⟨rfl, rfl⟩
  rw [Dial.port?, writtenPort?_eq formed read fits authority, Endpoint.port_eq default.1 url_eq,
    default.2]
  cases Url.portNumber? (spelling.port.getD []) <;> rfl

end Dial

/-! ## The target -/

/-- The target that a URL asks for: its path, and its query if it has one. -/
def Url.target (url : Url) : List Char :=
  url.path ++ marked '?' url.query

namespace Url.Spelling

/-- What follows the authority if there is no fragment. -/
theorem tail_eq {spelling : Spelling} (fragment : spelling.fragment = none) :
    spelling.tail = spelling.path ++ marked '?' spelling.query := by
  rw [tail, fragment, marked, List.append_nil]

/-- Without a fragment there is no number sign behind the authority. -/
theorem WellFormed.notMem_tail {spelling : Spelling} (formed : spelling.WellFormed)
    (fragment : spelling.fragment = none) : '#' ∉ spelling.tail := by
  intro member
  refine formed.fragment_eq_none_iff.mp fragment ?_
  simp [text, member]

/-- **The written target is the right one** exactly if nothing is written, or if the path and the
query are written as the URL has them. -/
theorem WellFormed.target_eq_iff {spelling : Spelling} (formed : spelling.WellFormed)
    (fragment : spelling.fragment = none) (host : Host) :
    (if spelling.tail = [] then ['/'] else spelling.tail) = (spelling.toUrl host).target ↔
      spelling.tail = [] ∨ (spelling.toUrl host).path = spelling.path ∧
        (spelling.toUrl host).query = spelling.query := by
  rw [tail_eq fragment]
  by_cases empty : spelling.path ++ marked '?' spelling.query = []
  · refine iff_of_true ?_ (.inl empty)
    rw [if_pos empty]
    obtain ⟨path, query⟩ := List.append_eq_nil_iff.mp empty
    have absent : spelling.query = none := by
      cases same : spelling.query with
      | none => rfl
      | some piece =>
          rw [same] at query
          cases query
    simp only [target, toUrl, path, absent]
    rfl
  · rw [if_neg empty, or_iff_right empty]
    constructor
    · intro same
      obtain ⟨path, query⟩ := Text.eq_of_append_eq (forall_ne_of_notMem formed.path.1)
        (forall_ne_of_notMem (notMem_readPath _ _)) (stops_marked '?' _) (stops_marked '?' _) same
      exact ⟨path.symm, (marked_inj query).symm⟩
    · rintro ⟨path, query⟩
      rw [target, path, query]

end Url.Spelling

/-! ## What was checked -/

namespace Dial

/-- The spellings that a client can dial: nothing is written that a client would have to tidy up. -/
structure IsDialable (text : String) (spelling : Spelling) : Prop where
  short : text.utf8ByteSize ≤ maxLength
  whole : text.toList = spelling.text
  scheme : spelling.scheme = "ws".toList ∨ spelling.scheme = "wss".toList
  slashes : spelling.slashes = ['/', '/']
  checked : checkAuthority spelling.authority = .ok ()
  slash : spelling.path.head? ≠ some '\\'
  path : ∀ c ∈ spelling.path, isPathChar c
  query : ∀ c ∈ spelling.query.getD [], isQueryChar c

/-- A scheme that a client supports. -/
def IsSupported (dial : Dial) : Prop :=
  dial.checkScheme ≠ .error .unsupportedScheme

theorem isSupported_iff {dial : Dial} :
    dial.IsSupported ↔ dial.scheme = some "ws" ∨ dial.scheme = some "wss" := by
  unfold IsSupported checkScheme
  split <;> simp_all

section

variable {text : String} {spelling : Spelling} {dial : Dial}

/-- A client that dials reads the spelling. -/
theorem parts_of_parse (formed : spelling.WellFormed) (fragment : spelling.fragment = none)
    (written : Url.clean text = spelling.text) (dialled : parse text = .ok dial)
    (supported : dial.IsSupported) :
    Parts text dial spelling.scheme spelling.authority spelling.tail ∧
      spelling.slashes = ['/', '/'] ∧ text.toList = spelling.text := by
  have named : dial.scheme.isSome := by
    rcases isSupported_iff.mp supported with same | same <;> rw [same] <;> rfl
  obtain ⟨scheme, authority, after, parts⟩ := parse_eq_ok_iff.mp ⟨dialled, named⟩
  have unmarked : '#' ∉ after := by
    intro member
    refine formed.fragment_eq_none_iff.mp fragment ?_
    rw [← written]
    refine Url.mem_clean (by decide) ?_
    rw [parts.whole]
    simp [member]
  have whole : text.toList = spelling.text := by
    rw [← parts.clean_eq unmarked, written]
  obtain ⟨rfl, slashes, rfl, rfl⟩ := parts.eq_of_text formed whole
  exact ⟨parts, slashes, whole⟩

/-- **Which endpoints a client dials.** -/
theorem exists_parse_iff (formed : spelling.WellFormed) (fragment : spelling.fragment = none)
    (written : Url.clean text = spelling.text) :
    (∃ dial, parse text = .ok dial ∧ dial.IsSupported) ↔ IsDialable text spelling := by
  have unmarked := formed.notMem_tail fragment
  rw [Spelling.tail_eq fragment] at unmarked
  constructor
  · rintro ⟨dial, dialled, supported⟩
    obtain ⟨parts, slashes, whole⟩ := parts_of_parse formed fragment written dialled supported
    have target := parts.target
    have ends := parts.ends
    rw [Spelling.tail_eq fragment] at target ends
    obtain ⟨path, query, -⟩ := (readTarget_eq_ok_iff unmarked formed.path.1).mp target
    refine ⟨parts.short, whole, ?_, slashes, parts.checked, ?_, path, query⟩
    · rw [isSupported_iff, parts.scheme_eq, Option.some.injEq, Option.some.injEq,
        ← String.toList_inj, ← String.toList_inj, String.toList_ofList] at supported
      exact supported
    · intro backslash
      have stop := ends.of_append '\\' backslash
      cases stop
  · rintro ⟨short, whole, scheme, slashes, checked, slash, path, query⟩
    have target := (readTarget_eq_ok_iff unmarked formed.path.1).mpr ⟨path, query, rfl⟩
    have ends : Stops (!endsAuthority ·) (spelling.path ++ marked '?' spelling.query) := by
      refine Stops.append ?_ fun _ => ?_
      · intro c first
        have head := formed.path_head c first
        rw [Bool.not_eq_false', Url.SchemeKind.isSlash, Bool.or_eq_true, beq_iff_eq] at head
        rcases head with rfl | backslash
        · decide
        · obtain rfl : c = '\\' := by simpa using backslash
          exact absurd first slash
      · cases spelling.query with
        | none => exact .nil
        | some query => exact .cons (by decide) _
    rw [← Spelling.tail_eq fragment] at target ends
    have tail : text.toList =
        spelling.scheme ++ ':' :: '/' :: '/' :: (spelling.authority ++ spelling.tail) := by
      rw [whole, Spelling.text, slashes]
      rfl
    let dial : Dial :=
      { scheme := some (String.ofList spelling.scheme)
        authority := String.ofList spelling.authority
        target := if spelling.tail = [] then "/" else String.ofList spelling.tail }
    have parts : Parts text dial spelling.scheme spelling.authority spelling.tail :=
      ⟨short, tail, formed.scheme_chars, formed.authority_ne, checked, ends, target, rfl, rfl⟩
    refine ⟨dial, (parse_eq_ok_iff.mpr ⟨_, _, _, parts⟩).1, isSupported_iff.mpr ?_⟩
    rw [parts.scheme_eq]
    rcases scheme with same | same <;> rw [same]
    · exact .inl rfl
    · exact .inr rfl

end

/-- **Where a client dials for an endpoint.**  A client reads the text of an endpoint again.  It
accepts the text exactly if the spelling has nothing that needs to be tidied up.  The host and the
port are then those of the endpoint.  The target is what is written behind the authority, or a slash
if nothing is; it is the path and the query of the endpoint exactly if nothing is written there, or
if both are written as the endpoint has them. -/
theorem place_of_endpoint {text : String} {endpoint : Endpoint}
    (accepted : Endpoint.parse text = .ok endpoint) :
    ∃ spelling : Spelling, spelling.WellFormed ∧ Url.clean text = spelling.text ∧
      endpoint.url.path.head? = some '/' ∧
      ((∃ dial, parse text = .ok dial ∧ dial.IsSupported) ↔ IsDialable text spelling) ∧
      ∀ dial, parse text = .ok dial → dial.IsSupported →
        (∃ host, Url.Host.readWeb dial.host.toList = .ok host ∧ endpoint.url.host = some host) ∧
        dial.port? = some endpoint.port ∧
        dial.target.toList = (if spelling.tail = [] then ['/'] else spelling.tail) ∧
        (dial.target.toList = endpoint.url.target ↔ spelling.tail = [] ∨
          endpoint.url.path = spelling.path ∧ endpoint.url.query = spelling.query) := by
  obtain ⟨parsed, known, fragment, -⟩ := Endpoint.parse_eq_ok_iff.mp accepted
  obtain ⟨spelling, host, formed, written, read, url_eq⟩ :=
    Endpoint.exists_spelling_of_scheme parsed known
  rw [url_eq] at fragment
  have unmarked : spelling.fragment = none := Option.map_eq_none_iff.mp fragment
  have path : endpoint.url.path.head? = some '/' := by
    rw [url_eq]
    exact Url.head?_readPath _ _
  refine ⟨spelling, formed, written, path, exists_parse_iff formed unmarked written, ?_⟩
  intro dial dialled supported
  have web := Endpoint.web_of_isScheme known
  rw [url_eq] at parsed web
  obtain ⟨-, -, fits, -⟩ := (Spelling.parse_eq_ok_iff formed written web).mp parsed
  have dialable := (exists_parse_iff formed unmarked written).mp ⟨dial, dialled, supported⟩
  obtain ⟨parts, -, -⟩ := parts_of_parse formed unmarked written dialled supported
  have target : dial.target.toList = if spelling.tail = [] then ['/'] else spelling.tail := by
    have read := parts.target
    have sent := formed.notMem_tail unmarked
    rw [Spelling.tail_eq unmarked] at read sent ⊢
    rw [← ((readTarget_eq_ok_iff sent formed.path.1).mp read).2.2]
    split
    · rfl
    · rw [String.toList_ofList]
  refine ⟨⟨host, ?_, ?_⟩, ?_, target, ?_⟩
  · rw [host_eq formed read parts.checked parts.authority_eq]
    exact read
  · rw [url_eq]
    rfl
  · exact port?_eq formed read fits url_eq dialable.scheme parts.scheme_eq parts.authority_eq
  · rw [target, url_eq]
    exact formed.target_eq_iff unmarked host

/-- An endpoint that is dialled where it is. -/
theorem place_of_plain_endpoint :
    ∃ endpoint dial, Endpoint.parse "ws://h:81/a?b" = .ok endpoint ∧
      parse "ws://h:81/a?b" = .ok dial ∧ dial.IsSupported ∧
      (∃ host, Url.Host.readWeb dial.host.toList = .ok host ∧ endpoint.url.host = some host) ∧
      dial.port? = some endpoint.port := by
  have accepted : Endpoint.parse "ws://h:81/a?b" = .ok ⟨"ws://h:81/a?b", "ws", [], [],
      some (.name ['h']), some 81, ['/', 'a'], some ['b'], none⟩ :=
    Endpoint.parse_eq_ok_iff.mpr ⟨by decide +kernel, rfl, rfl, rfl⟩
  have dialled : parse "ws://h:81/a?b" = .ok ⟨some "ws", "h:81", "/a?b"⟩ := by
    decide +kernel
  have supported : (Dial.mk (some "ws") "h:81" "/a?b").IsSupported := isSupported_iff.mpr (.inl rfl)
  obtain ⟨spelling, -, -, -, -, place⟩ := place_of_endpoint accepted
  obtain ⟨host, port, -, -⟩ := place _ dialled supported
  exact ⟨_, _, accepted, dialled, supported, host, port⟩

/-- **An endpoint need not be dialled as it is.**  A query behind the host belongs to the path of a
slash for the endpoint, and is sent without a path by the client. -/
theorem misdialled_endpoints :
    ∃ endpoint dial, Endpoint.parse "ws://127.0.0.1?q" = .ok endpoint ∧
      parse "ws://127.0.0.1?q" = .ok dial ∧ dial.IsSupported ∧
      dial.requestLine = "GET ?q HTTP/1.1" ∧ endpoint.url.target = "/?q".toList := by
  refine ⟨⟨"ws://127.0.0.1?q", "ws", [], [], some (.short 0x7f000001), none, ['/'], some ['q'],
    none⟩, ⟨some "ws", "127.0.0.1", "?q"⟩, ?_, ?_, isSupported_iff.mpr (.inl rfl), ?_, rfl⟩
  · exact Endpoint.parse_eq_ok_iff.mpr ⟨by decide +kernel, rfl, rfl, rfl⟩
  · decide +kernel
  · decide

end Dial

end WebSocketClient
