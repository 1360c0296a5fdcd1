import WebSocketClient.Proofs.Url.Spelling
import WebSocketClient.Proofs.Utf8

/-!
# The hosts of web addresses

A host that is read is never empty in its written form (`Host.text_ne_of_readWeb`), and a text that
is read as a host has closed every bracket that it opens (`Host.endsAtColon_of_readWeb`), so a colon
behind it always begins a port.

The second fact rests on brackets not getting lost.  A host that does not begin with a bracket is a
domain name, and before its characters are looked at, it goes through percent-decoding, mapping and
normalizing.  An opening bracket stays what it is in all of these (`mem_normalize`), and is found
out to be forbidden in the end.  It is left as it is by normalizing because it is no mark and takes
in none.
-/

namespace WebSocketClient

set_option autoImplicit false

/-! ## Normalizing -/

namespace Unicode

theorem perm_insertMark (c : Char) (text : List Char) : (insertMark c text).Perm (c :: text) := by
  induction text with
  | nil => exact .refl _
  | cons d text ih =>
      rw [insertMark]
      split
      · exact (ih.cons d).trans (.swap c d text)
      · exact .refl _

theorem perm_reorder (text : List Char) : (reorder text).Perm text := by
  induction text with
  | nil => exact .refl _
  | cons c text ih => exact (perm_insertMark c (reorder text)).trans (ih.cons c)

/-- A character that normalizing leaves alone: it is no mark, and takes in none. -/
def IsInert (c : Char) : Prop :=
  c.toNat < 0xc0 ∧ takesMarks c = false

variable {inert : Char}

theorem composePair?_inert_left (still : IsInert inert) (c : Char) :
    composePair? inert c = none := by
  rw [composePair?, still.2]
  rfl

theorem composePair?_inert_right (still : IsInert inert) (c : Char) :
    composePair? c inert = none := by
  have low : inert.toNat < 0xc0 := still.1
  rw [composePair?, decide_eq_false (show ¬0x300 ≤ inert.toNat by omega), Bool.and_false]
  rfl

theorem mem_composeFrom (still : IsInert inert) {starter : Char} {marks text : List Char}
    (member : inert ∈ starter :: (marks ++ text)) : inert ∈ composeFrom starter marks text := by
  induction text generalizing starter marks with
  | nil =>
      rw [composeFrom]
      rwa [List.append_nil] at member
  | cons c text ih =>
      rw [composeFrom]
      split
      · rename_i composed found
        refine ih ?_
        have pair : composePair? starter c = some composed :=
          (Option.ite_none_left_eq_some.mp found).2
        rcases List.mem_cons.mp member with rfl | member
        · rw [composePair?_inert_left still] at pair
          cases pair
        · rcases List.mem_append.mp member with member | member
          · exact List.mem_cons_of_mem _ (List.mem_append_left _ member)
          · rcases List.mem_cons.mp member with rfl | member
            · rw [composePair?_inert_right still] at pair
              cases pair
            · exact List.mem_cons_of_mem _ (List.mem_append_right _ member)
      · split
        · rcases List.mem_cons.mp member with rfl | member
          · exact List.mem_cons_self ..
          · refine List.mem_cons_of_mem _ ?_
            rcases List.mem_append.mp member with member | member
            · exact List.mem_append_left _ member
            · exact List.mem_append_right _ (ih member)
        · refine ih ?_
          rw [List.append_assoc, List.singleton_append]
          exact member

theorem mem_compose (still : IsInert inert) {text : List Char} (member : inert ∈ text) :
    inert ∈ compose text := by
  induction text with
  | nil => cases member
  | cons c text ih =>
      rw [compose]
      split
      · exact mem_composeFrom still member
      · rcases List.mem_cons.mp member with rfl | member
        · exact List.mem_cons_self ..
        · exact List.mem_cons_of_mem _ (ih member)

/-- **Normalizing leaves such a character where it is.** -/
theorem mem_normalize (still : IsInert inert) {text : List Char} (member : inert ∈ text) :
    inert ∈ normalize text := by
  unfold normalize
  split
  · exact member
  · refine mem_compose still ((perm_reorder _).mem_iff.mpr ?_)
    refine List.mem_flatMap.mpr ⟨inert, member, ?_⟩
    rw [decompose, if_pos still.1]
    exact List.mem_singleton_self inert

end Unicode

/-! ## Domain names -/

namespace Idna

theorem mem_mapText? {c : Char} (valid : Unicode.domainStatus c = .valid) {name mapped : List Char}
    (maps : mapText? name = some mapped) (member : c ∈ name) : c ∈ mapped := by
  obtain ⟨pieces, read, rfl⟩ := Option.map_eq_some_iff.mp maps
  have itself : mapChar? c = some [c] := by
    rw [mapChar?, valid]
  have piece : [c] ∈ pieces := by
    clear maps
    induction name generalizing pieces with
    | nil => cases member
    | cons d name ih =>
        rw [List.mapM_cons] at read
        obtain ⟨first, mapped, read⟩ := Option.bind_eq_some_iff.mp read
        obtain ⟨others, rest, read⟩ := Option.bind_eq_some_iff.mp read
        cases read
        rcases List.mem_cons.mp member with rfl | member
        · rw [itself] at mapped
          cases mapped
          exact List.mem_cons_self ..
        · exact List.mem_cons_of_mem _ (ih member others rest)
  exact List.mem_flatten.mpr ⟨[c], piece, List.mem_singleton_self c⟩

/-- **A forbidden character is found out**, if mapping and normalizing leave it alone. -/
theorem toAscii?_eq_none {c : Char} (valid : Unicode.domainStatus c = .valid)
    (still : Unicode.IsInert c) (forbidden : isForbidden c) {name : List Char}
    (member : c ∈ name) : toAscii? name = none := by
  unfold toAscii?
  cases maps : mapText? name with
  | none => rfl
  | some mapped =>
      have kept := Unicode.mem_normalize still (mem_mapText? valid maps member)
      have found := List.any_eq_true.mpr ⟨c, kept, forbidden⟩
      exact if_pos found

end Idna

/-! ## Hosts -/

namespace Url

open Text (Stops stops_dropWhile)

/-- Decoding leaves a byte alone that is no percent sign and no hexadecimal digit. -/
theorem mem_percentDecode {byte : UInt8} (sign : byte ≠ 37) (digit : hexValue? byte = none)
    {bytes : List UInt8} (member : byte ∈ bytes) : byte ∈ percentDecode bytes := by
  have undecoded (high low decoded : UInt8) (hex : byteOfHex? high low = some decoded) :
      byte ≠ high ∧ byte ≠ low := by
    obtain ⟨first, value, hex⟩ := Option.bind_eq_some_iff.mp hex
    obtain ⟨second, other, -⟩ := Option.bind_eq_some_iff.mp hex
    refine ⟨?_, ?_⟩
    · rintro rfl
      rw [digit] at value
      cases value
    · rintro rfl
      rw [digit] at other
      cases other
  fun_induction percentDecode bytes with
  | case1 => cases member
  | case2 high low tail decoded hex ih =>
      obtain ⟨first, second⟩ := undecoded high low decoded hex
      simp only [List.mem_cons, sign, first, second, false_or] at member
      exact List.mem_cons_of_mem _ (ih member)
  | case3 high low tail hex ih =>
      simp only [List.mem_cons, sign, false_or] at member
      exact List.mem_cons_of_mem _ (ih (by simpa using member))
  | case4 short => exact member
  | case5 other rest differs ih =>
      rcases List.mem_cons.mp member with rfl | member
      · exact List.mem_cons_self ..
      · exact List.mem_cons_of_mem _ (ih member)

theorem shortText_ne (address : Nat) : shortText address ≠ [] := by
  simp [shortText, List.intercalate, List.intersperse]

namespace Host

/-- A character that no domain name has, and that decoding, mapping and normalizing leave alone. -/
structure IsBarred (c : Char) : Prop where
  basic : c.toNat < 128
  sign : c ≠ '%'
  digit : hexValue? (UInt8.ofNat c.toNat) = none
  valid : Unicode.domainStatus c = .valid
  inert : Unicode.IsInert c
  forbidden : Idna.isForbidden c

theorem isBarred_bracket : IsBarred '[' :=
  ⟨by decide, by decide, by decide, by decide, ⟨by decide, by decide⟩, by decide⟩

theorem isBarred_of_isOuterBlank {c : Char} (blank : isOuterBlank c) : IsBarred c := by
  have low : c.toNat ≤ 0x20 := of_decide_eq_true blank
  have number : (UInt8.ofNat c.toNat).toNat = c.toNat := Utf8.toNat_byte (by omega)
  have alphanum : c.isAlphanum = false := by
    refine eq_false_of_ne_true ?_
    intro letter
    rw [isOuterBlank_of_isAlphanum letter] at blank
    cases blank
  have alpha : c.isAlpha = false := (Bool.or_eq_false_iff.mp alphanum).1
  have upper : c.isUpper = false := (Bool.or_eq_false_iff.mp alpha).1
  have other (d : Char) (high : 0x20 < d.toNat) : c ≠ d := by
    rintro rfl
    omega
  refine ⟨by omega, other '%' (by decide), ?_, ?_, ⟨by omega, ?_⟩, ?_⟩
  · rw [hexValue?, number, if_neg (by omega), if_neg (by omega), if_neg (by omega)]
  · rw [Unicode.domainStatus, if_pos (by omega), upper]
    rfl
  · have narrow : ¬128 ≤ c.toNat := by omega
    simp [Unicode.takesMarks, narrow, alpha, other '<' (by decide), other '=' (by decide),
      other '>' (by decide)]
  · simp [Idna.isForbidden, low]

/-- **A barred character keeps a text from being a domain name.** -/
theorem notMem_of_lookupForm? {c : Char} (barred : IsBarred c) {text domain : List Char}
    (read : lookupForm? text = some domain) : c ∉ text := by
  intro member
  have low := barred.basic
  have number : (UInt8.ofNat c.toNat).toNat = c.toNat := Utf8.toNat_byte (by omega)
  have bytes : UInt8.ofNat c.toNat ∈ percentDecode (Utf8.encode (String.ofList text)) := by
    refine mem_percentDecode ?_ barred.digit ?_
    · intro same
      have percent := congrArg UInt8.toNat same
      rw [number] at percent
      exact barred.sign (Char.toNat_inj.mp percent)
    · rw [Utf8.encode_eq, String.toList_ofList]
      refine List.mem_flatMap.mpr ⟨c, member, ?_⟩
      have small : c.val.toNat ≤ 127 := Nat.le_of_lt_succ low
      rw [String.utf8EncodeChar, if_pos small]
      exact List.mem_singleton_self _
  unfold lookupForm? at read
  split at read
  · rename_i decoded decodes
    have kept := Utf8.mem_of_decode decodes (by omega) bytes
    rw [number, Char.ofNat_toNat] at kept
    rw [Idna.toAscii?_eq_none barred.valid barred.inert barred.forbidden kept] at read
    cases read
  · cases read

/-- A text that is read as a host is in brackets, or has no opening bracket. -/
theorem cases_of_readWeb {text : List Char} {host : Host} (read : readWeb text = .ok host) :
    (∃ inner pieces, text = '[' :: (inner ++ [']']) ∧ readLong? inner = some pieces ∧
      host = .long pieces) ∨
    '[' ∉ text ∧ ∃ domain, lookupForm? text = some domain ∧ readDomain domain = .ok host := by
  unfold readWeb at read
  split at read
  · rename_i rest
    unfold readBracketed at read
    split at read
    · rename_i last
      split at read
      · rename_i pieces long
        cases read
        refine .inl ⟨rest.dropLast, pieces, ?_, long, rfl⟩
        rw [List.dropLast_append_getLast? _ last]
      · cases read
    · cases read
  · split at read
    · rename_i domain found
      exact .inr ⟨notMem_of_lookupForm? isBarred_bracket found, domain, found, read⟩
    · cases read

/-- **The written form of a host is not empty.** -/
theorem text_ne_of_readWeb {text : List Char} {host : Host} (read : readWeb text = .ok host) :
    host.text ≠ [] := by
  rcases cases_of_readWeb read with ⟨inner, pieces, -, -, rfl⟩ | ⟨-, domain, -, read⟩
  · exact List.cons_ne_nil _ _
  · unfold readDomain at read
    split at read
    · cases read
    · rename_i written
      split at read
      · split at read
        · cases read
          exact shortText_ne _
        · cases read
      · cases read
        exact written

/-- **A colon behind a host begins a port.** -/
theorem endsAtColon_of_readWeb {text : List Char} {host : Host} (read : readWeb text = .ok host)
    (cut : cutPort false text = (text, none)) : EndsAtColon false text := by
  refine endsAtColon_of_closed cut ?_
  rcases cases_of_readWeb read with ⟨inner, pieces, rfl, -, -⟩ | ⟨absent, -⟩
  · rw [bracketedAfter, ← List.cons_append, List.foldl_append]
    rfl
  · clear read cut
    induction text with
    | nil => rfl
    | cons c text ih =>
        rw [List.mem_cons, not_or] at absent
        rw [bracketedAfter, List.foldl_cons, if_neg (Ne.symm absent.1)]
        have still : (if c = ']' then false else false) = false := ite_self false
        rw [still]
        exact ih absent.2

end Host

/-! ## Another port -/

/-- A host does not end in a blank. -/
theorem Host.stops_reverse_of_readWeb {text : List Char} {host : Host}
    (read : readWeb text = .ok host) : Stops isOuterBlank text.reverse := by
  rcases cases_of_readWeb read with ⟨inner, pieces, rfl, -, -⟩ | ⟨-, domain, found, -⟩
  · rw [← List.cons_append, List.reverse_append]
    exact .cons (by decide) _
  · intro c last
    refine eq_false_of_ne_true ?_
    intro blank
    have member : c ∈ text := List.mem_reverse.mp (List.mem_of_mem_head? last)
    exact notMem_of_lookupForm? (isBarred_of_isOuterBlank blank) found member

/-- **Another port piece brings no blanks**, so the text with it is what it says. -/
theorem Spelling.WellFormed.isClean_withPort {spelling : Spelling} (formed : spelling.WellFormed)
    {host : Host} (read : Host.readWeb spelling.host = .ok host) (sound : IsClean spelling.text)
    {port : Option (List Char)} (digits : ∀ c ∈ port.getD [], c.isDigit) :
    IsClean (spelling.withPort port).text := by
  obtain ⟨head, last, inner⟩ := sound
  have written : spelling.scheme ≠ [] := by
    intro empty
    have first := formed.scheme_head
    rw [empty] at first
    cases first
  have plain : ∀ c ∈ marked ':' port, isOuterBlank c = false := by
    cases port with
    | none => exact List.forall_mem_nil _
    | some piece =>
        intro c member
        rcases List.mem_cons.mp member with rfl | member
        · decide
        · exact isOuterBlank_of_isAlphanum (Bool.or_eq_true_iff.mpr (.inr (digits c member)))
  rw [Spelling.text_eq] at last inner
  refine ⟨?_, ?_, ?_⟩
  · intro c first
    refine head c ?_
    change c ∈ (spelling.scheme ++ _).head? at first
    rw [List.head?_append_of_ne_nil _ written] at first
    rw [Spelling.text, List.head?_append_of_ne_nil _ written]
    exact first
  · -- The last character is that of the tail, of the port or of the host.
    rw [Spelling.text_eq, List.reverse_append, List.reverse_append, List.reverse_append,
      List.append_assoc, List.append_assoc]
    rw [List.reverse_append, List.reverse_append, List.reverse_append, List.append_assoc,
      List.append_assoc] at last
    refine last.of_append.append fun _ => ?_
    refine Stops.append ?_ fun _ => ?_
    · intro c member
      exact plain c (List.mem_reverse.mp (List.mem_of_mem_head? member))
    · refine (Host.stops_reverse_of_readWeb read).append fun empty => ?_
      exact absurd (List.reverse_eq_nil_iff.mp empty) formed.host_ne
  · intro c member
    rw [Spelling.text_eq, List.mem_append, List.mem_append, List.mem_append] at member
    simp only [List.mem_append] at inner
    rcases member with member | member | member | member
    · exact inner c (.inl member)
    · exact inner c (.inr (.inl member))
    · exact isInnerBlank_of_isOuterBlank (plain c member)
    · exact inner c (.inr (.inr (.inr member)))

/-! ## Every web address has a spelling -/

/-- What is read in two steps is read in the first. -/
theorem exists_ok_of_bind {Failed First Second : Type} {first : Except Failed First}
    {next : First → Except Failed Second} {last : Second} (read : first >>= next = .ok last) :
    ∃ value, first = .ok value ∧ next value = .ok last := by
  cases first with
  | error fault => cases read
  | ok value => exact ⟨value, rfl, read⟩

/-- A text with a scheme is the scheme, a colon, and the rest. -/
theorem exists_scheme {text written rest : List Char}
    (cut : cutScheme? text = some (written, rest)) :
    ∃ scheme : List Char, text = scheme ++ ':' :: rest ∧ scheme.map Char.toLower = written ∧
      scheme.head?.any Char.isAlpha ∧ ∀ c ∈ scheme, isSchemeChar c := by
  unfold cutScheme? at cut
  split at cut
  · rename_i head
    split at cut
    · rename_i tail follows
      cases cut
      have whole := List.takeWhile_append_dropWhile (p := isSchemeChar) (l := text)
      rw [follows] at whole
      refine ⟨_, whole.symm, rfl, ?_, fun c member => List.mem_takeWhile_imp member⟩
      cases text with
      | nil => cases head
      | cons c text =>
          have letter : c.isAlpha := head
          have inner : isSchemeChar c = true := by
            simp [isSchemeChar, Char.isAlphanum, letter]
          rw [List.takeWhile_cons_of_pos inner]
          exact letter
    · cases cut
  · cases cut

/-- A web address was read from its pieces. -/
theorem exists_rest {text : String} {url : Url} (parsed : Url.parse text = .ok url)
    (web : SchemeKind.of url.scheme = .web) :
    ∃ written rest, cutScheme? (clean text) = some (written, rest) ∧
      String.ofList written = url.scheme ∧
      readWebPieces url.scheme (Pieces.ofText .web rest) = .ok url := by
  unfold Url.parse at parsed
  split at parsed
  · cases parsed
  · rename_i written rest cut
    refine ⟨written, rest, cut, ?_⟩
    dsimp only at parsed
    generalize String.ofList written = scheme at parsed
    have scheme_eq (pieces : Pieces) (read : readWebPieces scheme pieces = .ok url ∨
        readFilePieces scheme pieces = .ok url ∨ readOtherPieces scheme pieces = .ok url) :
        scheme = url.scheme := by
      rcases read with read | read | read
      · obtain ⟨site, -, read⟩ := exists_ok_of_bind read
        cases read
        rfl
      · obtain ⟨host, -, read⟩ := exists_ok_of_bind read
        cases read
        rfl
      · simp only [readOtherPieces] at read
        split at read
        · obtain ⟨site, -, read⟩ := exists_ok_of_bind read
          cases read
          rfl
        · cases read
          rfl
    split at parsed
    · rename_i kind
      have same := scheme_eq _ (.inl parsed)
      subst same
      rw [kind] at parsed
      exact ⟨rfl, parsed⟩
    · rename_i kind
      rw [scheme_eq _ (.inr (.inl parsed)), web] at kind
      cases kind
    · rename_i kind
      rw [scheme_eq _ (.inr (.inr parsed)), web] at kind
      cases kind

/-- An authority that is read has a host, and nothing but digits as its port. -/
theorem exists_site {authority : List Char} {site : Site}
    (read : readWebSite authority = .ok site) :
    ∃ userinfo host port, authority = signed userinfo ++ (host ++ marked ':' port) ∧
      '@' ∉ host ++ marked ':' port ∧ host ≠ [] ∧ EndsAtColon false host ∧
      ∀ c ∈ port.getD [], c.isDigit := by
  obtain ⟨userinfo, rest, rfl, unsigned⟩ := exists_signed authority
  have whole := cutPort_append false rest
  have pieces : Authority.ofText (signed userinfo ++ rest) =
      ⟨userinfo, (cutPort false rest).1, (cutPort false rest).2⟩ := by
    simp only [Authority.ofText, cutUserinfo_signed unsigned]
  rw [readWebSite, pieces] at read
  cases cut : cutPort false rest with
  | mk host port =>
      rw [cut] at whole read
      dsimp only at whole read
      split at read
      · cases read
      · rename_i host_ne
        obtain ⟨found, readHost, read⟩ := exists_ok_of_bind read
        obtain ⟨number, readPort, -⟩ := exists_ok_of_bind read
        refine ⟨userinfo, host, port, by rw [whole], by rwa [whole], host_ne, ?_,
          (readPort_eq_ok_iff.mp readPort).1⟩
        cases port with
        | some digits => exact endsAtColon_of_port cut
        | none =>
            rw [marked, List.append_nil] at whole
            subst whole
            exact Host.endsAtColon_of_readWeb readHost cut

/-- What follows an authority is a path, a query and a fragment. -/
theorem exists_tail {tail : List Char} (stops : Stops (!SchemeKind.endsAuthority .web ·) tail) :
    ∃ path query fragment, tail = path ++ marked '?' query ++ marked '#' fragment ∧
      Stops (!SchemeKind.isSlash .web ·) path ∧ ('?' ∉ path ∧ '#' ∉ path) ∧
      '#' ∉ query.getD [] := by
  obtain ⟨before, fragment, rfl, unmarked⟩ := exists_marked '#' tail
  obtain ⟨path, query, rfl, absent⟩ := exists_marked '?' before
  rw [List.mem_append, not_or] at unmarked
  refine ⟨path, query, fragment, rfl, ?_, ⟨absent, unmarked.1⟩, ?_⟩
  · cases path with
    | nil => exact .nil
    | cons c path =>
        refine .cons ?_ path
        have ends := stops c rfl
        rw [Bool.not_eq_false', endsAuthority_web_iff] at ends
        rcases ends with rfl | rfl | rfl | rfl
        · decide
        · decide
        · exact absurd (List.mem_cons_self ..) absent
        · exact absurd (List.mem_cons_self ..) unmarked.1
  · cases query with
    | none => exact List.not_mem_nil
    | some query => exact fun member => unmarked.2 (List.mem_cons_of_mem _ member)

/-- **Every web address has a spelling.** -/
theorem exists_spelling {text : String} {url : Url} (parsed : Url.parse text = .ok url)
    (web : SchemeKind.of url.scheme = .web) :
    ∃ spelling : Spelling, spelling.WellFormed ∧ clean text = spelling.text ∧
      spelling.schemeName = url.scheme := by
  obtain ⟨written, rest, cut, name, read⟩ := exists_rest parsed web
  obtain ⟨scheme, whole, rfl, scheme_head, scheme_chars⟩ := exists_scheme cut
  obtain ⟨site, read, -⟩ := exists_ok_of_bind read
  -- The slashes, the authority and what follows it.
  have behind := List.takeWhile_append_dropWhile (p := SchemeKind.isSlash .web) (l := rest)
  have slashes : ∀ c ∈ rest.takeWhile (SchemeKind.isSlash .web), SchemeKind.isSlash .web c :=
    fun c member => List.mem_takeWhile_imp member
  change readWebSite ((rest.dropWhile (SchemeKind.isSlash .web)).takeWhile
    (!SchemeKind.endsAuthority .web ·)) = .ok site at read
  generalize rest.takeWhile (SchemeKind.isSlash .web) = before at behind slashes
  generalize rest.dropWhile (SchemeKind.isSlash .web) = start at behind read
  have parts :=
    List.takeWhile_append_dropWhile (p := (!SchemeKind.endsAuthority .web ·)) (l := start)
  have plain : ∀ c ∈ start.takeWhile (!SchemeKind.endsAuthority .web ·),
      SchemeKind.endsAuthority .web c = false := by
    intro c member
    have inner := List.mem_takeWhile_imp member
    rwa [Bool.not_eq_true'] at inner
  obtain ⟨path, query, fragment, tail, path_head, inPath, inQuery⟩ :=
    exists_tail (stops_dropWhile start)
  generalize start.takeWhile (!SchemeKind.endsAuthority .web ·) = authority at read parts plain
  obtain ⟨userinfo, host, port, rfl, unsigned, host_ne, host_ends, digits⟩ := exists_site read
  refine ⟨⟨scheme, before, userinfo, host, port, path, query, fragment⟩, ?_, ?_, name⟩
  · exact ⟨scheme_head, scheme_chars, slashes, plain, host_ne, host_ends, unsigned, digits,
      path_head, inPath, inQuery⟩
  · rw [whole, ← behind, ← parts, tail]
    rfl

end Url

end WebSocketClient
