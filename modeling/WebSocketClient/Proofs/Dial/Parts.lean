import WebSocketClient.Dial
import WebSocketClient.Proofs.Url.Host

/-!
# What a client accepts

A client reads a text by rules of its own, and takes every part as it is written.  `Dial.Parts`
lists what it asks of the scheme, the authority and the rest of a text, and a text with a scheme is
accepted exactly if it has such parts (`Dial.parse_eq_ok_iff`).  The characters of an authority are
checked one after another with a record of what was seen; two things about a whole authority follow
from one step of the record: which characters it has (`Dial.isInner_of_checkAuthority`), and that
nothing closes a bracket twice (`Dial.notMem_of_checkAuthority`).

No part takes a blank, so a text that is accepted is clean (`Dial.Parts.clean_eq`).
-/

namespace WebSocketClient

set_option autoImplicit false

open Text (Stops stops_dropWhile)
open Url (marked)

namespace Dial

/-! ## Authorities -/

/-- A character that a client takes for no blank, and that ends no authority of a web address. -/
def IsInner (c : Char) : Prop :=
  Url.isOuterBlank c = false ∧ Url.SchemeKind.endsAuthority .web c = false

theorem isInner_of_isAlphanum {c : Char} (letter : c.isAlphanum) : IsInner c := by
  refine ⟨Url.isOuterBlank_of_isAlphanum letter, eq_false_of_ne_true ?_⟩
  intro ends
  rcases Url.endsAuthority_web_iff.mp ends with rfl | rfl | rfl | rfl <;> cases letter

theorem isInner_of_isPlainChar {c : Char} (plain : isPlainChar c) : IsInner c := by
  have signs : ("!$&'()*+,-.;=_~".toList.all fun c =>
      !Url.isOuterBlank c && !Url.SchemeKind.endsAuthority .web c) = true := by
    decide
  rcases Bool.or_eq_true_iff.mp plain with letter | sign
  · exact isInner_of_isAlphanum letter
  · have inner := List.all_eq_true.mp signs c (List.contains_iff_mem.mp sign)
    rwa [Bool.and_eq_true, Bool.not_eq_true', Bool.not_eq_true'] at inner

namespace Seen

variable {seen next : Seen} {c : Char}

theorem isInner_of_add (added : seen.add c = .ok next) : IsInner c := by
  unfold add at added
  dsimp only at added
  split at added
  · exact ⟨by decide, by decide⟩
  · exact ⟨by decide, by decide⟩
  · exact ⟨by decide, by decide⟩
  · exact ⟨by decide, by decide⟩
  · exact ⟨by decide, by decide⟩
  · split at added
    · rename_i plain
      exact isInner_of_isPlainChar plain
    · cases added

/-- A closing bracket is taken only once. -/
theorem closed_of_bracket (added : seen.add ']' = .ok next) :
    seen.closed = false ∧ next.closed = true := by
  have taken : seen.add ']' = if !seen.opened || seen.closed then .error .invalidAuthority
      else .ok { opened := seen.opened, closed := true } := rfl
  rw [taken] at added
  split at added
  · cases added
  · rename_i going
    cases added
    rw [Bool.or_eq_true, not_or, Bool.not_eq_true, Bool.not_eq_true] at going
    exact ⟨going.2, rfl⟩

theorem closed_eq_of_add (added : seen.add c = .ok next) (differs : c ≠ ']') :
    next.closed = seen.closed := by
  unfold add at added
  dsimp only at added
  repeat' split at added
  all_goals first
    | exact absurd rfl differs
    | cases added
      rfl
    | cases added

variable {chars : List Char}

theorem isInner_of_foldlM (checked : chars.foldlM add seen = .ok next) :
    ∀ c ∈ chars, IsInner c := by
  induction chars generalizing seen with
  | nil => exact List.forall_mem_nil _
  | cons c chars ih =>
      rw [List.foldlM_cons] at checked
      obtain ⟨later, added, checked⟩ := Url.exists_ok_of_bind checked
      exact List.forall_mem_cons.mpr ⟨isInner_of_add added, ih checked⟩

/-- Behind a closing bracket there is no other one. -/
theorem notMem_of_closed (closed : seen.closed = true)
    (checked : chars.foldlM add seen = .ok next) : ']' ∉ chars := by
  induction chars generalizing seen with
  | nil => exact List.not_mem_nil
  | cons c chars ih =>
      rw [List.foldlM_cons] at checked
      obtain ⟨later, added, checked⟩ := Url.exists_ok_of_bind checked
      have differs : c ≠ ']' := by
        rintro rfl
        rw [(closed_of_bracket added).1] at closed
        cases closed
      have after := (closed_eq_of_add added differs).trans closed
      exact List.not_mem_cons_of_ne_of_not_mem (Ne.symm differs) (ih after checked)

end Seen

/-- The characters of an authority that a client accepts. -/
theorem isInner_of_checkAuthority {authority : List Char}
    (checked : checkAuthority authority = .ok ()) : ∀ c ∈ authority, IsInner c := by
  obtain ⟨seen, folded, -⟩ := Url.exists_ok_of_bind checked
  exact Seen.isInner_of_foldlM folded

/-- An authority that a client accepts has one closing bracket at most. -/
theorem notMem_of_checkAuthority {before after : List Char}
    (checked : checkAuthority (before ++ ']' :: after) = .ok ()) : ']' ∉ after := by
  obtain ⟨seen, folded, -⟩ := Url.exists_ok_of_bind checked
  rw [List.foldlM_append] at folded
  obtain ⟨middle, -, folded⟩ := Url.exists_ok_of_bind folded
  rw [List.foldlM_cons] at folded
  obtain ⟨later, added, folded⟩ := Url.exists_ok_of_bind folded
  exact Seen.notMem_of_closed (Seen.closed_of_bracket added).2 folded

/-! ## The parts of a text -/

theorem exists_of_splitScheme {chars rest : List Char} {scheme : String}
    (split : splitScheme chars = (some scheme, rest)) :
    chars = scheme.toList ++ ':' :: '/' :: '/' :: rest ∧ ∀ c ∈ scheme.toList, isSchemeChar c := by
  unfold splitScheme at split
  split at split
  · rename_i follows
    cases split
    have whole := List.takeWhile_append_dropWhile (p := isSchemeChar) (l := chars)
    rw [follows] at whole
    rw [String.toList_ofList]
    exact ⟨whole.symm, fun c member => List.mem_takeWhile_imp member⟩
  · cases split

theorem splitScheme_append {scheme rest : List Char} (chars : ∀ c ∈ scheme, isSchemeChar c) :
    splitScheme (scheme ++ ':' :: '/' :: '/' :: rest) = (some (String.ofList scheme), rest) := by
  have stops : Stops isSchemeChar (':' :: '/' :: '/' :: rest) := .cons (by decide) _
  rw [splitScheme, stops.dropWhile_append chars, stops.takeWhile_append chars]
  rfl

/-- The parts of a text that a client accepts: the scheme, the authority, and what the target is
read from. -/
structure Parts (text : String) (dial : Dial) (scheme authority after : List Char) : Prop where
  short : text.utf8ByteSize ≤ maxLength
  whole : text.toList = scheme ++ ':' :: '/' :: '/' :: (authority ++ after)
  chars : ∀ c ∈ scheme, isSchemeChar c
  written : authority ≠ []
  checked : checkAuthority authority = .ok ()
  ends : Stops (!endsAuthority ·) after
  target : readTarget after = .ok dial.target
  scheme_eq : dial.scheme = some (String.ofList scheme)
  authority_eq : dial.authority = String.ofList authority

/-- **What a client dials** by a text with a scheme. -/
theorem parse_eq_ok_iff {text : String} {dial : Dial} :
    parse text = .ok dial ∧ dial.scheme.isSome ↔
      ∃ scheme authority after, Parts text dial scheme authority after := by
  constructor
  · rintro ⟨dialled, named⟩
    unfold parse at dialled
    cases split : splitScheme text.toList with
    | mk found rest =>
        rw [split] at dialled
        dsimp only at dialled
        split at dialled
        · cases dialled
        · rename_i short
          obtain ⟨⟨⟩, checked, dialled⟩ := Url.exists_ok_of_bind dialled
          cases found with
          | none =>
              dsimp only at dialled
              split at dialled
              · cases dialled
                cases named
              · cases dialled
          | some name =>
              dsimp only at dialled
              split at dialled
              · cases dialled
              · rename_i written
                obtain ⟨target, read, dialled⟩ := Url.exists_ok_of_bind dialled
                cases dialled
                obtain ⟨whole, chars⟩ := exists_of_splitScheme split
                refine ⟨name.toList, _, _, Nat.le_of_not_lt short, ?_, chars, written, checked,
                  stops_dropWhile rest, read, ?_, rfl⟩
                · rw [List.takeWhile_append_dropWhile]
                  exact whole
                · rw [String.ofList_toList]
  · rintro ⟨scheme, authority, after, parts⟩
    obtain ⟨found, place, target⟩ := dial
    obtain ⟨short, whole, chars, written, checked, ends, read, rfl, rfl⟩ := parts
    have within : ∀ c ∈ authority, (!endsAuthority c) = true := by
      intro c member
      have inner := (isInner_of_checkAuthority checked c member).2
      rw [Bool.not_eq_true']
      refine eq_false_of_ne_true ?_
      intro stop
      simp only [endsAuthority, Bool.or_eq_true, beq_iff_eq] at stop
      rcases stop with (rfl | rfl) | rfl <;> cases inner
    refine ⟨?_, rfl⟩
    unfold parse
    rw [whole, splitScheme_append chars]
    dsimp only
    rw [ends.takeWhile_append within, ends.dropWhile_append within, checked,
      if_neg (Nat.not_lt.mpr short)]
    change (if authority = [] then _ else _) = _
    rw [if_neg written, read]
    rfl

/-! ## The target -/

section

variable {path : List Char} {query : Option (List Char)}

/-- **The target is written**, or it is a slash. -/
theorem readTarget_eq_ok_iff (unmarked : '#' ∉ path ++ marked '?' query) (absent : '?' ∉ path)
    {target : String} :
    readTarget (path ++ marked '?' query) = .ok target ↔
      (∀ c ∈ path, isPathChar c) ∧ (∀ c ∈ query.getD [], isQueryChar c) ∧
        (if path ++ marked '?' query = [] then "/" else String.ofList (path ++ marked '?' query)) =
          target := by
  have sent := List.takeWhile_eq_self_iff.mpr (Url.forall_ne_of_notMem unmarked)
  have within := Url.forall_ne_of_notMem absent
  have stops := Url.stops_marked '?' query
  have behind : (marked '?' query).drop 1 = query.getD [] := by
    cases query <;> rfl
  rw [readTarget, sent, stops.takeWhile_append within, stops.dropWhile_append within, behind]
  by_cases fits : (path.all isPathChar && (query.getD []).all isQueryChar) = true
  · rw [if_pos fits, Except.ok.injEq]
    rw [Bool.and_eq_true, List.all_eq_true, List.all_eq_true] at fits
    exact ⟨fun same => ⟨fits.1, fits.2, same⟩, fun read => read.2.2⟩
  · rw [if_neg fits]
    refine iff_of_false (fun read => by cases read) ?_
    rintro ⟨inPath, inQuery, -⟩
    rw [Bool.and_eq_true, List.all_eq_true, List.all_eq_true] at fits
    exact fits ⟨inPath, inQuery⟩

theorem isOuterBlank_of_isPathChar {c : Char} (inPath : isPathChar c) :
    Url.isOuterBlank c = false := by
  simp only [isPathChar, Bool.or_eq_true, Bool.and_eq_true, beq_iff_eq, decide_eq_true_eq] at inPath
  refine decide_eq_false ?_
  omega

theorem isOuterBlank_of_isQueryChar {c : Char} (inQuery : isQueryChar c) :
    Url.isOuterBlank c = false := by
  simp only [isQueryChar, Bool.or_eq_true, Bool.and_eq_true, beq_iff_eq, decide_eq_true_eq]
    at inQuery
  refine decide_eq_false ?_
  omega

/-- A target has no blanks. -/
theorem isOuterBlank_of_readTarget {after : List Char} {target : String} (unmarked : '#' ∉ after)
    (read : readTarget after = .ok target) : ∀ c ∈ after, Url.isOuterBlank c = false := by
  obtain ⟨path, query, rfl, absent⟩ := Url.exists_marked '?' after
  obtain ⟨inPath, inQuery, -⟩ := (readTarget_eq_ok_iff unmarked absent).mp read
  intro c member
  rcases List.mem_append.mp member with member | member
  · exact isOuterBlank_of_isPathChar (inPath c member)
  · cases query with
    | none => cases member
    | some query =>
        rcases List.mem_cons.mp member with rfl | member
        · decide
        · exact isOuterBlank_of_isQueryChar (inQuery c member)

end

/-! ## Texts that are clean -/

theorem isOuterBlank_of_isSchemeChar {c : Char} (inScheme : isSchemeChar c) :
    Url.isOuterBlank c = false := by
  simp only [isSchemeChar, Bool.or_eq_true, beq_iff_eq] at inScheme
  rcases inScheme with ((letter | rfl) | rfl) | rfl
  · exact Url.isOuterBlank_of_isAlphanum letter
  · decide
  · decide
  · decide

/-- **A client takes no blanks**, so it accepts only a text that is clean. -/
theorem Parts.clean_eq {text : String} {dial : Dial} {scheme authority after : List Char}
    (parts : Parts text dial scheme authority after) (unmarked : '#' ∉ after) :
    Url.clean text = text.toList := by
  have unblank : ∀ c ∈ text.toList, Url.isOuterBlank c = false := by
    intro c member
    rw [parts.whole, List.mem_append, List.mem_cons, List.mem_cons, List.mem_cons,
      List.mem_append] at member
    rcases member with member | rfl | rfl | rfl | member | member
    · exact isOuterBlank_of_isSchemeChar (parts.chars c member)
    · decide
    · decide
    · decide
    · exact (isInner_of_checkAuthority parts.checked c member).1
    · exact isOuterBlank_of_readTarget unmarked parts.target c member
  have same := Url.clean_of_isClean (Url.isClean_of_unblank unblank)
  rwa [String.ofList_toList] at same

end Dial

end WebSocketClient
