import WebSocketClient.Url.Path

/-!
# The paths of web addresses

Whatever the path of a web address is read from, it begins with a slash (`head?_readPath`) and has
no question mark (`notMem_readPath`): the last segment stays, or leaves an empty one in its place,
and a question mark is encoded in every segment.
-/

namespace WebSocketClient.Url

set_option autoImplicit false

/-- A character that is always encoded, and that no encoding makes use of, is not left over. -/
theorem notMem_percentEncode {isEncoded : Char → Bool} {c : Char} (encoded : isEncoded c = true)
    (sign : c ≠ '%') (digit : ∀ digit < 16, c ≠ upperHexDigit digit) (text : List Char) :
    c ∉ percentEncode isEncoded text := by
  intro member
  obtain ⟨d, -, member⟩ := List.mem_flatMap.mp member
  split at member
  · obtain ⟨byte, -, member⟩ := List.mem_flatMap.mp member
    have size := byte.toNat_lt
    simp only [encodeByte, List.mem_cons, List.not_mem_nil, or_false] at member
    rcases member with same | same | same
    · exact sign same
    · exact digit _ (by omega) same
    · exact digit _ (by omega) same
  · rename_i plain
    obtain rfl := List.mem_singleton.mp member
    exact plain encoded

theorem mem_leave {segment : List Char} {resolved : List (List Char)}
    (member : segment ∈ leave resolved) : segment ∈ resolved := by
  cases resolved with
  | nil => cases member
  | cons nearest above =>
      rw [leave] at member
      split at member
      · exact member
      · exact List.mem_cons_of_mem _ member

/-- A resolved segment is empty, or an encoded one. -/
theorem eq_of_mem_resolve {segments : List (List Char)} {segment : List Char}
    (member : segment ∈ resolve segments) :
    segment = [] ∨ ∃ written, segment = percentEncode encodedInPath written := by
  have encoded (resolved : List (List Char))
      (before : ∀ segment ∈ resolved, ∃ written, segment = percentEncode encodedInPath written) :
      ∀ segment ∈ segments.foldl resolveSegment resolved,
        ∃ written, segment = percentEncode encodedInPath written := by
    clear member
    induction segments generalizing resolved with
    | nil => exact before
    | cons next segments ih =>
        refine ih _ ?_
        unfold resolveSegment
        split
        · exact fun segment member => before segment (mem_leave member)
        · split
          · exact before
          · exact List.forall_mem_cons.mpr ⟨⟨next, rfl⟩, before⟩
  have every := encoded [] (List.forall_mem_nil _)
  rw [resolve, List.mem_reverse] at member
  split at member
  · rcases List.mem_cons.mp member with rfl | member
    · exact .inl rfl
    · exact .inr (every segment member)
  · exact .inr (every segment member)

/-- The last segment is kept, or an empty one takes its place. -/
theorem resolve_ne {segments : List (List Char)} (written : segments ≠ []) :
    resolve segments ≠ [] := by
  have whole := List.dropLast_concat_getLast written
  generalize segments.getLast written = last at whole
  rw [← whole, resolve, List.foldl_append, List.foldl_cons, List.foldl_nil, List.getLast?_concat,
    Option.any_some, ne_eq, List.reverse_eq_nil_iff]
  by_cases place : (isDoubleDot last || isSingleDot last) = true
  · rw [if_pos place]
    exact List.cons_ne_nil _ _
  · rw [if_neg place]
    rw [Bool.or_eq_true, not_or] at place
    rw [resolveSegment, if_neg place.1, if_neg place.2]
    exact List.cons_ne_nil _ _

theorem cutAt_ne (separator : Char) (text : List Char) : cutAt separator text ≠ [] := by
  cases text with
  | nil => exact List.cons_ne_nil _ _
  | cons c text =>
      rw [cutAt, List.foldr_cons]
      split
      · exact List.cons_ne_nil _ _
      · split <;> exact List.cons_ne_nil _ _

/-- **The path of a web address begins with a slash.** -/
theorem head?_readPath (isSlash : Char → Bool) (text : List Char) :
    (readPath isSlash text).head? = some '/' := by
  rw [readPath]
  generalize cut : cutAt '/' _ = segments
  have written : segments ≠ [] := cut ▸ cutAt_ne '/' _
  cases resolved : resolve segments with
  | nil => exact absurd resolved (resolve_ne written)
  | cons segment others => rfl

/-- **The path of a web address has no question mark.** -/
theorem notMem_readPath (isSlash : Char → Bool) (text : List Char) :
    '?' ∉ readPath isSlash text := by
  intro member
  obtain ⟨segment, resolved, member⟩ := List.mem_flatMap.mp member
  rcases List.mem_cons.mp member with slash | member
  · cases slash
  · rcases eq_of_mem_resolve resolved with rfl | ⟨written, rfl⟩
    · cases member
    · exact notMem_percentEncode (by decide) (by decide) (by decide) written member

end WebSocketClient.Url
