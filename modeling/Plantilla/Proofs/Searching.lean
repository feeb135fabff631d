import Plantilla.Proofs.Positions
import Plantilla.Report.Records
/-!
# Searching — a position found, read and counted

The position of a byte can be found by a search over the starts of the lines, read off the text from its start, or counted
in the bytes of the encoding.  For every offset, past the end and inside a character too, these are one position.  What
they share is the characters that lie whole in front of the byte (`Precedes`): the newlines among them are the newlines
among the bytes (`count_take_bytes`), and the lines that start by then are the first line and those behind these newlines
(`lt_of_mem_startsBehind_of_precedes`), so the search stops at the last of them (`linesTo_eq`).  Whatever is printed looks
its places up in the index of its source, so it shows the positions that are read (`position_ofChars`).
-/
namespace Plantilla

open Text

/-! ## Characters in front of a byte -/

namespace Text

/-- The characters `pre` are all that lie whole in front of byte `k` of `pre ++ post`. -/
structure Precedes (pre post : List Char) (k : Nat) : Prop where
  le : byteLength pre ≤ k
  lt : ∀ c ∈ post.head?, k < byteLength pre + c.utf8Size
  inside : k ≤ byteLength (pre ++ post)

theorem exists_precedes : ∀ (cs : List Char) (k : Nat), k ≤ byteLength cs →
    ∃ pre post, cs = pre ++ post ∧ Precedes pre post k
  | [], k, hk => ⟨[], [], rfl, Nat.zero_le k, (fun c hc => by cases hc), hk⟩
  | c :: cs, k, hk => by
    rw [byteLength] at hk
    by_cases hsize : k < c.utf8Size
    · refine ⟨[], c :: cs, rfl, Nat.zero_le k, fun d hd => ?_, hk⟩
      obtain rfl : c = d := Option.some.inj hd
      rwa [byteLength, Nat.zero_add]
    · obtain ⟨pre, post, rfl, hle, hlt, hinside⟩ := exists_precedes cs (k - c.utf8Size) (by omega)
      refine ⟨c :: pre, post, rfl, ?_, fun d hd => ?_, hk⟩
      · rw [byteLength]
        omega
      · have := hlt d hd
        rw [byteLength]
        omega

namespace Precedes

variable {pre post : List Char} {k : Nat} (h : Precedes pre post k)
include h

theorem isBoundary_iff_eq : IsBoundary k (pre ++ post) ↔ k = byteLength pre := by
  refine ⟨?_, fun hk => ⟨pre, post, rfl, hk⟩⟩
  rintro ⟨pre', post', hsplit, rfl⟩
  obtain ⟨es, rfl, rfl⟩ := exists_append_of_byteLength_le hsplit h.le
  cases es with
  | nil => rw [List.append_nil]
  | cons c es =>
    have := h.lt c rfl
    rw [byteLength_append, byteLength] at this
    omega

theorem eq_or_exists_cons : k = byteLength pre ∨
    ∃ c rest j, post = c :: rest ∧ k = byteLength pre + (j + 1) ∧ j + 1 < c.utf8Size := by
  have hle := h.le
  have hinside := h.inside
  by_cases hk : k = byteLength pre
  · exact .inl hk
  · cases post with
    | nil =>
      rw [List.append_nil] at hinside
      omega
    | cons c rest =>
      have := h.lt c rfl
      exact .inr ⟨c, rest, k - byteLength pre - 1, rfl, by omega, by omega⟩

end Precedes

/-! ## Newlines among bytes -/

theorem eq_newline_of_mem_utf8EncodeChar {c : Char} (h : (10 : UInt8) ∈ String.utf8EncodeChar c) : c = '\n' := by
  rcases Scanner.utf8EncodeChar_cases c with ⟨b, hbytes, hcode⟩ | hlong
  · rw [hbytes] at h
    obtain rfl := List.mem_singleton.1 h
    exact Char.toNat_inj.1 hcode.symm
  · exact absurd (hlong 10 h) (by decide)

theorem count_newline_bytes : ∀ cs : List Char, (bytes cs).count 10 = cs.count '\n'
  | [] => rfl
  | c :: cs => by
    rw [bytes, List.flatMap_cons, List.count_append, ← bytes, count_newline_bytes cs]
    by_cases hc : c = '\n'
    · subst hc
      rw [List.count_cons_self, Nat.add_comm]
      rfl
    · rw [List.count_eq_zero_of_not_mem fun h => hc (eq_newline_of_mem_utf8EncodeChar h), List.count_cons_of_ne hc,
        Nat.zero_add]

theorem count_take_bytes {pre post : List Char} {k : Nat} (h : Precedes pre post k) :
    ((bytes (pre ++ post)).take k).count 10 = pre.count '\n' := by
  rw [bytes_append, List.take_append, length_bytes, List.take_of_length_le (by rw [length_bytes]; exact h.le),
    List.count_append, count_newline_bytes]
  rcases h.eq_or_exists_cons with hk | ⟨c, rest, j, rfl, hk, hsize⟩
  · rw [hk, Nat.sub_self, List.take_zero]
    rfl
  · -- of a character with several bytes none is a newline
    have hc : (10 : UInt8) ∉ String.utf8EncodeChar c := by
      intro hmem
      obtain rfl := eq_newline_of_mem_utf8EncodeChar hmem
      have : '\n'.utf8Size = 1 := rfl
      omega
    have hpart : (bytes (c :: rest)).take (k - byteLength pre) = (String.utf8EncodeChar c).take (k - byteLength pre) := by
      rw [bytes, List.flatMap_cons, List.take_append_of_le_length]
      rw [String.length_utf8EncodeChar]
      omega
    rw [hpart, List.count_eq_zero_of_not_mem fun hmem => hc (List.mem_of_mem_take hmem), Nat.add_zero]

end Text

/-! ## Reading -/

namespace Position

theorem line_behind (cs : List Char) : (behind cs).line = cs.count '\n' + 1 := by
  induction cs using List.reverseRecOn with
  | nil => rfl
  | append_singleton cs c ih =>
    rw [behind_concat, step, List.count_append]
    by_cases hc : c = '\n'
    · rw [if_pos hc, ih, hc, List.count_singleton_self, Nat.add_right_comm]
    · rw [if_neg hc, ih, List.count_singleton, if_neg (by simpa using hc), Nat.add_zero]

theorem column_behind (cs : List Char) : (behind cs).column = (cs.reverse.takeWhile (· ≠ '\n')).length + 1 := by
  induction cs using List.reverseRecOn with
  | nil => rfl
  | append_singleton cs c ih =>
    rw [behind_concat, step, List.reverse_append, List.reverse_singleton, List.singleton_append]
    by_cases hc : c = '\n'
    · rw [if_pos hc, List.takeWhile_cons_of_neg (by simpa using hc)]
      rfl
    · rw [if_neg hc, List.takeWhile_cons_of_pos (by simpa using hc), List.length_cons, ← ih]

/-- Inside a character the column falls back to the start of the line. -/
theorem within_of_precedes {pre post : List Char} {k : Nat} (h : Precedes pre post k) :
    within (pre ++ post) k = ⟨(behind pre).line, if k = byteLength pre then (behind pre).column else 1⟩ := by
  rcases h.eq_or_exists_cons with rfl | ⟨c, rest, j, rfl, rfl, hsize⟩
  · rw [within_append, if_pos rfl]
  · rw [within, advance_append, advance, if_pos hsize, if_neg (by omega)]
    rfl

end Position

/-! ## Searching -/

namespace Text

theorem startsBehind_append (bs : List Char) : ∀ (as : List Char) (o : Nat),
    startsBehind o (as ++ bs) = startsBehind o as ++ startsBehind (o + byteLength as) bs
  | [], o => rfl
  | a :: as, o => by
    simp only [List.cons_append, startsBehind, byteLength, startsBehind_append bs as, Nat.add_assoc]
    split <;> rfl

/-- A line starts behind the byte that its newline starts at, and inside the text or at its end. -/
theorem bounds_of_mem_startsBehind : ∀ (cs : List Char) (o : Nat), ∀ s ∈ startsBehind o cs,
    o < s ∧ s ≤ o + byteLength cs
  | [], o, s, h => by cases h
  | c :: cs, o, s, h => by
    have hpos := c.utf8Size_pos
    have hlater := bounds_of_mem_startsBehind cs (o + c.utf8Size) s
    rw [byteLength]
    simp only [startsBehind] at h
    split at h
    · rcases List.mem_cons.1 h with rfl | h
      · omega
      · have := hlater h
        omega
    · have := hlater h
      omega

theorem length_startsBehind : ∀ (cs : List Char) (o : Nat), (startsBehind o cs).length = cs.count '\n'
  | [], _ => rfl
  | c :: cs, o => by
    simp only [startsBehind]
    split
    · rename_i hc
      rw [hc, List.length_cons, length_startsBehind cs, List.count_cons_self]
    · rename_i hc
      rw [length_startsBehind cs, List.count_cons_of_ne hc]

/-- No line behind the characters in front of `k` starts by then. -/
theorem lt_of_mem_startsBehind_of_precedes {pre post : List Char} {k : Nat} (h : Precedes pre post k) :
    ∀ s ∈ startsBehind (byteLength pre) post, k < s := by
  intro s hs
  cases post with
  | nil => cases hs
  | cons c post =>
    have hnext := h.lt c rfl
    simp only [startsBehind] at hs
    split at hs
    · rcases List.mem_cons.1 hs with rfl | hs
      · exact hnext
      · exact Nat.lt_trans hnext (bounds_of_mem_startsBehind _ _ s hs).1
    · exact Nat.lt_trans hnext (bounds_of_mem_startsBehind _ _ s hs).1

/-- The last line that starts in front of a place is the one that the place stands in. -/
theorem getLast?_startsBehind {above line : List Char} (habove : above = [] ∨ above.getLast? = some '\n')
    (hline : '\n' ∉ line) : (0 :: startsBehind 0 (above ++ line)).getLast? = some (byteLength above) := by
  have hnone : ∀ o, startsBehind o line = [] := fun o => by
    rw [← List.length_eq_zero_iff, length_startsBehind, List.count_eq_zero_of_not_mem hline]
  rw [startsBehind_append, hnone, List.append_nil]
  rcases habove with rfl | hlast
  · rfl
  · obtain ⟨front, rfl⟩ := List.getLast?_eq_some_iff.1 hlast
    rw [startsBehind_append, byteLength_append, ← List.cons_append, Nat.zero_add]
    exact List.getLast?_concat

theorem slice?_eq_none {start k : Nat} {cs : List Char} (hle : start ≤ k) (h : ¬ IsBoundary k cs) :
    slice? start k cs = none := by
  rw [Option.eq_none_iff_forall_ne_some]
  intro w hw
  obtain ⟨rest, hsuffix, hupto⟩ := Option.bind_eq_some_iff.1 hw
  obtain ⟨pre, rfl, hstart⟩ := exists_append_of_suffixAt start cs rest hsuffix
  obtain ⟨post, rfl, hstop⟩ := exists_append_of_uptoByte (k - start) rest w hupto
  refine h ⟨pre ++ w, post, by rw [List.append_assoc], ?_⟩
  rw [byteLength_append]
  omega

end Text

namespace LineIndex

theorem bisect_eq {p : Nat → Bool} {n : Nat} (hbelow : ∀ i < n, p i = true) (habove : ∀ i, n ≤ i → p i = false) :
    ∀ lo hi, lo ≤ n → n ≤ hi → bisect p lo hi = n := by
  intro lo hi hlo hhi
  fun_induction bisect p lo hi with
  | case1 lo hi hlt mid hp ih =>
    rcases Nat.lt_or_ge mid n with hmid | hmid
    · exact ih hmid hhi
    · rw [habove mid hmid] at hp
      cases hp
  | case2 lo hi hlt mid hp ih =>
    rcases Nat.lt_or_ge mid n with hmid | hmid
    · exact absurd (hbelow mid hmid) hp
    · exact ih hlo hmid
  | case3 lo hi hlt => omega

theorem linesTo_eq {index : LineIndex} {k : Nat} {front back : List Nat} (hstarts : index.starts.toList = front ++ back)
    (hfront : ∀ s ∈ front, s ≤ k) (hback : ∀ s ∈ back, k < s) : index.linesTo k = front.length := by
  have hget : ∀ i, index.starts[i]? = (front ++ back)[i]? := fun i => by rw [← hstarts, Array.getElem?_toList]
  refine bisect_eq (fun i hi => ?_) (fun i hi => ?_) 0 _ (Nat.zero_le _) ?_
  · rw [hget, List.getElem?_append_left hi, List.getElem?_eq_getElem hi]
    exact decide_eq_true (hfront _ (List.getElem_mem hi))
  · rw [hget, List.getElem?_append_right hi]
    cases hs : back[i - front.length]? with
    | none => rfl
    | some s => exact decide_eq_false (Nat.not_le.2 (hback s (List.mem_of_getElem? hs)))
  · rw [← Array.length_toList, hstarts, List.length_append]
    exact Nat.le_add_right _ _

theorem toList_starts (pre post : List Char) : (ofChars (pre ++ post)).starts.toList
    = (0 :: startsBehind 0 pre) ++ startsBehind (byteLength pre) post := by
  rw [ofChars, startsBehind_append, Nat.zero_add]
  rfl

theorem linesTo_ofChars {pre post : List Char} {k : Nat} (h : Precedes pre post k) :
    (ofChars (pre ++ post)).linesTo k = pre.count '\n' + 1 := by
  have hfront : ∀ s ∈ 0 :: startsBehind 0 pre, s ≤ k := by
    rintro s (_ | ⟨_, hs⟩)
    · exact Nat.zero_le k
    · have hwithin := (bounds_of_mem_startsBehind pre 0 s hs).2
      rw [Nat.zero_add] at hwithin
      exact Nat.le_trans hwithin h.le
  rw [linesTo_eq (toList_starts pre post) hfront (lt_of_mem_startsBehind_of_precedes h), List.length_cons,
    length_startsBehind]

/-- The start that the search ends at is that of the line in which the place stands. -/
theorem getElem?_starts {above line : List Char} (habove : above = [] ∨ above.getLast? = some '\n')
    (hline : '\n' ∉ line) (post : List Char) :
    (ofChars (above ++ line ++ post)).starts[(above ++ line).count '\n']? = some (byteLength above) := by
  have hlast := getLast?_startsBehind habove hline
  rw [List.getLast?_eq_getElem?, List.length_cons, length_startsBehind, Nat.add_sub_cancel] at hlast
  rw [← Array.getElem?_toList, toList_starts, List.getElem?_append_left, hlast]
  rw [List.length_cons, length_startsBehind]
  exact Nat.lt_succ_self _

theorem length_slice? {above line post : List Char} {k : Nat} (h : Precedes (above ++ line) post k) :
    ((slice? (byteLength above) k (above ++ line ++ post)).map List.length).getD 0
      = if k = byteLength (above ++ line) then line.length else 0 := by
  by_cases hk : k = byteLength (above ++ line)
  · rw [if_pos hk, hk, byteLength_append, slice?_append]
    rfl
  · have hle := h.le
    rw [byteLength_append] at hle
    rw [if_neg hk, slice?_eq_none (by omega) fun hb => hk (h.isBoundary_iff_eq.1 hb)]
    rfl

/-- **The search finds the position that is read.** -/
theorem position?_ofChars (cs : List Char) (offset : Nat) :
    (ofChars cs).position? offset = some (Position.within cs offset) := by
  obtain ⟨pre, post, rfl, h⟩ := exists_precedes cs (min offset (byteLength cs)) (Nat.min_le_right _ _)
  rw [← Position.within_min]
  -- from here on the offset is inside the text
  generalize hk : min offset (byteLength (pre ++ post)) = k at h ⊢
  obtain ⟨above, line, rfl, habove, hline, hbehind⟩ := Position.behind_eq pre
  have htext : (ofChars (above ++ line ++ post)).text = above ++ line ++ post := rfl
  have hcolumn : (Position.behind (above ++ line)).column = line.length + 1 := by rw [hbehind]
  rw [position?, htext, hk, linesTo_ofChars h]
  simp only
  rw [getElem?_starts habove hline, Option.map_some, length_slice? h, Position.within_of_precedes h,
    Position.line_behind, hcolumn]
  split <;> rfl

@[simp] theorem position_ofChars (cs : List Char) (offset : Nat) :
    (ofChars cs).position offset = Position.within cs offset := by
  rw [position, position?_ofChars, Option.getD_some]

end LineIndex

theorem Report.entries_eq (source : String) (r : Report) : r.entries source
    = r.diagnostics.map fun d => ⟨d.stage, d.message, Position.ofOffset source d.span.start, d.expected⟩ := by
  refine List.map_congr_left fun d _ => ?_
  rw [entryOf, LineIndex.position_ofChars, Position.ofOffset]

end Plantilla
