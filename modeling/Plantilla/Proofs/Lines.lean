import Plantilla.Proofs.Ordering
import Plantilla.Proofs.Respelling
import Plantilla.Report.Render
/-!
# Lines — a report as text, line by line

A report is printed one diagnostic a line, but the message of a diagnostic quotes what was found as it stands, and a
string between quotes may go on over several lines.  So a diagnostic takes one line more for every newline of the lexeme
that it quotes (`length_lines_toText`).  Nothing else that is printed can hold a newline: no illegal character is one
(`newline_ne_of_mem_scan`), and no lexeme but a string has one (`newline_not_mem_text`).  The report has a line for each
diagnostic exactly if no string that it quotes goes over its line (`line_each_iff`).
-/
namespace Plantilla

namespace Text

/-- The lines of a text, each up to the newline that ends it; behind the last newline a line has to hold something. -/
def lines : List Char → List (List Char)
  | [] => []
  | c :: cs =>
    if c = '\n' then [] :: lines cs
    else
      match lines cs with
      | [] => [[c]]
      | l :: ls => (c :: l) :: ls

theorem lines_newline (cs : List Char) : lines ('\n' :: cs) = [] :: lines cs := by simp [lines]

theorem lines_cons {c : Char} (hc : c ≠ '\n') {cs l : List Char} {ls : List (List Char)} (h : lines cs = l :: ls) :
    lines (c :: cs) = (c :: l) :: ls := by
  rw [lines, if_neg hc, h]

theorem lines_append_newline : ∀ (l rest : List Char), '\n' ∉ l → lines (l ++ '\n' :: rest) = l :: lines rest
  | [], rest, _ => lines_newline rest
  | c :: l, rest, h => by
    have hc : c ≠ '\n' := fun hc => h (by simp [hc])
    have hl : '\n' ∉ l := fun hl => h (List.mem_cons_of_mem c hl)
    exact lines_cons hc (lines_append_newline l rest hl)

theorem length_lines_append_newline : ∀ l rest : List Char,
    (lines (l ++ '\n' :: rest)).length = l.count '\n' + 1 + (lines rest).length
  | [], rest => by simp [lines_newline]; omega
  | c :: l, rest => by
    have ih := length_lines_append_newline l rest
    by_cases hc : c = '\n'
    · subst hc
      rw [List.cons_append, lines_newline, List.length_cons, ih, List.count_cons_self]
      omega
    · cases hls : lines (l ++ '\n' :: rest) with
      | nil =>
        rw [hls, List.length_nil] at ih
        omega
      | cons first others =>
        rw [hls] at ih
        rw [List.cons_append, lines_cons hc hls, List.count_cons_of_ne hc]
        exact ih

theorem lines_ended : ∀ (ls : List (List Char)) (rest : List Char), (∀ l ∈ ls, '\n' ∉ l) →
    lines (ls.flatMap (· ++ ['\n']) ++ rest) = ls ++ lines rest
  | [], _, _ => rfl
  | l :: ls, rest, h => by
    have hl := h l List.mem_cons_self
    have ih := lines_ended ls rest fun l' hl' => h l' (List.mem_cons_of_mem l hl')
    rw [List.flatMap_cons, List.append_assoc, List.append_assoc, List.singleton_append, lines_append_newline l _ hl, ih]
    rfl

theorem length_lines_ended : ∀ (ls : List (List Char)) (rest : List Char),
    (lines (ls.flatMap (· ++ ['\n']) ++ rest)).length
      = ls.length + ls.flatten.count '\n' + (lines rest).length
  | [], rest => by simp
  | l :: ls, rest => by
    have ih := length_lines_ended ls rest
    rw [List.flatMap_cons, List.append_assoc, List.append_assoc, List.singleton_append, length_lines_append_newline, ih,
      List.length_cons, List.flatten_cons, List.count_append]
    omega

end Text

open Text

/-! ## The line of a diagnostic -/

/-- What the message of a diagnostic quotes. -/
def Diagnostic.quoted : Diagnostic → List Char
  | illegalCharacter c _ => [c]
  | unexpectedToken t _ => t.text.toList
  | unexpectedEnd _ _ => []

theorem Numeral.newline_not_mem_text (n : Nat) : '\n' ∉ (text n).toList := fun h =>
  absurd (isDigit_of_mem_text h) (by decide)

theorem Position.newline_not_mem_display (p : Position) : '\n' ∉ p.display.toList := by
  have hline := Numeral.newline_not_mem_text p.line
  have hcolumn := Numeral.newline_not_mem_text p.column
  simp [display, hline, hcolumn]

theorem Kind.newline_not_mem_name (k : Kind) : '\n' ∉ k.name.toList := by cases k <;> decide

theorem Verdict.newline_not_mem_message (v : Verdict) : '\n' ∉ v.message.toList := by cases v <;> decide

theorem Diagnostic.count_newline_message (d : Diagnostic) : d.message.toList.count '\n' = d.quoted.count '\n' := by
  have hlexical : "Illegal character '".toList.count '\n' = 0 := by decide
  have htoken : "Error de sintaxis en token '".toList.count '\n' = 0 := by decide
  have hend : "Error de sintaxis en EOF".toList.count '\n' = 0 := by decide
  have hclose : "'".toList.count '\n' = 0 := by decide
  cases d with
  | illegalCharacter c span =>
    show ("Illegal character '" ++ String.singleton c ++ "'").toList.count '\n' = [c].count '\n'
    rw [String.toList_append, String.toList_append, List.count_append, List.count_append, hlexical, hclose,
      String.toList_singleton, Nat.zero_add, Nat.add_zero]
  | unexpectedToken t expected =>
    show ("Error de sintaxis en token '" ++ t.text ++ "'").toList.count '\n' = t.text.toList.count '\n'
    rw [String.toList_append, String.toList_append, List.count_append, List.count_append, htoken, hclose, Nat.zero_add,
      Nat.add_zero]
  | unexpectedEnd offset expected => exact hend

namespace Report

theorem newline_not_mem_describeExpected (ks : List Kind) : '\n' ∉ (describeExpected ks).toList := by
  match ks with
  | [] => decide
  | [k] => simp [describeExpected, k.newline_not_mem_name]
  | k :: k' :: ks =>
    have hnames : ∀ names : List String, (∀ name ∈ names, '\n' ∉ name.toList) →
        '\n' ∉ (", ".intercalate names).toList := by
      intro names
      induction names with
      | nil => simp
      | cons name names ih =>
        intro h
        have hname := h name List.mem_cons_self
        have hrest := ih fun name' hname' => h name' (List.mem_cons_of_mem name hname')
        cases names with
        | nil => simpa using hname
        | cons name' names => simpa [hname] using hrest
    have hmap : '\n' ∉ (", ".intercalate ((k :: k' :: ks).map Kind.name)).toList :=
      hnames _ fun name hname => by
        obtain ⟨k, _, rfl⟩ := List.mem_map.1 hname
        exact k.newline_not_mem_name
    simp only [describeExpected, String.toList_append, List.mem_append, not_or]
    exact ⟨⟨by decide, hmap⟩, by decide⟩

/-- **The line of a diagnostic has the newlines of what it quotes**, and no others. -/
theorem count_newline_line (index : LineIndex) (showExpected : Bool) (d : Diagnostic) :
    (line index showExpected d).toList.count '\n' = d.quoted.count '\n' := by
  have hposition := List.count_eq_zero_of_not_mem (Position.newline_not_mem_display (index.position d.span.start))
  have hexpected : (if showExpected then describeExpected d.expected else "").toList.count '\n' = 0 := by
    split
    · exact List.count_eq_zero_of_not_mem (newline_not_mem_describeExpected _)
    · rfl
  have hcolon : ": ".toList.count '\n' = 0 := by decide
  simp only [line, String.toList_append, List.count_append, hposition, hexpected, hcolon, d.count_newline_message,
    Nat.zero_add, Nat.add_zero]

theorem count_newline_flatten (index : LineIndex) (showExpected : Bool) : ∀ ds : List Diagnostic,
    (ds.map fun d => (line index showExpected d).toList).flatten.count '\n' = (ds.flatMap Diagnostic.quoted).count '\n'
  | [] => rfl
  | d :: ds => by
    rw [List.map_cons, List.flatten_cons, List.flatMap_cons, List.count_append, List.count_append, count_newline_line,
      count_newline_flatten index showExpected ds]

theorem position_prefix_line (index : LineIndex) (showExpected : Bool) (d : Diagnostic) :
    ((index.position d.span.start).display ++ ": ").toList <+: (line index showExpected d).toList := by
  simp only [line, String.toList_append, List.append_assoc]
  rw [← List.append_assoc]
  exact List.prefix_append _ _

theorem toList_toText (source : String) (showExpected : Bool) (r : Report) :
    (r.toText source showExpected).toList
      = (r.diagnostics.map fun d => (line (.ofChars source.toList) showExpected d).toList).flatMap (· ++ ['\n'])
        ++ r.verdict.message.toList ++ ['\n'] := by
  have hnewline : "\n".toList = ['\n'] := rfl
  simp only [toText, String.toList_append, String.toList_join, List.flatMap_map, hnewline]

/-- **A report takes a line for each diagnostic, one for the verdict, and one for every newline that it quotes.** -/
theorem length_lines_toText (source : String) (showExpected : Bool) (r : Report) :
    (lines (r.toText source showExpected).toList).length
      = r.diagnostics.length + 1 + (r.diagnostics.flatMap Diagnostic.quoted).count '\n' := by
  have hverdict : (lines (r.verdict.message.toList ++ ['\n'])).length = 1 := by
    rw [lines_append_newline _ _ r.verdict.newline_not_mem_message]
    rfl
  rw [toList_toText, List.append_assoc, length_lines_ended, hverdict, List.length_map, count_newline_flatten]
  omega

/-- A line for each diagnostic, which begins with where it starts, and the verdict's message as the last line. -/
def LineEach (source : String) (r : Report) (text : String) : Prop :=
  ∃ heads, lines text.toList = heads ++ [r.verdict.message.toList] ∧
    List.Forall₂ (fun d l => ((Position.ofOffset source d.span.start).display ++ ": ").toList <+: l) r.diagnostics heads

theorem lineEach_toText_iff (source : String) (showExpected : Bool) (r : Report) :
    r.LineEach source (r.toText source showExpected) ↔ ∀ d ∈ r.diagnostics, '\n' ∉ d.quoted := by
  constructor
  · rintro ⟨heads, hlines, hheads⟩ d hd
    have hlength := length_lines_toText source showExpected r
    rw [hlines, List.length_append, List.length_singleton, ← hheads.length_eq] at hlength
    have hcount : (r.diagnostics.flatMap Diagnostic.quoted).count '\n' = 0 := by omega
    exact fun hquoted => List.count_eq_zero.1 hcount (List.mem_flatMap.2 ⟨d, hd, hquoted⟩)
  · intro h
    let index := LineIndex.ofChars source.toList
    refine ⟨r.diagnostics.map fun d => (line index showExpected d).toList, ?_, ?_⟩
    · have hnone : ∀ l ∈ r.diagnostics.map fun d => (line index showExpected d).toList, '\n' ∉ l := by
        intro l hl
        obtain ⟨d, hd, rfl⟩ := List.mem_map.1 hl
        rw [← List.count_eq_zero, count_newline_line, List.count_eq_zero]
        exact h d hd
      rw [toList_toText, List.append_assoc, lines_ended _ _ hnone,
        lines_append_newline _ _ r.verdict.newline_not_mem_message]
      rfl
    · rw [List.forall₂_map_right_iff, List.forall₂_same]
      intro d _
      rw [Position.ofOffset, ← LineIndex.position_ofChars]
      exact position_prefix_line index showExpected d

end Report

/-! ## What a check can quote -/

theorem newline_ne_of_mem_scan {source : String} {c : Char} {span : Span} (h : .illegal c span ∈ scan source) :
    c ≠ '\n' := by
  obtain ⟨_, w, _, _, _, hheads⟩ := (munch_scan source).placed _ (List.mem_map_of_mem h)
  obtain ⟨d, ds, hw, hd⟩ := hheads.exists_cons
  have hc : w = [c] := hheads.1
  rintro rfl
  rw [hc] at hw
  cases hw
  cases hd

theorem Shape.Matches.newline_not_mem {s : Shape} {w : List Char} (h : s.Matches w) (hs : s ≠ .quoted) : '\n' ∉ w :=
  fun hmem => absurd (h.isPrintable hs _ hmem) (by decide)

theorem newline_not_mem_text {source : String} {t : Token} (h : .token t ∈ scan source) (hkind : t.kind ≠ .quoted) :
    '\n' ∉ t.text.toList := by
  obtain ⟨s, hs, hcontent⟩ := spelled_of_mem_tokenize (mem_tokenize_iff.2 h)
  refine hs.newline_not_mem ?_
  rintro rfl
  exact hkind (congrArg Prod.fst hcontent).symm

/-- **The text of a report has a line for each diagnostic exactly if no string that it quotes goes over its line.**  It
has a line more for every newline in such a string. -/
theorem line_each_iff (c : Checker) (source : String) (showExpected : Bool) :
    ∃ text, (c.report source).render source showExpected .text = .ok text ∧
      (lines text.toList).length = (c.report source).diagnostics.length + 1
        + ((c.report source).diagnostics.flatMap Diagnostic.quoted).count '\n' ∧
      ((c.report source).LineEach source text ↔
        ∀ t expected, .unexpectedToken t expected ∈ (c.report source).diagnostics → t.kind = .quoted →
          '\n' ∉ t.text.toList) := by
  refine ⟨_, rfl, Report.length_lines_toText source showExpected _, ?_⟩
  rw [Report.lineEach_toText_iff]
  constructor
  · exact fun h t expected ht _ => h _ ht
  · intro h d hd
    have hscan : ∀ item ∈ d.item?, item ∈ scan source := by
      rcases c.diagnostics_eq source with hnil | ⟨items, hitems, hdiagnose⟩
      · rw [hnil] at hd
        cases hd
      · rw [hdiagnose] at hd
        rcases mem_diagnose hd with ⟨item, hitem, hitem?⟩ | ⟨expected, rfl⟩
        · rw [hitem?]
          rintro _ ⟨⟩
          exact (sublist_scan hitems).subset hitem
        · rintro _ ⟨⟩
    cases d with
    | illegalCharacter e span => simpa [Diagnostic.quoted] using (newline_ne_of_mem_scan (hscan _ rfl)).symm
    | unexpectedToken t expected =>
      by_cases hkind : t.kind = .quoted
      · exact h t expected hd hkind
      · exact newline_not_mem_text (hscan _ rfl) hkind
    | unexpectedEnd offset expected => exact List.not_mem_nil

/-- A string over two lines at the start of a text: one diagnostic and three lines. -/
theorem not_lineEach_string_over_two_lines :
    ∃ text, (({} : Checker).report "\"a\nb\"").render "\"a\nb\"" true .text = .ok text ∧
      (({} : Checker).report "\"a\nb\"").diagnostics.length = 1 ∧ (lines text.toList).length = 3 ∧
      ¬ (({} : Checker).report "\"a\nb\"").LineEach "\"a\nb\"" text := by
  refine ⟨_, rfl, by decide +kernel, ?_, ?_⟩
  · rw [Report.length_lines_toText]
    decide +kernel
  · rw [Report.lineEach_toText_iff]
    decide +kernel

end Plantilla
