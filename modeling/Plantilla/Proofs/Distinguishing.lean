import Plantilla.Proofs.Lines
import Plantilla.Proofs.Scalars
/-!
# Distinguishing — what a report as YAML tells apart

A report as YAML is a run of lines and of scalars that may take several, and each of them can be taken off what follows
it in one way only (`Separates`): a line ends at its newline (`separates_wordEntry`), a scalar says itself where it ends
(`separates_entry`), and the items of a list are told from what follows the list by their first character
(`Separates.flatMap`).  So whatever a quoted text looks like, it is not taken for a key or for an item, and two reports
are written alike exactly if they have the same verdict, the same template and diagnostics that say the same, one by one
(`SaysSame`, `yaml_eq_iff`).
-/
namespace Plantilla

/-- What is written can be told from what follows it, where that is `Ok`. -/
def Separates {α : Type} (Ok : List Char → Prop) (f : α → List Char) : Prop :=
  ∀ ⦃a b : α⦄ ⦃r r' : List Char⦄, Ok r → Ok r' → f a ++ r = f b ++ r' → a = b ∧ r = r'

section Items

variable {α : Type} {f : α → List Char} {start : Char} {Ok : List Char → Prop}

theorem head?_flatMap_cons (hstart : ∀ a, (f a).head? = some start) (a : α) (as : List α) (r : List Char) :
    ((a :: as).flatMap f ++ r).head? = some start := by
  rw [List.flatMap_cons, List.append_assoc, List.head?_append, hstart, Option.some_or]

/-- If an item can be told from what follows it, a list of them can, as long as that does not start like an item. -/
theorem Separates.flatMap (hf : Separates Ok f) (hstart : ∀ a, (f a).head? = some start)
    (hok : ∀ r, r.head? = some start → Ok r) :
    Separates (fun r => Ok r ∧ r.head? ≠ some start) (fun as : List α => as.flatMap f) := by
  have hbehind : ∀ (as : List α) (r : List Char), Ok r → Ok (as.flatMap f ++ r) := by
    intro as r hr
    cases as with
    | nil => exact hr
    | cons a as => exact hok _ (head?_flatMap_cons hstart a as r)
  intro as
  induction as with
  | nil =>
    intro bs r r' hr hr' h
    cases bs with
    | nil => exact ⟨rfl, h⟩
    | cons b bs => exact absurd ((congrArg List.head? h).trans (head?_flatMap_cons hstart b bs r')) hr.2
  | cons a as ih =>
    intro bs r r' hr hr' h
    cases bs with
    | nil => exact absurd ((congrArg List.head? h.symm).trans (head?_flatMap_cons hstart a as r)) hr'.2
    | cons b bs =>
      simp only [List.flatMap_cons, List.append_assoc] at h
      obtain ⟨rfl, hitems⟩ := hf (hbehind as r hr.1) (hbehind bs r' hr'.1) h
      obtain ⟨rfl, hrest⟩ := ih hr hr' hitems
      exact ⟨rfl, hrest⟩

end Items

/-! ## Lines and scalars -/

theorem line_append_inj {cs ds r r' : List Char} (hcs : '\n' ∉ cs) (hds : '\n' ∉ ds)
    (h : cs ++ '\n' :: r = ds ++ '\n' :: r') : cs = ds ∧ r = r' := by
  have hspan := Yaml.span_newline hcs r
  rw [h, Yaml.span_newline hds r', Prod.mk.injEq, List.cons.injEq] at hspan
  exact ⟨hspan.1.symm, hspan.2.2.symm⟩

namespace Yaml

/-- A word that stays in its line ends at the newline. -/
theorem separates_wordEntry {α : Type} (key : String) {word : α → String} (hword : Function.Injective word)
    (hline : ∀ a, '\n' ∉ (word a).toList) : Separates (fun _ => True) (fun a => wordEntry key (word a)) := by
  intro a b r r' _ _ h
  have hwords : (word a).toList ++ '\n' :: r = (word b).toList ++ '\n' :: r' := by simpa [wordEntry] using h
  obtain ⟨hab, hrest⟩ := line_append_inj (hline a) (hline b) hwords
  exact ⟨hword (String.toList_inj.1 hab), hrest⟩

/-- A scalar says itself where it ends, but for a block, which ends where what follows is not indented as deep. -/
theorem separates_entry (key : String) (indent : Nat) : Separates (Outdented indent) (entry key indent) := by
  intro s s' r r' hr hr' h
  have hscalar : scalar indent s ++ scalarEnd s ++ r = scalar indent s' ++ scalarEnd s' ++ r' := by
    simpa [entry] using h
  have hread := readScalar_scalar hr s
  rw [hscalar, readScalar_scalar hr' s', Option.some.injEq, Prod.mk.injEq] at hread
  exact ⟨hread.1.symm, hread.2.symm⟩

/-- The word `null` is no text: the text of that name has quotes. -/
theorem nullEntry_ne_entry (key : String) {indent : Nat} {s : String} {r r' : List Char} (hr' : Outdented indent r') :
    wordEntry key "null" ++ r ≠ entry key indent s ++ r' := by
  intro h
  have hscalar : "null".toList ++ '\n' :: r = scalar indent s ++ scalarEnd s ++ r' := by
    simpa [wordEntry, entry] using h
  have hread := readScalar_scalar hr' s
  rw [← hscalar, readScalar_plain (by decide) (by decide) (by decide), String.ofList_toList, Option.some.injEq,
    Prod.mk.injEq] at hread
  obtain ⟨rfl, rfl⟩ := hread
  have hstyle : styleOf "null" = .single := by decide
  simp [scalar, hstyle] at hscalar

end Yaml

/-! ## Names -/

theorem Kind.ofName?_name (k : Kind) : ofName? k.name = some k := by cases k <;> decide

theorem Kind.name_injective : Function.Injective Kind.name := fun k k' h =>
  Option.some.inj (by rw [← ofName?_name k, h, ofName?_name])

theorem Verdict.name_injective : Function.Injective Verdict.name := by
  intro v v' h
  cases v <;> cases v' <;> first | rfl | exact absurd h (by decide)

theorem Diagnostic.Stage.name_injective : Function.Injective Diagnostic.Stage.name := by
  intro s s' h
  cases s <;> cases s' <;> first | rfl | exact absurd h (by decide)

theorem Verdict.newline_not_mem_name (v : Verdict) : '\n' ∉ v.name.toList := by cases v <;> decide

theorem Diagnostic.Stage.newline_not_mem_name (s : Diagnostic.Stage) : '\n' ∉ s.name.toList := by cases s <;> decide

namespace Report

open Yaml

/-! ## Entries -/

theorem separates_kindLine :
    Separates (fun _ => True) (fun k : Kind => "  - ".toList ++ k.name.toList ++ ['\n']) := by
  intro k k' r r' _ _ h
  have hnames : k.name.toList ++ '\n' :: r = k'.name.toList ++ '\n' :: r' := by simpa using h
  obtain ⟨hname, hrest⟩ := line_append_inj k.newline_not_mem_name k'.newline_not_mem_name hnames
  exact ⟨Kind.name_injective (String.toList_inj.1 hname), hrest⟩

theorem separates_expectedLines : Separates (fun r => r.head? ≠ some ' ') expectedLines := by
  have hstart : ∀ k : Kind, ("  - ".toList ++ k.name.toList ++ ['\n']).head? = some ' ' := fun _ => rfl
  have hfirst : ∀ (k : Kind) (ks : List Kind) (r : List Char), (expectedLines (k :: ks) ++ r).head? = some ' ' :=
    fun _ _ _ => rfl
  intro ks ks' r r' hr hr' h
  cases ks with
  | nil =>
    cases ks' with
    | nil => exact ⟨rfl, h⟩
    | cons k' ks' => exact absurd ((congrArg List.head? h).trans (hfirst k' ks' r')) hr
  | cons k ks =>
    cases ks' with
    | nil => exact absurd ((congrArg List.head? h.symm).trans (hfirst k ks r)) hr'
    | cons k' ks' =>
      rw [expectedLines, expectedLines, if_neg (List.cons_ne_nil k ks), if_neg (List.cons_ne_nil k' ks'),
        List.append_assoc, List.append_assoc] at h
      exact separates_kindLine.flatMap hstart (fun _ _ => trivial) ⟨trivial, hr⟩ ⟨trivial, hr'⟩
        (List.append_cancel_left h)

/-- The line behind a message ends it. -/
theorem outdented_line (word : String) (r : List Char) : Outdented 4 ("  ".toList ++ (wordEntry "line" word ++ r)) := by
  refine ⟨2, by decide, wordEntry "line" word ++ r, rfl, ?_⟩
  rintro c ⟨⟩
  decide

theorem Entry.separates_toYaml : Separates (fun r => r.head? ≠ some ' ') Entry.toYaml := by
  rintro ⟨stage, message, ⟨line, column⟩, expected⟩ ⟨stage', message', ⟨line', column'⟩, expected'⟩ r r' hr hr' h
  unfold Entry.toYaml at h
  simp only [List.append_assoc] at h
  obtain ⟨rfl, hmessage⟩ := separates_wordEntry "kind" Diagnostic.Stage.name_injective
    Diagnostic.Stage.newline_not_mem_name trivial trivial (List.append_cancel_left h)
  obtain ⟨rfl, hline⟩ := separates_entry "message" 4 (outdented_line _ _) (outdented_line _ _)
    (List.append_cancel_left hmessage)
  obtain ⟨rfl, hcolumn⟩ := separates_wordEntry "line" Numeral.text_injective Numeral.newline_not_mem_text trivial
    trivial (List.append_cancel_left hline)
  obtain ⟨rfl, hexpected⟩ := separates_wordEntry "column" Numeral.text_injective Numeral.newline_not_mem_text trivial
    trivial (List.append_cancel_left hcolumn)
  obtain ⟨rfl, hrest⟩ := separates_expectedLines hr hr' hexpected
  exact ⟨rfl, hrest⟩

-- a message that goes on like the next item stays in its block
example : (⟨.grammatical, "a\n- kind: lexical", ⟨1, 1⟩, []⟩ : Entry).toYaml
    = "- kind: syntax\n  message: |-\n    a\n    - kind: lexical\n  line: 1\n  column: 1\n".toList := by
  decide

/-! ## Reports -/

def templateLines : Option String → List Char
  | some name => entry "template" 2 name
  | none => wordEntry "template" "null"

theorem separates_templateLines : Separates (Outdented 2) templateLines := by
  intro t t' r r' hr hr' h
  match t, t' with
  | none, none => exact ⟨rfl, List.append_cancel_left h⟩
  | none, some s => exact absurd h (nullEntry_ne_entry "template" hr')
  | some s, none => exact absurd h.symm (nullEntry_ne_entry "template" hr)
  | some s, some s' =>
    obtain ⟨rfl, hrest⟩ := separates_entry "template" 2 hr hr' h
    exact ⟨rfl, hrest⟩

def diagnosticsLines (es : List Entry) : List Char :=
  if es = [] then wordEntry "diagnostics" "[]" else "diagnostics:\n".toList ++ es.flatMap Entry.toYaml

theorem diagnosticsLines_injective : Function.Injective diagnosticsLines := by
  have hstart : ∀ e : Entry, e.toYaml.head? = some '-' := fun _ => rfl
  have hitems := Entry.separates_toYaml.flatMap hstart (fun r hr => by rw [hr]; decide)
  intro es es' h
  by_cases hes : es = [] <;> by_cases hes' : es' = []
  · rw [hes, hes']
  · rw [diagnosticsLines, diagnosticsLines, if_pos hes, if_neg hes'] at h
    cases h
  · rw [diagnosticsLines, diagnosticsLines, if_neg hes, if_pos hes'] at h
    cases h
  · rw [diagnosticsLines, diagnosticsLines, if_neg hes, if_neg hes', List.append_cancel_left_eq] at h
    exact (hitems ⟨by decide, by decide⟩ ⟨by decide, by decide⟩ (congrArg (· ++ []) h)).1

theorem outdented_diagnosticsLines (es : List Entry) : Outdented 2 (diagnosticsLines es) := by
  refine ⟨0, by decide, diagnosticsLines es, rfl, ?_⟩
  unfold diagnosticsLines
  split <;> rintro c ⟨⟩ <;> decide

theorem toYaml_eq (source : String) (r : Report) :
    r.toYaml source = String.ofList (wordEntry "verdict" r.verdict.name
      ++ (wordEntry "accepted" (if r.accepted then "true" else "false") ++ (entry "message" 2 r.verdict.message
      ++ (templateLines r.template ++ diagnosticsLines (r.entries source))))) := by
  have hentries : r.entries source = [] ↔ r.diagnostics = [] := List.map_eq_nil_iff
  simp only [toYaml, diagnosticsLines, hentries, List.append_assoc]
  rfl

/-! ## What two reports say -/

/-- Two diagnostics, each of its own source, say the same: of what stage they are, in what words, in what line and
column, and what was expected there. -/
structure SaysSame (source source' : String) (d d' : Diagnostic) : Prop where
  stage : d.stage = d'.stage
  message : d.message = d'.message
  line : (Position.ofOffset source d.span.start).line = (Position.ofOffset source' d'.span.start).line
  column : (Position.ofOffset source d.span.start).column = (Position.ofOffset source' d'.span.start).column
  expected : d.expected = d'.expected

theorem entries_eq_iff (source source' : String) (r r' : Report) : r.entries source = r'.entries source' ↔
    List.Forall₂ (SaysSame source source') r.diagnostics r'.diagnostics := by
  rw [entries_eq, entries_eq, ← List.forall₂_eq_eq_eq, List.forall₂_map_left_iff, List.forall₂_map_right_iff]
  constructor
  · refine fun h => h.imp fun d d' hentry => ?_
    obtain ⟨hstage, hmessage, hposition, hexpected⟩ := Entry.mk.inj hentry
    exact ⟨hstage, hmessage, congrArg Position.line hposition, congrArg Position.column hposition, hexpected⟩
  · refine fun h => h.imp fun d d' hsame => ?_
    rw [hsame.stage, hsame.message, hsame.expected, Position.ext hsame.line hsame.column]

/-- **A report as YAML loses nothing and shows nothing else.**  Two reports, of one source or of two, are written as the
same text exactly if they have the same verdict, the same template and as many diagnostics, which say the same one by
one: the stage, the message, the line, the column and the expected kinds. -/
theorem yaml_eq_iff (source source' : String) (showExpected showExpected' : Bool) (r r' : Report) :
    (∃ text, r.render source showExpected .yaml = .ok text ∧ r'.render source' showExpected' .yaml = .ok text) ↔
      r.verdict = r'.verdict ∧ r.template = r'.template ∧
        List.Forall₂ (SaysSame source source') r.diagnostics r'.diagnostics := by
  have hrender : (∃ text, r.render source showExpected .yaml = .ok text ∧
      r'.render source' showExpected' .yaml = .ok text) ↔ r.toYaml source = r'.toYaml source' := by
    simp [render, eq_comm]
  have haccepted : ∀ r : Report, r.accepted = decide (r.verdict = .accepted) := fun _ => rfl
  rw [hrender, toYaml_eq, toYaml_eq, haccepted, haccepted, String.ofList_inj, ← entries_eq_iff]
  constructor
  · intro h
    obtain ⟨hverdict, h⟩ := separates_wordEntry "verdict" Verdict.name_injective Verdict.newline_not_mem_name trivial
      trivial h
    -- the verdict decides the two lines behind it
    rw [hverdict] at h
    obtain ⟨htemplate, h⟩ := separates_templateLines (outdented_diagnosticsLines _) (outdented_diagnosticsLines _)
      (List.append_cancel_left (List.append_cancel_left h))
    exact ⟨hverdict, htemplate, diagnosticsLines_injective h⟩
  · rintro ⟨hverdict, htemplate, hentries⟩
    rw [hverdict, htemplate, hentries]

end Report
end Plantilla
