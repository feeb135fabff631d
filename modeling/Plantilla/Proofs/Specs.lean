import Plantilla.Proofs.Exit
/-!
# Specs — a spec that is read can be printed by

A spec is split at its first hyphen, and each part is looked up by name.  What is wrong with a text that is no spec is
found out from left to right: a missing hyphen, then the stage, then the format (`parse_of_not_mem`, `parse_of_no_stage`,
`parse_of_stage`).  A text is read as a spec only if it is what the spec is written as, and then it is
(`display_of_parse`, `parse_display`), and no other specs can be built than the available ones (`mem_available`).  As a
spec holds a format that its stage supports, printing by it never fails, whatever the text and the configuration
(`exists_process_eq`).
-/
namespace Plantilla

/-! ## Names -/

namespace Stage

theorem ofName?_name (st : Stage) : ofName? st.name = some st := by cases st <;> decide

theorem ofName?_eq_none {s : String} (h : ∀ st : Stage, st.name ≠ s) : ofName? s = none :=
  List.find?_eq_none.2 fun st _ hst => h st (beq_iff_eq.1 hst)

theorem hyphen_not_mem_name (st : Stage) : '-' ∉ st.name.toList := by cases st <;> decide

end Stage

namespace Format

theorem ofName?_name (f : Format) : ofName? f.name = some f := by cases f <;> decide

theorem name_of_ofName? {s : String} {f : Format} (h : ofName? s = some f) : f.name = s := by
  unfold ofName? at h
  have hname := List.find?_some h
  exact beq_iff_eq.1 hname

end Format

namespace Spec

/-! ## Reading a spec -/

theorem splitHyphen_append {cs : List Char} (h : '-' ∉ cs) (ds : List Char) :
    splitHyphen (cs ++ '-' :: ds) = some (cs, ds) := by
  have hcs : ∀ c ∈ cs, (c != '-') = true := fun c hc => bne_iff_ne.2 fun heq => h (heq ▸ hc)
  simp [splitHyphen, List.dropWhile_append_of_pos hcs, List.takeWhile_append_of_pos hcs]

theorem splitHyphen_of_not_mem {cs : List Char} (h : '-' ∉ cs) : splitHyphen cs = none := by
  have hcs : ∀ c ∈ cs, (c != '-') = true := fun c hc => bne_iff_ne.2 fun heq => h (heq ▸ hc)
  simp [splitHyphen, List.dropWhile_eq_nil_iff.2 hcs]

theorem parse_of_not_mem {s : String} (h : '-' ∉ s.toList) : parse s = .error (.invalidFormat s) := by
  simp only [parse, splitHyphen_of_not_mem h]

section Split

variable {s : String} {stage format : List Char} (hs : s.toList = stage ++ '-' :: format) (hstage : '-' ∉ stage)
include hs hstage

theorem parse_of_no_stage (h : ∀ st : Stage, st.name ≠ String.ofList stage) :
    parse s = .error (.invalidStage (String.ofList stage)) := by
  simp only [parse, hs, splitHyphen_append hstage, Stage.ofName?_eq_none h]

theorem parse_of_stage {st : Stage} (h : st.name = String.ofList stage) :
    parse s = match Format.ofName? (String.ofList format) with
      | none => .error (.invalidFormatType (String.ofList format))
      | some f => make st f := by
  cases hformat : Format.ofName? (String.ofList format) with
  | none => simp only [parse, hs, splitHyphen_append hstage, ← h, Stage.ofName?_name, hformat]
  | some f => simp only [parse, hs, splitHyphen_append hstage, ← h, Stage.ofName?_name, hformat]

/-- Split at its first hyphen, a text is a spec, or the stage is to blame if there is none of that name, and else the
format. -/
theorem parse_cases : (∃ spec, parse s = .ok spec ∧ spec.display = s) ∨
    ((∀ st : Stage, st.name ≠ String.ofList stage) ∧ parse s = .error (.invalidStage (String.ofList stage))) ∨
    (∃ st : Stage, st.name = String.ofList stage) ∧ ∃ detail, parse s = .error (.invalidFormatType detail) := by
  by_cases hname : ∃ st : Stage, st.name = String.ofList stage
  · obtain ⟨st, hst⟩ := hname
    rw [parse_of_stage hs hstage hst]
    cases hformat : Format.ofName? (String.ofList format) with
    | none => exact .inr (.inr ⟨⟨st, hst⟩, _, rfl⟩)
    | some f =>
      by_cases hsupported : st.supports f = true
      · refine .inl ⟨⟨st, f, hsupported⟩, dif_pos hsupported, ?_⟩
        rw [display, hst, Format.name_of_ofName? hformat, ← String.toList_inj, hs]
        simp
      · exact .inr (.inr ⟨⟨st, hst⟩, _, dif_neg hsupported⟩)
  · exact .inr (.inl ⟨not_exists.1 hname, parse_of_no_stage hs hstage (not_exists.1 hname)⟩)

theorem blamed_of_parse {failure : Failure} (h : parse s = .error failure) :
    ((∀ st : Stage, st.name ≠ String.ofList stage) ∧ failure = .invalidStage (String.ofList stage)) ∨
    (∃ st : Stage, st.name = String.ofList stage) ∧ ∃ detail, failure = .invalidFormatType detail := by
  rcases parse_cases hs hstage with ⟨spec, hparse, _⟩ | ⟨hname, hparse⟩ | ⟨hname, detail, hparse⟩
  · rw [hparse] at h
    cases h
  · rw [hparse, Except.error.injEq] at h
    exact .inl ⟨hname, h.symm⟩
  · rw [hparse, Except.error.injEq] at h
    exact .inr ⟨hname, detail, h.symm⟩

end Split

/-- The first hyphen, if there is one, splits the text. -/
theorem hyphen_cases (s : String) :
    '-' ∉ s.toList ∨ ∃ stage format, s.toList = stage ++ '-' :: format ∧ '-' ∉ stage := by
  by_cases h : '-' ∈ s.toList
  · exact .inr (List.eq_append_cons_of_mem h)
  · exact .inl h

theorem toList_display (spec : Spec) :
    spec.display.toList = spec.stage.name.toList ++ '-' :: spec.format.name.toList := by
  simp [display]

/-- **A spec is read back as it is written.** -/
theorem parse_display (spec : Spec) : parse spec.display = .ok spec := by
  rw [parse_of_stage spec.toList_display spec.stage.hyphen_not_mem_name String.ofList_toList.symm, String.ofList_toList,
    Format.ofName?_name]
  exact dif_pos spec.supported

theorem display_of_parse {s : String} {spec : Spec} (h : parse s = .ok spec) : spec.display = s := by
  rcases hyphen_cases s with hnone | ⟨stage, format, hs, hstage⟩
  · rw [parse_of_not_mem hnone] at h
    cases h
  · rcases parse_cases hs hstage with ⟨spec', hparse, hdisplay⟩ | ⟨_, hparse⟩ | ⟨_, detail, hparse⟩
    · rw [hparse, Except.ok.injEq] at h
      exact h ▸ hdisplay
    · rw [hparse] at h
      cases h
    · rw [hparse] at h
      cases h

theorem mem_available (spec : Spec) : spec ∈ available := by
  obtain ⟨stage, format, hsupported⟩ := spec
  revert hsupported
  cases stage <;> cases format <;> decide

/-! ## What is to blame -/

/-- **The first part that is wrong is blamed**: the text, if it has no hyphen, else the stage, if there is none of that
name, else the format. -/
theorem blame_of_parse {s : String} {failure : Failure} (h : parse s = .error failure) :
    (failure = .invalidFormat s ↔ '-' ∉ s.toList) ∧
    ∀ stage format, s.toList = stage ++ '-' :: format → '-' ∉ stage →
      (failure = .invalidStage (String.ofList stage) ↔ ∀ st : Stage, st.name ≠ String.ofList stage) ∧
      ((∃ st : Stage, st.name = String.ofList stage) → ∃ detail, failure = .invalidFormatType detail) := by
  constructor
  · rcases hyphen_cases s with hnone | ⟨stage, format, hs, hstage⟩
    · rw [parse_of_not_mem hnone, Except.error.injEq] at h
      exact ⟨fun _ => hnone, fun _ => h.symm⟩
    · have hhyphen : '-' ∈ s.toList := by simp [hs]
      refine ⟨fun hformat => ?_, fun hnone => absurd hhyphen hnone⟩
      subst hformat
      rcases blamed_of_parse hs hstage h with ⟨_, hblamed⟩ | ⟨_, detail, hblamed⟩ <;> cases hblamed
  · intro stage format hs hstage
    rcases blamed_of_parse hs hstage h with ⟨hname, rfl⟩ | ⟨⟨st, hst⟩, detail, rfl⟩
    · exact ⟨⟨fun _ => hname, fun _ => rfl⟩, fun ⟨st, hst⟩ => absurd hst (hname st)⟩
    · exact ⟨⟨nofun, fun hname => absurd hst (hname st)⟩, fun _ => ⟨detail, rfl⟩⟩

end Spec

/-! ## Printing by a spec -/

theorem exists_process_eq (spec : Spec) (source : String) (config : Config) :
    ∃ output, process source spec config
      = .ok ⟨output, if spec.stage = .check then some (({} : Checker).report source).verdict else none⟩ := by
  cases hstage : spec.stage with
  | tokens =>
    have hsupported := spec.supported
    rw [hstage] at hsupported
    simp only [process, hstage]
    cases hformat : spec.format with
    | simple => exact ⟨_, rfl⟩
    | json => exact ⟨_, rfl⟩
    | text => rw [hformat] at hsupported; cases hsupported
    | yaml => rw [hformat] at hsupported; cases hsupported
  | check =>
    obtain ⟨output, hprocess⟩ := Command.exists_process spec hstage source config
    have hgrammar : (Checker.ofConfig config).grammar = ({} : Checker).grammar := rfl
    exact ⟨output, by rw [hprocess, Checker.verdict_congr hgrammar, if_pos rfl]⟩

/-- **Specs, their names and what is printed by them agree.**  A text that is read as a spec is the one it is written as,
and one of those available; whatever the text and the configuration, printing by it succeeds, with a verdict exactly if
it asks for a check, which is that of the stock checker.  A text that is not read is blamed for its first part that is
wrong.  And every available spec is read back as it is written. -/
theorem spec_prints (s : String) :
    (∀ spec, Spec.parse s = .ok spec → spec.display = s ∧ spec ∈ Spec.available ∧ ∀ source config, ∃ output,
      process source spec config
        = .ok ⟨output, if spec.stage = .check then some (({} : Checker).report source).verdict else none⟩) ∧
    (∀ failure, Spec.parse s = .error failure →
      (failure = .invalidFormat s ↔ '-' ∉ s.toList) ∧
      ∀ stage format, s.toList = stage ++ '-' :: format → '-' ∉ stage →
        (failure = .invalidStage (String.ofList stage) ↔ ∀ st : Stage, st.name ≠ String.ofList stage) ∧
        ((∃ st : Stage, st.name = String.ofList stage) → ∃ detail, failure = .invalidFormatType detail)) ∧
    ∀ spec ∈ Spec.available, Spec.parse spec.display = .ok spec :=
  ⟨fun spec h => ⟨Spec.display_of_parse h, spec.mem_available, exists_process_eq spec⟩, fun _ => Spec.blame_of_parse,
    fun spec _ => spec.parse_display⟩

/-- A check under a configuration whose own format it could not be printed in, and a text with two hyphens. -/
theorem spec_prints_check_yaml :
    Spec.parse "check-yaml" = .ok ⟨.check, .yaml, rfl⟩ ∧
    (∃ output, process "var int 5;" ⟨.check, .yaml, rfl⟩ ⟨⟨.halt, 0⟩, .simple, true⟩ = .ok ⟨output, some .rejected⟩) ∧
    Spec.parse "yaml-check-" = .error (.invalidStage "yaml") ∧ ∀ st : Stage, st.name ≠ "yaml" := by
  have hparse : Spec.parse "check-yaml" = .ok ⟨.check, .yaml, rfl⟩ := by decide +kernel
  have hblamed : Spec.parse "yaml-check-" = .error (.invalidStage "yaml") := by decide +kernel
  have hrejected : (({} : Checker).report "var int 5;").verdict = .rejected := by decide +kernel
  obtain ⟨output, hprocess⟩ := ((spec_prints "check-yaml").1 _ hparse).2.2 "var int 5;" ⟨⟨.halt, 0⟩, .simple, true⟩
  rw [if_pos rfl, hrejected] at hprocess
  have hstage := (((spec_prints "yaml-check-").2.1 _ hblamed).2 "yaml".toList "check-".toList (by decide) (by decide)).1
  exact ⟨hparse, ⟨output, hprocess⟩, hblamed, hstage.1 rfl⟩

end Plantilla
