import Plantilla.Command.Run
import Plantilla.Proofs.Acceptance
import Plantilla.Proofs.Reaching
/-!
# Exit — how a check ends

A check that cannot do its work prints a complaint and ends with 2; any other ends with 1 exactly if the text is
rejected, whatever the configuration (`check_exit`).  There is one exception: a file may have a key that leads to a
place that no list can have, and then the check breaks off with 101.  No other key can do this
(`index_of_unreachable`).
-/
namespace Plantilla

open Setting (PathStep)

/-! ## The verdict of a text -/

theorem Checker.verdict_congr {c c' : Checker} (h : c.grammar = c'.grammar) (source : String) :
    (c.report source).verdict = (c'.report source).verdict := by
  cases hitems : innerItems source with
  | none => rw [c.report_of_none hitems, c'.report_of_none hitems]
  | some items =>
    have hiff : diagnose c.grammar c.recovery items = [] ↔ diagnose c'.grammar c'.recovery items = [] := by
      rw [diagnose_eq_nil_iff, diagnose_eq_nil_iff, h]
    rcases c.report_of_items hitems with ⟨hnil, p, _, hreport⟩ | ⟨hne, hreport⟩ <;>
      rcases c'.report_of_items hitems with ⟨hnil', p', _, hreport'⟩ | ⟨hne', hreport'⟩
    · rw [hreport, hreport']
    · exact absurd (hiff.1 hnil) hne'
    · exact absurd (hiff.2 hnil') hne
    · rw [hreport, hreport']

/-- The text is neither blank nor accepted, as the stock checker sees it. -/
def IsRejected (source : String) : Prop :=
  ¬ Text.Blank source.toList ∧ (({} : Checker).report source).verdict ≠ .accepted

theorem Checker.rejected_iff {c : Checker} (h : c.grammar = .stock) (source : String) :
    (c.report source).verdict = .rejected ↔ IsRejected source := by
  have hsame : (({} : Checker).report source).verdict = (c.report source).verdict := Checker.verdict_congr h.symm source
  rw [IsRejected, hsame]
  rcases c.report_cases source with ⟨hb, hreport⟩ | ⟨hb, p, hreport⟩ | ⟨hb, ds, _, hreport⟩ <;> simp [hreport, hb]

/-! ## Reading and printing -/

/-- The text that a path stands for, or the standard input in place of a single hyphen. -/
def Reads (files : Files) (stdin : ByteArray) (path source : String) : Prop :=
  if path = "-" then Files.decode? stdin = some source
  else ∃ bytes, files.find path = .file bytes ∧ Files.decode? bytes = some source

/-- What is printed by a run that could not do its work. -/
def Outcome.Complains (o : Outcome) (message : String) : Prop :=
  o.code = 2 ∧ o.stdout = "" ∧ o.stderr = "Error: " ++ message ++ "\n"

namespace Command

theorem readSource_eq_ok_iff {files : Files} {stdin : ByteArray} {path source : String} :
    readSource files stdin path = .ok source ↔ Reads files stdin path source := by
  unfold readSource readStdin Reads
  by_cases hpath : path = "-"
  · rw [if_pos hpath, if_pos hpath]
    cases Files.decode? stdin <;> simp
  · rw [if_neg hpath, if_neg hpath]
    unfold Files.readText
    cases files.find path with
    | missing => simp [Except.mapError]
    | refused fault => simp [Except.mapError]
    | file bytes => cases hbytes : Files.decode? bytes <;> simp [Except.mapError, hbytes]

/-- The text is read first, and only then looked at. -/
theorem processInput_eq (files : Files) (stdin : ByteArray) (path : String) (spec : Spec) (c : Config) :
    processInput files stdin path spec c
      = (readSource files stdin path).bind fun source => (process source spec c).mapError Failure.message := by
  unfold processInput readSource
  by_cases hpath : path = "-"
  · rw [if_pos hpath, if_pos hpath]
    rfl
  · rw [if_neg hpath, if_neg hpath, processFile]
    cases files.readText path <;> rfl

theorem exists_process (spec : Spec) (hspec : spec.stage = .check) (source : String) (c : Config) :
    ∃ output, process source spec c = .ok ⟨output, some ((Checker.ofConfig c).report source).verdict⟩ := by
  have hsupported := spec.supported
  simp only [process, hspec] at hsupported ⊢
  cases hformat : spec.format with
  | simple =>
    rw [hformat] at hsupported
    cases hsupported
  | text => exact ⟨_, rfl⟩
  | json => exact ⟨_, rfl⟩
  | yaml => exact ⟨_, rfl⟩

/-! ## The four ends of a check -/

theorem complains_failed (message : String) : (Outcome.failed message).Complains message := ⟨rfl, rfl, rfl⟩

theorem faulted_of_ne {fault : Config.Fault} (h : fault ≠ .unreachablePlace) :
    Outcome.faulted fault = .failed fault.message := by
  cases fault with
  | unreachablePlace => exact absurd rfl h
  | _ => rfl

section Ends

variable {files : Files} {stdin : ByteArray} {path : String} {format config : Option String} {halt : Bool} {c : Config}
  {source : String}

theorem runCheck_of_fault {fault : Config.Fault}
    (hload : Config.load files (layers format config halt) = .error fault) :
    runCheck files stdin path format config halt = .faulted fault := by
  simp only [runCheck, hload]

theorem runCheck_of_unsupported (hload : Config.load files (layers format config halt) = .ok c)
    (hformat : ¬ Stage.check.supports c.format = true) :
    runCheck files stdin path format config halt
      = .failed (Failure.invalidFormatType (Spec.unsupported .check c.format)).message := by
  simp only [runCheck, hload, Spec.make, dif_neg hformat]

theorem runCheck_of_unread (hload : Config.load files (layers format config halt) = .ok c)
    (hformat : Stage.check.supports c.format = true) (hread : ¬ ∃ source, Reads files stdin path source) :
    ∃ message, runCheck files stdin path format config halt = .failed message := by
  cases hsource : readSource files stdin path with
  | ok source => exact absurd ⟨source, readSource_eq_ok_iff.1 hsource⟩ hread
  | error message =>
    refine ⟨message, ?_⟩
    simp only [runCheck, hload, Spec.make, dif_pos hformat, processInput_eq, hsource, Except.bind]

theorem runCheck_of_text (hload : Config.load files (layers format config halt) = .ok c)
    (hformat : Stage.check.supports c.format = true) (hread : Reads files stdin path source) :
    ∃ output, process source ⟨.check, c.format, hformat⟩ c
        = .ok ⟨output, some ((Checker.ofConfig c).report source).verdict⟩ ∧
      runCheck files stdin path format config halt
        = ⟨exitCode (some ((Checker.ofConfig c).report source).verdict), output, ""⟩ := by
  obtain ⟨output, hprocess⟩ := exists_process ⟨.check, c.format, hformat⟩ rfl source c
  refine ⟨output, hprocess, ?_⟩
  simp only [runCheck, hload, Spec.make, dif_pos hformat, processInput_eq, readSource_eq_ok_iff.2 hread, Except.bind,
    hprocess, Except.mapError]

theorem exitCode_cases (c : Config) (source : String) :
    (IsRejected source ∧ exitCode (some ((Checker.ofConfig c).report source).verdict) = 1) ∨
    (¬ IsRejected source ∧ exitCode (some ((Checker.ofConfig c).report source).verdict) = 0) := by
  have hrejected := Checker.rejected_iff (c := Checker.ofConfig c) rfl source
  cases hverdict : ((Checker.ofConfig c).report source).verdict with
  | rejected => exact .inl ⟨hrejected.1 hverdict, rfl⟩
  | accepted => exact .inr ⟨fun h => absurd (hverdict.symm.trans (hrejected.2 h)) (by decide), rfl⟩
  | empty => exact .inr ⟨fun h => absurd (hverdict.symm.trans (hrejected.2 h)) (by decide), rfl⟩

theorem stderr_failed_ne (message : String) : (Outcome.failed message).stderr ≠ "" := by
  intro h
  have hlist := congrArg String.toList h
  simp [Outcome.failed, String.toList_append] at hlist

/-- A check that prints no complaint has read its text, and the verdict on the text is its end. -/
theorem code_of_silent (hsilent : (runCheck files stdin path format config halt).stderr = "")
    (hread : Reads files stdin path source) :
    (IsRejected source ∧ (runCheck files stdin path format config halt).code = 1) ∨
    (¬ IsRejected source ∧ (runCheck files stdin path format config halt).code = 0) := by
  cases hload : Config.load files (layers format config halt) with
  | error fault =>
    rw [runCheck_of_fault hload] at hsilent
    by_cases hfault : fault = .unreachablePlace
    · subst hfault
      exact absurd hsilent (by decide)
    · rw [faulted_of_ne hfault] at hsilent
      exact absurd hsilent (stderr_failed_ne _)
  | ok c =>
    by_cases hformat : Stage.check.supports c.format = true
    · obtain ⟨output, _, hrun⟩ := runCheck_of_text hload hformat hread
      rw [hrun]
      exact exitCode_cases c source
    · rw [runCheck_of_unsupported hload hformat] at hsilent
      exact absurd hsilent (stderr_failed_ne _)

theorem mem_layers {layer : Config.Layer} :
    layer ∈ layers format config halt ↔ layer = .file localConfig false ∨ (∃ file ∈ config, layer = .file file true) ∨
      (halt = true ∧ layer = .override "recovery.mode" (.scalar none (.text "halt"))) ∨
      ∃ name ∈ format, layer = .override "output.format" (.scalar none (.text name)) := by
  cases format <;> cases config <;> cases halt <;> simp [layers]

/-- **Only a top-level key of a configuration file breaks off a check.** -/
theorem index_of_unreachable (hload : Config.load files (layers format config halt) = .error .unreachablePlace) :
    ∃ file ∈ localConfig :: config.toList, ∃ p ∈ (Config.fieldsOf? files file).getD [], ∃ i,
      PathStep.index i ∈ Config.topLevelSteps p.1 := by
  rcases Config.unreachable_of_load hload with ⟨file, required, hfile, hindex⟩ | ⟨key, v, hkey, steps, hsteps, i, hi⟩
  · refine ⟨file, ?_, hindex⟩
    rcases mem_layers.1 hfile with hlocal | ⟨file', hconfig, hfile'⟩ | ⟨_, hover⟩ | ⟨_, _, hover⟩
    · cases hlocal
      exact List.mem_cons_self
    · cases hfile'
      exact List.mem_cons_of_mem _ (Option.mem_toList.2 hconfig)
    · cases hover
    · cases hover
  · have hdotted : ∃ k : Config.Key, key = k.dotted := by
      rcases mem_layers.1 hkey with hfile | ⟨_, _, hfile⟩ | ⟨_, hover⟩ | ⟨_, _, hover⟩
      · cases hfile
      · cases hfile
      · cases hover
        exact ⟨.mode, rfl⟩
      · cases hover
        exact ⟨.format, rfl⟩
    obtain ⟨k, rfl⟩ := hdotted
    rw [Config.Key.parse?_dotted, Option.some.injEq] at hsteps
    subst hsteps
    simp [Config.Key.steps] at hi

end Ends

/-- **A check ends with 2 and a complaint, or with the verdict on its text**, or breaks off.  A fault of the
configuration comes before an unsupported format, and either before a text that cannot be read.  Otherwise the report is
printed, and the code is 1 if the text is neither blank nor accepted, and 0 if it is.  So two checks of one text that
print no complaint end alike, whatever their configurations.  A check breaks off, with 101, only at a top-level key of a
configuration file that leads to a place in a list. -/
theorem check_exit (files : Files) (stdin : ByteArray) {args : List String} {path : String}
    {format config : Option String} {halt : Bool} (hargs : parse? args = some (.check path format config halt)) :
    let o := runArguments files stdin args
    let loaded := Config.load files (layers format config halt)
    (∀ fault, loaded = .error fault → fault ≠ .unreachablePlace → o.Complains fault.message) ∧
    (loaded = .error .unreachablePlace → o.code = 101 ∧ o.stdout = "" ∧ ¬ "Error: ".toList <+: o.stderr.toList ∧
      ∃ file ∈ localConfig :: config.toList, ∃ p ∈ (Config.fieldsOf? files file).getD [], ∃ i,
        PathStep.index i ∈ Config.topLevelSteps p.1) ∧
    (∀ c, loaded = .ok c →
      (¬ Stage.check.supports c.format = true →
        o.Complains (Failure.invalidFormatType (Spec.unsupported .check c.format)).message) ∧
      ∀ hformat : Stage.check.supports c.format = true,
        ((¬ ∃ source, Reads files stdin path source) → ∃ message, o.Complains message) ∧
        ∀ source, Reads files stdin path source → o.stderr = "" ∧
          (∃ verdict, process source ⟨.check, c.format, hformat⟩ c = .ok ⟨o.stdout, verdict⟩) ∧
          ((IsRejected source ∧ o.code = 1) ∨ (¬ IsRejected source ∧ o.code = 0))) ∧
    ∀ (files' : Files) (stdin' : ByteArray) (args' : List String) (path' : String) (format' config' : Option String)
      (halt' : Bool), parse? args' = some (.check path' format' config' halt') →
      ∀ source, Reads files stdin path source → Reads files' stdin' path' source →
        o.stderr = "" → (runArguments files' stdin' args').stderr = "" →
        (runArguments files' stdin' args').code = o.code := by
  have hrun : ∀ {files stdin args path format config halt}, parse? args = some (.check path format config halt) →
      runArguments files stdin args = runCheck files stdin path format config halt := by
    intro files stdin args path format config halt hargs
    rw [runArguments, hargs]
    rfl
  simp only [hrun hargs]
  refine ⟨fun fault hload hfault => ?_, fun hload => ?_,
    fun c hload => ⟨fun hformat => ?_, fun hformat => ⟨fun hread => ?_, fun source hread => ?_⟩⟩, ?_⟩
  · rw [runCheck_of_fault hload, faulted_of_ne hfault]
    exact complains_failed _
  · rw [runCheck_of_fault hload]
    exact ⟨rfl, rfl, by decide, index_of_unreachable hload⟩
  · rw [runCheck_of_unsupported hload hformat]
    exact complains_failed _
  · obtain ⟨message, hmessage⟩ := runCheck_of_unread hload hformat hread
    exact ⟨message, hmessage ▸ complains_failed message⟩
  · obtain ⟨output, hprocess, houtcome⟩ := runCheck_of_text hload hformat hread
    rw [houtcome]
    exact ⟨rfl, ⟨_, hprocess⟩, exitCode_cases c source⟩
  · intro files' stdin' args' path' format' config' halt' hargs' source hread hread' hsilent hsilent'
    rw [hrun hargs'] at hsilent' ⊢
    -- each run ends with the verdict on the one text, which no configuration changes
    rcases code_of_silent hsilent hread with ⟨hrejected, hcode⟩ | ⟨hrejected, hcode⟩ <;>
      rcases code_of_silent hsilent' hread' with ⟨hrejected', hcode'⟩ | ⟨hrejected', hcode'⟩
    · rw [hcode, hcode']
    · exact absurd hrejected hrejected'
    · exact absurd hrejected' hrejected
    · rw [hcode, hcode']

/-- A text from the standard input is rejected, under a configuration that the option `--halt` changes. -/
theorem check_exit_halt :
    let files : Files := ⟨fun path =>
      if path = "analizador.toml" then .file "recovery.quiet_shifts = 0".toUTF8 else .missing⟩
    let stdin := "var var".toUTF8
    parse? ["check", "-", "--halt"] = some (.check "-" none none true) ∧
    (runArguments files stdin ["check", "-", "--halt"]).stderr = "" ∧
    (runArguments files stdin ["check", "-", "--halt"]).code = 1 := by
  intro files stdin
  have hargs : parse? ["check", "-", "--halt"] = some (.check "-" none none true) := by decide +kernel
  have hload : Config.load files (layers none none true) = .ok ⟨⟨.halt, 0⟩, .text, true⟩ := by decide +kernel
  have hread : Reads files stdin "-" "var var" := by
    rw [Reads, if_pos rfl]
    decide +kernel
  have hrejected : IsRejected "var var" := by
    unfold IsRejected
    decide +kernel
  obtain ⟨_, _, hdone, _⟩ := check_exit files stdin hargs
  obtain ⟨hsilent, _, hcode⟩ := ((hdone _ hload).2 rfl).2 "var var" hread
  exact ⟨hargs, hsilent, (hcode.resolve_right fun h => h.1 hrejected).2⟩

/-- The last place that a number of 64 bits can name is out of reach: the configuration cannot be loaded, and there is
no complaint. -/
theorem not_complains_place_out_of_reach :
    let files : Files := ⟨fun path =>
      if path = "analizador.toml" then .file "\"x[9223372036854775807].y\" = 1".toUTF8 else .missing⟩
    let o := runArguments files "var int edad;".toUTF8 ["check", "-"]
    parse? ["check", "-"] = some (.check "-" none none false) ∧
    (∃ fault, Config.load files (layers none none false) = .error fault) ∧
    o.code = 101 ∧ ¬ "Error: ".toList <+: o.stderr.toList := by
  intro files o
  have hload : Config.load files (layers none none false) = .error .unreachablePlace := by decide +kernel
  have hcode : o.code = 101 := by decide +kernel
  have hstderr : ¬ "Error: ".toList <+: o.stderr.toList := by decide +kernel
  exact ⟨by decide +kernel, ⟨_, hload⟩, hcode, hstderr⟩

end Command
end Plantilla
