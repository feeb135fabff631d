import Plantilla.Proofs.Layering
/-!
# Reaching — where loading breaks off

A configuration that cannot be loaded has a fault, and one fault is not like the others: a key leads to a place that no
list has or can be given.  Reading the merged settings never ends so, and laying the layers does only at a key that
counts places in a list, at the top of a file or in an override (`unreachable_of_load`).
-/
namespace Plantilla

open Setting (PathStep)

namespace Config

section Faults

variable {α β : Type} {fault : Fault}

theorem bind_ne_error {x : Except Fault α} {f : α → Except Fault β} (hx : x ≠ .error fault)
    (hf : ∀ a, f a ≠ .error fault) : (x >>= f) ≠ .error fault := by
  cases x with
  | error e => exact fun h => hx (by simpa [bind, Except.bind] using h)
  | ok a => exact hf a

theorem error_of_bind {x : Except Fault α} {f : α → Except Fault β} (h : (x >>= f) = .error fault) :
    x = .error fault ∨ ∃ a, x = .ok a ∧ f a = .error fault := by
  cases x with
  | error e => exact .inl (by simpa [bind, Except.bind] using h)
  | ok a => exact .inr ⟨a, rfl, h⟩

theorem exists_error_of_foldlM {f : β → α → Except Fault β} : ∀ {as : List α} {b : β},
    as.foldlM f b = .error fault → ∃ b', ∃ a ∈ as, f b' a = .error fault
  | [], _, h => by cases h
  | a :: as, b, h => by
    rw [List.foldlM_cons] at h
    rcases error_of_bind h with h | ⟨b', _, h⟩
    · exact ⟨b, a, List.mem_cons_self, h⟩
    · obtain ⟨b'', a', ha', hf⟩ := exists_error_of_foldlM h
      exact ⟨b'', a', List.mem_cons_of_mem a ha', hf⟩

theorem foldlM_preserves {f : β → α → Except Fault β} {P : β → Prop} : ∀ {as : List α} {b b' : β},
    (∀ a ∈ as, ∀ b b', P b → f b a = .ok b' → P b') → P b → as.foldlM f b = .ok b' → P b'
  | [], b, b', _, hb, h => by
    cases h
    exact hb
  | a :: as, b, b', hstep, hb, h => by
    rw [List.foldlM_cons] at h
    cases ha : f b a with
    | error e => rw [ha] at h; cases h
    | ok b₁ =>
      rw [ha] at h
      have hb₁ := hstep a List.mem_cons_self b b₁ hb ha
      exact foldlM_preserves (fun a' ha' => hstep a' (List.mem_cons_of_mem a ha')) hb₁ h

theorem mapM_ne_error {f : α → Except Fault β} (hf : ∀ a, f a ≠ .error fault) (o : Option α) :
    o.mapM f ≠ .error fault := by
  cases o with
  | none => exact fun h => by cases h
  | some a =>
    rw [Option.mapM_some]
    exact bind_ne_error (hf a) fun b h => by cases h

end Faults

/-! ## Reading the settings -/

theorem readChoice_ne_unreachable {α : Type} (choice : String) (alternatives : List (String × α)) (s : Setting) :
    readChoice choice alternatives s ≠ .error .unreachablePlace := by
  unfold readChoice
  split
  · simp only
    split <;> simp
  · simp only
    split <;> simp
  · simp

theorem readCount_ne_unreachable (key : String) (s : Setting) : readCount key s ≠ .error .unreachablePlace := by
  cases s with
  | scalar origin v =>
    cases v with
    | integer n => by_cases hn : 0 ≤ n <;> simp [readCount, hn]
    | text t =>
      cases hword : wordTruth? (Text.lowerCase t) with
      | some b => simp [readCount, hword]
      | none => cases hnumber : Numeral.word? t <;> simp [readCount, hword, hnumber]
    | _ => simp [readCount]
  | _ => simp [readCount]

theorem readFlag_ne_unreachable (key : String) (s : Setting) : readFlag key s ≠ .error .unreachablePlace := by
  cases s with
  | scalar origin v =>
    cases v with
    | text t =>
      by_cases hone : Text.lowerCase t = "1"
      · simp [readFlag, hone]
      · by_cases hzero : Text.lowerCase t = "0"
        · simp [readFlag, hzero]
        · cases hword : wordTruth? (Text.lowerCase t) <;> simp [readFlag, hone, hzero, hword]
    | _ => simp [readFlag]
  | _ => simp [readFlag]

theorem readPair_ne_unreachable {α β : Type} {readFirst : String → Setting → Except Fault α}
    {readSecond : String → Setting → Except Fault β} (hfirst : ∀ key s, readFirst key s ≠ .error .unreachablePlace)
    (hsecond : ∀ key s, readSecond key s ≠ .error .unreachablePlace) (group name first second : String) (s : Setting) :
    readPair group name first second readFirst readSecond s ≠ .error .unreachablePlace := by
  unfold readPair
  split
  · refine bind_ne_error (mapM_ne_error (hfirst _) _) fun one => ?_
    refine bind_ne_error (mapM_ne_error (hsecond _) _) fun two => ?_
    split <;> simp
  · simp
  · exact bind_ne_error (hfirst _ _) fun _ => by simp
  · exact bind_ne_error (hfirst _ _) fun _ => bind_ne_error (hsecond _ _) fun _ => by simp
  · simp

theorem ofSetting_ne_unreachable (s : Setting) : ofSetting s ≠ .error .unreachablePlace := by
  have hrecovery : ∀ s, readRecovery s ≠ .error .unreachablePlace := by
    intro s
    have hpair := readPair_ne_unreachable (fun _ => readChoice_ne_unreachable "RecoveryMode" modeNames)
      readCount_ne_unreachable "RecoveryConfig" "recovery" "mode" "quiet_shifts" s
    unfold readRecovery
    cases hread : readPair "RecoveryConfig" "recovery" "mode" "quiet_shifts"
      (fun _ => readChoice "RecoveryMode" modeNames) readCount s with
    | ok p => simp [Except.map]
    | error fault =>
      rw [hread] at hpair
      simpa [Except.map] using hpair
  have houtput : ∀ s, readOutput s ≠ .error .unreachablePlace :=
    readPair_ne_unreachable (fun _ => readChoice_ne_unreachable "OutputFormat" formatNames) readFlag_ne_unreachable
      "OutputConfig" "output" "format" "show_expected"
  refine bind_ne_error (mapM_ne_error hrecovery _) fun recovery => ?_
  refine bind_ne_error (mapM_ne_error houtput _) fun output => ?_
  split <;> simp

/-! ## Laying the layers -/

theorem index_of_assign {path : List PathStep} {v s : Setting} (h : assign path v s = .error .unreachablePlace) :
    ∃ i, PathStep.index i ∈ path := by
  by_contra hnone
  obtain ⟨s', hs'⟩ := Setting.assign?_isSome v path s fun i hi => hnone ⟨i, hi⟩
  rw [assign, hs'] at h
  cases h

theorem index_of_addFile {files : Files} {path : String} {required : Bool} {s : Setting}
    (h : addFile files path required s = .error .unreachablePlace) :
    ∃ p ∈ (fieldsOf? files path).getD [], ∃ i, PathStep.index i ∈ topLevelSteps p.1 := by
  unfold addFile at h
  unfold fieldsOf?
  cases hread : readFile files path with
  | error fault =>
    have hfault : fault ≠ .unreachablePlace := by
      unfold readFile at hread
      split at hread
      · cases hread
        simp
      · split at hread <;> cases hread
        simp
    cases required <;> simp [hread, hfault] at h
  | ok content =>
    obtain ⟨origin, content⟩ := content
    simp only [hread] at h ⊢
    cases hparse : Toml.parse? content with
    | none => simp [hparse] at h
    | some v =>
      cases v with
      | table fields =>
        simp only [hparse, Option.getD_some] at h ⊢
        obtain ⟨s', p, hp, hassign⟩ := exists_error_of_foldlM h
        exact ⟨p, hp, index_of_assign hassign⟩
      | _ => simp [hparse] at h

/-- **Loading breaks off only at a key that leads to a place in a list**, at the top of a file or in an override. -/
theorem unreachable_of_load {files : Files} {layers : List Layer} (h : load files layers = .error .unreachablePlace) :
    (∃ path required, Layer.file path required ∈ layers ∧
      ∃ p ∈ (fieldsOf? files path).getD [], ∃ i, PathStep.index i ∈ topLevelSteps p.1) ∨
    ∃ key v, Layer.override key v ∈ layers ∧ ∃ path, KeyPath.parse? key = some path ∧ ∃ i, PathStep.index i ∈ path := by
  rcases error_of_bind h with h | ⟨changes, hchanges, h⟩
  · rw [overrides_eq_foldlM] at h
    obtain ⟨found, layer, _, hlayer⟩ := exists_error_of_foldlM h
    cases layer with
    | file path required => cases hlayer
    | override key v =>
      rw [addLayer] at hlayer
      split at hlayer <;> cases hlayer
  · rcases error_of_bind h with h | ⟨merged, _, h⟩
    · obtain ⟨s, layer, hlayer, hadd⟩ := exists_error_of_foldlM h
      cases layer with
      | file path required => exact .inl ⟨path, required, hlayer, index_of_addFile hadd⟩
      | override key v => cases hadd
    · rcases error_of_bind h with h | ⟨s, _, h⟩
      · obtain ⟨s, p, hp, hassign⟩ := exists_error_of_foldlM h
        rw [overrides_eq_foldlM] at hchanges
        have hknown : ∀ p ∈ changes, ∃ key v, Layer.override key v ∈ layers ∧ KeyPath.parse? key = some p.1 := by
          refine foldlM_preserves (P := fun found => ∀ p ∈ found, ∃ key v, Layer.override key v ∈ layers ∧
            KeyPath.parse? key = some p.1) (fun layer hlayer found found' hfound hadd => ?_) (by simp) hchanges
          cases layer with
          | file path required =>
            cases hadd
            exact hfound
          | override key v =>
            rw [addLayer] at hadd
            split at hadd
            · rename_i path hpath
              cases hadd
              intro p hp
              rcases mem_addOverride hp with rfl | hp
              · exact ⟨key, v, hlayer, hpath⟩
              · exact hfound p hp
            · cases hadd
        obtain ⟨key, v, hmem, hkey⟩ := hknown p hp
        exact .inr ⟨key, v, hmem, p.1, hkey, index_of_assign hassign⟩
      · exact absurd h (ofSetting_ne_unreachable s)

end Config
end Plantilla
