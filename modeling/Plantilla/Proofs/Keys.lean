import Plantilla.Proofs.Merging
/-!
# Keys — the four settings and the scalars that are valid for them

Four settings make up a configuration.  What a scalar gives its setting is said without the tree and without the
readers (`Key.Gives`); each reader agrees on a scalar that is valid.
-/
namespace Plantilla

open Setting (PathStep)

namespace Config

/-! ## The four settings -/

inductive Key where
  | mode
  | quietShifts
  | format
  | showExpected
deriving DecidableEq, Repr

namespace Key

def group : Key → String
  | mode | quietShifts => "recovery"
  | format | showExpected => "output"

def name : Key → String
  | mode => "mode"
  | quietShifts => "quiet_shifts"
  | format => "format"
  | showExpected => "show_expected"

def dotted (k : Key) : String := k.group ++ "." ++ k.name

/-- The scalar that stands where no layer sets one. -/
def initial : Key → Scalar
  | mode => .text "synchronize"
  | quietShifts => .integer 3
  | format => .text "text"
  | showExpected => .truth true

/-- The steps to a setting. -/
def steps (k : Key) : List PathStep := [.key k.group, .key k.name]

theorem isPlain_group (k : Key) : IsPlain k.group := by cases k <;> decide +kernel

theorem isPlain_name (k : Key) : IsPlain k.name := by cases k <;> decide +kernel

theorem parse?_dotted (k : Key) : KeyPath.parse? k.dotted = some k.steps := by cases k <;> decide +kernel

theorem eq_of_group_name {k k' : Key} (hgroup : k.group = k'.group) (hname : k.name = k'.name) : k = k' := by
  revert hgroup hname
  cases k <;> cases k' <;> decide

theorem steps_inj {k k' : Key} (h : k.steps = k'.steps) : k = k' := by
  simp only [steps, List.cons.injEq, PathStep.key.injEq, and_true] at h
  exact eq_of_group_name h.1 h.2

theorem dotted_inj {k k' : Key} (h : k.dotted = k'.dotted) : k = k' := by
  have hparse := parse?_dotted k
  rw [h, parse?_dotted, Option.some.injEq] at hparse
  exact steps_inj hparse.symm

end Key

/-! ## What a scalar gives -/

/-- A name in any case. -/
def IsName (v : Scalar) (name : String) : Prop := ∃ s, v = .text s ∧ Text.lowerCase s = name

/-- A scalar stands for a number without a sign. -/
inductive IsCount : Scalar → Nat → Prop
  | integer {n : Nat} : IsCount (.integer n) n
  | real {x : Float} : IsCount (.real x) x.round.toUInt64.toNat
  | truth {b : Bool} : IsCount (.truth b) b.toNat
  | word {s : String} {b : Bool} : wordTruth? (Text.lowerCase s) = some b → IsCount (.text s) b.toNat
  | text {s : String} {n : Nat} : wordTruth? (Text.lowerCase s) = none → Numeral.word? s = some n → IsCount (.text s) n

/-- A scalar stands for a truth value. -/
inductive IsFlag : Scalar → Bool → Prop
  | truth {b : Bool} : IsFlag (.truth b) b
  | integer {n : Int} : IsFlag (.integer n) (n ≠ 0)
  | real {x : Float} : IsFlag (.real x) (x != 0)
  | digit {s : String} {b : Bool} : s = (if b then "1" else "0") → IsFlag (.text s) b
  | word {s : String} {b : Bool} : wordTruth? (Text.lowerCase s) = some b → IsFlag (.text s) b

/-- The scalar is valid for the setting and gives it its value in the configuration. -/
def Key.Gives (c : Config) : Key → Scalar → Prop
  | mode, v => IsName v c.recovery.mode.name
  | quietShifts, v => IsCount v c.recovery.quietShifts
  | format, v => IsName v c.format.name
  | showExpected, v => IsFlag v c.showExpected

theorem readChoice_of_isName {α : Type} {alternatives : List (String × α)} {v : Scalar} {name : String} {a : α}
    (h : IsName v name) (hfind : (alternatives.find? fun p => p.1 == name) = some (name, a)) (choice : String)
    (origin : Option String) : readChoice choice alternatives (.scalar origin v) = .ok a := by
  obtain ⟨s, rfl, rfl⟩ := h
  simp only [readChoice, hfind]

theorem find?_modeNames (m : Recovery.Mode) : (modeNames.find? fun p => p.1 == m.name) = some (m.name, m) := by
  cases m <;> rfl

theorem find?_formatNames (f : Format) : (formatNames.find? fun p => p.1 == f.name) = some (f.name, f) := by
  cases f <;> rfl

theorem readCount_of_isCount {v : Scalar} {n : Nat} (h : IsCount v n) (key : String) (origin : Option String) :
    readCount key (.scalar origin v) = .ok n := by
  cases h with
  | integer => simp [readCount]
  | real => rfl
  | @truth b => cases b <;> rfl
  | @word s b hs => cases b <;> simp [readCount, hs]
  | text hs hn => simp [readCount, hs, hn]

theorem readFlag_of_isFlag {v : Scalar} {b : Bool} (h : IsFlag v b) (key : String) (origin : Option String) :
    readFlag key (.scalar origin v) = .ok b := by
  cases h with
  | truth => rfl
  | integer => rfl
  | real => rfl
  | digit hs =>
    subst hs
    have hone : Text.lowerCase "1" = "1" := Text.lowerCase_of_isPlain (by decide)
    have hzero : Text.lowerCase "0" = "0" := Text.lowerCase_of_isPlain (by decide)
    cases b <;> simp [readFlag, hone, hzero]
  | @word s b hs =>
    have hone : Text.lowerCase s ≠ "1" := fun hone => by
      rw [hone] at hs
      cases hs
    have hzero : Text.lowerCase s ≠ "0" := fun hzero => by
      rw [hzero] at hs
      cases hs
    simp [readFlag, hs, hone, hzero]

/-- The four scalars give one configuration at most. -/
theorem Key.gives_unique {c c' : Config} {vals : Key → Scalar} (h : ∀ k, Key.Gives c k (vals k))
    (h' : ∀ k, Key.Gives c' k (vals k)) : c' = c := by
  have hmode := readChoice_of_isName (h .mode) (find?_modeNames _) "" none
  have hquiet := readCount_of_isCount (h .quietShifts) "" none
  have hformat := readChoice_of_isName (h .format) (find?_formatNames _) "" none
  have hshown := readFlag_of_isFlag (h .showExpected) "" none
  rw [readChoice_of_isName (h' .mode) (find?_modeNames _), Except.ok.injEq] at hmode
  rw [readCount_of_isCount (h' .quietShifts), Except.ok.injEq] at hquiet
  rw [readChoice_of_isName (h' .format) (find?_formatNames _), Except.ok.injEq] at hformat
  rw [readFlag_of_isFlag (h' .showExpected), Except.ok.injEq] at hshown
  obtain ⟨⟨mode, quiet⟩, format, shown⟩ := c
  obtain ⟨⟨mode', quiet'⟩, format', shown'⟩ := c'
  simp only at hmode hquiet hformat hshown
  rw [hmode, hquiet, hformat, hshown]

/-- Scalars that are valid, each by itself, give a configuration together. -/
theorem Key.exists_gives {vals : Key → Scalar} (h : ∀ k, ∃ c, Key.Gives c k (vals k)) :
    ∃ c, ∀ k, Key.Gives c k (vals k) := by
  obtain ⟨m, hm⟩ := h .mode
  obtain ⟨q, hq⟩ := h .quietShifts
  obtain ⟨f, hf⟩ := h .format
  obtain ⟨e, he⟩ := h .showExpected
  refine ⟨⟨⟨m.recovery.mode, q.recovery.quietShifts⟩, f.format, e.showExpected⟩, fun k => ?_⟩
  cases k with
  | mode => exact hm
  | quietShifts => exact hq
  | format => exact hf
  | showExpected => exact he

end Config
end Plantilla
