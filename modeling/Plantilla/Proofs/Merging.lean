import Mathlib.Data.List.TakeWhile
import Plantilla.Config.Layers
/-!
# Merging — what a tree of settings holds after a change

A tree is known by what stands at its keys (`child?`).  Setting a key leaves the other keys alone, and laying a table
over another replaces, of the scalars, exactly those that it sets (`child?_putAll`).  A path of keys can always be set
(`assign?_isSome`); only a step to a place in a list can fail.

Keys are set in lower case, and a plain key is in lower case already (`lowerCase_of_isPlain`).  As a top-level key of a
file it is a path of one step (`topLevelSteps_of_isPlain`).
-/
namespace Plantilla

/-! ## Plain keys -/

/-- A lower-case ASCII letter, a digit, an underscore or a hyphen. -/
def isPlainPart (c : Char) : Bool := ('a' ≤ c && c ≤ 'z') || Numeral.isDigit c || c == '_' || c == '-'

def IsPlain (key : String) : Prop := key ≠ "" ∧ key.toList.all isPlainPart = true

instance (key : String) : Decidable (IsPlain key) := inferInstanceAs (Decidable (_ ∧ _))

theorem toNat_of_isPlainPart {c : Char} (h : isPlainPart c = true) :
    (97 ≤ c.toNat ∧ c.toNat ≤ 122) ∨ (48 ≤ c.toNat ∧ c.toNat ≤ 57) ∨ c.toNat = 95 ∨ c.toNat = 45 := by
  simp only [isPlainPart, Numeral.isDigit, Bool.or_eq_true, Bool.and_eq_true, decide_eq_true_eq, beq_iff_eq,
    Char.le_def, UInt32.le_iff_toNat_le] at h
  rcases h with ((h | h) | rfl) | rfl
  · exact .inl h
  · exact .inr (.inl h)
  · exact .inr (.inr (.inl rfl))
  · exact .inr (.inr (.inr rfl))

namespace Text

theorem find?_caseRuns : ∀ n < 128, ¬ (65 ≤ n ∧ n ≤ 90) → (caseRuns.find? (·.covers n)).isNone = true := by
  decide +kernel

theorem lowerChar_of_isPlainPart {c : Char} (h : isPlainPart c = true) : lowerChar c = c := by
  have hcode := toNat_of_isPlainPart h
  have hnone := find?_caseRuns c.toNat (by omega) (by omega)
  rw [lowerChar, Option.isNone_iff_eq_none.1 hnone]

theorem lowerFrom_of_isPlainPart : ∀ (cs before : List Char), (∀ c ∈ cs, isPlainPart c = true) →
    lowerFrom before cs = cs
  | [], _, _ => rfl
  | c :: cs, before, h => by
    have hc := h c List.mem_cons_self
    have hsigma : c ≠ '\u03a3' := by rintro rfl; revert hc; decide
    have hdotted : c ≠ '\u0130' := by rintro rfl; revert hc; decide
    have ih := lowerFrom_of_isPlainPart cs (c :: before) fun d hd => h d (List.mem_cons_of_mem c hd)
    simp only [lowerFrom, hsigma, hdotted, if_false, ih, lowerChar_of_isPlainPart hc, List.singleton_append]

theorem lowerCase_of_isPlain {key : String} (h : IsPlain key) : lowerCase key = key := by
  rw [lowerCase, lowerFrom_of_isPlainPart _ _ (List.all_eq_true.1 h.2), String.ofList_toList]

end Text

theorem KeyPath.parse?_of_isPlain {key : String} (h : IsPlain key) : parse? key = some [.key key] := by
  have hparts : ∀ c ∈ key.toList, isKeyPart c = true := by
    intro c hc
    have hplain := List.all_eq_true.1 h.2 c hc
    simp only [isPlainPart, Bool.or_eq_true] at hplain
    rcases hplain with ((hpart | hpart) | hpart) | hpart <;> simp only [isKeyPart, hpart, Bool.or_true, Bool.true_or]
  have htake : key.toList.takeWhile isKeyPart = key.toList := List.takeWhile_eq_self_iff.2 hparts
  have hdrop : key.toList.dropWhile isKeyPart = [] := List.dropWhile_eq_nil_iff.2 hparts
  have hne : key.toList ≠ [] := fun hnil => h.1 (String.toList_eq_nil_iff.1 hnil)
  have hkey : key? key.toList = some (key, []) := by
    obtain ⟨c, cs, hcs⟩ := List.exists_cons_of_ne_nil hne
    unfold key?
    rw [htake, hdrop, hcs]
    simp only [← hcs, String.ofList_toList]
  rw [parse?, hkey]
  rfl

theorem Config.topLevelSteps_of_isPlain {key : String} (h : IsPlain key) : topLevelSteps key = [.key key] := by
  rw [topLevelSteps, KeyPath.parse?_of_isPlain h, Option.getD_some]

/-! ## What stands at a key -/

theorem lookup_cons_eq_ite {α β : Type} [BEq α] [LawfulBEq α] [DecidableEq α] (key k : α) (v : β)
    (fields : List (α × β)) : ((k, v) :: fields).lookup key = if key = k then some v else fields.lookup key := by
  by_cases hkey : key = k
  · simp [hkey]
  · have hbeq : (key == k) = false := by simpa using hkey
    rw [List.lookup_cons, hbeq, if_neg hkey]

/-- To replace the field of a key, or to add it at the end, changes what is found there and nowhere else. -/
theorem lookup_replace {α β : Type} [BEq α] [LawfulBEq α] [DecidableEq α] (replace : List (α × β) → List (α × β))
    {key : α} {v : β} (hnil : replace [] = [(key, v)])
    (hcons : ∀ k w rest, replace ((k, w) :: rest) = if k = key then (k, v) :: rest else (k, w) :: replace rest)
    (key' : α) : ∀ fields, (replace fields).lookup key' = if key' = key then some v else fields.lookup key'
  | [] => by rw [hnil, lookup_cons_eq_ite]
  | (k, w) :: fields => by
    have ih := lookup_replace replace hnil hcons key' fields
    by_cases hk : k = key
    · subst hk
      rw [hcons, if_pos rfl, lookup_cons_eq_ite, lookup_cons_eq_ite]
      by_cases hkey : key' = k <;> simp [hkey]
    · rw [hcons, if_neg hk, lookup_cons_eq_ite, ih, lookup_cons_eq_ite]
      by_cases hkey : key' = k
      · subst hkey
        simp [hk]
      · simp [hkey]

namespace Setting

/-- What stands at a key of a table. -/
def child? (key : String) (s : Setting) : Option Setting := s.fields.lookup key

theorem lookup_setField (key key' : String) (v : Setting) (fields : List (String × Setting)) :
    (setField key v fields).lookup key' = if key' = key then some v else fields.lookup key' :=
  lookup_replace (setField key v) rfl (fun _ _ _ => rfl) key' fields

theorem child?_setKey (key key' : String) (v root : Setting) :
    (setKey key v root).child? key' = if key' = key then some v else root.child? key' :=
  lookup_setField key key' v root.fields

theorem put_scalar (root : Setting) (key : String) (origin : Option String) (v : Scalar) :
    put root key (scalar origin v) = setKey (Text.lowerCase key) (scalar origin v) root := by
  rw [put]
  simp

theorem put_table (root : Setting) (key : String) (origin : Option String) (incoming : List (String × Setting)) :
    put root key (table origin incoming)
      = setKey (Text.lowerCase key) (putAll ((root.child? (Text.lowerCase key)).getD emptyTable) incoming) root := by
  rw [put]
  rfl

theorem child?_put_of_ne {key key' : String} (hne : key' ≠ Text.lowerCase key) (root v : Setting) :
    (put root key v).child? key' = root.child? key' := by
  cases v with
  | scalar origin v => rw [put_scalar, child?_setKey, if_neg hne]
  | list origin items =>
    rw [put, child?_setKey, if_neg hne]
    simp
  | table origin incoming => rw [put_table, child?_setKey, if_neg hne]

/-- **A table laid over another sets its scalars, the last of each key, and leaves the other keys as they are.** -/
theorem child?_putAll (key : String) : ∀ (incoming : List (String × Setting)) (root : Setting),
    (∀ p ∈ incoming, Text.lowerCase p.1 = p.1) → (∀ p ∈ incoming, p.1 = key → ∃ origin v, p.2 = scalar origin v) →
    (putAll root incoming).child? key = (incoming.reverse.lookup key).or (root.child? key)
  | [], root, _, _ => rfl
  | (k, v) :: incoming, root, hlower, hscalar => by
    have ih := child?_putAll key incoming (put root k v) (fun p hp => hlower p (List.mem_cons_of_mem _ hp))
      fun p hp => hscalar p (List.mem_cons_of_mem _ hp)
    have hk : Text.lowerCase k = k := hlower _ List.mem_cons_self
    have hput : (put root k v).child? key = ([(k, v)].lookup key).or (root.child? key) := by
      by_cases hkey : key = k
      · subst hkey
        obtain ⟨origin, w, rfl⟩ := hscalar _ List.mem_cons_self rfl
        rw [put_scalar, child?_setKey, hk, lookup_cons_eq_ite, if_pos rfl, if_pos rfl, Option.some_or]
      · rw [child?_put_of_ne (by rwa [hk]), lookup_cons_eq_ite, if_neg hkey, List.lookup_nil, Option.none_or]
    rw [putAll, ih, hput, List.reverse_cons, List.lookup_append, Option.or_assoc]

/-! ## Paths -/

theorem assign?_key_key (v root : Setting) {group name : String} (hgroup : Text.lowerCase group = group) :
    assign? v [.key group, .key name] root
      = some (setKey group (put ((root.child? group).getD nothing) name v) root) := by
  simp only [assign?, hgroup]
  rfl

/-- **Only a step to a place in a list can fail.** -/
theorem assign?_isSome (v : Setting) : ∀ (path : List PathStep) (root : Setting), (∀ i, .index i ∉ path) →
    ∃ s, assign? v path root = some s
  | [], root, _ => ⟨v, by rw [assign?]⟩
  | .index i :: path, _, h => absurd List.mem_cons_self (h i)
  | [.key key], root, _ => ⟨put root key v, by rw [assign?]⟩
  | .key key :: step :: path, root, h => by
    have hpath : ∀ i, PathStep.index i ∉ step :: path := fun i hi => h i (List.mem_cons_of_mem _ hi)
    obtain ⟨s, hs⟩ := assign?_isSome v (step :: path) ((root.fields.lookup (Text.lowerCase key)).getD nothing) hpath
    exact ⟨setKey (Text.lowerCase key) s root, by simp only [assign?, hs, Option.map_some]⟩

end Setting
end Plantilla
