import Plantilla.Json.Reader
import Plantilla.Proofs.Spelling
/-!
# Reading — a value read back from its text

Each part of the text of a value is read back to what it was written for: a character between quotes
(`readString_escape`), a whole number (`readNumber_integerText`), and by induction a value at any depth, with its
items or fields (`readValue_prettyAt`).  The fuel of the reader is enough, because no value weighs more than its text
is long (`weight_le_length`).  Values with decimals are left out: a decimal is read back in its lowest form only.
-/
namespace Plantilla

/-! ## Digits -/

namespace Numeral

theorem head_text_ne_zero {n : Nat} (hpos : 0 < n) : (text n).toList.head? ≠ some '0' := by
  rw [toList_text]
  induction n using Nat.strongRecOn with
  | ind n ih =>
    by_cases hlt : n < 10
    · have hdigit : ∀ m < 10, 0 < m → [m.digitChar].head? ≠ some '0' := by decide
      rw [Nat.toDigits_of_lt_base hlt]
      exact hdigit n hlt hpos
    · have hfirst : 0 < n / 10 := by omega
      have hsplit := Nat.toDigits_append_toDigits (by decide : 1 < 10) hfirst (Nat.mod_lt n (by decide : 10 > 0))
      rw [Nat.div_add_mod] at hsplit
      rw [← hsplit, List.head?_append_of_ne_nil _ Nat.toDigits_ne_nil]
      exact ih (n / 10) (by omega) hfirst

end Numeral

namespace Json

/-! ## Text between quotes -/

theorem hexValue?_hexDigit : ∀ n < 16, hexValue? (hexDigit n) = some n := by decide

theorem hexValue4?_hexDigit {n : Nat} (h : n < 32) :
    hexValue4? '0' '0' (hexDigit (n / 16)) (hexDigit (n % 16)) = some n := by
  have hzero : hexValue? '0' = some 0 := by decide
  have hhigh := hexValue?_hexDigit (n / 16) (by omega)
  have hlow := hexValue?_hexDigit (n % 16) (by omega)
  have hsum : ((0 * 16 + 0) * 16 + n / 16) * 16 + n % 16 = n := by omega
  simp only [hexValue4?, hzero, hhigh, hlow, Option.bind_eq_bind, Option.bind_some, hsum]

theorem readString_plain {c : Char} (hquote : c ≠ '"') (hback : c ≠ '\\') (hcontrol : ¬ c.toNat < 0x20)
    (rest : List Char) : readString (c :: rest) = (readString rest).map fun p => (c :: p.1, p.2) := by
  rw [readString.eq_def]
  split
  · rename_i heq
    cases heq
  · rename_i heq
    exact absurd (List.cons.inj heq).1 hquote
  · rename_i heq
    exact absurd (List.cons.inj heq).1 hback
  · rename_i heq
    exact absurd (List.cons.inj heq).1 hback
  · rename_i heq
    obtain ⟨rfl, rfl⟩ := List.cons.inj heq
    rw [if_neg hcontrol]

theorem readString_escape (c : Char) (rest : List Char) :
    readString (escape c ++ rest) = (readString rest).map fun p => (c :: p.1, p.2) := by
  unfold escape
  by_cases hquote : c = '"'
  · subst hquote; rfl
  by_cases hback : c = '\\'
  · subst hback; rfl
  by_cases hb : c = '\x08'
  · subst hb; rfl
  by_cases hf : c = '\x0c'
  · subst hf; rfl
  by_cases hn : c = '\n'
  · subst hn; rfl
  by_cases hr : c = '\r'
  · subst hr; rfl
  by_cases ht : c = '\t'
  · subst ht; rfl
  rw [if_neg hquote, if_neg hback, if_neg hb, if_neg hf, if_neg hn, if_neg hr, if_neg ht]
  by_cases hcontrol : c.toNat < 0x20
  · have hhigh : isHighHalf c.toNat = false := by simp [isHighHalf]; omega
    have hlow : isLowHalf c.toNat = false := by simp [isLowHalf]; omega
    rw [if_pos hcontrol]
    simp only [List.cons_append, List.nil_append]
    rw [readString]
    simp only [hexValue4?_hexDigit hcontrol, hhigh, hlow, Char.ofNat_toNat]
    rfl
  · rw [if_neg hcontrol]
    exact readString_plain hquote hback hcontrol rest

theorem readString_flatMap_escape (rest : List Char) : ∀ cs : List Char,
    readString (cs.flatMap escape ++ '"' :: rest) = some (cs, rest)
  | [] => rfl
  | c :: cs => by
    rw [List.flatMap_cons, List.append_assoc, readString_escape, readString_flatMap_escape rest cs]
    rfl

/-! ## Whole numbers -/

/-- No character that goes on with a number. -/
def Ends (rest : List Char) : Prop := ∀ c ∈ rest.head?, Numeral.isDigit c = false ∧ c ≠ '.' ∧ c ≠ 'e' ∧ c ≠ 'E'

theorem readFraction_of_ends {rest : List Char} (h : Ends rest) : readFraction rest = some (none, rest) := by
  cases rest with
  | nil => rfl
  | cons c rest =>
    have hpoint : c ≠ '.' := (h c rfl).2.1
    unfold readFraction
    split
    · rename_i heq
      exact absurd (List.cons.inj heq).1 hpoint
    · rfl

theorem readExponent_of_ends {rest : List Char} (h : Ends rest) : readExponent rest = some (none, rest) := by
  cases rest with
  | nil => rfl
  | cons c rest =>
    obtain ⟨_, _, hlower, hupper⟩ := h c rfl
    unfold readExponent
    exact if_neg (not_or.2 ⟨hlower, hupper⟩)

theorem takeWhile_digits {ds rest : List Char} (hds : ∀ d ∈ ds, Numeral.isDigit d = true) (h : Ends rest) :
    (ds ++ rest).takeWhile Numeral.isDigit = ds ∧ (ds ++ rest).dropWhile Numeral.isDigit = rest := by
  have hstop : rest.takeWhile Numeral.isDigit = [] ∧ rest.dropWhile Numeral.isDigit = rest := by
    cases rest with
    | nil => exact ⟨rfl, rfl⟩
    | cons c rest =>
      have hc : ¬ Numeral.isDigit c = true := by simp [(h c rfl).1]
      exact ⟨List.takeWhile_cons_of_neg hc, List.dropWhile_cons_of_neg hc⟩
  rw [List.takeWhile_append_of_pos hds, List.dropWhile_append_of_pos hds, hstop.1, hstop.2, List.append_nil]
  exact ⟨rfl, rfl⟩

theorem single_or_head_text (n : Nat) :
    ¬ ((Numeral.text n).toList = [] ∨
      ((Numeral.text n).toList.head? = some '0' ∧ 1 < (Numeral.text n).toList.length)) := by
  rintro (hnil | ⟨hzero, hlength⟩)
  · exact Numeral.text_ne_nil n hnil
  · rcases Nat.eq_zero_or_pos n with rfl | hpos
    · exact absurd hlength (by decide)
    · exact Numeral.head_text_ne_zero hpos hzero

/-- **A whole number is read back from its text**, if what follows does not go on with it. -/
theorem readNumber_integerText (n : Int) {rest : List Char} (h : Ends rest) :
    readNumber (integerText n ++ rest) = some (integer n, rest) := by
  have hdigits : ∀ m, ∀ d ∈ (Numeral.text m).toList, Numeral.isDigit d = true := fun m d => Numeral.isDigit_of_mem_text
  cases n with
  | ofNat m =>
    obtain ⟨htake, hdrop⟩ := takeWhile_digits (hdigits m) h
    have hminus : ∀ r, (Numeral.text m).toList ++ rest = '-' :: r → False := by
      intro r heq
      obtain ⟨d, ds, hds⟩ := List.exists_cons_of_ne_nil (Numeral.text_ne_nil m)
      rw [hds, List.cons_append] at heq
      have hdigit := hdigits m d (hds ▸ List.mem_cons_self)
      rw [(List.cons.inj heq).1] at hdigit
      cases hdigit
    show readNumber ((Numeral.text m).toList ++ rest) = _
    simp only [readNumber, htake, hdrop]
    rw [if_neg (single_or_head_text m)]
    simp only [readFraction_of_ends h, readExponent_of_ends h, Option.bind_eq_bind, Option.bind_some,
      Numeral.ofDigits_text]
    rfl
  | negSucc m =>
    have htext : integerText (.negSucc m) = '-' :: (Numeral.text (m + 1)).toList := by
      simp [integerText, Numeral.integerText, String.toList_append]
    obtain ⟨htake, hdrop⟩ := takeWhile_digits (hdigits (m + 1)) h
    rw [htext, List.cons_append]
    simp only [readNumber, htake, hdrop]
    rw [if_neg (single_or_head_text (m + 1))]
    simp only [readFraction_of_ends h, readExponent_of_ends h, Option.bind_eq_bind, Option.bind_some,
      Numeral.ofDigits_text]
    rfl

/-! ## Values without decimals -/

mutual

/-- No number with a point or an exponent is in the value. -/
def IsWhole : Json → Prop
  | decimal _ => False
  | array items => AllWhole items
  | object fields => FieldsWhole fields
  | _ => True

def AllWhole : List Json → Prop
  | [] => True
  | v :: items => IsWhole v ∧ AllWhole items

def FieldsWhole : List (String × Json) → Prop
  | [] => True
  | (_, v) :: fields => IsWhole v ∧ FieldsWhole fields

end

theorem allWhole_iff : ∀ items : List Json, AllWhole items ↔ ∀ v ∈ items, IsWhole v
  | [] => by simp [AllWhole]
  | v :: items => by simp [AllWhole, allWhole_iff items]

mutual

/-- How much fuel a value takes to read. -/
def weight : Json → Nat
  | array items => 1 + itemsWeight items
  | object fields => 1 + fieldsWeight fields
  | _ => 1

def itemsWeight : List Json → Nat
  | [] => 0
  | v :: items => 1 + weight v + itemsWeight items

def fieldsWeight : List (String × Json) → Nat
  | [] => 0
  | (_, v) :: fields => 1 + weight v + fieldsWeight fields

end

theorem length_quote (s : String) : 0 < (quote s).length := by simp [quote]

mutual

theorem weight_le_length : ∀ (v : Json) (depth : Nat), weight v ≤ (prettyAt depth v).length
  | null, _ => by simp [weight, prettyAt, nullText]
  | bool b, _ => by cases b <;> simp [weight, prettyAt, boolText]
  | integer n, _ => by
    cases n with
    | ofNat m =>
      have htext : 1 ≤ (Numeral.text m).toList.length := List.length_pos_of_ne_nil (Numeral.text_ne_nil m)
      simpa [weight, prettyAt, integerText, Numeral.integerText] using htext
    | negSucc m => simp [weight, prettyAt, integerText, Numeral.integerText, String.toList_append]
  | decimal d, _ => by
    simp only [weight, prettyAt, decimalText, List.length_append, List.length_cons]
    omega
  | string s, _ => by
    have hquote := length_quote s
    rw [weight, prettyAt]
    omega
    all_goals simp
  | array [], _ => by simp [weight, itemsWeight, prettyAt]
  | array (v :: vs), depth => by
    have hv := weight_le_length v (depth + 1)
    have hvs := itemsWeight_le_length vs (depth + 1)
    simp only [weight, itemsWeight, prettyAt, newline, List.length_append, List.length_cons]
    omega
  | object [], _ => by simp [weight, fieldsWeight, prettyAt]
  | object ((key, v) :: fields), depth => by
    have hv := weight_le_length v (depth + 1)
    have hfields := fieldsWeight_le_length fields (depth + 1)
    simp only [weight, fieldsWeight, prettyAt, newline, List.length_append, List.length_cons]
    omega

theorem itemsWeight_le_length : ∀ (items : List Json) (depth : Nat),
    itemsWeight items ≤ (prettyItems depth items).length
  | [], _ => by simp [itemsWeight, prettyItems]
  | v :: items, depth => by
    have hv := weight_le_length v depth
    have hitems := itemsWeight_le_length items depth
    simp only [itemsWeight, prettyItems, newline, List.length_append, List.length_cons]
    omega

theorem fieldsWeight_le_length : ∀ (fields : List (String × Json)) (depth : Nat),
    fieldsWeight fields ≤ (prettyFields depth fields).length
  | [], _ => by simp [fieldsWeight, prettyFields]
  | (key, v) :: fields, depth => by
    have hv := weight_le_length v depth
    have hfields := fieldsWeight_le_length fields depth
    simp only [fieldsWeight, prettyFields, newline, List.length_append, List.length_cons]
    omega

end

/-! ## White space -/

theorem skipSpace_of_not_isSpace {c : Char} (hc : isSpace c = false) (cs : List Char) : skipSpace (c :: cs) = c :: cs :=
  List.dropWhile_cons_of_neg (by simp [hc])

theorem skipSpace_newline (depth : Nat) (cs : List Char) : skipSpace (newline depth ++ cs) = skipSpace cs := by
  refine List.dropWhile_append_of_pos fun c hc => ?_
  rcases List.mem_cons.1 hc with rfl | hc
  · rfl
  · rw [List.eq_of_mem_replicate hc]
    rfl

theorem readValue_congr {cs ds : List Char} (h : skipSpace cs = skipSpace ds) (fuel : Nat) :
    readValue fuel cs = readValue fuel ds := by
  cases fuel with
  | zero => rw [readValue, readValue]
  | succ fuel => rw [readValue, readValue, h]

theorem exists_cons_integerText (n : Int) :
    ∃ c cs, integerText n = c :: cs ∧ (c = '-' ∨ Numeral.isDigit c = true) := by
  cases n with
  | ofNat m =>
    obtain ⟨c, cs, hcs⟩ := List.exists_cons_of_ne_nil (Numeral.text_ne_nil m)
    exact ⟨c, cs, hcs, .inr (Numeral.isDigit_of_mem_text (hcs ▸ List.mem_cons_self))⟩
  | negSucc m =>
    refine ⟨'-', (Numeral.text (m + 1)).toList, ?_, .inl rfl⟩
    simp [integerText, Numeral.integerText, String.toList_append]

theorem isSpace_of_number {c : Char} (hc : c = '-' ∨ Numeral.isDigit c = true) : isSpace c = false := by
  by_contra hspace
  simp only [isSpace, Bool.not_eq_false, Bool.or_eq_true, beq_iff_eq] at hspace
  rcases hspace with ((rfl | rfl) | rfl) | rfl <;> exact absurd hc (by decide)

theorem readValue_number {c : Char} (hc : c = '-' ∨ Numeral.isDigit c = true) (fuel : Nat) (cs : List Char) :
    readValue (fuel + 1) (c :: cs) = readNumber (c :: cs) := by
  rw [readValue, skipSpace_of_not_isSpace (isSpace_of_number hc)]
  -- no keyword, quote or bracket starts with a sign or a digit
  split <;> first
    | rfl
    | rename_i heq
      rw [(List.cons.inj heq).1] at hc
      exact absurd hc (by decide)

theorem exists_cons_prettyAt (depth : Nat) {v : Json} (hv : IsWhole v) :
    ∃ c cs, prettyAt depth v = c :: cs ∧ isSpace c = false ∧ c ≠ ']' := by
  cases v with
  | null => exact ⟨_, _, by rw [prettyAt]; rfl, by decide, by decide⟩
  | bool b => cases b <;> exact ⟨_, _, by rw [prettyAt]; rfl, by decide, by decide⟩
  | integer n =>
    obtain ⟨c, cs, hcs, hc⟩ := exists_cons_integerText n
    refine ⟨c, cs, by rw [prettyAt, hcs], isSpace_of_number hc, ?_⟩
    rintro rfl
    exact absurd hc (by decide)
  | decimal d => exact absurd hv (by simp [IsWhole])
  | string s => exact ⟨_, _, by rw [prettyAt]; rfl, by decide, by decide⟩
  | array items =>
    cases items with
    | nil => exact ⟨'[', [']'], by rw [prettyAt], by decide, by decide⟩
    | cons v vs => exact ⟨_, _, by rw [prettyAt]; rfl, by decide, by decide⟩
  | object fields =>
    cases fields with
    | nil => exact ⟨'\x7b', ['\x7d'], by rw [prettyAt], by decide, by decide⟩
    | cons p fields => exact ⟨_, _, by rw [prettyAt]; rfl, by decide, by decide⟩

/-! ## One step of the reader -/

theorem readString_quote (s : String) (rest : List Char) :
    ∃ cs, quote s ++ rest = '"' :: cs ∧ readString cs = some (s.toList, rest) := by
  refine ⟨s.toList.flatMap escape ++ '"' :: rest, ?_, readString_flatMap_escape rest s.toList⟩
  simp [quote]

section Steps

variable {fuel : Nat} {cs r rest : List Char}

theorem readValue_array {items : List Json} {c : Char} (hcs : skipSpace cs = c :: r) (hc : c ≠ ']')
    (hitems : readItems fuel cs = some (items, rest)) :
    readValue (fuel + 1) ('[' :: cs) = some (array items, rest) := by
  rw [readValue, skipSpace_of_not_isSpace rfl]
  simp only [hcs, hitems, Option.map_some]
  split
  · rename_i heq
    exact absurd (List.cons.inj heq).1 hc
  · rfl

theorem readValue_object {fields : List (String × Json)} (hcs : skipSpace cs = '"' :: r)
    (hfields : readFields fuel cs = some (fields, rest)) :
    readValue (fuel + 1) ('\x7b' :: cs) = some (object fields, rest) := by
  rw [readValue, skipSpace_of_not_isSpace rfl]
  simp only [hcs, hfields, Option.map_some]
  rfl

theorem readItems_last {v : Json} (hv : readValue fuel cs = some (v, r)) (hr : skipSpace r = ']' :: rest) :
    readItems (fuel + 1) cs = some ([v], rest) := by
  simp only [readItems, hv, hr]

theorem readItems_more {v : Json} {items : List Json} {r' : List Char} (hv : readValue fuel cs = some (v, r))
    (hr : skipSpace r = ',' :: r') (hitems : readItems fuel r' = some (items, rest)) :
    readItems (fuel + 1) cs = some (v :: items, rest) := by
  simp only [readItems, hv, hr, hitems, Option.map_some]

section Fields

variable {key : String} {v : Json} {q k k' : List Char} (hcs : skipSpace cs = '"' :: q)
  (hkey : readString q = some (key.toList, k)) (hk : skipSpace k = ':' :: k') (hv : readValue fuel k' = some (v, r))
include hcs hkey hk hv

theorem readFields_last (hr : skipSpace r = '\x7d' :: rest) : readFields (fuel + 1) cs = some ([(key, v)], rest) := by
  simp only [readFields, hcs, hkey, hk, hv, hr, String.ofList_toList]

theorem readFields_more {fields : List (String × Json)} {r' : List Char} (hr : skipSpace r = ',' :: r')
    (hfields : readFields fuel r' = some (fields, rest)) :
    readFields (fuel + 1) cs = some ((key, v) :: fields, rest) := by
  simp only [readFields, hcs, hkey, hk, hv, hr, hfields, Option.map_some, String.ofList_toList]

end Fields

end Steps

/-! ## What stands behind a value -/

theorem ends_nil : Ends [] := by simp [Ends]

theorem ends_newline (depth : Nat) (rest : List Char) : Ends (newline depth ++ rest) := by
  rintro c ⟨⟩
  decide

theorem ends_comma (rest : List Char) : Ends (',' :: rest) := by
  rintro c ⟨⟩
  decide

theorem exists_cons_prettyItems (depth : Nat) (v : Json) (items : List Json) :
    ∃ more, prettyItems depth (v :: items) = ',' :: more := ⟨_, by rw [prettyItems]; rfl⟩

theorem exists_cons_prettyFields (depth : Nat) (p : String × Json) (fields : List (String × Json)) :
    ∃ more, prettyFields depth (p :: fields) = ',' :: more := ⟨_, by rw [prettyFields]; rfl⟩

theorem ends_prettyItems (items : List Json) (depth depth' : Nat) (rest : List Char) :
    Ends (prettyItems depth items ++ (newline depth' ++ rest)) := by
  cases items with
  | nil => exact ends_newline depth' rest
  | cons v items =>
    obtain ⟨more, hmore⟩ := exists_cons_prettyItems depth v items
    exact hmore ▸ ends_comma _

theorem ends_prettyFields (fields : List (String × Json)) (depth depth' : Nat) (rest : List Char) :
    Ends (prettyFields depth fields ++ (newline depth' ++ rest)) := by
  cases fields with
  | nil => exact ends_newline depth' rest
  | cons p fields =>
    obtain ⟨more, hmore⟩ := exists_cons_prettyFields depth p fields
    exact hmore ▸ ends_comma _

theorem skipSpace_closing (depth : Nat) {c : Char} (hc : isSpace c = false) (rest : List Char) :
    skipSpace (newline depth ++ c :: rest) = c :: rest := by
  rw [skipSpace_newline, skipSpace_of_not_isSpace hc]

/-! ## Reading a value -/

-- on the value: the items and the fields are read behind the bracket, where no comma stands in front of the first
mutual

/-- **A value is read back from its text at any depth.** -/
theorem readValue_prettyAt : ∀ (v : Json) (depth fuel : Nat) (rest : List Char), IsWhole v → weight v ≤ fuel →
    Ends rest → readValue fuel (prettyAt depth v ++ rest) = some (v, rest)
  | v, _, 0, _, _, hfuel, _ => by cases v <;> simp [weight] at hfuel
  | null, _, fuel + 1, rest, _, _, _ => by
    rw [prettyAt, readValue, nullText, List.cons_append, skipSpace_of_not_isSpace rfl]
    rfl
  | bool true, _, fuel + 1, rest, _, _, _ => by
    rw [prettyAt, readValue, boolText, if_pos rfl, List.cons_append, skipSpace_of_not_isSpace rfl]
    rfl
  | bool false, _, fuel + 1, rest, _, _, _ => by
    rw [prettyAt, readValue, boolText, if_neg Bool.false_ne_true, List.cons_append, skipSpace_of_not_isSpace rfl]
    rfl
  | integer n, _, fuel + 1, rest, _, _, hrest => by
    obtain ⟨c, cs, hcs, hc⟩ := exists_cons_integerText n
    rw [prettyAt, hcs, List.cons_append, readValue_number hc, ← List.cons_append, ← hcs, readNumber_integerText n hrest]
  | decimal d, _, _, _, hv, _, _ => absurd hv (by simp [IsWhole])
  | string s, _, fuel + 1, rest, _, _, _ => by
    obtain ⟨cs, hcs, hread⟩ := readString_quote s rest
    rw [prettyAt, hcs, readValue, skipSpace_of_not_isSpace rfl]
    simp only [hread, Option.map_some, String.ofList_toList]
  | array [], _, fuel + 1, rest, _, _, _ => by
    rw [prettyAt, readValue, List.cons_append, skipSpace_of_not_isSpace rfl]
    rfl
  | array (v :: vs), depth, fuel + 1, rest, hv, hfuel, hrest => by
    have hwhole : AllWhole (v :: vs) := by rwa [IsWhole] at hv
    rw [weight] at hfuel
    have hitems := readItems_tail (v :: vs) (depth + 1) depth fuel rest (List.cons_ne_nil v vs) hwhole (by omega)
    have htext : prettyAt depth (array (v :: vs)) ++ rest
        = '[' :: ((prettyItems (depth + 1) (v :: vs)).tail ++ (newline depth ++ ']' :: rest)) := by
      simp [prettyAt, prettyItems]
    obtain ⟨c, cs, hcs, hspace, hbracket⟩ := exists_cons_prettyAt (depth + 1) hwhole.1
    have hskip : skipSpace ((prettyItems (depth + 1) (v :: vs)).tail ++ (newline depth ++ ']' :: rest))
        = c :: (cs ++ (prettyItems (depth + 1) vs ++ (newline depth ++ ']' :: rest))) := by
      simp only [prettyItems, List.append_assoc, List.cons_append, List.nil_append, List.tail_cons]
      rw [skipSpace_newline, hcs, List.cons_append, skipSpace_of_not_isSpace hspace]
    rw [htext]
    exact readValue_array hskip hbracket hitems
  | object [], _, fuel + 1, rest, _, _, _ => by
    rw [prettyAt, readValue, List.cons_append, skipSpace_of_not_isSpace rfl]
    rfl
  | object ((key, v) :: fields), depth, fuel + 1, rest, hv, hfuel, hrest => by
    have hwhole : FieldsWhole ((key, v) :: fields) := by rwa [IsWhole] at hv
    rw [weight] at hfuel
    have hfields := readFields_tail ((key, v) :: fields) (depth + 1) depth fuel rest (List.cons_ne_nil _ _) hwhole
      (by omega)
    have htext : prettyAt depth (object ((key, v) :: fields)) ++ rest
        = '\x7b' :: ((prettyFields (depth + 1) ((key, v) :: fields)).tail ++ (newline depth ++ '\x7d' :: rest)) := by
      simp [prettyAt, prettyFields]
    obtain ⟨cs, hcs, _⟩ := readString_quote key
      ([':', ' '] ++ (prettyAt (depth + 1) v ++ (prettyFields (depth + 1) fields ++ (newline depth ++ '\x7d' :: rest))))
    have hskip : skipSpace ((prettyFields (depth + 1) ((key, v) :: fields)).tail ++ (newline depth ++ '\x7d' :: rest))
        = '"' :: cs := by
      simp only [prettyFields, List.append_assoc, List.cons_append, List.nil_append, List.tail_cons] at hcs ⊢
      rw [skipSpace_newline, hcs, skipSpace_of_not_isSpace rfl]
    rw [htext]
    exact readValue_object hskip hfields

/-- The text of items without the comma in front is what stands between brackets. -/
theorem readItems_tail : ∀ (items : List Json) (depth depth' fuel : Nat) (rest : List Char), items ≠ [] →
    AllWhole items → itemsWeight items ≤ fuel →
    readItems fuel ((prettyItems depth items).tail ++ (newline depth' ++ ']' :: rest)) = some (items, rest)
  | [], _, _, _, _, hne, _, _ => absurd rfl hne
  | v :: vs, depth, depth', 0, rest, _, _, hfuel => by simp [itemsWeight] at hfuel
  | v :: vs, depth, depth', fuel + 1, rest, _, hwhole, hfuel => by
    rw [itemsWeight] at hfuel
    have htext : (prettyItems depth (v :: vs)).tail ++ (newline depth' ++ ']' :: rest)
        = newline depth ++ (prettyAt depth v ++ (prettyItems depth vs ++ (newline depth' ++ ']' :: rest))) := by
      simp [prettyItems]
    have hvalue := readValue_prettyAt v depth fuel _ hwhole.1 (by omega)
      (ends_prettyItems vs depth depth' (']' :: rest))
    rw [← readValue_congr (skipSpace_newline depth _), ← htext] at hvalue
    cases vs with
    | nil => exact readItems_last hvalue (skipSpace_closing depth' rfl rest)
    | cons w ws =>
      have hitems := readItems_tail (w :: ws) depth depth' fuel rest (List.cons_ne_nil w ws) hwhole.2 (by omega)
      obtain ⟨more, hmore⟩ := exists_cons_prettyItems depth w ws
      rw [hmore, List.tail_cons] at hitems
      have hcomma : skipSpace (prettyItems depth (w :: ws) ++ (newline depth' ++ ']' :: rest))
          = ',' :: (more ++ (newline depth' ++ ']' :: rest)) := by
        rw [hmore, List.cons_append, skipSpace_of_not_isSpace rfl]
      exact readItems_more hvalue hcomma hitems

/-- The text of fields without the comma in front is what stands between braces. -/
theorem readFields_tail : ∀ (fields : List (String × Json)) (depth depth' fuel : Nat) (rest : List Char), fields ≠ [] →
    FieldsWhole fields → fieldsWeight fields ≤ fuel →
    readFields fuel ((prettyFields depth fields).tail ++ (newline depth' ++ '\x7d' :: rest)) = some (fields, rest)
  | [], _, _, _, _, hne, _, _ => absurd rfl hne
  | (key, v) :: fields, depth, depth', 0, rest, _, _, hfuel => by simp [fieldsWeight] at hfuel
  | (key, v) :: fields, depth, depth', fuel + 1, rest, _, hwhole, hfuel => by
    rw [fieldsWeight] at hfuel
    obtain ⟨cs, hcs, hkey⟩ := readString_quote key
      (':' :: ' ' :: (prettyAt depth v ++ (prettyFields depth fields ++ (newline depth' ++ '\x7d' :: rest))))
    have htext : (prettyFields depth ((key, v) :: fields)).tail ++ (newline depth' ++ '\x7d' :: rest)
        = newline depth ++ '"' :: cs := by
      rw [← hcs]
      simp [prettyFields]
    have hquote : skipSpace (newline depth ++ '"' :: cs) = '"' :: cs := skipSpace_closing depth rfl cs
    have hcolon : ∀ cs, skipSpace (':' :: cs) = ':' :: cs := skipSpace_of_not_isSpace rfl
    have hvalue := readValue_prettyAt v depth fuel _ hwhole.1 (by omega)
      (ends_prettyFields fields depth depth' ('\x7d' :: rest))
    have hspace : ∀ cs, skipSpace (' ' :: cs) = skipSpace cs := fun cs => List.dropWhile_cons_of_pos rfl
    rw [← readValue_congr (hspace _)] at hvalue
    rw [htext]
    cases fields with
    | nil => exact readFields_last hquote hkey (hcolon _) hvalue (skipSpace_closing depth' rfl rest)
    | cons p fields =>
      have hfields := readFields_tail (p :: fields) depth depth' fuel rest (List.cons_ne_nil p fields) hwhole.2
        (by omega)
      obtain ⟨more, hmore⟩ := exists_cons_prettyFields depth p fields
      rw [hmore, List.tail_cons] at hfields
      have hcomma : skipSpace (prettyFields depth (p :: fields) ++ (newline depth' ++ '\x7d' :: rest))
          = ',' :: (more ++ (newline depth' ++ '\x7d' :: rest)) := by
        rw [hmore, List.cons_append, skipSpace_of_not_isSpace rfl]
      exact readFields_more hquote hkey (hcolon _) hvalue hcomma hfields

end

/-- **A value without decimals is what its text reads as.** -/
theorem parse?_pretty {v : Json} (hv : IsWhole v) : parse? v.pretty = some v := by
  have hweight := weight_le_length v 0
  have hread := readValue_prettyAt v 0 (2 * (prettyAt 0 v).length + 2) [] hv (by omega) ends_nil
  rw [List.append_nil] at hread
  rw [parse?, pretty, String.toList_ofList, hread]
  rfl

end Json
end Plantilla
