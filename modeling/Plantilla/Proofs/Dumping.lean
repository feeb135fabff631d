import Plantilla.Proofs.Ordering
import Plantilla.Proofs.Reading
import Plantilla.Proofs.Respelling
import Plantilla.Token.Dump
/-!
# Dumping — tokens read back from JSON

The value of a token is written bare: a whole number for a number, quoted text for anything else.  Nothing in the dump
says which of the two it is but the value itself, and that is enough: a number token carries a number, and every other
token the characters that its span cuts out of the text (`value_of_number`, `value_of_not_number`).  So the dump is read
back as the tokens of the text, in order (`tokens_read_back`).
-/
namespace Plantilla

open Text

/-! ## What a token carries -/

theorem Reserved.classify_ne_number (word : String) : classify word ≠ .number := by
  have htable : ∀ entry ∈ table, entry.2 ≠ .number := by decide
  unfold classify
  cases hkind : kind? word with
  | none => exact fun h => by cases h
  | some kind => exact htable _ (mem_table_of_kind? hkind)

theorem Shape.Matches.eq_number {s : Shape} {w : List Char} (h : s.Matches w) (hkind : s.kind w = .number) :
    s = .number := by
  cases s with
  | mark kind =>
    obtain ⟨c, hc, _⟩ := h
    have hmarks : ∀ m ∈ marks, m.2 ≠ .number := by decide
    exact absurd hkind (hmarks _ hc)
  | number => rfl
  | word => exact absurd hkind (Reserved.classify_ne_number _)
  | quoted => cases hkind

section Source

variable {source : String} {t : Token}

/-- A number token is made of the digits that its span cuts out. -/
theorem exists_digits_of_number (ht : .token t ∈ scan source) (hkind : t.kind = .number) :
    ∃ ds span, slice? t.span.start t.span.stop source.toList = some ds ∧ Shape.number.Matches ds ∧
      t = Token.ofDigits ds span := by
  obtain ⟨s, ds, rest, _, hslice, hmatch, _, htoken⟩ := isCutFrom_of_mem_scan ht
  rw [htoken, Found.kind_token] at hkind
  obtain rfl := hmatch.eq_number hkind
  exact ⟨ds, _, hslice, hmatch, htoken⟩

theorem value_of_number (ht : t ∈ tokenize source) (hkind : t.kind = .number) :
    ∃ n ≤ Numeral.maxWord, t.value = .integer n := by
  obtain ⟨ds, span, _, _, rfl⟩ := exists_digits_of_number (mem_tokenize_iff.1 ht) hkind
  exact ⟨_, Nat.min_le_right _ _, Token.value_ofDigits ds span⟩

theorem value_of_not_number (ht : t ∈ tokenize source) (hkind : t.kind ≠ .number) :
    ∃ w, slice? t.span.start t.span.stop source.toList = some w ∧ t.value = .text (String.ofList w) := by
  obtain ⟨s, w, rest, _, hslice, _, _, htoken⟩ := isCutFrom_of_mem_scan (mem_tokenize_iff.1 ht)
  have hshape : s ≠ .number := by
    rintro rfl
    rw [htoken, Found.kind_token] at hkind
    exact hkind rfl
  refine ⟨w, hslice, ?_⟩
  rw [htoken]
  exact (Found.value_token hshape _).1

end Source

/-! ## The dump as a value -/

namespace Token

/-- What the fields of an object say of a token of a source.  No key stands in it twice, nor in its span.  A number
stands for itself and is at most the largest of 64 bits; any other value is the text that the span cuts out. -/
structure IsTold (source : String) (t : Token) (o : Json) : Prop where
  keys : ∃ fields, o = .object fields ∧ (fields.map Prod.fst).Nodup
  kind : o.field? "kind" = some (.string t.kind.name)
  span : ∃ fields, o.field? "span" = some (.object fields) ∧ (fields.map Prod.fst).Nodup ∧
    (Json.object fields).field? "start" = some (.integer t.span.start) ∧
    (Json.object fields).field? "end" = some (.integer t.span.stop)
  number : t.kind = .number → ∃ n : Nat, n ≤ 18446744073709551615 ∧ t.value = .integer n ∧
    o.field? "value" = some (.integer n)
  lexeme : t.kind ≠ .number → ∃ w, slice? t.span.start t.span.stop source.toList = some w ∧
    t.value = .text (String.ofList w) ∧ o.field? "value" = some (.string (String.ofList w))

theorem isWhole_toJson (t : Token) : t.toJson.IsWhole := by
  obtain ⟨kind, value, text, span⟩ := t
  cases value <;> simp [toJson, Value.toJson, Span.toJson, Json.IsWhole, Json.FieldsWhole]

theorem isTold_toJson {source : String} {t : Token} (ht : t ∈ tokenize source) : t.IsTold source t.toJson where
  keys := ⟨_, rfl, by simp⟩
  kind := rfl
  span := ⟨_, rfl, by simp, rfl, rfl⟩
  number hkind := by
    obtain ⟨n, hn, hvalue⟩ := value_of_number ht hkind
    refine ⟨n, hn, hvalue, ?_⟩
    show some t.value.toJson = _
    rw [hvalue]
    rfl
  lexeme hkind := by
    obtain ⟨w, hslice, hvalue⟩ := value_of_not_number ht hkind
    refine ⟨w, hslice, hvalue, ?_⟩
    show some t.value.toJson = _
    rw [hvalue]
    rfl

end Token

theorem isWhole_tokensJson (source : String) : (tokensJson source).IsWhole := by
  rw [tokensJson, Json.IsWhole, Json.allWhole_iff]
  intro v hv
  obtain ⟨t, _, rfl⟩ := List.mem_map.1 hv
  exact t.isWhole_toJson

/-- **The JSON of a token dump is read back as the tokens of the text**, in order and without the illegal characters. -/
theorem tokens_read_back (source : String) :
    ∃ text items, dump source .json = .ok text ∧ Json.parse? text = some (.array items) ∧
      List.Forall₂ (Token.IsTold source) (tokenize source) items := by
  refine ⟨_, _, rfl, Json.parse?_pretty (isWhole_tokensJson source), ?_⟩
  rw [List.forall₂_map_right_iff, List.forall₂_same]
  exact fun t ht => Token.isTold_toJson ht

end Plantilla
