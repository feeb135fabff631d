import Plantilla.Scan
/-!
# Boundaries — offsets between characters

Cutting a list of characters in two gives a boundary at the byte length of the first part, and reading from a boundary
gives the second part back (`suffixAt_append`, `slice?_append`).  The bytes themselves are needed for one thing: a byte
that is a space, a tab or a newline is a whole character (`isGap_of_head_bytes`).
-/
namespace Plantilla
namespace Text

theorem byteLength_append : ∀ cs ds : List Char, byteLength (cs ++ ds) = byteLength cs + byteLength ds
  | [], ds => by rw [List.nil_append, byteLength, Nat.zero_add]
  | c :: cs, ds => by rw [List.cons_append, byteLength, byteLength, byteLength_append cs ds, Nat.add_assoc]

theorem byteLength_pos {cs : List Char} (h : cs ≠ []) : 0 < byteLength cs := by
  cases cs with
  | nil => exact absurd rfl h
  | cons c cs => exact Nat.lt_of_lt_of_le c.utf8Size_pos (Nat.le_add_right _ _)

theorem exists_byteLength_cons (c : Char) (cs : List Char) : ∃ n, c.utf8Size + byteLength cs = n + 1 :=
  ⟨_, (Nat.succ_pred_eq_of_pos (byteLength_pos (List.cons_ne_nil c cs))).symm⟩

theorem byteLength_eq_zero_iff {cs : List Char} : byteLength cs = 0 ↔ cs = [] :=
  ⟨fun h => Classical.byContradiction fun hne => Nat.lt_irrefl _ (h ▸ byteLength_pos hne), fun h => h ▸ rfl⟩

/-- Of two beginnings of one text, the one with more bytes continues the other. -/
theorem exists_append_of_byteLength_le {as bs cs ds : List Char} (h : as ++ bs = cs ++ ds)
    (hle : byteLength as ≤ byteLength cs) : ∃ es, cs = as ++ es ∧ bs = es ++ ds := by
  rcases List.append_eq_append_iff.1 h with hlong | ⟨es, hes, hds⟩
  · exact hlong
  · rw [hes, byteLength_append] at hle
    obtain rfl : es = [] := byteLength_eq_zero_iff.1 (by omega)
    exact ⟨[], by simpa using hes.symm, by simpa using hds.symm⟩

/-! ## Reading from a boundary -/

theorem suffixAt_append : ∀ cs ds : List Char, suffixAt (byteLength cs) (cs ++ ds) = some ds
  | [], ds => by rw [byteLength, suffixAt]; rfl
  | c :: cs, ds => by
    obtain ⟨n, hn⟩ := exists_byteLength_cons c cs
    rw [byteLength, hn, List.cons_append, suffixAt, if_pos (by omega), ← hn, Nat.add_sub_cancel_left,
      suffixAt_append cs ds]

theorem exists_append_of_suffixAt : ∀ (k : Nat) (cs rest : List Char), suffixAt k cs = some rest →
    ∃ pre, cs = pre ++ rest ∧ k = byteLength pre
  | 0, cs, rest, h => by
    rw [suffixAt, Option.some.injEq] at h
    exact ⟨[], h, rfl⟩
  | k + 1, [], rest, h => by
    rw [suffixAt] at h
    cases h
  | k + 1, c :: cs, rest, h => by
    rw [suffixAt] at h
    by_cases hsize : c.utf8Size ≤ k + 1
    · rw [if_pos hsize] at h
      obtain ⟨pre, rfl, hk⟩ := exists_append_of_suffixAt _ cs rest h
      exact ⟨c :: pre, rfl, by rw [byteLength]; omega⟩
    · rw [if_neg hsize] at h
      cases h

theorem uptoByte_append : ∀ cs ds : List Char, uptoByte (byteLength cs) (cs ++ ds) = some cs
  | [], ds => by rw [byteLength, uptoByte]
  | c :: cs, ds => by
    obtain ⟨n, hn⟩ := exists_byteLength_cons c cs
    rw [byteLength, hn, List.cons_append, uptoByte, if_pos (by omega), ← hn, Nat.add_sub_cancel_left,
      uptoByte_append cs ds, Option.map_some]

theorem exists_append_of_uptoByte : ∀ (k : Nat) (cs w : List Char), uptoByte k cs = some w →
    ∃ rest, cs = w ++ rest ∧ k = byteLength w
  | 0, cs, w, h => by
    rw [uptoByte, Option.some.injEq] at h
    exact ⟨cs, by rw [← h]; rfl, by rw [← h]; rfl⟩
  | k + 1, [], w, h => by
    rw [uptoByte] at h
    cases h
  | k + 1, c :: cs, w, h => by
    rw [uptoByte] at h
    by_cases hsize : c.utf8Size ≤ k + 1
    · rw [if_pos hsize, Option.map_eq_some_iff] at h
      obtain ⟨w, hw, rfl⟩ := h
      obtain ⟨rest, rfl, hk⟩ := exists_append_of_uptoByte _ cs w hw
      exact ⟨rest, rfl, by rw [byteLength]; omega⟩
    · rw [if_neg hsize] at h
      cases h

theorem slice?_append (cs ws ds : List Char) :
    slice? (byteLength cs) (byteLength cs + byteLength ws) (cs ++ ws ++ ds) = some ws := by
  rw [slice?, List.append_assoc, suffixAt_append, Option.bind_some, Nat.add_sub_cancel_left, uptoByte_append]

/-! ## Bytes -/

/-- The UTF-8 encoding. -/
def bytes (cs : List Char) : List UInt8 := cs.flatMap String.utf8EncodeChar

theorem length_bytes : ∀ cs : List Char, (bytes cs).length = byteLength cs
  | [] => rfl
  | c :: cs => by
    rw [bytes, List.flatMap_cons, List.length_append, String.length_utf8EncodeChar, ← bytes, length_bytes cs]
    rfl

theorem bytes_append (cs ds : List Char) : bytes (cs ++ ds) = bytes cs ++ bytes ds := List.flatMap_append

theorem byteLength_toList (s : String) : byteLength s.toList = s.utf8ByteSize := by
  have hencode : (bytes s.toList).toByteArray = s.toByteArray := String.utf8Encode_toList
  rw [← length_bytes, ← String.size_toByteArray, ← hencode, List.size_toByteArray]

/-- A byte that separates lexemes: a space, a tab or a newline. -/
def IsGapByte (b : UInt8) : Prop := b = 32 ∨ b = 9 ∨ b = 10

end Text

open Text

namespace Scanner

theorem isGap_iff {c : Char} : isGap c = true ↔ c = ' ' ∨ c = '\t' ∨ c = '\n' := by
  simp [isGap, or_assoc]

theorem utf8Size_of_isGap {c : Char} (h : isGap c = true) : c.utf8Size = 1 := by
  rcases isGap_iff.1 h with rfl | rfl | rfl <;> rfl

theorem bytes_of_isGap {c : Char} (h : isGap c = true) (cs : List Char) :
    ∃ b, IsGapByte b ∧ bytes (c :: cs) = b :: bytes cs := by
  rcases isGap_iff.1 h with rfl | rfl | rfl
  · exact ⟨32, .inl rfl, rfl⟩
  · exact ⟨9, .inr (.inl rfl), rfl⟩
  · exact ⟨10, .inr (.inr rfl), rfl⟩

/-- A character is encoded by its code alone, or by bytes above every code of one byte. -/
theorem utf8EncodeChar_cases (c : Char) :
    (∃ b, String.utf8EncodeChar c = [b] ∧ b.toNat = c.toNat) ∨ ∀ b ∈ String.utf8EncodeChar c, 128 ≤ b.toNat := by
  have hbyte : ∀ n, n < 256 → (UInt8.ofNat n).toNat = n := fun n hn => UInt8.toNat_ofNat_of_lt' hn
  unfold String.utf8EncodeChar
  simp only
  split
  · rename_i hc
    exact .inl ⟨_, rfl, hbyte _ (Nat.lt_of_le_of_lt hc (by decide))⟩
  · right
    split
    · simp only [List.mem_cons, List.not_mem_nil, or_false]
      rintro b (rfl | rfl) <;> rw [hbyte _ (by omega)] <;> omega
    · split
      · simp only [List.mem_cons, List.not_mem_nil, or_false]
        rintro b (rfl | rfl | rfl) <;> rw [hbyte _ (by omega)] <;> omega
      · simp only [List.mem_cons, List.not_mem_nil, or_false]
        rintro b (rfl | rfl | rfl | rfl) <;> rw [hbyte _ (by omega)] <;> omega

theorem head_utf8EncodeChar (c : Char) :
    ∃ b bs, String.utf8EncodeChar c = b :: bs ∧ (b.toNat = c.toNat ∨ 128 ≤ b.toNat) := by
  rcases utf8EncodeChar_cases c with ⟨b, hbytes, hcode⟩ | hlong
  · exact ⟨b, [], hbytes, .inl hcode⟩
  · obtain ⟨b, bs, hbytes⟩ := List.exists_cons_of_ne_nil (String.utf8EncodeChar_ne_nil (c := c))
    exact ⟨b, bs, hbytes, .inr (hlong b (by rw [hbytes]; exact List.mem_cons_self))⟩

theorem isGap_of_head_bytes {c : Char} {cs : List Char} {b : UInt8} (hb : IsGapByte b)
    (h : (bytes (c :: cs))[0]? = some b) : isGap c = true := by
  have hsmall : b.toNat = 32 ∨ b.toNat = 9 ∨ b.toNat = 10 := by
    rcases hb with rfl | rfl | rfl <;> simp
  obtain ⟨b', bs, hbytes, hcode⟩ := head_utf8EncodeChar c
  rw [bytes, List.flatMap_cons, hbytes, List.cons_append, List.getElem?_cons_zero, Option.some.injEq] at h
  subst h
  have hc : c.toNat = 32 ∨ c.toNat = 9 ∨ c.toNat = 10 := by omega
  rw [isGap_iff]
  rcases hc with hc | hc | hc
  · exact .inl (Char.toNat_inj.1 hc)
  · exact .inr (.inl (Char.toNat_inj.1 hc))
  · exact .inr (.inr (Char.toNat_inj.1 hc))

end Scanner
end Plantilla
