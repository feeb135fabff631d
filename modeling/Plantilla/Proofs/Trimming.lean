import Plantilla.Check
import Plantilla.Proofs.Following
import Plantilla.Proofs.Rebase
/-!
# Trimming — the text between the blanks

A check scans the text without the blank characters at its ends, but counts bytes from its start.  So its items are
those of the trimmed text, shifted by the blanks in front (`innerItems_of_not_blank`), and there are none to
speak of when the whole text is blank.
-/
namespace Plantilla
namespace Text

/-- The text without the blank characters at either end. -/
def trim (cs : List Char) : List Char := (trimEnd cs).dropWhile isBlank

/-- All characters are blank. -/
def Blank (cs : List Char) : Prop := ∀ c ∈ cs, isBlank c = true

instance (cs : List Char) : Decidable (Blank cs) := decidable_of_iff (cs.all isBlank = true) List.all_eq_true

theorem blank_append_iff {cs ds : List Char} : Blank (cs ++ ds) ↔ Blank cs ∧ Blank ds := List.forall_mem_append

theorem dropWhile_isBlank_eq_nil_iff {cs : List Char} : cs.dropWhile isBlank = [] ↔ Blank cs :=
  List.dropWhile_eq_nil_iff

theorem trimEnd_eq_nil_iff {cs : List Char} : trimEnd cs = [] ↔ Blank cs := by
  rw [trimEnd, List.reverse_eq_nil_iff, dropWhile_isBlank_eq_nil_iff]
  simp only [Blank, List.mem_reverse]

theorem leadingBlanks_append_trim (cs : List Char) : leadingBlanks (trimEnd cs) ++ trim cs = trimEnd cs :=
  List.takeWhile_append_dropWhile

/-- The blank characters at the end. -/
def trailingBlanks (cs : List Char) : List Char := (cs.reverse.takeWhile isBlank).reverse

theorem trimEnd_append_trailingBlanks (cs : List Char) : trimEnd cs ++ trailingBlanks cs = cs := by
  rw [trimEnd, trailingBlanks, ← List.reverse_append, List.takeWhile_append_dropWhile, List.reverse_reverse]

theorem blank_leadingBlanks (cs : List Char) : Blank (leadingBlanks cs) := fun _ hc => List.mem_takeWhile_imp hc

theorem blank_trailingBlanks (cs : List Char) : Blank (trailingBlanks cs) := fun _ hc =>
  List.mem_takeWhile_imp (List.mem_reverse.1 hc)

/-! Trimming one end looks past blanks there, and stops before it reaches the other end. -/

theorem trimEnd_append_of_blank {back : List Char} (h : Blank back) (cs : List Char) :
    trimEnd (cs ++ back) = trimEnd cs := by
  have hback : ∀ b ∈ back.reverse, isBlank b = true := fun b hb => h b (List.mem_reverse.1 hb)
  rw [trimEnd, List.reverse_append, List.dropWhile_append_of_pos hback, trimEnd]

theorem leadingBlanks_append_of_blank {front : List Char} (h : Blank front) (cs : List Char) :
    leadingBlanks (front ++ cs) = front ++ leadingBlanks cs := List.takeWhile_append_of_pos h

section NotBlank

variable {cs : List Char} (h : ¬ Blank cs)
include h

theorem trimEnd_append_of_not_blank (front : List Char) : trimEnd (front ++ cs) = front ++ trimEnd cs := by
  -- read from its end, `cs` has a character at which the dropping stops
  have hne : cs.reverse.dropWhile isBlank ≠ [] := by
    intro hnil
    refine h (trimEnd_eq_nil_iff.1 ?_)
    rw [trimEnd, hnil, List.reverse_nil]
  rw [trimEnd, List.reverse_append, List.dropWhile_append, if_neg (by simpa using hne), List.reverse_append,
    List.reverse_reverse, trimEnd]

theorem leadingBlanks_append_of_not_blank (back : List Char) : leadingBlanks (cs ++ back) = leadingBlanks cs := by
  have hlen : (cs.takeWhile isBlank).length ≠ cs.length := by
    intro hlen
    have hall := (List.takeWhile_prefix isBlank).eq_of_length hlen
    exact h fun c hc => List.mem_takeWhile_imp (hall ▸ hc)
  rw [leadingBlanks, List.takeWhile_append, if_neg hlen, leadingBlanks]

theorem not_blank_trimEnd : ¬ Blank (trimEnd cs) := by
  intro hblank
  have hall := blank_append_iff.2 ⟨hblank, blank_trailingBlanks cs⟩
  rw [trimEnd_append_trailingBlanks] at hall
  exact h hall

theorem not_blank_trim : ¬ Blank (trim cs) := by
  intro hblank
  have hall := blank_append_iff.2 ⟨blank_leadingBlanks (trimEnd cs), hblank⟩
  rw [leadingBlanks_append_trim] at hall
  exact not_blank_trimEnd h hall

theorem leadingBlanks_trimEnd : leadingBlanks (trimEnd cs) = leadingBlanks cs := by
  have hlead := leadingBlanks_append_of_not_blank (not_blank_trimEnd h) (trailingBlanks cs)
  rw [trimEnd_append_trailingBlanks] at hlead
  exact hlead.symm

end NotBlank

end Text

open Text

theorem Scanner.startingAt_append (cs ds : List Char) : startingAt (cs ++ ds) (byteLength cs) = ⟨byteLength cs, ds⟩ := by
  rw [startingAt, suffixAt_append]

/-- The items of the trimmed text on its own. -/
def trimmedScan (source : String) : List Item := scan (String.ofList (trim source.toList))

theorem innerItems_of_blank {source : String} (h : Blank source.toList) : innerItems source = none := by
  rw [innerItems, if_pos (trimEnd_eq_nil_iff.2 h)]

theorem not_blank_of_innerItems {source : String} {items : List Item} (h : innerItems source = some items) :
    ¬ Blank source.toList := by
  intro hb
  rw [innerItems_of_blank hb] at h
  cases h

section NotBlank

variable {source : String} (h : ¬ Blank source.toList)
include h

theorem innerItems_eq_startingAt : innerItems source = some
    (Scanner.startingAt (trimEnd source.toList) (byteLength (leadingBlanks (trimEnd source.toList)))).items := by
  rw [innerItems, if_neg fun hnil => h (trimEnd_eq_nil_iff.1 hnil)]

theorem innerItems_eq_items : innerItems source = some
    (⟨byteLength (leadingBlanks (trimEnd source.toList)), trim source.toList⟩ : Scanner).items := by
  have hstart := Scanner.startingAt_append (leadingBlanks (trimEnd source.toList)) (trim source.toList)
  rw [leadingBlanks_append_trim] at hstart
  rw [innerItems_eq_startingAt h, hstart]

theorem innerItems_of_not_blank : innerItems source = some ((trimmedScan source).map
    (Item.shift (byteLength (leadingBlanks (trimEnd source.toList))))) := by
  rw [innerItems_eq_items h, trimmedScan, scan, String.toList_ofList, Scanner.ofChars, ← Scanner.items_add, Nat.zero_add]

end NotBlank

theorem Item.kinds_map_shift (k : Nat) (items : List Item) : kinds (items.map (shift k)) = kinds items := by
  rw [kinds, tokens_map_shift, List.map_map]
  rfl

end Plantilla
