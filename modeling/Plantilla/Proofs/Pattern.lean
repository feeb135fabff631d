import Mathlib.Data.List.Basic
import Mathlib.Data.List.TakeWhile
import Plantilla.Scan
/-!
# Pattern — what a lexeme may look like

Each shape has a pattern, said here as the set of texts it matches, without a scan (`Shape.Matches`).  What may be
written for a kind is said without a scan too (`Kind.Spells`): the mark, a word of the table, any digits, a word that is
not in the table, any text between quotes.  Those are the matches that are given the kind (`Kind.spells_iff`).

The first character of a text decides which pattern can match there (`headShape?_eq_some_iff`), so the longest match of
that one pattern is the longest of all.  `lexeme?` finds it: `lexeme?_eq_some_iff` and `lexeme?_eq_none_iff` say so, and
they are all that is known of `lexeme?` elsewhere.
-/
namespace Plantilla

def marks : List (Char × Kind) :=
  [('+', .plus), ('(', .lparen), (')', .rparen), ('\x7b', .lbrace), ('\x7d', .rbrace), (';', .semi), ('=', .assign),
   (',', .comma), ('<', .less)]

theorem markKind?_eq_some_iff {c : Char} {k : Kind} : markKind? c = some k ↔ (c, k) ∈ marks := by
  constructor
  · intro h
    unfold markKind? at h
    split at h <;> cases h <;> decide
  · intro h
    simp only [marks, List.mem_cons, Prod.mk.injEq, List.not_mem_nil, or_false] at h
    rcases h with ⟨rfl, rfl⟩ | ⟨rfl, rfl⟩ | ⟨rfl, rfl⟩ | ⟨rfl, rfl⟩ | ⟨rfl, rfl⟩ | ⟨rfl, rfl⟩ | ⟨rfl, rfl⟩ | ⟨rfl, rfl⟩ |
      ⟨rfl, rfl⟩ <;> rfl

/-! ## Patterns -/

namespace Shape

/-- The texts of a shape: one mark; `[0-9]+`; `[a-zA-Z_][a-zA-Z0-9_]*`; or `"[^"]*"`. -/
def Matches : Shape → List Char → Prop
  | .mark kind, w => ∃ c, (c, kind) ∈ marks ∧ w = [c]
  | .number, w => w ≠ [] ∧ ∀ d ∈ w, Numeral.isDigit d = true
  | .word, w => ∃ c cs, w = c :: cs ∧ isWordStart c = true ∧ ∀ d ∈ cs, isWordPart d = true
  | .quoted, w => ∃ body, w = '"' :: (body ++ ['"']) ∧ '"' ∉ body

/-- The kind of a token of this shape and with these characters; a word is looked up. -/
def kind : Shape → List Char → Kind
  | .mark kind, _ => kind
  | .number, _ => .number
  | .word, w => Reserved.classify (String.ofList w)
  | .quoted, _ => .quoted

/-- The characters that can come first in a shape. -/
def Opens : Shape → Char → Prop
  | .mark kind, c => (c, kind) ∈ marks
  | .number, c => Numeral.isDigit c = true
  | .word, c => isWordStart c = true
  | .quoted, c => c = '"'

theorem Matches.exists_cons {s : Shape} {w : List Char} (h : s.Matches w) : ∃ c cs, w = c :: cs ∧ s.Opens c := by
  cases s with
  | mark kind => obtain ⟨c, hc, rfl⟩ := h; exact ⟨c, [], rfl, hc⟩
  | number =>
    obtain ⟨hne, hdigits⟩ := h
    obtain ⟨c, cs, rfl⟩ := List.exists_cons_of_ne_nil hne
    exact ⟨c, cs, rfl, hdigits c List.mem_cons_self⟩
  | word => obtain ⟨c, cs, rfl, hc, _⟩ := h; exact ⟨c, cs, rfl, hc⟩
  | quoted => obtain ⟨body, rfl, _⟩ := h; exact ⟨'"', body ++ ['"'], rfl, rfl⟩

end Shape

/-- No pattern matches more than `w` at the head of the text. -/
def Longest (w text : List Char) : Prop :=
  ∀ (s : Shape) (v : List Char), s.Matches v → v <+: text → v.length ≤ w.length

def Unmatched (text : List Char) : Prop := ∀ (s : Shape) (v : List Char), s.Matches v → ¬ v <+: text

/-! ## What is written for a kind -/

/-- `w` may be written for the kind. -/
inductive Kind.Spells : Kind → List Char → Prop
  | mark {c : Char} {kind : Kind} : (c, kind) ∈ marks → Spells kind [c]
  | reserved {word : String} {kind : Kind} : (word, kind) ∈ Reserved.table → Spells kind word.toList
  | number {ds : List Char} : ds ≠ [] → (∀ d ∈ ds, Numeral.isDigit d = true) → Spells .number ds
  | ident {c : Char} {cs : List Char} : isWordStart c = true → (∀ d ∈ cs, isWordPart d = true) →
      String.ofList (c :: cs) ∉ Reserved.words → Spells .ident (c :: cs)
  | quoted {body : List Char} : '"' ∉ body → Spells .quoted ('"' :: (body ++ ['"']))

namespace Reserved

theorem kind?_eq_none_iff {word : String} : kind? word = none ↔ word ∉ words := by
  rw [kind?, List.lookup_eq_none_iff, words, List.mem_map]
  constructor
  · rintro h ⟨entry, hentry, rfl⟩
    simpa using h entry hentry
  · intro h entry hentry
    simpa using fun heq : word = entry.1 => h ⟨entry, hentry, heq.symm⟩

theorem mem_table_of_kind? {word : String} {kind : Kind} (h : kind? word = some kind) : (word, kind) ∈ table := by
  rw [kind?, List.lookup_eq_some_iff] at h
  obtain ⟨before, after, htable, _⟩ := h
  rw [htable]
  simp

theorem classify_of_mem_table {word : String} {kind : Kind} (h : (word, kind) ∈ table) :
    Shape.word.Matches word.toList ∧ classify word = kind := by
  have hentries : ∀ entry ∈ table, entry.1.toList.head?.any isWordStart = true ∧
      entry.1.toList.tail.all isWordPart = true ∧ classify entry.1 = entry.2 := by decide +kernel
  obtain ⟨hhead, htail, hclass⟩ := hentries _ h
  obtain ⟨c, hc, hstart⟩ := (Option.any_eq_true _ _).1 hhead
  exact ⟨⟨c, word.toList.tail, List.eq_cons_of_mem_head? hc, hstart, List.all_eq_true.1 htail⟩, hclass⟩

end Reserved

/-- **A kind is written as the lexemes that scan to it.** -/
theorem Kind.spells_iff {kind : Kind} {w : List Char} : kind.Spells w ↔ ∃ s : Shape, s.Matches w ∧ s.kind w = kind := by
  constructor
  · intro h
    cases h with
    | @mark c kind hc => exact ⟨.mark kind, ⟨c, hc, rfl⟩, rfl⟩
    | reserved hword =>
      obtain ⟨hmatch, hclass⟩ := Reserved.classify_of_mem_table hword
      exact ⟨.word, hmatch, by rw [Shape.kind, String.ofList_toList, hclass]⟩
    | number hne hdigits => exact ⟨.number, ⟨hne, hdigits⟩, rfl⟩
    | ident hc hcs hfree =>
      refine ⟨.word, ⟨_, _, rfl, hc, hcs⟩, ?_⟩
      rw [Shape.kind, Reserved.classify, Reserved.kind?_eq_none_iff.2 hfree]
      rfl
    | quoted hbody => exact ⟨.quoted, ⟨_, rfl, hbody⟩, rfl⟩
  · rintro ⟨s, hmatch, rfl⟩
    cases s with
    | mark kind =>
      obtain ⟨c, hc, rfl⟩ := hmatch
      exact .mark hc
    | number => exact .number hmatch.1 hmatch.2
    | word =>
      obtain ⟨c, cs, rfl, hc, hcs⟩ := hmatch
      rw [Shape.kind, Reserved.classify]
      cases hkind : Reserved.kind? (String.ofList (c :: cs)) with
      | none => exact .ident hc hcs (Reserved.kind?_eq_none_iff.1 hkind)
      | some kind =>
        have hword := Kind.Spells.reserved (Reserved.mem_table_of_kind? hkind)
        rwa [String.toList_ofList] at hword
    | quoted =>
      obtain ⟨body, rfl, hbody⟩ := hmatch
      exact .quoted hbody

/-! ## The first character decides -/

/-- The shape that a text starting with this character can have. -/
def headShape? (c : Char) : Option Shape :=
  match markKind? c with
  | some kind => some (.mark kind)
  | none =>
    if Numeral.isDigit c then some .number
    else if isWordStart c then some .word
    else if c = '"' then some .quoted
    else none

theorem markKind?_eq_none {p : Char → Bool} (hmarks : ∀ m ∈ marks, p m.1 = false) {c : Char} (hc : p c = true) :
    markKind? c = none := by
  rw [Option.eq_none_iff_forall_ne_some]
  intro k hk
  have := hmarks _ (markKind?_eq_some_iff.1 hk)
  rw [hc] at this
  cases this

theorem isDigit_of_isWordStart {c : Char} (h : isWordStart c = true) : Numeral.isDigit c = false := by
  simp only [isWordStart, Numeral.isDigit, Bool.or_eq_true, Bool.and_eq_true, Bool.and_eq_false_iff, beq_iff_eq,
    decide_eq_true_eq, decide_eq_false_iff_not, Char.le_def, UInt32.le_iff_toNat_le] at h ⊢
  rcases h with (h | h) | rfl
  · have hlo : 97 ≤ c.val.toNat := h.1
    refine .inr fun hc => ?_
    have hhi : c.val.toNat ≤ 57 := hc
    omega
  · have hlo : 65 ≤ c.val.toNat := h.1
    refine .inr fun hc => ?_
    have hhi : c.val.toNat ≤ 57 := hc
    omega
  · exact .inr (by decide)

/-- **The classes have no first character in common.** -/
theorem headShape?_eq_some_iff {c : Char} {s : Shape} : headShape? c = some s ↔ s.Opens c := by
  unfold headShape?
  constructor
  · intro h
    split at h
    · rename_i kind hkind
      cases h
      exact markKind?_eq_some_iff.1 hkind
    · split at h
      · rename_i hd; cases h; exact hd
      · split at h
        · rename_i hw; cases h; exact hw
        · split at h
          · rename_i hq; cases h; exact hq
          · cases h
  · intro h
    cases s with
    | mark kind => rw [markKind?_eq_some_iff.2 h]
    | number =>
      have hd : Numeral.isDigit c = true := h
      rw [markKind?_eq_none (by decide) hd]
      simp only [hd, if_true]
    | word =>
      have hw : isWordStart c = true := h
      rw [markKind?_eq_none (by decide) hw]
      simp only [isDigit_of_isWordStart hw, hw, if_true, Bool.false_eq_true, if_false]
    | quoted =>
      obtain rfl : c = '"' := h
      decide

/-- What a shape takes from a text that it opens. -/
def Shape.read (c : Char) (cs : List Char) : Shape → Option Found
  | .mark kind => some ⟨.mark kind, [c], cs⟩
  | .number => some ⟨.number, c :: cs.takeWhile Numeral.isDigit, cs.dropWhile Numeral.isDigit⟩
  | .word => some ⟨.word, c :: cs.takeWhile isWordPart, cs.dropWhile isWordPart⟩
  | .quoted =>
    match cs.dropWhile isUnquoted with
    | [] => none
    | close :: rest => some ⟨.quoted, c :: (cs.takeWhile isUnquoted ++ [close]), rest⟩

theorem lexeme?_cons (c : Char) (cs : List Char) : lexeme? (c :: cs) = (headShape? c).bind (Shape.read c cs) := by
  rw [lexeme?, headShape?]
  cases markKind? c with
  | some kind => rfl
  | none =>
    simp only
    by_cases hd : Numeral.isDigit c = true
    · rw [if_pos hd, if_pos hd]; rfl
    · rw [if_neg hd, if_neg hd]
      by_cases hw : isWordStart c = true
      · rw [if_pos hw, if_pos hw]; rfl
      · rw [if_neg hw, if_neg hw]
        by_cases hq : c = '"'
        · rw [if_pos hq, if_pos hq]; rfl
        · rw [if_neg hq, if_neg hq]; rfl

/-! ## The longest match of one shape -/

theorem length_le_length_takeWhile {p : Char → Bool} {ds cs : List Char} (h : ds <+: cs) (hds : ∀ d ∈ ds, p d = true) :
    ds.length ≤ (cs.takeWhile p).length := by
  obtain ⟨t, rfl⟩ := h
  rw [List.takeWhile_append_of_pos hds, List.length_append]
  exact Nat.le_add_right _ _

theorem isUnquoted_iff {c : Char} : isUnquoted c = true ↔ c ≠ '"' := by simp [isUnquoted]

theorem takeWhile_of_closed {body tail : List Char} (h : '"' ∉ body) :
    (body ++ '"' :: tail).takeWhile isUnquoted = body ∧ (body ++ '"' :: tail).dropWhile isUnquoted = '"' :: tail := by
  have hbody : ∀ d ∈ body, isUnquoted d = true := fun d hd => isUnquoted_iff.2 fun hq => h (hq ▸ hd)
  rw [List.takeWhile_append_of_pos hbody, List.dropWhile_append_of_pos hbody]
  simp [isUnquoted]

theorem eq_quote_of_dropWhile {cs rest : List Char} {close : Char} (h : cs.dropWhile isUnquoted = close :: rest) :
    close = '"' := by
  have hclose := List.head?_dropWhile_not isUnquoted cs
  rw [h, List.head?_cons] at hclose
  simpa [isUnquoted] using hclose

theorem Shape.read_eq_some {s : Shape} {c : Char} {cs : List Char} {f : Found} (ho : s.Opens c)
    (h : s.read c cs = some f) :
    f.shape = s ∧ c :: cs = f.chars ++ f.rest ∧ s.Matches f.chars ∧
      ∀ v, s.Matches v → v <+: c :: cs → v.length ≤ f.chars.length := by
  cases s with
  | mark kind =>
    cases h
    exact ⟨rfl, rfl, ⟨c, ho, rfl⟩, fun v ⟨_, _, hv⟩ _ => by rw [hv]; exact Nat.le_refl _⟩
  | number =>
    cases h
    refine ⟨rfl, ?_, ⟨List.cons_ne_nil _ _, ?_⟩, ?_⟩
    · rw [List.cons_append, List.takeWhile_append_dropWhile]
    · intro d hd
      rcases List.mem_cons.1 hd with rfl | hd
      · exact ho
      · exact List.mem_takeWhile_imp hd
    · rintro v ⟨hne, hv⟩ hprefix
      obtain ⟨d, ds, rfl⟩ := List.exists_cons_of_ne_nil hne
      have hds := (List.cons_prefix_cons.1 hprefix).2
      exact Nat.succ_le_succ (length_le_length_takeWhile hds fun e he => hv e (List.mem_cons_of_mem _ he))
  | word =>
    cases h
    refine ⟨rfl, ?_, ⟨c, _, rfl, ho, fun d hd => List.mem_takeWhile_imp hd⟩, ?_⟩
    · rw [List.cons_append, List.takeWhile_append_dropWhile]
    · rintro v ⟨d, ds, rfl, _, hds⟩ hprefix
      exact Nat.succ_le_succ (length_le_length_takeWhile (List.cons_prefix_cons.1 hprefix).2 hds)
  | quoted =>
    simp only [read] at h
    split at h
    · cases h
    · rename_i close rest hdrop
      obtain rfl := eq_quote_of_dropWhile hdrop
      obtain rfl : c = '"' := ho
      cases h
      have hsplit : cs = cs.takeWhile isUnquoted ++ '"' :: rest := by
        rw [← hdrop, List.takeWhile_append_dropWhile]
      refine ⟨rfl, ?_, ⟨_, rfl, fun hq => ?_⟩, ?_⟩
      · rw [List.cons_append, List.append_assoc, List.singleton_append, ← hsplit]
      · exact isUnquoted_iff.1 (List.mem_takeWhile_imp hq) rfl
      · rintro v ⟨body, rfl, hbody⟩ hprefix
        obtain ⟨tail, htail⟩ := (List.cons_prefix_cons.1 hprefix).2
        rw [List.append_assoc, List.singleton_append] at htail
        rw [← htail, (takeWhile_of_closed hbody).1]

theorem Shape.read_eq_none {s : Shape} {c : Char} {cs : List Char} (h : s.read c cs = none) {v : List Char}
    (hv : s.Matches v) : ¬ v <+: c :: cs := by
  cases s with
  | mark kind => cases h
  | number => cases h
  | word => cases h
  | quoted =>
    obtain ⟨body, rfl, hbody⟩ := hv
    intro hprefix
    obtain ⟨tail, htail⟩ := (List.cons_prefix_cons.1 hprefix).2
    rw [List.append_assoc, List.singleton_append] at htail
    simp [read, ← htail, (takeWhile_of_closed hbody).2] at h

/-! ## The longest match of all -/

/-- A pattern that matches at the head of a text is the one that the first character opens. -/
theorem Shape.Matches.headShape?_eq {s : Shape} {v cs : List Char} {c : Char} (hv : s.Matches v) (h : v <+: c :: cs) :
    headShape? c = some s := by
  obtain ⟨d, ds, rfl, ho⟩ := hv.exists_cons
  rw [← (List.cons_prefix_cons.1 h).1]
  exact headShape?_eq_some_iff.2 ho

theorem lexeme?_eq_none_iff {cs : List Char} : lexeme? cs = none ↔ Unmatched cs := by
  cases cs with
  | nil =>
    refine ⟨fun _ s v hv h => ?_, fun _ => rfl⟩
    obtain ⟨c, ds, rfl, _⟩ := hv.exists_cons
    cases List.prefix_nil.1 h
  | cons c cs =>
    rw [lexeme?_cons]
    constructor
    · intro h s v hv hprefix
      rw [hv.headShape?_eq hprefix, Option.bind_some] at h
      exact Shape.read_eq_none h hv hprefix
    · intro h
      rw [Option.eq_none_iff_forall_ne_some]
      intro f hf
      obtain ⟨s, hs, hread⟩ := Option.bind_eq_some_iff.1 hf
      obtain ⟨_, hsplit, hmatch, _⟩ := Shape.read_eq_some (headShape?_eq_some_iff.1 hs) hread
      exact h s f.chars hmatch ⟨f.rest, hsplit.symm⟩

theorem lexeme?_spec {cs : List Char} {f : Found} (h : lexeme? cs = some f) :
    cs = f.chars ++ f.rest ∧ f.shape.Matches f.chars ∧ Longest f.chars cs := by
  cases cs with
  | nil => cases h
  | cons c cs =>
    rw [lexeme?_cons] at h
    obtain ⟨s, hs, hread⟩ := Option.bind_eq_some_iff.1 h
    obtain ⟨rfl, hsplit, hmatch, hlong⟩ := Shape.read_eq_some (headShape?_eq_some_iff.1 hs) hread
    refine ⟨hsplit, hmatch, fun s' v hv hprefix => ?_⟩
    obtain rfl : s' = f.shape := Option.some.inj ((hv.headShape?_eq hprefix).symm.trans hs)
    exact hlong v hv hprefix

/-- **`lexeme?` finds the longest match**, and that is the only one there is. -/
theorem lexeme?_eq_some_iff {cs : List Char} {f : Found} :
    lexeme? cs = some f ↔ cs = f.chars ++ f.rest ∧ f.shape.Matches f.chars ∧ Longest f.chars cs := by
  refine ⟨lexeme?_spec, fun ⟨hsplit, hmatch, hlong⟩ => ?_⟩
  have hprefix : f.chars <+: cs := ⟨f.rest, hsplit.symm⟩
  cases hfound : lexeme? cs with
  | none => exact absurd hprefix (lexeme?_eq_none_iff.1 hfound _ _ hmatch)
  | some f' =>
    obtain ⟨hsplit', hmatch', hlong'⟩ := lexeme?_spec hfound
    have hprefix' : f'.chars <+: cs := ⟨f'.rest, hsplit'.symm⟩
    have hlen : f'.chars.length = f.chars.length :=
      Nat.le_antisymm (hlong _ _ hmatch' hprefix') (hlong' _ _ hmatch hprefix)
    obtain ⟨hchars, hrest⟩ := List.append_inj (hsplit'.symm.trans hsplit) hlen
    have hshape : f'.shape = f.shape := by
      obtain ⟨c, ds, hds, ho⟩ := hmatch.exists_cons
      obtain ⟨c', ds', hds', ho'⟩ := hmatch'.exists_cons
      rw [hchars, hds] at hds'
      obtain ⟨rfl, rfl⟩ := List.cons.inj hds'
      exact Option.some.inj ((headShape?_eq_some_iff.2 ho').symm.trans (headShape?_eq_some_iff.2 ho))
    cases f; cases f'
    simp_all

/-! ## What follows a text -/

/-- No lexeme at the head of `cs` goes on into `bs`. -/
def Fits (cs bs : List Char) : Prop := ∀ ⦃s : Shape⦄ ⦃v : List Char⦄, s.Matches v → v <+: cs ++ bs → v <+: cs

namespace Fits

variable {cs bs : List Char} (h : Fits cs bs)
include h

theorem lexeme?_of_some {f : Found} (hf : lexeme? cs = some f) :
    lexeme? (cs ++ bs) = some { f with rest := f.rest ++ bs } := by
  obtain ⟨hsplit, hmatch, hlong⟩ := lexeme?_spec hf
  refine lexeme?_eq_some_iff.2 ⟨?_, hmatch, fun s v hv hprefix => hlong s v hv (h hv hprefix)⟩
  rw [hsplit, List.append_assoc]

theorem lexeme?_of_none (hf : lexeme? cs = none) : lexeme? (cs ++ bs) = none :=
  lexeme?_eq_none_iff.2 fun s v hv hprefix => lexeme?_eq_none_iff.1 hf s v hv (h hv hprefix)

end Fits
end Plantilla
