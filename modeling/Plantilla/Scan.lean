import Plantilla.Text.Bytes
import Plantilla.Token
import Plantilla.Token.Reserved
/-!
# Scan — from characters to items

A scanner stands at a byte offset with the characters still ahead.  One pull skips the gap (spaces, tabs and
newlines), then takes the longest lexeme at the head (`lexeme?`), or, where no lexeme starts, one illegal character.
A quote that is never closed starts no lexeme: the quote alone is illegal and the scan goes on behind it.

Every pull that gives an item leaves fewer characters (`Scanner.rest_length_pull`), so `Scanner.items` ends, and a
scanner that has given nothing gives nothing ever after (`Scanner.pull_pull_of_none`).
-/
namespace Plantilla

/-! ## Lexemes

The classes do not overlap in their first character, so the longest match at the head is found by its class alone. -/

/-- The shape of a lexeme: a punctuation mark, digits, a word, or text between two quotes. -/
inductive Shape where
  | mark (kind : Kind)
  | number
  | word
  | quoted
deriving DecidableEq, Repr

def markKind? : Char → Option Kind
  | '+' => some .plus
  | '(' => some .lparen
  | ')' => some .rparen
  | '\x7b' => some .lbrace
  | '\x7d' => some .rbrace
  | ';' => some .semi
  | '=' => some .assign
  | ',' => some .comma
  | '<' => some .less
  | _ => none

/-- A character that starts a word: an ASCII letter or an underscore. -/
def isWordStart (c : Char) : Bool := ('a' ≤ c && c ≤ 'z') || ('A' ≤ c && c ≤ 'Z') || c == '_'

def isWordPart (c : Char) : Bool := isWordStart c || Numeral.isDigit c

def isUnquoted (c : Char) : Bool := c != '"'

/-- A lexeme found at the head of a text: its shape, its characters and what follows. -/
structure Found where
  shape : Shape
  chars : List Char
  rest : List Char

/-- The longest lexeme at the head, if one starts there. -/
def lexeme? : List Char → Option Found
  | [] => none
  | c :: cs =>
    match markKind? c with
    | some kind => some ⟨.mark kind, [c], cs⟩
    | none =>
      if Numeral.isDigit c then
        some ⟨.number, c :: cs.takeWhile Numeral.isDigit, cs.dropWhile Numeral.isDigit⟩
      else if isWordStart c then
        some ⟨.word, c :: cs.takeWhile isWordPart, cs.dropWhile isWordPart⟩
      else if c = '"' then
        match cs.dropWhile isUnquoted with
        | [] => none
        | close :: rest => some ⟨.quoted, c :: (cs.takeWhile isUnquoted ++ [close]), rest⟩
      else none

theorem length_dropWhile_le (p : Char → Bool) : ∀ cs : List Char, (cs.dropWhile p).length ≤ cs.length
  | [] => Nat.le_refl _
  | c :: cs => by
    rw [List.dropWhile_cons]
    split
    · exact Nat.le_succ_of_le (length_dropWhile_le p cs)
    · exact Nat.le_refl _

/-- A lexeme takes at least one character. -/
theorem rest_length_lexeme? {cs : List Char} {f : Found} (h : lexeme? cs = some f) :
    f.rest.length < cs.length := by
  cases cs with
  | nil => simp [lexeme?] at h
  | cons c cs =>
    have hd := length_dropWhile_le Numeral.isDigit cs
    have hw := length_dropWhile_le isWordPart cs
    have hq := length_dropWhile_le isUnquoted cs
    simp only [lexeme?] at h
    split at h
    · cases h; simp
    · split at h
      · cases h; simp only [List.length_cons]; omega
      · split at h
        · cases h; simp only [List.length_cons]; omega
        · split at h
          · split at h
            · cases h
            · rename_i hrest
              rw [hrest] at hq
              cases h
              simp only [List.length_cons] at hq ⊢
              omega
          · cases h

/-! ## Items -/

/-- What a scan gives: a token, or a character that starts no lexeme. -/
inductive Item where
  | token (t : Token)
  | illegal (c : Char) (span : Span)
deriving DecidableEq, Repr

def Item.span : Item → Span
  | .token t => t.span
  | .illegal _ span => span

def Item.token? : Item → Option Token
  | .token t => some t
  | .illegal _ _ => none

/-- The token of a lexeme that stands at `offset`. -/
def Found.token (f : Found) (offset : Nat) : Token :=
  let span : Span := ⟨offset, offset + Text.byteLength f.chars⟩
  match f.shape with
  | .mark kind => Token.ofLexeme kind f.chars span
  | .number => Token.ofDigits f.chars span
  | .word => Token.ofLexeme (Reserved.classify (String.ofList f.chars)) f.chars span
  | .quoted => Token.ofLexeme .quoted f.chars span

/-! ## The scanner -/

/-- A place in a source: the byte offset, and the characters from there on. -/
structure Scanner where
  offset : Nat
  rest : List Char
deriving DecidableEq, Repr

namespace Scanner

/-- A character that separates lexemes and belongs to none. -/
def isGap (c : Char) : Bool := c == ' ' || c == '\t' || c == '\n'

def ofChars (cs : List Char) : Scanner := ⟨0, cs⟩

/-- At byte `k` of a text; an offset that is no boundary between two characters is ignored. -/
def startingAt (cs : List Char) (k : Nat) : Scanner :=
  match Text.suffixAt k cs with
  | some rest => ⟨k, rest⟩
  | none => ofChars cs

/-- Past the gap.  A gap character is one byte long. -/
def skipGap (s : Scanner) : Scanner :=
  ⟨s.offset + (s.rest.takeWhile isGap).length, s.rest.dropWhile isGap⟩

/-- The next item, and where the scan stands after it. -/
def pull (s : Scanner) : Option Item × Scanner :=
  let s := s.skipGap
  match s.rest with
  | [] => (none, s)
  | c :: cs =>
    match lexeme? (c :: cs) with
    | some f =>
      let t := f.token s.offset
      (some (.token t), ⟨t.span.stop, f.rest⟩)
    | none =>
      let stop := s.offset + c.utf8Size
      (some (.illegal c ⟨s.offset, stop⟩), ⟨stop, cs⟩)

/-- A pull that gives an item leaves fewer characters. -/
theorem rest_length_pull {s s' : Scanner} {item : Item} (h : s.pull = (some item, s')) :
    s'.rest.length < s.rest.length := by
  have hskip : s.skipGap.rest.length ≤ s.rest.length := length_dropWhile_le isGap s.rest
  unfold pull at h
  simp only at h
  split at h
  · cases h
  · rename_i c cs hcs
    rw [hcs] at hskip
    split at h
    · rename_i f hf
      have := rest_length_lexeme? hf
      cases h
      simp only at this ⊢
      omega
    · cases h
      simp only [List.length_cons] at hskip ⊢
      omega

/-- A scanner that gave nothing gives nothing ever after. -/
theorem pull_pull_of_none {s : Scanner} (h : s.pull.1 = none) : s.pull.2.pull = (none, s.pull.2) := by
  cases hs : s.skipGap.rest with
  | cons c cs =>
    unfold pull at h
    simp only [hs] at h
    split at h <;> cases h
  | nil =>
    have hp : s.pull = (none, s.skipGap) := by unfold pull; simp only [hs]
    have hskip : s.skipGap.skipGap = s.skipGap := by
      simp only [skipGap] at hs ⊢
      rw [hs]
      simp
    rw [hp]
    unfold pull
    simp only [hskip, hs]

/-- Pull until nothing comes: the items in order, and the exhausted scanner. -/
def run (s : Scanner) : List Item × Scanner :=
  match _h : s.pull with
  | (none, s') => ([], s')
  | (some item, s') =>
    let later := run s'
    (item :: later.1, later.2)
termination_by s.rest.length
decreasing_by all_goals exact rest_length_pull _h

def items (s : Scanner) : List Item := s.run.1

end Scanner

def scan (source : String) : List Item := (Scanner.ofChars source.toList).items

/-- The tokens among items, the illegal characters dropped. -/
def Item.tokens (items : List Item) : List Token := items.filterMap Item.token?

def tokenize (source : String) : List Token := Item.tokens (scan source)

end Plantilla
