/-!
# Bytes — byte offsets into a list of characters

Offsets and spans count bytes of the UTF-8 encoding, while every scan walks characters.  `suffixAt` is the bridge:
it answers only at a boundary between two characters, so "not a boundary" is `none` and no offset is ever rounded.
-/
namespace Plantilla
namespace Text

/-- The number of bytes of the UTF-8 encoding. -/
def byteLength : List Char → Nat
  | [] => 0
  | c :: cs => c.utf8Size + byteLength cs

/-- The characters from byte `k` on, if `k` is a boundary between two characters (both ends included). -/
def suffixAt : Nat → List Char → Option (List Char)
  | 0, cs => some cs
  | _ + 1, [] => none
  | k + 1, c :: cs => if c.utf8Size ≤ k + 1 then suffixAt (k + 1 - c.utf8Size) cs else none

/-- The characters up to byte `k`, if `k` is a boundary. -/
def uptoByte : Nat → List Char → Option (List Char)
  | 0, _ => some []
  | _ + 1, [] => none
  | k + 1, c :: cs =>
    if c.utf8Size ≤ k + 1 then (uptoByte (k + 1 - c.utf8Size) cs).map (c :: ·) else none

/-- The characters of the bytes `start..stop`, if both ends are boundaries. -/
def slice? (start stop : Nat) (cs : List Char) : Option (List Char) :=
  (suffixAt start cs).bind (uptoByte (stop - start))

end Text
end Plantilla
