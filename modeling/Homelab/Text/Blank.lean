/-!
# White space

The characters that count as blank in the reference grammar, when text is
trimmed and when words are told apart: the separators of Unicode together with
the control characters that move the cursor or separate records.
-/

namespace Homelab
namespace Text

/-- Membership in a list of inclusive ranges. -/
def inRanges (ranges : List (Nat × Nat)) (n : Nat) : Bool :=
  ranges.any fun r => r.1 ≤ n && n ≤ r.2

/-- The code points of blank characters, as inclusive ranges. -/
def blankRanges : List (Nat × Nat) :=
  [(0x09, 0x0d), (0x1c, 0x20), (0x85, 0x85), (0xa0, 0xa0), (0x1680, 0x1680),
   (0x2000, 0x200a), (0x2028, 0x2029), (0x202f, 0x202f), (0x205f, 0x205f), (0x3000, 0x3000)]

/-- A white space character. -/
def isBlank (c : Char) : Bool :=
  inRanges blankRanges c.toNat

/-- The text without blanks at its two ends. -/
def stripChars (cs : List Char) : List Char :=
  ((cs.dropWhile isBlank).reverse.dropWhile isBlank).reverse

/-- The text without blanks at its two ends. -/
def strip (s : String) : String :=
  String.ofList (stripChars s.toList)

end Text
end Homelab
