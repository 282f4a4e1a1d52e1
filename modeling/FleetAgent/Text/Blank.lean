/-!
# Blank characters

The characters with the Unicode property `White_Space`, and texts without those at their two ends.
The zero-width characters and the byte order mark do not have the property.

## Main definitions

* `Text.isBlank`: the property of a character.
* `Text.trim`: the text without the blanks at both ends.
-/

namespace FleetAgent.Text

/-- The ranges of code points with the property `White_Space`, both ends included. -/
def blankRanges : List (Nat × Nat) :=
  [(0x09, 0x0D), (0x20, 0x20), (0x85, 0x85), (0xA0, 0xA0), (0x1680, 0x1680), (0x2000, 0x200A),
    (0x2028, 0x2029), (0x202F, 0x202F), (0x205F, 0x205F), (0x3000, 0x3000)]

/-- Whether the character is blank. -/
def isBlank (c : Char) : Bool :=
  blankRanges.any fun r => r.1 ≤ c.toNat && c.toNat ≤ r.2

/-- The list of characters without the blanks at both ends. -/
def trimList (cs : List Char) : List Char :=
  ((cs.dropWhile isBlank).reverse.dropWhile isBlank).reverse

/-- The text without the blanks at both ends. -/
def trim (s : String) : String := String.ofList (trimList s.toList)

/-- Whether the text holds nothing but blanks. -/
def isBlankText (s : String) : Bool := s.toList.all isBlank

end FleetAgent.Text
