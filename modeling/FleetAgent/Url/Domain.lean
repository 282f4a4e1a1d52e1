import FleetAgent.Url.Percent
import FleetAgent.Url.Punycode

/-!
# Domain names

A domain name is brought into its form in ASCII: letters become small, characters that only differ
in width become the common ones, and a label with characters outside ASCII is encoded. Some
characters may not occur at all.

## Main definitions

* `Domain.fold`: the characters that stand for a character, or nothing if it may not occur.
* `Domain.toAscii?`: the domain name of the bytes of a host.
-/

namespace FleetAgent.Url.Domain

/-- The ASCII characters that may not occur in a domain name, controls apart. -/
def forbidden : List Char :=
  [' ', '#', '%', '/', ':', '<', '>', '?', '@', '[', '\\', ']', '^', '|']

/-- The ranges of characters that are left out of a domain name: they are not seen. -/
def droppedRanges : List (Nat × Nat) :=
  [(0xAD, 0xAD), (0x34F, 0x34F), (0x180B, 0x180F), (0x200B, 0x200B), (0x2060, 0x2060),
    (0x2064, 0x2064), (0xFE00, 0xFE0F), (0xFEFF, 0xFEFF), (0xE0100, 0xE01EF)]

/-- The ranges of characters outside ASCII that may not occur: controls, blanks, directional marks,
characters for private use, and code points that are no characters. -/
def refusedRanges : List (Nat × Nat) :=
  [(0x80, 0xA0), (0x600, 0x605), (0x61C, 0x61C), (0x6DD, 0x6DD), (0x70F, 0x70F),
    (0x1680, 0x1680), (0x2000, 0x200A), (0x200E, 0x200F), (0x2028, 0x202F), (0x205F, 0x205F),
    (0x2061, 0x2063), (0x2065, 0x206F), (0x3000, 0x3000), (0xE000, 0xF8FF), (0xFDD0, 0xFDEF),
    (0xFFF0, 0xFFFF), (0xE0000, 0xE00FF), (0xE01F0, 0x10FFFF)]

/-- Whether a code point lies in one of the ranges. -/
def inRanges (ranges : List (Nat × Nat)) (n : Nat) : Bool :=
  ranges.any fun r => r.1 ≤ n && n ≤ r.2

/-- The code point of the small letter of a capital one of the Latin, Greek and Cyrillic scripts,
and of every other code point itself. -/
def smallLetter (n : Nat) : Nat :=
  if (0x41 ≤ n ∧ n ≤ 0x5A) ∨ (0xC0 ≤ n ∧ n ≤ 0xDE ∧ n ≠ 0xD7) ∨ (0x391 ≤ n ∧ n ≤ 0x3AB ∧ n ≠ 0x3A2)
      ∨ (0x410 ≤ n ∧ n ≤ 0x42F) then n + 32
  else if 0x400 ≤ n ∧ n ≤ 0x40F then n + 80
  else if n = 0x178 then 0xFF
  else if ((0x100 ≤ n ∧ n ≤ 0x137 ∧ n ≠ 0x130) ∨ (0x14A ≤ n ∧ n ≤ 0x177) ∨ (0x460 ≤ n ∧ n ≤ 0x481)
      ∨ (0x48A ≤ n ∧ n ≤ 0x4BF) ∨ (0x4D0 ≤ n ∧ n ≤ 0x52F) ∨ (0x1E00 ≤ n ∧ n ≤ 0x1E95)
      ∨ (0x1EA0 ≤ n ∧ n ≤ 0x1EFF)) ∧ n % 2 = 0 then n + 1
  else if ((0x139 ≤ n ∧ n ≤ 0x148) ∨ (0x179 ≤ n ∧ n ≤ 0x17E) ∨ (0x4C1 ≤ n ∧ n ≤ 0x4CE)) ∧ n % 2 = 1
    then n + 1
  else n

/-- The code point of common width of one of full width, and of every other code point itself. -/
def commonWidth (n : Nat) : Nat :=
  if 0xFF01 ≤ n ∧ n ≤ 0xFF5E then n - 0xFEE0
  else if n = 0x3002 ∨ n = 0xFF61 then '.'.toNat
  else n

/-- The characters that stand for a character in a domain name. -/
def fold (c : Char) : Option (List Char) :=
  let n := smallLetter (commonWidth c.toNat)
  if inRanges droppedRanges n then some []
  else if inRanges refusedRanges n || n < 0x20 || n = 0x7F || forbidden.contains (Char.ofNat n)
    then none
  else some [Char.ofNat n]

/-- The start of a label that is encoded. -/
def encodedMark : List Char := ['x', 'n', '-', '-']

/-- A folded label in ASCII. An encoded label must be the encoding of a folded label that needs
it. -/
def labelToAscii? (label : List Char) : Option (List Char) :=
  if encodedMark.isPrefixOf label then do
    let decoded ← Punycode.decode? (label.drop encodedMark.length)
    let folded ← decoded.mapM fold
    if folded.flatten = decoded && decoded.any (fun c => 0x7F < c.toNat) then some label else none
  else if label.all (·.toNat ≤ 0x7F) then some label
  else some (encodedMark ++ Punycode.encode label)

/-- The domain name of the bytes of a host. -/
def toAscii? (bytes : List UInt8) : Option (List Char) := do
  let host ← String.fromUTF8? ⟨bytes.toArray⟩
  let folded ← host.toList.mapM fold
  let labels ← (folded.flatten.splitOn '.').mapM labelToAscii?
  some (['.'].intercalate labels)

end FleetAgent.Url.Domain
