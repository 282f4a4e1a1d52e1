/-!
# Decimal digits of a fixed width

Numbers written with leading zeros, as in the fraction of a span of time, and fractions without
their trailing zeros.

## Main definitions

* `Text.padLeft`: a text filled up on the left to a width.
* `Text.padded`: the decimal digits of a number, filled up with zeros to a width.
* `Text.trimZeros`: a fraction without its trailing zeros.
-/

namespace FleetAgent.Text

/-- The text `s` filled up on the left with `c` until it has at least `width` characters. -/
def padLeft (width : Nat) (c : Char) (s : String) : String :=
  String.ofList (List.replicate (width - s.length) c) ++ s

/-- The decimal digits of `n`, filled up on the left with zeros to `width` digits. -/
def padded (width n : Nat) : String :=
  padLeft width '0' (toString n)

/-- The text without the zeros at its end. -/
def trimZeros (s : String) : String :=
  String.ofList (s.toList.reverse.dropWhile (· == '0')).reverse

end FleetAgent.Text
