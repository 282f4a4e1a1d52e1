/-!
# Labels outside ASCII

A label of a domain name that holds characters outside ASCII is written in ASCII: its ASCII
characters come first, and after a hyphen follow the positions and the code points of the others,
as differences in a number system whose digits have changing weights.

## Main definitions

* `Punycode.encode` and `Punycode.decode?`: writing and reading.
-/

namespace FleetAgent.Url.Punycode

/-- The number of digits. -/
def base : Nat := 36

/-- The least threshold of a digit. -/
def tMin : Nat := 1

/-- The greatest threshold of a digit. -/
def tMax : Nat := 26

/-- The first code point outside ASCII. -/
def firstCode : Nat := 128

/-- The bias at the start. -/
def firstBias : Nat := 72

/-- The part of the bias that the size of a difference decides. -/
def scale : (fuel delta k : Nat) → Nat
  | 0, _, k => k
  | fuel + 1, delta, k =>
    if delta > (base - tMin) * tMax / 2 then scale fuel (delta / (base - tMin)) (k + base)
    else k + (base - tMin + 1) * delta / (delta + 38)

/-- The bias after a difference, of which there are `points` so far. -/
def adapt (delta points : Nat) (first : Bool) : Nat :=
  let delta := if first then delta / 700 else delta / 2
  scale (delta + delta / points) (delta + delta / points) 0

/-- The threshold of the digit at weight position `k`. -/
def threshold (k bias : Nat) : Nat :=
  if k ≤ bias then tMin else if bias + tMax ≤ k then tMax else k - bias

/-- The character of a digit. -/
def digit (d : Nat) : Char :=
  if d < 26 then Char.ofNat ('a'.toNat + d) else Char.ofNat ('0'.toNat + (d - 26))

/-- The digit of a character. -/
def digit? (c : Char) : Option Nat :=
  if 'a' ≤ c ∧ c ≤ 'z' then some (c.toNat - 'a'.toNat)
  else if 'A' ≤ c ∧ c ≤ 'Z' then some (c.toNat - 'A'.toNat)
  else if '0' ≤ c ∧ c ≤ '9' then some (c.toNat - '0'.toNat + 26)
  else none

/-- The digits of a difference. -/
def encodeDelta (bias : Nat) : (fuel q k : Nat) → List Char
  | 0, _, _ => []
  | fuel + 1, q, k =>
    let t := threshold k bias
    if q < t then [digit q]
    else digit (t + (q - t) % (base - t)) ::
      encodeDelta bias fuel ((q - t) / (base - t)) (k + base)

/-- Where the writer stands between two characters. -/
structure Progress where
  /-- The difference so far. -/
  delta : Nat
  /-- The bias of the next digits. -/
  bias : Nat
  /-- How many characters are written. -/
  handled : Nat
  /-- The digits written. -/
  digits : List Char

/-- The writing of all occurrences of the code point `n` in the label. -/
def encodeCode (label : List Char) (basic n : Nat) (p : Progress) : Progress :=
  label.foldl (fun p c =>
    if c.toNat < n then { p with delta := p.delta + 1 }
    else if c.toNat = n then
      { delta := 0
        bias := adapt p.delta (p.handled + 1) (p.handled = basic)
        handled := p.handled + 1
        digits := p.digits ++ encodeDelta p.bias (p.delta + 1) p.delta base }
    else p) p

/-- The writing of all code points from `n` on, `left` of them distinct. -/
def encodeFrom (label : List Char) (basic : Nat) : (left n : Nat) → Progress → Progress
  | 0, _, p => p
  | left + 1, n, p =>
    match (label.filterMap fun c => if n ≤ c.toNat then some c.toNat else none).min? with
    | none => p
    | some m =>
      let p := encodeCode label basic m
        { p with delta := p.delta + (m - n) * (p.handled + 1) }
      encodeFrom label basic left (m + 1) { p with delta := p.delta + 1 }

/-- The label in ASCII. -/
def encode (label : List Char) : List Char :=
  let ascii := label.filter (·.toNat < firstCode)
  let p := encodeFrom label ascii.length label.length firstCode
    { delta := 0, bias := firstBias, handled := ascii.length, digits := [] }
  (if ascii.isEmpty then [] else ascii ++ ['-']) ++ p.digits

/-- The difference at the front of the digits, and the digits after it. -/
def decodeDelta? (bias : Nat) : List Char → (i weight k : Nat) → Option (Nat × List Char)
  | [], _, _, _ => none
  | c :: cs, i, weight, k => do
    let d ← digit? c
    let i := i + d * weight
    if UInt32.size ≤ i then none
    let t := threshold k bias
    if d < t then some (i, cs) else decodeDelta? bias cs i (weight * (base - t)) (k + base)

/-- The label after all differences of the digits, at most `fuel` of them: each difference says how
far the next insertion is from position `i` of the code point `n`. -/
def decodeFrom? : (fuel : Nat) → List Char → (i n bias : Nat) → List Char → Option (List Char)
  | _, [], _, _, _, label => some label
  | 0, _, _, _, _, _ => none
  | fuel + 1, cs, i, n, bias, label => do
    let (j, rest) ← decodeDelta? bias cs i 1 base
    let points := label.length + 1
    let n := n + j / points
    let c ← if h : n.isValidChar then some (Char.ofNatAux n h) else none
    let at' := j % points
    decodeFrom? fuel rest (at' + 1) n (adapt (j - i) points (i = 0))
      (label.take at' ++ c :: label.drop at')

/-- The label of its form in ASCII. -/
def decode? (cs : List Char) : Option (List Char) :=
  let parts := cs.splitOn '-'
  let ascii := if parts.length ≤ 1 then [] else ['-'].intercalate parts.dropLast
  let digits := parts.getLastD []
  if ascii.any (fun c => firstCode ≤ c.toNat) then none
  else decodeFrom? digits.length digits 0 firstCode firstBias ascii

end FleetAgent.Url.Punycode
