import FleetAgent.Url.Percent

/-!
# Numeric addresses of sixteen bytes

Such an address has eight pieces of 16 bits, each of one to four hexadecimal digits, between
colons. Two colons in a row, which may occur once, stand for at least one piece of zero. In place
of the last two pieces there may be four bytes in decimal between dots.

## Main definitions

* `Ipv6.parse?` and `Ipv6.render`: reading and writing; the longest run of at least two pieces of
  zero is written as two colons.
-/

namespace FleetAgent.Url.Ipv6

/-- A piece of one to four hexadecimal digits. -/
def piece? (cs : List Char) : Option Nat :=
  if cs.isEmpty || 4 < cs.length then none
  else cs.foldl (fun n c => do some ((← n) * 16 + (← hexValue? c))) (some 0)

/-- A byte in decimal, without leading zeros. -/
def byte? (cs : List Char) : Option Nat :=
  if cs.isEmpty || 3 < cs.length || !cs.all Char.isDigit || (cs.head? = some '0' && 1 < cs.length)
  then none
  else
    let n := cs.foldl (fun n c => n * 10 + (c.toNat - '0'.toNat)) 0
    if n ≤ 255 then some n else none

/-- The two pieces of four bytes in decimal between dots. -/
def dotted? (cs : List Char) : Option (List Nat) := do
  let bytes ← (cs.splitOn '.').mapM byte?
  match bytes with
  | [a, b, c, d] => some [a * 256 + b, c * 256 + d]
  | _ => none

/-- The pieces between single colons; the last of them may be four bytes in decimal if
`dottedEnd`. -/
def pieces? (dottedEnd : Bool) (cs : List Char) : Option (List Nat) :=
  if cs.isEmpty then some []
  else
    let parts := cs.splitOn ':'
    match parts.getLast? with
    | none => none
    | some last => do
      let front ← parts.dropLast.mapM piece?
      let back ← if dottedEnd && last.contains '.' then dotted? last else (piece? last).map ([·])
      some (front ++ back)

/-- The characters before the first two colons in a row, and those after them. -/
def splitGap : List Char → Option (List Char × List Char)
  | ':' :: ':' :: cs => some ([], cs)
  | c :: cs => (splitGap cs).map fun (a, b) => (c :: a, b)
  | [] => none

/-- The eight pieces of an address. -/
def parse? (cs : List Char) : Option (List Nat) := do
  match splitGap cs with
  | none =>
    let pieces ← pieces? true cs
    if pieces.length = 8 then some pieces else none
  | some (front, back) =>
    let a ← pieces? false front
    let b ← pieces? true back
    if a.length + b.length ≤ 7 then some (a ++ List.replicate (8 - a.length - b.length) 0 ++ b)
    else none

/-- The length of the run of zeros at the front. -/
def zerosAt (pieces : List Nat) : Nat := (pieces.takeWhile (· == 0)).length

/-- The start and the length of the first longest run of at least two zeros. -/
def longestRun? (pieces : List Nat) : Option (Nat × Nat) :=
  (List.range pieces.length).foldl (fun best i =>
    let n := zerosAt (pieces.drop i)
    if n < 2 then best
    else match best with
      | some (_, m) => if m < n then some (i, n) else best
      | none => some (i, n)) none

/-- A piece in hexadecimal digits, without leading zeros. -/
def renderPiece (n : Nat) : String := String.ofList (Nat.toDigits 16 n)

/-- The address in its shortest form. -/
def render (pieces : List Nat) : String :=
  let join (ps : List Nat) := ":".intercalate (ps.map renderPiece)
  match longestRun? pieces with
  | none => join pieces
  | some (i, n) => join (pieces.take i) ++ "::" ++ join (pieces.drop (i + n))

end FleetAgent.Url.Ipv6
