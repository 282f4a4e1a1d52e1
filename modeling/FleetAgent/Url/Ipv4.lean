import FleetAgent.Url.Percent

/-!
# Numeric addresses of four bytes

A host whose last label is a number is an address of four bytes. It has up to four numbers between
dots, each decimal, octal after a leading zero, or hexadecimal after `0x`; the last number fills the
bytes that are left.

## Main definitions

* `Ipv4.number?`: a number, which may be too large.
* `Ipv4.isNumeric`: whether a host is to be read as such an address.
* `Ipv4.parse?` and `Ipv4.render`: reading and writing.
-/

namespace FleetAgent.Url.Ipv4

/-- The number of digits in a base, if all of them are digits of it. -/
def digits? (base : Nat) (cs : List Char) : Option Nat :=
  cs.foldl (fun n c => do
    let d ← hexValue? c
    if d < base then some ((← n) * base + d) else none) (some 0)

/-- A number, or nothing if the characters are none. -/
def number? : List Char → Option Nat
  | [] => none
  | '0' :: 'x' :: cs | '0' :: 'X' :: cs => digits? 16 cs
  | '0' :: c :: cs => digits? 8 (c :: cs)
  | cs => digits? 10 cs

/-- The labels of a host between its dots, without an empty last one. -/
def labels (host : List Char) : List (List Char) :=
  let all := host.splitOn '.'
  if all.getLast? = some [] then all.dropLast else all

/-- Whether the last label of the host is a number or consists of digits. -/
def isNumeric (host : List Char) : Bool :=
  match (labels host).getLast? with
  | none => false
  | some last => (!last.isEmpty && last.all Char.isDigit) || (number? last).isSome

/-- The address of a host as a number of 32 bits. -/
def parse? (host : List Char) : Option Nat := do
  let parts := labels host
  if 4 < parts.length then none
  let numbers ← parts.mapM number?
  let last ← numbers.getLast?
  let first := numbers.dropLast
  if first.any (255 < ·) || 1 <<< (8 * (4 - first.length)) ≤ last then none
  some (first.zipIdx.foldl (fun n (x, i) => n + x <<< (8 * (3 - i))) last)

/-- The four bytes of an address, written in decimal between dots. -/
def render (address : Nat) : String :=
  ".".intercalate ([24, 16, 8, 0].map fun shift => toString ((address >>> shift) % 256))

end FleetAgent.Url.Ipv4
