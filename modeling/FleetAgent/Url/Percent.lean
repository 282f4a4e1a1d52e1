/-!
# Percent encoding

A byte that may not stand in some part of an address is written as a percent sign and two
hexadecimal digits in upper case. Which bytes these are depends on the part; control characters and
bytes outside ASCII are always among them.

## Main definitions

* `EncodeSet`: the characters that are encoded in a part, with the sets of the parts of an address.
* `percentEncode`, `percentDecode`: writing and reading.
-/

namespace FleetAgent.Url

/-- The printable ASCII characters that are encoded in a part of an address. -/
abbrev EncodeSet := List Char

namespace EncodeSet

/-- The characters encoded in a fragment. -/
def fragment : EncodeSet := [' ', '"', '<', '>', '`']

/-- The characters encoded in a path. -/
def path : EncodeSet := fragment ++ ['#', '?', '\x7b', '\x7d']

/-- The characters encoded in a user name and a password. -/
def userinfo : EncodeSet := path ++ ['/', ':', ';', '=', '@', '[', '\\', ']', '^', '|']

/-- The characters encoded in a query. -/
def query : EncodeSet := [' ', '"', '#', '<', '>', '\'']

end EncodeSet

/-- The digit of a number below 16, in upper case. -/
def hexDigitUpper (n : Nat) : Char := (Nat.digitChar n).toUpper

/-- One byte in percent encoding. -/
def percentByte (b : UInt8) : List Char :=
  ['%', hexDigitUpper (b.toNat / 16), hexDigitUpper (b.toNat % 16)]

/-- Whether the character is encoded: a control, a character outside ASCII, or one of the set. -/
def EncodeSet.encodes (set : EncodeSet) (c : Char) : Bool :=
  c.toNat < 0x20 || 0x7E < c.toNat || set.contains c

/-- One character in percent encoding, byte by byte, if the set asks for it. -/
def percentEncodeChar (set : EncodeSet) (c : Char) : List Char :=
  if set.encodes c then c.toString.toUTF8.data.toList.flatMap percentByte else [c]

/-- The characters in percent encoding. -/
def percentEncode (set : EncodeSet) (cs : List Char) : List Char :=
  cs.flatMap (percentEncodeChar set)

/-- The value of a hexadecimal digit. -/
def hexValue? (c : Char) : Option Nat :=
  if '0' ≤ c ∧ c ≤ '9' then some (c.toNat - '0'.toNat)
  else if 'a' ≤ c ∧ c ≤ 'f' then some (c.toNat - 'a'.toNat + 10)
  else if 'A' ≤ c ∧ c ≤ 'F' then some (c.toNat - 'A'.toNat + 10)
  else none

/-- The bytes that the characters stand for: a percent sign with two hexadecimal digits stands for
a byte, and everything else for itself. -/
def percentDecode : List Char → List UInt8
  | [] => []
  | '%' :: a :: b :: cs => match hexValue? a, hexValue? b with
    | some x, some y => (x * 16 + y).toUInt8 :: percentDecode cs
    | _, _ => '%'.toNat.toUInt8 :: percentDecode (a :: b :: cs)
  | c :: cs => c.toString.toUTF8.data.toList ++ percentDecode cs

end FleetAgent.Url
