import FleetAgent.Wire.Varint

/-!
# Keys of records

A message is a sequence of records. Each starts with a key, an integer that holds the number of
the field and the form in which its value is written.

## Main definitions

* `WireType`: the forms of values.
* `WireError`: why bytes cannot be read.
* `Key`: the number of a field and the form of its value; `Key.encode` and `Key.decode`.

## Main results

* `Key.length_lt_of_decode`: a key takes at least one byte.
-/

namespace FleetAgent.Wire

/-- The form in which a value is written. -/
inductive WireType where
  /-- A variable-length integer. -/
  | varint
  /-- Eight bytes. -/
  | sixtyFourBit
  /-- A length and as many bytes. -/
  | lengthDelimited
  /-- The start of a group of records. -/
  | startGroup
  /-- The end of a group of records. -/
  | endGroup
  /-- Four bytes. -/
  | thirtyTwoBit
deriving DecidableEq, Inhabited, Repr

namespace WireType

/-- The code of the form in a key. -/
def code : WireType → Nat
  | varint => 0
  | sixtyFourBit => 1
  | lengthDelimited => 2
  | startGroup => 3
  | endGroup => 4
  | thirtyTwoBit => 5

/-- The form of a code. -/
def ofCode? : Nat → Option WireType
  | 0 => some varint
  | 1 => some sixtyFourBit
  | 2 => some lengthDelimited
  | 3 => some startGroup
  | 4 => some endGroup
  | 5 => some thirtyTwoBit
  | _ => none

/-- The name of the form. -/
def name : WireType → String
  | varint => "Varint"
  | sixtyFourBit => "SixtyFourBit"
  | lengthDelimited => "LengthDelimited"
  | startGroup => "StartGroup"
  | endGroup => "EndGroup"
  | thirtyTwoBit => "ThirtyTwoBit"

end WireType

/-- Why bytes cannot be read as a message. -/
inductive WireError where
  /-- An integer does not end, or does not fit into 64 bits. -/
  | invalidVarint
  /-- A key does not fit into 32 bits. -/
  | invalidKey (key : Nat)
  /-- No form has the code. -/
  | invalidWireType (code : Nat)
  /-- No field has the number. -/
  | invalidNumber (number : Nat)
  /-- The value of a declared field has another form. -/
  | unexpectedWireType (got expected : WireType)
  /-- A value is longer than what is left. -/
  | underflow
  /-- A group ends that was not started last. -/
  | unexpectedEndGroup
  /-- A text is not valid. -/
  | invalidText
  /-- Groups are nested too deeply. -/
  | tooDeep
deriving DecidableEq, Repr

/-- The text of the error. -/
def WireError.message : WireError → String
  | invalidVarint => "invalid varint"
  | invalidKey key => "invalid key value: " ++ toString key
  | invalidWireType code => "invalid wire type value: " ++ toString code
  | invalidNumber number => "invalid tag value: " ++ toString number
  | unexpectedWireType got expected =>
    "invalid wire type: " ++ got.name ++ " (expected " ++ expected.name ++ ")"
  | underflow => "buffer underflow"
  | unexpectedEndGroup => "unexpected end group tag"
  | invalidText => "invalid string value: data is not UTF-8 encoded"
  | tooDeep => "recursion limit reached"

/-- The integer at the front of the bytes. -/
def readVarint (bytes : List UInt8) : Except WireError (Nat × List UInt8) :=
  match Varint.decode? bytes with
  | some r => .ok r
  | none => .error .invalidVarint

theorem length_lt_of_readVarint {bytes : List UInt8} {n : Nat} {rest : List UInt8}
    (h : readVarint bytes = .ok (n, rest)) : rest.length < bytes.length := by
  unfold readVarint at h
  split at h
  · next hd =>
    cases h
    exact Varint.length_lt_of_decode? hd
  · cases h

/-- The number of a field and the form of its value. -/
structure Key where
  /-- The number of the field. -/
  number : Nat
  /-- The form of the value. -/
  wire : WireType
deriving DecidableEq, Repr

namespace Key

/-- The integer that stands for the key. -/
def code (k : Key) : Nat := k.number * 8 + k.wire.code

/-- The key that an integer stands for. The integer is checked for its size, then for the form,
then for the number. -/
def ofCode (n : Nat) : Except WireError Key :=
  if UInt32.size ≤ n then .error (.invalidKey n)
  else match WireType.ofCode? (n % 8) with
    | none => .error (.invalidWireType (n % 8))
    | some wire => if n / 8 = 0 then .error (.invalidNumber 0) else .ok ⟨n / 8, wire⟩

/-- The bytes of the key. -/
def encode (k : Key) : List UInt8 := Varint.encode k.code

/-- The key at the front of the bytes. -/
def decode (bytes : List UInt8) : Except WireError (Key × List UInt8) :=
  match readVarint bytes with
  | .error e => .error e
  | .ok (n, rest) => match ofCode n with
    | .error e => .error e
    | .ok k => .ok (k, rest)

theorem length_lt_of_decode {bytes : List UInt8} {k : Key} {rest : List UInt8}
    (h : decode bytes = .ok (k, rest)) : rest.length < bytes.length := by
  unfold decode at h
  split at h
  · cases h
  · next hv =>
    split at h
    · cases h
    · cases h
      exact length_lt_of_readVarint hv

end Key

end FleetAgent.Wire
