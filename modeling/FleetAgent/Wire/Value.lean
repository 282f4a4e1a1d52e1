import FleetAgent.Wire.Key

/-!
# Values of fields

A declared field has one of five kinds of value. An integer, a flag and a directive are written as
variable-length integers; a text and raw bytes with their length in front of them. A value that is
not declared is skipped according to its form alone.

## Main definitions

* `Kind`: the kinds of values, with the type of the values of a kind (`Kind.Value`).
* `Kind.encode`, `Kind.size` and `Kind.decode`: the bytes of a value, how many they are, and the
  value at the front of some bytes.
* `skip`: the bytes after a value that is not declared.

## Main results

* `Kind.length_lt_of_decode` and `length_le_of_skip`: a reader leaves no more than it was given.
-/

namespace FleetAgent.Wire

/-- The kinds of values of declared fields. -/
inductive Kind where
  /-- A text. -/
  | text
  /-- An integer of 64 bits. -/
  | natural
  /-- A flag. -/
  | flag
  /-- A signed integer of 32 bits, one of an open list of choices. -/
  | choice
  /-- Raw bytes. -/
  | bytes
deriving DecidableEq, Repr

namespace Kind

/-- The values of a kind. -/
abbrev Value : Kind → Type
  | text => String
  | natural => UInt64
  | flag => Bool
  | choice => Int32
  | bytes => List UInt8

/-- The form in which values of the kind are written. -/
def wire : Kind → WireType
  | text | bytes => .lengthDelimited
  | natural | flag | choice => .varint

/-- The bytes of a text. -/
def utf8 (s : String) : List UInt8 := s.toUTF8.data.toList

/-- The text of some bytes, if they are the bytes of one. -/
def ofUtf8? (bytes : List UInt8) : Option String := String.fromUTF8? ⟨bytes.toArray⟩

/-- A list of bytes with its length in front of it. -/
def delimited (bytes : List UInt8) : List UInt8 := Varint.encode bytes.length ++ bytes

/-- The integer that stands for a value of a kind that is written as one: a negative choice is
extended to 64 bits. -/
def number : (k : Kind) → k.Value → Nat
  | natural, n => n.toNat
  | flag, b => b.toNat
  | choice, c => c.toInt64.toUInt64.toNat
  | text, _ | bytes, _ => 0

/-- The bytes of a value. -/
def encode : (k : Kind) → k.Value → List UInt8
  | text, s => delimited (utf8 s)
  | bytes, b => delimited b
  | natural, n => Varint.encode (number natural n)
  | flag, b => Varint.encode (number flag b)
  | choice, c => Varint.encode (number choice c)

/-- The number of bytes of a value. -/
def size : (k : Kind) → k.Value → Nat
  | text, s => Varint.size s.utf8ByteSize + s.utf8ByteSize
  | bytes, b => Varint.size b.length + b.length
  | natural, n => Varint.size (number natural n)
  | flag, b => Varint.size (number flag b)
  | choice, c => Varint.size (number choice c)

/-- The bytes at the front that a length stands before, and the bytes after them. -/
def readDelimited (bytes : List UInt8) : Except WireError (List UInt8 × List UInt8) :=
  match readVarint bytes with
  | .error e => .error e
  | .ok (n, rest) =>
    if rest.length < n then .error .underflow else .ok (rest.take n, rest.drop n)

/-- The value that the integer at the front of the bytes stands for, and the bytes after it. -/
def readNumber {α : Type} (value : Nat → α) (bytes : List UInt8) :
    Except WireError (α × List UInt8) :=
  match readVarint bytes with
  | .error e => .error e
  | .ok (n, rest) => .ok (value n, rest)

/-- The value at the front of the bytes, and the bytes after it. A flag is set by every integer but
zero; a choice keeps the lowest 32 bits. -/
def decode : (k : Kind) → List UInt8 → Except WireError (k.Value × List UInt8)
  | text, bs => match readDelimited bs with
    | .error e => .error e
    | .ok (b, rest) => match ofUtf8? b with
      | none => .error .invalidText
      | some s => .ok (s, rest)
  | bytes, bs => readDelimited bs
  | natural, bs => readNumber Nat.toUInt64 bs
  | flag, bs => readNumber (· != 0) bs
  | choice, bs => readNumber (·.toUInt64.toUInt32.toInt32) bs

theorem length_lt_of_readDelimited {bytes b rest : List UInt8}
    (h : readDelimited bytes = .ok (b, rest)) : rest.length < bytes.length := by
  unfold readDelimited at h
  split at h
  · cases h
  · next hv =>
    split at h
    · cases h
    · cases h
      have := length_lt_of_readVarint hv
      simp only [List.length_drop]
      omega

theorem length_lt_of_readNumber {α : Type} {value : Nat → α} {bytes : List UInt8} {a : α}
    {rest : List UInt8} (h : readNumber value bytes = .ok (a, rest)) :
    rest.length < bytes.length := by
  unfold readNumber at h
  split at h
  · cases h
  · next hv =>
    cases h
    exact length_lt_of_readVarint hv

theorem length_lt_of_decode {k : Kind} {bytes : List UInt8} {v : k.Value} {rest : List UInt8}
    (h : k.decode bytes = .ok (v, rest)) : rest.length < bytes.length := by
  cases k with
  | text =>
    rw [decode] at h
    split at h
    · cases h
    · next hd =>
      split at h
      · cases h
      · cases h
        exact length_lt_of_readDelimited hd
  | bytes => exact length_lt_of_readDelimited h
  | natural | flag | choice => exact length_lt_of_readNumber h

end Kind

/-- The bytes after the first `n`. -/
def skipBytes (n : Nat) (bytes : List UInt8) : Except WireError (List UInt8) :=
  if bytes.length < n then .error .underflow else .ok (bytes.drop n)

/-- The bytes after a value that is no group. -/
def skipPlain (wire : WireType) (bytes : List UInt8) : Except WireError (List UInt8) :=
  match wire with
  | .varint => (readVarint bytes).map (·.2)
  | .sixtyFourBit => skipBytes 8 bytes
  | .thirtyTwoBit => skipBytes 4 bytes
  | .lengthDelimited => (Kind.readDelimited bytes).map (·.2)
  | .startGroup => .ok bytes
  | .endGroup => .error .unexpectedEndGroup

theorem length_le_of_skipPlain {wire : WireType} {bytes rest : List UInt8}
    (h : skipPlain wire bytes = .ok rest) : rest.length ≤ bytes.length := by
  cases wire with
  | varint =>
    rw [skipPlain] at h
    cases hv : readVarint bytes with
    | error e => rw [hv] at h; cases h
    | ok r =>
      rw [hv] at h
      cases h
      exact Nat.le_of_lt (length_lt_of_readVarint hv)
  | sixtyFourBit =>
    rw [skipPlain, skipBytes] at h
    split at h
    · cases h
    · cases h; simp
  | thirtyTwoBit =>
    rw [skipPlain, skipBytes] at h
    split at h
    · cases h
    · cases h; simp
  | lengthDelimited =>
    rw [skipPlain] at h
    cases hv : Kind.readDelimited bytes with
    | error e => rw [hv] at h; cases h
    | ok r =>
      rw [hv] at h
      cases h
      exact Nat.le_of_lt (Kind.length_lt_of_readDelimited hv)
  | startGroup => cases h; exact Nat.le_refl _
  | endGroup => cases h

/-- How deeply groups may be nested. -/
def greatestDepth : Nat := 100

/-- The bytes after the innermost of the open groups and all those around it. A group ends with a
key of its own number. -/
def skipGroups : (opened : List Nat) → List UInt8 → Except WireError (List UInt8)
  | [], bytes => .ok bytes
  | number :: outer, bytes =>
    match hk : Key.decode bytes with
    | .error e => .error e
    | .ok (key, rest) =>
      have : rest.length < bytes.length := Key.length_lt_of_decode hk
      if key.wire = .endGroup then
        if key.number = number then skipGroups outer rest else .error .unexpectedEndGroup
      else if greatestDepth ≤ outer.length + 1 then .error .tooDeep
      else match hs : skipPlain key.wire rest with
        | .error e => .error e
        | .ok rest' =>
          have : rest'.length ≤ rest.length := length_le_of_skipPlain hs
          skipGroups
            (if key.wire = .startGroup then key.number :: number :: outer else number :: outer)
            rest'
termination_by _ bytes => bytes.length

/-- The bytes after a value that is not declared. -/
def skip (key : Key) (bytes : List UInt8) : Except WireError (List UInt8) :=
  if key.wire = .startGroup then skipGroups [key.number] bytes else skipPlain key.wire bytes

theorem length_le_of_skipGroups {opened : List Nat} {bytes rest : List UInt8}
    (h : skipGroups opened bytes = .ok rest) : rest.length ≤ bytes.length := by
  fun_induction skipGroups opened bytes with
  | case1 => cases h; exact Nat.le_refl _
  | case2 => cases h
  | case3 _ _ _ _ hk _ _ ih =>
    exact Nat.le_trans (ih h) (Nat.le_of_lt (Key.length_lt_of_decode hk))
  | case4 => cases h
  | case5 => cases h
  | case6 => cases h
  | case7 _ _ _ _ _ hk _ _ _ _ _ hle ih =>
    exact Nat.le_trans (ih h) (Nat.le_trans hle (Nat.le_of_lt (Key.length_lt_of_decode hk)))

theorem length_le_of_skip {key : Key} {bytes rest : List UInt8}
    (h : skip key bytes = .ok rest) : rest.length ≤ bytes.length := by
  unfold skip at h
  split at h
  · exact length_le_of_skipGroups h
  · exact length_le_of_skipPlain h

end FleetAgent.Wire
