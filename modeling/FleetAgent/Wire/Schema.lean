import FleetAgent.Wire.Value

/-!
# Messages

A message type is described by its name and its declared fields: the number, the name and the kind
of each, and how it is read from and stored into a message. A field that has its default value is
not written. A reader starts from the message of defaults and stores each declared value that it
finds, so the last one of a field counts; it skips all that is not declared.

## Main definitions

* `Field`, `Schema`: the description of a message type.
* `Schema.encode` and `Schema.size`: the bytes of a message, and how many they are.
* `Schema.decode`: the message of some bytes.
* `DecodeError`: why bytes are no message, with the declared field in which the fault lies.
-/

namespace FleetAgent.Wire

/-- A declared field of messages of type `M`. -/
structure Field (M : Type) where
  /-- The number of the field. -/
  number : Nat
  /-- The name of the field. -/
  name : String
  /-- The kind of its values. -/
  kind : Kind
  /-- The value that is to be written, or nothing for the default value. -/
  get : M → Option kind.Value
  /-- The message with the value stored. -/
  set : M → kind.Value → M

/-- The description of messages of type `M`. -/
structure Schema (M : Type) where
  /-- The name of the message type. -/
  name : String
  /-- The message in which every field has its default value. -/
  default : M
  /-- The declared fields, in the order in which they are written. -/
  fields : List (Field M)

/-- Why bytes are no message. -/
structure DecodeError where
  /-- The message type and the declared field in which the fault lies, if it lies in one. -/
  path : Option (String × String)
  /-- The fault. -/
  cause : WireError
deriving DecidableEq, Repr

/-- The text of the error. -/
def DecodeError.message (e : DecodeError) : String :=
  "failed to decode Protobuf message: " ++
    (match e.path with
      | some (message, field) => message ++ "." ++ field ++ ": "
      | none => "") ++
    e.cause.message

variable {M : Type}

namespace Field

/-- The key of the field. -/
def key (f : Field M) : Key := ⟨f.number, f.kind.wire⟩

/-- The bytes of the field of a message. -/
def encode (f : Field M) (m : M) : List UInt8 :=
  match f.get m with
  | some v => f.key.encode ++ f.kind.encode v
  | none => []

/-- The number of bytes of the field of a message. -/
def size (f : Field M) (m : M) : Nat :=
  match f.get m with
  | some v => Varint.size f.key.code + f.kind.size v
  | none => 0

/-- The message with the value at the front of the bytes stored, and the bytes after it. -/
def merge (f : Field M) (m : M) (wire : WireType) (bytes : List UInt8) :
    Except WireError (M × List UInt8) :=
  if wire = f.kind.wire then
    match f.kind.decode bytes with
    | .error e => .error e
    | .ok (v, rest) => .ok (f.set m v, rest)
  else .error (.unexpectedWireType wire f.kind.wire)

theorem length_lt_of_merge {f : Field M} {m m' : M} {wire : WireType} {bytes rest : List UInt8}
    (h : f.merge m wire bytes = .ok (m', rest)) : rest.length < bytes.length := by
  unfold merge at h
  split at h
  · split at h
    · cases h
    · next hd =>
      cases h
      exact Kind.length_lt_of_decode hd
  · cases h

end Field

namespace Schema

/-- The bytes of a message. -/
def encode (s : Schema M) (m : M) : List UInt8 := s.fields.flatMap (·.encode m)

/-- The number of bytes of a message. -/
def size (s : Schema M) (m : M) : Nat := s.fields.foldr (fun f n => f.size m + n) 0

/-- The declared field of a number. -/
def field? (s : Schema M) (number : Nat) : Option (Field M) :=
  s.fields.find? (·.number == number)

/-- The message after the value at the front of the bytes, and the bytes after it. -/
def mergeRecord (s : Schema M) (m : M) (key : Key) (bytes : List UInt8) :
    Except DecodeError (M × List UInt8) :=
  match s.field? key.number with
  | some f => match f.merge m key.wire bytes with
    | .error e => .error ⟨some (s.name, f.name), e⟩
    | .ok r => .ok r
  | none => match skip key bytes with
    | .error e => .error ⟨none, e⟩
    | .ok rest => .ok (m, rest)

theorem length_le_of_mergeRecord {s : Schema M} {m m' : M} {key : Key}
    {bytes rest : List UInt8} (h : s.mergeRecord m key bytes = .ok (m', rest)) :
    rest.length ≤ bytes.length := by
  unfold mergeRecord at h
  split at h
  · split at h
    · cases h
    · next hm =>
      cases h
      exact Nat.le_of_lt (Field.length_lt_of_merge hm)
  · split at h
    · cases h
    · next hs =>
      cases h
      exact length_le_of_skip hs

/-- The message after all records of the bytes. -/
def merge (s : Schema M) (m : M) (bytes : List UInt8) : Except DecodeError M :=
  if bytes.isEmpty then .ok m
  else match hk : Key.decode bytes with
    | .error e => .error ⟨none, e⟩
    | .ok (key, rest) => match hm : s.mergeRecord m key rest with
      | .error e => .error e
      | .ok (m', rest') =>
        have : rest'.length < bytes.length :=
          Nat.lt_of_le_of_lt (length_le_of_mergeRecord hm) (Key.length_lt_of_decode hk)
        s.merge m' rest'
termination_by bytes.length

/-- The message of the bytes. -/
def decode (s : Schema M) (bytes : List UInt8) : Except DecodeError M := s.merge s.default bytes

end Schema

end FleetAgent.Wire
