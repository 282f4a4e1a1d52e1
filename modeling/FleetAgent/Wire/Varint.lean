/-!
# Variable-length integers

An integer is written in groups of seven bits, the least significant group first; every byte but
the last has its highest bit set. A reader takes at most ten bytes and no more than 64 bits.

## Main definitions

* `Varint.encode`: the bytes of an integer, as few as possible.
* `Varint.size`: how many they are, from the number of binary digits.
* `Varint.decode?`: the integer at the front of some bytes, and the bytes after it.

## Main results

* `Varint.length_lt_of_decode?`: a reader takes at least one byte.
-/

namespace FleetAgent.Wire.Varint

/-- The bytes of an integer. -/
def encode (n : Nat) : List UInt8 :=
  if n < 128 then [n.toUInt8] else (n % 128 + 128).toUInt8 :: encode (n / 128)
termination_by n
decreasing_by omega

/-- The number of bytes of an integer: one for each group of seven binary digits, and one for
zero. -/
def size (n : Nat) : Nat := n.log2 / 7 + 1

/-- The greatest number of bytes that a reader takes. -/
def longest : Nat := 10

/-- The integer at the front of the bytes, read from at most `room` of them. -/
def decodeWithin : (room : Nat) → List UInt8 → Option (Nat × List UInt8)
  | 0, _ => none
  | _, [] => none
  | room + 1, b :: bs =>
    if b.toNat < 128 then some (b.toNat, bs)
    else (decodeWithin room bs).map fun (n, rest) => (b.toNat - 128 + 128 * n, rest)

/-- The integer at the front of the bytes, and the bytes after it; nothing if it does not end
within ten bytes, or does not fit into 64 bits. -/
def decode? (bytes : List UInt8) : Option (Nat × List UInt8) :=
  (decodeWithin longest bytes).filter fun r => r.1 < UInt64.size

theorem length_lt_of_decodeWithin {room : Nat} {bytes : List UInt8} {n : Nat}
    {rest : List UInt8} (h : decodeWithin room bytes = some (n, rest)) :
    rest.length < bytes.length := by
  induction bytes generalizing room n rest with
  | nil => cases room <;> simp [decodeWithin] at h
  | cons b bs ih =>
    cases room with
    | zero => simp [decodeWithin] at h
    | succ room =>
      rw [decodeWithin] at h
      split at h
      · obtain ⟨-, rfl⟩ := Prod.mk.inj (Option.some.inj h)
        exact Nat.lt_succ_self _
      · obtain ⟨⟨m, r⟩, hm, he⟩ := Option.map_eq_some_iff.1 h
        obtain ⟨-, rfl⟩ := Prod.mk.inj he
        exact Nat.lt_succ_of_lt (ih hm)

theorem length_lt_of_decode? {bytes : List UInt8} {n : Nat} {rest : List UInt8}
    (h : decode? bytes = some (n, rest)) : rest.length < bytes.length :=
  length_lt_of_decodeWithin (Option.filter_eq_some_iff.1 h).1

end FleetAgent.Wire.Varint
