import FleetAgent.Wire.Varint
import Mathlib.Data.Nat.Log
import Mathlib.Tactic.Common

/-!
# What bytes spell an integer

An integer has one shortest spelling, the one that is written, and longer ones that end in groups of
zeros. A reader takes every spelling within its limits, and stops where the spelling ends: what
comes after it is left as it is.

## Main definitions

* `Varint.Spells`: the bytes spell an integer.
* `Varint.Denotes`: they do so within the limits of a reader.

## Main results

* `Varint.decode?_eq_some_iff`: a reader takes exactly the spellings within the limits.
* `Varint.denotes_encode`: an integer is written in a spelling that can be read.
* `Varint.length_encode`: how long the spelling is that is written.
-/

namespace FleetAgent.Wire.Varint

/-- The bytes spell the integer: every byte but the last has its highest bit set, and their other
bits are the groups of seven bits of the integer, the least significant group first. -/
inductive Spells : List UInt8 → Nat → Prop
  | last (b : UInt8) (h : b.toNat < 128) : Spells [b] b.toNat
  | more {bytes : List UInt8} {n : Nat} (b : UInt8) (hb : 128 ≤ b.toNat) (h : Spells bytes n) :
      Spells (b :: bytes) (b.toNat - 128 + 128 * n)

/-- The bytes spell the integer, they are no more than a reader takes, and the integer fits into 64
bits. -/
structure Denotes (bytes : List UInt8) (n : Nat) : Prop where
  spells : Spells bytes n
  length_le : bytes.length ≤ longest
  lt : n < UInt64.size

variable {bytes rest : List UInt8} {n room : Nat}

/-! ### Reading -/

theorem decodeWithin_append (h : Spells bytes n) (hlen : bytes.length ≤ room) (rest : List UInt8) :
    decodeWithin room (bytes ++ rest) = some (n, rest) := by
  induction h generalizing room with
  | last b hb =>
    obtain ⟨room, rfl⟩ := Nat.exists_eq_add_of_le' hlen
    exact if_pos hb
  | more b hb _ ih =>
    obtain ⟨room, rfl⟩ := Nat.exists_eq_add_of_le' (Nat.le_trans (Nat.succ_pos _) hlen)
    rw [List.cons_append, decodeWithin, if_neg (Nat.not_lt_of_le hb),
      ih (Nat.le_of_succ_le_succ hlen)]
    rfl

theorem spells_of_decodeWithin (h : decodeWithin room bytes = some (n, rest)) :
    ∃ front, bytes = front ++ rest ∧ Spells front n ∧ front.length ≤ room := by
  induction bytes generalizing room n with
  | nil => cases room <;> cases h
  | cons b bs ih =>
    cases room with
    | zero => cases h
    | succ room =>
      rw [decodeWithin] at h
      split_ifs at h with hb
      · obtain ⟨rfl, rfl⟩ := Prod.mk.inj (Option.some.inj h)
        exact ⟨[b], rfl, .last b hb, Nat.succ_le_succ (Nat.zero_le _)⟩
      · obtain ⟨⟨m, r⟩, hm, heq⟩ := Option.map_eq_some_iff.mp h
        obtain ⟨rfl, rfl⟩ := Prod.mk.inj heq
        obtain ⟨front, rfl, hspells, hlen⟩ := ih hm
        exact ⟨b :: front, rfl, .more b (Nat.le_of_not_lt hb) hspells, Nat.succ_le_succ hlen⟩

/-- A reader takes exactly the spellings within its limits, and leaves what comes after them. -/
theorem decode?_eq_some_iff :
    decode? bytes = some (n, rest) ↔ ∃ front, bytes = front ++ rest ∧ Denotes front n := by
  rw [decode?, Option.filter_eq_some_iff]
  constructor
  · rintro ⟨h, hn⟩
    obtain ⟨front, rfl, hspells, hlen⟩ := spells_of_decodeWithin h
    exact ⟨front, rfl, hspells, hlen, of_decide_eq_true hn⟩
  · rintro ⟨front, rfl, h⟩
    exact ⟨decodeWithin_append h.spells h.length_le rest, decide_eq_true h.lt⟩

/-! ### Writing -/

theorem toNat_toUInt8 (h : n < 256) : n.toUInt8.toNat = n := by
  simp [Nat.mod_eq_of_lt h]

theorem spells_encode (n : Nat) : Spells (encode n) n := by
  fun_induction encode n with
  | case1 n h =>
    have hbyte : n.toUInt8.toNat = n := toNat_toUInt8 (by omega)
    have hlast := Spells.last n.toUInt8 (hbyte.symm ▸ h)
    rwa [hbyte] at hlast
  | case2 n h ih =>
    have hbyte : (n % 128 + 128).toUInt8.toNat = n % 128 + 128 := toNat_toUInt8 (by omega)
    have hmore := Spells.more (n % 128 + 128).toUInt8 (by omega) ih
    rwa [hbyte, Nat.add_sub_cancel, Nat.mod_add_div] at hmore

/-- The spelling that is written has one byte for each group of seven binary digits. -/
theorem length_encode (n : Nat) : (encode n).length = size n := by
  fun_induction encode n with
  | case1 n h =>
    have hlog : n.log2 < 7 := by
      rw [Nat.log2_eq_log_two]
      exact Nat.log_lt_of_lt_pow' (by decide) h
    rw [size, Nat.div_eq_of_lt hlog]
    rfl
  | case2 n h ih =>
    have hlog : n.log2 = (n / 128).log2 + 7 := by
      have hle : 7 ≤ Nat.log 2 n := (Nat.le_log_iff_pow_le (by decide) (by omega)).mpr (by omega)
      rw [Nat.log2_eq_log_two, Nat.log2_eq_log_two, show n / 128 = n / 2 ^ 7 from rfl,
        Nat.log_div_base_pow, Nat.sub_add_cancel hle]
    rw [List.length_cons, ih, size, size, hlog, Nat.add_div_right _ (by decide)]

theorem length_encode_le (h : n < UInt64.size) : (encode n).length ≤ longest := by
  have hlog : n.log2 < 64 := by
    rw [Nat.log2_eq_log_two]
    exact Nat.log_lt_of_lt_pow' (by decide) h
  rw [length_encode, size, longest]
  omega

/-- An integer of 64 bits is written so that it can be read. -/
theorem denotes_encode (h : n < UInt64.size) : Denotes (encode n) n :=
  ⟨spells_encode n, length_encode_le h, h⟩

end FleetAgent.Wire.Varint
