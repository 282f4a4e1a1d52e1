import FleetAgent.Proofs.Wire.Varint
import FleetAgent.Wire.Schema

/-!
# The records of a message

The grammar of messages, apart from any reader: a message is a sequence of records, each a key and a
value of the form that the key tells. The value of a declared field is one of its kind. A value of a
field that is not declared may have any form; it may also be a group, which holds records of its own
up to the key that ends it, whatever their numbers, and groups among them, as deep as a reader
follows.

A reader takes exactly what the grammar has. This is said for each part in the same way: it reads a
value from the front of some bytes, with a rest, exactly if the front without the rest is a value in
the grammar.

## Main definitions

* `Key.Spells`, `Kind.Spells`, `WireType.Spells`: the bytes are a key, a value of a kind, a value of
  a form.
* `Group`: the bytes are the inside of a group, with the key that ends it.
* `Key.Bears`: the bytes are a value after the key, of a field that need not be declared.
* `Datum`: what a record says of a declared field.
* `Schema.Record`, `Schema.Records`: the bytes are a record, or a sequence of records, with what
  they say of the declared fields.
* `Schema.store`: the message in which one more value is stored.

## Main results

* `Key.decode_eq_ok_iff`, `Kind.decode_eq_ok_iff`, `skip_eq_ok_iff`: readers take what the grammar
  has.
* `Schema.merge_eq_ok_iff`: what is read from a sequence of records.
-/

namespace FleetAgent.Wire

variable {bs rest : List UInt8}

theorem readVarint_eq_ok_iff {n : Nat} :
    readVarint bs = .ok (n, rest) ↔ ∃ front, bs = front ++ rest ∧ Varint.Denotes front n := by
  rw [← Varint.decode?_eq_some_iff, readVarint]
  cases Varint.decode? bs with
  | none => exact iff_of_false nofun nofun
  | some r =>
    exact ⟨fun h => congrArg some (Except.ok.inj h),
      fun h => congrArg Except.ok (Option.some.inj h)⟩

/-! ### Keys -/

/-- The bytes are the key: an integer of 32 bits that holds its number and its form. No field has
the number zero. -/
structure Key.Spells (k : Key) (bytes : List UInt8) : Prop where
  denotes : Varint.Denotes bytes k.code
  lt : k.code < UInt32.size
  pos : 0 < k.number

theorem WireType.ofCode?_eq_some_iff {n : Nat} {w : WireType} :
    ofCode? n = some w ↔ n = w.code := by
  constructor
  · intro h
    unfold ofCode? at h
    split at h <;> cases h <;> rfl
  · rintro rfl
    cases w <;> rfl

theorem WireType.code_lt (w : WireType) : w.code < 8 := by
  cases w <;> decide

theorem Key.ofCode_eq_ok_iff {n : Nat} {k : Key} :
    ofCode n = .ok k ↔ n = k.code ∧ n < UInt32.size ∧ 0 < k.number := by
  obtain ⟨number, wire⟩ := k
  have hcode := wire.code_lt
  rw [ofCode, code]
  constructor
  · intro h
    split at h
    · cases h
    · next hlt =>
      split at h
      · cases h
      · next w hw =>
        split at h
        · cases h
        · next hne =>
          obtain ⟨rfl, rfl⟩ := Key.mk.inj (Except.ok.inj h)
          have hmod := WireType.ofCode?_eq_some_iff.mp hw
          exact ⟨by rw [← hmod]; exact (Nat.div_add_mod' n 8).symm, Nat.lt_of_not_le hlt,
            Nat.pos_of_ne_zero hne⟩
  · rintro ⟨rfl, hlt, hpos⟩
    have hmod : WireType.ofCode? ((number * 8 + wire.code) % 8) = some wire :=
      WireType.ofCode?_eq_some_iff.mpr (by omega)
    have hdiv : (number * 8 + wire.code) / 8 = number := by omega
    simp only [if_neg (Nat.not_le_of_lt hlt), hmod, hdiv, if_neg (Nat.ne_of_gt hpos)]

theorem Key.decode_eq_ok_iff {k : Key} :
    decode bs = .ok (k, rest) ↔ ∃ front, bs = front ++ rest ∧ k.Spells front := by
  constructor
  · intro h
    rw [decode] at h
    split at h
    · cases h
    · next n r hr =>
      split at h
      · cases h
      · next k' hk =>
        obtain ⟨rfl, rfl⟩ := Prod.mk.inj (Except.ok.inj h)
        obtain ⟨front, rfl, hfront⟩ := readVarint_eq_ok_iff.mp hr
        obtain ⟨rfl, hlt, hpos⟩ := ofCode_eq_ok_iff.mp hk
        exact ⟨front, rfl, hfront, hlt, hpos⟩
  · rintro ⟨front, rfl, h⟩
    simp only [decode, readVarint_eq_ok_iff.mpr ⟨front, rfl, h.denotes⟩,
      ofCode_eq_ok_iff.mpr ⟨rfl, h.lt, h.pos⟩]

/-! ### Values of a kind -/

namespace Kind

/-- The bytes are the payload with its length in front of it. -/
def Delimits (bytes payload : List UInt8) : Prop :=
  ∃ front, bytes = front ++ payload ∧ Varint.Denotes front payload.length

/-- The bytes are the value. An integer other than zero is a flag that is set; of the integer that
is a choice only the lowest 32 bits count, with the highest of them as the sign. -/
def Spells : (k : Kind) → List UInt8 → k.Value → Prop
  | text, bs, s => Delimits bs (utf8 s)
  | bytes, bs, b => Delimits bs b
  | natural, bs, n => Varint.Denotes bs n.toNat
  | flag, bs, b => ∃ n, Varint.Denotes bs n ∧ b = decide (n ≠ 0)
  | choice, bs, c => ∃ n : Nat, Varint.Denotes bs n ∧ c.toInt = (n : Int).bmod UInt32.size

theorem readDelimited_eq_ok_iff {payload : List UInt8} :
    readDelimited bs = .ok (payload, rest) ↔
      ∃ front, bs = front ++ rest ∧ Delimits front payload := by
  constructor
  · intro h
    rw [readDelimited] at h
    split at h
    · cases h
    · next n r hr =>
      split at h
      · cases h
      · next hlen =>
        obtain ⟨rfl, rfl⟩ := Prod.mk.inj (Except.ok.inj h)
        obtain ⟨front, rfl, hfront⟩ := readVarint_eq_ok_iff.mp hr
        refine ⟨front ++ r.take n, ?_, front, rfl, ?_⟩
        · rw [List.append_assoc, List.take_append_drop]
        · rwa [List.length_take_of_le (Nat.le_of_not_lt hlen)]
  · rintro ⟨_, rfl, front, rfl, h⟩
    rw [List.append_assoc, readDelimited, readVarint_eq_ok_iff.mpr ⟨front, rfl, h⟩]
    simp

theorem readNumber_eq_ok_iff {α : Type} {value : Nat → α} {a : α} :
    readNumber value bs = .ok (a, rest) ↔
      ∃ front, bs = front ++ rest ∧ ∃ n, Varint.Denotes front n ∧ a = value n := by
  constructor
  · intro h
    rw [readNumber] at h
    split at h
    · cases h
    · next n r hr =>
      obtain ⟨rfl, rfl⟩ := Prod.mk.inj (Except.ok.inj h)
      obtain ⟨front, rfl, hfront⟩ := readVarint_eq_ok_iff.mp hr
      exact ⟨front, rfl, n, hfront, rfl⟩
  · rintro ⟨front, rfl, n, h, rfl⟩
    simp only [readNumber, readVarint_eq_ok_iff.mpr ⟨front, rfl, h⟩]

theorem ofUtf8?_eq_some_iff {s : String} : ofUtf8? bs = some s ↔ bs = utf8 s := by
  constructor
  · intro h
    rw [ofUtf8?, String.fromUTF8?] at h
    split_ifs at h with hvalid
    obtain rfl := Option.some.inj h
    rfl
  · rintro rfl
    exact dif_pos s.isValidUTF8

/-- The choice that an integer stands for. -/
theorem eq_choice_iff {n : Nat} (hn : n < UInt64.size) {c : Int32} :
    c = n.toUInt64.toUInt32.toInt32 ↔ c.toInt = (n : Int).bmod UInt32.size := by
  have hvalue : n.toUInt64.toUInt32.toInt32.toInt = (n : Int).bmod UInt32.size := by
    have hnat : n.toUInt64.toUInt32.toNat = n % UInt32.size := by
      rw [UInt64.toNat_toUInt32, UInt64.toNat_ofNat_of_lt' hn]
    change n.toUInt64.toUInt32.toBitVec.toInt = _
    rw [BitVec.toInt_eq_toNat_bmod]
    change ((n.toUInt64.toUInt32.toNat : Nat) : Int).bmod UInt32.size = _
    rw [hnat, Int.natCast_emod]
    exact Int.emod_bmod _ _
  rw [← hvalue, Int32.toInt_inj]

theorem decode_eq_ok_iff {k : Kind} {v : k.Value} :
    k.decode bs = .ok (v, rest) ↔ ∃ front, bs = front ++ rest ∧ k.Spells front v := by
  cases k with
  | text =>
    rw [decode]
    constructor
    · intro h
      split at h
      · cases h
      · next b r hr =>
        split at h
        · cases h
        · next s hs =>
          obtain ⟨rfl, rfl⟩ := Prod.mk.inj (Except.ok.inj h)
          obtain rfl := ofUtf8?_eq_some_iff.mp hs
          exact readDelimited_eq_ok_iff.mp hr
    · intro h
      simp only [readDelimited_eq_ok_iff.mpr h, ofUtf8?_eq_some_iff.mpr rfl]
  | bytes =>
    rw [decode]
    exact readDelimited_eq_ok_iff
  | natural =>
    refine readNumber_eq_ok_iff.trans (exists_congr fun front => and_congr_right fun _ => ?_)
    constructor
    · rintro ⟨n, h, rfl⟩
      have hn : n.toUInt64.toNat = n := UInt64.toNat_ofNat_of_lt' h.lt
      rwa [Spells, hn]
    · intro h
      exact ⟨v.toNat, h, (UInt64.ofNat_toNat (x := v)).symm⟩
  | flag =>
    refine readNumber_eq_ok_iff.trans (exists_congr fun front => and_congr_right fun _ =>
      exists_congr fun n => and_congr_right fun _ => ?_)
    rw [show (n != 0) = decide (n ≠ 0) by cases n <;> rfl]
  | choice =>
    refine readNumber_eq_ok_iff.trans (exists_congr fun front => and_congr_right fun _ =>
      exists_congr fun n => and_congr_right fun h => ?_)
    exact eq_choice_iff h.lt

end Kind

/-! ### Values that are not declared -/

/-- The bytes are a value of the form, which is no group. -/
def WireType.Spells : WireType → List UInt8 → Prop
  | .varint, bs => ∃ n, Varint.Denotes bs n
  | .sixtyFourBit, bs => bs.length = 8
  | .thirtyTwoBit, bs => bs.length = 4
  | .lengthDelimited, bs => ∃ payload, Kind.Delimits bs payload
  | .startGroup, _ | .endGroup, _ => False

theorem skipBytes_eq_ok_iff {n : Nat} :
    skipBytes n bs = .ok rest ↔ ∃ front, bs = front ++ rest ∧ front.length = n := by
  constructor
  · intro h
    rw [skipBytes] at h
    split_ifs at h with hlen
    obtain rfl := Except.ok.inj h
    exact ⟨bs.take n, (List.take_append_drop n bs).symm,
      List.length_take_of_le (Nat.le_of_not_lt hlen)⟩
  · rintro ⟨front, rfl, rfl⟩
    simp [skipBytes]

/-- What is left of a value that is read and not kept. -/
theorem map_snd_eq_ok_iff {α ε : Type} {r : Except ε (α × List UInt8)} :
    r.map (·.2) = .ok rest ↔ ∃ a, r = .ok (a, rest) := by
  cases r with
  | error e => exact iff_of_false nofun nofun
  | ok r => simp [Except.map, Prod.ext_iff]

theorem skipPlain_eq_ok_iff {w : WireType} (hw : w ≠ .startGroup) :
    skipPlain w bs = .ok rest ↔ ∃ front, bs = front ++ rest ∧ w.Spells front := by
  have hcomm {α : Type} {p : List UInt8 → α → Prop} :
      (∃ a front, bs = front ++ rest ∧ p front a) ↔
        ∃ front, bs = front ++ rest ∧ ∃ a, p front a := by
    rw [exists_comm]
    simp only [exists_and_left]
  cases w with
  | varint =>
    rw [skipPlain, map_snd_eq_ok_iff]
    simp only [readVarint_eq_ok_iff]
    exact hcomm
  | lengthDelimited =>
    rw [skipPlain, map_snd_eq_ok_iff]
    simp only [Kind.readDelimited_eq_ok_iff]
    exact hcomm
  | sixtyFourBit | thirtyTwoBit => exact skipBytes_eq_ok_iff
  | startGroup => exact absurd rfl hw
  | endGroup =>
    constructor
    · intro h
      cases h
    · rintro ⟨_, _, h⟩
      exact False.elim h

/-- The bytes are the inside of a group of the number: records of any numbers, and at the end the
key that ends the group. In the records there may be groups as well, each of which takes one more of
the levels; where no level is left, there are no records. -/
inductive Group : (levels number : Nat) → List UInt8 → Prop
  | close {levels number : Nat} {front : List UInt8} (hk : Key.Spells ⟨number, .endGroup⟩ front) :
      Group levels number front
  | plain {levels number : Nat} {key : Key} {front value more : List UInt8} (hk : key.Spells front)
      (hv : key.wire.Spells value) (h : Group (levels + 1) number more) :
      Group (levels + 1) number (front ++ (value ++ more))
  | nested {levels number inner : Nat} {front body more : List UInt8}
      (hk : Key.Spells ⟨inner, .startGroup⟩ front) (hb : Group levels inner body)
      (h : Group (levels + 1) number more) : Group (levels + 1) number (front ++ (body ++ more))

/-- The bytes are a value after the key, of a field that need not be declared. -/
def Key.Bears (k : Key) (bs : List UInt8) : Prop :=
  if k.wire = .startGroup then Group (greatestDepth - 1) k.number bs else k.wire.Spells bs

variable {number : Nat} {outer : List Nat} {key : Key} {rest' : List UInt8}

theorem skipGroups_close (hk : Key.decode bs = .ok (⟨number, .endGroup⟩, rest)) :
    skipGroups (number :: outer) bs = skipGroups outer rest := by
  rw [skipGroups]
  split
  · next h => cases hk.symm.trans h
  · next h =>
    cases hk.symm.trans h
    simp

theorem skipGroups_record (hk : Key.decode bs = .ok (key, rest)) (hw : key.wire ≠ .endGroup)
    (hdepth : outer.length + 1 < greatestDepth) (hs : skipPlain key.wire rest = .ok rest') :
    skipGroups (number :: outer) bs =
      skipGroups (if key.wire = .startGroup then key.number :: number :: outer else number :: outer)
        rest' := by
  rw [skipGroups]
  split
  · next h => cases hk.symm.trans h
  · next h =>
    cases hk.symm.trans h
    rw [if_neg hw, if_neg (Nat.not_le_of_lt hdepth)]
    split
    · next h => cases hs.symm.trans h
    · next h =>
      cases hs.symm.trans h
      rfl

/-- What the first key decides: it ends the innermost group, or a record comes first. -/
theorem cases_of_skipGroups (h : skipGroups (number :: outer) bs = .ok rest) :
    (∃ more, Key.decode bs = .ok (⟨number, .endGroup⟩, more) ∧ skipGroups outer more = .ok rest) ∨
      ∃ key value more, Key.decode bs = .ok (key, value) ∧ key.wire ≠ .endGroup ∧
        outer.length + 1 < greatestDepth ∧ skipPlain key.wire value = .ok more ∧
        skipGroups
          (if key.wire = .startGroup then key.number :: number :: outer else number :: outer)
          more = .ok rest := by
  rw [skipGroups] at h
  split at h
  · cases h
  · next key value hk =>
    by_cases hw : key.wire = .endGroup
    · rw [if_pos hw] at h
      split_ifs at h with hn
      obtain ⟨keyNumber, wire⟩ := key
      obtain rfl : keyNumber = number := hn
      obtain rfl : wire = .endGroup := hw
      exact .inl ⟨value, hk, h⟩
    · rw [if_neg hw] at h
      by_cases hdepth : greatestDepth ≤ outer.length + 1
      · rw [if_pos hdepth] at h
        cases h
      · rw [if_neg hdepth] at h
        split at h
        · cases h
        · next more hs => exact .inr ⟨key, value, more, hk, hw, Nat.lt_of_not_le hdepth, hs, h⟩

/-- The innermost group is skipped up to the key that ends it. -/
theorem skipGroups_append {levels : Nat} (h : Group levels number bs)
    (hlevels : levels + (outer.length + 1) = greatestDepth) (rest : List UInt8) :
    skipGroups (number :: outer) (bs ++ rest) = skipGroups outer rest := by
  induction h generalizing outer rest with
  | close hk => exact skipGroups_close (Key.decode_eq_ok_iff.mpr ⟨_, rfl, hk⟩)
  | @plain levels number key front value more hk hv _ ih =>
    have hplain : key.wire ≠ .startGroup ∧ key.wire ≠ .endGroup := by
      constructor <;> intro hw <;> exact (hw ▸ hv : WireType.Spells _ _)
    rw [List.append_assoc, List.append_assoc, skipGroups_record
      (Key.decode_eq_ok_iff.mpr ⟨front, rfl, hk⟩) hplain.2 (by omega)
      ((skipPlain_eq_ok_iff hplain.1).mpr ⟨value, rfl, hv⟩), if_neg hplain.1]
    exact ih hlevels rest
  | @nested levels number inner front body more hk _ _ ihbody ihmore =>
    rw [List.append_assoc, List.append_assoc, skipGroups_record
      (Key.decode_eq_ok_iff.mpr ⟨front, rfl, hk⟩) (by simp) (by omega) rfl, if_pos rfl,
      ihbody (by rw [List.length_cons]; omega), ihmore hlevels]

/-- What is skipped at the front are the insides of the innermost group and then of those around
it. -/
theorem exists_group_of_skipGroups {levels : Nat}
    (hlevels : levels + (outer.length + 1) = greatestDepth)
    (h : skipGroups (number :: outer) bs = .ok rest) :
    ∃ body more, bs = body ++ more ∧ Group levels number body ∧
      skipGroups outer more = .ok rest := by
  -- By induction on the length: a group in the group is skipped first, and then the rest of the
  -- group.
  induction hn : bs.length using Nat.strong_induction_on generalizing bs number outer levels with
  | _ n ih =>
    subst hn
    rcases cases_of_skipGroups h with
      ⟨more, hk, hskip⟩ | ⟨key, value, more, hk, hw, hdepth, hs, hskip⟩
    · obtain ⟨front, rfl, hfront⟩ := Key.decode_eq_ok_iff.mp hk
      exact ⟨front, more, rfl, .close hfront, hskip⟩
    · obtain ⟨levels, rfl⟩ : ∃ l, levels = l + 1 := ⟨levels - 1, by omega⟩
      have hlt := Key.length_lt_of_decode hk
      obtain ⟨front, rfl, hfront⟩ := Key.decode_eq_ok_iff.mp hk
      by_cases hstart : key.wire = .startGroup
      · obtain ⟨inner, wire⟩ := key
        obtain rfl : wire = .startGroup := hstart
        obtain rfl := Except.ok.inj hs
        rw [if_pos rfl] at hskip
        have hinner : levels + ((number :: outer).length + 1) = greatestDepth := by
          rw [List.length_cons]
          omega
        obtain ⟨body, more', rfl, hbody, hskip⟩ := ih _ hlt hinner hskip rfl
        obtain ⟨body', more, rfl, hbody', hskip⟩ := ih _
          (by simp only [List.length_append] at hlt ⊢; omega) hlevels hskip rfl
        exact ⟨front ++ (body ++ body'), more, by simp, .nested hfront hbody hbody', hskip⟩
      · obtain ⟨value, rfl, hvalue⟩ := (skipPlain_eq_ok_iff hstart).mp hs
        rw [if_neg hstart] at hskip
        obtain ⟨body, more, rfl, hbody, hskip⟩ := ih _
          (by simp only [List.length_append] at hlt ⊢; omega) hlevels hskip rfl
        exact ⟨front ++ (value ++ body), more, by simp, .plain hfront hvalue hbody, hskip⟩

theorem skip_eq_ok_iff :
    skip key bs = .ok rest ↔ ∃ front, bs = front ++ rest ∧ key.Bears front := by
  rw [skip]
  split_ifs with hw
  · have hlevels : greatestDepth - 1 + (([] : List Nat).length + 1) = greatestDepth := rfl
    simp only [Key.Bears, if_pos hw]
    constructor
    · intro h
      obtain ⟨body, more, rfl, hbody, hmore⟩ := exists_group_of_skipGroups hlevels h
      rw [skipGroups] at hmore
      obtain rfl := Except.ok.inj hmore
      exact ⟨body, rfl, hbody⟩
    · rintro ⟨front, rfl, h⟩
      rw [skipGroups_append h hlevels, skipGroups]
  · simp only [Key.Bears, if_neg hw]
    exact skipPlain_eq_ok_iff hw

/-! ### Messages -/

/-- What a record says of a declared field. -/
structure Datum where
  /-- The number of the field. -/
  number : Nat
  /-- The kind of the value. -/
  kind : Kind
  /-- The value. -/
  value : kind.Value

/-- The value, if it is of a kind. -/
def Datum.as? (d : Datum) (k : Kind) : Option k.Value :=
  if h : d.kind = k then some (h ▸ d.value) else none

variable {M : Type} {m m' : M} {f : Field M}

theorem Field.merge_eq_ok_iff {w : WireType} :
    f.merge m w bs = .ok (m', rest) ↔ w = f.kind.wire ∧
      ∃ front v, bs = front ++ rest ∧ f.kind.Spells front v ∧ m' = f.set m v := by
  constructor
  · intro h
    rw [merge] at h
    split_ifs at h with hw
    split at h
    · cases h
    · next v r hv =>
      obtain ⟨rfl, rfl⟩ := Prod.mk.inj (Except.ok.inj h)
      obtain ⟨front, rfl, hfront⟩ := Kind.decode_eq_ok_iff.mp hv
      exact ⟨hw, front, v, rfl, hfront, rfl⟩
  · rintro ⟨rfl, front, v, rfl, hv, rfl⟩
    rw [merge, if_pos rfl, Kind.decode_eq_ok_iff.mpr ⟨front, rfl, hv⟩]

namespace Schema

variable {s : Schema M} {ds : List Datum}

/-- The message with one more value stored in its field. -/
def store (s : Schema M) (m : M) (d : Datum) : M :=
  match s.field? d.number with
  | some f => ((d.as? f.kind).map (f.set m)).getD m
  | none => m

/-- The bytes are a record, and this is what it says of a declared field. A record of a number that
is not declared says nothing. -/
inductive Record (s : Schema M) : List UInt8 → Option Datum → Prop
  | declared {f : Field M} {front bs : List UInt8} {v : f.kind.Value}
      (hf : s.field? f.number = some f) (hk : f.key.Spells front) (hv : f.kind.Spells bs v) :
      Record s (front ++ bs) (some ⟨f.number, f.kind, v⟩)
  | undeclared {key : Key} {front bs : List UInt8} (hf : s.field? key.number = none)
      (hk : key.Spells front) (hv : key.Bears bs) : Record s (front ++ bs) none

/-- The bytes are records, one after the other, and this is what they say of the declared fields. -/
inductive Records (s : Schema M) : List UInt8 → List Datum → Prop
  | nil : Records s [] []
  | cons {bs more : List UInt8} {d : Option Datum} {ds : List Datum} (h : s.Record bs d)
      (hmore : Records s more ds) : Records s (bs ++ more) (d.toList ++ ds)

theorem store_of_field? (hf : s.field? f.number = some f) (m : M) (v : f.kind.Value) :
    s.store m ⟨f.number, f.kind, v⟩ = f.set m v := by
  simp [store, hf, Datum.as?]

/-- Reading one record. -/
theorem exists_mergeRecord_iff :
    (∃ key r, Key.decode bs = .ok (key, r) ∧ s.mergeRecord m key r = .ok (m', rest)) ↔
      ∃ front d, bs = front ++ rest ∧ s.Record front d ∧ m' = d.toList.foldl s.store m := by
  constructor
  · rintro ⟨key, r, hk, h⟩
    obtain ⟨front, rfl, hfront⟩ := Key.decode_eq_ok_iff.mp hk
    rw [mergeRecord] at h
    split at h
    · next f hf =>
      split at h
      · cases h
      · next hm =>
        obtain rfl := Except.ok.inj h
        obtain ⟨hwire, value, v, rfl, hv, rfl⟩ := Field.merge_eq_ok_iff.mp hm
        have hnumber : f.number = key.number := by simpa using List.find?_some hf
        obtain rfl : key = f.key := by
          rw [Field.key, hnumber, ← hwire]
        rw [← hnumber] at hf
        exact ⟨front ++ value, _, (List.append_assoc ..).symm, .declared hf hfront hv,
          (store_of_field? hf m v).symm⟩
    · next hf =>
      split at h
      · cases h
      · next hs =>
        obtain ⟨rfl, rfl⟩ := Prod.mk.inj (Except.ok.inj h)
        obtain ⟨value, rfl, hvalue⟩ := skip_eq_ok_iff.mp hs
        exact ⟨front ++ value, none, (List.append_assoc ..).symm, .undeclared hf hfront hvalue, rfl⟩
  · rintro ⟨_, _, rfl, h, rfl⟩
    cases h with
    | @declared f front value v hf hk hv =>
      refine ⟨f.key, value ++ rest, Key.decode_eq_ok_iff.mpr ⟨front, List.append_assoc .., hk⟩, ?_⟩
      have hm : f.merge m f.key.wire (value ++ rest) = .ok (f.set m v, rest) :=
        Field.merge_eq_ok_iff.mpr ⟨rfl, value, v, rfl, hv, rfl⟩
      simp only [mergeRecord, Field.key] at hm ⊢
      simp only [hf, hm, Option.toList_some, List.foldl_cons, List.foldl_nil, store_of_field? hf]
    | @undeclared key front value hf hk hv =>
      refine ⟨key, value ++ rest, Key.decode_eq_ok_iff.mpr ⟨front, List.append_assoc .., hk⟩, ?_⟩
      simp only [mergeRecord, hf, skip_eq_ok_iff.mpr ⟨value, rfl, hv⟩, Option.toList_none,
        List.foldl_nil]

/-- A message can be read exactly if the bytes are records. What they say of the declared fields is
stored, one after the other. -/
theorem merge_eq_ok_iff :
    s.merge m bs = .ok m' ↔ ∃ ds, s.Records bs ds ∧ m' = ds.foldl s.store m := by
  constructor
  · intro h
    induction hn : bs.length using Nat.strong_induction_on generalizing bs m with
    | _ n ih =>
      subst hn
      rw [merge] at h
      split at h
      · next hempty =>
        obtain rfl := List.isEmpty_iff.mp hempty
        exact ⟨[], .nil, (Except.ok.inj h).symm⟩
      · split at h
        · cases h
        · next hk =>
          split at h
          · cases h
          · next m₁ more hm =>
            have hlt :=
              Nat.lt_of_le_of_lt (length_le_of_mergeRecord hm) (Key.length_lt_of_decode hk)
            obtain ⟨ds, hds, rfl⟩ := ih _ hlt h rfl
            obtain ⟨front, d, rfl, hd, rfl⟩ := exists_mergeRecord_iff.mp ⟨_, _, hk, hm⟩
            exact ⟨d.toList ++ ds, .cons hd hds, by rw [List.foldl_append]⟩
  · rintro ⟨ds, h, rfl⟩
    induction h generalizing m with
    | nil => rw [merge, if_pos List.isEmpty_nil, List.foldl_nil]
    | @cons bs more d ds h _ ih =>
      obtain ⟨key, r, hk, hm⟩ := exists_mergeRecord_iff.mpr ⟨bs, d, rfl, h, rfl⟩
      have hlt := Key.length_lt_of_decode hk
      rw [merge, if_neg (by simpa using List.ne_nil_of_length_pos (Nat.zero_lt_of_lt hlt))]
      split
      · next he => cases hk.symm.trans he
      · next he =>
        cases hk.symm.trans he
        split
        · next he => cases hm.symm.trans he
        · next he =>
          cases hm.symm.trans he
          rw [ih, List.foldl_append]

end Schema

end FleetAgent.Wire
