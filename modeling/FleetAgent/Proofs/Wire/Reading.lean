import FleetAgent.Proofs.Wire.Records
import FleetAgent.Wire.Message

/-!
# What is read from records

The records of a message may come in any order, and more than once. Of each declared field the last
one counts, and a field that has none keeps its default. Records of fields that are not declared
make no difference.

## Main definitions

* `Datum.last?`: the last value of a field.

## Main results

* `Schema.view_foldl_store`: what one field holds after all records.
* `Schema.decode_append_undeclared`: a record of a field that is not declared makes no difference.
* `decode_iff_records`: what is read from each of the messages of the service.
-/

namespace FleetAgent.Wire

namespace Datum

variable {number : Nat} {k : Kind}

/-- The last value of a kind that records say of the field of a number. -/
def last? (ds : List Datum) (number : Nat) (k : Kind) : Option k.Value :=
  (ds.filterMap fun d => if d.number = number then d.as? k else none).getLast?

theorem last?_append (ds more : List Datum) :
    last? (ds ++ more) number k = (last? more number k).or (last? ds number k) := by
  rw [last?, List.filterMap_append, List.getLast?_append]
  rfl

theorem last?_cons (d : Datum) (ds : List Datum) :
    last? (d :: ds) number k =
      (last? ds number k).or (if d.number = number then d.as? k else none) := by
  rw [← List.singleton_append, last?_append]
  congr 1
  rw [last?, List.filterMap_cons]
  cases (if d.number = number then d.as? k else none) <;> rfl

theorem last?_eq_none {ds : List Datum} (h : ∀ d ∈ ds, d.number ≠ number) :
    last? ds number k = none := by
  rw [last?, List.filterMap_eq_nil_iff.mpr fun d hd => if_neg (h d hd)]
  rfl

end Datum

open Datum (last?)

namespace Schema

variable {M α : Type} {f : Field M}

/-- What one field holds after one more record. The view of the field tells what it holds; it is
given by the values that are stored in the field, and no other field changes it. -/
theorem view_store (s : Schema M) (number : Nat) (hf : s.field? number = some f) (view : M → α)
    (put : f.kind.Value → α) (hset : ∀ m v, view (f.set m v) = put v)
    (hframe : ∀ g ∈ s.fields, g.number ≠ number → ∀ m v, view (g.set m v) = view m)
    (m : M) (d : Datum) :
    view (s.store m d) =
      ((if d.number = number then d.as? f.kind else none).map put).getD (view m) := by
  rw [store]
  by_cases hd : d.number = number
  · have hstored : s.field? d.number = some f := hd ▸ hf
    rw [if_pos hd]
    simp only [hstored]
    cases d.as? f.kind with
    | none => rfl
    | some v => exact hset m v
  · rw [if_neg hd]
    cases hg : s.field? d.number with
    | none => rfl
    | some g =>
      have hnumber : g.number = d.number := by simpa using List.find?_some hg
      dsimp only
      cases d.as? g.kind with
      | none => rfl
      | some v => exact hframe g (List.mem_of_find?_eq_some hg) (hnumber ▸ hd) m v

/-- What one field holds after all records: their last value of the field, or what it has held
before. -/
theorem view_foldl_store (s : Schema M) (number : Nat) (hf : s.field? number = some f)
    (view : M → α) (put : f.kind.Value → α) (hset : ∀ m v, view (f.set m v) = put v)
    (hframe : ∀ g ∈ s.fields, g.number ≠ number → ∀ m v, view (g.set m v) = view m)
    (ds : List Datum) (m : M) :
    view (ds.foldl s.store m) = ((last? ds number f.kind).map put).getD (view m) := by
  induction ds generalizing m with
  | nil => rfl
  | cons d ds ih =>
    rw [List.foldl_cons, ih, s.view_store number hf view put hset hframe, Datum.last?_cons]
    cases last? ds number f.kind <;> rfl

/-- A field that always holds a value holds the last one, or its default. -/
theorem value_foldl_store (s : Schema M) (number : Nat) (hf : s.field? number = some f)
    (view : M → f.kind.Value) (hset : ∀ m v, view (f.set m v) = v)
    (hframe : ∀ g ∈ s.fields, g.number ≠ number → ∀ m v, view (g.set m v) = view m)
    (ds : List Datum) :
    view (ds.foldl s.store s.default) = (last? ds number f.kind).getD (view s.default) := by
  rw [s.view_foldl_store number hf view id hset hframe ds, Option.map_id, id]

/-- A field that may be absent holds the last value, or is absent. -/
theorem optional_foldl_store (s : Schema M) (number : Nat) (hf : s.field? number = some f)
    (view : M → Option f.kind.Value) (hset : ∀ m v, view (f.set m v) = some v)
    (hframe : ∀ g ∈ s.fields, g.number ≠ number → ∀ m v, view (g.set m v) = view m)
    (hdefault : view s.default = none) (ds : List Datum) :
    view (ds.foldl s.store s.default) = last? ds number f.kind := by
  rw [s.view_foldl_store number hf view some hset hframe ds, hdefault]
  cases last? ds number f.kind <;> rfl

/-- A message is read exactly from records, and is what they make of the message of defaults. -/
theorem decode_eq_ok_iff {s : Schema M} {bs : List UInt8} {m : M} :
    s.decode bs = .ok m ↔ ∃ ds, s.Records bs ds ∧ m = ds.foldl s.store s.default := merge_eq_ok_iff

theorem Records.append {s : Schema M} {bs more : List UInt8} {ds ds' : List Datum}
    (h : s.Records bs ds) (hmore : s.Records more ds') : s.Records (bs ++ more) (ds ++ ds') := by
  induction h with
  | nil => exact hmore
  | cons hd _ ih =>
    rw [List.append_assoc, List.append_assoc]
    exact .cons hd ih

/-- A record of a field that is not declared makes no difference, wherever it stands. -/
theorem decode_append_undeclared {s : Schema M} {before record behind : List UInt8}
    {ds ds' : List Datum} (hbefore : s.Records before ds) (hrecord : s.Record record none)
    (hbehind : s.Records behind ds') :
    s.decode (before ++ (record ++ behind)) = s.decode (before ++ behind) := by
  have hwithout := decode_eq_ok_iff.mpr ⟨_, hbefore.append hbehind, rfl⟩
  have hwith := decode_eq_ok_iff.mpr ⟨_, hbefore.append (.cons hrecord hbehind), rfl⟩
  rw [hwith, hwithout, Option.toList_none, List.nil_append]

end Schema

/-! ### The messages of the service -/

theorem ConnectRequest.foldl_store (ds : List Datum) :
    ds.foldl schema.store schema.default =
      ⟨(last? ds 1 .text).getD "", (last? ds 2 .text).getD ""⟩ := by
  have hname : (ds.foldl schema.store schema.default).name = (last? ds 1 .text).getD "" :=
    schema.value_foldl_store 1 rfl (·.name) (fun _ _ => rfl) (by simp [schema, Field.text]) ds
  have hversion : (ds.foldl schema.store schema.default).version = (last? ds 2 .text).getD "" :=
    schema.value_foldl_store 2 rfl (·.version) (fun _ _ => rfl) (by simp [schema, Field.text]) ds
  rw [← hname, ← hversion]

theorem ConnectResponse.foldl_store (ds : List Datum) :
    ds.foldl schema.store schema.default = ⟨(last? ds 1 .text).getD ""⟩ := by
  have hsession : (ds.foldl schema.store schema.default).sessionId = (last? ds 1 .text).getD "" :=
    schema.value_foldl_store 1 rfl (·.sessionId) (fun _ _ => rfl) (by simp [schema, Field.text]) ds
  rw [← hsession]

theorem HeartbeatRequest.foldl_store (ds : List Datum) :
    ds.foldl schema.store schema.default =
      ⟨(last? ds 1 .text).getD "", (last? ds 2 .natural).getD 0⟩ := by
  have hsession : (ds.foldl schema.store schema.default).sessionId = (last? ds 1 .text).getD "" :=
    schema.value_foldl_store 1 rfl (·.sessionId) (fun _ _ => rfl)
      (by simp [schema, Field.text, Field.natural]) ds
  have hsequence : (ds.foldl schema.store schema.default).sequence = (last? ds 2 .natural).getD 0 :=
    schema.value_foldl_store 2 rfl (·.sequence) (fun _ _ => rfl)
      (by simp [schema, Field.text, Field.natural]) ds
  rw [← hsession, ← hsequence]

theorem HeartbeatResponse.foldl_store (ds : List Datum) :
    ds.foldl schema.store schema.default =
      ⟨(last? ds 1 .choice).getD 0, (last? ds 2 .natural).getD 0, last? ds 3 .bytes⟩ := by
  have hdirective : (ds.foldl schema.store schema.default).directive =
      (last? ds 1 .choice).getD 0 :=
    schema.value_foldl_store 1 rfl (·.directive) (fun _ _ => rfl)
      (by simp [schema, Field.choice, Field.natural, Field.optionalBytes]) ds
  have hsequence : (ds.foldl schema.store schema.default).sequence = (last? ds 2 .natural).getD 0 :=
    schema.value_foldl_store 2 rfl (·.sequence) (fun _ _ => rfl)
      (by simp [schema, Field.choice, Field.natural, Field.optionalBytes]) ds
  have hconfig : (ds.foldl schema.store schema.default).configUpdate = last? ds 3 .bytes :=
    schema.optional_foldl_store 3 rfl (·.configUpdate) (fun _ _ => rfl)
      (by simp [schema, Field.choice, Field.natural, Field.optionalBytes]) rfl ds
  rw [← hdirective, ← hsequence, ← hconfig]

theorem ReadyRequest.foldl_store (ds : List Datum) :
    ds.foldl schema.store schema.default =
      ⟨(last? ds 1 .text).getD "", (last? ds 2 .flag).getD false⟩ := by
  have hsession : (ds.foldl schema.store schema.default).sessionId = (last? ds 1 .text).getD "" :=
    schema.value_foldl_store 1 rfl (·.sessionId) (fun _ _ => rfl)
      (by simp [schema, Field.text, Field.flag]) ds
  have hready : (ds.foldl schema.store schema.default).ready = (last? ds 2 .flag).getD false :=
    schema.value_foldl_store 2 rfl (·.ready) (fun _ _ => rfl)
      (by simp [schema, Field.text, Field.flag]) ds
  rw [← hsession, ← hready]

theorem SessionRequest.foldl_store (ds : List Datum) :
    ds.foldl schema.store schema.default = ⟨(last? ds 1 .text).getD ""⟩ := by
  have hsession : (ds.foldl schema.store schema.default).sessionId = (last? ds 1 .text).getD "" :=
    schema.value_foldl_store 1 rfl (·.sessionId) (fun _ _ => rfl) (by simp [schema, Field.text]) ds
  rw [← hsession]

/-- What is read from each of the messages. Bytes are a message exactly if they are records, in any
order: of each declared field the last record counts, one that has none keeps its default, and
records of other fields are passed over. -/
theorem decode_iff_records (bs : List UInt8) :
    (∀ m, ConnectRequest.schema.decode bs = .ok m ↔ ∃ ds, ConnectRequest.schema.Records bs ds ∧
      m = ⟨(last? ds 1 .text).getD "", (last? ds 2 .text).getD ""⟩) ∧
    (∀ m, ConnectResponse.schema.decode bs = .ok m ↔ ∃ ds, ConnectResponse.schema.Records bs ds ∧
      m = ⟨(last? ds 1 .text).getD ""⟩) ∧
    (∀ m, HeartbeatRequest.schema.decode bs = .ok m ↔ ∃ ds, HeartbeatRequest.schema.Records bs ds ∧
      m = ⟨(last? ds 1 .text).getD "", (last? ds 2 .natural).getD 0⟩) ∧
    (∀ m, HeartbeatResponse.schema.decode bs = .ok m ↔
      ∃ ds, HeartbeatResponse.schema.Records bs ds ∧
      m = ⟨(last? ds 1 .choice).getD 0, (last? ds 2 .natural).getD 0, last? ds 3 .bytes⟩) ∧
    (∀ m, ReadyRequest.schema.decode bs = .ok m ↔ ∃ ds, ReadyRequest.schema.Records bs ds ∧
      m = ⟨(last? ds 1 .text).getD "", (last? ds 2 .flag).getD false⟩) ∧
    (∀ m, SessionRequest.schema.decode bs = .ok m ↔ ∃ ds, SessionRequest.schema.Records bs ds ∧
      m = ⟨(last? ds 1 .text).getD ""⟩) := by
  simp only [Schema.decode_eq_ok_iff, ConnectRequest.foldl_store, ConnectResponse.foldl_store,
    HeartbeatRequest.foldl_store, HeartbeatResponse.foldl_store, ReadyRequest.foldl_store,
    SessionRequest.foldl_store, implies_true, and_self]

end FleetAgent.Wire
