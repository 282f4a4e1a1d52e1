import FleetAgent.Proofs.Wire.Reading
import FleetAgent.Rpc.Call

/-!
# What is written can be read

A writer makes one record of each declared field that does not have its default value. These are
records in the sense of the grammar, so a reader takes them; each field has at most one, so it comes
back as it was.

Texts and raw bytes are written with their length in front, and a reader takes a length of 64 bits.
This is the only limit, and it is beyond what any memory holds.

## Main definitions

* `Kind.Fits`, `Schema.Fits`: the lengths that are written have 64 bits.
* `Schema.IsProper`: the declared numbers are different, and within the range of numbers of fields.
* `Schema.data`: what the written records say.

## Main results

* `Schema.length_encode`: how many bytes are written.
* `Schema.records_encode`: what is written are records.
* `decode_encode_messages`: the messages of the service come back as they were, and an answer to a
  heartbeat gives the directive that was sent, if it is one.
-/

namespace FleetAgent.Wire

open Datum (last?)

/-! ### Values -/

namespace Kind

variable {k : Kind} {v : k.Value}

/-- The length that is written in front of the value, if there is one, has 64 bits. -/
def Fits : (k : Kind) → k.Value → Prop
  | text, s => s.utf8ByteSize < UInt64.size
  | bytes, b => b.length < UInt64.size
  | natural, _ | flag, _ | choice, _ => True

instance decidableFits : (k : Kind) → (v : k.Value) → Decidable (k.Fits v)
  | text, s => inferInstanceAs (Decidable (s.utf8ByteSize < UInt64.size))
  | bytes, b => inferInstanceAs (Decidable (b.length < UInt64.size))
  | natural, _ | flag, _ | choice, _ => inferInstanceAs (Decidable True)

theorem length_utf8 (s : String) : (utf8 s).length = s.utf8ByteSize := by
  rw [utf8, Array.length_toList]
  rfl

theorem delimits_delimited {payload : List UInt8} (h : payload.length < UInt64.size) :
    Delimits (delimited payload) payload :=
  ⟨_, rfl, Varint.denotes_encode h⟩

/-- The lowest 32 bits of the integer that a choice is extended to are the choice. -/
theorem bmod_number_choice (c : Int32) : c.toInt = (number choice c : Int).bmod UInt32.size := by
  have hextended : (number choice c : Int).bmod UInt64.size = c.toInt := by
    rw [← Int32.toInt_toInt64]
    exact (BitVec.toInt_eq_toNat_bmod _).symm
  calc c.toInt = c.toInt.bmod UInt32.size := c.toInt_bmod_size.symm
    _ = ((number choice c : Int).bmod UInt64.size).bmod UInt32.size := by rw [hextended]
    _ = (number choice c : Int).bmod UInt32.size := Int.bmod_bmod_of_dvd (by decide)

theorem spells_encode (h : k.Fits v) : k.Spells (k.encode v) v := by
  cases k with
  | text => exact delimits_delimited (by rwa [length_utf8])
  | bytes => exact delimits_delimited h
  | natural => exact Varint.denotes_encode v.toNat_lt
  | flag => exact ⟨v.toNat, Varint.denotes_encode (by cases v <;> decide), by cases v <;> rfl⟩
  | choice =>
    exact ⟨number choice v, Varint.denotes_encode (UInt64.toNat_lt _), bmod_number_choice v⟩

theorem length_encode (v : k.Value) : (k.encode v).length = k.size v := by
  cases k with
  | text => rw [encode, delimited, List.length_append, Varint.length_encode, length_utf8, size]
  | bytes => rw [encode, delimited, List.length_append, Varint.length_encode, size]
  | natural | flag | choice => exact Varint.length_encode _

end Kind

/-! ### Messages -/

variable {M : Type}

theorem Field.length_encode (f : Field M) (m : M) : (f.encode m).length = f.size m := by
  rw [encode, size]
  cases f.get m with
  | none => rfl
  | some v => rw [List.length_append, Key.encode, Varint.length_encode, Kind.length_encode]

namespace Schema

variable {s : Schema M} {m : M} {f : Field M}

/-- The number of bytes that are written. -/
theorem length_encode (s : Schema M) (m : M) : (s.encode m).length = s.size m := by
  rw [encode, size]
  induction s.fields with
  | nil => rfl
  | cons f fs ih => rw [List.flatMap_cons, List.length_append, ih, f.length_encode, List.foldr_cons]

/-- The lengths that are written have 64 bits. -/
def Fits (s : Schema M) (m : M) : Prop := ∀ f ∈ s.fields, ∀ v ∈ f.get m, f.kind.Fits v

instance decidableFits (s : Schema M) (m : M) : Decidable (s.Fits m) :=
  inferInstanceAs (Decidable (∀ f ∈ s.fields, ∀ v ∈ f.get m, f.kind.Fits v))

/-- No two declared fields have the same number, and the numbers are those that a key has room
for. -/
structure IsProper (s : Schema M) : Prop where
  nodup : (s.fields.map (·.number)).Nodup
  range : ∀ n ∈ s.fields.map (·.number), 0 < n ∧ n < UInt32.size / 8

/-- What the written records say. -/
def data (s : Schema M) (m : M) : List Datum :=
  s.fields.filterMap fun f => (f.get m).map (⟨f.number, f.kind, ·⟩)

theorem IsProper.field?_of_mem (hs : s.IsProper) (hf : f ∈ s.fields) :
    s.field? f.number = some f := by
  obtain ⟨before, after, heq⟩ := List.append_of_mem hf
  have hnodup := hs.nodup
  rw [heq, List.map_append, List.map_cons, List.nodup_append] at hnodup
  refine List.find?_eq_some_iff_append.mpr ⟨by simp, before, after, heq, fun g hg => ?_⟩
  simpa using hnodup.2.2 _ (List.mem_map_of_mem hg) _ List.mem_cons_self

theorem IsProper.spells_key (hs : s.IsProper) (hf : f ∈ s.fields) : f.key.Spells f.key.encode := by
  obtain ⟨hpos, hlt⟩ := hs.range _ (List.mem_map_of_mem hf)
  have hcode : f.key.code < UInt32.size := by
    have hwire := f.kind.wire.code_lt
    simp only [Field.key, Key.code, UInt32.size] at hlt ⊢
    omega
  exact ⟨Varint.denotes_encode (Nat.lt_trans hcode (by decide)), hcode, hpos⟩

/-- What is written are records. -/
theorem records_encode (hs : s.IsProper) (hm : s.Fits m) : s.Records (s.encode m) (s.data m) := by
  -- The fields are taken one by one. Of each is only used that it is declared.
  suffices h : ∀ fs ⊆ s.fields, s.Records (fs.flatMap (·.encode m))
      (fs.filterMap fun f => (f.get m).map (⟨f.number, f.kind, ·⟩)) from h _ (List.Subset.refl _)
  intro fs hfs
  induction fs with
  | nil => exact .nil
  | cons f fs ih =>
    obtain ⟨hf, hfs⟩ := List.cons_subset.mp hfs
    have hmore := ih hfs
    rw [List.flatMap_cons, List.filterMap_cons, Field.encode]
    cases hv : f.get m with
    | none => exact hmore
    | some v =>
      have hvalue := Kind.spells_encode (hm f hf v hv)
      exact .cons (.declared (hs.field?_of_mem hf) (hs.spells_key hf) hvalue) hmore

/-- The last written value of a field is the one that it holds. -/
theorem IsProper.last?_data (hs : s.IsProper) (number : Nat)
    (hf : s.field? number = some f) (m : M) :
    last? (s.data m) number f.kind = f.get m := by
  obtain rfl : f.number = number := by simpa using List.find?_some hf
  obtain ⟨before, after, heq⟩ := List.append_of_mem (List.mem_of_find?_eq_some hf)
  have hnodup := hs.nodup
  rw [heq, List.map_append, List.map_cons, List.nodup_append, List.nodup_cons] at hnodup
  obtain ⟨-, ⟨hafter, -⟩, hbefore⟩ := hnodup
  -- No field before it and none after it has its number.
  have hother {fs : List (Field M)} (hfs : f.number ∉ fs.map (·.number)) :
      last? (fs.filterMap fun g => (g.get m).map (⟨g.number, g.kind, ·⟩)) f.number f.kind =
        none := by
    refine Datum.last?_eq_none fun d hd hnumber => hfs ?_
    obtain ⟨g, hg, hd⟩ := List.mem_filterMap.mp hd
    obtain ⟨v, -, rfl⟩ := Option.map_eq_some_iff.mp hd
    exact List.mem_map.mpr ⟨g, hg, hnumber⟩
  have hlast := hother hafter
  have hfirst := hother fun h => hbefore _ h _ List.mem_cons_self rfl
  rw [data, heq, List.filterMap_append, Datum.last?_append, hfirst, Option.or_none]
  cases hv : f.get m with
  | none => rw [List.filterMap_cons_none (by rw [hv]; rfl), hlast]
  | some v =>
    rw [List.filterMap_cons_some (by rw [hv]; rfl), Datum.last?_cons, hlast]
    simp [Datum.as?]

/-- What is written is read as what its records say. -/
theorem decode_encode (hs : s.IsProper) (hm : s.Fits m) :
    s.decode (s.encode m) = .ok ((s.data m).foldl s.store s.default) :=
  decode_eq_ok_iff.mpr ⟨_, records_encode hs hm, rfl⟩

end Schema

/-! ### The messages of the service -/

/-- A value that is not written when it is the default comes back all the same. -/
theorem getD_unless {α : Type} [DecidableEq α] (a default : α) :
    (if a = default then none else some a).getD default = a := by
  split_ifs with h
  · exact h.symm
  · rfl

theorem getD_flag (b : Bool) : (if b then some true else none).getD false = b := by
  cases b <;> rfl

theorem ConnectRequest.decode_encode {m : ConnectRequest} (h : schema.Fits m) :
    schema.decode (schema.encode m) = .ok m := by
  have hs : schema.IsProper := ⟨by decide, by decide⟩
  have hname : last? (schema.data m) 1 .text = if m.name = "" then none else some m.name :=
    (hs.last?_data 1 rfl m :)
  have hversion : last? (schema.data m) 2 .text = if m.version = "" then none else some m.version :=
    (hs.last?_data 2 rfl m :)
  rw [schema.decode_encode hs h, foldl_store, hname, hversion, getD_unless, getD_unless]

theorem ConnectResponse.decode_encode {m : ConnectResponse} (h : schema.Fits m) :
    schema.decode (schema.encode m) = .ok m := by
  have hs : schema.IsProper := ⟨by decide, by decide⟩
  have hsession : last? (schema.data m) 1 .text =
      if m.sessionId = "" then none else some m.sessionId :=
    (hs.last?_data 1 rfl m :)
  rw [schema.decode_encode hs h, foldl_store, hsession, getD_unless]

theorem HeartbeatRequest.decode_encode {m : HeartbeatRequest} (h : schema.Fits m) :
    schema.decode (schema.encode m) = .ok m := by
  have hs : schema.IsProper := ⟨by decide, by decide⟩
  have hsession : last? (schema.data m) 1 .text =
      if m.sessionId = "" then none else some m.sessionId :=
    (hs.last?_data 1 rfl m :)
  have hsequence : last? (schema.data m) 2 .natural =
      if m.sequence = 0 then none else some m.sequence :=
    (hs.last?_data 2 rfl m :)
  rw [schema.decode_encode hs h, foldl_store, hsession, hsequence, getD_unless, getD_unless]

theorem HeartbeatResponse.decode_encode {m : HeartbeatResponse} (h : schema.Fits m) :
    schema.decode (schema.encode m) = .ok m := by
  have hs : schema.IsProper := ⟨by decide, by decide⟩
  have hdirective : last? (schema.data m) 1 .choice =
      if m.directive = 0 then none else some m.directive :=
    (hs.last?_data 1 rfl m :)
  have hsequence : last? (schema.data m) 2 .natural =
      if m.sequence = 0 then none else some m.sequence :=
    (hs.last?_data 2 rfl m :)
  have hconfig : last? (schema.data m) 3 .bytes = m.configUpdate := (hs.last?_data 3 rfl m :)
  rw [schema.decode_encode hs h, foldl_store, hdirective, hsequence, hconfig, getD_unless,
    getD_unless]

theorem ReadyRequest.decode_encode {m : ReadyRequest} (h : schema.Fits m) :
    schema.decode (schema.encode m) = .ok m := by
  have hs : schema.IsProper := ⟨by decide, by decide⟩
  have hsession : last? (schema.data m) 1 .text =
      if m.sessionId = "" then none else some m.sessionId :=
    (hs.last?_data 1 rfl m :)
  have hready : last? (schema.data m) 2 .flag = if m.ready then some true else none :=
    (hs.last?_data 2 rfl m :)
  rw [schema.decode_encode hs h, foldl_store, hsession, hready, getD_unless, getD_flag]

theorem SessionRequest.decode_encode {m : SessionRequest} (h : schema.Fits m) :
    schema.decode (schema.encode m) = .ok m := by
  have hs : schema.IsProper := ⟨by decide, by decide⟩
  have hsession : last? (schema.data m) 1 .text =
      if m.sessionId = "" then none else some m.sessionId :=
    (hs.last?_data 1 rfl m :)
  rw [schema.decode_encode hs h, foldl_store, hsession, getD_unless]

section Reply

open FleetAgent.Rpc (replyOfWire)

theorem replyOfWire_continue {m : HeartbeatResponse} (h : m.directive = 0) :
    replyOfWire m = .ok ⟨.continue, m.sequence.toNat, m.configUpdate⟩ := by
  simp [replyOfWire, DirectiveCode.ofInt32?, h]

theorem replyOfWire_terminate {m : HeartbeatResponse} (h : m.directive = 1) :
    replyOfWire m = .ok ⟨.terminate, m.sequence.toNat, m.configUpdate⟩ := by
  simp [replyOfWire, DirectiveCode.ofInt32?, h]

theorem replyOfWire_unknown {m : HeartbeatResponse} (hcontinue : m.directive ≠ 0)
    (hterminate : m.directive ≠ 1) :
    replyOfWire m = .error (.protocol ("unknown directive " ++ toString m.directive.toInt)) := by
  simp [replyOfWire, DirectiveCode.ofInt32?, hcontinue, hterminate]

/-- The messages of the service come back as they were, and their sizes are the numbers of bytes
that are written. An answer to a heartbeat gives what it was made of if its directive is one of the
two that there are; of every other one it tells that it is unknown. -/
theorem decode_encode_messages :
    (∀ m : ConnectRequest, ConnectRequest.schema.size m = (ConnectRequest.schema.encode m).length ∧
      (ConnectRequest.schema.Fits m →
        ConnectRequest.schema.decode (ConnectRequest.schema.encode m) = .ok m)) ∧
    (∀ m : ConnectResponse,
      ConnectResponse.schema.size m = (ConnectResponse.schema.encode m).length ∧
      (ConnectResponse.schema.Fits m →
        ConnectResponse.schema.decode (ConnectResponse.schema.encode m) = .ok m)) ∧
    (∀ m : HeartbeatRequest,
      HeartbeatRequest.schema.size m = (HeartbeatRequest.schema.encode m).length ∧
      (HeartbeatRequest.schema.Fits m →
        HeartbeatRequest.schema.decode (HeartbeatRequest.schema.encode m) = .ok m)) ∧
    (∀ m : HeartbeatResponse,
      HeartbeatResponse.schema.size m = (HeartbeatResponse.schema.encode m).length ∧
      (HeartbeatResponse.schema.Fits m → ∃ read,
        HeartbeatResponse.schema.decode (HeartbeatResponse.schema.encode m) = .ok read ∧ read = m ∧
        (m.directive = 0 → replyOfWire read = .ok ⟨.continue, m.sequence.toNat, m.configUpdate⟩) ∧
        (m.directive = 1 → replyOfWire read = .ok ⟨.terminate, m.sequence.toNat, m.configUpdate⟩) ∧
        (m.directive ≠ 0 → m.directive ≠ 1 → replyOfWire read =
          .error (.protocol ("unknown directive " ++ toString m.directive.toInt))))) ∧
    (∀ m : ReadyRequest, ReadyRequest.schema.size m = (ReadyRequest.schema.encode m).length ∧
      (ReadyRequest.schema.Fits m →
        ReadyRequest.schema.decode (ReadyRequest.schema.encode m) = .ok m)) ∧
    (∀ m : SessionRequest, SessionRequest.schema.size m = (SessionRequest.schema.encode m).length ∧
      (SessionRequest.schema.Fits m →
        SessionRequest.schema.decode (SessionRequest.schema.encode m) = .ok m)) := by
  refine ⟨fun m => ⟨?_, ConnectRequest.decode_encode⟩, fun m => ⟨?_, ConnectResponse.decode_encode⟩,
    fun m => ⟨?_, HeartbeatRequest.decode_encode⟩, fun m => ⟨?_, fun h => ⟨m, ?_⟩⟩,
    fun m => ⟨?_, ReadyRequest.decode_encode⟩, fun m => ⟨?_, SessionRequest.decode_encode⟩⟩
  case refine_5 =>
    exact ⟨HeartbeatResponse.decode_encode h, rfl, replyOfWire_continue, replyOfWire_terminate,
      replyOfWire_unknown⟩
  all_goals exact (Schema.length_encode _ _).symm

/-- A message of each type, with values that take many bytes, are negative, or are empty and
present. -/
theorem decode_encode_greatest :
    ConnectRequest.schema.decode (ConnectRequest.schema.encode ⟨"Zürich", ""⟩) =
      .ok ⟨"Zürich", ""⟩ ∧
    ConnectResponse.schema.decode (ConnectResponse.schema.encode ⟨"s-1"⟩) = .ok ⟨"s-1"⟩ ∧
    HeartbeatRequest.schema.decode (HeartbeatRequest.schema.encode ⟨"s-1", 18446744073709551615⟩) =
      .ok ⟨"s-1", 18446744073709551615⟩ ∧
    (∃ read, HeartbeatResponse.schema.decode
        (HeartbeatResponse.schema.encode ⟨1, 18446744073709551615, some []⟩) = .ok read ∧
      replyOfWire read = .ok ⟨.terminate, 18446744073709551615, some []⟩) ∧
    (∃ read,
      HeartbeatResponse.schema.decode (HeartbeatResponse.schema.encode ⟨-7, 9, none⟩) = .ok read ∧
      replyOfWire read = .error (.protocol "unknown directive -7")) ∧
    ReadyRequest.schema.decode (ReadyRequest.schema.encode ⟨"s-1", true⟩) = .ok ⟨"s-1", true⟩ ∧
    SessionRequest.schema.decode (SessionRequest.schema.encode ⟨""⟩) = .ok ⟨""⟩ := by
  obtain ⟨hconnect, hconnected, hbeat, hreply, hready, hsession⟩ := decode_encode_messages
  obtain ⟨ended, hended, -, -, hterminate, -⟩ :=
    (hreply ⟨1, 18446744073709551615, some []⟩).2 (by decide)
  obtain ⟨odd, hodd, -, -, -, hunknown⟩ := (hreply ⟨-7, 9, none⟩).2 (by decide)
  exact ⟨(hconnect _).2 (by decide), (hconnected _).2 (by decide), (hbeat _).2 (by decide),
    ⟨ended, hended, hterminate rfl⟩, ⟨odd, hodd, hunknown (by decide) (by decide)⟩,
    (hready _).2 (by decide), (hsession _).2 (by decide)⟩

end Reply

end FleetAgent.Wire
