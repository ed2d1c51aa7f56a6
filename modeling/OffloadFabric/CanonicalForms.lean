import OffloadFabric.ModelCodec
import OffloadFabric.Spelling

/-!
The canonical codecs accept nothing but canonical encodings: what a decoder of the model accepts
is, byte for byte, what its encoder writes of the value. With the round trips, every entity has
one encoding, and no encoding is a proper beginning of another one.
-/
namespace OffloadFabric

open Codec

/-! ### Primitives -/

/-- Whatever the decoder accepts is what the encoder writes of the value. -/
abbrev Spelled {α : Type} (encode : α → Encoder) (decoder : Decoder α) : Prop :=
  Spells kMaxTotalBytes decoder encode

theorem writes_append (bytes : Bytes) : Writes kMaxTotalBytes (append bytes) bytes := by
  intro start hroom
  rw [List.length_append] at hroom
  simp only [append]
  rw [if_neg (by omega)]

theorem take_ok {count : Nat} {reader reader' : CanonicalReader} {bytes : Bytes}
    (h : take count reader = .ok (bytes, reader')) :
    reader'.context = reader.context ∧ reader.rest = bytes ++ reader'.rest ∧
      bytes.length = count := by
  unfold take at h
  split at h
  · rename_i hroom
    obtain ⟨rfl, rfl⟩ := Prod.mk.inj (Except.ok.inj h)
    exact ⟨rfl, (List.take_append_drop _ _).symm, List.length_take_of_le hroom⟩
  · cases h

/-- A fixed-width field: every number of that width is written one way. -/
theorem spelled_fixed {α : Type} {width : Nat} {g : Nat → α} {put : α → Encoder}
    (hput : ∀ bytes : Bytes, bytes.length = width →
      put (g (BigEndian.toNat bytes)) = append bytes) :
    Spelled put (do return g (BigEndian.toNat (← take width))) := by
  intro reader value reader' hok
  obtain ⟨bytes, middle, htake, hdone⟩ := bind_ok.mp hok
  obtain ⟨hcontext, hrest, hlength⟩ := take_ok htake
  obtain ⟨rfl, rfl⟩ := Prod.mk.inj (Except.ok.inj hdone)
  refine ⟨hcontext, bytes, hrest, fun written hwritten => ?_⟩
  rw [hput bytes hlength]
  exact hwritten.bind (writes_append bytes)

theorem ofNat_toNat_of_length {width : Nat} {bytes : Bytes} (h : bytes.length = width) :
    BigEndian.ofNat width (BigEndian.toNat bytes) = bytes := by
  subst h
  exact BigEndian.ofNat_toNat bytes

theorem toNat_lt_of_length {width : Nat} {bytes : Bytes} (h : bytes.length = width) :
    BigEndian.toNat bytes < 256 ^ width := by
  subst h
  exact BigEndian.toNat_lt bytes

theorem spelled_u8 : Spelled putU8 getU8 :=
  spelled_fixed fun bytes hlength => by
    have hlt := toNat_lt_of_length hlength
    rw [putU8, UInt8.toNat_ofNat_of_lt' (by simpa using hlt), ofNat_toNat_of_length hlength]

theorem spelled_u16 : Spelled putU16 getU16 :=
  spelled_fixed fun bytes hlength => by
    have hlt := toNat_lt_of_length hlength
    rw [putU16, UInt16.toNat_ofNat_of_lt' (by simpa using hlt), ofNat_toNat_of_length hlength]

theorem spelled_u32 : Spelled putU32 getU32 :=
  spelled_fixed fun bytes hlength => by
    have hlt := toNat_lt_of_length hlength
    rw [putU32, UInt32.toNat_ofNat_of_lt' (by simpa using hlt), ofNat_toNat_of_length hlength]

theorem spelled_u64 : Spelled putU64 getU64 :=
  spelled_fixed fun bytes hlength => by
    have hlt := toNat_lt_of_length hlength
    rw [putU64, UInt64.toNat_ofNat_of_lt' (by simpa using hlt), ofNat_toNat_of_length hlength]

theorem spelled_bool : Spelled putBool getBool := by
  refine .seq spelled_u8 fun raw => .check fun hraw => .done ?_
  have hcases : raw = 0 ∨ raw = 1 := by
    have hle : raw.toNat ≤ 1 := hraw
    have hvalues : raw.toNat = 0 ∨ raw.toNat = 1 := by omega
    exact hvalues.imp (fun h => UInt8.toNat_inj.mp h) fun h => UInt8.toNat_inj.mp h
  rcases hcases with rfl | rfl <;> rfl

/-- The bytes that a number was read from. -/
theorem getU32_ok {reader reader' : CanonicalReader} {value : UInt32}
    (h : getU32 reader = .ok (value, reader')) :
    reader'.context = reader.context ∧
      reader.rest = BigEndian.ofNat 4 value.toNat ++ reader'.rest := by
  obtain ⟨bytes, _, htaken, hdone⟩ := bind_ok.mp h
  obtain ⟨hcontext, hbytes, hwidth⟩ := take_ok htaken
  obtain ⟨rfl, rfl⟩ := Prod.mk.inj (Except.ok.inj hdone)
  have hlt := toNat_lt_of_length hwidth
  rw [UInt32.toNat_ofNat_of_lt' (by simpa using hlt), ofNat_toNat_of_length hwidth]
  exact ⟨hcontext, hbytes⟩

/-- A test that was passed left the reader where it was. -/
theorem check_ok {cond : Prop} [Decidable cond] {err : Reason} {reader reader' : CanonicalReader}
    {value : Unit} (h : (check cond err : Decoder Unit) reader = .ok (value, reader')) :
    cond ∧ reader' = reader := by
  unfold check at h
  split at h
  · rename_i hcond
    obtain ⟨-, rfl⟩ := Prod.mk.inj (Except.ok.inj h)
    exact ⟨hcond, rfl⟩
  · cases h

theorem spelled_prefixed (ceiling : Nat) :
    Spelled (putPrefixed ceiling) (getPrefixed ceiling) := by
  intro reader text reader' hok
  obtain ⟨length, middle, hlength, hok⟩ := bind_ok.mp hok
  obtain ⟨⟨⟩, middle', hcheck, htake⟩ := bind_ok.mp hok
  obtain ⟨hcontext, hdigits⟩ := getU32_ok hlength
  obtain ⟨hmax, rfl⟩ := check_ok hcheck
  obtain ⟨hcontext', hrest, hsize⟩ := take_ok htake
  have hspell : putPrefixed ceiling text = append (BigEndian.ofNat 4 length.toNat ++ text) := by
    rw [putPrefixed, if_neg (by omega), hsize]
  refine ⟨hcontext'.trans hcontext, BigEndian.ofNat 4 length.toNat ++ text, ?_,
    fun written hwritten => ?_⟩
  · rw [hdigits, hrest, List.append_assoc]
  · rw [hspell]
    exact hwritten.bind (writes_append _)

theorem spelled_text : Spelled putText getText := spelled_prefixed kMaxTextBytes

theorem spelled_blob : Spelled putBlob getBlob := spelled_prefixed kMaxBlobBytes

theorem getCount_ok {elementMinBytes count : Nat} {reader reader' : CanonicalReader}
    (h : getCount elementMinBytes reader = .ok (count, reader')) :
    reader'.context = reader.context ∧ count ≤ kMaxItems ∧
      reader.rest = BigEndian.ofNat 4 count ++ reader'.rest := by
  obtain ⟨raw, middle, hraw, h⟩ := bind_ok.mp h
  obtain ⟨⟨⟩, checked, hcheck, h⟩ := bind_ok.mp h
  obtain ⟨found, asked, hget, h⟩ := bind_ok.mp h
  obtain ⟨⟨⟩, afforded, hafford, hdone⟩ := bind_ok.mp h
  obtain ⟨hcontext, hdigits⟩ := getU32_ok hraw
  obtain ⟨hmax, rfl⟩ := check_ok hcheck
  obtain ⟨-, rfl⟩ := Prod.mk.inj (Except.ok.inj hget)
  obtain ⟨-, rfl⟩ := check_ok hafford
  obtain ⟨rfl, rfl⟩ := Prod.mk.inj (Except.ok.inj hdone)
  exact ⟨hcontext, hmax, hdigits⟩

/-- A nested value was read one level deeper. -/
theorem nested_ok {α : Type} {decoder : Decoder α} {reader reader' : CanonicalReader} {value : α}
    (h : nested decoder reader = .ok (value, reader')) :
    ∃ middle, decoder ⟨reader.rest, reader.context + 1⟩ = .ok (value, middle) ∧
      reader' = ⟨middle.rest, middle.context - 1⟩ := by
  obtain ⟨⟨⟩, pushed, hpush, h⟩ := bind_ok.mp h
  obtain ⟨found, middle, hfound, h⟩ := bind_ok.mp h
  obtain ⟨⟨⟩, popped, hpop, hdone⟩ := bind_ok.mp h
  unfold pushDepth at hpush
  split at hpush
  · cases hpush
  · obtain ⟨-, rfl⟩ := Prod.mk.inj (Except.ok.inj hpush)
    obtain ⟨-, rfl⟩ := Prod.mk.inj (Except.ok.inj hpop)
    obtain ⟨rfl, rfl⟩ := Prod.mk.inj (Except.ok.inj hdone)
    exact ⟨middle, hfound, rfl⟩

/-- A good count is written before its items. -/
theorem writes_list {α : Type} {items : List α} {encodeOne : α → Encoder} {tokens : Bytes}
    (hcount : items.length ≤ kMaxItems)
    (h : Writes kMaxTotalBytes (items.forM encodeOne) tokens) :
    Writes kMaxTotalBytes (encodeList items encodeOne)
      (BigEndian.ofNat 4 items.length ++ tokens) := by
  intro start hroom
  have hdigits : (append (BigEndian.ofNat 4 items.length) (some start)).2 =
      some (start ++ BigEndian.ofNat 4 items.length) := by
    refine writes_append _ start ?_
    simp only [List.length_append] at hroom ⊢
    omega
  have hput : putCount items.length (some start) =
      (true, some (start ++ BigEndian.ofNat 4 items.length)) := by
    simp only [putCount, if_neg (not_lt.mpr hcount), hdigits, Option.isSome_some]
  have hrun : (encodeList items encodeOne (some start)).2 =
      ((if (putCount items.length (some start)).1 = true then items.forM encodeOne else pure ())
        (putCount items.length (some start)).2).2 := rfl
  rw [hrun, hput, if_pos rfl, h _ (by rwa [List.append_assoc]), List.append_assoc]

theorem spelled_list {α : Type} {encodeOne : α → Encoder} {decodeOne : Decoder α}
    {elementMinBytes : Nat} (h : Spelled encodeOne decodeOne) :
    Spelled (fun items => encodeList items encodeOne) (do
      let count ← getCount elementMinBytes
      nested (decodeMany decodeOne count)) := by
  intro reader items reader' hok
  obtain ⟨count, middle, hcount, hnested⟩ := bind_ok.mp hok
  obtain ⟨hcontext, hmax, hdigits⟩ := getCount_ok hcount
  obtain ⟨inner, hmany, rfl⟩ := nested_ok hnested
  obtain ⟨hcontext', hlength, tokens, hrest, hwrites⟩ := extends_many h count [] hmany
  have hitems := hwrites [] writes_pure
  rw [List.length_nil, Nat.zero_add] at hlength
  subst hlength
  refine ⟨?_, BigEndian.ofNat 4 items.length ++ tokens, ?_, fun written hwritten => ?_⟩
  · change inner.context - 1 = reader.context
    rw [hcontext', ← hcontext]
    rfl
  · rw [hdigits, show middle.rest = tokens ++ inner.rest from hrest, List.append_assoc]
  · exact hwritten.bind (writes_list hmax hitems)

/-! ### Shared fields -/

theorem Name.bytes_of_parseCanonical {tag : NameTag} {text : Bytes} {name : Name tag}
    (h : Name.parseCanonical text = some name) : name.bytes = text := by
  unfold Name.parseCanonical at h
  split at h
  · rw [← Option.some.inj h]
  · cases h

theorem spelled_name {tag : NameTag} : Spelled (encodeName : Name tag → Encoder) decodeName := by
  refine .seq spelled_text fun text => ?_
  cases hparse : (Name.parseCanonical text : Option (Name tag)) with
  | none => exact .throw _
  | some name =>
    refine .done ?_
    rw [encodeName, Name.bytes_of_parseCanonical hparse]
    rfl

theorem spelled_id {tag : IdTag} : Spelled (encodeId : Id tag → Encoder) decodeId :=
  .seq spelled_u64 fun _ => .done rfl

theorem spelled_gen {tag : GenTag} : Spelled (encodeGen : Gen tag → Encoder) decodeGen :=
  .seq spelled_u64 fun _ => .done rfl

theorem spelled_tick : Spelled encodeTick decodeTick := .seq spelled_u64 fun _ => .done rfl

theorem spelled_digest : Spelled encodeDigest decodeDigest :=
  .seq spelled_u64 fun _ => .seq spelled_u64 fun _ => .done rfl

theorem spelled_reason : Spelled (fun reason => putU16 reason.code) decodeReason := by
  refine .seq spelled_u16 fun raw => ?_
  cases hfind : Reason.ofCode? raw with
  | none => exact .throw _
  | some reason =>
    refine .done ?_
    have hcode : reason.code = raw := by simpa using List.find?_some hfind
    rw [hcode]
    rfl

/-- The table of an enumeration lists every value at its ordinal. -/
class LawfulEnumerated (E : Type) [Enumerated E] : Prop where
  ordinals : (Enumerated.values : List E).map (fun e => (Enumerated.ordinal e).toNat) =
    List.range (Enumerated.values : List E).length

instance : LawfulEnumerated DeviceKind := ⟨rfl⟩
instance : LawfulEnumerated Statefulness := ⟨rfl⟩
instance : LawfulEnumerated DependencyKind := ⟨rfl⟩
instance : LawfulEnumerated DependencyRequirement := ⟨rfl⟩
instance : LawfulEnumerated FailureClass := ⟨rfl⟩
instance : LawfulEnumerated AmbiguityState := ⟨rfl⟩
instance : LawfulEnumerated DependencyHealth := ⟨rfl⟩
instance : LawfulEnumerated RecoveryPhase := ⟨rfl⟩
instance : LawfulEnumerated AttemptOutcome := ⟨rfl⟩
instance : LawfulEnumerated EffectKind := ⟨rfl⟩
instance : LawfulEnumerated EffectResult := ⟨rfl⟩

theorem ordinal_of_getElem? {E : Type} [Enumerated E] [LawfulEnumerated E] {index : Nat} {value : E}
    (h : (Enumerated.values : List E)[index]? = some value) :
    (Enumerated.ordinal value).toNat = index := by
  obtain ⟨hlt, hget⟩ := List.getElem?_eq_some_iff.mp h
  have hordinal := congrArg (·[index]?) (LawfulEnumerated.ordinals (E := E))
  simp only [List.getElem?_map, h, Option.map_some, List.getElem?_range hlt] at hordinal
  exact Option.some.inj hordinal

theorem spelled_enum {E : Type} [Enumerated E] [LawfulEnumerated E] :
    Spelled (encodeEnum : E → Encoder) decodeEnum := by
  refine .seq spelled_u8 fun index => ?_
  cases hget : (Enumerated.values : List E)[index.toNat]? with
  | none => exact .throw _
  | some value =>
    refine .done ?_
    rw [encodeEnum, UInt8.toNat_inj.mp (ordinal_of_getElem? hget)]
    rfl

/-! ### Entities -/

theorem spelled_targetIncarnation : Spelled encodeTargetIncarnation decodeTargetIncarnation :=
  .seq spelled_gen fun _ => .seq spelled_gen fun _ => .done rfl

theorem spelled_targetRef : Spelled encodeTargetRef decodeTargetRef :=
  .seq spelled_name fun _ => .seq spelled_targetIncarnation fun _ => .done rfl

theorem spelled_targetRecord : Spelled encodeTargetRecord decodeTargetRecord :=
  .seq spelled_name fun _ => .seq spelled_name fun _ => .seq spelled_name fun _ =>
    .seq spelled_enum fun _ => .seq spelled_name fun _ => .seq spelled_targetIncarnation fun _ =>
    .seq spelled_gen fun _ => .done rfl

theorem spelled_capabilitySet : Spelled encodeCapabilitySet decodeCapabilitySet :=
  .seq spelled_u64 fun _ => .check fun _ => .done rfl

theorem spelled_capabilityEvidence : Spelled encodeCapabilityEvidence decodeCapabilityEvidence :=
  .seq spelled_name fun _ => .seq spelled_gen fun _ => .seq spelled_capabilitySet fun _ =>
    .seq spelled_gen fun _ => .seq spelled_targetIncarnation fun _ => .seq spelled_name fun _ =>
    .seq spelled_tick fun _ => .seq spelled_digest fun _ => .done rfl

theorem spelled_preconditionSet : Spelled encodePreconditionSet decodePreconditionSet :=
  .seq spelled_u32 fun _ => .check fun _ => .done rfl

theorem spelled_dependencySpec : Spelled encodeDependencySpec decodeDependencySpec :=
  .seq spelled_name fun _ => .seq spelled_enum fun _ => .seq spelled_enum fun _ => .done rfl

theorem spelled_serviceDescriptor : Spelled encodeServiceDescriptor decodeServiceDescriptor :=
  .seq spelled_name fun _ => .seq spelled_name fun _ => .seq spelled_enum fun _ =>
    .seq spelled_capabilitySet fun _ => .seq spelled_preconditionSet fun _ =>
    .seq (spelled_list spelled_dependencySpec) fun _ =>
    .seq spelled_gen fun _ => .done rfl

theorem spelled_provenance : Spelled encodeProvenance decodeProvenance :=
  .seq spelled_name fun _ => .seq spelled_gen fun _ => .seq spelled_tick fun _ =>
    .seq spelled_gen fun _ => .seq spelled_gen fun _ => .done rfl

theorem spelled_failureEvidence : Spelled encodeFailureEvidence decodeFailureEvidence :=
  .seq spelled_id fun _ => .seq spelled_name fun _ => .seq spelled_targetRef fun _ =>
    .seq spelled_enum fun _ => .seq spelled_enum fun _ => .seq spelled_provenance fun _ =>
    .seq spelled_gen fun _ => .seq spelled_gen fun _ => .seq spelled_gen fun _ =>
    .seq spelled_digest fun _ => .done rfl

theorem spelled_dependencyObservation :
    Spelled encodeDependencyObservation decodeDependencyObservation :=
  .seq spelled_name fun _ => .seq spelled_name fun _ => .seq spelled_enum fun _ =>
    .seq spelled_targetRef fun _ => .seq spelled_provenance fun _ => .seq spelled_gen fun _ =>
    .seq spelled_digest fun _ => .done rfl

theorem spelled_policyDescriptor : Spelled encodePolicyDescriptor decodePolicyDescriptor :=
  .seq spelled_gen fun _ => .seq spelled_name fun _ => .seq spelled_u32 fun _ =>
    .seq spelled_u32 fun _ => .seq spelled_u32 fun _ => .seq spelled_u32 fun _ =>
    .seq spelled_u32 fun _ => .seq spelled_bool fun _ => .seq spelled_bool fun _ =>
    .seq spelled_bool fun _ => .done rfl

theorem spelled_fenceRecord : Spelled encodeFenceRecord decodeFenceRecord :=
  .seq spelled_name fun _ => .seq spelled_gen fun _ => .seq spelled_targetRef fun _ =>
    .seq spelled_id fun _ => .seq spelled_gen fun _ => .seq spelled_tick fun _ => .done rfl

theorem spelled_leaseRecord : Spelled encodeLeaseRecord decodeLeaseRecord :=
  .seq spelled_name fun _ => .seq spelled_id fun _ => .seq spelled_gen fun _ =>
    .seq spelled_name fun _ => .seq spelled_targetRef fun _ => .seq spelled_gen fun _ =>
    .seq spelled_tick fun _ => .done rfl

theorem spelled_attemptRecord : Spelled encodeAttemptRecord decodeAttemptRecord :=
  .seq spelled_id fun _ => .seq spelled_name fun _ => .seq spelled_gen fun _ =>
    .seq spelled_gen fun _ => .seq spelled_targetRef fun _ => .seq spelled_targetRef fun _ =>
    .seq spelled_gen fun _ => .seq spelled_gen fun _ => .seq spelled_tick fun _ =>
    .seq spelled_enum fun _ => .seq spelled_enum fun _ => .seq spelled_bool fun _ =>
    .seq spelled_bool fun _ => .seq spelled_bool fun _ => .seq spelled_reason fun _ => .done rfl

theorem spelled_failoverIntent : Spelled encodeFailoverIntent decodeFailoverIntent :=
  .seq spelled_id fun _ => .seq spelled_name fun _ => .seq spelled_gen fun _ =>
    .seq spelled_gen fun _ => .seq spelled_gen fun _ => .seq spelled_targetRef fun _ =>
    .seq spelled_targetRef fun _ => .seq spelled_gen fun _ => .seq spelled_gen fun _ =>
    .seq spelled_gen fun _ => .seq spelled_tick fun _ => .seq spelled_bool fun _ => .done rfl

theorem spelled_effectReport : Spelled encodeEffectReport decodeEffectReport :=
  .seq spelled_id fun _ => .seq spelled_name fun _ => .seq spelled_id fun _ =>
    .seq spelled_gen fun _ => .seq spelled_gen fun _ => .seq spelled_targetRef fun _ =>
    .seq spelled_enum fun _ => .seq spelled_enum fun _ => .seq spelled_gen fun _ =>
    .seq spelled_provenance fun _ => .done rfl

/-! ### Canonical codecs -/

/-- A codec with exactly one encoding for each valid value: it is read back whatever follows it
within the ceiling of a reader, nothing else is accepted, and none of its proper beginnings is. -/
structure CanonicalCodec {α : Type} (encode : α → Encoder) (decoder : Decoder α)
    (valid : α → Prop) : Prop where
  decodes : ∀ value bytes rest, valid value → CanonicalWriter.run (encode value) = some bytes →
    decodeFrom decoder (bytes ++ rest) =
      if (bytes ++ rest).length ≤ kMaxTotalBytes then .ok (value, ⟨rest, 0⟩)
      else .error .oversized
  encodes : ∀ data value reader, decodeFrom decoder data = .ok (value, reader) →
    valid value ∧ ∃ bytes, CanonicalWriter.run (encode value) = some bytes ∧
      data = bytes ++ reader.rest
  prefixes : ∀ value bytes front, CanonicalWriter.run (encode value) = some bytes →
    front <+: bytes → front ≠ bytes → ∃ err, decodeFrom decoder front = .error err

theorem decodeFrom_eq {α : Type} (decoder : Decoder α) (data : Bytes) :
    decodeFrom decoder data =
      if data.length ≤ kMaxTotalBytes then decoder ⟨data, 0⟩ else .error .oversized := by
  unfold decodeFrom CanonicalReader.ofBytes
  by_cases hlength : data.length ≤ kMaxTotalBytes
  · rw [if_pos hlength, if_neg (not_lt.mpr hlength)]
    rfl
  · rw [if_neg hlength, if_pos (not_le.mp hlength)]
    rfl

/-- A new reader has room for one nested collection, and more. -/
theorem within_fresh : Within 1 0 := by
  unfold Within
  decide

/-- A codec is canonical when it round trips and accepts nothing but its encodings. -/
theorem CanonicalCodec.of_spelled {α : Type} {encode : α → Encoder} {decoder : Decoder α}
    {valid : α → Prop} {least : Nat}
    (htrips : ∀ value, RoundTrips 1 least (encode value) decoder value (valid value))
    (hspelled : Spelled encode decoder) : CanonicalCodec encode decoder valid where
  decodes value bytes rest hvalid hbytes := by
    rw [decodeFrom_eq]
    split
    · exact ((htrips value).decode_append hbytes within_fresh rest).1 hvalid
    · rfl
  encodes data value reader hok := by
    rw [decodeFrom_eq] at hok
    split at hok
    · rename_i hlength
      obtain ⟨-, hvalid, hbytes⟩ := hspelled.encoding htrips within_fresh hlength hok
      exact ⟨hvalid, hbytes⟩
    · cases hok
  prefixes value bytes front hbytes hfront hproper := by
    rw [decodeFrom_eq]
    split
    · exact hspelled.prefix_refused htrips hbytes within_fresh hfront hproper
    · exact ⟨_, rfl⟩

/-- All seventeen codecs of the model are canonical. The valid capability and precondition masks
have only known bits. -/
theorem model_codecs_canonical :
    CanonicalCodec encodeTargetIncarnation decodeTargetIncarnation (fun _ => True) ∧
    CanonicalCodec encodeTargetRef decodeTargetRef (fun _ => True) ∧
    CanonicalCodec encodeTargetRecord decodeTargetRecord (fun _ => True) ∧
    CanonicalCodec encodeCapabilitySet decodeCapabilitySet (fun value => value.known) ∧
    CanonicalCodec encodeCapabilityEvidence decodeCapabilityEvidence
      (fun value => value.capabilities.known) ∧
    CanonicalCodec encodePreconditionSet decodePreconditionSet (fun value => value.known) ∧
    CanonicalCodec encodeDependencySpec decodeDependencySpec (fun _ => True) ∧
    CanonicalCodec encodeServiceDescriptor decodeServiceDescriptor (fun value => value.known) ∧
    CanonicalCodec encodeProvenance decodeProvenance (fun _ => True) ∧
    CanonicalCodec encodeFailureEvidence decodeFailureEvidence (fun _ => True) ∧
    CanonicalCodec encodeDependencyObservation decodeDependencyObservation (fun _ => True) ∧
    CanonicalCodec encodePolicyDescriptor decodePolicyDescriptor (fun _ => True) ∧
    CanonicalCodec encodeFenceRecord decodeFenceRecord (fun _ => True) ∧
    CanonicalCodec encodeLeaseRecord decodeLeaseRecord (fun _ => True) ∧
    CanonicalCodec encodeAttemptRecord decodeAttemptRecord (fun _ => True) ∧
    CanonicalCodec encodeFailoverIntent decodeFailoverIntent (fun _ => True) ∧
    CanonicalCodec encodeEffectReport decodeEffectReport (fun _ => True) :=
  ⟨.of_spelled roundTrips_targetIncarnation spelled_targetIncarnation,
    .of_spelled roundTrips_targetRef spelled_targetRef,
    .of_spelled roundTrips_targetRecord spelled_targetRecord,
    .of_spelled roundTrips_capabilitySet spelled_capabilitySet,
    .of_spelled roundTrips_capabilityEvidence spelled_capabilityEvidence,
    .of_spelled roundTrips_preconditionSet spelled_preconditionSet,
    .of_spelled roundTrips_dependencySpec spelled_dependencySpec,
    .of_spelled roundTrips_serviceDescriptor spelled_serviceDescriptor,
    .of_spelled roundTrips_provenance spelled_provenance,
    .of_spelled roundTrips_failureEvidence spelled_failureEvidence,
    .of_spelled roundTrips_dependencyObservation spelled_dependencyObservation,
    .of_spelled roundTrips_policyDescriptor spelled_policyDescriptor,
    .of_spelled roundTrips_fenceRecord spelled_fenceRecord,
    .of_spelled roundTrips_leaseRecord spelled_leaseRecord,
    .of_spelled roundTrips_attemptRecord spelled_attemptRecord,
    .of_spelled roundTrips_failoverIntent spelled_failoverIntent,
    .of_spelled roundTrips_effectReport spelled_effectReport⟩

/-- An encoding followed by more than a reader takes is refused. -/
theorem not_decoded_oversized : ∃ (value : TargetIncarnation) (bytes rest : Bytes),
    CanonicalWriter.run (encodeTargetIncarnation value) = some bytes ∧
      decodeFrom decodeTargetIncarnation (bytes ++ rest) = .error .oversized := by
  refine ⟨{}, List.replicate 16 0, List.replicate kMaxTotalBytes 0, by decide, ?_⟩
  rw [decodeFrom_eq, if_neg]
  rw [List.length_append, List.length_replicate, List.length_replicate]
  omega

end OffloadFabric
