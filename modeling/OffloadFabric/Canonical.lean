import OffloadFabric.Codec
import OffloadFabric.Digest
import OffloadFabric.Reason
import OffloadFabric.Strong

/-!
The canonical binary codec. Integers are big-endian fixed width, text is
length-prefixed, optional values carry a presence byte and collections a checked
count. A writer that exceeds a ceiling loses its whole buffer, and a reader
stops at the first violation with its reason.
-/
namespace OffloadFabric

open Codec

/-! ### Ceilings -/

def kMaxTextBytes : Nat := 4096
def kMaxBlobBytes : Nat := 1048576
def kMaxItems : Nat := 1048576
def kMaxDepth : Nat := 32
def kMaxTotalBytes : Nat := 268435456

/-! ### Writer -/

/-- The writer's buffer; `none` is the failed writer, whose buffer is cleared. -/
abbrev CanonicalWriter := Option Bytes

abbrev Encoder := Emit UInt8 Unit

namespace CanonicalWriter

/-- The bytes written by `encoder` from an empty buffer. -/
def run (encoder : Encoder) : CanonicalWriter := (encoder (some [])).2

def ok (writer : CanonicalWriter) : Bool := writer.isSome

def buffer (writer : CanonicalWriter) : Bytes := writer.getD []

def digest (writer : CanonicalWriter) : Digest := digestOf writer.buffer

end CanonicalWriter

/-- Reserve room for `bytes` under the total ceiling, then append them. -/
def append (bytes : Bytes) : Encoder := fun writer =>
  match writer with
  | none => ((), none)
  | some buf =>
    if kMaxTotalBytes < bytes.length ∨ kMaxTotalBytes - bytes.length < buf.length then ((), none)
    else ((), some (buf ++ bytes))

def failWriter : Encoder := fun _ => ((), none)

def putU8 (value : UInt8) : Encoder := append (BigEndian.ofNat 1 value.toNat)
def putU16 (value : UInt16) : Encoder := append (BigEndian.ofNat 2 value.toNat)
def putU32 (value : UInt32) : Encoder := append (BigEndian.ofNat 4 value.toNat)
def putU64 (value : UInt64) : Encoder := append (BigEndian.ofNat 8 value.toNat)
def putBool (value : Bool) : Encoder := putU8 (if value then 1 else 0)
def putAbsence : Encoder := putU8 0
def putPresence : Encoder := putU8 1

def putText (value : Bytes) : Encoder :=
  if kMaxTextBytes < value.length then failWriter
  else append (BigEndian.ofNat 4 value.length ++ value)

def putBlob (value : Bytes) : Encoder :=
  if kMaxBlobBytes < value.length then failWriter
  else append (BigEndian.ofNat 4 value.length ++ value)

/-- Writes a collection count; false when the writer has failed. -/
def putCount (count : Nat) : Emit UInt8 Bool := fun writer =>
  match writer with
  | none => (false, none)
  | some buf =>
    if kMaxItems < count then (false, none)
    else
      let next := (append (BigEndian.ofNat 4 count) (some buf)).2
      (next.isSome, next)

/-- A counted collection: its elements are written only after a good count. -/
def encodeList {α : Type} (items : List α) (encodeOne : α → Encoder) : Encoder := do
  if ← putCount items.length then items.forM encodeOne

/-! ### Reader -/

/-- The unread bytes, with the nesting depth as context. -/
abbrev CanonicalReader := Source UInt8 Nat

abbrev Decoder (α : Type) := Parse UInt8 Nat Reason α

namespace CanonicalReader

/-- A reader over `data`; data over the total ceiling is refused at once. -/
def ofBytes (data : Bytes) : Except Reason CanonicalReader :=
  if kMaxTotalBytes < data.length then .error .oversized else .ok ⟨data, 0⟩

def atEnd (reader : CanonicalReader) : Bool := reader.rest.isEmpty

end CanonicalReader

/-- Decode a value from the start of `data`, keeping the reader it leaves. -/
def decodeFrom {α : Type} (decoder : Decoder α) (data : Bytes) :
    Except Reason (α × CanonicalReader) := CanonicalReader.ofBytes data >>= decoder

def take (count : Nat) : Decoder Bytes := fun reader =>
  if count ≤ reader.rest.length then
    .ok (reader.rest.take count, { reader with rest := reader.rest.drop count })
  else .error .truncated

def getU8 : Decoder UInt8 := do return UInt8.ofNat (BigEndian.toNat (← take 1))
def getU16 : Decoder UInt16 := do return UInt16.ofNat (BigEndian.toNat (← take 2))
def getU32 : Decoder UInt32 := do return UInt32.ofNat (BigEndian.toNat (← take 4))
def getU64 : Decoder UInt64 := do return UInt64.ofNat (BigEndian.toNat (← take 8))

def getBool : Decoder Bool := do
  let raw ← getU8
  check (raw ≤ 1) .malformed
  return raw == 1

def getPresence : Decoder Bool := getBool

def getText : Decoder Bytes := do
  let length ← getU32
  check (length.toNat ≤ kMaxTextBytes) .oversized
  take length.toNat

def getBlob : Decoder Bytes := do
  let length ← getU32
  check (length.toNat ≤ kMaxBlobBytes) .oversized
  take length.toNat

/-- A collection count, checked against the ceiling and the bytes that remain. -/
def getCount (elementMinBytes : Nat) : Decoder Nat := do
  let raw ← getU32
  check (raw.toNat ≤ kMaxItems) .oversized
  let reader ← get
  check (elementMinBytes = 0 ∨ raw.toNat ≤ reader.rest.length / elementMinBytes) .truncated
  return raw.toNat

def pushDepth : Decoder Unit := fun reader =>
  if kMaxDepth ≤ reader.context then .error .depthExceeded
  else .ok ((), { reader with context := reader.context + 1 })

def popDepth : Decoder Unit := fun reader =>
  .ok ((), { reader with context := reader.context - 1 })

/-- Read one nested collection: one level deeper on entry, back on exit. -/
def nested {α : Type} (decoder : Decoder α) : Decoder α := do
  pushDepth
  let value ← decoder
  popDepth
  return value

/-- An optional value carries an explicit presence byte. -/
def encodeOptional {α : Type} (value : Option α) (encodeOne : α → Encoder) : Encoder :=
  match value with
  | some item => do
    putPresence
    encodeOne item
  | none => putAbsence

def decodeOptional {α : Type} (decodeOne : Decoder α) : Decoder (Option α) := do
  if ← getPresence then
    let item ← decodeOne
    return some item
  else
    return none

/-! ### Round trips -/

/-- Readers with room for `level` more nested collections. -/
def Within (level : Nat) (depth : Nat) : Prop := depth + level ≤ kMaxDepth

/-- `decoder` reads `value` back from what `encoder` writes, at any depth with
room for `level` more nested collections. -/
abbrev RoundTrips {α : Type} (level least : Nat) (encoder : Encoder) (decoder : Decoder α)
    (value : α) (accepted : Prop) : Prop :=
  Carries kMaxTotalBytes (Within level) least encoder decoder value accepted

variable {α τ : Type} {level : Nat}

theorem appends_append (bytes : Bytes) : Appends kMaxTotalBytes (append bytes) bytes := by
  intro w
  cases w with
  | none => exact Or.inl rfl
  | some buf =>
    by_cases h : kMaxTotalBytes < bytes.length ∨ kMaxTotalBytes - bytes.length < buf.length
    · exact Or.inl (by simp only [append, if_pos h])
    · refine Or.inr ⟨buf, rfl, by simp only [append, if_neg h], Or.inr ?_⟩
      rw [List.length_append]
      omega

theorem take_append (bytes rest : Bytes) (depth : Nat) :
    take bytes.length ⟨bytes ++ rest, depth⟩ = .ok (bytes, ⟨rest, depth⟩) := by
  simp [take]

theorem reads_take (bytes : Bytes) :
    Reads (Within level) (take bytes.length) bytes bytes True :=
  fun rest depth _ => ⟨fun _ => take_append bytes rest depth, fun h => absurd trivial h⟩

theorem roundTrips_append {count : Nat} {bytes : Bytes} (h : bytes.length = count) :
    RoundTrips level count (append bytes) (take count) bytes True := by
  subst h
  exact ⟨bytes, appends_append bytes, Or.inr ⟨Nat.le_refl _, reads_take bytes⟩⟩

/-- A fixed-width number is read back through any decoding `g` of its value. -/
theorem roundTrips_fixed {width n : Nat} (h : n < 256 ^ width) (g : Nat → α) :
    RoundTrips level width (append (BigEndian.ofNat width n))
      (do return g (BigEndian.toNat (← take width))) (g n) True := by
  have htake : RoundTrips level width (append (BigEndian.ofNat width n)) (take width)
      (BigEndian.ofNat width n) True := roundTrips_append (BigEndian.length_ofNat width n)
  refine (htake.map fun b => g (BigEndian.toNat b)).congr_value ?_
  rw [BigEndian.toNat_ofNat_of_lt h]

theorem roundTrips_u8 (value : UInt8) : RoundTrips level 1 (putU8 value) getU8 value True :=
  (roundTrips_fixed (by simpa using value.toNat_lt) UInt8.ofNat).congr_value UInt8.ofNat_toNat

theorem roundTrips_u16 (value : UInt16) : RoundTrips level 2 (putU16 value) getU16 value True :=
  (roundTrips_fixed (by simpa using value.toNat_lt) UInt16.ofNat).congr_value UInt16.ofNat_toNat

theorem roundTrips_u32 (value : UInt32) : RoundTrips level 4 (putU32 value) getU32 value True :=
  (roundTrips_fixed (by simpa using value.toNat_lt) UInt32.ofNat).congr_value UInt32.ofNat_toNat

theorem roundTrips_u64 (value : UInt64) : RoundTrips level 8 (putU64 value) getU64 value True :=
  (roundTrips_fixed (by simpa using value.toNat_lt) UInt64.ofNat).congr_value UInt64.ofNat_toNat

theorem roundTrips_bool (value : Bool) : RoundTrips level 1 (putBool value) getBool value True := by
  refine ⟨[if value then 1 else 0], ?_,
    Or.inr ⟨Nat.le_refl 1, fun rest depth _ => ⟨fun _ => ?_, ?_⟩⟩⟩
  · cases value <;> exact appends_append _
  · cases value <;> rfl
  · exact fun h => absurd trivial h

theorem parse_bind (decoder : Decoder α) (f : α → Decoder τ) (reader : CanonicalReader) :
    (decoder >>= f) reader = (decoder reader).bind fun r => f r.1 r.2 := rfl

theorem getU32_append {n : Nat} (h : n < 256 ^ 4) (rest : Bytes) (depth : Nat) :
    getU32 ⟨BigEndian.ofNat 4 n ++ rest, depth⟩ = .ok (UInt32.ofNat n, ⟨rest, depth⟩) := by
  have htake := take_append (BigEndian.ofNat 4 n) rest depth
  rw [BigEndian.length_ofNat] at htake
  rw [getU32, parse_bind, htake]
  simp only [Except.bind, BigEndian.toNat_ofNat_of_lt h]
  rfl

theorem toNat_ofNat_u32 {n : Nat} (h : n < 256 ^ 4) : (UInt32.ofNat n).toNat = n :=
  UInt32.toNat_ofNat_of_lt' (by simpa using h)

/-- Bytes that follow their length, at most `ceiling` of them: texts and blobs. -/
def putPrefixed (ceiling : Nat) (value : Bytes) : Encoder :=
  if ceiling < value.length then failWriter
  else append (BigEndian.ofNat 4 value.length ++ value)

def getPrefixed (ceiling : Nat) : Decoder Bytes := do
  let length ← getU32
  check (length.toNat ≤ ceiling) .oversized
  take length.toNat

theorem getPrefixed_append {ceiling : Nat} (hceiling : ceiling < 256 ^ 4) {value : Bytes}
    (h : value.length ≤ ceiling) (rest : Bytes) (depth : Nat) :
    getPrefixed ceiling ⟨BigEndian.ofNat 4 value.length ++ (value ++ rest), depth⟩ =
      .ok (value, ⟨rest, depth⟩) := by
  have hlt : value.length < 256 ^ 4 := by omega
  rw [getPrefixed, parse_bind, getU32_append hlt]
  have hmax : (UInt32.ofNat value.length).toNat ≤ ceiling := by rwa [toNat_ofNat_u32 hlt]
  simp only [Except.bind, check_true hmax]
  change take (UInt32.ofNat value.length).toNat _ = _
  rw [toNat_ofNat_u32 hlt]
  exact take_append value rest depth

theorem getCount_append {elementMinBytes count : Nat} {bytes : Bytes} (hcount : count ≤ kMaxItems)
    (hmin : elementMinBytes * count ≤ bytes.length) (depth : Nat) :
    getCount elementMinBytes ⟨BigEndian.ofNat 4 count ++ bytes, depth⟩ =
      .ok (count, ⟨bytes, depth⟩) := by
  have hlt : count < 256 ^ 4 := by
    rw [kMaxItems] at hcount
    omega
  have hnat := toNat_ofNat_u32 hlt
  have hmax : (UInt32.ofNat count).toNat ≤ kMaxItems := by rwa [hnat]
  have haff : elementMinBytes = 0 ∨
      (UInt32.ofNat count).toNat ≤ bytes.length / elementMinBytes := by
    rcases Nat.eq_zero_or_pos elementMinBytes with h | h
    · exact Or.inl h
    · rw [hnat]
      exact Or.inr ((Nat.le_div_iff_mul_le h).mpr (by rwa [Nat.mul_comm]))
  rw [getCount, parse_bind, getU32_append hlt]
  simp only [Except.bind, check_true hmax]
  change Except.bind ((check (elementMinBytes = 0 ∨
    (UInt32.ofNat count).toNat ≤ bytes.length / elementMinBytes) Reason.truncated : Decoder Unit)
    ⟨bytes, depth⟩) (fun r => .ok ((UInt32.ofNat count).toNat, r.2)) = _
  rw [check_true haff, hnat]
  rfl

/-- Bytes over the ceiling are refused by the writer, so they are never read back. -/
theorem roundTrips_prefixed {ceiling : Nat} (hceiling : ceiling < 256 ^ 4) (value : Bytes) :
    RoundTrips level 4 (putPrefixed ceiling value) (getPrefixed ceiling) value True := by
  by_cases h : ceiling < value.length
  · refine ⟨[], ?_, Or.inl ?_⟩ <;> intro w <;> simp [putPrefixed, h, failWriter]
  · refine ⟨BigEndian.ofNat 4 value.length ++ value, ?_, Or.inr ⟨by simp, ?_⟩⟩
    · rw [putPrefixed, if_neg h]
      exact appends_append _
    · intro rest depth _
      refine ⟨fun _ => ?_, fun h => absurd trivial h⟩
      rw [List.append_assoc]
      exact getPrefixed_append hceiling (not_lt.mp h) rest depth

theorem roundTrips_text (value : Bytes) : RoundTrips level 4 (putText value) getText value True :=
  roundTrips_prefixed (by decide) value

theorem roundTrips_blob (value : Bytes) : RoundTrips level 4 (putBlob value) getBlob value True :=
  roundTrips_prefixed (by decide) value

theorem putCount_fst (count : Nat) (w : CanonicalWriter) :
    (putCount count w).1 = (putCount count w).2.isSome := by
  cases w with
  | none => rfl
  | some buf =>
    simp only [putCount]
    split <;> rfl

theorem putCount_snd {count : Nat} (h : count ≤ kMaxItems) (w : CanonicalWriter) :
    (putCount count w).2 = (append (BigEndian.ofNat 4 count) w).2 := by
  cases w with
  | none => rfl
  | some buf => simp only [putCount, if_neg (not_lt.mpr h)]

/-- Guarding a body by its count is writing the count, then the body. -/
theorem counted_snd {count : Nat} {encoder : Encoder} (h : (encoder none).2 = none)
    (hcount : count ≤ kMaxItems) (w : CanonicalWriter) :
    ((do if ← putCount count then encoder : Encoder) w).2 =
      ((append (BigEndian.ofNat 4 count) >>= fun _ => encoder) w).2 := by
  have hrun : ((do if ← putCount count then encoder : Encoder) w).2 =
      ((if (putCount count w).1 = true then encoder else pure ()) (putCount count w).2).2 := rfl
  have hright : ((append (BigEndian.ofNat 4 count) >>= fun _ => encoder) w).2 =
      (encoder (append (BigEndian.ofNat 4 count) w).2).2 := rfl
  rw [hrun, hright, putCount_fst, ← putCount_snd hcount]
  cases (putCount count w).2 with
  | none => exact h.symm
  | some buf => rfl

theorem givesUp_counted {count : Nat} (encoder : Encoder) (hcount : kMaxItems < count) :
    GivesUp (do if ← putCount count then encoder : Encoder) := by
  intro w
  cases w with
  | none => rfl
  | some buf =>
    have hput : putCount count (some buf) = (false, none) := by simp only [putCount, if_pos hcount]
    change ((if (putCount count (some buf)).1 = true then encoder else pure ())
      (putCount count (some buf)).2).2 = none
    rw [hput]
    rfl

theorem roundTrips_count {elementMinBytes count : Nat} {encoder : Encoder} {f : Nat → Decoder α}
    {value : α} {accepted : Prop}
    (h : RoundTrips level (elementMinBytes * count) encoder (f count) value accepted) :
    RoundTrips level 4 (do if ← putCount count then encoder)
      (getCount elementMinBytes >>= f) value accepted := by
  obtain ⟨bytes, happ, hread⟩ := h
  by_cases hcount : count ≤ kMaxItems
  · have hsnd := counted_snd happ.of_none hcount
    refine ⟨BigEndian.ofNat 4 count ++ bytes, ?_, ?_⟩
    · intro w
      rw [hsnd]
      exact (appends_append _).bind (fun _ => happ) w
    · rcases hread with hgives | ⟨hmin, hreads⟩
      · exact Or.inl fun w => by rw [hsnd]; exact GivesUp.bind_right (fun _ => hgives) w
      · refine Or.inr ⟨by simp, fun rest depth hdepth => ?_⟩
        have hget : getCount elementMinBytes ⟨BigEndian.ofNat 4 count ++ (bytes ++ rest), depth⟩ =
            .ok (count, ⟨bytes ++ rest, depth⟩) :=
          getCount_append hcount (by rw [List.length_append]; omega) depth
        have hrun : (getCount elementMinBytes >>= f)
            ⟨BigEndian.ofNat 4 count ++ bytes ++ rest, depth⟩ = f count ⟨bytes ++ rest, depth⟩ := by
          rw [List.append_assoc]
          change (getCount elementMinBytes _).bind _ = _
          rw [hget]
          rfl
        rw [hrun]
        exact hreads rest depth hdepth
  · have hgives := givesUp_counted encoder (not_le.mp hcount)
    exact ⟨[], fun w => Or.inl (hgives w), Or.inl hgives⟩

theorem RoundTrips.nested {least : Nat} {encoder : Encoder} {decoder : Decoder α} {value : α}
    {accepted : Prop} (h : RoundTrips level least encoder decoder value accepted) :
    RoundTrips (level + 1) least encoder (nested decoder) value accepted := by
  obtain ⟨bytes, happ, hread⟩ := h
  refine ⟨bytes, happ, hread.imp_right fun hr => ⟨hr.1, fun rest depth hdepth => ?_⟩⟩
  have hpush : ¬ kMaxDepth ≤ depth := by
    have : depth + (level + 1) ≤ kMaxDepth := hdepth
    omega
  have hinner : Within level (depth + 1) := by
    have : depth + (level + 1) ≤ kMaxDepth := hdepth
    unfold Within
    omega
  have hrun : OffloadFabric.nested decoder ⟨bytes ++ rest, depth⟩ =
      (decoder ⟨bytes ++ rest, depth + 1⟩).bind
        fun r => .ok (r.1, { r.2 with context := r.2.context - 1 }) := by
    rw [OffloadFabric.nested, parse_bind]
    simp only [pushDepth, if_neg hpush]
    rfl
  rw [hrun]
  constructor
  · intro hacc
    rw [(hr.2 rest _ hinner).1 hacc]
    rfl
  · intro hacc
    obtain ⟨err, herr⟩ := (hr.2 rest _ hinner).2 hacc
    exact ⟨err, by rw [herr]; rfl⟩

theorem roundTrips_optional {value : Option α} {encodeOne : α → Encoder} {decodeOne : Decoder α}
    {accepted : α → Prop}
    (h : ∀ item, value = some item →
      RoundTrips level 0 (encodeOne item) decodeOne item (accepted item)) :
    RoundTrips level 1 (encodeOptional value encodeOne) (decodeOptional decodeOne) value
      (∀ item, value = some item → accepted item) := by
  cases value with
  | none =>
    have hflag : RoundTrips level 1 putAbsence getPresence false True := roundTrips_bool false
    refine (hflag.bind (f := fun present => if present then
      (do let item ← decodeOne; return some item) else return none)
      (Carries.pure none)).congr_accepted ?_
    simp
  | some item =>
    have hflag : RoundTrips level 1 putPresence getPresence true True := roundTrips_bool true
    refine (hflag.bind (f := fun present => if present then
      (do let item ← decodeOne; return some item) else return none)
      ((h item rfl).map some)).congr_accepted ?_
    simp

/-- Decoding a complete successful encoding: it succeeds exactly when accepted. -/
theorem RoundTrips.decodeFrom {least : Nat} {encoder : Encoder} {decoder : Decoder α} {value : α}
    {accepted : Prop} (h : RoundTrips level least encoder decoder value accepted)
    (hlevel : level ≤ kMaxDepth) {buf : Bytes} (hbuf : CanonicalWriter.run encoder = some buf) :
    (accepted → OffloadFabric.decodeFrom decoder buf = .ok (value, ⟨[], 0⟩)) ∧
      (¬accepted → ∃ err, OffloadFabric.decodeFrom decoder buf = .error err) := by
  have hlen : ¬ kMaxTotalBytes < buf.length := not_lt.mpr (h.length_le hbuf)
  have hrun : OffloadFabric.decodeFrom decoder buf = decoder ⟨buf, 0⟩ := by
    simp only [OffloadFabric.decodeFrom, CanonicalReader.ofBytes, if_neg hlen]
    rfl
  rw [hrun]
  exact h.decode hbuf (by unfold Within; omega)

end OffloadFabric
