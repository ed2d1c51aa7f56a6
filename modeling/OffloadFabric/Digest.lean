import OffloadFabric.BigEndian

/-!
Checksums and content digests over byte strings: the CRC-32C that guards every
frame on disk, and the 128-bit streaming digest that fingerprints canonical
encodings.
-/
namespace OffloadFabric

def kCrc32cPolynomial : UInt32 := 0x82F63B78

/-- One entry of the CRC table: eight shifts of the reflected polynomial. -/
def crcTableEntry (index : UInt32) : UInt32 :=
  (List.range 8).foldl
    (fun value _ => if value &&& 1 ≠ 0 then (value >>> 1) ^^^ kCrc32cPolynomial else value >>> 1)
    index

def crcStep (state : UInt32) (byte : UInt8) : UInt32 :=
  crcTableEntry ((state ^^^ byte.toUInt32) &&& 0xFF) ^^^ (state >>> 8)

/-- CRC-32C of a byte string, continuing from `seed`. -/
def crc32c (data : Bytes) (seed : UInt32 := 0) : UInt32 :=
  data.foldl crcStep (seed ^^^ 0xFFFFFFFF) ^^^ 0xFFFFFFFF

/-- Checksumming in two pieces is checksumming the whole. -/
theorem crc32c_append (a b : Bytes) (seed : UInt32) :
    crc32c (a ++ b) seed = crc32c b (crc32c a seed) := by
  simp only [crc32c, List.foldl_append]
  rw [UInt32.xor_assoc, UInt32.xor_self, UInt32.xor_zero]

@[ext] structure Digest where
  hi : UInt64 := 0
  lo : UInt64 := 0
  deriving DecidableEq, Inhabited

namespace Digest

def isZero (digest : Digest) : Bool := digest.hi == 0 && digest.lo == 0

end Digest

/-- Streaming digest state; the defaults are the two offset bases. -/
structure DigestBuilder where
  hi : UInt64 := 0xcbf29ce484222325
  lo : UInt64 := 0x9e3779b97f4a7c15

namespace DigestBuilder

def kFnvPrime : UInt64 := 0x00000100000001B3
def kFnvPrimeB : UInt64 := 0x00000100000001B5

def updateByte (builder : DigestBuilder) (byte : UInt8) : DigestBuilder :=
  let hi := (builder.hi ^^^ byte.toUInt64) * kFnvPrime
  let sum := builder.lo + byte.toUInt64
  let lo := (sum ^^^ (sum >>> 29)) * kFnvPrimeB
  { hi, lo }

def update (builder : DigestBuilder) (data : Bytes) : DigestBuilder :=
  data.foldl updateByte builder

def value (builder : DigestBuilder) : Digest :=
  { hi := builder.hi, lo := builder.lo ^^^ (builder.hi >>> 17) }

end DigestBuilder

/-- Digest of one complete byte string. -/
def digestOf (data : Bytes) : Digest := (({} : DigestBuilder).update data).value

end OffloadFabric
