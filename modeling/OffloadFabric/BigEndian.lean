import Mathlib

/-!
Fixed-width big-endian byte strings. Writing a number in `width` bytes and
reading it back keeps it modulo `256 ^ width`; reading any `width` bytes and
writing them again gives the same bytes.
-/
namespace OffloadFabric

abbrev Bytes := List UInt8

namespace BigEndian

/-- The low `width` base-256 digits of `n`, most significant first. -/
def ofNat : Nat → Nat → Bytes
  | 0, _ => []
  | width + 1, n => UInt8.ofNat (n / 256 ^ width) :: ofNat width n

def toNat (bytes : Bytes) : Nat := bytes.foldl (fun acc b => acc * 256 + b.toNat) 0

@[simp] theorem length_ofNat (width n : Nat) : (ofNat width n).length = width := by
  induction width with
  | zero => rfl
  | succ width ih => simp [ofNat, ih]

theorem foldl_digits (bytes : Bytes) (acc : Nat) :
    bytes.foldl (fun acc b => acc * 256 + b.toNat) acc =
      acc * 256 ^ bytes.length + toNat bytes := by
  induction bytes generalizing acc with
  | nil => simp [toNat]
  | cons b rest ih =>
    rw [List.foldl_cons, ih]
    have hrest : toNat (b :: rest) = b.toNat * 256 ^ rest.length + toNat rest := by
      rw [toNat, List.foldl_cons, ih]
      simp
    rw [hrest, List.length_cons, pow_succ]
    ring

theorem toNat_cons (b : UInt8) (rest : Bytes) :
    toNat (b :: rest) = b.toNat * 256 ^ rest.length + toNat rest := by
  rw [toNat, List.foldl_cons, foldl_digits]
  simp

theorem toNat_lt (bytes : Bytes) : toNat bytes < 256 ^ bytes.length := by
  induction bytes with
  | nil => simp [toNat]
  | cons b rest ih =>
    have hb : b.toNat < 256 := b.toNat_lt
    have hmul : (b.toNat + 1) * 256 ^ rest.length ≤ 256 * 256 ^ rest.length :=
      Nat.mul_le_mul_right _ hb
    rw [toNat_cons, List.length_cons, pow_succ]
    rw [Nat.add_mul, Nat.one_mul] at hmul
    omega

theorem toNat_ofNat (width n : Nat) : toNat (ofNat width n) = n % 256 ^ width := by
  induction width with
  | zero => simp [ofNat, toNat, Nat.mod_one]
  | succ width ih =>
    have hsplit : n % 256 ^ (width + 1) =
        n % 256 ^ width + 256 ^ width * (n / 256 ^ width % 256) := by
      rw [pow_succ, Nat.mod_mul]
    rw [ofNat, toNat_cons, length_ofNat, ih, UInt8.toNat_ofNat', hsplit, Nat.add_comm,
      Nat.mul_comm (256 ^ width)]

theorem toNat_ofNat_of_lt {width n : Nat} (h : n < 256 ^ width) :
    toNat (ofNat width n) = n := by rw [toNat_ofNat, Nat.mod_eq_of_lt h]

theorem ofNat_add_mul (width n k : Nat) : ofNat width (k * 256 ^ width + n) = ofNat width n := by
  induction width generalizing k with
  | zero => rfl
  | succ width ih =>
    have hsplit : k * 256 ^ (width + 1) + n = k * 256 * 256 ^ width + n := by
      rw [pow_succ]
      ring
    have hdigit : (k * 256 * 256 ^ width + n) / 256 ^ width = k * 256 + n / 256 ^ width := by
      rw [Nat.add_comm, Nat.add_mul_div_right _ _ (by positivity), Nat.add_comm]
    rw [ofNat, ofNat, hsplit, ih, hdigit]
    congr 1
    apply UInt8.toNat_inj.mp
    rw [UInt8.toNat_ofNat', UInt8.toNat_ofNat', Nat.add_comm]
    simp

theorem ofNat_toNat (bytes : Bytes) : ofNat bytes.length (toNat bytes) = bytes := by
  induction bytes with
  | nil => rfl
  | cons b rest ih =>
    have hdigit : (b.toNat * 256 ^ rest.length + toNat rest) / 256 ^ rest.length = b.toNat := by
      rw [Nat.add_comm, Nat.add_mul_div_right _ _ (by positivity),
        Nat.div_eq_of_lt (toNat_lt rest), Nat.zero_add]
    rw [List.length_cons, ofNat, toNat_cons, hdigit, ofNat_add_mul, ih]
    simp

end BigEndian

end OffloadFabric
