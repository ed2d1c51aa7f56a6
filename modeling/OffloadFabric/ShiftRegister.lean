import Mathlib

/-!
Feedback shift registers of any width, as cyclic redundancy checks use them. The register
is linear in the exclusive or, and invertible as soon as the feedback word has its top bit
set. Hence two bit strings that differ in one burst no longer than the register leave it in
different states, whatever stands before and behind the burst.
-/
namespace ShiftRegister

variable {w : Nat}

/-- One step: the register moves down a place, and a one that falls out is fed back. -/
def shift (poly state : BitVec w) : BitVec w :=
  if state.getLsbD 0 then (state >>> 1) ^^^ poly else state >>> 1

def shifts (poly : BitVec w) (n : Nat) (state : BitVec w) : BitVec w := (shift poly)^[n] state

/-- A bit at the lowest place of the register. -/
def lowest (bit : Bool) : BitVec w := (BitVec.ofBool bit).setWidth w

/-- Take in one bit. -/
def feed (poly state : BitVec w) (bit : Bool) : BitVec w := shift poly (state ^^^ lowest bit)

/-- Take in a bit string, first bit first. -/
def absorb (poly state : BitVec w) (bits : List Bool) : BitVec w := bits.foldl (feed poly) state

/-- A bit string as a register, first bit lowest. -/
def word : List Bool → BitVec w
  | [] => 0
  | bit :: rest => lowest bit ^^^ (word rest <<< 1)

/-! ### Steps -/

section Steps

variable {poly state state' : BitVec w} {bit bit' : Bool} {bits bits' : List Bool} {n : Nat}

theorem shift_xor (poly state state' : BitVec w) :
    shift poly (state ^^^ state') = shift poly state ^^^ shift poly state' := by
  unfold shift
  rw [BitVec.getLsbD_xor, BitVec.ushiftRight_xor_distrib]
  cases state.getLsbD 0 <;> cases state'.getLsbD 0
  · simp
  · simp [BitVec.xor_assoc]
  · simp only [Bool.bne_false, if_true, Bool.false_eq_true, if_false]
    ac_rfl
  · simp only [bne_self_eq_false, Bool.false_eq_true, if_false, if_true]
    rw [BitVec.xor_assoc (state >>> 1), BitVec.xor_comm (state' >>> 1), ← BitVec.xor_assoc poly,
      BitVec.xor_self, BitVec.zero_xor]

/-- The top bit of a step is the bit that fell out. -/
theorem msb_shift (hpoly : poly.msb = true) (state : BitVec w) :
    (shift poly state).msb = state.getLsbD 0 := by
  unfold shift
  split
  next h => rw [BitVec.msb_xor, BitVec.msb_ushiftRight, hpoly, h]; rfl
  next h => rw [BitVec.msb_ushiftRight]; simpa using h

/-- No two states have the same successor. -/
theorem shift_injective (hpoly : poly.msb = true) : Function.Injective (shift poly) := by
  intro state state' h
  have hlow : state.getLsbD 0 = state'.getLsbD 0 := by
    rw [← msb_shift hpoly, ← msb_shift hpoly, h]
  have hhigh : state >>> 1 = state' >>> 1 := by
    unfold shift at h
    rw [hlow] at h
    split at h
    · exact (BitVec.xor_left_inj _).mp h
    · exact h
  apply BitVec.eq_of_getLsbD_eq
  intro i hi
  cases i with
  | zero => exact hlow
  | succ i =>
    have := congrArg (·.getLsbD i) hhigh
    simpa only [BitVec.getLsbD_ushiftRight, Nat.add_comm 1 i] using this

theorem shifts_succ (poly : BitVec w) (n : Nat) (state : BitVec w) :
    shifts poly (n + 1) state = shifts poly n (shift poly state) := rfl

theorem shifts_succ' (poly : BitVec w) (n : Nat) (state : BitVec w) :
    shifts poly (n + 1) state = shift poly (shifts poly n state) :=
  Function.iterate_succ_apply' _ n state

theorem shifts_xor (poly : BitVec w) (n : Nat) (state state' : BitVec w) :
    shifts poly n (state ^^^ state') = shifts poly n state ^^^ shifts poly n state' := by
  induction n generalizing state state' with
  | zero => rfl
  | succ n ih => rw [shifts_succ, shifts_succ, shifts_succ, shift_xor, ih]

theorem shifts_injective (hpoly : poly.msb = true) (n : Nat) :
    Function.Injective (shifts poly n) :=
  (shift_injective hpoly).iterate n

/-- As long as only zeros fall out, the register just moves. -/
theorem shifts_of_zeros (hzeros : ∀ i < n, state.getLsbD i = false) :
    shifts poly n state = state >>> n := by
  induction n with
  | zero => simp [shifts]
  | succ n ih =>
    have hlow : (state >>> n).getLsbD 0 = false := by
      rw [BitVec.getLsbD_ushiftRight, Nat.add_zero]
      exact hzeros n (by omega)
    rw [shifts_succ', ih (fun i hi => hzeros i (by omega)), shift, hlow, BitVec.shiftRight_add]
    simp

/-- The low bits of a register fall out one by one, and the rest moves down. -/
theorem shifts_split {low : BitVec w} (hlow : ∀ i < n, low.getLsbD i = state.getLsbD i)
    (hhigh : ∀ i, n ≤ i → low.getLsbD i = false) :
    shifts poly n state = shifts poly n low ^^^ (state >>> n) := by
  have hzeros : ∀ i < n, (low ^^^ state).getLsbD i = false := by
    intro i hi
    rw [BitVec.getLsbD_xor, hlow i hi, Bool.xor_self]
  have hgone : low >>> n = 0#w := by
    apply BitVec.eq_of_getLsbD_eq
    intro i hi
    rw [BitVec.getLsbD_ushiftRight, hhigh _ (Nat.le_add_right n i)]
    simp
  have hrest : shifts poly n (low ^^^ state) = (low ^^^ state) >>> n := shifts_of_zeros hzeros
  rw [BitVec.ushiftRight_xor_distrib, hgone, BitVec.zero_xor] at hrest
  rw [← hrest, ← shifts_xor, ← BitVec.xor_assoc, BitVec.xor_self, BitVec.zero_xor]

/-- A step back over a zero that was moved in. -/
theorem shift_shiftLeft (hbit : state.msb = false) : shift poly (state <<< 1) = state := by
  have hlow : (state <<< 1).getLsbD 0 = false := by
    simp
  rw [shift, hlow]
  simp only [Bool.false_eq_true, if_false]
  apply BitVec.eq_of_getLsbD_eq
  intro i hi
  rw [BitVec.getLsbD_ushiftRight, BitVec.getLsbD_shiftLeft]
  by_cases hlast : 1 + i < w
  · simp [hlast]
  · have htop : i = w - 1 := by omega
    rw [BitVec.msb_eq_getLsbD_last, ← htop] at hbit
    simp [hlast, hbit]

end Steps

/-! ### Bit strings -/

section Strings

variable {poly state state' : BitVec w} {bits bits' : List Bool}

theorem absorb_cons (poly state : BitVec w) (bit : Bool) (bits : List Bool) :
    absorb poly state (bit :: bits) = absorb poly (feed poly state bit) bits := rfl

theorem absorb_append (poly state : BitVec w) (bits bits' : List Bool) :
    absorb poly state (bits ++ bits') = absorb poly (absorb poly state bits) bits' :=
  List.foldl_append

/-- The same bits keep different registers apart. -/
theorem absorb_injective (hpoly : poly.msb = true) (bits : List Bool) :
    Function.Injective fun state => absorb poly state bits := by
  induction bits with
  | nil => exact fun _ _ h => h
  | cons bit bits ih =>
    intro state state' h
    have hfeed : feed poly state bit = feed poly state' bit := ih h
    exact (BitVec.xor_left_inj _).mp (shift_injective hpoly hfeed)

theorem getLsbD_lowest (bit : Bool) (i : Nat) :
    (lowest bit : BitVec w).getLsbD i = (decide (i = 0) && decide (i < w) && bit) := by
  simp only [lowest, BitVec.getLsbD_setWidth, BitVec.getLsbD_ofBool]
  by_cases hi : i = 0
  · simp [hi]
  · simp [hi]

/-- The word of a bit string that fits the register has the bits of the string. -/
theorem getLsbD_word (bits : List Bool) (i : Nat) :
    (word bits : BitVec w).getLsbD i = (decide (i < w) && bits.getD i false) := by
  induction bits generalizing i with
  | nil => simp [word]
  | cons bit bits ih =>
    rw [word, BitVec.getLsbD_xor, getLsbD_lowest, BitVec.getLsbD_shiftLeft]
    cases i with
    | zero => simp
    | succ i =>
      simp only [Nat.add_sub_cancel, ih, List.getD_cons_succ]
      by_cases hi : i + 1 < w
      · have : i < w := by omega
        simp [hi, this]
      · simp [hi]

/-- Strings of one length that fit the register are told apart by their words. -/
theorem word_injective (hfits : bits.length ≤ w) (hlength : bits'.length = bits.length)
    (h : (word bits : BitVec w) = word bits') : bits = bits' := by
  apply List.ext_getElem hlength.symm
  intro i hi hi'
  have hbit := congrArg (·.getLsbD i) h
  have hw : i < w := by omega
  rw [getLsbD_word, getLsbD_word, List.getD_eq_getElem _ _ hi, List.getD_eq_getElem _ _ hi'] at hbit
  simpa [hw] using hbit

/-- A string that fits the register may be laid over it before any step is taken. -/
theorem absorb_eq_shifts (poly state : BitVec w) (hfits : bits.length ≤ w) :
    absorb poly state bits = shifts poly bits.length (state ^^^ word bits) := by
  induction bits generalizing state with
  | nil => simp [absorb, shifts, word]
  | cons bit bits ih =>
    have hshort : bits.length < w := by simpa using hfits
    have htop : (word bits : BitVec w).msb = false := by
      rw [BitVec.msb_eq_getLsbD_last, getLsbD_word, List.getD_eq_default _ _ (by omega)]
      simp
    rw [absorb_cons, ih _ (by omega), List.length_cons, shifts_succ, word, ← BitVec.xor_assoc,
      shift_xor, shift_shiftLeft htop]
    rfl

/-- Two bursts of one length that fit the register leave it in different states, and no
common suffix makes them equal again. -/
theorem absorb_burst (hpoly : poly.msb = true) (state : BitVec w) (before after : List Bool)
    (hfits : bits.length ≤ w) (hlength : bits'.length = bits.length) (hne : bits ≠ bits') :
    absorb poly state (before ++ bits ++ after) ≠ absorb poly state (before ++ bits' ++ after) := by
  intro h
  rw [absorb_append, absorb_append, absorb_append, absorb_append] at h
  have hburst := absorb_injective hpoly after h
  have hfits' : bits'.length ≤ w := by omega
  rw [absorb_eq_shifts _ _ hfits, absorb_eq_shifts _ _ hfits', hlength] at hburst
  exact hne (word_injective hfits hlength
    ((BitVec.xor_right_inj _).mp (shifts_injective hpoly _ hburst)))

end Strings

end ShiftRegister
