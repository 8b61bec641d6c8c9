import Mathlib.Algebra.Group.Nat.Defs
import Mathlib.Tactic.Common

/-!
# Fields of a 32-bit register

A driver changes a field of a register by clearing a mask and setting a value. What it may rely on
is that the field reads back as the value and that every other field is as it was:

* **`field_and`**: inside the mask one reads the value;
* **`field_and_of_disjoint`**: outside the mask one reads the old content.

A number that is split over several fields is followed bit by bit: `bit_shiftLeft`, `bit_ofNat` and
their like say which bit of the number a bit of a word is.
-/

namespace Bits

/-- Bit `i` of a word. -/
def bit (w : UInt32) (i : Nat) : Bool := w.toBitVec.getLsbD i

theorem ext {a b : UInt32} (h : ∀ i < 32, bit a i = bit b i) : a = b := by
  rw [← UInt32.toBitVec_inj]
  exact BitVec.eq_of_getLsbD_eq h

@[simp] theorem bit_and (a b : UInt32) (i : Nat) : bit (a &&& b) i = (bit a i && bit b i) := by
  simp [bit]

@[simp] theorem bit_or (a b : UInt32) (i : Nat) : bit (a ||| b) i = (bit a i || bit b i) := by
  simp [bit]

theorem bit_not {i : Nat} (hi : i < 32) (a : UInt32) : bit (~~~a) i = !bit a i := by
  simp [bit, hi]

@[simp] theorem bit_zero (i : Nat) : bit 0 i = false := by
  simp [bit]

theorem bit_of_ge {i : Nat} (h : 32 ≤ i) (a : UInt32) : bit a i = false :=
  BitVec.getLsbD_of_ge a.toBitVec i h

/-! ## Numbers in words -/

theorem bit_ofNat {i : Nat} (hi : i < 32) (n : Nat) : bit (UInt32.ofNat n) i = n.testBit i := by
  show (n % 2 ^ 32).testBit i = n.testBit i
  rw [Nat.testBit_mod_two_pow, decide_eq_true hi, Bool.true_and]

theorem bit_toUInt32 {i : Nat} (hi : i < 32) (a : UInt64) : bit a.toUInt32 i = a.toNat.testBit i :=
  bit_ofNat hi a.toNat

theorem bit_shiftLeft {i : Nat} (hi : i < 32) (a : UInt32) {k : UInt32} (hk : k.toNat < 32) :
    bit (a <<< k) i = (decide (k.toNat ≤ i) && bit a (i - k.toNat)) := by
  show (a <<< k).toNat.testBit i = (_ && a.toNat.testBit (i - k.toNat))
  rw [UInt32.toNat_shiftLeft, Nat.mod_eq_of_lt hk, Nat.testBit_mod_two_pow, decide_eq_true hi,
    Bool.true_and, Nat.testBit_shiftLeft]

theorem bit_shiftRight (a : UInt32) (i : Nat) {k : UInt32} (hk : k.toNat < 32) :
    bit (a >>> k) i = bit a (k.toNat + i) := by
  show (a >>> k).toNat.testBit i = a.toNat.testBit (k.toNat + i)
  rw [UInt32.toNat_shiftRight, Nat.mod_eq_of_lt hk, Nat.testBit_shiftRight]

/-- The word with one bit. -/
theorem bit_single {i p : Nat} (hp : p < 32) : bit (1 <<< UInt32.ofNat p) i = decide (i = p) := by
  rcases Nat.lt_or_ge i 32 with hi | hi
  · have hk : (UInt32.ofNat p).toNat = p := by
      rw [UInt32.toNat_ofNat']
      exact Nat.mod_eq_of_lt (by omega)
    rw [bit_shiftLeft hi 1 (by omega), hk]
    have hone : bit 1 (i - p) = decide (i - p = 0) :=
      Bool.eq_iff_iff.mpr (Nat.testBit_one_eq_true_iff_self_eq_zero.trans decide_eq_true_iff.symm)
    rw [hone, ← Bool.decide_and]
    exact decide_eq_decide.mpr (by omega)
  · rw [bit_of_ge hi, decide_eq_false (by omega)]

@[simp] theorem bit_xor (a b : UInt32) (i : Nat) : bit (a ^^^ b) i = (bit a i ^^ bit b i) := by
  simp [bit]

/-- A test for one bit. -/
theorem and_single_ne_zero_iff {a : UInt32} {p : Nat} (hp : p < 32) :
    a &&& 1 <<< UInt32.ofNat p ≠ 0 ↔ bit a p = true := by
  constructor
  · intro h
    by_contra hbit
    refine h (ext fun i hi => ?_)
    rw [bit_and, bit_single hp, bit_zero]
    by_cases hip : i = p
    · rw [hip, Bool.eq_false_iff.mpr hbit, Bool.false_and]
    · rw [decide_eq_false hip, Bool.and_false]
  · intro hbit hzero
    have hone := congrArg (bit · p) hzero
    simp only [bit_and, bit_single hp, bit_zero] at hone
    rw [hbit] at hone
    simp at hone

/-- A word is a number if it has its bits. -/
theorem toNat_eq_iff {a : UInt32} {n : Nat} (hn : n < 2 ^ 32) :
    a.toNat = n ↔ ∀ i < 32, bit a i = n.testBit i := by
  constructor
  · rintro rfl i _
    rfl
  · intro h
    have heq : a = UInt32.ofNat n := ext fun i hi => by rw [h i hi, bit_ofNat hi]
    rw [heq, UInt32.toNat_ofNat']
    exact Nat.mod_eq_of_lt hn

/-! ## Masks -/

variable {x m v k : UInt32}

/-- A field inside the mask reads as the value that was set. -/
theorem field_and (hm : m &&& k = k) : (x &&& ~~~m ||| v) &&& k = v &&& k := by
  refine ext fun i hi => ?_
  have hbit := congrArg (bit · i) hm
  simp only [bit_and] at hbit
  simp only [bit_and, bit_or, bit_not hi]
  -- where the field has a bit, so has the mask
  cases hk : bit k i <;> rw [hk] at hbit <;> simp_all

/-- A field outside the mask, and outside the value, is kept. -/
theorem field_and_of_disjoint (hm : m &&& k = 0) (hv : v &&& k = 0) :
    (x &&& ~~~m ||| v) &&& k = x &&& k := by
  refine ext fun i hi => ?_
  have hmbit := congrArg (bit · i) hm
  have hvbit := congrArg (bit · i) hv
  simp only [bit_and, bit_zero] at hmbit hvbit
  simp only [bit_and, bit_or, bit_not hi]
  cases hk : bit k i <;> rw [hk] at hmbit hvbit <;> simp_all

/-- Setting bits outside a field keeps the field. -/
theorem or_and_of_disjoint (hv : v &&& k = 0) : (x ||| v) &&& k = x &&& k := by
  refine ext fun i _ => ?_
  have hvbit := congrArg (bit · i) hv
  simp only [bit_and, bit_zero] at hvbit
  simp only [bit_and, bit_or]
  cases hk : bit k i <;> rw [hk] at hvbit <;> simp_all

/-- Setting all of a field. -/
theorem or_and_self : (x ||| k) &&& k = k := by
  refine ext fun i _ => ?_
  simp only [bit_and, bit_or]
  cases bit x i <;> cases bit k i <;> rfl

/-- Clearing a field that held a value over an empty one. -/
theorem or_and_not_of_empty (hx : x &&& k = 0) (hv : v &&& k = v) : (x ||| v) &&& ~~~k = x := by
  refine ext fun i hi => ?_
  have hxbit := congrArg (bit · i) hx
  have hvbit := congrArg (bit · i) hv
  simp only [bit_and, bit_zero] at hxbit hvbit
  simp only [bit_and, bit_or, bit_not hi]
  cases hk : bit k i <;> rw [hk] at hxbit hvbit <;> simp_all

/-- A value that is shifted beyond a field has no bit of it. -/
theorem shiftLeft_and_of_low {n : UInt32} (hn : n.toNat < 32)
    (hk : ∀ i < 32, n.toNat ≤ i → bit k i = false) : (v <<< n) &&& k = 0 := by
  refine ext fun i hi => ?_
  rw [bit_and, bit_shiftLeft hi v hn, bit_zero]
  rcases Nat.lt_or_ge i n.toNat with hlow | hlow
  · rw [decide_eq_false (Nat.not_le.mpr hlow), Bool.false_and, Bool.false_and]
  · rw [hk i hi hlow, Bool.and_false]

/-- A value with no bits below a mask keeps all of its own. -/
theorem and_of_aligned {n : Nat} (hx : x.toNat % 2 ^ n = 0)
    (hk : ∀ i < 32, n ≤ i → bit k i = true) : x &&& k = x := by
  refine ext fun i hi => ?_
  rw [bit_and]
  rcases Nat.lt_or_ge i n with hlow | hlow
  · have hnone : bit x i = false := by
      have hmod := Nat.testBit_mod_two_pow x.toNat n i
      rw [hx, Nat.zero_testBit, decide_eq_true hlow, Bool.true_and] at hmod
      exact hmod.symm
    rw [hnone, Bool.false_and]
  · rw [hk i hi hlow, Bool.and_true]

end Bits
