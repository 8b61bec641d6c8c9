import Mathlib.Logic.Function.Basic
import Rpi5Uefi.Lib.Bits

/-!
# Fields of a register file

Several settings share a 32-bit register, each in some bits of it. A driver reads a field by a
shift and a mask, and writes it by clearing the mask and setting the shifted value.

* **`Field.get_set`**: a value that fits is read back.
* **`Field.get_set_of_apart`**: no field apart from it is changed.
* **`Field.get_setAll`**: fields that are apart are all set by setting one after another.
* **`Field.get_lt`**: nothing that does not fit is ever read.
-/

namespace RegisterFields

open Bits

/-- Registers by their addresses. -/
abbrev Registers := Nat → UInt32

/-- `width` bits of a register, from bit `lo` on. -/
structure Field where
  addr : Nat
  lo : Nat
  width : Nat
  width_pos : 0 < width
  inside : lo + width ≤ 32

namespace Field

/-- The mask of a field that is shifted down. -/
def mask (f : Field) : UInt32 := UInt32.ofNat (2 ^ f.width - 1)

def get (f : Field) (r : Registers) : UInt32 := (r f.addr >>> UInt32.ofNat f.lo) &&& f.mask

def set (f : Field) (v : UInt32) (r : Registers) : Registers :=
  Function.update r f.addr
    (r f.addr &&& ~~~(f.mask <<< UInt32.ofNat f.lo) ||| v <<< UInt32.ofNat f.lo)

/-- Different registers, or different bits of one. -/
def Apart (f g : Field) : Prop := f.addr ≠ g.addr ∨ f.lo + f.width ≤ g.lo ∨ g.lo + g.width ≤ f.lo

variable {f g : Field} {v : UInt32} {r : Registers} {i : Nat}

theorem toNat_lo (f : Field) : (UInt32.ofNat f.lo).toNat = f.lo := by
  have hinside := f.inside
  have hpos := f.width_pos
  rw [UInt32.toNat_ofNat']
  exact Nat.mod_eq_of_lt (by omega)

theorem lo_lt (f : Field) : (UInt32.ofNat f.lo).toNat < 32 := by
  have hinside := f.inside
  have hpos := f.width_pos
  rw [toNat_lo]
  omega

/-! ## Bit by bit -/

theorem bit_mask (hi : i < 32) (f : Field) : bit f.mask i = decide (i < f.width) := by
  unfold mask
  rw [bit_ofNat hi, Nat.testBit_two_pow_sub_one]

theorem bit_get (hi : i < 32) (f : Field) (r : Registers) :
    bit (f.get r) i = (bit (r f.addr) (f.lo + i) && decide (i < f.width)) := by
  unfold get
  rw [bit_and, bit_mask hi, bit_shiftRight _ _ f.lo_lt, toNat_lo]

/-- A value that fits has no bits above the field. -/
theorem bit_of_fits (hv : v.toNat < 2 ^ f.width) (hi : f.width ≤ i) : bit v i = false :=
  Nat.testBit_lt_two_pow (Nat.lt_of_lt_of_le hv (Nat.pow_le_pow_right (by decide) hi))

theorem bit_set (hv : v.toNat < 2 ^ f.width) (hi : i < 32) :
    bit (f.set v r f.addr) i =
      if f.lo ≤ i ∧ i < f.lo + f.width then bit v (i - f.lo) else bit (r f.addr) i := by
  unfold set
  rw [Function.update_self, bit_or, bit_and, bit_not hi, bit_shiftLeft hi _ f.lo_lt,
    bit_shiftLeft hi _ f.lo_lt, toNat_lo, bit_mask (by omega)]
  by_cases hlow : f.lo ≤ i
  · by_cases hhigh : i < f.lo + f.width
    · have hin : i - f.lo < f.width := by omega
      rw [if_pos ⟨hlow, hhigh⟩, decide_eq_true hlow, decide_eq_true hin]
      simp
    · have hout : ¬i - f.lo < f.width := by omega
      rw [if_neg (fun h => hhigh h.2), decide_eq_false hout, bit_of_fits hv (by omega)]
      simp
  · rw [if_neg (fun h => hlow h.1), decide_eq_false hlow]
    simp

/-! ## Reading after writing -/

theorem get_set (hv : v.toNat < 2 ^ f.width) : f.get (f.set v r) = v := by
  have hinside := f.inside
  refine ext fun i hi => ?_
  rw [bit_get hi]
  by_cases hin : i < f.width
  · rw [bit_set hv (by omega), if_pos (by omega), decide_eq_true hin, Bool.and_true,
      Nat.add_sub_cancel_left]
  · rw [decide_eq_false hin, Bool.and_false, bit_of_fits hv (by omega)]

theorem get_set_of_apart (h : f.Apart g) (hv : v.toNat < 2 ^ f.width) :
    g.get (f.set v r) = g.get r := by
  have hinside := g.inside
  refine ext fun i hi => ?_
  rw [bit_get hi, bit_get hi]
  by_cases hin : i < g.width
  · congr 1
    by_cases haddr : g.addr = f.addr
    · rw [haddr, bit_set hv (by omega), if_neg]
      rcases h with hne | happart
      · exact absurd haddr.symm hne
      · omega
    · unfold set
      rw [Function.update_of_ne haddr]
  · rw [decide_eq_false hin, Bool.and_false, Bool.and_false]

theorem get_lt (f : Field) (r : Registers) : (f.get r).toNat < 2 ^ f.width := by
  refine Nat.lt_pow_two_of_testBit _ fun i hi => ?_
  show bit (f.get r) i = false
  rcases Nat.lt_or_ge i 32 with hlt | hge
  · rw [bit_get hlt, decide_eq_false (by omega), Bool.and_false]
  · exact bit_of_ge hge _

/-! ## Setting several fields -/

/-- Fields get their values, one after another. -/
def setAll (l : List (Field × UInt32)) (r : Registers) : Registers :=
  l.foldl (fun r x => x.1.set x.2 r) r

theorem get_setAll_of_apart {l : List (Field × UInt32)}
    (hfits : ∀ x ∈ l, x.2.toNat < 2 ^ x.1.width) (h : ∀ x ∈ l, x.1.Apart g) (r : Registers) :
    g.get (setAll l r) = g.get r := by
  induction l generalizing r with
  | nil => rfl
  | cons x l ih =>
    show g.get (setAll l (x.1.set x.2 r)) = _
    rw [ih (fun y hy => hfits y (List.mem_cons_of_mem _ hy))
      (fun y hy => h y (List.mem_cons_of_mem _ hy))]
    exact get_set_of_apart (h x List.mem_cons_self) (hfits x List.mem_cons_self)

/-- Fields that are apart from each other all have their values in the end. -/
theorem get_setAll {l : List (Field × UInt32)} (hfits : ∀ x ∈ l, x.2.toNat < 2 ^ x.1.width)
    (hapart : l.Pairwise fun x y => y.1.Apart x.1) (r : Registers) :
    ∀ x ∈ l, x.1.get (setAll l r) = x.2 := by
  induction l generalizing r with
  | nil => exact fun x hx => absurd hx List.not_mem_nil
  | cons y l ih =>
    obtain ⟨hy, hl⟩ := List.pairwise_cons.mp hapart
    have hfits' : ∀ x ∈ l, x.2.toNat < 2 ^ x.1.width :=
      fun x hx => hfits x (List.mem_cons_of_mem _ hx)
    intro x hx
    show x.1.get (setAll l (y.1.set y.2 r)) = x.2
    rcases List.mem_cons.mp hx with rfl | hx
    · rw [get_setAll_of_apart hfits' hy]
      exact get_set (hfits x List.mem_cons_self)
    · exact ih hfits' hl _ x hx

/-! ## Setting and clearing a whole field -/

theorem set_mask (f : Field) (r : Registers) :
    f.set f.mask r =
      Function.update r f.addr (r f.addr ||| f.mask <<< UInt32.ofNat f.lo) := by
  unfold set
  congr 1
  refine ext fun i hi => ?_
  rw [bit_or, bit_and, bit_not hi, bit_or]
  cases bit (r f.addr) i <;> cases bit (f.mask <<< UInt32.ofNat f.lo) i <;> rfl

theorem set_zero (f : Field) (r : Registers) :
    f.set 0 r =
      Function.update r f.addr (r f.addr &&& ~~~(f.mask <<< UInt32.ofNat f.lo)) := by
  unfold set
  rw [UInt32.zero_shiftLeft, UInt32.or_zero]

/-- A field is empty where its mask, in place, finds nothing. -/
theorem and_mask_eq_zero_iff (f : Field) (r : Registers) :
    r f.addr &&& f.mask <<< UInt32.ofNat f.lo = 0 ↔ f.get r = 0 := by
  have hinside := f.inside
  constructor
  · intro h
    refine ext fun i hi => ?_
    rw [bit_get hi, bit_zero]
    by_cases hin : i < f.width
    · have hbit := congrArg (bit · (f.lo + i)) h
      simp only [bit_and, bit_zero] at hbit
      rw [bit_shiftLeft (by omega) _ f.lo_lt, toNat_lo, Nat.add_sub_cancel_left, bit_mask hi,
        decide_eq_true (Nat.le_add_right _ _), Bool.true_and] at hbit
      exact hbit
    · rw [decide_eq_false hin, Bool.and_false]
  · intro h
    refine ext fun i hi => ?_
    rw [bit_and, bit_zero, bit_shiftLeft hi _ f.lo_lt, toNat_lo, bit_mask (by omega)]
    by_cases hlow : f.lo ≤ i
    · have hbit := congrArg (bit · (i - f.lo)) h
      simp only [bit_zero] at hbit
      rw [bit_get (by omega), Nat.add_sub_cancel' hlow] at hbit
      rw [decide_eq_true hlow, Bool.true_and]
      exact hbit
    · rw [decide_eq_false hlow, Bool.false_and, Bool.and_false]

end Field

end RegisterFields
