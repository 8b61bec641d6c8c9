import Rpi5Uefi.Lib.JsonCovers
import Mathlib.Algebra.Field.Rat
import Mathlib.Data.Nat.Digits.Lemmas
import Mathlib.Tactic.Ring

/-!
# What a numeral of a JSON text is worth

* **`Numeral.value`**: the rational number a numeral stands for.
* **`Numeral.fixed`**: the numeral of a fixed-point number; **`value_fixed`**, **`text_fixed`**.
-/

namespace Json

/-- Digits, the most significant one first. -/
def digitsValue (digits : List Nat) : Nat := Nat.ofDigits 10 digits.reverse

def exponentValue : Option (Bool × List Nat) → ℤ
  | none => 0
  | some (negative, digits) => if negative then -digitsValue digits else digitsValue digits

/-- Without its sign and its exponent. -/
def Numeral.magnitude (n : Numeral) : ℚ :=
  digitsValue n.whole + digitsValue n.fraction / 10 ^ n.fraction.length

def Numeral.value (n : Numeral) : ℚ :=
  (if n.negative then -n.magnitude else n.magnitude) * 10 ^ exponentValue n.exponent

theorem digitsValue_whole (n : Nat) : digitsValue (Numeral.ofNat n).whole = n := by
  unfold digitsValue Numeral.ofNat
  simp only
  split
  · rename_i hzero
    rw [hzero]
    rfl
  · rw [List.reverse_reverse, Nat.ofDigits_digits]

/-! ## Fixed-point numerals -/

/-- The digits of a number, filled up with zeros in front. -/
def paddedDigits (places m : Nat) : List Nat := (Nat.digitsAppend 10 places m).reverse

/-- A number with so many places behind the point. -/
def Numeral.fixed (negative : Bool) (whole places part : Nat) : Numeral :=
  ⟨negative, (Numeral.ofNat whole).whole, paddedDigits places part, none⟩

variable {negative : Bool} {whole places part : Nat}

theorem length_paddedDigits (h : part < 10 ^ places) :
    (paddedDigits places part).length = places := by
  unfold paddedDigits
  rw [List.length_reverse, Nat.length_digitsAppend (by decide) _ h]

theorem paddedDigits_lt (places part : Nat) : ∀ d ∈ paddedDigits places part, d < 10 := by
  intro d hd
  exact Nat.lt_of_mem_digitsAppend (by decide) _ _ (List.mem_reverse.mp hd)

theorem digitsValue_paddedDigits (places part : Nat) :
    digitsValue (paddedDigits places part) = part := by
  unfold digitsValue paddedDigits Nat.digitsAppend
  rw [List.reverse_reverse, Nat.ofDigits_append_replicate_zero, Nat.ofDigits_digits]

/-- **What a fixed-point numeral is worth.** -/
theorem Numeral.value_fixed (h : part < 10 ^ places) :
    (Numeral.fixed negative whole places part).value =
      (if negative then -1 else 1) * (whole + part / 10 ^ places) := by
  have hmagnitude : (Numeral.fixed negative whole places part).magnitude =
      whole + part / 10 ^ places := by
    unfold Numeral.magnitude Numeral.fixed
    simp only
    rw [digitsValue_whole, digitsValue_paddedDigits, length_paddedDigits h]
  unfold Numeral.value
  rw [hmagnitude]
  show (if negative then _ else _) * (10 : ℚ) ^ (0 : ℤ) = _
  rw [zpow_zero, mul_one]
  split <;> ring

/-- Its text. -/
def fixedText (negative : Bool) (whole places part : Nat) : List UInt8 :=
  signText negative ++ digitText (Numeral.ofNat whole).whole ++
    0x2E :: digitText (paddedDigits places part)

theorem Numeral.text_fixed (hplaces : places ≠ 0) (h : part < 10 ^ places) :
    Derives (.value (.number (.fixed negative whole places part)))
      (fixedText negative whole places part) := by
  obtain ⟨hwhole, hzero⟩ := wholeDigits whole
  have hne : paddedDigits places part ≠ [] := by
    intro hnil
    have hlength := length_paddedDigits h
    rw [hnil] at hlength
    exact hplaces hlength.symm
  have htext := @NumeralText.mk negative _ (paddedDigits places part) none [] hwhole hzero
    (paddedDigits_lt places part) .none
  unfold fractionText at htext
  rw [if_neg hne, List.append_nil] at htext
  exact .number htext

theorem length_fixedText (hplaces : places ≠ 0) (h : part < 10 ^ places) :
    (fixedText negative whole places part).length =
      (Numeral.fixed negative whole places part).size := by
  have hlength := length_paddedDigits h
  have hne : paddedDigits places part ≠ [] := by
    intro hnil
    rw [hnil] at hlength
    exact hplaces hlength.symm
  unfold fixedText Numeral.size Numeral.fixed fractionSize signText digitText
  simp only
  rw [if_neg hne]
  cases negative <;> simp [exponentSize] <;> omega

theorem count_minus_fixedText (negative : Bool) (whole places part : Nat) :
    (fixedText negative whole places part).count 0x2D =
      (Numeral.fixed negative whole places part).minusSigns := by
  have hdigits (digits : List Nat) (h : ∀ d ∈ digits, d < 10) :
      (digitText digits).count 0x2D = 0 := Nat.le_zero.mp (digitText_covers h).minus
  unfold fixedText
  rw [List.count_append, List.count_append, List.count_cons_of_ne (by decide),
    hdigits _ (wholeDigits whole).1.2, hdigits _ (paddedDigits_lt places part)]
  cases negative <;> rfl

end Json
