import Mathlib.Algebra.Group.Nat.Defs

/-!
# The formats of the print library

`AsciiSPrint` is not part of the tree; what is modelled is what its documentation says of a format.
-/

namespace Rpi5Uefi

/-- A digit of `%x`: the characters used are `0` to `9` and `A` to `F`. -/
def printHexDigit (d : Nat) : UInt8 := UInt8.ofNat (if d < 10 then 0x30 + d else 0x37 + d)

/-- `%0<digits>x`. -/
def printHex (digits n : Nat) : List UInt8 :=
  (List.range digits).reverse.map fun i => printHexDigit (n / 16 ^ i % 16)

@[simp] theorem length_printHex (digits n : Nat) : (printHex digits n).length = digits := by
  simp [printHex]

/-- Every byte of the text is the digit of a number below 16. -/
theorem mem_printHex {digits n : Nat} {b : UInt8} (h : b ∈ printHex digits n) :
    ∃ d < 16, b = printHexDigit d := by
  obtain ⟨i, -, rfl⟩ := List.mem_map.mp h
  exact ⟨_, Nat.mod_lt _ (by decide), rfl⟩

end Rpi5Uefi
