import Mathlib.Tactic.Common

/-!
# Pages

The units in which memory is allocated.
-/

namespace Rpi5Uefi

def efiPageSize : Nat := 0x1000

/-- `EFI_SIZE_TO_PAGES`. -/
def efiSizeToPages (size : Nat) : Nat := (size + efiPageSize - 1) / efiPageSize

end Rpi5Uefi
