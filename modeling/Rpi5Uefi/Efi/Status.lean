import Mathlib.Tactic.Common

/-!
# Status codes

The `EFI_STATUS` values the modelled code returns or tests for.
-/

namespace Rpi5Uefi

inductive EfiStatus where
  | success
  | invalidParameter
  | badBufferSize
  | bufferTooSmall
  | notReady
  | deviceError
  | outOfResources
  | volumeCorrupted
  | volumeFull
  | notFound
  | timeout
  | securityViolation
  | notStarted
  | alreadyStarted
  | accessDenied
  | writeProtected
  | unsupported
  deriving DecidableEq, Repr

/-- `EFI_ERROR`. -/
def EfiStatus.isError (s : EfiStatus) : Bool := s != .success

@[simp] theorem EfiStatus.isError_success : EfiStatus.isError .success = false := rfl

theorem EfiStatus.isError_eq_false {s : EfiStatus} : s.isError = false ↔ s = .success := by
  simp [EfiStatus.isError]

theorem EfiStatus.ne_success_of_isError {s : EfiStatus} (h : s.isError = true) : s ≠ .success := by
  rintro rfl
  cases h

end Rpi5Uefi
