import Rpi5Uefi.Lib.Run
import Rpi5Uefi.Redfish.BootOverride

/-!
# Boot overrides over many boots

The machine boots again and again, each boot entered through whatever `BootNext` holds, and in
between and meanwhile the operator changes the override on the BMC. What the boots did is kept as
a history.

* **`bootStep`**: one change by the operator, or one boot.
* **`mark_of_reset`**, **`mark_of_not_continuous`**: what a boot does to the mark.
-/

namespace Rpi5Uefi

open Bytes

/-! ## The system -/

/-- The two non-volatile variables. -/
structure NvStore where
  mark : Option UInt16
  bootNext : Option UInt16
  deriving DecidableEq, Repr

/-- A write that reports success has taken place, a failed one has not. -/
def NvStore.apply (nv : NvStore) : SyncCall → NvStore
  | .deleteMark status => if status.isError then nv else { nv with mark := none }
  | .setMark value status => if status.isError then nv else { nv with mark := some value }
  | .setBootNext value status => if status.isError then nv else { nv with bootNext := some value }
  | .patchDisabled _ => nv
  | .resetSystem => nv

/-- The override on the BMC, and how often the operator has set it. -/
structure BmcState where
  override : Option Override
  staging : Nat
  deriving DecidableEq, Repr

def BmcState.operator (bmc : BmcState) (override : Option Override) : BmcState :=
  ⟨override, bmc.staging + 1⟩

/-- A PATCH that reports success has taken effect; of a failed one `takesEffect` tells. -/
def BmcState.apply (takesEffect : Bool) (bmc : BmcState) : SyncCall → BmcState
  | .patchDisabled status =>
    if !status.isError || takesEffect then { bmc with override := none } else bmc
  | _ => bmc

/-- A boot: the option it was entered through, whether the mark was there, what the sync read and
matched, the override it was read from, and the calls made. -/
structure BootRecord where
  entered : Option UInt16
  markAtStart : Bool
  read : Option Override
  matched : Option BootOption
  staging : Nat
  calls : List SyncCall
  deriving DecidableEq, Repr

structure BootSystem where
  nv : NvStore
  bmc : BmcState
  history : List BootRecord
  deriving DecidableEq, Repr

/-- A change by the operator, or a boot with what its sync meets and what the operator changes
between its GET and its PATCH. -/
inductive BootEvent where
  | operator (override : Option Override)
  | boot (inputs : SyncInputs) (meanwhile : List (Option Override))

/-- The record of a boot. BDS takes `BootNext` at entry. -/
def bootRecord (s : BootSystem) (inputs : SyncInputs) : BootRecord where
  entered := s.nv.bootNext
  markAtStart := s.nv.mark.isSome
  read := overrideRead inputs
  matched := matchedOption inputs
  staging := s.bmc.staging
  calls := handleBootOverride s.nv.mark inputs

/-- One event. The BMC answers the GET with the override it has, or with nothing that is read. -/
def bootStep (s : BootSystem) : BootEvent → Option BootSystem
  | .operator override => some { s with bmc := s.bmc.operator override }
  | .boot inputs meanwhile =>
    if overrideRead inputs = none ∨ overrideRead inputs = s.bmc.override then
      let record := bootRecord s inputs
      some ⟨record.calls.foldl NvStore.apply { s.nv with bootNext := none },
        record.calls.foldl (BmcState.apply inputs.patchTakesEffect)
          (meanwhile.foldl BmcState.operator s.bmc),
        s.history ++ [record]⟩
    else none

def bootStart (nv : NvStore) (bmc : BmcState) : BootSystem := ⟨nv, bmc, []⟩

/-! ## What boots did -/

/-- The boot set `BootNext` to `n` for the override and reset the machine. -/
def BootRecord.Staged (r : BootRecord) (o : Override) (n : UInt16) : Prop :=
  r.read = some o ∧ .setBootNext n .success ∈ r.calls ∧ .resetSystem ∈ r.calls

/-- The boot reset the machine for the override. -/
def BootRecord.ResetFor (r : BootRecord) (o : Override) : Prop :=
  r.read = some o ∧ .resetSystem ∈ r.calls

/-- The boot tried to set `BootNext` for a `Once` override. -/
def BootRecord.SetsOnce (r : BootRecord) : Prop :=
  r.read = some .once ∧ ∃ n status, .setBootNext n status ∈ r.calls

/-- The boot behind `pre` was entered through the `BootNext` that the last boot of `pre` staged for
`Continuous`. -/
def EnteredThrough (pre : List BootRecord) (r : BootRecord) : Prop :=
  ∃ front p n, pre = front ++ [p] ∧ p.Staged .continuous n ∧ r.entered = some n

variable {s s' : BootSystem} {e : BootEvent} {inputs : SyncInputs} {mark : Option UInt16}
  {calls : List SyncCall} {nv : NvStore} {meanwhile : List (Option Override)}
  {option : BootOption} {status : EfiStatus}

/-- A boot as a step. -/
theorem bootStep_boot (h : bootStep s (.boot inputs meanwhile) = some s') :
    (overrideRead inputs = none ∨ overrideRead inputs = s.bmc.override) ∧
      s'.nv = (bootRecord s inputs).calls.foldl NvStore.apply { s.nv with bootNext := none } ∧
      s'.bmc = (bootRecord s inputs).calls.foldl (BmcState.apply inputs.patchTakesEffect)
        (meanwhile.foldl BmcState.operator s.bmc) ∧
      s'.history = s.history ++ [bootRecord s inputs] := by
  unfold bootStep at h
  simp only at h
  by_cases hread : overrideRead inputs = none ∨ overrideRead inputs = s.bmc.override
  · rw [if_pos hread] at h
    cases h
    exact ⟨hread, rfl, rfl, rfl⟩
  · rw [if_neg hread] at h
    cases h

/-! ## The mark -/

theorem mark_applyMatchedOption (nv : NvStore) (option : BootOption) (status : EfiStatus) :
    ((applyMatchedOption option status).foldl NvStore.apply nv).mark = nv.mark := by
  unfold applyMatchedOption
  by_cases herr : status.isError = true
  · rw [if_pos herr]
    simp [NvStore.apply, herr]
  · rw [if_neg herr]
    simp [NvStore.apply, herr]

/-- A boot that reads no `Continuous` override leaves the mark. -/
theorem mark_of_not_continuous (hc : Course mark inputs calls)
    (hread : overrideRead inputs ≠ some .continuous) :
    (calls.foldl NvStore.apply nv).mark = nv.mark := by
  cases hc with
  | nothingRead => rfl
  | standAside h => exact absurd h hread
  | noMatch => rfl
  | notMarked option h => exact absurd h hread
  | marked option h => exact absurd h hread
  | notDisabled option h => rfl
  | disabled option h => exact mark_applyMatchedOption nv option _

/-- **A boot that resets for `Continuous`** found no mark and leaves one. -/
theorem mark_of_reset (hc : Course mark inputs calls)
    (hread : overrideRead inputs = some .continuous) (hreset : .resetSystem ∈ calls)
    (nv : NvStore) : mark = none ∧ (calls.foldl NvStore.apply nv).mark.isSome = true := by
  cases hc with
  | nothingRead => simp at hreset
  | standAside => simp at hreset
  | noMatch => simp at hreset
  | notMarked => simp at hreset
  | marked option _ hmark =>
    refine ⟨hmark, ?_⟩
    rw [List.foldl_cons, mark_applyMatchedOption]
    rfl
  | notDisabled => simp at hreset
  | disabled option h =>
    rw [hread] at h
    cases h

/-! ## A boot of the usual kind -/

/-- A ComputerSystem payload with that setting and the target `Pxe`. -/
def systemPayload (enabled : String) : JsonValue :=
  .object [(ascii "Boot", .object [(ascii "BootSourceOverrideTarget", .string (ascii "Pxe")),
    (ascii "BootSourceOverrideEnabled", .string (ascii enabled))])]

/-- A boot with a network option on which every call succeeds. -/
def syncedBoot (enabled : String) : SyncInputs where
  payload := some (systemPayload enabled)
  readyToBoot := false
  options := [⟨3, false, some [.macAddr]⟩]
  refreshed := []
  deleteStatus := .success
  markStatus := .success
  patchStatus := .success
  patchTakesEffect := true
  bootNextStatus := .success

end Rpi5Uefi
