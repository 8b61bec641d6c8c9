import Rpi5Uefi.Efi.Status
import Rpi5Uefi.Lib.Bytes

/-!
# Applying a boot override (`HandleBootOverride`)

The sync reads the ComputerSystem back from the BMC, finds a boot option for the target it names,
and stages it with `BootNext` and a cold reset. A `Once` override is first disabled on the BMC. A
`Continuous` one is first marked in a variable, so that the next boot launches the target instead
of staging it again.

`handleBootOverride` lists the calls a run makes, each with the status the environment answers.

* **`Course`**, **`handleBootOverride_course`**: the courses a run can take.
-/

namespace Rpi5Uefi

open Bytes

/-! ## The payload -/

/-- A JSON value, as far as the payload is looked at. -/
inductive JsonValue where
  | object (fields : List (List UInt8 × JsonValue))
  | string (value : List UInt8)
  | other

/-- `JsonObjectGetValue` of a value that has to be an object. -/
def JsonValue.get (value : JsonValue) (key : String) : Option JsonValue :=
  match value with
  | .object fields => (fields.find? fun field => field.1 == ascii key).map Prod.snd
  | _ => none

def JsonValue.isObject : JsonValue → Bool
  | .object _ => true
  | _ => false

/-- `JsonValueGetAsciiString`. -/
def JsonValue.asciiString : JsonValue → Option (List UInt8)
  | .string value => some value
  | _ => none

/-! ## Boot options -/

/-- The device path nodes that tell what an option boots from. -/
inductive DevicePathNode where
  | hardDrive
  | nvmeNamespace
  | sata
  | atapi
  | scsi
  | emmc
  | sd
  | ufs
  | usb
  | macAddr
  | other
  deriving DecidableEq, Repr

/-- `EFI_BOOT_MANAGER_LOAD_OPTION`: the number, whether its category is `LOAD_OPTION_CATEGORY_APP`,
and the device path. -/
structure BootOption where
  optionNumber : UInt16
  categoryApp : Bool
  filePath : Option (List DevicePathNode)
  deriving DecidableEq, Repr

/-- `OptionIsNetworkBoot`. -/
def optionIsNetworkBoot (option : BootOption) : Bool :=
  match option.filePath with
  | none => false
  | some path => !path.contains .usb && path.contains .macAddr

/-- The messaging nodes of `OptionIsDiskBoot`. -/
def isStorageNode (node : DevicePathNode) : Bool :=
  match node with
  | .nvmeNamespace | .sata | .atapi | .scsi | .emmc | .sd | .ufs => true
  | _ => false

/-- `OptionIsDiskBoot`. -/
def optionIsDiskBoot (option : BootOption) : Bool :=
  match option.filePath with
  | none => false
  | some path => path.contains .hardDrive || path.any isStorageNode

/-- `OptionMatchesTarget`. -/
def optionMatchesTarget (target : List UInt8) (option : BootOption) : Bool :=
  if target = ascii "BiosSetup" then option.categoryApp
  else if target = ascii "Pxe" then optionIsNetworkBoot option
  else if target = ascii "Hdd" then optionIsDiskBoot option
  else false

/-! ## One run -/

/-- What a boot's sync meets: the payload of the GET (`none` when the sync does not run or gets
none), the `ReadyToBoot` latch, the boot options before and after a refresh, and the statuses of
the calls it may make. `patchTakesEffect` tells of a PATCH that reports an error. -/
structure SyncInputs where
  payload : Option JsonValue
  readyToBoot : Bool
  options : List BootOption
  refreshed : List BootOption
  deleteStatus : EfiStatus
  markStatus : EfiStatus
  patchStatus : EfiStatus
  patchTakesEffect : Bool
  bootNextStatus : EfiStatus

/-- A call of the sync, with the status it got. -/
inductive SyncCall where
  | deleteMark (status : EfiStatus)
  | setMark (value : UInt16) (status : EfiStatus)
  | patchDisabled (status : EfiStatus)
  | setBootNext (value : UInt16) (status : EfiStatus)
  | resetSystem
  deriving DecidableEq, Repr

/-- `Boot` of the payload. -/
def bootObject (payload : Option JsonValue) : Option JsonValue :=
  (payload.bind fun root => root.get "Boot").filter JsonValue.isObject

def overrideTarget (boot : JsonValue) : Option (List UInt8) :=
  (boot.get "BootSourceOverrideTarget").bind JsonValue.asciiString

def overrideEnabled (boot : JsonValue) : Option (List UInt8) :=
  (boot.get "BootSourceOverrideEnabled").bind JsonValue.asciiString

/-- `FindBootOverrideOption`: the options as they stand, and once more after a refresh. -/
def findBootOverrideOption (target : Option (List UInt8)) (options refreshed : List BootOption) :
    Option BootOption :=
  match target with
  | none => none
  | some target =>
    if target = ascii "None" then none
    else if options = [] then none
    else
      match options.find? (optionMatchesTarget target) with
      | some option => some option
      | none => refreshed.find? (optionMatchesTarget target)

/-- `ApplyMatchedOption`; `ResetSystem` does not return. -/
def applyMatchedOption (option : BootOption) (status : EfiStatus) : List SyncCall :=
  if status.isError then [.setBootNext option.optionNumber status]
  else [.setBootNext option.optionNumber status, .resetSystem]

/-- `GetVariable` of the mark with size 0. -/
def getMark (mark : Option UInt16) : EfiStatus :=
  if mark.isSome then .bufferTooSmall else .notFound

/-- `HandleBootOverride`, by the calls it makes. -/
def handleBootOverride (mark : Option UInt16) (inputs : SyncInputs) : List SyncCall :=
  if inputs.readyToBoot then []
  else
    match bootObject inputs.payload with
    | none => []
    | some boot =>
      let isOnce := overrideEnabled boot == some (ascii "Once")
      let isContinuous := overrideEnabled boot == some (ascii "Continuous")
      if !isOnce && !isContinuous then []
      else if isContinuous && getMark mark == .bufferTooSmall then
        [.deleteMark inputs.deleteStatus]
      else
        match findBootOverrideOption (overrideTarget boot) inputs.options inputs.refreshed with
        | none => []
        | some option =>
          if isContinuous then
            if inputs.markStatus.isError then [.setMark option.optionNumber inputs.markStatus]
            else
              .setMark option.optionNumber inputs.markStatus ::
                applyMatchedOption option inputs.bootNextStatus
          else if inputs.patchStatus.isError then [.patchDisabled inputs.patchStatus]
          else
            .patchDisabled inputs.patchStatus :: applyMatchedOption option inputs.bootNextStatus

/-! ## Its courses -/

/-- The settings of `BootSourceOverrideEnabled` that are acted on. -/
inductive Override where
  | once
  | continuous
  deriving DecidableEq, Repr

/-- What the sync reads, if it gets that far. -/
def overrideRead (inputs : SyncInputs) : Option Override :=
  if inputs.readyToBoot then none
  else
    (bootObject inputs.payload).bind fun boot =>
      if overrideEnabled boot = some (ascii "Once") then some .once
      else if overrideEnabled boot = some (ascii "Continuous") then some .continuous
      else none

/-- The boot option that matches what the sync reads. -/
def matchedOption (inputs : SyncInputs) : Option BootOption :=
  (bootObject inputs.payload).bind fun boot =>
    findBootOverrideOption (overrideTarget boot) inputs.options inputs.refreshed

/-- The courses of a run. -/
inductive Course (mark : Option UInt16) (inputs : SyncInputs) : List SyncCall → Prop where
  | nothingRead (hread : overrideRead inputs = none) : Course mark inputs []
  | standAside (hread : overrideRead inputs = some .continuous) (hmark : mark.isSome = true) :
      Course mark inputs [.deleteMark inputs.deleteStatus]
  | noMatch (o : Override) (hread : overrideRead inputs = some o)
      (hmark : o = .continuous → mark = none) (hmatch : matchedOption inputs = none) :
      Course mark inputs []
  | notMarked (option : BootOption) (hread : overrideRead inputs = some .continuous)
      (hmark : mark = none) (hmatch : matchedOption inputs = some option)
      (hstatus : inputs.markStatus ≠ .success) :
      Course mark inputs [.setMark option.optionNumber inputs.markStatus]
  | marked (option : BootOption) (hread : overrideRead inputs = some .continuous)
      (hmark : mark = none) (hmatch : matchedOption inputs = some option)
      (hstatus : inputs.markStatus = .success) :
      Course mark inputs
        (.setMark option.optionNumber .success ::
          applyMatchedOption option inputs.bootNextStatus)
  | notDisabled (option : BootOption) (hread : overrideRead inputs = some .once)
      (hmatch : matchedOption inputs = some option) (hstatus : inputs.patchStatus ≠ .success) :
      Course mark inputs [.patchDisabled inputs.patchStatus]
  | disabled (option : BootOption) (hread : overrideRead inputs = some .once)
      (hmatch : matchedOption inputs = some option) (hstatus : inputs.patchStatus = .success) :
      Course mark inputs
        (.patchDisabled .success :: applyMatchedOption option inputs.bootNextStatus)

/-- **Every run takes one of the courses.** -/
theorem handleBootOverride_course (mark : Option UInt16) (inputs : SyncInputs) :
    Course mark inputs (handleBootOverride mark inputs) := by
  unfold handleBootOverride
  by_cases hready : inputs.readyToBoot = true
  · rw [if_pos hready]
    exact .nothingRead (by unfold overrideRead; rw [if_pos hready])
  rw [if_neg hready]
  cases hboot : bootObject inputs.payload with
  | none => exact .nothingRead (by unfold overrideRead; rw [if_neg hready, hboot]; rfl)
  | some boot =>
    have hread : overrideRead inputs =
        if overrideEnabled boot = some (ascii "Once") then some .once
        else if overrideEnabled boot = some (ascii "Continuous") then some .continuous
        else none := by
      unfold overrideRead
      rw [if_neg hready, hboot]
      rfl
    have hmatch : matchedOption inputs =
        findBootOverrideOption (overrideTarget boot) inputs.options inputs.refreshed := by
      unfold matchedOption
      rw [hboot]
      rfl
    simp only
    rw [← hmatch]
    by_cases honce : overrideEnabled boot = some (ascii "Once")
    · rw [if_pos honce] at hread
      rw [honce, beq_self_eq_true, show (some (ascii "Once") == some (ascii "Continuous")) = false
        from by decide, if_neg (by decide), if_neg (by simp)]
      cases hoption : matchedOption inputs with
      | none => exact .noMatch .once hread nofun hoption
      | some option =>
        simp only
        rw [if_neg (by decide)]
        by_cases herr : inputs.patchStatus.isError = true
        · rw [if_pos herr]
          exact .notDisabled option hread hoption (EfiStatus.ne_success_of_isError herr)
        · have hok := EfiStatus.isError_eq_false.mp (Bool.not_eq_true _ ▸ herr)
          rw [if_neg herr, hok]
          exact .disabled option hread hoption hok
    rw [if_neg honce] at hread
    by_cases hcont : overrideEnabled boot = some (ascii "Continuous")
    case neg =>
      rw [if_neg hcont] at hread
      rw [if_pos (by simp [honce, hcont])]
      exact .nothingRead hread
    rw [if_pos hcont] at hread
    rw [hcont, beq_self_eq_true, show (some (ascii "Continuous") == some (ascii "Once")) = false
      from by decide, if_neg (by decide)]
    cases mark with
    | some value =>
      rw [if_pos (by simp [getMark])]
      exact .standAside hread rfl
    | none =>
      rw [if_neg (by simp [getMark])]
      cases hoption : matchedOption inputs with
      | none => exact .noMatch .continuous hread (fun _ => rfl) hoption
      | some option =>
        simp only
        rw [if_pos trivial]
        by_cases herr : inputs.markStatus.isError = true
        · rw [if_pos herr]
          exact .notMarked option hread rfl hoption (EfiStatus.ne_success_of_isError herr)
        · have hok := EfiStatus.isError_eq_false.mp (Bool.not_eq_true _ ▸ herr)
          rw [if_neg herr, hok]
          exact .marked option hread rfl hoption hok

end Rpi5Uefi
