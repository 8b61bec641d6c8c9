import Rpi5Uefi.Blcfg.Patch
import Rpi5Uefi.Efi.FileSystem

/-!
# Staging an EEPROM update (`BootloaderConfigSetup.c`)

The Setup page stages an update as two files on the volume the bootloader booted from, the patched
image and its signature, records the staged values in the variable `BlCfgStaged` and resets. At
ReadyToBoot of a later boot `BlStagedMarkerCleanup` compares the recorded values with the live ones
and deletes the files of an update that was applied.

* **`BlLive`**: what the driver loaded at its entry.
* **`StageInputs`**: what the form, the boot SPI and the clock give to one run of `StageUpdate`.
* The volumes are those of `FsWorld`; `handles` is what `LocateHandleBuffer` returns, empty where it
  fails. `Delete` of an open file works; every other call may fail.
* The variable is an `Option RpiBlcfgData`; the statuses of the variable calls are arguments.
-/

namespace Rpi5Uefi

open Bytes

/-! ## The values as a variable -/

/-- `RPI_BLCFG_BOOT_ORDER_MAXLEN`. -/
def rpiBlcfgBootOrderMaxlen : Nat := 11

/-- `RPI_BLCFG_DATA`. -/
structure RpiBlcfgData where
  bootOrder : Fin 12 → UInt16
  bootUart : UInt8
  powerOffOnHalt : UInt8
  wakeOnGpio : UInt8
  psuMaxCurrent : UInt16

/-- The loop of `BlValuesFromData`: the characters in front of the first NUL, refused at one that
is not ASCII. -/
def asciiBootOrder : List UInt16 → Option (List UInt8)
  | [] => some []
  | c :: rest =>
    if c = 0 then some []
    else if c > 0x7F then none
    else (asciiBootOrder rest).map (c.toUInt8 :: ·)

/-- `BlValuesFromData`. -/
def blValuesFromData (data : RpiBlcfgData) : Option BlcfgValues :=
  match (asciiBootOrder ((List.ofFn data.bootOrder).take rpiBlcfgBootOrderMaxlen)).bind
      parseBootOrder with
  | none => none
  | some bootOrder =>
    if data.psuMaxCurrent ≠ 0 ∧ data.psuMaxCurrent ≠ 3000 ∧ data.psuMaxCurrent ≠ 5000 then none
    else
      some {
        bootOrder := bootOrder
        bootUart := if data.bootUart ≠ 0 then 1 else 0
        powerOffOnHalt := if data.powerOffOnHalt ≠ 0 then 1 else 0
        wakeOnGpio := if data.wakeOnGpio ≠ 0 then 1 else 0
        psuMaxCurrent := data.psuMaxCurrent }

/-- `BlValuesToData`. -/
def blValuesToData (values : BlcfgValues) : RpiBlcfgData where
  bootOrder := fun i => (values.bootOrder.getD i 0).toUInt16
  bootUart := values.bootUart
  powerOffOnHalt := values.powerOffOnHalt
  wakeOnGpio := values.wakeOnGpio
  psuMaxCurrent := values.psuMaxCurrent

/-- `BlValuesEqual`. -/
def blValuesEqual (a b : BlcfgValues) : Bool :=
  a.bootOrder == b.bootOrder && a.bootUart == b.bootUart && a.powerOffOnHalt == b.powerOffOnHalt &&
    a.wakeOnGpio == b.wakeOnGpio && a.psuMaxCurrent == b.psuMaxCurrent

theorem blValuesEqual_iff {a b : BlcfgValues} : blValuesEqual a b = true ↔ a = b := by
  cases a
  cases b
  simp [blValuesEqual, and_assoc]

/-! ## The boot volume -/

/-- `STAGED_UPDATE_FILE`. -/
def stagedUpdateFile : String := "pieeprom.upd"

/-- `STAGED_SIG_FILE`. -/
def stagedSigFile : String := "pieeprom.sig"

/-- `Score`. -/
def bootVolumeScore (io : IoOracle) (volume : Nat) (w : FsWorld) : Nat × FsWorld :=
  let (status, w) := fsOpen io w volume "armstub8-2712.bin" .read
  if !status.isError then (2, w)
  else
    let (status, w) := fsOpen io w volume "config.txt" .read
    if !status.isError then (1, w) else (0, w)

/-- The loop of `OpenBootVolume`, from `Best` and `BestScore`. -/
def openBootVolumeFrom (io : IoOracle) :
    List Nat → Option Nat → Nat → FsWorld → Option Nat × FsWorld
  | [], best, _, w => (best, w)
  | volume :: handles, best, bestScore, w =>
    -- `HandleProtocol`
    let (status, w) := ioCall io w
    if status.isError then openBootVolumeFrom io handles best bestScore w
    else
      -- `OpenVolume`
      let (status, w) := ioCall io w
      if status.isError then openBootVolumeFrom io handles best bestScore w
      else
        let (score, w) := bootVolumeScore io volume w
        if score > bestScore then
          if score = 2 then (some volume, w)
          else openBootVolumeFrom io handles (some volume) score w
        else openBootVolumeFrom io handles best bestScore w

/-- `OpenBootVolume`. -/
def openBootVolume (io : IoOracle) (handles : List Nat) (w : FsWorld) : Option Nat × FsWorld :=
  openBootVolumeFrom io handles none 0 w

/-- `DeleteFileIfPresent`. -/
def deleteFileIfPresent (io : IoOracle) (w : FsWorld) (volume : Nat) (name : String) : FsWorld :=
  let (status, w) := fsOpen io w volume name .readWrite
  if status.isError then w else fsDelete w volume name

/-- `ReplaceFileContent` from `Write` to `Flush`, to the file that was opened before. -/
def writeFlush (io : IoOracle) (w : FsWorld) (volume : Nat) (name : String) (data : List UInt8) :
    EfiStatus × FsWorld :=
  let (status, writeLen, _, w) := fsWrite io w (.opened volume name) data
  if status.isError then (status, w)
  else if writeLen ≠ data.length then (.deviceError, w)
  else ioCall io w

/-- `ReplaceFileContent`. -/
def replaceFileContent (io : IoOracle) (w : FsWorld) (volume : Nat) (name : String)
    (data : List UInt8) : EfiStatus × FsWorld :=
  let w := deleteFileIfPresent io w volume name
  let (status, w) := fsOpen io w volume name .readWriteCreate
  if status.isError then (status, w)
  else
    let (status, w) := writeFlush io w volume name data
    if status.isError then (status, deleteFileIfPresent io w volume name) else (status, w)

/-! ## `StageUpdate` -/

/-- What the driver loaded at its entry: is there an `mFdt`, the text of `mBlconfigRaw`, `none` for
`NULL`. -/
structure BlLive where
  fdt : Bool
  blconfig : Option (List UInt8)

/-- `mCurrentValues`. -/
def BlLive.currentValues (live : BlLive) : BlcfgValues :=
  blValuesFromText (live.blconfig.getD [])

/-- The fields of `BCM2712_BOOT_SPI` that are shown. -/
structure BootSpi where
  spiBase : UInt64
  csBankBase : UInt64
  csMask : UInt32
  pinctrlBase : UInt64

/-- `BCM2712_BOOT_SPI_RESULT`. -/
structure BootSpiResult where
  jedecId : UInt8 × UInt8 × UInt8
  usedD0 : Bool
  muxed : Bool

/-- What `HiiGetBrowserData`, `Bcm2712BootSpiLocate`, the two `AllocatePool` calls,
`Bcm2712BootSpiReadImage` and `StagingTimestamp` return. -/
structure StageInputs where
  browserData : Option RpiBlcfgData
  locate : EfiStatus × BootSpi
  imagePoolFull : Bool
  readImage : EfiStatus × BootSpiResult × Mem
  timestamp : UInt32
  configPoolFull : Bool

/-- `ValueIsZero`. -/
def valueIsZero (val : List UInt8) : Bool :=
  val.all (fun c => isBlank c || c == chZero) && val.any (· == chZero)

/-- `"%02x"` and `"%Lx"` on the screen. -/
def shownByte (b : UInt8) : String :=
  String.ofList [Nat.digitChar (b.toNat / 16), Nat.digitChar (b.toNat % 16)]

def shownHex (n : Nat) : String := String.ofList (Nat.toDigits 16 n)

/-- `DiagLine1` and `DiagLine2`. -/
def spiDiagnosis (spi : BootSpi) (result : BootSpiResult) : List String :=
  ["No answer: JEDEC " ++ shownByte result.jedecId.1 ++ " " ++
      shownByte result.jedecId.2.1 ++ " " ++
      shownByte result.jedecId.2.2 ++ ", " ++ (if result.usedD0 then "D0" else "C0") ++ " mux " ++
      (if result.muxed then "applied" else "unavailable"),
    "SPI " ++ shownHex spi.spiBase.toNat ++ " CS " ++ shownHex spi.csBankBase.toNat ++ "/" ++
      shownHex spi.csMask.toNat ++ " pinctrl " ++ shownHex spi.pinctrlBase.toNat]

/-- `Sig` as `StageUpdate` prints it: the digest of the image, the timestamp, the target. -/
def updateSig (image : List UInt8) (timestamp : UInt32) : List UInt8 :=
  digestLine image ++ printedEol ++ ascii "ts: " ++ decimalText timestamp ++ printedEol ++
    ascii "target-soc: 2712" ++ printedEol

/-- What is written to the boot volume. -/
structure PreparedUpdate where
  values : BlcfgValues
  image : List UInt8
  sig : List UInt8

/-- `StageUpdate` up to `OpenBootVolume`: the update, or the lines of the popup it returns with. -/
def prepareUpdate (live : BlLive) (inputs : StageInputs) : Except (List String) PreparedUpdate :=
  match inputs.browserData with
  | none => .error ["Could not read the edited settings from the form."]
  | some edited =>
    match blValuesFromData edited with
    | none => .error ["BOOT_ORDER must be 1-8 hex digits, e.g. 0xf461.",
        "See the Raspberry Pi bootloader documentation for the codes."]
    | some newValues =>
      if blValuesEqual newValues live.currentValues then
        .error ["No pending changes - the EEPROM already matches."]
      else
        match live.blconfig with
        | none => .error ["The firmware provided no bootloader config (blconfig)."]
        | some text =>
          if (blTextGetValue text (ascii "ENABLE_SELF_UPDATE")).any valueIsZero then
            .error ["ENABLE_SELF_UPDATE=0 is set: the bootloader would ignore",
              "a staged update. Use recovery.bin from another machine."]
          else if !live.fdt then .error ["No device tree; cannot locate the boot SPI."]
          else if inputs.locate.1.isError then
            .error ["Could not determine the boot SPI controller."]
          else if inputs.imagePoolFull then .error ["Out of memory for the 2 MiB EEPROM image."]
          else if inputs.readImage.1.isError then
            .error (spiDiagnosis inputs.locate.2 inputs.readImage.2.1)
          else
            let patched := patchImage inputs.readImage.2.2 eepromImageSize2712 newValues
              inputs.timestamp inputs.configPoolFull
            if patched.status.isError then .error [patched.failLine.getD ""]
            else
              let image := patched.image.slice 0 eepromImageSize2712
              .ok ⟨newValues, image, updateSig image inputs.timestamp⟩

/-- The two replacements; an update without its signature is deleted again. -/
def stageFiles (io : IoOracle) (w : FsWorld) (volume : Nat) (image sig : List UInt8) :
    EfiStatus × FsWorld :=
  let (status, w) := replaceFileContent io w volume stagedUpdateFile image
  if status.isError then (status, w)
  else
    let (status, w) := replaceFileContent io w volume stagedSigFile sig
    if status.isError then (status, deleteFileIfPresent io w volume stagedUpdateFile)
    else (status, w)

/-- `SetVariable`, whose failure leaves the old value. -/
def setMarker (status : EfiStatus) (marker value : Option RpiBlcfgData) : Option RpiBlcfgData :=
  if status.isError then marker else value

/-- A run returns after a popup, or resets with an update staged on a volume. -/
inductive StageOutcome where
  | popup (lines : List String)
  | reset (volume : Nat)
  deriving DecidableEq, Repr

/-- `StageUpdate`: the outcome, the volumes and `BlCfgStaged`. -/
def stageUpdate (live : BlLive) (inputs : StageInputs) (io : IoOracle) (handles : List Nat)
    (setVariable : EfiStatus) (w : FsWorld) (marker : Option RpiBlcfgData) :
    StageOutcome × FsWorld × Option RpiBlcfgData :=
  match prepareUpdate live inputs with
  | .error lines => (.popup lines, w, marker)
  | .ok update =>
    match openBootVolume io handles w with
    | (none, w) =>
      (.popup ["No boot volume with armstub8-2712.bin or config.txt found."], w, marker)
    | (some volume, w) =>
      let (status, w) := stageFiles io w volume update.image update.sig
      if status.isError then
        (.popup ["Writing the update files to the boot partition failed."], w, marker)
      else
        (.reset volume, w, setMarker setVariable marker (some (blValuesToData update.values)))

/-! ## `BlStagedMarkerCleanup` -/

/-- `Applied`, for a variable of the right size. -/
def stagedApplied (live : BlLive) (data : RpiBlcfgData) : Bool :=
  match blValuesFromData data with
  | none => false
  | some staged => blValuesEqual staged live.currentValues

/-- The deletions for an applied update. -/
def deleteStagedFiles (io : IoOracle) (handles : List Nat) (w : FsWorld) : FsWorld :=
  match openBootVolume io handles w with
  | (none, w) => w
  | (some volume, w) =>
    deleteFileIfPresent io (deleteFileIfPresent io w volume stagedUpdateFile) volume stagedSigFile

/-- What `GetVariable` finds. -/
def getMarker (status : EfiStatus) (marker : Option RpiBlcfgData) : Option RpiBlcfgData :=
  if status.isError then none else marker

/-- `BlStagedMarkerCleanup`: the volumes and `BlCfgStaged`. -/
def blStagedMarkerCleanup (live : BlLive) (io : IoOracle) (handles : List Nat)
    (getVariable setVariable : EfiStatus) (w : FsWorld) (marker : Option RpiBlcfgData) :
    FsWorld × Option RpiBlcfgData :=
  match getMarker getVariable marker with
  | none => (w, marker)
  | some data =>
    (if stagedApplied live data then deleteStagedFiles io handles w else w,
      setMarker setVariable marker none)

end Rpi5Uefi
