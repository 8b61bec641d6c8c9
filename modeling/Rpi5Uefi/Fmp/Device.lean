import Rpi5Uefi.Efi.FileSystem

/-!
# Capsule updates of the firmware file (`Rpi5FmpDeviceLib.c`)

The firmware is a file on a boot volume, and the variable store is the tail of that file. A capsule
may replace what lies before the store. The functions are the library's, over the volumes of
`FsWorld`; `handles` is what `LocateHandleBuffer` returns, empty where it fails, and
`updateSupported` is `PcdRpi5FmpUpdateSupported`. `Progress` and `Close` have no effect here.
-/

namespace Rpi5Uefi

/-! ## The layout of the file -/

/-- `PcdNvStorageVariableBase`. -/
def pcdNvStorageVariableBase : Nat := 0x003b0000

/-- `PcdFdBaseAddress`. -/
def pcdFdBaseAddress : Nat := 0

/-- `RPI5_FMP_UPDATABLE_SIZE`. -/
def rpi5FmpUpdatableSize : Nat := pcdNvStorageVariableBase - pcdFdBaseAddress

/-- `mFirmwareFileNames`. -/
def mFirmwareFileNames : List String := ["armstub8-2712.bin", "RPI_EFI.FD"]

/-- `sizeof (EFI_FIRMWARE_VOLUME_HEADER)`. -/
def efiFirmwareVolumeHeaderSize : Nat := 64

/-- `EFI_FVH_SIGNATURE`, at its offset in the header. -/
def efiFvhSignature : List UInt8 := [0x5f, 0x46, 0x56, 0x48]

def fvhSignatureOffset : Nat := 40

/-- `gEfiSystemNvDataFvGuid`, at the offset of `FileSystemGuid` in the header. -/
def gEfiSystemNvDataFvGuid : List UInt8 :=
  [0x8D, 0x2B, 0xF1, 0xFF, 0x96, 0x76, 0x8B, 0x4C, 0xA9, 0x85, 0x27, 0x47, 0x07, 0x5B, 0x4F, 0x50]

def fvhFileSystemGuidOffset : Nat := 16

/-- The header is that of an NV variable store. -/
def nvStoreHeader (header : List UInt8) : Bool :=
  (header.drop fvhSignatureOffset).take efiFvhSignature.length == efiFvhSignature &&
    (header.drop fvhFileSystemGuidOffset).take gEfiSystemNvDataFvGuid.length ==
      gEfiSystemNvDataFvGuid

/-! ## Finding the file -/

/-- `Rpi5FmpCheckFirmwareFile`, which leaves the file behind what it read. -/
def rpi5FmpCheckFirmwareFile (io : IoOracle) (w : FsWorld) (file : FsFile) :
    EfiStatus × FsFile × FsWorld :=
  let (status, file, w) := fsSetPosition io w file rpi5FmpUpdatableSize
  if status.isError then (.notFound, file, w)
  else
    let (status, header, file, w) := fsRead io w file efiFirmwareVolumeHeaderSize
    if status.isError || header.length != efiFirmwareVolumeHeaderSize then (.notFound, file, w)
    else if !nvStoreHeader header then (.notFound, file, w)
    else (.success, file, w)

/-- The names on one volume. -/
def rpi5FmpOpenNames (io : IoOracle) (mode : FileMode) (volume : Nat) :
    List String → FsWorld → Option FsFile × FsWorld
  | [], w => (none, w)
  | name :: names, w =>
    let (status, w) := fsOpen io w volume name mode
    if status.isError then rpi5FmpOpenNames io mode volume names w
    else
      let (status, file, w) := rpi5FmpCheckFirmwareFile io w (.opened volume name)
      if status.isError then rpi5FmpOpenNames io mode volume names w
      else (some file, w)

/-- A volume whose medium is absent, or read-only where the file is to be written. -/
def rpi5FmpSkips (v : FsVolume) (mode : FileMode) : Bool :=
  match v.media with
  | some media => !media.mediaPresent || (media.readOnly && mode.writes)
  | none => false

/-- `Rpi5FmpOpenFirmwareFile`: the open file, or `EFI_NOT_FOUND`. -/
def rpi5FmpOpenFirmwareFile (io : IoOracle) (mode : FileMode) :
    List Nat → FsWorld → Option FsFile × FsWorld
  | [], w => (none, w)
  | volume :: handles, w =>
    if rpi5FmpSkips (w.volumes volume) mode then rpi5FmpOpenFirmwareFile io mode handles w
    else
      -- `HandleProtocol`
      let (status, w) := ioCall io w
      if status.isError then rpi5FmpOpenFirmwareFile io mode handles w
      else
        -- `OpenVolume`
        let (status, w) := ioCall io w
        if status.isError then rpi5FmpOpenFirmwareFile io mode handles w
        else
          match rpi5FmpOpenNames io mode volume mFirmwareFileNames w with
          | (some file, w) => (some file, w)
          | (none, w) => rpi5FmpOpenFirmwareFile io mode handles w

/-! ## The device library -/

/-- `Rpi5FmpValidatePayload`; the image is `NULL` or its bytes. -/
def rpi5FmpValidatePayload (image : Option (List UInt8)) : EfiStatus :=
  match image with
  | none => .invalidParameter
  | some image =>
    if image.length < rpi5FmpUpdatableSize then .invalidParameter
    else if image.length > rpi5FmpUpdatableSize then
      if image.length < rpi5FmpUpdatableSize + efiFirmwareVolumeHeaderSize then .invalidParameter
      else if !nvStoreHeader ((image.drop rpi5FmpUpdatableSize).take efiFirmwareVolumeHeaderSize)
      then .invalidParameter
      else .success
    else .success

/-- `*ImageUpdatable`. -/
inductive ImageUpdatable where
  | valid
  | invalid
  deriving DecidableEq, Repr

/-- `*LastAttemptStatus`. -/
inductive LastAttemptStatus where
  | success
  | errorUnsuccessful
  | errorInvalidFormat
  deriving DecidableEq, Repr

/-- `FmpDeviceCheckImageWithStatus`. -/
def fmpDeviceCheckImage (updateSupported : Bool) (image : Option (List UInt8)) :
    ImageUpdatable × LastAttemptStatus :=
  if !updateSupported then (.invalid, .errorUnsuccessful)
  else if (rpi5FmpValidatePayload image).isError then (.invalid, .errorInvalidFormat)
  else (.valid, .success)

/-- The write of `FmpDeviceSetImageWithStatus`, from `SetPosition` to `Done`. -/
def fmpWriteFirmware (io : IoOracle) (w : FsWorld) (file : FsFile) (image : List UInt8) :
    EfiStatus × FsWorld :=
  let (status, file, w) := fsSetPosition io w file 0
  if status.isError then (status, w)
  else
    let (status, writeSize, _, w) := fsWrite io w file (image.take rpi5FmpUpdatableSize)
    if status.isError then (status, w)
    else if writeSize ≠ rpi5FmpUpdatableSize then (.deviceError, w)
    else ioCall io w

/-- `FmpDeviceSetImageWithStatus`. -/
def fmpDeviceSetImage (updateSupported : Bool) (io : IoOracle) (handles : List Nat)
    (image : Option (List UInt8)) (w : FsWorld) : EfiStatus × LastAttemptStatus × FsWorld :=
  if !updateSupported then (.writeProtected, .errorUnsuccessful, w)
  else
    let status := rpi5FmpValidatePayload image
    if status.isError then (status, .errorInvalidFormat, w)
    else
      match rpi5FmpOpenFirmwareFile io .readWrite handles w with
      | (none, w) => (.notFound, .errorUnsuccessful, w)
      | (some file, w) =>
        let (status, w) := fmpWriteFirmware io w file (image.getD [])
        if status.isError then (status, .errorUnsuccessful, w) else (.success, .success, w)

/-- `FmpDeviceGetImage`: the status, the bytes in the buffer and `*ImageSize`; `imageSize` is the
size of the buffer, `NULL` or not. -/
def fmpDeviceGetImage (io : IoOracle) (handles : List Nat) (buffer : Bool) (imageSize : Option Nat)
    (w : FsWorld) : EfiStatus × Option (List UInt8) × Option Nat × FsWorld :=
  match imageSize with
  | none => (.invalidParameter, none, none, w)
  | some size =>
    if size < rpi5FmpUpdatableSize || !buffer then
      (.bufferTooSmall, none, some rpi5FmpUpdatableSize, w)
    else
      match rpi5FmpOpenFirmwareFile io .read handles w with
      | (none, w) => (.notFound, none, some size, w)
      | (some file, w) =>
        let (status, file, w) := fsSetPosition io w file 0
        if status.isError then (status, none, some size, w)
        else
          let (status, bytes, _, w) := fsRead io w file rpi5FmpUpdatableSize
          if status.isError then (status, some bytes, some size, w)
          else if bytes.length ≠ rpi5FmpUpdatableSize then
            (.deviceError, some bytes, some size, w)
          else (.success, some bytes, some rpi5FmpUpdatableSize, w)

end Rpi5Uefi
