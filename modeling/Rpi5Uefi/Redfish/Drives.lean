import Rpi5Uefi.Efi.Status
import Rpi5Uefi.Redfish.Inventory
import Rpi5Uefi.Lib.FirstOccurrences
import Mathlib.Data.List.DropRight
import Mathlib.Data.List.GetD

/-!
# The drives of the host (`RpiRedfishCollectDrives`)

The sync goes through the handles with disk info and takes the NVMe and ATA drives with their
identity: strings of a fixed width, padded, and with ATA's bytes swapped in pairs. The namespaces of
one NVMe controller all answer with the controller's identity.

* **`copyIdentifyString_field`**: a text padded into a field is read back.
* **`rpiRedfishCollectDrives_report`**: the drives reported are the first of each identity.
-/

namespace Rpi5Uefi

open FirstOccurrences

/-! ## Identify strings -/

/-- A field of the identify data. -/
structure IdentifyField (size : Nat) where
  bytes : List UInt8
  length : bytes.length = size

/-- The loop that copies a field into a buffer of `destSize`. -/
def identifyBytes (destSize : Nat) (source : List UInt8) (swapPairs : Bool) : List UInt8 :=
  let length := if source.length ≥ destSize then destSize - 1 else source.length
  (List.range length).map fun index => source.getD (if swapPairs then index ^^^ 1 else index) 0

/-- `CopyIdentifyString`, to the text in front of the NUL: the trailing padding is cut off, then the
leading one. -/
def copyIdentifyString (destSize : Nat) (source : List UInt8) (swapPairs : Bool) : List UInt8 :=
  let dest := (identifyBytes destSize source swapPairs).rdropWhile fun b => b ≤ 0x20
  (dest.dropWhile fun b => b == 0x20).takeWhile fun b => b ≠ 0

theorem length_copyIdentifyString {destSize : Nat} (hdest : destSize ≠ 0) (source : List UInt8)
    (swapPairs : Bool) : (copyIdentifyString destSize source swapPairs).length < destSize := by
  have hcopied : (identifyBytes destSize source swapPairs).length < destSize := by
    unfold identifyBytes
    simp only
    rw [List.length_map, List.length_range]
    split <;> omega
  have htrimmed := (List.rdropWhile_prefix (fun b : UInt8 => decide (b ≤ 0x20))
    (l := identifyBytes destSize source swapPairs)).length_le
  have hleading := (List.dropWhile_suffix (fun b : UInt8 => b == 0x20)
    (l := (identifyBytes destSize source swapPairs).rdropWhile fun b => b ≤ 0x20)).length_le
  have htext := (List.takeWhile_prefix (fun b : UInt8 => decide (b ≠ 0))
    (l := ((identifyBytes destSize source swapPairs).rdropWhile
      fun b => b ≤ 0x20).dropWhile fun b => b == 0x20)).length_le
  unfold copyIdentifyString
  simp only
  omega

/-- A string of a drive. -/
def identifyString {size : Nat} (field : IdentifyField size) (swapPairs : Bool) :
    InventoryString rpiRedfishStrMax where
  bytes := copyIdentifyString rpiRedfishStrMax field.bytes swapPairs
  fits := length_copyIdentifyString (by decide) _ _
  noNul := by
    intro hmem
    have hshown := List.mem_takeWhile_imp hmem
    exact absurd hshown (by decide)

/-! ## The handles -/

/-- `Interface` of the disk info. -/
inductive DiskInterface where
  | nvme
  | ahci
  | ide
  | other
  deriving DecidableEq

/-- The strings of `NVME_ADMIN_CONTROLLER_DATA`. -/
structure NvmeIdentify where
  mn : IdentifyField 40
  sn : IdentifyField 20
  fr : IdentifyField 8

/-- What is read of `ATA_IDENTIFY_DATA`. -/
structure AtaIdentify where
  modelName : IdentifyField 40
  serialNo : IdentifyField 20
  firmwareVer : IdentifyField 8
  nominalMediaRotationRate : UInt16

/-- What is read of the media of a block device. -/
structure DriveMedia where
  mediaPresent : Bool
  lastBlock : UInt64
  blockSize : UInt32

/-- A handle with disk info: what the calls about it return, and the data where they succeed.
`media` is none where the pointer is `NULL`. -/
structure DiskHandle where
  diskInfo : EfiStatus
  interface : DiskInterface
  devicePath : EfiStatus
  locatePassThru : EfiStatus
  passThruProtocol : EfiStatus
  passThru : EfiStatus
  controller : NvmeIdentify
  identify : EfiStatus
  ata : AtaIdentify
  blockIo : EfiStatus
  media : Option DriveMedia

/-- `CollectNvmeDrive`. -/
def collectNvmeDrive (handle : DiskHandle) : Except EfiStatus RpiRedfishDrive :=
  if handle.devicePath.isError then .error handle.devicePath
  else if handle.locatePassThru.isError then .error handle.locatePassThru
  else if handle.passThruProtocol.isError then .error handle.passThruProtocol
  else if handle.passThru.isError then .error handle.passThru
  else
    .ok {
      model := identifyString handle.controller.mn false
      serialNumber := identifyString handle.controller.sn false
      revision := identifyString handle.controller.fr false
      protocol := some .nvme
      mediaType := some .ssd
      capacityBytes := 0 }

/-- The media type of word 217. -/
def ataMediaType (rate : UInt16) : Option DriveMediaType :=
  if rate = 1 then some .ssd else if rate ≥ 0x0401 ∧ rate ≤ 0xFFFE then some .hdd else none

/-- `CollectAtaDrive`. -/
def collectAtaDrive (handle : DiskHandle) : Except EfiStatus RpiRedfishDrive :=
  if handle.identify.isError then .error handle.identify
  else
    .ok {
      model := identifyString handle.ata.modelName true
      serialNumber := identifyString handle.ata.serialNo true
      revision := identifyString handle.ata.firmwareVer true
      protocol := some .sata
      mediaType := ataMediaType handle.ata.nominalMediaRotationRate
      capacityBytes := 0 }

/-- A drive is taken with its identity, or none. -/
def collectIdentity (handle : DiskHandle) : Option RpiRedfishDrive :=
  if handle.diskInfo.isError then none
  else
    let collected :=
      match handle.interface with
      | .nvme => collectNvmeDrive handle
      | .ahci | .ide => collectAtaDrive handle
      | .other => .error .unsupported
    match collected with
    | .error _ => none
    | .ok drive =>
      if drive.model.bytes = [] ∧ drive.serialNumber.bytes = [] then none else some drive

/-- `CapacityBytes`, where there is media. -/
def withCapacity (handle : DiskHandle) (drive : RpiRedfishDrive) : RpiRedfishDrive :=
  if handle.blockIo.isError then drive
  else
    match handle.media with
    | none => drive
    | some media =>
      if media.mediaPresent then
        { drive with capacityBytes := (media.lastBlock + 1) * media.blockSize.toUInt64 }
      else drive

/-- What a drive is known by. -/
def driveIdentity (drive : RpiRedfishDrive) : List UInt8 × List UInt8 :=
  (drive.serialNumber.bytes, drive.model.bytes)

/-- The loop over the handles. -/
def collectDrivesFrom (max : Nat) :
    List RpiRedfishDrive → List DiskHandle → List RpiRedfishDrive
  | drives, [] => drives
  | drives, handle :: handles =>
    if drives.length ≥ max then drives
    else
      match collectIdentity handle with
      | none => collectDrivesFrom max drives handles
      | some drive =>
        if drives.any fun existing => driveIdentity existing = driveIdentity drive then
          collectDrivesFrom max drives handles
        else collectDrivesFrom max (drives ++ [withCapacity handle drive]) handles

/-- `RpiRedfishCollectDrives`; no handles are no drives. -/
def rpiRedfishCollectDrives (locate : EfiStatus) (handles : List DiskHandle) (max : Nat) :
    EfiStatus × List RpiRedfishDrive :=
  if max = 0 then (.invalidParameter, [])
  else if locate.isError then (.success, [])
  else (.success, collectDrivesFrom max [] handles)

/-! ## The drives reported -/

/-- The drive of a handle, as it would be reported. -/
def identifiedDrive (handle : DiskHandle) : Option RpiRedfishDrive :=
  (collectIdentity handle).map (withCapacity handle)

theorem withCapacity_eq (handle : DiskHandle) (drive : RpiRedfishDrive) :
    ∃ capacityBytes, withCapacity handle drive = { drive with capacityBytes } := by
  unfold withCapacity
  split
  · exact ⟨drive.capacityBytes, rfl⟩
  split
  · exact ⟨drive.capacityBytes, rfl⟩
  split
  · exact ⟨_, rfl⟩
  · exact ⟨drive.capacityBytes, rfl⟩

theorem driveIdentity_withCapacity (handle : DiskHandle) (drive : RpiRedfishDrive) :
    driveIdentity (withCapacity handle drive) = driveIdentity drive := by
  obtain ⟨capacityBytes, heq⟩ := withCapacity_eq handle drive
  rw [heq]
  rfl

/-- **The loop takes the first drive of each identity**, up to its bound. -/
theorem collectDrivesFrom_eq (max : Nat) (drives : List RpiRedfishDrive)
    (handles : List DiskHandle) (hroom : drives.length ≤ max) :
    collectDrivesFrom max drives handles =
      (drives ++ firstsFrom driveIdentity (drives.map driveIdentity)
        (handles.filterMap identifiedDrive)).take max := by
  induction handles generalizing drives with
  | nil =>
    unfold collectDrivesFrom
    rw [List.filterMap_nil]
    show drives = (drives ++ []).take max
    rw [List.append_nil, List.take_of_length_le hroom]
  | cons handle handles ih =>
    unfold collectDrivesFrom
    split
    · rename_i hfull
      rw [List.take_append_of_le_length hfull, List.take_of_length_le hroom]
    rename_i hmore
    cases hidentity : collectIdentity handle with
    | none =>
      have hnone : identifiedDrive handle = none := by
        unfold identifiedDrive
        rw [hidentity]
        rfl
      rw [List.filterMap_cons_none hnone]
      exact ih drives hroom
    | some drive =>
      have hsome : identifiedDrive handle = some (withCapacity handle drive) := by
        unfold identifiedDrive
        rw [hidentity]
        rfl
      have hknown :
          (drives.any fun existing => driveIdentity existing = driveIdentity drive) = true ↔
          driveIdentity (withCapacity handle drive) ∈ drives.map driveIdentity := by
        rw [driveIdentity_withCapacity, List.any_eq_true, List.mem_map]
        simp only [decide_eq_true_eq]
      rw [List.filterMap_cons_some hsome]
      simp only
      split
      · rename_i hany
        rw [ih drives hroom, firsts_skipped drives (hknown.mp hany)]
      · rename_i hnew
        rw [ih, firsts_taken drives (hknown.not.mp hnew)]
        rw [List.length_append]
        show drives.length + 1 ≤ max
        omega

/-- What the drives that are reported are. -/
structure DriveReport (handles : List DiskHandle) (max : Nat) (drives : List RpiRedfishDrive) :
    Prop where
  bounded : drives.length ≤ max
  ordered : drives.Sublist (handles.filterMap identifiedDrive)
  distinct : (drives.map driveIdentity).Nodup
  first : ∀ drive ∈ drives, ∃ pre post,
    handles.filterMap identifiedDrive = pre ++ drive :: post ∧
      ∀ earlier ∈ pre, driveIdentity earlier ≠ driveIdentity drive
  named : ∀ drive ∈ drives, drive.model.bytes ≠ [] ∨ drive.serialNumber.bytes ≠ []
  complete : drives.length < max → ∀ handle ∈ handles, ∀ drive,
    identifiedDrive handle = some drive →
      ∃ reported ∈ drives, driveIdentity reported = driveIdentity drive

/-- A drive that is taken has an identity. -/
theorem identifiedDrive_named {handle : DiskHandle} {drive : RpiRedfishDrive}
    (h : identifiedDrive handle = some drive) :
    drive.model.bytes ≠ [] ∨ drive.serialNumber.bytes ≠ [] := by
  obtain ⟨taken, htaken, rfl⟩ := Option.map_eq_some_iff.mp h
  obtain ⟨capacityBytes, heq⟩ := withCapacity_eq handle taken
  rw [heq]
  show taken.model.bytes ≠ [] ∨ taken.serialNumber.bytes ≠ []
  unfold collectIdentity at htaken
  split at htaken
  · cases htaken
  simp only at htaken
  split at htaken
  · cases htaken
  split at htaken
  · cases htaken
  · rename_i hnamed
    cases htaken
    exact not_and_or.mp hnamed

/-- A text as a drive reports it: no padding at its ends, and no NUL. -/
structure IdentifyText where
  bytes : List UInt8
  noNul : (0 : UInt8) ∉ bytes
  head : bytes.head? ≠ some 0x20
  last : ∀ b ∈ bytes.getLast?, 0x20 < b

/-- The text in a field, spaces in front and padding behind it. -/
def IdentifyText.field (text : IdentifyText) (lead size : Nat) (pad : UInt8) : List UInt8 :=
  List.replicate lead 0x20 ++ text.bytes ++ List.replicate (size - lead - text.bytes.length) pad

/-- ATA's order of the bytes. -/
def swapBytes (l : List UInt8) : List UInt8 :=
  (List.range l.length).map fun index => l.getD (index ^^^ 1) 0

theorem xor_one_lt {i n : Nat} (h : i < n) (heven : n % 2 = 0) : i ^^^ 1 < n := by
  have hhalf : (i ^^^ 1) / 2 = i / 2 := by
    rw [Nat.xor_div_two]
    exact Nat.xor_zero _
  omega

/-- Swapped twice the bytes are as they were. -/
theorem identifyBytes_swapBytes {destSize : Nat} {l : List UInt8} (hfits : l.length < destSize)
    (heven : l.length % 2 = 0) : identifyBytes destSize (swapBytes l) true = l := by
  have hlength : (swapBytes l).length = l.length := by
    unfold swapBytes
    rw [List.length_map, List.length_range]
  unfold identifyBytes
  simp only
  rw [hlength, if_neg (by omega)]
  apply List.ext_getElem
  · rw [List.length_map, List.length_range]
  intro i _ hi
  have hpartner := xor_one_lt hi heven
  have hback : i ^^^ 1 ^^^ 1 = i := by
    rw [Nat.xor_assoc, Nat.xor_self, Nat.xor_zero]
  rw [List.getElem_map, List.getElem_range, if_pos trivial,
    List.getD_eq_getElem _ _ (hlength.symm ▸ hpartner)]
  unfold swapBytes
  rw [List.getElem_map, List.getElem_range, hback, List.getD_eq_getElem _ _ hi]

theorem identifyBytes_plain {destSize : Nat} {l : List UInt8} (hfits : l.length < destSize) :
    identifyBytes destSize l false = l := by
  unfold identifyBytes
  simp only
  rw [if_neg (by omega)]
  apply List.ext_getElem
  · rw [List.length_map, List.length_range]
  intro i _ hi
  rw [List.getElem_map, List.getElem_range]
  exact List.getD_eq_getElem _ _ hi

theorem rdropWhile_padding {p : UInt8 → Bool} {pad : UInt8} (hpad : p pad = true)
    (l : List UInt8) (n : Nat) : (l ++ List.replicate n pad).rdropWhile p = l.rdropWhile p := by
  induction n with
  | zero => rw [List.replicate_zero, List.append_nil]
  | succ n ih =>
    rw [List.replicate_succ', ← List.append_assoc, List.rdropWhile_concat_pos _ _ _ hpad, ih]

theorem dropWhile_spaces (l : List UInt8) (n : Nat) :
    (List.replicate n 0x20 ++ l).dropWhile (fun b => b == 0x20) =
      l.dropWhile fun b => b == 0x20 := by
  induction n with
  | zero => rfl
  | succ n ih =>
    rw [List.replicate_succ, List.cons_append, List.dropWhile_cons, if_pos (beq_self_eq_true _), ih]

/-- **The padding at both ends is cut off**, and the text is left. -/
theorem copyIdentifyString_of_bytes {destSize lead size : Nat} {source : List UInt8}
    {swapPairs : Bool} {pad : UInt8} (text : IdentifyText) (hpad : pad ≤ 0x20)
    (h : identifyBytes destSize source swapPairs = text.field lead size pad) :
    copyIdentifyString destSize source swapPairs = text.bytes := by
  unfold copyIdentifyString
  simp only
  rw [h]
  unfold IdentifyText.field
  rw [rdropWhile_padding (decide_eq_true hpad)]
  rcases eq_or_ne text.bytes [] with hnone | hsome
  · -- nothing but spaces
    rw [hnone, List.append_nil]
    have hspace : decide ((0x20 : UInt8) ≤ 0x20) = true := rfl
    have hspaces := @rdropWhile_padding (fun b => decide (b ≤ 0x20)) 0x20 hspace [] lead
    rw [List.nil_append] at hspaces
    rw [hspaces]
    rfl
  have hkept : (List.replicate lead 0x20 ++ text.bytes).rdropWhile (fun b => decide (b ≤ 0x20)) =
      List.replicate lead 0x20 ++ text.bytes := by
    rw [List.rdropWhile_eq_self_iff]
    intro hne
    have hshown := text.last (text.bytes.getLast hsome) (List.getLast?_eq_some_getLast hsome)
    rw [List.getLast_append_of_ne_nil _ hsome, decide_eq_true_eq]
    exact UInt8.not_le.mpr hshown
  have hleading : text.bytes.dropWhile (fun b => b == 0x20) = text.bytes := by
    have hhead := text.head
    generalize text.bytes = bytes at hhead
    cases bytes with
    | nil => rfl
    | cons b bytes =>
      have hspace : ¬ b = 0x20 := fun hb => hhead (congrArg some hb)
      rw [List.dropWhile_cons, if_neg (by simpa using hspace)]
  have hwhole : text.bytes.takeWhile (fun b => decide (b ≠ 0)) = text.bytes := by
    rw [List.takeWhile_eq_self_iff]
    intro b hb
    rw [decide_eq_true_eq]
    rintro rfl
    exact text.noNul hb
  rw [hkept, dropWhile_spaces, hleading, hwhole]

theorem length_field (text : IdentifyText) {lead size : Nat}
    (h : lead + text.bytes.length ≤ size) (pad : UInt8) :
    (text.field lead size pad).length = size := by
  unfold IdentifyText.field
  rw [List.length_append, List.length_append, List.length_replicate, List.length_replicate]
  omega

/-- **A text that a drive pads into a field is read back**: an NVMe drive's as it stands, and an ATA
drive's with its bytes swapped, whatever padding there is in front of it and behind it. -/
theorem copyIdentifyString_field (text : IdentifyText) (lead size : Nat) (pad : UInt8)
    (hroom : lead + text.bytes.length ≤ size) (hpad : pad ≤ 0x20)
    (hsize : size < rpiRedfishStrMax) (heven : size % 2 = 0) :
    copyIdentifyString rpiRedfishStrMax (text.field lead size pad) false = text.bytes ∧
      copyIdentifyString rpiRedfishStrMax (swapBytes (text.field lead size pad)) true =
        text.bytes := by
  have hlength := length_field text hroom pad
  have hfits : (text.field lead size pad).length < rpiRedfishStrMax := by
    rw [hlength]
    exact hsize
  constructor
  · exact copyIdentifyString_of_bytes text hpad (identifyBytes_plain hfits)
  · exact copyIdentifyString_of_bytes text hpad
      (identifyBytes_swapBytes hfits (by rw [hlength]; exact heven))

/-- A serial number. -/
def serialText : IdentifyText where
  bytes := [0x53, 0x33, 0x20, 0x37]
  noNul := by decide
  head := by decide
  last := by
    intro b hb
    cases hb
    decide

/-- In a field of 8, behind two spaces and in front of two NULs. -/
theorem copyIdentifyString_field_serial :
    copyIdentifyString rpiRedfishStrMax (serialText.field 2 8 0) false = serialText.bytes ∧
      copyIdentifyString rpiRedfishStrMax (swapBytes (serialText.field 2 8 0)) true =
        serialText.bytes :=
  copyIdentifyString_field serialText 2 8 0 (by decide) (by decide) (by decide) (by decide)

end Rpi5Uefi
