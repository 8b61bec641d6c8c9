import Mathlib.Data.List.TakeWhile
import Rpi5Uefi.Efi.Print
import Rpi5Uefi.Efi.Status
import Rpi5Uefi.Lib.JsonFront
import Rpi5Uefi.Redfish.InventoryProcessor

/-!
# The firmware inventory (`RpiRedfishFirmware.c`)

The driver asks every Firmware Management Protocol for its images and sends the first one to the BMC
as a SoftwareInventory, one JSON object put together by `AsciiSPrint`.

* **`copyDescriptorString`**, **`rpiRedfishCollectFirmware`**: what is kept of a descriptor.
* **`rpiRedfishBuildFirmwareInventoryPatch`**: the body.
* **`firmwareMembers`**: what the body is to be. Its strings go into the text as they are.
* **`firmwareInventory_iff`**: which captured strings the body says.
-/

namespace Rpi5Uefi

open Bytes Appends Json

/-! ## Collecting the images -/

/-- `EFI_GUID`. -/
structure EfiGuid where
  data1 : UInt32
  data2 : UInt16
  data3 : UInt16
  data4 : Fin 8 → UInt8

/-- `RenderGuid`. -/
def renderGuid (guid : EfiGuid) (bufferSize : Nat) : List UInt8 :=
  let byte (i : Fin 8) : List UInt8 := printHex 2 (guid.data4 i).toNat
  asciiSPrint bufferSize
    (printHex 8 guid.data1.toNat ++ ascii "-" ++ printHex 4 guid.data2.toNat ++ ascii "-" ++
      printHex 4 guid.data3.toNat ++ ascii "-" ++ byte 0 ++ byte 1 ++ ascii "-" ++ byte 2 ++
      byte 3 ++ byte 4 ++ byte 5 ++ byte 6 ++ byte 7)

/-- `CopyDescriptorString`; `none` is `NULL`. -/
def copyDescriptorString (source : Option (List UInt16)) (destSize : Nat) : List UInt8 :=
  match source with
  | none => []
  | some source =>
    ((source.takeWhile (· != 0)).take (destSize - 1)).map fun c =>
      if c < 0x80 then c.toUInt8 else 0x3F

/-- `EFI_FIRMWARE_IMAGE_DESCRIPTOR`. -/
structure FirmwareImageDescriptor where
  imageTypeId : EfiGuid
  imageIdName : Option (List UInt16)
  versionName : Option (List UInt16)
  version : UInt32
  lowestSupportedImageVersion : UInt32
  attributesSetting : UInt64
  lastAttemptVersion : UInt32
  lastAttemptStatus : UInt32

/-- `IMAGE_ATTRIBUTE_IMAGE_UPDATABLE`. -/
def imageAttributeImageUpdatable : UInt64 := 1

/-- One handle: what its calls return, and what `GetImageInfo` reports. -/
structure FmpHandle where
  handleProtocol : EfiStatus
  sizeQuery : EfiStatus
  poolFull : Bool
  getImageInfo : EfiStatus
  descriptorVersion : UInt32
  descriptors : List FirmwareImageDescriptor

/-- `RPI_REDFISH_FIRMWARE_IMAGE`. -/
structure RpiRedfishFirmwareImage where
  imageTypeId : InventoryString 37
  name : InventoryString rpiRedfishStrMax
  version : InventoryString rpiRedfishStrMax
  versionNumber : UInt32
  lowestSupportedVersion : UInt32
  lastAttemptVersion : UInt32
  lastAttemptStatus : UInt32
  lastAttemptValid : Bool
  updateable : Bool

/-- Hexadecimal digits need no escape. -/
theorem plain_printHex (digits n : Nat) : Plain (printHex digits n) := by
  intro b hb
  obtain ⟨d, hd, rfl⟩ := mem_printHex hb
  have hall : ∀ d < 16, Plain [printHexDigit d] := by decide
  exact hall d hd _ List.mem_cons_self

theorem Plain.append {text text' : List UInt8} (h : Plain text) (h' : Plain text') :
    Plain (text ++ text') :=
  fun b hb => (List.mem_append.mp hb).elim (h b) (h' b)

theorem Plain.take {text : List UInt8} (h : Plain text) (n : Nat) : Plain (text.take n) :=
  fun b hb => h b (List.mem_of_mem_take hb)

theorem plain_renderGuid (guid : EfiGuid) (bufferSize : Nat) :
    Plain (renderGuid guid bufferSize) := by
  have hdash : Plain (ascii "-") := by decide
  unfold renderGuid asciiSPrint
  apply Plain.take
  repeat' apply Plain.append
  all_goals first | exact plain_printHex _ _ | exact hdash

theorem Plain.noNul {text : List UInt8} (h : Plain text) : (0 : UInt8) ∉ text :=
  fun hmem => absurd (h 0 hmem).1 (by decide)

theorem length_renderGuid_lt (guid : EfiGuid) : (renderGuid guid 37).length < 37 := by
  unfold renderGuid asciiSPrint
  rw [List.length_take]
  omega

theorem length_copyDescriptorString_lt (source : Option (List UInt16)) {destSize : Nat}
    (hsize : 0 < destSize) : (copyDescriptorString source destSize).length < destSize := by
  unfold copyDescriptorString
  split
  · exact hsize
  · rw [List.length_map, List.length_take]
    omega

/-- A character that is copied is no NUL and within ASCII. -/
theorem mem_copyDescriptorString {source : Option (List UInt16)} {destSize : Nat} {b : UInt8}
    (h : b ∈ copyDescriptorString source destSize) : b ≠ 0 ∧ b < 0x80 := by
  unfold copyDescriptorString at h
  split at h
  · exact absurd h List.not_mem_nil
  · obtain ⟨c, hc, rfl⟩ := List.mem_map.mp h
    have hne : c ≠ 0 := by simpa using List.mem_takeWhile_imp (List.mem_of_mem_take hc)
    split
    · rename_i hascii
      have hc' : c.toNat < 128 := UInt16.lt_iff_toNat_lt.mp hascii
      have hvalue : c.toUInt8.toNat = c.toNat := by
        rw [UInt16.toNat_toUInt8, Nat.mod_eq_of_lt]
        omega
      constructor
      · intro hzero
        apply hne
        rw [← UInt16.toNat_inj, ← hvalue, hzero]
        rfl
      · rw [UInt8.lt_iff_toNat_lt, hvalue]
        exact hc'
    · decide

/-- A descriptor's string in its field. -/
def capturedString (source : Option (List UInt16)) : InventoryString rpiRedfishStrMax where
  bytes := copyDescriptorString source rpiRedfishStrMax
  fits := length_copyDescriptorString_lt source (by decide)
  noNul := fun hmem => (mem_copyDescriptorString hmem).1 rfl

/-- The image of one descriptor. -/
def firmwareImageOf (descriptorVersion : UInt32) (descriptor : FirmwareImageDescriptor) :
    RpiRedfishFirmwareImage where
  imageTypeId := ⟨renderGuid descriptor.imageTypeId 37, length_renderGuid_lt _,
    (plain_renderGuid _ _).noNul⟩
  name := capturedString descriptor.imageIdName
  version := capturedString descriptor.versionName
  versionNumber := descriptor.version
  lowestSupportedVersion := descriptor.lowestSupportedImageVersion
  lastAttemptVersion := if descriptorVersion ≥ 3 then descriptor.lastAttemptVersion else 0
  lastAttemptStatus := if descriptorVersion ≥ 3 then descriptor.lastAttemptStatus else 0
  lastAttemptValid := descriptorVersion ≥ 3
  updateable := descriptor.attributesSetting &&& imageAttributeImageUpdatable ≠ 0

/-- The loop over the descriptors of one handle. -/
def collectDescriptors (max : Nat) (descriptorVersion : UInt32) :
    List FirmwareImageDescriptor → List RpiRedfishFirmwareImage → List RpiRedfishFirmwareImage
  | [], images => images
  | descriptor :: rest, images =>
    if images.length < max then
      collectDescriptors max descriptorVersion rest
        (images ++ [firmwareImageOf descriptorVersion descriptor])
    else images

/-- The loop over the handles. -/
def collectHandles (max : Nat) :
    List FmpHandle → List RpiRedfishFirmwareImage → List RpiRedfishFirmwareImage
  | [], images => images
  | handle :: rest, images =>
    if images.length < max then
      if handle.handleProtocol.isError || handle.sizeQuery != .bufferTooSmall || handle.poolFull ||
          handle.getImageInfo.isError then
        collectHandles max rest images
      else
        collectHandles max rest
          (collectDescriptors max handle.descriptorVersion handle.descriptors images)
    else images

/-- `RpiRedfishCollectFirmware`: the handles are what `LocateHandleBuffer` finds. -/
def rpiRedfishCollectFirmware (locate : EfiStatus) (handles : List FmpHandle) (max : Nat) :
    EfiStatus × List RpiRedfishFirmwareImage :=
  if locate.isError then (.notFound, []) else (.success, collectHandles max handles [])

theorem mem_collectDescriptors {max : Nat} {descriptorVersion : UInt32}
    {descriptors : List FirmwareImageDescriptor} {images : List RpiRedfishFirmwareImage}
    {image : RpiRedfishFirmwareImage}
    (h : image ∈ collectDescriptors max descriptorVersion descriptors images) :
    image ∈ images ∨ ∃ descriptor, image = firmwareImageOf descriptorVersion descriptor := by
  induction descriptors generalizing images with
  | nil => exact Or.inl h
  | cons descriptor rest ih =>
    unfold collectDescriptors at h
    split at h
    · rcases ih h with hmem | hnew
      · rcases List.mem_append.mp hmem with hold | hlast
        · exact Or.inl hold
        · exact Or.inr ⟨descriptor, List.mem_singleton.mp hlast⟩
      · exact Or.inr hnew
    · exact Or.inl h

theorem mem_collectHandles {max : Nat} {handles : List FmpHandle}
    {images : List RpiRedfishFirmwareImage} {image : RpiRedfishFirmwareImage}
    (h : image ∈ collectHandles max handles images) :
    image ∈ images ∨
      ∃ descriptorVersion descriptor, image = firmwareImageOf descriptorVersion descriptor := by
  induction handles generalizing images with
  | nil => exact Or.inl h
  | cons handle rest ih =>
    unfold collectHandles at h
    split at h
    · split at h
      · exact ih h
      · rcases ih h with hmem | hnew
        · rcases mem_collectDescriptors hmem with hold | ⟨descriptor, hnew⟩
          · exact Or.inl hold
          · exact Or.inr ⟨_, descriptor, hnew⟩
        · exact Or.inr hnew
    · exact Or.inl h

/-- **Every image that is collected is one descriptor's.** -/
theorem mem_rpiRedfishCollectFirmware {locate : EfiStatus} {handles : List FmpHandle} {max : Nat}
    {image : RpiRedfishFirmwareImage}
    (h : image ∈ (rpiRedfishCollectFirmware locate handles max).2) :
    ∃ descriptorVersion descriptor, image = firmwareImageOf descriptorVersion descriptor := by
  unfold rpiRedfishCollectFirmware at h
  split at h
  · exact absurd h List.not_mem_nil
  · exact (mem_collectHandles h).resolve_left List.not_mem_nil

/-! ## The body -/

/-- `RPI_REDFISH_FIRMWARE_INVENTORY_ID`. -/
def rpiRedfishFirmwareInventoryId : String := "BiosFirmware"

/-- The name that is sent. -/
def shownName (image : RpiRedfishFirmwareImage) : List UInt8 :=
  if image.name.bytes ≠ [] then image.name.bytes else ascii "Raspberry Pi 5 UEFI Firmware"

/-- The version that is sent. -/
def shownVersion (image : RpiRedfishFirmwareImage) : List UInt8 :=
  if image.version.bytes ≠ [] then image.version.bytes else ascii "unknown"

/-- What the first format makes. -/
def softwareText (image : RpiRedfishFirmwareImage) : List UInt8 :=
  ascii "\x7b\"@odata.type\":\"#SoftwareInventory.v1_2_3.SoftwareInventory\"," ++
    ascii "\"Id\":\"" ++ ascii rpiRedfishFirmwareInventoryId ++ ascii "\"," ++
    ascii "\"Name\":\"" ++ shownName image ++ ascii "\"," ++
    ascii "\"Version\":\"" ++ shownVersion image ++ ascii "\"," ++
    ascii "\"SoftwareId\":\"" ++ image.imageTypeId.bytes ++ ascii "\"," ++
    ascii "\"Updateable\":" ++ ascii (if image.updateable then "true" else "false") ++ ascii "," ++
    ascii "\"Status\":\x7b\"State\":\"Enabled\",\"Health\":\"OK\"\x7d"

/-- What the second format makes. -/
def versionText (image : RpiRedfishFirmwareImage) : List UInt8 :=
  ascii ",\"Oem\":\x7b\"PiBmc\":\x7b" ++
    ascii "\"FirmwareVersion\":" ++ printDecimal image.versionNumber.toNat ++
    ascii ",\"LowestSupportedVersion\":" ++ printDecimal image.lowestSupportedVersion.toNat

/-- What the third format makes. -/
def attemptText (image : RpiRedfishFirmwareImage) : List UInt8 :=
  ascii ",\"LastAttemptVersion\":" ++ printDecimal image.lastAttemptVersion.toNat ++
    ascii ",\"LastAttemptStatus\":" ++ printDecimal image.lastAttemptStatus.toNat

/-- `RpiRedfishBuildFirmwareInventoryPatch`: the text in front of the NUL. -/
def rpiRedfishBuildFirmwareInventoryPatch (image : RpiRedfishFirmwareImage) (poolFull : Bool) :
    Except EfiStatus (List UInt8) :=
  if poolFull then .error .outOfResources
  else
    let size := 1024
    let body := asciiSPrint size (softwareText image)
    let body := body ++ asciiSPrint (size - body.length) (versionText image)
    let body :=
      if image.lastAttemptValid then body ++ asciiSPrint (size - body.length) (attemptText image)
      else body
    .ok (body ++ asciiSPrint (size - body.length) (ascii "\x7d\x7d\x7d"))

/-! ## What the body is to be -/

/-- The members under `Oem.PiBmc`. -/
def piBmcMembers (image : RpiRedfishFirmwareImage) : List Member :=
  [(ascii "FirmwareVersion", .number (.ofNat image.versionNumber.toNat)),
    (ascii "LowestSupportedVersion", .number (.ofNat image.lowestSupportedVersion.toNat))] ++
    if image.lastAttemptValid then
      [(ascii "LastAttemptVersion", .number (.ofNat image.lastAttemptVersion.toNat)),
        (ascii "LastAttemptStatus", .number (.ofNat image.lastAttemptStatus.toNat))]
    else []

/-- What an image is to be sent as. -/
def firmwareMembers (image : RpiRedfishFirmwareImage) : List Member :=
  [(ascii "@odata.type", .string (ascii "#SoftwareInventory.v1_2_3.SoftwareInventory")),
    (ascii "Id", .string (ascii rpiRedfishFirmwareInventoryId)),
    (ascii "Name", .string (shownName image)),
    (ascii "Version", .string (shownVersion image)),
    (ascii "SoftwareId", .string image.imageTypeId.bytes),
    (ascii "Updateable", .bool image.updateable),
    (ascii "Status", .object [(ascii "State", .string (ascii "Enabled")),
      (ascii "Health", .string (ascii "OK"))]),
    (ascii "Oem", .object [(ascii "PiBmc", .object (piBmcMembers image))])]

/-- A member with its comma, from the text of its value. -/
def memberText (name : String) (text : List UInt8) : List UInt8 :=
  ascii ",\"" ++ ascii name ++ ascii "\":" ++ text

def quotedText (s : List UInt8) : List UInt8 := 0x22 :: (s ++ [0x22])

/-- Members in an object, with a brace for the first comma. -/
def objectText (pieces : List (List UInt8)) : List UInt8 := 0x7B :: (pieces.flatten.tail ++ [0x7D])

def piBmcPieces (image : RpiRedfishFirmwareImage) : List (List UInt8) :=
  [memberText "FirmwareVersion" (printDecimal image.versionNumber.toNat),
    memberText "LowestSupportedVersion" (printDecimal image.lowestSupportedVersion.toNat)] ++
    if image.lastAttemptValid then
      [memberText "LastAttemptVersion" (printDecimal image.lastAttemptVersion.toNat),
        memberText "LastAttemptStatus" (printDecimal image.lastAttemptStatus.toNat)]
    else []

/-- The members of `firmwareMembers` as they are written. -/
def firmwarePieces (image : RpiRedfishFirmwareImage) : List (List UInt8) :=
  [memberText "@odata.type" (quotedText (ascii "#SoftwareInventory.v1_2_3.SoftwareInventory")),
    memberText "Id" (quotedText (ascii rpiRedfishFirmwareInventoryId)),
    memberText "Name" (quotedText (shownName image)),
    memberText "Version" (quotedText (shownVersion image)),
    memberText "SoftwareId" (quotedText image.imageTypeId.bytes),
    memberText "Updateable" (ascii (if image.updateable then "true" else "false")),
    memberText "Status" (objectText [memberText "State" (quotedText (ascii "Enabled")),
      memberText "Health" (quotedText (ascii "OK"))]),
    memberText "Oem" (objectText [memberText "PiBmc" (objectText (piBmcPieces image))])]

theorem Spells.piece {piece : List UInt8} {pieces : List (List UInt8)} {members : List Member}
    {m : Member} (h : Spells [piece] [m]) (h' : Spells pieces members) :
    Spells (piece :: pieces) (m :: members) := h.cons h'

theorem spells_memberText_string {name : String} {s : List UInt8} (hname : Plain (ascii name))
    (hs : Plain s) : Spells [memberText name (quotedText s)] [(ascii name, .string s)] :=
  spells_literal hname hs

theorem spells_memberText_bool {name : String} (hname : Plain (ascii name)) (b : Bool) :
    Spells [memberText name (ascii (if b then "true" else "false"))] [(ascii name, .bool b)] := by
  apply Spells.member hname (List.flatten_singleton ..)
  · cases b with
    | false => exact .false
    | true => exact .true
  · cases b <;> decide
  · cases b <;> decide

theorem spells_memberText_decimal {name : String} (hname : Plain (ascii name)) (value : Nat) :
    Spells [memberText name (printDecimal value)] [(ascii name, .number (.ofNat value))] := by
  have hspells := spells_decimal hname value
  rwa [List.append_nil] at hspells

theorem Spells.object {name : String} {pieces : List (List UInt8)} {members : List Member}
    {m : Member} (hname : Plain (ascii name)) (h : Spells pieces (m :: members))
    (hpieces : pieces.flatten = 0x2C :: pieces.flatten.tail) :
    Spells [memberText name (objectText pieces)] [(ascii name, .object (m :: members))] :=
  Spells.nested hname h hpieces

theorem piBmcPieces_spell (image : RpiRedfishFirmwareImage) :
    Spells (piBmcPieces image) (piBmcMembers image) := by
  unfold piBmcPieces piBmcMembers
  apply Spells.append
  · apply Spells.piece (spells_memberText_decimal (by decide) _)
    exact spells_memberText_decimal (by decide) _
  · split
    · apply Spells.piece (spells_memberText_decimal (by decide) _)
      exact spells_memberText_decimal (by decide) _
    · exact Spells.nil

variable {image : RpiRedfishFirmwareImage}

/-- The pieces spell the members where the two strings need no escape. -/
theorem firmwarePieces_spell (hguid : Plain image.imageTypeId.bytes)
    (hname : Plain (shownName image)) (hversion : Plain (shownVersion image)) :
    Spells (firmwarePieces image) (firmwareMembers image) := by
  unfold firmwarePieces firmwareMembers
  apply Spells.piece (spells_memberText_string (by decide) (by decide))
  apply Spells.piece (spells_memberText_string (by decide) (by decide))
  apply Spells.piece (spells_memberText_string (by decide) hname)
  apply Spells.piece (spells_memberText_string (by decide) hversion)
  apply Spells.piece (spells_memberText_string (by decide) hguid)
  apply Spells.piece (spells_memberText_bool (by decide) image.updateable)
  apply Spells.piece
  · apply Spells.object (by decide)
    · apply Spells.piece (spells_memberText_string (by decide) (by decide))
      exact spells_memberText_string (by decide) (by decide)
    · rfl
  · apply Spells.object (by decide)
    · exact Spells.object (by decide) (piBmcPieces_spell image) rfl
    · rfl

/-- The text of the body, if nothing is cut. -/
theorem firmwareText_eq (image : RpiRedfishFirmwareImage) :
    softwareText image ++ versionText image ++
        (if image.lastAttemptValid then attemptText image else []) ++ ascii "\x7d\x7d\x7d" =
      objectText (firmwarePieces image) := by
  unfold softwareText versionText attemptText firmwarePieces piBmcPieces
  generalize shownName image = name
  generalize shownVersion image = version
  generalize image.imageTypeId.bytes = guid
  generalize ascii (if image.updateable then "true" else "false") = updateable
  generalize printDecimal image.versionNumber.toNat = versionNumber
  generalize printDecimal image.lowestSupportedVersion.toNat = lowest
  generalize printDecimal image.lastAttemptVersion.toNat = attempted
  generalize printDecimal image.lastAttemptStatus.toNat = attemptStatus
  generalize image.lastAttemptValid = valid
  -- each constant of the formats, as the names and the punctuation of its members
  have hcomma : ascii ",\"" = [0x2C, 0x22] := by decide
  have hcolon : ascii "\":" = [0x22, 0x3A] := by decide
  have hnext : ascii "\"," = [0x22, 0x2C] := by decide
  have hbehind : ascii "," = [0x2C] := by decide
  have hclose : ascii "\x7d\x7d\x7d" = [0x7D, 0x7D, 0x7D] := by decide
  have htype : ascii "\x7b\"@odata.type\":\"#SoftwareInventory.v1_2_3.SoftwareInventory\"," =
      0x7B :: 0x22 :: (ascii "@odata.type" ++ 0x22 :: 0x3A :: 0x22 ::
        (ascii "#SoftwareInventory.v1_2_3.SoftwareInventory" ++ [0x22, 0x2C])) := by
    simp [ascii]
  have hid : ascii "\"Id\":\"" = 0x22 :: (ascii "Id" ++ [0x22, 0x3A, 0x22]) := by decide
  have hname : ascii "\"Name\":\"" = 0x22 :: (ascii "Name" ++ [0x22, 0x3A, 0x22]) := by decide
  have hversion : ascii "\"Version\":\"" = 0x22 :: (ascii "Version" ++ [0x22, 0x3A, 0x22]) := by
    decide
  have hguid : ascii "\"SoftwareId\":\"" = 0x22 :: (ascii "SoftwareId" ++ [0x22, 0x3A, 0x22]) := by
    decide
  have hupdateable : ascii "\"Updateable\":" = 0x22 :: (ascii "Updateable" ++ [0x22, 0x3A]) := by
    decide
  have hstatus : ascii "\"Status\":\x7b\"State\":\"Enabled\",\"Health\":\"OK\"\x7d" =
      0x22 :: (ascii "Status" ++ 0x22 :: 0x3A :: 0x7B :: 0x22 :: (ascii "State" ++ 0x22 :: 0x3A ::
        0x22 :: (ascii "Enabled" ++ 0x22 :: 0x2C :: 0x22 :: (ascii "Health" ++ 0x22 :: 0x3A ::
          0x22 :: (ascii "OK" ++ [0x22, 0x7D]))))) := by
    simp [ascii]
  have hoem : ascii ",\"Oem\":\x7b\"PiBmc\":\x7b" = 0x2C :: 0x22 :: (ascii "Oem" ++ 0x22 :: 0x3A ::
      0x7B :: 0x22 :: (ascii "PiBmc" ++ [0x22, 0x3A, 0x7B])) := by
    decide
  have hfirmware : ascii "\"FirmwareVersion\":" =
      0x22 :: (ascii "FirmwareVersion" ++ [0x22, 0x3A]) := by decide
  have hlowest : ascii ",\"LowestSupportedVersion\":" =
      0x2C :: 0x22 :: (ascii "LowestSupportedVersion" ++ [0x22, 0x3A]) := by decide
  have hattempted : ascii ",\"LastAttemptVersion\":" =
      0x2C :: 0x22 :: (ascii "LastAttemptVersion" ++ [0x22, 0x3A]) := by decide
  have hattemptStatus : ascii ",\"LastAttemptStatus\":" =
      0x2C :: 0x22 :: (ascii "LastAttemptStatus" ++ [0x22, 0x3A]) := by decide
  unfold objectText memberText quotedText
  cases valid with
  | false =>
    simp only [Bool.false_eq_true, if_false, List.append_nil, htype, hid, hname, hversion, hguid,
      hupdateable, hstatus, hoem, hfirmware, hlowest, hcomma, hcolon, hnext, hbehind, hclose,
      List.flatten_cons, List.flatten_nil, List.tail_cons, List.append_assoc, List.cons_append,
      List.nil_append]
  | true =>
    simp only [if_true, htype, hid, hname, hversion, hguid, hupdateable, hstatus, hoem, hfirmware,
      hlowest, hattempted, hattemptStatus, hcomma, hcolon, hnext, hbehind, hclose,
      List.flatten_cons, List.flatten_nil, List.tail_cons, List.append_assoc, List.cons_append,
      List.nil_append]

/-! ## The body fits -/

theorem length_memberText (name : String) (text : List UInt8) :
    (memberText name text).length = (ascii name).length + 4 + text.length := by
  unfold memberText
  simp only [List.length_append]
  show 2 + (ascii name).length + 2 + text.length = _
  omega

theorem length_quotedText (s : List UInt8) : (quotedText s).length = s.length + 2 := by
  simp [quotedText]

theorem length_objectText {pieces : List (List UInt8)}
    (h : pieces.flatten = 0x2C :: pieces.flatten.tail) :
    (objectText pieces).length = pieces.flatten.length + 1 := by
  rw [h]
  unfold objectText
  simp

theorem length_printDecimal_le (n : UInt32) : (printDecimal n.toNat).length ≤ 10 := by
  rcases eq_or_ne n.toNat 0 with hzero | hne
  · rw [hzero]
    decide
  · rw [length_printDecimal hne, Nat.digits_length_le_iff (by decide)]
    have hlt := n.toNat_lt
    omega

theorem length_shownName_le (image : RpiRedfishFirmwareImage) : (shownName image).length ≤ 63 := by
  have hfits : image.name.bytes.length < 64 := image.name.fits
  unfold shownName
  split
  · omega
  · decide

theorem length_shownVersion_le (image : RpiRedfishFirmwareImage) :
    (shownVersion image).length ≤ 63 := by
  have hfits : image.version.bytes.length < 64 := image.version.fits
  unfold shownVersion
  split
  · omega
  · decide

theorem length_piBmcPieces_le (image : RpiRedfishFirmwareImage) :
    (piBmcPieces image).flatten.length ≤ 128 := by
  have hversion := length_printDecimal_le image.versionNumber
  have hlowest := length_printDecimal_le image.lowestSupportedVersion
  have hattempted := length_printDecimal_le image.lastAttemptVersion
  have hstatus := length_printDecimal_le image.lastAttemptStatus
  have hnames : (ascii "FirmwareVersion").length = 15 ∧
      (ascii "LowestSupportedVersion").length = 22 ∧ (ascii "LastAttemptVersion").length = 18 ∧
      (ascii "LastAttemptStatus").length = 17 := by
    simp [ascii]
  unfold piBmcPieces
  split <;>
  · simp only [List.flatten_append, List.flatten_cons, List.flatten_nil, List.length_append,
      length_memberText, List.length_nil]
    omega

/-- **Every body fits**: 63 characters of a name and of a version are the most there can be. -/
theorem length_firmwarePieces_le (image : RpiRedfishFirmwareImage) :
    (firmwarePieces image).flatten.length ≤ 600 := by
  have hpiBmc := length_piBmcPieces_le image
  have hguid : image.imageTypeId.bytes.length < 37 := image.imageTypeId.fits
  have hname := length_shownName_le image
  have hversion := length_shownVersion_le image
  have hbool : (ascii (if image.updateable then "true" else "false")).length ≤ 5 := by
    cases image.updateable <;> decide
  have hnames : (ascii "@odata.type").length = 11 ∧ (ascii "Id").length = 2 ∧
      (ascii "Name").length = 4 ∧ (ascii "Version").length = 7 ∧
      (ascii "SoftwareId").length = 10 ∧ (ascii "Updateable").length = 10 ∧
      (ascii "Status").length = 6 ∧ (ascii "State").length = 5 ∧ (ascii "Health").length = 6 ∧
      (ascii "Oem").length = 3 ∧ (ascii "PiBmc").length = 5 := by
    simp [ascii]
  have hvalues : (ascii "#SoftwareInventory.v1_2_3.SoftwareInventory").length = 43 ∧
      (ascii rpiRedfishFirmwareInventoryId).length = 12 ∧ (ascii "Enabled").length = 7 ∧
      (ascii "OK").length = 2 := by
    simp [ascii, rpiRedfishFirmwareInventoryId]
  have hinner : (objectText (piBmcPieces image)).length = (piBmcPieces image).flatten.length + 1 :=
    length_objectText rfl
  have hstatus : (objectText [memberText "State" (quotedText (ascii "Enabled")),
      memberText "Health" (quotedText (ascii "OK"))]).length = 33 := by
    rw [length_objectText rfl]
    simp only [List.flatten_cons, List.flatten_nil, List.length_append, length_memberText,
      length_quotedText, List.length_nil]
    omega
  have houter :
      (objectText [memberText "PiBmc" (objectText (piBmcPieces image))]).length ≤ 139 := by
    rw [length_objectText rfl, List.flatten_singleton, length_memberText]
    omega
  unfold firmwarePieces
  simp only [List.flatten_cons, List.flatten_nil, List.length_append, length_memberText,
    length_quotedText, List.length_nil]
  omega

/-- Nothing is cut from a text that fits behind the body, with its NUL. -/
theorem asciiSPrint_behind {size : Nat} {body text : List UInt8}
    (h : (body ++ text).length < size) : asciiSPrint (size - body.length) text = text := by
  rw [List.length_append] at h
  apply List.take_of_length_le
  omega

/-- **No print cuts its text**, whatever the image. -/
theorem rpiRedfishBuildFirmwareInventoryPatch_eq (image : RpiRedfishFirmwareImage) :
    rpiRedfishBuildFirmwareInventoryPatch image false =
      .ok (objectText (firmwarePieces image)) := by
  have hfits : (objectText (firmwarePieces image)).length < 1024 := by
    rw [length_objectText rfl]
    exact Nat.lt_of_le_of_lt (Nat.succ_le_succ (length_firmwarePieces_le image)) (by decide)
  rw [← firmwareText_eq image] at hfits ⊢
  have hlengths := hfits
  simp only [List.length_append] at hlengths
  have hsoftware : asciiSPrint 1024 (softwareText image) = softwareText image := by
    apply List.take_of_length_le
    omega
  have hversions : asciiSPrint (1024 - (softwareText image).length) (versionText image) =
      versionText image := by
    apply asciiSPrint_behind
    rw [List.length_append]
    omega
  have hbody : (if image.lastAttemptValid then
      softwareText image ++ versionText image ++
        asciiSPrint (1024 - (softwareText image ++ versionText image).length) (attemptText image)
      else softwareText image ++ versionText image) =
      softwareText image ++ versionText image ++
        (if image.lastAttemptValid then attemptText image else []) := by
    split
    · rename_i hvalid
      rw [if_pos hvalid] at hlengths
      rw [asciiSPrint_behind]
      simp only [List.length_append]
      omega
    · rw [List.append_nil]
  unfold rpiRedfishBuildFirmwareInventoryPatch
  simp only [Bool.false_eq_true, if_false, hsoftware, hversions, hbody]
  rw [asciiSPrint_behind hfits]

/-- **The text of an image whose strings need no escape** is the object of its members. -/
theorem firmwarePieces_isObject (hguid : Plain image.imageTypeId.bytes)
    (hname : Plain (shownName image)) (hversion : Plain (shownVersion image)) :
    IsObject (objectText (firmwarePieces image)) (firmwareMembers image) := by
  have hcomma : (firmwarePieces image).flatten = 0x2C :: (firmwarePieces image).flatten.tail := rfl
  have hopens : Opens (0x7B :: (firmwarePieces image).flatten.tail) (firmwareMembers image) :=
    (firmwarePieces_spell hguid hname hversion).opens rfl hcomma
  have hobject := hopens.object .nil
  rwa [List.append_nil, List.append_nil] at hobject

/-- A string that is not sent is replaced by one that needs no escape. -/
theorem plain_shownName (h : Plain image.name.bytes) : Plain (shownName image) := by
  unfold shownName
  split
  · exact h
  · decide

theorem plain_shownVersion (h : Plain image.version.bytes) : Plain (shownVersion image) := by
  unfold shownVersion
  split
  · exact h
  · decide

theorem nodup_firmwareMembers (image : RpiRedfishFirmwareImage) :
    ((firmwareMembers image).map Prod.fst).Nodup := by
  show [ascii "@odata.type", ascii "Id", ascii "Name", ascii "Version", ascii "SoftwareId",
    ascii "Updateable", ascii "Status", ascii "Oem"].Nodup
  decide

theorem name_mem_firmwareMembers (image : RpiRedfishFirmwareImage) :
    (ascii "Name", Value.string (shownName image)) ∈ firmwareMembers image :=
  List.mem_of_getElem? (i := 2) rfl

theorem version_mem_firmwareMembers (image : RpiRedfishFirmwareImage) :
    (ascii "Version", Value.string (shownVersion image)) ∈ firmwareMembers image :=
  List.mem_of_getElem? (i := 3) rfl

/-! ## What the body says -/

/-- The body is an object with this name and this version, and no name twice. -/
def SaysNameAndVersion (body name version : List UInt8) : Prop :=
  ∃ ms, IsObject body ms ∧ (ms.map Prod.fst).Nodup ∧
    (ascii "Name", Value.string name) ∈ ms ∧ (ascii "Version", Value.string version) ∈ ms

/-- A string that is there, with nothing to escape. -/
def SentAsIs (s : List UInt8) : Prop := s ≠ [] ∧ Unescaped s

instance (s : List UInt8) : Decidable (SentAsIs s) := inferInstanceAs (Decidable (_ ∧ _))

theorem quotedMember_eq (name : String) (s : List UInt8) :
    memberText name (quotedText s) =
      0x2C :: 0x22 :: (ascii name ++ 0x22 :: 0x3A :: 0x22 :: (s ++ [0x22])) := by
  have hcomma : ascii ",\"" = [0x2C, 0x22] := by decide
  have hcolon : ascii "\":" = [0x22, 0x3A] := by decide
  unfold memberText quotedText
  rw [hcomma, hcolon]
  simp

/-- **The front of the text**, up to the version. -/
theorem firmwarePieces_front (image : RpiRedfishFirmwareImage) :
    ∃ rest, objectText (firmwarePieces image) =
      0x7B :: 0x22 :: (ascii "@odata.type" ++ 0x22 :: 0x3A :: 0x22 ::
        (ascii "#SoftwareInventory.v1_2_3.SoftwareInventory" ++ 0x22 :: 0x2C ::
      0x22 :: (ascii "Id" ++ 0x22 :: 0x3A :: 0x22 ::
        (ascii rpiRedfishFirmwareInventoryId ++ 0x22 :: 0x2C ::
      0x22 :: (ascii "Name" ++ 0x22 :: 0x3A :: 0x22 :: (shownName image ++ 0x22 :: 0x2C ::
      0x22 :: (ascii "Version" ++ 0x22 :: 0x3A :: 0x22 ::
        (shownVersion image ++ 0x22 :: 0x2C :: rest)))))))) := by
  unfold objectText firmwarePieces
  simp only [quotedMember_eq, List.flatten_cons, List.cons_append, List.append_assoc,
    List.nil_append, List.tail_cons]
  exact ⟨_, rfl⟩

/-- What is behind the name of the member in front of it, for every object the text is. -/
theorem firmwareName_remains {ms : List Member}
    (h : IsObject (objectText (firmwarePieces image)) ms) :
    ∃ ms' front rest, (front ++ ms').Perm ms ∧
      Remains ms' (0x22 :: (ascii "Name" ++ 0x22 :: 0x3A :: 0x22 ::
        (shownName image ++ 0x22 :: 0x2C :: 0x22 :: (ascii "Version" ++ 0x22 :: 0x3A :: 0x22 ::
          (shownVersion image ++ 0x22 :: 0x2C :: rest))))) := by
  obtain ⟨rest, hfront⟩ := firmwarePieces_front image
  rw [hfront] at h
  have htype : Unescaped (ascii "@odata.type") ∧
      Unescaped (ascii "#SoftwareInventory.v1_2_3.SoftwareInventory") := by
    decide +kernel
  have hid : Unescaped (ascii "Id") ∧ Unescaped (ascii rpiRedfishFirmwareInventoryId) := by
    decide +kernel
  obtain ⟨ms', hperm, hremains⟩ := h.remains
  obtain ⟨s, ms', rfl, -, hnext⟩ := hremains.string htype.1
  obtain ⟨s', ms', rfl, -, hname⟩ := (hnext htype.2).string hid.1
  exact ⟨ms', [(ascii "@odata.type", .string s), (ascii "Id", .string s')], rest, hperm,
    hname hid.2⟩

/-- A string, or the text that stands for an empty one, that is read as the string. -/
theorem sentAsIs_of_shown {s placeholder : List UInt8} (hplaceholder : SentAsIs placeholder)
    (h : s = (if s ≠ [] then s else placeholder) ↔
      Unescaped (if s ≠ [] then s else placeholder)) :
    (s = if s ≠ [] then s else placeholder) → SentAsIs s := by
  intro hshown
  have hplain := h.mp hshown
  by_cases hs : s ≠ []
  · rw [if_pos hs] at hplain
    exact ⟨hs, hplain⟩
  · rw [if_neg hs] at hshown
    exact absurd (hshown ▸ hplaceholder.1) hs

/-- **What is said of the captured strings** by an object must be in the text as it is. Its first
members are read off the text; a name that occurs once has but one value. -/
theorem says_sentAsIs
    (h : SaysNameAndVersion (objectText (firmwarePieces image)) image.name.bytes
      image.version.bytes) :
    SentAsIs image.name.bytes ∧ SentAsIs image.version.bytes := by
  obtain ⟨ms, hobject, hnodup, hname, hversion⟩ := h
  obtain ⟨ms', front, rest, hperm, hremains⟩ := firmwareName_remains hobject
  have hone : ∀ {m m' : Member}, m ∈ ms → m' ∈ ms → m.1 = m'.1 → m = m' :=
    fun hm hm' heq => List.inj_on_of_nodup_map hnodup hm hm' heq
  have hsame : ∀ {name : List UInt8} {s s' : List UInt8}, (name, Value.string s) ∈ ms →
      (name, Value.string s') ∈ front ++ ms' → s = s' := by
    intro name s s' hs hs'
    have heq := hone hs (hperm.mem_iff.mp hs') rfl
    exact Value.string.inj (Prod.mk.inj heq).2
  have hnames : Unescaped (ascii "Name") ∧ Unescaped (ascii "Version") := by decide +kernel
  have hplaceholders : SentAsIs (ascii "Raspberry Pi 5 UEFI Firmware") ∧
      SentAsIs (ascii "unknown") := by decide +kernel
  obtain ⟨s, ms', rfl, hs, hnext⟩ := hremains.string hnames.1
  obtain rfl := hsame hname (List.mem_append_right _ List.mem_cons_self)
  have hshown : Unescaped (shownName image) := by
    by_cases hne : image.name.bytes ≠ []
    · exact hs.mp (if_pos hne).symm
    · unfold shownName
      rw [if_neg hne]
      exact hplaceholders.1.2
  obtain ⟨s, ms', rfl, hs', -⟩ := (hnext hshown).string hnames.2
  obtain rfl := hsame hversion (List.mem_append_right _ (List.mem_cons_of_mem _ List.mem_cons_self))
  have hshown' : Unescaped (shownVersion image) := by
    by_cases hne : image.version.bytes ≠ []
    · exact hs'.mp (if_pos hne).symm
    · unfold shownVersion
      rw [if_neg hne]
      exact hplaceholders.2.2
  exact ⟨sentAsIs_of_shown hplaceholders.1 hs (hs.mpr hshown),
    sentAsIs_of_shown hplaceholders.2 hs' (hs'.mpr hshown')⟩

/-- A captured string that needs no escape is ASCII, too. -/
theorem plain_copyDescriptorString {source : Option (List UInt16)} {destSize : Nat}
    (h : Unescaped (copyDescriptorString source destSize)) :
    Plain (copyDescriptorString source destSize) :=
  fun b hb => ⟨h b hb, (mem_copyDescriptorString hb).2⟩

/-- **The body of a collected image** is an object whose `Name` and `Version` are the captured
strings exactly where neither is empty and neither has a quote, a backslash or a control character.
Without such a character it is the object of the image's members in any case, with the texts that
stand for an empty string. -/
theorem firmwareInventory_iff (locate : EfiStatus) (handles : List FmpHandle) (max : Nat)
    (image : RpiRedfishFirmwareImage)
    (hmem : image ∈ (rpiRedfishCollectFirmware locate handles max).2) :
    ∃ descriptorVersion descriptor, image = firmwareImageOf descriptorVersion descriptor ∧
      ∃ body, rpiRedfishBuildFirmwareInventoryPatch image false = .ok body ∧
        (SaysNameAndVersion body (copyDescriptorString descriptor.imageIdName 64)
            (copyDescriptorString descriptor.versionName 64) ↔
          SentAsIs (copyDescriptorString descriptor.imageIdName 64) ∧
            SentAsIs (copyDescriptorString descriptor.versionName 64)) ∧
        (Unescaped (copyDescriptorString descriptor.imageIdName 64) →
          Unescaped (copyDescriptorString descriptor.versionName 64) →
          IsObject body (firmwareMembers image) ∧
            ((firmwareMembers image).map Prod.fst).Nodup) := by
  obtain ⟨descriptorVersion, descriptor, rfl⟩ := mem_rpiRedfishCollectFirmware hmem
  have hguid : Plain (firmwareImageOf descriptorVersion descriptor).imageTypeId.bytes :=
    plain_renderGuid descriptor.imageTypeId 37
  have hobject : Unescaped (copyDescriptorString descriptor.imageIdName 64) →
      Unescaped (copyDescriptorString descriptor.versionName 64) →
      IsObject (objectText (firmwarePieces (firmwareImageOf descriptorVersion descriptor)))
        (firmwareMembers (firmwareImageOf descriptorVersion descriptor)) :=
    fun hname hversion => firmwarePieces_isObject hguid
      (plain_shownName (plain_copyDescriptorString hname))
      (plain_shownVersion (plain_copyDescriptorString hversion))
  refine ⟨descriptorVersion, descriptor, rfl, _,
    rpiRedfishBuildFirmwareInventoryPatch_eq (firmwareImageOf descriptorVersion descriptor),
    ⟨says_sentAsIs, ?_⟩, fun hname hversion => ⟨hobject hname hversion,
      nodup_firmwareMembers (firmwareImageOf descriptorVersion descriptor)⟩⟩
  rintro ⟨⟨hname, hplain⟩, hversion, hplain'⟩
  refine ⟨_, hobject hplain hplain', nodup_firmwareMembers _, ?_, ?_⟩
  · have hmem := name_mem_firmwareMembers (firmwareImageOf descriptorVersion descriptor)
    have hshown : shownName (firmwareImageOf descriptorVersion descriptor) =
        copyDescriptorString descriptor.imageIdName 64 := if_pos hname
    rwa [hshown] at hmem
  · have hmem := version_mem_firmwareMembers (firmwareImageOf descriptorVersion descriptor)
    have hshown : shownVersion (firmwareImageOf descriptorVersion descriptor) =
        copyDescriptorString descriptor.versionName 64 := if_pos hversion
    rwa [hshown] at hmem

/-! ### Two descriptors -/

/-- A descriptor with an image's name and version 1. -/
def namedDescriptor (name : Option (List UInt16)) : FirmwareImageDescriptor where
  imageTypeId := ⟨0x01020304, 0x0506, 0x0708, fun i => UInt8.ofNat i⟩
  imageIdName := name
  versionName := some [0x31]
  version := 1
  lowestSupportedImageVersion := 0
  attributesSetting := 1
  lastAttemptVersion := 0
  lastAttemptStatus := 0

def namedHandle (name : Option (List UInt16)) : FmpHandle :=
  ⟨.success, .bufferTooSmall, false, .success, 3, [namedDescriptor name]⟩

/-- A name of one letter. -/
theorem firmwareInventory_iff_named :
    ∃ descriptorVersion descriptor,
      firmwareImageOf 3 (namedDescriptor (some [0x55])) =
        firmwareImageOf descriptorVersion descriptor ∧
      ∃ body,
        rpiRedfishBuildFirmwareInventoryPatch (firmwareImageOf 3 (namedDescriptor (some [0x55])))
          false = .ok body ∧
        (SaysNameAndVersion body (copyDescriptorString descriptor.imageIdName 64)
            (copyDescriptorString descriptor.versionName 64) ↔
          SentAsIs (copyDescriptorString descriptor.imageIdName 64) ∧
            SentAsIs (copyDescriptorString descriptor.versionName 64)) ∧
        (Unescaped (copyDescriptorString descriptor.imageIdName 64) →
          Unescaped (copyDescriptorString descriptor.versionName 64) →
          IsObject body (firmwareMembers (firmwareImageOf 3 (namedDescriptor (some [0x55])))) ∧
            ((firmwareMembers (firmwareImageOf 3 (namedDescriptor (some [0x55])))).map
              Prod.fst).Nodup) :=
  firmwareInventory_iff .success [namedHandle (some [0x55])] 4 _ List.mem_cons_self

/-- `Pi 5 "dev"`. -/
def quotedName : List UInt16 := [0x50, 0x69, 0x20, 0x35, 0x20, 0x22, 0x64, 0x65, 0x76, 0x22]

/-- The first quote of the name ends it, and what is behind it is neither a comma nor a brace: the
body is no object. -/
theorem firmwareInventory_quoted :
    ∃ body, rpiRedfishBuildFirmwareInventoryPatch
        (firmwareImageOf 3 (namedDescriptor (some quotedName))) false = .ok body ∧
      ¬ ∃ ms, IsObject body ms := by
  refine ⟨_, rpiRedfishBuildFirmwareInventoryPatch_eq _, ?_⟩
  rintro ⟨ms, hobject⟩
  obtain ⟨ms', front, rest, -, hremains⟩ := firmwareName_remains hobject
  obtain ⟨t, s, back, b, rest', ms'', -, ht, hback, heq, hnext⟩ :=
    hremains.first (show Unescaped (ascii "Name") by decide +kernel)
  have hname : shownName (firmwareImageOf 3 (namedDescriptor (some quotedName))) =
      [0x50, 0x69, 0x20, 0x35, 0x20] ++ 0x22 :: [0x64, 0x65, 0x76, 0x22] := by
    decide +kernel
  have hplain : Unescaped [0x50, 0x69, 0x20, 0x35, 0x20] := by decide
  rw [hname, List.append_assoc, List.cons_append, List.cons_append] at heq
  obtain ⟨-, hbehind⟩ := ht.unclosed.end_eq hplain.unclosed heq.symm
  obtain ⟨-, hletter, -⟩ := hback.eq_nil (not_whitespace (by decide)) hbehind
  rcases hnext with ⟨hcomma, -⟩ | hbrace
  · exact absurd (hletter.symm.trans hcomma) (by decide)
  · exact absurd (hletter.symm.trans hbrace) (by decide)

end Rpi5Uefi
