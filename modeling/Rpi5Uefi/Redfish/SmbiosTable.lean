import Mathlib.Algebra.Group.Nat.Defs
import Rpi5Uefi.Efi.Status
import Rpi5Uefi.Redfish.Firmware

/-!
# The host as SMBIOS describes it (`RpiRedfishInventory`)

The sync takes the identity of the host, its memory and its processors from the SMBIOS table. The
strings of a structure stand behind it as a list of NUL-terminated texts that ends with an empty
one, and its fields name them by their number.

* **`smbiosGetString_pack`**: a string of a packed list, by its number.
* **`smbiosCollect_pack`**: what is collected from a packed table is what its structures say.
-/

namespace Rpi5Uefi

open Bytes

/-! ## The strings of a structure -/

/-- What is behind a string and its NUL. -/
def nextString (walker : List UInt8) : List UInt8 := (walker.dropWhile (· ≠ 0)).drop 1

theorem length_nextString {walker : List UInt8} (h : walker.headD 0 ≠ 0) :
    (nextString walker).length < walker.length := by
  cases walker with
  | nil => exact absurd rfl h
  | cons b walker =>
    have hb : b ≠ 0 := h
    have hrest := (List.dropWhile_suffix (fun b : UInt8 => decide (b ≠ 0)) (l := walker)).length_le
    unfold nextString
    rw [List.dropWhile_cons, if_pos (decide_eq_true hb), List.length_drop, List.length_cons]
    omega

/-- The walk of `SmbiosGetString`, from one string to the next. -/
def smbiosStringFrom (index current : UInt8) (walker : List UInt8) : Option (List UInt8) :=
  if h : walker.headD 0 = 0 then none
  else if current = index then some (walker.takeWhile (· ≠ 0))
  else smbiosStringFrom index (current + 1) (nextString walker)
termination_by walker.length
decreasing_by exact length_nextString h

/-- `SmbiosGetString`, of the bytes behind the formatted area. -/
def smbiosGetString (strings : List UInt8) (index : UInt8) : Option (List UInt8) :=
  if index = 0 then none else smbiosStringFrom index 1 strings

theorem noNul_smbiosStringFrom {index current : UInt8} {walker text : List UInt8}
    (h : smbiosStringFrom index current walker = some text) : (0 : UInt8) ∉ text := by
  induction current, walker using smbiosStringFrom.induct index with
  | case1 current walker hend =>
    unfold smbiosStringFrom at h
    rw [dif_pos hend] at h
    cases h
  | case2 walker hmore =>
    unfold smbiosStringFrom at h
    rw [dif_neg hmore, if_pos rfl] at h
    cases h
    intro hmem
    exact absurd (List.mem_takeWhile_imp hmem) (by decide)
  | case3 current walker hmore hother ih =>
    unfold smbiosStringFrom at h
    rw [dif_neg hmore, if_neg hother] at h
    exact ih h

/-- `CopyInventoryString`; none is `NULL`. -/
def copyInventoryString (destSize : Nat) (source : Option (List UInt8)) : List UInt8 :=
  (source.getD []).take (destSize - 1)

/-- A string of a structure as it is kept. -/
def keptString (strings : List UInt8) (index : UInt8) : InventoryString rpiRedfishStrMax where
  bytes := copyInventoryString rpiRedfishStrMax (smbiosGetString strings index)
  fits := Nat.lt_of_le_of_lt (List.length_take_le _ _) (by decide)
  noNul := by
    intro hmem
    have hsource := List.mem_of_mem_take hmem
    cases hstring : smbiosGetString strings index with
    | none =>
      rw [hstring] at hsource
      cases hsource
    | some text =>
      rw [hstring] at hsource
      unfold smbiosGetString at hstring
      split at hstring
      · cases hstring
      · exact noNul_smbiosStringFrom hstring hsource

/-! ## The structures -/

/-- `SMBIOS_TABLE_TYPE1`, as far as it is read. -/
structure SmbiosType1 where
  manufacturer : UInt8
  productName : UInt8
  serialNumber : UInt8
  uuid : Fin 16 → UInt8

/-- `SMBIOS_TABLE_TYPE4`. -/
structure SmbiosType4 where
  socket : UInt8
  processorType : UInt8
  processorManufacturer : UInt8
  processorId : UInt64
  processorVersion : UInt8
  maxSpeed : UInt16
  currentSpeed : UInt16
  status : UInt8
  serialNumber : UInt8
  partNumber : UInt8
  coreCount : UInt8
  enabledCoreCount : UInt8
  threadCount : UInt8
  coreCount2 : UInt16
  enabledCoreCount2 : UInt16
  threadCount2 : UInt16

/-- `SMBIOS_TABLE_TYPE17`. -/
structure SmbiosType17 where
  totalWidth : UInt16
  dataWidth : UInt16
  size : UInt16
  formFactor : UInt8
  deviceLocator : UInt8
  bankLocator : UInt8
  memoryType : UInt8
  speed : UInt16
  manufacturer : UInt8
  serialNumber : UInt8
  partNumber : UInt8
  extendedSize : UInt32
  configuredMemoryClockSpeed : UInt16

/-- The formatted area, by its type. -/
inductive SmbiosBody where
  | biosInformation (biosVersion : UInt8)
  | systemInformation (fields : SmbiosType1)
  | processorInformation (fields : SmbiosType4)
  | memoryDevice (fields : SmbiosType17)
  | other

/-- A structure of the table: its formatted area, the length of that, and the bytes behind it. -/
structure SmbiosRecord where
  body : SmbiosBody
  length : UInt8
  strings : List UInt8

/-- The lengths up to the end of a field. -/
def endOfExtendedSize : UInt8 := 0x20

def endOfConfiguredSpeed : UInt8 := 0x22

def endOfPartNumber : UInt8 := 0x23

def endOfThreadCount : UInt8 := 0x26

def endOfThreadCount2 : UInt8 := 0x30

/-! ### The system -/

/-- The text of `RenderSmbiosUuid`: the first three fields are little-endian. -/
def smbiosUuidText (uuid : Fin 16 → UInt8) : List UInt8 :=
  let byte (i : Nat) : List UInt8 := printHex 2 ((List.ofFn uuid).getD i 0).toNat
  asciiSPrint 37
    (byte 3 ++ byte 2 ++ byte 1 ++ byte 0 ++ ascii "-" ++ byte 5 ++ byte 4 ++ ascii "-" ++ byte 7 ++
      byte 6 ++ ascii "-" ++ byte 8 ++ byte 9 ++ ascii "-" ++ byte 10 ++ byte 11 ++ byte 12 ++
      byte 13 ++ byte 14 ++ byte 15)

theorem plain_smbiosUuidText (uuid : Fin 16 → UInt8) : Plain (smbiosUuidText uuid) := by
  unfold smbiosUuidText asciiSPrint
  apply Plain.take
  repeat' apply Plain.append
  all_goals first | exact plain_printHex _ _ | decide

/-- `RenderSmbiosUuid`: none where all bytes are 0 or all are 0xFF. -/
def renderSmbiosUuid (uuid : Fin 16 → UInt8) : Option (InventoryString 37) :=
  let or := (List.ofFn uuid).foldl (· ||| ·) 0x00
  let and := (List.ofFn uuid).foldl (· &&& ·) 0xFF
  if or = 0x00 ∨ and = 0xFF then none
  else
    some ⟨smbiosUuidText uuid, Nat.lt_of_le_of_lt (List.length_take_le _ _) (by decide),
      (plain_smbiosUuidText uuid).noNul⟩

/-- An `InventoryString` after `ZeroMem`. -/
def noString (size : Nat) (h : 0 < size) : InventoryString size := ⟨[], h, List.not_mem_nil⟩

/-- The inventory after `ZeroMem`. -/
def noInventory : RpiRedfishHostInventory where
  biosVersion := noString _ (by decide)
  manufacturer := noString _ (by decide)
  model := noString _ (by decide)
  serialNumber := noString _ (by decide)
  uuid := noString _ (by decide)
  uuidValid := false

/-- One structure in the loop of `RpiRedfishCollectInventory`. -/
def collectInventoryRecord (inventory : RpiRedfishHostInventory) (record : SmbiosRecord) :
    RpiRedfishHostInventory :=
  match record.body with
  | .biosInformation biosVersion =>
    { inventory with biosVersion := keptString record.strings biosVersion }
  | .systemInformation fields =>
    let uuid := renderSmbiosUuid fields.uuid
    { inventory with
      manufacturer := keptString record.strings fields.manufacturer
      model := keptString record.strings fields.productName
      serialNumber := keptString record.strings fields.serialNumber
      uuid := uuid.getD inventory.uuid
      uuidValid := uuid.isSome }
  | _ => inventory

/-- `RpiRedfishCollectInventory`, of the structures in the order of `GetNext`. -/
def rpiRedfishCollectInventory (locate : EfiStatus) (records : List SmbiosRecord) :
    EfiStatus × RpiRedfishHostInventory :=
  if locate.isError then (.notFound, noInventory)
  else (.success, records.foldl collectInventoryRecord noInventory)

/-! ### Memory and processors -/

/-- The loop of the two collectors: structures of one kind are read until there is no more room, and
those that describe nothing are left out. -/
def collectRecords {α β : Type} (fields : SmbiosBody → Option α) (max : Nat)
    (read : SmbiosRecord → α → Option β) : List β → List SmbiosRecord → List β
  | found, [] => found
  | found, record :: records =>
    match fields record.body with
    | none => collectRecords fields max read found records
    | some area =>
      if found.length ≥ max then found
      else
        match read record area with
        | none => collectRecords fields max read found records
        | some item => collectRecords fields max read (found ++ [item]) records

/-- `RedfishMemoryDeviceType`. -/
def redfishMemoryDeviceType (smbiosMemoryType : UInt8) : Option MemoryDeviceType :=
  match smbiosMemoryType with
  | 0x0F => some .sdram
  | 0x12 => some .ddr
  | 0x13 => some .ddr2
  | 0x18 => some .ddr3
  | 0x1A => some .ddr4
  | 0x1B => some .lpddrSdram
  | 0x1C => some .lpddr2Sdram
  | 0x1D => some .lpddr3Sdram
  | 0x1E => some .lpddr4Sdram
  | _ => none

/-- `RedfishBaseModuleType`. -/
def redfishBaseModuleType (formFactor : UInt8) : Option BaseModuleType :=
  match formFactor with
  | 0x0D => some .soDimm
  | 0x09 => some .udimm
  | 0x0C => some .rdimm
  | 0x0F => some .lrdimm
  | _ => none

/-- `RedfishMemoryCapacityMiB`. -/
def redfishMemoryCapacityMiB (length : UInt8) (fields : SmbiosType17) : UInt32 :=
  if fields.size = 0 ∨ fields.size = 0xFFFF then 0
  else if fields.size = 0x7FFF then
    if length < endOfExtendedSize then 0 else fields.extendedSize &&& 0x7FFFFFFF
  else if fields.size &&& 0x8000 ≠ 0 then (fields.size &&& 0x7FFF).toUInt32 / 1024
  else fields.size.toUInt32

/-- `OperatingSpeedMhz`. -/
def operatingSpeedMhz (length : UInt8) (fields : SmbiosType17) : UInt32 :=
  let configured := if length ≥ endOfConfiguredSpeed then fields.configuredMemoryClockSpeed else 0
  if configured = 0 then fields.speed.toUInt32 else configured.toUInt32

/-- A memory device that is populated. -/
def readMemoryDevice (record : SmbiosRecord) (fields : SmbiosType17) :
    Option RpiRedfishMemoryModule :=
  let capacity := redfishMemoryCapacityMiB record.length fields
  if capacity = 0 then none
  else
    some {
      deviceLocator := keptString record.strings fields.deviceLocator
      bankLocator := keptString record.strings fields.bankLocator
      manufacturer := keptString record.strings fields.manufacturer
      serialNumber := keptString record.strings fields.serialNumber
      partNumber := keptString record.strings fields.partNumber
      memoryDeviceType := redfishMemoryDeviceType fields.memoryType
      baseModuleType := redfishBaseModuleType fields.formFactor
      capacityMiB := capacity
      operatingSpeedMhz := operatingSpeedMhz record.length fields
      ratedSpeedMhz := fields.speed.toUInt32
      dataWidthBits := fields.dataWidth
      busWidthBits := fields.totalWidth }

def SmbiosBody.memoryFields : SmbiosBody → Option SmbiosType17
  | .memoryDevice fields => some fields
  | _ => none

/-- `RpiRedfishCollectMemory`. -/
def rpiRedfishCollectMemory (locate : EfiStatus) (records : List SmbiosRecord) (max : Nat) :
    EfiStatus × List RpiRedfishMemoryModule :=
  if max = 0 then (.invalidParameter, [])
  else if locate.isError then (.notFound, [])
  else (.success, collectRecords SmbiosBody.memoryFields max readMemoryDevice [] records)

/-- `RedfishProcessorType`. -/
def redfishProcessorType (smbiosProcessorType : UInt8) : Option ProcessorType :=
  match smbiosProcessorType with
  | 0x03 => some .cpu
  | 0x05 => some .dsp
  | 0x06 => some .gpu
  | _ => none

/-- `ProcessorCount`. -/
def processorCount (narrow : UInt8) (wide : UInt16) (wideValid : Bool) : UInt32 :=
  if narrow = 0xFF ∧ wideValid then wide.toUInt32 else narrow.toUInt32

/-- `IdRegisters`. -/
def idRegistersText (processorId : UInt64) : List UInt8 :=
  if processorId = 0 then [] else asciiSPrint 19 (ascii "0x" ++ printHex 16 processorId.toNat)

def keptIdRegisters (processorId : UInt64) : InventoryString 19 where
  bytes := idRegistersText processorId
  fits := by
    unfold idRegistersText
    split
    · decide
    · exact Nat.lt_of_le_of_lt (List.length_take_le _ _) (by decide)
  noNul := by
    unfold idRegistersText
    split
    · exact List.not_mem_nil
    · have hplain : Plain (ascii "0x" ++ printHex 16 processorId.toNat) :=
        Plain.append (by decide) (plain_printHex _ _)
      exact (hplain.take _).noNul

/-- A processor socket that is populated. -/
def readProcessor (record : SmbiosRecord) (fields : SmbiosType4) : Option RpiRedfishProcessor :=
  if fields.status &&& 0x40 = 0 then none
  else
    let hasPartNumber : Bool := record.length ≥ endOfPartNumber
    let hasCounts : Bool := record.length ≥ endOfThreadCount
    let hasWideCounts : Bool := record.length ≥ endOfThreadCount2
    let count (narrow : UInt8) (wide : UInt16) : UInt32 :=
      if hasCounts then processorCount narrow wide hasWideCounts else 0
    let part (index : UInt8) : InventoryString rpiRedfishStrMax :=
      if hasPartNumber then keptString record.strings index else noString _ (by decide)
    some {
      socket := keptString record.strings fields.socket
      manufacturer := keptString record.strings fields.processorManufacturer
      model := keptString record.strings fields.processorVersion
      serialNumber := part fields.serialNumber
      partNumber := part fields.partNumber
      idRegisters := keptIdRegisters fields.processorId
      processorType := redfishProcessorType fields.processorType
      maxSpeedMhz := fields.maxSpeed.toUInt32
      operatingSpeedMhz := fields.currentSpeed.toUInt32
      totalCores := count fields.coreCount fields.coreCount2
      totalEnabledCores := count fields.enabledCoreCount fields.enabledCoreCount2
      totalThreads := count fields.threadCount fields.threadCount2
      enabled := fields.status &&& 0x07 = 1 }

def SmbiosBody.processorFields : SmbiosBody → Option SmbiosType4
  | .processorInformation fields => some fields
  | _ => none

/-- `RpiRedfishCollectProcessors`. -/
def rpiRedfishCollectProcessors (locate : EfiStatus) (records : List SmbiosRecord) (max : Nat) :
    EfiStatus × List RpiRedfishProcessor :=
  if max = 0 then (.invalidParameter, [])
  else if locate.isError then (.notFound, [])
  else (.success, collectRecords SmbiosBody.processorFields max readProcessor [] records)

/-! ## A packed table -/

/-- A string of a structure. -/
structure SmbiosText where
  bytes : List UInt8
  nonempty : bytes ≠ []
  noNul : (0 : UInt8) ∉ bytes

/-- The strings behind a structure, with the NUL of the empty one that ends them. -/
def packStrings (strings : List SmbiosText) : List UInt8 :=
  (strings.flatMap fun text => text.bytes ++ [0]) ++ [0]

/-- A structure with its strings, and the bytes that follow it in memory. -/
structure DescribedRecord where
  body : SmbiosBody
  length : UInt8
  strings : List SmbiosText
  rest : List UInt8

/-- The structure as it stands in the table. -/
def DescribedRecord.pack (record : DescribedRecord) : SmbiosRecord where
  body := record.body
  length := record.length
  strings := packStrings record.strings ++ record.rest

theorem takeWhile_text (text : SmbiosText) (rest : List UInt8) :
    (text.bytes ++ 0 :: rest).takeWhile (· ≠ 0) = text.bytes := by
  have hall : ∀ b ∈ text.bytes, decide (b ≠ 0) = true := by
    intro b hb
    rw [decide_eq_true_eq]
    rintro rfl
    exact text.noNul hb
  rw [List.takeWhile_append_of_pos hall]
  show text.bytes ++ [] = text.bytes
  exact List.append_nil _

theorem nextString_text (text : SmbiosText) (rest : List UInt8) :
    nextString (text.bytes ++ 0 :: rest) = rest := by
  have hall : ∀ b ∈ text.bytes, decide (b ≠ 0) = true := by
    intro b hb
    rw [decide_eq_true_eq]
    rintro rfl
    exact text.noNul hb
  unfold nextString
  rw [List.dropWhile_append_of_pos hall]
  rfl

theorem headD_text (text : SmbiosText) (rest : List UInt8) :
    (text.bytes ++ rest).headD 0 ≠ 0 := by
  obtain ⟨bytes, hne, hnul⟩ := text
  cases bytes with
  | nil => exact absurd rfl hne
  | cons b bytes => exact fun hb => hnul (hb ▸ List.mem_cons_self)

/-- The walk has come to a string when the number is not behind it. -/
theorem smbiosStringFrom_pack (index current : UInt8) (strings : List SmbiosText)
    (rest : List UInt8) (hcurrent : current ≤ index) :
    smbiosStringFrom index current (packStrings strings ++ rest) =
      (strings[index.toNat - current.toNat]?).map SmbiosText.bytes := by
  induction strings generalizing current with
  | nil =>
    have hend : (packStrings [] ++ rest).headD 0 = 0 := rfl
    unfold smbiosStringFrom
    rw [dif_pos hend]
    rfl
  | cons text strings ih =>
    have hpack : packStrings (text :: strings) ++ rest =
        text.bytes ++ 0 :: (packStrings strings ++ rest) := by
      unfold packStrings
      simp
    rw [hpack]
    unfold smbiosStringFrom
    rw [dif_neg (headD_text text _)]
    split
    · rename_i hfound
      rw [hfound, Nat.sub_self, takeWhile_text]
      rfl
    · rename_i hother
      have hlt : current.toNat < index.toNat :=
        Nat.lt_of_le_of_ne (UInt8.le_iff_toNat_le.mp hcurrent)
          fun heq => hother (UInt8.toNat_inj.mp heq)
      have hnext : (current + 1).toNat = current.toNat + 1 := by
        rw [UInt8.toNat_add]
        have hbound := index.toNat_lt
        show (current.toNat + 1) % 256 = _
        omega
      rw [nextString_text, ih (current + 1) (UInt8.le_iff_toNat_le.mpr (by omega)), hnext]
      have hsub : index.toNat - current.toNat = index.toNat - (current.toNat + 1) + 1 := by omega
      rw [hsub, List.getElem?_cons_succ]

/-- The string a number names. -/
def DescribedRecord.string (record : DescribedRecord) (index : UInt8) : Option (List UInt8) :=
  if index = 0 then none else (record.strings[index.toNat - 1]?).map SmbiosText.bytes

/-- **A string of a packed structure**, by its number. -/
theorem smbiosGetString_pack (record : DescribedRecord) (index : UInt8) :
    smbiosGetString record.pack.strings index = record.string index := by
  unfold smbiosGetString DescribedRecord.string
  split
  · rfl
  · rename_i hindex
    apply smbiosStringFrom_pack
    rw [UInt8.le_iff_toNat_le]
    have hne : index.toNat ≠ 0 := fun h => hindex (UInt8.toNat_inj.mp h)
    show 1 ≤ index.toNat
    omega

/-! ## What a table describes -/

/-- The text a number names, as far as it is kept. -/
def DescribedRecord.text (record : DescribedRecord) (index : UInt8) : List UInt8 :=
  ((record.string index).getD []).take 63

theorem keptString_pack (record : DescribedRecord) (index : UInt8) :
    (keptString record.pack.strings index).bytes = record.text index := by
  unfold keptString DescribedRecord.text
  simp only
  rw [smbiosGetString_pack]
  rfl

/-- What a memory device holds, in KiB, where its size is known. -/
def memoryKiB (length : UInt8) (fields : SmbiosType17) : Option Nat :=
  if fields.size.toNat = 0 ∨ fields.size.toNat = 0xFFFF then none
  else if fields.size.toNat = 0x7FFF then
    if length.toNat < 0x20 then none else some (fields.extendedSize.toNat % 2 ^ 31 * 1024)
  else if 0x8000 ≤ fields.size.toNat then some (fields.size.toNat - 0x8000)
  else some (fields.size.toNat * 1024)

theorem and_bit15_eq_zero_iff (size : UInt16) : size &&& 0x8000 = 0 ↔ size.toNat < 0x8000 := by
  have hbound := size.toNat_lt
  have hmask : (size &&& 0x8000).toBitVec =
      if size.toNat.testBit 15 then BitVec.twoPow 16 15 else 0#16 := BitVec.and_twoPow _ 15
  rw [← UInt16.toBitVec_inj, hmask, Nat.testBit_eq_decide_div_mod_eq]
  show (if decide (size.toNat / 2 ^ 15 % 2 = 1) then BitVec.twoPow 16 15 else 0#16) = 0#16 ↔ _
  split
  · rename_i hbit
    rw [decide_eq_true_eq] at hbit
    exact iff_of_false (by decide) (by omega)
  · rename_i hbit
    rw [decide_eq_true_eq] at hbit
    exact iff_of_true rfl (by omega)

/-- **The capacity** is what the size stands for, in whole MiB. -/
theorem redfishMemoryCapacityMiB_eq (length : UInt8) (fields : SmbiosType17) :
    (redfishMemoryCapacityMiB length fields).toNat = (memoryKiB length fields).getD 0 / 1024 := by
  have hzero : fields.size = 0 ↔ fields.size.toNat = 0 := UInt16.toNat_inj.symm
  have hunknown : fields.size = 0xFFFF ↔ fields.size.toNat = 0xFFFF := UInt16.toNat_inj.symm
  have hextended : fields.size = 0x7FFF ↔ fields.size.toNat = 0x7FFF := UInt16.toNat_inj.symm
  have hlength : length < endOfExtendedSize ↔ length.toNat < 0x20 := UInt8.lt_iff_toNat_lt
  have hlow : (fields.size &&& 0x7FFF).toNat = fields.size.toNat % 2 ^ 15 := by
    rw [UInt16.toNat_and]
    exact Nat.and_two_pow_sub_one_eq_mod _ 15
  have hlowExtended : (fields.extendedSize &&& 0x7FFFFFFF).toNat =
      fields.extendedSize.toNat % 2 ^ 31 := by
    rw [UInt32.toNat_and]
    exact Nat.and_two_pow_sub_one_eq_mod _ 31
  have hkib := and_bit15_eq_zero_iff fields.size
  have hbound := fields.size.toNat_lt
  unfold redfishMemoryCapacityMiB memoryKiB
  simp only [hzero, hunknown, hextended, hlength]
  split
  · rfl
  · split
    · split
      · rfl
      · rw [hlowExtended, Option.getD_some, Nat.mul_div_cancel _ (by decide)]
    · split
      · rename_i hbit
        have hge : 0x8000 ≤ fields.size.toNat := Nat.le_of_not_lt fun hlt => hbit (hkib.mpr hlt)
        have hunit : (1024 : UInt32).toNat = 1024 := rfl
        have hrest : fields.size.toNat % 2 ^ 15 = fields.size.toNat - 0x8000 := by omega
        rw [if_pos hge, UInt32.toNat_div, UInt16.toNat_toUInt32, hlow, hunit, hrest,
          Option.getD_some]
      · rename_i hbit
        have hlt : fields.size.toNat < 0x8000 := hkib.mp (Decidable.not_not.mp hbit)
        rw [if_neg (Nat.not_le_of_lt hlt), UInt16.toNat_toUInt32, Option.getD_some,
          Nat.mul_div_cancel _ (by decide)]

theorem toNat_operatingSpeedMhz (length : UInt8) (fields : SmbiosType17) :
    (operatingSpeedMhz length fields).toNat =
      if length < endOfConfiguredSpeed ∨ fields.configuredMemoryClockSpeed = 0 then
        fields.speed.toNat
      else fields.configuredMemoryClockSpeed.toNat := by
  unfold operatingSpeedMhz
  simp only
  by_cases hshort : length < endOfConfiguredSpeed
  · have hnone : ¬length ≥ endOfConfiguredSpeed := UInt8.not_le.mpr hshort
    rw [if_neg hnone, if_pos rfl, if_pos (.inl hshort), UInt16.toNat_toUInt32]
  · rw [if_pos (UInt8.not_lt.mp hshort)]
    split
    · rename_i hzero
      rw [if_pos (.inr hzero), UInt16.toNat_toUInt32]
    · rename_i hspeed
      rw [if_neg (not_or.mpr ⟨hshort, hspeed⟩), UInt16.toNat_toUInt32]

/-- What is reported of a populated memory device. -/
structure DescribesMemory (described : DescribedRecord × SmbiosType17)
    (module : RpiRedfishMemoryModule) : Prop where
  deviceLocator : module.deviceLocator.bytes = described.1.text described.2.deviceLocator
  bankLocator : module.bankLocator.bytes = described.1.text described.2.bankLocator
  manufacturer : module.manufacturer.bytes = described.1.text described.2.manufacturer
  serialNumber : module.serialNumber.bytes = described.1.text described.2.serialNumber
  partNumber : module.partNumber.bytes = described.1.text described.2.partNumber
  deviceType : module.memoryDeviceType = redfishMemoryDeviceType described.2.memoryType
  moduleType : module.baseModuleType = redfishBaseModuleType described.2.formFactor
  dataWidth : module.dataWidthBits = described.2.dataWidth
  busWidth : module.busWidthBits = described.2.totalWidth
  capacity : module.capacityMiB.toNat = (memoryKiB described.1.length described.2).getD 0 / 1024
  ratedSpeed : module.ratedSpeedMhz.toNat = described.2.speed.toNat
  operatingSpeed : module.operatingSpeedMhz.toNat =
    if described.1.length < endOfConfiguredSpeed ∨
        described.2.configuredMemoryClockSpeed = 0 then described.2.speed.toNat
    else described.2.configuredMemoryClockSpeed.toNat

/-- A memory device with a whole MiB at least. -/
def populatedMemory (record : DescribedRecord) : Option (DescribedRecord × SmbiosType17) :=
  match record.body with
  | .memoryDevice fields =>
    if (memoryKiB record.length fields).getD 0 < 1024 then none else some (record, fields)
  | _ => none

/-- The cores or threads that a structure counts: 255 and more of them are in the wide field. -/
def countOf (length narrow : UInt8) (wide : UInt16) : Nat :=
  if length < endOfThreadCount then 0
  else if narrow.toNat = 255 ∧ endOfThreadCount2 ≤ length then wide.toNat
  else narrow.toNat

/-- What is reported of a populated socket. -/
structure DescribesProcessor (described : DescribedRecord × SmbiosType4)
    (processor : RpiRedfishProcessor) : Prop where
  socket : processor.socket.bytes = described.1.text described.2.socket
  manufacturer : processor.manufacturer.bytes = described.1.text described.2.processorManufacturer
  model : processor.model.bytes = described.1.text described.2.processorVersion
  serialNumber : processor.serialNumber.bytes =
    if described.1.length < endOfPartNumber then [] else described.1.text described.2.serialNumber
  partNumber : processor.partNumber.bytes =
    if described.1.length < endOfPartNumber then [] else described.1.text described.2.partNumber
  processorType : processor.processorType = redfishProcessorType described.2.processorType
  maxSpeed : processor.maxSpeedMhz.toNat = described.2.maxSpeed.toNat
  operatingSpeed : processor.operatingSpeedMhz.toNat = described.2.currentSpeed.toNat
  idRegisters : processor.idRegisters.bytes =
    if described.2.processorId = 0 then []
    else ascii "0x" ++ printHex 16 described.2.processorId.toNat
  totalCores : processor.totalCores.toNat =
    countOf described.1.length described.2.coreCount described.2.coreCount2
  totalEnabledCores : processor.totalEnabledCores.toNat =
    countOf described.1.length described.2.enabledCoreCount described.2.enabledCoreCount2
  totalThreads : processor.totalThreads.toNat =
    countOf described.1.length described.2.threadCount described.2.threadCount2
  enabled : processor.enabled = true ↔ described.2.status.toNat % 8 = 1

/-- A socket that is populated. -/
def populatedProcessor (record : DescribedRecord) : Option (DescribedRecord × SmbiosType4) :=
  match record.body with
  | .processorInformation fields =>
    if fields.status.toNat.testBit 6 then some (record, fields) else none
  | _ => none

/-- The fields that name the system, of a structure that has them. -/
def systemOf (record : DescribedRecord) : Option (DescribedRecord × SmbiosType1) :=
  match record.body with
  | .systemInformation fields => some (record, fields)
  | _ => none

/-- The text that names the firmware. -/
def firmwareOf (record : DescribedRecord) : Option (List UInt8) :=
  match record.body with
  | .biosInformation biosVersion => some (record.text biosVersion)
  | _ => none

/-- What is reported of the system. The last structure of a type counts. -/
structure DescribesSystem (table : List DescribedRecord)
    (inventory : RpiRedfishHostInventory) : Prop where
  firmware : inventory.biosVersion.bytes = (table.filterMap firmwareOf).getLast?.getD []
  unnamed : table.filterMap systemOf = [] →
    inventory.manufacturer.bytes = [] ∧ inventory.model.bytes = [] ∧
    inventory.serialNumber.bytes = [] ∧ inventory.uuidValid = false
  named : ∀ record fields, (table.filterMap systemOf).getLast? = some (record, fields) →
    inventory.manufacturer.bytes = record.text fields.manufacturer ∧
    inventory.model.bytes = record.text fields.productName ∧
    inventory.serialNumber.bytes = record.text fields.serialNumber ∧
    (inventory.uuidValid = true ↔
      (∃ i, fields.uuid i ≠ 0) ∧ ∃ i, fields.uuid i ≠ 0xFF) ∧
    (inventory.uuidValid = true → inventory.uuid.bytes = smbiosUuidText fields.uuid)

/-! ## The collectors -/

theorem collectRecords_eq {α β : Type} (fields : SmbiosBody → Option α) (max : Nat)
    (read : SmbiosRecord → α → Option β) (found : List β) (records : List SmbiosRecord)
    (hfound : found.length ≤ max) :
    collectRecords fields max read found records =
      (found ++
        records.filterMap fun record => (fields record.body).bind (read record)).take max := by
  induction records generalizing found with
  | nil =>
    unfold collectRecords
    rw [List.filterMap_nil, List.append_nil, List.take_of_length_le hfound]
  | cons record records ih =>
    unfold collectRecords
    cases harea : fields record.body with
    | none =>
      simp only
      rw [ih found hfound, List.filterMap_cons_none]
      rw [harea]
      rfl
    | some area =>
      simp only
      split
      · rename_i hfull
        rw [List.take_append_of_le_length hfull, List.take_of_length_le hfound]
      · rename_i hroom
        cases hitem : read record area with
        | none =>
          simp only
          rw [ih found hfound, List.filterMap_cons_none]
          rw [harea]
          exact hitem
        | some item =>
          have hlength : (found ++ [item]).length ≤ max := by
            rw [List.length_append, List.length_singleton]
            omega
          have hread : (fields record.body).bind (read record) = some item := by
            rw [harea]
            exact hitem
          simp only
          simp only [List.filterMap_cons, hread]
          rw [ih _ hlength, List.append_assoc, List.singleton_append]

/-- Two readings of the same structures agree when they agree on each. -/
theorem forall₂_filterMap {α β γ : Type} {R : β → γ → Prop} {f : α → Option β} {g : α → Option γ}
    (h : ∀ a, Option.Rel R (f a) (g a)) (as : List α) :
    List.Forall₂ R (as.filterMap f) (as.filterMap g) := by
  induction as with
  | nil => exact .nil
  | cons a as ih =>
    have hrel := h a
    generalize hf : f a = fa at hrel
    generalize hg : g a = ga at hrel
    cases hrel with
    | none =>
      rw [List.filterMap_cons_none hf, List.filterMap_cons_none hg]
      exact ih
    | some hsome =>
      rw [List.filterMap_cons_some hf, List.filterMap_cons_some hg]
      exact .cons hsome ih

theorem forall₂_collectRecords {α β γ : Type} {R : γ → β → Prop} {fields : SmbiosBody → Option α}
    {read : SmbiosRecord → α → Option β} {described : DescribedRecord → Option γ}
    (h : ∀ record,
      Option.Rel R (described record) ((fields record.body).bind (read record.pack)))
    (table : List DescribedRecord) (max : Nat) :
    List.Forall₂ R ((table.filterMap described).take max)
      (collectRecords fields max read [] (table.map DescribedRecord.pack)) := by
  rw [collectRecords_eq fields max read [] _ (Nat.zero_le _), List.nil_append, List.filterMap_map]
  exact List.forall₂_take max (forall₂_filterMap h table)

theorem readMemoryDevice_pack (record : DescribedRecord) :
    Option.Rel DescribesMemory (populatedMemory record)
      ((SmbiosBody.memoryFields record.body).bind (readMemoryDevice record.pack)) := by
  unfold populatedMemory SmbiosBody.memoryFields
  cases record.body with
  | memoryDevice fields =>
    have hcapacity := redfishMemoryCapacityMiB_eq record.length fields
    have hempty : redfishMemoryCapacityMiB record.length fields = 0 ↔
        (memoryKiB record.length fields).getD 0 < 1024 := by
      rw [← UInt32.toNat_inj, hcapacity]
      show _ / 1024 = 0 ↔ _
      omega
    show Option.Rel _ _ (readMemoryDevice record.pack fields)
    unfold readMemoryDevice
    simp only
    show Option.Rel _ _ (if redfishMemoryCapacityMiB record.length fields = 0 then none else _)
    simp only [hempty]
    split
    · exact .none
    · refine .some ⟨keptString_pack _ _, keptString_pack _ _, keptString_pack _ _,
        keptString_pack _ _, keptString_pack _ _, rfl, rfl, rfl, rfl, hcapacity,
        UInt16.toNat_toUInt32 _, ?_⟩
      exact toNat_operatingSpeedMhz record.length fields
  | biosInformation biosVersion => exact .none
  | systemInformation fields => exact .none
  | processorInformation fields => exact .none
  | other => exact .none

theorem toNat_count (length narrow : UInt8) (wide : UInt16) :
    (if length ≥ endOfThreadCount then processorCount narrow wide (length ≥ endOfThreadCount2)
      else 0 : UInt32).toNat = countOf length narrow wide := by
  have hfull : narrow = 0xFF ↔ narrow.toNat = 255 := UInt8.toNat_inj.symm
  unfold countOf processorCount
  simp only [hfull, decide_eq_true_eq]
  by_cases hshort : length < endOfThreadCount
  · rw [if_neg (UInt8.not_le.mpr hshort), if_pos hshort]
    rfl
  · rw [if_pos (UInt8.not_lt.mp hshort), if_neg hshort]
    split
    · exact UInt16.toNat_toUInt32 wide
    · exact UInt8.toNat_toUInt32 narrow

theorem part_pack (record : DescribedRecord) (index : UInt8) :
    (if record.length ≥ endOfPartNumber then keptString record.pack.strings index
      else noString rpiRedfishStrMax (by decide)).bytes =
      if record.length < endOfPartNumber then [] else record.text index := by
  by_cases hshort : record.length < endOfPartNumber
  · rw [if_neg (UInt8.not_le.mpr hshort), if_pos hshort]
    rfl
  · rw [if_pos (UInt8.not_lt.mp hshort), if_neg hshort]
    exact keptString_pack record index

/-- The identification registers fit their 18 characters. -/
theorem idRegistersText_eq (processorId : UInt64) :
    idRegistersText processorId =
      if processorId = 0 then [] else ascii "0x" ++ printHex 16 processorId.toNat := by
  have hlength : (ascii "0x" ++ printHex 16 processorId.toNat).length ≤ 18 := by
    rw [List.length_append, length_printHex]
    exact Nat.le_refl 18
  unfold idRegistersText asciiSPrint
  rw [List.take_of_length_le hlength]

theorem and_bit6_eq_zero_iff (status : UInt8) :
    status &&& 0x40 = 0 ↔ status.toNat.testBit 6 = false := by
  have hmask : (status &&& 0x40).toBitVec =
      if status.toNat.testBit 6 then BitVec.twoPow 8 6 else 0#8 := BitVec.and_twoPow _ 6
  rw [← UInt8.toBitVec_inj, hmask]
  split
  · rename_i hbit
    rw [hbit]
    exact iff_of_false (by decide) Bool.noConfusion
  · rename_i hbit
    exact iff_of_true rfl (Bool.eq_false_iff.mpr hbit)

theorem readProcessor_pack (record : DescribedRecord) :
    Option.Rel DescribesProcessor (populatedProcessor record)
      ((SmbiosBody.processorFields record.body).bind (readProcessor record.pack)) := by
  unfold populatedProcessor SmbiosBody.processorFields
  cases record.body with
  | processorInformation fields =>
    have henabled : fields.status &&& 0x07 = 1 ↔ fields.status.toNat % 8 = 1 := by
      rw [← UInt8.toNat_inj, UInt8.toNat_and]
      exact iff_of_eq (congrArg (· = 1) (Nat.and_two_pow_sub_one_eq_mod fields.status.toNat 3))
    show Option.Rel _ _ (readProcessor record.pack fields)
    unfold readProcessor
    simp only [and_bit6_eq_zero_iff, decide_eq_true_eq]
    cases hbit : fields.status.toNat.testBit 6 with
    | false => exact .none
    | true =>
      refine .some ⟨keptString_pack _ _, keptString_pack _ _, keptString_pack _ _,
        part_pack record _, part_pack record _, rfl, UInt16.toNat_toUInt32 _,
        UInt16.toNat_toUInt32 _, idRegistersText_eq _, toNat_count _ _ _, toNat_count _ _ _,
        toNat_count _ _ _, ?_⟩
      show decide (fields.status &&& 0x07 = 1) = true ↔ _
      rw [decide_eq_true_eq]
      exact henabled
  | biosInformation biosVersion => exact .none
  | systemInformation fields => exact .none
  | memoryDevice fields => exact .none
  | other => exact .none

/-! ## The system -/

theorem foldl_or_eq_zero (bytes : List UInt8) (start : UInt8) :
    bytes.foldl (· ||| ·) start = 0 ↔ start = 0 ∧ ∀ b ∈ bytes, b = 0 := by
  induction bytes generalizing start with
  | nil => exact ⟨fun h => ⟨h, fun b hb => absurd hb List.not_mem_nil⟩, And.left⟩
  | cons b bytes ih =>
    rw [List.foldl_cons, ih, UInt8.or_eq_zero_iff, List.forall_mem_cons, and_assoc]

theorem foldl_and_eq_ones (bytes : List UInt8) (start : UInt8) :
    bytes.foldl (· &&& ·) start = -1 ↔ start = -1 ∧ ∀ b ∈ bytes, b = -1 := by
  induction bytes generalizing start with
  | nil => exact ⟨fun h => ⟨h, fun b hb => absurd hb List.not_mem_nil⟩, And.left⟩
  | cons b bytes ih =>
    rw [List.foldl_cons, ih, UInt8.and_eq_neg_one_iff, List.forall_mem_cons, and_assoc]

theorem isSome_renderSmbiosUuid (uuid : Fin 16 → UInt8) :
    (renderSmbiosUuid uuid).isSome = true ↔ (∃ i, uuid i ≠ 0) ∧ ∃ i, uuid i ≠ 0xFF := by
  have hor : (List.ofFn uuid).foldl (· ||| ·) 0x00 = 0x00 ↔ ∀ i, uuid i = 0 := by
    rw [foldl_or_eq_zero, List.forall_mem_ofFn_iff]
    exact and_iff_right rfl
  have hand : (List.ofFn uuid).foldl (· &&& ·) 0xFF = 0xFF ↔ ∀ i, uuid i = 0xFF := by
    refine (foldl_and_eq_ones (List.ofFn uuid) 0xFF).trans ?_
    rw [List.forall_mem_ofFn_iff]
    exact and_iff_right rfl
  unfold renderSmbiosUuid
  simp only [hor, hand]
  rw [← not_forall, ← not_forall, ← not_or]
  split
  · rename_i habsent
    exact iff_of_false Bool.noConfusion (not_not.mpr habsent)
  · rename_i hpresent
    exact iff_of_true rfl hpresent

theorem text_of_renderSmbiosUuid {uuid : Fin 16 → UInt8} {text : InventoryString 37}
    (h : renderSmbiosUuid uuid = some text) : text.bytes = smbiosUuidText uuid := by
  unfold renderSmbiosUuid at h
  simp only at h
  split at h
  · cases h
  · have htext := Option.some.inj h
    rw [← htext]

theorem text_renderSmbiosUuid {uuid : Fin 16 → UInt8} (old : InventoryString 37)
    (h : (renderSmbiosUuid uuid).isSome = true) :
    ((renderSmbiosUuid uuid).getD old).bytes = smbiosUuidText uuid := by
  obtain ⟨text, htext⟩ := Option.isSome_iff_exists.mp h
  rw [htext, Option.getD_some]
  exact text_of_renderSmbiosUuid htext

theorem filterMap_concat_none {α β : Type} {f : α → Option β} {a : α} (h : f a = none)
    (as : List α) : (as ++ [a]).filterMap f = as.filterMap f := by
  rw [List.filterMap_append, List.filterMap_cons_none h, List.filterMap_nil, List.append_nil]

theorem filterMap_concat_some {α β : Type} {f : α → Option β} {a : α} {b : β} (h : f a = some b)
    (as : List α) : (as ++ [a]).filterMap f = as.filterMap f ++ [b] := by
  rw [List.filterMap_append, List.filterMap_cons_some h, List.filterMap_nil]

/-- A structure that is neither leaves what is reported as it is. -/
theorem describesSystem_skip {table : List DescribedRecord} {record : DescribedRecord}
    {inventory : RpiRedfishHostInventory} (h : DescribesSystem table inventory)
    (hfirmware : firmwareOf record = none) (hsystem : systemOf record = none) :
    DescribesSystem (table ++ [record]) inventory := by
  constructor
  · rw [filterMap_concat_none hfirmware]
    exact h.firmware
  · rw [filterMap_concat_none hsystem]
    exact h.unnamed
  · rw [filterMap_concat_none hsystem]
    exact h.named

/-- One structure more. The structure that names the system last is the one reported. -/
theorem describesSystem_append {table : List DescribedRecord} (record : DescribedRecord)
    {inventory : RpiRedfishHostInventory} (h : DescribesSystem table inventory) :
    DescribesSystem (table ++ [record]) (collectInventoryRecord inventory record.pack) := by
  obtain ⟨body, length, strings, rest⟩ := record
  cases body with
  | biosInformation biosVersion =>
    let record : DescribedRecord := ⟨.biosInformation biosVersion, length, strings, rest⟩
    have hfirmware : firmwareOf record = some (record.text biosVersion) := rfl
    have hsystem : systemOf record = none := rfl
    constructor
    · rw [filterMap_concat_some hfirmware, List.getLast?_concat]
      exact keptString_pack record biosVersion
    · rw [filterMap_concat_none hsystem]
      exact h.unnamed
    · rw [filterMap_concat_none hsystem]
      exact h.named
  | systemInformation fields =>
    let record : DescribedRecord := ⟨.systemInformation fields, length, strings, rest⟩
    have hfirmware : firmwareOf record = none := rfl
    have hsystem : systemOf record = some (record, fields) := rfl
    constructor
    · rw [filterMap_concat_none hfirmware]
      exact h.firmware
    · rw [filterMap_concat_some hsystem]
      intro hnil
      exact absurd hnil (List.append_ne_nil_of_right_ne_nil _ (List.cons_ne_nil _ _))
    · rw [filterMap_concat_some hsystem]
      intro record' fields' hlast
      rw [List.getLast?_concat] at hlast
      cases hlast
      exact ⟨keptString_pack record _, keptString_pack record _, keptString_pack record _,
        isSome_renderSmbiosUuid fields.uuid, text_renderSmbiosUuid inventory.uuid⟩
  | processorInformation fields => exact describesSystem_skip h rfl rfl
  | memoryDevice fields => exact describesSystem_skip h rfl rfl
  | other => exact describesSystem_skip h rfl rfl

theorem describesSystem_collect (table : List DescribedRecord) :
    DescribesSystem table
      ((table.map DescribedRecord.pack).foldl collectInventoryRecord noInventory) := by
  induction table using List.reverseRecOn with
  | nil =>
    constructor
    · rfl
    · exact fun _ => ⟨rfl, rfl, rfl, rfl⟩
    · intro record fields hlast
      cases hlast
  | append_singleton table record ih =>
    rw [List.map_append, List.foldl_append]
    exact describesSystem_append record ih

/-- **What is collected from a table** is what its structures say: the system, and of the memory
devices and the processors the populated ones, in their order, as far as there is room. -/
theorem smbiosCollect_pack (table : List DescribedRecord) (max : Nat) (hmax : max ≠ 0) :
    (∃ inventory,
      rpiRedfishCollectInventory .success (table.map DescribedRecord.pack) =
        (.success, inventory) ∧
      DescribesSystem table inventory) ∧
    (∃ modules,
      rpiRedfishCollectMemory .success (table.map DescribedRecord.pack) max =
        (.success, modules) ∧
      List.Forall₂ DescribesMemory ((table.filterMap populatedMemory).take max) modules) ∧
    ∃ processors,
      rpiRedfishCollectProcessors .success (table.map DescribedRecord.pack) max =
        (.success, processors) ∧
      List.Forall₂ DescribesProcessor ((table.filterMap populatedProcessor).take max)
        processors := by
  refine ⟨⟨_, rfl, describesSystem_collect table⟩,
    ⟨_, ?_, forall₂_collectRecords readMemoryDevice_pack table max⟩,
    ⟨_, ?_, forall₂_collectRecords readProcessor_pack table max⟩⟩
  · unfold rpiRedfishCollectMemory
    rw [if_neg hmax]
    rfl
  · unfold rpiRedfishCollectProcessors
    rw [if_neg hmax]
    rfl

/-- A board with one memory device of 8 GiB, and its locator. -/
def boardMemory : DescribedRecord where
  body := .memoryDevice {
    totalWidth := 32
    dataWidth := 32
    size := 8192
    formFactor := 0x0B
    deviceLocator := 1
    bankLocator := 0
    memoryType := 0x1E
    speed := 4267
    manufacturer := 0
    serialNumber := 0
    partNumber := 0
    extendedSize := 0
    configuredMemoryClockSpeed := 0 }
  length := 0x22
  strings := [⟨ascii "SDRAM", by decide, by decide⟩]
  rest := []

theorem smbiosCollect_pack_board :
    ∃ module,
      rpiRedfishCollectMemory .success [boardMemory.pack] 8 = (.success, [module]) ∧
      module.deviceLocator.bytes = ascii "SDRAM" ∧
      module.memoryDeviceType = some .lpddr4Sdram ∧ module.capacityMiB.toNat = 8192 ∧
      module.operatingSpeedMhz.toNat = 4267 := by
  obtain ⟨-, ⟨modules, hcollect, hmodules⟩, -⟩ :=
    smbiosCollect_pack [boardMemory] 8 (by decide)
  cases hmodules with
  | cons hmodule hnone =>
    cases hnone
    exact ⟨_, hcollect, hmodule.deviceLocator, hmodule.deviceType, hmodule.capacity,
      hmodule.operatingSpeed⟩

end Rpi5Uefi
