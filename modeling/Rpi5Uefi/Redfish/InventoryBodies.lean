import Rpi5Uefi.Redfish.InventoryMembers

/-!
# When the inventory bodies are what they are to be

For each builder the members its record is to be sent as, and when the body is an object with them.

* **`rpiRedfishBuildSystemPatch_iff`**: where the strings are UTF-8.
* **`rpiRedfishBuildMemoryPost_iff`**, **`rpiRedfishBuildDrivePost_iff`**: where also the numbers
  are below the sign bit; there is room for the longest strings.
* **`rpiRedfishBuildProcessorPost_iff`**: where also the whole text fits the buffer and the
  identification registers need no escape.
-/

namespace Rpi5Uefi

open Bytes Appends Json

/-! ## The system -/

def systemOpened : List Member :=
  [(ascii "BootProgress",
    .object [(ascii "LastState", .string (ascii "SystemHardwareInitializationComplete"))])]

def systemStrings (inventory : RpiRedfishHostInventory) : List Member :=
  stringMember "BiosVersion" inventory.biosVersion.bytes ++
    stringMember "Manufacturer" inventory.manufacturer.bytes ++
    stringMember "Model" inventory.model.bytes ++
    stringMember "SerialNumber" inventory.serialNumber.bytes ++
    stringMember "UUID" (if inventory.uuidValid then inventory.uuid.bytes else [])

/-- What the record of the system is to be sent as. -/
def systemMembers (inventory : RpiRedfishHostInventory) : List Member :=
  systemOpened ++ systemStrings inventory

def systemHeader : List UInt8 :=
  asciiSPrint rpiRedfishJsonMax (ascii
    "\x7b\"BootProgress\":\x7b\"LastState\":\"SystemHardwareInitializationComplete\"\x7d")

def systemPieces (inventory : RpiRedfishHostInventory) : List (List UInt8) :=
  stringPieces "BiosVersion" inventory.biosVersion.bytes ++
    stringPieces "Manufacturer" inventory.manufacturer.bytes ++
    stringPieces "Model" inventory.model.bytes ++
    stringPieces "SerialNumber" inventory.serialNumber.bytes ++
    stringPieces "UUID" (if inventory.uuidValid then inventory.uuid.bytes else [])

theorem rpiRedfishBuildSystemPatch_eq (inventory : RpiRedfishHostInventory) :
    rpiRedfishBuildSystemPatch inventory =
      catAll rpiRedfishJsonMax systemHeader (systemPieces inventory ++ [ascii "\x7d"]) := by
  unfold rpiRedfishBuildSystemPatch systemPieces
  simp only [appendJsonString_eq, catAll_append, Option.getD_some]
  cases inventory.uuidValid <;> rfl

theorem systemHeader_opens : Opens systemHeader systemOpened := by
  apply Spells.opens
  · exact (spells_literal (by decide) (by decide)).nested (by decide) rfl
  · decide +kernel
  · decide +kernel

variable {inventory : RpiRedfishHostInventory} {memory : RpiRedfishMemoryModule}
  {processor : RpiRedfishProcessor} {drive : RpiRedfishDrive}

theorem systemUuid_lt (inventory : RpiRedfishHostInventory) :
    (if inventory.uuidValid then inventory.uuid.bytes else []).length < rpiRedfishStrMax := by
  have huuid : inventory.uuid.bytes.length < 37 := inventory.uuid.fits
  show _ < 64
  split
  · omega
  · exact Nat.zero_lt_succ _

/-- The strings that are sent are UTF-8. -/
structure SystemUtf8 (inventory : RpiRedfishHostInventory) : Prop where
  biosVersion : IsUtf8 inventory.biosVersion.bytes
  manufacturer : IsUtf8 inventory.manufacturer.bytes
  model : IsUtf8 inventory.model.bytes
  serialNumber : IsUtf8 inventory.serialNumber.bytes
  uuid : IsUtf8 (if inventory.uuidValid then inventory.uuid.bytes else [])

theorem systemPieces_spell (h : SystemUtf8 inventory) :
    Spells (systemPieces inventory) (systemStrings inventory) := by
  unfold systemPieces systemStrings
  refine Spells.append (Spells.append (Spells.append (Spells.append ?_ ?_) ?_) ?_) ?_
  · exact spells_string (by decide) inventory.biosVersion.fits h.biosVersion
  · exact spells_string (by decide) inventory.manufacturer.fits h.manufacturer
  · exact spells_string (by decide) inventory.model.fits h.model
  · exact spells_string (by decide) inventory.serialNumber.fits h.serialNumber
  · exact spells_string (by decide) (systemUuid_lt inventory) h.uuid

theorem systemUtf8_of_isObject {text : List UInt8} (h : IsObject text (systemMembers inventory)) :
    SystemUtf8 inventory := by
  have hstring : ∀ name value, (∀ m ∈ stringMember name value, m ∈ systemStrings inventory) →
      IsUtf8 value :=
    fun _ _ hsub => utf8_of_stringMember h fun m hm => List.mem_append_right _ (hsub m hm)
  unfold systemStrings at hstring
  simp only [List.mem_append] at hstring
  exact ⟨hstring "BiosVersion" _ (by tauto), hstring "Manufacturer" _ (by tauto),
    hstring "Model" _ (by tauto), hstring "SerialNumber" _ (by tauto), hstring "UUID" _ (by tauto)⟩

/-- **The system's body** is the object of its record exactly where the strings are UTF-8. -/
theorem rpiRedfishBuildSystemPatch_iff (inventory : RpiRedfishHostInventory) :
    IsObject (rpiRedfishBuildSystemPatch inventory) (systemMembers inventory) ↔
      SystemUtf8 inventory := by
  refine ⟨systemUtf8_of_isObject, fun hutf8 => ?_⟩
  rw [rpiRedfishBuildSystemPatch_eq]
  apply systemHeader_opens.body_spells (systemPieces_spell hutf8)
  have hopened : membersSize systemOpened = 68 := by decide +kernel
  have hversion : membersSize (stringMember "BiosVersion" inventory.biosVersion.bytes) ≤ 143 :=
    membersSize_stringMember_le (by decide) inventory.biosVersion.fits
  have hmanufacturer : membersSize (stringMember "Manufacturer" inventory.manufacturer.bytes) ≤
      144 := membersSize_stringMember_le (by decide) inventory.manufacturer.fits
  have hmodel : membersSize (stringMember "Model" inventory.model.bytes) ≤ 137 :=
    membersSize_stringMember_le (by decide) inventory.model.fits
  have hserial : membersSize (stringMember "SerialNumber" inventory.serialNumber.bytes) ≤ 144 :=
    membersSize_stringMember_le (by decide) inventory.serialNumber.fits
  have huuid : membersSize (stringMember "UUID"
      (if inventory.uuidValid then inventory.uuid.bytes else [])) ≤ 136 :=
    membersSize_stringMember_le (by decide) (systemUuid_lt inventory)
  unfold systemStrings
  simp only [membersSize_append, hopened]
  show _ < 1024
  omega

/-! ## A memory module -/

def memoryOpened : List Member :=
  [(ascii "@odata.type", .string (ascii "#Memory.v1_7_1.Memory")),
    (ascii "Status", .object [(ascii "State", .string (ascii "Enabled")),
      (ascii "Health", .string (ascii "OK"))]),
    (ascii "MemoryType", .string (ascii "DRAM"))]

/-- What a memory module's numbers are sent as; the widths are of 16 bits. -/
def memoryNumbers (memory : RpiRedfishMemoryModule) : List Member :=
  numberMember "CapacityMiB" memory.capacityMiB.toNat ++
    numberMember "OperatingSpeedMhz" memory.operatingSpeedMhz.toNat ++
    numberMember "DataWidthBits" memory.dataWidthBits.toNat ++
    numberMember "BusWidthBits" memory.busWidthBits.toNat ++
    if memory.ratedSpeedMhz.toNat = 0 then []
    else [(ascii "AllowedSpeedsMHz", .array [.number (.ofNat memory.ratedSpeedMhz.toNat)])]

def memoryStrings (memory : RpiRedfishMemoryModule) : List Member :=
  stringMember "DeviceLocator" memory.deviceLocator.bytes ++
    stringMember "Name" memory.deviceLocator.bytes ++
    stringMember "Manufacturer" memory.manufacturer.bytes ++
    stringMember "SerialNumber" memory.serialNumber.bytes ++
    stringMember "PartNumber" memory.partNumber.bytes ++
    stringMember "MemoryDeviceType" ((memory.memoryDeviceType.map fun t => ascii t.text).getD []) ++
    stringMember "BaseModuleType" ((memory.baseModuleType.map fun t => ascii t.text).getD [])

/-- What the record of a memory module is to be sent as. -/
def memoryMembers (memory : RpiRedfishMemoryModule) : List Member :=
  memoryOpened ++ memoryStrings memory ++ memoryNumbers memory

def memoryHeader : List UInt8 :=
  asciiSPrint rpiRedfishJsonMax
    (ascii "\x7b\"@odata.type\":\"#Memory.v1_7_1.Memory\"" ++
      ascii ",\"Status\":\x7b\"State\":\"Enabled\",\"Health\":\"OK\"\x7d" ++
      ascii ",\"MemoryType\":\"DRAM\"")

def memoryStringPieces (memory : RpiRedfishMemoryModule) : List (List UInt8) :=
  stringPieces "DeviceLocator" memory.deviceLocator.bytes ++
    stringPieces "Name" memory.deviceLocator.bytes ++
    stringPieces "Manufacturer" memory.manufacturer.bytes ++
    stringPieces "SerialNumber" memory.serialNumber.bytes ++
    stringPieces "PartNumber" memory.partNumber.bytes ++
    stringPieces "MemoryDeviceType" ((memory.memoryDeviceType.map fun t => ascii t.text).getD []) ++
    stringPieces "BaseModuleType" ((memory.baseModuleType.map fun t => ascii t.text).getD [])

def memoryNumberPieces (memory : RpiRedfishMemoryModule) : List (List UInt8) :=
  appendNumberPieces "CapacityMiB" memory.capacityMiB.toNat ++
    appendNumberPieces "OperatingSpeedMhz" memory.operatingSpeedMhz.toNat ++
    appendNumberPieces "DataWidthBits" memory.dataWidthBits.toNat ++
    appendNumberPieces "BusWidthBits" memory.busWidthBits.toNat ++
    numberPieces 32 48 (ascii ",\"AllowedSpeedsMHz\":[") (ascii "]") memory.ratedSpeedMhz.toNat

theorem rpiRedfishBuildMemoryPost_eq (memory : RpiRedfishMemoryModule) :
    rpiRedfishBuildMemoryPost memory =
      catAll rpiRedfishJsonMax memoryHeader
        (memoryStringPieces memory ++ memoryNumberPieces memory ++ [ascii "\x7d"]) := by
  unfold rpiRedfishBuildMemoryPost memoryHeader memoryStringPieces memoryNumberPieces
  have hrated : memory.ratedSpeedMhz ≠ 0 ↔ memory.ratedSpeedMhz.toNat ≠ 0 := by
    rw [ne_eq, ne_eq, ← UInt32.toNat_inj]
    rfl
  simp only [appendJsonString_eq, appendJsonNumber_eq, catAll_append, Option.getD_some,
    UInt16.toNat_toUInt32, catAll_numberPieces hrated, asciiStrCatS_eq _ _ (ascii "\x7d")]

theorem memoryHeader_opens : Opens memoryHeader memoryOpened := by
  apply Spells.opens
  · apply Spells.cons
    · exact spells_literal (by decide) (by decide)
    apply Spells.cons
    · apply Spells.nested (by decide)
      · exact (spells_literal (by decide) (by decide)).cons (spells_literal (by decide) (by decide))
      · rfl
    · exact spells_literal (by decide) (by decide)
  · decide +kernel
  · decide +kernel

theorem memoryDeviceType_plain (memory : RpiRedfishMemoryModule) :
    Plain ((memory.memoryDeviceType.map fun t => ascii t.text).getD []) := by
  rcases memory.memoryDeviceType with _ | (_ | _) <;> decide

theorem baseModuleType_plain (memory : RpiRedfishMemoryModule) :
    Plain ((memory.baseModuleType.map fun t => ascii t.text).getD []) := by
  rcases memory.baseModuleType with _ | (_ | _) <;> decide

theorem memoryDeviceType_lt (memory : RpiRedfishMemoryModule) :
    ((memory.memoryDeviceType.map fun t => ascii t.text).getD []).length < rpiRedfishStrMax := by
  rcases memory.memoryDeviceType with _ | (_ | _) <;> decide

theorem baseModuleType_lt (memory : RpiRedfishMemoryModule) :
    ((memory.baseModuleType.map fun t => ascii t.text).getD []).length < rpiRedfishStrMax := by
  rcases memory.baseModuleType with _ | (_ | _) <;> decide

/-- The strings that are sent are UTF-8. -/
structure MemoryUtf8 (memory : RpiRedfishMemoryModule) : Prop where
  deviceLocator : IsUtf8 memory.deviceLocator.bytes
  manufacturer : IsUtf8 memory.manufacturer.bytes
  serialNumber : IsUtf8 memory.serialNumber.bytes
  partNumber : IsUtf8 memory.partNumber.bytes

theorem memoryStringPieces_spell (h : MemoryUtf8 memory) :
    Spells (memoryStringPieces memory) (memoryStrings memory) := by
  unfold memoryStringPieces memoryStrings
  refine Spells.append (Spells.append (Spells.append (Spells.append (Spells.append
    (Spells.append ?_ ?_) ?_) ?_) ?_) ?_) ?_
  · exact spells_string (by decide) memory.deviceLocator.fits h.deviceLocator
  · exact spells_string (by decide) memory.deviceLocator.fits h.deviceLocator
  · exact spells_string (by decide) memory.manufacturer.fits h.manufacturer
  · exact spells_string (by decide) memory.serialNumber.fits h.serialNumber
  · exact spells_string (by decide) memory.partNumber.fits h.partNumber
  · exact spells_string (by decide) (memoryDeviceType_lt memory)
      (memoryDeviceType_plain memory).utf8
  · exact spells_string (by decide) (baseModuleType_lt memory) (baseModuleType_plain memory).utf8

theorem memoryUtf8_of_isObject {text : List UInt8} (h : IsObject text (memoryMembers memory)) :
    MemoryUtf8 memory := by
  have hstring : ∀ name value, (∀ m ∈ stringMember name value, m ∈ memoryStrings memory) →
      IsUtf8 value := fun _ _ hsub => utf8_of_stringMember h fun m hm =>
    List.mem_append_left _ (List.mem_append_right _ (hsub m hm))
  unfold memoryStrings at hstring
  simp only [List.mem_append] at hstring
  exact ⟨hstring "DeviceLocator" _ (by tauto), hstring "Manufacturer" _ (by tauto),
    hstring "SerialNumber" _ (by tauto), hstring "PartNumber" _ (by tauto)⟩

theorem membersSize_memoryStrings_le (memory : RpiRedfishMemoryModule) :
    membersSize (memoryStrings memory) ≤ 772 := by
  have hlocator : membersSize (stringMember "DeviceLocator" memory.deviceLocator.bytes) ≤ 145 :=
    membersSize_stringMember_le (by decide) memory.deviceLocator.fits
  have hname : membersSize (stringMember "Name" memory.deviceLocator.bytes) ≤ 136 :=
    membersSize_stringMember_le (by decide) memory.deviceLocator.fits
  have hmanufacturer : membersSize (stringMember "Manufacturer" memory.manufacturer.bytes) ≤ 144 :=
    membersSize_stringMember_le (by decide) memory.manufacturer.fits
  have hserial : membersSize (stringMember "SerialNumber" memory.serialNumber.bytes) ≤ 144 :=
    membersSize_stringMember_le (by decide) memory.serialNumber.fits
  have hpart : membersSize (stringMember "PartNumber" memory.partNumber.bytes) ≤ 142 :=
    membersSize_stringMember_le (by decide) memory.partNumber.fits
  have hdevice : membersSize (stringMember "MemoryDeviceType"
      ((memory.memoryDeviceType.map fun t => ascii t.text).getD [])) ≤ 34 := by
    rcases memory.memoryDeviceType with _ | (_ | _) <;> decide
  have hmodule : membersSize (stringMember "BaseModuleType"
      ((memory.baseModuleType.map fun t => ascii t.text).getD [])) ≤ 27 := by
    rcases memory.baseModuleType with _ | (_ | _) <;> decide
  unfold memoryStrings
  simp only [membersSize_append]
  omega

/-- The speeds are an array of one number. -/
theorem spellsWhen_allowedSpeeds {value : Nat} (hvalue : value < 2 ^ 32) :
    SpellsWhen (value < 2 ^ 31)
      (numberPieces 32 48 (ascii ",\"AllowedSpeedsMHz\":[") (ascii "]") value)
      (if value = 0 then [] else [(ascii "AllowedSpeedsMHz", .array [.number (.ofNat value)])])
      1 := by
  have hhigh : 2 ^ (32 - 1) < 10 ^ 10 := by decide
  apply spellsWhen_number hvalue (by decide) hhigh (by decide)
  · decide
  · decide
  · decide
  · decide
  · rfl
  · intro hne
    have hpieces : [ascii ",\"AllowedSpeedsMHz\":[" ++ printDecimal value ++ ascii "]"].flatten =
        ascii ",\"" ++ ascii "AllowedSpeedsMHz" ++ ascii "\":" ++
          0x5B :: (printDecimal value ++ [0x5D]) := by
      simp [ascii]
    apply Spells.member (by decide) hpieces
    · exact .array (.element (Derives.ofNat value))
    · show _ = 1 + max 1 ((Value.number (.ofNat value)).size + 1 + 0)
      rw [← length_printDecimal_eq, List.length_cons, List.length_append]
      show (printDecimal value).length + 1 + 1 = _
      omega
    · show _ = 0
      rw [List.count_cons_of_ne (by decide), List.count_append, count_minus_printDecimal]
      rfl

/-- The numbers that are printed with their sign are below it. -/
structure MemoryPrintable (memory : RpiRedfishMemoryModule) : Prop where
  capacityMiB : memory.capacityMiB.toNat < 2 ^ 31
  operatingSpeedMhz : memory.operatingSpeedMhz.toNat < 2 ^ 31
  ratedSpeedMhz : memory.ratedSpeedMhz.toNat < 2 ^ 31

theorem memoryNumberPieces_spell (memory : RpiRedfishMemoryModule) :
    SpellsWhen (MemoryPrintable memory) (memoryNumberPieces memory) (memoryNumbers memory) 5 := by
  have hwidth : memory.dataWidthBits.toNat < 2 ^ 16 := memory.dataWidthBits.toNat_lt
  have hbus : memory.busWidthBits.toNat < 2 ^ 16 := memory.busWidthBits.toNat_lt
  have hcalls : SpellsWhen
      ((((memory.capacityMiB.toNat < 2 ^ 31 ∧ memory.operatingSpeedMhz.toNat < 2 ^ 31) ∧
        memory.dataWidthBits.toNat < 2 ^ 31) ∧ memory.busWidthBits.toNat < 2 ^ 31) ∧
        memory.ratedSpeedMhz.toNat < 2 ^ 31)
      (memoryNumberPieces memory) (memoryNumbers memory) (1 + 1 + 1 + 1 + 1) := by
    unfold memoryNumberPieces memoryNumbers
    refine SpellsWhen.append (SpellsWhen.append (SpellsWhen.append (SpellsWhen.append ?_ ?_) ?_)
      ?_) ?_
    · exact spellsWhen_appendNumber (by decide) memory.capacityMiB.toNat_lt rfl (by decide)
    · exact spellsWhen_appendNumber (by decide) memory.operatingSpeedMhz.toNat_lt rfl (by decide)
    · exact spellsWhen_appendNumber (by decide) (by omega) rfl (by decide)
    · exact spellsWhen_appendNumber (by decide) (by omega) rfl (by decide)
    · exact spellsWhen_allowedSpeeds memory.ratedSpeedMhz.toNat_lt
  apply hcalls.congr
  constructor
  · rintro ⟨⟨⟨⟨hcapacity, hspeed⟩, -⟩, -⟩, hrated⟩
    exact ⟨hcapacity, hspeed, hrated⟩
  · rintro ⟨hcapacity, hspeed, hrated⟩
    exact ⟨⟨⟨⟨hcapacity, hspeed⟩, by omega⟩, by omega⟩, hrated⟩

theorem membersSize_memoryNumbers_le (memory : RpiRedfishMemoryModule) :
    membersSize (memoryNumbers memory) ≤ 131 := by
  have hwide : ∀ {n : Nat}, n < 2 ^ 32 → n < 10 ^ 10 := fun h => h.trans (by decide)
  have hnarrow : ∀ {n : Nat}, n < 2 ^ 16 → n < 10 ^ 5 := fun h => h.trans (by decide)
  have hcapacity : membersSize (numberMember "CapacityMiB" memory.capacityMiB.toNat) ≤ 25 :=
    membersSize_numberMember_le (by decide) (hwide memory.capacityMiB.toNat_lt)
  have hspeed : membersSize (numberMember "OperatingSpeedMhz" memory.operatingSpeedMhz.toNat) ≤
      31 := membersSize_numberMember_le (by decide) (hwide memory.operatingSpeedMhz.toNat_lt)
  have hwidth : membersSize (numberMember "DataWidthBits" memory.dataWidthBits.toNat) ≤ 22 :=
    membersSize_numberMember_le (by decide) (hnarrow memory.dataWidthBits.toNat_lt)
  have hbus : membersSize (numberMember "BusWidthBits" memory.busWidthBits.toNat) ≤ 21 :=
    membersSize_numberMember_le (by decide) (hnarrow memory.busWidthBits.toNat_lt)
  have hrated : membersSize (if memory.ratedSpeedMhz.toNat = 0 then []
      else [(ascii "AllowedSpeedsMHz", .array [.number (.ofNat memory.ratedSpeedMhz.toNat)])]) ≤
      32 := by
    split
    · exact Nat.zero_le _
    · rename_i hne
      show 16 + 3 + (1 + max 1 ((Value.number (.ofNat memory.ratedSpeedMhz.toNat)).size + 1 + 0)) +
        1 + 0 ≤ 32
      have hdigits : (Nat.digits 10 memory.ratedSpeedMhz.toNat).length ≤ 10 :=
        (Nat.digits_length_le_iff (by decide) _).mpr (hwide memory.ratedSpeedMhz.toNat_lt)
      rw [← length_printDecimal_eq, length_printDecimal hne]
      omega
  unfold memoryNumbers
  simp only [membersSize_append]
  omega

/-- **A memory module's body** is the object of its record exactly where the strings are UTF-8 and
the numbers print. -/
theorem rpiRedfishBuildMemoryPost_iff (memory : RpiRedfishMemoryModule) :
    IsObject (rpiRedfishBuildMemoryPost memory) (memoryMembers memory) ↔
      MemoryUtf8 memory ∧ MemoryPrintable memory := by
  have hopened : membersSize memoryOpened = 101 := by decide +kernel
  have hstrings := membersSize_memoryStrings_le memory
  have hnumbers := membersSize_memoryNumbers_le memory
  have hbody (hutf8 : MemoryUtf8 memory) :
      IsObject (rpiRedfishBuildMemoryPost memory) (memoryMembers memory) ↔
        MemoryPrintable memory := by
    rw [rpiRedfishBuildMemoryPost_eq]
    apply memoryHeader_opens.body_iff (memoryStringPieces_spell hutf8)
      (memoryNumberPieces_spell memory)
    · decide
    · omega
  constructor
  · intro hobject
    have hutf8 := memoryUtf8_of_isObject hobject
    exact ⟨hutf8, (hbody hutf8).mp hobject⟩
  · rintro ⟨hutf8, hprintable⟩
    exact (hbody hutf8).mpr hprintable

/-! ## A drive -/

def driveOpened : List Member :=
  [(ascii "@odata.type", .string (ascii "#Drive.v1_4_0.Drive")),
    (ascii "Status", .object [(ascii "State", .string (ascii "Enabled")),
      (ascii "Health", .string (ascii "OK"))])]

def driveStrings (drive : RpiRedfishDrive) : List Member :=
  stringMember "Name" drive.model.bytes ++
    stringMember "Model" drive.model.bytes ++
    stringMember "SerialNumber" drive.serialNumber.bytes ++
    stringMember "Revision" drive.revision.bytes ++
    stringMember "Protocol" ((drive.protocol.map fun t => ascii t.text).getD []) ++
    stringMember "MediaType" ((drive.mediaType.map fun t => ascii t.text).getD [])

/-- What the record of a drive is to be sent as. -/
def driveMembers (drive : RpiRedfishDrive) : List Member :=
  driveOpened ++ driveStrings drive ++ numberMember "CapacityBytes" drive.capacityBytes.toNat

def driveHeader : List UInt8 :=
  asciiSPrint rpiRedfishJsonMax
    (ascii "\x7b\"@odata.type\":\"#Drive.v1_4_0.Drive\"" ++
      ascii ",\"Status\":\x7b\"State\":\"Enabled\",\"Health\":\"OK\"\x7d")

def driveStringPieces (drive : RpiRedfishDrive) : List (List UInt8) :=
  stringPieces "Name" drive.model.bytes ++
    stringPieces "Model" drive.model.bytes ++
    stringPieces "SerialNumber" drive.serialNumber.bytes ++
    stringPieces "Revision" drive.revision.bytes ++
    stringPieces "Protocol" ((drive.protocol.map fun t => ascii t.text).getD []) ++
    stringPieces "MediaType" ((drive.mediaType.map fun t => ascii t.text).getD [])

def driveNumberPieces (drive : RpiRedfishDrive) : List (List UInt8) :=
  numberPieces 64 48 (ascii ",\"CapacityBytes\":") [] drive.capacityBytes.toNat

theorem rpiRedfishBuildDrivePost_eq (drive : RpiRedfishDrive) :
    rpiRedfishBuildDrivePost drive =
      catAll rpiRedfishJsonMax driveHeader
        (driveStringPieces drive ++ driveNumberPieces drive ++ [ascii "\x7d"]) := by
  have hcapacity : drive.capacityBytes ≠ 0 ↔ drive.capacityBytes.toNat ≠ 0 := by
    rw [ne_eq, ne_eq, ← UInt64.toNat_inj]
    rfl
  have hpieces := fun json => catAll_numberPieces hcapacity 64 rpiRedfishJsonMax 48 json
    (ascii ",\"CapacityBytes\":") []
  simp only [List.append_nil] at hpieces
  unfold rpiRedfishBuildDrivePost driveHeader driveStringPieces driveNumberPieces
  simp only [appendJsonString_eq, catAll_append, Option.getD_some, hpieces,
    asciiStrCatS_eq _ _ (ascii "\x7d")]

theorem driveHeader_opens : Opens driveHeader driveOpened := by
  apply Spells.opens
  · apply Spells.cons
    · exact spells_literal (by decide) (by decide)
    apply Spells.nested (by decide)
    · exact (spells_literal (by decide) (by decide)).cons (spells_literal (by decide) (by decide))
    · rfl
  · decide +kernel
  · decide +kernel

/-- The strings that are sent are UTF-8. -/
structure DriveUtf8 (drive : RpiRedfishDrive) : Prop where
  model : IsUtf8 drive.model.bytes
  serialNumber : IsUtf8 drive.serialNumber.bytes
  revision : IsUtf8 drive.revision.bytes

theorem protocol_plain (drive : RpiRedfishDrive) :
    Plain ((drive.protocol.map fun t => ascii t.text).getD []) := by
  rcases drive.protocol with _ | (_ | _) <;> decide

theorem mediaType_plain (drive : RpiRedfishDrive) :
    Plain ((drive.mediaType.map fun t => ascii t.text).getD []) := by
  rcases drive.mediaType with _ | (_ | _) <;> decide

theorem driveStringPieces_spell (h : DriveUtf8 drive) :
    Spells (driveStringPieces drive) (driveStrings drive) := by
  unfold driveStringPieces driveStrings
  refine Spells.append (Spells.append (Spells.append (Spells.append (Spells.append ?_ ?_) ?_) ?_)
    ?_) ?_
  · exact spells_string (by decide) drive.model.fits h.model
  · exact spells_string (by decide) drive.model.fits h.model
  · exact spells_string (by decide) drive.serialNumber.fits h.serialNumber
  · exact spells_string (by decide) drive.revision.fits h.revision
  · refine spells_string (by decide) ?_ (protocol_plain drive).utf8
    rcases drive.protocol with _ | (_ | _) <;> decide
  · refine spells_string (by decide) ?_ (mediaType_plain drive).utf8
    rcases drive.mediaType with _ | (_ | _) <;> decide

theorem driveUtf8_of_isObject {text : List UInt8} (h : IsObject text (driveMembers drive)) :
    DriveUtf8 drive := by
  have hstring : ∀ name value, (∀ m ∈ stringMember name value, m ∈ driveStrings drive) →
      IsUtf8 value := fun _ _ hsub => utf8_of_stringMember h fun m hm =>
    List.mem_append_left _ (List.mem_append_right _ (hsub m hm))
  unfold driveStrings at hstring
  simp only [List.mem_append] at hstring
  exact ⟨hstring "Model" _ (by tauto), hstring "SerialNumber" _ (by tauto),
    hstring "Revision" _ (by tauto)⟩

theorem membersSize_driveStrings_le (drive : RpiRedfishDrive) :
    membersSize (driveStrings drive) ≤ 593 := by
  have hname : membersSize (stringMember "Name" drive.model.bytes) ≤ 136 :=
    membersSize_stringMember_le (by decide) drive.model.fits
  have hmodel : membersSize (stringMember "Model" drive.model.bytes) ≤ 137 :=
    membersSize_stringMember_le (by decide) drive.model.fits
  have hserial : membersSize (stringMember "SerialNumber" drive.serialNumber.bytes) ≤ 144 :=
    membersSize_stringMember_le (by decide) drive.serialNumber.fits
  have hrevision : membersSize (stringMember "Revision" drive.revision.bytes) ≤ 140 :=
    membersSize_stringMember_le (by decide) drive.revision.fits
  have hprotocol : membersSize (stringMember "Protocol"
      ((drive.protocol.map fun t => ascii t.text).getD [])) ≤ 18 := by
    rcases drive.protocol with _ | (_ | _) <;> decide
  have hmedia : membersSize (stringMember "MediaType"
      ((drive.mediaType.map fun t => ascii t.text).getD [])) ≤ 18 := by
    rcases drive.mediaType with _ | (_ | _) <;> decide
  unfold driveStrings
  simp only [membersSize_append]
  omega

theorem driveNumberPieces_spell (drive : RpiRedfishDrive) :
    SpellsWhen (drive.capacityBytes.toNat < 2 ^ 63) (driveNumberPieces drive)
      (numberMember "CapacityBytes" drive.capacityBytes.toNat) 1 := by
  have hhigh : 2 ^ (64 - 1) < 10 ^ 19 := by decide
  have hfront : ascii ",\"CapacityBytes\":" =
      ascii ",\"" ++ ascii "CapacityBytes" ++ ascii "\":" := rfl
  unfold driveNumberPieces
  rw [hfront]
  apply spellsWhen_number drive.capacityBytes.toNat_lt (by decide) hhigh (by decide)
  · decide
  · decide
  · decide
  · decide
  · rfl
  · exact fun _ => spells_decimal (by decide) drive.capacityBytes.toNat

/-- **A drive's body** is the object of its record exactly where the strings are UTF-8 and the
capacity prints. -/
theorem rpiRedfishBuildDrivePost_iff (drive : RpiRedfishDrive) :
    IsObject (rpiRedfishBuildDrivePost drive) (driveMembers drive) ↔
      DriveUtf8 drive ∧ drive.capacityBytes.toNat < 2 ^ 63 := by
  have hopened : membersSize driveOpened = 79 := by decide +kernel
  have hstrings := membersSize_driveStrings_le drive
  have hcapacity : membersSize (numberMember "CapacityBytes" drive.capacityBytes.toNat) ≤ 37 :=
    membersSize_numberMember_le (by decide)
      (drive.capacityBytes.toNat_lt.trans (by decide : 2 ^ 64 < 10 ^ 20))
  have hbody (hutf8 : DriveUtf8 drive) :
      IsObject (rpiRedfishBuildDrivePost drive) (driveMembers drive) ↔
        drive.capacityBytes.toNat < 2 ^ 63 := by
    rw [rpiRedfishBuildDrivePost_eq]
    apply driveHeader_opens.body_iff (driveStringPieces_spell hutf8) (driveNumberPieces_spell drive)
    · decide
    · omega
  constructor
  · intro hobject
    have hutf8 := driveUtf8_of_isObject hobject
    exact ⟨hutf8, (hbody hutf8).mp hobject⟩
  · rintro ⟨hutf8, hprintable⟩
    exact (hbody hutf8).mpr hprintable

end Rpi5Uefi
