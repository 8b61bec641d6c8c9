import Rpi5Uefi.Lib.Appends
import Rpi5Uefi.Lib.Bytes
import Mathlib.Data.Nat.Digits.Defs

/-!
# The inventory bodies (`RpiRedfishInventory`)

What the driver reports of the host is one JSON object for each record, put together in a buffer of
1 KiB by appends whose status nobody looks at.

* **`appendJsonString`**, **`appendJsonNumber`**: one member, left out where the record has nothing.
* **`rpiRedfishBuildSystemPatch`**, **`rpiRedfishBuildMemoryPost`**,
  **`rpiRedfishBuildProcessorPost`**, **`rpiRedfishBuildDrivePost`**: the bodies.

A text is its bytes in front of the NUL. A body is the one built when the pool has given the buffer.
`%d` and `%ld` print a signed number, whatever the type of the field is. The texts a record points
to are enumerations, one for each function that chooses among them.
-/

namespace Rpi5Uefi

open Bytes Appends

/-! ## The records -/

def rpiRedfishStrMax : Nat := 64

def rpiRedfishJsonMax : Nat := 1024

/-- A `CHAR8` array that holds a text. -/
structure InventoryString (size : Nat) where
  bytes : List UInt8
  fits : bytes.length < size
  noNul : (0 : UInt8) ∉ bytes

/-- `RPI_REDFISH_HOST_INVENTORY`. -/
structure RpiRedfishHostInventory where
  biosVersion : InventoryString rpiRedfishStrMax
  manufacturer : InventoryString rpiRedfishStrMax
  model : InventoryString rpiRedfishStrMax
  serialNumber : InventoryString rpiRedfishStrMax
  uuid : InventoryString 37
  uuidValid : Bool

/-- What `RedfishMemoryDeviceType` maps to. -/
inductive MemoryDeviceType where
  | sdram
  | ddr
  | ddr2
  | ddr3
  | ddr4
  | lpddrSdram
  | lpddr2Sdram
  | lpddr3Sdram
  | lpddr4Sdram
  deriving DecidableEq

def MemoryDeviceType.text : MemoryDeviceType → String
  | .sdram => "SDRAM"
  | .ddr => "DDR"
  | .ddr2 => "DDR2"
  | .ddr3 => "DDR3"
  | .ddr4 => "DDR4"
  | .lpddrSdram => "LPDDR_SDRAM"
  | .lpddr2Sdram => "LPDDR2_SDRAM"
  | .lpddr3Sdram => "LPDDR3_SDRAM"
  | .lpddr4Sdram => "LPDDR4_SDRAM"

/-- What `RedfishBaseModuleType` maps to. -/
inductive BaseModuleType where
  | soDimm
  | udimm
  | rdimm
  | lrdimm
  deriving DecidableEq

def BaseModuleType.text : BaseModuleType → String
  | .soDimm => "SO_DIMM"
  | .udimm => "UDIMM"
  | .rdimm => "RDIMM"
  | .lrdimm => "LRDIMM"

/-- `RPI_REDFISH_MEMORY_MODULE`. -/
structure RpiRedfishMemoryModule where
  deviceLocator : InventoryString rpiRedfishStrMax
  bankLocator : InventoryString rpiRedfishStrMax
  manufacturer : InventoryString rpiRedfishStrMax
  serialNumber : InventoryString rpiRedfishStrMax
  partNumber : InventoryString rpiRedfishStrMax
  memoryDeviceType : Option MemoryDeviceType
  baseModuleType : Option BaseModuleType
  capacityMiB : UInt32
  operatingSpeedMhz : UInt32
  ratedSpeedMhz : UInt32
  dataWidthBits : UInt16
  busWidthBits : UInt16

/-- What `RedfishProcessorType` maps to. -/
inductive ProcessorType where
  | cpu
  | dsp
  | gpu
  deriving DecidableEq

def ProcessorType.text : ProcessorType → String
  | .cpu => "CPU"
  | .dsp => "DSP"
  | .gpu => "GPU"

/-- `RPI_REDFISH_PROCESSOR`. -/
structure RpiRedfishProcessor where
  socket : InventoryString rpiRedfishStrMax
  manufacturer : InventoryString rpiRedfishStrMax
  model : InventoryString rpiRedfishStrMax
  serialNumber : InventoryString rpiRedfishStrMax
  partNumber : InventoryString rpiRedfishStrMax
  idRegisters : InventoryString 19
  processorType : Option ProcessorType
  maxSpeedMhz : UInt32
  operatingSpeedMhz : UInt32
  totalCores : UInt32
  totalEnabledCores : UInt32
  totalThreads : UInt32
  enabled : Bool

/-- The `Protocol` of a drive. -/
inductive DriveProtocol where
  | nvme
  | sata
  deriving DecidableEq

def DriveProtocol.text : DriveProtocol → String
  | .nvme => "NVMe"
  | .sata => "SATA"

inductive DriveMediaType where
  | ssd
  | hdd
  deriving DecidableEq

def DriveMediaType.text : DriveMediaType → String
  | .ssd => "SSD"
  | .hdd => "HDD"

/-- `RPI_REDFISH_DRIVE`. -/
structure RpiRedfishDrive where
  model : InventoryString rpiRedfishStrMax
  serialNumber : InventoryString rpiRedfishStrMax
  revision : InventoryString rpiRedfishStrMax
  protocol : Option DriveProtocol
  mediaType : Option DriveMediaType
  capacityBytes : UInt64

/-! ## The appends -/

/-- `AsciiSPrint`, of the text the format makes. -/
def asciiSPrint (size : Nat) (text : List UInt8) : List UInt8 := text.take (size - 1)

/-- `AsciiStrCatS`. -/
def asciiStrCatS (json : List UInt8) (jsonSize : Nat) (source : List UInt8) : List UInt8 :=
  cat jsonSize json source

def printDecimal (n : Nat) : List UInt8 :=
  (if n = 0 then [0] else (Nat.digits 10 n).reverse).map fun d => UInt8.ofNat (0x30 + d)

/-- `%d` of 32 bits, `%ld` of 64. -/
def printSigned (bits value : Nat) : List UInt8 :=
  if value < 2 ^ (bits - 1) then printDecimal value else 0x2D :: printDecimal (2 ^ bits - value)

/-- The loop that fills `Escaped`, from a place in the value on. -/
def escapeFrom : List UInt8 → List UInt8 → List UInt8
  | [], escaped => escaped
  | c :: value, escaped =>
    if escaped.length < rpiRedfishStrMax * 2 - 2 then
      if c = 0x22 ∨ c = 0x5C then escapeFrom value (escaped ++ [0x5C, c])
      else if c < 0x20 then escapeFrom value (escaped ++ [0x20])
      else escapeFrom value (escaped ++ [c])
    else escaped

/-- `AppendJsonString`; a value of `none` is `NULL`. -/
def appendJsonString (json : List UInt8) (jsonSize : Nat) (name : String)
    (value : Option (List UInt8)) : List UInt8 :=
  match value with
  | none => json
  | some [] => json
  | some value =>
    let escaped := escapeFrom value []
    let json := asciiStrCatS json jsonSize (ascii ",\"")
    let json := asciiStrCatS json jsonSize (ascii name)
    let json := asciiStrCatS json jsonSize (ascii "\":\"")
    let json := asciiStrCatS json jsonSize escaped
    asciiStrCatS json jsonSize (ascii "\"")

/-- `AppendJsonNumber`. -/
def appendJsonNumber (json : List UInt8) (jsonSize : Nat) (name : String) (value : UInt32) :
    List UInt8 :=
  if value = 0 then json
  else
    let buffer := asciiSPrint 32
      (ascii ",\"" ++ ascii name ++ ascii "\":" ++ printSigned 32 value.toNat)
    asciiStrCatS json jsonSize buffer

/-! ## The bodies -/

/-- `RpiRedfishBuildSystemPatch`. -/
def rpiRedfishBuildSystemPatch (inventory : RpiRedfishHostInventory) : List UInt8 :=
  let body := asciiSPrint rpiRedfishJsonMax (ascii
    "\x7b\"BootProgress\":\x7b\"LastState\":\"SystemHardwareInitializationComplete\"\x7d")
  let body := appendJsonString body rpiRedfishJsonMax "BiosVersion" inventory.biosVersion.bytes
  let body := appendJsonString body rpiRedfishJsonMax "Manufacturer" inventory.manufacturer.bytes
  let body := appendJsonString body rpiRedfishJsonMax "Model" inventory.model.bytes
  let body := appendJsonString body rpiRedfishJsonMax "SerialNumber" inventory.serialNumber.bytes
  let body :=
    if inventory.uuidValid then
      appendJsonString body rpiRedfishJsonMax "UUID" inventory.uuid.bytes
    else body
  asciiStrCatS body rpiRedfishJsonMax (ascii "\x7d")

/-- `RpiRedfishBuildMemoryPost`. -/
def rpiRedfishBuildMemoryPost (memory : RpiRedfishMemoryModule) : List UInt8 :=
  let body := asciiSPrint rpiRedfishJsonMax
    (ascii "\x7b\"@odata.type\":\"#Memory.v1_7_1.Memory\"" ++
      ascii ",\"Status\":\x7b\"State\":\"Enabled\",\"Health\":\"OK\"\x7d" ++
      ascii ",\"MemoryType\":\"DRAM\"")
  let body := appendJsonString body rpiRedfishJsonMax "DeviceLocator" memory.deviceLocator.bytes
  let body := appendJsonString body rpiRedfishJsonMax "Name" memory.deviceLocator.bytes
  let body := appendJsonString body rpiRedfishJsonMax "Manufacturer" memory.manufacturer.bytes
  let body := appendJsonString body rpiRedfishJsonMax "SerialNumber" memory.serialNumber.bytes
  let body := appendJsonString body rpiRedfishJsonMax "PartNumber" memory.partNumber.bytes
  let body := appendJsonString body rpiRedfishJsonMax "MemoryDeviceType"
    (memory.memoryDeviceType.map fun t => ascii t.text)
  let body := appendJsonString body rpiRedfishJsonMax "BaseModuleType"
    (memory.baseModuleType.map fun t => ascii t.text)
  let body := appendJsonNumber body rpiRedfishJsonMax "CapacityMiB" memory.capacityMiB
  let body := appendJsonNumber body rpiRedfishJsonMax "OperatingSpeedMhz" memory.operatingSpeedMhz
  let body := appendJsonNumber body rpiRedfishJsonMax "DataWidthBits" memory.dataWidthBits.toUInt32
  let body := appendJsonNumber body rpiRedfishJsonMax "BusWidthBits" memory.busWidthBits.toUInt32
  let body :=
    if memory.ratedSpeedMhz ≠ 0 then
      let speeds := asciiSPrint 48
        (ascii ",\"AllowedSpeedsMHz\":[" ++ printSigned 32 memory.ratedSpeedMhz.toNat ++ ascii "]")
      asciiStrCatS body rpiRedfishJsonMax speeds
    else body
  asciiStrCatS body rpiRedfishJsonMax (ascii "\x7d")

/-- `RpiRedfishBuildProcessorPost`. -/
def rpiRedfishBuildProcessorPost (processor : RpiRedfishProcessor) : List UInt8 :=
  let body := asciiSPrint rpiRedfishJsonMax
    (ascii "\x7b\"@odata.type\":\"#Processor.v1_16_0.Processor\"" ++
      ascii ",\"Status\":\x7b\"State\":\"" ++
      ascii (if processor.enabled then "Enabled" else "Disabled") ++
      ascii "\",\"Health\":\"OK\"\x7d" ++
      ascii ",\"ProcessorArchitecture\":\"ARM\"" ++
      ascii ",\"InstructionSet\":\"ARM-A64\"")
  let body := appendJsonString body rpiRedfishJsonMax "ProcessorType"
    (processor.processorType.map fun t => ascii t.text)
  let body := appendJsonString body rpiRedfishJsonMax "Socket" processor.socket.bytes
  let body := appendJsonString body rpiRedfishJsonMax "Name" processor.socket.bytes
  let body := appendJsonString body rpiRedfishJsonMax "Manufacturer" processor.manufacturer.bytes
  let body := appendJsonString body rpiRedfishJsonMax "Model" processor.model.bytes
  let body := appendJsonString body rpiRedfishJsonMax "SerialNumber" processor.serialNumber.bytes
  let body := appendJsonString body rpiRedfishJsonMax "PartNumber" processor.partNumber.bytes
  let body := appendJsonNumber body rpiRedfishJsonMax "MaxSpeedMHz" processor.maxSpeedMhz
  let body := appendJsonNumber body rpiRedfishJsonMax "OperatingSpeedMHz"
    processor.operatingSpeedMhz
  let body := appendJsonNumber body rpiRedfishJsonMax "TotalCores" processor.totalCores
  let body := appendJsonNumber body rpiRedfishJsonMax "TotalEnabledCores"
    processor.totalEnabledCores
  let body := appendJsonNumber body rpiRedfishJsonMax "TotalThreads" processor.totalThreads
  let body :=
    if processor.idRegisters.bytes ≠ [] then
      let idObject := asciiSPrint 80
        (ascii ",\"ProcessorId\":\x7b\"IdentificationRegisters\":\"" ++
          processor.idRegisters.bytes ++ ascii "\"\x7d")
      asciiStrCatS body rpiRedfishJsonMax idObject
    else body
  asciiStrCatS body rpiRedfishJsonMax (ascii "\x7d")

/-- `RpiRedfishBuildDrivePost`. -/
def rpiRedfishBuildDrivePost (drive : RpiRedfishDrive) : List UInt8 :=
  let body := asciiSPrint rpiRedfishJsonMax
    (ascii "\x7b\"@odata.type\":\"#Drive.v1_4_0.Drive\"" ++
      ascii ",\"Status\":\x7b\"State\":\"Enabled\",\"Health\":\"OK\"\x7d")
  let body := appendJsonString body rpiRedfishJsonMax "Name" drive.model.bytes
  let body := appendJsonString body rpiRedfishJsonMax "Model" drive.model.bytes
  let body := appendJsonString body rpiRedfishJsonMax "SerialNumber" drive.serialNumber.bytes
  let body := appendJsonString body rpiRedfishJsonMax "Revision" drive.revision.bytes
  let body := appendJsonString body rpiRedfishJsonMax "Protocol"
    (drive.protocol.map fun t => ascii t.text)
  let body := appendJsonString body rpiRedfishJsonMax "MediaType"
    (drive.mediaType.map fun t => ascii t.text)
  let body :=
    if drive.capacityBytes ≠ 0 then
      let capacity := asciiSPrint 48
        (ascii ",\"CapacityBytes\":" ++ printSigned 64 drive.capacityBytes.toNat)
      asciiStrCatS body rpiRedfishJsonMax capacity
    else body
  asciiStrCatS body rpiRedfishJsonMax (ascii "\x7d")

end Rpi5Uefi
