import Rpi5Uefi.Acpi.NameInteger
import Rpi5Uefi.Blcfg.AppliedUpdate
import Rpi5Uefi.Blcfg.Canonical
import Rpi5Uefi.Blcfg.Delimited
import Rpi5Uefi.Blcfg.Indices
import Rpi5Uefi.Blcfg.OutBuffer
import Rpi5Uefi.Blcfg.Patch
import Rpi5Uefi.Blcfg.PatchConsistent
import Rpi5Uefi.Blcfg.PatchInStep
import Rpi5Uefi.Blcfg.PatchKept
import Rpi5Uefi.Blcfg.PatchRuns
import Rpi5Uefi.Blcfg.PatchSigned
import Rpi5Uefi.Blcfg.PatchTimestamp
import Rpi5Uefi.Blcfg.PowerButton
import Rpi5Uefi.Blcfg.Publish
import Rpi5Uefi.Blcfg.RoundTrip
import Rpi5Uefi.Blcfg.Sha256
import Rpi5Uefi.Blcfg.Sha256Fips
import Rpi5Uefi.Blcfg.StagedFiles
import Rpi5Uefi.Blcfg.Staging
import Rpi5Uefi.Blcfg.StagingRuns
import Rpi5Uefi.Blcfg.StagingTime
import Rpi5Uefi.Blcfg.TranslatedReg
import Rpi5Uefi.Blcfg.Unmanaged
import Rpi5Uefi.Blcfg.Values
import Rpi5Uefi.Dwc2.Deferred
import Rpi5Uefi.Dwc2.Pump
import Rpi5Uefi.Dwc2.PumpRun
import Rpi5Uefi.Dwc2.Toggle
import Rpi5Uefi.Eeprom.Apart
import Rpi5Uefi.Eeprom.Image
import Rpi5Uefi.Eeprom.InBounds
import Rpi5Uefi.Eeprom.Replace
import Rpi5Uefi.Eeprom.ReplaceFrame
import Rpi5Uefi.Eeprom.ReplaceRoundTrip
import Rpi5Uefi.Eeprom.SameFiles
import Rpi5Uefi.Eeprom.Sections
import Rpi5Uefi.Eeprom.SpiFlash
import Rpi5Uefi.Eeprom.SpiFlashReads
import Rpi5Uefi.Eeprom.SpiXfer
import Rpi5Uefi.Eeprom.Timestamp
import Rpi5Uefi.Efi.FileSystem
import Rpi5Uefi.Efi.Pages
import Rpi5Uefi.Efi.Print
import Rpi5Uefi.Efi.Status
import Rpi5Uefi.Fan.ActiveCooler
import Rpi5Uefi.Fan.Loop
import Rpi5Uefi.Fdt.Fixup
import Rpi5Uefi.Fdt.KernelTree
import Rpi5Uefi.Fdt.OsTree
import Rpi5Uefi.Fdt.OsTreePages
import Rpi5Uefi.Fdt.Reserve
import Rpi5Uefi.Fdt.ReservedRuns
import Rpi5Uefi.Fdt.Uki
import Rpi5Uefi.Fdt.UkiBounds
import Rpi5Uefi.Fmp.Device
import Rpi5Uefi.Fmp.Preserved
import Rpi5Uefi.Fmp.SameFile
import Rpi5Uefi.Gpio.Bcm2712
import Rpi5Uefi.Gpio.PowerButton
import Rpi5Uefi.Lib.Appends
import Rpi5Uefi.Lib.Bits
import Rpi5Uefi.Lib.BusTranslation
import Rpi5Uefi.Lib.Bytes
import Rpi5Uefi.Lib.Calendar
import Rpi5Uefi.Lib.Chain
import Rpi5Uefi.Lib.CheckedMem
import Rpi5Uefi.Lib.Fips180
import Rpi5Uefi.Lib.FirstOccurrences
import Rpi5Uefi.Lib.Frame
import Rpi5Uefi.Lib.Hysteresis
import Rpi5Uefi.Lib.Indexed
import Rpi5Uefi.Lib.Json
import Rpi5Uefi.Lib.JsonCovers
import Rpi5Uefi.Lib.JsonFront
import Rpi5Uefi.Lib.JsonNumbers
import Rpi5Uefi.Lib.JsonQuotes
import Rpi5Uefi.Lib.Latch
import Rpi5Uefi.Lib.Ledger
import Rpi5Uefi.Lib.Lines
import Rpi5Uefi.Lib.Mailbox
import Rpi5Uefi.Lib.Pool
import Rpi5Uefi.Lib.RegisterFields
import Rpi5Uefi.Lib.Ring
import Rpi5Uefi.Lib.Run
import Rpi5Uefi.Lib.Utf8
import Rpi5Uefi.Lib.Writes
import Rpi5Uefi.Net.Ncm
import Rpi5Uefi.Pci.ConfigBuffer
import Rpi5Uefi.Pci.ConfigSpace
import Rpi5Uefi.Pci.InitRc
import Rpi5Uefi.Pci.OutboundWindow
import Rpi5Uefi.Pci.ReservedMemory
import Rpi5Uefi.Pci.RootComplex
import Rpi5Uefi.Redfish.BootOverride
import Rpi5Uefi.Redfish.BootRuns
import Rpi5Uefi.Redfish.ContinuousMark
import Rpi5Uefi.Redfish.Drives
import Rpi5Uefi.Redfish.FanOverride
import Rpi5Uefi.Redfish.FindOption
import Rpi5Uefi.Redfish.Firmware
import Rpi5Uefi.Redfish.Inventory
import Rpi5Uefi.Redfish.InventoryBodies
import Rpi5Uefi.Redfish.InventoryMembers
import Rpi5Uefi.Redfish.InventoryProcessor
import Rpi5Uefi.Redfish.NoReplay
import Rpi5Uefi.Redfish.SmbiosTable
import Rpi5Uefi.Redfish.SyncBoot
import Rpi5Uefi.Redfish.Thermal
import Rpi5Uefi.Rp1Gem.Binding
import Rpi5Uefi.Rp1Gem.Device
import Rpi5Uefi.Rp1Gem.DmaReach
import Rpi5Uefi.Rp1Gem.DmaSafe
import Rpi5Uefi.Rp1Gem.Filters
import Rpi5Uefi.Rp1Gem.LinkMode
import Rpi5Uefi.Rp1Gem.LinkState
import Rpi5Uefi.Rp1Gem.MCastFilter
import Rpi5Uefi.Rp1Gem.Mac
import Rpi5Uefi.Rp1Gem.Phy
import Rpi5Uefi.Rp1Gem.Resources
import Rpi5Uefi.Rp1Gem.RingState
import Rpi5Uefi.Rp1Gem.Rings
import Rpi5Uefi.Rp1Gem.RxRing
import Rpi5Uefi.Rp1Gem.Snp
import Rpi5Uefi.Rp1Gem.TxRing
