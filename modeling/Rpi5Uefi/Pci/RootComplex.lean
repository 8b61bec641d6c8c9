import Mathlib.Algebra.Group.Nat.Defs
import Mathlib.Logic.Function.Basic
import Rpi5Uefi.Efi.Status

/-!
# The BCM2712 PCIe root complex (`Bcm2712PciHostBridgeLib`)

The registers that the host bridge library programs, and the routines of it up to the windows.

* **`RcState`**: the registers by their offset from `Pcie->Base`, and the time.
* **`RcHardware`**: what the registers answer whose content is the hardware's.
* **`Rc.mmioAndThenOr32`** and its like: the accesses.
* **`pcieSetupInboundWindow`**, **`pcieSetupOutboundWindow`**: the windows of an index.
-/

namespace Rpi5Uefi

/-! ## Registers and accesses -/

/-- The registers of a root complex by their offset, and the microseconds and reads so far. -/
structure RcState where
  reg : Nat → UInt32
  time : Nat

/-- What a register of the hardware's own answers at a time. -/
abbrev RcHardware := Nat → Nat → UInt32

/-- `PCIE_RC_DL_MDIO_ADDR`. -/
def pcieRcDlMdioAddr : Nat := 0x1100

/-- `PCIE_RC_DL_MDIO_WR_DATA`. -/
def pcieRcDlMdioWrData : Nat := 0x1104

/-- `PCIE_MISC_PCIE_STATUS`. -/
def pcieMiscPcieStatus : Nat := 0x4068

/-- `PCIE_MISC_AXI_INTF_CTRL`. -/
def pcieMiscAxiIntfCtrl : Nat := 0x416C

/-- The word with `BRCM_PCIE_CAP_REGS + PCIE_LINK_STATUS` in its upper half. -/
def pcieLinkStatusWord : Nat := 0xBC

/-- The registers that do not read as they were written: the handshake with the PHY, the state of
the link, and a register with bits that some steppings do not have. -/
def hardwareRegisters : List Nat :=
  [pcieRcDlMdioAddr, pcieRcDlMdioWrData, pcieMiscPcieStatus, pcieMiscAxiIntfCtrl,
    pcieLinkStatusWord]

/-- `gBS->Stall`. -/
def stall (microseconds : Nat) (s : RcState) : RcState := { s with time := s.time + microseconds }

/-- `MmioRead32`. -/
def Rc.mmioRead32 (hw : RcHardware) (offset : Nat) (s : RcState) : UInt32 × RcState :=
  (if offset ∈ hardwareRegisters then hw s.time offset else s.reg offset,
    { s with time := s.time + 1 })

/-- `MmioWrite32`. -/
def Rc.mmioWrite32 (offset : Nat) (value : UInt32) (s : RcState) : RcState :=
  { s with reg := Function.update s.reg offset value }

/-- `MmioAndThenOr32`. -/
def Rc.mmioAndThenOr32 (hw : RcHardware) (offset : Nat) (andData orData : UInt32) (s : RcState) :
    RcState :=
  let read := Rc.mmioRead32 hw offset s
  Rc.mmioWrite32 offset (read.1 &&& andData ||| orData) read.2

/-- `MmioAnd32`. -/
def Rc.mmioAnd32 (hw : RcHardware) (offset : Nat) (andData : UInt32) (s : RcState) : RcState :=
  let read := Rc.mmioRead32 hw offset s
  Rc.mmioWrite32 offset (read.1 &&& andData) read.2

/-- `MmioOr32`. -/
def Rc.mmioOr32 (hw : RcHardware) (offset : Nat) (orData : UInt32) (s : RcState) : RcState :=
  let read := Rc.mmioRead32 hw offset s
  Rc.mmioWrite32 offset (read.1 ||| orData) read.2

/-- `MmioAndThenOr16` on the lower half of the word at `offset`. -/
def Rc.mmioAndThenOr16 (hw : RcHardware) (offset : Nat) (andData orData : UInt16) (s : RcState) :
    RcState :=
  let read := Rc.mmioRead32 hw offset s
  Rc.mmioWrite32 offset
    (read.1 &&& 0xFFFF0000 ||| (read.1.toUInt16 &&& andData ||| orData).toUInt32) read.2

/-! ## Settings -/

/-- `BCM_PCIE_RC_WINDOW`. -/
structure BcmPcieRcWindow where
  cpuBase : UInt64
  busBase : UInt64
  size : UInt64

/-- `BCM2712_PCIE_CONTROLLER_SETTINGS`, less `Enabled`, which the caller has looked at. -/
structure Bcm2712PcieControllerSettings where
  maxLinkSpeed : UInt8
  aspmSupportL0s : Bool
  aspmSupportL1 : Bool
  rcbMatchMps : Bool
  vdmToQosMap : UInt32

/-- `BCM2712_PCIE_RC`, less `Base`, from which the offsets count. -/
structure Bcm2712PcieRc where
  inbound : BcmPcieRcWindow
  mem32 : BcmPcieRcWindow
  mem64 : BcmPcieRcWindow
  settings : Bcm2712PcieControllerSettings

/-! ## Inbound windows -/

/-- `PCIE_MISC_MISC_CTRL`. -/
def pcieMiscMiscCtrl : Nat := 0x4008

/-- `PCIE_MISC_MISC_CTRL_SCB0_SIZE_MASK`. -/
def miscCtrlScb0SizeMask : UInt32 := (0x1F : UInt32) <<< 27

/-- `PCIE_IB_WIN_LO`. -/
def pcieIbWinLo (index : Nat) : Nat := if index = 0 then 0x4034 else 0x40D4 + (index - 1) * 8

/-- `PCIE_IB_WIN_HI`. -/
def pcieIbWinHi (index : Nat) : Nat := if index = 0 then 0x4038 else 0x40D8 + (index - 1) * 8

/-- `PCIE_IB_WIN_REMAP_LO`. -/
def pcieIbWinRemapLo (index : Nat) : Nat := if index = 0 then 0x40B4 else 0x410C + (index - 1) * 8

/-- `PCIE_IB_WIN_REMAP_HI`. -/
def pcieIbWinRemapHi (index : Nat) : Nat := if index = 0 then 0x40B8 else 0x4110 + (index - 1) * 8

/-- `PCIE_MISC_RC_BAR_CONFIG_LO_SIZE_MASK`. -/
def rcBarConfigLoSizeMask : UInt32 := 0x1F

/-- `PCIE_MISC_UBUS_BAR_CONFIG_REMAP_LO_MASK`. -/
def ubusBarConfigRemapLoMask : UInt32 := 0xFFFFF000

/-- `PCIE_MISC_UBUS_BAR_CONFIG_REMAP_ENABLE`. -/
def ubusBarConfigRemapEnable : UInt32 := 1

/-- `PCIE_MISC_UBUS_BAR_CONFIG_REMAP_HI_MASK`. -/
def ubusBarConfigRemapHiMask : UInt64 := 0xFF

/-- `HighBitSet64`: the place of the highest bit, and minus one where there is none. -/
def highBitSet64 (x : UInt64) : Nat := if x = 0 then 2 ^ 64 - 1 else x.toNat.log2

/-- `PcieEncodeInboundSize`. -/
def pcieEncodeInboundSize (size : UInt64) : Nat :=
  let log2Size := highBitSet64 size
  if 12 ≤ log2Size ∧ log2Size ≤ 15 then log2Size - 12 + 0x1C
  else if 16 ≤ log2Size ∧ log2Size ≤ 36 then log2Size - 15
  else 0

/-- `PcieSetupInboundWindow`. -/
def pcieSetupInboundWindow (hw : RcHardware) (index : Nat) (window : BcmPcieRcWindow)
    (s : RcState) : RcState :=
  let inboundSize := UInt32.ofNat (pcieEncodeInboundSize window.size)
  let s := Rc.mmioWrite32 (pcieIbWinLo index)
    (window.busBase.toUInt32 &&& ~~~rcBarConfigLoSizeMask ||| inboundSize) s
  let s := Rc.mmioWrite32 (pcieIbWinHi index) (window.busBase >>> 32).toUInt32 s
  let s := Rc.mmioWrite32 (pcieIbWinRemapLo index)
    (window.cpuBase.toUInt32 &&& ubusBarConfigRemapLoMask ||| ubusBarConfigRemapEnable) s
  let s := Rc.mmioWrite32 (pcieIbWinRemapHi index)
    (window.cpuBase >>> 32 &&& ubusBarConfigRemapHiMask).toUInt32 s
  if index = 0 then
    Rc.mmioAndThenOr32 hw pcieMiscMiscCtrl (~~~miscCtrlScb0SizeMask) (inboundSize <<< 27) s
  else s

/-! ## Outbound windows -/

/-- `PCIE_NUM_OUTBOUND_WINDOWS`. -/
def pcieNumOutboundWindows : Nat := 4

/-- `SIZE_1MB`. -/
def size1MB : UInt64 := 0x100000

/-- `PCIE_MEM_WIN_LO`. -/
def pcieMemWinLo (index : Nat) : Nat := 0x400C + index * 8

/-- `PCIE_MEM_WIN_HI`. -/
def pcieMemWinHi (index : Nat) : Nat := 0x4010 + index * 8

/-- `PCIE_MEM_WIN_BASE_LIMIT`. -/
def pcieMemWinBaseLimit (index : Nat) : Nat := 0x4070 + index * 4

/-- `PCIE_MEM_WIN_BASE_HI`. -/
def pcieMemWinBaseHi (index : Nat) : Nat := 0x4080 + index * 8

/-- `PCIE_MEM_WIN_LIMIT_HI`. -/
def pcieMemWinLimitHi (index : Nat) : Nat := 0x4084 + index * 8

/-- `PCIE_MISC_CPU_2_PCIE_MEM_WIN_BASE_LIMIT_BASE_MASK`. -/
def memWinBaseMask : UInt32 := (0xFFF : UInt32) <<< 4

/-- `PCIE_MISC_CPU_2_PCIE_MEM_WIN_BASE_LIMIT_LIMIT_MASK`. -/
def memWinLimitMask : UInt32 := (0xFFF : UInt32) <<< 20

/-- `PCIE_MISC_CPU_2_PCIE_MEM_WIN_BASE_HI_BASE_MASK`. -/
def memWinBaseHiMask : UInt32 := 0xFF

/-- `PCIE_MISC_CPU_2_PCIE_MEM_WIN_LIMIT_HI_LIMIT_MASK`. -/
def memWinLimitHiMask : UInt32 := 0xFF

/-- `PcieSetupOutboundWindow`. The two numbers of megabytes are shifted into place as they are. -/
def pcieSetupOutboundWindow (hw : RcHardware) (index : Nat) (window : BcmPcieRcWindow)
    (s : RcState) : RcState :=
  let cpuBaseMB := window.cpuBase / size1MB
  let cpuLimitMB := (window.cpuBase + window.size - 1) / size1MB
  let s := Rc.mmioAndThenOr32 hw (pcieMemWinBaseLimit index)
    (~~~(memWinBaseMask ||| memWinLimitMask))
    (cpuBaseMB <<< 4 ||| cpuLimitMB <<< 20).toUInt32 s
  let s := Rc.mmioAndThenOr32 hw (pcieMemWinBaseHi index) (~~~memWinBaseHiMask)
    (cpuBaseMB >>> 12).toUInt32 s
  let s := Rc.mmioAndThenOr32 hw (pcieMemWinLimitHi index) (~~~memWinLimitHiMask)
    (cpuLimitMB >>> 12).toUInt32 s
  let s := Rc.mmioWrite32 (pcieMemWinLo index) window.busBase.toUInt32 s
  Rc.mmioWrite32 (pcieMemWinHi index) (window.busBase >>> 32).toUInt32 s

/-! ## What the accesses do to the registers -/

variable {hw : RcHardware} {s : RcState} {offset : Nat} {o : Nat}

@[simp] theorem reg_stall (microseconds : Nat) : (stall microseconds s).reg = s.reg := rfl

@[simp] theorem reg_mmioRead32 : (Rc.mmioRead32 hw offset s).2.reg = s.reg := rfl

@[simp] theorem reg_mmioWrite32 (value : UInt32) :
    (Rc.mmioWrite32 offset value s).reg = Function.update s.reg offset value := rfl

/-- A register that is not the hardware's own reads as it was written. -/
theorem mmioRead32_held (h : offset ∉ hardwareRegisters) :
    (Rc.mmioRead32 hw offset s).1 = s.reg offset := if_neg h

/-- A held register after its bits were changed. -/
theorem mmioAndThenOr32_held (h : offset ∉ hardwareRegisters) (andData orData : UInt32) :
    (Rc.mmioAndThenOr32 hw offset andData orData s).reg offset =
      s.reg offset &&& andData ||| orData := by
  unfold Rc.mmioAndThenOr32
  rw [reg_mmioWrite32, Function.update_self, mmioRead32_held h]

theorem mmioAndThenOr32_ne (h : o ≠ offset) (andData orData : UInt32) :
    (Rc.mmioAndThenOr32 hw offset andData orData s).reg o = s.reg o := by
  unfold Rc.mmioAndThenOr32
  rw [reg_mmioWrite32, Function.update_of_ne h, reg_mmioRead32]

theorem mmioAnd32_ne (h : o ≠ offset) (andData : UInt32) :
    (Rc.mmioAnd32 hw offset andData s).reg o = s.reg o := by
  unfold Rc.mmioAnd32
  rw [reg_mmioWrite32, Function.update_of_ne h, reg_mmioRead32]

theorem mmioOr32_ne (h : o ≠ offset) (orData : UInt32) :
    (Rc.mmioOr32 hw offset orData s).reg o = s.reg o := by
  unfold Rc.mmioOr32
  rw [reg_mmioWrite32, Function.update_of_ne h, reg_mmioRead32]

theorem mmioAndThenOr16_ne (h : o ≠ offset) (andData orData : UInt16) :
    (Rc.mmioAndThenOr16 hw offset andData orData s).reg o = s.reg o := by
  unfold Rc.mmioAndThenOr16
  rw [reg_mmioWrite32, Function.update_of_ne h, reg_mmioRead32]

theorem mmioWrite32_ne (h : o ≠ offset) (value : UInt32) :
    (Rc.mmioWrite32 offset value s).reg o = s.reg o := by
  rw [reg_mmioWrite32, Function.update_of_ne h]

theorem mmioWrite32_self (value : UInt32) :
    (Rc.mmioWrite32 offset value s).reg offset = value := by
  rw [reg_mmioWrite32, Function.update_self]

end Rpi5Uefi
