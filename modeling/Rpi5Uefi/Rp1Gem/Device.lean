import Rpi5Uefi.Efi.Status
import Rpi5Uefi.Lib.Bits
import Rpi5Uefi.Lib.Bytes

/-!
# The RP1 GEM: registers, descriptors and driver data (`GemHw.h`, `Rp1GemDxe.h`)

One record holds what the driver and the controller share: the register file, the descriptor rings
and the packet buffers, with the driver's own `RP1_GEM_PRIVATE_DATA`. A register reads as it was
last written. Writing the low half of the station address disarms the match and writing the high
half arms it.
-/

namespace Rpi5Uefi

open Bytes

/-! ## Registers (`GemHw.h`) -/

def gemNetCtrl : Nat := 0x000
def gemNetCtrlStartTx : UInt32 := 0x200
def gemNetCtrlClrStatRegs : UInt32 := 0x20
def gemNetCtrlMgmtPortEn : UInt32 := 0x10
def gemNetCtrlTxEn : UInt32 := 0x8
def gemNetCtrlRxEn : UInt32 := 0x4

def gemNetCfg : Nat := 0x004
def gemNetCfgDbusWidth32 : UInt32 := 0x0
def gemNetCfgDbusWidth64 : UInt32 := 0x200000
def gemNetCfgDbusWidth128 : UInt32 := 0x400000
def gemNetCfgMdcClkDiv96 : UInt32 := 0x140000
def gemNetCfgFcsRemove : UInt32 := 0x20000
def gemNetCfgPauseEn : UInt32 := 0x2000
def gemNetCfgGigeEn : UInt32 := 0x400
def gemNetCfg1536RxEn : UInt32 := 0x100
def gemNetCfgUniHashEn : UInt32 := 0x80
def gemNetCfgMultiHashEn : UInt32 := 0x40
def gemNetCfgNoBcast : UInt32 := 0x20
def gemNetCfgCopyAll : UInt32 := 0x10
def gemNetCfgFullDuplex : UInt32 := 0x2
def gemNetCfgSpeed100 : UInt32 := 0x1

def gemUserIo : Nat := 0x00C
def gemUserIoRgmii : UInt32 := 0x2
def gemDmaCfg : Nat := 0x010
def gemDmaCfgAddrBus64 : UInt32 := 0x40000000
def gemDmaCfgDiscWhenNoAhb : UInt32 := 0x1000000
def gemDmaCfgRxBufSize (sz : Nat) : UInt32 := (UInt32.ofNat ((sz + 63) / 64)) <<< (16 : UInt32)
def gemDmaCfgTxPktbufFull : UInt32 := 0x400
def gemDmaCfgRxPktbufFull : UInt32 := 0x300
def gemDmaCfgAhbBurstLen16 : UInt32 := 16
def gemTxStat : Nat := 0x014
def gemTxStatUnderrun : UInt32 := 0x40
def gemTxStatComplete : UInt32 := 0x20
def gemTxStatUsedBitRead : UInt32 := 0x1
def gemTxStatAll : UInt32 := 0x1FF
def gemRxQbar : Nat := 0x018
def gemTxQbar : Nat := 0x01C
def gemRxStat : Nat := 0x020
def gemRxStatOverrun : UInt32 := 0x4
def gemRxStatFrameRecd : UInt32 := 0x2
def gemRxStatBufNotAvail : UInt32 := 0x1
def gemRxStatAll : UInt32 := 0xF
def gemIntrDis : Nat := 0x02C
def gemIntrAll : UInt32 := 0x7FFFEFF
def gemPhyMaint : Nat := 0x034
def gemPhyMaintClause22 : UInt32 := 0x40000000
def gemPhyMaintOpRead : UInt32 := 0x20000000
def gemPhyMaintOpWrite : UInt32 := 0x10000000
def gemPhyMaintMust10 : UInt32 := 0x20000
def gemAmp : Nat := 0x054
def gemAmpAr2rMaxPipeMask : UInt32 := 0xFF
def gemAmpAw2wMaxPipeMask : UInt32 := 0xFF00
def gemAmpAw2bFill : UInt32 := 0x10000
def gemHashBot : Nat := 0x080
def gemHashTop : Nat := 0x084
def gemSpecAddrLow : Nat := 0x088
def gemSpecAddrHi : Nat := 0x08C
def gemDesignCfg1 : Nat := 0x280
def gemDesignCfg1DbwMask : UInt32 := 0xE000000
def gemDesignCfg1Dbw64 : UInt32 := 0x4000000
def gemDesignCfg1Dbw128 : UInt32 := 0x8000000
def gemDesignCfg6 : Nat := 0x294
def gemDesignCfg6PrioQMask : UInt32 := 0xFFFE
def gemTxQnBar (n : Nat) : Nat := 0x440 + (n - 1) * 4
def gemRxQnBar (n : Nat) : Nat := 0x480 + (n - 1) * 4
def gemTxQbarHi : Nat := 0x4C8
def gemRxQbarHi : Nat := 0x4D4

/-! ## Descriptors -/

/-- `GEM_DMA_DESC`, without the word nobody reads. -/
structure GemDmaDesc where
  addr : UInt32
  ctrl : UInt32
  addrHi : UInt32
  deriving DecidableEq, Repr

def gemRxDescAddrOwn : UInt32 := 0x1
def gemRxDescAddrWrap : UInt32 := 0x2
def gemRxDescCtrlEof : UInt32 := 0x8000
def gemRxDescCtrlSof : UInt32 := 0x4000
def gemRxDescCtrlLengthMask : UInt32 := 0x1FFF

def gemTxDescCtrlUsed : UInt32 := 0x80000000
def gemTxDescCtrlWrap : UInt32 := 0x40000000
def gemTxDescCtrlLastBuf : UInt32 := 0x8000
def gemTxDescCtrlLengthMask : UInt32 := 0x3FFF

def gemEtherAddrLen : Nat := 6
def gemEtherHeaderSize : Nat := 14
def gemMaxFrameSize : Nat := 1536

def gemRxDescCount : Nat := 16
def gemTxDescCount : Nat := 8
def gemRxBufferSize : Nat := 2048
def gemTxBufferSize : Nat := 2048

/-! ## The driver's data (`Rp1GemDxe.h`) -/

/-- `EFI_MAC_ADDRESS`. -/
abbrev EfiMacAddress := Vector UInt8 32

/-- `EFI_SIMPLE_NETWORK_STATE`. -/
inductive EfiSimpleNetworkState where
  | stopped
  | started
  | initialized
  deriving DecidableEq, Repr

def efiSimpleNetworkReceiveUnicast : UInt32 := 0x01
def efiSimpleNetworkReceiveMulticast : UInt32 := 0x02
def efiSimpleNetworkReceiveBroadcast : UInt32 := 0x04
def efiSimpleNetworkReceivePromiscuous : UInt32 := 0x08
def efiSimpleNetworkReceivePromiscuousMulticast : UInt32 := 0x10

/-- `MAX_MCAST_FILTER_CNT`. -/
def maxMcastFilterCnt : Nat := 16

/-- The fields of `EFI_SIMPLE_NETWORK_MODE` the driver's functions use. -/
structure SnpMode where
  state : EfiSimpleNetworkState
  mediaHeaderSize : Nat
  receiveFilterMask : UInt32
  receiveFilterSetting : UInt32
  maxMCastFilterCount : UInt32
  mCastFilterCount : UInt32
  mCastFilter : Vector EfiMacAddress 16
  currentAddress : EfiMacAddress
  permanentAddress : EfiMacAddress
  mediaPresent : Bool

/-- `RP1_GEM_PRIVATE_DATA` with the controller's registers and the DMA memory. `descBuffer`,
`rxBuffers` and `txBuffers` are bus addresses, `txUserBuffer` holds the callers' pointers. -/
structure Gem where
  mode : SnpMode
  phyAddr : UInt8
  linkUp : Bool
  descBuffer : Nat
  rxBuffers : Nat
  txBuffers : Nat
  rxRing : Nat → GemDmaDesc
  txRing : Nat → GemDmaDesc
  nullRxDesc : GemDmaDesc
  nullTxDesc : GemDmaDesc
  rxHead : UInt16
  txProd : UInt16
  txCons : UInt16
  txUserBuffer : Nat → Option Nat
  regs : Nat → UInt32
  specAddrArmed : Bool
  dma : Mem

/-! ## Register access -/

/-- `GemRead32`. -/
def gemRead32 (gem : Gem) (offset : Nat) : UInt32 := gem.regs offset

/-- `GemWrite32`, with what the write does to the station address match. -/
def gemWrite32 (gem : Gem) (offset : Nat) (value : UInt32) : Gem :=
  { gem with
    regs := Function.update gem.regs offset value
    specAddrArmed :=
      if offset = gemSpecAddrLow then false
      else if offset = gemSpecAddrHi then true
      else gem.specAddrArmed }

/-- `MmioOr32` on a register of the controller. -/
def mmioOr32 (gem : Gem) (offset : Nat) (value : UInt32) : Gem :=
  gemWrite32 gem offset (gemRead32 gem offset ||| value)

/-- `MmioAnd32` on a register of the controller. -/
def mmioAnd32 (gem : Gem) (offset : Nat) (value : UInt32) : Gem :=
  gemWrite32 gem offset (gemRead32 gem offset &&& value)

@[simp] theorem gemWrite32_mode (gem : Gem) (offset : Nat) (value : UInt32) :
    (gemWrite32 gem offset value).mode = gem.mode := rfl

@[simp] theorem gemWrite32_regs (gem : Gem) (offset : Nat) (value : UInt32) (reg : Nat) :
    (gemWrite32 gem offset value).regs reg = if reg = offset then value else gem.regs reg := by
  simp [gemWrite32, Function.update_apply]

@[simp] theorem gemWrite32_armed (gem : Gem) (offset : Nat) (value : UInt32) :
    (gemWrite32 gem offset value).specAddrArmed =
      if offset = gemSpecAddrLow then false
      else if offset = gemSpecAddrHi then true
      else gem.specAddrArmed := rfl

end Rpi5Uefi
