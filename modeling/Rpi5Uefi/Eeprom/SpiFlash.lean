import Rpi5Uefi.Blcfg.TranslatedReg
import Rpi5Uefi.Eeprom.SpiXfer
import Rpi5Uefi.Gpio.Bcm2712

/-!
# Reading the image from the boot flash (`Bcm2712SpiFlash.c`)

`Bcm2712BootSpiReadImage` routes four pins to the controller, asks the flash for its
identification, reads the image and puts the pins back. Where the fields of the pins are depends on
the stepping, which the device tree may name wrongly; so the other stepping is tried as well.

* **`bcm2712BootSpiLocate_fixed`**: where the parts are on a board whose tree has no boot SPI.
* **`selectedXfer_cases`**: a transfer finds the chip selected and leaves it idle.
* **`bcm2712BootSpiReadImage_handsBack`**: whatever answers on the bus, the pins are put back, the
  chip is not selected in the end, and nothing but identifications and one READ went out to it.

The transfers are those of `SpiXfer`; the device behind them is the environment. `gBS->Stall` and
the messages are left out.
-/

namespace Rpi5Uefi.SpiFlash

open RegisterFields Gpio

/-! ## The parts of the board -/

/-- `SPI_REG_CS`. -/
def spiRegCs : UInt64 := 0x00

/-- `SPI_REG_CLK`. -/
def spiRegClk : UInt64 := 0x08

/-- `SPI_CLK_DIVIDER`. -/
def spiClkDivider : UInt32 := 64

/-- `GIO_REG_DATA`. -/
def gioRegData : UInt64 := 0x04

/-- `GIO_REG_IODIR`. -/
def gioRegIodir : UInt64 := 0x08

/-- `FLASH_CMD_RDID`. -/
def flashCmdRdid : UInt8 := 0x9F

/-- `FLASH_CMD_READ`. -/
def flashCmdRead : UInt8 := 0x03

/-- `SPI_MUX_FIELD`. The nibble is inside the register and the function inside the nibble. -/
structure SpiMuxField where
  shift : Fin 29
  fsel : Fin 16

/-- `mMuxC0`. -/
def muxC0 : List SpiMuxField := [.mk 4 0, .mk 8 6, .mk 12 5, .mk 16 6]

/-- `mMuxD0`. -/
def muxD0 : List SpiMuxField := [.mk 0 0, .mk 4 7, .mk 8 6, .mk 12 6]

/-- `BCM2712_BOOT_SPI`. The mask is the bit of the pin in its bank. -/
structure BootSpi where
  spiBase : UInt64
  csBankBase : UInt64
  csMask : UInt32
  csPin : UInt32
  csActiveLow : Bool
  pinctrlBase : UInt64
  isD0 : Bool
  csMask_eq : csMask = 1 <<< (csPin % 32)

/-- The board: the controller that a transfer finds, by the number of the transfer and the registers
as they are. -/
abbrev SpiBoard := Nat → Registers → SpiController

/-- The registers, and the transfers so far with the registers each of them found. -/
structure SpiBus where
  regs : Registers
  transfers : List (Registers × SpiTransfer)

/-- The buffer of the image; a READ into it fits the address space. -/
structure ImageBuffer where
  bytes : Nat → UInt8
  len : Nat
  fits : 4 + len < 2 ^ 64

variable (board : SpiBoard) (spi : BootSpi)

/-! ## The functions -/

/-- The value `SpiMuxPins` writes. The first field is the chip select's, and is left alone where
that is another pin. -/
def muxValue (original : UInt32) : UInt32 :=
  (if spi.isD0 then muxD0 else muxC0).zipIdx.foldl (fun value field =>
    if field.2 = 0 ∧ spi.csPin ≠ 1 then value
    else value &&& ~~~((0xF : UInt32) <<< UInt32.ofNat field.1.shift) |||
      UInt32.ofNat field.1.fsel <<< UInt32.ofNat field.1.shift) original

/-- `SpiMuxPins`. -/
def spiMuxPins (r : Registers) : UInt32 × Registers :=
  let original := r spi.pinctrlBase.toNat
  let value := muxValue spi original
  (original,
    if value ≠ original then Function.update r spi.pinctrlBase.toNat value else r)

/-- `SpiCsSet`. -/
def spiCsSet (assert : Bool) (r : Registers) : Registers :=
  let high := if assert then !spi.csActiveLow else spi.csActiveLow
  let address := (spi.csBankBase + gioRegData).toNat
  if high then mmioOr32 r address spi.csMask else mmioAnd32 r address (~~~spi.csMask)

/-- `SpiIdle`. -/
def spiIdle (r : Registers) : Registers :=
  let r := spiCsSet spi false r
  let r := mmioAnd32 r (spi.csBankBase + gioRegIodir).toNat (~~~spi.csMask)
  let r := Function.update r (spi.spiBase + spiRegCs).toNat (spiCsClearRx ||| spiCsClearTx)
  Function.update r (spi.spiBase + spiRegClk).toNat spiClkDivider

/-- A transfer with the chip selected. -/
def selectedXfer (t : SpiTransfer) (b : SpiBus) : EfiStatus × Option (Nat → UInt8) × SpiBus :=
  let found := spiCsSet spi true b.regs
  let (status, s) := spiXfer t (board b.transfers.length found)
  (status, s.rx,
    { regs := spiCsSet spi false
        (Function.update found (spi.spiBase + spiRegCs).toNat s.control)
      transfers := b.transfers ++ [(found, t)] })

/-- The request for the identification, into a cleared buffer. -/
def rdidTransfer : SpiTransfer := ⟨[flashCmdRdid], some fun _ => 0, 3, by decide⟩

/-- The READ from address 0. -/
def readTransfer (buffer : ImageBuffer) : SpiTransfer :=
  ⟨[flashCmdRead, 0, 0, 0], some buffer.bytes, buffer.len, buffer.fits⟩

/-- Nothing drives the line where all three bytes are zeros, or all are ones. -/
def idDriven (id : Nat → UInt8) : Bool :=
  !(id 0 == 0x00 && id 1 == 0x00 && id 2 == 0x00) &&
    !(id 0 == 0xFF && id 1 == 0xFF && id 2 == 0xFF)

/-- `SpiProbeJedec`, with as many tries left. -/
def spiProbeJedec : Nat → (Nat → UInt8) → SpiBus → EfiStatus × (Nat → UInt8) × SpiBus
  | 0, id, b => (.deviceError, id, b)
  | tries + 1, id, b =>
    let (status, rx, b) := selectedXfer board spi rdidTransfer b
    let id := rx.getD id
    if !status.isError && idDriven id then (.success, id, b)
    else spiProbeJedec tries id b

/-- `MmioWrite32` of the pins' register. -/
def SpiBus.writePins (b : SpiBus) (value : UInt32) : SpiBus :=
  { b with regs := Function.update b.regs spi.pinctrlBase.toNat value }

/-- The locals of `Bcm2712BootSpiReadImage` over its loop. -/
structure SpiProbe where
  status : EfiStatus
  id : Nat → UInt8
  usedD0 : Bool
  savedMux : UInt32
  muxed : Bool
  bus : SpiBus

/-- The loop over the encodings. -/
def spiAttempts : List Bool → SpiProbe → SpiProbe
  | [], p => p
  | isD0 :: rest, p =>
    let work := { spi with isD0 }
    let muxed := work.pinctrlBase ≠ 0
    let (saved, regs) := if muxed then spiMuxPins work p.bus.regs else (p.savedMux, p.bus.regs)
    let (status, id, bus) := spiProbeJedec board work 2 p.id
      { p.bus with regs := spiIdle work regs }
    let p := ⟨status, id, isD0, saved, muxed, bus⟩
    if !status.isError then p
    else if muxed then
      spiAttempts rest { p with muxed := false, bus := bus.writePins work saved }
    else p

/-- `BCM2712_BOOT_SPI_RESULT`. -/
structure BootSpiResult where
  jedecId : List UInt8
  usedD0 : Bool
  muxed : Bool

/-- The encodings that are tried: the one the tree names, and the other. -/
def encodings : List Bool := [spi.isD0, !spi.isD0]

/-- The loop from its start. -/
def spiProbe (b : SpiBus) : SpiProbe :=
  spiAttempts board spi (encodings spi) ⟨.deviceError, fun _ => 0, spi.isD0, 0, false, b⟩

/-- What `Bcm2712BootSpiReadImage` leaves. -/
structure ReadOutcome where
  status : EfiStatus
  buffer : Nat → UInt8
  result : BootSpiResult
  bus : SpiBus

/-- `Bcm2712BootSpiReadImage`. -/
def bcm2712BootSpiReadImage (buffer : ImageBuffer) (b : SpiBus) : ReadOutcome :=
  let p := spiProbe board spi b
  let result := ⟨[p.id 0, p.id 1, p.id 2], p.usedD0, p.muxed⟩
  if p.status.isError then ⟨.deviceError, buffer.bytes, result, p.bus⟩
  else
    let work := { spi with isD0 := p.usedD0 }
    let (status, rx, bus) := selectedXfer board work (readTransfer buffer) p.bus
    ⟨status, rx.getD buffer.bytes, result,
      if p.muxed then bus.writePins work p.savedMux else bus⟩

/-! ## Where the parts are -/

/-- `GIO_BANK_SIZE`. -/
def gioBankSize : UInt64 := 0x20

/-- `BCM2712_BOOT_SPI_BASE`. -/
def bcm2712BootSpiBase : UInt64 := 0x107d004000

/-- `BCM2712_BOOT_CS_GIO_BASE`. -/
def bcm2712BootCsGioBase : UInt64 := 0x107d508500

/-- A chip select at a pin of a block. -/
def BootSpi.withCs (spi : BootSpi) (gio : UInt64) (pin : UInt32) (activeLow : Bool) : BootSpi :=
  { spi with
    csBankBase := gio + (pin / 32).toUInt64 * gioBankSize
    csMask := 1 <<< (pin % 32)
    csPin := pin
    csActiveLow := activeLow
    csMask_eq := rfl }

/-- What `Bcm2712BootSpiLocate` fills in first: `BCM2712_BOOT_CS_PIN` is 1. -/
def fixedBootSpi : BootSpi where
  spiBase := bcm2712BootSpiBase
  csBankBase := bcm2712BootCsGioBase + (1 / 32) * gioBankSize
  csMask := (1 : UInt32) <<< (1 % 32)
  csPin := 1
  csActiveLow := true
  pinctrlBase := 0
  isD0 := false
  csMask_eq := rfl

/-- What libfdt finds in the tree. -/
structure NodeSearch where
  byCompatible : String → Option Nat
  byPhandle : Nat → Option Nat

/-- The address of a node that was found, where `BlGetTranslatedRegAddress` returns TRUE. -/
def nodeAddress (tree : DeviceTree) (node : Option Nat) : Except RegStop (Option UInt64) :=
  match node.map (blGetTranslatedRegAddress tree) with
  | some (.ok (address, _)) => .ok (some (UInt64.ofNat address))
  | some (.error .beyondProperty) => .error .beyondProperty
  | _ => .ok none

/-- The chip select of the controller's node, where the node describes one. -/
def locateCs (tree : DeviceTree) (search : NodeSearch) (node : Nat) (spi : BootSpi) :
    Except RegStop BootSpi :=
  match tree.getProp node "cs-gpios" with
  | none => .ok spi
  | some prop =>
    if prop.length < 3 * 4 then .ok spi
    else do
      let gio ← nodeAddress tree (search.byPhandle (fdtCell prop 0))
      .ok (gio.elim spi fun gio =>
        spi.withCs gio (UInt32.ofNat (fdtCell prop 1)) (fdtCell prop 2 % 2 = 1))

/-- The controller and its chip select. -/
def locateController (tree : DeviceTree) (search : NodeSearch) : Except RegStop BootSpi :=
  match search.byCompatible "brcm,bcm2835-spi" with
  | none => .ok fixedBootSpi
  | some node => do
    let address ← nodeAddress tree (some node)
    address.elim (.ok fixedBootSpi) fun address =>
      locateCs tree search node { fixedBootSpi with spiBase := address }

/-- `Bcm2712BootSpiLocate`. -/
def bcm2712BootSpiLocate (tree : DeviceTree) (search : NodeSearch) : Except RegStop BootSpi := do
  let spi ← locateController tree search
  let d0 := search.byCompatible "brcm,bcm2712d0-pinctrl"
  let pinctrl ← nodeAddress tree (d0.or ((search.byCompatible "brcm,bcm2712c0-pinctrl").or
    (search.byCompatible "brcm,bcm2712-pinctrl")))
  .ok { spi with pinctrlBase := pinctrl.getD 0, isD0 := d0.isSome }

/-- A tree without the controller: the fixed addresses, and the pins' block from the tree. -/
theorem bcm2712BootSpiLocate_fixed {tree : DeviceTree} {search : NodeSearch} {spi : BootSpi}
    (hnone : search.byCompatible "brcm,bcm2835-spi" = none)
    (hlocate : bcm2712BootSpiLocate tree search = .ok spi) :
    spi.spiBase = bcm2712BootSpiBase ∧ spi.csBankBase = bcm2712BootCsGioBase ∧ spi.csPin = 1 ∧
      spi.csActiveLow = true := by
  unfold bcm2712BootSpiLocate locateController at hlocate
  rw [hnone] at hlocate
  obtain ⟨found, hfound, hlocate⟩ := bindOk_iff.mp hlocate
  obtain ⟨pinctrl, -, hlocate⟩ := bindOk_iff.mp hlocate
  cases hfound
  cases hlocate
  exact ⟨rfl, rfl, rfl, rfl⟩

/-! ## The registers -/

theorem csPin_inside : (spi.csPin % 32).toNat + 1 ≤ 32 := by
  rw [UInt32.toNat_mod]
  exact Nat.mod_lt _ (by decide)

/-- The chip select among the bank's values. -/
def csField : Field where
  addr := (spi.csBankBase + gioRegData).toNat
  lo := (spi.csPin % 32).toNat
  width := 1
  width_pos := Nat.one_pos
  inside := csPin_inside spi

/-- The chip select among the bank's directions. -/
def dirField : Field := { csField spi with addr := (spi.csBankBase + gioRegIodir).toNat }

/-- What the chip select is driven to. -/
def csLevel (assert : Bool) : UInt32 := if assert == spi.csActiveLow then 0 else 1

/-- The registers that are the driver's own. -/
def ownRegisters : List Nat :=
  [(spi.csBankBase + gioRegData).toNat, (spi.csBankBase + gioRegIodir).toNat,
    (spi.spiBase + spiRegCs).toNat, (spi.spiBase + spiRegClk).toNat]

/-- The blocks do not overlap. -/
def Separate : Prop := (spi.pinctrlBase.toNat :: ownRegisters spi).Nodup

instance : Decidable (Separate spi) :=
  inferInstanceAs (Decidable (List.Nodup _))

/-- Only the driver's own registers differ. -/
def Elsewhere (r regs : Registers) : Prop := ∀ a, a ∉ ownRegisters spi → regs a = r a

/-- The chip select is driven, as given. -/
structure Driven (r : Registers) (assert : Bool) (regs : Registers) : Prop where
  elsewhere : Elsewhere spi r regs
  level : (csField spi).get regs = csLevel spi assert
  output : (dirField spi).get regs = 0

/-- The chip select does not depend on the encoding. -/
theorem driven_encoding_iff {spi : BootSpi} {isD0 assert : Bool} {r regs : Registers} :
    Driven { spi with isD0 } r assert regs ↔ Driven spi r assert regs :=
  ⟨fun h => ⟨h.elsewhere, h.level, h.output⟩, fun h => ⟨h.elsewhere, h.level, h.output⟩⟩

/-- The pins with the encoding of a stepping. -/
def muxedRegs (isD0 : Bool) (r : Registers) : Registers :=
  if spi.pinctrlBase ≠ 0 then
    Function.update r spi.pinctrlBase.toNat (muxValue { spi with isD0 } (r spi.pinctrlBase.toNat))
  else r

variable {board : SpiBoard} {spi : BootSpi} {r regs : Registers} {b : SpiBus} {t : SpiTransfer}
  {buffer : ImageBuffer} {isD0 : Bool}

theorem csMask_eq_mask (spi : BootSpi) :
    spi.csMask = (csField spi).mask <<< UInt32.ofNat (csField spi).lo := by
  show _ = UInt32.ofNat (2 ^ 1 - 1) <<< UInt32.ofNat (spi.csPin % 32).toNat
  rw [UInt32.ofNat_toNat, spi.csMask_eq]
  rfl

theorem spiCsSet_eq (spi : BootSpi) (assert : Bool) (r : Registers) :
    spiCsSet spi assert r = (csField spi).set (csLevel spi assert) r := by
  have hset := Field.set_mask (csField spi) r
  have hclear := Field.set_zero (csField spi) r
  rw [← csMask_eq_mask] at hset hclear
  unfold spiCsSet csLevel
  cases assert <;> cases spi.csActiveLow
  · exact hclear.symm
  · exact hset.symm
  · exact hset.symm
  · exact hclear.symm

theorem csLevel_fits (spi : BootSpi) (assert : Bool) :
    (csLevel spi assert).toNat < 2 ^ (csField spi).width := by
  show _ < 2
  unfold csLevel
  split <;> decide

theorem spiCsSet_level (spi : BootSpi) (assert : Bool) (r : Registers) :
    (csField spi).get (spiCsSet spi assert r) = csLevel spi assert := by
  rw [spiCsSet_eq]
  exact Field.get_set (csLevel_fits spi assert)

theorem spiCsSet_of_ne {a : Nat} (assert : Bool) (r : Registers)
    (h : a ≠ (spi.csBankBase + gioRegData).toNat) : spiCsSet spi assert r a = r a := by
  rw [spiCsSet_eq]
  exact Function.update_of_ne h _ _

/-- A field reads the same from registers that have the same content at its address. -/
theorem get_congr {f : Field} {r r' : Registers} (h : r' f.addr = r f.addr) :
    f.get r' = f.get r := by
  unfold Field.get
  rw [h]

theorem Separate.data_ne (h : Separate spi) :
    (spi.csBankBase + gioRegData).toNat ≠ (spi.csBankBase + gioRegIodir).toNat ∧
      (spi.csBankBase + gioRegData).toNat ≠ (spi.spiBase + spiRegCs).toNat ∧
      (spi.csBankBase + gioRegData).toNat ≠ (spi.spiBase + spiRegClk).toNat := by
  have hown := (List.nodup_cons.mp h).2
  have hdata := (List.nodup_cons.mp hown).1
  simp only [List.mem_cons, List.not_mem_nil, or_false, not_or] at hdata
  exact hdata

theorem Separate.iodir_ne (h : Separate spi) :
    (spi.csBankBase + gioRegIodir).toNat ≠ (spi.spiBase + spiRegCs).toNat ∧
      (spi.csBankBase + gioRegIodir).toNat ≠ (spi.spiBase + spiRegClk).toNat := by
  have hown := (List.nodup_cons.mp h).2
  have hdir := (List.nodup_cons.mp (List.nodup_cons.mp hown).2).1
  simp only [List.mem_cons, List.not_mem_nil, or_false, not_or] at hdir
  exact hdir

theorem Separate.pinctrl_not_mem (h : Separate spi) :
    spi.pinctrlBase.toNat ∉ ownRegisters spi :=
  (List.nodup_cons.mp h).1

theorem data_mem (spi : BootSpi) : (spi.csBankBase + gioRegData).toNat ∈ ownRegisters spi :=
  List.mem_cons_self

theorem iodir_mem (spi : BootSpi) : (spi.csBankBase + gioRegIodir).toNat ∈ ownRegisters spi :=
  List.mem_cons_of_mem _ List.mem_cons_self

theorem cs_mem (spi : BootSpi) : (spi.spiBase + spiRegCs).toNat ∈ ownRegisters spi :=
  List.mem_cons_of_mem _ (List.mem_cons_of_mem _ List.mem_cons_self)

theorem clk_mem (spi : BootSpi) : (spi.spiBase + spiRegClk).toNat ∈ ownRegisters spi :=
  List.mem_cons_of_mem _ (List.mem_cons_of_mem _ (List.mem_cons_of_mem _ List.mem_cons_self))

theorem Elsewhere.cs (h : Elsewhere spi r regs) (assert : Bool) :
    Elsewhere spi r (spiCsSet spi assert regs) := by
  intro a ha
  rw [spiCsSet_of_ne assert regs (ne_of_mem_of_not_mem (data_mem spi) ha).symm, h a ha]

/-- A write to a register of the driver. -/
theorem Elsewhere.update (h : Elsewhere spi r regs) {own : Nat} (hown : own ∈ ownRegisters spi)
    (value : UInt32) : Elsewhere spi r (Function.update regs own value) := by
  intro a ha
  rw [Function.update_of_ne (ne_of_mem_of_not_mem hown ha).symm, h a ha]

/-- `SpiIdle` selects nothing, and makes the chip select an output. -/
theorem spiIdle_driven (hsep : Separate spi) (h : Elsewhere spi r regs) :
    Driven spi r false (spiIdle spi regs) := by
  obtain ⟨hdir, hcs, hclk⟩ := hsep.data_ne
  obtain ⟨hdircs, hdirclk⟩ := hsep.iodir_ne
  have hclear := Field.set_zero (dirField spi) (spiCsSet spi false regs)
  have hmask : (dirField spi).mask <<< UInt32.ofNat (dirField spi).lo = spi.csMask :=
    (csMask_eq_mask spi).symm
  rw [hmask] at hclear
  have hidle : spiIdle spi regs = Function.update (Function.update
      ((dirField spi).set 0 (spiCsSet spi false regs)) (spi.spiBase + spiRegCs).toNat
      (spiCsClearRx ||| spiCsClearTx)) (spi.spiBase + spiRegClk).toNat spiClkDivider := by
    rw [hclear]
    rfl
  rw [hidle]
  refine ⟨?_, ?_, ?_⟩
  · exact (((h.cs false).update (iodir_mem spi) _).update (cs_mem spi) _).update (clk_mem spi) _
  · rw [← spiCsSet_level spi false regs]
    refine get_congr ?_
    show Function.update _ _ _ (spi.csBankBase + gioRegData).toNat = _
    rw [Function.update_of_ne hclk, Function.update_of_ne hcs]
    exact Function.update_of_ne hdir _ _
  · have hzero : (dirField spi).get ((dirField spi).set 0 (spiCsSet spi false regs)) = 0 :=
      Field.get_set (by show 0 < 2; decide)
    refine (get_congr ?_).trans hzero
    show Function.update _ _ _ (spi.csBankBase + gioRegIodir).toNat = _
    rw [Function.update_of_ne hdirclk, Function.update_of_ne hdircs]
    rfl

/-- The chip select is driven the other way. -/
theorem Driven.cs {was : Bool} (hsep : Separate spi) (h : Driven spi r was regs) (assert : Bool) :
    Driven spi r assert (spiCsSet spi assert regs) where
  elsewhere := h.elsewhere.cs assert
  level := spiCsSet_level spi assert regs
  output := by
    rw [← h.output]
    exact get_congr (spiCsSet_of_ne assert regs hsep.data_ne.1.symm)

/-- A transfer leaves the chip select. -/
theorem Driven.control {assert : Bool} (hsep : Separate spi) (h : Driven spi r assert regs)
    (control : UInt32) :
    Driven spi r assert (Function.update regs (spi.spiBase + spiRegCs).toNat control) where
  elsewhere := h.elsewhere.update (cs_mem spi) control
  level := by
    rw [← h.level]
    exact get_congr (Function.update_of_ne hsep.data_ne.2.1 _ _)
  output := by
    rw [← h.output]
    exact get_congr (Function.update_of_ne hsep.iodir_ne.1 _ _)

/-- **A transfer with the chip selected**: it finds the chip selected and leaves it idle. -/
theorem selectedXfer_cases (board : SpiBoard) (log : List (Registers × SpiTransfer))
    (hsep : Separate spi) (h : Driven spi r false regs) (t : SpiTransfer) :
    ∃ found, Driven spi r true found ∧ ∃ b' : SpiBus,
      selectedXfer board spi t ⟨regs, log⟩ = ((spiXfer t (board log.length found)).1,
        (spiXfer t (board log.length found)).2.rx, b') ∧
      Driven spi r false b'.regs ∧ b'.transfers = log ++ [(found, t)] :=
  ⟨spiCsSet spi true regs, h.cs hsep true, _, rfl,
    ((h.cs hsep true).control hsep _).cs hsep false, rfl⟩

/-! ## The probe -/

/-- Requests for the identification, each of which finds the chip selected. -/
def ProbeTransfers (spi : BootSpi) (r : Registers) (ts : List (Registers × SpiTransfer)) : Prop :=
  ∀ x ∈ ts, x.2 = rdidTransfer ∧ Driven spi r true x.1

/-- A request that goes out as the `n`-th transfer is answered with an identification, by something
that drives the line. -/
def Identified (board : SpiBoard) (n : Nat) (found : Registers) (id : Nat → UInt8) : Prop :=
  (spiXfer rdidTransfer (board n found)).1.isError = false ∧
    (spiXfer rdidTransfer (board n found)).2.rx = some id ∧ idDriven id = true

/-- The last of the requests behind `n` transfers has this identification. -/
def EndsIdentified (board : SpiBoard) (n : Nat) (ts : List (Registers × SpiTransfer))
    (id : Nat → UInt8) : Prop :=
  ∃ front last, ts = front ++ [(last, rdidTransfer)] ∧ Identified board (n + front.length) last id

theorem EndsIdentified.append {n : Nat} (ts : List (Registers × SpiTransfer))
    {ts' : List (Registers × SpiTransfer)} {id : Nat → UInt8}
    (h : EndsIdentified board (n + ts.length) ts' id) :
    EndsIdentified board n (ts ++ ts') id := by
  obtain ⟨front, last, rfl, hid⟩ := h
  refine ⟨ts ++ front, last, (List.append_assoc _ _ _).symm, ?_⟩
  rw [List.length_append, ← Nat.add_assoc]
  exact hid

theorem spiProbeJedec_spec (board : SpiBoard) (hsep : Separate spi) (tries : Nat)
    (id : Nat → UInt8) (log : List (Registers × SpiTransfer)) (h : Driven spi r false regs) :
    ∃ status id' b' ts, spiProbeJedec board spi tries id ⟨regs, log⟩ = (status, id', b') ∧
      Driven spi r false b'.regs ∧ b'.transfers = log ++ ts ∧
      ProbeTransfers spi r ts ∧ ts.length ≤ tries ∧ (0 < tries → ts ≠ []) ∧
      (status = .success ∧ EndsIdentified board log.length ts id' ∨ status = .deviceError) := by
  induction tries generalizing id regs log with
  | zero =>
    exact ⟨_, _, _, [], rfl, h, (List.append_nil _).symm, fun x hx => absurd hx List.not_mem_nil,
      Nat.le_refl _, fun hpos => absurd hpos (Nat.lt_irrefl 0), Or.inr rfl⟩
  | succ tries ih =>
    obtain ⟨found, hfound, b1, hxfer, hidle, hlog⟩ :=
      selectedXfer_cases board log hsep h rdidTransfer
    unfold spiProbeJedec
    rw [hxfer]
    simp only
    split
    · rename_i haccepted
      refine ⟨_, _, _, [(found, rdidTransfer)], rfl, hidle, hlog, ?_, Nat.le_add_left _ _,
        fun _ => List.cons_ne_nil _ _, Or.inl ⟨rfl, [], found, rfl, ?_⟩⟩
      · intro x hx
        rw [List.mem_singleton.mp hx]
        exact ⟨rfl, hfound⟩
      · obtain ⟨hstatus, hdriven⟩ := Bool.and_eq_true_iff.mp haccepted
        obtain ⟨rx, hrx⟩ := Option.isSome_iff_exists.mp
          (spiXfer_rx rdidTransfer (board log.length found))
        rw [hrx] at hdriven ⊢
        exact ⟨Bool.not_eq_true' _ ▸ hstatus, hrx, hdriven⟩
    · obtain ⟨status, id', b', ts, hprobe, hidle', hlog', hts, hlength, -, hstatus⟩ :=
        ih (((spiXfer rdidTransfer (board log.length found)).2.rx).getD id) b1.transfers hidle
      rw [hlog, List.length_append] at hstatus
      refine ⟨status, id', b', (found, rdidTransfer) :: ts, hprobe, hidle', ?_, ?_,
        Nat.succ_le_succ hlength, fun _ => List.cons_ne_nil _ _, hstatus.imp_left fun h =>
          ⟨h.1, EndsIdentified.append [(found, rdidTransfer)] h.2⟩⟩
      · rw [hlog', hlog, List.append_assoc]
        rfl
      · intro x hx
        rcases List.mem_cons.mp hx with rfl | hx
        · exact ⟨rfl, hfound⟩
        · exact hts x hx

/-! ## The encodings -/

/-- A value that is the register's own need not be written. -/
theorem spiMuxPins_snd (work : BootSpi) (r : Registers) :
    (spiMuxPins work r).2 =
      Function.update r work.pinctrlBase.toNat (muxValue work (r work.pinctrlBase.toNat)) := by
  unfold spiMuxPins
  simp only
  split
  · rfl
  · rename_i hsame
    rw [Classical.not_not.mp hsame, Function.update_eq_self]

/-- The pins get the encoding, whatever the driver's own registers are. -/
theorem elsewhere_muxedRegs (hsep : Separate spi) (h : Elsewhere spi r regs)
    (hmux : spi.pinctrlBase ≠ 0) (isD0 : Bool) :
    Elsewhere spi (muxedRegs spi isD0 r) (spiMuxPins { spi with isD0 } regs).2 := by
  intro a ha
  rw [spiMuxPins_snd]
  unfold muxedRegs
  rw [if_pos hmux, h _ hsep.pinctrl_not_mem]
  by_cases heq : a = spi.pinctrlBase.toNat
  · rw [heq, Function.update_self, Function.update_self]
  · rw [Function.update_of_ne heq, Function.update_of_ne heq, h a ha]

/-- The pins as they were, and nothing selected. -/
theorem Driven.restore (hsep : Separate spi) (h : Driven spi (muxedRegs spi isD0 r) false regs)
    (hmux : spi.pinctrlBase ≠ 0) :
    Driven spi r false
      (Function.update regs spi.pinctrlBase.toNat (r spi.pinctrlBase.toNat)) := by
  have hne := hsep.pinctrl_not_mem
  refine ⟨fun a ha => ?_, ?_, ?_⟩
  · by_cases heq : a = spi.pinctrlBase.toNat
    · rw [heq, Function.update_self]
    · rw [Function.update_of_ne heq, h.elsewhere a ha]
      unfold muxedRegs
      rw [if_pos hmux, Function.update_of_ne heq]
  · rw [← h.level]
    exact get_congr (Function.update_of_ne (ne_of_mem_of_not_mem (data_mem spi) hne) _ _)
  · rw [← h.output]
    exact get_congr (Function.update_of_ne (ne_of_mem_of_not_mem (iodir_mem spi) hne) _ _)

/-- One round of the loop, up to what follows the identification. -/
theorem spiAttempts_cons (board : SpiBoard) (hsep : Separate spi) {p : SpiProbe}
    (h : Elsewhere spi r p.bus.regs)
    (isD0 : Bool) (rest : List Bool) :
    ∃ (status : EfiStatus) (id : Nat → UInt8) (bus : SpiBus)
        (ts : List (Registers × SpiTransfer)),
      (∃ start, Driven spi (muxedRegs spi isD0 r) false start ∧
        spiProbeJedec board { spi with isD0 } 2 p.id ⟨start, p.bus.transfers⟩ =
          (status, id, bus)) ∧
      Driven spi (muxedRegs spi isD0 r) false bus.regs ∧ bus.transfers = p.bus.transfers ++ ts ∧
      ProbeTransfers spi (muxedRegs spi isD0 r) ts ∧ ts.length ≤ 2 ∧ ts ≠ [] ∧
      (status = .success ∧ EndsIdentified board p.bus.transfers.length ts id ∧ (∃ saved,
          spiAttempts board spi (isD0 :: rest) p =
            ⟨.success, id, isD0, saved, spi.pinctrlBase ≠ 0, bus⟩ ∧
          (spi.pinctrlBase ≠ 0 → saved = r spi.pinctrlBase.toNat)) ∨
        status = .deviceError ∧ spi.pinctrlBase ≠ 0 ∧
          spiAttempts board spi (isD0 :: rest) p = spiAttempts board spi rest
            ⟨.deviceError, id, isD0, r spi.pinctrlBase.toNat, false,
              bus.writePins spi (r spi.pinctrlBase.toNat)⟩ ∨
        status = .deviceError ∧ spi.pinctrlBase = 0 ∧ ∃ saved,
          spiAttempts board spi (isD0 :: rest) p =
            ⟨.deviceError, id, isD0, saved, false, bus⟩) := by
  have hwork : Separate { spi with isD0 } := hsep
  by_cases hmux : spi.pinctrlBase ≠ 0
  · have hregs : Elsewhere { spi with isD0 } _ _ := elsewhere_muxedRegs hsep h hmux isD0
    have hstart := spiIdle_driven hwork hregs
    obtain ⟨status, id, bus, ts, hprobe, hidle, hlog, hts, hlength, hne, hstatus⟩ :=
      spiProbeJedec_spec board hwork 2 p.id p.bus.transfers hstart
    refine ⟨status, id, bus, ts, ⟨_, driven_encoding_iff.mp hstart, hprobe⟩,
      driven_encoding_iff.mp hidle, hlog,
      fun x hx => ⟨(hts x hx).1, driven_encoding_iff.mp (hts x hx).2⟩, hlength, hne (by decide), ?_⟩
    rw [spiAttempts]
    simp only [if_pos hmux, decide_eq_true hmux]
    rw [hprobe]
    have hsaved : (spiMuxPins { spi with isD0 } p.bus.regs).1 = r spi.pinctrlBase.toNat :=
      h _ hsep.pinctrl_not_mem
    rcases hstatus with ⟨rfl, hdriven⟩ | rfl
    · exact Or.inl ⟨rfl, hdriven, _, rfl, fun _ => hsaved⟩
    · rw [hsaved]
      exact Or.inr (Or.inl ⟨rfl, hmux, rfl⟩)
  · have hzero : spi.pinctrlBase = 0 := Classical.not_not.mp hmux
    have hregs : muxedRegs spi isD0 r = r := by
      unfold muxedRegs
      rw [if_neg hmux]
    have hsame : Elsewhere { spi with isD0 } _ _ := h
    have hstart := spiIdle_driven hwork hsame
    obtain ⟨status, id, bus, ts, hprobe, hidle, hlog, hts, hlength, hne, hstatus⟩ :=
      spiProbeJedec_spec board hwork 2 p.id p.bus.transfers hstart
    rw [hregs]
    refine ⟨status, id, bus, ts, ⟨_, driven_encoding_iff.mp hstart, hprobe⟩,
      driven_encoding_iff.mp hidle, hlog,
      fun x hx => ⟨(hts x hx).1, driven_encoding_iff.mp (hts x hx).2⟩, hlength, hne (by decide), ?_⟩
    rw [spiAttempts]
    simp only [if_neg hmux, decide_eq_false hmux]
    rw [hprobe]
    rcases hstatus with ⟨rfl, hdriven⟩ | rfl
    · exact Or.inl ⟨rfl, hdriven, _, rfl, fun hno => absurd hno hmux⟩
    · exact Or.inr (Or.inr ⟨rfl, hzero, _, rfl⟩)

/-- A transfer finds the chip selected, and the pins with one of the encodings. -/
def FindsSelected (spi : BootSpi) (r : Registers) (x : Registers × SpiTransfer) : Prop :=
  ∃ isD0, Driven spi (muxedRegs spi isD0 r) true x.1

/-- What the loop leaves: nothing is selected, and the pins are as they were or, after an
identification, have the encoding that found it. -/
structure ProbeLeaves (spi : BootSpi) (r : Registers) (p : SpiProbe) : Prop where
  found : p.status = .success →
    Driven spi (muxedRegs spi p.usedD0 r) false p.bus.regs ∧
    p.muxed = decide (spi.pinctrlBase ≠ 0) ∧
    (spi.pinctrlBase ≠ 0 → p.savedMux = r spi.pinctrlBase.toNat)
  silent : p.status ≠ .success →
    p.status = .deviceError ∧ Driven spi r false p.bus.regs ∧ p.muxed = false

theorem spiAttempts_leaves (board : SpiBoard) (hsep : Separate spi) (encs : List Bool)
    {p : SpiProbe} (h : Elsewhere spi r p.bus.regs) (hnil : encs = [] → ProbeLeaves spi r p) :
    ProbeLeaves spi r (spiAttempts board spi encs p) ∧
      ∃ ts, (spiAttempts board spi encs p).bus.transfers = p.bus.transfers ++ ts ∧
        (∀ x ∈ ts, x.2 = rdidTransfer ∧ FindsSelected spi r x) ∧
        ts.length ≤ 2 * encs.length ∧ (encs ≠ [] → ts ≠ []) ∧
        (p.status ≠ .success → (spiAttempts board spi encs p).status = .success →
          EndsIdentified board p.bus.transfers.length ts (spiAttempts board spi encs p).id) := by
  induction encs generalizing p with
  | nil =>
    exact ⟨hnil rfl, [], (List.append_nil _).symm, fun x hx => absurd hx List.not_mem_nil,
      Nat.le_refl 0, fun hne => absurd rfl hne, fun hno hyes => absurd hyes hno⟩
  | cons isD0 rest ih =>
    obtain ⟨status, id, bus, ts, -, hidle, hlog, hts, hlength, hne, hcases⟩ :=
      spiAttempts_cons board hsep h isD0 rest
    have hfinds : ∀ x ∈ ts, x.2 = rdidTransfer ∧ FindsSelected spi r x :=
      fun x hx => ⟨(hts x hx).1, isD0, (hts x hx).2⟩
    have hbound : ts.length ≤ 2 * (isD0 :: rest).length := by
      rw [List.length_cons]
      omega
    rcases hcases with ⟨-, hends, saved, heq, hsaved⟩ | ⟨-, hmux, heq⟩ | ⟨-, hzero, saved, heq⟩
    · rw [heq]
      exact ⟨⟨fun _ => ⟨hidle, rfl, hsaved⟩, fun hno => absurd rfl hno⟩, ts, hlog, hfinds,
        hbound, fun _ => hne, fun _ _ => hends⟩
    · have hrestored := hidle.restore hsep hmux
      obtain ⟨hleaves, ts', hlog', hts', hlength', -, hends⟩ :=
        ih (p := ⟨.deviceError, id, isD0, r spi.pinctrlBase.toNat, false,
          bus.writePins spi (r spi.pinctrlBase.toNat)⟩) hrestored.elsewhere
          (fun _ => ⟨fun hno => (by cases hno), fun _ => ⟨rfl, hrestored, rfl⟩⟩)
      rw [heq]
      refine ⟨hleaves, ts ++ ts', ?_, ?_, ?_, fun _ => ?_, fun _ hyes => ?_⟩
      · exact hlog'.trans (by rw [← List.append_assoc, ← hlog]; rfl)
      · intro x hx
        exact (List.mem_append.mp hx).elim (hfinds x) (hts' x)
      · rw [List.length_append, List.length_cons]
        omega
      · exact fun hnil => hne (List.append_eq_nil_iff.mp hnil).1
      · refine EndsIdentified.append ts ?_
        rw [← List.length_append, ← hlog]
        exact hends (fun hno => by cases hno) hyes
    · rw [heq]
      have hregs : muxedRegs spi isD0 r = r := if_neg (not_not_intro hzero)
      rw [hregs] at hidle
      exact ⟨⟨fun hno => (by cases hno), fun _ => ⟨rfl, hidle, rfl⟩⟩, ts, hlog, hfinds, hbound,
        fun _ => hne, fun _ hno => (by cases hno)⟩

/-- **The board is handed back.** Whatever answers on the bus: every register but the driver's own
is as it was, the chip select is an output that selects nothing, and what went out is up to four
requests for the identification, each with the chip selected. There is a READ only behind a request
that was answered with an identification, which the result names; without one the buffer is not
touched. -/
theorem bcm2712BootSpiReadImage_handsBack (board : SpiBoard) {spi : BootSpi} (hsep : Separate spi)
    (buffer : ImageBuffer) (b : SpiBus) :
    let out := bcm2712BootSpiReadImage board spi buffer b
    Driven spi b.regs false out.bus.regs ∧
      ∃ probes reads, out.bus.transfers = b.transfers ++ probes ++ reads ∧
        (1 ≤ probes.length ∧ probes.length ≤ 4) ∧ (∀ x ∈ probes, x.2 = rdidTransfer) ∧
        (∀ x ∈ probes ++ reads, FindsSelected spi b.regs x) ∧
        (reads = [] ∧ out.status = .deviceError ∧ out.buffer = buffer.bytes ∧
            out.result.muxed = false ∨
          (∃ id, EndsIdentified board b.transfers.length probes id ∧
            out.result.jedecId = [id 0, id 1, id 2]) ∧
            (∃ found, reads = [(found, readTransfer buffer)]) ∧
            out.result.muxed = decide (spi.pinctrlBase ≠ 0)) := by
  obtain ⟨hleaves, probes, hlog, hprobes, hlength, hne, hends⟩ :=
    spiAttempts_leaves board (r := b.regs) hsep (encodings spi)
      (p := ⟨.deviceError, fun _ => 0, spi.isD0, 0, false, b⟩) (fun _ _ => rfl)
      (fun hnil => by cases hnil)
  have hpos : 1 ≤ probes.length :=
    List.length_pos_iff.mpr (hne (List.cons_ne_nil _ _))
  unfold bcm2712BootSpiReadImage
  simp only
  change ProbeLeaves spi b.regs (spiProbe board spi b) at hleaves
  change (spiProbe board spi b).bus.transfers = _ at hlog
  replace hends := hends fun hno => by cases hno
  change (spiProbe board spi b).status = .success → EndsIdentified board b.transfers.length probes
    (spiProbe board spi b).id at hends
  generalize spiProbe board spi b = p at hleaves hlog hends
  by_cases hstatus : p.status = .success
  · obtain ⟨hidle, hmuxed, hsaved⟩ := hleaves.found hstatus
    have hwork : Separate { spi with isD0 := p.usedD0 } := hsep
    obtain ⟨found, hfound, b', hxfer, hend, hlog'⟩ :=
      selectedXfer_cases board p.bus.transfers hwork (driven_encoding_iff.mpr hidle)
        (readTransfer buffer)
    have hidle' : Driven spi (muxedRegs spi p.usedD0 b.regs) false b'.regs :=
      driven_encoding_iff.mp hend
    rw [hstatus, EfiStatus.isError_success, if_neg Bool.false_ne_true, hxfer]
    refine ⟨?_, probes, [(found, readTransfer buffer)], ?_, ⟨hpos, hlength⟩,
      fun x hx => (hprobes x hx).1, ?_,
      Or.inr ⟨⟨p.id, hends hstatus, rfl⟩, ⟨found, rfl⟩, hmuxed⟩⟩
    · by_cases hmux : spi.pinctrlBase ≠ 0
      · rw [hmuxed, decide_eq_true hmux, if_pos rfl, hsaved hmux]
        exact hidle'.restore hsep hmux
      · have hregs : muxedRegs spi p.usedD0 b.regs = b.regs := if_neg hmux
        rw [hmuxed, decide_eq_false hmux, if_neg Bool.false_ne_true]
        rw [hregs] at hidle'
        exact hidle'
    · rw [hmuxed]
      split <;> exact hlog'.trans (by rw [hlog])
    · intro x hx
      rcases List.mem_append.mp hx with hx | hx
      · exact (hprobes x hx).2
      · rw [List.mem_singleton.mp hx]
        exact ⟨p.usedD0, driven_encoding_iff.mp hfound⟩
  · obtain ⟨herror, hidle, hmuxed⟩ := hleaves.silent hstatus
    have hfails : p.status.isError = true := by
      rw [herror]
      rfl
    rw [if_pos hfails]
    refine ⟨hidle, probes, [], ?_, ⟨hpos, hlength⟩, fun x hx => (hprobes x hx).1, ?_,
      Or.inl ⟨rfl, rfl, rfl, hmuxed⟩⟩
    · rw [List.append_nil]
      exact hlog
    · intro x hx
      rw [List.append_nil] at hx
      exact (hprobes x hx).2

/-- The board with the fixed addresses, whose tree names C0. -/
def fixedSpi : BootSpi := { fixedBootSpi with pinctrlBase := 0x107D504100 }

theorem fixedSpi_separate : Separate fixedSpi := by decide

/-- With the controller that answers EF 40 15: the pins' register is as it was. -/
theorem fixedSpi_handsBack :
    let out := bcm2712BootSpiReadImage (fun _ _ => steadyController) fixedSpi
      ⟨fun _ => 0, 16, by decide⟩ ⟨fun _ => 0x1234, []⟩
    out.bus.regs 0x107D504100 = 0x1234 ∧ out.bus.transfers.length ≤ 5 := by
  obtain ⟨hdriven, probes, reads, hlog, ⟨-, hlength⟩, -, -, hreads⟩ :=
    bcm2712BootSpiReadImage_handsBack (fun _ _ => steadyController) fixedSpi_separate
      ⟨fun _ => 0, 16, by decide⟩ ⟨fun _ => 0x1234, []⟩
  refine ⟨hdriven.elsewhere 0x107D504100 (by decide), ?_⟩
  have hlast : reads.length ≤ 1 := by
    rcases hreads with ⟨rfl, -⟩ | ⟨-, ⟨found, rfl⟩, -⟩
    · exact Nat.zero_le 1
    · exact Nat.le_refl 1
  rw [hlog, List.length_append, List.length_append]
  show 0 + _ + _ ≤ 5
  omega

end Rpi5Uefi.SpiFlash
