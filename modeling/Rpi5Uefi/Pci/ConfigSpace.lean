import Mathlib.Data.Nat.Bitwise
import Rpi5Uefi.Lib.Bytes

/-!
# PCI configuration accesses (`Bcm2712PciSegmentLib`)

The configuration registers of a root port are at the base of its PCIe controller. Those of every
function behind it are seen through one 4 KiB window, which shows the function whose location was
last written to `CFG_INDEX`.

* **`PcieBus`**: the registers an access can reach, and a log of every MMIO access.
* **`pciSegmentLibGetConfigBase`**, **`pciSegmentRead`**, **`pciSegmentWrite`**: the decode and the
  workers behind it.
* **`pciSegmentLibGetConfigBase_exists`**, **`pciSegmentLibGetConfigBase_invalid`**: what the decode
  leaves the bus showing.
* **`runHolds_iff`**: accesses reach what they name, and nothing where nothing is, exactly if none
  is
  a write to a function that cannot exist.
* **`config_run`**: such a run is one over a flat configuration space.

An assertion that fails is compiled out; the lock around each access is left out.
-/

namespace Rpi5Uefi

open Bytes

/-! ## Addresses -/

/-- `PCI_CFG_WIDTH`. -/
inductive PciCfgWidth where
  | uint8
  | uint16
  | uint32
  deriving DecidableEq, Repr

def PciCfgWidth.bytes : PciCfgWidth → Nat
  | .uint8 => 1
  | .uint16 => 2
  | .uint32 => 4

/-- `GET_SEG_NUM`. -/
def getSegNum (address : Nat) : Nat := (address >>> 32) &&& 0xFFFF

/-- `GET_BUS_NUM`. -/
def getBusNum (address : Nat) : Nat := (address >>> 20) &&& 0xFF

/-- `GET_DEV_NUM`. -/
def getDevNum (address : Nat) : Nat := (address >>> 15) &&& 0x1F

/-- `GET_FUN_NUM`. -/
def getFunNum (address : Nat) : Nat := (address >>> 12) &&& 0x07

/-- `GET_REG_NUM`. -/
def getRegNum (address : Nat) : Nat := address &&& 0xFFF

/-- `GET_BUS_DEV_FUN`. -/
def getBusDevFun (address : Nat) : Nat := address &&& 0xFFFFF000

/-- An address that passes `ASSERT_INVALID_PCI_SEGMENT_ADDRESS` for an access of a width. -/
structure PciSegmentAddress (width : PciCfgWidth) where
  address : Nat
  valid : address &&& (0xffff0000f0000000 ||| (width.bytes - 1)) = 0

/-- A function of a segment. -/
structure PciFunction where
  segment : Nat
  bus : Nat
  device : Nat
  function : Nat
  deriving DecidableEq, Repr

/-- The function an address names. -/
def pciFunction (address : Nat) : PciFunction where
  segment := getSegNum address
  bus := getBusNum address
  device := getDevNum address
  function := getFunNum address

/-! ## The hardware -/

/-- `mPcieRcBaseAddresses`. -/
def mPcieRcBaseAddresses : List Nat := [0x1000100000, 0x1000110000, 0x1000120000]

/-- `PCIE_EXT_CFG_DATA`. -/
def pcieExtCfgData : Nat := 0x8000

/-- `PCIE_EXT_CFG_INDEX`. -/
def pcieExtCfgIndex : Nat := 0x9000

/-- `PCI_INVALID_ADDRESS`. -/
def pciInvalidAddress : Nat := 0xffffffff

/-- A byte that an MMIO access can reach. -/
inductive MmioCell where
  | config (function : PciFunction) (register : Nat)
  | cfgIndex (segment byte : Nat)
  | other (address : Nat)
  deriving DecidableEq, Repr

/-- One MMIO access: `data` is what a write has. -/
structure MmioAccess where
  address : Nat
  width : Nat
  data : Option (List UInt8)
  deriving DecidableEq, Repr

/-- The controllers, what is behind them, and the accesses made so far. -/
structure PcieBus where
  cells : MmioCell → UInt8
  log : List MmioAccess

/-- The controller an address belongs to, and the offset in its registers. -/
def pcieController (address : Nat) : Option (Nat × Nat) :=
  (mPcieRcBaseAddresses.findIdx? fun base => base ≤ address ∧ address < base + 0x10000).map
    fun segment => (segment, address % 0x10000)

/-- `CFG_INDEX`. -/
def PcieBus.cfgIndex (bus : PcieBus) (segment : Nat) : Nat :=
  leNat ((List.range 4).map fun byte => bus.cells (.cfgIndex segment byte))

/-- The function the window of a segment shows. -/
def PcieBus.shown (bus : PcieBus) (segment : Nat) : PciFunction :=
  { pciFunction (bus.cfgIndex segment) with segment }

/-- What is at an address. -/
def PcieBus.locate (bus : PcieBus) (address : Nat) : MmioCell :=
  match pcieController address with
  | none => .other address
  | some (segment, offset) =>
    if offset < 0x1000 then .config ⟨segment, 0, 0, 0⟩ offset
    else if pcieExtCfgData ≤ offset ∧ offset < pcieExtCfgData + 0x1000 then
      .config (bus.shown segment) (offset - pcieExtCfgData)
    else if pcieExtCfgIndex ≤ offset ∧ offset < pcieExtCfgIndex + 4 then
      .cfgIndex segment (offset - pcieExtCfgIndex)
    else .other address

/-- `MmioRead8`, `MmioRead16` and `MmioRead32`. -/
def PcieBus.mmioRead (bus : PcieBus) (address width : Nat) : PcieBus × Nat :=
  ({ bus with log := bus.log ++ [⟨address, width, none⟩] },
    leNat ((List.range width).map fun i => bus.cells (bus.locate (address + i))))

/-- `MmioWrite8`, `MmioWrite16` and `MmioWrite32`. -/
def PcieBus.mmioWrite (bus : PcieBus) (address : Nat) (data : List UInt8) : PcieBus where
  cells := fun cell =>
    match (List.range data.length).find? fun i => bus.locate (address + i) = cell with
    | some i => data.getD i 0
    | none => bus.cells cell
  log := bus.log ++ [⟨address, data.length, some data⟩]

/-! ## The library -/

/-- `PciSegmentLibGetConfigBase`. -/
def pciSegmentLibGetConfigBase (bus : PcieBus) (address : Nat) : PcieBus × Nat :=
  match mPcieRcBaseAddresses[getSegNum address]? with
  | none => (bus, pciInvalidAddress)
  | some base =>
    -- there can only be the root port on bus 0
    if getBusNum address = 0 ∧ (getDevNum address > 0 ∨ getFunNum address > 0) then
      (bus, pciInvalidAddress)
    -- there can only be one device on bus 1
    else if getBusNum address = 1 ∧ getDevNum address > 0 then (bus, pciInvalidAddress)
    else if getBusNum address > 0 then
      (bus.mmioWrite (base + pcieExtCfgIndex) (le32Bytes (getBusDevFun address)),
        base + pcieExtCfgData + getRegNum address)
    else (bus, base + getRegNum address)

/-- `PciSegmentRead8`, `PciSegmentRead16` and `PciSegmentRead32`: `PciSegmentLibReadWorker`, cut to
the width. -/
def pciSegmentRead (bus : PcieBus) (width : PciCfgWidth) (address : Nat) : PcieBus × Nat :=
  let (bus, base) := pciSegmentLibGetConfigBase bus address
  if base = pciInvalidAddress then (bus, base % 2 ^ (8 * width.bytes))
  else
    let (bus, value) := bus.mmioRead base width.bytes
    (bus, value % 2 ^ (8 * width.bytes))

/-- `PciSegmentWrite8`, `PciSegmentWrite16` and `PciSegmentWrite32`: `PciSegmentLibWriteWorker`. -/
def pciSegmentWrite (bus : PcieBus) (width : PciCfgWidth) (address value : Nat) : PcieBus :=
  let (bus, base) := pciSegmentLibGetConfigBase bus address
  bus.mmioWrite base ((le32Bytes value).take width.bytes)

/-! ## The decode -/

variable {bus : PcieBus} {address segment offset : Nat} {width : PciCfgWidth}

/-- The function an address names can exist. -/
def PciExists (address : Nat) : Prop :=
  getSegNum address < 3 ∧
    ¬(getBusNum address = 0 ∧ (getDevNum address > 0 ∨ getFunNum address > 0)) ∧
    ¬(getBusNum address = 1 ∧ getDevNum address > 0)

instance (address : Nat) : Decidable (PciExists address) := by
  unfold PciExists
  infer_instance

/-- The window shows the function whose location is in the index. -/
theorem pciFunction_busDevFun (address segment : Nat) :
    { pciFunction (getBusDevFun address) with segment } =
      { pciFunction address with segment } := by
  have hfield (shift mask : Nat) (h : 0xFFFFF000 >>> shift &&& mask = mask) :
      (address &&& 0xFFFFF000) >>> shift &&& mask = address >>> shift &&& mask := by
    rw [Nat.shiftRight_and_distrib, Nat.and_assoc, h]
  unfold pciFunction getBusDevFun getBusNum getDevNum getFunNum
  rw [hfield 20 0xFF (by decide), hfield 15 0x1F (by decide), hfield 12 0x07 (by decide)]

theorem pcieController_base (hsegment : segment < 3) (offset : Nat) (hoffset : offset < 0x10000) :
    ∃ base, mPcieRcBaseAddresses[segment]? = some base ∧ 0x1000100000 ≤ base ∧
      pcieController (base + offset) = some (segment, offset) := by
  have hmod (base : Nat) (hbase : base % 0x10000 = 0) : (base + offset) % 0x10000 = offset := by
    omega
  have h0 : 0x1000100000 + offset < 0x1000110000 := by omega
  have h1 : 0x1000110000 + offset < 0x1000120000 := by omega
  have h2 : 0x1000120000 + offset < 0x1000130000 := by omega
  obtain rfl | rfl | rfl : segment = 0 ∨ segment = 1 ∨ segment = 2 := by omega
  · refine ⟨0x1000100000, rfl, by decide, ?_⟩
    simp [pcieController, mPcieRcBaseAddresses, List.findIdx?_cons, hmod, h0]
  · have hbelow : ¬0x1000110000 + offset < 0x1000110000 := by omega
    refine ⟨0x1000110000, rfl, by decide, ?_⟩
    simp [pcieController, mPcieRcBaseAddresses, List.findIdx?_cons, hmod, hbelow, h1]
  · have hbelow : ¬0x1000120000 + offset < 0x1000110000 := by omega
    have hbelow' : ¬0x1000120000 + offset < 0x1000120000 := by omega
    refine ⟨0x1000120000, rfl, by decide, ?_⟩
    simp [pcieController, mPcieRcBaseAddresses, List.findIdx?_cons, hmod, hbelow, hbelow', h2]

/-- The registers of a root port. -/
theorem locate_rootPort (bus : PcieBus) (hsegment : segment < 3) (hoffset : offset < 0x1000)
    {base : Nat} (hbase : mPcieRcBaseAddresses[segment]? = some base) :
    bus.locate (base + offset) = .config ⟨segment, 0, 0, 0⟩ offset := by
  obtain ⟨base', hbase', -, hcontroller⟩ := pcieController_base hsegment offset (by omega)
  cases hbase.symm.trans hbase'
  unfold PcieBus.locate
  rw [hcontroller]
  simp only
  rw [if_pos hoffset]

/-- The window. -/
theorem locate_window (bus : PcieBus) (hsegment : segment < 3) (hoffset : offset < 0x1000)
    {base : Nat} (hbase : mPcieRcBaseAddresses[segment]? = some base) :
    bus.locate (base + pcieExtCfgData + offset) = .config (bus.shown segment) offset := by
  obtain ⟨base', hbase', -, hcontroller⟩ :=
    pcieController_base hsegment (pcieExtCfgData + offset) (by unfold pcieExtCfgData; omega)
  cases hbase.symm.trans hbase'
  unfold PcieBus.locate
  rw [Nat.add_assoc, hcontroller]
  have hbehind : ¬pcieExtCfgData + offset < 0x1000 := by unfold pcieExtCfgData; omega
  simp only
  rw [if_neg hbehind, if_pos (by omega), Nat.add_sub_cancel_left]

/-- The index. -/
theorem locate_cfgIndex (bus : PcieBus) (hsegment : segment < 3) (hoffset : offset < 4)
    {base : Nat} (hbase : mPcieRcBaseAddresses[segment]? = some base) :
    bus.locate (base + pcieExtCfgIndex + offset) = .cfgIndex segment offset := by
  obtain ⟨base', hbase', -, hcontroller⟩ :=
    pcieController_base hsegment (pcieExtCfgIndex + offset) (by unfold pcieExtCfgIndex; omega)
  cases hbase.symm.trans hbase'
  unfold PcieBus.locate
  rw [Nat.add_assoc, hcontroller]
  have hbehind : ¬pcieExtCfgIndex + offset < 0x1000 := by unfold pcieExtCfgIndex; omega
  have hwindow : ¬(pcieExtCfgData ≤ pcieExtCfgIndex + offset ∧
      pcieExtCfgIndex + offset < pcieExtCfgData + 0x1000) := by
    unfold pcieExtCfgIndex pcieExtCfgData
    omega
  simp only
  rw [if_neg hbehind, if_neg hwindow, if_pos (by omega), Nat.add_sub_cancel_left]

/-- A write changes the cells it is at, each to its byte. -/
theorem cells_mmioWrite (bus : PcieBus) {address : Nat} {data : List UInt8}
    {place : Nat → MmioCell} (hplace : ∀ i < data.length, bus.locate (address + i) = place i)
    (cell : MmioCell) :
    (∃ i < data.length, cell = place i ∧ (bus.mmioWrite address data).cells cell = data.getD i 0) ∨
      (∀ i < data.length, cell ≠ place i) ∧
        (bus.mmioWrite address data).cells cell = bus.cells cell := by
  unfold PcieBus.mmioWrite
  simp only
  cases hfind : (List.range data.length).find? fun i => bus.locate (address + i) = cell with
  | some i =>
    have hlt : i < data.length := List.mem_range.mp (List.mem_of_find?_eq_some hfind)
    have hat : bus.locate (address + i) = cell := by simpa using List.find?_some hfind
    exact Or.inl ⟨i, hlt, by rw [← hat, hplace i hlt], rfl⟩
  | none =>
    refine Or.inr ⟨fun i hlt heq => ?_, rfl⟩
    have hnot := List.find?_eq_none.mp hfind i (List.mem_range.mpr hlt)
    exact hnot (by simpa [heq] using hplace i hlt)

theorem leNat_le32Bytes {v : Nat} (hv : v < 2 ^ 32) : leNat (le32Bytes v) = v := by
  unfold le32Bytes
  simp only [leNat, UInt8.toNat_ofNat']
  omega

/-- What the decode may change: the index and the log. -/
structure SameConfig (bus bus' : PcieBus) : Prop where
  config : ∀ function register,
    bus'.cells (.config function register) = bus.cells (.config function register)
  other : ∀ address, bus'.cells (.other address) = bus.cells (.other address)

/-- Writing the index moves the window, and nothing else. -/
theorem mmioWrite_cfgIndex (bus : PcieBus) (hsegment : segment < 3) {base value : Nat}
    (hbase : mPcieRcBaseAddresses[segment]? = some base) (hvalue : value < 2 ^ 32) :
    SameConfig bus (bus.mmioWrite (base + pcieExtCfgIndex) (le32Bytes value)) ∧
      (bus.mmioWrite (base + pcieExtCfgIndex) (le32Bytes value)).cfgIndex segment = value := by
  have hplace (i : Nat) (hi : i < (le32Bytes value).length) :
      bus.locate (base + pcieExtCfgIndex + i) = .cfgIndex segment i :=
    locate_cfgIndex bus hsegment (by simpa using hi) hbase
  have hcells := cells_mmioWrite bus hplace
  refine ⟨⟨fun function register => ?_, fun address => ?_⟩, ?_⟩
  · rcases hcells (.config function register) with ⟨i, -, h, -⟩ | ⟨-, h⟩
    · cases h
    · exact h
  · rcases hcells (.other address) with ⟨i, -, h, -⟩ | ⟨-, h⟩
    · cases h
    · exact h
  · have hbyte (i : Nat) (hi : i < 4) :
        (bus.mmioWrite (base + pcieExtCfgIndex) (le32Bytes value)).cells (.cfgIndex segment i) =
          (le32Bytes value).getD i 0 := by
      rcases hcells (.cfgIndex segment i) with ⟨j, -, h, hcell⟩ | ⟨h, -⟩
      · cases h
        exact hcell
      · exact absurd rfl (h i (by simpa using hi))
    unfold PcieBus.cfgIndex
    rw [List.map_congr_left fun i hi => hbyte i (List.mem_range.mp hi)]
    exact leNat_le32Bytes hvalue

/-- **The decode of an address that names a function.** The registers at what it returns are those
of that function, whatever was accessed before, and no configuration register has changed. -/
theorem pciSegmentLibGetConfigBase_exists (bus : PcieBus) (hexists : PciExists address) :
    SameConfig bus (pciSegmentLibGetConfigBase bus address).1 ∧
      (pciSegmentLibGetConfigBase bus address).2 ≠ pciInvalidAddress ∧
      ∀ i, getRegNum address + i < 0x1000 →
        (pciSegmentLibGetConfigBase bus address).1.locate
            ((pciSegmentLibGetConfigBase bus address).2 + i) =
          .config (pciFunction address) (getRegNum address + i) := by
  obtain ⟨hsegment, hroot, hfirst⟩ := hexists
  obtain ⟨base, hbase, hlow, -⟩ := pcieController_base hsegment 0 (by decide)
  unfold pciSegmentLibGetConfigBase
  rw [hbase]
  simp only
  rw [if_neg hroot, if_neg hfirst]
  by_cases hbus : getBusNum address > 0
  · -- behind the root port: through the window
    rw [if_pos hbus]
    have hvalue : getBusDevFun address < 2 ^ 32 :=
      Nat.lt_of_le_of_lt Nat.and_le_right (by decide)
    obtain ⟨hsame, hindex⟩ := mmioWrite_cfgIndex bus hsegment hbase hvalue
    refine ⟨hsame, ?_, fun i hi => ?_⟩
    · show base + pcieExtCfgData + getRegNum address ≠ pciInvalidAddress
      unfold pciInvalidAddress
      omega
    · show PcieBus.locate _ (base + pcieExtCfgData + getRegNum address + i) = _
      rw [Nat.add_assoc (base + pcieExtCfgData), locate_window _ hsegment hi hbase]
      unfold PcieBus.shown
      rw [hindex, pciFunction_busDevFun]
      rfl
  · -- the root port itself
    rw [if_neg hbus]
    refine ⟨⟨fun _ _ => rfl, fun _ => rfl⟩, ?_, fun i hi => ?_⟩
    · show base + getRegNum address ≠ pciInvalidAddress
      unfold pciInvalidAddress
      omega
    · show bus.locate (base + getRegNum address + i) = _
      rw [Nat.add_assoc, locate_rootPort bus hsegment hi hbase]
      have hzero : getBusNum address = 0 := by omega
      have hdevice : getDevNum address = 0 := by
        by_contra h
        exact hroot ⟨hzero, Or.inl (Nat.pos_of_ne_zero h)⟩
      have hfunction : getFunNum address = 0 := by
        by_contra h
        exact hroot ⟨hzero, Or.inr (Nat.pos_of_ne_zero h)⟩
      unfold pciFunction
      rw [hzero, hdevice, hfunction]

/-- **The decode of any other address** touches nothing. -/
theorem pciSegmentLibGetConfigBase_invalid (bus : PcieBus) (hexists : ¬PciExists address) :
    pciSegmentLibGetConfigBase bus address = (bus, pciInvalidAddress) := by
  unfold pciSegmentLibGetConfigBase
  by_cases hsegment : getSegNum address < 3
  · obtain ⟨base, hbase, -⟩ := pcieController_base hsegment 0 (by decide)
    rw [hbase]
    simp only
    by_cases hroot : getBusNum address = 0 ∧ (getDevNum address > 0 ∨ getFunNum address > 0)
    · rw [if_pos hroot]
    · rw [if_neg hroot]
      by_cases hfirst : getBusNum address = 1 ∧ getDevNum address > 0
      · rw [if_pos hfirst]
      · exact absurd ⟨hsegment, hroot, hfirst⟩ hexists
  · have hnone : mPcieRcBaseAddresses[getSegNum address]? = none :=
      List.getElem?_eq_none (Nat.le_of_not_lt hsegment)
    rw [hnone]

/-! ## A flat configuration space -/

/-- The configuration registers of every function. -/
abbrev ConfigSpace := PciFunction → Mem

def PcieBus.config (bus : PcieBus) : ConfigSpace := fun function register =>
  bus.cells (.config function register)

/-- A register of a width. -/
def ConfigSpace.read (space : ConfigSpace) (function : PciFunction) (register width : Nat) : Nat :=
  leNat ((space function).slice register width)

def ConfigSpace.write (space : ConfigSpace) (function : PciFunction) (register : Nat)
    (data : List UInt8) : ConfigSpace :=
  Function.update space function ((space function).write register data)

/-- An aligned register is inside the registers of its function. -/
theorem PciSegmentAddress.register_lt (a : PciSegmentAddress width) {i : Nat}
    (hi : i < width.bytes) : getRegNum a.address + i < 0x1000 := by
  have hvalid := a.valid
  rw [Nat.and_or_distrib_left] at hvalid
  have haligned : a.address &&& (width.bytes - 1) = 0 := (Nat.or_eq_zero_iff.mp hvalid).2
  have hregister : getRegNum a.address = a.address % 0x1000 :=
    Nat.and_two_pow_sub_one_eq_mod a.address 12
  rw [hregister]
  cases width with
  | uint8 =>
    have hone : i < 1 := hi
    omega
  | uint16 =>
    have hmod := (Nat.and_two_pow_sub_one_eq_mod a.address 1).symm.trans haligned
    have htwo : i < 2 := hi
    omega
  | uint32 =>
    have hmod := (Nat.and_two_pow_sub_one_eq_mod a.address 2).symm.trans haligned
    have hfour : i < 4 := hi
    omega

theorem leNat_lt (data : List UInt8) : leNat data < 2 ^ (8 * data.length) := by
  induction data with
  | nil => exact Nat.one_pos
  | cons b data ih =>
    have hb := b.toNat_lt
    rw [List.length_cons, Nat.mul_succ, Nat.pow_add, leNat]
    omega

/-! ## One access -/

/-- A read does what its address says. -/
structure ReadHolds (bus : PcieBus) (width : PciCfgWidth) (address : Nat) : Prop where
  reaches : PciExists address →
    (pciSegmentRead bus width address).2 =
        bus.config.read (pciFunction address) (getRegNum address) width.bytes ∧
      SameConfig bus (pciSegmentRead bus width address).1
  allOnes : ¬PciExists address → (pciSegmentRead bus width address).2 = 2 ^ (8 * width.bytes) - 1

/-- A write does what its address says. -/
structure WriteHolds (bus : PcieBus) (width : PciCfgWidth) (address value : Nat) : Prop where
  reaches : PciExists address →
    (pciSegmentWrite bus width address value).config =
        bus.config.write (pciFunction address) (getRegNum address)
          ((le32Bytes value).take width.bytes) ∧
      ∀ place, (pciSegmentWrite bus width address value).cells (.other place) =
        bus.cells (.other place)
  untouched : ¬PciExists address → (pciSegmentWrite bus width address value).log = bus.log

/-- **Reads hold**, of every function and of none. -/
theorem readHolds (bus : PcieBus) (a : PciSegmentAddress width) :
    ReadHolds bus width a.address := by
  constructor
  · intro hexists
    obtain ⟨hsame, hvalid, hlocate⟩ := pciSegmentLibGetConfigBase_exists bus hexists
    unfold pciSegmentRead
    generalize pciSegmentLibGetConfigBase bus a.address = decoded at hsame hvalid hlocate ⊢
    obtain ⟨bus', base⟩ := decoded
    simp only at hsame hvalid hlocate ⊢
    rw [if_neg hvalid]
    refine ⟨?_, hsame.config, hsame.other⟩
    have hslice : (List.range width.bytes).map (fun i => bus'.cells (bus'.locate (base + i))) =
        (bus.config (pciFunction a.address)).slice (getRegNum a.address) width.bytes := by
      refine List.map_congr_left fun i hi => ?_
      rw [hlocate i (a.register_lt (List.mem_range.mp hi)), hsame.config]
      rfl
    show leNat ((List.range width.bytes).map _) % _ = _
    rw [hslice]
    refine Nat.mod_eq_of_lt ?_
    have hlt := leNat_lt
      ((bus.config (pciFunction a.address)).slice (getRegNum a.address) width.bytes)
    simpa using hlt
  · intro hexists
    unfold pciSegmentRead
    rw [pciSegmentLibGetConfigBase_invalid bus hexists]
    cases width <;> rfl

/-- **Writes hold** where the function can exist. -/
theorem writeHolds_iff (bus : PcieBus) (a : PciSegmentAddress width) (value : Nat) :
    WriteHolds bus width a.address value ↔ PciExists a.address := by
  have hlength : ((le32Bytes value).take width.bytes).length = width.bytes := by
    cases width <;> rfl
  constructor
  · intro h
    by_contra hexists
    -- the sentinel is written to like any other address
    have hlog := h.untouched hexists
    unfold pciSegmentWrite at hlog
    rw [pciSegmentLibGetConfigBase_invalid bus hexists] at hlog
    exact absurd (List.append_right_eq_self.mp hlog) (List.cons_ne_nil _ _)
  · intro hexists
    refine ⟨fun _ => ?_, fun h => absurd hexists h⟩
    obtain ⟨hsame, -, hlocate⟩ := pciSegmentLibGetConfigBase_exists bus hexists
    unfold pciSegmentWrite
    generalize pciSegmentLibGetConfigBase bus a.address = decoded at hsame hlocate ⊢
    obtain ⟨bus', base⟩ := decoded
    simp only at hsame hlocate ⊢
    have hplace (i : Nat) (hi : i < ((le32Bytes value).take width.bytes).length) :
        bus'.locate (base + i) = .config (pciFunction a.address) (getRegNum a.address + i) :=
      hlocate i (a.register_lt (by rwa [hlength] at hi))
    have hcells := cells_mmioWrite bus' hplace
    refine ⟨?_, fun place => ?_⟩
    · funext function register
      show (bus'.mmioWrite base ((le32Bytes value).take width.bytes)).cells
          (.config function register) = (bus.config.write _ _ _) function register
      unfold ConfigSpace.write
      rcases hcells (.config function register) with ⟨i, hi, hcell, hvalue⟩ | ⟨hnot, hkept⟩
      · injection hcell with hfunction hregister
        rw [hvalue, hfunction, hregister, Function.update_self, Mem.write_inside hi]
        exact List.getD_eq_getElem _ _ hi
      · rw [hkept, hsame.config]
        by_cases hfunction : function = pciFunction a.address
        · rw [hfunction, Function.update_self, Mem.write_of_outside]
          · rfl
          · by_contra hinside
            rw [hlength] at hinside
            refine hnot (register - getRegNum a.address) (by rw [hlength]; omega) ?_
            rw [hfunction, Nat.add_sub_of_le (by omega)]
        · rw [Function.update_of_ne hfunction]
          rfl
    · rcases hcells (.other place) with ⟨i, -, hcell, -⟩ | ⟨-, hkept⟩
      · cases hcell
      · exact hkept.trans (hsame.other place)

/-! ## Runs -/

/-- An access of the library's clients. -/
inductive PciAccess where
  | read (width : PciCfgWidth) (address : PciSegmentAddress width)
  | write (width : PciCfgWidth) (address : PciSegmentAddress width) (value : Nat)

/-- The bus after an access. -/
def PciAccess.step (bus : PcieBus) : PciAccess → PcieBus
  | .read width a => (pciSegmentRead bus width a.address).1
  | .write width a value => pciSegmentWrite bus width a.address value

def PciAccess.Holds (bus : PcieBus) : PciAccess → Prop
  | .read width a => ReadHolds bus width a.address
  | .write width a value => WriteHolds bus width a.address value

/-- It does not write to a function that cannot exist. -/
def PciAccess.NoStrayWrite : PciAccess → Prop
  | .read _ _ => True
  | .write _ a _ => PciExists a.address

/-- Each access of the run holds, on the bus the ones before have left. -/
def RunHolds : PcieBus → List PciAccess → Prop
  | _, [] => True
  | bus, access :: accesses => access.Holds bus ∧ RunHolds (access.step bus) accesses

theorem holds_iff (bus : PcieBus) (access : PciAccess) :
    access.Holds bus ↔ access.NoStrayWrite := by
  cases access with
  | read width a => exact iff_of_true (readHolds bus a) trivial
  | write width a value => exact writeHolds_iff bus a value

/-- **Every access of a run reaches exactly the register it names, and one that names no function
reaches none, exactly if no write names a function that cannot exist.** -/
theorem runHolds_iff (bus : PcieBus) (accesses : List PciAccess) :
    RunHolds bus accesses ↔ ∀ access ∈ accesses, access.NoStrayWrite := by
  induction accesses generalizing bus with
  | nil => simp [RunHolds]
  | cons access accesses ih => rw [RunHolds, holds_iff, ih, List.forall_mem_cons]

/-- What an access does to a flat configuration space. -/
def PciAccess.configStep (space : ConfigSpace) : PciAccess → ConfigSpace
  | .read _ _ => space
  | .write width a value =>
    space.write (pciFunction a.address) (getRegNum a.address) ((le32Bytes value).take width.bytes)

/-- **A run without stray writes is one over a flat configuration space.** -/
theorem config_run {bus : PcieBus} {accesses : List PciAccess}
    (h : ∀ access ∈ accesses, access.NoStrayWrite) :
    (accesses.foldl PciAccess.step bus).config =
      accesses.foldl PciAccess.configStep bus.config := by
  induction accesses generalizing bus with
  | nil => rfl
  | cons access accesses ih =>
    obtain ⟨haccess, hrest⟩ := List.forall_mem_cons.mp h
    have hstep : (access.step bus).config = access.configStep bus.config := by
      cases access with
      | read width a =>
        funext function register
        by_cases hexists : PciExists a.address
        · exact ((readHolds bus a).reaches hexists).2.config function register
        · show (pciSegmentRead bus width a.address).1.cells _ = _
          unfold pciSegmentRead
          rw [pciSegmentLibGetConfigBase_invalid bus hexists]
          rfl
      | write width a value => exact (((writeHolds_iff bus a value).mpr haccess).reaches haccess).1
    rw [List.foldl_cons, List.foldl_cons, ih hrest, hstep]

/-- A write to device 1 of bus 0 is made at the address that stands for none. -/
theorem strayWrite :
    ¬RunHolds ⟨fun _ => 0, []⟩ [.write .uint8 ⟨0x8000, by decide⟩ 0x5A] := by
  rw [RunHolds]
  rintro ⟨hwrite, -⟩
  exact absurd (hwrite.untouched (by decide)) (by decide)

end Rpi5Uefi
