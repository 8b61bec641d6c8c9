import Mathlib.Data.List.Basic
import Rpi5Uefi.Efi.Status
import Rpi5Uefi.Lib.Bytes

/-!
# The resources of RP1's devices

`Rp1BusDxe` registers a peripheral with the list of its MMIO ranges, as ACPI address space
descriptors one behind the other and an end tag, and `Rp1GemDxe` takes the registers of the Ethernet
controller from such a list.

* **`parseResources_iff`**: the lists the driver takes, and what it takes from them.
* **`registered_taken`**: which of the devices that are registered it takes.
-/

namespace Rpi5Uefi

open Bytes

/-! ## Descriptors -/

/-- `ACPI_ADDRESS_SPACE_DESCRIPTOR`. -/
def acpiAddressSpaceDescriptor : UInt8 := 0x8A

/-- `ACPI_END_TAG_DESCRIPTOR`. -/
def acpiEndTagDescriptor : UInt8 := 0x79

/-- `ACPI_ADDRESS_SPACE_TYPE_MEM`. -/
def acpiAddressSpaceTypeMem : UInt8 := 0x00

/-- `EFI_ACPI_ADDRESS_SPACE_DESCRIPTOR`, without the flags, which are 0. -/
structure AddressSpaceDescriptor where
  resType : UInt8
  addrSpaceGranularity : UInt64
  addrRangeMin : UInt64
  addrRangeMax : UInt64
  addrTranslationOffset : UInt64
  addrLen : UInt64

/-- The 46 bytes of a descriptor; its `Len` does not count the first three. -/
def AddressSpaceDescriptor.toBytes (d : AddressSpaceDescriptor) : List UInt8 :=
  acpiAddressSpaceDescriptor :: leBytes 2 43 ++ [d.resType, 0, 0] ++
    leBytes 8 d.addrSpaceGranularity.toNat ++ leBytes 8 d.addrRangeMin.toNat ++
    leBytes 8 d.addrRangeMax.toNat ++ leBytes 8 d.addrTranslationOffset.toNat ++
    leBytes 8 d.addrLen.toNat

/-- `EFI_ACPI_END_TAG_DESCRIPTOR`. -/
def endTag : List UInt8 := [acpiEndTagDescriptor, 0]

/-- A list of resources. -/
def resourceList (descs : List AddressSpaceDescriptor) : List UInt8 :=
  descs.flatMap AddressSpaceDescriptor.toBytes ++ endTag

/-! ## Registration (`Rp1BusDxe.c`) -/

/-- An entry of `MmioOffsets` with the one of `MmioSizes`. -/
structure MmioRange where
  offset : UInt64
  size : UInt64

/-- `SIZE_4GB`. -/
def size4Gb : UInt64 := 0x100000000

/-- A pass of the loop of `Rp1BusRegisterVendorMmioDevice`. -/
def mmioDescriptor (peripheralBase : UInt64) (range : MmioRange) : AddressSpaceDescriptor :=
  let base := peripheralBase + range.offset
  { resType := acpiAddressSpaceTypeMem
    addrSpaceGranularity := if base + range.size > size4Gb then 64 else 32
    addrRangeMin := base
    addrRangeMax := base + range.size - 1
    addrTranslationOffset := 0
    addrLen := range.size }

/-- The `Resources` of `Rp1BusRegisterVendorMmioDevice`. -/
def rp1BusVendorResources (peripheralBase : UInt64) (ranges : List MmioRange) : List UInt8 :=
  resourceList (ranges.map (mmioDescriptor peripheralBase))

/-- `GemOffsets` and `GemSizes`. -/
def gemRanges : List MmioRange := [⟨0x00100000, 0x4000⟩, ⟨0x00104000, 0x1000⟩]

/-- `I2c1Offsets` and `I2c1Sizes`. -/
def i2c1Ranges : List MmioRange := [⟨0x00074000, 0x1000⟩]

/-! ## What the driver takes (`DriverBinding.c`) -/

/-- `GemBase`, `EthCfgBase` and `Count`. -/
structure ResourceScan where
  gemBase : UInt64
  ethCfgBase : UInt64
  count : Nat

/-- One descriptor in the loop of `Rp1GemParseResources`. -/
def ResourceScan.take (scan : ResourceScan) (resType : UInt8) (addrRangeMin : UInt64) :
    Except EfiStatus ResourceScan :=
  if resType ≠ acpiAddressSpaceTypeMem then .error .unsupported
  else
    .ok {
      gemBase := if scan.count = 0 then addrRangeMin else scan.gemBase
      ethCfgBase := if scan.count = 1 then addrRangeMin else scan.ethCfgBase
      count := scan.count + 1 }

theorem length_drop_descriptor {desc : List UInt8} {n : Nat}
    (h : desc.headD 0 = acpiAddressSpaceDescriptor) :
    (desc.drop (n + 3)).length < desc.length := by
  cases desc with
  | nil => cases h
  | cons b desc =>
    rw [List.length_drop, List.length_cons]
    omega

/-- The loop of `Rp1GemParseResources`. -/
def scanResources (scan : ResourceScan) (desc : List UInt8) : Except EfiStatus ResourceScan :=
  if _h : desc.headD 0 = acpiAddressSpaceDescriptor then
    let resType := desc.getD 3 0
    let addrRangeMin := UInt64.ofNat (leNat ((desc.drop 14).take 8))
    let len := leNat ((desc.drop 1).take 2)
    match scan.take resType addrRangeMin with
    | .error status => .error status
    | .ok scan => scanResources scan (desc.drop (len + 3))
  else .ok scan
termination_by desc.length
decreasing_by exact length_drop_descriptor _h

/-- `Rp1GemParseResources`: `GemBase` and `EthCfgBase`. -/
def rp1GemParseResources (resources : List UInt8) : Except EfiStatus (UInt64 × UInt64) :=
  match scanResources ⟨0, 0, 0⟩ resources with
  | .error status => .error status
  | .ok scan =>
    if scan.count ≠ 2 ∨ scan.gemBase = 0 ∨ scan.ethCfgBase = 0 then .error .unsupported
    else .ok (scan.gemBase, scan.ethCfgBase)

/-! ## A list that is parsed -/

theorem length_toBytes (d : AddressSpaceDescriptor) : d.toBytes.length = 46 := by
  unfold AddressSpaceDescriptor.toBytes
  simp only [List.length_append, List.length_cons, List.length_nil, length_leBytes]

theorem leNat_word (w : UInt64) : UInt64.ofNat (leNat (leBytes 8 w.toNat)) = w := by
  rw [leNat_leBytes, Nat.mod_eq_of_lt w.toNat_lt, UInt64.ofNat_toNat]

/-- The first descriptor of a list, as the loop reads it. -/
theorem toBytes_read (d : AddressSpaceDescriptor) (rest : List UInt8) :
    (d.toBytes ++ rest).headD 0 = acpiAddressSpaceDescriptor ∧
    (d.toBytes ++ rest).getD 3 0 = d.resType ∧
    UInt64.ofNat (leNat (((d.toBytes ++ rest).drop 14).take 8)) = d.addrRangeMin ∧
    (d.toBytes ++ rest).drop (leNat (((d.toBytes ++ rest).drop 1).take 2) + 3) = rest := by
  have hmin : ((d.toBytes ++ rest).drop 14).take 8 = leBytes 8 d.addrRangeMin.toNat := by
    have hsplit : d.toBytes ++ rest =
        (acpiAddressSpaceDescriptor :: leBytes 2 43 ++ [d.resType, 0, 0] ++
          leBytes 8 d.addrSpaceGranularity.toNat) ++ (leBytes 8 d.addrRangeMin.toNat ++
        (leBytes 8 d.addrRangeMax.toNat ++ leBytes 8 d.addrTranslationOffset.toNat ++
          leBytes 8 d.addrLen.toNat ++ rest)) := by
      unfold AddressSpaceDescriptor.toBytes
      simp only [List.append_assoc]
    rw [hsplit, List.drop_left' (by simp), List.take_left' (length_leBytes _ _)]
  have hlen : leNat (((d.toBytes ++ rest).drop 1).take 2) = 43 := rfl
  refine ⟨rfl, rfl, ?_, ?_⟩
  · rw [hmin]
    exact leNat_word d.addrRangeMin
  · rw [hlen]
    exact List.drop_left' (length_toBytes d)

/-- The loop, over the descriptors it meets. -/
theorem scanResources_list (scan : ResourceScan) (descs : List AddressSpaceDescriptor)
    (rest : List UInt8) :
    scanResources scan (resourceList descs ++ rest) =
      descs.foldlM (fun scan d => scan.take d.resType d.addrRangeMin) scan := by
  induction descs generalizing scan with
  | nil =>
    have hend : ¬(resourceList [] ++ rest).headD 0 = acpiAddressSpaceDescriptor := by
      show ¬acpiEndTagDescriptor = acpiAddressSpaceDescriptor
      decide
    unfold scanResources
    rw [dif_neg hend]
    rfl
  | cons d descs ih =>
    have hlist : resourceList (d :: descs) ++ rest =
        d.toBytes ++ (resourceList descs ++ rest) := by
      unfold resourceList
      rw [List.flatMap_cons, List.append_assoc, List.append_assoc, List.append_assoc]
    obtain ⟨hhead, htype, hmin, hnext⟩ := toBytes_read d (resourceList descs ++ rest)
    rw [hlist, List.foldlM_cons]
    unfold scanResources
    rw [dif_pos hhead]
    simp only
    rw [htype, hmin, hnext]
    cases scan.take d.resType d.addrRangeMin with
    | error status => rfl
    | ok scan => exact ih scan

theorem take_cases (scan : ResourceScan) (d : AddressSpaceDescriptor) :
    d.resType ≠ acpiAddressSpaceTypeMem ∧
      scan.take d.resType d.addrRangeMin = .error .unsupported ∨
    d.resType = acpiAddressSpaceTypeMem ∧ ∃ next,
      scan.take d.resType d.addrRangeMin = .ok next ∧ next.count = scan.count + 1 := by
  unfold ResourceScan.take
  split
  · rename_i htype
    exact Or.inl ⟨htype, rfl⟩
  · rename_i htype
    exact Or.inr ⟨Decidable.not_not.mp htype, _, rfl, rfl⟩

/-- Whatever is not memory is refused, and all is counted. -/
theorem scan_cases (scan : ResourceScan) (descs : List AddressSpaceDescriptor) :
    descs.foldlM (fun scan d => scan.take d.resType d.addrRangeMin) scan = .error .unsupported ∨
    ∃ last, descs.foldlM (fun scan d => scan.take d.resType d.addrRangeMin) scan = .ok last ∧
      last.count = scan.count + descs.length := by
  induction descs generalizing scan with
  | nil => exact Or.inr ⟨scan, rfl, rfl⟩
  | cons d descs ih =>
    rw [List.foldlM_cons]
    rcases take_cases scan d with ⟨-, herror⟩ | ⟨-, next, hnext, hcount⟩
    · rw [herror]
      exact Or.inl rfl
    · rw [hnext]
      rcases ih next with hrest | ⟨last, hlast, hlength⟩
      · exact Or.inl hrest
      · refine Or.inr ⟨last, hlast, ?_⟩
        rw [hlength, hcount, List.length_cons]
        omega

/-- The scan of two ranges of memory. -/
theorem scan_two {gem ethCfg : AddressSpaceDescriptor}
    (hgem : gem.resType = acpiAddressSpaceTypeMem)
    (hethCfg : ethCfg.resType = acpiAddressSpaceTypeMem) :
    [gem, ethCfg].foldlM (fun scan d => ResourceScan.take scan d.resType d.addrRangeMin)
      ⟨0, 0, 0⟩ = .ok ⟨gem.addrRangeMin, ethCfg.addrRangeMin, 2⟩ := by
  have hfirst : ResourceScan.take ⟨0, 0, 0⟩ gem.resType gem.addrRangeMin =
      .ok ⟨gem.addrRangeMin, 0, 1⟩ := if_neg (not_not.mpr hgem)
  have hsecond : ResourceScan.take ⟨gem.addrRangeMin, 0, 1⟩ ethCfg.resType ethCfg.addrRangeMin =
      .ok ⟨gem.addrRangeMin, ethCfg.addrRangeMin, 2⟩ := if_neg (not_not.mpr hethCfg)
  have htail : [ethCfg].foldlM (fun scan d => ResourceScan.take scan d.resType d.addrRangeMin)
      ⟨gem.addrRangeMin, 0, 1⟩ = .ok ⟨gem.addrRangeMin, ethCfg.addrRangeMin, 2⟩ := by
    rw [List.foldlM_cons, hsecond]
    rfl
  rw [List.foldlM_cons, hfirst]
  exact htail

/-- Only memory is scanned. -/
theorem mem_of_scan {scan last : ResourceScan} {descs : List AddressSpaceDescriptor}
    (h : descs.foldlM (fun scan d => ResourceScan.take scan d.resType d.addrRangeMin) scan =
      .ok last) : ∀ d ∈ descs, d.resType = acpiAddressSpaceTypeMem := by
  induction descs generalizing scan with
  | nil => exact fun d hd => absurd hd List.not_mem_nil
  | cons d descs ih =>
    rw [List.foldlM_cons] at h
    rcases take_cases scan d with ⟨-, herror⟩ | ⟨hmem, next, hnext, -⟩
    · rw [herror] at h
      cases h
    · rw [hnext] at h
      exact List.forall_mem_cons.mpr ⟨hmem, ih h⟩

/-- The resources of the Ethernet controller: two ranges of memory, and neither at 0. -/
inductive GemResources : List AddressSpaceDescriptor → UInt64 → UInt64 → Prop where
  | mk (gem ethCfg : AddressSpaceDescriptor) (hgem : gem.resType = acpiAddressSpaceTypeMem)
    (hethCfg : ethCfg.resType = acpiAddressSpaceTypeMem) (hgemBase : gem.addrRangeMin ≠ 0)
    (hethCfgBase : ethCfg.addrRangeMin ≠ 0) :
    GemResources [gem, ethCfg] gem.addrRangeMin ethCfg.addrRangeMin

/-- **The lists the driver takes**, whatever is behind them, and what it takes from them. -/
theorem parseResources_iff (descs : List AddressSpaceDescriptor) (rest : List UInt8)
    (gemBase ethCfgBase : UInt64) :
    rp1GemParseResources (resourceList descs ++ rest) = .ok (gemBase, ethCfgBase) ↔
      GemResources descs gemBase ethCfgBase := by
  unfold rp1GemParseResources
  rw [scanResources_list]
  constructor
  · intro h
    rcases scan_cases ⟨0, 0, 0⟩ descs with herror | ⟨last, hlast, hlength⟩
    · rw [herror] at h
      cases h
    rw [hlast] at h
    simp only at h
    split at h
    · cases h
    rename_i hfound
    rw [not_or, not_or, Decidable.not_not] at hfound
    obtain ⟨hcount, hgemBase, hethCfgBase⟩ := hfound
    rw [hcount, Nat.zero_add] at hlength
    obtain ⟨gem, ethCfg, rfl⟩ := List.length_eq_two.mp hlength.symm
    have hmem := mem_of_scan hlast
    have hgem := hmem gem List.mem_cons_self
    have hethCfg := hmem ethCfg (List.mem_cons_of_mem _ List.mem_cons_self)
    rw [scan_two hgem hethCfg] at hlast
    cases hlast
    cases h
    exact .mk gem ethCfg hgem hethCfg hgemBase hethCfgBase
  · rintro ⟨gem, ethCfg, hgem, hethCfg, hgemBase, hethCfgBase⟩
    rw [scan_two hgem hethCfg]
    simp [hgemBase, hethCfgBase]

/-- What is refused is refused as not supported, whatever the bytes are. -/
theorem scanResources_error {scan : ResourceScan} {desc : List UInt8} {status : EfiStatus}
    (h : scanResources scan desc = .error status) : status = .unsupported := by
  fun_induction scanResources scan desc with
  | case1 scan desc hdesc resType addrRangeMin error herror =>
    cases h
    unfold ResourceScan.take at herror
    split at herror
    · cases herror
      rfl
    · cases herror
  | case2 scan desc hdesc resType addrRangeMin len next hnext ih => exact ih h
  | case3 scan desc hend => cases h

theorem parseResources_error {resources : List UInt8} {status : EfiStatus}
    (h : rp1GemParseResources resources = .error status) : status = .unsupported := by
  unfold rp1GemParseResources at h
  cases hscan : scanResources ⟨0, 0, 0⟩ resources with
  | error error =>
    rw [hscan] at h
    cases h
    exact scanResources_error hscan
  | ok last =>
    rw [hscan] at h
    simp only at h
    split at h
    · cases h
      rfl
    · cases h

theorem vendorResources_iff (peripheralBase : UInt64) (ranges : List MmioRange)
    (rest : List UInt8) (gemBase ethCfgBase : UInt64) :
    rp1GemParseResources (rp1BusVendorResources peripheralBase ranges ++ rest) =
        .ok (gemBase, ethCfgBase) ↔
      ∃ gem ethCfg, ranges = [gem, ethCfg] ∧ gemBase = peripheralBase + gem.offset ∧
        ethCfgBase = peripheralBase + ethCfg.offset ∧ gemBase ≠ 0 ∧ ethCfgBase ≠ 0 := by
  unfold rp1BusVendorResources
  rw [parseResources_iff]
  constructor
  · intro h
    generalize hdescs : ranges.map (mmioDescriptor peripheralBase) = descs at h
    cases h with
    | mk gemDesc ethCfgDesc hgem hethCfg hgemBase hethCfgBase =>
      obtain ⟨gem, ethCfg, rfl⟩ := List.length_eq_two.mp
        ((List.length_map (mmioDescriptor peripheralBase)).symm.trans (congrArg List.length hdescs))
      cases hdescs
      exact ⟨gem, ethCfg, rfl, rfl, rfl, hgemBase, hethCfgBase⟩
  · rintro ⟨gem, ethCfg, rfl, rfl, rfl, hgemBase, hethCfgBase⟩
    exact .mk (mmioDescriptor peripheralBase gem) (mmioDescriptor peripheralBase ethCfg) rfl rfl
      hgemBase hethCfgBase

/-- **The devices the driver takes.** Of what the bus registers, for a base of the peripherals and
with any ranges, the driver takes the devices with two ranges, and has their addresses; it refuses
the others as not supported. The Ethernet controller is among the first, unless its addresses wrap
to 0, and the I2C controller among the others. -/
theorem registered_taken (peripheralBase : UInt64) (ranges : List MmioRange) (rest : List UInt8) :
    (∀ gemBase ethCfgBase,
      rp1GemParseResources (rp1BusVendorResources peripheralBase ranges ++ rest) =
          .ok (gemBase, ethCfgBase) ↔
        ∃ gem ethCfg, ranges = [gem, ethCfg] ∧ gemBase = peripheralBase + gem.offset ∧
          ethCfgBase = peripheralBase + ethCfg.offset ∧ gemBase ≠ 0 ∧ ethCfgBase ≠ 0) ∧
    (∀ status,
      rp1GemParseResources (rp1BusVendorResources peripheralBase ranges ++ rest) =
        .error status → status = .unsupported) ∧
    (rp1GemParseResources (rp1BusVendorResources peripheralBase gemRanges ++ rest) =
        .ok (peripheralBase + 0x00100000, peripheralBase + 0x00104000) ↔
      peripheralBase + 0x00100000 ≠ 0 ∧ peripheralBase + 0x00104000 ≠ 0) ∧
    rp1GemParseResources (rp1BusVendorResources peripheralBase i2c1Ranges ++ rest) =
      .error .unsupported := by
  refine ⟨vendorResources_iff peripheralBase ranges rest,
    fun status h => parseResources_error h, ?_, ?_⟩
  · rw [vendorResources_iff]
    constructor
    · rintro ⟨gem, ethCfg, -, -, -, hgemBase, hethCfgBase⟩
      exact ⟨hgemBase, hethCfgBase⟩
    · rintro ⟨hgemBase, hethCfgBase⟩
      exact ⟨_, _, rfl, rfl, rfl, hgemBase, hethCfgBase⟩
  · cases hparse :
      rp1GemParseResources (rp1BusVendorResources peripheralBase i2c1Ranges ++ rest) with
    | error status => rw [parseResources_error hparse]
    | ok bases =>
      obtain ⟨gem, ethCfg, htwo, -⟩ :=
        (vendorResources_iff peripheralBase i2c1Ranges rest bases.1 bases.2).mp hparse
      cases htwo

end Rpi5Uefi
