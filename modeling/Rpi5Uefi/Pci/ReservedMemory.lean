import Mathlib.Algebra.Group.Nat.Defs
import Mathlib.Order.Bounds.Basic
import Mathlib.Order.CompletePartialOrder
import Mathlib.Order.Interval.Set.Disjoint
import Rpi5Uefi.Efi.Status

/-!
# The memory reserved for 32-bit BARs (`AdjustPciReservedMemory`)

The top GiB below 4 GiB is kept from the memory map until the PCI bridges have their windows. At
ReadyToBoot the driver publishes the range the bridges decode in the ACPI tables, grown to a
preferred size, and gives the RAM behind it back.

* **`getPciMem32TotalRange`**: the range from the lowest base to the highest limit.
* **`adjustPciReservedMemory`**: what is published, and what is given back.
* **`totalRange_cases`**: the loop over the handles, as a least base and a greatest limit.
* **`reclaimSafe_iff`**: with the ACPI tables, what is given back is below 4 GiB and apart from what
  the bridges decode exactly if the windows are in the reserve and the grown range ends there.

Sizes are numbers, with the remainders of the 32-bit and 64-bit arithmetic written out.
-/

namespace Rpi5Uefi

/-! ## Bridges -/

/-- The memory window of a bridge: the low four bits of its registers are hardwired to 0. -/
structure PciMemWindow where
  memoryBase : UInt16
  memoryLimit : UInt16
  reserved : memoryBase &&& 0xF = 0 ∧ memoryLimit &&& 0xF = 0

/-- A handle with a PCI I/O protocol: `bridge` is `none` where the header is that of no bridge. -/
structure PciHandle where
  handleProtocol : EfiStatus
  readHeader : EfiStatus
  bridge : Option PciMemWindow

/-- The registers, shifted to an address. -/
def PciMemWindow.base (w : PciMemWindow) : Nat := w.memoryBase.toNat * 2 ^ 16

def PciMemWindow.limit (w : PciMemWindow) : Nat := w.memoryLimit.toNat * 2 ^ 16

/-- The bridge whose window the loop reads. -/
def PciHandle.window (handle : PciHandle) : Option PciMemWindow :=
  if handle.handleProtocol.isError then none
  else if handle.readHeader.isError then none
  else handle.bridge

/-- One round of the loop, on `MinimumMemoryBase` and `MaximumMemoryLimit`. -/
def totalRangeStep (range : Nat × Nat) (handle : PciHandle) : Nat × Nat :=
  match handle.window with
  | none => range
  | some w =>
    (if range.1 > w.base then w.base else range.1, if range.2 < w.limit then w.limit else range.2)

/-- `GetPciMem32TotalRange`: `handles` is what `LocateHandleBuffer` says. -/
def getPciMem32TotalRange (handles : Except EfiStatus (List PciHandle)) :
    Except EfiStatus (Nat × Nat) :=
  match handles with
  | .error status => .error status
  | .ok handles =>
    let (minimumMemoryBase, maximumMemoryLimit) := handles.foldl totalRangeStep (2 ^ 32 - 1, 0)
    if maximumMemoryLimit = 0 then .error .notFound
    else
      .ok (minimumMemoryBase,
        ((maximumMemoryLimit + 0x100000) % 2 ^ 32 + (2 ^ 32 - minimumMemoryBase)) % 2 ^ 32)

/-! ## The reserve -/

/-- `PCI_RESERVED_MEM32_BASE`. -/
def pciReservedMem32Base : Nat := 0xC0000000

/-- `PCI_RESERVED_MEM32_SIZE`. -/
def pciReservedMem32Size : Nat := 0x40000000

/-- `SIZE_4GB`. -/
def size4GB : Nat := 2 ^ 32

/-- `mAcpiPciMem32Base` and `mAcpiPciMem32Size`, and the range `AddMemorySpace` is called with. -/
structure PciReserve where
  acpiPciMem32Base : Nat
  acpiPciMem32Size : Nat
  reclaimed : Option (Nat × Nat)
  deriving DecidableEq, Repr

/-- Behind `ReclaimMemoryExit`. -/
def reclaimMemory (systemMemorySize base size : Nat) : Option (Nat × Nat) :=
  if systemMemorySize > pciReservedMem32Base ∧ size > 0 then some (base, size) else none

/-- `PciMem32PreferredSize`: the setting is 32 bits wide, and so is the product. -/
def pciMem32PreferredSize (settingMB : UInt32) : Nat := settingMB.toNat * 1024 * 1024 % 2 ^ 32

/-- `AdjustPciReservedMemory`. -/
def adjustPciReservedMemory (isAcpiEnabled : Bool) (systemMemorySize : Nat) (settingMB : UInt32)
    (handles : Except EfiStatus (List PciHandle)) : PciReserve :=
  let whole : PciReserve := ⟨pciReservedMem32Base, 0,
    reclaimMemory systemMemorySize pciReservedMem32Base pciReservedMem32Size⟩
  if !isAcpiEnabled then whole
  else
    let (base, size) := match getPciMem32TotalRange handles with
      | .error _ => (pciReservedMem32Base, 0)
      | .ok range => range
    if base < pciReservedMem32Base ∨ size > pciReservedMem32Size then whole
    else
      let preferred := pciMem32PreferredSize settingMB
      let size := if preferred ≤ pciReservedMem32Size ∧ size < preferred then preferred else size
      if size > 0 then
        let reclaimBase := base + size
        ⟨base, size, reclaimMemory systemMemorySize reclaimBase
          ((size4GB + (2 ^ 64 - reclaimBase)) % 2 ^ 64)⟩
      else { whole with acpiPciMem32Base := base, acpiPciMem32Size := size }

/-! ## What the bridges decode -/

/-- The windows the loop reads. -/
def bridgeWindows (handles : Except EfiStatus (List PciHandle)) : List PciMemWindow :=
  match handles with
  | .error _ => []
  | .ok handles => handles.filterMap PciHandle.window

/-- The addresses a bridge decodes: none where its base is above its limit. -/
def PciMemWindow.aperture (w : PciMemWindow) : Set Nat :=
  if w.memoryBase ≤ w.memoryLimit then Set.Ico w.base (w.limit + 0x100000) else ∅

/-- The window in the ACPI tables, where they are installed. -/
def PciReserve.published (isAcpiEnabled : Bool) (reserve : PciReserve) : Option (Nat × Nat) :=
  if isAcpiEnabled then some (reserve.acpiPciMem32Base, reserve.acpiPciMem32Size) else none

/-- What is given back is RAM of the reserve that nothing behind a bridge shadows, and the published
window has every aperture. -/
structure ReclaimSafe (isAcpiEnabled : Bool) (windows : List PciMemWindow) (reserve : PciReserve) :
    Prop where
  inside : ∀ base size, reserve.reclaimed = some (base, size) →
    pciReservedMem32Base ≤ base ∧ base + size = size4GB
  apart : ∀ base size, reserve.reclaimed = some (base, size) → ∀ w ∈ windows,
    Disjoint (Set.Ico base (base + size)) w.aperture
  apartPublished : ∀ base size, reserve.reclaimed = some (base, size) →
    ∀ published ∈ reserve.published isAcpiEnabled,
      Disjoint (Set.Ico base (base + size)) (Set.Ico published.1 (published.1 + published.2))
  covers : ∀ published ∈ reserve.published isAcpiEnabled, ∀ w ∈ windows,
    w.aperture ⊆ Set.Ico published.1 (published.1 + published.2)

variable {windows : List PciMemWindow} {w : PciMemWindow} {handles : List PciHandle}
  {systemMemorySize : Nat} {settingMB : UInt32}

/-! ## The loop -/

theorem PciMemWindow.base_lt (w : PciMemWindow) : w.base < 2 ^ 32 := by
  have h := w.memoryBase.toNat_lt
  unfold PciMemWindow.base
  omega

/-- A register is a multiple of 16, so a limit leaves room for its last MiB. -/
theorem PciMemWindow.limit_le (w : PciMemWindow) : w.limit + 0x100000 ≤ 2 ^ 32 := by
  have hbits : w.memoryLimit.toNat &&& 0xF = 0 := by
    have h := congrArg UInt16.toNat w.reserved.2
    simpa using h
  have hmod : w.memoryLimit.toNat % 16 = 0 :=
    (Nat.and_two_pow_sub_one_eq_mod w.memoryLimit.toNat 4).symm.trans hbits
  have h := w.memoryLimit.toNat_lt
  unfold PciMemWindow.limit
  omega

theorem PciMemWindow.aperture_of_open (h : w.base ≤ w.limit) :
    w.aperture = Set.Ico w.base (w.limit + 0x100000) := by
  have hle : w.memoryBase ≤ w.memoryLimit := by
    unfold PciMemWindow.base PciMemWindow.limit at h
    exact UInt16.le_iff_toNat_le.mpr (by omega)
  unfold PciMemWindow.aperture
  rw [if_pos hle]

theorem PciMemWindow.aperture_of_closed (h : w.limit < w.base) : w.aperture = ∅ := by
  have hlt : ¬w.memoryBase ≤ w.memoryLimit := by
    unfold PciMemWindow.base PciMemWindow.limit at h
    rw [UInt16.le_iff_toNat_le]
    omega
  unfold PciMemWindow.aperture
  rw [if_neg hlt]

/-- What the loop keeps: its minimum and maximum, against the windows behind it. -/
theorem totalRange_bounds (handles : List PciHandle) (range : Nat × Nat) :
    let result := handles.foldl totalRangeStep range
    (∀ w ∈ handles.filterMap PciHandle.window, result.1 ≤ w.base ∧ w.limit ≤ result.2) ∧
      (result.1 ≤ range.1 ∧ range.2 ≤ result.2) ∧
      (result.1 = range.1 ∨ ∃ w ∈ handles.filterMap PciHandle.window, w.base = result.1) ∧
      (result.2 = range.2 ∨ ∃ w ∈ handles.filterMap PciHandle.window, w.limit = result.2) := by
  induction handles generalizing range with
  | nil => simp
  | cons handle handles ih =>
    simp only [List.foldl_cons]
    obtain ⟨hall, hmono, hleast, hgreatest⟩ := ih (totalRangeStep range handle)
    cases hw : handle.window with
    | none =>
      have hstep : totalRangeStep range handle = range := by
        unfold totalRangeStep
        rw [hw]
      rw [List.filterMap_cons_none hw]
      rw [hstep] at hall hmono hleast hgreatest ⊢
      exact ⟨hall, hmono, hleast, hgreatest⟩
    | some w =>
      have hstep : totalRangeStep range handle =
          (if range.1 > w.base then w.base else range.1,
            if range.2 < w.limit then w.limit else range.2) := by
        unfold totalRangeStep
        rw [hw]
      have hfirst : (totalRangeStep range handle).1 ≤ w.base ∧
          (totalRangeStep range handle).1 ≤ range.1 ∧
          ((totalRangeStep range handle).1 = range.1 ∨
            (totalRangeStep range handle).1 = w.base) := by
        rw [hstep]
        split <;> omega
      have hsecond : w.limit ≤ (totalRangeStep range handle).2 ∧
          range.2 ≤ (totalRangeStep range handle).2 ∧
          ((totalRangeStep range handle).2 = range.2 ∨
            (totalRangeStep range handle).2 = w.limit) := by
        rw [hstep]
        simp only
        split <;> omega
      rw [List.filterMap_cons_some hw]
      refine ⟨?_, by omega, ?_, ?_⟩
      · intro v hv
        rcases List.mem_cons.mp hv with rfl | hv
        · omega
        · exact hall v hv
      · rcases hleast with heq | ⟨v, hv, heq⟩
        · rcases hfirst.2.2 with hold | hnew
          · exact Or.inl (heq.trans hold)
          · exact Or.inr ⟨w, List.mem_cons_self, (heq.trans hnew).symm⟩
        · exact Or.inr ⟨v, List.mem_cons_of_mem _ hv, heq⟩
      · rcases hgreatest with heq | ⟨v, hv, heq⟩
        · rcases hsecond.2.2 with hold | hnew
          · exact Or.inl (heq.trans hold)
          · exact Or.inr ⟨w, List.mem_cons_self, (heq.trans hnew).symm⟩
        · exact Or.inr ⟨v, List.mem_cons_of_mem _ hv, heq⟩

/-- The bases and the limits of the windows. -/
def windowBases (windows : List PciMemWindow) : Set Nat := {b | ∃ w ∈ windows, w.base = b}

def windowLimits (windows : List PciMemWindow) : Set Nat := {l | ∃ w ∈ windows, w.limit = l}

/-- The size of the range from a lowest base to a highest limit, in 32 bits. -/
def rangeSize (lo hi : Nat) : Nat := (hi + 0x100000 + (2 ^ 32 - lo)) % 2 ^ 32

/-- `PciMem32Base` and `PciMem32Size`, with the fallback where the range could not be read. -/
def pciMem32Range (handles : Except EfiStatus (List PciHandle)) : Nat × Nat :=
  match getPciMem32TotalRange handles with
  | .error _ => (pciReservedMem32Base, 0)
  | .ok range => range

theorem pciMem32Range_ok (handles : List PciHandle) :
    pciMem32Range (.ok handles) =
      let range := handles.foldl totalRangeStep (2 ^ 32 - 1, 0)
      if range.2 = 0 then (pciReservedMem32Base, 0) else (range.1, rangeSize range.1 range.2) := by
  unfold pciMem32Range getPciMem32TotalRange rangeSize
  simp only [Nat.mod_add_mod]
  by_cases hzero : (handles.foldl totalRangeStep (2 ^ 32 - 1, 0)).2 = 0
  · rw [if_pos hzero, if_pos hzero]
  · rw [if_neg hzero, if_neg hzero]

/-- **The range of the bridges**: nothing, where every limit is 0, or from the least base to the
greatest limit. -/
theorem totalRange_cases (handles : Except EfiStatus (List PciHandle)) :
    pciMem32Range handles = (pciReservedMem32Base, 0) ∧
        (∀ w ∈ bridgeWindows handles, w.limit = 0) ∨
      ∃ lo hi, IsLeast (windowBases (bridgeWindows handles)) lo ∧
        IsGreatest (windowLimits (bridgeWindows handles)) hi ∧ hi ≠ 0 ∧
        pciMem32Range handles = (lo, rangeSize lo hi) := by
  cases handles with
  | error status => exact Or.inl ⟨rfl, fun w hw => absurd hw List.not_mem_nil⟩
  | ok handles =>
    obtain ⟨hall, -, hleast, hgreatest⟩ := totalRange_bounds handles (2 ^ 32 - 1, 0)
    rw [pciMem32Range_ok]
    show _ ∨ ∃ lo hi, IsLeast (windowBases (handles.filterMap PciHandle.window)) lo ∧
      IsGreatest (windowLimits (handles.filterMap PciHandle.window)) hi ∧ _
    generalize handles.foldl totalRangeStep (2 ^ 32 - 1, 0) = range at *
    by_cases hzero : range.2 = 0
    · rw [if_pos hzero]
      refine Or.inl ⟨rfl, fun w hw => ?_⟩
      have hle := (hall w hw).2
      omega
    · rw [if_neg hzero]
      obtain ⟨w, hw, hlimit⟩ := hgreatest.resolve_left hzero
      -- a base is below 4 GiB, so the minimum is that of a window, not the one the loop starts from
      have hbase : ∃ v ∈ handles.filterMap PciHandle.window, v.base = range.1 := by
        rcases hleast with hstart | hv
        · have hle := (hall w hw).1
          have hlt := w.base_lt
          exact ⟨w, hw, by omega⟩
        · exact hv
      refine Or.inr ⟨range.1, range.2, ⟨hbase, ?_⟩, ⟨⟨w, hw, hlimit⟩, ?_⟩, hzero, rfl⟩
      · rintro _ ⟨v, hv, rfl⟩
        exact (hall v hv).1
      · rintro _ ⟨v, hv, rfl⟩
        exact (hall v hv).2

/-! ## Which settings are safe -/

/-- `PciMem32Size`, grown to the preferred size where that is at most the reserve. -/
def grownSize (settingMB : UInt32) (size : Nat) : Nat :=
  if pciMem32PreferredSize settingMB ≤ pciReservedMem32Size ∧
      size < pciMem32PreferredSize settingMB then
    pciMem32PreferredSize settingMB
  else size

/-- Nothing is decoded. -/
def NoneOpen (windows : List PciMemWindow) : Prop := ∀ w ∈ windows, w.limit < w.base

theorem NoneOpen.aperture (h : NoneOpen windows) (hw : w ∈ windows) : w.aperture = ∅ :=
  PciMemWindow.aperture_of_closed (h w hw)

theorem le_grownSize (settingMB : UInt32) (size : Nat) : size ≤ grownSize settingMB size := by
  unfold grownSize
  split <;> omega

theorem adjustPciReservedMemory_acpi (systemMemorySize : Nat) (settingMB : UInt32)
    (handles : Except EfiStatus (List PciHandle)) :
    adjustPciReservedMemory true systemMemorySize settingMB handles =
      let (base, size) := pciMem32Range handles
      if base < pciReservedMem32Base ∨ size > pciReservedMem32Size then
        ⟨pciReservedMem32Base, 0,
          reclaimMemory systemMemorySize pciReservedMem32Base pciReservedMem32Size⟩
      else if grownSize settingMB size > 0 then
        ⟨base, grownSize settingMB size,
          reclaimMemory systemMemorySize (base + grownSize settingMB size)
            ((size4GB + (2 ^ 64 - (base + grownSize settingMB size))) % 2 ^ 64)⟩
      else
        ⟨base, grownSize settingMB size,
          reclaimMemory systemMemorySize pciReservedMem32Base pciReservedMem32Size⟩ := rfl

theorem reclaimMemory_some {base size base' size' : Nat}
    (h : reclaimMemory systemMemorySize base size = some (base', size')) :
    systemMemorySize > pciReservedMem32Base ∧ base' = base ∧ size' = size := by
  unfold reclaimMemory at h
  split at h
  · rename_i hcond
    cases h
    exact ⟨hcond.1, rfl, rfl⟩
  · cases h

/-- Giving the whole reserve back is safe where nothing is decoded, with an empty window. -/
theorem reclaimSafe_whole (isAcpiEnabled : Bool) {base : Nat} (hopen : NoneOpen windows) :
    ReclaimSafe isAcpiEnabled windows ⟨base, 0,
      reclaimMemory systemMemorySize pciReservedMem32Base pciReservedMem32Size⟩ := by
  have hempty : ∀ published ∈ PciReserve.published isAcpiEnabled ⟨base, 0,
      reclaimMemory systemMemorySize pciReservedMem32Base pciReservedMem32Size⟩,
      published.2 = 0 := by
    intro published h
    unfold PciReserve.published at h
    split at h
    · cases h
      rfl
    · cases h
  refine ⟨?_, ?_, ?_, ?_⟩
  · intro base' size' h
    obtain ⟨-, rfl, rfl⟩ := reclaimMemory_some h
    exact ⟨Nat.le_refl _, rfl⟩
  · intro base' size' h w hw
    rw [hopen.aperture hw]
    exact Set.disjoint_empty _
  · intro base' size' h published hpublished
    rw [hempty published hpublished, Nat.add_zero, Set.Ico_self]
    exact Set.disjoint_empty _
  · intro published hpublished w hw
    rw [hopen.aperture hw]
    exact Set.empty_subset _

/-- Giving back what is behind a published window that has every aperture is safe where the window
ends at 4 GiB at the latest. -/
theorem reclaimSafe_behind {base size : Nat} (hbase : pciReservedMem32Base ≤ base)
    (hend : systemMemorySize > pciReservedMem32Base → base + size ≤ size4GB)
    (hcovers : ∀ w ∈ windows, w.aperture ⊆ Set.Ico base (base + size)) :
    ReclaimSafe true windows ⟨base, size, reclaimMemory systemMemorySize (base + size)
      ((size4GB + (2 ^ 64 - (base + size))) % 2 ^ 64)⟩ := by
  have hapart : ∀ n, Disjoint (Set.Ico (base + size) n) (Set.Ico base (base + size)) := by
    intro n
    rw [Set.Ico_disjoint_Ico]
    omega
  refine ⟨?_, ?_, ?_, ?_⟩
  · intro base' size' h
    obtain ⟨hmemory, rfl, rfl⟩ := reclaimMemory_some h
    have hle := hend hmemory
    unfold size4GB at *
    refine ⟨by omega, ?_⟩
    omega
  · intro base' size' h w hw
    obtain ⟨-, rfl, rfl⟩ := reclaimMemory_some h
    exact (hapart _).mono_right (hcovers w hw)
  · intro base' size' h published hpublished
    obtain ⟨-, rfl, rfl⟩ := reclaimMemory_some h
    cases hpublished
    exact hapart _
  · intro published hpublished
    cases hpublished
    exact hcovers

/-- The range of the bridges, grown, ends at 4 GiB at the latest, where it is within the bounds the
driver checks. -/
def RangeFits (windows : List PciMemWindow) (settingMB : UInt32) : Prop :=
  ∀ lo hi, IsLeast (windowBases windows) lo → IsGreatest (windowLimits windows) hi → hi ≠ 0 →
    pciReservedMem32Base ≤ lo → rangeSize lo hi ≤ pciReservedMem32Size →
      lo + grownSize settingMB (rangeSize lo hi) ≤ size4GB

/-- With the ACPI tables: where a bridge decodes something, all windows are in the reserve, and the
range that is left is not past 4 GiB. -/
def AcpiRangeSafe (windows : List PciMemWindow) (systemMemorySize : Nat) (settingMB : UInt32) :
    Prop :=
  (¬NoneOpen windows → ∀ w ∈ windows, pciReservedMem32Base ≤ w.base) ∧
    (systemMemorySize > pciReservedMem32Base → RangeFits windows settingMB)

theorem grownSize_zero_le (settingMB : UInt32) : grownSize settingMB 0 ≤ pciReservedMem32Size := by
  unfold grownSize pciReservedMem32Size
  split <;> omega

/-- A window published from `base` on is safe only if it has every aperture and ends at 4 GiB. -/
theorem ReclaimSafe.behind {base size : Nat}
    (h : ReclaimSafe true windows ⟨base, size, reclaimMemory systemMemorySize (base + size)
      ((size4GB + (2 ^ 64 - (base + size))) % 2 ^ 64)⟩)
    (hmemory : systemMemorySize > pciReservedMem32Base) (hsize : base + size < 2 ^ 64) :
    base + size ≤ size4GB := by
  by_contra hlt
  -- past 4 GiB the difference wraps, and what is given back has no end
  have hpositive : (size4GB + (2 ^ 64 - (base + size))) % 2 ^ 64 > 0 := by
    unfold size4GB at *
    omega
  have hreclaimed : reclaimMemory systemMemorySize (base + size)
      ((size4GB + (2 ^ 64 - (base + size))) % 2 ^ 64) =
        some (base + size, (size4GB + (2 ^ 64 - (base + size))) % 2 ^ 64) :=
    if_pos ⟨hmemory, hpositive⟩
  have hend := (h.inside _ _ hreclaimed).2
  omega

/-- A window of size 0 covers nothing. -/
theorem ReclaimSafe.noneOpen {base : Nat} {reclaimed : Option (Nat × Nat)}
    (h : ReclaimSafe true windows ⟨base, 0, reclaimed⟩) : NoneOpen windows := by
  intro w hw
  by_contra hopen
  have hsub := h.covers (base, 0) rfl w hw
  rw [PciMemWindow.aperture_of_open (Nat.le_of_not_lt hopen)] at hsub
  have hmem : w.base ∈ Set.Ico base (base + 0) := hsub ⟨Nat.le_refl _, by omega⟩
  exact absurd hmem.2 (Nat.not_lt.mpr hmem.1)

/-- The range of the bridges has the aperture of each of them, where it does not wrap. -/
theorem range_covers {lo hi : Nat} (hleast : IsLeast (windowBases windows) lo)
    (hgreatest : IsGreatest (windowLimits windows) hi) (hw : w ∈ windows) {size : Nat}
    (hsize : rangeSize lo hi ≤ size) (hlo : 0 < lo) : w.aperture ⊆ Set.Ico lo (lo + size) := by
  have hbase : lo ≤ w.base := hleast.2 ⟨w, hw, rfl⟩
  have hlimit : w.limit ≤ hi := hgreatest.2 ⟨w, hw, rfl⟩
  obtain ⟨v, -, rfl⟩ := hgreatest.1
  have hmax := v.limit_le
  rcases Nat.lt_or_ge w.limit w.base with hclosed | hopen
  · rw [PciMemWindow.aperture_of_closed hclosed]
    exact Set.empty_subset _
  · rw [PciMemWindow.aperture_of_open hopen]
    have hexact : rangeSize lo v.limit = v.limit + 0x100000 - lo := by
      unfold rangeSize
      omega
    exact Set.Ico_subset_Ico hbase (by omega)

/-- An open window in the reserve keeps the range within the bounds the driver checks. -/
theorem rangeSize_le_of_open {lo hi : Nat} (hleast : IsLeast (windowBases windows) lo)
    (hgreatest : IsGreatest (windowLimits windows) hi) (hlo : pciReservedMem32Base ≤ lo)
    (hw : w ∈ windows) (hopen : w.base ≤ w.limit) : rangeSize lo hi ≤ pciReservedMem32Size := by
  have hbase : lo ≤ w.base := hleast.2 ⟨w, hw, rfl⟩
  have hlimit : w.limit ≤ hi := hgreatest.2 ⟨w, hw, rfl⟩
  obtain ⟨v, -, rfl⟩ := hgreatest.1
  have hmax := v.limit_le
  unfold rangeSize pciReservedMem32Size pciReservedMem32Base at *
  omega

theorem not_noneOpen_iff : ¬NoneOpen windows ↔ ∃ w ∈ windows, w.base ≤ w.limit := by
  unfold NoneOpen
  push Not
  rfl

/-- What is published is in the reserve. -/
theorem base_le_acpiPciMem32Base (systemMemorySize : Nat) (settingMB : UInt32)
    (handles : Except EfiStatus (List PciHandle)) :
    pciReservedMem32Base ≤
      (adjustPciReservedMemory true systemMemorySize settingMB handles).acpiPciMem32Base := by
  rw [adjustPciReservedMemory_acpi]
  simp only
  split
  · exact Nat.le_refl _
  · split <;> exact Nat.le_of_not_lt fun h => by simp_all

/-- A range out of bounds: the whole reserve is given back. -/
theorem reclaimSafe_rejected {handles : Except EfiStatus (List PciHandle)}
    (hreject : (pciMem32Range handles).1 < pciReservedMem32Base ∨
      (pciMem32Range handles).2 > pciReservedMem32Size) :
    ReclaimSafe true windows (adjustPciReservedMemory true systemMemorySize settingMB handles) ↔
      NoneOpen windows := by
  rw [adjustPciReservedMemory_acpi]
  simp only
  rw [if_pos hreject]
  exact ⟨ReclaimSafe.noneOpen, reclaimSafe_whole true⟩

/-- A range within bounds is published, grown. -/
theorem reclaimSafe_accepted {handles : Except EfiStatus (List PciHandle)} {lo size : Nat}
    (hrange : pciMem32Range handles = (lo, size)) (hlo : pciReservedMem32Base ≤ lo)
    (hlt : lo < 2 ^ 32) (hsize : size ≤ pciReservedMem32Size)
    (hcovers : ∀ w ∈ windows, w.aperture ⊆ Set.Ico lo (lo + grownSize settingMB size)) :
    ReclaimSafe true windows (adjustPciReservedMemory true systemMemorySize settingMB handles) ↔
      (systemMemorySize > pciReservedMem32Base → lo + grownSize settingMB size ≤ size4GB) := by
  have hgrown : grownSize settingMB size ≤ pciReservedMem32Size := by
    unfold grownSize
    split <;> omega
  rw [adjustPciReservedMemory_acpi, hrange]
  simp only
  rw [if_neg (by omega)]
  split
  · rename_i hpositive
    refine ⟨fun h hmemory => h.behind hmemory ?_, fun hend => reclaimSafe_behind hlo hend hcovers⟩
    unfold pciReservedMem32Size at *
    omega
  · rename_i hzero
    have hgrown : grownSize settingMB size = 0 := by omega
    rw [hgrown] at hcovers ⊢
    -- nothing is published, so nothing is decoded
    have hopen : NoneOpen windows := by
      intro w hw
      by_contra hle
      have hsub := hcovers w hw
      rw [PciMemWindow.aperture_of_open (Nat.le_of_not_lt hle)] at hsub
      have hmem : w.base ∈ Set.Ico lo (lo + 0) := hsub ⟨Nat.le_refl _, by omega⟩
      exact absurd hmem.2 (Nat.not_lt.mpr hmem.1)
    refine ⟨fun _ _ => ?_, fun _ => reclaimSafe_whole true hopen⟩
    unfold size4GB
    omega

/-- **Which bridges and settings are safe** with the ACPI tables. -/
theorem reclaimSafe_iff (systemMemorySize : Nat) (settingMB : UInt32)
    (handles : Except EfiStatus (List PciHandle)) :
    ReclaimSafe true (bridgeWindows handles)
        (adjustPciReservedMemory true systemMemorySize settingMB handles) ↔
      AcpiRangeSafe (bridgeWindows handles) systemMemorySize settingMB := by
  unfold AcpiRangeSafe
  rcases totalRange_cases handles with ⟨hrange, hunset⟩ | ⟨lo, hi, hleast, hgreatest, hzero, hrange⟩
  · have hfits : RangeFits (bridgeWindows handles) settingMB := by
      rintro lo _ - ⟨⟨w, hw, rfl⟩, -⟩ hzero
      exact absurd (hunset w hw) hzero
    have hnone : NoneOpen (bridgeWindows handles) ↔
        (¬NoneOpen (bridgeWindows handles) →
          ∀ w ∈ bridgeWindows handles, pciReservedMem32Base ≤ w.base) := by
      refine ⟨fun h hn => absurd h hn, fun h => ?_⟩
      by_contra hopen
      obtain ⟨w, hw, hle⟩ := not_noneOpen_iff.mp hopen
      have hbase := h hopen w hw
      rw [hunset w hw] at hle
      unfold pciReservedMem32Base at hbase
      omega
    rw [← hnone]
    refine ⟨fun h => ⟨?_, fun _ => hfits⟩, fun h => ?_⟩
    · intro w hw
      by_contra hle
      have hsub := h.covers _ rfl w hw
      rw [PciMemWindow.aperture_of_open (Nat.le_of_not_lt hle)] at hsub
      have hmem := hsub ⟨Nat.le_refl _, by omega⟩
      have hbase := base_le_acpiPciMem32Base systemMemorySize settingMB handles
      have hlimit := hunset w hw
      have hlow := hmem.1
      unfold pciReservedMem32Base at hbase
      omega
    · refine (reclaimSafe_accepted hrange (Nat.le_refl _) (by decide) (Nat.zero_le _) ?_).mpr ?_
      · intro w hw
        rw [h.1.aperture hw]
        exact Set.empty_subset _
      · intro _
        have hle := grownSize_zero_le settingMB
        unfold pciReservedMem32Base pciReservedMem32Size size4GB at *
        omega
  · have hfits : RangeFits (bridgeWindows handles) settingMB ↔ (pciReservedMem32Base ≤ lo →
        rangeSize lo hi ≤ pciReservedMem32Size →
          lo + grownSize settingMB (rangeSize lo hi) ≤ size4GB) := by
      refine ⟨fun h => h lo hi hleast hgreatest hzero, fun h lo' hi' hleast' hgreatest' _ => ?_⟩
      rw [hleast'.unique hleast, hgreatest'.unique hgreatest]
      exact h
    by_cases hbounds : pciReservedMem32Base ≤ lo ∧ rangeSize lo hi ≤ pciReservedMem32Size
    · have hlt : lo < 2 ^ 32 := by
        obtain ⟨w, -, rfl⟩ := hleast.1
        exact w.base_lt
      have hall : ∀ w ∈ bridgeWindows handles, pciReservedMem32Base ≤ w.base := fun w hw =>
        hbounds.1.trans (hleast.2 ⟨w, hw, rfl⟩)
      rw [reclaimSafe_accepted hrange hbounds.1 hlt hbounds.2 fun w hw =>
        range_covers hleast hgreatest hw (le_grownSize settingMB _)
          (Nat.lt_of_lt_of_le (by decide) hbounds.1), hfits]
      exact ⟨fun h => ⟨fun _ => hall, fun hmemory _ _ => h hmemory⟩,
        fun h hmemory => h.2 hmemory hbounds.1 hbounds.2⟩
    · rw [reclaimSafe_rejected (by rw [hrange]; simp only; omega)]
      have hvacuous := hfits.mpr fun hlo hsize => absurd ⟨hlo, hsize⟩ hbounds
      refine ⟨fun h => ⟨fun hopen => absurd h hopen, fun _ => hvacuous⟩, fun h => ?_⟩
      by_contra hopen
      obtain ⟨w, hw, hle⟩ := not_noneOpen_iff.mp hopen
      obtain ⟨v, hv, rfl⟩ := hleast.1
      have hlo := h.1 hopen v hv
      exact hbounds ⟨hlo, rangeSize_le_of_open hleast hgreatest hlo hw hle⟩

/-- **What is given back.** Without the ACPI tables it is the whole reserve, and no window is
published. With them it is what is behind the published window, apart from every aperture. -/
theorem adjustPciReservedMemory_safe (systemMemorySize : Nat) (settingMB : UInt32)
    (handles : Except EfiStatus (List PciHandle)) :
    ((adjustPciReservedMemory false systemMemorySize settingMB handles).reclaimed =
        (if systemMemorySize > pciReservedMem32Base then
          some (pciReservedMem32Base, pciReservedMem32Size) else none) ∧
      (adjustPciReservedMemory false systemMemorySize settingMB handles).published false = none) ∧
    (AcpiRangeSafe (bridgeWindows handles) systemMemorySize settingMB →
      ReclaimSafe true (bridgeWindows handles)
        (adjustPciReservedMemory true systemMemorySize settingMB handles)) := by
  refine ⟨⟨?_, rfl⟩, (reclaimSafe_iff systemMemorySize settingMB handles).mpr⟩
  show reclaimMemory systemMemorySize pciReservedMem32Base pciReservedMem32Size = _
  have hsize : pciReservedMem32Size > 0 := by decide
  unfold reclaimMemory
  simp only [hsize, and_true]

/-- One MiB, from the address with this upper half on. -/
def windowAt (upper : UInt16) (h : upper &&& 0xF = 0) : PciMemWindow := ⟨upper, upper, h, h⟩

def bridgeAt (upper : UInt16) (h : upper &&& 0xF = 0) : PciHandle :=
  ⟨.success, .success, some (windowAt upper h)⟩

theorem windowAt_open (upper : UInt16) (h : upper &&& 0xF = 0) :
    (windowAt upper h).base ≤ (windowAt upper h).limit := Nat.le_refl _

theorem adjustPciReservedMemory_safe_bridge :
    ReclaimSafe true (bridgeWindows (.ok [bridgeAt 0xC000 rfl]))
      (adjustPciReservedMemory true (2 ^ 33) 512 (.ok [bridgeAt 0xC000 rfl])) := by
  refine (adjustPciReservedMemory_safe (2 ^ 33) 512 (.ok [bridgeAt 0xC000 rfl])).2 ⟨fun _ => ?_, ?_⟩
  · decide
  · rintro _ lo hi ⟨⟨w, hw, rfl⟩, -⟩ ⟨⟨v, hv, rfl⟩, -⟩ _ _ _
    cases List.mem_singleton.mp hw
    cases List.mem_singleton.mp hv
    decide

/-- Without the ACPI tables the reserve is given back from under the bridge. With them, the range of
a bridge in the last quarter of the reserve grows past 4 GiB, and the size that is left wraps. -/
theorem adjustPciReservedMemory_unsafe :
    ¬ReclaimSafe false (bridgeWindows (.ok [bridgeAt 0xC000 rfl]))
        (adjustPciReservedMemory false (2 ^ 33) 512 (.ok [bridgeAt 0xC000 rfl])) ∧
      ¬ReclaimSafe true (bridgeWindows (.ok [bridgeAt 0xF000 rfl]))
        (adjustPciReservedMemory true (2 ^ 33) 1024 (.ok [bridgeAt 0xF000 rfl])) := by
  constructor
  · intro h
    have hreclaimed : (adjustPciReservedMemory false (2 ^ 33) 512
        (.ok [bridgeAt 0xC000 rfl])).reclaimed = some (0xC0000000, 0x40000000) := by
      decide +kernel
    have hapart := h.apart _ _ hreclaimed (windowAt 0xC000 rfl) List.mem_cons_self
    rw [PciMemWindow.aperture_of_open (windowAt_open 0xC000 rfl)] at hapart
    have hreserve : 0xC0000000 ∈ Set.Ico 0xC0000000 (0xC0000000 + 0x40000000) := by simp
    have haperture := Set.disjoint_left.mp hapart hreserve
    rw [Set.mem_Ico] at haperture
    exact haperture (by decide +kernel)
  · intro h
    have hreclaimed : (adjustPciReservedMemory true (2 ^ 33) 1024
        (.ok [bridgeAt 0xF000 rfl])).reclaimed = some (0x130000000, 2 ^ 64 - 0x30000000) := by
      decide +kernel
    exact absurd (h.inside _ _ hreclaimed).2 (by decide)

end Rpi5Uefi
