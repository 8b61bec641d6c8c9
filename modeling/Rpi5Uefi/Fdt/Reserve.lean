import Rpi5Uefi.Fdt.OsTree
import Rpi5Uefi.Lib.Bytes
import Rpi5Uefi.Lib.Pool

/-!
# The memory a device tree reserves (`ReserveFdtMemory`)

A tree reserves memory in its reservation block and in the children of `/reserved-memory`. The
driver takes the pages of each region from the memory map, one call of `AllocatePages` a region.

* **`readFdtCells`**, **`reserveFdtPages`**, **`reserveFdtMemory`**: the source's own steps.
* **`reserveRange_hull`**: the pages of the call are the page-aligned hull of the region, but for a
  hull as large as the address space.
* **`reservationsHonoured_iff`**: which trees and memory maps the reservations are honoured for.

What the calls into libfdt say of a tree is data (`FdtReservations`). Addresses are numbers, with
the remainders of the 64-bit arithmetic written out.
-/

namespace Rpi5Uefi

open Bytes

/-! ## The memory map -/

/-- Which pages are free. -/
structure MemoryMap where
  free : Nat → Bool
  inAddressSpace : ∀ page, free page = true → page < 2 ^ 52

def MemoryMap.freePages (map : MemoryMap) : Set Nat := {page | map.free page = true}

/-- `AllocatePages` at an address: it takes the range if all of it is free. -/
def MemoryMap.allocatePages (map : MemoryMap) (page count : Nat) : MemoryMap :=
  if ∀ i < count, map.free (page + i) = true then
    ⟨fun p => map.free p && !(decide (page ≤ p) && decide (p < page + count)),
      fun p h => map.inAddressSpace p (Bool.and_eq_true_iff.mp h).1⟩
  else map

/-! ## The tree -/

/-- `/reserved-memory`: its cell counts, or libfdt's error, and the `reg` of each child. -/
structure ReservedMemoryNode where
  addressCells : Int
  sizeCells : Int
  children : List (Option (List UInt8))
  cells_le : addressCells ≤ 4 ∧ sizeCells ≤ 4

/-- What libfdt says of a tree; an entry of the reservation block is `none` where the call is not
zero. -/
structure FdtReservations where
  reserveMap : List (Option (UInt64 × UInt64))
  reservedMemory : Option ReservedMemoryNode

/-- `Fdt32ToCpu (Cells[index])`. -/
def fdtCell (cells : List UInt8) (index : Nat) : Nat := be32 (fun i => cells.getD i 0) (4 * index)

/-- `ReadFdtCells`: the shift leaves the low 32 bits free, so the `|` is a sum. -/
def readFdtCells (cells : List UInt8) : Nat → Nat
  | 0 => 0
  | count + 1 => readFdtCells cells count * 2 ^ 32 % 2 ^ 64 + fdtCell cells count

/-- `ALIGN_VALUE (Value, EFI_PAGE_SIZE)`. -/
def alignPage (value : Nat) : Nat :=
  (value + (efiPageSize - 1)) / efiPageSize * efiPageSize % 2 ^ 64

/-- The first page and the number of pages `ReserveFdtPages` asks for. -/
def reserveRange (base size : Nat) : Nat × Nat :=
  let address := base / efiPageSize * efiPageSize
  let end_ := alignPage ((base + size) % 2 ^ 64)
  (address / efiPageSize, efiSizeToPages ((end_ + (2 ^ 64 - address)) % 2 ^ 64))

/-- `ReserveFdtPages`. -/
def reserveFdtPages (map : MemoryMap) (base size : Nat) : MemoryMap :=
  if size = 0 then map
  else map.allocatePages (reserveRange base size).1 (reserveRange base size).2

/-- One round of the loop over the children. -/
def reserveFdtChild (addressCells sizeCells : Nat) (map : MemoryMap) (reg : Option (List UInt8)) :
    MemoryMap :=
  match reg with
  | none => map
  | some reg =>
    if reg.length < (addressCells + sizeCells) * 4 then map
    else
      reserveFdtPages map (readFdtCells reg addressCells)
        (readFdtCells (reg.drop (4 * addressCells)) sizeCells)

/-- One round of the loop over the reservation block. -/
def reserveFdtEntry (map : MemoryMap) (entry : Option (UInt64 × UInt64)) : MemoryMap :=
  match entry with
  | none => map
  | some (base, size) => reserveFdtPages map base.toNat size.toNat

/-- `ReserveFdtMemory`. -/
def reserveFdtMemory (map : MemoryMap) (fdt : FdtReservations) : MemoryMap :=
  let map := fdt.reserveMap.foldl reserveFdtEntry map
  match fdt.reservedMemory with
  | none => map
  | some node =>
    if node.addressCells < 1 ∨ node.sizeCells < 1 then map
    else
      node.children.foldl
        (reserveFdtChild node.addressCells.toNat node.sizeCells.toNat) map

/-! ## What a tree reserves -/

/-- A number in cells, however many they are. -/
def cellsValue (cells : List UInt8) : Nat → Nat
  | 0 => 0
  | count + 1 => cellsValue cells count * 2 ^ 32 + fdtCell cells count

/-- The (address, size) tuples of a `reg`. -/
def regTuples (addressCells sizeCells : Nat) (reg : List UInt8) : List (Nat × Nat) :=
  (List.range (reg.length / ((addressCells + sizeCells) * 4))).map fun i =>
    let tuple := reg.drop (i * ((addressCells + sizeCells) * 4))
    (cellsValue tuple addressCells, cellsValue (tuple.drop (4 * addressCells)) sizeCells)

/-- The tuples of a child. -/
def ReservedMemoryNode.tuples (node : ReservedMemoryNode) (reg : Option (List UInt8)) :
    List (Nat × Nat) :=
  match reg with
  | none => []
  | some reg =>
    if node.addressCells < 1 ∨ node.sizeCells < 1 then []
    else regTuples node.addressCells.toNat node.sizeCells.toNat reg

/-- The entries of the reservation block. -/
def FdtReservations.entries (fdt : FdtReservations) : List (Nat × Nat) :=
  (fdt.reserveMap.filterMap id).map fun entry => (entry.1.toNat, entry.2.toNat)

/-- Every region of the tree. -/
def FdtReservations.regions (fdt : FdtReservations) : List (Nat × Nat) :=
  fdt.entries ++ (fdt.reservedMemory.elim [] fun node => node.children.flatMap node.tuples)

/-- The regions the driver looks at: of a child, the first tuple, with 64 bits of each number. -/
def FdtReservations.handled (fdt : FdtReservations) : List (Nat × Nat) :=
  fdt.entries ++ (fdt.reservedMemory.elim [] fun node =>
    node.children.filterMap fun reg =>
      (node.tuples reg).head?.map fun region => (region.1 % 2 ^ 64, region.2 % 2 ^ 64))

/-- The pages a region overlaps. -/
def pageHull (region : Nat × Nat) : Set Nat :=
  {page | 0 < region.2 ∧ region.1 < (page + 1) * efiPageSize ∧
    page * efiPageSize < region.1 + region.2}

/-- The pages some region overlaps. -/
def FdtReservations.reservedPages (fdt : FdtReservations) : Set Nat :=
  {page | ∃ region ∈ fdt.regions, page ∈ pageHull region}

/-- The pages the call for a region is about. -/
def rangePages (region : Nat × Nat) : Set Nat :=
  if region.2 = 0 then ∅
  else Set.Ico (reserveRange region.1 region.2).1
    ((reserveRange region.1 region.2).1 + (reserveRange region.1 region.2).2)

/-- The reserved pages are not free, the others as before, and no range is other than its hull. -/
structure ReservationsHonoured (before after : MemoryMap) (fdt : FdtReservations) : Prop where
  pages : Pool.ClaimsExactly before.freePages fdt.reservedPages after.freePages
  hull : ∀ region ∈ fdt.handled, rangePages region = pageHull region

variable {map : MemoryMap} {base size page count : Nat} {region : Nat × Nat}

/-! ## One region -/

theorem fdtCell_lt (cells : List UInt8) (index : Nat) : fdtCell cells index < 2 ^ 32 := by
  have hbyte (i : Nat) : (cells.getD i 0).toNat < 2 ^ 8 := UInt8.toNat_lt _
  have h0 := hbyte (4 * index)
  have h1 := hbyte (4 * index + 1)
  have h2 := hbyte (4 * index + 2)
  have h3 := hbyte (4 * index + 3)
  unfold fdtCell be32
  beta_reduce
  omega

/-- The driver keeps 64 bits of a number. -/
theorem readFdtCells_eq (cells : List UInt8) (count : Nat) :
    readFdtCells cells count = cellsValue cells count % 2 ^ 64 := by
  induction count with
  | zero => rfl
  | succ count ih =>
    have hcell := fdtCell_lt cells count
    show readFdtCells cells count * 2 ^ 32 % 2 ^ 64 + fdtCell cells count =
      (cellsValue cells count * 2 ^ 32 + fdtCell cells count) % 2 ^ 64
    rw [ih]
    omega

theorem pageHull_eq (hsize : 0 < size) :
    pageHull (base, size) =
      Set.Ico (base / efiPageSize) ((base + size + (efiPageSize - 1)) / efiPageSize) := by
  ext page
  unfold pageHull efiPageSize
  simp only [Set.mem_ofPred_eq, Set.mem_Ico]
  omega

/-- The 64-bit arithmetic counts the pages of the hull modulo those of the address space. -/
theorem reserveRange_count (hbase : base < 2 ^ 64) :
    (reserveRange base size).2 =
      (base % efiPageSize + size + (efiPageSize - 1)) / efiPageSize % 2 ^ 52 := by
  unfold reserveRange alignPage efiSizeToPages efiPageSize
  simp only
  have hsplit := Nat.div_add_mod base 4096
  have hoffset : base % 4096 < 4096 := Nat.mod_lt _ (by decide)
  generalize base / 4096 = page at *
  generalize base % 4096 = offset at *
  subst hsplit
  have hround (k : Nat) : (4096 * page + offset + size) % 2 ^ 64 + 2 ^ 64 * k =
      4096 * page + offset + size →
      ((4096 * page + offset + size) % 2 ^ 64 + 4095) / 4096 + 2 ^ 52 * k =
        page + (offset + size + 4095) / 4096 := by omega
  have hwrap := Nat.mod_add_div (4096 * page + offset + size) (2 ^ 64)
  have hcount := hround _ hwrap
  generalize (4096 * page + offset + size) / 2 ^ 64 = k at *
  generalize ((4096 * page + offset + size) % 2 ^ 64 + 4095) / 4096 = end_ at *
  generalize (offset + size + 4095) / 4096 = pages at *
  omega

/-- **The range of a region is its hull** where the hull is not as large as the address space. -/
theorem reserveRange_hull (hbase : base < 2 ^ 64) (hsize : size < 2 ^ 64) :
    rangePages (base, size) = pageHull (base, size) ↔
      base % efiPageSize + size ≤ 2 ^ 64 - efiPageSize := by
  unfold rangePages
  by_cases hzero : size = 0
  · subst hzero
    rw [if_pos rfl]
    refine iff_of_true ?_ (by unfold efiPageSize; omega)
    exact (Set.eq_empty_of_forall_notMem fun page h => absurd h.1 (Nat.lt_irrefl 0)).symm
  · have hfirst : (reserveRange base size).1 = base / efiPageSize := by
      unfold reserveRange efiPageSize
      simp
    rw [if_neg hzero, pageHull_eq (Nat.pos_of_ne_zero hzero), hfirst,
      reserveRange_count hbase]
    have hend : (base + size + (efiPageSize - 1)) / efiPageSize =
        base / efiPageSize + (base % efiPageSize + size + (efiPageSize - 1)) / efiPageSize := by
      unfold efiPageSize
      omega
    rw [hend]
    have hfits : base % efiPageSize + size ≤ 2 ^ 64 - efiPageSize ↔
        (base % efiPageSize + size + (efiPageSize - 1)) / efiPageSize < 2 ^ 52 := by
      unfold efiPageSize
      omega
    rw [hfits]
    generalize (base % efiPageSize + size + (efiPageSize - 1)) / efiPageSize = pages
    constructor
    · intro h
      by_contra hlarge
      -- the page behind the range is in the hull
      have hrange := Nat.mod_lt pages (Nat.two_pow_pos 52)
      have hmem : base / efiPageSize + pages % 2 ^ 52 ∈
          Set.Ico (base / efiPageSize) (base / efiPageSize + pages) := ⟨by omega, by omega⟩
      rw [← h] at hmem
      exact absurd hmem.2 (Nat.lt_irrefl _)
    · intro h
      rw [Nat.mod_eq_of_lt h]

/-! ## The claims on the pages -/

theorem freePages_allocatePages (map : MemoryMap) (page count : Nat) :
    (map.allocatePages page count).freePages =
      Pool.claim map.freePages (Set.Ico page (page + count)) := by
  have hall : (∀ i < count, map.free (page + i) = true) ↔
      Set.Ico page (page + count) ⊆ map.freePages := by
    refine ⟨fun h p hp => ?_, fun h i hi => h ⟨by omega, by omega⟩⟩
    have hpage := h (p - page) (by have h1 := hp.1; have h2 := hp.2; omega)
    rwa [Nat.add_sub_cancel' hp.1] at hpage
  unfold MemoryMap.allocatePages Pool.claim
  by_cases hfree : ∀ i < count, map.free (page + i) = true
  · rw [if_pos hfree, if_pos (hall.mp hfree)]
    ext p
    simp only [MemoryMap.freePages, Set.mem_sdiff, Set.mem_Ico, Set.mem_ofPred_eq, Bool.and_eq_true,
      Bool.not_eq_true', Bool.and_eq_false_iff, decide_eq_false_iff_not]
    refine and_congr_right fun _ => ?_
    omega
  · rw [if_neg hfree, if_neg fun h => hfree (hall.mpr h)]

theorem freePages_reserveFdtPages (map : MemoryMap) (region : Nat × Nat) :
    (reserveFdtPages map region.1 region.2).freePages =
      Pool.claim map.freePages (rangePages region) := by
  unfold reserveFdtPages rangePages
  by_cases hzero : region.2 = 0
  · rw [if_pos hzero, if_pos hzero]
    unfold Pool.claim
    rw [if_pos (Set.empty_subset _), Set.sdiff_empty]
  · rw [if_neg hzero, if_neg hzero]
    exact freePages_allocatePages map _ _

/-- The tuples of a child begin with the one the driver reads, where there is one. -/
theorem reserveFdtChild_eq (node : ReservedMemoryNode)
    (hcells : ¬(node.addressCells < 1 ∨ node.sizeCells < 1)) (map : MemoryMap)
    (reg : Option (List UInt8)) :
    reserveFdtChild node.addressCells.toNat node.sizeCells.toNat map reg =
      (((node.tuples reg).head?.map fun region => (region.1 % 2 ^ 64, region.2 % 2 ^ 64)).elim map
        fun region => reserveFdtPages map region.1 region.2) := by
  cases reg with
  | none => rfl
  | some reg =>
    have hwidth : 0 < (node.addressCells.toNat + node.sizeCells.toNat) * 4 := by omega
    unfold reserveFdtChild ReservedMemoryNode.tuples regTuples
    simp only
    rw [if_neg hcells]
    generalize node.addressCells.toNat = addressCells at *
    generalize node.sizeCells.toNat = sizeCells at *
    by_cases hlength : reg.length < (addressCells + sizeCells) * 4
    · rw [if_pos hlength, Nat.div_eq_of_lt hlength]
      rfl
    · rw [if_neg hlength]
      obtain ⟨n, hn⟩ := Nat.exists_eq_succ_of_ne_zero
        (Nat.div_pos (Nat.le_of_not_lt hlength) hwidth).ne'
      rw [hn, List.range_succ_eq_map, readFdtCells_eq, readFdtCells_eq]
      simp

/-- **The handled regions are reserved**, in their order. -/
theorem reserveFdtMemory_eq (map : MemoryMap) (fdt : FdtReservations) :
    reserveFdtMemory map fdt =
      fdt.handled.foldl (fun map region => reserveFdtPages map region.1 region.2) map := by
  have hentries : fdt.reserveMap.foldl reserveFdtEntry map =
      fdt.entries.foldl (fun map region => reserveFdtPages map region.1 region.2) map := by
    unfold FdtReservations.entries
    rw [List.foldl_map, List.foldl_filterMap]
    congr 1
    funext map entry
    cases entry <;> rfl
  unfold reserveFdtMemory FdtReservations.handled
  rw [List.foldl_append, ← hentries]
  simp only
  generalize fdt.reserveMap.foldl reserveFdtEntry map = map
  cases fdt.reservedMemory with
  | none => rfl
  | some node =>
    simp only [Option.elim_some]
    by_cases hcells : node.addressCells < 1 ∨ node.sizeCells < 1
    · rw [if_pos hcells]
      have hnone (reg : Option (List UInt8)) : node.tuples reg = [] := by
        unfold ReservedMemoryNode.tuples
        cases reg with
        | none => rfl
        | some reg => exact if_pos hcells
      rw [List.filterMap_eq_nil_iff.mpr fun reg _ => by rw [hnone]; rfl]
      rfl
    · rw [if_neg hcells, List.foldl_filterMap]
      congr 1
      funext map reg
      rw [reserveFdtChild_eq node hcells]
      cases (node.tuples reg).head? <;> rfl

/-- **The claims are those of the handled regions**, in their order. -/
theorem freePages_reserveFdtMemory (map : MemoryMap) (fdt : FdtReservations) :
    (reserveFdtMemory map fdt).freePages =
      Pool.claimAll map.freePages (fdt.handled.map rangePages) := by
  rw [reserveFdtMemory_eq]
  generalize fdt.handled = regions
  induction regions generalizing map with
  | nil => rfl
  | cons region regions ih =>
    rw [List.foldl_cons, ih, freePages_reserveFdtPages]
    rfl

/-! ## When the reservations are honoured -/

theorem FdtReservations.handled_lt {fdt : FdtReservations} (h : region ∈ fdt.handled) :
    region.1 < 2 ^ 64 ∧ region.2 < 2 ^ 64 := by
  rcases List.mem_append.mp h with h | h
  · obtain ⟨entry, -, rfl⟩ := List.mem_map.mp h
    exact ⟨entry.1.toNat_lt, entry.2.toNat_lt⟩
  · cases hnode : fdt.reservedMemory with
    | none =>
      rw [hnode] at h
      cases h
    | some node =>
      rw [hnode] at h
      obtain ⟨reg, -, hreg⟩ := List.mem_filterMap.mp h
      obtain ⟨tuple, -, rfl⟩ := Option.map_eq_some_iff.mp hreg
      exact ⟨Nat.mod_lt _ (by decide), Nat.mod_lt _ (by decide)⟩

/-- The hull of the region is not as large as the address space. -/
def HullFits (region : Nat × Nat) : Prop :=
  region.1 % efiPageSize + region.2 ≤ 2 ^ 64 - efiPageSize

theorem rangePages_eq_iff {fdt : FdtReservations} :
    (∀ region ∈ fdt.handled, rangePages region = pageHull region) ↔
      ∀ region ∈ fdt.handled, HullFits region := by
  refine forall₂_congr fun region hregion => ?_
  obtain ⟨hbase, hsize⟩ := FdtReservations.handled_lt hregion
  exact reserveRange_hull hbase hsize

/-- **When the reservations are honoured.** No hull is as large as the address space, and the free
pages that are reserved are those of the hulls that are taken: the ones that are all free beforehand
and meet none taken earlier. -/
theorem reservationsHonoured_iff (map : MemoryMap) (fdt : FdtReservations) :
    ReservationsHonoured map (reserveFdtMemory map fdt) fdt ↔
      (∀ region ∈ fdt.handled, HullFits region) ∧
        ∀ page ∈ map.freePages, page ∈ fdt.reservedPages ↔
          ∃ taken ∈ Pool.takenClaims map.freePages (fdt.handled.map pageHull), page ∈ taken := by
  have hclaims (hfits : ∀ region ∈ fdt.handled, rangePages region = pageHull region) :
      Pool.ClaimsExactly map.freePages fdt.reservedPages (reserveFdtMemory map fdt).freePages ↔
        ∀ page ∈ map.freePages, page ∈ fdt.reservedPages ↔
          ∃ taken ∈ Pool.takenClaims map.freePages (fdt.handled.map pageHull), page ∈ taken := by
    rw [freePages_reserveFdtMemory, List.map_congr_left hfits, Pool.claimsExactly_iff]
  rw [← rangePages_eq_iff]
  exact ⟨fun h => ⟨h.hull, (hclaims h.hull).mp h.pages⟩, fun h => ⟨(hclaims h.1).mpr h.2, h.1⟩⟩

/-- One tuple a child, numbers of 64 bits, and hulls that are apart and each all free or not free at
all: the tree the driver is written for. -/
theorem reservationsHonoured_of_apart {fdt : FdtReservations}
    (hregions : fdt.regions = fdt.handled) (hfits : ∀ region ∈ fdt.handled, HullFits region)
    (hapart : (fdt.handled.map pageHull).Pairwise Disjoint)
    (hwhole : ∀ region ∈ fdt.handled,
      pageHull region ⊆ map.freePages ∨ Disjoint (pageHull region) map.freePages) :
    ReservationsHonoured map (reserveFdtMemory map fdt) fdt := by
  have hrange := rangePages_eq_iff.mpr hfits
  refine ⟨?_, hrange⟩
  rw [freePages_reserveFdtMemory, List.map_congr_left hrange]
  have hwanted : fdt.reservedPages = {page | ∃ c ∈ fdt.handled.map pageHull, page ∈ c} := by
    ext page
    simp [FdtReservations.reservedPages, hregions]
  rw [hwanted]
  refine Pool.claimsExactly_of_apart hapart fun c hc => ?_
  obtain ⟨region, hregion, rfl⟩ := List.mem_map.mp hc
  exact hwhole region hregion

/-- The first 16 pages are free. -/
def sixteenPages : MemoryMap :=
  ⟨fun page => decide (page < 16), fun page h => by
    have hlt := of_decide_eq_true h
    omega⟩

/-- A child with a page at 0x1000 and one at 0x3000. -/
def twoTuples : FdtReservations :=
  ⟨[], some ⟨1, 1, [some (be32Bytes 0x1000 ++ be32Bytes 0x1000 ++ be32Bytes 0x3000 ++
    be32Bytes 0x1000)], by decide⟩⟩

/-- The page of the second tuple stays free. -/
theorem reserveFdtMemory_twoTuples :
    ¬ReservationsHonoured sixteenPages (reserveFdtMemory sixteenPages twoTuples) twoTuples := by
  intro h
  have hreserved : 3 ∈ twoTuples.reservedPages := by
    have hregion : (0x3000, 0x1000) ∈ twoTuples.regions := by decide
    exact ⟨_, hregion, by decide, by decide, by decide⟩
  have hfree : (reserveFdtMemory sixteenPages twoTuples).free 3 = true := by decide +kernel
  exact h.pages.gone 3 hreserved hfree

end Rpi5Uefi
