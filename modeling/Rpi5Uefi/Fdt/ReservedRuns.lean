import Rpi5Uefi.Fdt.Reserve
import Rpi5Uefi.Lib.Ledger

/-!
# The runs of pages that `ReserveFdtMemory` keeps

A call of `AllocatePages` for a region takes a run of pages, and nothing in the driver gives it
back: a tree that is replaced, or whose installation fails, leaves its reservations behind.

* **`reservedRuns`**: the runs in the order in which they are taken.
* **`freePages_reservedRuns`**: they are what the memory map loses.
* **`fresh_reservedRuns`**: they are apart from each other and from all that is not free.
* **`reservedRuns_eq_nil`**: when there are none.
-/

namespace Rpi5Uefi

/-! ## Resources -/

/-- A file handle, a pool buffer, or a run of pages by its address and count. -/
inductive FdtResource where
  | handle (id : Nat)
  | pool (address : Nat)
  | pages (address count : Nat)
  deriving DecidableEq, Repr

/-- Two resources that the firmware can have handed out at once: runs of pages do not overlap. -/
def FdtResource.Apart (r q : FdtResource) : Prop :=
  r ≠ q ∧
    match r, q with
    | .pages r m, .pages q n => r + m * efiPageSize ≤ q ∨ q + n * efiPageSize ≤ r
    | _, _ => True

instance : DecidableRel FdtResource.Apart := fun r q => by
  unfold FdtResource.Apart
  cases r <;> cases q <;> exact inferInstance

theorem FdtResource.not_apart_self (r : FdtResource) : ¬r.Apart r :=
  fun h => h.1 rfl

/-! ## The runs -/

/-- The call for a region takes pages: they are there, and all are free. -/
def TakesPages (map : MemoryMap) (region : Nat × Nat) : Prop :=
  region.2 ≠ 0 ∧ 0 < (reserveRange region.1 region.2).2 ∧
    ∀ i < (reserveRange region.1 region.2).2,
      map.free ((reserveRange region.1 region.2).1 + i) = true

instance (map : MemoryMap) (region : Nat × Nat) : Decidable (TakesPages map region) := by
  unfold TakesPages
  exact inferInstance

/-- The pages that a region's call takes. -/
def regionRun (region : Nat × Nat) : FdtResource :=
  .pages ((reserveRange region.1 region.2).1 * efiPageSize) (reserveRange region.1 region.2).2

/-- What the calls for some regions take, in turn. -/
def reservedRuns (map : MemoryMap) : List (Nat × Nat) → List FdtResource
  | [] => []
  | region :: regions =>
    let runs := reservedRuns (reserveFdtPages map region.1 region.2) regions
    if TakesPages map region then regionRun region :: runs else runs

/-- The pages of a run. -/
def FdtResource.pageSet : FdtResource → Set Nat
  | .pages address count => Set.Ico (address / efiPageSize) (address / efiPageSize + count)
  | _ => ∅

/-- A run of free pages is apart from some resources. -/
def FreeApart (map : MemoryMap) (held : List FdtResource) : Prop :=
  ∀ page count, 0 < count → (∀ i < count, map.free (page + i) = true) →
    ∀ q ∈ held, (FdtResource.pages (page * efiPageSize) count).Apart q

variable {map map' : MemoryMap} {region : Nat × Nat} {regions : List (Nat × Nat)}
  {held : List FdtResource}

theorem MemoryMap.ext_free (h : map.free = map'.free) : map = map' := by
  cases map
  cases map'
  cases h
  rfl

theorem pageSet_regionRun (region : Nat × Nat) :
    (regionRun region).pageSet = Set.Ico (reserveRange region.1 region.2).1
      ((reserveRange region.1 region.2).1 + (reserveRange region.1 region.2).2) := by
  unfold regionRun FdtResource.pageSet
  simp only
  rw [Nat.mul_div_cancel _ (by decide)]

/-- A region whose call takes nothing leaves the map alone. -/
theorem reserveFdtPages_of_not_takes (h : ¬TakesPages map region) :
    reserveFdtPages map region.1 region.2 = map := by
  unfold reserveFdtPages
  by_cases hsize : region.2 = 0
  · rw [if_pos hsize]
  rw [if_neg hsize]
  unfold MemoryMap.allocatePages
  by_cases hfree : ∀ i < (reserveRange region.1 region.2).2,
      map.free ((reserveRange region.1 region.2).1 + i) = true
  · -- no pages are asked for
    have hcount : (reserveRange region.1 region.2).2 = 0 :=
      Nat.eq_zero_of_not_pos fun hpos => h ⟨hsize, hpos, hfree⟩
    rw [if_pos hfree]
    apply MemoryMap.ext_free
    funext page
    have hnone : ¬(((reserveRange region.1 region.2).1 ≤ page) ∧
        page < (reserveRange region.1 region.2).1 + (reserveRange region.1 region.2).2) := by
      omega
    simp only [← Bool.decide_and, hnone, decide_false, Bool.not_false, Bool.and_true]
  · rw [if_neg hfree]

theorem free_reserveFdtPages (h : TakesPages map region) (page : Nat) :
    (reserveFdtPages map region.1 region.2).free page = true ↔
      map.free page = true ∧ page ∉ (regionRun region).pageSet := by
  rw [pageSet_regionRun]
  unfold reserveFdtPages MemoryMap.allocatePages
  rw [if_neg h.1, if_pos h.2.2]
  simp only [Bool.and_eq_true, Bool.not_eq_true', ← Bool.decide_and, decide_eq_false_iff_not,
    Set.mem_Ico]

theorem reservedRuns_of_takes (h : TakesPages map region) (regions : List (Nat × Nat)) :
    reservedRuns map (region :: regions) =
      regionRun region :: reservedRuns (reserveFdtPages map region.1 region.2) regions :=
  if_pos h

theorem reservedRuns_of_not_takes (h : ¬TakesPages map region) (regions : List (Nat × Nat)) :
    reservedRuns map (region :: regions) = reservedRuns map regions := by
  refine (if_neg h).trans ?_
  rw [reserveFdtPages_of_not_takes h]

/-- **The runs are what the map loses.** -/
theorem freePages_reservedRuns (map : MemoryMap) (fdt : FdtReservations) :
    (reserveFdtMemory map fdt).freePages =
      map.freePages \ {page | ∃ run ∈ reservedRuns map fdt.handled, page ∈ run.pageSet} := by
  rw [reserveFdtMemory_eq]
  generalize fdt.handled = regions
  induction regions generalizing map with
  | nil =>
    ext page
    simp [reservedRuns]
  | cons region regions ih =>
    rw [List.foldl_cons, ih]
    by_cases htakes : TakesPages map region
    · rw [reservedRuns_of_takes htakes]
      ext page
      have hfree := free_reserveFdtPages htakes page
      simp only [MemoryMap.freePages, Set.mem_sdiff, Set.mem_ofPred_eq, hfree, List.mem_cons,
        exists_eq_or_imp, not_or, and_assoc]
    · rw [reservedRuns_of_not_takes htakes, reserveFdtPages_of_not_takes htakes]

/-- **There are no runs** where no region's pages are all free. -/
theorem reservedRuns_eq_nil :
    reservedRuns map regions = [] ↔ ∀ region ∈ regions, ¬TakesPages map region := by
  induction regions with
  | nil => simp [reservedRuns]
  | cons region regions ih =>
    rw [List.forall_mem_cons]
    by_cases htakes : TakesPages map region
    · rw [reservedRuns_of_takes htakes]
      exact iff_of_false (List.cons_ne_nil _ _) fun h => h.1 htakes
    · rw [reservedRuns_of_not_takes htakes, ih]
      exact ⟨fun h => ⟨htakes, h⟩, And.right⟩

/-- Two runs of pages, none of which has a page of the other. -/
theorem pages_apart {page count page' count' : Nat} (hcount : 0 < count)
    (hdisjoint : ∀ i < count, ¬(page' ≤ page + i ∧ page + i < page' + count'))
    (hfirst : ¬(page ≤ page' ∧ page' < page + count)) :
    (FdtResource.pages (page * efiPageSize) count).Apart
      (.pages (page' * efiPageSize) count') := by
  have horder : page + count ≤ page' ∨ page' + count' ≤ page := by
    have h := hdisjoint 0 hcount
    omega
  unfold FdtResource.Apart efiPageSize
  simp only
  refine ⟨fun heq => ?_, by omega⟩
  have haddress := (FdtResource.pages.inj heq).1
  omega

theorem FreeApart.reserve (hfree : FreeApart map held) (htakes : TakesPages map region) :
    FreeApart (reserveFdtPages map region.1 region.2) (regionRun region :: held) := by
  intro page count hcount hpages q hq
  have hleft := fun i hi => (free_reserveFdtPages htakes (page + i)).mp (hpages i hi)
  rcases List.mem_cons.mp hq with rfl | hq
  · simp only [pageSet_regionRun, Set.mem_Ico] at hleft
    refine pages_apart hcount (fun i hi => (hleft i hi).2) fun hfirst => ?_
    -- the first page of the run is one that is left
    have h := (hleft ((reserveRange region.1 region.2).1 - page) (by omega)).2
    have htaken := htakes.2.1
    omega
  · exact hfree page count hcount (fun i hi => (hleft i hi).1) q hq

/-- **The runs can be acquired in turn**, with what is not free held. -/
theorem fresh_reservedRuns (hfree : FreeApart map held) (regions : List (Nat × Nat)) :
    Ledger.Fresh FdtResource.Apart held (reservedRuns map regions) := by
  induction regions generalizing map held with
  | nil => trivial
  | cons region regions ih =>
    by_cases htakes : TakesPages map region
    · rw [reservedRuns_of_takes htakes]
      exact ⟨hfree _ _ htakes.2.1 htakes.2.2, ih (hfree.reserve htakes)⟩
    · rw [reservedRuns_of_not_takes htakes]
      exact ih hfree

end Rpi5Uefi
