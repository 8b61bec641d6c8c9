import Mathlib.Data.List.GetD
import Mathlib.Data.List.TakeWhile
import Rpi5Uefi.Lib.Bytes

/-!
# Which device tree an OS is given (`FdtDxe`, `BoardRevisionHelperLib`)

A unified kernel image carries its kernel's release in a `.uname` section. The tree for it is a file
`\dtb\<release>\<tree>` of some volume; `\dtb\<tree>` is for whatever boots.

* **`ukiGetUname`**: the release, from the section table of an image in memory.
* **`fdtOsNames`**, **`fdtOsPath`**: the tree names of a board, and where they are looked for.
* **`fdtOsPath_injective`**, **`fdtOsPath_ne`**: a path names one release, or none.
-/

namespace Rpi5Uefi

open Bytes

/-! ## The names of a board's trees -/

/-- `BOARD_VARIANT_FROM_REVISION`. -/
def boardVariantFromRevision : Nat := 2 ^ 64 - 1

def rpiType (revisionCode : UInt32) : Nat := ((revisionCode >>> 4) &&& 0xFF).toNat

def rpiRevision (revisionCode : UInt32) : Nat := (revisionCode &&& 0x0F).toNat

/-- `mFdtNamesRpi5B`: C0 silicon, D0 silicon. -/
def fdtNamesRpi5B : List String := ["bcm2712-rpi-5-b.dtb", "bcm2712-d-rpi-5-b.dtb"]

/-- `FdtNameByVariant`: an entry of a list that starts with the model's default. -/
def fdtNameByVariant (names : List String) (revisionCode : UInt32) (variant : Nat) : String :=
  let variant := if variant = boardVariantFromRevision then rpiRevision revisionCode else variant
  names.getD variant (names.headD "")

/-- `BoardRevisionGetFdtName`. -/
def boardRevisionGetFdtName (revisionCode : UInt32) (variant : Nat) : Option String :=
  -- old-scheme codes have bit 23 clear
  if revisionCode = 0 ∨ revisionCode &&& 0x800000 = 0 then none
  else
    match rpiType revisionCode with
    | 0x00 => some "bcm2835-rpi-a.dtb"
    | 0x01 => some "bcm2835-rpi-b.dtb"
    | 0x02 => some "bcm2835-rpi-a-plus.dtb"
    | 0x03 => some "bcm2835-rpi-b-plus.dtb"
    | 0x04 => some "bcm2836-rpi-2-b.dtb"
    | 0x06 => some "bcm2835-rpi-cm.dtb"
    | 0x08 => some "bcm2837-rpi-3-b.dtb"
    | 0x09 => some "bcm2835-rpi-zero.dtb"
    | 0x0A => some "bcm2837-rpi-cm3.dtb"
    | 0x0C => some "bcm2835-rpi-zero-w.dtb"
    | 0x0D => some "bcm2837-rpi-3-b-plus.dtb"
    | 0x0E => some "bcm2837-rpi-3-a-plus.dtb"
    | 0x10 => some "bcm2837-rpi-cm3.dtb"
    | 0x11 => some "bcm2711-rpi-4-b.dtb"
    | 0x12 => some "bcm2837-rpi-zero-2-w.dtb"
    | 0x13 => some "bcm2711-rpi-400.dtb"
    | 0x14 => some "bcm2711-rpi-cm4.dtb"
    | 0x17 => some (fdtNameByVariant fdtNamesRpi5B revisionCode variant)
    | 0x18 => some "bcm2712-rpi-cm5-cm5io.dtb"
    | 0x19 => some "bcm2712-rpi-500.dtb"
    | 0x1A => some "bcm2712-rpi-cm5l-cm5io.dtb"
    | _ => none

/-- `mBoardRevision` and `mSocVariant`. -/
structure FdtBoard where
  revision : UInt32
  socVariant : Nat
  deriving DecidableEq, Repr

def fdtOsLeafFallback : String := "bcm2712-rpi-5-b.dtb"

/-- `Names` of `LoadFdtForBoard`: the board's own tree, and the fallback where it is another. -/
def fdtOsNames (board : FdtBoard) : List String :=
  match boardRevisionGetFdtName board.revision board.socVariant with
  | none => [fdtOsLeafFallback]
  | some name => if name ≠ fdtOsLeafFallback then [name, fdtOsLeafFallback] else [name]

/-! ## The release of a unified kernel image -/

/-- `EFI_LOADED_IMAGE_PROTOCOL`, as far as it is read. -/
structure LoadedImage where
  imageBase : Option Mem
  imageSize : Nat

def sizeofNtHeaders64 : Nat := 264

def sizeofSectionHeader : Nat := 40

/-- `Padded`. -/
def peSectionName (name : String) : List UInt8 :=
  (ascii name).take 8 ++ List.replicate (8 - (ascii name).length) 0

/-- The walk over the section table: `remaining` headers from `offset`. -/
def peFindSection (image : Mem) (imageSize : Nat) (padded : List UInt8) :
    Nat → Nat → Option (Nat × Nat)
  | 0, _ => none
  | remaining + 1, offset =>
    if offset > imageSize - sizeofSectionHeader then none
    else if image.slice offset 8 ≠ padded then
      peFindSection image imageSize padded remaining (offset + sizeofSectionHeader)
    else
      let virtualSize := leNat (image.slice (offset + 8) 4)
      let virtualAddress := leNat (image.slice (offset + 12) 4)
      if virtualSize = 0 ∨ virtualAddress > imageSize ∨
          virtualSize > imageSize - virtualAddress then
        none
      else some (virtualAddress, virtualSize)

/-- `PeLocateSection`: where the section is, and its size. -/
def peLocateSection (image : LoadedImage) (name : String) : Option (Nat × Nat) :=
  match image.imageBase with
  | none => none
  | some base =>
    if image.imageSize < sizeofNtHeaders64 then none
    else
      -- a DOS header puts the PE header at e_lfanew
      let offset := if base.slice 0 2 = ascii "MZ" then leNat (base.slice 0x3C 4) else 0
      if offset > image.imageSize - sizeofNtHeaders64 then none
      else if base.slice offset 4 ≠ ascii "PE" ++ [0, 0] then none
      else
        let numberOfSections := leNat (base.slice (offset + 6) 2)
        let sizeOfOptionalHeader := leNat (base.slice (offset + 20) 2)
        peFindSection base image.imageSize (peSectionName name) numberOfSections
          (offset + 24 + sizeOfOptionalHeader)

def fdtOsUnameMax : Nat := 64

/-- The characters of a kernel release. -/
def isReleaseChar (c : UInt8) : Bool :=
  decide (0x30 ≤ c ∧ c ≤ 0x39 ∨ 0x41 ≤ c ∧ c ≤ 0x5A ∨ 0x61 ≤ c ∧ c ≤ 0x7A ∨
    c = 0x2E ∨ c = 0x2D ∨ c = 0x5F ∨ c = 0x2B)

/-- `UkiGetUname`. -/
def ukiGetUname (image : LoadedImage) : Option (List UInt8) :=
  match image.imageBase, peLocateSection image ".linux", peLocateSection image ".uname" with
  | some base, some _, some (address, size) =>
    let uname := (base.slice address (min size fdtOsUnameMax)).takeWhile isReleaseChar
    if uname = [] then none else some uname
  | _, _, _ => none

/-! ## Paths -/

def fdtOsLeafMax : Nat := 32

/-- The path of a tree, printed into `Path` with room for its terminator. -/
def fdtOsPath (uname : Option (List UInt8)) (leaf : String) : List UInt8 :=
  let path := match uname with
    | some uname => ascii "\\dtb\\" ++ uname ++ ascii "\\" ++ ascii leaf
    | none => ascii "\\dtb\\" ++ ascii leaf
  path.take (fdtOsUnameMax + fdtOsLeafMax + 7)

/-- A path component that is not cut off. -/
structure Component (max : Nat) (name : List UInt8) : Prop where
  noSeparator : 0x5C ∉ name
  fits : name.length ≤ max

theorem fdtNameByVariant_mem {names : List String} (hnames : names ≠ []) (revisionCode : UInt32)
    (variant : Nat) : fdtNameByVariant names revisionCode variant ∈ names := by
  unfold fdtNameByVariant
  simp only
  generalize (if variant = boardVariantFromRevision then rpiRevision revisionCode else variant) = v
  by_cases hv : v < names.length
  · rw [List.getD_eq_getElem _ _ hv]
    exact List.getElem_mem hv
  · rw [List.getD_eq_default _ _ (Nat.le_of_not_lt hv)]
    cases names with
    | nil => exact absurd rfl hnames
    | cons name names => exact List.mem_cons_self

/-- The names of all boards' trees. -/
def fdtNames : List String :=
  fdtNamesRpi5B ++ ["bcm2835-rpi-a.dtb", "bcm2835-rpi-b.dtb", "bcm2835-rpi-a-plus.dtb",
    "bcm2835-rpi-b-plus.dtb", "bcm2836-rpi-2-b.dtb", "bcm2835-rpi-cm.dtb", "bcm2837-rpi-3-b.dtb",
    "bcm2835-rpi-zero.dtb", "bcm2837-rpi-cm3.dtb", "bcm2835-rpi-zero-w.dtb",
    "bcm2837-rpi-3-b-plus.dtb", "bcm2837-rpi-3-a-plus.dtb", "bcm2711-rpi-4-b.dtb",
    "bcm2837-rpi-zero-2-w.dtb", "bcm2711-rpi-400.dtb", "bcm2711-rpi-cm4.dtb",
    "bcm2712-rpi-cm5-cm5io.dtb", "bcm2712-rpi-500.dtb", "bcm2712-rpi-cm5l-cm5io.dtb"]

theorem boardRevisionGetFdtName_mem {name : String} {revision : UInt32} {variant : Nat}
    (h : boardRevisionGetFdtName revision variant = some name) : name ∈ fdtNames := by
  unfold boardRevisionGetFdtName at h
  split at h
  · cases h
  split at h
  case h_18 =>
    cases h
    exact List.mem_append_left _ (fdtNameByVariant_mem (by decide) _ _)
  all_goals
    cases h
    try decide

/-- The trees of a board are of the list. -/
theorem fdtOsNames_mem {board : FdtBoard} {leaf : String} (h : leaf ∈ fdtOsNames board) :
    leaf ∈ fdtNames := by
  unfold fdtOsNames at h
  cases hname : boardRevisionGetFdtName board.revision board.socVariant with
  | none =>
    rw [hname] at h
    rw [List.mem_singleton.mp h]
    decide
  | some name =>
    have hboard := boardRevisionGetFdtName_mem hname
    rw [hname] at h
    simp only at h
    split at h
    · rcases List.mem_cons.mp h with rfl | hlast
      · exact hboard
      · rw [List.mem_singleton.mp hlast]
        decide
    · rw [List.mem_singleton.mp h]
      exact hboard

/-- The names of a board's trees are components, and there is one. -/
theorem fdtOsNames_component {board : FdtBoard} {leaf : String} (h : leaf ∈ fdtOsNames board) :
    Component fdtOsLeafMax (ascii leaf) := by
  have hall : ∀ name ∈ fdtNames, 0x5C ∉ ascii name ∧ (ascii name).length ≤ fdtOsLeafMax := by
    decide +kernel
  obtain ⟨hseparator, hfits⟩ := hall leaf (fdtOsNames_mem h)
  exact ⟨hseparator, hfits⟩

theorem ukiGetUname_component {image : LoadedImage} {uname : List UInt8}
    (h : ukiGetUname image = some uname) : Component fdtOsUnameMax uname := by
  unfold ukiGetUname at h
  split at h
  case h_2 => cases h
  rename_i base _ address size _ _ _
  simp only at h
  split at h
  · cases h
  cases h
  refine ⟨fun hmem => ?_, ?_⟩
  · have hlegal := List.mem_takeWhile_imp hmem
    revert hlegal
    decide
  · have hprefix := (List.takeWhile_prefix (p := isReleaseChar)
      (l := base.slice address (min size fdtOsUnameMax))).length_le
    rw [Mem.length_slice] at hprefix
    exact Nat.le_trans hprefix (Nat.min_le_right _ _)

/-- A path of whole components is not cut off. -/
theorem fdtOsPath_some {uname : List UInt8} {leaf : String} (huname : Component fdtOsUnameMax uname)
    (hleaf : Component fdtOsLeafMax (ascii leaf)) :
    fdtOsPath (some uname) leaf = ascii "\\dtb\\" ++ (uname ++ 0x5C :: ascii leaf) := by
  have h1 := huname.fits
  have h2 := hleaf.fits
  unfold fdtOsPath
  simp only
  rw [List.take_of_length_le]
  · simp only [List.append_assoc]
    rfl
  · have hseparator : (ascii "\\").length = 1 := rfl
    have hdtb : (ascii "\\dtb\\").length = 5 := rfl
    simp only [List.length_append, fdtOsUnameMax, fdtOsLeafMax] at *
    omega

theorem fdtOsPath_none {leaf : String} (hleaf : Component fdtOsLeafMax (ascii leaf)) :
    fdtOsPath none leaf = ascii "\\dtb\\" ++ ascii leaf := by
  have h2 := hleaf.fits
  unfold fdtOsPath
  simp only
  rw [List.take_of_length_le]
  have hdtb : (ascii "\\dtb\\").length = 5 := rfl
  simp only [List.length_append, fdtOsUnameMax, fdtOsLeafMax] at *
  omega

/-- **A keyed path names its release.** -/
theorem fdtOsPath_injective {uname uname' : List UInt8} {leaf leaf' : String}
    (huname : Component fdtOsUnameMax uname) (huname' : Component fdtOsUnameMax uname')
    (hleaf : Component fdtOsLeafMax (ascii leaf)) (hleaf' : Component fdtOsLeafMax (ascii leaf'))
    (h : fdtOsPath (some uname) leaf = fdtOsPath (some uname') leaf') : uname = uname' := by
  rw [fdtOsPath_some huname hleaf, fdtOsPath_some huname' hleaf', List.append_cancel_left_eq] at h
  have htake (name tail : List UInt8) (hname : 0x5C ∉ name) :
      (name ++ 0x5C :: tail).takeWhile (· ≠ 0x5C) = name := by
    rw [List.takeWhile_append_of_pos, List.takeWhile_cons_of_neg (by decide), List.append_nil]
    intro c hc
    exact decide_eq_true fun heq => hname (heq ▸ hc)
  rw [← htake uname _ huname.noSeparator, h, htake uname' _ huname'.noSeparator]

/-- **A keyed path is not an unkeyed one.** -/
theorem fdtOsPath_ne {uname : List UInt8} {leaf leaf' : String}
    (huname : Component fdtOsUnameMax uname) (hleaf : Component fdtOsLeafMax (ascii leaf))
    (hleaf' : Component fdtOsLeafMax (ascii leaf')) :
    fdtOsPath (some uname) leaf ≠ fdtOsPath none leaf' := by
  intro h
  rw [fdtOsPath_some huname hleaf, fdtOsPath_none hleaf', List.append_cancel_left_eq] at h
  refine hleaf'.noSeparator ?_
  rw [← h]
  exact List.mem_append_right _ List.mem_cons_self

end Rpi5Uefi
