import Rpi5Uefi.Fdt.KernelTree
import Rpi5Uefi.Lib.Frame
import Rpi5Uefi.Lib.Lines

/-!
# Reading a release out of an untrusted image

The headers of an image say where its section table is, how long it is and where each section is,
and all of that may be made up.

* **`peLocateSectionReads`**: `PeLocateSection` with the reads it makes written down.
* **`peLocateSection_inside`**: the reads are in the image, and so is the section that is found.
* **`unameRead`**: the release is what stands in front of the first character no release has, cut
  off at its length.
* **`resolvePath_fdtOsPath`**: the path is a file one directory below `\dtb`, for every release but
  `.` and `..`.
-/

namespace Rpi5Uefi

open Bytes Frame Lines

/-! ## The reads -/

/-- A program that reads an image: offset and length of the reads so far. -/
abbrev ImageReader := EStateM EfiStatus (List (Nat × Nat))

def readImage (image : Mem) (offset length : Nat) : ImageReader (List UInt8) :=
  fun reads => .ok (image.slice offset length) ((offset, length) :: reads)

/-- `peFindSection`, with its reads. -/
def peFindSectionReads (image : Mem) (imageSize : Nat) (padded : List UInt8) :
    Nat → Nat → ImageReader (Nat × Nat)
  | 0, _ => throw .notFound
  | remaining + 1, offset =>
    if offset > imageSize - sizeofSectionHeader then throw .notFound
    else do
      let name ← readImage image offset 8
      if name ≠ padded then
        peFindSectionReads image imageSize padded remaining (offset + sizeofSectionHeader)
      else do
        let virtualSize ← readImage image (offset + 8) 4
        let virtualAddress ← readImage image (offset + 12) 4
        if leNat virtualSize = 0 ∨ leNat virtualAddress > imageSize ∨
            leNat virtualSize > imageSize - leNat virtualAddress then
          throw .notFound
        else pure (leNat virtualAddress, leNat virtualSize)

/-- Behind the PE header's offset. -/
def peHeaderReads (image : Mem) (imageSize : Nat) (name : String) (offset : Nat) :
    ImageReader (Nat × Nat) :=
  if offset > imageSize - sizeofNtHeaders64 then throw .notFound
  else do
    let signature ← readImage image offset 4
    if signature ≠ ascii "PE" ++ [0, 0] then throw .notFound
    else do
      let sizeOfOptionalHeader ← readImage image (offset + 20) 2
      let numberOfSections ← readImage image (offset + 6) 2
      peFindSectionReads image imageSize (peSectionName name) (leNat numberOfSections)
        (offset + 24 + leNat sizeOfOptionalHeader)

/-- `PeLocateSection`, with its reads. -/
def peLocateSectionReads (image : LoadedImage) (name : String) : ImageReader (Nat × Nat) :=
  match image.imageBase with
  | none => throw .notFound
  | some base =>
    if image.imageSize < sizeofNtHeaders64 then throw .notFound
    else do
      let magic ← readImage base 0 2
      if magic = ascii "MZ" then do
        let lfanew ← readImage base 0x3C 4
        peHeaderReads base image.imageSize name (leNat lfanew)
      else peHeaderReads base image.imageSize name 0

variable {image : Mem} {imageSize offset length : Nat}

/-- What is read anew is inside the image. -/
def ReadsInside (imageSize : Nat) (reads reads' : List (Nat × Nat)) : Prop :=
  ∀ r ∈ reads', r ∈ reads ∨ r.1 + r.2 ≤ imageSize

instance (imageSize : Nat) : Std.Refl (ReadsInside imageSize) where
  refl _ _ hr := Or.inl hr

instance (imageSize : Nat) : IsTrans (List (Nat × Nat)) (ReadsInside imageSize) where
  trans _ _ _ h h' r hr := (h' r hr).elim (h r) Or.inr

theorem within_readImage (h : offset + length ≤ imageSize) :
    Within (ReadsInside imageSize) (readImage image offset length) := by
  intro reads r hr
  rcases List.mem_cons.mp hr with rfl | hr
  · exact Or.inr h
  · exact Or.inl hr

/-- The walk over the section table reads only inside the image. -/
theorem within_peFindSectionReads (hsize : sizeofNtHeaders64 ≤ imageSize) (padded : List UInt8)
    (remaining offset : Nat) :
    Within (ReadsInside imageSize)
      (peFindSectionReads image imageSize padded remaining offset) := by
  induction remaining generalizing offset with
  | zero => exact Within.throw _
  | succ remaining ih =>
    unfold peFindSectionReads
    split
    · exact Within.throw _
    · rename_i hoffset
      -- a whole section header is in the image
      have hheader : offset + sizeofSectionHeader ≤ imageSize := by
        unfold sizeofSectionHeader sizeofNtHeaders64 at *
        omega
      unfold sizeofSectionHeader at hheader
      apply Within.bind (within_readImage (by omega))
      intro name
      split
      · exact ih _
      · apply Within.bind (within_readImage (by omega))
        intro virtualSize
        apply Within.bind (within_readImage (by omega))
        intro virtualAddress
        split
        · exact Within.throw _
        · exact Within.pure _

theorem within_peHeaderReads (hsize : sizeofNtHeaders64 ≤ imageSize) (name : String)
    (offset : Nat) :
    Within (ReadsInside imageSize) (peHeaderReads image imageSize name offset) := by
  unfold peHeaderReads
  split
  · exact Within.throw _
  · rename_i hoffset
    have hheaders : offset + sizeofNtHeaders64 ≤ imageSize := by omega
    unfold sizeofNtHeaders64 at hheaders
    apply Within.bind (within_readImage (by omega))
    intro signature
    split
    · exact Within.throw _
    · apply Within.bind (within_readImage (by omega))
      intro sizeOfOptionalHeader
      apply Within.bind (within_readImage (by omega))
      intro numberOfSections
      exact within_peFindSectionReads hsize _ _ _

/-- **`PeLocateSection` reads only inside the image.** -/
theorem within_peLocateSectionReads (image : LoadedImage) (name : String) :
    Within (ReadsInside image.imageSize) (peLocateSectionReads image name) := by
  unfold peLocateSectionReads
  cases image.imageBase with
  | none => exact Within.throw _
  | some base =>
    simp only
    split
    · exact Within.throw _
    · rename_i hsmall
      have hsize : sizeofNtHeaders64 ≤ image.imageSize := Nat.le_of_not_lt hsmall
      have hdos : 0x40 ≤ image.imageSize := Nat.le_trans (by decide) hsize
      apply Within.bind (within_readImage (by omega))
      intro magic
      split
      · apply Within.bind (within_readImage (by omega))
        intro lfanew
        exact within_peHeaderReads hsize name _
      · exact within_peHeaderReads hsize name 0

/-! ## The section -/

/-- What a search answers. -/
def foundOr (found : Option (Nat × Nat)) : Except EfiStatus (Nat × Nat) :=
  found.elim (.error .notFound) .ok

/-- A read hands its bytes on. -/
theorem result_readImage {α : Type} (image : Mem) (offset length : Nat)
    (f : List UInt8 → ImageReader α) (reads : List (Nat × Nat)) :
    result (readImage image offset length >>= f) reads =
      result (f (image.slice offset length)) ((offset, length) :: reads) := rfl

theorem result_peFindSectionReads (padded : List UInt8) (remaining offset : Nat)
    (reads : List (Nat × Nat)) :
    result (peFindSectionReads image imageSize padded remaining offset) reads =
      foundOr (peFindSection image imageSize padded remaining offset) := by
  induction remaining generalizing offset reads with
  | zero => rfl
  | succ remaining ih =>
    unfold peFindSectionReads peFindSection
    split
    · rfl
    · rw [result_readImage]
      split
      · apply ih
      · rw [result_readImage, result_readImage]
        simp only
        split <;> rfl

/-- **The reads are those of `peLocateSection`.** -/
theorem result_peLocateSectionReads (image : LoadedImage) (name : String)
    (reads : List (Nat × Nat)) :
    result (peLocateSectionReads image name) reads = foundOr (peLocateSection image name) := by
  have hheader (base : Mem) (offset : Nat) (reads : List (Nat × Nat)) :
      result (peHeaderReads base image.imageSize name offset) reads =
        foundOr (if offset > image.imageSize - sizeofNtHeaders64 then none
          else if base.slice offset 4 ≠ ascii "PE" ++ [0, 0] then none
          else peFindSection base image.imageSize (peSectionName name)
            (leNat (base.slice (offset + 6) 2))
            (offset + 24 + leNat (base.slice (offset + 20) 2))) := by
    unfold peHeaderReads
    split
    · rfl
    · rw [result_readImage]
      split
      · rfl
      · rw [result_readImage, result_readImage]
        apply result_peFindSectionReads
  unfold peLocateSectionReads peLocateSection
  cases image.imageBase with
  | none => rfl
  | some base =>
    simp only
    split
    · rfl
    · rw [result_readImage]
      split
      · rw [result_readImage]
        apply hheader
      · apply hheader

/-- The section that is found lies inside the image. -/
theorem peFindSection_inside {padded : List UInt8} {remaining address size : Nat}
    (h : peFindSection image imageSize padded remaining offset = some (address, size)) :
    address + size ≤ imageSize := by
  induction remaining generalizing offset with
  | zero => cases h
  | succ remaining ih =>
    unfold peFindSection at h
    split at h
    · cases h
    split at h
    · exact ih h
    simp only at h
    split at h
    · cases h
    rename_i hbounds
    cases h
    omega

theorem peLocateSection_inside {image : LoadedImage} {name : String} {address size : Nat}
    (h : peLocateSection image name = some (address, size)) : address + size ≤ image.imageSize := by
  unfold peLocateSection at h
  cases hbase : image.imageBase with
  | none =>
    rw [hbase] at h
    cases h
  | some base =>
    rw [hbase] at h
    simp only at h
    split at h
    · cases h
    generalize (if base.slice 0 2 = ascii "MZ" then leNat (base.slice 0x3C 4) else 0) = start at h
    split at h
    · cases h
    split at h
    · cases h
    exact peFindSection_inside h

/-! ## The release -/

/-- What `Uname` is, of the content of the `.uname` section. -/
structure UnameRead (image : LoadedImage) (uname : List UInt8) : Prop where
  legal : ∀ c ∈ uname, isReleaseChar c = true
  length : 1 ≤ uname.length ∧ uname.length ≤ fdtOsUnameMax
  content : ∃ base address size, image.imageBase = some base ∧
    peLocateSection image ".uname" = some (address, size) ∧
    uname = ((base.slice address size).takeWhile isReleaseChar).take fdtOsUnameMax

/-- The release is the legal start of the section, cut off at its length. -/
theorem unameRead {image : LoadedImage} {uname : List UInt8}
    (h : ukiGetUname image = some uname) : UnameRead image uname := by
  have hlength := (ukiGetUname_component h).fits
  unfold ukiGetUname at h
  split at h
  case h_2 => cases h
  rename_i base _ address size hbase _ hsection
  simp only at h
  split at h
  · cases h
  rename_i hne
  cases h
  refine ⟨fun c hc => List.mem_takeWhile_imp hc, ⟨List.length_pos_iff.mpr hne, hlength⟩, base,
    address, size, hbase, hsection, ?_⟩
  rw [List.take_takeWhile, Mem.take_slice, Nat.min_comm]

/-- A section that holds a release and zeros holds just that release. -/
theorem UnameRead.whole {image : LoadedImage} {uname release : List UInt8}
    (h : UnameRead image uname) {base : Mem} {address size zeros : Nat}
    (hbase : image.imageBase = some base)
    (hsection : peLocateSection image ".uname" = some (address, size))
    (hcontent : base.slice address size = release ++ List.replicate zeros 0)
    (hlegal : ∀ c ∈ release, isReleaseChar c = true) (hlength : release.length ≤ fdtOsUnameMax) :
    uname = release := by
  obtain ⟨base', address', size', hbase', hsection', huname⟩ := h.content
  cases hbase.symm.trans hbase'
  cases hsection.symm.trans hsection'
  rw [huname, hcontent, List.takeWhile_append_of_pos hlegal]
  have hzeros : (List.replicate zeros (0 : UInt8)).takeWhile isReleaseChar = [] := by
    cases zeros with
    | zero => rfl
    | succ zeros => exact List.takeWhile_cons_of_neg (by decide)
  rw [hzeros, List.append_nil, List.take_of_length_le hlength]

/-! ## The path -/

/-- One component of a path, from the directories walked through so far. -/
def resolveStep (dirs : List (List UInt8)) (name : List UInt8) : List (List UInt8) :=
  if name = [] ∨ name = ascii "." then dirs
  else if name = ascii ".." then dirs.dropLast
  else dirs ++ [name]

/-- The file a path names, from the root of its volume: `.` stays, `..` goes up. -/
def resolvePath (path : List UInt8) : List (List UInt8) :=
  ((lines 0x5C path).map Line.body).foldl resolveStep []

theorem resolveStep_name {dirs : List (List UInt8)} {name : List UInt8} (hne : name ≠ [])
    (hdot : name ≠ ascii ".") (hdots : name ≠ ascii "..") :
    resolveStep dirs name = dirs ++ [name] := by
  unfold resolveStep
  rw [if_neg fun h => h.elim hne hdot, if_neg hdots]

/-- The names of a board's trees are longer than the two dots. -/
theorem fdtOsNames_length {board : FdtBoard} {leaf : String} (h : leaf ∈ fdtOsNames board) :
    2 < (ascii leaf).length := by
  have hall : ∀ name ∈ fdtNames, 2 < (ascii name).length := by decide +kernel
  exact hall leaf (fdtOsNames_mem h)

/-- **The path of a release is one directory below `\dtb`.** -/
theorem resolvePath_fdtOsPath {uname : List UInt8} {leaf : String}
    (huname : Component fdtOsUnameMax uname) (hleaf : Component fdtOsLeafMax (ascii leaf))
    (hlength : 2 < (ascii leaf).length) (hne : uname ≠ []) (hdot : uname ≠ ascii ".")
    (hdots : uname ≠ ascii "..") :
    resolvePath (fdtOsPath (some uname) leaf) = [ascii "dtb", uname, ascii leaf] := by
  have hsplit : lines 0x5C (fdtOsPath (some uname) leaf) =
      [⟨[], true⟩, ⟨ascii "dtb", true⟩, ⟨uname, true⟩, ⟨ascii leaf, false⟩] := by
    rw [fdtOsPath_some huname hleaf]
    show lines 0x5C ([] ++ 0x5C :: (ascii "dtb" ++ 0x5C :: (uname ++ 0x5C :: ascii leaf))) = _
    have hleafNe : ascii leaf ≠ [] := by
      intro hnil
      rw [hnil] at hlength
      cases hlength
    rw [lines_body_cons (by decide), lines_body_cons (by decide),
      lines_body_cons huname.noSeparator, lines_body_end hleaf.noSeparator hleafNe]
  have hdtb : resolveStep [] (ascii "dtb") = [ascii "dtb"] := by decide
  unfold resolvePath
  rw [hsplit]
  show resolveStep (resolveStep (resolveStep (resolveStep [] []) (ascii "dtb")) uname)
    (ascii leaf) = _
  rw [show resolveStep [] [] = [] by rfl, hdtb, resolveStep_name hne hdot hdots, resolveStep_name]
  · rfl
  all_goals
    intro heq
    rw [heq] at hlength
    exact absurd hlength (by decide)

/-- **Reading a release is safe.** `PeLocateSection` reads inside the image and finds sections
inside it; the release is legal and not empty, and its paths are whole, and below `\dtb` but for
the two releases of dots. -/
theorem ukiGetUname_safe (image : LoadedImage) :
    (∀ name, (∀ r ∈ after (peLocateSectionReads image name) [], r.1 + r.2 ≤ image.imageSize) ∧
      result (peLocateSectionReads image name) [] = foundOr (peLocateSection image name) ∧
      ∀ address size, peLocateSection image name = some (address, size) →
        address + size ≤ image.imageSize) ∧
    ∀ uname, ukiGetUname image = some uname → UnameRead image uname ∧
      ∀ board, ∀ leaf ∈ fdtOsNames board,
        fdtOsPath (some uname) leaf = ascii "\\dtb\\" ++ (uname ++ 0x5C :: ascii leaf) ∧
        (uname ≠ ascii "." → uname ≠ ascii ".." →
          resolvePath (fdtOsPath (some uname) leaf) = [ascii "dtb", uname, ascii leaf]) := by
  constructor
  · intro name
    refine ⟨fun r hr => ?_, result_peLocateSectionReads image name [],
      fun address size => peLocateSection_inside⟩
    exact (within_peLocateSectionReads image name [] r hr).resolve_left List.not_mem_nil
  · intro uname huname
    have hread := unameRead huname
    have hcomponent := ukiGetUname_component huname
    refine ⟨hread, fun board leaf hleaf => ?_⟩
    have hleafComponent := fdtOsNames_component hleaf
    refine ⟨fdtOsPath_some hcomponent hleafComponent, ?_⟩
    exact resolvePath_fdtOsPath hcomponent hleafComponent (fdtOsNames_length hleaf)
      (List.length_pos_iff.mp hread.length.1)

/-- The kernel 6.1 on a Raspberry Pi 5. -/
theorem ukiGetUname_safe_kernel :
    resolvePath (fdtOsPath (some (ascii "6.1")) fdtOsLeafFallback) =
      [ascii "dtb", ascii "6.1", ascii fdtOsLeafFallback] :=
  (((ukiGetUname_safe (kernelImage "6.1")).2 (ascii "6.1") (by decide +kernel)).2 rpi5Board
    fdtOsLeafFallback (by decide)).2 (by decide) (by decide)

/-- The section holds more than the release, and not only zeros: the release ends at the blank. -/
theorem ukiGetUname_cut : ¬∀ uname, ukiGetUname (kernelImage "6.1 x") = some uname →
    ∃ base address size zeros, (kernelImage "6.1 x").imageBase = some base ∧
      peLocateSection (kernelImage "6.1 x") ".uname" = some (address, size) ∧
      base.slice address size = uname ++ List.replicate zeros 0 := by
  intro h
  obtain ⟨base, address, size, zeros, hbase, hsection, hcontent⟩ :=
    h (ascii "6.1") (by decide +kernel)
  have hfound : peLocateSection (kernelImage "6.1 x") ".uname" = some (348, 8) := by decide +kernel
  cases hsection.symm.trans hfound
  -- the fourth byte is the blank
  have hblank : ((kernelImage "6.1 x").imageBase.bind fun base => (base.slice 348 8)[3]?) =
      some 0x20 := by decide +kernel
  have hlength : (ascii "6.1").length = 3 := rfl
  rw [hbase, Option.bind_some, hcontent, List.getElem?_append_right (by omega), hlength,
    List.getElem?_replicate] at hblank
  split at hblank
  · exact absurd (Option.some.inj hblank) (by decide)
  · cases hblank

end Rpi5Uefi
