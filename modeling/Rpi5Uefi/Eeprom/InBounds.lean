import Rpi5Uefi.Eeprom.Timestamp
import Rpi5Uefi.Lib.CheckedMem

/-!
# Every access is inside the image

The functions of `EepromImage.c` once more, with every access to the image checked: a byte outside
is `none`, from where on nothing is returned. On 2 MiB they are the functions of `Image` for each of
the callers' windows, whatever the bytes are.

* **`walkSections_sections`**: the sections a walk returns.
* **`walkSectionsAt_eq`**, **`findFileInAt_eq`**, **`replaceFileInAt_eq`**,
  **`setTimestampAt_eq`**: a function with checks is the function without.
* **`eeprom_inBounds`**: all of it, for the callers.
-/

namespace Rpi5Uefi

open Bytes Chain

/-! ## The code, with checks -/

/-- `WalkSections`. -/
def walkSectionsAt (size : Nat) (image : Mem) :
    Nat → Nat → Option (Option (List EepromSection))
  | offset, cap =>
    if offset + 8 ≤ size then do
      let magic ← be32At size image offset
      if magic = 0x0 ∨ magic = 0xffffffff then some (some [])
      else if magic &&& eepromSectionMagicMask ≠ eepromSectionMagic then some none
      else do
        let length ← be32At size image (offset + 4)
        if length > size - offset - 8 then some none
        else
          match cap with
          | 0 => some none
          | cap + 1 => do
            let sections ← walkSectionsAt size image (alignUp8 (offset + 8 + length)) cap
            some (sections.map (⟨magic, offset, length⟩ :: ·))
    else some (some [])

/-- `FileNameMatches` from one byte of the field on. -/
def fileNameMatchesAt (size : Nat) (image : Mem) : Nat → Nat → List UInt8 → Option Bool
  | _, 0, name => some (name == [])
  | field, remaining + 1, [] => do
    let b ← readAt size image field
    if b ≠ 0 then some false else fileNameMatchesAt size image (field + 1) remaining []
  | field, remaining + 1, c :: name => do
    let b ← readAt size image field
    if b ≠ c then some false else fileNameMatchesAt size image (field + 1) remaining name

/-- The search loop of `EepromFindFileIn`: the match and the sections behind it. -/
def searchAt (size : Nat) (image : Mem) (w : EepromWindow) (name : CString) :
    List EepromSection → Option (Option (EepromSection × List EepromSection))
  | [] => some none
  | s :: rest =>
    if s.magic = eepromFileMagic ∧ w.winStart ≤ s.offset ∧ s.offset < w.winEnd then do
      let hit ← fileNameMatchesAt size image (s.offset + 8) eepromFilenameLen name.bytes
      if hit then some (some (s, rest)) else searchAt size image w name rest
    else searchAt size image w name rest

/-- `EepromFindFileIn`. -/
def findFileInAt (size : Nat) (image : Mem) (w : EepromWindow) (name : CString) :
    Option (Option EepromFileLoc) := do
  let sections ← walkSectionsAt size image w.walkStart eepromMaxSections
  match sections with
  | none => some none
  | some sections => do
    let found ← searchAt size image w name sections
    some (found.map fun (s, rest) => locOfMatch size w s rest)

/-- `Image[PadStart++] = 0xFF` up to a multiple of 8. -/
def padAt (size : Nat) (image : Mem) (padStart : Nat) : Option (Mem × Nat) :=
  if padStart % 8 = 0 then some (image, padStart)
  else do
    let image ← writeAt size image padStart 0xff
    padAt size image (padStart + 1)
termination_by (8 - padStart % 8) % 8

/-- What `EepromReplaceFileIn` writes from `PadStart` on; the difference is one of `UINTN`s. -/
def fillUpAt (size : Nat) (image : Mem) (loc : EepromFileLoc) (padStart : Nat) : Option Mem :=
  let padBytes := (loc.nextOffset + (2 ^ 64 - padStart)) % 2 ^ 64
  if padBytes ≥ 8 ∧ loc.isLast = false then do
    let image ← putBytesAt size image padStart (be32Bytes eepromPadMagic)
    let image ← putBytesAt size image (padStart + 4) (be32Bytes (padBytes - 8))
    fillAt size image (padStart + 8) 0xff (padBytes - 8)
  else fillAt size image padStart 0xff padBytes

/-- The writes of `EepromReplaceFileIn`. -/
def replaceContentAt (size : Nat) (image : Mem) (loc : EepromFileLoc) (data : List UInt8) :
    Option Mem := do
  let image ← putBytesAt size image (loc.hdrOffset + 4)
    (be32Bytes (data.length + eepromFilenameLen + 4))
  let image ← putBytesAt size image loc.contentOffset data
  let padded ← padAt size image (loc.contentOffset + data.length)
  fillUpAt size padded.1 loc padded.2

/-- `EepromReplaceFileIn`. -/
def replaceFileInAt (size : Nat) (image : Mem) (w : EepromWindow) (name : CString)
    (data : List UInt8) : Option (EfiStatus × Mem) :=
  if data.length > eepromMaxFileSize then some (.badBufferSize, image)
  else do
    let found ← findFileInAt size image w name
    match found with
    | none => some (.notFound, image)
    | some loc =>
      let dataEnd := loc.contentOffset + data.length
      if dataEnd > size - eepromEraseAlign ∨ dataEnd > loc.nextOffset then
        some (.volumeFull, image)
      else do
        let image ← replaceContentAt size image loc data
        some (.success, image)

/-- `~Timestamp` and `Timestamp`. -/
def putTimestampAt (size : Nat) (image : Mem) (offset : Nat) (timestamp : UInt32) :
    Option Mem := do
  let image ← putBytesAt size image offset (le32Bytes (~~~timestamp).toNat)
  putBytesAt size image (offset + 4) (le32Bytes timestamp.toNat)

/-- A lookup of `EepromSetTimestamp`. -/
def findUpdatetimeAt (size : Nat) (image : Mem) (w : EepromWindow) :
    Option (Option EepromFileLoc) := do
  let found ← findFileInAt size image w updatetime
  some (found.filter fun loc => decide (8 ≤ loc.contentLen))

/-- `EepromSetTimestamp`. -/
def setTimestampAt (size : Nat) (image : Mem) (timestamp : UInt32) : Option (EfiStatus × Mem) := do
  let found ← findUpdatetimeAt size image readOnlyWindow
  match found with
  | none => do
    let image ← putBytesAt size image (size - 4) (le32Bytes timestamp.toNat)
    let image ← putBytesAt size image (size - 8) (le32Bytes (~~~timestamp).toNat)
    some (.success, image)
  | some loc => do
    let image ← putTimestampAt size image loc.contentOffset timestamp
    let found ← findUpdatetimeAt size image partitionA
    match found with
    | none => some (.notFound, image)
    | some loc => do
      let image ← putTimestampAt size image loc.contentOffset timestamp
      some (.success, image)

variable {image : Mem} {size : Nat} {w : EepromWindow} {name : CString} {data : List UInt8}
  {s t : EepromSection} {loc : EepromFileLoc} {o n : Nat}

/-! ## The walk -/

theorem walkSectionsAt_eq (size : Nat) (image : Mem) (o cap : Nat) :
    walkSectionsAt size image o cap = some (walkSections image size o cap) := by
  induction cap generalizing o with
  | zero =>
    rw [walkSectionsAt.eq_def, walkSections.eq_def]
    by_cases hsize : o + 8 ≤ size
    · simp only [if_pos hsize]
      rw [be32At_eq (show o + 4 ≤ size by omega), be32At_eq (show o + 4 + 4 ≤ size by omega),
        Option.bind_eq_bind, Option.bind_some, Option.bind_some]
      split_ifs <;> rfl
    · simp only [if_neg hsize]
  | succ cap ih =>
    rw [walkSectionsAt.eq_def, walkSections.eq_def]
    by_cases hsize : o + 8 ≤ size
    · simp only [if_pos hsize]
      rw [be32At_eq (show o + 4 ≤ size by omega), be32At_eq (show o + 4 + 4 ≤ size by omega),
        Option.bind_eq_bind, Option.bind_some, Option.bind_some, ih]
      split_ifs <;> rfl
    · simp only [if_neg hsize]

/-- **The sections of a walk** are inside the image, one behind the other. -/
theorem sections_of_path {l : List EepromSection} (h : Path (sectionHead image size) o l n) :
    l.Pairwise (fun s t => s.offset + 8 + s.length ≤ t.offset) ∧
      ∀ s ∈ l, o ≤ s.offset ∧ s.offset + 8 + s.length ≤ size := by
  induction h with
  | nil _ => exact ⟨.nil, fun s hs => absurd hs List.not_mem_nil⟩
  | cons hhead rest ih =>
    obtain ⟨hoff, -, -, -, hfit, rfl⟩ := sectionHead_eq_record_iff.mp hhead
    have hge := alignUp8_ge
    obtain ⟨hpairs, hinside⟩ := ih
    refine ⟨List.pairwise_cons.mpr ⟨fun t ht => ?_, hpairs⟩, fun t ht => ?_⟩
    · have hnext := (hinside t ht).1
      rw [hoff]
      exact Nat.le_trans (hge _) hnext
    · rcases List.mem_cons.mp ht with rfl | ht
      · rw [hoff]
        exact ⟨Nat.le_refl _, hfit⟩
      · have hnext := (hinside t ht).1
        have hle := Nat.le_trans (hge _) hnext
        exact ⟨by omega, (hinside t ht).2⟩

theorem walkSections_sections {cap : Nat} {l : List EepromSection}
    (h : walkSections image size o cap = some l) :
    l.length ≤ cap ∧ l.Pairwise (fun s t => s.offset + 8 + s.length ≤ t.offset) ∧
      ∀ s ∈ l, o ≤ s.offset ∧ s.offset + 8 + s.length ≤ size := by
  rw [walkSections_eq_walk, walk_eq_some_iff] at h
  obtain ⟨hcap, m, hpath, -⟩ := h
  exact ⟨hcap, sections_of_path hpath⟩

/-! ## The lookup -/

/-- A name behind a header in a window is in front of the scratch sector. -/
theorem EepromWindow.Fits.name_le (h : w.Fits size) : w.winEnd + 20 ≤ size := by
  have hscratch := h.scratch
  have herase : eepromEraseAlign = 4096 := rfl
  omega

theorem fileNameMatchesAt_eq {field remaining : Nat} (h : field + remaining ≤ size)
    (image : Mem) (name : List UInt8) :
    fileNameMatchesAt size image field remaining name =
      some (fileNameMatchesFrom image field remaining name) := by
  induction remaining generalizing field name with
  | zero => rfl
  | succ remaining ih =>
    have hrest : field + 1 + remaining ≤ size := by omega
    cases name with
    | nil =>
      unfold fileNameMatchesAt fileNameMatchesFrom
      rw [readAt_eq (by omega)]
      show (if image field ≠ 0 then _ else _) = _
      by_cases hb : image field = 0
      · rw [if_neg (not_not_intro hb), ih hrest, beq_iff_eq.mpr hb, Bool.true_and]
      · rw [if_pos hb, beq_eq_false_iff_ne.mpr hb, Bool.false_and]
    | cons c name =>
      unfold fileNameMatchesAt fileNameMatchesFrom
      rw [readAt_eq (by omega)]
      show (if image field ≠ c then _ else _) = _
      by_cases hb : image field = c
      · rw [if_neg (not_not_intro hb), ih hrest, beq_iff_eq.mpr hb, Bool.true_and]
      · rw [if_pos hb, beq_eq_false_iff_ne.mpr hb, Bool.false_and]

/-- The test of one round; the name is read only in front of the window's end. -/
theorem matchAt_eq (h : w.winEnd + 20 ≤ size) (image : Mem) (name : CString)
    (hin : s.magic = eepromFileMagic ∧ w.winStart ≤ s.offset ∧ s.offset < w.winEnd) :
    fileNameMatchesAt size image (s.offset + 8) eepromFilenameLen name.bytes =
      some (sectionMatches image w name s) := by
  have hfield : s.offset + 8 + eepromFilenameLen ≤ size := by
    have hlen : eepromFilenameLen = 12 := rfl
    omega
  have hmatches : sectionMatches image w name s = fileNameMatches image (s.offset + 8) name := by
    unfold sectionMatches
    rw [beq_iff_eq.mpr hin.1, decide_eq_true hin.2.1, decide_eq_true hin.2.2, Bool.true_and,
      Bool.true_and, Bool.true_and]
  rw [fileNameMatchesAt_eq hfield, hmatches]
  rfl

/-- The search loop stops at the first match, with the sections behind it. -/
theorem searchAt_cases (h : w.winEnd + 20 ≤ size) (image : Mem) (name : CString)
    (sections : List EepromSection) :
    searchAt size image w name sections = some none ∧
        sections.dropWhile (fun s => !sectionMatches image w name s) = [] ∨
      ∃ s rest, searchAt size image w name sections = some (some (s, rest)) ∧
        sections.dropWhile (fun s => !sectionMatches image w name s) = s :: rest := by
  induction sections with
  | nil => exact Or.inl ⟨rfl, rfl⟩
  | cons s sections ih =>
    unfold searchAt
    cases hmatch : sectionMatches image w name s with
    | true =>
      obtain ⟨hmagic, hstart, hend, -⟩ := sectionMatches_iff.mp hmatch
      have hin : s.magic = eepromFileMagic ∧ w.winStart ≤ s.offset ∧ s.offset < w.winEnd :=
        ⟨hmagic, hstart, hend⟩
      refine Or.inr ⟨s, sections, ?_, List.dropWhile_cons_of_neg (by simp [hmatch])⟩
      rw [if_pos hin, matchAt_eq h image name hin, hmatch]
      rfl
    | false =>
      rw [List.dropWhile_cons_of_pos (by simp [hmatch])]
      by_cases hin : s.magic = eepromFileMagic ∧ w.winStart ≤ s.offset ∧ s.offset < w.winEnd
      · rw [if_pos hin, matchAt_eq h image name hin, hmatch]
        exact ih
      · rw [if_neg hin]
        exact ih

theorem findFileInAt_eq (h : w.winEnd + 20 ≤ size) (image : Mem) (name : CString) :
    findFileInAt size image w name = some (eepromFindFileIn image size w name) := by
  unfold findFileInAt eepromFindFileIn
  rw [walkSectionsAt_eq, Option.bind_eq_bind, Option.bind_some]
  cases walkSections image size w.walkStart eepromMaxSections with
  | none => rfl
  | some sections =>
    rcases searchAt_cases h image name sections with ⟨hsearch, hdrop⟩ | ⟨s, rest, hsearch, hdrop⟩
    · simp only [hsearch, hdrop]
      rfl
    · simp only [hsearch, hdrop]
      rfl

/-- **A location is inside the image** where its file is long enough for a name. -/
theorem find_content_le (h : eepromFindFileIn image size w name = some loc)
    (hlength : 16 ≤ be32 image (loc.hdrOffset + 4)) :
    loc.contentOffset + loc.contentLen ≤ size := by
  obtain ⟨-, s, hs, hoffset, hcontent, hlen⟩ := firstMatch_of_find h
  obtain ⟨-, n, hn⟩ := hs.onChain
  obtain ⟨-, -, hword, -, hfit, -⟩ := sectionHead_eq_record_iff.mp hn
  have hmin : eepromFilenameLen = 12 := rfl
  rw [hoffset, hword] at hlength
  rw [hcontent, hlen]
  unfold contentLenOf
  rw [if_pos (by omega)]
  omega

/-! ## The replacement -/

theorem padAt_eq (h : alignUp8 o ≤ size) (image : Mem) :
    padAt size image o = some (image.fill o (alignUp8 o - o) 0xff, alignUp8 o) := by
  obtain ⟨k, hk⟩ : ∃ k, alignUp8 o - o = k := ⟨_, rfl⟩
  have hge := alignUp8_ge o
  induction k generalizing o image with
  | zero =>
    have haligned : alignUp8 o = o := by omega
    have hmod := alignUp8_mod o
    rw [haligned] at hmod
    rw [padAt, if_pos hmod, haligned, Nat.sub_self, Mem.fill_zero]
  | succ k ih =>
    have hnext : alignUp8 (o + 1) = alignUp8 o := by
      unfold alignUp8 at hk ⊢
      omega
    have hmod : ¬o % 8 = 0 := by
      unfold alignUp8 at hk
      omega
    rw [padAt, if_neg hmod, writeAt_eq (by omega), Option.bind_eq_bind, Option.bind_some,
      ih (by omega) _ (by omega) (by omega), hnext, hk,
      show alignUp8 o - (o + 1) = k by omega, Mem.fill_succ]

/-- A difference of `UINTN`s that does not wrap. -/
theorem uintnSub_eq {a b : Nat} (hle : b ≤ a) (hlt : a < 2 ^ 64) :
    (a + (2 ^ 64 - b)) % 2 ^ 64 = a - b := by omega

theorem fillUpAt_eq {p : Nat} (hpad : p ≤ loc.nextOffset) (hnext : loc.nextOffset ≤ size)
    (hsize : size < 2 ^ 32) (image : Mem) :
    fillUpAt size image loc p =
      some (if loc.nextOffset - p ≥ 8 ∧ loc.isLast = false then
        (putBe32 (putBe32 image p eepromPadMagic) (p + 4) (loc.nextOffset - p - 8)).fill (p + 8)
          (loc.nextOffset - p - 8) 0xff
      else image.fill p (loc.nextOffset - p) 0xff) := by
  unfold fillUpAt
  rw [uintnSub_eq hpad (by omega)]
  by_cases hroom : loc.nextOffset - p ≥ 8 ∧ loc.isLast = false
  · have hge := hroom.1
    simp only [if_pos hroom]
    rw [putBe32At_eq (by omega), Option.bind_eq_bind, Option.bind_some, putBe32At_eq (by omega),
      Option.bind_some, fillAt_eq (by omega)]
  · simp only [if_neg hroom]
    exact fillAt_eq (by omega) _ _

theorem replaceContentAt_eq {pre rest : List EepromSection}
    (h : Replacing image size w name data pre s rest) :
    replaceContentAt size image (locOfMatch size w s rest) data =
      some (replaceContent image (locOfMatch size w s rest) data) := by
  have hpad := h.padStart_le
  have hnext := h.next_le_size
  have hge := le_padStart_loc size w s rest data
  have hsize := h.fits.size_lt
  have hhdr : (locOfMatch size w s rest).hdrOffset = s.offset := rfl
  have hcontent : (locOfMatch size w s rest).contentOffset = s.offset + 24 := rfl
  unfold padStart at hpad hge
  generalize locOfMatch size w s rest = loc at *
  unfold replaceContentAt
  rw [putBe32At_eq (by omega), Option.bind_eq_bind, Option.bind_some,
    putBytesAt_eq (by omega), Option.bind_some, padAt_eq (by omega), Option.bind_eq_bind,
    Option.bind_some, fillUpAt_eq hpad (by omega) hsize]
  rfl

theorem replaceFileInAt_eq (hw : w.Fits size) (image : Mem) (name : CString)
    (data : List UInt8) :
    replaceFileInAt size image w name data = some (eepromReplaceFileIn image size w name data) := by
  unfold replaceFileInAt eepromReplaceFileIn
  by_cases hlen : data.length > eepromMaxFileSize
  · rw [if_pos hlen, if_pos hlen]
  · rw [if_neg hlen, if_neg hlen, findFileInAt_eq hw.name_le, Option.bind_eq_bind, Option.bind_some]
    cases hfind : eepromFindFileIn image size w name with
    | none => rfl
    | some loc =>
      simp only
      by_cases hfull : loc.contentOffset + data.length > size - eepromEraseAlign ∨
          loc.contentOffset + data.length > loc.nextOffset
      · rw [if_pos hfull, if_pos hfull]
      · obtain ⟨pre, s, rest, hwalk, hpre, hs, rfl⟩ := eepromFindFileIn_eq_some_iff.mp hfind
        rw [if_neg hfull, if_neg hfull]
        simp only [not_or, Nat.not_lt] at hfull
        have hreplacing : Replacing image size w name data pre s rest :=
          ⟨hw, hwalk, hpre, hs, by omega, hfull.1, hfull.2⟩
        rw [replaceContentAt_eq hreplacing]
        rfl

/-! ## The timestamp -/

theorem putTimestampAt_eq (h : o + 8 ≤ size) (image : Mem) (timestamp : UInt32) :
    putTimestampAt size image o timestamp = some (putTimestamp image o timestamp) := by
  unfold putTimestampAt
  rw [putLe32At_eq (by omega), Option.bind_eq_bind, Option.bind_some, putLe32At_eq (by omega)]
  rfl

/-- A file with room for the two words is inside the image with them. -/
theorem findUpdatetime_le (h : findUpdatetime image size w = some loc) :
    loc.contentOffset + 8 ≤ size := by
  obtain ⟨-, u, hu, hlen, hcontent⟩ := firstMatch_of_findUpdatetime h
  obtain ⟨-, n, hn⟩ := hu.onChain
  have hfit := (sectionHead_eq_record_iff.mp hn).2.2.2.2.1
  omega

theorem findUpdatetimeAt_eq (h : w.winEnd + 20 ≤ size) (image : Mem) :
    findUpdatetimeAt size image w = some (findUpdatetime image size w) := by
  unfold findUpdatetimeAt
  rw [findFileInAt_eq h]
  rfl

theorem setTimestampAt_eq (hread : readOnlyWindow.winEnd + 20 ≤ size)
    (hpart : partitionA.winEnd + 20 ≤ size) (image : Mem) (timestamp : UInt32) :
    setTimestampAt size image timestamp = some (eepromSetTimestamp image size timestamp) := by
  unfold setTimestampAt eepromSetTimestamp
  rw [findUpdatetimeAt_eq hread, Option.bind_eq_bind, Option.bind_some]
  cases hfirst : findUpdatetime image size readOnlyWindow with
  | none =>
    simp only
    rw [putLe32At_eq (by omega), Option.bind_eq_bind, Option.bind_some, putLe32At_eq (by omega)]
    rfl
  | some loc =>
    simp only
    rw [putTimestampAt_eq (findUpdatetime_le hfirst), Option.bind_eq_bind, Option.bind_some,
      findUpdatetimeAt_eq hpart, Option.bind_some]
    cases hsecond : findUpdatetime (putTimestamp image loc.contentOffset timestamp) size
        partitionA with
    | none => rfl
    | some loc' =>
      simp only
      rw [putTimestampAt_eq (findUpdatetime_le hsecond)]
      rfl

/-! ## The callers -/

/-- The windows of `BootloaderConfigSetup.c` and `EepromSetTimestamp`. -/
def callerWindows : List EepromWindow := [readOnlyWindow, partitionA, partitionB]

theorem callerWindows_fit (hw : w ∈ callerWindows) : w.Fits eepromImageSize2712 := by
  unfold callerWindows at hw
  simp only [List.mem_cons, List.not_mem_nil, or_false] at hw
  rcases hw with rfl | rfl | rfl <;> exact ⟨by decide, by decide, by decide, by decide⟩

/-- **Every malformed image is harmless.** On 2 MiB of any bytes, for each of the callers' windows
and every name, content and timestamp: the walk ends with at most 64 sections, ascending, apart and
inside the image, no function accesses a byte outside, and each does what it does without the
checks. A location of a file of length at least 16 is inside the image with its content. -/
theorem eeprom_inBounds (image : Mem) {w : EepromWindow} (hw : w ∈ callerWindows)
    (name : CString) (data : List UInt8) (timestamp : UInt32) :
    (∃ walked, walkSectionsAt eepromImageSize2712 image w.walkStart eepromMaxSections =
        some walked ∧
      ∀ sections, walked = some sections →
        sections.length ≤ 64 ∧
          sections.Pairwise (fun s t => s.offset + 8 + s.length ≤ t.offset) ∧
          ∀ s ∈ sections, w.walkStart ≤ s.offset ∧
            s.offset + 8 + s.length ≤ eepromImageSize2712) ∧
      (∃ found, findFileInAt eepromImageSize2712 image w name = some found ∧
        found = eepromFindFileIn image eepromImageSize2712 w name ∧
        ∀ loc, found = some loc → 16 ≤ be32 image (loc.hdrOffset + 4) →
          loc.contentOffset + loc.contentLen ≤ eepromImageSize2712) ∧
      replaceFileInAt eepromImageSize2712 image w name data =
        some (eepromReplaceFileIn image eepromImageSize2712 w name data) ∧
      setTimestampAt eepromImageSize2712 image timestamp =
        some (eepromSetTimestamp image eepromImageSize2712 timestamp) := by
  have hfits := callerWindows_fit hw
  refine ⟨⟨_, walkSectionsAt_eq _ _ _ _, fun sections hwalk => walkSections_sections hwalk⟩,
    ⟨_, findFileInAt_eq hfits.name_le image name, rfl, fun loc hfind => find_content_le hfind⟩,
    replaceFileInAt_eq hfits image name data,
    setTimestampAt_eq (by decide) (by decide) image timestamp⟩

/-- Erased flash behind a file header that claims 4 GiB. -/
def endlessImage : Mem := putSection erasedImage 0 eepromFileMagic 0xffffffff

theorem endlessImage_inBounds :
    findFileInAt eepromImageSize2712 endlessImage partitionA bootconfTxt = some none ∧
      replaceFileInAt eepromImageSize2712 endlessImage partitionA bootconfTxt [] =
        some (.notFound, endlessImage) := by
  have hnone : eepromFindFileIn endlessImage eepromImageSize2712 partitionA bootconfTxt = none := by
    decide +kernel
  obtain ⟨-, ⟨found, hfound, hsame, -⟩, hreplace, -⟩ :=
    eeprom_inBounds endlessImage (List.mem_cons_of_mem _ List.mem_cons_self) bootconfTxt [] 0
  refine ⟨?_, ?_⟩
  · rw [hfound, hsame, hnone]
  · rw [hreplace]
    unfold eepromReplaceFileIn
    rw [if_neg (by decide), hnone]

end Rpi5Uefi
