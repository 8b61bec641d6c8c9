import Rpi5Uefi.Eeprom.Sections

/-!
# What a replacement writes

`EepromReplaceFileIn` changes the length field of one section and the bytes from its content to
`NextOffset`. This file says what every byte is afterwards and what that does to the chain.

* **`replaceContent_outside`**, **`replaceContent_inside`**: the frame, and the byte written at
  each offset of the rewritten range.
* **`eepromReplaceFileIn_cases`**: a call fails and changes nothing, or it rewrites the file the
  lookup found, whose surroundings **`Replacing`** records.
* **`Replacing.onChain_iff`**: the file sections on the chain are the same ones, the replaced file
  at its place with its new length.
-/

namespace Rpi5Uefi

open Bytes Chain

variable {image : Mem} {size : Nat} {w w' : EepromWindow} {name name' : CString} {data : List UInt8}
  {pre rest : List EepromSection} {s t : EepromSection} {loc : EepromFileLoc} {o n : Nat}

/-! ## The rewritten range -/

/-- The offset behind the content and its padding to a multiple of 8. -/
def padStart (loc : EepromFileLoc) (data : List UInt8) : Nat :=
  alignUp8 (loc.contentOffset + data.length)

/-- The pad section a replacement puts behind the content, unless the file is the last section. -/
def padHeader (loc : EepromFileLoc) (data : List UInt8) : List UInt8 :=
  if padStart loc data + 8 ≤ loc.nextOffset ∧ loc.isLast = false then
    be32Bytes eepromPadMagic ++ be32Bytes (loc.nextOffset - padStart loc data - 8)
  else []

/-- The byte stored at offset `i` of the rewritten range: content, filler up to a multiple of 8,
pad header, filler. -/
def replacementByte (loc : EepromFileLoc) (data : List UInt8) (i : Nat) : UInt8 :=
  if i < loc.contentOffset + data.length then data.getD (i - loc.contentOffset) 0
  else if i < padStart loc data then 0xff
  else (padHeader loc data).getD (i - padStart loc data) 0xff

/-- The image with the length field, the content and the filler up to `padStart` in place. -/
def contentWritten (image : Mem) (loc : EepromFileLoc) (data : List UInt8) : Mem :=
  ((putBe32 image (loc.hdrOffset + 4) (data.length + eepromFilenameLen + 4)).write
    loc.contentOffset data).fill (loc.contentOffset + data.length)
      (padStart loc data - (loc.contentOffset + data.length)) 0xff

theorem replaceContent_eq (image : Mem) (loc : EepromFileLoc) (data : List UInt8) :
    replaceContent image loc data =
      if padStart loc data + 8 ≤ loc.nextOffset ∧ loc.isLast = false then
        (putBe32 (putBe32 (contentWritten image loc data) (padStart loc data) eepromPadMagic)
          (padStart loc data + 4) (loc.nextOffset - padStart loc data - 8)).fill
            (padStart loc data + 8) (loc.nextOffset - padStart loc data - 8) 0xff
      else
        (contentWritten image loc data).fill (padStart loc data)
          (loc.nextOffset - padStart loc data) 0xff := by
  have hcond : (loc.nextOffset - padStart loc data ≥ 8 ∧ loc.isLast = false) =
      (padStart loc data + 8 ≤ loc.nextOffset ∧ loc.isLast = false) := by
    rw [show (loc.nextOffset - padStart loc data ≥ 8) =
      (padStart loc data + 8 ≤ loc.nextOffset) from propext (by omega)]
  simp only [← hcond]
  rfl

theorem padStart_ge (loc : EepromFileLoc) (data : List UInt8) :
    loc.contentOffset + data.length ≤ padStart loc data :=
  alignUp8_ge _

theorem contentWritten_outside {i : Nat}
    (hhdr : ¬(loc.hdrOffset + 4 ≤ i ∧ i < loc.hdrOffset + 8))
    (hrange : ¬(loc.contentOffset ≤ i ∧ i < padStart loc data)) :
    contentWritten image loc data i = image i := by
  have hge := padStart_ge loc data
  unfold contentWritten
  rw [Mem.fill_of_outside _ (by omega), Mem.write_of_outside _ (by omega),
    putBe32_of_outside _ (by omega)]

theorem contentWritten_inside {i : Nat} (h1 : loc.contentOffset ≤ i)
    (h2 : i < padStart loc data) :
    contentWritten image loc data i = replacementByte loc data i := by
  have hge := padStart_ge loc data
  unfold contentWritten replacementByte
  by_cases hdata : i < loc.contentOffset + data.length
  · rw [if_pos hdata, Mem.fill_of_outside _ (by omega)]
    have hk : i - loc.contentOffset < data.length := by omega
    have hwrite : (putBe32 image (loc.hdrOffset + 4) (data.length + eepromFilenameLen + 4)).write
        loc.contentOffset data (loc.contentOffset + (i - loc.contentOffset)) =
          data[i - loc.contentOffset] := Mem.write_inside hk
    rw [show loc.contentOffset + (i - loc.contentOffset) = i from by omega] at hwrite
    rw [hwrite, List.getD_eq_getElem _ _ hk]
  · rw [if_neg hdata, if_pos h2, Mem.fill_inside _ (by omega) (by omega)]

/-- **The frame of a replacement**: the length field and the rewritten range are all it writes. -/
theorem replaceContent_outside {i : Nat} (hnext : padStart loc data ≤ loc.nextOffset)
    (hhdr : ¬(loc.hdrOffset + 4 ≤ i ∧ i < loc.hdrOffset + 8))
    (hrange : ¬(loc.contentOffset ≤ i ∧ i < loc.nextOffset)) :
    replaceContent image loc data i = image i := by
  have hge := padStart_ge loc data
  rw [replaceContent_eq]
  split
  · rw [Mem.fill_of_outside _ (by omega), putBe32_of_outside _ (by omega),
      putBe32_of_outside _ (by omega), contentWritten_outside hhdr (by omega)]
  · rw [Mem.fill_of_outside _ (by omega), contentWritten_outside hhdr (by omega)]

theorem replacementByte_of_ge {i : Nat} (h : padStart loc data ≤ i) :
    replacementByte loc data i = (padHeader loc data).getD (i - padStart loc data) 0xff := by
  have hge := padStart_ge loc data
  unfold replacementByte
  rw [if_neg (by omega), if_neg (by omega)]

/-- **The rewritten range**, byte by byte. -/
theorem replaceContent_inside {i : Nat} (hnext : padStart loc data ≤ loc.nextOffset)
    (h1 : loc.contentOffset ≤ i) (h2 : i < loc.nextOffset) :
    replaceContent image loc data i = replacementByte loc data i := by
  have hge := padStart_ge loc data
  rw [replaceContent_eq]
  by_cases hpad : i < padStart loc data
  · -- the pad section starts behind `i`
    have hcontent : contentWritten image loc data i = replacementByte loc data i :=
      contentWritten_inside h1 hpad
    split
    · rw [Mem.fill_of_outside _ (by omega), putBe32_of_outside _ (by omega),
        putBe32_of_outside _ (by omega), hcontent]
    · rw [Mem.fill_of_outside _ (by omega), hcontent]
  · rw [replacementByte_of_ge (by omega)]
    unfold padHeader
    by_cases hcond : padStart loc data + 8 ≤ loc.nextOffset ∧ loc.isLast = false
    · rw [if_pos hcond, if_pos hcond]
      by_cases hmagic : i < padStart loc data + 4
      · rw [Mem.fill_of_outside _ (by omega), putBe32_of_outside _ (by omega),
          putBe32_of_inside _ _ (by omega) hmagic,
          List.getD_append _ _ _ _ (by rw [length_be32Bytes]; omega)]
      · by_cases hlen : i < padStart loc data + 8
        · rw [Mem.fill_of_outside _ (by omega), putBe32_of_inside _ _ (by omega) (by omega),
            List.getD_append_right _ _ _ _ (by rw [length_be32Bytes]; omega), length_be32Bytes,
            Nat.sub_sub i]
        · have hlong : (be32Bytes eepromPadMagic ++
              be32Bytes (loc.nextOffset - padStart loc data - 8)).length ≤
                i - padStart loc data := by
            rw [List.length_append, length_be32Bytes, length_be32Bytes]
            omega
          rw [Mem.fill_inside _ (by omega) (by omega), List.getD_eq_default _ _ hlong]
    · rw [if_neg hcond, if_neg hcond, Mem.fill_inside _ (by omega) (by omega),
        List.getD_eq_default _ _ (by simp)]

theorem slice_replaceContent (hnext : padStart loc data ≤ loc.nextOffset) :
    (replaceContent image loc data).slice loc.contentOffset data.length = data := by
  have hge := padStart_ge loc data
  refine List.ext_getElem (by simp) fun k hk hk' => ?_
  rw [Mem.getElem_slice hk, replaceContent_inside hnext (by omega) (by omega)]
  unfold replacementByte
  rw [if_pos (by omega), show loc.contentOffset + k - loc.contentOffset = k from by omega,
    List.getD_eq_getElem _ _ hk']

/-- The new length field. -/
theorem be32_replaceContent_length
    (hhdr : loc.hdrOffset + 8 ≤ loc.contentOffset) (hlen : data.length ≤ eepromMaxFileSize) :
    be32 (replaceContent image loc data) (loc.hdrOffset + 4) = data.length + 16 := by
  have hge := padStart_ge loc data
  have hmax : eepromMaxFileSize = 4076 := by decide
  rw [← be32_putBe32 image (loc.hdrOffset + 4) (v := data.length + 16) (by omega)]
  refine be32_congr fun i hi hi' => ?_
  rw [replaceContent_eq]
  have hcontent : contentWritten image loc data i =
      putBe32 image (loc.hdrOffset + 4) (data.length + 16) i := by
    unfold contentWritten
    rw [Mem.fill_of_outside _ (by omega), Mem.write_of_outside _ (by omega)]
    rfl
  split
  · rw [Mem.fill_of_outside _ (by omega), putBe32_of_outside _ (by omega),
      putBe32_of_outside _ (by omega), hcontent]
  · rw [Mem.fill_of_outside _ (by omega), hcontent]

/-! ## A replacement that takes place -/

/-- What the windows of the callers have in common: 8-aligned, clear of the scratch sector. -/
structure EepromWindow.Fits (w : EepromWindow) (size : Nat) : Prop where
  walkStart : w.walkStart % 8 = 0
  winEnd : w.winEnd % 8 = 0
  scratch : w.winEnd + eepromEraseAlign ≤ size
  size_lt : size < 2 ^ 32

theorem EepromPartition.fits (p : EepromPartition) : p.window.Fits eepromImageSize2712 := by
  cases p
  · exact ⟨by decide, by decide, by decide, by decide⟩
  · exact ⟨by decide, by decide, by decide, by decide⟩

/-- The lookup stops at `s`, with `pre` and `rest` around it on the chain, and the content fits. -/
structure Replacing (image : Mem) (size : Nat) (w : EepromWindow) (name : CString)
    (data : List UInt8) (pre : List EepromSection) (s : EepromSection)
    (rest : List EepromSection) : Prop where
  fits : w.Fits size
  walk : walkSections image size w.walkStart eepromMaxSections = some (pre ++ s :: rest)
  first : ∀ t ∈ pre, sectionMatches image w name t = false
  hit : sectionMatches image w name s = true
  len : data.length ≤ eepromMaxFileSize
  scratch : s.offset + 24 + data.length ≤ size - eepromEraseAlign
  room : s.offset + 24 + data.length ≤ (locOfMatch size w s rest).nextOffset

/-- The image afterwards. -/
def replaced (image : Mem) (size : Nat) (w : EepromWindow) (data : List UInt8) (s : EepromSection)
    (rest : List EepromSection) : Mem :=
  replaceContent image (locOfMatch size w s rest) data

/-- The replaced section. -/
def newSection (s : EepromSection) (data : List UInt8) : EepromSection :=
  ⟨eepromFileMagic, s.offset, data.length + 16⟩

theorem contentLenOf_newSection : contentLenOf (newSection s data) = data.length := by
  unfold contentLenOf newSection
  rw [show eepromFilenameLen = 12 from rfl, if_pos (by simp)]
  simp

/-- The pad section behind the content, where there is a gap to fill. -/
def padSections (loc : EepromFileLoc) (data : List UInt8) : List EepromSection :=
  if padStart loc data < loc.nextOffset then
    [⟨eepromPadMagic, padStart loc data, loc.nextOffset - padStart loc data - 8⟩]
  else []

/-- **What a call does**: nothing, or the replacement of the file it found. -/
theorem eepromReplaceFileIn_cases (hw : w.Fits size) (image : Mem) (name : CString)
    (data : List UInt8) :
    (∃ status, status ≠ EfiStatus.success ∧
        eepromReplaceFileIn image size w name data = (status, image)) ∨
      ∃ pre s rest, Replacing image size w name data pre s rest ∧
        eepromFindFileIn image size w name = some (locOfMatch size w s rest) ∧
        eepromReplaceFileIn image size w name data =
          (.success, replaced image size w data s rest) := by
  unfold eepromReplaceFileIn
  by_cases hlen : data.length > eepromMaxFileSize
  · rw [if_pos hlen]
    exact Or.inl ⟨_, by decide, rfl⟩
  · rw [if_neg hlen]
    cases hfind : eepromFindFileIn image size w name with
    | none => exact Or.inl ⟨_, by decide, rfl⟩
    | some loc =>
      simp only
      split
      · exact Or.inl ⟨_, by decide, rfl⟩
      · rename_i hfit
        obtain ⟨pre, s, rest, hwalk, hpre, hs, rfl⟩ := eepromFindFileIn_eq_some_iff.mp hfind
        simp only [not_or, Nat.not_lt] at hfit
        exact Or.inr ⟨pre, s, rest, ⟨hw, hwalk, hpre, hs, by omega, hfit.1, hfit.2⟩, rfl, rfl⟩

theorem eepromReplaceFileIn_of_replacing (h : Replacing image size w name data pre s rest) :
    eepromFindFileIn image size w name = some (locOfMatch size w s rest) ∧
      eepromReplaceFileIn image size w name data =
        (.success, replaced image size w data s rest) := by
  have hfind : eepromFindFileIn image size w name = some (locOfMatch size w s rest) :=
    eepromFindFileIn_eq_some_iff.mpr ⟨pre, s, rest, h.walk, h.first, h.hit, rfl⟩
  refine ⟨hfind, ?_⟩
  unfold eepromReplaceFileIn
  rw [if_neg (Nat.not_lt.mpr h.len), hfind]
  simp only
  rw [if_neg]
  · rfl
  · have hscratch := h.scratch
    have hroom := h.room
    simp only [not_or, Nat.not_lt]
    exact ⟨hscratch, hroom⟩

/-- The tests a content passes before it is written. -/
def ContentFits (size : Nat) (loc : EepromFileLoc) (data : List UInt8) : Prop :=
  data.length ≤ eepromMaxFileSize ∧
    loc.contentOffset + data.length ≤ size - eepromEraseAlign ∧
    loc.contentOffset + data.length ≤ loc.nextOffset

instance : Decidable (ContentFits size loc data) := by unfold ContentFits; infer_instance

theorem replacing_iff (hw : w.Fits size) :
    eepromFindFileIn image size w name = some loc ∧ ContentFits size loc data ↔
      ∃ pre s rest, Replacing image size w name data pre s rest ∧
        loc = locOfMatch size w s rest := by
  constructor
  · rintro ⟨hfind, hlen, hscratch, hroom⟩
    obtain ⟨pre, s, rest, hwalk, hpre, hs, rfl⟩ := eepromFindFileIn_eq_some_iff.mp hfind
    exact ⟨pre, s, rest, ⟨hw, hwalk, hpre, hs, hlen, hscratch, hroom⟩, rfl⟩
  · rintro ⟨pre, s, rest, h, rfl⟩
    exact ⟨(eepromReplaceFileIn_of_replacing h).1, h.len, h.scratch, h.room⟩

theorem le_padStart_loc (size : Nat) (w : EepromWindow) (s : EepromSection)
    (rest : List EepromSection) (data : List UInt8) :
    s.offset + 24 + data.length ≤ padStart (locOfMatch size w s rest) data :=
  alignUp8_ge _

namespace Replacing

/-! ### Where things are -/

theorem path (h : Replacing image size w name data pre s rest) :
    Path (sectionHead image size) w.walkStart pre s.offset :=
  (walkSections_split h.walk).2.1

theorem onChain (h : Replacing image size w name data pre s rest) : OnChain image size w s := by
  obtain ⟨-, hpath, n, -, hhead, -, -⟩ := walkSections_split h.walk
  exact ⟨⟨pre, hpath⟩, n, hhead⟩

theorem firstMatch (h : Replacing image size w name data pre s rest) :
    FirstMatch image size w name s := by
  refine ⟨h.onChain, h.hit, fun t ht hlt => ?_⟩
  exact h.first t (mem_of_onChain h.path ht hlt)

theorem aligned (h : Replacing image size w name data pre s rest) : s.offset % 8 = 0 :=
  reaches_aligned h.onChain.1 h.fits.walkStart

theorem magic (h : Replacing image size w name data pre s rest) : s.magic = eepromFileMagic :=
  (sectionMatches_iff.mp h.hit).1

theorem offset_lt (h : Replacing image size w name data pre s rest) :
    s.offset + 8 ≤ w.winEnd := by
  have hlt := (sectionMatches_iff.mp h.hit).2.2.1
  have hs := h.aligned
  have hw := h.fits.winEnd
  omega

/-- **Where the rewritten range ends**: at the first section behind that is no pad, or, where only
pads follow, at the end of the window. -/
theorem next_cases (h : Replacing image size w name data pre s rest) :
    (∃ a r b, rest = a ++ r :: b ∧ (∀ t ∈ a, t.magic = eepromPadMagic) ∧
        r.magic ≠ eepromPadMagic ∧ (locOfMatch size w s rest).nextOffset = r.offset ∧
        OnChain image size w r ∧ s.offset < r.offset ∧
        Path (sectionHead image size) w.walkStart (pre ++ s :: a) r.offset) ∨
      (∀ t ∈ rest, t.magic = eepromPadMagic) ∧
        (locOfMatch size w s rest).nextOffset = w.winEnd := by
  unfold locOfMatch
  cases hfind : rest.find? (fun t => t.magic != eepromPadMagic) with
  | none =>
    right
    refine ⟨fun t ht => ?_, ?_⟩
    · simpa using List.find?_eq_none.mp hfind t ht
    · have hscratch := h.fits.scratch
      simp only
      omega
  | some r =>
    left
    obtain ⟨hr, a, b, hrest, ha⟩ := List.find?_eq_some_iff_append.mp hfind
    have hwalk : walkSections image size w.walkStart eepromMaxSections =
        some ((pre ++ s :: a) ++ r :: b) := by
      rw [h.walk, hrest]
      simp
    obtain ⟨-, hpath, n, -, hhead, -, -⟩ := walkSections_split hwalk
    obtain ⟨-, hlt⟩ := (onChain_of_path (w := w) (Reaches.refl _ _) hpath
      (t := s) (by simp)).2
    exact ⟨a, r, b, hrest, fun t ht => by simpa using ha t ht, by simpa using hr, rfl,
      ⟨⟨_, hpath⟩, n, hhead⟩, hlt, hpath⟩

theorem next_aligned (h : Replacing image size w name data pre s rest) :
    (locOfMatch size w s rest).nextOffset % 8 = 0 := by
  rcases h.next_cases with ⟨a, r, b, -, -, -, hnext, hr, -⟩ | ⟨-, hnext⟩
  · rw [hnext]
    exact reaches_aligned hr.1 h.fits.walkStart
  · rw [hnext]
    exact h.fits.winEnd

theorem next_le_size (h : Replacing image size w name data pre s rest) :
    (locOfMatch size w s rest).nextOffset + 8 ≤ size := by
  rcases h.next_cases with ⟨a, r, b, -, -, -, hnext, ⟨-, n, hn⟩, -⟩ | ⟨-, hnext⟩
  · have hfit := (sectionHead_eq_record_iff.mp hn).2.2.2.2.1
    omega
  · have hscratch := h.fits.scratch
    have herase : eepromEraseAlign = 4096 := rfl
    omega

theorem padStart_le (h : Replacing image size w name data pre s rest) :
    padStart (locOfMatch size w s rest) data ≤ (locOfMatch size w s rest).nextOffset :=
  alignUp8_le h.next_aligned h.room

/-- A section behind the replaced one that is no pad starts at or behind the rewritten range. -/
theorem next_le (h : Replacing image size w name data pre s rest) (ht : OnChain image size w t)
    (hlt : s.offset < t.offset) (hpad : t.magic ≠ eepromPadMagic) :
    (locOfMatch size w s rest).nextOffset ≤ t.offset := by
  -- the section would be one of the pads in between
  have hmem : t ∉ pre ++ [s] := by
    intro hmem
    rcases List.mem_append.mp hmem with hmem | hmem
    · have hpre := (onChain_of_path (w := w) (Reaches.refl _ _) h.path hmem).2.2
      omega
    · rw [List.mem_singleton] at hmem
      rw [hmem] at hlt
      exact Nat.lt_irrefl _ hlt
  rcases h.next_cases with ⟨a, r, b, -, ha, -, hnext, -, -, hpath⟩ | ⟨hrest, -⟩
  · rw [hnext]
    by_contra hcon
    have hin := mem_of_onChain hpath ht (by omega)
    rw [show pre ++ s :: a = (pre ++ [s]) ++ a from by simp] at hin
    rcases List.mem_append.mp hin with hin | hin
    · exact hmem hin
    · exact hpad (ha t hin)
  · exfalso
    have hwalk := h.walk
    rw [walkSections_eq_walk] at hwalk
    obtain ⟨⟨l, hl⟩, n, hn⟩ := ht
    obtain ⟨r, hr, -⟩ := exists_append_of_walk hwalk (hl.append (.single hn))
    have hin : t ∈ pre ++ s :: rest := by
      rw [hr]
      simp
    rw [show pre ++ s :: rest = (pre ++ [s]) ++ rest from by simp] at hin
    rcases List.mem_append.mp hin with hin | hin
    · exact hmem hin
    · exact hpad (hrest t hin)

/-- A section of the chain in front of the replaced one ends in front of it. -/
theorem end_le (h : Replacing image size w name data pre s rest) (ht : OnChain image size w t)
    (hlt : t.offset < s.offset) : t.offset + 8 + t.length ≤ s.offset := by
  obtain ⟨hreach, n, hn⟩ := ht
  have hto := (Reaches.through (sectionHead_ascending image size) hreach (Nat.le_of_lt hlt)).mp
    h.onChain.1
  have hle := (hto.next (sectionHead_ascending image size) hn (by omega)).1
  obtain ⟨-, -, -, -, -, rfl⟩ := sectionHead_eq_record_iff.mp hn
  exact Nat.le_trans (alignUp8_ge _) hle

/-! ### The bytes afterwards -/

theorem outside (h : Replacing image size w name data pre s rest) {i : Nat}
    (hhdr : ¬(s.offset + 4 ≤ i ∧ i < s.offset + 8))
    (hrange : ¬(s.offset + 24 ≤ i ∧ i < (locOfMatch size w s rest).nextOffset)) :
    replaced image size w data s rest i = image i :=
  replaceContent_outside h.padStart_le hhdr hrange

theorem content (h : Replacing image size w name data pre s rest) :
    (replaced image size w data s rest).slice (s.offset + 24) data.length = data :=
  show (replaceContent image (locOfMatch size w s rest) data).slice
      (locOfMatch size w s rest).contentOffset data.length = data from
    slice_replaceContent h.padStart_le

/-! ### The headers afterwards -/

theorem head_low (h : Replacing image size w name data pre s rest) (ho : o + 8 ≤ s.offset) :
    sectionHead (replaced image size w data s rest) size o = sectionHead image size o :=
  sectionHead_congr fun i hi hi' => h.outside (by omega) (by omega)

theorem head_high (h : Replacing image size w name data pre s rest)
    (ho : (locOfMatch size w s rest).nextOffset ≤ o) :
    sectionHead (replaced image size w data s rest) size o = sectionHead image size o := by
  have hroom := h.room
  exact sectionHead_congr fun i hi hi' => h.outside (by omega) (by omega)

theorem head_self (h : Replacing image size w name data pre s rest) :
    sectionHead (replaced image size w data s rest) size s.offset =
      .record (newSection s data) (padStart (locOfMatch size w s rest) data) := by
  have hlength : be32 (replaced image size w data s rest) (s.offset + 4) = data.length + 16 :=
    show be32 (replaceContent image (locOfMatch size w s rest) data)
        ((locOfMatch size w s rest).hdrOffset + 4) = data.length + 16 from
      be32_replaceContent_length (show s.offset + 8 ≤ s.offset + 24 by omega) h.len
  have hmagic : be32 (replaced image size w data s rest) s.offset = be32 image s.offset :=
    be32_congr fun i hi hi' => h.outside (by omega) (by omega)
  obtain ⟨-, n, hn⟩ := h.onChain
  have hold := (sectionHead_eq_record_iff.mp hn).2.1
  rw [h.magic] at hold
  have hroom := h.room
  have hsize := h.next_le_size
  refine sectionHead_eq_record_iff.mpr
    ⟨rfl, hmagic.trans hold, hlength, isSectionMagic_file, ?_, ?_⟩
  · show s.offset + 8 + (data.length + 16) ≤ size
    omega
  · show alignUp8 (s.offset + 24 + data.length) = alignUp8 (s.offset + 8 + (data.length + 16))
    congr 1
    omega

/-- The pad section in front of the next section. -/
theorem head_pad (h : Replacing image size w name data pre s rest)
    (hgap : padStart (locOfMatch size w s rest) data < (locOfMatch size w s rest).nextOffset)
    (hlast : rest ≠ []) :
    sectionHead (replaced image size w data s rest) size
        (padStart (locOfMatch size w s rest) data) =
      .record ⟨eepromPadMagic, padStart (locOfMatch size w s rest) data,
        (locOfMatch size w s rest).nextOffset - padStart (locOfMatch size w s rest) data - 8⟩
        (locOfMatch size w s rest).nextOffset := by
  have hnext := h.next_aligned
  have hpadmod : padStart (locOfMatch size w s rest) data % 8 = 0 := alignUp8_mod _
  have hsize := h.next_le_size
  have hlt := h.fits.size_lt
  have hge := le_padStart_loc size w s rest data
  have hcond : padStart (locOfMatch size w s rest) data + 8 ≤
      (locOfMatch size w s rest).nextOffset ∧ (locOfMatch size w s rest).isLast = false := by
    refine ⟨by omega, ?_⟩
    cases rest with
    | nil => exact absurd rfl hlast
    | cons r rest => rfl
  generalize hloc : locOfMatch size w s rest = loc at *
  have hheader : padHeader loc data =
      be32Bytes eepromPadMagic ++ be32Bytes (loc.nextOffset - padStart loc data - 8) := by
    unfold padHeader
    rw [if_pos hcond]
  have hoff : loc.contentOffset = s.offset + 24 := by rw [← hloc]; rfl
  have hbyte : ∀ k, k < 8 → replaced image size w data s rest (padStart loc data + k) =
      (be32Bytes eepromPadMagic ++
        be32Bytes (loc.nextOffset - padStart loc data - 8)).getD k 0xff := by
    intro k hk
    unfold replaced
    rw [hloc, replaceContent_inside (by omega) (by omega) (by omega),
      replacementByte_of_ge (by omega), hheader, Nat.add_sub_cancel_left]
  have hmagic : be32 (replaced image size w data s rest) (padStart loc data) = eepromPadMagic := by
    apply be32_of_bytes (by decide)
    intro k hk
    rw [hbyte k (by omega), List.getD_append _ _ _ _ hk]
  have hlength : be32 (replaced image size w data s rest) (padStart loc data + 4) =
      loc.nextOffset - padStart loc data - 8 := by
    apply be32_of_bytes (by omega)
    intro k hk
    rw [Nat.add_assoc, hbyte (4 + k) (by omega),
      List.getD_append_right _ _ _ _ (by rw [length_be32Bytes]; omega), length_be32Bytes,
      Nat.add_sub_cancel_left]
  refine sectionHead_eq_record_iff.mpr ⟨rfl, hmagic, hlength, isSectionMagic_pad, ?_, ?_⟩
  · show padStart loc data + 8 + (loc.nextOffset - padStart loc data - 8) ≤ size
    omega
  · show loc.nextOffset =
      alignUp8 (padStart loc data + 8 + (loc.nextOffset - padStart loc data - 8))
    unfold alignUp8
    omega

/-- Erased flash behind a file that was the last section. -/
theorem head_erased (h : Replacing image size w name data pre s rest)
    (hgap : padStart (locOfMatch size w s rest) data < (locOfMatch size w s rest).nextOffset)
    (hlast : rest = []) :
    sectionHead (replaced image size w data s rest) size
      (padStart (locOfMatch size w s rest) data) = .stop := by
  have hnext := h.next_aligned
  have hpadmod : padStart (locOfMatch size w s rest) data % 8 = 0 := alignUp8_mod _
  have hge := le_padStart_loc size w s rest data
  have hlastLoc : (locOfMatch size w s rest).isLast = true := by
    rw [hlast]
    rfl
  generalize hloc : locOfMatch size w s rest = loc at *
  have hoff : loc.contentOffset = s.offset + 24 := by rw [← hloc]; rfl
  have hheader : padHeader loc data = [] := by
    unfold padHeader
    rw [if_neg (by simp [hlastLoc])]
  have hbyte : ∀ k, k < 4 → replaced image size w data s rest (padStart loc data + k) = 0xff := by
    intro k hk
    unfold replaced
    rw [hloc, replaceContent_inside (by omega) (by omega) (by omega),
      replacementByte_of_ge (by omega), hheader]
    rfl
  refine sectionHead_stop_of_erased ?_
  have h0 := hbyte 0 (by omega)
  have h1 := hbyte 1 (by omega)
  have h2 := hbyte 2 (by omega)
  have h3 := hbyte 3 (by omega)
  rw [Nat.add_zero] at h0
  unfold be32
  rw [h0, h1, h2, h3]
  rfl

/-! ### The chain afterwards -/

/-- In front of the replaced section the chain is what it was. -/
theorem reaches_low (h : Replacing image size w name data pre s rest) (ho : o ≤ s.offset) :
    Reaches (sectionHead (replaced image size w data s rest) size) w.walkStart o ↔
      Reaches (sectionHead image size) w.walkStart o := by
  constructor
  · intro hreach
    refine hreach.congr (sectionHead_ascending _ size) fun x a n _ hn hhead => ?_
    have hlt := (sectionHead_eq_record_iff.mp hhead).2.2.2.2.2
    have hge := alignUp8_ge (x + 8 + a.length)
    rw [← h.head_low (by omega)]
    exact hhead
  · intro hreach
    refine hreach.congr (sectionHead_ascending _ size) fun x a n _ hn hhead => ?_
    have hlt := (sectionHead_eq_record_iff.mp hhead).2.2.2.2.2
    have hge := alignUp8_ge (x + 8 + a.length)
    rw [h.head_low (by omega)]
    exact hhead

/-- Behind the rewritten range it is, too. -/
theorem reaches_high (h : Replacing image size w name data pre s rest) :
    Reaches (sectionHead (replaced image size w data s rest) size)
        (locOfMatch size w s rest).nextOffset o ↔
      Reaches (sectionHead image size) (locOfMatch size w s rest).nextOffset o := by
  constructor
  · intro hreach
    refine hreach.congr (sectionHead_ascending _ size) fun x a n hx _ hhead => ?_
    rwa [← h.head_high hx]
  · intro hreach
    refine hreach.congr (sectionHead_ascending _ size) fun x a n hx _ hhead => ?_
    rwa [h.head_high hx]

theorem reaches_self (h : Replacing image size w name data pre s rest) :
    Reaches (sectionHead (replaced image size w data s rest) size) w.walkStart s.offset :=
  (h.reaches_low (Nat.le_refl _)).mpr h.onChain.1

/-- The sections in front are walked as before. -/
theorem path_pre (h : Replacing image size w name data pre s rest) :
    Path (sectionHead (replaced image size w data s rest) size) w.walkStart pre s.offset := by
  refine h.path.congr (sectionHead_ascending image size) fun x a n _ hn hhead => ?_
  have hlt := (sectionHead_eq_record_iff.mp hhead).2.2.2.2.2
  have hge := alignUp8_ge (x + 8 + a.length)
  rw [h.head_low (by omega)]
  exact hhead

theorem onChain_self (h : Replacing image size w name data pre s rest) :
    OnChain (replaced image size w data s rest) size w (newSection s data) :=
  ⟨h.reaches_self, _, h.head_self⟩

/-- **The new chain** up to the end of the rewritten range, unless the file is the last section
with erased flash behind it. -/
theorem path_next (h : Replacing image size w name data pre s rest)
    (hmore : padStart (locOfMatch size w s rest) data < (locOfMatch size w s rest).nextOffset →
      rest ≠ []) :
    Path (sectionHead (replaced image size w data s rest) size) w.walkStart
      (pre ++ newSection s data :: padSections (locOfMatch size w s rest) data)
      (locOfMatch size w s rest).nextOffset := by
  refine h.path_pre.append (.cons h.head_self ?_)
  unfold padSections
  by_cases hgap : padStart (locOfMatch size w s rest) data < (locOfMatch size w s rest).nextOffset
  · rw [if_pos hgap]
    exact .single (h.head_pad hgap (hmore hgap))
  · have heq := Nat.le_antisymm h.padStart_le (Nat.not_lt.mp hgap)
    rw [if_neg hgap, heq]
    exact .nil _

theorem onChain_low (h : Replacing image size w name data pre s rest) (hlt : t.offset < s.offset) :
    OnChain (replaced image size w data s rest) size w t ↔ OnChain image size w t := by
  have hself := h.aligned
  unfold OnChain
  rw [h.reaches_low (Nat.le_of_lt hlt)]
  refine and_congr_right fun hreach => ?_
  have hmod := reaches_aligned hreach h.fits.walkStart
  rw [h.head_low (by omega)]

/-- **The sections of the new chain**: those in front, the replaced one, the pad section, and what
is reached from the end of the rewritten range. -/
theorem onChain_cases (h : Replacing image size w name data pre s rest)
    (ht : OnChain (replaced image size w data s rest) size w t) :
    (t.offset < s.offset ∧ OnChain image size w t) ∨ t = newSection s data ∨
      t ∈ padSections (locOfMatch size w s rest) data ∨
      ((locOfMatch size w s rest).nextOffset ≤ t.offset ∧
        Reaches (sectionHead image size) (locOfMatch size w s rest).nextOffset t.offset ∧
        ∃ n, sectionHead image size t.offset = .record t n) := by
  have hasc' := sectionHead_ascending (replaced image size w data s rest) size
  rcases Nat.lt_trichotomy t.offset s.offset with hlt | heq | hgt
  · exact Or.inl ⟨hlt, (h.onChain_low hlt).mp ht⟩
  · exact Or.inr (Or.inl (ht.eq_of_offset h.onChain_self heq))
  · obtain ⟨hreach, n, hn⟩ := ht
    have hfrom := (h.reaches_self.through hasc' (Nat.le_of_lt hgt)).mp hreach
    obtain ⟨-, hfrom⟩ := hfrom.next hasc' h.head_self (by omega)
    have hhigh : (locOfMatch size w s rest).nextOffset ≤ t.offset →
        Reaches (sectionHead (replaced image size w data s rest) size)
          (locOfMatch size w s rest).nextOffset t.offset →
        (locOfMatch size w s rest).nextOffset ≤ t.offset ∧
          Reaches (sectionHead image size) (locOfMatch size w s rest).nextOffset t.offset ∧
          ∃ n, sectionHead image size t.offset = .record t n := by
      intro hle hr
      refine ⟨hle, h.reaches_high.mp hr, n, ?_⟩
      rwa [← h.head_high hle]
    rcases Nat.lt_or_eq_of_le h.padStart_le with hgap | heq
    · by_cases hlast : rest = []
      · -- the walk ends at the erased flash
        have hstop := h.head_erased hgap hlast
        have hsame := hfrom.eq_of_no_record (by rw [hstop]; simp)
        rw [← hsame, hstop] at hn
        cases hn
      · have hhead := h.head_pad hgap hlast
        by_cases hpad : padStart (locOfMatch size w s rest) data = t.offset
        · rw [← hpad, hhead] at hn
          cases hn
          refine Or.inr (Or.inr (Or.inl ?_))
          unfold padSections
          rw [if_pos hgap]
          exact List.mem_singleton_self _
        · obtain ⟨hle, hr⟩ := hfrom.next hasc' hhead hpad
          exact Or.inr (Or.inr (Or.inr (hhigh hle hr)))
    · rw [heq] at hfrom
      exact Or.inr (Or.inr (Or.inr (hhigh (hfrom.le hasc') hfrom)))

/-- What is reached from the end of the rewritten range is on the old chain, too, as long as a
section is left there. -/
theorem onChain_of_reaches_next (h : Replacing image size w name data pre s rest)
    (hwin : t.offset < w.winEnd) (hle : (locOfMatch size w s rest).nextOffset ≤ t.offset)
    (hreach : Reaches (sectionHead image size) (locOfMatch size w s rest).nextOffset t.offset)
    (hrec : ∃ n, sectionHead image size t.offset = .record t n) : OnChain image size w t := by
  rcases h.next_cases with ⟨a, r, b, -, -, -, hnext, hr, -⟩ | ⟨-, hnext⟩
  · rw [hnext] at hreach
    exact ⟨hr.1.trans hreach, hrec⟩
  · omega

/-- **The file sections on the chain are the same ones.** -/
theorem onChain_iff (h : Replacing image size w name data pre s rest)
    (hfile : t.magic = eepromFileMagic) (hwin : t.offset < w.winEnd) (hne : t.offset ≠ s.offset) :
    OnChain (replaced image size w data s rest) size w t ↔ OnChain image size w t := by
  have hpad : t.magic ≠ eepromPadMagic := by
    rw [hfile]
    decide
  have hasc := sectionHead_ascending image size
  constructor
  · intro ht
    rcases h.onChain_cases ht with ⟨-, hold⟩ | rfl | hmem | ⟨hle, hreach, hrec⟩
    · exact hold
    · exact absurd rfl hne
    · unfold padSections at hmem
      split at hmem
      · rw [List.mem_singleton] at hmem
        rw [hmem] at hpad
        exact absurd rfl hpad
      · simp at hmem
    · exact h.onChain_of_reaches_next hwin hle hreach hrec
  · intro ht
    rcases Nat.lt_or_gt_of_ne hne with hlt | hgt
    · exact (h.onChain_low hlt).mpr ht
    · have hle := h.next_le ht hgt hpad
      obtain ⟨hreach, n, hn⟩ := ht
      have hrest : rest ≠ [] ∧ Reaches (sectionHead image size) w.walkStart
          (locOfMatch size w s rest).nextOffset := by
        rcases h.next_cases with ⟨a, r, b, hrest, -, -, hnext, hr, -⟩ | ⟨-, hnext⟩
        · rw [hnext]
          exact ⟨by simp [hrest], hr.1⟩
        · omega
      have hfrom := (hrest.2.through hasc hle).mp hreach
      refine ⟨Reaches.trans ⟨_, h.path_next fun _ => hrest.1⟩ (h.reaches_high.mpr hfrom), n, ?_⟩
      rwa [h.head_high hle]

/-! ### Names and contents afterwards -/

/-- The replaced section keeps its name. -/
theorem matches_self (h : Replacing image size w name data pre s rest) (w' : EepromWindow)
    (name' : CString) :
    sectionMatches (replaced image size w data s rest) w' name' (newSection s data) =
      sectionMatches image w' name' s := by
  have hname : fileNameMatches (replaced image size w data s rest) (s.offset + 8) name' =
      fileNameMatches image (s.offset + 8) name' :=
    fileNameMatches_congr fun i hi hi' => h.outside (by omega) (by omega)
  unfold sectionMatches
  rw [h.magic]
  show (_ && fileNameMatches _ (s.offset + 8) name') = _
  rw [hname]
  rfl

/-- Every section but an empty one right in front of the replaced one keeps its name. -/
theorem matches_other (h : Replacing image size w name data pre s rest)
    (ht : OnChain image size w t) (hfile : t.magic = eepromFileMagic) (hne : t.offset ≠ s.offset)
    (hover : t.offset + 8 ≠ s.offset) (w' : EepromWindow) (name' : CString) :
    sectionMatches (replaced image size w data s rest) w' name' t =
      sectionMatches image w' name' t := by
  have hpad : t.magic ≠ eepromPadMagic := by
    rw [hfile]
    decide
  have hmod := reaches_aligned ht.1 h.fits.walkStart
  have hself := h.aligned
  have hname : fileNameMatches (replaced image size w data s rest) (t.offset + 8) name' =
      fileNameMatches image (t.offset + 8) name' := by
    rcases Nat.lt_or_gt_of_ne hne with hlt | hgt
    · exact fileNameMatches_congr fun i hi hi' => h.outside (by omega) (by omega)
    · have hle := h.next_le ht hgt hpad
      have hroom := h.room
      exact fileNameMatches_congr fun i hi hi' => h.outside (by omega) (by omega)
  unfold sectionMatches
  rw [hname]

/-- The name field of an empty section in front covers the new length, which no name contains. -/
theorem matches_overlap (h : Replacing image size w name data pre s rest)
    (hover : t.offset + 8 = s.offset) (w' : EepromWindow) (name' : CString) :
    sectionMatches (replaced image size w data s rest) w' name' t = false := by
  by_contra hmatch
  rw [Bool.not_eq_false] at hmatch
  obtain ⟨-, -, -, hname⟩ := sectionMatches_iff.mp hmatch
  rw [hover, fileNameMatches_iff] at hname
  obtain ⟨hlen, hbytes⟩ := hname
  have hword := (sectionHead_eq_record_iff.mp h.head_self).2.2.1
  have hmax := h.len
  rw [show eepromMaxFileSize = 4076 from by decide] at hmax
  have h4 := hbytes 4 (by omega)
  have h5 := hbytes 5 (by omega)
  have h6 := hbytes 6 (by omega)
  have h7 := hbytes 7 (by omega)
  -- the first byte of the length is zero, so the name ends there
  have hzero : replaced image size w data s rest (s.offset + 4) = 0 := by
    have hlt : (replaced image size w data s rest (s.offset + 4)).toNat = 0 := by
      unfold be32 at hword
      simp only [newSection] at hword
      omega
    exact UInt8.toNat_inj.mp hlt
  rw [h4] at hzero
  have hshort : name'.bytes.length ≤ 4 := by
    by_contra hlong
    exact name'.getD_ne_zero (by omega) hzero
  rw [List.getD_eq_default _ _ (by omega)] at h4 h5 h6 h7
  unfold be32 at hword
  simp only [newSection, Nat.add_assoc, Nat.reduceAdd, h4, h5, h6, h7] at hword
  simp at hword

/-- A match afterwards is the replaced file, or a match from before. -/
theorem match_cases (h : Replacing image size w name data pre s rest)
    (hw' : w'.walkStart = w.walkStart) (hend : w'.winEnd ≤ w.winEnd)
    (ht : OnChain (replaced image size w data s rest) size w' t)
    (hmatch : sectionMatches (replaced image size w data s rest) w' name' t = true) :
    (t = newSection s data ∧ sectionMatches image w' name' s = true) ∨
      (t.offset ≠ s.offset ∧ OnChain image size w' t ∧
        sectionMatches image w' name' t = true) := by
  obtain ⟨hfile, -, hwin, -⟩ := sectionMatches_iff.mp hmatch
  rw [onChain_window hw'] at ht ⊢
  by_cases hself : t.offset = s.offset
  · have hnew : t = newSection s data := ht.eq_of_offset h.onChain_self hself
    rw [hnew, h.matches_self] at hmatch
    exact Or.inl ⟨hnew, hmatch⟩
  · have hold := (h.onChain_iff hfile (by omega) hself).mp ht
    by_cases hover : t.offset + 8 = s.offset
    · rw [h.matches_overlap hover] at hmatch
      cases hmatch
    · rw [h.matches_other hold hfile hself hover] at hmatch
      exact Or.inr ⟨hself, hold, hmatch⟩

/-- **The replaced file is found first** under its name. -/
theorem firstMatch_self (h : Replacing image size w name data pre s rest) :
    FirstMatch (replaced image size w data s rest) size w name (newSection s data) := by
  refine ⟨h.onChain_self, (h.matches_self w name).trans h.hit, fun t ht hlt => ?_⟩
  by_contra hmatch
  rw [Bool.not_eq_false] at hmatch
  rcases h.match_cases rfl (Nat.le_refl _) ht hmatch with ⟨rfl, -⟩ | ⟨-, hold, hmatch⟩
  · exact Nat.lt_irrefl _ hlt
  · rw [h.firstMatch.first t hold hlt] at hmatch
    cases hmatch

theorem name_eq (h : Replacing image size w name data pre s rest)
    (hmatch : sectionMatches image w' name' t = true) (heq : t.offset = s.offset) :
    name' = name := by
  have hs := (sectionMatches_iff.mp h.hit).2.2.2
  rw [← heq] at hs
  exact fileNameMatches_unique (sectionMatches_iff.mp hmatch).2.2.2 hs

/-- **Every other file is found where it was.** -/
theorem firstMatch_other (h : Replacing image size w name data pre s rest)
    (hw' : w'.walkStart = w.walkStart) (hend : w'.winEnd ≤ w.winEnd) (hname : name' ≠ name)
    (ht : FirstMatch image size w' name' t) (hover : t.offset + 8 ≠ s.offset) :
    FirstMatch (replaced image size w data s rest) size w' name' t := by
  obtain ⟨hfile, -, hwin, -⟩ := sectionMatches_iff.mp ht.hit
  have hne : t.offset ≠ s.offset := fun heq => hname (h.name_eq ht.hit heq)
  have hon := (onChain_window hw').mp ht.onChain
  refine ⟨(onChain_window hw').mpr ((h.onChain_iff hfile (by omega) hne).mpr hon), ?_,
    fun t' ht' hlt => ?_⟩
  · rw [h.matches_other hon hfile hne hover]
    exact ht.hit
  · by_contra hmatch
    rw [Bool.not_eq_false] at hmatch
    rcases h.match_cases hw' hend ht' hmatch with ⟨-, hs⟩ | ⟨-, hold, hmatch⟩
    · exact hname (h.name_eq hs rfl)
    · rw [ht.first t' hold hlt] at hmatch
      cases hmatch

/-- A name that was not on the chain is not on it afterwards. -/
theorem noMatch_other (h : Replacing image size w name data pre s rest)
    (hno : NoMatch image size w name') :
    NoMatch (replaced image size w data s rest) size w name' := by
  intro t ht
  by_contra hmatch
  rw [Bool.not_eq_false] at hmatch
  rcases h.match_cases rfl (Nat.le_refl _) ht hmatch with ⟨-, hs⟩ | ⟨-, hold, hmatch⟩
  · rw [hno s h.onChain] at hs
    cases hs
  · rw [hno t hold] at hmatch
    cases hmatch

/-- The content of the other sections is not written. -/
theorem content_other (h : Replacing image size w name data pre s rest)
    (ht : OnChain image size w t)
    (hpad : t.magic ≠ eepromPadMagic) (hne : t.offset ≠ s.offset) :
    (replaced image size w data s rest).slice (t.offset + 24) (contentLenOf t) =
      image.slice (t.offset + 24) (contentLenOf t) := by
  have hroom := h.room
  refine Mem.slice_congr fun i hi hi' => h.outside ?_ ?_
  all_goals
    unfold contentLenOf at hi'
    rw [show eepromFilenameLen = 12 from rfl] at hi'
    rcases Nat.lt_or_gt_of_ne hne with hlt | hgt
    · have hend := h.end_le ht hlt
      split at hi' <;> omega
    · have hle := h.next_le ht hgt hpad
      omega

end Replacing

end Rpi5Uefi
