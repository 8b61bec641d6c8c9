import Rpi5Uefi.Eeprom.Replace

/-!
# What a replacement leaves alone

A failed call writes nothing. A successful one writes the length field of its section and the
bytes from the content to `NextOffset`, which the lookup seeds with the end of the window and the
scratch sector but then sets to the next section that is no pad, wherever that is.

* **`ReplaceFrame`** is the frame the lookup's comment promises: nothing at or behind the limit
  `MIN (WinEnd, Size - EEPROM_ERASE_ALIGN)`, no other section, not the other partition, not the
  scratch sector.
* **`replace_frame_iff`** is the exact condition for it.
-/

namespace Rpi5Uefi

open Bytes Chain

variable {image : Mem} {size : Nat} {w : EepromWindow} {name : CString} {data : List UInt8}
  {pre rest : List EepromSection} {s t : EepromSection} {p : EepromPartition}

/-- The end of the range the padding is meant to stay in front of. -/
def windowLimit (size : Nat) (w : EepromWindow) : Nat := min w.winEnd (size - eepromEraseAlign)

def EepromPartition.other : EepromPartition → EepromPartition
  | .a => .b
  | .b => .a

/-- What a successful replacement at `loc` may change. -/
structure FrameAt (image image' : Mem) (p : EepromPartition) (loc : EepromFileLoc) : Prop where
  changed : ∀ i, i < eepromImageSize2712 → image' i ≠ image i →
    (loc.hdrOffset + 4 ≤ i ∧ i < loc.hdrOffset + 8) ∨
      (loc.contentOffset ≤ i ∧ i < windowLimit eepromImageSize2712 p.window)
  sections : ∀ l, walkSections image eepromImageSize2712 p.window.walkStart eepromMaxSections =
    some l → ∀ t ∈ l, t.magic ≠ eepromPadMagic → t.offset ≠ loc.hdrOffset →
      ∀ i, t.offset ≤ i → i < t.offset + 8 + t.length → image' i = image i
  partition : ∀ i, p.other.window.winStart ≤ i → i < p.other.window.winEnd → image' i = image i
  name : ∀ i, loc.hdrOffset + 8 ≤ i → i < loc.contentOffset → image' i = image i
  scratch : ∀ i, eepromImageSize2712 - eepromEraseAlign ≤ i → i < eepromImageSize2712 →
    image' i = image i

/-- The frame of a call, by its status. -/
structure ReplaceFrame (image : Mem) (p : EepromPartition) (name : CString) (data : List UInt8)
    (result : EfiStatus × Mem) : Prop where
  error : result.1 ≠ .success → result.2 = image
  success : result.1 = .success → ∃ loc,
    eepromFindFileIn image eepromImageSize2712 p.window name = some loc ∧
      FrameAt image result.2 p loc

/-- What stands at or behind the limit in the range up to `NextOffset` is what the replacement
puts there. Nothing stands there where `NextOffset` does not pass the limit. -/
def StaysInWindow (image : Mem) (p : EepromPartition) (name : CString) (data : List UInt8) : Prop :=
  ∀ loc, eepromFindFileIn image eepromImageSize2712 p.window name = some loc →
    ContentFits eepromImageSize2712 loc data →
      ∀ i, windowLimit eepromImageSize2712 p.window ≤ i → loc.contentOffset ≤ i →
        i < loc.nextOffset → image i = replacementByte loc data i

/-- In particular: no section that is no pad follows the file beyond the limit. -/
theorem staysInWindow_of_next_le
    (h : ∀ loc, eepromFindFileIn image eepromImageSize2712 p.window name = some loc →
      loc.nextOffset ≤ windowLimit eepromImageSize2712 p.window) :
    StaysInWindow image p name data := by
  intro loc hfind _ i hi _ hlt
  have hle := h loc hfind
  omega

theorem windowLimit_partition (p : EepromPartition) :
    windowLimit eepromImageSize2712 p.window = p.window.winEnd := by
  cases p <;> decide

namespace Replacing

theorem inside (h : Replacing image size w name data pre s rest) {i : Nat}
    (h1 : s.offset + 24 ≤ i) (h2 : i < (locOfMatch size w s rest).nextOffset) :
    replaced image size w data s rest i = replacementByte (locOfMatch size w s rest) data i :=
  replaceContent_inside h.padStart_le h1 h2

/-- No byte of another section is written, unless the section is a pad. -/
theorem section_unchanged (h : Replacing image size w name data pre s rest)
    (ht : OnChain image size w t) (hpad : t.magic ≠ eepromPadMagic) (hne : t.offset ≠ s.offset)
    {i : Nat} (h1 : t.offset ≤ i) (h2 : i < t.offset + 8 + t.length) :
    replaced image size w data s rest i = image i := by
  have hroom := h.room
  rcases Nat.lt_or_gt_of_ne hne with hlt | hgt
  · have hend := h.end_le ht hlt
    exact h.outside (by omega) (by omega)
  · have hle := h.next_le ht hgt hpad
    exact h.outside (by omega) (by omega)

end Replacing

theorem frame_of_staysInWindow
    (h : Replacing image eepromImageSize2712 p.window name data pre s rest)
    (hstays : ∀ i, windowLimit eepromImageSize2712 p.window ≤ i → s.offset + 24 ≤ i →
      i < (locOfMatch eepromImageSize2712 p.window s rest).nextOffset →
      image i = replacementByte (locOfMatch eepromImageSize2712 p.window s rest) data i) :
    FrameAt image (replaced image eepromImageSize2712 p.window data s rest) p
      (locOfMatch eepromImageSize2712 p.window s rest) := by
  have hstart := h.offset_lt
  have hlimit := windowLimit_partition p
  -- at or behind the limit a byte is outside the rewritten range or keeps its value
  have hbehind : ∀ i, windowLimit eepromImageSize2712 p.window ≤ i →
      replaced image eepromImageSize2712 p.window data s rest i = image i := by
    intro i hi
    by_cases hin : s.offset + 24 ≤ i ∧
        i < (locOfMatch eepromImageSize2712 p.window s rest).nextOffset
    · rw [h.inside hin.1 hin.2, hstays i hi hin.1 hin.2]
    · exact h.outside (by omega) hin
  refine ⟨fun i _ hne => ?_, fun l hl t ht hpad hne i h1 h2 => ?_, fun i h1 h2 => ?_,
    fun i h1 h2 => ?_, fun i h1 _ => ?_⟩
  · by_cases hlt : i < windowLimit eepromImageSize2712 p.window
    · by_cases hhdr : s.offset + 4 ≤ i ∧ i < s.offset + 8
      · exact Or.inl hhdr
      · refine Or.inr ⟨?_, hlt⟩
        show s.offset + 24 ≤ i
        by_contra hlow
        exact hne (h.outside hhdr (by omega))
    · exact absurd (hbehind i (by omega)) hne
  · rw [walkSections_eq_walk, Chain.walk_eq_some_iff] at hl
    obtain ⟨-, m, hpath, -⟩ := hl
    have hon := (onChain_of_path (w := p.window) (Reaches.refl _ _) hpath ht).1
    exact h.section_unchanged hon hpad hne h1 h2
  · cases p
    · -- partition B starts at the limit of partition A
      exact hbehind i h1
    · have hlow : partitionB.winStart ≤ s.offset := (sectionMatches_iff.mp h.hit).2.1
      have hb : partitionA.winEnd = partitionB.winStart := by decide
      change i < partitionA.winEnd at h2
      exact h.outside (by omega) (by omega)
  · change s.offset + 8 ≤ i at h1
    change i < s.offset + 24 at h2
    exact h.outside (by omega) (by omega)
  · have hscratch := p.fits.scratch
    exact hbehind i (by rw [hlimit]; omega)

/-- A call that stays in its window leaves the scratch sector. -/
theorem scratch_of_staysInWindow (h : StaysInWindow image p name data) {i : Nat}
    (hi : eepromImageSize2712 - eepromEraseAlign ≤ i) (hsize : i < eepromImageSize2712) :
    (eepromReplaceFileIn image eepromImageSize2712 p.window name data).2 i = image i := by
  rcases eepromReplaceFileIn_cases p.fits image name data with
    ⟨status, -, hcall⟩ | ⟨pre, s, rest, hr, hfind, hcall⟩
  · rw [hcall]
  · rw [hcall]
    exact (frame_of_staysInWindow hr (h _ hfind ⟨hr.len, hr.scratch, hr.room⟩)).scratch i hi hsize

/-- **The frame, exactly.** A call in either partition writes only where it may if and only if
the range it rewrites holds nothing else behind the limit. -/
theorem replace_frame_iff (image : Mem) (p : EepromPartition) (name : CString)
    (data : List UInt8) :
    ReplaceFrame image p name data
        (eepromReplaceFileIn image eepromImageSize2712 p.window name data) ↔
      StaysInWindow image p name data := by
  constructor
  · intro hframe loc hfind hfits i hi hcontent hnext
    obtain ⟨pre, s, rest, h, rfl⟩ := (replacing_iff p.fits).mp ⟨hfind, hfits⟩
    have hcall := (eepromReplaceFileIn_of_replacing h).2
    obtain ⟨loc, hloc, hat⟩ := hframe.success (by rw [hcall])
    rw [hfind] at hloc
    cases hloc
    rw [hcall] at hat
    have hsize := h.next_le_size
    have hstart := h.offset_lt
    change s.offset + 24 ≤ i at hcontent
    by_contra hne
    have hchanged : replaced image eepromImageSize2712 p.window data s rest i ≠ image i := by
      rw [h.inside hcontent hnext]
      exact Ne.symm hne
    rcases hat.changed i (by omega) hchanged with hhdr | hin
    · have hhdr2 : i < s.offset + 8 := hhdr.2
      omega
    · omega
  · intro hstays
    rcases eepromReplaceFileIn_cases p.fits image name data with
      ⟨status, hstatus, hcall⟩ | ⟨pre, s, rest, h, hfind, hcall⟩
    · rw [hcall]
      exact ⟨fun _ => rfl, fun hok => absurd hok hstatus⟩
    · rw [hcall]
      refine ⟨fun hne => absurd rfl hne, fun _ => ⟨_, hfind, ?_⟩⟩
      exact frame_of_staysInWindow h (hstays _ hfind ⟨h.len, h.scratch, h.room⟩)

/-- `bootconf.txt` at the start of partition A, then one pad section across the end of the
partition, not erased there, and a section in partition B. -/
def padAcrossImage : Mem :=
  (putSection (putSection (putFile (putSection erasedImage 0 eepromSectionMagic 0xfff8) 0x10000
    bootconfTxt []) 0x10018 eepromPadMagic 0xf70e0) 0x107100 eepromSectionMagic 8).write
    0x107000 [0x00]

/-- Replacing the file erases the start of partition B. -/
theorem replace_padAcross_leaves :
    ¬ReplaceFrame padAcrossImage .a bootconfTxt []
      (eepromReplaceFileIn padAcrossImage eepromImageSize2712 partitionA bootconfTxt []) := by
  intro h
  obtain ⟨loc, -, hat⟩ := h.success (by decide +kernel)
  have hsame := hat.partition 0x107000 (by decide) (by decide)
  have hnew : (eepromReplaceFileIn padAcrossImage eepromImageSize2712 partitionA bootconfTxt
      []).2 0x107000 = 0xff := by
    decide +kernel
  have hold : padAcrossImage 0x107000 = 0x00 := by decide +kernel
  rw [hnew, hold] at hsame
  cases hsame

end Rpi5Uefi
