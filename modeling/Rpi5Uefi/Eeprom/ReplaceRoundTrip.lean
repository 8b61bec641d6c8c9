import Rpi5Uefi.Eeprom.Replace
import Rpi5Uefi.Lib.Run

/-!
# Write, then find

What was written is found again, and so is every other file, as long as the chain can be walked
past the rewritten range.

* **`Replacing.walkable_iff`**: the new chain ends where the walk behind the rewritten range does,
  with the sections in front of it and the pad section counted against the 64 entries.
* **`replace_roundTrip_iff`** is the exact condition for one call, and **`replaceRun_walkable`**
  what follows for a sequence of calls.
-/

namespace Rpi5Uefi

open Bytes Chain Transition

variable {image image' : Mem} {size : Nat} {w : EepromWindow} {name name' : CString}
  {data : List UInt8} {pre rest : List EepromSection} {s t : EepromSection} {loc : EepromFileLoc}

/-! ## When the chain goes on -/

/-- The sections of the walk up to the one at `loc`. -/
def sectionsUpTo (image : Mem) (size : Nat) (w : EepromWindow) (loc : EepromFileLoc) : Nat :=
  ((walkSections image size w.walkStart eepromMaxSections).getD []).countP
    (fun t => decide (t.offset ≤ loc.hdrOffset))

/-- Behind the content there is erased flash to stop at, or from `NextOffset` on a chain that
fits the table next to the sections in front of it. -/
def ChainResumes (image : Mem) (size : Nat) (w : EepromWindow) (loc : EepromFileLoc)
    (data : List UInt8) : Prop :=
  (loc.isLast = true ∧ padStart loc data < loc.nextOffset) ∨
    sectionsUpTo image size w loc + (padSections loc data).length ≤ eepromMaxSections ∧
      walkSections image size loc.nextOffset
        (eepromMaxSections - (sectionsUpTo image size w loc + (padSections loc data).length)) ≠ none

instance : Decidable (ChainResumes image size w loc data) := by
  unfold ChainResumes; infer_instance

namespace Replacing

theorem walkable (h : Replacing image size w name data pre s rest) : Walkable image size w := by
  unfold Walkable
  rw [h.walk]
  exact Option.some_ne_none _

theorem sectionsUpTo_eq (h : Replacing image size w name data pre s rest) :
    sectionsUpTo image size w (locOfMatch size w s rest) = pre.length + 1 := by
  obtain ⟨-, hpath, n, m, hhead, htail, -⟩ := walkSections_split h.walk
  have hpre : pre.countP (fun t => decide (t.offset ≤ s.offset)) = pre.length := by
    refine List.countP_eq_length.mpr fun t ht => ?_
    have hlt := (onChain_of_path (w := w) (Reaches.refl _ _) hpath ht).2.2
    simpa using Nat.le_of_lt hlt
  have hrest : rest.countP (fun t => decide (t.offset ≤ s.offset)) = 0 := by
    refine List.countP_eq_zero.mpr fun t ht => ?_
    have hle := (onChain_of_path (w := w) (h.onChain.1.step hhead) htail ht).2.1
    have hlt := sectionHead_ascending image size _ _ _ hhead
    simp only [decide_eq_true_eq]
    omega
  unfold sectionsUpTo
  rw [h.walk]
  show (pre ++ s :: rest).countP (fun t => decide (t.offset ≤ s.offset)) = _
  rw [List.countP_append, List.countP_cons_of_pos (by simp), hpre, hrest]

/-- **When the new chain is walkable.** -/
theorem walkable_iff (h : Replacing image size w name data pre s rest) :
    Walkable (replaced image size w data s rest) size w ↔
      ChainResumes image size w (locOfMatch size w s rest) data := by
  have hlast : (locOfMatch size w s rest).isLast = true ↔ rest = [] := by
    show rest.isEmpty = true ↔ rest = []
    exact List.isEmpty_iff
  have hcount := (walkSections_split h.walk).1
  unfold ChainResumes
  rw [hlast, h.sectionsUpTo_eq]
  by_cases herased : rest = [] ∧ padStart (locOfMatch size w s rest) data <
      (locOfMatch size w s rest).nextOffset
  · -- the walk stops at the erased flash behind the content
    refine iff_of_true ?_ (Or.inl herased)
    have hstop := h.head_erased herased.2 herased.1
    have hwalk : Chain.walk (sectionHead (replaced image size w data s rest) size) w.walkStart
        eepromMaxSections = some (pre ++ [newSection s data]) := by
      refine walk_eq_some_iff.mpr ⟨?_, _, h.path_pre.append (.single h.head_self), hstop⟩
      rw [List.length_append, List.length_singleton]
      omega
    unfold Walkable
    rw [walkSections_eq_walk, hwalk]
    simp
  · have hpath := h.path_next (fun hgap hnil => herased ⟨hnil, hgap⟩)
    have hlen : (pre ++ newSection s data ::
        padSections (locOfMatch size w s rest) data).length =
          pre.length + 1 + (padSections (locOfMatch size w s rest) data).length := by
      simp only [List.length_append, List.length_cons]
      omega
    have htail : ∀ cap, Chain.walk (sectionHead (replaced image size w data s rest) size)
        (locOfMatch size w s rest).nextOffset cap =
          walkSections image size (locOfMatch size w s rest).nextOffset cap := by
      intro cap
      rw [walkSections_eq_walk]
      exact walk_congr fun x hx => h.head_high (hx.le (sectionHead_ascending _ size))
    rw [or_iff_right herased]
    unfold Walkable
    rw [walkSections_eq_walk]
    by_cases hcap : pre.length + 1 + (padSections (locOfMatch size w s rest) data).length ≤
        eepromMaxSections
    · rw [walk_of_path hpath (by omega), htail, hlen]
      simp [hcap]
    · rw [walk_of_path_full hpath (by omega)]
      simp [hcap]

end Replacing

/-! ## One call -/

/-- **The law of one call**: after a success the file is found with the new content, and every
other file is found where it was with the content it had. -/
structure ReplaceRoundTrips (image : Mem) (size : Nat) (w : EepromWindow) (name : CString)
    (data : List UInt8) : Prop where
  found : (eepromReplaceFileIn image size w name data).1 = .success →
    ∃ loc, eepromFindFileIn (eepromReplaceFileIn image size w name data).2 size w name = some loc ∧
      loc.contentLen = data.length ∧
      (eepromReplaceFileIn image size w name data).2.slice loc.contentOffset loc.contentLen = data
  others : (eepromReplaceFileIn image size w name data).1 = .success →
    ∀ name' loc, name' ≠ name → eepromFindFileIn image size w name' = some loc →
      ∃ loc',
        eepromFindFileIn (eepromReplaceFileIn image size w name data).2 size w name' = some loc' ∧
        loc'.hdrOffset = loc.hdrOffset ∧ loc'.contentLen = loc.contentLen ∧
        (eepromReplaceFileIn image size w name data).2.slice loc'.contentOffset loc'.contentLen =
          image.slice loc.contentOffset loc.contentLen

/-- What a replacement that takes place needs: the chain goes on behind it, and no file found
under another name is an empty section right in front of it, with its name field over the length
field that changes. -/
def ReplaceKeepsChain (image : Mem) (size : Nat) (w : EepromWindow) (name : CString)
    (data : List UInt8) : Prop :=
  ∀ loc, eepromFindFileIn image size w name = some loc → ContentFits size loc data →
    ChainResumes image size w loc data ∧
      ∀ name' loc', name' ≠ name → eepromFindFileIn image size w name' = some loc' →
        loc'.hdrOffset + 8 ≠ loc.hdrOffset

theorem roundTrips_of_keepsChain (hw : w.Fits size)
    (h : ReplaceKeepsChain image size w name data) :
    ReplaceRoundTrips image size w name data := by
  rcases eepromReplaceFileIn_cases hw image name data with
    ⟨status, hstatus, hcall⟩ | ⟨pre, s, rest, hr, hfind, hcall⟩
  · refine ⟨fun hok => ?_, fun hok => ?_⟩
    all_goals
      rw [hcall] at hok
      exact absurd hok hstatus
  · obtain ⟨hresumes, hover⟩ := h _ hfind ⟨hr.len, hr.scratch, hr.room⟩
    have hwalk := hr.walkable_iff.mpr hresumes
    refine ⟨fun _ => ?_, fun _ name' loc hname hfind' => ?_⟩
    · rw [hcall]
      obtain ⟨loc, hloc, -, hoff, hlen⟩ := find_of_firstMatch hwalk hr.firstMatch_self
      rw [contentLenOf_newSection] at hlen
      refine ⟨loc, hloc, hlen, ?_⟩
      rw [hlen, hoff]
      exact hr.content
    · rw [hcall]
      have hne := hover name' loc hname hfind'
      obtain ⟨-, t, ht, hhdr, hoff, hlen⟩ := firstMatch_of_find hfind'
      obtain ⟨loc', hloc', hhdr', hoff', hlen'⟩ := find_of_firstMatch hwalk
        (hr.firstMatch_other rfl (Nat.le_refl _) hname ht (by rw [← hhdr]; exact hne))
      have hfile := (sectionMatches_iff.mp ht.hit).1
      have hself : t.offset ≠ s.offset := fun heq => hname (hr.name_eq ht.hit heq)
      refine ⟨loc', hloc', by rw [hhdr', hhdr], by rw [hlen', hlen], ?_⟩
      rw [hoff', hlen', hoff, hlen]
      exact hr.content_other ht.onChain (by rw [hfile]; decide) hself

theorem keepsChain_of_roundTrips (hw : w.Fits size)
    (h : ReplaceRoundTrips image size w name data) :
    ReplaceKeepsChain image size w name data := by
  intro loc hfind hfits
  obtain ⟨pre, s, rest, hr, rfl⟩ := (replacing_iff hw).mp ⟨hfind, hfits⟩
  have hcall := (eepromReplaceFileIn_of_replacing hr).2
  constructor
  · obtain ⟨loc, hloc, -⟩ := h.found (by rw [hcall])
    rw [hcall] at hloc
    exact hr.walkable_iff.mp (firstMatch_of_find hloc).1
  · intro name' loc' hname hfind' hover
    -- found again at its offset, the section would carry the name its field no longer holds
    obtain ⟨loc'', hloc'', hhdr, -⟩ := h.others (by rw [hcall]) name' loc' hname hfind'
    rw [hcall] at hloc''
    obtain ⟨-, t, ht, hoff, -⟩ := firstMatch_of_find hloc''
    have hno := hr.matches_overlap (t := t) (by rw [← hoff, hhdr]; exact hover) w name'
    rw [ht.hit] at hno
    cases hno

/-! ## Sequences of calls -/

/-- One call on the image, with the name and the content it is given. -/
def replaceStep (size : Nat) (w : EepromWindow) (image : Mem) (e : CString × List UInt8)
    (image' : Mem) : Prop :=
  image' = (eepromReplaceFileIn image size w e.1 e.2).2

theorem replaceStep_walkable (hw : w.Fits size) {e : CString × List UInt8}
    (hwalk : Walkable image size w) (hok : ReplaceKeepsChain image size w e.1 e.2)
    (hstep : replaceStep size w image e image') : Walkable image' size w := by
  unfold replaceStep at hstep
  subst hstep
  rcases eepromReplaceFileIn_cases hw image e.1 e.2 with
    ⟨status, -, hcall⟩ | ⟨pre, s, rest, hr, hfind, hcall⟩
  · rw [hcall]
    exact hwalk
  · rw [hcall]
    exact hr.walkable_iff.mpr (hok _ hfind ⟨hr.len, hr.scratch, hr.room⟩).1

/-- A sequence of calls each of which keeps the chain leaves it walkable. -/
theorem replaceRun_walkable (hw : w.Fits size) {es : List (CString × List UInt8)}
    (h : RunWith (replaceStep size w) (fun image e => ReplaceKeepsChain image size w e.1 e.2)
      image es image') (hwalk : Walkable image size w) : Walkable image' size w :=
  h.inv (I := fun image => Walkable image size w)
    (fun _ _ _ hwalk hok hstep => replaceStep_walkable hw hwalk hok hstep) hwalk

/-- **Write, then find, exactly.** In either partition one call satisfies its law if and only if it
keeps the chain; so does any sequence of calls that each keep it, and the chain stays walkable. -/
theorem replace_roundTrip_iff (p : EepromPartition) :
    (∀ image name data, ReplaceRoundTrips image eepromImageSize2712 p.window name data ↔
      ReplaceKeepsChain image eepromImageSize2712 p.window name data) ∧
    ∀ image es image',
      RunWith (replaceStep eepromImageSize2712 p.window)
        (fun image e => ReplaceKeepsChain image eepromImageSize2712 p.window e.1 e.2)
        image es image' →
      Walkable image eepromImageSize2712 p.window →
      Walkable image' eepromImageSize2712 p.window :=
  ⟨fun _ _ _ => ⟨keepsChain_of_roundTrips p.fits, roundTrips_of_keepsChain p.fits⟩,
    fun _ _ _ hrun hwalk => replaceRun_walkable p.fits hrun hwalk⟩

/-- A partition A whose last section is a short pad section, and a byte that is neither erased nor
a section magic behind the end of its window. -/
def padTailImage : Mem :=
  (putSection (putFile (putSection erasedImage 0 eepromSectionMagic 0xfff8) 0x10000 bootconfTxt
    (ascii "A=1\n")) 0x10020 eepromPadMagic 8).write 0x107000 [0x01]

/-- The new pad section reaches up to the window end, and the walk runs on into that byte. -/
theorem replace_padTail_breaks :
    ¬ReplaceRoundTrips padTailImage eepromImageSize2712 partitionA bootconfTxt (ascii "B=2\n") := by
  intro h
  obtain ⟨loc, hloc, -⟩ := h.found (by decide +kernel)
  have hnone : eepromFindFileIn
      (eepromReplaceFileIn padTailImage eepromImageSize2712 partitionA bootconfTxt
        (ascii "B=2\n")).2 eepromImageSize2712 partitionA bootconfTxt = none := by
    decide +kernel
  rw [hnone] at hloc
  cases hloc

end Rpi5Uefi
