import Mathlib.Data.List.GetD
import Mathlib.Data.List.TakeWhile
import Rpi5Uefi.Eeprom.Image
import Rpi5Uefi.Lib.Chain

/-!
# The section chain and the file lookup

`walkSections` is a bounded walk of a chain of self-sized records, so the chain library speaks
about it once its view of one offset is named.

* **`sectionHead`** is what the walk sees at an offset; **`walkSections_eq_walk`** is the
  connection. A header is read from its own eight bytes only.
* **`OnChain`** says that the walk of a window passes a section, whether or not it gets to the end
  of the chain; **`FirstMatch`** that the section is the first one on the chain with the name.
* **`eepromFindFileIn_eq_some_iff`** is the lookup with the sections before and behind the match,
  **`find_of_firstMatch`** and **`firstMatch_of_find`** its form without them.
-/

namespace Rpi5Uefi

open Bytes Chain

variable {image image' : Mem} {size : Nat} {w w' : EepromWindow} {name name' : CString}
  {s t : EepromSection} {loc : EepromFileLoc} {o n : Nat}

/-! ## What the walk sees at one offset -/

/-- The header at `offset` as `WalkSections` takes it. -/
def sectionHead (image : Mem) (size offset : Nat) : Head EepromSection :=
  if offset + 8 ≤ size then
    if be32 image offset = 0x0 ∨ be32 image offset = 0xffffffff then .stop
    else if be32 image offset &&& eepromSectionMagicMask ≠ eepromSectionMagic then .corrupt
    else if be32 image (offset + 4) > size - offset - 8 then .corrupt
    else
      .record ⟨be32 image offset, offset, be32 image (offset + 4)⟩
        (alignUp8 (offset + 8 + be32 image (offset + 4)))
  else .stop

/-- One round of the loop, by what is at the offset. -/
theorem walkSections_step (image : Mem) (size o cap : Nat) :
    walkSections image size o cap =
      match sectionHead image size o with
      | .stop => some []
      | .corrupt => none
      | .record s next =>
        match cap with
        | 0 => none
        | cap + 1 => (walkSections image size next cap).map (s :: ·) := by
  rw [walkSections.eq_def]
  simp only
  unfold sectionHead
  by_cases hsize : o + 8 ≤ size
  · rw [if_pos hsize, if_pos hsize]
    by_cases hstop : be32 image o = 0x0 ∨ be32 image o = 0xffffffff
    · rw [if_pos hstop, if_pos hstop]
    · rw [if_neg hstop, if_neg hstop]
      by_cases hmagic : be32 image o &&& eepromSectionMagicMask ≠ eepromSectionMagic
      · rw [if_pos hmagic, if_pos hmagic]
      · rw [if_neg hmagic, if_neg hmagic]
        by_cases hlen : be32 image (o + 4) > size - o - 8
        · rw [if_pos hlen, if_pos hlen]
        · cases cap <;> simp only [if_neg hlen]
  · rw [if_neg hsize, if_neg hsize]

theorem walkSections_eq_walk (image : Mem) (size o cap : Nat) :
    walkSections image size o cap = walk (sectionHead image size) o cap := by
  induction cap generalizing o with
  | zero =>
    rw [walkSections_step, walk]
    cases sectionHead image size o <;> rfl
  | succ cap ih =>
    rw [walkSections_step, walk]
    cases hhead : sectionHead image size o with
    | stop => rfl
    | corrupt => rfl
    | record s next =>
      simp only
      rw [ih]

theorem alignUp8_ge (x : Nat) : x ≤ alignUp8 x := by
  unfold alignUp8
  omega

theorem alignUp8_mod (x : Nat) : alignUp8 x % 8 = 0 := by
  unfold alignUp8
  omega

theorem alignUp8_le {x y : Nat} (hy : y % 8 = 0) (h : x ≤ y) : alignUp8 x ≤ y := by
  unfold alignUp8
  omega

/-- A section magic: not erased flash, and the fixed bits as in `EEPROM_SECTION_MAGIC`. -/
def IsSectionMagic (magic : Nat) : Prop :=
  magic ≠ 0x0 ∧ magic ≠ 0xffffffff ∧ magic &&& eepromSectionMagicMask = eepromSectionMagic

theorem isSectionMagic_file : IsSectionMagic eepromFileMagic := by
  unfold IsSectionMagic
  decide

theorem isSectionMagic_pad : IsSectionMagic eepromPadMagic := by
  unfold IsSectionMagic
  decide

/-- **A record at an offset**: its fields are the header words, and it ends inside the image. -/
theorem sectionHead_eq_record_iff :
    sectionHead image size o = .record s n ↔
      s.offset = o ∧ be32 image o = s.magic ∧ be32 image (o + 4) = s.length ∧
        IsSectionMagic s.magic ∧ o + 8 + s.length ≤ size ∧ n = alignUp8 (o + 8 + s.length) := by
  unfold sectionHead IsSectionMagic
  constructor
  · intro h
    split at h <;> [skip; cases h]
    split at h <;> [cases h; skip]
    split at h <;> [cases h; skip]
    split at h <;> [cases h; skip]
    rename_i hsize hstop hmagic hlen
    cases h
    simp only [not_or] at hstop
    refine ⟨rfl, rfl, rfl, ⟨hstop.1, hstop.2, ?_⟩, ?_, rfl⟩
    · exact Decidable.not_not.mp hmagic
    · simp only
      omega
  · rintro ⟨ho, hm, hl, ⟨h0, hff, hmask⟩, hfit, rfl⟩
    rw [hm, hl, if_pos (by omega), if_neg (by simp [h0, hff]), if_neg (by simp [hmask]),
      if_neg (by omega)]
    subst ho
    rfl

theorem sectionHead_stop_of_erased (h : be32 image o = 0xffffffff) :
    sectionHead image size o = .stop := by
  unfold sectionHead
  split
  · rw [if_pos (Or.inr h)]
  · rfl

theorem sectionHead_congr (h : ∀ i, o ≤ i → i < o + 8 → image i = image' i) :
    sectionHead image size o = sectionHead image' size o := by
  have hmagic : be32 image o = be32 image' o :=
    be32_congr (fun i hi hi' => h i hi (by omega))
  have hlen : be32 image (o + 4) = be32 image' (o + 4) :=
    be32_congr (fun i hi hi' => h i (by omega) (by omega))
  unfold sectionHead
  rw [hmagic, hlen]

theorem sectionHead_ascending (image : Mem) (size : Nat) : Ascending (sectionHead image size) := by
  intro o s n h
  obtain ⟨-, -, -, -, -, rfl⟩ := sectionHead_eq_record_iff.mp h
  have hge := alignUp8_ge (o + 8 + s.length)
  omega

/-- Sections start at multiples of 8 when the walk does. -/
theorem reaches_aligned (h : Reaches (sectionHead image size) o n) (ho : o % 8 = 0) :
    n % 8 = 0 := by
  obtain ⟨l, hl⟩ := h
  induction hl with
  | nil _ => exact ho
  | cons hhead _ ih =>
    obtain ⟨-, -, -, -, -, rfl⟩ := sectionHead_eq_record_iff.mp hhead
    exact ih (alignUp8_mod _)

/-! ## File names -/

theorem fileNameMatchesFrom_iff {field remaining : Nat} {name : List UInt8} :
    fileNameMatchesFrom image field remaining name = true ↔
      name.length ≤ remaining ∧ ∀ k, k < remaining → image (field + k) = name.getD k 0 := by
  induction remaining generalizing field name with
  | zero =>
    cases name with
    | nil => simp [fileNameMatchesFrom]
    | cons c name => simp [fileNameMatchesFrom]
  | succ remaining ih =>
    have hsplit : ∀ (c : UInt8) (rest : List UInt8),
        (∀ k, k < remaining + 1 → image (field + k) = (c :: rest).getD k 0) ↔
          image field = c ∧ ∀ k, k < remaining → image (field + 1 + k) = rest.getD k 0 := by
      intro c rest
      constructor
      · intro h
        refine ⟨by simpa using h 0 (by omega), fun k hk => ?_⟩
        have hk' := h (k + 1) (by omega)
        rw [show field + 1 + k = field + (k + 1) from by omega]
        simpa using hk'
      · rintro ⟨h0, h⟩ k hk
        cases k with
        | zero => simpa using h0
        | succ k =>
          have hk' := h k (by omega)
          rw [show field + (k + 1) = field + 1 + k from by omega]
          simpa using hk'
    cases name with
    | nil =>
      have hnil : (∀ k, k < remaining + 1 → image (field + k) = ([] : List UInt8).getD k 0) ↔
          ∀ k, k < remaining + 1 → image (field + k) = ((0 : UInt8) :: []).getD k 0 := by
        refine forall₂_congr fun k _ => ?_
        cases k <;> simp
      rw [hnil, hsplit]
      simp [fileNameMatchesFrom, ih]
    | cons c name =>
      rw [hsplit]
      simp only [fileNameMatchesFrom, Bool.and_eq_true, beq_iff_eq, ih, List.length_cons,
        Nat.add_le_add_iff_right]
      constructor
      · rintro ⟨hc, hlen, hrest⟩
        exact ⟨hlen, hc, hrest⟩
      · rintro ⟨hlen, hc, hrest⟩
        exact ⟨hc, hlen, hrest⟩

/-- **The name field**: the name, then zeros up to the end of the field. -/
theorem fileNameMatches_iff {field : Nat} :
    fileNameMatches image field name = true ↔
      name.bytes.length ≤ 12 ∧ ∀ k, k < 12 → image (field + k) = name.bytes.getD k 0 :=
  fileNameMatchesFrom_iff

theorem fileNameMatches_congr {field : Nat}
    (h : ∀ i, field ≤ i → i < field + 12 → image i = image' i) :
    fileNameMatches image field name = fileNameMatches image' field name := by
  rw [Bool.eq_iff_iff, fileNameMatches_iff, fileNameMatches_iff]
  refine and_congr_right fun _ => forall₂_congr fun k hk => ?_
  rw [h (field + k) (by omega) (by omega)]

theorem CString.getD_ne_zero (name : CString) {k : Nat} (h : k < name.bytes.length) :
    name.bytes.getD k 0 ≠ 0 := by
  intro h0
  have hmem : name.bytes[k] ∈ name.bytes := List.getElem_mem h
  rw [List.getD_eq_getElem _ _ h] at h0
  rw [h0] at hmem
  exact name.noNul hmem

/-- A field holds one name only. -/
theorem fileNameMatches_unique {field : Nat} (h : fileNameMatches image field name = true)
    (h' : fileNameMatches image field name' = true) : name = name' := by
  rw [fileNameMatches_iff] at h h'
  have hget : ∀ k, k < 12 → name.bytes.getD k 0 = name'.bytes.getD k 0 := by
    intro k hk
    rw [← h.2 k hk, ← h'.2 k hk]
  -- the shorter name would end at a zero inside the longer one
  have hle : ∀ {a b : CString}, a.bytes.length ≤ 12 →
      (∀ k, k < 12 → a.bytes.getD k 0 = b.bytes.getD k 0) →
      a.bytes.length ≤ b.bytes.length := by
    intro a b ha hab
    by_contra hlt
    have hb : b.bytes.getD b.bytes.length 0 = 0 := by simp
    exact a.getD_ne_zero (by omega) ((hab _ (by omega)).trans hb)
  have hlen : name.bytes.length = name'.bytes.length :=
    Nat.le_antisymm (hle h.1 hget) (hle h'.1 (fun k hk => (hget k hk).symm))
  have hbytes : name.bytes = name'.bytes := by
    refine List.ext_getElem hlen fun k hk hk' => ?_
    have hk12 := hget k (by omega)
    rwa [List.getD_eq_getElem _ _ hk, List.getD_eq_getElem _ _ hk'] at hk12
  cases name
  cases name'
  simpa using hbytes

theorem sectionMatches_iff :
    sectionMatches image w name s = true ↔
      s.magic = eepromFileMagic ∧ w.winStart ≤ s.offset ∧ s.offset < w.winEnd ∧
        fileNameMatches image (s.offset + 8) name = true := by
  unfold sectionMatches
  simp only [Bool.and_eq_true, beq_iff_eq, decide_eq_true_eq, and_assoc]

/-! ## Sections on the chain -/

/-- The walk of the window passes `t`. -/
def OnChain (image : Mem) (size : Nat) (w : EepromWindow) (t : EepromSection) : Prop :=
  Reaches (sectionHead image size) w.walkStart t.offset ∧
    ∃ n, sectionHead image size t.offset = .record t n

/-- The chain the walk of the window follows has an end within 64 sections. -/
def Walkable (image : Mem) (size : Nat) (w : EepromWindow) : Prop :=
  walkSections image size w.walkStart eepromMaxSections ≠ none

instance : Decidable (Walkable image size w) := by unfold Walkable; infer_instance

/-- `t` is the section the lookup of `name` stops at, if the walk gets to the end of the chain. -/
structure FirstMatch (image : Mem) (size : Nat) (w : EepromWindow) (name : CString)
    (t : EepromSection) : Prop where
  onChain : OnChain image size w t
  hit : sectionMatches image w name t = true
  first : ∀ t', OnChain image size w t' → t'.offset < t.offset →
    sectionMatches image w name t' = false

/-- The walk passes no section of that name. -/
def NoMatch (image : Mem) (size : Nat) (w : EepromWindow) (name : CString) : Prop :=
  ∀ t, OnChain image size w t → sectionMatches image w name t = false

/-- Windows with one walk start have one chain. -/
theorem onChain_window (h : w'.walkStart = w.walkStart) :
    OnChain image size w' t ↔ OnChain image size w t := by
  unfold OnChain
  rw [h]

theorem OnChain.eq_of_offset (hs : OnChain image size w s) (ht : OnChain image size w t)
    (h : s.offset = t.offset) : s = t := by
  obtain ⟨-, n, hn⟩ := hs
  obtain ⟨-, n', hn'⟩ := ht
  rw [h, hn'] at hn
  cases hn
  rfl

/-- The sections a walk returns, cut at one of them. -/
theorem walkSections_split {cap : Nat} {pre rest : List EepromSection}
    (h : walkSections image size o cap = some (pre ++ s :: rest)) :
    pre.length + 1 + rest.length ≤ cap ∧
      Path (sectionHead image size) o pre s.offset ∧
      ∃ n m, sectionHead image size s.offset = .record s n ∧
        Path (sectionHead image size) n rest m ∧ sectionHead image size m = .stop := by
  rw [walkSections_eq_walk, walk_eq_some_iff] at h
  obtain ⟨hcap, m, hpath, hstop⟩ := h
  obtain ⟨x, hpre, hrest⟩ := hpath.split
  obtain ⟨n, hhead, htail⟩ := hrest.uncons
  have hoff : s.offset = x := (sectionHead_eq_record_iff.mp hhead).1
  subst hoff
  simp only [List.length_append, List.length_cons] at hcap
  exact ⟨by omega, hpre, n, m, hhead, htail, hstop⟩

theorem onChain_of_path {l : List EepromSection}
    (hs : Reaches (sectionHead image size) w.walkStart o)
    (h : Path (sectionHead image size) o l n) (ht : t ∈ l) :
    OnChain image size w t ∧ o ≤ t.offset ∧ t.offset < n := by
  induction h with
  | nil _ => simp at ht
  | cons hhead rest ih =>
    rename_i o x m s l
    have hlt := sectionHead_ascending image size _ _ _ hhead
    have hle := rest.le (sectionHead_ascending image size)
    have hoff := (sectionHead_eq_record_iff.mp hhead).1
    rcases List.mem_cons.mp ht with rfl | ht
    · rw [hoff]
      refine ⟨⟨?_, ?_⟩, Nat.le_refl _, by omega⟩
      · rwa [hoff]
      · rw [hoff]
        exact ⟨_, hhead⟩
    · obtain ⟨hon, h1, h2⟩ := ih (hs.step hhead) ht
      exact ⟨hon, by omega, h2⟩

/-- A section of the chain in front of the end of a path is one the path passes. -/
theorem mem_of_onChain {l : List EepromSection}
    (h : Path (sectionHead image size) w.walkStart l n) (ht : OnChain image size w t)
    (hlt : t.offset < n) : t ∈ l := by
  obtain ⟨⟨l', hl'⟩, x, hx⟩ := ht
  obtain ⟨r, rfl, hr⟩ := hl'.extend (sectionHead_ascending image size) h (by omega)
  cases hr with
  | nil _ => omega
  | cons hhead _ =>
    rw [hx] at hhead
    cases hhead
    simp

/-! ## The lookup -/

/-- The content length field of a location. -/
def contentLenOf (s : EepromSection) : Nat :=
  if s.length ≥ eepromFilenameLen + 4 then s.length - eepromFilenameLen - 4 else 0

/-- **The lookup**: the walk succeeds and `s` is the first match among its sections. -/
theorem eepromFindFileIn_eq_some_iff :
    eepromFindFileIn image size w name = some loc ↔
      ∃ pre s rest,
        walkSections image size w.walkStart eepromMaxSections = some (pre ++ s :: rest) ∧
        (∀ t ∈ pre, sectionMatches image w name t = false) ∧
        sectionMatches image w name s = true ∧ loc = locOfMatch size w s rest := by
  unfold eepromFindFileIn
  constructor
  · intro h
    split at h
    · cases h
    · rename_i sections hwalk
      have happ := List.takeWhile_append_dropWhile
        (p := fun s => !sectionMatches image w name s) (l := sections)
      have hpre : ∀ t ∈ sections.takeWhile (fun s => !sectionMatches image w name s),
          sectionMatches image w name t = false := by
        intro t ht
        simpa using List.mem_takeWhile_imp ht
      split at h
      · cases h
      · rename_i s rest hdrop
        have hs := List.head?_dropWhile_not (fun s => !sectionMatches image w name s) sections
        simp only [hdrop, List.head?_cons, Bool.not_eq_false'] at hs
        rw [hdrop] at happ
        cases h
        exact ⟨_, s, rest, by rw [happ, hwalk], hpre, hs, rfl⟩
  · rintro ⟨pre, s, rest, hwalk, hpre, hs, rfl⟩
    rw [hwalk]
    have hdrop : (pre ++ s :: rest).dropWhile (fun s => !sectionMatches image w name s) =
        s :: rest := by
      rw [List.dropWhile_append_of_pos (by simpa using hpre),
        List.dropWhile_cons_of_neg (by simp [hs])]
    simp only [hdrop]

/-- A found file is the first match on a walkable chain. -/
theorem firstMatch_of_find (h : eepromFindFileIn image size w name = some loc) :
    Walkable image size w ∧ ∃ s, FirstMatch image size w name s ∧ loc.hdrOffset = s.offset ∧
      loc.contentOffset = s.offset + 24 ∧ loc.contentLen = contentLenOf s := by
  obtain ⟨pre, s, rest, hwalk, hpre, hs, rfl⟩ := eepromFindFileIn_eq_some_iff.mp h
  obtain ⟨-, hpath, n, m, hhead, -, -⟩ := walkSections_split hwalk
  refine ⟨by unfold Walkable; rw [hwalk]; simp, s, ⟨⟨⟨pre, hpath⟩, n, hhead⟩, hs, ?_⟩, rfl, rfl,
    rfl⟩
  intro t ht hlt
  exact hpre t (mem_of_onChain hpath ht hlt)

/-- On a walkable chain the first match is found. -/
theorem find_of_firstMatch (hw : Walkable image size w) (hs : FirstMatch image size w name s) :
    ∃ loc, eepromFindFileIn image size w name = some loc ∧ loc.hdrOffset = s.offset ∧
      loc.contentOffset = s.offset + 24 ∧ loc.contentLen = contentLenOf s := by
  obtain ⟨sections, hwalk⟩ := Option.ne_none_iff_exists'.mp hw
  have hwalk' := hwalk
  rw [walkSections_eq_walk] at hwalk'
  obtain ⟨⟨pre, hpre⟩, n, hn⟩ := hs.onChain
  have hlong := hpre.append (.single hn)
  obtain ⟨rest, hsections, -⟩ := exists_append_of_walk hwalk' hlong
  rw [hsections, List.append_assoc] at hwalk
  refine ⟨_, eepromFindFileIn_eq_some_iff.mpr ⟨pre, s, rest, hwalk, ?_, hs.hit, rfl⟩, rfl, rfl, rfl⟩
  intro t ht
  obtain ⟨hon, -, hlt⟩ := onChain_of_path (Reaches.refl _ _) hpre ht
  exact hs.first t hon hlt

/-- On a walkable chain without the name nothing is found, and only then. -/
theorem noMatch_of_find_none (hw : Walkable image size w)
    (h : eepromFindFileIn image size w name = none) : NoMatch image size w name := by
  obtain ⟨sections, hwalk⟩ := Option.ne_none_iff_exists'.mp hw
  intro t ht
  by_contra hmatch
  have hwalk' := hwalk
  rw [walkSections_eq_walk] at hwalk'
  obtain ⟨⟨pre, hpre⟩, n, hn⟩ := ht
  obtain ⟨rest, hsections, -⟩ := exists_append_of_walk hwalk' (hpre.append (.single hn))
  unfold eepromFindFileIn at h
  rw [hwalk] at h
  simp only at h
  split at h
  · rename_i hdrop
    rw [List.dropWhile_eq_nil_iff] at hdrop
    have hno := hdrop t (by rw [hsections]; simp)
    simp only [Bool.not_eq_true'] at hno
    exact hmatch hno
  · cases h

theorem find_none_of_noMatch (h : NoMatch image size w name) :
    eepromFindFileIn image size w name = none := by
  by_contra hne
  obtain ⟨loc, hloc⟩ := Option.ne_none_iff_exists'.mp hne
  obtain ⟨-, s, hs, -⟩ := firstMatch_of_find hloc
  have hno := h s hs.onChain
  rw [hs.hit] at hno
  cases hno

end Rpi5Uefi
