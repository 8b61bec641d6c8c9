import Rpi5Uefi.Eeprom.Replace

/-!
# Files that survive other writes

A file is found by the headers in front of it, its name field and the end of its chain. Writes
elsewhere leave it where it is.

* **`SameFiles`**: two images have the same sections of a name in a window.
* **`sameFiles_of_agree`**, **`Replacing.sameFiles_below`**: it holds when the images agree on the
  window, and for a replacement behind it.
* **`find_congr`**: the whole lookup is the same when the whole walk is.
* **`FileAt`** adds the content.
-/

namespace Rpi5Uefi

open Bytes Chain

variable {image image' image'' : Mem} {size : Nat} {w w' : EepromWindow} {name name' : CString}
  {data content : List UInt8} {pre rest : List EepromSection} {s t : EepromSection}
  {loc : EepromFileLoc} {b : Nat}

/-- The walk of the window passes the same sections in the window, and the same ones carry the
name. -/
structure SameFiles (image image' : Mem) (size : Nat) (w : EepromWindow) (name : CString) :
    Prop where
  onChain : ∀ t, t.offset < w.winEnd → (OnChain image' size w t ↔ OnChain image size w t)
  carries : ∀ t, OnChain image size w t → t.offset < w.winEnd →
    sectionMatches image' w name t = sectionMatches image w name t

namespace SameFiles

theorem refl (image : Mem) (size : Nat) (w : EepromWindow) (name : CString) :
    SameFiles image image size w name :=
  ⟨fun _ _ => Iff.rfl, fun _ _ _ => rfl⟩

theorem trans (h : SameFiles image image' size w name)
    (h' : SameFiles image' image'' size w name) : SameFiles image image'' size w name :=
  ⟨fun t ht => (h'.onChain t ht).trans (h.onChain t ht),
    fun t hon ht => (h'.carries t ((h.onChain t ht).mpr hon) ht).trans (h.carries t hon ht)⟩

theorem hit_iff (h : SameFiles image image' size w name) :
    (OnChain image' size w t ∧ sectionMatches image' w name t = true) ↔
      (OnChain image size w t ∧ sectionMatches image w name t = true) := by
  constructor
  · rintro ⟨hon, hmatch⟩
    have hwin := (sectionMatches_iff.mp hmatch).2.2.1
    have hold := (h.onChain t hwin).mp hon
    exact ⟨hold, (h.carries t hold hwin).symm.trans hmatch⟩
  · rintro ⟨hon, hmatch⟩
    have hwin := (sectionMatches_iff.mp hmatch).2.2.1
    exact ⟨(h.onChain t hwin).mpr hon, (h.carries t hon hwin).trans hmatch⟩

theorem firstMatch (h : SameFiles image image' size w name)
    (ht : FirstMatch image size w name t) : FirstMatch image' size w name t := by
  obtain ⟨hon, hmatch⟩ := h.hit_iff.mpr ⟨ht.onChain, ht.hit⟩
  refine ⟨hon, hmatch, fun t' ht' hlt => ?_⟩
  by_contra hmatch'
  rw [Bool.not_eq_false] at hmatch'
  obtain ⟨hold, hmatch'⟩ := h.hit_iff.mp ⟨ht', hmatch'⟩
  rw [ht.first t' hold hlt] at hmatch'
  cases hmatch'

theorem noMatch (h : SameFiles image image' size w name) (hno : NoMatch image size w name) :
    NoMatch image' size w name := by
  intro t ht
  by_contra hmatch
  rw [Bool.not_eq_false] at hmatch
  obtain ⟨hold, hmatch⟩ := h.hit_iff.mp ⟨ht, hmatch⟩
  rw [hno t hold] at hmatch
  cases hmatch

theorem noMatch_iff (h : SameFiles image image' size w name) :
    NoMatch image' size w name ↔ NoMatch image size w name := by
  refine ⟨fun hno t ht => ?_, h.noMatch⟩
  by_contra hmatch
  rw [Bool.not_eq_false] at hmatch
  obtain ⟨hon, hnew⟩ := h.hit_iff.mpr ⟨ht, hmatch⟩
  rw [hno t hon] at hnew
  cases hnew

end SameFiles

/-! ## When two images have the same files -/

theorem onChain_iff_of_heads (hw : w.walkStart % 8 = 0)
    (hheads : ∀ x, w.walkStart ≤ x → x < b → x % 8 = 0 →
      sectionHead image' size x = sectionHead image size x) (ht : t.offset < b) :
    OnChain image' size w t ↔ OnChain image size w t := by
  have hstep : ∀ {m : Mem} {x n : Nat} {a : EepromSection},
      sectionHead m size x = .record a n → n ≤ t.offset → x < b := by
    intro m x n a hhead hn
    have hlt := sectionHead_ascending m size x a n hhead
    omega
  -- every header on the way is at a multiple of 8
  have hkeep : ∀ {m m' : Mem}, (∀ x, w.walkStart ≤ x → x < b → x % 8 = 0 →
      sectionHead m' size x = sectionHead m size x) →
      OnChain m size w t → OnChain m' size w t := by
    rintro m m' hsame ⟨⟨l, hl⟩, n, hn⟩
    have hpath : ∀ {o x : Nat} {l : List EepromSection}, Path (sectionHead m size) o l x →
        w.walkStart ≤ o → o % 8 = 0 → x ≤ t.offset → Path (sectionHead m' size) o l x := by
      intro o x l hp
      induction hp with
      | nil o => exact fun _ _ _ => .nil o
      | cons hhead rest ih =>
        intro ho hmod hx
        have hle := rest.le (sectionHead_ascending m size)
        have hlt := sectionHead_ascending m size _ _ _ hhead
        have halign := reaches_aligned ((Reaches.refl _ _).step hhead) hmod
        refine .cons ((hsame _ ho (hstep hhead (by omega)) hmod).trans hhead) (ih ?_ halign hx)
        omega
    have hreach := hl.le (sectionHead_ascending m size)
    have halign := reaches_aligned ⟨l, hl⟩ hw
    exact ⟨⟨l, hpath hl (Nat.le_refl _) hw (Nat.le_refl _)⟩, n, (hsame _ hreach ht halign).trans hn⟩
  exact ⟨hkeep fun x h1 h2 h3 => (hheads x h1 h2 h3).symm, hkeep hheads⟩

/-- Images that agree on the window, and on the name field behind its end, have the same files. -/
theorem sameFiles_of_agree (hw : w.walkStart % 8 = 0)
    (h : ∀ i, w.walkStart ≤ i → i < w.winEnd + 20 → image' i = image i) (name : CString) :
    SameFiles image image' size w name := by
  refine ⟨fun t ht => onChain_iff_of_heads hw (fun x hx hlt _ => ?_) ht, fun t hon ht => ?_⟩
  · exact sectionHead_congr fun i hi hi' => h i (by omega) (by omega)
  · have hle := hon.1.le (sectionHead_ascending image size)
    have hfield : fileNameMatches image' (t.offset + 8) name =
        fileNameMatches image (t.offset + 8) name :=
      fileNameMatches_congr fun i hi hi' => h i (by omega) (by omega)
    unfold sectionMatches
    rw [hfield]

/-- The magic of a file section is not the start of a name that begins with another byte. -/
theorem fileNameMatches_of_magic {m : Mem} {o : Nat} (hm : be32 m o = eepromFileMagic)
    (hname : name.bytes.getD 0 0 ≠ 0x55) : fileNameMatches m o name = false := by
  by_contra hmatch
  rw [Bool.not_eq_false, fileNameMatches_iff] at hmatch
  have h0 : m o = _ := hmatch.2 0 (by omega)
  have hbyte : m o = 0x55 := by
    have hlt := (m (o + 1)).toNat_lt
    have hlt2 := (m (o + 2)).toNat_lt
    have hlt3 := (m (o + 3)).toNat_lt
    unfold be32 at hm
    rw [show eepromFileMagic = 0x55aaf11f from rfl] at hm
    have htop : (m o).toNat = 0x55 := by omega
    exact UInt8.toNat_inj.mp htop
  rw [hbyte] at h0
  exact hname h0.symm

theorem Replacing.be32_magic (h : Replacing image size w name data pre s rest) :
    be32 image s.offset = eepromFileMagic := by
  obtain ⟨-, n, hn⟩ := h.onChain
  exact (sectionHead_eq_record_iff.mp hn).2.1.trans h.magic

/-- **A replacement neither adds nor removes a file** whose name is not taken for a header. -/
theorem Replacing.noMatch_iff (h : Replacing image size w name data pre s rest)
    (hname : name'.bytes.getD 0 0 ≠ 0x55) :
    NoMatch (replaced image size w data s rest) size w name' ↔ NoMatch image size w name' := by
  refine ⟨fun hno t ht => ?_, h.noMatch_other⟩
  by_contra hmatch
  rw [Bool.not_eq_false] at hmatch
  obtain ⟨hfile, -, hwin, hfield⟩ := sectionMatches_iff.mp hmatch
  by_cases hself : t.offset = s.offset
  · have hsame := ht.eq_of_offset h.onChain hself
    have hnew := hno _ h.onChain_self
    rw [h.matches_self, ← hsame, hmatch] at hnew
    cases hnew
  · have hover : t.offset + 8 ≠ s.offset := by
      intro hover
      rw [hover, fileNameMatches_of_magic h.be32_magic hname] at hfield
      cases hfield
    have hnew := hno t ((h.onChain_iff hfile hwin hself).mpr ht)
    rw [h.matches_other ht hfile hself hover, hmatch] at hnew
    cases hnew

/-- A replacement behind a window changes no file in it whose name is not taken for a header. -/
theorem Replacing.sameFiles_below (h : Replacing image size w name data pre s rest)
    (hw : w'.walkStart % 8 = 0) (hend : w'.winEnd ≤ s.offset)
    (hname : name'.bytes.getD 0 0 ≠ 0x55) :
    SameFiles image (replaced image size w data s rest) size w' name' := by
  have hself := h.aligned
  refine ⟨fun t ht => onChain_iff_of_heads (b := s.offset) hw (fun x _ hlt hmod => ?_) (by omega),
    fun t hon ht => ?_⟩
  · exact h.head_low (by omega)
  · have hmod := reaches_aligned hon.1 hw
    have hfield : fileNameMatches (replaced image size w data s rest) (t.offset + 8) name' =
        fileNameMatches image (t.offset + 8) name' := by
      by_cases hover : t.offset + 8 = s.offset
      · -- the field starts with the magic of the replaced section
        have hnew := (sectionHead_eq_record_iff.mp h.head_self).2.1
        rw [hover, fileNameMatches_of_magic h.be32_magic hname, fileNameMatches_of_magic hnew hname]
      · exact fileNameMatches_congr fun i hi hi' => h.outside (by omega) (by omega)
    unfold sectionMatches
    rw [hfield]

/-! ## The whole lookup -/

theorem walkSections_congr {o cap : Nat}
    (h : ∀ x, Reaches (sectionHead image size) o x →
      sectionHead image' size x = sectionHead image size x) :
    walkSections image' size o cap = walkSections image size o cap := by
  rw [walkSections_eq_walk, walkSections_eq_walk]
  exact (walk_congr fun x hx => (h x hx).symm).symm

theorem onChain_of_mem_walk {l : List EepromSection}
    (h : walkSections image size w.walkStart eepromMaxSections = some l) (ht : t ∈ l) :
    OnChain image size w t := by
  rw [walkSections_eq_walk, walk_eq_some_iff] at h
  obtain ⟨-, m, hpath, -⟩ := h
  exact (onChain_of_path (Reaches.refl _ _) hpath ht).1

/-- A walk that ends passes every section of the chain. -/
theorem mem_walk_of_onChain {l : List EepromSection}
    (h : walkSections image size w.walkStart eepromMaxSections = some l)
    (ht : OnChain image size w t) : t ∈ l := by
  rw [walkSections_eq_walk, walk_eq_some_iff] at h
  obtain ⟨-, m, hpath, hstop⟩ := h
  refine mem_of_onChain hpath ht ?_
  by_contra hle
  obtain ⟨hreach, n, hn⟩ := ht
  have hend : m = t.offset := by
    have hto := (Reaches.through (sectionHead_ascending image size) ⟨_, hpath⟩ (by omega)).mp hreach
    exact hto.eq_of_no_record (by rw [hstop]; simp)
  rw [← hend, hstop] at hn
  cases hn

/-- Images with the same chain, and the same names on it, answer a lookup alike. -/
theorem find_congr
    (hwalk : walkSections image' size w.walkStart eepromMaxSections =
      walkSections image size w.walkStart eepromMaxSections)
    (hnames : ∀ t, OnChain image size w t →
      sectionMatches image' w name t = sectionMatches image w name t) :
    eepromFindFileIn image' size w name = eepromFindFileIn image size w name := by
  refine Option.ext fun loc => ?_
  rw [eepromFindFileIn_eq_some_iff, eepromFindFileIn_eq_some_iff, hwalk]
  refine exists_congr fun pre => exists_congr fun s => exists_congr fun rest =>
    and_congr_right fun hl => ?_
  have hpre : ∀ t ∈ pre, sectionMatches image' w name t = sectionMatches image w name t :=
    fun t ht => hnames t (onChain_of_mem_walk hl (by simp [ht]))
  rw [hnames s (onChain_of_mem_walk hl (by simp))]
  refine and_congr_left fun _ => forall₂_congr fun t ht => ?_
  rw [hpre t ht]

/-- So do images that agree from the walk start on. -/
theorem find_congr_from (h : ∀ i, w.walkStart ≤ i → image' i = image i) (name : CString) :
    eepromFindFileIn image' size w name = eepromFindFileIn image size w name := by
  have hasc := sectionHead_ascending image size
  refine find_congr (walkSections_congr fun x hx => ?_) fun t ht => ?_
  · have hle := hx.le hasc
    exact sectionHead_congr fun i hi _ => h i (by omega)
  · have hle := ht.1.le hasc
    have hfield : fileNameMatches image' (t.offset + 8) name =
        fileNameMatches image (t.offset + 8) name :=
      fileNameMatches_congr fun i hi _ => h i (by omega)
    unfold sectionMatches
    rw [hfield]

/-! ## Files with their content -/

/-- The file `name` is at `t`, with that content. -/
structure FileAt (image : Mem) (size : Nat) (w : EepromWindow) (name : CString)
    (t : EepromSection) (content : List UInt8) : Prop where
  first : FirstMatch image size w name t
  holds : image.slice (t.offset + 24) (contentLenOf t) = content

theorem FileAt.found (h : FileAt image size w name t content) (hw : Walkable image size w) :
    ∃ loc, eepromFindFileIn image size w name = some loc ∧
      image.slice loc.contentOffset loc.contentLen = content := by
  obtain ⟨loc, hloc, -, hoff, hlen⟩ := find_of_firstMatch hw h.first
  refine ⟨loc, hloc, ?_⟩
  rw [hoff, hlen]
  exact h.holds

theorem FileAt.of_sameFiles (h : FileAt image size w name t content)
    (hsame : SameFiles image image' size w name)
    (hcontent : ∀ i, t.offset + 24 ≤ i → i < t.offset + 24 + contentLenOf t → image' i = image i) :
    FileAt image' size w name t content :=
  ⟨hsame.firstMatch h.first, (Mem.slice_congr hcontent).trans h.holds⟩

namespace Replacing

theorem fileAt_self (h : Replacing image size w name data pre s rest) :
    FileAt (replaced image size w data s rest) size w name (newSection s data) data := by
  refine ⟨h.firstMatch_self, ?_⟩
  rw [contentLenOf_newSection]
  exact h.content

/-- A section with content does not end right in front of the replaced one's header. -/
theorem not_overlap (h : Replacing image size w name data pre s rest) (ht : OnChain image size w t)
    (hlen : 0 < t.length) : t.offset + 8 ≠ s.offset := by
  intro hover
  have hend := h.end_le ht (by omega)
  omega

theorem fileAt_other (h : Replacing image size w name data pre s rest) (hname : name' ≠ name)
    (ht : FileAt image size w name' t content) (hlen : 0 < t.length) :
    FileAt (replaced image size w data s rest) size w name' t content := by
  have hfile := (sectionMatches_iff.mp ht.first.hit).1
  have hne : t.offset ≠ s.offset := fun heq => hname (h.name_eq ht.first.hit heq)
  refine ⟨h.firstMatch_other rfl (Nat.le_refl _) hname ht.first
    (h.not_overlap ht.first.onChain hlen), ?_⟩
  rw [h.content_other ht.first.onChain (by rw [hfile]; decide) hne]
  exact ht.holds

end Replacing

end Rpi5Uefi
