import Rpi5Uefi.Eeprom.SameFiles

/-!
# The update timestamp (`EepromSetTimestamp`)

The timestamp goes into the two `updatetime` files, or, when the read-only window's is not found,
into the last eight bytes of the image.

* **`eepromSetTimestamp_cases`**: the three ways a call ends.
* **`find_putTimestamp`**: writing the words into a file changes no lookup.
* **`setTimestamp_newStyle`**: with both files on a walkable chain, both get the words.
-/

namespace Rpi5Uefi

open Bytes Chain

variable {image : Mem} {size : Nat} {w w' : EepromWindow} {name : CString} {t u : EepromSection}
  {loc : EepromFileLoc} {timestamp : UInt32} {i : Nat}

/-- The first eight bytes of an `updatetime` file. -/
def timestampWords (timestamp : UInt32) : List UInt8 :=
  le32Bytes (~~~timestamp).toNat ++ le32Bytes timestamp.toNat

/-- The old-style layout: the words at the end of the image, the other way round. -/
def putOldTimestamp (image : Mem) (size : Nat) (timestamp : UInt32) : Mem :=
  putLe32 (putLe32 image (size - 4) timestamp.toNat) (size - 8) (~~~timestamp).toNat

theorem putTimestamp_outside {o : Nat} (h : i < o ∨ o + 8 ≤ i) :
    putTimestamp image o timestamp i = image i := by
  unfold putTimestamp
  rw [putLe32_of_outside _ (by omega), putLe32_of_outside _ (by omega)]

theorem putOldTimestamp_outside (h : i < size - 8) :
    putOldTimestamp image size timestamp i = image i := by
  unfold putOldTimestamp
  rw [putLe32_of_outside _ (by omega), putLe32_of_outside _ (by omega)]

theorem putOldTimestamp_above (hsize : 8 ≤ size) (h : size ≤ i) :
    putOldTimestamp image size timestamp i = image i := by
  unfold putOldTimestamp
  rw [putLe32_of_outside _ (by omega), putLe32_of_outside _ (by omega)]

theorem slice_putTimestamp (image : Mem) (o : Nat) (timestamp : UInt32) :
    (putTimestamp image o timestamp).slice o 8 = timestampWords timestamp := by
  have hfirst : (putTimestamp image o timestamp).slice o 4 = le32Bytes (~~~timestamp).toNat :=
    calc (putTimestamp image o timestamp).slice o 4
        = (putLe32 image o (~~~timestamp).toNat).slice o 4 :=
          Mem.slice_congr fun i hi hi' => putLe32_of_outside _ (by omega)
      _ = le32Bytes (~~~timestamp).toNat := Mem.slice_write _ _ _
  have hsecond : (putTimestamp image o timestamp).slice (o + 4) 4 = le32Bytes timestamp.toNat :=
    Mem.slice_write _ _ _
  unfold timestampWords
  rw [← hfirst, ← hsecond]
  exact Mem.slice_add _ o 4 4

/-! ## The lookups -/

theorem findUpdatetime_eq_some_iff :
    findUpdatetime image size w = some loc ↔
      eepromFindFileIn image size w updatetime = some loc ∧ 8 ≤ loc.contentLen := by
  unfold findUpdatetime
  rw [Option.filter_eq_some_iff]
  simp

theorem length_of_contentLenOf (h : 8 ≤ contentLenOf t) : 24 ≤ t.length := by
  unfold contentLenOf at h
  rw [show eepromFilenameLen = 12 from rfl] at h
  split at h <;> omega

theorem contentLenOf_of_length (h : 24 ≤ t.length) : contentLenOf t = t.length - 16 := by
  unfold contentLenOf
  rw [show eepromFilenameLen = 12 from rfl, if_pos (by omega)]
  omega

theorem firstMatch_of_findUpdatetime (h : findUpdatetime image size w = some loc) :
    Walkable image size w ∧ ∃ t, FirstMatch image size w updatetime t ∧ 24 ≤ t.length ∧
      loc.contentOffset = t.offset + 24 := by
  obtain ⟨hfind, hlen⟩ := findUpdatetime_eq_some_iff.mp h
  obtain ⟨hw, t, ht, -, hoff, hlen'⟩ := firstMatch_of_find hfind
  rw [hlen'] at hlen
  exact ⟨hw, t, ht, length_of_contentLenOf hlen, hoff⟩

theorem findUpdatetime_of_firstMatch (hw : Walkable image size w)
    (ht : FirstMatch image size w updatetime t) (hlen : 24 ≤ t.length) :
    ∃ loc, findUpdatetime image size w = some loc ∧ loc.contentOffset = t.offset + 24 := by
  obtain ⟨loc, hloc, -, hoff, hlen'⟩ := find_of_firstMatch hw ht
  refine ⟨loc, findUpdatetime_eq_some_iff.mpr ⟨hloc, ?_⟩, hoff⟩
  rw [hlen', contentLenOf_of_length hlen]
  omega

/-! ## Writing the words -/

/-- **How a call ends**: the old-style layout; or the read-only file written and partition A's not
found; or both written. -/
theorem eepromSetTimestamp_cases (image : Mem) (size : Nat) (timestamp : UInt32) :
    (findUpdatetime image size readOnlyWindow = none ∧
        eepromSetTimestamp image size timestamp =
          (.success, putOldTimestamp image size timestamp)) ∨
      ∃ loc, findUpdatetime image size readOnlyWindow = some loc ∧
        (findUpdatetime (putTimestamp image loc.contentOffset timestamp) size partitionA = none ∧
            eepromSetTimestamp image size timestamp =
              (.notFound, putTimestamp image loc.contentOffset timestamp) ∨
          ∃ loc', findUpdatetime (putTimestamp image loc.contentOffset timestamp) size
              partitionA = some loc' ∧
            eepromSetTimestamp image size timestamp =
              (.success, putTimestamp (putTimestamp image loc.contentOffset timestamp)
                loc'.contentOffset timestamp)) := by
  unfold eepromSetTimestamp
  cases hro : findUpdatetime image size readOnlyWindow with
  | none => exact Or.inl ⟨rfl, rfl⟩
  | some loc =>
    right
    refine ⟨loc, rfl, ?_⟩
    simp only
    cases ha : findUpdatetime (putTimestamp image loc.contentOffset timestamp) size partitionA with
    | none => exact Or.inl ⟨rfl, rfl⟩
    | some loc' => exact Or.inr ⟨loc', rfl, rfl⟩

/-- Another section of the chain ends in front of a section or starts behind it. -/
theorem onChain_disjoint (ht : OnChain image size w t) (hu : OnChain image size w u)
    (hlt : t.offset < u.offset) : t.offset + 8 + t.length ≤ u.offset := by
  obtain ⟨hreach, n, hn⟩ := ht
  have hto := (Reaches.through (sectionHead_ascending image size) hreach (Nat.le_of_lt hlt)).mp hu.1
  have hle := (hto.next (sectionHead_ascending image size) hn (by omega)).1
  obtain ⟨-, -, -, -, -, rfl⟩ := sectionHead_eq_record_iff.mp hn
  exact Nat.le_trans (alignUp8_ge _) hle

section
variable (ht : OnChain image size w t) (hlen : 24 ≤ t.length)
include ht hlen

theorem head_putTimestamp {x : Nat} (hx : Reaches (sectionHead image size) w.walkStart x) :
    sectionHead (putTimestamp image (t.offset + 24) timestamp) size x =
      sectionHead image size x := by
  refine sectionHead_congr fun i hi hi' => ?_
  rcases Nat.lt_trichotomy x t.offset with hlt | rfl | hgt
  · exact putTimestamp_outside (by omega)
  · exact putTimestamp_outside (by omega)
  · -- the chain goes on behind the file
    obtain ⟨hreach, n, hn⟩ := ht
    have hto := (hreach.through (sectionHead_ascending image size) (Nat.le_of_lt hgt)).mp hx
    have hle := (hto.next (sectionHead_ascending image size) hn (by omega)).1
    obtain ⟨-, -, -, -, -, rfl⟩ := sectionHead_eq_record_iff.mp hn
    have hge := alignUp8_ge (t.offset + 8 + t.length)
    exact putTimestamp_outside (by omega)

theorem walkSections_putTimestamp :
    walkSections (putTimestamp image (t.offset + 24) timestamp) size w.walkStart
        eepromMaxSections = walkSections image size w.walkStart eepromMaxSections :=
  walkSections_congr fun _ hx => head_putTimestamp ht hlen hx

theorem onChain_putTimestamp :
    OnChain (putTimestamp image (t.offset + 24) timestamp) size w u ↔ OnChain image size w u := by
  unfold OnChain
  rw [reaches_iff_of_agree fun x hx => head_putTimestamp ht hlen hx]
  refine and_congr_right fun hreach => ?_
  rw [head_putTimestamp ht hlen hreach]

theorem matches_putTimestamp (hw : w.walkStart % 8 = 0) (hu : OnChain image size w u)
    (w' : EepromWindow) (name : CString) :
    sectionMatches (putTimestamp image (t.offset + 24) timestamp) w' name u =
      sectionMatches image w' name u := by
  have htmod := reaches_aligned ht.1 hw
  have humod := reaches_aligned hu.1 hw
  have hfield : fileNameMatches (putTimestamp image (t.offset + 24) timestamp) (u.offset + 8) name =
      fileNameMatches image (u.offset + 8) name := by
    refine fileNameMatches_congr fun i hi hi' => ?_
    rcases Nat.lt_trichotomy u.offset t.offset with hlt | heq | hgt
    · exact putTimestamp_outside (by omega)
    · exact putTimestamp_outside (by omega)
    · have hdis := onChain_disjoint ht hu hgt
      exact putTimestamp_outside (by omega)
  unfold sectionMatches
  rw [hfield]

/-- **The words change no lookup** on the chain of the file they are written to. -/
theorem find_putTimestamp (hw : w.walkStart % 8 = 0) (hw' : w'.walkStart = w.walkStart)
    (name : CString) :
    eepromFindFileIn (putTimestamp image (t.offset + 24) timestamp) size w' name =
      eepromFindFileIn image size w' name := by
  refine find_congr ?_ fun u hu => ?_
  · rw [hw']
    exact walkSections_putTimestamp ht hlen
  · exact matches_putTimestamp ht hlen hw ((onChain_window hw').mp hu) w' name

theorem sameFiles_putTimestamp (hw : w.walkStart % 8 = 0) (hw' : w'.walkStart = w.walkStart)
    (name : CString) :
    SameFiles image (putTimestamp image (t.offset + 24) timestamp) size w' name := by
  refine ⟨fun u _ => ?_, fun u hu _ => ?_⟩
  · rw [onChain_window hw', onChain_window hw']
    exact onChain_putTimestamp ht hlen
  · exact matches_putTimestamp ht hlen hw ((onChain_window hw').mp hu) w' name

end

/-- **Both files get the words** when both are on the walkable chain. -/
theorem setTimestamp_newStyle (timestamp : UInt32) (hwalk : Walkable image size readOnlyWindow)
    (ht : FirstMatch image size readOnlyWindow updatetime t) (htlen : 24 ≤ t.length)
    (hu : FirstMatch image size partitionA updatetime u) (hulen : 24 ≤ u.length) :
    eepromSetTimestamp image size timestamp =
      (.success, putTimestamp (putTimestamp image (t.offset + 24) timestamp) (u.offset + 24)
        timestamp) := by
  obtain ⟨loc, hloc, hoff⟩ := findUpdatetime_of_firstMatch hwalk ht htlen
  obtain ⟨loc', hloc', hoff'⟩ := findUpdatetime_of_firstMatch (w := partitionA) hwalk hu hulen
  have hsame : findUpdatetime (putTimestamp image (t.offset + 24) timestamp) size partitionA =
      some loc' := by
    unfold findUpdatetime at hloc' ⊢
    rw [find_putTimestamp ht.onChain htlen (by decide) (by decide)]
    exact hloc'
  unfold eepromSetTimestamp
  rw [hloc]
  simp only
  rw [hoff, hsame, ← hoff']

/-- A call that succeeds wrote the old-style layout, or both files. -/
theorem setTimestamp_success (h : (eepromSetTimestamp image size timestamp).1 = .success) :
    (findUpdatetime image size readOnlyWindow = none ∧
        (eepromSetTimestamp image size timestamp).2 = putOldTimestamp image size timestamp) ∨
      ∃ t u, FirstMatch image size readOnlyWindow updatetime t ∧ 24 ≤ t.length ∧
        FirstMatch image size partitionA updatetime u ∧ 24 ≤ u.length ∧
        (eepromSetTimestamp image size timestamp).2 =
          putTimestamp (putTimestamp image (t.offset + 24) timestamp) (u.offset + 24)
            timestamp := by
  rcases eepromSetTimestamp_cases image size timestamp with
    ⟨hnone, hcall⟩ | ⟨loc, hloc, ⟨-, hcall⟩ | ⟨loc', hloc', hcall⟩⟩
  · rw [hcall]
    exact Or.inl ⟨hnone, rfl⟩
  · rw [hcall] at h
    cases h
  · obtain ⟨-, t, ht, htlen, hoff⟩ := firstMatch_of_findUpdatetime hloc
    rw [hoff] at hloc' hcall
    have hsame : findUpdatetime image size partitionA = some loc' := by
      unfold findUpdatetime at hloc' ⊢
      rwa [find_putTimestamp ht.onChain htlen (by decide) (by decide)] at hloc'
    obtain ⟨-, u, hu, hulen, hoff'⟩ := firstMatch_of_findUpdatetime hsame
    rw [hcall, hoff']
    exact Or.inr ⟨t, u, ht, htlen, hu, hulen, rfl⟩

end Rpi5Uefi
