import Rpi5Uefi.Eeprom.Replace

/-!
# Partitions that do not overlap

The chain walked from 0 holds the read-only area and partition A, and nothing in the walk stops it
at the start of partition B. **`PartitionsApart`** says that its sections do: none runs across
that offset, and no pad section starts there. Then a replacement in partition A stays in front of
partition B (**`PartitionsApart.next_le`**), and the property stays
(**`PartitionsApart.replaced`**). **`ScratchApart`** says the same of partition B and the scratch
sector behind it, where no section starts at all.
-/

namespace Rpi5Uefi

open Bytes Chain

variable {image image' : Mem} {size : Nat} {name : CString} {data : List UInt8}
  {pre rest : List EepromSection} {s t : EepromSection}

/-- No section walked from 0 runs across the start of partition B. -/
def SectionsInside (image : Mem) (size : Nat) : Prop :=
  ∀ t, OnChain image size partitionA t → t.offset < eepromPartitionBStart →
    t.offset + 8 + t.length ≤ eepromPartitionBStart

/-- Nor does a pad section start there. -/
structure PartitionsApart (image : Mem) (size : Nat) : Prop where
  inside : SectionsInside image size
  noPad : be32 image eepromPartitionBStart ≠ eepromPadMagic

/-- To get behind the start of partition B the chain goes through it. -/
theorem SectionsInside.reaches {o x : Nat} (h : SectionsInside image size)
    (ho : Reaches (sectionHead image size) 0 o) (hlt : o ≤ eepromPartitionBStart)
    (hx : Reaches (sectionHead image size) o x) (hle : eepromPartitionBStart ≤ x) :
    Reaches (sectionHead image size) o eepromPartitionBStart := by
  refine hx.crossing hlt hle fun y a n hy hylt hhead => ?_
  have hoff := (sectionHead_eq_record_iff.mp hhead).1
  have hon : OnChain image size partitionA a := by
    refine ⟨?_, n, ?_⟩
    · rw [hoff]
      exact ho.trans hy
    · rwa [hoff]
  have hend := h a hon (by omega)
  obtain ⟨-, -, -, -, -, rfl⟩ := sectionHead_eq_record_iff.mp hhead
  exact alignUp8_le (by decide) (by omega)

/-- **A replacement in partition A stays there.** -/
theorem PartitionsApart.next_le (h : PartitionsApart image size)
    (hr : Replacing image size partitionA name data pre s rest) :
    (locOfMatch size partitionA s rest).nextOffset ≤ eepromPartitionBStart := by
  have hend : partitionA.winEnd = eepromPartitionBStart := rfl
  rcases hr.next_cases with ⟨a, r, b, -, -, -, hnext, hron, hlt, -⟩ | ⟨-, hnext⟩
  · by_contra hcon
    have hasc := sectionHead_ascending image size
    have hstart := hr.offset_lt
    have hto := (hr.onChain.1.through hasc (Nat.le_of_lt hlt)).mp hron.1
    have hB := h.inside.reaches hr.onChain.1 (by omega) hto (by omega)
    have hfrom := (hB.through hasc (show eepromPartitionBStart ≤ r.offset by omega)).mp hto
    -- what starts at partition B is a section, and no pad
    cases hhead : sectionHead image size eepromPartitionBStart with
    | stop =>
      have hsame := hfrom.eq_of_no_record (by rw [hhead]; simp)
      omega
    | corrupt =>
      have hsame := hfrom.eq_of_no_record (by rw [hhead]; simp)
      omega
    | record v n =>
      obtain ⟨hoff, hmagic, -⟩ := sectionHead_eq_record_iff.mp hhead
      have hv : OnChain image size partitionA v := by
        refine ⟨?_, n, ?_⟩
        · rw [hoff]
          exact hr.onChain.1.trans hB
        · rwa [hoff]
      have hpad : v.magic ≠ eepromPadMagic := by
        rw [← hmagic]
        exact h.noPad
      have hle := hr.next_le hv (by omega) hpad
      omega
  · omega

theorem PartitionsApart.outside (h : PartitionsApart image size)
    (hr : Replacing image size partitionA name data pre s rest) {i : Nat}
    (hi : eepromPartitionBStart ≤ i) : replaced image size partitionA data s rest i = image i := by
  have hnext := h.next_le hr
  have hstart := hr.offset_lt
  have hend : partitionA.winEnd = eepromPartitionBStart := rfl
  exact hr.outside (by omega) (by omega)

/-- **Replacements in partition A keep the partitions apart.** -/
theorem PartitionsApart.replaced (h : PartitionsApart image size)
    (hr : Replacing image size partitionA name data pre s rest) :
    PartitionsApart (replaced image size partitionA data s rest) size := by
  have hnext := h.next_le hr
  have hroom := hr.room
  refine ⟨fun t ht hlt => ?_, ?_⟩
  · rcases hr.onChain_cases ht with ⟨-, hold⟩ | rfl | hmem | ⟨hle, hreach, hrec⟩
    · exact h.inside t hold hlt
    · show s.offset + 8 + (data.length + 16) ≤ eepromPartitionBStart
      omega
    · unfold padSections at hmem
      split at hmem
      · rename_i hgap
        have hmod := hr.next_aligned
        have hpad : padStart (locOfMatch size partitionA s rest) data % 8 = 0 := alignUp8_mod _
        rw [List.mem_singleton] at hmem
        subst hmem
        simp only
        omega
      · simp at hmem
    · exact h.inside t (hr.onChain_of_reaches_next hlt hle hreach hrec) hlt
  · have hsame : be32 (Rpi5Uefi.replaced image size partitionA data s rest)
        eepromPartitionBStart = be32 image eepromPartitionBStart :=
      be32_congr fun i hi _ => h.outside hr hi
    rw [hsame]
    exact h.noPad

/-! ## The scratch sector -/

/-- No section walked from the start of partition B runs across its end, and none starts there. -/
structure ScratchApart (image : Mem) (size : Nat) : Prop where
  inside : ∀ t, OnChain image size partitionB t → t.offset < eepromPartitionBEnd →
    t.offset + 8 + t.length ≤ eepromPartitionBEnd
  free : ∀ t n, sectionHead image size eepromPartitionBEnd ≠ .record t n

namespace ScratchApart

/-- The chain of partition B does not get behind its end. -/
theorem reaches_le {x : Nat} (h : ScratchApart image size)
    (hx : Reaches (sectionHead image size) eepromPartitionBStart x) : x ≤ eepromPartitionBEnd := by
  by_contra hgt
  have hasc := sectionHead_ascending image size
  have hend : Reaches (sectionHead image size) eepromPartitionBStart eepromPartitionBEnd := by
    refine hx.crossing (by decide) (by omega) fun y a n hy hylt hhead => ?_
    have hoff := (sectionHead_eq_record_iff.mp hhead).1
    have hon : OnChain image size partitionB a := by
      refine ⟨?_, n, ?_⟩
      · rw [hoff]
        exact hy
      · rwa [hoff]
    have hle := h.inside a hon (by omega)
    obtain ⟨-, -, -, -, -, rfl⟩ := sectionHead_eq_record_iff.mp hhead
    exact alignUp8_le (by decide) (by omega)
  have hfrom := (hend.through hasc (by omega)).mp hx
  have hsame := hfrom.eq_of_no_record h.free
  omega

/-- **A replacement in partition B ends in front of the scratch sector.** -/
theorem next_le (h : ScratchApart image size)
    (hr : Replacing image size partitionB name data pre s rest) :
    (locOfMatch size partitionB s rest).nextOffset ≤ eepromPartitionBEnd := by
  rcases hr.next_cases with ⟨a, r, b, -, -, -, hnext, hron, -⟩ | ⟨-, hnext⟩
  · rw [hnext]
    exact h.reaches_le hron.1
  · exact Nat.le_of_eq hnext

/-- **Replacements in partition B keep the sector apart.** -/
theorem replaced (h : ScratchApart image size)
    (hr : Replacing image size partitionB name data pre s rest) :
    ScratchApart (replaced image size partitionB data s rest) size := by
  have hnext := h.next_le hr
  have hroom := hr.room
  have hend : partitionB.winEnd = eepromPartitionBEnd := rfl
  refine ⟨fun t ht hlt => ?_, fun t n hhead => ?_⟩
  · rcases hr.onChain_cases ht with ⟨-, hold⟩ | rfl | hmem | ⟨hle, hreach, hrec⟩
    · exact h.inside t hold hlt
    · show s.offset + 8 + (data.length + 16) ≤ eepromPartitionBEnd
      omega
    · unfold padSections at hmem
      split at hmem
      · rename_i hgap
        have hmod := hr.next_aligned
        have hpad : padStart (locOfMatch size partitionB s rest) data % 8 = 0 := alignUp8_mod _
        rw [List.mem_singleton] at hmem
        subst hmem
        simp only
        omega
      · simp at hmem
    · exact h.inside t (hr.onChain_of_reaches_next hlt hle hreach hrec) hlt
  · rw [hr.head_high hnext] at hhead
    exact h.free t n hhead

/-- The property is about partition B and what is behind it. -/
theorem of_high (h : ScratchApart image size)
    (hhigh : ∀ i, eepromPartitionBStart ≤ i → image' i = image i) : ScratchApart image' size := by
  have hhead : ∀ x, eepromPartitionBStart ≤ x →
      sectionHead image' size x = sectionHead image size x :=
    fun x hx => sectionHead_congr fun i hi _ => hhigh i (by omega)
  have hasc := sectionHead_ascending image size
  refine ⟨fun t ht hlt => h.inside t ?_ hlt, fun t n hrec => ?_⟩
  · obtain ⟨hreach, n, hn⟩ := ht
    have hreach' : Reaches (sectionHead image size) partitionB.walkStart t.offset :=
      (reaches_iff_of_agree fun x hx => hhead x (hx.le hasc)).mp hreach
    refine ⟨hreach', n, ?_⟩
    rwa [← hhead t.offset (hreach'.le hasc)]
  · rw [hhead _ (by decide)] at hrec
    exact h.free t n hrec

end ScratchApart

end Rpi5Uefi
