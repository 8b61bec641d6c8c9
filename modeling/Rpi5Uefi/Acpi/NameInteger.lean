import Mathlib.Order.Bounds.Basic
import Rpi5Uefi.Efi.Status
import Rpi5Uefi.Lib.Bytes

/-!
# Patching a named integer of an ACPI table

`AcpiUpdateSdtNameInteger` looks for the first `Name (XXXX, integer)` of a table and writes a value
over the integer. The scan is over raw bytes, and the table may end anywhere in an object.

* **`acpiUpdateSdtNameInteger`**: the function, with the offsets it reads or writes behind the
  table's address.
* **`amlInteger`**: the integer that is encoded at an offset of a table.
* **`UpdateHolds`**: a patched integer decodes to the value, a table that is not patched is as it
  was, and nothing behind the table is touched.
* **`acpiUpdateSdtNameInteger_holds_iff`**: it does exactly for the tables in which the found
  integer has room for the value.
-/

namespace Rpi5Uefi

open Bytes

/-! ## Encodings of integers -/

/-- `AML_ZERO_OP`. -/
def amlZeroOp : UInt8 := 0x00

/-- `AML_ONE_OP`. -/
def amlOneOp : UInt8 := 0x01

/-- `AML_NAME_OP`. -/
def amlNameOp : UInt8 := 0x08

/-- `AML_BYTE_PREFIX`. -/
def amlBytePrefix : UInt8 := 0x0A

/-- `AML_WORD_PREFIX`. -/
def amlWordPrefix : UInt8 := 0x0B

/-- `AML_DWORD_PREFIX`. -/
def amlDwordPrefix : UInt8 := 0x0C

/-- `AML_QWORD_PREFIX`. -/
def amlQwordPrefix : UInt8 := 0x0E

/-- `AML_ONES_OP`. -/
def amlOnesOp : UInt8 := 0xFF

/-- How many bytes of an integer follow a prefix. -/
def amlOperandSize (op : UInt8) : Option Nat :=
  if op = amlBytePrefix then some 1
  else if op = amlWordPrefix then some 2
  else if op = amlDwordPrefix then some 4
  else if op = amlQwordPrefix then some 8
  else none

/-- The integer at `offset` of a table of `length` bytes, in any of the six encodings. -/
def amlInteger (mem : Mem) (offset length : Nat) : Option Nat :=
  if mem offset = amlZeroOp then some 0
  else if mem offset = amlOneOp then some 1
  else if mem offset = amlOnesOp then some (2 ^ 64 - 1)
  else
    match amlOperandSize (mem offset) with
    | none => none
    | some size =>
      if offset + 1 + size ≤ length then some (leNat (mem.slice (offset + 1) size)) else none

/-! ## The function -/

/-- `AML_NAME_SEG_SIZE`. -/
def amlNameSegSize : Nat := 4

/-- `CHAR8 Name[AML_NAME_SEG_SIZE]`. -/
structure AmlNameSeg where
  chars : List UInt8
  length_chars : chars.length = amlNameSegSize

/-- `SDT_PATTERN_LEN`. -/
def sdtPatternLen : Nat := amlNameSegSize + 1

/-- `Pattern`: the name of an object behind its operator. -/
def sdtPattern (name : AmlNameSeg) : List UInt8 := amlNameOp :: name.chars

/-- The memory at the table's address, and the offsets behind `SdtPtr` that were read or written. -/
structure SdtAccess where
  mem : Mem
  touched : List Nat

/-- `CompareMem (SdtPtr + Index, Pattern, SDT_PATTERN_LEN) == 0`. -/
def SdtAccess.compareMem (s : SdtAccess) (index : Nat) (pattern : List UInt8) : SdtAccess × Bool :=
  ({ s with touched := s.touched ++ List.range' index sdtPatternLen },
    s.mem.slice index sdtPatternLen == pattern)

/-- `SdtPtr[Offset]`. -/
def SdtAccess.byteAt (s : SdtAccess) (offset : Nat) : SdtAccess × UInt8 :=
  ({ s with touched := s.touched ++ [offset] }, s.mem offset)

/-- `CopyMem (SdtPtr + Offset, &Value, DataSize)`. -/
def SdtAccess.copyMem (s : SdtAccess) (offset : Nat) (value : UInt64) (dataSize : Nat) :
    SdtAccess where
  mem := s.mem.write offset (leBytes dataSize value.toNat)
  touched := s.touched ++ List.range' offset dataSize

/-- The `switch`: `ValueOffset` and `DataSize`. -/
def sdtValuePlace (op : UInt8) : Option (Nat × Nat) :=
  let valueOffset := sdtPatternLen + 1
  if op = amlQwordPrefix then some (valueOffset, 8)
  else if op = amlDwordPrefix then some (valueOffset, 4)
  else if op = amlWordPrefix then some (valueOffset, 2)
  -- a constant is its own operand
  else if op = amlOneOp ∨ op = amlZeroOp then some (valueOffset - 1, 1)
  else if op = amlBytePrefix then some (valueOffset, 1)
  else none

/-- The body of the loop at a match. -/
def acpiPatchAt (index : Nat) (value : UInt64) (s : SdtAccess) : SdtAccess × EfiStatus :=
  let read := s.byteAt (index + sdtPatternLen)
  match sdtValuePlace read.2 with
  | none => (read.1, .unsupported)
  | some (valueOffset, dataSize) =>
    (read.1.copyMem (index + valueOffset) value dataSize, .success)

/-- The loop over `Index`, with the count of turns that are left. -/
def acpiScan (pattern : List UInt8) (value : UInt64) : Nat → Nat → SdtAccess →
    SdtAccess × EfiStatus
  | 0, _, s => (s, .notFound)
  | left + 1, index, s =>
    let compared := s.compareMem index pattern
    if compared.2 then acpiPatchAt index value compared.1
    else acpiScan pattern value left (index + 1) compared.1

/-- `AcpiUpdateSdtNameInteger`. The header's `Length` is a field of the table the caller passes. -/
def acpiUpdateSdtNameInteger (mem : Mem) (length : UInt32) (name : AmlNameSeg) (value : UInt64) :
    SdtAccess × EfiStatus :=
  if length.toNat ≤ sdtPatternLen then (⟨mem, []⟩, .invalidParameter)
  else acpiScan (sdtPattern name) value (length.toNat - sdtPatternLen) 0 ⟨mem, []⟩

/-! ## What an update should do -/

/-- The name operator with the name, and at least one byte behind them, at `index`. -/
def NamedAt (mem : Mem) (length : UInt32) (name : AmlNameSeg) (index : Nat) : Prop :=
  index + sdtPatternLen < length.toNat ∧ mem.slice index sdtPatternLen = sdtPattern name

/-- The `NameOp` that the scan matches: the first of the table. -/
def MatchedAt (mem : Mem) (length : UInt32) (name : AmlNameSeg) (index : Nat) : Prop :=
  IsLeast {i | NamedAt mem length name i} index

/-- The bytes that hold the value of an integer; a constant is held by its own byte. -/
def amlDataSize (op : UInt8) : Nat := (amlOperandSize op).getD 1

/-- The bytes an integer takes, with its prefix. -/
def amlIntegerSize (op : UInt8) : Nat := 1 + (amlOperandSize op).getD 0

/-- **An update as it should be**: a patched integer decodes to the value, at the width of its
encoding, and every other byte is as before; a failed update changes nothing; and no byte behind
the table is read or written. -/
structure UpdateHolds (mem : Mem) (length : UInt32) (name : AmlNameSeg) (value : UInt64)
    (r : SdtAccess × EfiStatus) : Prop where
  patched : r.2 = .success → ∃ index, MatchedAt mem length name index ∧
    amlInteger r.1.mem (index + sdtPatternLen) length.toNat =
      some (value.toNat % 2 ^ (8 * amlDataSize (mem (index + sdtPatternLen)))) ∧
    ∀ i, i < index + sdtPatternLen ∨
        index + sdtPatternLen + amlIntegerSize (mem (index + sdtPatternLen)) ≤ i →
      r.1.mem i = mem i
  kept : r.2 ≠ .success → r.1.mem = mem
  inside : ∀ offset ∈ r.1.touched, offset < length.toNat

/-- The integer at `offset` can be given the value: its operand ends inside the table; or it is a
constant and the value's low byte is a constant of that value, or by accident the prefix of an
operand that reads as this very byte. -/
def HasRoom (mem : Mem) (length : UInt32) (value : UInt64) (offset : Nat) : Prop :=
  match amlOperandSize (mem offset) with
  | some size => offset + 1 + size ≤ length.toNat
  | none => mem offset = amlZeroOp ∨ mem offset = amlOneOp →
      value.toUInt8 = amlZeroOp ∨ value.toUInt8 = amlOneOp ∨
        ∃ size, amlOperandSize value.toUInt8 = some size ∧ offset + 1 + size ≤ length.toNat ∧
          leNat (mem.slice (offset + 1) size) = value.toUInt8.toNat

/-! ## The scan -/

variable {mem : Mem} {length : UInt32} {name : AmlNameSeg} {value : UInt64} {index : Nat}

/-- The accesses of `n` comparisons from `index` on. -/
def SdtAccess.compared (s : SdtAccess) (index n : Nat) : SdtAccess :=
  { s with touched := s.touched ++ (List.range' index n).flatMap (List.range' · sdtPatternLen) }

theorem compared_succ (s : SdtAccess) (index n : Nat) (pattern : List UInt8) :
    (s.compareMem index pattern).1.compared (index + 1) n = s.compared index (n + 1) := by
  unfold SdtAccess.compared SdtAccess.compareMem
  rw [List.range'_succ, List.flatMap_cons, List.append_assoc]

theorem lt_of_mem_compared {touched : List Nat} {bound n : Nat}
    (htouched : ∀ o ∈ touched, o < bound) (hbound : index + n + sdtPatternLen ≤ bound + 1) :
    ∀ o ∈ ((SdtAccess.mk mem touched).compared index n).touched, o < bound := by
  intro o ho
  rcases List.mem_append.mp ho with hold | hnew
  · exact htouched o hold
  · obtain ⟨i, hi, hoi⟩ := List.mem_flatMap.mp hnew
    have hrange := List.mem_range'_1.mp hi
    have hpattern := List.mem_range'_1.mp hoi
    omega

/-- One turn of the loop. -/
theorem acpiScan_succ (pattern : List UInt8) (value : UInt64) (left index : Nat) (s : SdtAccess) :
    acpiScan pattern value (left + 1) index s =
      if s.mem.slice index sdtPatternLen = pattern then
        acpiPatchAt index value (s.compareMem index pattern).1
      else acpiScan pattern value left (index + 1) (s.compareMem index pattern).1 := by
  show (if (s.mem.slice index sdtPatternLen == pattern) = true then _ else _) = _
  simp only [beq_iff_eq]

/-- **The loop** compares up to the first match and patches there, or compares in vain. Induction
on the turns that are left. -/
theorem acpiScan_cases (pattern : List UInt8) (value : UInt64) (left index : Nat) (s : SdtAccess) :
    (∃ k < left, s.mem.slice (index + k) sdtPatternLen = pattern ∧
      (∀ j < k, s.mem.slice (index + j) sdtPatternLen ≠ pattern) ∧
      acpiScan pattern value left index s =
        acpiPatchAt (index + k) value (s.compared index (k + 1))) ∨
    ((∀ k < left, s.mem.slice (index + k) sdtPatternLen ≠ pattern) ∧
      acpiScan pattern value left index s = (s.compared index left, .notFound)) := by
  induction left generalizing index s with
  | zero =>
    refine Or.inr ⟨fun k hk => absurd hk (Nat.not_lt_zero k), ?_⟩
    show (s, EfiStatus.notFound) = (s.compared index 0, EfiStatus.notFound)
    unfold SdtAccess.compared
    rw [List.range'_zero, List.flatMap_nil, List.append_nil]
  | succ left ih =>
    rw [acpiScan_succ]
    split
    · rename_i hmatch
      refine Or.inl ⟨0, Nat.succ_pos left, hmatch, fun j hj => ?_, ?_⟩
      · exact absurd hj (Nat.not_lt_zero j)
      · rw [← compared_succ s index 0 pattern]
        unfold SdtAccess.compared
        rw [List.range'_zero, List.flatMap_nil, List.append_nil, Nat.add_zero]
    · rename_i hhere
      rcases ih (index + 1) (s.compareMem index pattern).1 with
        ⟨k, hk, hslice, hbefore, heq⟩ | ⟨hnone, heq⟩
      · refine Or.inl ⟨k + 1, Nat.succ_lt_succ hk, ?_, fun j hj => ?_, ?_⟩
        · rw [← Nat.add_assoc, Nat.add_right_comm]
          exact hslice
        · cases j with
          | zero => exact hhere
          | succ j =>
            rw [← Nat.add_assoc, Nat.add_right_comm]
            exact hbefore j (Nat.lt_of_succ_lt_succ hj)
        · rw [heq, compared_succ, Nat.add_right_comm, Nat.add_assoc]
      · refine Or.inr ⟨fun j hj => ?_, ?_⟩
        · cases j with
          | zero => exact hhere
          | succ j =>
            rw [← Nat.add_assoc, Nat.add_right_comm]
            exact hnone j (Nat.lt_of_succ_lt_succ hj)
        · rw [heq, compared_succ]

/-- The whole function: a patch at the matched name, or a failure that leaves the memory. -/
theorem acpiUpdateSdtNameInteger_cases (mem : Mem) (length : UInt32) (name : AmlNameSeg)
    (value : UInt64) :
    (∃ index touched, MatchedAt mem length name index ∧ (∀ o ∈ touched, o < length.toNat) ∧
      acpiUpdateSdtNameInteger mem length name value = acpiPatchAt index value ⟨mem, touched⟩) ∨
    ((∀ index, ¬NamedAt mem length name index) ∧
      ∃ touched status, (∀ o ∈ touched, o < length.toNat) ∧ status ≠ .success ∧
        acpiUpdateSdtNameInteger mem length name value = (⟨mem, touched⟩, status)) := by
  unfold acpiUpdateSdtNameInteger
  split
  · rename_i hshort
    refine Or.inr ⟨fun index hnamed => ?_, [], .invalidParameter, ?_, ?_, rfl⟩
    · exact absurd hnamed.1 (by omega)
    · exact fun o ho => absurd ho List.not_mem_nil
    · exact fun h => EfiStatus.noConfusion h
  · rename_i hlong
    have hnil : ∀ o ∈ ([] : List Nat), o < length.toNat :=
      fun o ho => absurd ho List.not_mem_nil
    rcases acpiScan_cases (sdtPattern name) value (length.toNat - sdtPatternLen) 0 ⟨mem, []⟩ with
      ⟨k, hk, hslice, hbefore, heq⟩ | ⟨hnone, heq⟩
    · rw [Nat.zero_add] at hslice heq
      refine Or.inl ⟨k, _, ⟨⟨by omega, hslice⟩, fun i hi => ?_⟩, ?_, heq⟩
      · -- an earlier name would have been matched
        refine Nat.le_of_not_lt fun hlt => hbefore i hlt ?_
        rw [Nat.zero_add]
        exact hi.2
      · exact lt_of_mem_compared hnil (by omega)
    · refine Or.inr ⟨fun i hi => hnone i ?_ ?_, _, .notFound, ?_, ?_, heq⟩
      · have hroom := hi.1
        omega
      · rw [Nat.zero_add]
        exact hi.2
      · exact lt_of_mem_compared hnil (by omega)
      · exact fun h => EfiStatus.noConfusion h

/-! ## The patch -/

section Patch

variable {offset size : Nat} {op : UInt8}

theorem amlOperandSize_pos (h : amlOperandSize op = some size) : 0 < size := by
  unfold amlOperandSize at h
  repeat' split at h
  all_goals cases h
  all_goals decide

/-- A prefix is none of the constants. -/
theorem amlInteger_operand (h : amlOperandSize (mem offset) = some size) (bound : Nat) :
    amlInteger mem offset bound =
      if offset + 1 + size ≤ bound then some (leNat (mem.slice (offset + 1) size)) else none := by
  have hne : ∀ b, amlOperandSize b = none → mem offset ≠ b := fun b hb heq => by
    rw [heq, hb] at h
    cases h
  unfold amlInteger
  rw [if_neg (hne _ rfl), if_neg (hne _ rfl), if_neg (hne _ rfl), h]

/-- The integer at `offset` reads as its own first byte: it is one of the two constants, or an
operand that repeats its prefix. -/
theorem amlInteger_eq_self (mem : Mem) (offset bound : Nat) :
    amlInteger mem offset bound = some (mem offset).toNat ↔
      mem offset = amlZeroOp ∨ mem offset = amlOneOp ∨
        ∃ size, amlOperandSize (mem offset) = some size ∧ offset + 1 + size ≤ bound ∧
          leNat (mem.slice (offset + 1) size) = (mem offset).toNat := by
  cases hsize : amlOperandSize (mem offset) with
  | some size =>
    rw [amlInteger_operand hsize]
    have hne : ∀ b, amlOperandSize b = none → mem offset ≠ b := fun b hb heq => by
      rw [heq, hb] at hsize
      cases hsize
    constructor
    · intro h
      split at h
      · rename_i hroom
        exact Or.inr (Or.inr ⟨size, rfl, hroom, Option.some.inj h⟩)
      · cases h
    · rintro (hzero | hone | ⟨size', hsize', hroom, hvalue⟩)
      · exact absurd hzero (hne _ rfl)
      · exact absurd hone (hne _ rfl)
      · cases hsize'
        rw [if_pos hroom, hvalue]
  | none =>
    unfold amlInteger
    split
    · rename_i hzero
      rw [hzero]
      exact iff_of_true rfl (Or.inl rfl)
    · rename_i hzero
      split
      · rename_i hone
        rw [hone]
        exact iff_of_true rfl (Or.inr (Or.inl rfl))
      · rename_i hone
        have hother : ¬(mem offset = amlZeroOp ∨ mem offset = amlOneOp ∨
            ∃ size, none = some size ∧ offset + 1 + size ≤ bound ∧
              leNat (mem.slice (offset + 1) size) = (mem offset).toNat) := by
          rintro (h | h | ⟨size, h, -⟩)
          · exact hzero h
          · exact hone h
          · cases h
        refine iff_of_false (fun h => ?_) hother
        have hlt := (mem offset).toNat_lt
        split at h
        · have hvalue := Option.some.inj h
          omega
        · rw [hsize] at h
          cases h

/-- Where the `switch` puts a value: behind a prefix, or over a constant. -/
theorem sdtValuePlace_cases (op : UInt8) :
    (∃ size, amlOperandSize op = some size ∧ sdtValuePlace op = some (sdtPatternLen + 1, size)) ∨
    (amlOperandSize op = none ∧ (op = amlZeroOp ∨ op = amlOneOp) ∧
      sdtValuePlace op = some (sdtPatternLen, 1)) ∨
    (amlOperandSize op = none ∧ ¬(op = amlZeroOp ∨ op = amlOneOp) ∧ sdtValuePlace op = none) := by
  unfold sdtValuePlace amlOperandSize
  by_cases hbyte : op = amlBytePrefix
  · subst hbyte
    exact Or.inl ⟨1, rfl, rfl⟩
  · by_cases hword : op = amlWordPrefix
    · subst hword
      exact Or.inl ⟨2, rfl, rfl⟩
    · by_cases hdword : op = amlDwordPrefix
      · subst hdword
        exact Or.inl ⟨4, rfl, rfl⟩
      · by_cases hqword : op = amlQwordPrefix
        · subst hqword
          exact Or.inl ⟨8, rfl, rfl⟩
        · simp only [if_neg hbyte, if_neg hword, if_neg hdword, if_neg hqword, true_and]
          refine Or.inr ?_
          by_cases hconstant : op = amlZeroOp ∨ op = amlOneOp
          · exact Or.inl ⟨hconstant, if_pos hconstant.symm⟩
          · exact Or.inr ⟨hconstant, if_neg fun h => hconstant h.symm⟩

variable {touched : List Nat}

theorem acpiPatchAt_some {valueOffset dataSize : Nat}
    (hplace : sdtValuePlace (mem (index + sdtPatternLen)) = some (valueOffset, dataSize)) :
    acpiPatchAt index value ⟨mem, touched⟩ =
      (((SdtAccess.mk mem touched).byteAt (index + sdtPatternLen)).1.copyMem
        (index + valueOffset) value dataSize, .success) := by
  simp only [acpiPatchAt, SdtAccess.byteAt, hplace]

theorem acpiPatchAt_none (hplace : sdtValuePlace (mem (index + sdtPatternLen)) = none) :
    acpiPatchAt index value ⟨mem, touched⟩ =
      (((SdtAccess.mk mem touched).byteAt (index + sdtPatternLen)).1, .unsupported) := by
  simp only [acpiPatchAt, SdtAccess.byteAt, hplace]

/-- What a patch touches: the bytes before it, the operator, and the bytes it writes. -/
theorem mem_touched_patch {off n : Nat} {o : Nat} :
    o ∈ ((((SdtAccess.mk mem touched).byteAt (index + sdtPatternLen)).1.copyMem off value
      n).touched)
      ↔ o ∈ touched ∨ o = index + sdtPatternLen ∨ off ≤ o ∧ o < off + n := by
  unfold SdtAccess.byteAt SdtAccess.copyMem
  rw [List.mem_append, List.mem_append, List.mem_singleton, List.mem_range'_1, or_assoc]

/-- A value behind a prefix is as it should be if it ends inside the table. -/
theorem patchAt_operand (hmatched : MatchedAt mem length name index)
    (htouched : ∀ o ∈ touched, o < length.toNat)
    (hsize : amlOperandSize (mem (index + sdtPatternLen)) = some size)
    (hplace : sdtValuePlace (mem (index + sdtPatternLen)) = some (sdtPatternLen + 1, size)) :
    UpdateHolds mem length name value (acpiPatchAt index value ⟨mem, touched⟩) ↔
      index + sdtPatternLen + 1 + size ≤ length.toNat := by
  have hpos := amlOperandSize_pos hsize
  rw [acpiPatchAt_some hplace]
  constructor
  · -- the last byte written is in the table
    intro h
    have hlast := h.inside (index + sdtPatternLen + size)
      (mem_touched_patch.mpr (Or.inr (Or.inr ⟨by omega, by omega⟩)))
    omega
  · intro hroom
    have hbytes : (leBytes size value.toNat).length = size := length_leBytes size value.toNat
    have hop : (mem.write (index + sdtPatternLen + 1) (leBytes size value.toNat))
        (index + sdtPatternLen) = mem (index + sdtPatternLen) :=
      Mem.write_of_lt _ (by omega)
    refine ⟨fun _ => ⟨index, hmatched, ?_, fun i hi => ?_⟩, fun h => absurd rfl h, fun o ho => ?_⟩
    · show amlInteger (mem.write (index + sdtPatternLen + 1) (leBytes size value.toNat))
        (index + sdtPatternLen) length.toNat = _
      have hread : (mem.write (index + sdtPatternLen + 1) (leBytes size value.toNat)).slice
          (index + sdtPatternLen + 1) size = leBytes size value.toNat := by
        have hslice := Mem.slice_write mem (index + sdtPatternLen + 1) (leBytes size value.toNat)
        rwa [hbytes] at hslice
      rw [amlInteger_operand (by rw [hop]; exact hsize), if_pos hroom, hread, leNat_leBytes]
      unfold amlDataSize
      rw [hsize, Option.getD_some]
    · unfold amlIntegerSize at hi
      rw [hsize, Option.getD_some] at hi
      exact Mem.write_of_outside _ (by omega)
    · rcases mem_touched_patch.mp ho with hold | rfl | hnew
      · exact htouched o hold
      · exact hmatched.1.1
      · omega

/-- A value over a constant is as it should be if its low byte reads as itself. -/
theorem patchAt_constant (hmatched : MatchedAt mem length name index)
    (htouched : ∀ o ∈ touched, o < length.toNat)
    (hsize : amlOperandSize (mem (index + sdtPatternLen)) = none)
    (hplace : sdtValuePlace (mem (index + sdtPatternLen)) = some (sdtPatternLen, 1)) :
    UpdateHolds mem length name value (acpiPatchAt index value ⟨mem, touched⟩) ↔
      value.toUInt8 = amlZeroOp ∨ value.toUInt8 = amlOneOp ∨
        ∃ size, amlOperandSize value.toUInt8 = some size ∧
          index + sdtPatternLen + 1 + size ≤ length.toNat ∧
          leNat (mem.slice (index + sdtPatternLen + 1) size) = value.toUInt8.toNat := by
  have hlow : UInt8.ofNat value.toNat = value.toUInt8 := rfl
  have hop : (mem.write (index + sdtPatternLen) (leBytes 1 value.toNat))
      (index + sdtPatternLen) = value.toUInt8 := by
    have hfirst : 0 < (leBytes 1 value.toNat).length := by
      rw [length_leBytes]
      exact Nat.one_pos
    have hbyte : (mem.write (index + sdtPatternLen) (leBytes 1 value.toNat))
        (index + sdtPatternLen + 0) = (leBytes 1 value.toNat)[0] := Mem.write_inside hfirst
    exact hbyte.trans hlow
  have hafter : ∀ n, (mem.write (index + sdtPatternLen) (leBytes 1 value.toNat)).slice
      (index + sdtPatternLen + 1) n = mem.slice (index + sdtPatternLen + 1) n := fun n =>
    Mem.slice_congr fun i hi _ => Mem.write_of_ge _ (by rw [length_leBytes]; exact hi)
  have hself := amlInteger_eq_self
    (mem.write (index + sdtPatternLen) (leBytes 1 value.toNat)) (index + sdtPatternLen)
    length.toNat
  simp only [hop, hafter] at hself
  have hvalue : value.toUInt8.toNat =
      value.toNat % 2 ^ (8 * amlDataSize (mem (index + sdtPatternLen))) := by
    unfold amlDataSize
    rw [hsize, Option.getD_none, UInt64.toNat_toUInt8]
  rw [acpiPatchAt_some hplace, ← hself]
  constructor
  · intro h
    obtain ⟨index', hmatched', hread, -⟩ := h.patched rfl
    rw [hmatched'.unique hmatched] at hread
    rw [hvalue]
    exact hread
  · intro hread
    rw [hvalue] at hread
    refine ⟨fun _ => ⟨index, hmatched, hread, fun i hi => ?_⟩, fun h => absurd rfl h,
      fun o ho => ?_⟩
    · unfold amlIntegerSize at hi
      rw [hsize, Option.getD_none] at hi
      exact Mem.write_of_outside _ (by rw [length_leBytes]; omega)
    · rcases mem_touched_patch.mp ho with hold | rfl | hnew
      · exact htouched o hold
      · exact hmatched.1.1
      · have hroom := hmatched.1.1
        omega

end Patch

/-! ## The tables that have room -/

/-- **An update is as it should be** exactly if the first integer of the name, where there is one,
has room for the value. -/
theorem acpiUpdateSdtNameInteger_holds_iff (mem : Mem) (length : UInt32) (name : AmlNameSeg)
    (value : UInt64) :
    UpdateHolds mem length name value (acpiUpdateSdtNameInteger mem length name value) ↔
      ∀ index, MatchedAt mem length name index →
        HasRoom mem length value (index + sdtPatternLen) := by
  rcases acpiUpdateSdtNameInteger_cases mem length name value with
    ⟨index, touched, hmatched, htouched, heq⟩ | ⟨hnone, touched, status, htouched, hstatus, heq⟩
  · have hall : (∀ i, MatchedAt mem length name i → HasRoom mem length value (i + sdtPatternLen)) ↔
        HasRoom mem length value (index + sdtPatternLen) :=
      ⟨fun h => h index hmatched, fun h i hi => hi.unique hmatched ▸ h⟩
    rw [heq, hall]
    unfold HasRoom
    rcases sdtValuePlace_cases (mem (index + sdtPatternLen)) with
      ⟨size, hsize, hplace⟩ | ⟨hsize, hconstant, hplace⟩ | ⟨hsize, hconstant, hplace⟩
    · rw [patchAt_operand hmatched htouched hsize hplace, hsize]
    · rw [patchAt_constant hmatched htouched hsize hplace, hsize]
      exact ⟨fun h _ => h, fun h => h hconstant⟩
    · rw [hsize]
      refine iff_of_true ?_ fun h => absurd h hconstant
      rw [acpiPatchAt_none hplace]
      refine ⟨fun h => EfiStatus.noConfusion h, fun _ => rfl, fun o ho => ?_⟩
      rcases List.mem_append.mp ho with hold | hnew
      · exact htouched o hold
      · rw [List.mem_singleton.mp hnew]
        exact hmatched.1.1
  · rw [heq]
    refine iff_of_true ⟨fun h => absurd h hstatus, fun _ => rfl, htouched⟩ fun index hmatched => ?_
    exact absurd hmatched.1 (hnone index)

/-! ### A table that ends in an object -/

/-- `PBMA`. -/
def pbma : AmlNameSeg := ⟨[0x50, 0x42, 0x4D, 0x41], rfl⟩

/-- The header of a table `DSDT` whose `Length` is 42. -/
def shortDsdtHeader : List UInt8 :=
  [0x44, 0x53, 0x44, 0x54, 42, 0, 0, 0] ++ List.replicate 28 0x20

/-- A table of the header and the start of `Name (PBMA, …)`, with the bytes that follow it. -/
def tableWith (rest : List UInt8) : Mem :=
  fun offset => (shortDsdtHeader ++ amlNameOp :: pbma.chars ++ rest).getD offset 0

/-- A prefix at the end of the table: the value is written behind the table. And a constant that is
given the value two: the byte that is left is no integer. -/
theorem acpiUpdateSdtNameInteger_beyond :
    ¬ UpdateHolds (tableWith [amlDwordPrefix]) 42 pbma 3
        (acpiUpdateSdtNameInteger (tableWith [amlDwordPrefix]) 42 pbma 3) ∧
    ¬ UpdateHolds (tableWith [amlZeroOp]) 42 pbma 2
        (acpiUpdateSdtNameInteger (tableWith [amlZeroOp]) 42 pbma 2) := by
  constructor
  · intro h
    exact absurd (h.inside 42 (by decide)) (by decide)
  · intro h
    obtain ⟨index, hmatched, hread, -⟩ := h.patched (by decide)
    have honly : ∀ i < 37, (tableWith [amlZeroOp]).slice i sdtPatternLen = sdtPattern pbma →
        i = 36 := by decide
    have hlt : index + 5 < 42 := hmatched.1.1
    rw [honly index (by omega) hmatched.1.2] at hread
    exact absurd hread (by decide)

end Rpi5Uefi
