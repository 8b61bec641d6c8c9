import Rpi5Uefi.Blcfg.Patch

/-!
# Signed configs

A `bootconf.sig` with an `rsa2048:` line is a signature only the key's owner can renew, so
`PatchImage` refuses such an image. It looks at partition A's file only.

* **`blTextHasLineKey_iff`**: the scan finds the key exactly where a line starts with it, whatever
  ends the lines.
* **`patchImage_refuses_iff`**: when the refusal covers both partitions.
-/

namespace Rpi5Uefi

open Bytes

variable {text key : List UInt8} {image : Mem} {size index start n : Nat}

/-! ## Lines that start with a key -/

/-- `q` is the first offset of a line. -/
def LineStart (text : List UInt8) (q : Nat) : Prop :=
  q = 0 ∨ ∃ e, q = e + 1 ∧ (text[e]? = some chLf ∨ text[e]? = some chCr)

/-- Some line of the text starts with `key:`. -/
def HasKeyLine (text key : List UInt8) : Prop :=
  ∃ before after, text = before ++ key ++ chColon :: after ∧
    (before = [] ∨ before.getLast? = some chLf ∨ before.getLast? = some chCr)

theorem keyAt_iff :
    keyAt text key start = true ↔
      ∃ before after, before.length = start ∧ text = before ++ key ++ chColon :: after := by
  unfold keyAt
  simp only [Bool.and_eq_true, beq_iff_eq]
  constructor
  · rintro ⟨hkey, hcolon⟩
    obtain ⟨hlt, hget⟩ := List.getElem?_eq_some_iff.mp hcolon
    refine ⟨text.take start, (text.drop start).drop (key.length + 1), ?_, ?_⟩
    · rw [List.length_take]
      omega
    · have hdrop : text.drop start =
          key ++ chColon :: (text.drop start).drop (key.length + 1) := by
        have hcons : (text.drop start).drop key.length =
            chColon :: (text.drop start).drop (key.length + 1) := by
          rw [List.drop_drop, List.drop_drop, List.drop_eq_getElem_cons hlt, hget]
          rfl
        calc text.drop start
            = (text.drop start).take key.length ++ (text.drop start).drop key.length :=
              (List.take_append_drop _ _).symm
          _ = key ++ chColon :: (text.drop start).drop (key.length + 1) := by rw [hkey, hcons]
      rw [List.append_assoc, ← hdrop, List.take_append_drop]
  · rintro ⟨before, after, rfl, rfl⟩
    refine ⟨?_, ?_⟩
    · rw [List.append_assoc, List.drop_left, List.take_left]
    · rw [List.getElem?_append_right (by simp)]
      simp

theorem lineEndsAt_iff :
    lineEndsAt text index = true ↔
      index = text.length ∨ text[index]? = some chLf ∨ text[index]? = some chCr := by
  unfold lineEndsAt
  simp only [Bool.or_eq_true, beq_iff_eq, or_assoc]

/-- A key without line ends fits in front of the end of its line, colon included. -/
theorem keyAt_fits (hkey : chLf ∉ key ∧ chCr ∉ key) (h : keyAt text key start = true)
    (hend : lineEndsAt text index = true) (hle : start ≤ index) : index - start > key.length := by
  obtain ⟨before, after, rfl, rfl⟩ := keyAt_iff.mp h
  by_contra hshort
  -- the line would end inside the key or at the colon
  obtain ⟨k, rfl⟩ := Nat.exists_eq_add_of_le hle
  have hk : k ≤ key.length := by omega
  have hget : (before ++ key ++ chColon :: after)[before.length + k]? =
      (key ++ chColon :: after)[k]? := by
    rw [List.append_assoc, List.getElem?_append_right (by omega), Nat.add_sub_cancel_left]
  have hin : ∃ c, (key ++ chColon :: after)[k]? = some c ∧ (c ∈ key ∨ c = chColon) := by
    rcases Nat.lt_or_eq_of_le hk with hlt | rfl
    · exact ⟨key[k], by rw [List.getElem?_append_left hlt, List.getElem?_eq_getElem hlt],
        Or.inl (List.getElem_mem hlt)⟩
    · exact ⟨chColon, by simp, Or.inr rfl⟩
  obtain ⟨c, hc, hmem⟩ := hin
  rcases lineEndsAt_iff.mp hend with hlen | heol
  · simp only [List.length_append, List.length_cons] at hlen
    omega
  · rw [hget, hc] at heol
    simp only [Option.some.injEq] at heol
    rcases hmem with hmem | rfl
    · rcases heol with rfl | rfl
      · exact hkey.1 hmem
      · exact hkey.2 hmem
    · revert heol
      decide

theorem keyTest_iff (hkey : chLf ∉ key ∧ chCr ∉ key) (hend : lineEndsAt text index = true)
    (hle : start ≤ index) :
    (decide (index - start > key.length) && keyAt text key start) = true ↔
      keyAt text key start = true := by
  rw [Bool.and_eq_true, decide_eq_true_eq]
  exact and_iff_right_of_imp fun hat => keyAt_fits hkey hat hend hle

theorem keyAt_past (h : text.length < start) : keyAt text key start = false := by
  unfold keyAt
  rw [List.getElem?_eq_none (by omega)]
  simp

/-- The loop with `n` bytes still to come: the line at hand starts with the key, or one behind a
line end to come does. -/
theorem blTextHasLineKeyFrom_iff (hkey : chLf ∉ key ∧ chCr ∉ key)
    (hn : index + n = text.length) (hle : start ≤ index) :
    blTextHasLineKeyFrom text key (n + 1) index start = true ↔
      keyAt text key start = true ∨
        ∃ e, index ≤ e ∧ (text[e]? = some chLf ∨ text[e]? = some chCr) ∧
          keyAt text key (e + 1) = true := by
  induction n generalizing index start with
  | zero =>
    have hend : lineEndsAt text index = true := lineEndsAt_iff.mpr (Or.inl (by omega))
    have hnone : ¬∃ e, index ≤ e ∧ (text[e]? = some chLf ∨ text[e]? = some chCr) ∧
        keyAt text key (e + 1) = true := by
      rintro ⟨e, he, -, hat⟩
      rw [keyAt_past (by omega)] at hat
      cases hat
    rw [blTextHasLineKeyFrom, if_pos hend, or_iff_left hnone, ← keyTest_iff hkey hend hle]
    split
    · rename_i hyes
      simp [hyes]
    · rename_i hno
      simp [hno, blTextHasLineKeyFrom]
  | succ n ih =>
    rw [blTextHasLineKeyFrom]
    by_cases hend : lineEndsAt text index = true
    · have heol : text[index]? = some chLf ∨ text[index]? = some chCr := by
        rcases lineEndsAt_iff.mp hend with hlen | heol
        · omega
        · exact heol
      rw [if_pos hend]
      split
      · rename_i hyes
        exact iff_of_true rfl (Or.inl ((keyTest_iff hkey hend hle).mp hyes))
      · rename_i hno
        have hrest := ih (show index + 1 + n = text.length by omega) (Nat.le_refl (index + 1))
        rw [keyTest_iff hkey hend hle] at hno
        rw [or_iff_right hno]
        refine hrest.trans ⟨?_, ?_⟩
        · rintro (hat | ⟨e, he, hcr, hat⟩)
          · exact ⟨index, Nat.le_refl _, heol, hat⟩
          · exact ⟨e, by omega, hcr, hat⟩
        · rintro ⟨e, he, hcr, hat⟩
          rcases Nat.lt_or_eq_of_le he with hlt | rfl
          · exact Or.inr ⟨e, hlt, hcr, hat⟩
          · exact Or.inl hat
    · have hrest := ih (show index + 1 + n = text.length by omega) (show start ≤ index + 1 by omega)
      rw [if_neg hend]
      refine hrest.trans (or_congr_right ⟨?_, ?_⟩)
      · rintro ⟨e, he, hcr, hat⟩
        exact ⟨e, by omega, hcr, hat⟩
      · rintro ⟨e, he, hcr, hat⟩
        rcases Nat.lt_or_eq_of_le he with hlt | rfl
        · exact ⟨e, hlt, hcr, hat⟩
        · exact absurd (lineEndsAt_iff.mpr (Or.inr hcr)) hend

/-- The scan finds the key at the starts of lines. -/
theorem blTextHasLineKey_starts (hkey : chLf ∉ key ∧ chCr ∉ key) :
    blTextHasLineKey text key = true ↔ ∃ q, LineStart text q ∧ keyAt text key q = true := by
  unfold blTextHasLineKey
  rw [blTextHasLineKeyFrom_iff hkey (by omega) (Nat.le_refl _)]
  constructor
  · rintro (hat | ⟨e, -, heol, hat⟩)
    · exact ⟨0, Or.inl rfl, hat⟩
    · exact ⟨e + 1, Or.inr ⟨e, rfl, heol⟩, hat⟩
  · rintro ⟨q, rfl | ⟨e, rfl, heol⟩, hat⟩
    · exact Or.inl hat
    · exact Or.inr ⟨e, Nat.zero_le _, heol, hat⟩

/-- What is in front of the start of a line: nothing, or a line end. -/
theorem lineStart_iff {before rest : List UInt8} (htext : text = before ++ rest) :
    LineStart text before.length ↔
      before = [] ∨ before.getLast? = some chLf ∨ before.getLast? = some chCr := by
  rcases List.eq_nil_or_concat before with rfl | ⟨front, c, hconcat⟩
  · exact iff_of_true (Or.inl rfl) (Or.inl rfl)
  · rw [List.concat_eq_append] at hconcat
    have hlen : before.length = front.length + 1 := by simp [hconcat]
    have hne : before ≠ [] := List.ne_nil_of_length_eq_add_one hlen
    have hget : text[front.length]? = before.getLast? := by
      rw [List.getLast?_eq_getElem?, htext, List.getElem?_append_left (by omega), hlen,
        Nat.add_sub_cancel]
    unfold LineStart
    rw [hlen, or_iff_right (Nat.succ_ne_zero _), or_iff_right hne, ← hget]
    constructor
    · rintro ⟨e, he, heol⟩
      rwa [Nat.succ.inj he]
    · exact fun heol => ⟨front.length, rfl, heol⟩

/-- **The scan**: it finds the key if and only if a line starts with it and a colon. Lines end at
CR, at LF or at the end of the text. -/
theorem blTextHasLineKey_iff (hkey : chLf ∉ key ∧ chCr ∉ key) :
    blTextHasLineKey text key = true ↔ HasKeyLine text key := by
  rw [blTextHasLineKey_starts hkey]
  constructor
  · rintro ⟨q, hstart, hat⟩
    obtain ⟨before, after, rfl, htext⟩ := keyAt_iff.mp hat
    have hsplit : text = before ++ (key ++ chColon :: after) := by rw [htext, List.append_assoc]
    exact ⟨before, after, htext, (lineStart_iff hsplit).mp hstart⟩
  · rintro ⟨before, after, htext, hlast⟩
    have hsplit : text = before ++ (key ++ chColon :: after) := by rw [htext, List.append_assoc]
    exact ⟨before.length, (lineStart_iff hsplit).mpr hlast,
      keyAt_iff.mpr ⟨before, after, rfl, htext⟩⟩

/-! ## The refusal -/

/-- The partition's `bootconf.sig` is there and has an `rsa2048:` line. -/
def ConfigSigned (image : Mem) (w : EepromWindow) : Prop :=
  ∃ loc, eepromFindFileIn image eepromImageSize2712 w bootconfSig = some loc ∧
    HasKeyLine (fileContent image loc) rsa2048

theorem sigIsSigned_iff (image : Mem) (w : EepromWindow) :
    sigIsSigned image (eepromFindFileIn image eepromImageSize2712 w bootconfSig) = true ↔
      ConfigSigned image w := by
  have hkey : chLf ∉ rsa2048 ∧ chCr ∉ rsa2048 := by decide
  unfold ConfigSigned
  generalize eepromFindFileIn image eepromImageSize2712 w bootconfSig = sig
  cases sig with
  | none => simp [sigIsSigned]
  | some loc => simp [sigIsSigned, blTextHasLineKey_iff hkey]

/-- The refusal as it is meant: a signed config in either partition, and nothing is written. -/
def RefusesSigned (image : Mem) (values : BlcfgValues) (timestamp : UInt32) (poolFull : Bool) :
    Prop :=
  ConfigSigned image partitionA ∨ ConfigSigned image partitionB →
    (patchImage image eepromImageSize2712 values timestamp poolFull).status =
        .securityViolation ∧
      ∀ i, (patchImage image eepromImageSize2712 values timestamp poolFull).image i = image i

/-- **The refusal, exactly.** It covers a signed config in either partition if and only if the
buffer passes for an EEPROM image and partition A's own signature file is the signed one. -/
theorem patchImage_refuses_iff (image : Mem) (values : BlcfgValues) (timestamp : UInt32)
    (poolFull : Bool) :
    RefusesSigned image values timestamp poolFull ↔
      (ConfigSigned image partitionA ∨ ConfigSigned image partitionB →
        eepromImageValid image eepromImageSize2712 = true ∧ ConfigSigned image partitionA) := by
  unfold RefusesSigned
  refine forall_congr' fun _ => ⟨?_, ?_⟩
  · rintro ⟨hstatus, -⟩
    rw [← sigIsSigned_iff]
    exact patchImage_securityViolation hstatus
  · rintro ⟨hvalid, hsigned⟩
    rw [← sigIsSigned_iff] at hsigned
    rw [patchImage_of_signed hvalid hsigned]
    exact ⟨rfl, fun _ => rfl⟩

/-- An unsigned config in partition A, and one with a signature in partition B. -/
def signedBImage : Mem :=
  putFile (putFile (putFile (putSection erasedImage 0 eepromSectionMagic 0xfff8) 0x10000
    bootconfTxt (ascii "A=1\n")) 0x107000 bootconfTxt (ascii "A=1\n")) 0x107020 bootconfSig
      (ascii "0\nts: 1\nrsa2048: 00\n")

/-- Partition B's signature is replaced by a digest. -/
theorem patchImage_signedB_overwritten :
    ¬RefusesSigned signedBImage setDefaults 1 false := by
  intro h
  have hsigned : ConfigSigned signedBImage partitionB :=
    (sigIsSigned_iff _ _).mp (by decide +kernel)
  have hstatus : (patchImage signedBImage eepromImageSize2712 setDefaults 1 false).status =
      .success := by
    decide +kernel
  rw [(h (Or.inr hsigned)).1] at hstatus
  cases hstatus

end Rpi5Uefi
