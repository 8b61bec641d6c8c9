import Rpi5Uefi.Blcfg.Patch
import Rpi5Uefi.Eeprom.ReplaceRoundTrip
import Rpi5Uefi.Eeprom.Timestamp

/-!
# `PatchImage` as runs of replacements

Partition A is patched by one or two replacements, partition B by none, one or two. What each
single replacement leaves alone, a run does.

* **`PatchedA.run`**, **`patchPartitionB_run`**: the stages as runs of `replaceStep`.
* **`patchPartitionB_cases`**: the ways partition B's stage ends.
* **`replaceRunA_updatetime`**, **`replaceRunB_updatetime`**: the runs leave the `updatetime` files
  of the chain walked from 0 where they are.
* **`replaceRunB_sameFiles`**: a run in partition B leaves the files of partition A.
-/

namespace Rpi5Uefi

open Bytes Chain Transition

variable {image imageA image' : Mem} {size : Nat} {w w' : EepromWindow} {name : CString}
  {values : BlcfgValues} {timestamp : UInt32} {newConfig data : List UInt8} {t : EepromSection}
  {i : Nat} {e : CString × List UInt8} {es : List (CString × List UInt8)}

/-! ## Runs of replacements -/

/-- The two files that are replaced. -/
def IsConfigFile (name : CString) : Prop := name = bootconfTxt ∨ name = bootconfSig

/-- A run of replacements of config files in one window. -/
def ConfigRun (size : Nat) (w : EepromWindow) (image : Mem) (es : List (CString × List UInt8))
    (image' : Mem) : Prop :=
  RunWith (replaceStep size w) (fun _ e => IsConfigFile e.1) image es image'

theorem configRun_nil (size : Nat) (w : EepromWindow) (image : Mem) :
    ConfigRun size w image [] image := .nil

theorem ConfigRun.replace (h : ConfigRun size w image es image') (data : List UInt8)
    (hname : IsConfigFile name) :
    ConfigRun size w image (es ++ [(name, data)])
      (eepromReplaceFileIn image' size w name data).2 :=
  .snoc h hname rfl

/-- Partition A is patched by a run there. -/
theorem PatchedA.run (h : PatchedA image size values timestamp newConfig imageA) :
    ∃ es, ConfigRun size partitionA image es imageA := by
  obtain ⟨imageT, htxt, hsig⟩ := h.config
  have hrun := (configRun_nil size partitionA image).replace newConfig (Or.inl rfl)
  rw [htxt] at hrun
  rcases hsig with ⟨-, hsig⟩ | ⟨-, rfl⟩
  · have hrun' := hrun.replace (configSig newConfig timestamp) (Or.inr rfl)
    unfold syncConfigDigest at hsig
    rw [hsig] at hrun'
    exact ⟨_, hrun'⟩
  · exact ⟨_, hrun⟩

/-- So is partition B. -/
theorem patchPartitionB_run (image : Mem) (size : Nat) (newConfig : List UInt8)
    (timestamp : UInt32) :
    ∃ es, ConfigRun size partitionB image es
      (patchPartitionB image size newConfig timestamp).1 := by
  have hrun := (configRun_nil size partitionB image).replace newConfig (Or.inl rfl)
  have hrun' := hrun.replace (configSig newConfig timestamp) (Or.inr rfl)
  unfold patchPartitionB
  cases eepromFindFileIn image size partitionB bootconfTxt with
  | none => exact ⟨_, configRun_nil size partitionB image⟩
  | some loc =>
    simp only
    split
    · exact ⟨_, hrun⟩
    · split
      · exact ⟨_, hrun⟩
      · split
        · exact ⟨_, hrun'⟩
        · exact ⟨_, hrun'⟩

/-! ## How the stages end -/

theorem replacing_of_success (hw : w.Fits size)
    (h : eepromReplaceFileIn image size w name data = (.success, image')) :
    ∃ pre s rest, Replacing image size w name data pre s rest ∧
      image' = replaced image size w data s rest := by
  rcases eepromReplaceFileIn_cases hw image name data with
    ⟨status, hstatus, hcall⟩ | ⟨pre, s, rest, hr, -, hcall⟩
  · rw [hcall] at h
    cases h
    exact absurd rfl hstatus
  · rw [hcall] at h
    cases h
    exact ⟨pre, s, rest, hr, rfl⟩

/-- A replacement that fails, and writes nothing. -/
def ReplaceFails (image : Mem) (size : Nat) (w : EepromWindow) (name : CString) (data : List UInt8)
    (status : EfiStatus) : Prop :=
  status ≠ .success ∧ eepromReplaceFileIn image size w name data = (status, image)

theorem ReplaceFails.not_fits {status : EfiStatus} (hw : w.Fits size)
    (h : ReplaceFails image size w name data status) {loc : EepromFileLoc}
    (hfind : eepromFindFileIn image size w name = some loc) : ¬ContentFits size loc data := by
  intro hfits
  obtain ⟨pre, s, rest, hr, -⟩ := (replacing_iff hw).mp ⟨hfind, hfits⟩
  have hcall := h.2
  rw [(eepromReplaceFileIn_of_replacing hr).2] at hcall
  exact h.1 (congrArg Prod.fst hcall).symm

theorem replaceFails_of_find_none (h : eepromFindFileIn image size w name = none)
    (data : List UInt8) : ∃ status, ReplaceFails image size w name data status := by
  unfold ReplaceFails eepromReplaceFileIn
  by_cases hlen : data.length > eepromMaxFileSize
  · rw [if_pos hlen]
    exact ⟨_, by decide, rfl⟩
  · rw [if_neg hlen, h]
    exact ⟨_, by decide, rfl⟩

/-- **How partition B ends**: there is no config in it; its config does not fit, and nothing was
written; or the config was written, with the signature missing, not updated or updated. -/
theorem patchPartitionB_cases (hB : partitionB.Fits size) (imageA : Mem) (config : List UInt8)
    (timestamp : UInt32) :
    (eepromFindFileIn imageA size partitionB bootconfTxt = none ∧
        patchPartitionB imageA size config timestamp = (imageA, [])) ∨
      (∃ status, ReplaceFails imageA size partitionB bootconfTxt config status ∧
        patchPartitionB imageA size config timestamp = (imageA, [(configWarning, status)])) ∨
      ∃ pre s rest, Replacing imageA size partitionB bootconfTxt config pre s rest ∧
        (eepromFindFileIn (replaced imageA size partitionB config s rest) size partitionB
              bootconfSig = none ∧
            patchPartitionB imageA size config timestamp =
              (replaced imageA size partitionB config s rest, []) ∨
          (∃ status, (eepromFindFileIn (replaced imageA size partitionB config s rest) size
                partitionB bootconfSig).isSome = true ∧
              ReplaceFails (replaced imageA size partitionB config s rest) size partitionB
                bootconfSig (configSig config timestamp) status ∧
            patchPartitionB imageA size config timestamp =
              (replaced imageA size partitionB config s rest, [(digestWarning, status)])) ∨
          ∃ pre' s' rest', Replacing (replaced imageA size partitionB config s rest) size
              partitionB bootconfSig (configSig config timestamp) pre' s' rest' ∧
            patchPartitionB imageA size config timestamp =
              (replaced (replaced imageA size partitionB config s rest) size partitionB
                (configSig config timestamp) s' rest', [])) := by
  have herr : ∀ {status : EfiStatus}, status ≠ .success → status.isError = true := by
    intro status hne
    unfold EfiStatus.isError
    simpa using hne
  unfold patchPartitionB syncConfigDigest
  cases hfind : eepromFindFileIn imageA size partitionB bootconfTxt with
  | none => exact Or.inl ⟨rfl, rfl⟩
  | some loc =>
    right
    simp only
    rcases eepromReplaceFileIn_cases hB imageA bootconfTxt config with
      ⟨status, hne, hcall⟩ | ⟨pre, s, rest, hr, -, hcall⟩
    · rw [hcall]
      simp only
      rw [if_pos (herr hne)]
      exact Or.inl ⟨status, ⟨hne, hcall⟩, rfl⟩
    right
    refine ⟨pre, s, rest, hr, ?_⟩
    rw [hcall]
    simp only
    rw [if_neg (by decide)]
    cases hsig : eepromFindFileIn (replaced imageA size partitionB config s rest) size partitionB
        bootconfSig with
    | none => exact Or.inl ⟨rfl, rfl⟩
    | some loc' =>
      right
      simp only
      rcases eepromReplaceFileIn_cases hB (replaced imageA size partitionB config s rest)
        bootconfSig (configSig config timestamp) with
        ⟨status, hne, hcall⟩ | ⟨pre', s', rest', hr', -, hcall⟩
      · rw [hcall]
        simp only
        rw [if_pos (herr hne)]
        exact Or.inl ⟨status, rfl, ⟨hne, hcall⟩, rfl⟩
      · rw [hcall]
        simp only
        rw [if_neg (by decide)]
        exact Or.inr ⟨pre', s', rest', hr', rfl⟩

/-! ## What the runs leave alone -/

theorem replaceStepA_updatetime (hA : partitionA.Fits size) (hw : w'.walkStart = 0)
    (hend : w'.winEnd ≤ eepromPartitionAEnd) (hlen : 0 < t.length)
    (ht : FirstMatch image size w' updatetime t) (hname : IsConfigFile e.1)
    (hstep : replaceStep size partitionA image e image') :
    FirstMatch image' size w' updatetime t := by
  have hne : updatetime ≠ e.1 := by
    rcases hname with h | h
    · rw [h]
      decide
    · rw [h]
      decide
  unfold replaceStep at hstep
  rcases eepromReplaceFileIn_cases hA image e.1 e.2 with
    ⟨status, -, hcall⟩ | ⟨pre, s, rest, hr, -, hcall⟩
  · rw [hstep, hcall]
    exact ht
  · rw [hstep, hcall]
    have hover := hr.not_overlap ((onChain_window hw).mp ht.onChain) hlen
    exact hr.firstMatch_other hw hend hne ht hover

theorem replaceStepB_sameFiles (hB : partitionB.Fits size) (hw : w'.walkStart = 0)
    (hend : w'.winEnd ≤ eepromPartitionAEnd) (hname : name.bytes.getD 0 0 ≠ 0x55)
    (hstep : replaceStep size partitionB image e image') :
    SameFiles image image' size w' name := by
  unfold replaceStep at hstep
  rcases eepromReplaceFileIn_cases hB image e.1 e.2 with
    ⟨status, -, hcall⟩ | ⟨pre, s, rest, hr, -, hcall⟩
  · rw [hstep, hcall]
    exact .refl _ _ _ _
  · rw [hstep, hcall]
    have hstart : partitionB.winStart ≤ s.offset := (sectionMatches_iff.mp hr.hit).2.1
    exact hr.sameFiles_below (by rw [hw]) (Nat.le_trans hend hstart) hname

/-- Partition B's replacements stay behind the first word of the partition. -/
theorem replaceStepB_low (hB : partitionB.Fits size) (hi : i < eepromPartitionBStart + 4)
    (hstep : replaceStep size partitionB image e image') : image' i = image i := by
  unfold replaceStep at hstep
  rcases eepromReplaceFileIn_cases hB image e.1 e.2 with
    ⟨status, -, hcall⟩ | ⟨pre, s, rest, hr, -, hcall⟩
  · rw [hstep, hcall]
  · rw [hstep, hcall]
    have hstart : eepromPartitionBStart ≤ s.offset := (sectionMatches_iff.mp hr.hit).2.1
    exact hr.outside (by omega) (by omega)

theorem replaceStep_tail (hw : w.Fits size) (hi : size ≤ i + 8)
    (hstep : replaceStep size w image e image') : image' i = image i := by
  unfold replaceStep at hstep
  rcases eepromReplaceFileIn_cases hw image e.1 e.2 with
    ⟨status, -, hcall⟩ | ⟨pre, s, rest, hr, -, hcall⟩
  · rw [hstep, hcall]
  · rw [hstep, hcall]
    have hnext := hr.next_le_size
    have hroom := hr.room
    exact hr.outside (by omega) (by omega)

/-- A run in partition A leaves the `updatetime` files of the chain walked from 0. -/
theorem replaceRunA_updatetime (hA : partitionA.Fits size) (hw : w'.walkStart = 0)
    (hend : w'.winEnd ≤ eepromPartitionAEnd) (hlen : 0 < t.length)
    (hrun : ConfigRun size partitionA image es image')
    (ht : FirstMatch image size w' updatetime t) : FirstMatch image' size w' updatetime t :=
  RunWith.inv (I := fun m => FirstMatch m size w' updatetime t)
    (fun _ _ _ ht hname hstep => replaceStepA_updatetime hA hw hend hlen ht hname hstep) hrun ht

/-- A run in partition B leaves the files of the chain walked from 0. -/
theorem replaceRunB_sameFiles (hB : partitionB.Fits size) (hw : w'.walkStart = 0)
    (hend : w'.winEnd ≤ eepromPartitionAEnd) (hname : name.bytes.getD 0 0 ≠ 0x55)
    (hrun : ConfigRun size partitionB image es image') : SameFiles image image' size w' name :=
  RunWith.inv (I := fun m => SameFiles image m size w' name)
    (fun _ _ _ hsame _ hstep =>
      hsame.trans (replaceStepB_sameFiles hB hw hend hname hstep)) hrun (.refl _ _ _ _)

theorem replaceRunB_updatetime (hB : partitionB.Fits size) (hw : w'.walkStart = 0)
    (hend : w'.winEnd ≤ eepromPartitionAEnd)
    (hrun : ConfigRun size partitionB image es image')
    (ht : FirstMatch image size w' updatetime t) : FirstMatch image' size w' updatetime t :=
  (replaceRunB_sameFiles hB hw hend (by decide) hrun).firstMatch ht

theorem replaceRunB_low (hB : partitionB.Fits size) (hi : i < eepromPartitionBStart + 4)
    (hrun : ConfigRun size partitionB image es image') : image' i = image i :=
  RunWith.inv (I := fun m => m i = image i)
    (fun _ _ _ hsame _ hstep => (replaceStepB_low hB hi hstep).trans hsame) hrun rfl

/-- No run writes the last eight bytes of the image. -/
theorem replaceRun_tail (hw : w.Fits size) (hi : size ≤ i + 8)
    (hrun : ConfigRun size w image es image') : image' i = image i :=
  RunWith.inv (I := fun m => m i = image i)
    (fun _ _ _ hsame _ hstep => (replaceStep_tail hw hi hstep).trans hsame) hrun rfl

end Rpi5Uefi
