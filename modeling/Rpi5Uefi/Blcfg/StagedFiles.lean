import Rpi5Uefi.Blcfg.Staging

/-!
# What staging does to the boot volume

`ReplaceFileContent` deletes the old file, creates a new one, writes it, and deletes it again where
the write failed. Both deletions go through `DeleteFileIfPresent`, which does nothing where the file
cannot be opened and does not say so.

* **`replace_file`**: the one file a replacement changes, and to what;
* **`StageFilesClean`**: the deletions one staging depends on open their files;
* **`stageFiles_file`**: then both files are new, or there is no update, or nothing changed.
-/

namespace Rpi5Uefi

open Bytes

variable {io : IoOracle} {w : FsWorld} {volume : Nat} {name : String} {data image sig : List UInt8}

/-! ## The file operations -/

theorem bootVolumeScore_volumes : (bootVolumeScore io volume w).2.volumes = w.volumes := by
  have hopen : ∀ {w : FsWorld} {name : String},
      (fsOpen io w volume name .read).2.volumes = w.volumes := fsOpen_volumes rfl
  unfold bootVolumeScore
  simp only
  split
  · exact hopen
  · split <;> rw [hopen, hopen]

theorem openBootVolumeFrom_volumes (handles : List Nat) (best : Option Nat) (bestScore : Nat) :
    (openBootVolumeFrom io handles best bestScore w).2.volumes = w.volumes := by
  induction handles generalizing w best bestScore with
  | nil => rfl
  | cons volume handles ih =>
    unfold openBootVolumeFrom
    simp only
    split
    · exact ih ..
    · split
      · exact ih ..
      · split
        · split
          · exact bootVolumeScore_volumes
          · exact (ih ..).trans bootVolumeScore_volumes
        · exact (ih ..).trans bootVolumeScore_volumes

/-- Looking for the boot volume changes no file. -/
theorem openBootVolume_volumes (io : IoOracle) (handles : List Nat) (w : FsWorld) :
    (openBootVolume io handles w).2.volumes = w.volumes :=
  openBootVolumeFrom_volumes handles none 0

/-- **`DeleteFileIfPresent`**: the file is gone where it could be opened. -/
theorem delete_file (io : IoOracle) (w : FsWorld) (volume : Nat) (name : String) :
    BecomesAt w (deleteFileIfPresent io w volume name) volume name
      (if (fsOpen io w volume name .readWrite).1.isError then w.file volume name else none) := by
  have hopen : (fsOpen io w volume name .readWrite).2.volumes = w.volumes := fsOpen_volumes rfl
  unfold deleteFileIfPresent
  simp only
  split
  · exact .of_volumes hopen
  · exact (BecomesAt.of_volumes hopen).trans setFile_becomesAt

theorem delete_file_cases (io : IoOracle) (w : FsWorld) (volume : Nat) (name : String) :
    (deleteFileIfPresent io w volume name).file volume name = none ∨
      (deleteFileIfPresent io w volume name).file volume name = w.file volume name := by
  have h := (delete_file io w volume name).here
  split at h
  · exact Or.inr h
  · exact Or.inl h

theorem stagedSigFile_ne : stagedSigFile ≠ stagedUpdateFile := by decide

/-- The deletion opens the file, where there is one. -/
def DeletesOpen (io : IoOracle) (w : FsWorld) (volume : Nat) (name : String) : Prop :=
  (w.file volume name).isSome = true → (fsOpen io w volume name .readWrite).1.isError = false

theorem DeletesOpen.gone (h : DeletesOpen io w volume name) :
    (deleteFileIfPresent io w volume name).file volume name = none := by
  have hbecomes := (delete_file io w volume name).here
  cases hfile : w.file volume name with
  | none =>
    rw [hfile] at hbecomes
    rw [hbecomes, ite_self]
  | some content =>
    rw [h (by rw [hfile]; rfl), if_neg Bool.false_ne_true] at hbecomes
    exact hbecomes

/-- **Writing**: on success all of the data is in front of what the file had behind it. -/
theorem writeFlush_file (io : IoOracle) (w : FsWorld) (volume : Nat) (name : String)
    (data : List UInt8) :
    ∃ content, BecomesAt w (writeFlush io w volume name data).2 volume name (some content) ∧
      ((writeFlush io w volume name data).1.isError = false →
        content = data ++ ((w.file volume name).getD []).drop data.length) := by
  have hwrite := fsWrite_becomesAt io w (.opened volume name) data
  refine ⟨overwrite (w.content (.opened volume name)) 0
    (data.take (fsWrite io w (.opened volume name) data).2.1), ?_, fun hok => ?_⟩
  · unfold writeFlush
    simp only
    split
    · exact hwrite
    · split <;> exact hwrite
  · unfold writeFlush at hok
    simp only at hok
    split at hok
    · next herror =>
      rw [herror] at hok
      cases hok
    · split at hok
      · cases hok
      · next hlength =>
        rw [ne_eq, not_not] at hlength
        rw [hlength, List.take_length, overwrite_start]
        rfl

/-- **The deletions for an applied update**: both files are gone from the boot volume, where both
can be opened. -/
theorem deleteStagedFiles_gone {handles : List Nat} {w0 : FsWorld}
    (hopen : openBootVolume io handles w = (some volume, w0))
    (hupd : DeletesOpen io w0 volume stagedUpdateFile)
    (hsig : DeletesOpen io (deleteFileIfPresent io w0 volume stagedUpdateFile) volume
      stagedSigFile) :
    (deleteStagedFiles io handles w).file volume stagedUpdateFile = none ∧
      (deleteStagedFiles io handles w).file volume stagedSigFile = none := by
  unfold deleteStagedFiles
  rw [hopen]
  refine ⟨?_, hsig.gone⟩
  exact ((delete_file _ _ _ _).other fun hsame => stagedSigFile_ne hsame.2.symm).trans hupd.gone

/-! ## Replacing a file -/

/-- What the deletion in front leaves of the old file is not longer than the new content. -/
def NoTail (io : IoOracle) (w : FsWorld) (volume : Nat) (name : String) (data : List UInt8) :
    Prop :=
  (((deleteFileIfPresent io w volume name).file volume name).getD []).length ≤ data.length

/-- A file that was not written in full can be opened for deletion. -/
def UndoOpens (io : IoOracle) (w : FsWorld) (volume : Nat) (name : String) (data : List UInt8) :
    Prop :=
  let created := fsOpen io (deleteFileIfPresent io w volume name) volume name .readWriteCreate
  let written := writeFlush io created.2 volume name data
  created.1.isError = false → written.1.isError = true →
    (fsOpen io written.2 volume name .readWrite).1.isError = false

/-- **`ReplaceFileContent`** changes its own file only; to its data, where the deletions work. -/
theorem replace_file (io : IoOracle) (w : FsWorld) (volume : Nat) (name : String)
    (data : List UInt8) :
    ∃ content, BecomesAt w (replaceFileContent io w volume name data).2 volume name content ∧
      ((replaceFileContent io w volume name data).1.isError = false →
        NoTail io w volume name data → content = some data) ∧
      ((replaceFileContent io w volume name data).1.isError = true →
        UndoOpens io w volume name data → content = none ∨ content = w.file volume name) := by
  have hdelete := delete_file io w volume name
  have hleft := delete_file_cases io w volume name
  unfold replaceFileContent UndoOpens NoTail
  simp only
  generalize deleteFileIfPresent io w volume name = w1 at *
  rcases fsOpen_create io w1 volume name with ⟨herror, hcreate⟩ | ⟨hopened, hcreate⟩
  · -- the file cannot be created: whatever the deletion left is still there
    rw [herror, if_pos rfl]
    refine ⟨_, hdelete.trans hcreate, fun hok => ?_, fun _ _ => hleft⟩
    rw [herror] at hok
    cases hok
  · obtain ⟨content, hbecomes, hcontent⟩ :=
      writeFlush_file io (fsOpen io w1 volume name .readWriteCreate).2 volume name data
    rw [hcreate.here, Option.getD_some] at hcontent
    rw [hopened, if_neg Bool.false_ne_true]
    generalize writeFlush io (fsOpen io w1 volume name .readWriteCreate).2 volume name data = r
      at *
    -- a short write is deleted again; a full one has nothing of the old file behind it
    cases hwritten : r.1.isError with
    | true =>
      rw [if_pos rfl]
      refine ⟨_, (hdelete.trans hcreate).trans (hbecomes.trans (delete_file io r.2 volume name)),
        fun hok => ?_, fun _ hundo => Or.inl ?_⟩
      · rw [hwritten] at hok
        cases hok
      · rw [hundo rfl rfl, if_neg Bool.false_ne_true]
    | false =>
      rw [if_neg Bool.false_ne_true]
      refine ⟨_, (hdelete.trans hcreate).trans hbecomes, fun _ htail => ?_, fun herror => ?_⟩
      · rw [hcontent hwritten, List.drop_eq_nil_of_le htail, List.append_nil]
      · rw [hwritten] at herror
        cases herror

/-! ## The two files -/

/-- The deletions one staging depends on. -/
structure StageFilesClean (io : IoOracle) (w : FsWorld) (volume : Nat) (image sig : List UInt8) :
    Prop where
  /-- An update that was not written in full is deleted again. -/
  undoUpdate : UndoOpens io w volume stagedUpdateFile image
  /-- Nothing of an old update is behind the new one. -/
  updateTail : (replaceFileContent io w volume stagedUpdateFile image).1.isError = false →
    NoTail io w volume stagedUpdateFile image
  /-- An update whose signature was not written is deleted again. -/
  undoSig :
    let staged := replaceFileContent io w volume stagedUpdateFile image
    let signed := replaceFileContent io staged.2 volume stagedSigFile sig
    staged.1.isError = false → signed.1.isError = true →
      DeletesOpen io signed.2 volume stagedUpdateFile
  /-- Nothing of an old signature is behind the new one. -/
  sigTail :
    let staged := replaceFileContent io w volume stagedUpdateFile image
    let signed := replaceFileContent io staged.2 volume stagedSigFile sig
    staged.1.isError = false → signed.1.isError = false →
      NoTail io staged.2 volume stagedSigFile sig

/-- Staging changes no other file. -/
theorem stageFiles_other {volume' : Nat} {name' : String}
    (hne : ¬(volume' = volume ∧ (name' = stagedUpdateFile ∨ name' = stagedSigFile))) :
    (stageFiles io w volume image sig).2.file volume' name' = w.file volume' name' := by
  have hupd : ¬(volume' = volume ∧ name' = stagedUpdateFile) := fun h => hne ⟨h.1, Or.inl h.2⟩
  have hsig : ¬(volume' = volume ∧ name' = stagedSigFile) := fun h => hne ⟨h.1, Or.inr h.2⟩
  obtain ⟨_, hstaged, -⟩ := replace_file io w volume stagedUpdateFile image
  obtain ⟨_, hsigned, -⟩ := replace_file io
    (replaceFileContent io w volume stagedUpdateFile image).2 volume stagedSigFile sig
  unfold stageFiles
  simp only
  split
  · exact hstaged.other hupd
  · split
    · rw [(delete_file _ _ _ _).other hupd, hsigned.other hsig, hstaged.other hupd]
    · rw [hsigned.other hsig, hstaged.other hupd]

/-- **The two files after a staging** whose deletions work: both new, or no update, or as they
were. -/
theorem stageFiles_file (hclean : StageFilesClean io w volume image sig) :
    ((stageFiles io w volume image sig).1.isError = false ∧
        (stageFiles io w volume image sig).2.file volume stagedUpdateFile = some image ∧
        (stageFiles io w volume image sig).2.file volume stagedSigFile = some sig) ∨
      ((stageFiles io w volume image sig).1.isError = true ∧
        ((stageFiles io w volume image sig).2.file volume stagedUpdateFile = none ∨
          ∀ name, (stageFiles io w volume image sig).2.file volume name = w.file volume name)) := by
  obtain ⟨content, hstaged, hok, hfailed⟩ := replace_file io w volume stagedUpdateFile image
  obtain ⟨content', hsigned, hok', -⟩ := replace_file io
    (replaceFileContent io w volume stagedUpdateFile image).2 volume stagedSigFile sig
  obtain ⟨hundo, htail, hundoSig, hsigTail⟩ := hclean
  have hupd : ¬(volume = volume ∧ stagedUpdateFile = stagedSigFile) :=
    fun h => stagedSigFile_ne h.2.symm
  unfold stageFiles
  simp only at hundoSig hsigTail ⊢
  generalize replaceFileContent io w volume stagedUpdateFile image = r at *
  generalize replaceFileContent io r.2 volume stagedSigFile sig = r' at *
  cases hr : r.1.isError with
  | true =>
    rw [if_pos rfl]
    refine Or.inr ⟨hr, ?_⟩
    -- no update was written, and the signature is not touched
    rcases hfailed hr hundo with hnone | hsame
    · exact Or.inl (hstaged.here.trans hnone)
    · refine Or.inr fun name => ?_
      rw [hstaged volume name]
      split
      · next h => rw [h.2, hsame]
      · rfl
  | false =>
    rw [if_neg Bool.false_ne_true]
    -- no unsigned update stays behind
    cases hr' : r'.1.isError with
    | true =>
      rw [if_pos rfl]
      exact Or.inr ⟨hr', Or.inl (hundoSig hr hr').gone⟩
    | false =>
      rw [if_neg Bool.false_ne_true]
      refine Or.inl ⟨hr', ?_, ?_⟩
      · rw [hsigned.other hupd, hstaged.here, hok hr (htail hr)]
      · rw [hsigned.here, hok' hr' (hsigTail hr hr')]

/-! ## What is staged -/

theorem length_digestLine (config : List UInt8) : (digestLine config).length = 64 := by
  have hbytes : ∀ bytes : List UInt8, (bytes.flatMap hexByte).length = bytes.length * 2 := by
    intro bytes
    induction bytes with
    | nil => rfl
    | cons b rest ih =>
      rw [List.flatMap_cons, List.length_append, ih, List.length_cons, hexByte, length_printHex]
      omega
  exact (hbytes _).trans (by rw [length_blSha256])

/-- **The signature fits** into the 128 bytes of `Sig`. -/
theorem length_updateSig_lt (image : List UInt8) (timestamp : UInt32) :
    (updateSig image timestamp).length < 128 := by
  have hdecimal : (decimalText timestamp).length ≤ 10 := by
    have hlt := timestamp.toNat_lt
    unfold decimalText
    rw [List.length_map]
    exact (Nat.length_toDigits_le_iff (by decide) (by decide)).mpr (by omega)
  have heol : printedEol.length = 2 := rfl
  have hts : (ascii "ts: ").length = 4 := by decide
  have hsoc : (ascii "target-soc: 2712").length = 16 := by decide
  unfold updateSig
  simp only [List.length_append, length_digestLine]
  omega

/-- **A prepared update** is the patched image with a signature over it, for values that differ from
the live ones. -/
theorem prepareUpdate_ok {live : BlLive} {inputs : StageInputs} {update : PreparedUpdate}
    (h : prepareUpdate live inputs = .ok update) :
    update.values ≠ live.currentValues ∧
      (patchImage inputs.readImage.2.2 eepromImageSize2712 update.values inputs.timestamp
        inputs.configPoolFull).status = .success ∧
      update.image = (patchImage inputs.readImage.2.2 eepromImageSize2712 update.values
        inputs.timestamp inputs.configPoolFull).image.slice 0 eepromImageSize2712 ∧
      update.sig = updateSig update.image inputs.timestamp := by
  unfold prepareUpdate at h
  cases hform : inputs.browserData with
  | none =>
    rw [hform] at h
    cases h
  | some edited =>
  rw [hform] at h
  cases hvalues : blValuesFromData edited with
  | none =>
    simp only [hvalues] at h
    cases h
  | some newValues =>
  simp only [hvalues] at h
  -- every early return is a popup
  split at h
  · cases h
  next hdiffer =>
  rw [blValuesEqual_iff] at hdiffer
  cases htext : live.blconfig with
  | none =>
    rw [htext] at h
    cases h
  | some text =>
  rw [htext] at h
  simp only at h
  split at h
  · cases h
  split at h
  · cases h
  split at h
  · cases h
  split at h
  · cases h
  split at h
  · cases h
  -- `PatchImage` is the last test
  split at h
  · cases h
  next hpatched =>
  obtain rfl := Except.ok.inj h
  rw [Bool.not_eq_true, EfiStatus.isError_eq_false] at hpatched
  exact ⟨hdiffer, hpatched, by dsimp only, by dsimp only⟩

end Rpi5Uefi
