import Rpi5Uefi.Fmp.Device

/-!
# A firmware update keeps the variable store

* **`openFirmwareFile_some`**: what is opened carries this firmware's layout, whatever the calls
  report;
* **`writeFirmware_file`**: a write replaces a beginning of that file, at most up to the store;
* **`setImage_preserves`**: so nothing else changes, for every payload and every outcome.
-/

namespace Rpi5Uefi

/-- The content has the header of an NV store where this build's layout puts it. -/
def carriesFirmware (content : List UInt8) : Bool :=
  let header := (content.drop rpi5FmpUpdatableSize).take efiFirmwareVolumeHeaderSize
  header.length == efiFirmwareVolumeHeaderSize && nvStoreHeader header

/-- A file of one of the two names that carries the firmware. -/
def FirmwareFile (w : FsWorld) (volume : Nat) (name : String) : Prop :=
  name ∈ mFirmwareFileNames ∧
    ∃ content, w.file volume name = some content ∧ carriesFirmware content = true

section
variable {io : IoOracle} {w w' : FsWorld} {volume : Nat} {name : String} {file : FsFile}
  {mode : FileMode}

/-- Two worlds with the same files have the same firmware files. -/
theorem FirmwareFile.of_volumes (h : FirmwareFile w' volume name) (hw : w'.volumes = w.volumes) :
    FirmwareFile w volume name := by
  unfold FirmwareFile FsWorld.file at *
  rw [hw] at h
  exact h

theorem carriesFirmware_length {content : List UInt8} (h : carriesFirmware content = true) :
    rpi5FmpUpdatableSize + efiFirmwareVolumeHeaderSize ≤ content.length := by
  unfold carriesFirmware at h
  simp only [Bool.and_eq_true, beq_iff_eq, List.length_take, List.length_drop] at h
  have hsize : efiFirmwareVolumeHeaderSize = 64 := rfl
  omega

/-! ## Finding the file -/

theorem checkFirmwareFile_volumes :
    (rpi5FmpCheckFirmwareFile io w file).2.2.volumes = w.volumes := by
  unfold rpi5FmpCheckFirmwareFile
  simp only
  split
  · rfl
  · split
    · rfl
    · split <;> rfl

/-- The check moves in the file, and stays in it. -/
theorem checkFirmwareFile_place (io : IoOracle) (w : FsWorld) (file : FsFile) :
    (rpi5FmpCheckFirmwareFile io w file).2.1.volume = file.volume ∧
      (rpi5FmpCheckFirmwareFile io w file).2.1.name = file.name := by
  have hposition : ∀ position, (fsSetPosition io w file position).2.1.volume = file.volume ∧
      (fsSetPosition io w file position).2.1.name = file.name := by
    intro position
    unfold fsSetPosition
    simp only
    split <;> exact ⟨rfl, rfl⟩
  unfold rpi5FmpCheckFirmwareFile
  simp only
  split
  · exact hposition _
  · split
    · exact hposition _
    · split <;> exact hposition _

/-- **A file that passes the check carries the firmware**: a read of the whole header is a read of
what the file has there. -/
theorem checkFirmwareFile_success (file : FsFile) {content : List UInt8}
    (hfile : w.file file.volume file.name = some content)
    (h : (rpi5FmpCheckFirmwareFile io w file).1.isError = false) :
    carriesFirmware content = true := by
  unfold rpi5FmpCheckFirmwareFile at h
  simp only at h
  split at h
  · cases h
  · next hset =>
    have hposition := fsSetPosition_success (Bool.eq_false_iff.mpr hset)
    have hcontent : (fsSetPosition io w file rpi5FmpUpdatableSize).2.2.content
        { file with position := rpi5FmpUpdatableSize } = content :=
      congrArg (·.getD []) hfile
    simp only [hposition, fsRead, hcontent] at h
    split at h
    · cases h
    · next hread =>
      split at h
      · cases h
      · next hheader =>
        simp only [Bool.or_eq_true, bne_iff_ne, ne_eq, not_or, not_not, Bool.not_eq_true,
          List.length_take, List.length_drop] at hread
        have hsize : efiFirmwareVolumeHeaderSize = 64 := rfl
        unfold carriesFirmware
        simp only [Bool.and_eq_true, beq_iff_eq, List.length_take, List.length_drop]
        refine ⟨by omega, ?_⟩
        rw [Bool.not_eq_true, Bool.not_eq_false'] at hheader
        rw [← hheader]
        congr 1
        rw [Nat.min_eq_right (by omega)]

theorem openNames_volumes (io : IoOracle) (w : FsWorld) (volume : Nat)
    (hmode : mode.creates = false) (names : List String) :
    (rpi5FmpOpenNames io mode volume names w).2.volumes = w.volumes := by
  induction names generalizing w with
  | nil => rfl
  | cons name names ih =>
    unfold rpi5FmpOpenNames
    simp only
    split
    · rw [ih, fsOpen_volumes hmode]
    · split
      · rw [ih, checkFirmwareFile_volumes, fsOpen_volumes hmode]
      · rw [checkFirmwareFile_volumes, fsOpen_volumes hmode]

theorem openNames_some (hmode : mode.creates = false) {names : List String}
    (h : (rpi5FmpOpenNames io mode volume names w).1 = some file) :
    file.name ∈ names ∧ ∃ content, w.file file.volume file.name = some content ∧
      carriesFirmware content = true := by
  induction names generalizing w with
  | nil => cases h
  | cons first names ih =>
    have hopened : (fsOpen io w volume first mode).2.volumes = w.volumes := fsOpen_volumes hmode
    unfold rpi5FmpOpenNames at h
    simp only at h
    split at h
    -- the name does not open: a later one was taken, and the attempt changed no file
    · obtain ⟨hmem, content, hfile, hcarries⟩ := ih h
      rw [file_congr hopened] at hfile
      exact ⟨List.mem_cons_of_mem _ hmem, content, hfile, hcarries⟩
    · next hopen =>
      split at h
      · obtain ⟨hmem, content, hfile, hcarries⟩ := ih h
        rw [file_congr checkFirmwareFile_volumes, file_congr hopened] at hfile
        exact ⟨List.mem_cons_of_mem _ hmem, content, hfile, hcarries⟩
      -- it opens and passes the check
      · next hcheck =>
        obtain rfl := Option.some.inj h
        obtain ⟨hvolume, hname⟩ :=
          checkFirmwareFile_place io (fsOpen io w volume first mode).2 (.opened volume first)
        obtain ⟨content, hfile, -⟩ := fsOpen_success hmode (Bool.eq_false_iff.mpr hopen)
        have hfile' := hfile
        rw [← file_congr hopened] at hfile'
        rw [hvolume, hname]
        exact ⟨List.mem_cons_self, content, hfile,
          checkFirmwareFile_success (.opened volume first) hfile' (Bool.eq_false_iff.mpr hcheck)⟩

theorem openFirmwareFile_volumes (io : IoOracle) (w : FsWorld) (hmode : mode.creates = false)
    (handles : List Nat) :
    (rpi5FmpOpenFirmwareFile io mode handles w).2.volumes = w.volumes := by
  induction handles generalizing w with
  | nil => rfl
  | cons volume handles ih =>
    have hnames := openNames_volumes io (ioCall io (ioCall io w).2).2 volume hmode
      mFirmwareFileNames
    unfold rpi5FmpOpenFirmwareFile
    simp only
    split
    · exact ih _
    · split
      · exact ih _
      · split
        · exact ih _
        · split
          · next hopen =>
            rw [hopen] at hnames
            exact hnames
          · next hopen =>
            rw [hopen] at hnames
            exact (ih _).trans hnames

/-- **Only a file that carries the firmware is opened.** -/
theorem openFirmwareFile_some (hmode : mode.creates = false) {handles : List Nat}
    (h : (rpi5FmpOpenFirmwareFile io mode handles w).1 = some file) :
    FirmwareFile w file.volume file.name := by
  induction handles generalizing w with
  | nil => cases h
  | cons first handles ih =>
    have hvolumes := openNames_volumes io (ioCall io (ioCall io w).2).2 first hmode
      mFirmwareFileNames
    unfold rpi5FmpOpenFirmwareFile at h
    simp only at h
    split at h
    · exact ih h
    · split at h
      · exact (ih h).of_volumes rfl
      · split at h
        · exact (ih h).of_volumes rfl
        · split at h
          · next file' w' hopen =>
            obtain rfl := Option.some.inj h
            have hfound := openNames_some hmode (congrArg Prod.fst hopen)
            exact hfound
          · next hopen =>
            rw [hopen] at hvolumes
            exact (ih h).of_volumes hvolumes

/-! ## Writing it -/

/-- **What a write does to the files**, wherever the check left the file: some beginning of the
image, at most up to the store, replaces as many bytes at its start. -/
theorem writeFirmware_file (io : IoOracle) (image : List UInt8) {content : List UInt8}
    (hfile : w.file file.volume file.name = some content) :
    ∃ n, n ≤ rpi5FmpUpdatableSize ∧ n ≤ image.length ∧ ∀ volume' name',
      (fmpWriteFirmware io w file image).2.file volume' name' =
        if volume' = file.volume ∧ name' = file.name then some (image.take n ++ content.drop n)
        else w.file volume' name' := by
  -- nothing written is a beginning of length zero
  have hsame : ∀ volume' name', w.file volume' name' =
      if volume' = file.volume ∧ name' = file.name then some (image.take 0 ++ content.drop 0)
      else w.file volume' name' := by
    intro volume' name'
    split
    · next h =>
      obtain ⟨rfl, rfl⟩ := h
      exact hfile
    · rfl
  unfold fmpWriteFirmware
  simp only
  split
  · exact ⟨0, Nat.zero_le _, Nat.zero_le _, hsame⟩
  · next hset =>
    rw [fsSetPosition_success (Bool.eq_false_iff.mpr hset)]
    -- the file as the write leaves it
    have hwrite := fsWrite_becomesAt io (fsSetPosition io w file 0).2.2 { file with position := 0 }
      (image.take rpi5FmpUpdatableSize)
    have hcontent : (fsSetPosition io w file 0).2.2.content { file with position := 0 } = content :=
      congrArg (·.getD []) hfile
    have hbound : (fsWrite io (fsSetPosition io w file 0).2.2 { file with position := 0 }
        (image.take rpi5FmpUpdatableSize)).2.1 ≤ (image.take rpi5FmpUpdatableSize).length :=
      Nat.min_le_right _ _
    rw [hcontent, overwrite_start] at hwrite
    generalize fsWrite io (fsSetPosition io w file 0).2.2 { file with position := 0 }
      (image.take rpi5FmpUpdatableSize) = out at hwrite hbound
    rw [List.length_take] at hbound
    have hwritten : ∀ volume' name', out.2.2.2.file volume' name' =
        if volume' = file.volume ∧ name' = file.name then
          some (image.take out.2.1 ++ content.drop out.2.1)
        else w.file volume' name' := by
      intro volume' name'
      rw [hwrite volume' name', List.take_take, Nat.min_eq_left (by omega), List.length_take,
        Nat.min_eq_left (by omega)]
      rfl
    refine ⟨out.2.1, by omega, by omega, ?_⟩
    split
    · exact hwritten
    · split <;> exact hwritten

end

/-! ## The update -/

/-- What an update may do to the files: replace what lies before the store in one file that carries
the firmware. -/
structure SettingsKept (w w' : FsWorld) : Prop where
  /-- Every file is there as before, keeps its size, and from the store on its content. -/
  kept : ∀ volume name,
    (w'.file volume name).map (fun content => (content.length, content.drop rpi5FmpUpdatableSize)) =
      (w.file volume name).map fun content => (content.length, content.drop rpi5FmpUpdatableSize)
  /-- A file that is not this firmware's is not touched. -/
  others : ∀ volume name, ¬FirmwareFile w volume name → w'.file volume name = w.file volume name
  /-- At most one file is touched. -/
  one : ∀ volume name volume' name', w'.file volume name ≠ w.file volume name →
    w'.file volume' name' ≠ w.file volume' name' → volume' = volume ∧ name' = name

theorem SettingsKept.of_volumes {w w' : FsWorld} (h : w'.volumes = w.volumes) :
    SettingsKept w w' := by
  have hfile := file_congr h
  refine ⟨fun volume name => ?_, fun volume name _ => hfile volume name,
    fun volume name _ _ hne => absurd (hfile volume name) hne⟩
  rw [hfile]

/-- Replacing a beginning of a file that carries the firmware. -/
theorem SettingsKept.of_written {w w' : FsWorld} {volume n : Nat} {name : String}
    {image content : List UInt8} (hfirmware : FirmwareFile w volume name)
    (hfile : w.file volume name = some content) (hn : n ≤ rpi5FmpUpdatableSize)
    (himage : n ≤ image.length)
    (h : ∀ volume' name', w'.file volume' name' =
      if volume' = volume ∧ name' = name then some (image.take n ++ content.drop n)
      else w.file volume' name') : SettingsKept w w' := by
  obtain ⟨hname, content', hfile', hcarries⟩ := hfirmware
  rw [hfile] at hfile'
  obtain rfl := Option.some.inj hfile'
  have hlength := carriesFirmware_length hcarries
  have hsize : efiFirmwareVolumeHeaderSize = 64 := rfl
  have hother : ∀ {volume' name'}, ¬(volume' = volume ∧ name' = name) →
      w'.file volume' name' = w.file volume' name' := fun hne => (h _ _).trans (if_neg hne)
  constructor
  · intro volume' name'
    by_cases hsame : volume' = volume ∧ name' = name
    · obtain ⟨rfl, rfl⟩ := hsame
      rw [h, if_pos ⟨rfl, rfl⟩, hfile, Option.map_some, Option.map_some]
      have htake : (image.take n).length = n := by
        rw [List.length_take]
        omega
      refine congrArg some (Prod.ext ?_ ?_)
      · simp only [List.length_append, htake, List.length_drop]
        omega
      · -- what is replaced ends before the store
        simp only [List.drop_append, htake, List.drop_drop]
        rw [List.drop_eq_nil_of_le (by omega), List.nil_append]
        congr 1
        omega
    · rw [hother hsame]
  · intro volume' name' hnot
    refine hother fun hsame => hnot ?_
    obtain ⟨rfl, rfl⟩ := hsame
    exact ⟨hname, content, hfile, hcarries⟩
  -- both touched files are the written one
  · intro volume1 name1 volume2 name2 hne1 hne2
    obtain ⟨rfl, rfl⟩ := Classical.byContradiction fun hnot => hne1 (hother hnot)
    exact Classical.byContradiction fun hnot => hne2 (hother hnot)

/-- **An update keeps the settings.** For every payload and every outcome of the file operations,
`FmpDeviceSetImage` leaves the tail and the size of the firmware file and every other file as they
are, and it writes nothing unless `FmpDeviceCheckImage` finds the payload valid. -/
theorem setImage_preserves (updateSupported : Bool) (io : IoOracle) (handles : List Nat)
    (image : Option (List UInt8)) (w : FsWorld) :
    SettingsKept w (fmpDeviceSetImage updateSupported io handles image w).2.2 ∧
      ((fmpDeviceCheckImage updateSupported image).1 ≠ .valid →
        (fmpDeviceSetImage updateSupported io handles image w).2.2 = w) := by
  have hopened : (rpi5FmpOpenFirmwareFile io .readWrite handles w).2.volumes = w.volumes :=
    openFirmwareFile_volumes io w rfl handles
  unfold fmpDeviceSetImage fmpDeviceCheckImage
  cases updateSupported with
  | false => exact ⟨.of_volumes rfl, fun _ => rfl⟩
  | true =>
    simp only [Bool.not_true, Bool.false_eq_true, if_false]
    split
    · exact ⟨.of_volumes rfl, fun _ => rfl⟩
    · refine ⟨?_, fun hinvalid => absurd rfl hinvalid⟩
      split
      · next hnone =>
        rw [hnone] at hopened
        exact .of_volumes hopened
      · next file w' hsome =>
        rw [hsome] at hopened
        have hfirmware := openFirmwareFile_some rfl (congrArg Prod.fst hsome)
        have hcontent := hfirmware
        obtain ⟨-, content, hfile, -⟩ := hcontent
        have hfile' : w'.file file.volume file.name = some content :=
          (file_congr hopened _ _).trans hfile
        -- opening changed no file, so the write is one to the world before the update
        obtain ⟨n, hn, himage, hwritten⟩ :=
          writeFirmware_file io (image.getD []) hfile'
        have hkept : SettingsKept w (fmpWriteFirmware io w' file (image.getD [])).2 := by
          refine .of_written hfirmware hfile hn himage fun volume' name' => ?_
          rw [hwritten, file_congr hopened]
        split <;> exact hkept

end Rpi5Uefi
