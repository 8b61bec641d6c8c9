import Rpi5Uefi.Fmp.Preserved

/-!
# Which file is read after it was written

While the file operations work, `Rpi5FmpOpenFirmwareFile` takes the first usable candidate in the
order of the handles and names. Reading accepts a file on a read-only volume and writing does not,
so the two may take different files.

* **`openFirmwareFile_working`**: the candidate that is taken;
* **`ReadsWhatIsWritten`**: the first firmware file that can be read can also be written, or holds
  the payload anyway;
* **`getImage_after_setImage_iff`**: this is exactly when `GetImage` returns what `SetImage` wrote.
-/

namespace Rpi5Uefi

/-- File operations that work, and move everything they are asked to. -/
def workingIo : IoOracle := fun _ => ⟨.success, rpi5FmpUpdatableSize⟩

/-- Volumes and names, in the order they are tried. -/
def fmpCandidates (handles : List Nat) : List (Nat × String) :=
  handles.flatMap fun volume => mFirmwareFileNames.map fun name => (volume, name)

/-- A file that is opened in a mode and passes the check. -/
def nameUsable (w : FsWorld) (mode : FileMode) (volume : Nat) (name : String) : Bool :=
  match w.file volume name with
  | some content =>
    !(mode.writes && (w.volumes volume).writeProtected name) && carriesFirmware content
  | none => false

/-- The same, on a volume that is not skipped. -/
def fmpUsable (w : FsWorld) (mode : FileMode) (c : Nat × String) : Bool :=
  !rpi5FmpSkips (w.volumes c.1) mode && nameUsable w mode c.1 c.2

/-- The candidate that an open file is. -/
def FsFile.candidate (file : FsFile) : Nat × String := (file.volume, file.name)

section
variable {w w' : FsWorld} {mode : FileMode} {volume : Nat} {name : String} {file : FsFile}

theorem nameUsable_congr (h : w'.volumes = w.volumes) :
    nameUsable w' mode volume = nameUsable w mode volume := by
  funext name
  unfold nameUsable FsWorld.file
  rw [h]

theorem fmpUsable_congr (h : w'.volumes = w.volumes) : fmpUsable w' mode = fmpUsable w mode := by
  funext c
  unfold fmpUsable
  rw [nameUsable_congr h, h]

/-! ## The candidate that is taken -/

theorem check_working (file : FsFile) {content : List UInt8}
    (hfile : w.file file.volume file.name = some content) :
    (rpi5FmpCheckFirmwareFile workingIo w file).1.isError = !carriesFirmware content := by
  have hsize : min rpi5FmpUpdatableSize efiFirmwareVolumeHeaderSize =
      efiFirmwareVolumeHeaderSize := by decide
  have hread : FsWorld.content ⟨w.volumes, w.calls + 1⟩
      { file with position := rpi5FmpUpdatableSize } = content := congrArg (·.getD []) hfile
  unfold rpi5FmpCheckFirmwareFile carriesFirmware
  simp only [fsSetPosition, fsRead, ioCall, workingIo, EfiStatus.isError_success,
    Bool.false_eq_true, if_false, Bool.false_or, hsize, hread]
  split
  · next hlength =>
    rw [bne_iff_ne] at hlength
    rw [beq_false_of_ne hlength]
    rfl
  · next hlength =>
    rw [bne_iff_ne, ne_eq, not_not] at hlength
    rw [hlength, beq_self_eq_true, Bool.true_and]
    cases nvStoreHeader ((content.drop rpi5FmpUpdatableSize).take efiFirmwareVolumeHeaderSize) <;>
      rfl

/-- A name is taken exactly when it is usable. -/
theorem openName_working (w : FsWorld) (volume : Nat) (name : String)
    (hmode : mode.creates = false) :
    ((fsOpen workingIo w volume name mode).1.isError ||
      (rpi5FmpCheckFirmwareFile workingIo (fsOpen workingIo w volume name mode).2
        (.opened volume name)).1.isError) = !nameUsable w mode volume name := by
  have hvolumes : (fsOpen workingIo w volume name mode).2.volumes = w.volumes :=
    fsOpen_volumes hmode
  cases hfile : w.file volume name with
  | none =>
    have hnot : nameUsable w mode volume name = false := by
      unfold nameUsable
      rw [hfile]
    rw [hnot]
    cases herror : (fsOpen workingIo w volume name mode).1.isError with
    | true => rfl
    -- without CREATE a name that is not there does not open
    | false =>
      obtain ⟨content, hcontent, -⟩ := fsOpen_success hmode herror
      rw [hfile] at hcontent
      cases hcontent
  | some content =>
    rw [check_working (.opened volume name) ((file_congr hvolumes volume name).trans hfile)]
    have hopen : FsWorld.file ⟨w.volumes, w.calls + 1⟩ volume name = some content := hfile
    unfold nameUsable fsOpen
    simp only [ioCall, workingIo, EfiStatus.isError_success, Bool.false_eq_true, if_false, hopen,
      hfile]
    cases mode.writes && (w.volumes volume).writeProtected name <;> simp [EfiStatus.isError]

theorem openNames_working (w : FsWorld) (volume : Nat) (hmode : mode.creates = false)
    (names : List String) :
    (rpi5FmpOpenNames workingIo mode volume names w).1.map FsFile.candidate =
      (names.find? (nameUsable w mode volume)).map fun name => (volume, name) := by
  induction names generalizing w with
  | nil => rfl
  | cons name names ih =>
    have hopened : (fsOpen workingIo w volume name mode).2.volumes = w.volumes :=
      fsOpen_volumes hmode
    have hchecked : (rpi5FmpCheckFirmwareFile workingIo (fsOpen workingIo w volume name mode).2
        (.opened volume name)).2.2.volumes = (fsOpen workingIo w volume name mode).2.volumes :=
      checkFirmwareFile_volumes
    have husable := openName_working w volume name hmode
    unfold rpi5FmpOpenNames
    simp only
    rw [List.find?_cons]
    split
    -- not opened, opened and refused, opened and taken: usable only in the last case
    · next hopen =>
      rw [hopen, Bool.true_or, eq_comm, Bool.not_eq_true'] at husable
      rw [husable, ih, nameUsable_congr hopened]
    · next hopen =>
      rw [Bool.eq_false_iff.mpr hopen, Bool.false_or] at husable
      split
      · next hcheck =>
        rw [hcheck, eq_comm, Bool.not_eq_true'] at husable
        rw [husable, ih, nameUsable_congr (hchecked.trans hopened)]
      · next hcheck =>
        rw [Bool.eq_false_iff.mpr hcheck, eq_comm, Bool.not_eq_false'] at husable
        obtain ⟨hvolume, hname⟩ := checkFirmwareFile_place workingIo
          (fsOpen workingIo w volume name mode).2 (.opened volume name)
        rw [husable]
        exact congrArg some (Prod.ext hvolume hname)

/-- **The first usable candidate is taken.** -/
theorem openFirmwareFile_working (w : FsWorld) (hmode : mode.creates = false)
    (handles : List Nat) :
    (rpi5FmpOpenFirmwareFile workingIo mode handles w).1.map FsFile.candidate =
      (fmpCandidates handles).find? (fmpUsable w mode) := by
  induction handles generalizing w with
  | nil => rfl
  | cons volume handles ih =>
    have hnames := openNames_working (ioCall workingIo (ioCall workingIo w).2).2 volume hmode
      mFirmwareFileNames
    have hvolumes := openNames_volumes workingIo (ioCall workingIo (ioCall workingIo w).2).2 volume
      hmode mFirmwareFileNames
    have hcongr : nameUsable (ioCall workingIo (ioCall workingIo w).2).2 mode volume =
        nameUsable w mode volume := nameUsable_congr rfl
    rw [hcongr] at hnames
    unfold rpi5FmpOpenFirmwareFile fmpCandidates
    simp only [List.flatMap_cons, List.find?_append, List.find?_map]
    cases hskip : rpi5FmpSkips (w.volumes volume) mode with
    | true =>
      -- a skipped volume has no usable name
      have hnone : (fmpUsable w mode ∘ fun name => (volume, name)) = fun _ => false := by
        funext name
        simp [fmpUsable, hskip]
      rw [if_pos rfl, hnone, ih]
      rfl
    | false =>
      have hsame : (fmpUsable w mode ∘ fun name => (volume, name)) =
          nameUsable w mode volume := by
        funext name
        simp [fmpUsable, hskip]
      have hworks : ∀ w, (ioCall workingIo w).1.isError = false := fun _ => rfl
      rw [if_neg (by decide), hworks, hworks, if_neg (by decide), if_neg (by decide), hsame,
        ← hnames]
      split
      · next hopen =>
        rw [hopen]
        rfl
      · next w' hopen =>
        rw [hopen] at hvolumes ⊢
        rw [ih, fmpUsable_congr (show w'.volumes = w.volumes from hvolumes)]
        rfl

/-! ## Reading back -/

/-- What can be written can be read. -/
theorem fmpUsable_read {c : Nat × String} (h : fmpUsable w .readWrite c = true) :
    fmpUsable w .read c = true := by
  unfold fmpUsable rpi5FmpSkips nameUsable at *
  simp only [Bool.and_eq_true, Bool.not_eq_true', FileMode.writes] at *
  obtain ⟨hskip, hname⟩ := h
  refine ⟨?_, ?_⟩
  · split at hskip
    · simp_all
    · rfl
  · split at hname
    · simp_all
    · cases hname

theorem fmpUsable_file {c : Nat × String} (h : fmpUsable w mode c = true) :
    ∃ content, w.file c.1 c.2 = some content ∧ carriesFirmware content = true := by
  unfold fmpUsable nameUsable at h
  cases hfile : w.file c.1 c.2 with
  | none => simp [hfile] at h
  | some content => exact ⟨content, rfl, by simp_all⟩

/-- What `FmpDeviceGetImage` finds in the file that is taken for reading. -/
theorem getImage_working {handles : List Nat} {size : Nat} {c : Nat × String}
    {content : List UInt8} (hsize : rpi5FmpUpdatableSize ≤ size)
    (hfind : (fmpCandidates handles).find? (fmpUsable w .read) = some c)
    (hfile : w.file c.1 c.2 = some content) :
    (fmpDeviceGetImage workingIo handles true (some size) w).1 = .success ∧
      (fmpDeviceGetImage workingIo handles true (some size) w).2.1 =
        some (content.take rpi5FmpUpdatableSize) := by
  have husable := List.find?_some hfind
  obtain ⟨content', hfile', hcarries⟩ := fmpUsable_file husable
  rw [hfile] at hfile'
  obtain rfl := Option.some.inj hfile'
  have hlength := carriesFirmware_length hcarries
  have hopen : (rpi5FmpOpenFirmwareFile workingIo .read handles w).1.map FsFile.candidate =
      (fmpCandidates handles).find? (fmpUsable w .read) := openFirmwareFile_working w rfl handles
  have hvolumes : (rpi5FmpOpenFirmwareFile workingIo .read handles w).2.volumes = w.volumes :=
    openFirmwareFile_volumes workingIo w rfl handles
  rw [hfind] at hopen
  unfold fmpDeviceGetImage
  simp only [Bool.not_true, Bool.or_false, decide_eq_true_eq]
  rw [if_neg (by omega)]
  split
  · next hnone =>
    rw [hnone] at hopen
    cases hopen
  · next file w' hsome =>
    rw [hsome] at hopen hvolumes
    obtain rfl := Option.some.inj hopen
    have hsame : w'.volumes = w.volumes := hvolumes
    have hread : FsWorld.content ⟨w'.volumes, w'.calls + 1⟩ { file with position := 0 } = content :=
      congrArg (·.getD []) ((file_congr hsame file.volume file.name).trans hfile)
    -- the read gets what it asks for, and a file that carries the firmware is long enough
    simp only [ioCall, workingIo, fsSetPosition, fsRead, EfiStatus.isError_success,
      Bool.false_eq_true, if_false, hread, List.drop_zero, Nat.min_self]
    rw [if_neg (by rw [List.length_take]; omega)]
    exact ⟨rfl, rfl⟩

/-- A valid payload is written wherever there is a candidate for it. -/
theorem setImage_success {handles : List Nat} {image : List UInt8} {c : Nat × String}
    (hvalid : rpi5FmpValidatePayload (some image) = .success)
    (hsize : rpi5FmpUpdatableSize ≤ image.length)
    (hfind : (fmpCandidates handles).find? (fmpUsable w .readWrite) = some c) :
    (fmpDeviceSetImage true workingIo handles (some image) w).1 = .success := by
  have hopen : (rpi5FmpOpenFirmwareFile workingIo .readWrite handles w).1.map FsFile.candidate =
      (fmpCandidates handles).find? (fmpUsable w .readWrite) :=
    openFirmwareFile_working w rfl handles
  have htake : min rpi5FmpUpdatableSize (image.take rpi5FmpUpdatableSize).length =
      rpi5FmpUpdatableSize := by
    rw [List.length_take]
    omega
  rw [hfind] at hopen
  unfold fmpDeviceSetImage
  rw [hvalid]
  simp only [Bool.not_true, Bool.false_eq_true, if_false, EfiStatus.isError_success]
  split
  · next hnone =>
    rw [hnone] at hopen
    cases hopen
  · unfold fmpWriteFirmware
    simp only [ioCall, workingIo, fsSetPosition, fsWrite, EfiStatus.isError_success,
      Bool.false_eq_true, if_false, htake, ne_eq, not_true_eq_false, Option.getD_some]

/-- The files and volumes after a successful `FmpDeviceSetImage`. -/
structure Written (w w' : FsWorld) (handles : List Nat) (image : List UInt8) (c : Nat × String)
    (content : List UInt8) : Prop where
  size : rpi5FmpUpdatableSize ≤ image.length
  taken : (fmpCandidates handles).find? (fmpUsable w .readWrite) = some c
  before : w.file c.1 c.2 = some content
  file : ∀ volume name, w'.file volume name =
    if volume = c.1 ∧ name = c.2 then
      some (image.take rpi5FmpUpdatableSize ++ content.drop rpi5FmpUpdatableSize)
    else w.file volume name
  media : ∀ volume, (w'.volumes volume).media = (w.volumes volume).media

/-- A write that succeeds replaces everything before the store. -/
theorem writeFirmware_working {image content : List UInt8}
    (hsize : rpi5FmpUpdatableSize ≤ image.length)
    (hfile : w.file file.volume file.name = some content) :
    (∀ volume' name', (fmpWriteFirmware workingIo w file image).2.file volume' name' =
      if volume' = file.volume ∧ name' = file.name then
        some (image.take rpi5FmpUpdatableSize ++ content.drop rpi5FmpUpdatableSize)
      else w.file volume' name') ∧
    ∀ volume', ((fmpWriteFirmware workingIo w file image).2.volumes volume').media =
      (w.volumes volume').media := by
  have hlength : (image.take rpi5FmpUpdatableSize).length = rpi5FmpUpdatableSize := by
    rw [List.length_take]
    omega
  have hread : FsWorld.content ⟨w.volumes, w.calls + 1⟩ { file with position := 0 } = content :=
    congrArg (·.getD []) hfile
  unfold fmpWriteFirmware
  simp only [ioCall, workingIo, fsSetPosition, fsWrite, EfiStatus.isError_success,
    Bool.false_eq_true, if_false, ne_eq, not_true_eq_false, hread, overwrite_start,
    List.take_take, Nat.min_self, hlength]
  exact ⟨fun volume' name' => setFile_file _ volume' name', fun volume' =>
    (setFile_volume _ volume').1⟩

theorem setImage_written {handles : List Nat} {image : List UInt8}
    (h : (fmpDeviceSetImage true workingIo handles (some image) w).1 = .success) :
    ∃ c content, Written w (fmpDeviceSetImage true workingIo handles (some image) w).2.2 handles
      image c content := by
  have hopen : (rpi5FmpOpenFirmwareFile workingIo .readWrite handles w).1.map FsFile.candidate =
      (fmpCandidates handles).find? (fmpUsable w .readWrite) :=
    openFirmwareFile_working w rfl handles
  have hvolumes : (rpi5FmpOpenFirmwareFile workingIo .readWrite handles w).2.volumes = w.volumes :=
    openFirmwareFile_volumes workingIo w rfl handles
  revert h
  unfold fmpDeviceSetImage
  simp only [Bool.not_true, Bool.false_eq_true, if_false]
  split
  · next herror =>
    intro h
    rw [show rpi5FmpValidatePayload (some image) = .success from h] at herror
    cases herror
  · next hvalid =>
    have hsize : rpi5FmpUpdatableSize ≤ image.length := by
      unfold rpi5FmpValidatePayload at hvalid
      simp only at hvalid
      split at hvalid
      · exact absurd rfl hvalid
      · omega
    split
    · exact fun h => absurd h (by simp)
    · next file w' hsome =>
      intro _
      rw [hsome] at hopen hvolumes
      obtain ⟨content, hfile, -⟩ := fmpUsable_file (List.find?_some hopen.symm)
      have hsame : w'.volumes = w.volumes := hvolumes
      have hfile' : w'.file file.volume file.name = some content :=
        (file_congr hsame file.volume file.name).trans hfile
      -- the write is to the candidate that was opened
      obtain ⟨hfiles, hmedia⟩ := writeFirmware_working hsize hfile'
      refine ⟨file.candidate, content, hsize, hopen.symm, hfile, ?_, ?_⟩
      · intro volume' name'
        rw [← file_congr hsame]
        split <;> exact hfiles volume' name'
      · intro volume'
        rw [← show w'.volumes = w.volumes from hvolumes]
        split <;> exact hmedia volume'

/-! ## The same file -/

/-- The first firmware file that can be read can also be written, or already holds the payload. -/
def ReadsWhatIsWritten (w : FsWorld) (handles : List Nat) (image : List UInt8) : Prop :=
  ∀ before c after content, fmpCandidates handles = before ++ c :: after →
    (∀ b ∈ before, fmpUsable w .read b = false) → fmpUsable w .read c = true →
    w.file c.1 c.2 = some content →
    fmpUsable w .readWrite c = true ∨
      content.take rpi5FmpUpdatableSize = image.take rpi5FmpUpdatableSize

variable {handles : List Nat} {image content : List UInt8} {c : Nat × String}

theorem Written.length_take (h : Written w w' handles image c content) :
    (image.take rpi5FmpUpdatableSize).length = rpi5FmpUpdatableSize := by
  have hsize := h.size
  rw [List.length_take]
  omega

/-- The write leaves the candidates for reading as they are. -/
theorem Written.usable (h : Written w w' handles image c content) :
    fmpUsable w' .read = fmpUsable w .read := by
  have hlength := h.length_take
  funext c'
  unfold fmpUsable rpi5FmpSkips nameUsable
  rw [h.media, h.file]
  congr 1
  by_cases hsame : c'.1 = c.1 ∧ c'.2 = c.2
  · rw [if_pos hsame, hsame.1, hsame.2, h.before]
    unfold carriesFirmware
    simp only [FileMode.writes, Bool.false_and, Bool.not_false, Bool.true_and]
    rw [List.drop_left' hlength]
  · rw [if_neg hsame]
    simp only [FileMode.writes, Bool.false_and]

/-- **What is read back after a write.** -/
theorem Written.readBack_iff (h : Written w w' handles image c content) {size : Nat}
    (hsize : rpi5FmpUpdatableSize ≤ size) :
    ((fmpDeviceGetImage workingIo handles true (some size) w').1 = .success ∧
      (fmpDeviceGetImage workingIo handles true (some size) w').2.1 =
        some (image.take rpi5FmpUpdatableSize)) ↔
    ReadsWhatIsWritten w handles image := by
  have hlength := h.length_take
  -- the candidate that is taken for reading
  obtain ⟨r, hr⟩ : ∃ r, (fmpCandidates handles).find? (fmpUsable w .read) = some r := by
    rw [← Option.isSome_iff_exists, List.find?_isSome]
    exact ⟨c, List.mem_of_find?_eq_some h.taken, fmpUsable_read (List.find?_some h.taken)⟩
  obtain ⟨hread, before, after, hsplit, hbefore⟩ := List.find?_eq_some_iff_append.mp hr
  have hnone : ∀ b ∈ before, fmpUsable w .read b = false := fun b hb => by
    simpa using hbefore b hb
  obtain ⟨contentR, hfileR, -⟩ := fmpUsable_file hread
  -- the condition is about this candidate
  have hcond : ReadsWhatIsWritten w handles image ↔ fmpUsable w .readWrite r = true ∨
      contentR.take rpi5FmpUpdatableSize = image.take rpi5FmpUpdatableSize := by
    constructor
    · exact fun hreads => hreads before r after contentR hsplit hnone hread hfileR
    · intro hr' before' c' after' content' hsplit' hnone' hread' hfile'
      have hc' : (fmpCandidates handles).find? (fmpUsable w .read) = some c' :=
        List.find?_eq_some_iff_append.mpr
          ⟨hread', before', after', hsplit', fun b hb => by simpa using hnone' b hb⟩
      obtain rfl := Option.some.inj (hr.symm.trans hc')
      obtain rfl := Option.some.inj (hfileR.symm.trans hfile')
      exact hr'
  rw [hcond]
  have hr' := hr
  rw [← h.usable] at hr'
  cases hwrite : fmpUsable w .readWrite r with
  | true =>
    -- it is the one that was written
    have hsame : (fmpCandidates handles).find? (fmpUsable w .readWrite) = some r := by
      refine List.find?_eq_some_iff_append.mpr ⟨hwrite, before, after, hsplit, fun b hb => ?_⟩
      cases hb' : fmpUsable w .readWrite b with
      | false => rfl
      | true =>
        have hreadb := hnone b hb
        rw [fmpUsable_read hb'] at hreadb
        cases hreadb
    obtain rfl := Option.some.inj (h.taken.symm.trans hsame)
    have hfile := (h.file c.1 c.2).trans (if_pos ⟨rfl, rfl⟩)
    obtain ⟨hstatus, hbytes⟩ := getImage_working hsize hr' hfile
    rw [List.take_left' hlength] at hbytes
    exact ⟨fun _ => Or.inl rfl, fun _ => ⟨hstatus, hbytes⟩⟩
  | false =>
    have hne : ¬(r.1 = c.1 ∧ r.2 = c.2) := by
      intro heq
      have hrc : r = c := Prod.ext heq.1 heq.2
      rw [hrc, List.find?_some h.taken] at hwrite
      cases hwrite
    have hfile := ((h.file r.1 r.2).trans (if_neg hne)).trans hfileR
    obtain ⟨hstatus, hbytes⟩ := getImage_working hsize hr' hfile
    rw [hbytes]
    simp [hstatus]

end

/-- **`GetImage` returns what `SetImage` wrote** if and only if the first firmware file that can be
read, in the order of the handles and names, can also be written, or already holds the payload. -/
theorem getImage_after_setImage_iff (handles : List Nat) (image : List UInt8) (w : FsWorld)
    (size : Nat) (hsize : rpi5FmpUpdatableSize ≤ size)
    (hset : (fmpDeviceSetImage true workingIo handles (some image) w).1 = .success) :
    ((fmpDeviceGetImage workingIo handles true (some size)
        (fmpDeviceSetImage true workingIo handles (some image) w).2.2).1 = .success ∧
      (fmpDeviceGetImage workingIo handles true (some size)
        (fmpDeviceSetImage true workingIo handles (some image) w).2.2).2.1 =
        some (image.take rpi5FmpUpdatableSize)) ↔
    ReadsWhatIsWritten w handles image := by
  obtain ⟨c, content, hwritten⟩ := setImage_written hset
  exact hwritten.readBack_iff hsize

/-! ## Two cards -/

/-- The header of the variable store, as the flash layout has it. -/
def nvStoreFvHeader : List UInt8 :=
  List.replicate 16 0 ++ gEfiSystemNvDataFvGuid ++ [0, 0, 2, 0, 0, 0, 0, 0] ++ efiFvhSignature ++
    [0xff, 0xfe, 0x04, 0x00, 0x48, 0x00, 0x19, 0xF9, 0, 0, 0, 2, 0x20, 0, 0, 0, 0, 0x10, 0, 0]

/-- A firmware region of one byte, before a variable store. -/
def filledFirmware (b : UInt8) : List UInt8 :=
  List.replicate rpi5FmpUpdatableSize b ++ nvStoreFvHeader

theorem filledFirmware_carries (b : UInt8) : carriesFirmware (filledFirmware b) = true := by
  unfold carriesFirmware filledFirmware
  rw [List.drop_left' List.length_replicate]
  decide

theorem filledFirmware_take (b : UInt8) :
    (filledFirmware b).take rpi5FmpUpdatableSize = List.replicate rpi5FmpUpdatableSize b :=
  List.take_left' List.length_replicate

/-- A card with the firmware file on it. -/
def firmwareCard (readOnly : Bool) (b : UInt8) : FsVolume where
  media := some ⟨true, readOnly⟩
  files name := if name = "armstub8-2712.bin" then some (filledFirmware b) else none
  writeProtected _ := false

/-- A read-only card and a writable one. -/
def twoCards : FsWorld where
  volumes volume := if volume = 0 then firmwareCard true 0x11 else firmwareCard false 0x22
  calls := 0

/-- A payload. -/
def filledPayload : List UInt8 := List.replicate rpi5FmpUpdatableSize 0xAA

theorem filledPayload_valid : rpi5FmpValidatePayload (some filledPayload) = .success := by
  have hlength : filledPayload.length = rpi5FmpUpdatableSize := List.length_replicate
  unfold rpi5FmpValidatePayload
  simp only [hlength, Nat.lt_irrefl, if_false, gt_iff_lt]

theorem writableCard_usable (mode : FileMode) :
    fmpUsable twoCards mode (1, "armstub8-2712.bin") = true := by
  have hcarries := filledFirmware_carries 0x22
  show (!(!true || (false && mode.writes)) &&
    (!(mode.writes && false) && carriesFirmware (filledFirmware 0x22))) = true
  rw [hcarries]
  cases mode <;> rfl

theorem readOnlyCard_usable : fmpUsable twoCards .read (0, "armstub8-2712.bin") = true := by
  have hcarries := filledFirmware_carries 0x11
  show (!(!true || (true && false)) &&
    (!(false && false) && carriesFirmware (filledFirmware 0x11))) = true
  rw [hcarries]
  rfl

theorem readOnlyCard_file :
    twoCards.file 0 "armstub8-2712.bin" = some (filledFirmware 0x11) := by
  unfold twoCards FsWorld.file firmwareCard
  simp only [if_true]

theorem writableCard_taken (mode : FileMode) :
    (fmpCandidates [1]).find? (fmpUsable twoCards mode) = some (1, "armstub8-2712.bin") := by
  show List.find? _ ((1, "armstub8-2712.bin") :: _) = _
  rw [List.find?_cons, writableCard_usable]

theorem writableCard_readBack :
    (fmpDeviceGetImage workingIo [1] true (some rpi5FmpUpdatableSize)
        (fmpDeviceSetImage true workingIo [1] (some filledPayload) twoCards).2.2).1 = .success ∧
      (fmpDeviceGetImage workingIo [1] true (some rpi5FmpUpdatableSize)
        (fmpDeviceSetImage true workingIo [1] (some filledPayload) twoCards).2.2).2.1 =
        some (filledPayload.take rpi5FmpUpdatableSize) := by
  have hlength : filledPayload.length = rpi5FmpUpdatableSize := List.length_replicate
  have hset := setImage_success filledPayload_valid (Nat.le_of_eq hlength.symm)
    (writableCard_taken .readWrite)
  refine (getImage_after_setImage_iff [1] filledPayload twoCards _ (Nat.le_refl _) hset).mpr ?_
  intro before c after content hsplit hnone hread _
  have hfind := List.find?_eq_some_iff_append.mpr
    ⟨hread, before, after, hsplit, fun b hb => by simpa using hnone b hb⟩
  rw [writableCard_taken] at hfind
  obtain rfl := Option.some.inj hfind
  exact Or.inl (writableCard_usable .readWrite)

/-- The update goes to the writable card, and the read-only card is read back. -/
theorem readOnlyCard_readBack :
    (fmpDeviceSetImage true workingIo [0, 1] (some filledPayload) twoCards).1 = .success ∧
      ¬((fmpDeviceGetImage workingIo [0, 1] true (some rpi5FmpUpdatableSize)
          (fmpDeviceSetImage true workingIo [0, 1] (some filledPayload) twoCards).2.2).1 =
          .success ∧
        (fmpDeviceGetImage workingIo [0, 1] true (some rpi5FmpUpdatableSize)
          (fmpDeviceSetImage true workingIo [0, 1] (some filledPayload) twoCards).2.2).2.1 =
          some (filledPayload.take rpi5FmpUpdatableSize)) := by
  have hlength : filledPayload.length = rpi5FmpUpdatableSize := List.length_replicate
  have hfind : (fmpCandidates [0, 1]).find? (fmpUsable twoCards .readWrite) =
      some (1, "armstub8-2712.bin") := by
    refine List.find?_eq_some_iff_append.mpr ⟨writableCard_usable _,
      [(0, "armstub8-2712.bin"), (0, "RPI_EFI.FD")], [(1, "RPI_EFI.FD")], rfl, ?_⟩
    intro b hb
    rcases List.mem_cons.mp hb with rfl | hb
    · rfl
    · obtain rfl := List.mem_singleton.mp hb
      rfl
  have hset := setImage_success filledPayload_valid (Nat.le_of_eq hlength.symm) hfind
  obtain ⟨c, content, hwritten⟩ := setImage_written hset
  refine ⟨hset, fun hback => ?_⟩
  have hreads := (hwritten.readBack_iff (Nat.le_refl _)).mp hback
  rcases hreads [] _ _ _ rfl nofun readOnlyCard_usable readOnlyCard_file with hwrite | hsame
  · cases hwrite
  · have htake : filledPayload.take rpi5FmpUpdatableSize = filledPayload :=
      List.take_of_length_le (Nat.le_of_eq hlength)
    rw [filledFirmware_take, htake] at hsame
    have hhead := congrArg List.head? hsame
    unfold filledPayload at hhead
    rw [List.head?_replicate, List.head?_replicate, if_neg (by decide), if_neg (by decide)] at hhead
    exact absurd hhead (by decide)

end Rpi5Uefi
