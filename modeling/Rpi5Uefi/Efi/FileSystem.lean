import Mathlib.Logic.Function.Basic
import Rpi5Uefi.Efi.Status

/-!
# File systems (`EFI_SIMPLE_FILE_SYSTEM_PROTOCOL`, `EFI_FILE_PROTOCOL`)

The volumes are a store that every driver sees; a call into the file system driver may fail at any
time. An `IoOracle` gives the outcome of each call in the order the calls are made: the status it
reports, and for a read or a write how many bytes it gets to move, whatever it reports. A read never
makes bytes up, a file that is not there cannot be opened, and nothing but a write, a creation or a
deletion changes a file. An open file has a position, from which it is read and written, and which
moves on by as much.
-/

namespace Rpi5Uefi

/-- The part of `EFI_BLOCK_IO_MEDIA` that is looked at. -/
structure BlockMedia where
  mediaPresent : Bool
  readOnly : Bool
  deriving DecidableEq, Repr

/-- A volume: its medium, where the handle has a Block I/O protocol; its files; and the names it
refuses to open for writing. -/
structure FsVolume where
  media : Option BlockMedia
  files : String → Option (List UInt8)
  writeProtected : String → Bool

/-- The modes files are opened with. -/
inductive FileMode where
  | read
  | readWrite
  | readWriteCreate
  deriving DecidableEq, Repr

/-- `EFI_FILE_MODE_WRITE`. -/
def FileMode.writes : FileMode → Bool
  | .read => false
  | _ => true

/-- `EFI_FILE_MODE_CREATE`. -/
def FileMode.creates : FileMode → Bool
  | .readWriteCreate => true
  | _ => false

/-- What a call reports, and how many bytes it moves at most. -/
structure IoOutcome where
  status : EfiStatus
  count : Nat

abbrev IoOracle := Nat → IoOutcome

/-- The volumes, and how many calls were made. -/
structure FsWorld where
  volumes : Nat → FsVolume
  calls : Nat

/-- A call that touches no file. -/
def ioCall (io : IoOracle) (w : FsWorld) : EfiStatus × FsWorld :=
  ((io w.calls).status, { w with calls := w.calls + 1 })

/-- The content of a file. -/
def FsWorld.file (w : FsWorld) (volume : Nat) (name : String) : Option (List UInt8) :=
  (w.volumes volume).files name

def FsWorld.setFile (w : FsWorld) (volume : Nat) (name : String) (content : Option (List UInt8)) :
    FsWorld :=
  { w with volumes := Function.update w.volumes volume { w.volumes volume with
      files := Function.update (w.volumes volume).files name content } }

/-- `Open`. -/
def fsOpen (io : IoOracle) (w : FsWorld) (volume : Nat) (name : String) (mode : FileMode) :
    EfiStatus × FsWorld :=
  let refused := mode.writes && (w.volumes volume).writeProtected name
  let (status, w) := ioCall io w
  if status.isError then (status, w)
  else
    match w.file volume name with
    | some _ => (if refused then .writeProtected else .success, w)
    | none =>
      if refused then (.writeProtected, w)
      else if mode.creates then (.success, w.setFile volume name (some []))
      else (.notFound, w)

/-- An open file (`EFI_FILE_PROTOCOL`): where it is, and its position. -/
structure FsFile where
  volume : Nat
  name : String
  position : Nat
  deriving DecidableEq, Repr

/-- A file as `Open` hands it out, at its start. -/
def FsFile.opened (volume : Nat) (name : String) : FsFile := ⟨volume, name, 0⟩

/-- What is in the file. -/
def FsWorld.content (w : FsWorld) (file : FsFile) : List UInt8 :=
  (w.file file.volume file.name).getD []

/-- The position behind so many bytes. -/
def FsFile.advance (file : FsFile) (count : Nat) : FsFile :=
  { file with position := file.position + count }

/-- `SetPosition`; on an error the position stays. -/
def fsSetPosition (io : IoOracle) (w : FsWorld) (file : FsFile) (position : Nat) :
    EfiStatus × FsFile × FsWorld :=
  let (status, w) := ioCall io w
  (status, if status.isError then file else { file with position := position }, w)

/-- `Read`: the status, the bytes, and the file behind them. -/
def fsRead (io : IoOracle) (w : FsWorld) (file : FsFile) (size : Nat) :
    EfiStatus × List UInt8 × FsFile × FsWorld :=
  let bytes := ((w.content file).drop file.position).take (min (io w.calls).count size)
  let (status, w) := ioCall io w
  (status, bytes, file.advance bytes.length, w)

/-- A content with other bytes from a position on; a gap behind its end is filled with zeros. -/
def overwrite (content : List UInt8) (position : Nat) (bytes : List UInt8) : List UInt8 :=
  if bytes = [] then content
  else (content ++ List.replicate (position - content.length) 0).take position ++ bytes ++
    content.drop (position + bytes.length)

/-- `Write`: the status, how many bytes were written, and the file behind them. -/
def fsWrite (io : IoOracle) (w : FsWorld) (file : FsFile) (data : List UInt8) :
    EfiStatus × Nat × FsFile × FsWorld :=
  let written := min (io w.calls).count data.length
  let content := overwrite (w.content file) file.position (data.take written)
  let (status, w) := ioCall io w
  (status, written, file.advance written, w.setFile file.volume file.name (some content))

/-- `Delete` of an open file. -/
def fsDelete (w : FsWorld) (volume : Nat) (name : String) : FsWorld :=
  w.setFile volume name none

/-! ## What the calls leave alone -/

section
variable {io : IoOracle} {w : FsWorld} {volume : Nat} {name : String}

@[simp] theorem ioCall_file (volume : Nat) (name : String) :
    (ioCall io w).2.file volume name = w.file volume name := rfl

theorem fsSetPosition_success {file : FsFile} {position : Nat}
    (h : (fsSetPosition io w file position).1.isError = false) :
    (fsSetPosition io w file position).2.1 = { file with position := position } := by
  change (io w.calls).status.isError = false at h
  unfold fsSetPosition ioCall
  simp only [h, Bool.false_eq_true, if_false]

/-- At the start of a file, the bytes are in front of what is behind as many. -/
theorem overwrite_start (content bytes : List UInt8) :
    overwrite content 0 bytes = bytes ++ content.drop bytes.length := by
  unfold overwrite
  split
  · next hnone => simp [hnone]
  · simp

theorem file_congr {w' : FsWorld} (h : w'.volumes = w.volumes) (volume : Nat) (name : String) :
    w'.file volume name = w.file volume name := by
  unfold FsWorld.file
  rw [h]

theorem setFile_file (content : Option (List UInt8)) (volume' : Nat) (name' : String) :
    (w.setFile volume name content).file volume' name' =
      if volume' = volume ∧ name' = name then content else w.file volume' name' := by
  unfold FsWorld.setFile FsWorld.file
  simp only [Function.update_apply]
  by_cases hv : volume' = volume
  · rw [if_pos hv, hv]
    simp only [Function.update_apply, true_and]
  · rw [if_neg hv, if_neg fun h => hv h.1]

/-- A file keeps its place: the media and the protection of a volume never change. -/
theorem setFile_volume (content : Option (List UInt8)) (volume' : Nat) :
    ((w.setFile volume name content).volumes volume').media = (w.volumes volume').media ∧
      ((w.setFile volume name content).volumes volume').writeProtected =
        (w.volumes volume').writeProtected := by
  unfold FsWorld.setFile
  simp only [Function.update_apply]
  split
  · next h =>
    rw [h]
    exact ⟨rfl, rfl⟩
  · exact ⟨rfl, rfl⟩

/-- **`Open` without creation** changes no file, and finds only files that are there. -/
theorem fsOpen_volumes {mode : FileMode} (hmode : mode.creates = false) :
    (fsOpen io w volume name mode).2.volumes = w.volumes := by
  unfold fsOpen
  simp only [hmode]
  split
  · rfl
  · split
    · rfl
    · split <;> rfl

theorem fsOpen_success {mode : FileMode} (hmode : mode.creates = false)
    (h : (fsOpen io w volume name mode).1.isError = false) :
    ∃ content, w.file volume name = some content ∧
      (mode.writes = true → (w.volumes volume).writeProtected name = false) := by
  unfold fsOpen at h
  simp only [hmode, ioCall_file] at h
  split at h
  · next herror =>
    rw [herror] at h
    cases h
  · cases hfile : w.file volume name with
    | none =>
      rw [hfile] at h
      simp only at h
      split at h <;> cases h
    | some content =>
      rw [hfile] at h
      refine ⟨content, rfl, fun hwrites => ?_⟩
      rw [hwrites] at h
      cases hprotected : (w.volumes volume).writeProtected name with
      | false => rfl
      | true =>
        rw [hprotected] at h
        cases h

end

/-! ## One file changes -/

/-- The files of `w'` are those of `w`, except that one has the content `content`. -/
def BecomesAt (w w' : FsWorld) (volume : Nat) (name : String) (content : Option (List UInt8)) :
    Prop :=
  ∀ volume' name', w'.file volume' name' =
    if volume' = volume ∧ name' = name then content else w.file volume' name'

section
variable {io : IoOracle} {w w' w'' : FsWorld} {volume : Nat} {name : String}
  {content content' : Option (List UInt8)}

theorem BecomesAt.here (h : BecomesAt w w' volume name content) :
    w'.file volume name = content :=
  (h volume name).trans (if_pos ⟨rfl, rfl⟩)

theorem BecomesAt.other (h : BecomesAt w w' volume name content) {volume' : Nat} {name' : String}
    (hne : ¬(volume' = volume ∧ name' = name)) : w'.file volume' name' = w.file volume' name' :=
  (h volume' name').trans (if_neg hne)

theorem BecomesAt.trans (h : BecomesAt w w' volume name content)
    (h' : BecomesAt w' w'' volume name content') : BecomesAt w w'' volume name content' := by
  intro volume' name'
  rw [h' volume' name']
  split
  · rfl
  · next hne => exact h.other hne

theorem BecomesAt.of_volumes (h : w'.volumes = w.volumes) :
    BecomesAt w w' volume name (w.file volume name) := by
  intro volume' name'
  rw [file_congr h]
  split
  · next hsame =>
    obtain ⟨rfl, rfl⟩ := hsame
    rfl
  · rfl

theorem setFile_becomesAt : BecomesAt w (w.setFile volume name content) volume name content :=
  fun volume' name' => setFile_file content volume' name'

/-- **`Write`** changes its own file, from its position on. -/
theorem fsWrite_becomesAt (io : IoOracle) (w : FsWorld) (file : FsFile) (data : List UInt8) :
    BecomesAt w (fsWrite io w file data).2.2.2 file.volume file.name
      (some (overwrite (w.content file) file.position
        (data.take (fsWrite io w file data).2.1))) :=
  setFile_becomesAt (w := (ioCall io w).2)

/-- **`Open` with creation** leaves the file as it is, or creates it empty. -/
theorem fsOpen_create (io : IoOracle) (w : FsWorld) (volume : Nat) (name : String) :
    (fsOpen io w volume name .readWriteCreate).1.isError = true ∧
        BecomesAt w (fsOpen io w volume name .readWriteCreate).2 volume name
          (w.file volume name) ∨
      (fsOpen io w volume name .readWriteCreate).1.isError = false ∧
        BecomesAt w (fsOpen io w volume name .readWriteCreate).2 volume name
          (some ((w.file volume name).getD [])) := by
  unfold fsOpen
  simp only [ioCall_file]
  split
  · next herror => exact Or.inl ⟨herror, .of_volumes rfl⟩
  · cases hfile : w.file volume name with
    | some content =>
      have hsame : BecomesAt w (ioCall io w).2 volume name (some content) := by
        rw [← hfile]
        exact .of_volumes rfl
      simp only
      split
      · exact Or.inl ⟨rfl, hsame⟩
      · exact Or.inr ⟨rfl, hsame⟩
    | none =>
      simp only
      split
      · refine Or.inl ⟨rfl, ?_⟩
        rw [← hfile]
        exact .of_volumes rfl
      · rw [if_pos (show FileMode.readWriteCreate.creates = true from rfl)]
        refine Or.inr ⟨rfl, ?_⟩
        exact setFile_becomesAt (w := (ioCall io w).2)

end

end Rpi5Uefi
