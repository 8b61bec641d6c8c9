import Rpi5Uefi.Blcfg.PatchConsistent
import Rpi5Uefi.Blcfg.StagedFiles
import Rpi5Uefi.Lib.Run

/-!
# Staged updates over whole runs

The files on the volumes, the variable `BlCfgStaged` and the content of the EEPROM are updated by
separate calls in different boots. A run is a sequence of boots, staging attempts and cleanups in
any order, each with its own volumes in view and its own failures.

* **`StagingState`**: the driver's values, the volumes and the variable, and beside them what the
  property speaks of: which volume holds an update staged by this code, whether that update was
  judged not applied, and which volume the variable stands for.
* **`StagingHolds`**: no update without its signature, and no update left behind untracked.
* **`StagingKept`**: when one step keeps this: the deletions it depends on open their files, the
  variable is written, and a cleanup sees the volume that holds the update it clears.
* **`staging_holds`**: so it holds at the end of every run whose steps all meet the condition.
-/

namespace Rpi5Uefi

open Bytes Transition

/-! ## The system -/

/-- An update staged by this code: was it judged not applied? -/
inductive StagedUpdate where
  | unjudged
  | notApplied
  deriving DecidableEq, Repr

structure StagingState where
  live : BlLive
  world : FsWorld
  marker : Option RpiBlcfgData
  /-- The last update staged on each volume. -/
  staged : Nat → Option StagedUpdate
  /-- The volume of the update the variable records. -/
  tracked : Option Nat

/-- A step, with everything the environment chooses. -/
inductive StagingEvent where
  | boot (live : BlLive) (volumes : Nat → FsVolume)
  | stage (inputs : StageInputs) (io : IoOracle) (handles : List Nat) (setVariable : EfiStatus)
  | cleanup (io : IoOracle) (handles : List Nat) (getVariable setVariable : EfiStatus)

/-- The volume of the recorded update once an update was staged on `volume`: a variable that could
not be written stands for no update on this volume. -/
def trackedAfter (setVariable : EfiStatus) (tracked : Option Nat) (volume : Nat) : Option Nat :=
  if setVariable.isError then if tracked = some volume then none else tracked else some volume

def StagingState.stage (s : StagingState) (inputs : StageInputs) (io : IoOracle)
    (handles : List Nat) (setVariable : EfiStatus) : StagingState :=
  match stageUpdate s.live inputs io handles setVariable s.world s.marker with
  | (.popup _, world, marker) => { s with world, marker }
  | (.reset volume, world, marker) =>
    { s with
      world
      marker
      staged := Function.update s.staged volume (some .unjudged)
      tracked := trackedAfter setVariable s.tracked volume }

/-- The update the variable records is judged not applied. -/
def judgeNotApplied (staged : Nat → Option StagedUpdate) (tracked : Option Nat) :
    Nat → Option StagedUpdate :=
  fun volume =>
    if tracked = some volume then (staged volume).map fun _ => .notApplied else staged volume

def StagingState.cleanup (s : StagingState) (io : IoOracle) (handles : List Nat)
    (getVariable setVariable : EfiStatus) : StagingState :=
  match getMarker getVariable s.marker,
      blStagedMarkerCleanup s.live io handles getVariable setVariable s.world s.marker with
  | none, (world, marker) => { s with world, marker }
  | some data, (world, marker) =>
    { s with
      world
      marker
      staged := if stagedApplied s.live data then s.staged else judgeNotApplied s.staged s.tracked
      tracked := if setVariable.isError then s.tracked else none }

/-- Between boots other software may write to the volumes, but not to the two files. -/
inductive StagingStep : StagingState → StagingEvent → StagingState → Prop where
  | boot {s : StagingState} {live : BlLive} {volumes : Nat → FsVolume}
      (hkept : ∀ volume name, name = stagedUpdateFile ∨ name = stagedSigFile →
        (volumes volume).files name = s.world.file volume name) :
      StagingStep s (.boot live volumes) { s with live, world := { s.world with volumes } }
  | stage {s : StagingState} {inputs : StageInputs} {io : IoOracle} {handles : List Nat}
      {setVariable : EfiStatus} :
      StagingStep s (.stage inputs io handles setVariable) (s.stage inputs io handles setVariable)
  | cleanup {s : StagingState} {io : IoOracle} {handles : List Nat}
      {getVariable setVariable : EfiStatus} :
      StagingStep s (.cleanup io handles getVariable setVariable)
        (s.cleanup io handles getVariable setVariable)

/-! ## The property -/

/-- The volume holds no update, or one with a signature over that same image. -/
def PairedOn (w : FsWorld) (volume : Nat) : Prop :=
  ∀ image, w.file volume stagedUpdateFile = some image →
    ∃ timestamp, w.file volume stagedSigFile = some (updateSig image timestamp)

structure StagingHolds (s : StagingState) : Prop where
  paired : ∀ volume, PairedOn s.world volume
  /-- A staged update is still there only while the variable is set, or judged not applied. -/
  tracked : ∀ volume update, s.staged volume = some update →
    (s.world.file volume stagedUpdateFile).isSome = true →
      s.marker.isSome = true ∨ update = .notApplied

/-- No update was staged yet, and files of that name from elsewhere are signed. -/
structure StagingStart (s : StagingState) : Prop where
  paired : ∀ volume, PairedOn s.world volume
  unstaged : ∀ volume, s.staged volume = none

/-! ## The condition -/

/-- An update that is still on its volume and was not judged not applied. -/
def Outstanding (s : StagingState) (volume : Nat) : Prop :=
  s.staged volume = some .unjudged ∧ (s.world.file volume stagedUpdateFile).isSome = true

/-- A staging attempt that gets to the boot volume: its deletions work, and the variable is set by
this run or by an earlier one. -/
def StageKept (s : StagingState) (inputs : StageInputs) (io : IoOracle) (handles : List Nat)
    (setVariable : EfiStatus) : Prop :=
  ∀ update volume w, prepareUpdate s.live inputs = .ok update →
    openBootVolume io handles s.world = (some volume, w) →
      StageFilesClean io w volume update.image update.sig ∧
        (setVariable.isError = false ∨ s.marker.isSome = true)

/-- The deletions of an applied update on one volume: the signature is not deleted without the
update. -/
def DeletesPair (io : IoOracle) (w : FsWorld) (volume : Nat) : Prop :=
  DeletesOpen io w volume stagedUpdateFile ∨
    (fsOpen io (deleteFileIfPresent io w volume stagedUpdateFile) volume stagedSigFile
      .readWrite).1.isError = true

/-- A cleanup that finds the variable set. Where it clears it, every outstanding update is the one
it judges: on the volume it opens, which lets the file be deleted, or the recorded one. -/
structure CleanupKept (s : StagingState) (io : IoOracle) (handles : List Nat)
    (setVariable : EfiStatus) (data : RpiBlcfgData) : Prop where
  paired : stagedApplied s.live data = true → ∀ volume w,
    openBootVolume io handles s.world = (some volume, w) → DeletesPair io w volume
  applied : stagedApplied s.live data = true → setVariable.isError = false →
    ∀ volume, Outstanding s volume → (openBootVolume io handles s.world).1 = some volume ∧
      DeletesOpen io (openBootVolume io handles s.world).2 volume stagedUpdateFile
  notApplied : stagedApplied s.live data = false → setVariable.isError = false →
    ∀ volume, Outstanding s volume → s.tracked = some volume

/-- The condition on one step. -/
def StagingKept (s : StagingState) : StagingEvent → Prop
  | .boot _ _ => True
  | .stage inputs io handles setVariable => StageKept s inputs io handles setVariable
  | .cleanup io handles getVariable setVariable =>
    ∀ data, getMarker getVariable s.marker = some data →
      CleanupKept s io handles setVariable data

/-! ## One step -/

section
variable {s s' : StagingState} {w w' : FsWorld} {inputs : StageInputs} {io : IoOracle}
  {handles : List Nat} {getVariable setVariable : EfiStatus} {volume : Nat}

theorem PairedOn.congr (h : PairedOn w volume)
    (hupd : w'.file volume stagedUpdateFile = w.file volume stagedUpdateFile)
    (hsig : w'.file volume stagedSigFile = w.file volume stagedSigFile) : PairedOn w' volume := by
  unfold PairedOn
  rw [hupd, hsig]
  exact h

theorem PairedOn.of_none (h : w.file volume stagedUpdateFile = none) : PairedOn w volume := by
  intro image himage
  rw [h] at himage
  cases himage

/-- **What one run of `StageUpdate` can do**: nothing to the files; or it fails on the boot volume;
or it resets with both files written. -/
theorem stageUpdate_cases (live : BlLive) (inputs : StageInputs) (io : IoOracle)
    (handles : List Nat) (setVariable : EfiStatus) (w : FsWorld) (marker : Option RpiBlcfgData) :
    (∃ lines w', stageUpdate live inputs io handles setVariable w marker =
        (.popup lines, w', marker) ∧ w'.volumes = w.volumes) ∨
      ∃ update volume w0, prepareUpdate live inputs = .ok update ∧
        openBootVolume io handles w = (some volume, w0) ∧ w0.volumes = w.volumes ∧
        ((stageFiles io w0 volume update.image update.sig).1.isError = true ∧
            stageUpdate live inputs io handles setVariable w marker =
              (.popup ["Writing the update files to the boot partition failed."],
                (stageFiles io w0 volume update.image update.sig).2, marker) ∨
          (stageFiles io w0 volume update.image update.sig).1.isError = false ∧
            stageUpdate live inputs io handles setVariable w marker =
              (.reset volume, (stageFiles io w0 volume update.image update.sig).2,
                setMarker setVariable marker (some (blValuesToData update.values)))) := by
  have hvolumes := openBootVolume_volumes io handles w
  unfold stageUpdate
  -- nothing is written before the boot volume is found
  cases hprepare : prepareUpdate live inputs with
  | error lines => exact Or.inl ⟨lines, w, rfl, rfl⟩
  | ok update =>
    simp only
    cases hopen : openBootVolume io handles w with
    | mk opened w0 =>
    rw [hopen] at hvolumes
    cases opened with
    | none => exact Or.inl ⟨_, w0, rfl, hvolumes⟩
    | some volume =>
      refine Or.inr ⟨update, volume, w0, rfl, rfl, hvolumes, ?_⟩
      simp only
      cases hstaged : (stageFiles io w0 volume update.image update.sig).1.isError with
      | true => exact Or.inl ⟨rfl, if_pos rfl⟩
      | false => exact Or.inr ⟨rfl, if_neg Bool.false_ne_true⟩

/-- A staging attempt that leaves every update as it was, or deletes some. -/
theorem StagingHolds.of_files {world : FsWorld} (h : StagingHolds s)
    (hfiles : ∀ volume, world.file volume stagedUpdateFile = none ∨
      world.file volume stagedUpdateFile = s.world.file volume stagedUpdateFile ∧
        world.file volume stagedSigFile = s.world.file volume stagedSigFile) :
    StagingHolds { s with world } := by
  constructor
  · intro volume
    rcases hfiles volume with hnone | ⟨hupd, hsig⟩
    · exact .of_none hnone
    · exact (h.paired volume).congr hupd hsig
  · intro volume update hstaged hthere
    rcases hfiles volume with hnone | ⟨hupd, -⟩
    · rw [hnone] at hthere
      cases hthere
    · rw [hupd] at hthere
      exact h.tracked volume update hstaged hthere

theorem setMarker_isSome {status : EfiStatus} {marker : Option RpiBlcfgData} {data : RpiBlcfgData}
    (h : status.isError = false ∨ marker.isSome = true) :
    (setMarker status marker (some data)).isSome = true := by
  unfold setMarker
  split
  · next herror =>
    rcases h with hok | hsome
    · rw [herror] at hok
      cases hok
    · exact hsome
  · rfl

/-- **A staging attempt** that meets its condition keeps the property. -/
theorem stage_holds (h : StagingHolds s) (hkept : StageKept s inputs io handles setVariable) :
    StagingHolds (s.stage inputs io handles setVariable) := by
  unfold StagingState.stage
  rcases stageUpdate_cases s.live inputs io handles setVariable s.world s.marker with
    ⟨lines, w', hcall, hvolumes⟩ | ⟨update, volume, w0, hprepare, hopen, hvolumes, hcase⟩
  · rw [hcall]
    exact h.of_files fun volume => Or.inr ⟨file_congr hvolumes .., file_congr hvolumes ..⟩
  -- from here the boot volume is `volume`, and its deletions work
  obtain ⟨hclean, hset⟩ := hkept update volume w0 hprepare hopen
  have hother : ∀ volume', volume' ≠ volume → ∀ name,
      (stageFiles io w0 volume update.image update.sig).2.file volume' name =
        s.world.file volume' name := fun volume' hne name =>
    (stageFiles_other fun hsame => hne hsame.1).trans (file_congr hvolumes ..)
  rcases hcase with ⟨hfailed, hcall⟩ | ⟨hok, hcall⟩
  · rw [hcall]
    refine h.of_files fun volume' => ?_
    by_cases hvolume : volume' = volume
    · subst hvolume
      rcases stageFiles_file hclean with ⟨hok, -⟩ | ⟨-, hnone | hsame⟩
      · rw [hfailed] at hok
        cases hok
      · exact Or.inl hnone
      · exact Or.inr ⟨(hsame _).trans (file_congr hvolumes ..),
          (hsame _).trans (file_congr hvolumes ..)⟩
    · exact Or.inr ⟨hother _ hvolume _, hother _ hvolume _⟩
  · rw [hcall]
    rcases stageFiles_file hclean with ⟨-, hupd, hsig⟩ | ⟨hfailed, -⟩
    -- both files are new, and the variable is set for them
    · refine ⟨fun volume' => ?_, fun _ _ _ _ => Or.inl (setMarker_isSome hset)⟩
      by_cases hvolume : volume' = volume
      · subst hvolume
        intro image himage
        have hnew := hupd.symm.trans himage
        obtain rfl := Option.some.inj hnew
        exact ⟨inputs.timestamp, by rw [hsig, (prepareUpdate_ok hprepare).2.2.2]⟩
      · exact (h.paired volume').congr (hother _ hvolume _) (hother _ hvolume _)
    · rw [hok] at hfailed
      cases hfailed

/-- **What a cleanup deletes**: on the volume it opens the update and, where the deletions work, its
signature. -/
theorem deleteStagedFiles_paired (h : ∀ volume, PairedOn w volume)
    (hkept : ∀ volume w', openBootVolume io handles w = (some volume, w') →
      DeletesPair io w' volume) (volume : Nat) :
    PairedOn (deleteStagedFiles io handles w) volume := by
  have hvolumes := openBootVolume_volumes io handles w
  unfold deleteStagedFiles
  cases hopen : openBootVolume io handles w with
  | mk opened w0 =>
  rw [hopen] at hvolumes
  have hpaired : ∀ volume, PairedOn w0 volume := fun volume =>
    (h volume).congr (file_congr hvolumes ..) (file_congr hvolumes ..)
  cases opened with
  | none => exact hpaired volume
  | some opened =>
  have hsig : ¬(volume = opened ∧ stagedUpdateFile = stagedSigFile) :=
    fun hsame => stagedSigFile_ne hsame.2.symm
  have hupd := delete_file io w0 opened stagedUpdateFile
  have hboth := delete_file io (deleteFileIfPresent io w0 opened stagedUpdateFile) opened
    stagedSigFile
  by_cases hvolume : volume = opened
  · subst hvolume
    rcases hkept volume w0 hopen with hopens | hfails
    · -- the update is gone
      exact .of_none ((hboth.other hsig).trans hopens.gone)
    · -- the signature stays; so does the update, unless it is gone too
      have hstays := hboth.here
      rw [hfails, if_pos rfl, hupd.other fun hsame => stagedSigFile_ne hsame.2] at hstays
      rcases delete_file_cases io w0 volume stagedUpdateFile with hnone | hsame
      · exact .of_none ((hboth.other hsig).trans hnone)
      · exact (hpaired volume).congr ((hboth.other hsig).trans hsame) hstays
  · have hkeeps : ∀ name, (deleteFileIfPresent io (deleteFileIfPresent io w0 opened
        stagedUpdateFile) opened stagedSigFile).file volume name = w0.file volume name := by
      intro name
      rw [hboth.other fun hsame => hvolume hsame.1, hupd.other fun hsame => hvolume hsame.1]
    exact (hpaired volume).congr (hkeeps _) (hkeeps _)

/-- A cleanup brings no update back, and the one on the volume it opens is gone where the deletion
works. -/
theorem deleteStagedFiles_update (io : IoOracle) (handles : List Nat) (w : FsWorld)
    (volume : Nat) :
    ((deleteStagedFiles io handles w).file volume stagedUpdateFile = none ∨
        (deleteStagedFiles io handles w).file volume stagedUpdateFile =
          w.file volume stagedUpdateFile) ∧
      ((openBootVolume io handles w).1 = some volume →
        DeletesOpen io (openBootVolume io handles w).2 volume stagedUpdateFile →
        (deleteStagedFiles io handles w).file volume stagedUpdateFile = none) := by
  have hvolumes := openBootVolume_volumes io handles w
  unfold deleteStagedFiles
  cases hopen : openBootVolume io handles w with
  | mk opened w0 =>
  rw [hopen] at hvolumes
  have hfile := file_congr hvolumes
  cases opened with
  | none => exact ⟨Or.inr (hfile ..), nofun⟩
  | some opened =>
  have hsig : ¬(volume = opened ∧ stagedUpdateFile = stagedSigFile) :=
    fun hsame => stagedSigFile_ne hsame.2.symm
  have hboth := (delete_file io (deleteFileIfPresent io w0 opened stagedUpdateFile) opened
    stagedSigFile).other hsig
  simp only
  rw [hboth]
  constructor
  · by_cases hvolume : volume = opened
    · subst hvolume
      rw [← hfile]
      exact delete_file_cases ..
    · rw [(delete_file io w0 opened stagedUpdateFile).other fun hsame => hvolume hsame.1, hfile]
      exact Or.inr rfl
  · intro hopened hopens
    obtain rfl := Option.some.inj hopened
    exact hopens.gone

/-- **A cleanup** that meets its condition keeps the property. -/
theorem cleanup_holds (h : StagingHolds s)
    (hkept : ∀ data, getMarker getVariable s.marker = some data →
      CleanupKept s io handles setVariable data) :
    StagingHolds (s.cleanup io handles getVariable setVariable) := by
  unfold StagingState.cleanup blStagedMarkerCleanup
  cases hmarker : getMarker getVariable s.marker with
  | none => exact h
  | some data =>
  -- the cleanup runs only where the variable is set
  have hset : s.marker.isSome = true := by
    unfold getMarker at hmarker
    split at hmarker
    · cases hmarker
    · rw [hmarker]
      rfl
  obtain ⟨hpaired, happlied, hnot⟩ := hkept data hmarker
  simp only
  cases hjudged : stagedApplied s.live data with
  | true =>
    simp only [if_true]
    refine ⟨deleteStagedFiles_paired h.paired (hpaired hjudged),
      fun volume update hstaged hthere => ?_⟩
    obtain ⟨hback, hgone⟩ := deleteStagedFiles_update io handles s.world volume
    simp only at hstaged hthere ⊢
    unfold setMarker
    cases hclear : setVariable.isError with
    | true => exact Or.inl hset
    | false =>
      cases update with
      | notApplied => exact Or.inr rfl
      | unjudged =>
        -- the variable is cleared: the update was on the volume that was opened
        rcases hback with hnone | hsame
        · rw [hnone] at hthere
          cases hthere
        · obtain ⟨hopened, hopens⟩ :=
            happlied hjudged hclear volume ⟨hstaged, by rw [← hsame]; exact hthere⟩
          rw [hgone hopened hopens] at hthere
          cases hthere
  -- judged not applied: the files stay on purpose, and the judgement is recorded
  | false =>
    simp only [Bool.false_eq_true, if_false]
    refine ⟨h.paired, fun volume update hstaged hthere => ?_⟩
    simp only [judgeNotApplied] at hstaged hthere ⊢
    unfold setMarker
    cases hclear : setVariable.isError with
    | true => exact Or.inl hset
    | false =>
      refine Or.inr ?_
      split at hstaged
      · obtain ⟨_, -, rfl⟩ := Option.map_eq_some_iff.mp hstaged
        rfl
      · next htracked =>
        cases update with
        | notApplied => rfl
        | unjudged => exact absurd (hnot hjudged hclear volume ⟨hstaged, hthere⟩) htracked

/-- **The step lemma.** -/
theorem stagingStep_holds {e : StagingEvent} (h : StagingHolds s) (hkept : StagingKept s e)
    (hstep : StagingStep s e s') : StagingHolds s' := by
  cases hstep with
  | boot hfiles =>
    exact ⟨fun volume =>
        (h.paired volume).congr (hfiles _ _ (Or.inl rfl)) (hfiles _ _ (Or.inr rfl)),
      fun volume update hstaged hthere => h.tracked volume update hstaged (by
        rw [← hfiles _ _ (Or.inl rfl)]
        exact hthere)⟩
  | stage => exact stage_holds h hkept
  | cleanup => exact cleanup_holds h hkept

/-- **No staged update is left behind.** In every run whose steps meet the condition, the boot
volumes hold an update only together with its own signature, and an update that was staged is still
there only while it is recorded or after it was judged not applied. -/
theorem staging_holds {es : List StagingEvent} (hstart : StagingStart s)
    (hrun : RunWith StagingStep StagingKept s es s') : StagingHolds s' := by
  have h0 : StagingHolds s := ⟨hstart.paired, fun volume update hstaged => by
    rw [hstart.unstaged] at hstaged
    cases hstaged⟩
  exact hrun.inv (fun _ _ _ hm hok hstep => stagingStep_holds hm hok hstep) h0

end

/-! ## Calls that work -/

/-- Calls that succeed and move as much as they are asked to. -/
def steadyIo : IoOracle := fun _ => ⟨.success, eepromImageSize2712⟩

section
variable {w : FsWorld} {volume : Nat} {name : String} {data image sig : List UInt8}

/-- No file of the volume is refused for writing. -/
def Writable (w : FsWorld) (volume : Nat) : Prop :=
  ∀ name, (w.volumes volume).writeProtected name = false

theorem Writable.setFile (h : Writable w volume) (content : Option (List UInt8)) :
    Writable (w.setFile volume name content) volume := by
  intro name'
  rw [(setFile_volume content volume).2]
  exact h name'

theorem open_steady (h : Writable w volume) (hthere : (w.file volume name).isSome = true) :
    (fsOpen steadyIo w volume name .readWrite).1.isError = false := by
  obtain ⟨content, hfile⟩ := Option.isSome_iff_exists.mp hthere
  unfold fsOpen
  simp only [ioCall_file, hfile, h name, Bool.and_false]
  rfl

theorem create_steady (h : Writable w volume) (name : String) :
    (fsOpen steadyIo w volume name .readWriteCreate).1.isError = false ∧
      Writable (fsOpen steadyIo w volume name .readWriteCreate).2 volume := by
  unfold fsOpen
  simp only [ioCall_file, h name, Bool.and_false]
  cases w.file volume name with
  | none => exact ⟨rfl, Writable.setFile (w := (ioCall steadyIo w).2) h _⟩
  | some content => exact ⟨rfl, h⟩

theorem delete_steady (h : Writable w volume) (name : String) :
    (deleteFileIfPresent steadyIo w volume name).file volume name = none ∧
      Writable (deleteFileIfPresent steadyIo w volume name) volume := by
  refine ⟨DeletesOpen.gone (open_steady h), ?_⟩
  have hopen : (fsOpen steadyIo w volume name .readWrite).2.volumes = w.volumes :=
    fsOpen_volumes rfl
  have hwritable : Writable (fsOpen steadyIo w volume name .readWrite).2 volume := by
    unfold Writable
    rw [hopen]
    exact h
  unfold deleteFileIfPresent
  simp only
  split
  · exact hwritable
  · exact hwritable.setFile none

theorem writeFlush_steady (h : Writable w volume) (name : String)
    (hlength : data.length ≤ eepromImageSize2712) :
    (writeFlush steadyIo w volume name data).1.isError = false ∧
      Writable (writeFlush steadyIo w volume name data).2 volume := by
  have hstatus : (fsWrite steadyIo w (.opened volume name) data).1.isError = false := rfl
  have hall : (fsWrite steadyIo w (.opened volume name) data).2.1 = data.length :=
    Nat.min_eq_right hlength
  unfold writeFlush
  simp only [hstatus, hall, Bool.false_eq_true, if_false, ne_eq, not_true_eq_false]
  exact ⟨rfl, Writable.setFile (w := (ioCall steadyIo w).2) h _⟩

theorem replace_steady (h : Writable w volume) (name : String)
    (hlength : data.length ≤ eepromImageSize2712) :
    (replaceFileContent steadyIo w volume name data).1.isError = false ∧
      Writable (replaceFileContent steadyIo w volume name data).2 volume ∧
      UndoOpens steadyIo w volume name data ∧ NoTail steadyIo w volume name data := by
  obtain ⟨hgone, hdeleted⟩ := delete_steady h name
  obtain ⟨hopened, hcreated⟩ := create_steady hdeleted name
  obtain ⟨hwritten, hwritable⟩ := writeFlush_steady hcreated name hlength
  refine ⟨?_, ?_, fun _ herror => ?_, ?_⟩
  · unfold replaceFileContent
    simp only [hopened, hwritten, Bool.false_eq_true, if_false]
  · unfold replaceFileContent
    simp only [hopened, hwritten, Bool.false_eq_true, if_false]
    exact hwritable
  · rw [hwritten] at herror
    cases herror
  · unfold NoTail
    rw [hgone]
    exact Nat.zero_le _

/-- **Staging works** when every call does. -/
theorem stageFiles_steady (h : Writable w volume) (himage : image.length ≤ eepromImageSize2712)
    (hsig : sig.length ≤ eepromImageSize2712) :
    (stageFiles steadyIo w volume image sig).1.isError = false ∧
      Writable (stageFiles steadyIo w volume image sig).2 volume ∧
      StageFilesClean steadyIo w volume image sig := by
  obtain ⟨hstaged, hwritable, hundo, htail⟩ :=
    replace_steady h stagedUpdateFile himage
  obtain ⟨hsigned, hwritable', -, htail'⟩ :=
    replace_steady hwritable stagedSigFile hsig
  refine ⟨?_, ?_, hundo, fun _ => htail, fun _ herror => ?_, fun _ _ => htail'⟩
  · unfold stageFiles
    simp only [hstaged, hsigned, Bool.false_eq_true, if_false]
  · unfold stageFiles
    simp only [hstaged, hsigned, Bool.false_eq_true, if_false]
    exact hwritable'
  · rw [hsigned] at herror
    cases herror

theorem openBootVolume_steady (handles : List Nat) {content : List UInt8}
    (h : w.file volume "armstub8-2712.bin" = some content) :
    openBootVolume steadyIo (volume :: handles) w =
      (some volume, { w with calls := w.calls + 3 }) := by
  have hscore : bootVolumeScore steadyIo volume { w with calls := w.calls + 2 } =
      (2, { w with calls := w.calls + 3 }) := by
    have hfile : FsWorld.file { w with calls := w.calls + 3 } volume "armstub8-2712.bin" =
        some content := h
    have hopen : fsOpen steadyIo { w with calls := w.calls + 2 } volume "armstub8-2712.bin" .read =
        (.success, { w with calls := w.calls + 3 }) := by
      unfold fsOpen ioCall
      simp only [hfile]
      rfl
    unfold bootVolumeScore
    rw [hopen]
    rfl
  unfold openBootVolume openBootVolumeFrom ioCall
  simp only [hscore]
  rfl

/-- **A staging attempt where every call works** stages what was prepared, records it and resets. -/
theorem stage_steady {s : StagingState} {inputs : StageInputs} {handles : List Nat}
    {update : PreparedUpdate} (hprepare : prepareUpdate s.live inputs = .ok update)
    (hopen : openBootVolume steadyIo handles s.world = (some volume, w))
    (hwritable : Writable w volume) :
    StageKept s inputs steadyIo handles .success ∧ ∃ world : FsWorld,
      Writable world volume ∧ world.file volume stagedUpdateFile = some update.image ∧
        (∀ name, name ≠ stagedUpdateFile → name ≠ stagedSigFile →
          world.file volume name = s.world.file volume name) ∧
        s.stage inputs steadyIo handles .success =
          { s with
            world
            marker := some (blValuesToData update.values)
            staged := Function.update s.staged volume (some .unjudged)
            tracked := some volume } := by
  obtain ⟨-, -, himage, hsig⟩ := prepareUpdate_ok hprepare
  have himageSize : update.image.length ≤ eepromImageSize2712 := by
    rw [himage, Mem.length_slice]
  have hsigSize : update.sig.length ≤ eepromImageSize2712 := by
    have hlt := length_updateSig_lt update.image inputs.timestamp
    have hsize : 128 ≤ eepromImageSize2712 := by decide
    rw [hsig]
    omega
  obtain ⟨hok, hwritable', hclean⟩ := stageFiles_steady hwritable himageSize hsigSize
  have hvolumes : w.volumes = s.world.volumes := by
    have hsame := openBootVolume_volumes steadyIo handles s.world
    rw [hopen] at hsame
    exact hsame
  refine ⟨fun update' volume' w' hprepare' hopen' => ?_, _, hwritable', ?_,
    fun name hupd hsig => ?_, ?_⟩
  · rw [hprepare] at hprepare'
    rw [hopen] at hopen'
    obtain rfl := Except.ok.inj hprepare'
    obtain ⟨hvolume, rfl⟩ := Prod.mk.inj hopen'
    obtain rfl := Option.some.inj hvolume
    exact ⟨hclean, Or.inl rfl⟩
  · rcases stageFiles_file hclean with ⟨-, hupd, -⟩ | ⟨hfailed, -⟩
    · exact hupd
    · rw [hok] at hfailed
      cases hfailed
  · exact (stageFiles_other fun hsame => hsame.2.elim hupd hsig).trans (file_congr hvolumes ..)
  · unfold StagingState.stage stageUpdate
    simp only [hprepare, hopen, hok, Bool.false_eq_true, if_false]
    rfl

end

/-! ## A run -/

/-- One volume with the firmware on it, and no update yet. -/
def armstubVolume : FsVolume :=
  ⟨none, fun name => if name = "armstub8-2712.bin" then some [] else none, fun _ => false⟩

def armstubStart : StagingState where
  live := ⟨true, some []⟩
  world := ⟨fun _ => armstubVolume, 0⟩
  marker := none
  staged := fun _ => none
  tracked := none

theorem armstubStart_start : StagingStart armstubStart :=
  ⟨fun _ => .of_none rfl, fun _ => rfl⟩

/-- The form asks for `BOOT_UART=1`. -/
def uartInputs : StageInputs where
  browserData := some (blValuesToData uartValues)
  locate := (.success, ⟨0, 0, 0, 0⟩)
  imagePoolFull := false
  readImage := (.success, ⟨(0, 0, 0), false, false⟩, twoConfigImage)
  timestamp := 7
  configPoolFull := false

theorem uartInputs_prepared : ∃ update, prepareUpdate armstubStart.live uartInputs = .ok update ∧
    update.values = uartValues := by
  have hvalues : blValuesFromData (blValuesToData uartValues) = some uartValues := by
    decide +kernel
  have hdiffer : blValuesEqual uartValues armstubStart.live.currentValues = false := by
    decide +kernel
  have hself : (blTextGetValue [] (ascii "ENABLE_SELF_UPDATE")).any valueIsZero = false := by
    decide +kernel
  have hpatched : (patchImage twoConfigImage eepromImageSize2712 uartValues 7
      false).status.isError = false := by
    decide +kernel
  unfold prepareUpdate uartInputs
  simp only [hvalues, hdiffer, Bool.false_eq_true, if_false]
  simp only [armstubStart, hself, hpatched, Bool.false_eq_true, if_false, Bool.not_true,
    EfiStatus.isError_success]
  exact ⟨_, rfl, by dsimp only⟩

/-- The second boot: the bootloader has applied the update. -/
def uartLive : BlLive := ⟨true, some (ascii "BOOT_UART=1\n")⟩

theorem uartLive_applied : stagedApplied uartLive (blValuesToData uartValues) = true := by
  decide +kernel

/-- The update is staged, and the machine boots again: the file is there and recorded. -/
theorem armstubStart_staged :
    ∃ s : StagingState, RunWith StagingStep StagingKept armstubStart
        [.stage uartInputs steadyIo [0] .success, .boot uartLive s.world.volumes] s ∧
      Writable s.world 0 ∧ (s.world.file 0 stagedUpdateFile).isSome = true ∧
      s.world.file 0 "armstub8-2712.bin" = some [] ∧ s.live = uartLive ∧
      s.marker = some (blValuesToData uartValues) ∧
      s.staged = Function.update (fun _ => none) 0 (some .unjudged) := by
  obtain ⟨update, hprepare, hvalues⟩ := uartInputs_prepared
  have harmstub : armstubStart.world.file 0 "armstub8-2712.bin" = some [] := rfl
  have hopen := openBootVolume_steady [] harmstub
  obtain ⟨hkept, world, hwritable, hupd, hother, hstaged⟩ :=
    stage_steady hprepare hopen fun _ => rfl
  have hstep : StagingStep armstubStart (.stage uartInputs steadyIo [0] .success)
      { armstubStart with
        world
        marker := some (blValuesToData update.values)
        staged := Function.update armstubStart.staged 0 (some .unjudged)
        tracked := some 0 } := by
    rw [← hstaged]
    exact .stage
  have hstage : RunWith StagingStep StagingKept armstubStart
      [.stage uartInputs steadyIo [0] .success] _ := .single hkept hstep
  have hrun : RunWith StagingStep StagingKept armstubStart
      [.stage uartInputs steadyIo [0] .success, .boot uartLive world.volumes] _ :=
    hstage.snoc trivial (.boot fun _ _ _ => rfl)
  refine ⟨{
      live := uartLive
      world
      marker := some (blValuesToData update.values)
      staged := Function.update armstubStart.staged 0 (some .unjudged)
      tracked := some 0 }, hrun, hwritable, ?_, ?_, rfl, ?_, rfl⟩
  · show (world.file 0 stagedUpdateFile).isSome = true
    rw [hupd]
    rfl
  · exact (hother _ (by decide) (by decide)).trans rfl
  · show some (blValuesToData update.values) = _
    rw [hvalues]

/-- The volume is in view, and the files of the applied update are deleted. -/
theorem armstubStart_settled :
    ∃ s : StagingState, RunWith StagingStep StagingKept armstubStart
        [.stage uartInputs steadyIo [0] .success, .boot uartLive s.world.volumes,
          .cleanup steadyIo [0] .success .success]
        (s.cleanup steadyIo [0] .success .success) ∧
      StagingHolds (s.cleanup steadyIo [0] .success .success) := by
  obtain ⟨s, hrun, hwritable, -, harmstub, hlive, hmarker, hstaged⟩ := armstubStart_staged
  have hopen := openBootVolume_steady [] harmstub
  have hdeletes : DeletesOpen steadyIo { s.world with calls := s.world.calls + 3 } 0
      stagedUpdateFile := open_steady hwritable
  have hkept : StagingKept s (.cleanup steadyIo [0] .success .success) := by
    intro data hdata
    have hdata' : data = blValuesToData uartValues := by
      rw [hmarker] at hdata
      exact (Option.some.inj hdata).symm
    have happlied : stagedApplied s.live data = true := by
      rw [hlive, hdata']
      exact uartLive_applied
    refine ⟨fun _ volume w hopened => ?_, fun _ _ volume houtstanding => ?_, fun hnot => ?_⟩
    · rw [hopen] at hopened
      obtain ⟨hvolume, rfl⟩ := Prod.mk.inj hopened
      obtain rfl := Option.some.inj hvolume
      exact Or.inl hdeletes
    · have hzero : volume = 0 := by
        have hthere := houtstanding.1
        rw [hstaged] at hthere
        by_contra hne
        rw [Function.update_of_ne hne] at hthere
        cases hthere
      subst hzero
      rw [hopen]
      exact ⟨rfl, hdeletes⟩
    · rw [happlied] at hnot
      cases hnot
  have hall := RunWith.snoc hrun hkept StagingStep.cleanup
  exact ⟨s, hall, staging_holds armstubStart_start hall⟩

/-- **An applied update is left behind.** When the cleanup does not see the boot volume, it clears
the variable all the same: the files stay, and nothing tracks them. -/
theorem armstubStart_untracked :
    ∃ s : StagingState, StagingStart armstubStart ∧
      Run StagingStep armstubStart
        [.stage uartInputs steadyIo [0] .success, .boot uartLive s.world.volumes,
          .cleanup steadyIo [] .success .success]
        (s.cleanup steadyIo [] .success .success) ∧
      ¬StagingHolds (s.cleanup steadyIo [] .success .success) := by
  obtain ⟨s, hrun, -, hthere, -, hlive, hmarker, hstaged⟩ := armstubStart_staged
  have happlied : stagedApplied s.live (blValuesToData uartValues) = true := by
    rw [hlive]
    exact uartLive_applied
  have hafter : s.cleanup steadyIo [] .success .success =
      { s with marker := none, tracked := none } := by
    unfold StagingState.cleanup blStagedMarkerCleanup deleteStagedFiles
    rw [hmarker]
    simp only [getMarker, EfiStatus.isError_success, Bool.false_eq_true, if_false, happlied,
      if_true]
    rfl
  refine ⟨s, armstubStart_start, hrun.run.snoc .cleanup, fun h => ?_⟩
  rw [hafter] at h
  have hleft : s.staged 0 = some .unjudged := by
    rw [hstaged]
    exact Function.update_self ..
  rcases h.tracked 0 .unjudged hleft hthere with hset | hjudged
  · cases hset
  · cases hjudged

end Rpi5Uefi
