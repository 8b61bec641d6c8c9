import Rpi5Uefi.Efi.Pages
import Rpi5Uefi.Efi.Status
import Rpi5Uefi.Fdt.Uki

/-!
# Handing an OS its device tree (`FdtDxe`)

At ReadyToBoot the driver installs the unkeyed tree it finds; when the kernel's image is loaded it
installs the one for that kernel. What the calls of a volume say is part of the event; the device
tree library is not under the patched driver's own code and is a parameter (`FdtLib`).

* **`tryLoadFdtFromVolume`**, **`loadFdtByPath`**, **`loadFdtForBoard`**: one file, one path on all
  volumes, all names of the board.
* **`loadFdtFromOsVolume`**, **`onImageLoaded`**: the two notifications.
* **`loadFdtForBoard_cases`**: a tree of the directory is installed where one is loadable, and
  nothing changes where none is.

What an attempt holds on the way, and the pages of a superseded tree, are in `OsTreePages`; what the
fixup writes into a tree is left out.
-/

namespace Rpi5Uefi

open Bytes

/-! ## Volumes -/

/-- What the calls of `TryLoadFdtFromVolume` say for one path on one volume; `contents` is the
buffer after `Read`, and `installTable` what `InstallConfigurationTable` says. -/
structure FdtCandidate where
  handleProtocol : EfiStatus
  openVolume : EfiStatus
  openFile : EfiStatus
  getInfoSize : EfiStatus
  allocatePool : Bool
  getInfo : EfiStatus
  fileSize : Nat
  allocatePages : EfiStatus
  read : EfiStatus
  contents : List UInt8
  installTable : EfiStatus
  deriving DecidableEq, Repr

/-- A volume, by the paths that are asked for. -/
abbrev FdtVolume := List UInt8 → FdtCandidate

/-- What `LocateHandleBuffer` says: the volumes, or an error. -/
abbrev FdtHandles := Except { status : EfiStatus // status.isError = true } (List FdtVolume)

/-- What the driver uses of libfdt: `FdtCheckHeader` is zero, `FdtTotalSize`, and `FdtOpenInto` is
zero for a buffer of a size. -/
structure FdtLib where
  checkHeader : List UInt8 → Bool
  totalSize : List UInt8 → Nat
  openInto : List UInt8 → Nat → Bool

/-! ## The driver -/

/-- Where the tree in the configuration table is from. -/
inductive InstalledFdt where
  | firmware
  | volume (path : List UInt8)
  | fixupCaller
  deriving DecidableEq, Repr

/-- `mOsFdtMatched`, and the configuration table. -/
structure FdtDriver where
  mOsFdtMatched : Bool
  installed : InstalledFdt
  deriving DecidableEq, Repr

def efiDtApplyFixups : UInt32 := 1
def efiDtReserveMemory : UInt32 := 2
def efiDtInstallTable : UInt32 := 4
def efiDtAll : UInt32 := efiDtApplyFixups ||| efiDtReserveMemory ||| efiDtInstallTable

def fdtFixupHeadroom : Nat := 0x1000

section
variable (lib : FdtLib)

/-- `Rpi5DtFixup`: its status, and whether the tree is installed. -/
def rpi5DtFixup (fdt : List UInt8) (bufferSize : Nat) (flags : UInt32) (installTable : EfiStatus) :
    EfiStatus × Bool :=
  if flags = 0 ∨ flags &&& ~~~efiDtAll ≠ 0 then (.invalidParameter, false)
  else if !lib.checkHeader fdt then (.invalidParameter, false)
  else if flags &&& efiDtApplyFixups ≠ 0 ∧ lib.totalSize fdt + fdtFixupHeadroom > bufferSize then
    (.bufferTooSmall, false)
  else if flags &&& efiDtApplyFixups ≠ 0 ∧ !lib.openInto fdt bufferSize then
    (.invalidParameter, false)
  else if flags &&& efiDtInstallTable ≠ 0 then
    if installTable.isError then (installTable, false) else (.success, true)
  else (.success, false)

/-- `TryLoadFdtFromVolume`. -/
def tryLoadFdtFromVolume (driver : FdtDriver) (volume : FdtVolume) (path : List UInt8) :
    EfiStatus × FdtDriver :=
  let file := volume path
  if file.handleProtocol.isError then (file.handleProtocol, driver)
  else if file.openVolume.isError then (file.openVolume, driver)
  else if file.openFile.isError then (file.openFile, driver)
  else if file.getInfoSize ≠ .bufferTooSmall then
    (if file.getInfoSize.isError then file.getInfoSize else .deviceError, driver)
  else if !file.allocatePool then (.outOfResources, driver)
  else if file.getInfo.isError then (file.getInfo, driver)
  else if file.fileSize < 8 ∨ file.fileSize > 0x2000000 then (.volumeCorrupted, driver)
  else
    let pages := efiSizeToPages (file.fileSize + fdtFixupHeadroom)
    if file.allocatePages.isError then (file.allocatePages, driver)
    else if file.read.isError then (file.read, driver)
    else
      let (status, installs) :=
        rpi5DtFixup lib file.contents (pages * efiPageSize) efiDtAll file.installTable
      (status, if installs then { driver with installed := .volume path } else driver)

/-- The loop of `LoadFdtByPath`. -/
def loadFdtFromFirst (driver : FdtDriver) (path : List UInt8) :
    List FdtVolume → EfiStatus × FdtDriver
  | [] => (.notFound, driver)
  | volume :: volumes =>
    let (status, driver) := tryLoadFdtFromVolume lib driver volume path
    if !status.isError then (.success, driver) else loadFdtFromFirst driver path volumes

/-- `LoadFdtByPath`. -/
def loadFdtByPath (driver : FdtDriver) (handles : FdtHandles)
    (path : List UInt8) : EfiStatus × FdtDriver :=
  match handles with
  | .error status => (status.val, driver)
  | .ok volumes => loadFdtFromFirst lib driver path volumes

/-- The loop of `LoadFdtForBoard`. -/
def loadFdtNames (driver : FdtDriver) (handles : FdtHandles)
    (uname : Option (List UInt8)) (status : EfiStatus) : List String → EfiStatus × FdtDriver
  | [] => (status, driver)
  | name :: names =>
    let (status, driver) := loadFdtByPath lib driver handles (fdtOsPath uname name)
    if !status.isError then (status, driver) else loadFdtNames driver handles uname status names

variable (board : FdtBoard)

/-- `LoadFdtForBoard`. -/
def loadFdtForBoard (driver : FdtDriver) (handles : FdtHandles)
    (uname : Option (List UInt8)) : EfiStatus × FdtDriver :=
  loadFdtNames lib driver handles uname .notFound (fdtOsNames board)

/-- `LoadFdtFromOsVolume`, at ReadyToBoot. -/
def loadFdtFromOsVolume (driver : FdtDriver) (handles : FdtHandles) :
    FdtDriver :=
  (loadFdtForBoard lib board driver handles none).2

/-- One round of `OnImageLoaded`, for one handle of its queue; `image` is `none` where the handle
has no loaded image protocol. -/
def onImageLoaded (driver : FdtDriver) (image : Option LoadedImage)
    (handles : FdtHandles) : FdtDriver :=
  if driver.mOsFdtMatched then driver
  else
    match image.bind ukiGetUname with
    | none => driver
    | some uname =>
      (loadFdtForBoard lib board { driver with mOsFdtMatched := true } handles (some uname)).2

end

/-! ## What loads -/

/-- A file that holds a tree which every call lets through. -/
structure FdtCandidate.Loadable (lib : FdtLib) (file : FdtCandidate) : Prop where
  handleProtocol : file.handleProtocol = .success
  openVolume : file.openVolume = .success
  openFile : file.openFile = .success
  getInfoSize : file.getInfoSize = .bufferTooSmall
  allocatePool : file.allocatePool = true
  getInfo : file.getInfo = .success
  fileSize : 8 ≤ file.fileSize ∧ file.fileSize ≤ 0x2000000
  allocatePages : file.allocatePages = .success
  read : file.read = .success
  header : lib.checkHeader file.contents = true
  fits : lib.totalSize file.contents + fdtFixupHeadroom ≤
    efiSizeToPages (file.fileSize + fdtFixupHeadroom) * efiPageSize
  opens : lib.openInto file.contents
    (efiSizeToPages (file.fileSize + fdtFixupHeadroom) * efiPageSize) = true
  installTable : file.installTable = .success

/-- A tree at `path` is loadable from one of the volumes. -/
def PathAvailable (lib : FdtLib) (handles : FdtHandles) (path : List UInt8) : Prop :=
  ∃ volumes, handles = .ok volumes ∧ ∃ volume ∈ volumes, (volume path).Loadable lib

/-- Some volume has a loadable tree of the board in the directory of a release, or in the unkeyed
one. -/
def TreeAvailable (lib : FdtLib) (board : FdtBoard) (handles : FdtHandles)
    (uname : Option (List UInt8)) : Prop :=
  ∃ leaf ∈ fdtOsNames board, PathAvailable lib handles (fdtOsPath uname leaf)

/-- The installed tree is one of the board in the directory of `uname`. -/
def InstalledFdt.FromDirectory (board : FdtBoard) (uname : Option (List UInt8))
    (installed : InstalledFdt) : Prop :=
  ∃ leaf ∈ fdtOsNames board, installed = .volume (fdtOsPath uname leaf)

variable {lib : FdtLib} {board : FdtBoard} {driver : FdtDriver} {volume : FdtVolume}
  {handles : FdtHandles} {uname : Option (List UInt8)} {path : List UInt8}

theorem rpi5DtFixup_all (lib : FdtLib) (fdt : List UInt8) (bufferSize : Nat)
    (installTable : EfiStatus) :
    (lib.checkHeader fdt = true ∧ lib.totalSize fdt + fdtFixupHeadroom ≤ bufferSize ∧
        lib.openInto fdt bufferSize = true ∧ installTable = .success ∧
        rpi5DtFixup lib fdt bufferSize efiDtAll installTable = (.success, true)) ∨
      ¬(lib.checkHeader fdt = true ∧ lib.totalSize fdt + fdtFixupHeadroom ≤ bufferSize ∧
        lib.openInto fdt bufferSize = true ∧ installTable = .success) ∧
      ∃ status, status.isError = true ∧
        rpi5DtFixup lib fdt bufferSize efiDtAll installTable = (status, false) := by
  have happly : efiDtAll &&& efiDtApplyFixups ≠ 0 := by decide
  have hinstall : efiDtAll &&& efiDtInstallTable ≠ 0 := by decide
  unfold rpi5DtFixup
  rw [if_neg (by decide)]
  by_cases hheader : lib.checkHeader fdt = true
  case neg =>
    rw [if_pos (by simpa using hheader)]
    exact Or.inr ⟨fun h => hheader h.1, .invalidParameter, rfl, rfl⟩
  rw [if_neg (by simpa using hheader)]
  by_cases hfits : lib.totalSize fdt + fdtFixupHeadroom ≤ bufferSize
  case neg =>
    rw [if_pos ⟨happly, Nat.lt_of_not_le hfits⟩]
    exact Or.inr ⟨fun h => hfits h.2.1, .bufferTooSmall, rfl, rfl⟩
  rw [if_neg fun h => absurd h.2 (Nat.not_lt.mpr hfits)]
  by_cases hopens : lib.openInto fdt bufferSize = true
  case neg =>
    rw [if_pos ⟨happly, by simpa using hopens⟩]
    exact Or.inr ⟨fun h => hopens h.2.2.1, .invalidParameter, rfl, rfl⟩
  rw [if_neg (by rw [hopens]; exact fun h => nomatch h.2), if_pos hinstall]
  by_cases htable : installTable = .success
  · subst htable
    exact Or.inl ⟨hheader, hfits, hopens, rfl, rfl⟩
  · have herror : installTable.isError = true := by simpa [EfiStatus.isError] using htable
    rw [if_pos herror]
    exact Or.inr ⟨fun h => htable h.2.2.2, installTable, herror, rfl⟩

/-- A call that fails ends the attempt, and a loadable file has none. -/
theorem stopped_of_isError {loadable loaded : Prop} {result : EfiStatus × FdtDriver}
    {status : EfiStatus} (herror : status.isError = true) (hneeds : loadable → status = .success)
    (hresult : result = (status, driver)) :
    loadable ∧ loaded ∨ ¬loadable ∧ ∃ status, status.isError = true ∧ result = (status, driver) :=
  Or.inr ⟨fun h => EfiStatus.ne_success_of_isError herror (hneeds h), status, herror, hresult⟩

/-- **One file is installed if it is loadable**, and nothing changes if it is not. -/
theorem tryLoadFdtFromVolume_cases (lib : FdtLib) (driver : FdtDriver) (volume : FdtVolume)
    (path : List UInt8) :
    ((volume path).Loadable lib ∧ tryLoadFdtFromVolume lib driver volume path =
        (.success, { driver with installed := .volume path })) ∨
      ¬(volume path).Loadable lib ∧ ∃ status, status.isError = true ∧
        tryLoadFdtFromVolume lib driver volume path = (status, driver) := by
  unfold tryLoadFdtFromVolume
  generalize volume path = file
  simp only
  -- the tests in the order of the source, each a field of `Loadable`
  by_cases hhandle : file.handleProtocol.isError = true
  · rw [if_pos hhandle]
    exact stopped_of_isError hhandle FdtCandidate.Loadable.handleProtocol rfl
  rw [if_neg hhandle]
  by_cases hvolume : file.openVolume.isError = true
  · rw [if_pos hvolume]
    exact stopped_of_isError hvolume FdtCandidate.Loadable.openVolume rfl
  rw [if_neg hvolume]
  by_cases hopen : file.openFile.isError = true
  · rw [if_pos hopen]
    exact stopped_of_isError hopen FdtCandidate.Loadable.openFile rfl
  rw [if_neg hopen]
  by_cases hsized : file.getInfoSize ≠ .bufferTooSmall
  · rw [if_pos hsized]
    refine Or.inr ⟨fun h => hsized h.getInfoSize, _, ?_, rfl⟩
    split
    · assumption
    · rfl
  rw [if_neg hsized]
  by_cases hpool : file.allocatePool = true
  case neg =>
    rw [if_pos (by simpa using hpool)]
    exact Or.inr ⟨fun h => hpool h.allocatePool, .outOfResources, rfl, rfl⟩
  rw [if_neg (by simpa using hpool)]
  by_cases hinfo : file.getInfo.isError = true
  · rw [if_pos hinfo]
    exact stopped_of_isError hinfo FdtCandidate.Loadable.getInfo rfl
  rw [if_neg hinfo]
  by_cases hsize : file.fileSize < 8 ∨ file.fileSize > 0x2000000
  · rw [if_pos hsize]
    refine Or.inr ⟨fun h => ?_, .volumeCorrupted, rfl, rfl⟩
    have hplausible := h.fileSize
    omega
  rw [if_neg hsize]
  by_cases hpages : file.allocatePages.isError = true
  · rw [if_pos hpages]
    exact stopped_of_isError hpages FdtCandidate.Loadable.allocatePages rfl
  rw [if_neg hpages]
  by_cases hread : file.read.isError = true
  · rw [if_pos hread]
    exact stopped_of_isError hread FdtCandidate.Loadable.read rfl
  rw [if_neg hread]
  rw [Bool.not_eq_true, EfiStatus.isError_eq_false] at hhandle hvolume hopen hinfo hpages hread
  rcases rpi5DtFixup_all lib file.contents
      (efiSizeToPages (file.fileSize + fdtFixupHeadroom) * efiPageSize) file.installTable with
    ⟨hheader, hfits, hopens, htable, hfixup⟩ | ⟨hnot, status, herror, hfixup⟩
  · rw [hfixup]
    exact Or.inl ⟨⟨hhandle, hvolume, hopen, not_not.mp hsized, hpool, hinfo, by omega, hpages,
      hread,
      hheader, hfits, hopens, htable⟩, rfl⟩
  · rw [hfixup]
    exact Or.inr ⟨fun h => hnot ⟨h.header, h.fits, h.opens, h.installTable⟩, status, herror, rfl⟩

theorem loadFdtFromFirst_cases (lib : FdtLib) (driver : FdtDriver) (path : List UInt8)
    (volumes : List FdtVolume) :
    ((∃ volume ∈ volumes, (volume path).Loadable lib) ∧
        loadFdtFromFirst lib driver path volumes =
          (.success, { driver with installed := .volume path })) ∨
      (¬∃ volume ∈ volumes, (volume path).Loadable lib) ∧ ∃ status, status.isError = true ∧
        loadFdtFromFirst lib driver path volumes = (status, driver) := by
  induction volumes with
  | nil => exact Or.inr ⟨by simp, .notFound, rfl, rfl⟩
  | cons volume volumes ih =>
    unfold loadFdtFromFirst
    -- the first volume with a loadable file ends the loop; one without leaves it to the next
    rcases tryLoadFdtFromVolume_cases lib driver volume path with
      ⟨hload, htry⟩ | ⟨hnot, status, herror, htry⟩
    · rw [htry]
      exact Or.inl ⟨⟨volume, List.mem_cons_self, hload⟩, rfl⟩
    · rw [htry]
      simp only
      rw [if_neg (by rw [herror]; decide)]
      have hiff : (∃ v ∈ volume :: volumes, (v path).Loadable lib) ↔
          ∃ v ∈ volumes, (v path).Loadable lib := by
        simp [hnot]
      rw [hiff]
      exact ih

theorem loadFdtByPath_cases (lib : FdtLib) (driver : FdtDriver) (handles : FdtHandles)
    (path : List UInt8) :
    (PathAvailable lib handles path ∧ loadFdtByPath lib driver handles path =
        (.success, { driver with installed := .volume path })) ∨
      ¬PathAvailable lib handles path ∧ ∃ status, status.isError = true ∧
        loadFdtByPath lib driver handles path = (status, driver) := by
  cases handles with
  | error status =>
    refine Or.inr ⟨?_, status.val, status.property, rfl⟩
    intro hpath
    obtain ⟨volumes, hvolumes, -⟩ := hpath
    cases hvolumes
  | ok volumes =>
    rcases loadFdtFromFirst_cases lib driver path volumes with ⟨hsome, hload⟩ | ⟨hnone, hload⟩
    · exact Or.inl ⟨⟨volumes, rfl, hsome⟩, hload⟩
    · refine Or.inr ⟨fun hpath => hnone ?_, hload⟩
      obtain ⟨volumes', hvolumes, hvolume⟩ := hpath
      cases hvolumes
      exact hvolume

theorem loadFdtNames_cases (lib : FdtLib) (driver : FdtDriver) (handles : FdtHandles)
    (uname : Option (List UInt8)) (names : List String) (status : EfiStatus) :
    ((∃ leaf ∈ names, PathAvailable lib handles (fdtOsPath uname leaf)) ∧
        ∃ leaf ∈ names, (loadFdtNames lib driver handles uname status names).2 =
          { driver with installed := .volume (fdtOsPath uname leaf) }) ∨
      (¬∃ leaf ∈ names, PathAvailable lib handles (fdtOsPath uname leaf)) ∧
        (loadFdtNames lib driver handles uname status names).2 = driver := by
  induction names generalizing status with
  | nil => exact Or.inr ⟨by simp, rfl⟩
  | cons name names ih =>
    unfold loadFdtNames
    rcases loadFdtByPath_cases lib driver handles (fdtOsPath uname name) with
      ⟨hload, hpath⟩ | ⟨hnot, error, herror, hpath⟩
    · rw [hpath]
      exact Or.inl ⟨⟨name, List.mem_cons_self, hload⟩, name, List.mem_cons_self, rfl⟩
    · rw [hpath]
      simp only
      rw [if_neg (by rw [herror]; decide)]
      -- no tree of this name, so the other names decide
      rcases ih error with ⟨⟨leaf, hleaf, hload⟩, leaf', hleaf', hinstalled⟩ | ⟨hnone, hsame⟩
      · exact Or.inl ⟨⟨leaf, List.mem_cons_of_mem _ hleaf, hload⟩, leaf',
          List.mem_cons_of_mem _ hleaf', hinstalled⟩
      · exact Or.inr ⟨by simpa [hnot] using hnone, hsame⟩

/-- **A tree of the directory is installed** where the volumes have one; otherwise the installed
tree stays. -/
theorem loadFdtForBoard_cases (lib : FdtLib) (board : FdtBoard) (driver : FdtDriver)
    (handles : FdtHandles) (uname : Option (List UInt8)) :
    (TreeAvailable lib board handles uname ∧
        ((loadFdtForBoard lib board driver handles uname).2.installed).FromDirectory board uname ∧
        (loadFdtForBoard lib board driver handles uname).2.mOsFdtMatched =
          driver.mOsFdtMatched) ∨
      ¬TreeAvailable lib board handles uname ∧
        (loadFdtForBoard lib board driver handles uname).2 = driver := by
  unfold loadFdtForBoard
  rcases loadFdtNames_cases lib driver handles uname (fdtOsNames board) .notFound with
    ⟨hload, leaf, hleaf, hinstalled⟩ | ⟨hnone, hsame⟩
  · rw [hinstalled]
    exact Or.inl ⟨hload, ⟨leaf, hleaf, rfl⟩, rfl⟩
  · exact Or.inr ⟨hnone, hsame⟩

/-- **A tree of one release's directory** is neither an unkeyed one nor of another release. -/
theorem FromDirectory_exclusive {installed : InstalledFdt} {release : List UInt8}
    (hrelease : Component fdtOsUnameMax release)
    (h : installed.FromDirectory board (some release)) :
    ¬installed.FromDirectory board none ∧
      ∀ release', Component fdtOsUnameMax release' →
        installed.FromDirectory board (some release') → release' = release := by
  obtain ⟨leaf, hleaf, rfl⟩ := h
  have hname := fdtOsNames_component hleaf
  constructor
  · intro hunkeyed
    obtain ⟨leaf', hleaf', hpath⟩ := hunkeyed
    exact fdtOsPath_ne hrelease hname (fdtOsNames_component hleaf') (InstalledFdt.volume.inj hpath)
  · intro release' hrelease' hkeyed
    obtain ⟨leaf', hleaf', hpath⟩ := hkeyed
    exact (fdtOsPath_injective hrelease hrelease' hname (fdtOsNames_component hleaf')
      (InstalledFdt.volume.inj hpath)).symm

end Rpi5Uefi
