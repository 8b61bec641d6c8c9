import Rpi5Uefi.Fdt.KernelTree
import Rpi5Uefi.Fdt.ReservedRuns

/-!
# The pages of an OS device tree (`TryLoadFdtFromVolume`)

`OsTree` says which tree an attempt installs; here is what the attempt holds on the way: two file
handles, the file's information in a pool buffer, and the pages the tree is read into. All exits but
two go through one label, which releases what the locals still name. The pages of a tree change
hands last, from the locals to `mOsFdtBuffer` and `mOsFdtPages`; what the fixup reserves for the
tree stays allocated whatever becomes of the tree.

* **`OsFdt.tryLoadFdtFromVolume`**: the attempt with its acquisitions, releases and installation.
* **`OsFdt.tryLoadFdtFromVolume_refines`**: its status and what it installs are those of `OsTree`.
* **`OsFdt.attempts_accounted`**: over any attempts, what is held, and when that is the installed
  tree alone.
-/

namespace Rpi5Uefi

open Transition

/-! ## Attempts -/

/-- What the calls of one attempt say, and what they hand out: `root` and `file` are the handles of
`OpenVolume` and `Open`, `info` and `buffer` the addresses of the two allocations, and `bytesRead`
the size that `Read` stores; `memory` is the free pages the fixup finds, and `reservations` what
libfdt says of the tree it reserves memory for. -/
structure FdtAttempt extends FdtCandidate where
  root : Nat
  file : Nat
  info : Nat
  buffer : Nat
  bytesRead : Nat
  memory : MemoryMap
  reservations : FdtReservations

/-- The pages asked for. -/
def FdtAttempt.pages (a : FdtAttempt) : Nat := efiSizeToPages (a.fileSize + fdtFixupHeadroom)

theorem FdtAttempt.pages_ne_zero (a : FdtAttempt) : a.pages ≠ 0 := by
  unfold pages efiSizeToPages efiPageSize fdtFixupHeadroom
  omega

/-- What the fixup takes of the memory map. -/
def FdtAttempt.runs (a : FdtAttempt) : List FdtResource :=
  reservedRuns a.memory a.reservations.handled

/-! ## The driver -/

/-- `mOsFdtBuffer` and `mOsFdtPages`, with a record of what was acquired, released and put into the
configuration table, of the attempts whose tree was installed, and of what was reserved. -/
structure OsFdt where
  mOsFdtBuffer : Nat
  mOsFdtPages : Nat
  actions : List (Ledger.Action FdtResource)
  installs : List FdtAttempt
  reserved : List FdtResource

namespace OsFdt

/-- The driver's data as it is loaded. -/
def start : OsFdt := ⟨0, 0, [], [], []⟩

def record (s : OsFdt) (actions : List (Ledger.Action FdtResource)) : OsFdt :=
  { s with actions := s.actions ++ actions }

/-- `ReserveFdtMemory`, by the runs it takes. -/
def reserve (s : OsFdt) (runs : List FdtResource) : OsFdt :=
  { s.record (runs.map .acquire) with reserved := s.reserved ++ runs }

/-- The locals that `Done` looks at; `none` and zero are `NULL`. -/
structure Locals where
  root : Option Nat
  file : Option Nat
  info : Option Nat
  buffer : Nat
  pages : Nat

/-- The label `Done`. -/
def done (s : OsFdt) (l : Locals) : OsFdt :=
  let s := match l.info with
    | some info => s.record [.release (.pool info)]
    | none => s
  let s := if l.pages ≠ 0 ∧ l.buffer ≠ 0 then s.record [.release (.pages l.buffer l.pages)] else s
  let s := match l.file with
    | some file => s.record [.release (.handle file)]
    | none => s
  match l.root with
  | some root => s.record [.release (.handle root)]
  | none => s

section
variable (lib : FdtLib)

/-- `Rpi5DtFixup` with `EFI_DT_ALL`: a `NULL` tree is refused, memory is reserved before the tree is
put into the configuration table, and stays reserved where that fails. -/
def fixup (s : OsFdt) (a : FdtAttempt) (l : Locals) : EfiStatus × OsFdt :=
  if l.buffer = 0 then (.invalidParameter, s)
  else if !lib.checkHeader a.contents then (.invalidParameter, s)
  else if lib.totalSize a.contents + fdtFixupHeadroom > l.pages * efiPageSize then
    (.bufferTooSmall, s)
  else if !lib.openInto a.contents (l.pages * efiPageSize) then (.invalidParameter, s)
  else
    let s := s.reserve a.runs
    if a.installTable.isError then (a.installTable, s)
    else
      (.success,
        { s.record [.publish (.pages l.buffer l.pages)] with installs := s.installs ++ [a] })

/-- `TryLoadFdtFromVolume` from the allocated buffer to the label: `Read`, the fixup, and the pages
changing hands. -/
def readAndInstall (s : OsFdt) (a : FdtAttempt) (l : Locals) : EfiStatus × Locals × OsFdt :=
  if a.read.isError then (a.read, l, s)
  else
    let (status, s) := fixup lib s a l
    if status.isError then (status, l, s)
    else
      let s :=
        if s.mOsFdtPages ≠ 0 then s.record [.release (.pages s.mOsFdtBuffer s.mOsFdtPages)] else s
      (status, { l with pages := 0 }, { s with mOsFdtBuffer := l.buffer, mOsFdtPages := l.pages })

/-- `TryLoadFdtFromVolume` from the open volume to the label. -/
def openAndRead (s : OsFdt) (a : FdtAttempt) (l : Locals) : EfiStatus × Locals × OsFdt :=
  if a.openFile.isError then (a.openFile, l, s)
  else
    let s := s.record [.acquire (.handle a.file)]
    let l := { l with file := some a.file }
    if a.getInfoSize ≠ .bufferTooSmall then
      (if a.getInfoSize.isError then a.getInfoSize else .deviceError, l, s)
    else if !a.allocatePool then (.outOfResources, l, s)
    else
      let s := s.record [.acquire (.pool a.info)]
      let l := { l with info := some a.info }
      if a.getInfo.isError then (a.getInfo, l, s)
      else if a.fileSize < 8 ∨ a.fileSize > 0x2000000 then (.volumeCorrupted, l, s)
      else
        let l := { l with pages := a.pages }
        -- a failed allocation leaves the number of pages without a buffer
        if a.allocatePages.isError then (a.allocatePages, l, s)
        else
          let s := s.record [.acquire (.pages a.buffer a.pages)]
          readAndInstall lib s a { l with buffer := a.buffer }

/-- `TryLoadFdtFromVolume`. -/
def tryLoadFdtFromVolume (s : OsFdt) (a : FdtAttempt) : EfiStatus × OsFdt :=
  if a.handleProtocol.isError then (a.handleProtocol, s)
  else if a.openVolume.isError then (a.openVolume, s)
  else
    let s := s.record [.acquire (.handle a.root)]
    let (status, l, s) := openAndRead lib s a ⟨some a.root, none, none, 0, 0⟩
    (status, done s l)

end

/-! ## What is held -/

/-- The pages of the installed tree. -/
def installedRun (s : OsFdt) : Option FdtResource :=
  if s.mOsFdtPages ≠ 0 then some (.pages s.mOsFdtBuffer s.mOsFdtPages) else none

/-- The record replayed from before the driver was loaded. -/
def ledger (s : OsFdt) : Option (Ledger.State FdtResource) :=
  Ledger.replay FdtResource.Apart ⟨[], none⟩ s.actions

def held (s : OsFdt) : List FdtResource :=
  match s.ledger with
  | some ledger => ledger.held
  | none => []

/-- What the locals name, in the order in which `Done` releases it. -/
def Locals.held (l : Locals) : List FdtResource :=
  (l.info.map .pool).toList ++
    ((if l.pages ≠ 0 ∧ l.buffer ≠ 0 then [.pages l.buffer l.pages] else []) ++
      ((l.file.map .handle).toList ++ (l.root.map .handle).toList))

end OsFdt

/-- A file that every call lets through, whatever the size in its tree's header. -/
structure FdtCandidate.LetThrough (lib : FdtLib) (file : FdtCandidate) : Prop where
  handleProtocol : file.handleProtocol = .success
  openVolume : file.openVolume = .success
  openFile : file.openFile = .success
  getInfoSize : file.getInfoSize = .bufferTooSmall
  allocatePool : file.allocatePool = true
  getInfo : file.getInfo = .success
  fileSize : 8 ≤ file.fileSize ∧ file.fileSize ≤ 0x2000000
  allocatePages : file.allocatePages = .success
  read : file.read = .success
  header : lib.checkHeader file.contents = true
  opens : lib.openInto file.contents
    (efiSizeToPages (file.fileSize + fdtFixupHeadroom) * efiPageSize) = true

/-- The size in the header is at most that of the whole pages of the file. -/
def FdtCandidate.Fits (lib : FdtLib) (file : FdtCandidate) : Prop :=
  lib.totalSize file.contents ≤ efiSizeToPages file.fileSize * efiPageSize

/-- A file for whose tree memory is reserved. -/
def FdtCandidate.Reaches (lib : FdtLib) (file : FdtCandidate) : Prop :=
  file.LetThrough lib ∧ file.Fits lib

/-- The room for the fixups is a page of its own. -/
theorem FdtCandidate.fits_iff {lib : FdtLib} {file : FdtCandidate} :
    file.Fits lib ↔ lib.totalSize file.contents + fdtFixupHeadroom ≤
      efiSizeToPages (file.fileSize + fdtFixupHeadroom) * efiPageSize := by
  unfold FdtCandidate.Fits efiSizeToPages efiPageSize fdtFixupHeadroom
  omega

theorem FdtCandidate.loadable_iff {lib : FdtLib} {file : FdtCandidate} :
    file.Loadable lib ↔ file.Reaches lib ∧ file.installTable = .success := by
  constructor
  · exact fun h => ⟨⟨⟨h.handleProtocol, h.openVolume, h.openFile, h.getInfoSize, h.allocatePool,
      h.getInfo, h.fileSize, h.allocatePages, h.read, h.header, h.opens⟩, fits_iff.mpr h.fits⟩,
      h.installTable⟩
  · rintro ⟨⟨h, hfits⟩, htable⟩
    exact ⟨h.handleProtocol, h.openVolume, h.openFile, h.getInfoSize, h.allocatePool, h.getInfo,
      h.fileSize, h.allocatePages, h.read, h.header, fits_iff.mp hfits, h.opens, htable⟩

/-- What stays reserved after an attempt. -/
def FdtAttempt.Keeps (lib : FdtLib) (a : FdtAttempt) (kept : List FdtResource) : Prop :=
  a.toFdtCandidate.Reaches lib ∧ kept = a.runs ∨ ¬a.toFdtCandidate.Reaches lib ∧ kept = []

/-- What the firmware promises of the calls that succeed: a handle or an allocation is apart from
all that is held, free pages are too, and no run of pages is at address zero, which belongs to the
secure firmware. -/
structure FdtAttempt.Served (a : FdtAttempt) (held : List FdtResource) : Prop where
  root : a.openVolume = .success → ∀ q ∈ held, (FdtResource.handle a.root).Apart q
  file : a.openFile = .success → ∀ q ∈ .handle a.root :: held, (FdtResource.handle a.file).Apart q
  info : a.allocatePool = true → ∀ q ∈ held, (FdtResource.pool a.info).Apart q
  buffer : a.allocatePages = .success →
    a.buffer ≠ 0 ∧ ∀ q ∈ held, (FdtResource.pages a.buffer a.pages).Apart q
  memory : a.allocatePages = .success → FreeApart a.memory (.pages a.buffer a.pages :: held)

namespace OsFdt

variable {lib : FdtLib} {s : OsFdt} {a : FdtAttempt} {l : Locals}

@[simp] theorem record_record (s : OsFdt) (xs ys : List (Ledger.Action FdtResource)) :
    (s.record xs).record ys = s.record (xs ++ ys) := by
  simp [record]

@[simp] theorem record_nil (s : OsFdt) : s.record [] = s := by
  simp [record]

@[simp] theorem reserve_nil (s : OsFdt) : s.reserve [] = s := by
  simp [reserve]

theorem done_eq (s : OsFdt) (l : Locals) : s.done l = s.record (l.held.map .release) := by
  unfold done Locals.held
  by_cases hpages : l.pages ≠ 0 ∧ l.buffer ≠ 0
  · cases l.info <;> cases l.file <;> cases l.root <;> simp [hpages]
  · cases l.info <;> cases l.file <;> cases l.root <;> simp [hpages]

/-- What a tree's pages go through once they are read: they are put into the table, those of the
tree before are released, and they change hands. -/
def handOver (s : OsFdt) (a : FdtAttempt) : OsFdt where
  mOsFdtBuffer := a.buffer
  mOsFdtPages := a.pages
  actions := s.actions ++ (.publish (.pages a.buffer a.pages) :: s.installedRun.toList.map .release)
  installs := s.installs ++ [a]
  reserved := s.reserved

/-- The file is read, and the fixup accepts its tree. -/
structure Accepted (lib : FdtLib) (a : FdtAttempt) : Prop where
  read : a.read = .success
  header : lib.checkHeader a.contents = true
  fits : lib.totalSize a.contents + fdtFixupHeadroom ≤ a.pages * efiPageSize
  opens : lib.openInto a.contents (a.pages * efiPageSize) = true

theorem fixup_of_accepted (h : Accepted lib a) (s : OsFdt) (hbuffer : a.buffer ≠ 0)
    (hl : l.buffer = a.buffer ∧ l.pages = a.pages) :
    fixup lib s a l =
      if a.installTable.isError then (a.installTable, s.reserve a.runs)
      else (.success, { (s.reserve a.runs).record [.publish (.pages a.buffer a.pages)] with
        installs := s.installs ++ [a] }) := by
  unfold fixup
  rw [hl.1, hl.2, if_neg hbuffer, if_neg (by simp [h.header]), if_neg (Nat.not_lt.mpr h.fits),
    if_neg (by simp [h.opens])]
  rfl

theorem fixup_of_not_accepted (h : ¬Accepted lib a) (hread : a.read = .success) (s : OsFdt)
    (hbuffer : a.buffer ≠ 0) (hl : l.buffer = a.buffer ∧ l.pages = a.pages) :
    ∃ status, status.isError = true ∧ fixup lib s a l = (status, s) := by
  unfold fixup
  rw [hl.1, hl.2, if_neg hbuffer]
  by_cases hheader : lib.checkHeader a.contents = true
  case neg =>
    rw [if_pos (by simpa using hheader)]
    exact ⟨_, rfl, rfl⟩
  rw [if_neg (by simp [hheader])]
  by_cases hfits : lib.totalSize a.contents + fdtFixupHeadroom ≤ a.pages * efiPageSize
  case neg =>
    rw [if_pos (Nat.lt_of_not_le hfits)]
    exact ⟨_, rfl, rfl⟩
  rw [if_neg (Nat.not_lt.mpr hfits)]
  by_cases hopens : lib.openInto a.contents (a.pages * efiPageSize) = true
  · exact absurd ⟨hread, hheader, hfits, hopens⟩ h
  · rw [if_pos (by simpa using hopens)]
    exact ⟨_, rfl, rfl⟩

/-- An attempt that is past its allocations stops before memory is reserved, or behind that, or
hands its tree over. -/
theorem readAndInstall_cases (lib : FdtLib) (s : OsFdt) (hbuffer : a.buffer ≠ 0)
    (hl : l.buffer = a.buffer ∧ l.pages = a.pages) :
    (¬Accepted lib a ∧
        ∃ status, status.isError = true ∧ readAndInstall lib s a l = (status, l, s)) ∨
      Accepted lib a ∧
        (a.installTable.isError = true ∧
            readAndInstall lib s a l = (a.installTable, l, s.reserve a.runs) ∨
          readAndInstall lib s a l =
            (.success, { l with pages := 0 }, (s.reserve a.runs).handOver a)) := by
  unfold readAndInstall
  by_cases hread : a.read.isError = true
  · rw [if_pos hread]
    exact Or.inl ⟨fun h => EfiStatus.ne_success_of_isError hread h.read, _, hread, rfl⟩
  rw [if_neg hread]
  have hread := EfiStatus.isError_eq_false.mp (Bool.eq_false_iff.mpr hread)
  by_cases haccepted : Accepted lib a
  case neg =>
    obtain ⟨status, herror, hfixup⟩ := fixup_of_not_accepted haccepted hread s hbuffer hl
    rw [hfixup]
    exact Or.inl ⟨haccepted, status, herror, by simp [herror]⟩
  rw [fixup_of_accepted haccepted s hbuffer hl]
  refine Or.inr ⟨haccepted, ?_⟩
  by_cases htable : a.installTable.isError = true
  · exact Or.inl ⟨htable, by simp [htable]⟩
  · refine Or.inr ?_
    simp only [htable, EfiStatus.isError_success, Bool.false_eq_true, if_false, hl.1, hl.2]
    by_cases hpages : s.mOsFdtPages ≠ 0
    · simp [record, reserve, handOver, installedRun, hpages]
    · simp [record, reserve, handOver, installedRun, hpages]

/-- What an attempt acquires before memory is reserved, in order. -/
def acquired (a : FdtAttempt) : List FdtResource :=
  [.handle a.root, .handle a.file, .pool a.info, .pages a.buffer a.pages]

/-- An attempt that came to `Done` with an error: the locals name `front`, which it acquired, and
`kept` was reserved behind it. -/
structure FailedHolding (lib : FdtLib) (s : OsFdt) (a : FdtAttempt)
    (held front kept : List FdtResource) (result : EfiStatus × Locals × OsFdt) : Prop where
  error : result.1.isError = true
  keeps : a.Keeps lib kept
  fresh : Ledger.Fresh FdtResource.Apart held (front ++ kept)
  locals : result.2.1.held.Perm front
  state : result.2.2 = (s.record (front.map .acquire)).reserve kept

/-- Nothing is reserved by an attempt that stops at a call which has to succeed. -/
theorem FailedHolding.stopped {held front : List FdtResource} {status : EfiStatus}
    (herror : status.isError = true) (hnot : ¬a.LetThrough lib)
    (hfresh : Ledger.Fresh FdtResource.Apart held front) (hlocals : l.held.Perm front) :
    FailedHolding lib s a held front [] (status, l, s.record (front.map .acquire)) where
  error := herror
  keeps := Or.inr ⟨fun h => hnot h.1, rfl⟩
  fresh := by rwa [List.append_nil]
  locals := hlocals
  state := (reserve_nil _).symm

/-- What an attempt acquires before its buffer can be acquired in turn. -/
theorem fresh_info {held : List FdtResource} (hserved : a.Served held)
    (htwo : Ledger.Fresh FdtResource.Apart held [.handle a.root, .handle a.file])
    (hpool : a.allocatePool = true) :
    Ledger.Fresh FdtResource.Apart held [.handle a.root, .handle a.file, .pool a.info] := by
  -- a pool buffer is apart from the two handles whatever they are
  have hinfo : Ledger.Fresh FdtResource.Apart
      ([.handle a.file, .handle a.root] ++ held) [.pool a.info] := by
    refine ⟨fun q hq => ?_, trivial⟩
    rcases List.mem_append.mp hq with hq | hq
    · simp only [List.mem_cons, List.not_mem_nil, or_false] at hq
      rcases hq with rfl | rfl <;> exact ⟨by simp, trivial⟩
    · exact hserved.info hpool q hq
  exact Ledger.fresh_append.mpr ⟨htwo, hinfo⟩

/-- All that an attempt acquires can be acquired in turn. -/
theorem fresh_acquired {held : List FdtResource} (hserved : a.Served held)
    (hthree : Ledger.Fresh FdtResource.Apart held [.handle a.root, .handle a.file, .pool a.info])
    (hpages : a.allocatePages = .success) :
    Ledger.Fresh FdtResource.Apart held (acquired a ++ a.runs) := by
  have hothers : ∀ q ∈ [.pool a.info, .handle a.file, .handle a.root], ∀ address count,
      (FdtResource.pages address count).Apart q := by
    intro q hq address count
    simp only [List.mem_cons, List.not_mem_nil, or_false] at hq
    rcases hq with rfl | rfl | rfl <;> exact ⟨by simp, trivial⟩
  have hbuffer : Ledger.Fresh FdtResource.Apart
      ([.pool a.info, .handle a.file, .handle a.root] ++ held) [.pages a.buffer a.pages] := by
    refine ⟨fun q hq => ?_, trivial⟩
    rcases List.mem_append.mp hq with hq | hq
    · exact hothers q hq _ _
    · exact (hserved.buffer hpages).2 q hq
  have hacquired : Ledger.Fresh FdtResource.Apart held (acquired a) :=
    Ledger.fresh_append.mpr ⟨hthree, hbuffer⟩
  refine Ledger.fresh_append.mpr ⟨hacquired, fresh_reservedRuns ?_ _⟩
  -- no page of the buffer or of what was held before is free
  intro page count hcount hfree q hq
  have hmem : q ∈ .pages a.buffer a.pages ::
      ([.pool a.info, .handle a.file, .handle a.root] ++ held) := hq
  rcases List.mem_cons.mp hmem with rfl | hq
  · exact hserved.memory hpages page count hcount hfree _ List.mem_cons_self
  rcases List.mem_append.mp hq with hq | hq
  · exact hothers q hq _ _
  · exact hserved.memory hpages page count hcount hfree q (List.mem_cons_of_mem _ hq)

theorem openAndRead_cases (lib : FdtLib) (s : OsFdt) {held : List FdtResource}
    (hserved : a.Served held) (hhandle : a.handleProtocol = .success)
    (hvolume : a.openVolume = .success) :
    (∃ front kept, FailedHolding lib s a held front kept
        (openAndRead lib (s.record [.acquire (.handle a.root)]) a
          ⟨some a.root, none, none, 0, 0⟩)) ∨
      Ledger.Fresh FdtResource.Apart held (acquired a ++ a.runs) ∧
        openAndRead lib (s.record [.acquire (.handle a.root)]) a ⟨some a.root, none, none, 0, 0⟩ =
          (.success, ⟨some a.root, some a.file, some a.info, a.buffer, 0⟩,
            ((s.record ((acquired a).map .acquire)).reserve a.runs).handOver a) := by
  have hroot := hserved.root hvolume
  unfold openAndRead
  simp only [record_record, List.cons_append, List.nil_append]
  split
  · rename_i hopen
    exact Or.inl ⟨[.handle a.root], [], .stopped hopen
      (fun h => EfiStatus.ne_success_of_isError hopen h.openFile) ⟨hroot, trivial⟩
      (List.Perm.refl _)⟩
  rename_i hopen
  have hopen := EfiStatus.isError_eq_false.mp (Bool.eq_false_iff.mpr hopen)
  have htwo : Ledger.Fresh FdtResource.Apart held [.handle a.root, .handle a.file] :=
    ⟨hroot, hserved.file hopen, trivial⟩
  split
  · rename_i hsized
    refine Or.inl ⟨[.handle a.root, .handle a.file], [], .stopped ?_
      (fun h => hsized h.getInfoSize) htwo (List.reverse_perm [_, _])⟩
    split
    · assumption
    · rfl
  rename_i hsized
  split
  · rename_i hpool
    exact Or.inl ⟨[.handle a.root, .handle a.file], [], .stopped rfl
      (fun h => by simp [h.allocatePool] at hpool) htwo (List.reverse_perm [_, _])⟩
  rename_i hpool
  have hpool : a.allocatePool = true := by simpa using hpool
  have hthree := fresh_info hserved htwo hpool
  split
  · rename_i hgetInfo
    exact Or.inl ⟨_, [], .stopped hgetInfo
      (fun h => EfiStatus.ne_success_of_isError hgetInfo h.getInfo) hthree
      (List.reverse_perm [_, _, _])⟩
  rename_i hgetInfo
  split
  · rename_i hsize
    refine Or.inl ⟨_, [], .stopped rfl (fun h => ?_) hthree (List.reverse_perm [_, _, _])⟩
    have hplausible := h.fileSize
    omega
  rename_i hsize
  split
  · rename_i hpages
    refine Or.inl ⟨_, [], .stopped hpages
      (fun h => EfiStatus.ne_success_of_isError hpages h.allocatePages) hthree ?_⟩
    -- there is no buffer to release
    simpa [Locals.held] using
      List.reverse_perm [FdtResource.handle a.root, .handle a.file, .pool a.info]
  rename_i hpages
  have hpages := EfiStatus.isError_eq_false.mp (Bool.eq_false_iff.mpr hpages)
  have hbuffer := (hserved.buffer hpages).1
  have hfresh := fresh_acquired hserved hthree hpages
  -- the locals name all that was acquired so far
  have hlocals : Locals.held ⟨some a.root, some a.file, some a.info, a.buffer, a.pages⟩ |>.Perm
      (acquired a) := by
    have hne : a.pages ≠ 0 := a.pages_ne_zero
    simp only [Locals.held, hne, hbuffer, ne_eq, not_false_eq_true, and_self, if_true]
    exact (List.Perm.swap _ _ _).trans (List.reverse_perm (acquired a))
  rcases readAndInstall_cases lib (s.record ((acquired a).map .acquire)) hbuffer
      (l := ⟨some a.root, some a.file, some a.info, a.buffer, a.pages⟩) ⟨rfl, rfl⟩ with
    ⟨hnot, status, herror, hread⟩ | ⟨haccepted, ⟨herror, hread⟩ | hread⟩
  · refine Or.inl ⟨acquired a, [], ?_⟩
    show FailedHolding lib s a held (acquired a) []
      (readAndInstall lib (s.record ((acquired a).map .acquire)) a _)
    rw [hread]
    refine ⟨herror, Or.inr ⟨fun h => hnot ?_, rfl⟩, ?_, hlocals, (reserve_nil _).symm⟩
    · exact ⟨h.1.read, h.1.header, FdtCandidate.fits_iff.mp h.2, h.1.opens⟩
    · rw [List.append_nil]
      exact (Ledger.fresh_append.mp hfresh).1
  · refine Or.inl ⟨acquired a, a.runs, ?_⟩
    show FailedHolding lib s a held (acquired a) a.runs
      (readAndInstall lib (s.record ((acquired a).map .acquire)) a _)
    rw [hread]
    refine ⟨herror, Or.inl ⟨⟨⟨hhandle, hvolume, hopen, not_not.mp hsized, hpool, ?_, by omega,
      hpages, haccepted.read, haccepted.header, haccepted.opens⟩,
      FdtCandidate.fits_iff.mpr haccepted.fits⟩, rfl⟩, hfresh, hlocals, rfl⟩
    exact EfiStatus.isError_eq_false.mp (Bool.eq_false_iff.mpr hgetInfo)
  · exact Or.inr ⟨hfresh, hread⟩

/-- The state an installed tree leaves. -/
def installed (s : OsFdt) (a : FdtAttempt) : OsFdt :=
  (((s.record ((acquired a).map .acquire)).reserve a.runs).handOver a).record
    ([.pool a.info, .handle a.file, .handle a.root].map .release)

/-- **One attempt** fails, having released all it acquired but what was reserved, or installs its
tree. -/
theorem tryLoadFdtFromVolume_cases (lib : FdtLib) (s : OsFdt) {held : List FdtResource}
    (hserved : a.Served held) :
    (∃ (status : EfiStatus) (front back kept : List FdtResource), status.isError = true ∧
        a.Keeps lib kept ∧ Ledger.Fresh FdtResource.Apart held (front ++ kept) ∧
        back.Perm front ∧
        tryLoadFdtFromVolume lib s a =
          (status, ((s.record (front.map .acquire)).reserve kept).record (back.map .release))) ∨
      Ledger.Fresh FdtResource.Apart held (acquired a ++ a.runs) ∧
        tryLoadFdtFromVolume lib s a = (.success, s.installed a) := by
  unfold tryLoadFdtFromVolume
  by_cases hhandle : a.handleProtocol.isError = true
  · rw [if_pos hhandle]
    exact Or.inl ⟨_, [], [], [], hhandle,
      Or.inr ⟨fun h => EfiStatus.ne_success_of_isError hhandle h.1.handleProtocol, rfl⟩, trivial,
      List.Perm.nil, by simp⟩
  rw [if_neg hhandle]
  by_cases hvolume : a.openVolume.isError = true
  · rw [if_pos hvolume]
    exact Or.inl ⟨_, [], [], [], hvolume,
      Or.inr ⟨fun h => EfiStatus.ne_success_of_isError hvolume h.1.openVolume, rfl⟩, trivial,
      List.Perm.nil, by simp⟩
  rw [if_neg hvolume]
  have hhandle := EfiStatus.isError_eq_false.mp (Bool.eq_false_iff.mpr hhandle)
  have hvolume := EfiStatus.isError_eq_false.mp (Bool.eq_false_iff.mpr hvolume)
  rcases openAndRead_cases lib s hserved hhandle hvolume with
    ⟨front, kept, hfailed⟩ | ⟨hfresh, hread⟩
  · generalize hresult : openAndRead lib (s.record [.acquire (.handle a.root)]) a
      ⟨some a.root, none, none, 0, 0⟩ = result at hfailed
    refine Or.inl ⟨result.1, front, result.2.1.held, kept, hfailed.error, hfailed.keeps,
      hfailed.fresh, hfailed.locals, ?_⟩
    simp only [hresult, done_eq, hfailed.state]
  · refine Or.inr ⟨hfresh, ?_⟩
    simp only [hread, done_eq]
    rfl

/-! ## Refinement -/

theorem fixup_status (lib : FdtLib) (s : OsFdt) (a : FdtAttempt) (hbuffer : l.buffer ≠ 0) :
    (fixup lib s a l).1 =
      (rpi5DtFixup lib a.contents (l.pages * efiPageSize) efiDtAll a.installTable).1 := by
  have happly : efiDtAll &&& efiDtApplyFixups ≠ 0 := by decide
  have hinstall : efiDtAll &&& efiDtInstallTable ≠ 0 := by decide
  have hflags : ¬(efiDtAll = 0 ∨ efiDtAll &&& ~~~efiDtAll ≠ 0) := by decide
  unfold fixup rpi5DtFixup
  rw [if_neg hbuffer, if_neg hflags]
  simp only [ne_eq, happly, hinstall, not_false_eq_true, true_and, if_true]
  split_ifs <;> rfl

theorem readAndInstall_status (lib : FdtLib) (s : OsFdt) (hbuffer : l.buffer ≠ 0) :
    (readAndInstall lib s a l).1 =
      if a.read.isError then a.read
      else (rpi5DtFixup lib a.contents (l.pages * efiPageSize) efiDtAll a.installTable).1 := by
  rw [← fixup_status lib s a hbuffer]
  unfold readAndInstall
  by_cases hread : a.read.isError = true
  · rw [if_pos hread, if_pos hread]
  rw [if_neg hread, if_neg hread]
  simp only
  split <;> rfl

/-- **The attempt's status** is the one of `OsTree`. -/
theorem tryLoadFdtFromVolume_refines (lib : FdtLib) (s : OsFdt) (driver : FdtDriver)
    (volume : FdtVolume) (path : List UInt8) (hvolume : volume path = a.toFdtCandidate)
    (hbuffer : a.allocatePages = .success → a.buffer ≠ 0) :
    (tryLoadFdtFromVolume lib s a).1 =
      (Rpi5Uefi.tryLoadFdtFromVolume lib driver volume path).1 := by
  unfold tryLoadFdtFromVolume openAndRead Rpi5Uefi.tryLoadFdtFromVolume
  rw [hvolume]
  simp only
  -- the tests are the same, in the same order
  by_cases hhandle : a.handleProtocol.isError = true
  · rw [if_pos hhandle, if_pos hhandle]
  rw [if_neg hhandle, if_neg hhandle]
  by_cases hopen : a.openVolume.isError = true
  · rw [if_pos hopen, if_pos hopen]
  rw [if_neg hopen, if_neg hopen]
  by_cases hfile : a.openFile.isError = true
  · rw [if_pos hfile, if_pos hfile]
  rw [if_neg hfile, if_neg hfile]
  by_cases hsized : a.getInfoSize ≠ .bufferTooSmall
  · rw [if_pos hsized, if_pos hsized]
  rw [if_neg hsized, if_neg hsized]
  by_cases hpool : (!a.allocatePool) = true
  · rw [if_pos hpool, if_pos hpool]
  rw [if_neg hpool, if_neg hpool]
  by_cases hinfo : a.getInfo.isError = true
  · rw [if_pos hinfo, if_pos hinfo]
  rw [if_neg hinfo, if_neg hinfo]
  by_cases hsize : a.fileSize < 8 ∨ a.fileSize > 0x2000000
  · rw [if_pos hsize, if_pos hsize]
  rw [if_neg hsize, if_neg hsize]
  by_cases hpages : a.allocatePages.isError = true
  · rw [if_pos hpages, if_pos hpages]
  rw [if_neg hpages, if_neg hpages]
  have hne := hbuffer (EfiStatus.isError_eq_false.mp (Bool.eq_false_iff.mpr hpages))
  refine (readAndInstall_status lib _ hne).trans ?_
  by_cases hread : a.read.isError = true
  · rw [if_pos hread, if_pos hread]
  · rw [if_neg hread, if_neg hread]
    rfl

/-! ## Runs -/

/-- One call of `TryLoadFdtFromVolume`. -/
def attemptStep (lib : FdtLib) (s : OsFdt) (a : FdtAttempt) (s' : OsFdt) : Prop :=
  a.Served s.held ∧ s' = (tryLoadFdtFromVolume lib s a).2

/-- The installed tree's pages and what was reserved are held and nothing else is, and the table
refers to the installed tree. -/
def Accounted (s : OsFdt) : Prop :=
  ∃ held, s.ledger = some ⟨held, s.installedRun⟩ ∧
    held.Perm (s.installedRun.toList ++ s.reserved)

theorem installed_actions (s : OsFdt) (a : FdtAttempt) :
    (s.installed a).actions =
      s.actions ++ ((acquired a ++ a.runs).map .acquire ++ (.publish (.pages a.buffer a.pages) ::
        (s.installedRun.toList ++
          ([.pool a.info, .handle a.file, .handle a.root] : List FdtResource)).map .release)) := by
  simp only [installed, handOver, reserve, record, List.map_append, List.append_assoc,
    List.cons_append]
  rfl

theorem installed_installedRun (s : OsFdt) (a : FdtAttempt) :
    (s.installed a).installedRun = some (.pages a.buffer a.pages) :=
  if_pos a.pages_ne_zero

theorem ledger_of_actions (s' : OsFdt) {held : List FdtResource} {published : Option FdtResource}
    {actions : List (Ledger.Action FdtResource)} (h : s.ledger = some ⟨held, published⟩)
    (hactions : s'.actions = s.actions ++ actions) :
    s'.ledger = Ledger.replay FdtResource.Apart ⟨held, published⟩ actions := by
  unfold ledger
  rw [hactions]
  exact Ledger.replay_append h

/-- What a call that fails leaves: the driver's data and the table as they were. -/
structure Unchanged (s s' : OsFdt) : Prop where
  mOsFdtBuffer : s'.mOsFdtBuffer = s.mOsFdtBuffer
  mOsFdtPages : s'.mOsFdtPages = s.mOsFdtPages
  published : s'.ledger.map (·.published) = s.ledger.map (·.published)
  installs : s'.installs = s.installs

/-- What one call leaves behind: the account, and what it reserved. -/
structure Settled (lib : FdtLib) (s : OsFdt) (a : FdtAttempt) (s' : OsFdt) : Prop where
  accounted : s'.Accounted
  reserved : ∃ kept, a.Keeps lib kept ∧ s'.reserved = s.reserved ++ kept

/-- **One call** keeps the account; it fails and leaves the installed tree, or installs a loadable
file. -/
theorem attemptStep_cases (h : s.Accounted) {s' : OsFdt} (hstep : attemptStep lib s a s') :
    Settled lib s a s' ∧
      ((tryLoadFdtFromVolume lib s a).1.isError = true ∧ ¬a.toFdtCandidate.Loadable lib ∧
          Unchanged s s' ∨
        (tryLoadFdtFromVolume lib s a).1 = .success ∧ a.toFdtCandidate.Loadable lib ∧
          s'.installs = s.installs ++ [a]) := by
  obtain ⟨hserved, rfl⟩ := hstep
  obtain ⟨held, hledger, hheld⟩ := h
  have hrefines := tryLoadFdtFromVolume_refines lib s ⟨false, .firmware⟩
    (fun _ => a.toFdtCandidate) [] rfl fun hpages => (hserved.buffer hpages).1
  have hsheld : s.held = held := by
    unfold OsFdt.held
    rw [hledger]
  rw [hsheld] at hserved
  rcases tryLoadFdtFromVolume_cases lib s hserved with
    ⟨status, front, back, kept, herror, hkeeps, hfresh, hperm, htry⟩ | ⟨hfresh, htry⟩
  · rw [htry] at hrefines ⊢
    have hsound : Ledger.State.Sound ⟨held, s.installedRun⟩ := by
      intro r hr
      have hr : s.installedRun = some r := hr
      exact hheld.mem_iff.mpr (List.mem_append_left _ (by simp [hr]))
    obtain ⟨held', hreplay, hheld'⟩ := Ledger.replay_bracket_keeping FdtResource.not_apart_self
      hsound hfresh (hperm.symm.append_right kept)
    have hledger' := (ledger_of_actions (((s.record (front.map .acquire)).reserve kept).record
      (back.map .release)) hledger (by simp [record, reserve])).trans hreplay
    refine ⟨⟨⟨held', hledger', hheld'.trans ?_⟩, kept, hkeeps, rfl⟩,
      Or.inl ⟨herror, ?_, rfl, rfl, ?_, rfl⟩⟩
    · -- what was kept goes behind what was reserved before
      refine ((List.Perm.refl kept).append hheld).trans (List.perm_append_comm.trans ?_)
      exact List.Perm.of_eq (List.append_assoc _ _ _)
    · rcases Rpi5Uefi.tryLoadFdtFromVolume_cases lib ⟨false, .firmware⟩
        (fun _ => a.toFdtCandidate) [] with ⟨-, hload⟩ | ⟨hnot, -⟩
      · rw [hload] at hrefines
        exact absurd hrefines (EfiStatus.ne_success_of_isError herror)
      · exact hnot
    · rw [hledger', hledger]
      rfl
  · rw [htry] at hrefines ⊢
    have hload : a.toFdtCandidate.Loadable lib := by
      rcases Rpi5Uefi.tryLoadFdtFromVolume_cases lib ⟨false, .firmware⟩
        (fun _ => a.toFdtCandidate) [] with ⟨hload, -⟩ | ⟨-, status, herror, hload⟩
      · exact hload
      · rw [hload] at hrefines
        have hsuccess : status = .success := hrefines.symm
        exact absurd hsuccess (EfiStatus.ne_success_of_isError herror)
    have hsplit : (acquired a ++ a.runs).Perm (.pages a.buffer a.pages ::
        ([.pool a.info, .handle a.file, .handle a.root] ++ a.runs)) :=
      (List.reverse_perm (acquired a)).symm.append_right a.runs
    obtain ⟨held', hreplay, hheld'⟩ :=
      Ledger.replay_handOver (s := ⟨held, s.installedRun⟩) FdtResource.not_apart_self hheld hfresh
        hsplit
    refine ⟨⟨⟨held', ?_, hheld'.trans ?_⟩, a.runs, ?_, rfl⟩, Or.inr ⟨rfl, hload, rfl⟩⟩
    · rw [ledger_of_actions _ hledger (installed_actions s a), installed_installedRun]
      exact hreplay
    · rw [installed_installedRun]
      exact List.Perm.cons _ List.perm_append_comm
    · exact Or.inl ⟨(FdtCandidate.loadable_iff.mp hload).1, rfl⟩

theorem accounted_run {attempts : List FdtAttempt} (hrun : Run (attemptStep lib) start attempts s) :
    s.Accounted :=
  hrun.inv (fun _ _ _ h hstep => (attemptStep_cases h hstep).1.accounted)
    ⟨[], rfl, List.Perm.nil⟩

/-- What is reserved in a run is what its files whose trees reach `ReserveFdtMemory` take. -/
theorem mem_reserved_iff {attempts : List FdtAttempt}
    (hrun : Run (attemptStep lib) start attempts s) (r : FdtResource) :
    r ∈ s.reserved ↔ ∃ a ∈ attempts, a.toFdtCandidate.Reaches lib ∧ r ∈ a.runs := by
  induction hrun with
  | nil => simp [start]
  | @snoc _ _ _ a front hstep ih =>
    obtain ⟨kept, hkeeps, hreserved⟩ := (attemptStep_cases (accounted_run front) hstep).1.reserved
    have hkept : r ∈ kept ↔ a.toFdtCandidate.Reaches lib ∧ r ∈ a.runs := by
      rcases hkeeps with ⟨hreaches, rfl⟩ | ⟨hnot, rfl⟩
      · exact (and_iff_right hreaches).symm
      · exact iff_of_false List.not_mem_nil fun h => hnot h.1
    rw [hreserved, List.mem_append, ih, hkept]
    simp only [List.mem_append, List.mem_singleton, or_and_right, exists_or, exists_eq_left]

/-- The trees installed in a run are those of its loadable files. -/
theorem mem_installs_iff {attempts : List FdtAttempt}
    (hrun : Run (attemptStep lib) start attempts s) (b : FdtAttempt) :
    b ∈ s.installs ↔ b ∈ attempts ∧ b.toFdtCandidate.Loadable lib := by
  induction hrun with
  | nil => simp [start]
  | snoc front hstep ih =>
    rcases (attemptStep_cases (accounted_run front) hstep).2 with
      ⟨-, hnot, hsame⟩ | ⟨-, hload, hinstalls⟩
    · rw [hsame.installs, ih, List.mem_append, List.mem_singleton]
      constructor
      · exact fun hb => ⟨Or.inl hb.1, hb.2⟩
      · rintro ⟨hb | rfl, hload⟩
        · exact ⟨hb, hload⟩
        · exact absurd hload hnot
    · rw [hinstalls, List.mem_append, ih, List.mem_append, List.mem_singleton]
      constructor
      · rintro (hb | rfl)
        · exact ⟨Or.inl hb.1, hb.2⟩
        · exact ⟨Or.inr rfl, hload⟩
      · rintro ⟨hb | rfl, hb'⟩
        · exact Or.inl ⟨hb, hb'⟩
        · exact Or.inr rfl

/-! ## Trees that are cut short, and reservations -/

end OsFdt

/-- What `Read` delivered covers the size in the tree's header. -/
def FdtAttempt.Whole (lib : FdtLib) (a : FdtAttempt) : Prop :=
  lib.totalSize a.contents ≤ a.bytesRead

/-- The size in the header is over what `Read` delivered, and yet at most the whole pages of the
file. -/
def FdtAttempt.CutShort (lib : FdtLib) (a : FdtAttempt) : Prop :=
  a.bytesRead < lib.totalSize a.contents ∧ a.toFdtCandidate.Fits lib

namespace OsFdt

/-- What one wants of the attempts: the table's tree is held after every action; at the end the
installed tree's pages are what is held, and all else was released as often as acquired; a call that
fails leaves the installed tree; and what is installed is whole. -/
structure KeepsOneTree (lib : FdtLib) (s : OsFdt) : Prop where
  table : ∀ actions, actions <+: s.actions → ∃ ledger,
    Ledger.replay FdtResource.Apart ⟨[], none⟩ actions = some ledger ∧
      ∀ r, ledger.published = some r → r ∈ ledger.held
  held : s.ledger = some ⟨s.installedRun.toList, s.installedRun⟩
  released : ∀ r, s.actions.count (.acquire r) =
    s.actions.count (.release r) + s.installedRun.toList.count r
  failed : ∀ a s', attemptStep lib s a s' → (tryLoadFdtFromVolume lib s a).1.isError = true →
    Unchanged s s'
  whole : ∀ a ∈ s.installs, a.Whole lib

theorem installs_whole_iff {attempts : List FdtAttempt}
    (hrun : Run (attemptStep lib) start attempts s) :
    (∀ a ∈ s.installs, a.Whole lib) ↔ ∀ a ∈ attempts, a.toFdtCandidate.LetThrough lib →
      a.installTable = .success → ¬a.CutShort lib := by
  constructor
  · intro hwhole a ha hlet htable hcut
    have hload := FdtCandidate.loadable_iff.mpr ⟨⟨hlet, hcut.2⟩, htable⟩
    exact absurd hcut.1 (Nat.not_lt.mpr (hwhole a ((mem_installs_iff hrun a).mpr ⟨ha, hload⟩)))
  · intro hnot a ha
    obtain ⟨hmem, hload⟩ := (mem_installs_iff hrun a).mp ha
    obtain ⟨⟨hlet, hfits⟩, htable⟩ := FdtCandidate.loadable_iff.mp hload
    by_contra hcut
    exact hnot a hmem hlet htable ⟨Nat.lt_of_not_le hcut, hfits⟩

theorem reserved_eq_nil_iff {attempts : List FdtAttempt}
    (hrun : Run (attemptStep lib) start attempts s) :
    s.reserved = [] ↔ ∀ a ∈ attempts, a.toFdtCandidate.LetThrough lib → a.toFdtCandidate.Fits lib →
      ∀ region ∈ a.reservations.handled, ¬TakesPages a.memory region := by
  simp only [← reservedRuns_eq_nil, List.eq_nil_iff_forall_not_mem, mem_reserved_iff hrun]
  constructor
  · exact fun h a ha hlet hfits r hr => h r ⟨a, ha, ⟨hlet, hfits⟩, hr⟩
  · rintro h r ⟨a, ha, ⟨hlet, hfits⟩, hr⟩
    exact h a ha hlet hfits r hr

/-- **Any attempts are accounted for**: what is held is the installed tree's pages and what was
reserved. It is the installed tree alone, and a whole one, exactly where no file that is let through
is cut short, and none whose size fits has a region that takes free pages. -/
theorem attempts_accounted (lib : FdtLib) (attempts : List FdtAttempt) (s : OsFdt)
    (hrun : Run (attemptStep lib) start attempts s) :
    s.Accounted ∧
      (s.KeepsOneTree lib ↔
        ∀ a ∈ attempts, a.toFdtCandidate.LetThrough lib →
          (a.installTable = .success → ¬a.CutShort lib) ∧
          (a.toFdtCandidate.Fits lib →
            ∀ region ∈ a.reservations.handled, ¬TakesPages a.memory region)) := by
  have haccounted := accounted_run hrun
  refine ⟨haccounted, ?_⟩
  simp only [imp_and, forall_and]
  rw [← installs_whole_iff hrun, ← reserved_eq_nil_iff hrun]
  obtain ⟨held, hledger, hheld⟩ := haccounted
  constructor
  · intro h
    refine ⟨h.whole, ?_⟩
    have hsame : s.installedRun.toList = held :=
      congrArg Ledger.State.held (Option.some.inj (h.held.symm.trans hledger))
    have hlength := hheld.length_eq
    rw [← hsame, List.length_append] at hlength
    exact List.eq_nil_of_length_eq_zero (by simpa using hlength)
  · rintro ⟨hwhole, hnone⟩
    rw [hnone, List.append_nil] at hheld
    have hheld : held = s.installedRun.toList := by
      cases hrun' : s.installedRun with
      | none =>
        rw [hrun'] at hheld
        exact hheld.eq_nil
      | some r =>
        rw [hrun'] at hheld
        exact List.perm_singleton.mp hheld
    rw [hheld] at hledger
    refine ⟨fun actions hpre => ?_, hledger, fun r => ?_, fun a s' hstep herror => ?_, hwhole⟩
    · exact Ledger.held_of_published (fun r hr => nomatch hr) hledger hpre
    · simpa using Ledger.count_acquire hledger r
    · rcases (attemptStep_cases (accounted_run hrun) hstep).2 with ⟨-, -, hsame⟩ | ⟨hsuccess, -⟩
      · exact hsame
      · exact absurd hsuccess (EfiStatus.ne_success_of_isError herror)

/-- A file that ends after the header of its tree: the rest of the two pages is what was there. -/
def cutFile : FdtAttempt where
  toFdtCandidate := { emptyFdtFile with
    fileSize := 40
    contents := emptyFdt.take 40 ++ List.replicate 8152 0xAF }
  root := 1
  file := 2
  info := 0x3000
  buffer := 0x10000
  bytesRead := 40
  memory := sixteenPages
  reservations := ⟨[], none⟩

theorem cutFile_loadable : cutFile.toFdtCandidate.Loadable headerLib :=
  ⟨rfl, rfl, rfl, rfl, rfl, rfl, by decide, rfl, rfl, by decide +kernel, by decide +kernel,
    by decide +kernel, rfl⟩

/-- The free pages are below the buffer. -/
theorem sixteenPages_apart {address count : Nat} (haddress : 16 * efiPageSize ≤ address) :
    FreeApart sixteenPages [.pages address count] := by
  intro page n hn hfree q hq
  rw [List.mem_singleton.mp hq]
  have hlast := of_decide_eq_true (hfree (n - 1) (by omega))
  unfold efiPageSize at haddress
  unfold FdtResource.Apart efiPageSize
  simp only
  refine ⟨fun heq => ?_, by omega⟩
  have hsame := (FdtResource.pages.inj heq).1
  omega

/-- Handles and buffers that differ from each other will do for the first call. -/
theorem served_start {a : FdtAttempt} (hfile : a.file ≠ a.root) (hbuffer : a.buffer ≠ 0)
    (hmemory : FreeApart a.memory [.pages a.buffer a.pages]) : a.Served start.held where
  root _ := List.forall_mem_nil _
  file _ := List.forall_mem_singleton.mpr ⟨fun h => hfile (FdtResource.handle.inj h), trivial⟩
  info _ := List.forall_mem_nil _
  buffer _ := ⟨hbuffer, List.forall_mem_nil _⟩
  memory _ := hmemory

theorem cutFile_run : Run (attemptStep headerLib) start [cutFile]
    (tryLoadFdtFromVolume headerLib start cutFile).2 :=
  .single ⟨served_start (by decide) (by decide) (sixteenPages_apart (by decide)), rfl⟩

/-- **A file that is cut short is installed.** -/
theorem cutFile_installed :
    ∃ s, Run (attemptStep headerLib) start [cutFile] s ∧ ¬∀ a ∈ s.installs, a.Whole headerLib := by
  refine ⟨_, cutFile_run, fun hwhole => ?_⟩
  have hinstalled := (mem_installs_iff cutFile_run cutFile).mpr
    ⟨List.mem_singleton.mpr rfl, cutFile_loadable⟩
  have hsize : headerLib.totalSize cutFile.contents = 72 := by decide +kernel
  have hcovers : headerLib.totalSize cutFile.contents ≤ 40 := hwhole cutFile hinstalled
  omega

/-- The same file read to its end. -/
def wholeFile : FdtAttempt :=
  { cutFile with
    fileSize := 72
    contents := emptyFdt ++ List.replicate 8120 0xAF
    bytesRead := 72 }

theorem wholeFile_run : Run (attemptStep headerLib) start [wholeFile]
    (tryLoadFdtFromVolume headerLib start wholeFile).2 :=
  .single ⟨served_start (by decide) (by decide) (sixteenPages_apart (by decide)), rfl⟩

theorem wholeFile_accounted :
    (tryLoadFdtFromVolume headerLib start wholeFile).2.KeepsOneTree headerLib := by
  refine (attempts_accounted headerLib [wholeFile] _ wholeFile_run).2.mpr fun a ha _ => ?_
  rw [List.mem_singleton.mp ha]
  have hsize : headerLib.totalSize wholeFile.contents = 72 := by decide +kernel
  refine ⟨fun _ hcut => ?_, fun _ => List.forall_mem_nil _⟩
  have hshort : 72 < headerLib.totalSize wholeFile.contents := hcut.1
  omega

end OsFdt

end Rpi5Uefi
