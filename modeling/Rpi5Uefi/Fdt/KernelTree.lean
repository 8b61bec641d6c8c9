import Rpi5Uefi.Lib.Run
import Rpi5Uefi.Fdt.OsTree

/-!
# The tree of the kernel that is booted

A session of the firmware is a sequence of boot attempts: each signals ReadyToBoot and then loads
images, and may come back to the boot manager.

* **`fdtStep`**: one notification, or a tree installed through the fixup protocol.
* **`matched_iff`**: the latch `mOsFdtMatched` is set by the session's first kernel, and stays set.
* **`kernelTree_iff`**: every attempt's kernel has found its own tree installed, if there was one,
  exactly in the sessions whose later kernels did not need one.
* **`secondBoot_unpaired`**: a session with two kernels.
-/

namespace Rpi5Uefi

open Bytes Transition

/-- The first kernel of an attempt: its release, the volumes then, and the tree installed behind its
notification. -/
structure KernelLoad where
  release : List UInt8
  handles : FdtHandles
  installed : InstalledFdt

/-- The driver, whether an attempt still waits for its kernel, and the kernels so far. -/
structure FdtSession where
  driver : FdtDriver
  awaiting : Bool
  loads : List KernelLoad

inductive FdtEvent where
  | readyToBoot (handles : FdtHandles)
  | imageLoaded (image : Option LoadedImage) (handles : FdtHandles)
  | fixup (fdt : List UInt8) (bufferSize : Nat) (flags : UInt32) (installTable : EfiStatus)

section
variable (lib : FdtLib) (board : FdtBoard)

/-- One event. -/
def fdtStep (s : FdtSession) : FdtEvent → Option FdtSession
  | .readyToBoot handles =>
    some { s with driver := loadFdtFromOsVolume lib board s.driver handles, awaiting := true }
  | .imageLoaded image handles =>
    let driver := onImageLoaded lib board s.driver image handles
    match image.bind ukiGetUname with
    | none => some { s with driver }
    | some release =>
      if s.awaiting then
        some ⟨driver, false, s.loads ++ [⟨release, handles, driver.installed⟩]⟩
      else some { s with driver }
  | .fixup fdt bufferSize flags installTable =>
    -- a loader that brings its own tree
    let (_, installs) := rpi5DtFixup lib fdt bufferSize flags installTable
    some { s with
      driver := if installs then { s.driver with installed := .fixupCaller } else s.driver }

/-- A kernel whose tree was there found it installed, and not the unkeyed one or one of another
release. -/
def KernelLoad.Paired (load : KernelLoad) : Prop :=
  TreeAvailable lib board load.handles (some load.release) →
    load.installed.FromDirectory board (some load.release) ∧
      ¬load.installed.FromDirectory board none ∧
      ∀ release, Component fdtOsUnameMax release →
        load.installed.FromDirectory board (some release) → release = load.release

/-- The kernel of an attempt is the session's first, or has its tree installed already, or has
none. -/
def KernelMatches (s : FdtSession) : FdtEvent → Prop
  | .imageLoaded image handles =>
    ∀ release, s.awaiting = true → image.bind ukiGetUname = some release →
      TreeAvailable lib board handles (some release) →
        s.driver.mOsFdtMatched = false ∨ s.driver.installed.FromDirectory board (some release)
  | _ => True

end

/-- A session after the driver's entry. -/
def fdtStart : FdtSession := ⟨⟨false, .firmware⟩, false, []⟩

variable {lib : FdtLib} {board : FdtBoard} {s s' : FdtSession} {e : FdtEvent}
  {es : List FdtEvent}

/-! ## The latch -/

theorem loadFdtForBoard_matched (driver : FdtDriver) (handles : FdtHandles)
    (uname : Option (List UInt8)) :
    (loadFdtForBoard lib board driver handles uname).2.mOsFdtMatched = driver.mOsFdtMatched := by
  rcases loadFdtForBoard_cases lib board driver handles uname with ⟨-, -, hsame⟩ | ⟨-, hsame⟩
  · exact hsame
  · rw [hsame]

/-- A kernel's image. -/
def FdtEvent.IsKernel : FdtEvent → Prop
  | .imageLoaded image _ => (image.bind ukiGetUname).isSome = true
  | _ => False

theorem fdtStep_matched (hstep : fdtStep lib board s e = some s') :
    s'.driver.mOsFdtMatched = true ↔ s.driver.mOsFdtMatched = true ∨ e.IsKernel := by
  cases e with
  | readyToBoot handles =>
    cases hstep
    show (loadFdtForBoard lib board s.driver handles none).2.mOsFdtMatched = true ↔ _
    rw [loadFdtForBoard_matched]
    exact (or_iff_left id).symm
  | fixup fdt bufferSize flags installTable =>
    cases hstep
    show (if (rpi5DtFixup lib fdt bufferSize flags installTable).2 = true then
      { s.driver with installed := .fixupCaller } else s.driver).mOsFdtMatched = true ↔ _
    rw [apply_ite FdtDriver.mOsFdtMatched, ite_self]
    exact (or_iff_left id).symm
  | imageLoaded image handles =>
    have hdriver : s'.driver = onImageLoaded lib board s.driver image handles := by
      simp only [fdtStep] at hstep
      split at hstep
      · cases hstep
        rfl
      · split at hstep <;> cases hstep <;> rfl
    rw [hdriver]
    unfold onImageLoaded
    show _ ↔ _ ∨ (image.bind ukiGetUname).isSome = true
    cases hmatched : s.driver.mOsFdtMatched with
    | true =>
      rw [if_pos rfl]
      exact iff_of_true hmatched (Or.inl rfl)
    | false =>
      rw [if_neg (by decide)]
      cases image.bind ukiGetUname with
      | none =>
        show s.driver.mOsFdtMatched = true ↔ false = true ∨ none.isSome = true
        rw [hmatched]
        exact (or_iff_left nofun).symm
      | some uname =>
        show (loadFdtForBoard lib board _ handles (some uname)).2.mOsFdtMatched = true ↔ _
        rw [loadFdtForBoard_matched]
        exact iff_of_true rfl (Or.inr rfl)

/-- **The latch is for the session.** It is set once a kernel was loaded in any of its attempts. -/
theorem matched_iff
    (hrun : Run (fun s e s' => fdtStep lib board s e = some s') fdtStart es s) :
    s.driver.mOsFdtMatched = true ↔ ∃ e ∈ es, e.IsKernel := by
  induction hrun with
  | nil => simp [fdtStart]
  | snoc _ hstep ih =>
    rw [fdtStep_matched hstep, ih]
    simp [or_and_right, exists_or]

/-! ## Sessions -/

theorem fdtStep_kernel {image : Option LoadedImage} {handles : FdtHandles} {release : List UInt8}
    (hawaiting : s.awaiting = true) (huname : image.bind ukiGetUname = some release) :
    fdtStep lib board s (.imageLoaded image handles) =
      some ⟨onImageLoaded lib board s.driver image handles, false,
        s.loads ++
          [⟨release, handles, (onImageLoaded lib board s.driver image handles).installed⟩]⟩ := by
  simp only [fdtStep]
  rw [huname]
  exact if_pos hawaiting

/-- The first kernel of an attempt, exactly. -/
theorem onImageLoaded_paired_iff {image : Option LoadedImage} {handles : FdtHandles}
    {release : List UInt8} (hawaiting : s.awaiting = true)
    (huname : image.bind ukiGetUname = some release) :
    KernelLoad.Paired lib board
        ⟨release, handles, (onImageLoaded lib board s.driver image handles).installed⟩ ↔
      KernelMatches lib board s (.imageLoaded image handles) := by
  have hcomponent : Component fdtOsUnameMax release := by
    obtain ⟨loaded, -, hloaded⟩ := Option.bind_eq_some_iff.mp huname
    exact ukiGetUname_component hloaded
  unfold onImageLoaded
  cases hmatched : s.driver.mOsFdtMatched with
  | true =>
    -- the latch leaves whatever is installed
    rw [if_pos rfl]
    constructor
    · intro hpaired release' _ hrelease' havailable
      rw [huname] at hrelease'
      cases hrelease'
      exact Or.inr (hpaired havailable).1
    · intro hmatches havailable
      have hinstalled := (hmatches release hawaiting huname havailable).resolve_left
        (by rw [hmatched]; decide)
      exact ⟨hinstalled, FromDirectory_exclusive hcomponent hinstalled⟩
  | false =>
    -- the first kernel of the session: its tree is installed if the volumes have it
    rw [if_neg (by decide), huname]
    simp only
    refine iff_of_true ?_ fun _ _ _ _ => Or.inl hmatched
    intro havailable
    have hload := loadFdtForBoard_cases lib board { s.driver with mOsFdtMatched := true }
      handles (some release)
    obtain ⟨-, hinstalled, -⟩ := hload.resolve_right fun hnone => hnone.1 havailable
    exact ⟨hinstalled, FromDirectory_exclusive hcomponent hinstalled⟩

/-- **A kernel finds its tree** exactly where its step meets the condition. -/
theorem fdtStep_paired_iff (hstep : fdtStep lib board s e = some s') :
    (∀ load ∈ s'.loads, load.Paired lib board) ↔
      (∀ load ∈ s.loads, load.Paired lib board) ∧ KernelMatches lib board s e := by
  cases e with
  | readyToBoot handles =>
    cases hstep
    exact (and_iff_left trivial).symm
  | fixup fdt bufferSize flags installTable =>
    cases hstep
    exact (and_iff_left trivial).symm
  | imageLoaded image handles =>
    cases huname : image.bind ukiGetUname with
    | none =>
      -- no kernel, and nothing to be met
      simp only [fdtStep] at hstep
      rw [huname] at hstep
      cases hstep
      refine (and_iff_left ?_).symm
      intro release _ hrelease
      rw [huname] at hrelease
      cases hrelease
    | some release =>
      by_cases hawaiting : s.awaiting = true
      case neg =>
        -- the attempt has had its kernel
        simp only [fdtStep] at hstep
        rw [huname] at hstep
        simp only at hstep
        rw [if_neg hawaiting] at hstep
        cases hstep
        refine (and_iff_left ?_).symm
        exact fun release hawait => absurd hawait hawaiting
      rw [fdtStep_kernel hawaiting huname] at hstep
      cases hstep
      rw [List.forall_mem_append, List.forall_mem_singleton,
        onImageLoaded_paired_iff hawaiting huname]

/-- **Which sessions give each kernel its own tree.** -/
theorem kernelTree_iff (lib : FdtLib) (board : FdtBoard) (es : List FdtEvent) (s : FdtSession)
    (hrun : Run (fun s e s' => fdtStep lib board s e = some s') fdtStart es s) :
    (∀ load ∈ s.loads, load.Paired lib board) ↔
      RunWith (fun s e s' => fdtStep lib board s e = some s') (KernelMatches lib board)
        fdtStart es s :=
  run_holds_iff (P := fun s => ∀ load ∈ s.loads, load.Paired lib board) nofun
    (fun _ _ _ hstep => fdtStep_paired_iff hstep) hrun

/-! ## Two kernels -/

/-- An empty device tree. -/
def emptyFdt : List UInt8 :=
  [0xD00DFEED, 0x48, 0x38, 0x48, 0x28, 17, 16, 0, 0, 0x10, 0, 0, 0, 0, 1, 0, 2, 9].flatMap be32Bytes

/-- What libfdt says of such trees. -/
def headerLib : FdtLib where
  checkHeader fdt := fdt.take 4 == be32Bytes 0xD00DFEED
  totalSize fdt := leNat ((fdt.drop 4).take 4).reverse
  openInto fdt bufferSize := decide (fdt.length ≤ bufferSize)

def emptyFdtFile : FdtCandidate :=
  ⟨.success, .success, .success, .bufferTooSmall, true, .success, 0x48, .success, .success,
    emptyFdt,
    .success⟩

/-- A card with an unkeyed tree and trees for two kernels. -/
def twoKernelVolume : FdtVolume := fun path =>
  if path ∈ [ascii "\\dtb\\bcm2712-rpi-5-b.dtb", ascii "\\dtb\\6.1\\bcm2712-rpi-5-b.dtb",
      ascii "\\dtb\\6.2\\bcm2712-rpi-5-b.dtb"] then emptyFdtFile
  else { emptyFdtFile with openFile := .notFound }

/-- A section header. -/
def peSection (name : String) (virtualAddress virtualSize : Nat) : List UInt8 :=
  peSectionName name ++ le32Bytes virtualSize ++ le32Bytes virtualAddress ++ List.replicate 24 0

/-- A unified kernel image. -/
def kernelImage (release : String) : LoadedImage where
  imageBase := some fun i =>
    (ascii "PE" ++ [0, 0, 0x64, 0xAA, 2, 0] ++ List.replicate 12 0 ++ [240, 0, 0, 0] ++
      List.replicate 240 0 ++ peSection ".linux" 344 4 ++ peSection ".uname" 348 8 ++
      [1, 2, 3, 4] ++ ascii release).getD i 0
  imageSize := 512

/-- A Raspberry Pi 5 rev 1.0. -/
def rpi5Board : FdtBoard := ⟨0xD04170, boardVariantFromRevision⟩

def twoKernelHandles : FdtHandles := .ok [twoKernelVolume]

/-- ReadyToBoot, and then the kernel. -/
def bootKernel (release : String) : List FdtEvent :=
  [.readyToBoot twoKernelHandles, .imageLoaded (some (kernelImage release)) twoKernelHandles]

def unkeyedTree : InstalledFdt := .volume (fdtOsPath none fdtOsLeafFallback)

def keyedTree (release : String) : InstalledFdt :=
  .volume (fdtOsPath (some (ascii release)) fdtOsLeafFallback)

/-- After a boot of 6.1. -/
def oneKernelSession : FdtSession :=
  ⟨⟨true, keyedTree "6.1"⟩, false, [⟨ascii "6.1", twoKernelHandles, keyedTree "6.1"⟩]⟩

/-- After a boot of 6.1 and then of 6.2. -/
def twoKernelSession : FdtSession :=
  ⟨⟨true, unkeyedTree⟩, false, [⟨ascii "6.1", twoKernelHandles, keyedTree "6.1"⟩,
    ⟨ascii "6.2", twoKernelHandles, unkeyedTree⟩]⟩

theorem firstBoot_run :
    RunWith (fun s e s' => fdtStep headerLib rpi5Board s e = some s')
      (KernelMatches headerLib rpi5Board) fdtStart (bootKernel "6.1") oneKernelSession := by
  have hready : fdtStep headerLib rpi5Board fdtStart (.readyToBoot twoKernelHandles) =
      some ⟨⟨false, unkeyedTree⟩, true, []⟩ := by
    simp only [fdtStep]
    rw [show loadFdtFromOsVolume headerLib rpi5Board fdtStart.driver twoKernelHandles =
      ⟨false, unkeyedTree⟩ by decide +kernel]
    rfl
  have hkernel : fdtStep headerLib rpi5Board ⟨⟨false, unkeyedTree⟩, true, []⟩
      (.imageLoaded (some (kernelImage "6.1")) twoKernelHandles) = some oneKernelSession := by
    rw [fdtStep_kernel rfl (show _ = some (ascii "6.1") by decide +kernel),
      show onImageLoaded headerLib rpi5Board ⟨false, unkeyedTree⟩ (some (kernelImage "6.1"))
        twoKernelHandles = ⟨true, keyedTree "6.1"⟩ by decide +kernel]
    rfl
  exact .snoc (.snoc .nil trivial hready) (fun _ _ _ _ => Or.inl rfl) hkernel

/-- One attempt, whose kernel finds its tree. -/
theorem firstBoot_paired :
    oneKernelSession.loads.length = 1 ∧
      ∀ load ∈ oneKernelSession.loads, load.Paired headerLib rpi5Board :=
  ⟨rfl, (kernelTree_iff headerLib rpi5Board (bootKernel "6.1") oneKernelSession
    firstBoot_run.run).mpr firstBoot_run⟩

/-- **The second kernel of a session** is left with the unkeyed tree, though its own is there. -/
theorem secondBoot_unpaired :
    Run (fun s e s' => fdtStep headerLib rpi5Board s e = some s') fdtStart
        (bootKernel "6.1" ++ bootKernel "6.2") twoKernelSession ∧
      ¬∀ load ∈ twoKernelSession.loads, load.Paired headerLib rpi5Board := by
  have hready : fdtStep headerLib rpi5Board oneKernelSession (.readyToBoot twoKernelHandles) =
      some ⟨⟨true, unkeyedTree⟩, true, oneKernelSession.loads⟩ := by
    simp only [fdtStep]
    rw [show loadFdtFromOsVolume headerLib rpi5Board oneKernelSession.driver twoKernelHandles =
      ⟨true, unkeyedTree⟩ by decide +kernel]
  have hkernel : fdtStep headerLib rpi5Board ⟨⟨true, unkeyedTree⟩, true, oneKernelSession.loads⟩
      (.imageLoaded (some (kernelImage "6.2")) twoKernelHandles) = some twoKernelSession := by
    rw [fdtStep_kernel rfl (show _ = some (ascii "6.2") by decide +kernel)]
    rfl
  have hsecond : Run (fun s e s' => fdtStep headerLib rpi5Board s e = some s') oneKernelSession
      (bootKernel "6.2") twoKernelSession := .snoc (.snoc .nil hready) hkernel
  refine ⟨firstBoot_run.run.trans hsecond, ?_⟩
  intro hpaired
  have hload := hpaired ⟨ascii "6.2", twoKernelHandles, unkeyedTree⟩
    (List.mem_cons_of_mem _ (List.mem_singleton.mpr rfl))
  have hleaf : fdtOsLeafFallback ∈ fdtOsNames rpi5Board := by decide
  have hfile : twoKernelVolume (fdtOsPath (some (ascii "6.2")) fdtOsLeafFallback) =
      emptyFdtFile := by decide +kernel
  have hloadable : emptyFdtFile.Loadable headerLib :=
    ⟨rfl, rfl, rfl, rfl, rfl, rfl, by decide, rfl, rfl, by decide +kernel, by decide +kernel,
      by decide +kernel, rfl⟩
  have havailable : TreeAvailable headerLib rpi5Board twoKernelHandles (some (ascii "6.2")) :=
    ⟨fdtOsLeafFallback, hleaf, [twoKernelVolume], rfl, twoKernelVolume,
      List.mem_singleton.mpr rfl, by rw [hfile]; exact hloadable⟩
  exact (hload havailable).2.1 ⟨fdtOsLeafFallback, hleaf, rfl⟩

end Rpi5Uefi
