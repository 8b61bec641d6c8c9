import Mathlib.Algebra.GroupWithZero.Nat
import Rpi5Uefi.Fdt.Reserve
import Rpi5Uefi.Lib.Writes

/-!
# Fixing up a caller's device tree (`Rpi5DtFixup`)

A caller brings its own tree, and the driver copies into it what only the firmware knows. The tree
is grown into the caller's buffer once, and the properties are set one after another. One that does
not fit is logged and left out.

* **`FdtTreeLib`**, **`FdtTreeSpec`**: libfdt, and what is relied on of it.
* **`copyFwPropertyEx`**, **`updateFdtFromFw`**, **`rpi5DtFixupTree`**: the source's own steps.
* **`content_updateFdtFromFw`**: the copies as writes to a store with the room of the buffer.
* **`fixupHolds_iff`**: for which trees and buffers the fixup is complete.
* **`fixupFits_of_headroom`**: it is where the properties grow the tree by at most the headroom.

That a pointer is `NULL` is left out. A buffer size is a number below 2⁶⁴, and libfdt is given its
low 32 bits, signed.
-/

namespace Rpi5Uefi

/-! ## Trees -/

/-- What is in a tree: its nodes, their properties, which names are in its strings block, and the
bytes it takes. -/
structure FdtContent (ν : Type) where
  nodes : Set ν
  prop : ν → String → Option (List UInt8)
  named : String → Bool
  used : Nat

/-- `FDT_TAGALIGN`. -/
def fdtTagAlign (length : Nat) : Nat := (length + 3) / 4 * 4

/-- The content with a property set: a new property takes a header of 12 bytes, and its name where
no name in the strings block ends in it. -/
def FdtContent.set {ν : Type} [DecidableEq ν] (c : FdtContent ν) (node : ν) (name : String)
    (value : List UInt8) : FdtContent ν where
  nodes := c.nodes
  prop := fun n p => if (n, p) = (node, name) then some value else c.prop n p
  named := fun p => c.named p || p.toList.isSuffixOf name.toList
  used :=
    match c.prop node name with
    | some old => c.used + fdtTagAlign value.length - fdtTagAlign old.length
    | none =>
      c.used + 12 + fdtTagAlign value.length + if c.named name then 0 else name.utf8ByteSize + 1

/-- libfdt on trees `τ` with nodes `ν`: `none` is a result that is not zero, or not a node. -/
structure FdtTreeLib (τ ν : Type) where
  checkHeader : τ → Bool
  totalSize : τ → Nat
  openInto : τ → Int → Option τ
  pathOffset : τ → String → Option ν
  getProp : τ → ν → String → Option (List UInt8)
  setProp : τ → ν → String → List UInt8 → Option τ
  reservations : τ → FdtReservations

/-- The alias a path begins with; an absolute path begins with the empty name. -/
def fdtAlias (path : String) : String := String.ofList (path.toList.takeWhile (· != '/'))

/-- What is relied on of libfdt: growing a tree and setting a property go through exactly if the
result fits the buffer, and change nothing else. -/
structure FdtTreeSpec {τ ν : Type} [DecidableEq ν] (lib : FdtTreeLib τ ν)
    (content : τ → FdtContent ν) (size : τ → Nat) : Prop where
  getProp_eq : ∀ fdt node name, lib.getProp fdt node name = (content fdt).prop node name
  pathOffset_mem : ∀ fdt path node, lib.pathOffset fdt path = some node → node ∈ (content fdt).nodes
  openInto_some : ∀ fdt (room : Int), lib.checkHeader fdt = true → (content fdt).used ≤ room →
    ∃ fdt', lib.openInto fdt room = some fdt' ∧ content fdt' = content fdt ∧
      size fdt' = room.toNat ∧ ∀ path, lib.pathOffset fdt' path = lib.pathOffset fdt path
  openInto_none : ∀ fdt (room : Int), lib.checkHeader fdt = true → room < (content fdt).used →
    lib.openInto fdt room = none
  setProp_some : ∀ fdt node name value, node ∈ (content fdt).nodes →
    ((content fdt).set node name value).used ≤ size fdt →
    ∃ fdt', lib.setProp fdt node name value = some fdt' ∧
      content fdt' = (content fdt).set node name value ∧ size fdt' = size fdt ∧
      ∀ path, name ≠ fdtAlias path → lib.pathOffset fdt' path = lib.pathOffset fdt path
  setProp_none : ∀ fdt node name value, node ∈ (content fdt).nodes →
    size fdt < ((content fdt).set node name value).used → lib.setProp fdt node name value = none

/-! ## The fixup -/

/-- The arguments of `CopyFwPropertyEx`. -/
structure FwProperty where
  srcPath : String
  dstPath : String
  property : String
  deriving DecidableEq, Repr

/-- `CopyFwProperty`. -/
def samePath (path property : String) : FwProperty := ⟨path, path, property⟩

/-- The calls of `UpdateFdtFromFw`. -/
def fwProperties : List FwProperty :=
  [samePath "/" "model",
    samePath "/reserved-memory/linux,cma" "size",
    samePath "/axi/pcie@1000100000" "dma-ranges",
    samePath "/axi/pcie@1000110000" "dma-ranges",
    samePath "/axi/pcie@1000120000" "dma-ranges",
    samePath "blconfig" "reg",
    samePath "blconfig" "status",
    samePath "/chosen" "kaslr-seed",
    samePath "/chosen" "user-warnings",
    samePath "/chosen" "log",
    samePath "ethernet0" "local-mac-address",
    ⟨"ethernet0/ethernet-phy@1", "ethernet0/mdio/ethernet-phy@1", "reg"⟩,
    samePath "ethernet0/ethernet-phy@1" "reg",
    samePath "/soc/serial@7e201000/bluetooth" "local-bd-address",
    samePath "/soc@107c000000/serial@7d50c000/bluetooth" "local-bd-address",
    samePath "/clocks/clk-uart" "clock-frequency"]

section
variable {τ ν : Type} (lib : FdtTreeLib τ ν)

/-- `CopyFwPropertyEx`: a failure of `FdtSetProp` is only logged. -/
def copyFwPropertyEx (fw fdt : τ) (p : FwProperty) : τ :=
  match lib.pathOffset fw p.srcPath, lib.pathOffset fdt p.dstPath with
  | some srcNode, some dstNode =>
    match lib.getProp fw srcNode p.property with
    | none => fdt
    | some value => (lib.setProp fdt dstNode p.property value).getD fdt
  | _, _ => fdt

/-- `UpdateFdtFromFw`. -/
def updateFdtFromFw (mFwFdtImage : Option τ) (fdt : τ) : τ :=
  match mFwFdtImage with
  | none => fdt
  | some fw => fwProperties.foldl (copyFwPropertyEx lib fw) fdt

/-- What a call leaves; `installed` says that the tree is in the configuration table. -/
structure DtFixup (τ : Type) where
  status : EfiStatus
  fdt : τ
  bufferSize : Nat
  map : MemoryMap
  installed : Bool

/-- `(INT32)*BufferSize`. -/
def int32OfUintn (n : Nat) : Int := (n : Int).bmod (2 ^ 32)

/-- `Rpi5DtFixup`, on the trees of a library. -/
def rpi5DtFixupTree (mFwFdtImage : Option τ) (map : MemoryMap) (fdt : τ) (bufferSize : Nat)
    (flags : UInt32) (installTable : EfiStatus) : DtFixup τ :=
  if flags = 0 ∨ flags &&& ~~~efiDtAll ≠ 0 then ⟨.invalidParameter, fdt, bufferSize, map, false⟩
  else if !lib.checkHeader fdt then ⟨.invalidParameter, fdt, bufferSize, map, false⟩
  else if flags &&& efiDtApplyFixups ≠ 0 ∧ lib.totalSize fdt + fdtFixupHeadroom > bufferSize then
    ⟨.bufferTooSmall, fdt, lib.totalSize fdt + fdtFixupHeadroom, map, false⟩
  else
    let fixedUp :=
      if flags &&& efiDtApplyFixups ≠ 0 then
        (lib.openInto fdt (int32OfUintn bufferSize)).map (updateFdtFromFw lib mFwFdtImage)
      else some fdt
    match fixedUp with
    | none => ⟨.invalidParameter, fdt, bufferSize, map, false⟩
    | some fdt =>
      let map := if flags &&& efiDtReserveMemory ≠ 0 then
        reserveFdtMemory map (lib.reservations fdt) else map
      if flags &&& efiDtInstallTable ≠ 0 then
        if installTable.isError then ⟨installTable, fdt, bufferSize, map, false⟩
        else ⟨.success, fdt, bufferSize, map, true⟩
      else ⟨.success, fdt, bufferSize, map, false⟩

end

/-- The status of the fixup, for a library of trees that are lists of bytes, is that of
`rpi5DtFixup`. -/
theorem rpi5DtFixupTree_status {ν : Type} (lib : FdtTreeLib (List UInt8) ν)
    (mFwFdtImage : Option (List UInt8)) (map : MemoryMap) (fdt : List UInt8) (bufferSize : Nat)
    (flags : UInt32) (installTable : EfiStatus) :
    ((rpi5DtFixupTree lib mFwFdtImage map fdt bufferSize flags installTable).status,
        (rpi5DtFixupTree lib mFwFdtImage map fdt bufferSize flags installTable).installed) =
      rpi5DtFixup ⟨lib.checkHeader, lib.totalSize, fun fdt bufferSize =>
        (lib.openInto fdt (int32OfUintn bufferSize)).isSome⟩ fdt bufferSize flags installTable := by
  unfold rpi5DtFixupTree rpi5DtFixup
  by_cases hflags : flags = 0 ∨ flags &&& ~~~efiDtAll ≠ 0
  · rw [if_pos hflags, if_pos hflags]
  rw [if_neg hflags, if_neg hflags]
  by_cases hheader : (!lib.checkHeader fdt) = true
  · rw [if_pos hheader, if_pos hheader]
  rw [if_neg hheader, if_neg hheader]
  by_cases hsmall : flags &&& efiDtApplyFixups ≠ 0 ∧
      lib.totalSize fdt + fdtFixupHeadroom > bufferSize
  · rw [if_pos hsmall, if_pos hsmall]
  rw [if_neg hsmall, if_neg hsmall]
  by_cases happly : flags &&& efiDtApplyFixups ≠ 0
  · rw [if_pos happly]
    cases hopen : lib.openInto fdt (int32OfUintn bufferSize) with
    | none =>
      rw [if_pos ⟨happly, by simp only [hopen]; rfl⟩]
      rfl
    | some fdt' =>
      rw [if_neg fun h => by simp [hopen] at h]
      simp only [Option.map_some]
      split
      · split <;> rfl
      · rfl
  · rw [if_neg happly, if_neg fun h => happly h.1]
    simp only
    split
    · split <;> rfl
    · rfl

/-! ## What the fixup is for -/

section
variable {τ ν : Type} [DecidableEq ν]

/-- A tree's properties, with the room of a buffer. -/
def fdtStore (ν : Type) [DecidableEq ν] (room : Nat) :
    RoomStore {c : FdtContent ν // c.used ≤ room} (ν × String) (List UInt8) where
  get c key := c.val.prop key.1 key.2
  write c key value :=
    if h : (c.val.set key.1 key.2 value).used ≤ room then some ⟨_, h⟩ else none
  get_write := by
    intro c c' key value h key'
    split at h
    · cases h
      rfl
    · cases h
  write_same := by
    intro c key value h
    -- the value it has takes the room it has
    have hused : (c.val.set key.1 key.2 value).used ≤ room := by
      unfold FdtContent.set
      simp only [h]
      have hle := c.property
      omega
    rw [dif_pos hused]
    rfl

/-- The firmware's tree has a property of the list. -/
def FirmwareHas (lib : FdtTreeLib τ ν) (mFwFdtImage : Option τ) (p : FwProperty)
    (value : List UInt8) : Prop :=
  ∃ fw, mFwFdtImage = some fw ∧ ∃ node, lib.pathOffset fw p.srcPath = some node ∧
    lib.getProp fw node p.property = some value

/-- What one call is to carry into a tree, where both nodes and the property are there. -/
def listedWrite (lib : FdtTreeLib τ ν) (fw fdt : τ) (p : FwProperty) :
    Option ((ν × String) × List UInt8) :=
  (lib.pathOffset fw p.srcPath).bind fun srcNode =>
    (lib.pathOffset fdt p.dstPath).bind fun dstNode =>
      (lib.getProp fw srcNode p.property).map fun value => ((dstNode, p.property), value)

/-- What all calls are to carry, in their order. -/
def listedWrites (lib : FdtTreeLib τ ν) (mFwFdtImage : Option τ) (fdt : τ) :
    List ((ν × String) × List UInt8) :=
  match mFwFdtImage with
  | none => []
  | some fw => fwProperties.filterMap (listedWrite lib fw fdt)

/-- Every listed property whose destination exists has the firmware's value, and all else is as
before. -/
structure FixupComplete (lib : FdtTreeLib τ ν) (content : τ → FdtContent ν)
    (mFwFdtImage : Option τ) (before after : τ) : Prop where
  carried : ∀ p ∈ fwProperties, ∀ value, FirmwareHas lib mFwFdtImage p value →
    ∀ node, lib.pathOffset before p.dstPath = some node →
      lib.getProp after node p.property = some value
  kept : ∀ node name,
    (∀ p ∈ fwProperties, ∀ value, FirmwareHas lib mFwFdtImage p value →
      lib.pathOffset before p.dstPath = some node → p.property ≠ name) →
    lib.getProp after node name = lib.getProp before node name
  nodes : (content after).nodes = (content before).nodes

/-- A buffer that is too small leaves the tree alone, and the size it is answered with is not too
small; and a call that says success has completed the tree. -/
structure FixupHolds (lib : FdtTreeLib τ ν) (content : τ → FdtContent ν) (mFwFdtImage : Option τ)
    (map : MemoryMap) (fdt : τ) (bufferSize : Nat) (flags : UInt32) (installTable : EfiStatus) :
    Prop where
  tooSmall :
    (rpi5DtFixupTree lib mFwFdtImage map fdt bufferSize flags installTable).status =
        .bufferTooSmall →
      (rpi5DtFixupTree lib mFwFdtImage map fdt bufferSize flags installTable).fdt = fdt ∧
        ∀ retry, (rpi5DtFixupTree lib mFwFdtImage map fdt bufferSize flags
            installTable).bufferSize ≤ retry →
          (rpi5DtFixupTree lib mFwFdtImage map fdt retry flags installTable).status ≠
            .bufferTooSmall
  complete :
    (rpi5DtFixupTree lib mFwFdtImage map fdt bufferSize flags installTable).status = .success →
      FixupComplete lib content mFwFdtImage fdt
        (rpi5DtFixupTree lib mFwFdtImage map fdt bufferSize flags installTable).fdt

/-- The call gets as far as the copies, and says success. -/
structure FixupSucceeds (lib : FdtTreeLib τ ν) (content : τ → FdtContent ν) (fdt : τ)
    (bufferSize : Nat) (flags : UInt32) (installTable : EfiStatus) : Prop where
  valid : flags &&& ~~~efiDtAll = 0
  header : lib.checkHeader fdt = true
  headroom : lib.totalSize fdt + fdtFixupHeadroom ≤ bufferSize
  grows : (content fdt).used ≤ int32OfUintn bufferSize
  installs : flags &&& efiDtInstallTable ≠ 0 → installTable = .success

/-- No two listed properties give one property of one node two values, and each fits the buffer in
its turn, or is carried by a later call. -/
structure FixupFits (lib : FdtTreeLib τ ν) (content : τ → FdtContent ν) (mFwFdtImage : Option τ)
    (fdt : τ) (room : Nat) : Prop where
  agree : RoomStore.Agree (listedWrites lib mFwFdtImage fdt)
  fits : ∀ h : (content fdt).used ≤ room,
    (fdtStore ν room).LandsInTurn ⟨content fdt, h⟩ (listedWrites lib mFwFdtImage fdt)

variable {lib : FdtTreeLib τ ν} {content : τ → FdtContent ν} {size : τ → Nat}
  {mFwFdtImage : Option τ} {map : MemoryMap} {fdt fw : τ} {bufferSize room : Nat} {flags : UInt32}
  {installTable : EfiStatus}

/-! ## The copies -/

/-- No property of the list is an alias that a path of the list begins with. -/
theorem fwProperties_alias : ∀ p ∈ fwProperties, ∀ q ∈ fwProperties,
    p.property ≠ fdtAlias q.dstPath := by
  decide +kernel

omit [DecidableEq ν] in
theorem copyFwPropertyEx_eq (p : FwProperty) :
    copyFwPropertyEx lib fw fdt p =
      (listedWrite lib fw fdt p).elim fdt fun w => (lib.setProp fdt w.1.1 w.1.2 w.2).getD fdt := by
  unfold copyFwPropertyEx listedWrite
  cases lib.pathOffset fw p.srcPath with
  | none => rfl
  | some srcNode =>
    cases lib.pathOffset fdt p.dstPath with
    | none => rfl
    | some dstNode =>
      simp only [Option.bind_some]
      cases lib.getProp fw srcNode p.property <;> rfl

omit [DecidableEq ν] in
theorem listedWrite_some {p : FwProperty} {w : (ν × String) × List UInt8} :
    listedWrite lib fw fdt p = some w ↔
      w.1.2 = p.property ∧ lib.pathOffset fdt p.dstPath = some w.1.1 ∧
        FirmwareHas lib (some fw) p w.2 := by
  unfold listedWrite FirmwareHas
  constructor
  · intro h
    obtain ⟨srcNode, hsrc, h⟩ := Option.bind_eq_some_iff.mp h
    obtain ⟨dstNode, hdst, h⟩ := Option.bind_eq_some_iff.mp h
    obtain ⟨value, hvalue, rfl⟩ := Option.map_eq_some_iff.mp h
    exact ⟨rfl, hdst, fw, rfl, srcNode, hsrc, hvalue⟩
  · rintro ⟨hname, hdst, fw', hfw, srcNode, hsrc, hvalue⟩
    cases hfw
    rw [hsrc, hdst]
    simp only [Option.bind_some, hvalue, Option.map_some, Option.some.injEq]
    exact Prod.ext (Prod.ext rfl hname.symm) rfl

/-- One copy is one write to the content, and keeps the buffer, the nodes and the paths. -/
theorem copyFwPropertyEx_content (hspec : FdtTreeSpec lib content size) (fw : τ) {p : FwProperty}
    (hp : p ∈ fwProperties) (hsize : size fdt = room) (hused : (content fdt).used ≤ room) :
    size (copyFwPropertyEx lib fw fdt p) = room ∧
      (content (copyFwPropertyEx lib fw fdt p)).nodes = (content fdt).nodes ∧
      (∀ q ∈ fwProperties, lib.pathOffset (copyFwPropertyEx lib fw fdt p) q.dstPath =
        lib.pathOffset fdt q.dstPath) ∧
      content (copyFwPropertyEx lib fw fdt p) = ((listedWrite lib fw fdt p).elim
        ⟨content fdt, hused⟩ ((fdtStore ν room).tryWrite ⟨content fdt, hused⟩)).val := by
  rw [copyFwPropertyEx_eq]
  cases hw : listedWrite lib fw fdt p with
  | none => exact ⟨hsize, rfl, fun _ _ => rfl, rfl⟩
  | some w =>
    obtain ⟨hname, hdst, -⟩ := listedWrite_some.mp hw
    have hmem := hspec.pathOffset_mem fdt _ _ hdst
    simp only [Option.elim_some]
    unfold RoomStore.tryWrite fdtStore
    simp only
    by_cases hfits : ((content fdt).set w.1.1 w.1.2 w.2).used ≤ room
    · obtain ⟨fdt', hset, hcontent, hroom, hpath⟩ :=
        hspec.setProp_some fdt w.1.1 w.1.2 w.2 hmem (hsize.symm ▸ hfits)
      rw [hset, dif_pos hfits]
      simp only [Option.getD_some]
      rw [hcontent, hroom]
      exact ⟨hsize, rfl, fun q hq => hpath _ (hname ▸ fwProperties_alias p hp q hq), rfl⟩
    · rw [hspec.setProp_none fdt w.1.1 w.1.2 w.2 hmem (by omega), dif_neg hfits]
      exact ⟨hsize, rfl, fun _ _ => rfl, rfl⟩

/-- **The copies are the writes**, one after another, to a store with the room of the buffer. -/
theorem content_copies (hspec : FdtTreeSpec lib content size) {ps : List FwProperty}
    (hps : ∀ p ∈ ps, p ∈ fwProperties) (hsize : size fdt = room)
    (hused : (content fdt).used ≤ room) :
    (content (ps.foldl (copyFwPropertyEx lib fw) fdt)).nodes = (content fdt).nodes ∧
      content (ps.foldl (copyFwPropertyEx lib fw) fdt) = ((fdtStore ν room).writeAll
        ⟨content fdt, hused⟩ (ps.filterMap (listedWrite lib fw fdt))).val := by
  induction ps generalizing fdt with
  | nil => exact ⟨rfl, rfl⟩
  | cons p ps ih =>
    obtain ⟨hroom, hnodes, hpath, hcontent⟩ :=
      copyFwPropertyEx_content hspec fw (hps p List.mem_cons_self) hsize hused
    have hstill : (content (copyFwPropertyEx lib fw fdt p)).used ≤ room := by
      rw [hcontent]
      exact Subtype.property (p := fun c : FdtContent ν => c.used ≤ room) _
    have hrest : ∀ q ∈ ps, q ∈ fwProperties := fun q hq => hps q (List.mem_cons_of_mem _ hq)
    obtain ⟨hnodes', hcontent'⟩ := ih hrest hroom hstill
    have hsame : ps.filterMap (listedWrite lib fw (copyFwPropertyEx lib fw fdt p)) =
        ps.filterMap (listedWrite lib fw fdt) := by
      refine List.filterMap_congr fun q hq => ?_
      unfold listedWrite
      rw [hpath q (hrest q hq)]
    refine ⟨hnodes'.trans hnodes, ?_⟩
    rw [List.foldl_cons, hcontent', hsame]
    have hfirst : (⟨content (copyFwPropertyEx lib fw fdt p), hstill⟩ :
        {c : FdtContent ν // c.used ≤ room}) = (listedWrite lib fw fdt p).elim
          ⟨content fdt, hused⟩ ((fdtStore ν room).tryWrite ⟨content fdt, hused⟩) :=
      Subtype.ext hcontent
    rw [hfirst]
    cases hw : listedWrite lib fw fdt p with
    | none => rw [List.filterMap_cons_none hw]; rfl
    | some w => rw [List.filterMap_cons_some hw]; rfl

omit [DecidableEq ν] in
theorem mem_listedWrites {w : (ν × String) × List UInt8} :
    w ∈ listedWrites lib mFwFdtImage fdt ↔ ∃ p ∈ fwProperties, w.1.2 = p.property ∧
      lib.pathOffset fdt p.dstPath = some w.1.1 ∧ FirmwareHas lib mFwFdtImage p w.2 := by
  unfold listedWrites
  cases mFwFdtImage with
  | none =>
    refine ⟨fun h => absurd h List.not_mem_nil, ?_⟩
    rintro ⟨p, -, -, -, fw, hfw, -⟩
    cases hfw
  | some fw =>
    rw [List.mem_filterMap]
    exact exists_congr fun p => and_congr_right fun _ => listedWrite_some

/-- What `UpdateFdtFromFw` leaves of a tree that was grown into the buffer. -/
theorem content_updateFdtFromFw (hspec : FdtTreeSpec lib content size) (mFwFdtImage : Option τ)
    (hsize : size fdt = room) (hused : (content fdt).used ≤ room) :
    (content (updateFdtFromFw lib mFwFdtImage fdt)).nodes = (content fdt).nodes ∧
      content (updateFdtFromFw lib mFwFdtImage fdt) = ((fdtStore ν room).writeAll
        ⟨content fdt, hused⟩ (listedWrites lib mFwFdtImage fdt)).val := by
  cases mFwFdtImage with
  | none => exact ⟨rfl, rfl⟩
  | some fw => exact content_copies hspec (fun _ hp => hp) hsize hused

/-- A grown tree is complete exactly if every listed property is written. -/
theorem fixupComplete_iff (hspec : FdtTreeSpec lib content size) (mFwFdtImage : Option τ)
    {grown : τ} (hcontent : content grown = content fdt)
    (hpath : ∀ path, lib.pathOffset grown path = lib.pathOffset fdt path)
    (hsize : size grown = room) (hused : (content fdt).used ≤ room) :
    FixupComplete lib content mFwFdtImage fdt (updateFdtFromFw lib mFwFdtImage grown) ↔
      FixupFits lib content mFwFdtImage fdt room := by
  have hwrites : listedWrites lib mFwFdtImage grown = listedWrites lib mFwFdtImage fdt := by
    unfold listedWrites listedWrite
    simp only [hpath]
  obtain ⟨hnodes, hafter⟩ :=
    content_updateFdtFromFw hspec mFwFdtImage hsize (hcontent.symm ▸ hused)
  rw [hwrites] at hafter
  have hstart : (⟨content grown, hcontent.symm ▸ hused⟩ : {c : FdtContent ν // c.used ≤ room}) =
      ⟨content fdt, hused⟩ := Subtype.ext hcontent
  rw [hstart] at hafter
  have hget (node : ν) (name : String) :
      lib.getProp (updateFdtFromFw lib mFwFdtImage grown) node name =
        (fdtStore ν room).get ((fdtStore ν room).writeAll ⟨content fdt, hused⟩
          (listedWrites lib mFwFdtImage fdt)) (node, name) := by
    rw [hspec.getProp_eq, hafter]
    rfl
  have hwritten := RoomStore.written_iff (S := fdtStore ν room) ⟨content fdt, hused⟩
    (listedWrites lib mFwFdtImage fdt)
  constructor
  · intro h
    have hall : (fdtStore ν room).Written ((fdtStore ν room).writeAll ⟨content fdt, hused⟩
        (listedWrites lib mFwFdtImage fdt)) (listedWrites lib mFwFdtImage fdt) := by
      intro w hw
      obtain ⟨p, hp, hname, hdst, hhas⟩ := mem_listedWrites.mp hw
      have hvalue := h.carried p hp w.2 hhas w.1.1 hdst
      rw [hget, ← hname] at hvalue
      exact hvalue
    obtain ⟨hagree, hlands⟩ := hwritten.mp hall
    exact ⟨hagree, fun _ => hlands⟩
  · intro h
    have hall := hwritten.mpr ⟨h.agree, h.fits hused⟩
    refine ⟨fun p hp value hhas node hdst => ?_, fun node name hother => ?_, ?_⟩
    · rw [hget]
      exact hall ((node, p.property), value) (mem_listedWrites.mpr ⟨p, hp, rfl, hdst, hhas⟩)
    · rw [hget, hspec.getProp_eq]
      refine RoomStore.get_writeAll_of_notMem fun w hw hkey => ?_
      obtain ⟨p, hp, hname, hdst, hhas⟩ := mem_listedWrites.mp hw
      cases w with
      | mk key value =>
        subst hkey
        exact hother p hp value hhas hdst hname.symm
    · rw [hnodes, hcontent]

/-! ## The call -/

/-- What a call with fixups comes to: success with the copies in the grown tree, a buffer that is
too small, or another failure. -/
theorem rpi5DtFixupTree_cases (hspec : FdtTreeSpec lib content size) (mFwFdtImage : Option τ)
    (map : MemoryMap) (fdt : τ) (bufferSize : Nat) (happly : flags &&& efiDtApplyFixups ≠ 0)
    (hinstall : installTable ≠ .bufferTooSmall) :
    let result := rpi5DtFixupTree lib mFwFdtImage map fdt bufferSize flags installTable
    (FixupSucceeds lib content fdt bufferSize flags installTable ∧ result.status = .success ∧
        ∃ grown, content grown = content fdt ∧ size grown = (int32OfUintn bufferSize).toNat ∧
          (∀ path, lib.pathOffset grown path = lib.pathOffset fdt path) ∧
          result.fdt = updateFdtFromFw lib mFwFdtImage grown) ∨
      ¬FixupSucceeds lib content fdt bufferSize flags installTable ∧
        (bufferSize < lib.totalSize fdt + fdtFixupHeadroom ∧ result.status = .bufferTooSmall ∧
            result.fdt = fdt ∧ result.bufferSize = lib.totalSize fdt + fdtFixupHeadroom ∨
          result.status ≠ .success ∧ result.status ≠ .bufferTooSmall) := by
  have hzero : flags ≠ 0 := by
    rintro rfl
    exact happly (by decide)
  unfold rpi5DtFixupTree
  by_cases hvalid : flags &&& ~~~efiDtAll = 0
  case neg =>
    rw [if_pos (Or.inr hvalid)]
    exact Or.inr ⟨fun h => hvalid h.valid, Or.inr ⟨nofun, nofun⟩⟩
  rw [if_neg fun h => h.elim hzero fun h => h hvalid]
  by_cases hheader : lib.checkHeader fdt = true
  case neg =>
    rw [if_pos (by simpa using hheader)]
    exact Or.inr ⟨fun h => hheader h.header, Or.inr ⟨nofun, nofun⟩⟩
  rw [if_neg (by simpa using hheader)]
  by_cases hroom : lib.totalSize fdt + fdtFixupHeadroom ≤ bufferSize
  case neg =>
    rw [if_pos ⟨happly, Nat.lt_of_not_le hroom⟩]
    exact Or.inr ⟨fun h => hroom h.headroom, Or.inl ⟨Nat.lt_of_not_le hroom, rfl, rfl, rfl⟩⟩
  rw [if_neg fun h => absurd h.2 (Nat.not_lt.mpr hroom), if_pos happly]
  by_cases hgrows : ((content fdt).used : Int) ≤ int32OfUintn bufferSize
  case neg =>
    rw [hspec.openInto_none fdt _ hheader (Int.lt_of_not_ge hgrows)]
    exact Or.inr ⟨fun h => hgrows h.grows, Or.inr ⟨nofun, nofun⟩⟩
  obtain ⟨grown, hopen, hcontent, hsize, hpath⟩ := hspec.openInto_some fdt _ hheader hgrows
  rw [hopen]
  simp only [Option.map_some]
  by_cases htable : flags &&& efiDtInstallTable ≠ 0
  case neg =>
    rw [if_neg htable]
    exact Or.inl ⟨⟨hvalid, hheader, hroom, hgrows, fun h => absurd h htable⟩, rfl, grown, hcontent,
      hsize, hpath, rfl⟩
  rw [if_pos htable]
  by_cases herror : installTable = .success
  · subst herror
    exact Or.inl ⟨⟨hvalid, hheader, hroom, hgrows, fun _ => rfl⟩, rfl, grown, hcontent, hsize,
      hpath, rfl⟩
  · have hfails : installTable.isError = true := by simpa [EfiStatus.isError] using herror
    rw [if_pos hfails]
    exact Or.inr ⟨fun h => herror (h.installs htable), Or.inr ⟨herror, hinstall⟩⟩

/-- **For which trees and buffers the fixup holds**: wherever the call gets as far as success, the
listed properties agree, and each fits in its turn or is carried by a later call. -/
theorem fixupHolds_iff (hspec : FdtTreeSpec lib content size) (mFwFdtImage : Option τ)
    (map : MemoryMap) (fdt : τ) (bufferSize : Nat) (happly : flags &&& efiDtApplyFixups ≠ 0)
    (hinstall : installTable ≠ .bufferTooSmall) :
    FixupHolds lib content mFwFdtImage map fdt bufferSize flags installTable ↔
      (FixupSucceeds lib content fdt bufferSize flags installTable →
        FixupFits lib content mFwFdtImage fdt (int32OfUintn bufferSize).toNat) := by
  have hcall (bufferSize : Nat) :=
    rpi5DtFixupTree_cases hspec mFwFdtImage map fdt bufferSize happly hinstall
  have hretry (retry : Nat) (hle : lib.totalSize fdt + fdtFixupHeadroom ≤ retry) :
      (rpi5DtFixupTree lib mFwFdtImage map fdt retry flags installTable).status ≠
        .bufferTooSmall := by
    rcases hcall retry with ⟨-, hstatus, -⟩ | ⟨-, ⟨hlt, -⟩ | ⟨-, hstatus⟩⟩
    · rw [hstatus]
      nofun
    · omega
    · exact hstatus
  rcases hcall bufferSize with
    ⟨hsucceeds, hstatus, grown, hcontent, hsize, hpath, hfdt⟩ |
      ⟨hfails, ⟨-, hstatus, hfdt, hanswer⟩ | ⟨hstatus, hnotSmall⟩⟩
  · have hused : (content fdt).used ≤ (int32OfUintn bufferSize).toNat := by
      have hgrows := hsucceeds.grows
      omega
    have hcomplete := fixupComplete_iff hspec mFwFdtImage hcontent hpath hsize hused
    rw [← hfdt] at hcomplete
    constructor
    · exact fun h _ => hcomplete.mp (h.complete hstatus)
    · refine fun h => ⟨fun hsmall => ?_, fun _ => hcomplete.mpr (h hsucceeds)⟩
      rw [hstatus] at hsmall
      cases hsmall
  · refine ⟨fun _ h => absurd h hfails, fun _ => ⟨fun _ => ⟨hfdt, ?_⟩, fun h => ?_⟩⟩
    · rw [hanswer]
      exact hretry
    · rw [hstatus] at h
      cases h
  · exact ⟨fun _ h => absurd h hfails, fun _ => ⟨fun h => absurd h hnotSmall, fun h =>
      absurd h hstatus⟩⟩

/-! ## The headroom -/

/-- The most a property can grow a tree by. -/
def growthBound (w : (ν × String) × List UInt8) : Nat :=
  12 + fdtTagAlign w.2.length + (w.1.2.utf8ByteSize + 1)

theorem FdtContent.used_set_le (c : FdtContent ν) (w : (ν × String) × List UInt8) :
    (c.set w.1.1 w.1.2 w.2).used ≤ c.used + growthBound w := by
  unfold FdtContent.set growthBound
  simp only
  split
  · omega
  · split <;> omega

/-- Writes whose growth is within the room all land. -/
theorem landsInTurn_of_growth {writes : List ((ν × String) × List UInt8)}
    (c : {c : FdtContent ν // c.used ≤ room})
    (h : c.val.used + (writes.map growthBound).sum ≤ room) :
    (fdtStore ν room).LandsInTurn c writes := by
  induction writes generalizing c with
  | nil => trivial
  | cons w writes ih =>
    rw [List.map_cons, List.sum_cons] at h
    have hle := c.val.used_set_le w
    have hwrite : (fdtStore ν room).write c w.1 w.2 =
        some ⟨c.val.set w.1.1 w.1.2 w.2, by omega⟩ := dif_pos _
    unfold RoomStore.LandsInTurn
    rw [hwrite]
    refine ih _ ?_
    simp only
    omega

/-- **The headroom is enough** for properties that grow the tree by at most 4 KiB. -/
theorem fixupFits_of_headroom (hagree : RoomStore.Agree (listedWrites lib mFwFdtImage fdt))
    (hgrowth : ((listedWrites lib mFwFdtImage fdt).map growthBound).sum ≤ fdtFixupHeadroom)
    (hused : (content fdt).used ≤ lib.totalSize fdt)
    (hroom : lib.totalSize fdt + fdtFixupHeadroom ≤ room) :
    FixupFits lib content mFwFdtImage fdt room := by
  refine ⟨hagree, fun h => landsInTurn_of_growth _ ?_⟩
  simp only
  omega

end

/-! ## A tree that grows past the headroom -/

/-- A tree without aliases, whose nodes are named by their paths. -/
structure PlainFdt where
  paths : List String
  prop : String → String → Option (List UInt8)
  named : String → Bool
  used : Nat
  size : Nat

def PlainFdt.content (fdt : PlainFdt) : FdtContent String :=
  ⟨{path | path ∈ fdt.paths}, fdt.prop, fdt.named, fdt.used⟩

def plainFdtLib : FdtTreeLib PlainFdt String where
  checkHeader _ := true
  totalSize := PlainFdt.size
  openInto fdt room :=
    if (fdt.used : Int) ≤ room then some { fdt with size := room.toNat } else none
  pathOffset fdt path := if path ∈ fdt.paths then some path else none
  getProp fdt := fdt.prop
  setProp fdt node name value :=
    let c := fdt.content.set node name value
    if c.used ≤ fdt.size then some { fdt with prop := c.prop, named := c.named, used := c.used }
    else none
  reservations _ := ⟨[], none⟩

theorem plainFdtLib_spec : FdtTreeSpec plainFdtLib PlainFdt.content PlainFdt.size where
  getProp_eq _ _ _ := rfl
  pathOffset_mem fdt path node h := by
    have hmem : path ∈ fdt.paths ∧ path = node := by simpa [plainFdtLib] using h
    exact hmem.2 ▸ hmem.1
  openInto_some fdt room _ hused :=
    ⟨_, if_pos hused, rfl, rfl, fun _ => rfl⟩
  openInto_none fdt room _ hused := if_neg (Int.not_le.mpr hused)
  setProp_some fdt node name value _ hfits :=
    ⟨_, if_pos hfits, rfl, rfl, fun _ _ => rfl⟩
  setProp_none fdt node name value _ hfits := if_neg (Nat.not_le.mpr hfits)

/-- A tree of 200 bytes with `/chosen`, as an OS ships it. -/
def chosenTree : PlainFdt := ⟨["/", "/chosen"], fun _ _ => none, fun _ => false, 200, 200⟩

/-- The firmware's tree, with that many bytes of `user-warnings`. -/
def warningTree (length : Nat) : PlainFdt :=
  { chosenTree with
    prop := fun node name =>
      if node = "/chosen" ∧ name = "user-warnings" then some (List.replicate length 0x21)
      else none }

theorem getProp_warningTree (length : Nat) :
    plainFdtLib.getProp (warningTree length) "/chosen" "user-warnings" =
      some (List.replicate length 0x21) := by
  show (if "/chosen" = "/chosen" ∧ "user-warnings" = "user-warnings" then
    some (List.replicate length 0x21) else none) = _
  rw [if_pos ⟨rfl, rfl⟩]

theorem fixupHolds_iff_chosen :
    FixupHolds plainFdtLib PlainFdt.content (some (warningTree 80)) sixteenPages chosenTree 0x10c8
        efiDtApplyFixups .success ↔
      (FixupSucceeds plainFdtLib PlainFdt.content chosenTree 0x10c8 efiDtApplyFixups .success →
        FixupFits plainFdtLib PlainFdt.content (some (warningTree 80)) chosenTree
          (int32OfUintn 0x10c8).toNat) :=
  fixupHolds_iff plainFdtLib_spec (some (warningTree 80)) sixteenPages chosenTree 0x10c8 (by decide)
    (by decide)

/-- A page of warnings does not fit the headroom of a page, and the call says success. -/
theorem fixup_warnings : ¬FixupHolds plainFdtLib PlainFdt.content (some (warningTree 0x1000))
    sixteenPages chosenTree (200 + 0x1000) efiDtApplyFixups .success := by
  intro h
  have hstatus : (rpi5DtFixupTree plainFdtLib (some (warningTree 0x1000)) sixteenPages chosenTree
      (200 + 0x1000) efiDtApplyFixups .success).status = .success := by
    decide +kernel
  have hvalue := (h.complete hstatus).carried (samePath "/chosen" "user-warnings") (by decide)
    (List.replicate 0x1000 0x21) ⟨_, rfl, "/chosen", by decide +kernel, getProp_warningTree _⟩
    "/chosen"
    (by decide +kernel)
  have hleft : plainFdtLib.getProp (rpi5DtFixupTree plainFdtLib (some (warningTree 0x1000))
      sixteenPages chosenTree (200 + 0x1000) efiDtApplyFixups .success).fdt "/chosen"
      "user-warnings" = none := by
    decide +kernel
  have hproperty : (samePath "/chosen" "user-warnings").property = "user-warnings" := rfl
  rw [hproperty, hleft] at hvalue
  cases hvalue

end Rpi5Uefi
