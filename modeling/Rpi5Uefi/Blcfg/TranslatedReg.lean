import Rpi5Uefi.Fdt.Reserve
import Rpi5Uefi.Lib.BusTranslation

/-!
# The address of a node's registers (`BlGetTranslatedRegAddress`)

The config's region and the power button's GPIO block are found through a node's `reg`, whose
address is carried up through the `ranges` of every bus. `PowerButtonDxe` has a copy of the
function, which is written out here as well. libfdt is not under the source; a tree is what it says
of the tree's nodes (`DeviceTree`).

* **`RegStop.beyondProperty`**: a cell that is read behind the end of its property.
* **`scanRanges_eq`**, **`walkBuses_eq`**: the loop over a table and the one over the buses, in
  terms of `BusTranslation`.
* **`blGetTranslatedRegAddress_translates`**: the function and its copy.

What is in the caller's variables after FALSE is left out; no caller looks at it.
-/

namespace Rpi5Uefi

open Bytes BusTranslation

/-! ## The tree -/

/-- What libfdt says of the nodes of a tree, by their offsets. The root is at 0 and has no parent;
every other node is behind its parent. -/
structure DeviceTree where
  isNode : Nat → Prop
  parentOffset : Nat → Option Nat
  addressCells : Nat → Int
  sizeCells : Nat → Int
  getProp : Nat → String → Option (List UInt8)
  root_parent : parentOffset 0 = none
  node_parent : ∀ {node}, isNode node → node ≠ 0 →
    ∃ parent, parentOffset node = some parent ∧ isNode parent
  parent_lt : ∀ {node parent}, parentOffset node = some parent → parent < node

/-- Why the function stops: a read behind the end of a property, which C does not notice, or
`return FALSE`. -/
inductive RegStop where
  | beyondProperty
  | returnFalse
  deriving DecidableEq, Repr

/-- Cell counts that passed the check. -/
abbrev AddressCells := {n : Nat // 1 ≤ n ∧ n ≤ 2}

abbrev SizeCells := {n : Nat // n ≤ 2}

/-! ## The code -/

/-- `Fdt32ToCpu (Cell[Index])`. -/
def cellAt (prop : List UInt8) (cell : Nat) : Except RegStop Nat :=
  if 4 * cell + 4 ≤ prop.length then .ok (fdtCell prop cell) else .error .beyondProperty

/-- `ReadCells`, from the cell at `cell` on. -/
def readCells (prop : List UInt8) (cell : Nat) : Nat → Except RegStop Nat
  | 0 => .ok 0
  | count + 1 => do
    let value ← readCells prop cell count
    let next ← cellAt prop (cell + count)
    .ok (value <<< 32 % 2 ^ 64 ||| next)

def checkAddressCells (cells : Int) : Except RegStop AddressCells :=
  if h : cells < 1 ∨ cells > 2 then .error .returnFalse else .ok ⟨cells.toNat, by omega⟩

def checkSizeCells (cells : Int) : Except RegStop SizeCells :=
  if h : cells < 0 ∨ cells > 2 then .error .returnFalse else .ok ⟨cells.toNat, by omega⟩

/-- `return FALSE` where there is nothing. -/
def orFalse {α : Type} (a : Option α) : Except RegStop α := a.elim (.error .returnFalse) .ok

/-- The loop over the entries of a table, `length` bytes of which are left at `cell`. -/
def scanRanges (ranges : List UInt8) (addressCells parentCells : AddressCells)
    (sizeCells : SizeCells) (addr cell length : Nat) : Except RegStop (Option Nat) :=
  let entryCells := addressCells.1 + parentCells.1 + sizeCells.1
  if h : entryCells * 4 ≤ length then do
    let childStart ← readCells ranges cell addressCells.1
    let parentStart ← readCells ranges (cell + addressCells.1) parentCells.1
    let rangeSize ← readCells ranges (cell + addressCells.1 + parentCells.1) sizeCells.1
    if addr ≥ childStart ∧ addr - childStart < rangeSize then
      .ok (some ((parentStart + (addr - childStart)) % 2 ^ 64))
    else
      scanRanges ranges addressCells parentCells sizeCells addr (cell + entryCells)
        (length - entryCells * 4)
  else .ok none
termination_by length
decreasing_by
  have := addressCells.2.1
  omega

/-- The address on the bus above, by the `ranges` of a bus. -/
def throughRanges (ranges : Option (List UInt8)) (addressCells parentCells : AddressCells)
    (sizeCells : SizeCells) (addr : Nat) : Except RegStop Nat :=
  match ranges with
  | none => .ok addr
  | some ranges =>
    if ranges.length > 0 then do
      let matched ← scanRanges ranges addressCells parentCells sizeCells addr 0 ranges.length
      orFalse matched
    else .ok addr

/-- `Bus`, its cell counts and `Addr`. -/
structure BusState where
  bus : Nat
  addressCells : AddressCells
  sizeCells : SizeCells
  addr : Nat

/-- One round of the loop over the buses. -/
def nextBus (tree : DeviceTree) (s : BusState) : Except RegStop BusState := do
  let busParent ← orFalse (tree.parentOffset s.bus)
  let parentCells ← checkAddressCells (tree.addressCells busParent)
  let addr ← throughRanges (tree.getProp s.bus "ranges") s.addressCells parentCells s.sizeCells
    s.addr
  let sizeCells ← checkSizeCells (tree.sizeCells busParent)
  .ok ⟨busParent, parentCells, sizeCells, addr⟩

theorem bindOk_iff {α β : Type} {x : Except RegStop α} {f : α → Except RegStop β} {out : β} :
    (x >>= f = .ok out) ↔ ∃ a, x = .ok a ∧ f a = .ok out := by
  rcases x with stop | a
  · exact iff_of_false (by rintro ⟨⟩) (by rintro ⟨_, ⟨⟩, _⟩)
  · exact ⟨fun h => ⟨a, rfl, h⟩, by rintro ⟨_, ⟨⟩, h⟩; exact h⟩

theorem orFalse_ok {α : Type} {a : Option α} {x : α} (h : orFalse a = .ok x) : a = some x := by
  rcases a with _ | y <;> cases h
  rfl

/-- The loop goes up. -/
theorem nextBus_parent {tree : DeviceTree} {s next : BusState} (h : nextBus tree s = .ok next) :
    tree.parentOffset s.bus = some next.bus := by
  obtain ⟨busParent, hparent, h⟩ := bindOk_iff.mp h
  obtain ⟨parentCells, -, h⟩ := bindOk_iff.mp h
  obtain ⟨addr, -, h⟩ := bindOk_iff.mp h
  obtain ⟨sizeCells, -, h⟩ := bindOk_iff.mp h
  cases h
  exact orFalse_ok hparent

/-- The loop over the buses. -/
def walkBuses (tree : DeviceTree) (s : BusState) : Except RegStop Nat :=
  if s.bus > 0 then
    match _h : nextBus tree s with
    | .error stop => .error stop
    | .ok next => walkBuses tree next
  else .ok s.addr
termination_by s.bus
decreasing_by exact tree.parent_lt (nextBus_parent _h)

/-- `BlGetTranslatedRegAddress`: the address and the size, where it returns TRUE. -/
def blGetTranslatedRegAddress (tree : DeviceTree) (nodeOffset : Nat) :
    Except RegStop (Nat × Nat) := do
  let bus ← orFalse (tree.parentOffset nodeOffset)
  let addressCells ← checkAddressCells (tree.addressCells bus)
  let sizeCells ← checkSizeCells (tree.sizeCells bus)
  let reg ← orFalse (tree.getProp nodeOffset "reg")
  if reg.length < (addressCells.1 + sizeCells.1) * 4 then .error .returnFalse
  else do
    let addr ← readCells reg 0 addressCells.1
    let size ← readCells reg addressCells.1 sizeCells.1
    let address ← walkBuses tree ⟨bus, addressCells, sizeCells, addr⟩
    .ok (address, size)

/-! ## The copy of `PowerButtonDxe` -/

namespace PowerButton

def readCells (prop : List UInt8) (cell : Nat) : Nat → Except RegStop Nat
  | 0 => .ok 0
  | count + 1 => do
    let value ← readCells prop cell count
    let next ← cellAt prop (cell + count)
    .ok (value <<< 32 % 2 ^ 64 ||| next)

def scanRanges (ranges : List UInt8) (addressCells parentCells : AddressCells)
    (sizeCells : SizeCells) (addr cell length : Nat) : Except RegStop (Option Nat) :=
  let entryCells := addressCells.1 + parentCells.1 + sizeCells.1
  if h : entryCells * 4 ≤ length then do
    let childStart ← readCells ranges cell addressCells.1
    let parentStart ← readCells ranges (cell + addressCells.1) parentCells.1
    let rangeSize ← readCells ranges (cell + addressCells.1 + parentCells.1) sizeCells.1
    if addr ≥ childStart ∧ addr - childStart < rangeSize then
      .ok (some ((parentStart + (addr - childStart)) % 2 ^ 64))
    else
      scanRanges ranges addressCells parentCells sizeCells addr (cell + entryCells)
        (length - entryCells * 4)
  else .ok none
termination_by length
decreasing_by
  have := addressCells.2.1
  omega

def throughRanges (ranges : Option (List UInt8)) (addressCells parentCells : AddressCells)
    (sizeCells : SizeCells) (addr : Nat) : Except RegStop Nat :=
  match ranges with
  | none => .ok addr
  | some ranges =>
    if ranges.length > 0 then do
      let matched ← scanRanges ranges addressCells parentCells sizeCells addr 0 ranges.length
      orFalse matched
    else .ok addr

def nextBus (tree : DeviceTree) (s : BusState) : Except RegStop BusState := do
  let busParent ← orFalse (tree.parentOffset s.bus)
  let parentCells ← checkAddressCells (tree.addressCells busParent)
  let addr ← throughRanges (tree.getProp s.bus "ranges") s.addressCells parentCells s.sizeCells
    s.addr
  let sizeCells ← checkSizeCells (tree.sizeCells busParent)
  .ok ⟨busParent, parentCells, sizeCells, addr⟩

theorem nextBus_parent {tree : DeviceTree} {s next : BusState} (h : nextBus tree s = .ok next) :
    tree.parentOffset s.bus = some next.bus := by
  obtain ⟨busParent, hparent, h⟩ := bindOk_iff.mp h
  obtain ⟨parentCells, -, h⟩ := bindOk_iff.mp h
  obtain ⟨addr, -, h⟩ := bindOk_iff.mp h
  obtain ⟨sizeCells, -, h⟩ := bindOk_iff.mp h
  cases h
  exact orFalse_ok hparent

def walkBuses (tree : DeviceTree) (s : BusState) : Except RegStop Nat :=
  if s.bus > 0 then
    match _h : nextBus tree s with
    | .error stop => .error stop
    | .ok next => walkBuses tree next
  else .ok s.addr
termination_by s.bus
decreasing_by exact tree.parent_lt (nextBus_parent _h)

/-- `GetTranslatedRegAddress`. -/
def getTranslatedRegAddress (tree : DeviceTree) (nodeOffset : Nat) :
    Except RegStop (Nat × Nat) := do
  let bus ← orFalse (tree.parentOffset nodeOffset)
  let addressCells ← checkAddressCells (tree.addressCells bus)
  let sizeCells ← checkSizeCells (tree.sizeCells bus)
  let reg ← orFalse (tree.getProp nodeOffset "reg")
  if reg.length < (addressCells.1 + sizeCells.1) * 4 then .error .returnFalse
  else do
    let addr ← readCells reg 0 addressCells.1
    let size ← readCells reg addressCells.1 sizeCells.1
    let address ← walkBuses tree ⟨bus, addressCells, sizeCells, addr⟩
    .ok (address, size)

end PowerButton

/-! ## What the specification says -/

namespace DeviceTree

variable (tree : DeviceTree)

/-- The cell counts the function knows. -/
def Supported (bus : Nat) : Prop :=
  (1 ≤ tree.addressCells bus ∧ tree.addressCells bus ≤ 2) ∧
    (0 ≤ tree.sizeCells bus ∧ tree.sizeCells bus ≤ 2)

instance (bus : Nat) : Decidable (tree.Supported bus) := inferInstanceAs (Decidable (_ ∧ _))

/-- A node as a bus; a missing `ranges` counts as an empty one. -/
def toBus (bus : Nat) : Bus :=
  ⟨(tree.addressCells bus).toNat, (tree.sizeCells bus).toNat, (tree.getProp bus "ranges").getD []⟩

/-- A bus and those above it, up to the root. -/
def upFrom (bus : Nat) : List Nat :=
  match _h : tree.parentOffset bus with
  | some parent => bus :: upFrom parent
  | none => [bus]
termination_by bus
decreasing_by exact tree.parent_lt _h

/-- The levels above a node. -/
def levels (node : Nat) : List Nat := (tree.parentOffset node).elim [] tree.upFrom

/-- The translation of an address of a bus to one of the root. -/
def translateFrom (bus addr : Nat) : Option Nat := translate ((tree.upFrom bus).map tree.toBus) addr

/-- The address and the size of the first entry of a `reg` on a bus. -/
def firstReg (bus : Nat) (reg : List UInt8) : Nat × Nat :=
  let b := tree.toBus bus
  (beNat (reg.take (4 * b.addressCells)),
    beNat ((reg.drop (4 * b.addressCells)).take (4 * b.sizeCells)))

/-- The node's `reg` is missing, or shorter than an entry. -/
def RegShort (node bus : Nat) : Prop :=
  ∀ reg, tree.getProp node "reg" = some reg →
    (reg.length : Int) < 4 * (tree.addressCells bus + tree.sizeCells bus)

end DeviceTree

variable {tree : DeviceTree} {bus node parent : Nat}

theorem DeviceTree.upFrom_of_parent (h : tree.parentOffset bus = some parent) :
    tree.upFrom bus = bus :: tree.upFrom parent := by
  rw [DeviceTree.upFrom]
  split
  · rename_i other hother
    rw [h] at hother
    cases hother
    rfl
  · rename_i hnone
    rw [h] at hnone
    cases hnone

theorem DeviceTree.upFrom_root : tree.upFrom 0 = [0] := by
  rw [DeviceTree.upFrom]
  split
  · rename_i other hother
    rw [tree.root_parent] at hother
    cases hother
  · rfl

theorem DeviceTree.head_upFrom (bus : Nat) : ∃ above, tree.upFrom bus = bus :: above := by
  rw [DeviceTree.upFrom]
  split
  · exact ⟨_, rfl⟩
  · exact ⟨[], rfl⟩

/-! ## Cells -/

theorem cellAt_eq {prop : List UInt8} {cell : Nat} (h : 4 * (cell + 1) ≤ prop.length) :
    cellAt prop cell = .ok (beNat ((prop.drop (4 * cell)).take 4)) := by
  have hget (i : Nat) : prop.getD (4 * cell + i) 0 = (prop.drop (4 * cell)).getD i 0 := by
    rw [List.getD_eq_getElem?_getD, List.getD_eq_getElem?_getD, List.getElem?_drop]
  have hlen : 4 ≤ (prop.drop (4 * cell)).length := by
    rw [List.length_drop]
    omega
  unfold cellAt
  rw [if_pos (show 4 * cell + 4 ≤ prop.length by omega)]
  unfold fdtCell be32
  beta_reduce
  rw [hget 1, hget 2, hget 3, ← Nat.add_zero (4 * cell), hget 0, Nat.add_zero]
  obtain ⟨b0, b1, b2, b3, rest, hrest⟩ : ∃ b0 b1 b2 b3 rest,
      prop.drop (4 * cell) = b0 :: b1 :: b2 :: b3 :: rest := by
    generalize prop.drop (4 * cell) = cells at hlen
    rcases cells with _ | ⟨b0, _ | ⟨b1, _ | ⟨b2, _ | ⟨b3, rest⟩⟩⟩⟩
    case cons.cons.cons.cons => exact ⟨b0, b1, b2, b3, rest, rfl⟩
    all_goals
      simp only [List.length_cons, List.length_nil] at hlen
      omega
  rw [hrest]
  simp only [List.getD_cons_zero, List.getD_cons_succ, List.take_succ_cons, List.take_zero,
    beNat, List.foldl_cons, List.foldl_nil]
  exact congrArg Except.ok (by omega)

/-- The first `count` cells of a number, and the shift for the next one. -/
theorem readCells_eq {prop : List UInt8} {cell count : Nat} (hcount : count ≤ 2)
    (h : 4 * (cell + count) ≤ prop.length) :
    readCells prop cell count = .ok (beNat ((prop.drop (4 * cell)).take (4 * count))) := by
  induction count with
  | zero => rfl
  | succ count ih =>
    have hvalue := beNat_lt ((prop.drop (4 * cell)).take (4 * count))
    have hnext := beNat_lt ((prop.drop (4 * (cell + count))).take 4)
    have hcells : (prop.drop (4 * cell)).take (4 * (count + 1)) =
        (prop.drop (4 * cell)).take (4 * count) ++ (prop.drop (4 * (cell + count))).take 4 := by
      rw [Nat.mul_succ, List.take_add, List.drop_drop, Nat.mul_add]
    have hlenNext : ((prop.drop (4 * (cell + count))).take 4).length = 4 := by
      rw [List.length_take, List.length_drop]
      omega
    have hlen : ((prop.drop (4 * cell)).take (4 * count)).length = 4 * count := by
      rw [List.length_take, List.length_drop]
      omega
    rw [hlen] at hvalue
    rw [hlenNext] at hnext
    rw [hcells, beNat_append, hlenNext]
    generalize beNat ((prop.drop (4 * cell)).take (4 * count)) = value at *
    generalize hb : beNat ((prop.drop (4 * (cell + count))).take 4) = next at *
    -- at most one cell is there already, and is not shifted out
    have hsmall : value < 2 ^ 32 :=
      Nat.lt_of_lt_of_le hvalue
        (Nat.pow_le_pow_right (n := 256) (by decide) (show 4 * count ≤ 4 by omega))
    unfold readCells
    rw [ih (by omega) (by omega), cellAt_eq (by omega), hb]
    show Except.ok (value <<< 32 % 2 ^ 64 ||| next) = Except.ok (value * 256 ^ 4 + next)
    have hfit : value <<< 32 < 2 ^ 64 := by
      rw [Nat.shiftLeft_eq]
      omega
    rw [Nat.mod_eq_of_lt hfit, ← Nat.shiftLeft_add_eq_or_of_lt hnext, Nat.shiftLeft_eq]
    rfl

/-! ## One bus -/

theorem scanRanges_eq (ranges : List UInt8) (ac pc : AddressCells) (sc : SizeCells)
    (addr : Nat) {cell length : Nat} (h : 4 * cell + length = ranges.length) :
    scanRanges ranges ac pc sc addr cell length =
      .ok (((Bus.entries ⟨ac.1, sc.1, ranges⟩ pc.1 (ranges.drop (4 * cell))).find?
        fun r => r.Covers addr).map fun r => r.image addr) := by
  induction length using Nat.strongRecOn generalizing cell with
  | ind length ih =>
    have hac := ac.2
    have hpc := pc.2
    have hsc := sc.2
    have hlen : (ranges.drop (4 * cell)).length = length := by
      rw [List.length_drop]
      omega
    have hentry : Bus.entryBytes ⟨ac.1, sc.1, ranges⟩ pc.1 = 4 * (ac.1 + pc.1 + sc.1) := rfl
    rw [scanRanges, Bus.entries_eq (by omega), hlen, hentry]
    by_cases hle : (ac.1 + pc.1 + sc.1) * 4 ≤ length
    · have hhead : Bus.entry ⟨ac.1, sc.1, ranges⟩ pc.1 (ranges.drop (4 * cell)) =
          ⟨beNat ((ranges.drop (4 * cell)).take (4 * ac.1)),
            beNat ((ranges.drop (4 * (cell + ac.1))).take (4 * pc.1)),
            beNat ((ranges.drop (4 * (cell + ac.1 + pc.1))).take (4 * sc.1))⟩ := by
        unfold Bus.entry
        rw [List.drop_drop, List.drop_drop, ← Nat.mul_add, ← Nat.mul_add, Nat.add_assoc cell]
      rw [dif_pos hle, if_pos (by omega), readCells_eq hac.2 (by omega),
        readCells_eq hpc.2 (by omega), readCells_eq hsc (by omega), hhead]
      generalize beNat ((ranges.drop (4 * cell)).take (4 * ac.1)) = childStart
      generalize beNat ((ranges.drop (4 * (cell + ac.1))).take (4 * pc.1)) = parentStart
      generalize beNat ((ranges.drop (4 * (cell + ac.1 + pc.1))).take (4 * sc.1)) = rangeSize
      show (if addr ≥ childStart ∧ addr - childStart < rangeSize then
        Except.ok (some ((parentStart + (addr - childStart)) % 2 ^ 64))
        else scanRanges ranges ac pc sc addr (cell + (ac.1 + pc.1 + sc.1))
          (length - (ac.1 + pc.1 + sc.1) * 4)) = _
      by_cases hcovers : Range.Covers ⟨childStart, parentStart, rangeSize⟩ addr
      · rw [if_pos ⟨hcovers.1, Nat.sub_lt_left_of_lt_add hcovers.1 hcovers.2⟩,
          List.find?_cons_of_pos (by simpa using hcovers)]
        rfl
      · have hmiss : ¬(addr ≥ childStart ∧ addr - childStart < rangeSize) := fun hin =>
          hcovers ⟨hin.1, (Nat.sub_lt_iff_lt_add' hin.1).mp hin.2⟩
        rw [if_neg hmiss, List.find?_cons_of_neg (by simpa using hcovers),
          ih _ (by omega) (by omega), List.drop_drop, ← Nat.mul_add]
    · rw [dif_neg hle, if_neg (by omega)]
      rfl

theorem throughRanges_eq (ranges : Option (List UInt8)) (ac pc : AddressCells) (sc : SizeCells)
    (addr : Nat) :
    throughRanges ranges ac pc sc addr =
      orFalse (Bus.toParent ⟨ac.1, sc.1, ranges.getD []⟩ pc.1 addr) := by
  cases ranges with
  | none => rfl
  | some ranges =>
    show (if ranges.length > 0 then _ else _) = orFalse (if ranges = [] then _ else _)
    by_cases hempty : ranges = []
    · rw [if_pos hempty, if_neg (by simp [hempty])]
      rfl
    · rw [if_neg hempty, if_pos (List.length_pos_iff.mpr hempty),
        scanRanges_eq ranges ac pc sc addr (by omega)]
      rfl

/-! ## The path to the root -/

theorem checkAddressCells_ok {cells : Int} {ac : AddressCells}
    (h : checkAddressCells cells = .ok ac) : cells.toNat = ac.1 ∧ 1 ≤ cells ∧ cells ≤ 2 := by
  unfold checkAddressCells at h
  split at h
  · cases h
  · cases h
    exact ⟨rfl, by omega, by omega⟩

theorem checkAddressCells_error {cells : Int} {stop : RegStop}
    (h : checkAddressCells cells = .error stop) :
    stop = .returnFalse ∧ ¬(1 ≤ cells ∧ cells ≤ 2) := by
  unfold checkAddressCells at h
  split at h
  · cases h
    exact ⟨rfl, by omega⟩
  · cases h

theorem checkSizeCells_ok {cells : Int} {sc : SizeCells} (h : checkSizeCells cells = .ok sc) :
    cells.toNat = sc.1 ∧ 0 ≤ cells ∧ cells ≤ 2 := by
  unfold checkSizeCells at h
  split at h
  · cases h
  · cases h
    exact ⟨rfl, by omega, by omega⟩

theorem checkSizeCells_error {cells : Int} {stop : RegStop}
    (h : checkSizeCells cells = .error stop) :
    stop = .returnFalse ∧ ¬(0 ≤ cells ∧ cells ≤ 2) := by
  unfold checkSizeCells at h
  split at h
  · cases h
    exact ⟨rfl, by omega⟩
  · cases h

/-- The state of the loop at a bus with its own cell counts. -/
structure BusState.Valid (tree : DeviceTree) (s : BusState) : Prop where
  isNode : tree.isNode s.bus
  supported : tree.Supported s.bus
  addressCells : (tree.addressCells s.bus).toNat = s.addressCells.1
  sizeCells : (tree.sizeCells s.bus).toNat = s.sizeCells.1

theorem DeviceTree.translateFrom_of_parent (h : tree.parentOffset bus = some parent) (addr : Nat) :
    tree.translateFrom bus addr =
      ((tree.toBus bus).toParent (tree.toBus parent).addressCells addr).bind
        (tree.translateFrom parent) := by
  obtain ⟨above, habove⟩ := tree.head_upFrom parent
  unfold DeviceTree.translateFrom
  rw [DeviceTree.upFrom_of_parent h, habove]
  rfl

theorem nextBus_eq {s : BusState} (hparent : tree.parentOffset s.bus = some parent) :
    nextBus tree s =
      (checkAddressCells (tree.addressCells parent)).bind fun pc =>
        (throughRanges (tree.getProp s.bus "ranges") s.addressCells pc s.sizeCells s.addr).bind
          fun addr => (checkSizeCells (tree.sizeCells parent)).bind fun sc =>
            .ok ⟨parent, pc, sc, addr⟩ := by
  unfold nextBus
  rw [hparent]
  rfl

/-- One round: the parent's bus, with the address there. -/
theorem nextBus_cases {s : BusState} (hvalid : s.Valid tree)
    (hparent : tree.parentOffset s.bus = some parent) (hnode : tree.isNode parent) :
    (∃ next, nextBus tree s = .ok next ∧ next.bus = parent ∧ next.Valid tree ∧
      (tree.toBus s.bus).toParent (tree.toBus parent).addressCells s.addr = some next.addr) ∨
    nextBus tree s = .error .returnFalse ∧
      (¬tree.Supported parent ∨
        (tree.toBus s.bus).toParent (tree.toBus parent).addressCells s.addr = none) := by
  rw [nextBus_eq hparent]
  cases hac : checkAddressCells (tree.addressCells parent) with
  | error stop =>
    obtain ⟨rfl, hcells⟩ := checkAddressCells_error hac
    exact Or.inr ⟨rfl, Or.inl fun hs => hcells hs.1⟩
  | ok pc =>
    obtain ⟨hpc, hpcells⟩ := checkAddressCells_ok hac
    have hbus : tree.toBus s.bus =
        ⟨s.addressCells.1, s.sizeCells.1, (tree.getProp s.bus "ranges").getD []⟩ := by
      unfold DeviceTree.toBus
      rw [hvalid.addressCells, hvalid.sizeCells]
    have hthrough : throughRanges (tree.getProp s.bus "ranges") s.addressCells pc s.sizeCells
        s.addr =
          orFalse ((tree.toBus s.bus).toParent (tree.toBus parent).addressCells s.addr) := by
      rw [throughRanges_eq, ← hbus, ← hpc]
      rfl
    show (∃ next, (throughRanges _ _ _ _ _).bind _ = _ ∧ _) ∨
      (throughRanges _ _ _ _ _).bind _ = _ ∧ _
    rw [hthrough]
    cases htop : (tree.toBus s.bus).toParent (tree.toBus parent).addressCells s.addr with
    | none => exact Or.inr ⟨rfl, Or.inr rfl⟩
    | some addr =>
      cases hsc : checkSizeCells (tree.sizeCells parent) with
      | error stop =>
        obtain ⟨rfl, hcells⟩ := checkSizeCells_error hsc
        exact Or.inr ⟨rfl, Or.inl fun hs => hcells hs.2⟩
      | ok sc =>
        obtain ⟨hsc', hscells⟩ := checkSizeCells_ok hsc
        exact Or.inl ⟨⟨parent, pc, sc, addr⟩, rfl, rfl,
          ⟨hnode, ⟨hpcells, hscells⟩, hpc, hsc'⟩, rfl⟩

/-- What the loop returns: the translation, where every level from here on is supported. -/
def translation (tree : DeviceTree) (bus addr : Nat) : Except RegStop Nat :=
  if ∀ level ∈ tree.upFrom bus, tree.Supported level then orFalse (tree.translateFrom bus addr)
  else .error .returnFalse

/-- A translation is found, or there is a level that is not supported or has no entry. -/
theorem translation_cases (tree : DeviceTree) (bus addr : Nat) :
    (∃ address, translation tree bus addr = .ok address ∧
        (∀ level ∈ tree.upFrom bus, tree.Supported level) ∧
        tree.translateFrom bus addr = some address) ∨
      translation tree bus addr = .error .returnFalse ∧
        ((∃ level ∈ tree.upFrom bus, ¬tree.Supported level) ∨
          Unmatched ((tree.upFrom bus).map tree.toBus) addr) := by
  unfold translation
  by_cases hall : ∀ level ∈ tree.upFrom bus, tree.Supported level
  · rw [if_pos hall]
    cases haddress : tree.translateFrom bus addr with
    | none => exact Or.inr ⟨rfl, Or.inr ((translate_eq_none_iff _ _).mp haddress)⟩
    | some address => exact Or.inl ⟨address, rfl, hall, rfl⟩
  · rw [if_neg hall]
    exact Or.inr ⟨rfl, Or.inl (by simpa using hall)⟩

theorem walkBuses_of_ok {s next : BusState} (hpos : s.bus > 0)
    (hnext : nextBus tree s = .ok next) : walkBuses tree s = walkBuses tree next := by
  rw [walkBuses, if_pos hpos]
  split
  · rename_i stop herror
    rw [hnext] at herror
    cases herror
  · rename_i next' hok
    rw [hnext] at hok
    cases hok
    rfl

theorem walkBuses_of_error {s : BusState} {stop : RegStop} (hpos : s.bus > 0)
    (hnext : nextBus tree s = .error stop) : walkBuses tree s = .error stop := by
  rw [walkBuses, if_pos hpos]
  split
  · rename_i stop' herror
    rw [hnext] at herror
    cases herror
    rfl
  · rename_i next hok
    rw [hnext] at hok
    cases hok

/-- **The loop over the buses translates.** -/
theorem walkBuses_eq {s : BusState} (hvalid : s.Valid tree) :
    walkBuses tree s = translation tree s.bus s.addr := by
  obtain ⟨n, hn⟩ : ∃ n, s.bus = n := ⟨s.bus, rfl⟩
  induction n using Nat.strongRecOn generalizing s with
  | ind n ih =>
    unfold translation
    by_cases hpos : s.bus > 0
    · obtain ⟨parent, hparent, hnode⟩ := tree.node_parent hvalid.isNode (Nat.ne_of_gt hpos)
      have hlt := tree.parent_lt hparent
      have hall : (∀ level ∈ tree.upFrom s.bus, tree.Supported level) ↔
          ∀ level ∈ tree.upFrom parent, tree.Supported level := by
        rw [DeviceTree.upFrom_of_parent hparent, List.forall_mem_cons]
        exact and_iff_right hvalid.supported
      rw [DeviceTree.translateFrom_of_parent hparent, if_congr hall rfl rfl]
      rcases nextBus_cases hvalid hparent hnode with
        ⟨next, hnext, hbus, hvalid', haddr⟩ | ⟨hnext, hstop⟩
      · rw [walkBuses_of_ok hpos hnext, ih next.bus (by omega) hvalid' rfl, haddr, hbus]
        rfl
      · rw [walkBuses_of_error hpos hnext]
        rcases hstop with hunsupported | hunmatched
        · have hfail : ¬∀ level ∈ tree.upFrom parent, tree.Supported level := by
            obtain ⟨above, habove⟩ := tree.head_upFrom parent
            rw [habove]
            exact fun h => hunsupported (h parent List.mem_cons_self)
          rw [if_neg hfail]
        · rw [hunmatched]
          exact (ite_self _).symm
    · have hroot : s.bus = 0 := by omega
      have hsupported := hvalid.supported
      rw [walkBuses, if_neg hpos]
      unfold DeviceTree.translateFrom
      rw [hroot] at hsupported ⊢
      rw [DeviceTree.upFrom_root, if_pos (by simpa using hsupported)]
      rfl

/-! ## The two copies -/

theorem readCells_copy (prop : List UInt8) (cell count : Nat) :
    PowerButton.readCells prop cell count = readCells prop cell count := by
  induction count with
  | zero => rfl
  | succ count ih =>
    unfold PowerButton.readCells readCells
    rw [ih]

theorem scanRanges_copy (ranges : List UInt8) (ac pc : AddressCells)
    (sc : SizeCells) (addr cell length : Nat) :
    PowerButton.scanRanges ranges ac pc sc addr cell length =
      scanRanges ranges ac pc sc addr cell length := by
  induction length using Nat.strongRecOn generalizing cell with
  | ind length ih =>
    have hac := ac.2.1
    rw [PowerButton.scanRanges, scanRanges]
    simp only [readCells_copy]
    by_cases hle : (ac.1 + pc.1 + sc.1) * 4 ≤ length
    · rw [dif_pos hle, dif_pos hle, ih _ (by omega)]
    · rw [dif_neg hle, dif_neg hle]

theorem nextBus_copy (tree : DeviceTree) (s : BusState) :
    PowerButton.nextBus tree s = nextBus tree s := by
  unfold PowerButton.nextBus nextBus PowerButton.throughRanges throughRanges
  simp only [scanRanges_copy]

theorem walkBuses_copy (tree : DeviceTree) (s : BusState) :
    PowerButton.walkBuses tree s = walkBuses tree s := by
  obtain ⟨n, hn⟩ : ∃ n, s.bus = n := ⟨s.bus, rfl⟩
  induction n using Nat.strongRecOn generalizing s with
  | ind n ih =>
    by_cases hpos : s.bus > 0
    · rw [PowerButton.walkBuses, if_pos hpos]
      split
      · rename_i stop herror
        rw [nextBus_copy] at herror
        exact (walkBuses_of_error hpos herror).symm
      · rename_i next hok
        rw [nextBus_copy] at hok
        have hlt := tree.parent_lt (nextBus_parent hok)
        rw [walkBuses_of_ok hpos hok, ih next.bus (by omega) next rfl]
    · rw [PowerButton.walkBuses, walkBuses, if_neg hpos, if_neg hpos]

theorem getTranslatedRegAddress_copy (tree : DeviceTree) (node : Nat) :
    PowerButton.getTranslatedRegAddress tree node = blGetTranslatedRegAddress tree node := by
  unfold PowerButton.getTranslatedRegAddress blGetTranslatedRegAddress
  simp only [readCells_copy, walkBuses_copy]

/-! ## The function -/

theorem blGetTranslatedRegAddress_bus (hparent : tree.parentOffset node = some bus) :
    blGetTranslatedRegAddress tree node =
      (checkAddressCells (tree.addressCells bus)).bind fun ac =>
        (checkSizeCells (tree.sizeCells bus)).bind fun sc =>
          (orFalse (tree.getProp node "reg")).bind fun reg =>
            if reg.length < (ac.1 + sc.1) * 4 then .error .returnFalse
            else
              (readCells reg 0 ac.1).bind fun addr => (readCells reg ac.1 sc.1).bind fun size =>
                (walkBuses tree ⟨bus, ac, sc, addr⟩).bind fun address => .ok (address, size) := by
  unfold blGetTranslatedRegAddress
  rw [hparent]
  rfl

/-- What the result is for a node on a bus: the levels, its `reg`, and the translation. -/
inductive RegResult (tree : DeviceTree) (node bus : Nat) : Except RegStop (Nat × Nat) → Prop where
  | found {reg : List UInt8} {address : Nat}
      (hlevels : ∀ level ∈ tree.levels node, tree.Supported level)
      (hreg : tree.getProp node "reg" = some reg) (hlong : ¬tree.RegShort node bus)
      (haddress : tree.translateFrom bus (tree.firstReg bus reg).1 = some address) :
      RegResult tree node bus (.ok (address, (tree.firstReg bus reg).2))
  | unsupported {level : Nat} (hmem : level ∈ tree.levels node) (hlevel : ¬tree.Supported level) :
      RegResult tree node bus (.error .returnFalse)
  | short (hshort : tree.RegShort node bus) : RegResult tree node bus (.error .returnFalse)
  | unmatched {reg : List UInt8} (hreg : tree.getProp node "reg" = some reg)
      (hunmatched : Unmatched ((tree.upFrom bus).map tree.toBus) (tree.firstReg bus reg).1) :
      RegResult tree node bus (.error .returnFalse)

theorem blGetTranslatedRegAddress_result (hparent : tree.parentOffset node = some bus)
    (hbus : tree.isNode bus) :
    RegResult tree node bus (blGetTranslatedRegAddress tree node) := by
  have hlevels : tree.levels node = tree.upFrom bus := by
    unfold DeviceTree.levels
    rw [hparent]
    rfl
  have hmem : bus ∈ tree.levels node := by
    obtain ⟨above, habove⟩ := tree.head_upFrom bus
    rw [hlevels, habove]
    exact List.mem_cons_self
  rw [blGetTranslatedRegAddress_bus hparent]
  cases hac : checkAddressCells (tree.addressCells bus) with
  | error stop =>
    obtain ⟨rfl, hcells⟩ := checkAddressCells_error hac
    exact .unsupported hmem fun hs => hcells hs.1
  | ok ac =>
    cases hsc : checkSizeCells (tree.sizeCells bus) with
    | error stop =>
      obtain ⟨rfl, hcells⟩ := checkSizeCells_error hsc
      exact .unsupported hmem fun hs => hcells hs.2
    | ok sc =>
      cases hreg : tree.getProp node "reg" with
      | none => exact .short fun reg h => absurd (hreg.symm.trans h) (by rintro ⟨⟩)
      | some reg =>
        obtain ⟨hac', hacells⟩ := checkAddressCells_ok hac
        obtain ⟨hsc', hscells⟩ := checkSizeCells_ok hsc
        have hfirst : tree.firstReg bus reg =
            (beNat (reg.take (4 * ac.1)), beNat ((reg.drop (4 * ac.1)).take (4 * sc.1))) := by
          unfold DeviceTree.firstReg DeviceTree.toBus
          rw [hac', hsc']
        show RegResult tree node bus (if reg.length < (ac.1 + sc.1) * 4 then _ else _)
        by_cases hlen : reg.length < (ac.1 + sc.1) * 4
        · rw [if_pos hlen]
          refine .short fun reg' h => ?_
          cases hreg.symm.trans h
          omega
        · have hlong : ¬tree.RegShort node bus := fun h => hlen (by
            have := h reg hreg
            omega)
          have hvalid : BusState.Valid tree ⟨bus, ac, sc, beNat (reg.take (4 * ac.1))⟩ :=
            ⟨hbus, ⟨hacells, hscells⟩, hac', hsc'⟩
          rw [if_neg hlen, readCells_eq ac.2.2 (by omega), readCells_eq sc.2 (by omega)]
          show RegResult tree node bus ((walkBuses tree
            ⟨bus, ac, sc, beNat (reg.take (4 * ac.1))⟩).bind fun address =>
              .ok (address, beNat ((reg.drop (4 * ac.1)).take (4 * sc.1))))
          rw [walkBuses_eq hvalid]
          rcases translation_cases tree bus (beNat (reg.take (4 * ac.1))) with
            ⟨address, htranslation, hall, haddress⟩ |
              ⟨htranslation, ⟨level, hlevel, hnot⟩ | hunmatched⟩
          · have hfound : RegResult tree node bus (.ok (address, (tree.firstReg bus reg).2)) :=
              .found (hlevels ▸ hall) hreg hlong (by rw [hfirst]; exact haddress)
            rw [hfirst] at hfound
            rw [htranslation]
            exact hfound
          · rw [htranslation]
            exact .unsupported (hlevels ▸ hlevel) hnot
          · rw [htranslation]
            exact .unmatched hreg (by rw [hfirst]; exact hunmatched)

/-- **The register address is the translated one.** For every node of every tree no property is read
behind its end; after TRUE the address is the translation of the first of the node's `reg` and the
size is that of `reg`. FALSE is for the root, which is on no bus, and where a level is not
supported, `reg` is too short or a table has no entry. The two drivers' functions agree. -/
theorem blGetTranslatedRegAddress_translates (tree : DeviceTree) {node : Nat}
    (hnode : tree.isNode node) :
    blGetTranslatedRegAddress tree node ≠ .error .beyondProperty ∧
    (∀ address size, blGetTranslatedRegAddress tree node = .ok (address, size) →
      ∃ bus reg, tree.parentOffset node = some bus ∧ tree.getProp node "reg" = some reg ∧
        tree.translateFrom bus (tree.firstReg bus reg).1 = some address ∧
        size = (tree.firstReg bus reg).2) ∧
    (blGetTranslatedRegAddress tree node = .error .returnFalse ↔
      node = 0 ∨ ∃ bus, tree.parentOffset node = some bus ∧
        ((∃ level ∈ tree.levels node, ¬tree.Supported level) ∨ tree.RegShort node bus ∨
          ∃ reg, tree.getProp node "reg" = some reg ∧
            Unmatched ((tree.upFrom bus).map tree.toBus) (tree.firstReg bus reg).1)) ∧
    PowerButton.getTranslatedRegAddress tree node = blGetTranslatedRegAddress tree node := by
  by_cases hroot : node = 0
  · have hresult : blGetTranslatedRegAddress tree node = .error .returnFalse := by
      unfold blGetTranslatedRegAddress
      rw [hroot, tree.root_parent]
      rfl
    rw [getTranslatedRegAddress_copy, hresult]
    exact ⟨by rintro ⟨⟩, by rintro _ _ ⟨⟩, iff_of_true rfl (Or.inl hroot), rfl⟩
  · obtain ⟨bus, hparent, hbus⟩ := tree.node_parent hnode hroot
    have hcases := blGetTranslatedRegAddress_result hparent hbus
    rw [getTranslatedRegAddress_copy]
    revert hcases
    generalize blGetTranslatedRegAddress tree node = result
    rintro (⟨hlevels, hreg, hlong, haddress⟩ | ⟨hmem, hlevel⟩ | hshort | ⟨hreg, hunmatched⟩)
    · refine ⟨by rintro ⟨⟩, ?_, iff_of_false (by rintro ⟨⟩) ?_, rfl⟩
      · rintro _ _ ⟨⟩
        exact ⟨bus, _, hparent, hreg, haddress, rfl⟩
      · rintro (hzero | ⟨bus', hparent', ⟨level, hmem, hlevel⟩ | hshort | ⟨reg', hreg', hnone⟩⟩)
        · exact hroot hzero
        · exact hlevel (hlevels level hmem)
        · cases hparent.symm.trans hparent'
          exact hlong hshort
        · cases hparent.symm.trans hparent'
          cases hreg.symm.trans hreg'
          have hnot := (translate_eq_none_iff _ _).mpr hnone
          exact absurd (haddress.symm.trans hnot) (by rintro ⟨⟩)
    · exact ⟨by rintro ⟨⟩, by rintro _ _ ⟨⟩,
        iff_of_true rfl (Or.inr ⟨bus, hparent, Or.inl ⟨_, hmem, hlevel⟩⟩), rfl⟩
    · exact ⟨by rintro ⟨⟩, by rintro _ _ ⟨⟩,
        iff_of_true rfl (Or.inr ⟨bus, hparent, Or.inr (Or.inl hshort)⟩), rfl⟩
    · exact ⟨by rintro ⟨⟩, by rintro _ _ ⟨⟩,
        iff_of_true rfl (Or.inr ⟨bus, hparent, Or.inr (Or.inr ⟨_, hreg, hunmatched⟩)⟩), rfl⟩

/-- A root with one bus of other cell counts, and a node on it. -/
def socTree : DeviceTree where
  isNode node := node = 0 ∨ node = 4 ∨ node = 8
  parentOffset node := if node = 8 then some 4 else if node = 4 then some 0 else none
  addressCells node := if node = 0 then 2 else 1
  sizeCells _ := 1
  getProp node name :=
    if node = 8 ∧ name = "reg" then some ([0x7D508500, 0x40].flatMap be32Bytes)
    else if node = 4 ∧ name = "ranges" then
      some ([0, 0, 0, 0x1000, 0x7C000000, 0x10, 0x7C000000, 0x04000000].flatMap be32Bytes)
    else none
  root_parent := rfl
  node_parent := by
    rintro node (rfl | rfl | rfl) hroot
    · exact absurd rfl hroot
    · exact ⟨0, rfl, Or.inl rfl⟩
    · exact ⟨4, rfl, Or.inr (Or.inl rfl)⟩
  parent_lt := by
    intro node parent h
    split at h
    · cases h
      omega
    · split at h <;> cases h
      omega

theorem socTree_translates : blGetTranslatedRegAddress socTree 8 = .ok (0x107D508500, 0x40) := by
  have hreg : socTree.getProp 8 "reg" = some ([0x7D508500, 0x40].flatMap be32Bytes) := rfl
  have hfirst : socTree.firstReg 4 ([0x7D508500, 0x40].flatMap be32Bytes) = (0x7D508500, 0x40) := by
    decide
  have hlevels : socTree.upFrom 4 = [4, 0] := by
    rw [DeviceTree.upFrom_of_parent (show socTree.parentOffset 4 = some 0 from rfl),
      DeviceTree.upFrom_root]
  have haddress : translate ((socTree.upFrom 4).map socTree.toBus) 0x7D508500 =
      some 0x107D508500 := by
    rw [hlevels]
    decide
  obtain ⟨hinside, htrue, hfalse, -⟩ :=
    blGetTranslatedRegAddress_translates socTree (Or.inr (Or.inr rfl))
  revert hinside htrue hfalse
  rcases blGetTranslatedRegAddress socTree 8 with (_ | _) | ⟨address, size⟩ <;>
    intro hinside htrue hfalse
  · exact absurd rfl hinside
  · rcases hfalse.mp rfl with hzero | ⟨bus, hbus, ⟨level, hmem, hlevel⟩ | hshort | ⟨reg, h, hnone⟩⟩
    · cases hzero
    · have hpath : socTree.levels 8 = [4, 0] := hlevels
      have hall : ∀ level ∈ [4, 0], socTree.Supported level := by decide
      rw [hpath] at hmem
      exact absurd (hall level hmem) hlevel
    · cases hbus
      exact absurd (hshort _ hreg) (by decide)
    · cases hbus
      cases hreg.symm.trans h
      rw [hfirst] at hnone
      exact absurd (haddress.symm.trans ((translate_eq_none_iff _ _).mpr hnone)) (by rintro ⟨⟩)
  · obtain ⟨bus, reg, hbus, h, htranslate, hsize⟩ := htrue address size rfl
    cases hbus
    cases hreg.symm.trans h
    rw [hfirst] at htranslate hsize
    cases haddress.symm.trans htranslate
    rw [hsize]

/-- A tree that is only a root, with a `reg`. -/
def rootTree : DeviceTree where
  isNode node := node = 0
  parentOffset _ := none
  addressCells _ := 2
  sizeCells _ := 1
  getProp _ name := if name = "reg" then some (List.replicate 16 0) else none
  root_parent := rfl
  node_parent hnode hroot := absurd hnode hroot
  parent_lt h := by cases h

/-- The root has no address, though every level of its tree is supported, its `reg` has room for
any address and size, and no table is there. -/
theorem rootTree_false :
    rootTree.isNode 0 ∧ blGetTranslatedRegAddress rootTree 0 = .error .returnFalse ∧
      (∀ level, rootTree.Supported level) ∧
      rootTree.getProp 0 "reg" = some (List.replicate 16 0) ∧
      ∀ level, rootTree.getProp level "ranges" = none :=
  have hcells : (1 ≤ (2 : Int) ∧ (2 : Int) ≤ 2) ∧ (0 ≤ (1 : Int) ∧ (1 : Int) ≤ 2) := by decide
  ⟨rfl, rfl, fun _ => hcells, rfl, fun _ => rfl⟩

end Rpi5Uefi
