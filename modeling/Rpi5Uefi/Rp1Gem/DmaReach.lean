import Rpi5Uefi.Efi.Pages
import Rpi5Uefi.Rp1Gem.Filters
import Rpi5Uefi.Rp1Gem.RxRing
import Rpi5Uefi.Rp1Gem.TxRing

/-!
# What the controller of the RP1 GEM reaches

While reception or transmission is enabled the controller works on its own: it reads the descriptors
of its queues in their order, up to the one with the WRAP bit, and moves frames into and out of the
buffers that the descriptors it owns name. Where the queues begin and how much goes into one buffer
is in its registers.

* **`GemReach`**: the memory the controller may access.
* **`DmaInv.contained`**: it is in the three allocations of the driver.
* **`DmaKept`**: what leaves it alone, the rings apart.
-/

namespace Rpi5Uefi

open Frame

/-! ## The controller -/

/-- The enables of `NET_CTRL`. -/
def gemNetCtrlEnables : UInt32 := gemNetCtrlRxEn ||| gemNetCtrlTxEn

/-- The controller receives or transmits. -/
def DmaEnabled (regs : Nat → UInt32) : Prop := regs gemNetCtrl &&& gemNetCtrlEnables ≠ 0

/-- An address in two registers. -/
def queueBase (regs : Nat → UInt32) (low hi : Nat) : Nat :=
  (regs hi).toNat * 2 ^ 32 + (regs low).toNat

/-- What `DMA_CFG` says of the size of an RX buffer, in units of 64 bytes. -/
def rxDmaSize (regs : Nat → UInt32) : Nat := ((regs gemDmaCfg >>> 16) &&& 0xFF).toNat * 64

/-- The priority queues. -/
def priorityQueues : List Nat := List.range' 1 15

/-- The controller has the queue. -/
def hasQueue (regs : Nat → UInt32) (queue : Nat) : Prop :=
  regs gemDesignCfg6 &&& gemDesignCfg6PrioQMask &&& (1 <<< UInt32.ofNat queue) ≠ 0

/-- The buffer a TX descriptor names. -/
def GemDmaDesc.txBusAddr (desc : GemDmaDesc) : Nat :=
  desc.addrHi.toNat * 2 ^ 32 + desc.addr.toNat

/-- The length of what is to be sent. -/
def GemDmaDesc.txLength (desc : GemDmaDesc) : Nat := (desc.ctrl &&& gemTxDescCtrlLengthMask).toNat

/-- The slots before it have no WRAP bit, so that the controller comes to it. -/
def RxComesTo (gem : Gem) (index : Nat) : Prop :=
  ∀ before < index, (gem.rxRing before).addr &&& gemRxDescAddrWrap = 0

def TxComesTo (gem : Gem) (index : Nat) : Prop :=
  ∀ before < index, (gem.txRing before).ctrl &&& gemTxDescCtrlWrap = 0

/-- **The memory the controller may access**, as a base and a size. -/
inductive GemReach (gem : Gem) : Nat → Nat → Prop where
  | rxDesc (index : Nat) (h : RxComesTo gem index) :
    GemReach gem (queueBase gem.regs gemRxQbar gemRxQbarHi + index * gemDmaDescSize) gemDmaDescSize
  | rxBuffer (index : Nat) (h : RxComesTo gem index) (howned : RxOwned (gem.rxRing index)) :
    GemReach gem (gem.rxRing index).rxBusAddr (rxDmaSize gem.regs)
  | txDesc (index : Nat) (h : TxComesTo gem index) :
    GemReach gem (queueBase gem.regs gemTxQbar gemTxQbarHi + index * gemDmaDescSize) gemDmaDescSize
  | txBuffer (index : Nat) (h : TxComesTo gem index) (howned : TxOwned (gem.txRing index)) :
    GemReach gem (gem.txRing index).txBusAddr (gem.txRing index).txLength
  | parkedRxDesc (queue : Nat) (hq : queue ∈ priorityQueues) (h : hasQueue gem.regs queue) :
    GemReach gem (queueBase gem.regs (gemRxQnBar queue) gemRxQbarHi) gemDmaDescSize
  | parkedRxBuffer (howned : RxOwned gem.nullRxDesc) :
    GemReach gem gem.nullRxDesc.rxBusAddr (rxDmaSize gem.regs)
  | parkedTxDesc (queue : Nat) (hq : queue ∈ priorityQueues) (h : hasQueue gem.regs queue) :
    GemReach gem (queueBase gem.regs (gemTxQnBar queue) gemTxQbarHi) gemDmaDescSize
  | parkedTxBuffer (howned : TxOwned gem.nullTxDesc) :
    GemReach gem gem.nullTxDesc.txBusAddr gem.nullTxDesc.txLength

/-- What the controller does to the rings: it gives descriptors it owns back. -/
structure ControllerActs (gem : Gem) (rxRing txRing : Nat → GemDmaDesc) : Prop where
  rx : ∀ index, rxRing index = gem.rxRing index ∨
    RxOwned (gem.rxRing index) ∧ rxRing index = { gem.rxRing index with
      addr := (gem.rxRing index).addr ||| gemRxDescAddrOwn, ctrl := (rxRing index).ctrl }
  tx : ∀ index, txRing index = gem.txRing index ∨
    TxOwned (gem.txRing index) ∧ ¬TxOwned (txRing index) ∧
      txRing index = { gem.txRing index with ctrl := (txRing index).ctrl } ∧
      (txRing index).ctrl &&& gemTxDescCtrlWrap = (gem.txRing index).ctrl &&& gemTxDescCtrlWrap

/-! ## The allocations -/

/-- Where the DMA memory of the driver is. -/
structure GemBuffers where
  descBuffer : Nat
  rxBuffers : Nat
  txBuffers : Nat

def Gem.buffers (gem : Gem) : GemBuffers := ⟨gem.descBuffer, gem.rxBuffers, gem.txBuffers⟩

/-- The base and the pages of each allocation. -/
def GemBuffers.allocations (b : GemBuffers) : List (Nat × Nat) :=
  [(b.descBuffer, 1), (b.rxBuffers, efiSizeToPages (gemRxDescCount * gemRxBufferSize)),
    (b.txBuffers, efiSizeToPages (gemTxDescCount * gemTxBufferSize))]

/-- What `GemDmaAlloc` tests, and that allocations are of pages. -/
structure GemBuffers.Allocated (b : GemBuffers) : Prop where
  aligned : ∀ a ∈ b.allocations, a.1 % efiPageSize = 0
  below : ∀ a ∈ b.allocations, a.1 + a.2 * efiPageSize ≤ 2 ^ 32

/-- The region is in one of the allocations. -/
def GemBuffers.Contains (b : GemBuffers) (base size : Nat) : Prop :=
  ∃ a ∈ b.allocations, a.1 ≤ base ∧ base + size ≤ a.1 + a.2 * efiPageSize

/-! ## What a descriptor names -/

/-- An RX descriptor names the buffer, and ends the ring if it is the last. -/
structure RxNames (buffer index : Nat) (desc : GemDmaDesc) : Prop where
  low : desc.addr &&& gemRxDescAddrMask = UInt32.ofNat buffer
  high : desc.addrHi = UInt32.ofNat (buffer >>> 32)
  wrap : desc.addr &&& gemRxDescAddrWrap ≠ 0 ↔ index = gemRxDescCount - 1

/-- A TX descriptor names the buffer, for no more than fits, and ends the ring if it is the last. -/
structure TxNames (buffer index : Nat) (desc : GemDmaDesc) : Prop where
  low : desc.addr = UInt32.ofNat buffer
  high : desc.addrHi = UInt32.ofNat (buffer >>> 32)
  wrap : desc.ctrl &&& gemTxDescCtrlWrap ≠ 0 ↔ index = gemTxDescCount - 1
  length : TxOwned desc → desc.txLength ≤ gemTxBufferSize

/-- Each slot names its buffer. -/
structure RingsNamed (r : GemRings) : Prop where
  rxHead : r.rxHead.toNat < gemRxDescCount
  rx : ∀ index < gemRxDescCount,
    RxNames (r.rxBuffers + index * gemRxBufferSize) index (r.rxRing index)
  tx : ∀ index < gemTxDescCount,
    TxNames (r.txBuffers + index * gemTxBufferSize) index (r.txRing index)

/-- The registers and the null descriptors as `GemMacConfigure` leaves them. -/
structure QueuesSet (gem : Gem) : Prop where
  rxQueue : queueBase gem.regs gemRxQbar gemRxQbarHi = gem.descBuffer
  txQueue : queueBase gem.regs gemTxQbar gemTxQbarHi = gem.txRingAddr
  rxQueueHi : gem.regs gemRxQbarHi = 0
  txQueueHi : gem.regs gemTxQbarHi = 0
  rxSize : rxDmaSize gem.regs = gemRxBufferSize
  parked : ∀ queue ∈ priorityQueues, hasQueue gem.regs queue →
    gem.regs (gemRxQnBar queue) = UInt32.ofNat gem.nullRxDescAddr ∧
      gem.regs (gemTxQnBar queue) = UInt32.ofNat gem.nullTxDescAddr
  nullRx : ¬RxOwned gem.nullRxDesc
  nullTx : ¬TxOwned gem.nullTxDesc

/-- **While the controller is enabled**, the interface is initialised and the queues are the
driver's. -/
def DmaInv (gem : Gem) : Prop :=
  DmaEnabled gem.regs → gem.mode.state = .initialized ∧ QueuesSet gem ∧ RingsNamed gem.rings

section
variable {gem gem' : Gem} {b : GemBuffers} {base size : Nat}

/-! ## What is reached is allocated -/

theorem allocations_eq (b : GemBuffers) :
    b.allocations = [(b.descBuffer, 1), (b.rxBuffers, 8), (b.txBuffers, 4)] := rfl

theorem allocated_sizes :
    1 * efiPageSize = 4096 ∧ 8 * efiPageSize = 32768 ∧ 4 * efiPageSize = 16384 := by decide

theorem GemBuffers.Contains.ofDesc (h : b.descBuffer ≤ base)
    (hend : base + size ≤ b.descBuffer + 4096) : b.Contains base size := by
  refine ⟨(b.descBuffer, 1), List.mem_cons_self, h, ?_⟩
  rw [allocated_sizes.1]
  exact hend

theorem GemBuffers.Contains.ofRx (h : b.rxBuffers ≤ base)
    (hend : base + size ≤ b.rxBuffers + 32768) : b.Contains base size := by
  refine ⟨(b.rxBuffers, 8), List.mem_cons_of_mem _ List.mem_cons_self, h, ?_⟩
  rw [allocated_sizes.2.1]
  exact hend

theorem GemBuffers.Contains.ofTx (h : b.txBuffers ≤ base)
    (hend : base + size ≤ b.txBuffers + 16384) : b.Contains base size := by
  refine ⟨(b.txBuffers, 4), List.mem_cons_of_mem _ (List.mem_cons_of_mem _ List.mem_cons_self), h,
    ?_⟩
  rw [allocated_sizes.2.2]
  exact hend

/-- The allocations are below 4 GiB. -/
theorem GemBuffers.Allocated.ends (h : b.Allocated) :
    b.descBuffer + 4096 ≤ 2 ^ 32 ∧ b.rxBuffers + 32768 ≤ 2 ^ 32 ∧
      b.txBuffers + 16384 ≤ 2 ^ 32 := by
  have hdesc := h.below (b.descBuffer, 1) List.mem_cons_self
  have hrx := h.below (b.rxBuffers, 8) (List.mem_cons_of_mem _ List.mem_cons_self)
  have htx := h.below (b.txBuffers, 4)
    (List.mem_cons_of_mem _ (List.mem_cons_of_mem _ List.mem_cons_self))
  rw [allocated_sizes.1] at hdesc
  rw [allocated_sizes.2.1] at hrx
  rw [allocated_sizes.2.2] at htx
  exact ⟨hdesc, hrx, htx⟩

theorem gemDmaDescSize_eq : gemDmaDescSize = 16 := rfl

/-- An address below 4 GiB in the two words of a descriptor. -/
theorem busAddr_eq {low hi : UInt32} {addr : Nat} (hlt : addr < 2 ^ 32)
    (hlow : low = UInt32.ofNat addr) (hhi : hi = UInt32.ofNat (addr >>> 32)) :
    hi.toNat * 2 ^ 32 + low.toNat = addr := by
  have hzero : addr >>> 32 = 0 := by
    rw [Nat.shiftRight_eq_div_pow]
    exact Nat.div_eq_of_lt hlt
  have hword : (UInt32.ofNat addr).toNat = addr := UInt32.toNat_ofNat_of_lt' hlt
  rw [hlow, hhi, hzero, hword]
  exact Nat.zero_add addr

theorem RingsNamed.rx_lt (h : RingsNamed gem.rings) {index : Nat} (hcomes : RxComesTo gem index) :
    index < gemRxDescCount := by
  by_contra hge
  have hlast := (h.rx 15 (by decide)).wrap.mpr rfl
  have hbefore : 15 < index := by
    have hcount : gemRxDescCount = 16 := rfl
    omega
  exact hlast (hcomes 15 hbefore)

theorem RingsNamed.tx_lt (h : RingsNamed gem.rings) {index : Nat} (hcomes : TxComesTo gem index) :
    index < gemTxDescCount := by
  by_contra hge
  have hlast := (h.tx 7 (by decide)).wrap.mpr rfl
  have hbefore : 7 < index := by
    have hcount : gemTxDescCount = 8 := rfl
    omega
  exact hlast (hcomes 7 hbefore)

/-- **What is reached is allocated.** -/
theorem DmaInv.contained (h : DmaInv gem) (ha : gem.buffers.Allocated)
    (henabled : DmaEnabled gem.regs) (hreach : GemReach gem base size) :
    gem.buffers.Contains base size := by
  obtain ⟨-, hqueues, hrings⟩ := h henabled
  obtain ⟨hdescEnd, hrxEnd, htxEnd⟩ := ha.ends
  change gem.descBuffer + 4096 ≤ 2 ^ 32 at hdescEnd
  change gem.rxBuffers + 32768 ≤ 2 ^ 32 at hrxEnd
  change gem.txBuffers + 16384 ≤ 2 ^ 32 at htxEnd
  cases hreach with
  | rxDesc index hcomes =>
    have hlt : index < 16 := hrings.rx_lt hcomes
    rw [hqueues.rxQueue]
    apply GemBuffers.Contains.ofDesc
    · exact Nat.le_add_right _ _
    · show gem.descBuffer + index * 16 + 16 ≤ gem.descBuffer + 4096
      omega
  | rxBuffer index hcomes howned =>
    have hlt : index < 16 := hrings.rx_lt hcomes
    have hnames := hrings.rx index hlt
    have haddr : gem.rxBuffers + index * 2048 < 2 ^ 32 := by omega
    have hbus : (gem.rxRing index).rxBusAddr = gem.rxBuffers + index * 2048 :=
      busAddr_eq haddr hnames.low hnames.high
    rw [hbus, hqueues.rxSize]
    apply GemBuffers.Contains.ofRx
    · exact Nat.le_add_right _ _
    · show gem.rxBuffers + index * 2048 + 2048 ≤ gem.rxBuffers + 32768
      omega
  | txDesc index hcomes =>
    have hlt : index < 8 := hrings.tx_lt hcomes
    have hring : gem.txRingAddr = gem.descBuffer + 256 := rfl
    rw [hqueues.txQueue, hring, gemDmaDescSize_eq]
    apply GemBuffers.Contains.ofDesc
    · show gem.descBuffer ≤ _
      omega
    · show _ ≤ gem.descBuffer + 4096
      omega
  | txBuffer index hcomes howned =>
    have hlt : index < 8 := hrings.tx_lt hcomes
    have hnames := hrings.tx index hlt
    have haddr : gem.txBuffers + index * 2048 < 2 ^ 32 := by omega
    have hbus : (gem.txRing index).txBusAddr = gem.txBuffers + index * 2048 :=
      busAddr_eq haddr hnames.low hnames.high
    have hlength : (gem.txRing index).txLength ≤ 2048 := hnames.length howned
    rw [hbus]
    apply GemBuffers.Contains.ofTx
    · exact Nat.le_add_right _ _
    · show gem.txBuffers + index * 2048 + (gem.txRing index).txLength ≤ gem.txBuffers + 16384
      omega
  | parkedRxDesc queue hq hhas =>
    have hlt : gem.descBuffer + 384 < 2 ^ 32 := by omega
    have hword : (UInt32.ofNat gem.nullRxDescAddr).toNat = gem.descBuffer + 384 :=
      UInt32.toNat_ofNat_of_lt' hlt
    unfold queueBase
    rw [hqueues.rxQueueHi, (hqueues.parked queue hq hhas).1, hword, UInt32.toNat_zero, Nat.zero_mul,
      Nat.zero_add, gemDmaDescSize_eq]
    apply GemBuffers.Contains.ofDesc
    · exact Nat.le_add_right _ _
    · show _ ≤ gem.descBuffer + 4096
      omega
  | parkedRxBuffer howned => exact absurd howned hqueues.nullRx
  | parkedTxDesc queue hq hhas =>
    have hlt : gem.descBuffer + 400 < 2 ^ 32 := by omega
    have hword : (UInt32.ofNat gem.nullTxDescAddr).toNat = gem.descBuffer + 400 :=
      UInt32.toNat_ofNat_of_lt' hlt
    unfold queueBase
    rw [hqueues.txQueueHi, (hqueues.parked queue hq hhas).2, hword, UInt32.toNat_zero, Nat.zero_mul,
      Nat.zero_add, gemDmaDescSize_eq]
    apply GemBuffers.Contains.ofDesc
    · exact Nat.le_add_right _ _
    · show _ ≤ gem.descBuffer + 4096
      omega
  | parkedTxBuffer howned => exact absurd howned hqueues.nullTx

/-! ## What leaves it alone -/

/-- The registers of the queues. -/
def dmaRegs : List Nat :=
  [gemDmaCfg, gemRxQbar, gemTxQbar, gemRxQbarHi, gemTxQbarHi, gemDesignCfg6] ++
    priorityQueues.map gemRxQnBar ++ priorityQueues.map gemTxQnBar

/-- Nothing the controller's reach depends on has changed, the rings apart. -/
structure DmaKept (gem gem' : Gem) : Prop where
  enables : gem'.regs gemNetCtrl &&& gemNetCtrlEnables = gem.regs gemNetCtrl &&& gemNetCtrlEnables
  regs : ∀ reg ∈ dmaRegs, gem'.regs reg = gem.regs reg
  state : gem'.mode.state = gem.mode.state
  permanent : gem'.mode.permanentAddress = gem.mode.permanentAddress
  buffers : gem'.buffers = gem.buffers
  nullRx : gem'.nullRxDesc = gem.nullRxDesc
  nullTx : gem'.nullTxDesc = gem.nullTxDesc

theorem DmaKept.refl (gem : Gem) : DmaKept gem gem :=
  ⟨rfl, fun _ _ => rfl, rfl, rfl, rfl, rfl, rfl⟩

theorem DmaKept.trans {gem'' : Gem} (h : DmaKept gem gem') (h' : DmaKept gem' gem'') :
    DmaKept gem gem'' :=
  ⟨h'.enables.trans h.enables, fun reg hreg => (h'.regs reg hreg).trans (h.regs reg hreg),
    h'.state.trans h.state, h'.permanent.trans h.permanent, h'.buffers.trans h.buffers,
    h'.nullRx.trans h.nullRx, h'.nullTx.trans h.nullTx⟩

theorem mem_dmaRegs_rx {queue : Nat} (h : queue ∈ priorityQueues) : gemRxQnBar queue ∈ dmaRegs :=
  List.mem_append_left _ (List.mem_append_right _ (List.mem_map_of_mem h))

theorem mem_dmaRegs_tx {queue : Nat} (h : queue ∈ priorityQueues) : gemTxQnBar queue ∈ dmaRegs :=
  List.mem_append_right _ (List.mem_map_of_mem h)

theorem ringAddrs_congr (h : gem'.buffers = gem.buffers) :
    gem'.txRingAddr = gem.txRingAddr ∧ gem'.nullRxDescAddr = gem.nullRxDescAddr ∧
      gem'.nullTxDescAddr = gem.nullTxDescAddr := by
  have hdesc : gem'.descBuffer = gem.descBuffer := congrArg GemBuffers.descBuffer h
  unfold Gem.nullTxDescAddr Gem.nullRxDescAddr Gem.txRingAddr
  rw [hdesc]
  exact ⟨rfl, rfl, rfl⟩

theorem QueuesSet.of_eq (h : QueuesSet gem) (hregs : ∀ reg ∈ dmaRegs, gem'.regs reg = gem.regs reg)
    (hbuffers : gem'.buffers = gem.buffers) (hnullRx : gem'.nullRxDesc = gem.nullRxDesc)
    (hnullTx : gem'.nullTxDesc = gem.nullTxDesc) : QueuesSet gem' := by
  have hdesc : gem'.descBuffer = gem.descBuffer := congrArg GemBuffers.descBuffer hbuffers
  obtain ⟨htx, hrxAddr, htxAddr⟩ := ringAddrs_congr hbuffers
  constructor
  · unfold queueBase
    rw [hregs _ (by decide), hregs _ (by decide), hdesc]
    exact h.rxQueue
  · unfold queueBase
    rw [hregs _ (by decide), hregs _ (by decide), htx]
    exact h.txQueue
  · rw [hregs _ (by decide)]
    exact h.rxQueueHi
  · rw [hregs _ (by decide)]
    exact h.txQueueHi
  · unfold rxDmaSize
    rw [hregs _ (by decide)]
    exact h.rxSize
  · intro queue hq hhas
    unfold hasQueue at hhas
    rw [hregs _ (by decide)] at hhas
    rw [hregs _ (mem_dmaRegs_rx hq), hregs _ (mem_dmaRegs_tx hq), hrxAddr, htxAddr]
    exact h.parked queue hq hhas
  · rw [hnullRx]
    exact h.nullRx
  · rw [hnullTx]
    exact h.nullTx

theorem QueuesSet.of_kept (h : QueuesSet gem) (hkept : DmaKept gem gem') : QueuesSet gem' :=
  h.of_eq hkept.regs hkept.buffers hkept.nullRx hkept.nullTx

theorem DmaKept.enabled_iff (h : DmaKept gem gem') :
    DmaEnabled gem'.regs ↔ DmaEnabled gem.regs := by
  unfold DmaEnabled
  rw [h.enables]

theorem DmaInv.of_kept (h : DmaInv gem) (hkept : DmaKept gem gem')
    (hrings : RingsNamed gem.rings → RingsNamed gem'.rings) : DmaInv gem' := by
  intro henabled
  obtain ⟨hstate, hqueues, hnamed⟩ := h (hkept.enabled_iff.mp henabled)
  exact ⟨hkept.state.trans hstate, hqueues.of_kept hkept, hrings hnamed⟩

theorem DmaInv.of_disabled (h : gem.regs gemNetCtrl &&& gemNetCtrlEnables = 0) : DmaInv gem :=
  fun henabled => absurd h henabled

/-- A write to a register that has nothing to do with the queues. -/
theorem DmaKept.write {offset : Nat} {value : UInt32} (hkept : DmaKept gem gem')
    (h : offset ∉ gemNetCtrl :: dmaRegs) : DmaKept gem (gemWrite32 gem' offset value) := by
  refine hkept.trans ⟨?_, fun reg hreg => ?_, rfl, rfl, rfl, rfl, rfl⟩
  · rw [gemWrite32_regs, if_neg]
    intro heq
    exact h (heq ▸ List.mem_cons_self)
  · rw [gemWrite32_regs, if_neg]
    intro heq
    exact h (heq ▸ List.mem_cons_of_mem _ hreg)

/-- Other bits of `NET_CTRL`. -/
theorem dmaKept_control {bits : UInt32} (h : bits &&& gemNetCtrlEnables = 0) :
    DmaKept gem (mmioOr32 gem gemNetCtrl bits) := by
  refine ⟨?_, fun reg hreg => ?_, rfl, rfl, rfl, rfl, rfl⟩
  · unfold mmioOr32
    rw [gemWrite32_regs, if_pos rfl]
    exact Bits.or_and_of_disjoint h
  · unfold mmioOr32
    rw [gemWrite32_regs, if_neg]
    intro heq
    rw [heq] at hreg
    revert hreg
    decide

end

end Rpi5Uefi
