import Rpi5Uefi.Rp1Gem.DmaReach

/-!
# No call opens memory to the controller

The calls of the Simple Network Protocol keep `DmaInv`: most leave the queues as they are
(`ReachKept`), the others disable the controller, and `Initialize` enables it when the queues are
the driver's.

* **`dmaSafe_step`**: whatever is called, and whatever the controller does meanwhile.
-/

namespace Rpi5Uefi

open Frame

/-! ## The PHY routines -/

/-- The enables are as they were. -/
def EnablesKept (io io' : PhyIo) : Prop :=
  io'.gem.regs gemNetCtrl &&& gemNetCtrlEnables = io.gem.regs gemNetCtrl &&& gemNetCtrlEnables

instance : Std.Refl EnablesKept := ⟨fun _ => rfl⟩

instance : IsTrans PhyIo EnablesKept := ⟨fun _ _ _ hab hbc => hbc.trans hab⟩

section
variable (mdio : Nat → Option UInt16)

theorem accessible_enablesKept : Accessible mdio EnablesKept := by
  refine ⟨fun command io => ?_, fun io phyAddr => rfl⟩
  have hkept : EnablesKept io ⟨gemWrite32 (mmioOr32 io.gem gemNetCtrl gemNetCtrlMgmtPortEn)
      gemPhyMaint command, io.ops + 1⟩ := by
    show (gemWrite32 _ gemPhyMaint command).regs gemNetCtrl &&& gemNetCtrlEnables = _
    rw [gemWrite32_regs, if_neg (by decide)]
    exact (dmaKept_control (by decide)).enables
  unfold after gemMdioAccess
  cases mdio io.ops with
  | some data => exact hkept
  | none => exact hkept

theorem phyInit_enables : Within EnablesKept (rp1GemPhyInit mdio) :=
  .bind (.modify fun _ => rfl) fun _ => (accessible_enablesKept mdio).phyInitAccesses

theorem phySetSpeed_enables : Within EnablesKept (phySetSpeed mdio) := by
  refine .bind (accessible_enablesKept mdio).phyGetConfig fun config => .modify fun io => ?_
  show (gemUpdateLinkSpeed io.gem config.1 config.2).regs gemNetCtrl &&& gemNetCtrlEnables = _
  unfold gemUpdateLinkSpeed
  rw [gemWrite32_regs, if_neg (by decide)]

theorem phyLinkChange_enables (linkUp : Bool) :
    Within EnablesKept (phyLinkChange mdio linkUp) := by
  have hset : Within EnablesKept (modifyGem fun gem => { gem with linkUp }) :=
    .modify fun _ => rfl
  refine .read fun io => ?_
  split
  · exact Within.pure () io
  · split
    · exact Within.bind (phySetSpeed_enables mdio) (fun _ => hset) io
    · exact hset io

theorem phyUpdateConfig_enables : Within EnablesKept (rp1GemPhyUpdateConfig mdio) := by
  refine .bind ((accessible_enablesKept mdio).phyRead _) fun bmsr =>
    .bind (phyLinkChange_enables mdio _) fun _ => ?_
  show Within EnablesKept (if bmsrLinkUp bmsr then _ else _)
  split
  · exact .pure _
  · exact .throw _

theorem phyWaitLink_enables (retries : Nat) : Within EnablesKept (phyWaitLink mdio retries) := by
  induction retries with
  | zero => exact .pure _
  | succ retries ih =>
    refine .bind (.attempt (phyUpdateConfig_enables mdio)) fun outcome => ?_
    cases outcome with
    | some _ => exact .pure _
    | none => exact ih

end

theorem dmaKept_runPhy {α : Type} {m : PhyM α} (hm : Within PhyKept m) (he : Within EnablesKept m)
    (gem : Gem) : DmaKept gem (runPhy m gem).2 := by
  have hkept := hm ⟨gem, 0⟩
  have henables := he ⟨gem, 0⟩
  have hother : ∀ reg ∈ dmaRegs, reg ≠ gemNetCtrl ∧ reg ≠ gemPhyMaint ∧ reg ≠ gemNetCfg := by
    decide
  unfold runPhy
  simp only
  generalize after m ⟨gem, 0⟩ = io at hkept henables
  refine ⟨henables, fun reg hreg => ?_, ?_, ?_, ?_, ?_, ?_⟩
  · obtain ⟨hctrl, hmaint, hcfg⟩ := hother reg hreg
    exact hkept.regs reg hctrl hmaint hcfg
  all_goals
    rw [hkept.gem]
    try rfl

/-! ## Calls that keep the reach -/

section
variable {gem gem' : Gem}

/-- The controller's reach is what it was, up to what the descriptors hold. -/
structure ReachKept (gem gem' : Gem) : Prop extends DmaKept gem gem' where
  named : RingsNamed gem.rings → RingsNamed gem'.rings

theorem ReachKept.refl (gem : Gem) : ReachKept gem gem := ⟨.refl gem, id⟩

theorem ReachKept.trans {gem'' : Gem} (h : ReachKept gem gem') (h' : ReachKept gem' gem'') :
    ReachKept gem gem'' :=
  ⟨h.toDmaKept.trans h'.toDmaKept, fun hnamed => h'.named (h.named hnamed)⟩

theorem DmaKept.reach (h : DmaKept gem gem') (hrings : gem'.rings = gem.rings) :
    ReachKept gem gem' :=
  ⟨h, fun hnamed => hrings ▸ hnamed⟩

theorem reachKept_refreshMedia (mdio : Nat → Option UInt16) (gem : Gem) :
    ReachKept gem (refreshMedia mdio gem) := by
  have hphy := dmaKept_runPhy (phyUpdateConfig_within mdio) (phyUpdateConfig_enables mdio) gem
  exact DmaKept.reach ⟨hphy.enables, hphy.regs, hphy.state, hphy.permanent, hphy.buffers,
    hphy.nullRx, hphy.nullTx⟩ (refreshMedia_rings mdio gem)

theorem reachKept_transmitLink (mdio : Nat → Option UInt16) (gem : Gem) :
    ReachKept gem (transmitLink mdio gem).2 := by
  have hphy := dmaKept_runPhy (phyWaitLink_within mdio gemLinkRetries)
    (phyWaitLink_enables mdio gemLinkRetries) gem
  refine DmaKept.reach ?_ (transmitLink_rings mdio gem)
  unfold transmitLink
  split
  · exact .refl gem
  · split
    · next hrun =>
      rw [hrun] at hphy
      exact ⟨hphy.enables, hphy.regs, hphy.state, hphy.permanent, hphy.buffers, hphy.nullRx,
        hphy.nullTx⟩
    · next hrun =>
      rw [hrun] at hphy
      exact hphy

theorem dmaKept_setMacAddress (gem : Gem) (a : EfiMacAddress) :
    DmaKept gem (gemSetMacAddress gem a) :=
  .write (.write (.refl gem) (by decide)) (by decide)

theorem dmaKept_setReceiveFilters (gem : Gem) (filters : UInt32) :
    DmaKept gem (gemSetReceiveFilters gem filters) := by
  unfold gemSetReceiveFilters
  simp only
  split
  · refine DmaKept.trans ?_ (dmaKept_setMacAddress _ _)
    exact .write (.write (.write (.refl gem) (by decide)) (by decide)) (by decide)
  · refine .write (.write ?_ (by decide)) (by decide)
    exact .write (.write (.write (.refl gem) (by decide)) (by decide)) (by decide)

theorem mCastFilterUpdate_station (call : ReceiveFiltersCall) (setting : UInt32) (mode : SnpMode) :
    (mCastFilterUpdate call setting mode).2.state = mode.state ∧
      (mCastFilterUpdate call setting mode).2.permanentAddress = mode.permanentAddress := by
  unfold mCastFilterUpdate
  split
  · exact ⟨rfl, rfl⟩
  · split <;> exact ⟨rfl, rfl⟩

theorem reachKept_receiveFilters (call : ReceiveFiltersCall) (gem : Gem) :
    ReachKept gem (rp1GemSnpReceiveFilters call gem).2.2 := by
  unfold rp1GemSnpReceiveFilters
  cases call.refused gem with
  | some status => exact .refl gem
  | none =>
    obtain ⟨hstate, hpermanent⟩ := mCastFilterUpdate_station call (call.setting gem) gem.mode
    simp only
    have hset := dmaKept_setReceiveFilters
      { gem with mode := (mCastFilterUpdate call (call.setting gem) gem.mode).2 } (call.setting gem)
    refine DmaKept.reach ⟨hset.enables, hset.regs, hset.state.trans hstate,
      hset.permanent.trans hpermanent, hset.buffers, hset.nullRx, hset.nullTx⟩ ?_
    exact setReceiveFilters_rings _ _

theorem reachKept_stationAddress (reset : Bool) (new : Option EfiMacAddress) (gem : Gem) :
    ReachKept gem (rp1GemSnpStationAddress reset new gem).2 := by
  unfold rp1GemSnpStationAddress
  split
  · exact .refl gem
  · split
    · exact .refl gem
    · have hset (address : EfiMacAddress) := dmaKept_setMacAddress
        { gem with mode := { gem.mode with currentAddress := address } } address
      exact DmaKept.reach ⟨(hset _).enables, (hset _).regs, rfl, rfl, rfl, rfl, rfl⟩ rfl

theorem reachKept_recycleTx (wanted : Bool) (gem : Gem) :
    ReachKept gem (recycleTx wanted gem).2 := by
  cases wanted with
  | false => exact .refl gem
  | true =>
    show ReachKept gem (gemGetRecycledTxBuffer gem).2
    unfold gemGetRecycledTxBuffer
    split
    · exact .refl gem
    · simp only
      split
      · exact .refl gem
      · have hcursor : ReachKept gem { gem with
            txUserBuffer := Function.update gem.txUserBuffer
              (gem.txCons.toNat % gemTxDescCount) none
            txCons := gem.txCons + 1 } :=
          ⟨⟨rfl, fun _ _ => rfl, rfl, rfl, rfl, rfl, rfl⟩, fun h => ⟨h.rxHead, h.rx, h.tx⟩⟩
        exact hcursor.trans ((DmaKept.write (.refl _) (by decide)).reach rfl)

theorem reachKept_getStatus (mdio : Nat → Option UInt16) (call : GetStatusCall) (gem : Gem) :
    ReachKept gem (rp1GemSnpGetStatus mdio call gem).2 := by
  unfold rp1GemSnpGetStatus
  cases needInitialized gem with
  | some status => exact .refl gem
  | none =>
    simp only
    split
    · exact (reachKept_refreshMedia mdio gem).trans (reachKept_recycleTx _ _)
    · exact .refl gem

/-- The control word of a frame speaks of no more than the frame. -/
theorem txCtrl_length (index length : Nat) :
    (txCtrl index length &&& gemTxDescCtrlLengthMask).toNat ≤ length := by
  have hlast : gemTxDescCtrlLastBuf &&& gemTxDescCtrlLengthMask = 0 := by decide
  have hwrap : (if index = gemTxDescCount - 1 then gemTxDescCtrlWrap else 0) &&&
      gemTxDescCtrlLengthMask = 0 := by
    split <;> decide
  unfold txCtrl
  rw [Bits.or_and_of_disjoint hwrap, Bits.or_and_of_disjoint hlast, UInt32.and_assoc,
    UInt32.and_self, UInt32.toNat_and, UInt32.toNat_ofNat']
  exact Nat.le_trans Nat.and_le_left (Nat.mod_le _ _)

theorem gemNetCtrlStartTx_enables : gemNetCtrlStartTx &&& gemNetCtrlEnables = 0 := by decide

theorem reachKept_transmitFrame (gem : Gem) (userBuffer : Nat) {frame : List UInt8}
    (hlength : frame.length ≤ gemTxBufferSize) :
    ReachKept gem (gemTransmitFrame gem userBuffer frame).2 := by
  unfold gemTransmitFrame
  split
  · exact .refl gem
  · refine ReachKept.trans ?_ ((dmaKept_control gemNetCtrlStartTx_enables).reach rfl)
    refine ⟨⟨rfl, fun _ _ => rfl, rfl, rfl, rfl, rfl, rfl⟩, fun h => ⟨h.rxHead, h.rx, ?_⟩⟩
    intro index hi
    show TxNames _ index (Function.update gem.txRing _ _ index)
    by_cases hslot : index = gem.txProd.toNat % gemTxDescCount
    · rw [← hslot, Function.update_self]
      exact ⟨(h.tx index hi).low, (h.tx index hi).high, txCtrl_wrap index frame.length,
        fun _ => Nat.le_trans (txCtrl_length index frame.length) hlength⟩
    · rw [Function.update_of_ne hslot]
      exact h.tx index hi

theorem reachKept_transmit (mdio : Nat → Option UInt16) (call : TransmitCall) (gem : Gem) :
    ReachKept gem (rp1GemSnpTransmit mdio call gem).2 := by
  have hlink := reachKept_transmitLink mdio gem
  unfold rp1GemSnpTransmit
  cases hrefused : call.refused gem with
  | some status => exact .refl gem
  | none =>
    have hlength := frame_length_le (transmitLink mdio gem).2 hrefused
    simp only
    split
    · exact hlink
    · split
      · exact hlink.trans (reachKept_transmitFrame _ _ hlength)
      · exact hlink

/-- A descriptor given back names what it named. -/
theorem RxNames.flags {buffer index : Nat} {desc desc' : GemDmaDesc} (h : RxNames buffer index desc)
    (hmask : desc'.addr &&& 0xFFFFFFFE = desc.addr &&& 0xFFFFFFFE)
    (hhigh : desc'.addrHi = desc.addrHi) : RxNames buffer index desc' := by
  have hlow : desc'.addr &&& gemRxDescAddrMask = desc.addr &&& gemRxDescAddrMask := by
    have hsub : gemRxDescAddrMask = 0xFFFFFFFE &&& gemRxDescAddrMask := by decide
    rw [hsub, ← UInt32.and_assoc, hmask, UInt32.and_assoc]
  have hwrap : desc'.addr &&& gemRxDescAddrWrap = desc.addr &&& gemRxDescAddrWrap := by
    have hsub : gemRxDescAddrWrap = 0xFFFFFFFE &&& gemRxDescAddrWrap := by decide
    rw [hsub, ← UInt32.and_assoc, hmask, UInt32.and_assoc]
  refine ⟨hlow.trans h.low, hhigh.trans h.high, ?_⟩
  rw [hwrap]
  exact h.wrap

theorem reachKept_recycle (gem : Gem) :
    ReachKept gem (gemRecycleRxDescriptor gem gem.rxHead.toNat) := by
  refine ⟨⟨rfl, fun _ _ => rfl, rfl, rfl, rfl, rfl, rfl⟩, fun h => ⟨?_, fun index hi => ?_, h.tx⟩⟩
  · show (UInt16.ofNat ((gem.rxHead.toNat + 1) % gemRxDescCount)).toNat < gemRxDescCount
    have hlt : (gem.rxHead.toNat + 1) % gemRxDescCount < gemRxDescCount :=
      Nat.mod_lt _ (by decide)
    rw [UInt16.toNat_ofNat']
    exact Nat.lt_of_le_of_lt (Nat.mod_le _ _) hlt
  · show RxNames _ index (Function.update gem.rxRing _ _ index)
    by_cases hslot : index = gem.rxHead.toNat
    · rw [← hslot, Function.update_self]
      refine (h.rx index hi).flags ?_ rfl
      show (gem.rxRing index).addr &&& ~~~gemRxDescAddrOwn &&& 0xFFFFFFFE = _
      have hsub : ~~~gemRxDescAddrOwn &&& 0xFFFFFFFE = (0xFFFFFFFE : UInt32) := by decide
      rw [UInt32.and_assoc, hsub]
      rfl
    · rw [Function.update_of_ne hslot]
      exact h.rx index hi

theorem reachKept_receivePass (gem : Gem) (bufferSize : Nat) :
    ReachKept gem (gemReceivePass gem bufferSize).2 := by
  unfold gemReceivePass
  simp only
  split
  · exact .refl gem
  · split
    · exact reachKept_recycle gem
    · split
      · exact .refl gem
      · exact (reachKept_recycle gem).trans ((DmaKept.write (.refl _) (by decide)).reach rfl)

theorem reachKept_receiveLoop (bufferSize passes : Nat) (gem : Gem) :
    ReachKept gem (gemReceiveLoop bufferSize passes gem).2 := by
  induction passes generalizing gem with
  | zero => exact .refl gem
  | succ passes ih =>
    have hpass := reachKept_receivePass gem bufferSize
    unfold gemReceiveLoop
    revert hpass
    cases gemReceivePass gem bufferSize with
    | mk result gem' =>
      intro hpass
      cases result with
      | some _ => exact hpass
      | none => exact hpass.trans (ih gem')

theorem reachKept_receive (call : ReceiveCall) (gem : Gem) :
    ReachKept gem (rp1GemSnpReceive call gem).2 := by
  unfold rp1GemSnpReceive
  cases call.refused gem with
  | error status => exact .refl gem
  | ok bufferSize =>
    have hloop := reachKept_receiveLoop bufferSize (gemRxDescCount + 1) gem
    revert hloop
    simp only
    cases gemReceiveLoop bufferSize (gemRxDescCount + 1) gem with
    | mk result gem' =>
      intro hloop
      cases result with
      | some _ => exact hloop
      | none => exact hloop

theorem reachKept_controller {rxRing txRing : Nat → GemDmaDesc} (dma : Bytes.Mem)
    (h : ControllerActs gem rxRing txRing) : ReachKept gem { gem with rxRing, txRing, dma } := by
  refine ⟨⟨rfl, fun _ _ => rfl, rfl, rfl, rfl, rfl, rfl⟩,
    fun hnamed => ⟨hnamed.rxHead, fun index hi => ?_, fun index hi => ?_⟩⟩
  · show RxNames (gem.rxBuffers + index * gemRxBufferSize) index (rxRing index)
    rcases h.rx index with hsame | ⟨-, hgiven⟩
    · rw [hsame]
      exact hnamed.rx index hi
    · rw [hgiven]
      refine (hnamed.rx index hi).flags ?_ rfl
      exact Bits.or_and_of_disjoint (by decide)
  · show TxNames (gem.txBuffers + index * gemTxBufferSize) index (txRing index)
    have hnames : TxNames (gem.txBuffers + index * gemTxBufferSize) index (gem.txRing index) :=
      hnamed.tx index hi
    rcases h.tx index with hsame | ⟨-, hused, hgiven, hwrap⟩
    · rw [hsame]
      exact hnames
    · refine ⟨?_, ?_, ?_, fun howned => absurd howned hused⟩
      · rw [hgiven]
        exact hnames.low
      · rw [hgiven]
        exact hnames.high
      · rw [hwrap]
        exact hnames.wrap

end

/-! ## `Initialize` -/

section
variable {gem : Gem} {queues : List Nat} {queueMask : UInt32}

/-- The registers a queue is parked with. -/
def ParkedAt (gem : Gem) (queue : Nat) : Prop :=
  gem.regs (gemRxQnBar queue) = UInt32.ofNat gem.nullRxDescAddr ∧
    gem.regs (gemTxQnBar queue) = UInt32.ofNat gem.nullTxDescAddr

theorem parkQueue_other {queue reg : Nat} (hrx : reg ≠ gemRxQnBar queue)
    (htx : reg ≠ gemTxQnBar queue) : (parkQueue queueMask gem queue).regs reg = gem.regs reg := by
  unfold parkQueue
  split
  · rfl
  · simp only
    rw [gemWrite32_regs, if_neg htx, gemWrite32_regs, if_neg hrx]

/-- What parking leaves alone. -/
structure ParkKept (gem gem' : Gem) : Prop where
  buffers : gem'.buffers = gem.buffers
  nullRx : gem'.nullRxDesc = gem.nullRxDesc
  nullTx : gem'.nullTxDesc = gem.nullTxDesc
  regs : ∀ reg, (∀ queue ∈ priorityQueues, reg ≠ gemRxQnBar queue ∧ reg ≠ gemTxQnBar queue) →
    gem'.regs reg = gem.regs reg

theorem parkKept_queue {queue : Nat} (hq : queue ∈ priorityQueues) :
    ParkKept gem (parkQueue queueMask gem queue) := by
  refine ⟨?_, ?_, ?_, fun reg hreg => parkQueue_other (hreg queue hq).1 (hreg queue hq).2⟩ <;>
    (unfold parkQueue; split <;> rfl)

theorem parkKept_queues (hqueues : ∀ queue ∈ queues, queue ∈ priorityQueues) :
    ParkKept gem (queues.foldl (parkQueue queueMask) gem) := by
  induction queues generalizing gem with
  | nil => exact ⟨rfl, rfl, rfl, fun _ _ => rfl⟩
  | cons queue queues ih =>
    have hfirst : ParkKept gem (parkQueue queueMask gem queue) :=
      parkKept_queue (hqueues queue List.mem_cons_self)
    have hrest : ParkKept (parkQueue queueMask gem queue)
        (queues.foldl (parkQueue queueMask) (parkQueue queueMask gem queue)) :=
      ih fun q hq => hqueues q (List.mem_cons_of_mem _ hq)
    exact ⟨hrest.buffers.trans hfirst.buffers, hrest.nullRx.trans hfirst.nullRx,
      hrest.nullTx.trans hfirst.nullTx,
      fun reg hreg => (hrest.regs reg hreg).trans (hfirst.regs reg hreg)⟩

theorem qnBar_apart {queue other : Nat} (hq : queue ∈ priorityQueues)
    (ho : other ∈ priorityQueues) :
    gemRxQnBar queue ≠ gemTxQnBar other ∧
      (queue ≠ other → gemRxQnBar queue ≠ gemRxQnBar other ∧
        gemTxQnBar queue ≠ gemTxQnBar other) := by
  obtain ⟨hqlo, hqhi⟩ := List.mem_range'_1.mp hq
  obtain ⟨holo, hohi⟩ := List.mem_range'_1.mp ho
  unfold gemRxQnBar gemTxQnBar
  omega

/-- A queue that is parked stays so, and one more is. -/
theorem parkedAt_parkQueue {queue other : Nat} (hq : queue ∈ priorityQueues)
    (ho : other ∈ priorityQueues)
    (h : queue = other ∧ queueMask &&& (1 <<< UInt32.ofNat queue) ≠ 0 ∨ ParkedAt gem queue) :
    ParkedAt (parkQueue queueMask gem other) queue := by
  obtain ⟨hcross, hne⟩ := qnBar_apart hq ho
  by_cases hsame : queue = other
  · subst hsame
    unfold parkQueue
    split
    · rename_i hnone
      rcases h with ⟨-, hhas⟩ | hparked
      · exact absurd hnone hhas
      · exact hparked
    · constructor
      · simp only
        rw [gemWrite32_regs, if_neg hcross, gemWrite32_regs, if_pos rfl]
        rfl
      · simp only
        rw [gemWrite32_regs, if_pos rfl]
        rfl
  · obtain ⟨hrx, htx⟩ := hne hsame
    have hcross' := (qnBar_apart ho hq).1
    have hkept : ParkKept gem (parkQueue queueMask gem other) := parkKept_queue ho
    obtain ⟨-, hnullRx, hnullTx⟩ := ringAddrs_congr hkept.buffers
    rcases h with ⟨heq, -⟩ | ⟨hparkedRx, hparkedTx⟩
    · exact absurd heq hsame
    · constructor
      · rw [parkQueue_other hrx hcross, hparkedRx]
        exact (congrArg UInt32.ofNat hnullRx).symm
      · rw [parkQueue_other hcross'.symm htx, hparkedTx]
        exact (congrArg UInt32.ofNat hnullTx).symm

theorem parkedAt_parkQueues {queue : Nat} (hq : queue ∈ priorityQueues)
    (hqueues : ∀ other ∈ queues, other ∈ priorityQueues)
    (h : queue ∈ queues ∧ queueMask &&& (1 <<< UInt32.ofNat queue) ≠ 0 ∨ ParkedAt gem queue) :
    ParkedAt (queues.foldl (parkQueue queueMask) gem) queue := by
  induction queues generalizing gem with
  | nil =>
    rcases h with ⟨hmem, -⟩ | hparked
    · cases hmem
    · exact hparked
  | cons other queues ih =>
    have ho := hqueues other List.mem_cons_self
    have hrest : ∀ q ∈ queues, q ∈ priorityQueues :=
      fun q hmem => hqueues q (List.mem_cons_of_mem _ hmem)
    apply ih hrest
    rcases h with ⟨hmem, hhas⟩ | hparked
    · rcases List.mem_cons.mp hmem with heq | hlater
      · exact Or.inr (parkedAt_parkQueue hq ho (Or.inl ⟨heq, hhas⟩))
      · exact Or.inl ⟨hlater, hhas⟩
    · exact Or.inr (parkedAt_parkQueue hq ho (Or.inr hparked))

end

section
variable {gem gem' : Gem}

/-- `GemInitRings`, up to the priority queues. -/
theorem initRings_parks (gem : Gem) :
    ∃ written : Gem, written.buffers = gem.buffers ∧ written.mode = gem.mode ∧
      ¬RxOwned written.nullRxDesc ∧ ¬TxOwned written.nullTxDesc ∧
      written.regs gemRxQbar = UInt32.ofNat gem.descBuffer ∧
      written.regs gemRxQbarHi = UInt32.ofNat (gem.descBuffer >>> 32) ∧
      written.regs gemTxQbar = UInt32.ofNat gem.txRingAddr ∧
      written.regs gemTxQbarHi = UInt32.ofNat (gem.txRingAddr >>> 32) ∧
      written.regs gemDmaCfg = gem.regs gemDmaCfg ∧
      written.regs gemNetCtrl = gem.regs gemNetCtrl ∧
      gemInitRings gem =
        { priorityQueues.foldl
            (parkQueue (written.regs gemDesignCfg6 &&& gemDesignCfg6PrioQMask)) written with
          rxHead := 0
          txProd := 0
          txCons := 0 } := by
  refine ⟨_, ?_, ?_, ?_, ?_, ?_, ?_, ?_, ?_, ?_, ?_, rfl⟩
  · rfl
  · rfl
  · show ¬RxOwned ⟨gemRxDescAddrOwn ||| gemRxDescAddrWrap, 0, 0⟩
    decide
  · show ¬TxOwned ⟨0, gemTxDescCtrlUsed ||| gemTxDescCtrlWrap, 0⟩
    decide
  all_goals
    simp only [gemWrite32_regs]
    rfl

theorem parkable_ne {reg : Nat} (h : reg ∉ priorityQueues.map gemRxQnBar ++
    priorityQueues.map gemTxQnBar) :
    ∀ queue ∈ priorityQueues, reg ≠ gemRxQnBar queue ∧ reg ≠ gemTxQnBar queue := by
  intro queue hq
  constructor
  · rintro rfl
    exact h (List.mem_append_left _ (List.mem_map_of_mem hq))
  · rintro rfl
    exact h (List.mem_append_right _ (List.mem_map_of_mem hq))

/-- The controller as `GemInitRings` leaves it. -/
structure RingsSet (gem gem' : Gem) : Prop where
  buffers : gem'.buffers = gem.buffers
  permanent : gem'.mode.permanentAddress = gem.mode.permanentAddress
  enables : gem'.regs gemNetCtrl = gem.regs gemNetCtrl
  queues : QueuesSet gem'

theorem initRings_set (ha : gem.buffers.Allocated)
    (hsize : rxDmaSize gem.regs = gemRxBufferSize) : RingsSet gem (gemInitRings gem) := by
  obtain ⟨written, hbuffers, hmode, hnullRx, hnullTx, hrxLow, hrxHi, htxLow, htxHi, hdmaCfg, hctrl,
    heq⟩ := initRings_parks gem
  have hend : gem.descBuffer + 4096 ≤ 2 ^ 32 := ha.ends.1
  have hring : gem.txRingAddr = gem.descBuffer + 256 := rfl
  have hrxLt : gem.descBuffer < 2 ^ 32 := by omega
  have htxLt : gem.txRingAddr < 2 ^ 32 := by omega
  have hzero {addr : Nat} (hlt : addr < 2 ^ 32) : UInt32.ofNat (addr >>> 32) = 0 := by
    rw [Nat.shiftRight_eq_div_pow, Nat.div_eq_of_lt hlt]
    rfl
  have hmodes := parkQueues_mode (written.regs gemDesignCfg6 &&& gemDesignCfg6PrioQMask)
    priorityQueues written
  have hparked (queue : Nat) (hq : queue ∈ priorityQueues) (hhas : hasQueue written.regs queue) :
      ParkedAt (priorityQueues.foldl
        (parkQueue (written.regs gemDesignCfg6 &&& gemDesignCfg6PrioQMask)) written) queue :=
    parkedAt_parkQueues hq (fun _ h => h) (Or.inl ⟨hq, hhas⟩)
  have hkept : ParkKept written (priorityQueues.foldl
      (parkQueue (written.regs gemDesignCfg6 &&& gemDesignCfg6PrioQMask)) written) :=
    parkKept_queues fun _ h => h
  rw [heq]
  generalize priorityQueues.foldl
    (parkQueue (written.regs gemDesignCfg6 &&& gemDesignCfg6PrioQMask)) written = parked
    at hkept hparked hmodes
  have hregs (reg : Nat) (h : reg ∉ priorityQueues.map gemRxQnBar ++
      priorityQueues.map gemTxQnBar) : parked.regs reg = written.regs reg :=
    hkept.regs reg (parkable_ne h)
  have hparkedBuffers : parked.buffers = gem.buffers := hkept.buffers.trans hbuffers
  refine ⟨hparkedBuffers, ?_, ?_, ?_⟩
  · show parked.mode.permanentAddress = _
    rw [hmodes, hmode]
  · show parked.regs gemNetCtrl = _
    rw [hregs _ (by decide), hctrl]
  · have hdesc : parked.descBuffer = gem.descBuffer :=
      congrArg GemBuffers.descBuffer hparkedBuffers
    have htx : parked.txRingAddr = gem.txRingAddr := (ringAddrs_congr hparkedBuffers).1
    constructor
    · show queueBase parked.regs gemRxQbar gemRxQbarHi = parked.descBuffer
      unfold queueBase
      rw [hregs _ (by decide), hregs _ (by decide), hdesc]
      exact busAddr_eq hrxLt hrxLow hrxHi
    · show queueBase parked.regs gemTxQbar gemTxQbarHi = parked.txRingAddr
      unfold queueBase
      rw [hregs _ (by decide), hregs _ (by decide), htx]
      exact busAddr_eq htxLt htxLow htxHi
    · show parked.regs gemRxQbarHi = 0
      rw [hregs _ (by decide), hrxHi, hzero hrxLt]
    · show parked.regs gemTxQbarHi = 0
      rw [hregs _ (by decide), htxHi, hzero htxLt]
    · show rxDmaSize parked.regs = gemRxBufferSize
      unfold rxDmaSize at hsize ⊢
      rw [hregs _ (by decide), hdmaCfg, hsize]
    · intro queue hq hhas
      apply hparked queue hq
      unfold hasQueue at hhas ⊢
      rw [← hregs gemDesignCfg6 (by decide)]
      exact hhas
    · show ¬RxOwned parked.nullRxDesc
      rw [hkept.nullRx]
      exact hnullRx
    · show ¬TxOwned parked.nullTxDesc
      rw [hkept.nullTx]
      exact hnullTx

/-- **Fresh rings name their buffers.** -/
theorem RingsFresh.named (h : RingsFresh gem) (ha : gem.buffers.Allocated) :
    RingsNamed gem.rings := by
  have haligned : gem.rxBuffers % efiPageSize = 0 :=
    ha.aligned (gem.rxBuffers, 8) (List.mem_cons_of_mem _ List.mem_cons_self)
  have hpage : efiPageSize = 4096 := rfl
  rw [hpage] at haligned
  have halloc : RxBuffersAllocated gem := ⟨ha.ends.2.1, by omega⟩
  refine ⟨?_, fun index hi => ?_, fun index hi => ?_⟩
  · show gem.rxHead.toNat < gemRxDescCount
    rw [h.rxHead]
    decide
  · show RxNames (gem.rxBuffer index) index (gem.rxRing index)
    rw [h.rxRing index hi]
    refine ⟨?_, rfl, rxDescInit_wrap halloc index⟩
    have hmask : gemRxDescAddrMask = ~~~3 := by decide
    rw [rxDescInit_addr, hmask]
    exact Bits.or_and_not_of_empty (rxBuffer_low halloc index) (rxWrap_and_low index)
  · show TxNames (gem.txBuffer index) index (gem.txRing index)
    rw [h.txRing index hi]
    have hused : ¬TxOwned (txDescInit gem index) := by
      unfold TxOwned txDescInit
      simp only
      split <;> decide
    refine ⟨rfl, rfl, ?_, fun howned => absurd howned hused⟩
    unfold txDescInit
    simp only
    split
    · rename_i hlast
      exact iff_of_true (by decide) hlast
    · rename_i hother
      exact iff_of_false (by decide) hother

/-- `GemMacConfigure`, up to the rings, and what follows them. -/
theorem macConfigure_inits (gem : Gem) :
    ∃ (written : Gem) (a : EfiMacAddress) (filters : UInt32),
      written.buffers = gem.buffers ∧ written.mode = gem.mode ∧
      written.regs gemNetCtrl = gem.regs gemNetCtrl ∧
      rxDmaSize written.regs = gemRxBufferSize ∧
      gemMacConfigure gem =
        gemSetReceiveFilters (gemSetMacAddress (gemInitRings written) a) filters := by
  refine ⟨_, _, _, ?_, ?_, ?_, ?_, rfl⟩
  · rfl
  · rfl
  · simp only [gemWrite32_regs]
    rfl
  · unfold rxDmaSize
    rw [gemWrite32_regs, if_pos rfl]
    decide

/-- `GemMacConfigure` sets the queues up, and enables nothing. -/
theorem macConfigure_set (ha : gem.buffers.Allocated) :
    (gemMacConfigure gem).buffers = gem.buffers ∧
      (gemMacConfigure gem).mode.permanentAddress = gem.mode.permanentAddress ∧
      (gemMacConfigure gem).regs gemNetCtrl &&& gemNetCtrlEnables =
        gem.regs gemNetCtrl &&& gemNetCtrlEnables ∧
      QueuesSet (gemMacConfigure gem) ∧ RingsNamed (gemMacConfigure gem).rings := by
  have hfresh := macConfigure_fresh gem
  obtain ⟨written, a, filters, hbuffers, hmode, hctrl, hsize, heq⟩ := macConfigure_inits gem
  have hset := initRings_set (hbuffers ▸ ha) hsize
  have hkept : DmaKept (gemInitRings written) (gemMacConfigure gem) := by
    rw [heq]
    exact (dmaKept_setMacAddress _ _).trans (dmaKept_setReceiveFilters _ _)
  have hsame : (gemMacConfigure gem).buffers = gem.buffers :=
    hkept.buffers.trans (hset.buffers.trans hbuffers)
  refine ⟨hsame, ?_, ?_, hset.queues.of_kept hkept, hfresh.named (hsame ▸ ha)⟩
  · rw [hkept.permanent, hset.permanent, hmode]
  · rw [hkept.enables, hset.enables, hctrl]

/-- What a call may do. -/
structure DmaSafe (gem gem' : Gem) : Prop where
  inv : DmaInv gem → DmaInv gem'
  buffers : gem'.buffers = gem.buffers
  permanent : gem'.mode.permanentAddress = gem.mode.permanentAddress

theorem ReachKept.safe (h : ReachKept gem gem') : DmaSafe gem gem' :=
  ⟨fun hinv => hinv.of_kept h.toDmaKept h.named, h.buffers, h.permanent⟩

@[simp] theorem gemWrite32_buffers (gem : Gem) (offset : Nat) (value : UInt32) :
    (gemWrite32 gem offset value).buffers = gem.buffers := rfl

theorem macReset_kept (gem : Gem) :
    (gemMacReset gem).buffers = gem.buffers ∧ (gemMacReset gem).mode = gem.mode := by
  unfold gemMacReset
  simp only [gemWrite32_buffers, gemWrite32_mode, and_self]

theorem macReset_disabled (gem : Gem) :
    (gemMacReset gem).regs gemNetCtrl &&& gemNetCtrlEnables = 0 := by
  unfold gemMacReset
  simp only
  rw [gemWrite32_regs, if_pos rfl]
  decide

theorem macDisableTxRx_disabled (gem : Gem) :
    (gemMacDisableTxRx gem).regs gemNetCtrl &&& gemNetCtrlEnables = 0 := by
  have hnone : ~~~gemNetCtrlEnables &&& gemNetCtrlEnables = 0 := by decide
  unfold gemMacDisableTxRx mmioAnd32
  rw [gemWrite32_regs, if_pos rfl, UInt32.and_assoc]
  show _ &&& (~~~gemNetCtrlEnables &&& gemNetCtrlEnables) = 0
  rw [hnone, UInt32.and_zero]

/-- `Initialize` sets the queues up before it enables the controller. -/
theorem dmaSafe_initialize (mdio : Nat → Option UInt16) (ha : gem.buffers.Allocated) :
    DmaSafe gem (rp1GemSnpInitialize mdio gem).2 := by
  unfold rp1GemSnpInitialize
  cases gem.mode.state with
  | stopped => exact (ReachKept.refl gem).safe
  | initialized => exact (ReachKept.refl gem).safe
  | started =>
    obtain ⟨hresetBuffers, hresetMode⟩ := macReset_kept gem
    obtain ⟨hbuffers, hpermanent, henables, hqueues, hnamed⟩ :=
      macConfigure_set (hresetBuffers.symm ▸ ha)
    rw [hresetBuffers] at hbuffers
    rw [hresetMode] at hpermanent
    have hphy := dmaKept_runPhy (phyInit_within mdio) (phyInit_enables mdio)
      (gemMacConfigure (gemMacReset gem))
    have hrings := runPhy_rings (phyInit_within mdio) (gemMacConfigure (gemMacReset gem))
    simp only
    generalize runPhy (rp1GemPhyInit mdio) (gemMacConfigure (gemMacReset gem)) = phy
      at hphy hrings
    cases phyFailed phy.1 with
    | some status =>
      refine ⟨fun _ => .of_disabled ?_, hphy.buffers.trans hbuffers,
        hphy.permanent.trans hpermanent⟩
      exact hphy.enables.trans (henables.trans (macReset_disabled gem))
    | none =>
      refine ⟨fun _ _ => ⟨rfl, ?_, ?_⟩, hphy.buffers.trans hbuffers,
        hphy.permanent.trans hpermanent⟩
      · refine (hqueues.of_kept hphy).of_eq (fun reg hreg => ?_) rfl rfl rfl
        show (gemMacEnableTxRx phy.2).regs reg = phy.2.regs reg
        unfold gemMacEnableTxRx mmioOr32
        rw [gemWrite32_regs, if_neg]
        intro heq
        rw [heq] at hreg
        revert hreg
        decide
      · show RingsNamed phy.2.rings
        rw [hrings]
        exact hnamed

theorem dmaSafe_start (gem : Gem) : DmaSafe gem (rp1GemSnpStart gem).2 := by
  unfold rp1GemSnpStart
  cases hstate : gem.mode.state with
  | stopped =>
    refine ⟨fun h henabled => ?_, rfl, rfl⟩
    have hinitialized := (h henabled).1
    rw [hstate] at hinitialized
    cases hinitialized
  | started => exact (ReachKept.refl gem).safe
  | initialized => exact (ReachKept.refl gem).safe

theorem dmaSafe_stop (gem : Gem) : DmaSafe gem (rp1GemSnpStop gem).2 := by
  unfold rp1GemSnpStop
  cases gem.mode.state with
  | stopped => exact (ReachKept.refl gem).safe
  | initialized => exact (ReachKept.refl gem).safe
  | started => exact ⟨fun _ => .of_disabled (macDisableTxRx_disabled gem), rfl, rfl⟩

theorem dmaSafe_shutdown (gem : Gem) : DmaSafe gem (rp1GemSnpShutdown gem).2 := by
  unfold rp1GemSnpShutdown
  cases needInitialized gem with
  | some status => exact (ReachKept.refl gem).safe
  | none =>
    obtain ⟨hbuffers, hmode⟩ := macReset_kept (gemMacDisableTxRx gem)
    have hdisabled := macReset_disabled (gemMacDisableTxRx gem)
    simp only
    generalize gemMacReset (gemMacDisableTxRx gem) = reset at hbuffers hmode hdisabled
    have hpermanent : reset.mode.permanentAddress = gem.mode.permanentAddress := by
      rw [hmode]
      rfl
    exact ⟨fun _ => .of_disabled hdisabled, hbuffers, hpermanent⟩

theorem dmaSafe_reset (mdio : Nat → Option UInt16) (gem : Gem) :
    DmaSafe gem (rp1GemSnpReset mdio gem).2 := by
  have hphy := dmaKept_runPhy (phyInit_within mdio) (phyInit_enables mdio) gem
  have hrings := runPhy_rings (phyInit_within mdio) gem
  unfold rp1GemSnpReset
  cases needInitialized gem with
  | some status => exact (ReachKept.refl gem).safe
  | none =>
    simp only
    generalize runPhy (rp1GemPhyInit mdio) gem = phy at hphy hrings
    cases phyFailed phy.1 with
    | some status => exact (hphy.reach hrings).safe
    | none =>
      have hmedia : DmaKept gem
          { phy.2 with mode := { phy.2.mode with mediaPresent := false } } :=
        ⟨hphy.enables, hphy.regs, hphy.state, hphy.permanent, hphy.buffers, hphy.nullRx,
          hphy.nullTx⟩
      exact (hmedia.reach hrings).safe

/-- What the environment keeps to: the callers name no more addresses than there is room for, and
the controller keeps its side of the rings. -/
def DmaOk (gem : Gem) : SnpEvent → Prop
  | .receiveFilters call => CopyFits gem call
  | .controller rxRing txRing _ => ControllerActs gem rxRing txRing
  | _ => True

/-- **Every call, and the controller at work.** -/
theorem dmaSafe_step (ha : gem.buffers.Allocated) {e : SnpEvent} (hok : DmaOk gem e) :
    DmaSafe gem (snpStep gem e) := by
  cases e with
  | start => exact dmaSafe_start gem
  | stop => exact dmaSafe_stop gem
  | snpInitialize mdio => exact dmaSafe_initialize mdio ha
  | reset mdio => exact dmaSafe_reset mdio gem
  | shutdown => exact dmaSafe_shutdown gem
  | receiveFilters call => exact (reachKept_receiveFilters call gem).safe
  | stationAddress reset new => exact (reachKept_stationAddress reset new gem).safe
  | getStatus mdio call => exact (reachKept_getStatus mdio call gem).safe
  | transmit mdio call => exact (reachKept_transmit mdio call gem).safe
  | receive call => exact (reachKept_receive call gem).safe
  | controller rxRing txRing dma => exact (reachKept_controller dma hok).safe

end

end Rpi5Uefi
