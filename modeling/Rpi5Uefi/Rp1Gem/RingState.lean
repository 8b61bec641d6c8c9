import Rpi5Uefi.Rp1Gem.Snp

/-!
# What the rings of the RP1 GEM are made of

`Gem.rings` is the part of the driver's state the rings live in: descriptors, cursors, the table of
caller buffers and the DMA memory. Everything else the driver does leaves it alone, so a ring
invariant is about `Gem.rings` only.

* **`initialize_fresh`**: an `Initialize` that takes effect leaves the rings as `GemInitRings`
  writes them, over the same buffers (`initialize_rxBuffers`).
-/

namespace Rpi5Uefi

open Bytes Frame

/-- The rings, with their buffers. -/
structure GemRings where
  rxBuffers : Nat
  txBuffers : Nat
  rxRing : Nat → GemDmaDesc
  txRing : Nat → GemDmaDesc
  rxHead : UInt16
  txProd : UInt16
  txCons : UInt16
  txUserBuffer : Nat → Option Nat
  dma : Mem

def Gem.rings (gem : Gem) : GemRings where
  rxBuffers := gem.rxBuffers
  txBuffers := gem.txBuffers
  rxRing := gem.rxRing
  txRing := gem.txRing
  rxHead := gem.rxHead
  txProd := gem.txProd
  txCons := gem.txCons
  txUserBuffer := gem.txUserBuffer
  dma := gem.dma

/-! ## What leaves the rings alone -/

@[simp] theorem gemWrite32_rings (gem : Gem) (offset : Nat) (value : UInt32) :
    (gemWrite32 gem offset value).rings = gem.rings := rfl

theorem macReset_rings (gem : Gem) : (gemMacReset gem).rings = gem.rings := by
  unfold gemMacReset
  simp only [gemWrite32_rings]

theorem runPhy_rings {α : Type} {m : PhyM α} (hm : Within PhyKept m) (gem : Gem) :
    (runPhy m gem).2.rings = gem.rings := by
  rw [runPhy_kept hm gem]
  rfl

@[simp] theorem setMacAddress_rings (gem : Gem) (a : EfiMacAddress) :
    (gemSetMacAddress gem a).rings = gem.rings := rfl

theorem setReceiveFilters_rings (gem : Gem) (filters : UInt32) :
    (gemSetReceiveFilters gem filters).rings = gem.rings := by
  unfold gemSetReceiveFilters
  cases filterSet filters stationFilters <;> simp

theorem refreshMedia_rings (mdio : Nat → Option UInt16) (gem : Gem) :
    (refreshMedia mdio gem).rings = gem.rings :=
  runPhy_rings (phyUpdateConfig_within mdio) gem

theorem transmitLink_rings (mdio : Nat → Option UInt16) (gem : Gem) :
    (transmitLink mdio gem).2.rings = gem.rings := by
  have hphy := runPhy_rings (phyWaitLink_within mdio gemLinkRetries) gem
  unfold transmitLink
  split
  · rfl
  · split
    · next hrun =>
      rw [hrun] at hphy
      exact hphy
    · next hrun =>
      rw [hrun] at hphy
      exact hphy

/-! ## The rings after `Initialize` -/

/-- The rings as `GemInitRings` writes them. -/
structure RingsFresh (gem : Gem) : Prop where
  rxRing : ∀ index < gemRxDescCount, gem.rxRing index = rxDescInit gem index
  txRing : ∀ index < gemTxDescCount, gem.txRing index = txDescInit gem index
  rxHead : gem.rxHead = 0
  txProd : gem.txProd = 0
  txCons : gem.txCons = 0

theorem RingsFresh.of_rings {gem gem' : Gem} (h : RingsFresh gem) (heq : gem'.rings = gem.rings) :
    RingsFresh gem' := by
  have hrxb : gem'.rxBuffers = gem.rxBuffers := congrArg GemRings.rxBuffers heq
  have htxb : gem'.txBuffers = gem.txBuffers := congrArg GemRings.txBuffers heq
  have hrx : gem'.rxRing = gem.rxRing := congrArg GemRings.rxRing heq
  have htx : gem'.txRing = gem.txRing := congrArg GemRings.txRing heq
  refine ⟨fun index hi => ?_, fun index hi => ?_, (congrArg GemRings.rxHead heq).trans h.rxHead,
    (congrArg GemRings.txProd heq).trans h.txProd, (congrArg GemRings.txCons heq).trans h.txCons⟩
  · rw [hrx, h.rxRing index hi]
    unfold rxDescInit
    rw [hrxb]
  · rw [htx, h.txRing index hi]
    unfold txDescInit
    rw [htxb]

theorem parkQueues_rings (queueMask : UInt32) (queues : List Nat) (gem : Gem) :
    (queues.foldl (parkQueue queueMask) gem).rings = gem.rings := by
  induction queues generalizing gem with
  | nil => rfl
  | cons queue queues ih =>
    rw [List.foldl_cons, ih]
    unfold parkQueue
    split <;> rfl

theorem cursors_rings (gem : Gem) :
    { gem with rxHead := 0, txProd := 0, txCons := 0 }.rings =
      { gem.rings with rxHead := 0, txProd := 0, txCons := 0 } := rfl

theorem initRings_rings (gem : Gem) :
    (gemInitRings gem).rings = { gem.rings with
      rxRing := fun index =>
        if index < gemRxDescCount then rxDescInit gem index else gem.rxRing index
      txRing := fun index =>
        if index < gemTxDescCount then txDescInit gem index else gem.txRing index
      txUserBuffer := fun index =>
        if index < gemTxDescCount then none else gem.txUserBuffer index
      rxHead := 0
      txProd := 0
      txCons := 0 } := by
  unfold gemInitRings
  simp only [cursors_rings, parkQueues_rings, gemWrite32_rings]
  rfl

theorem initRings_fresh (gem : Gem) : RingsFresh (gemInitRings gem) := by
  have hrings := initRings_rings gem
  have hrx := congrArg GemRings.rxRing hrings
  have htx := congrArg GemRings.txRing hrings
  have hrxb : (gemInitRings gem).rxBuffers = gem.rxBuffers := congrArg GemRings.rxBuffers hrings
  have htxb : (gemInitRings gem).txBuffers = gem.txBuffers := congrArg GemRings.txBuffers hrings
  refine ⟨fun index hi => ?_, fun index hi => ?_, congrArg GemRings.rxHead hrings,
    congrArg GemRings.txProd hrings, congrArg GemRings.txCons hrings⟩
  · rw [show (gemInitRings gem).rxRing = _ from hrx]
    unfold rxDescInit
    rw [hrxb]
    exact if_pos hi
  · rw [show (gemInitRings gem).txRing = _ from htx]
    unfold txDescInit
    rw [htxb]
    exact if_pos hi

theorem RingsFresh.filters {gem : Gem} (h : RingsFresh gem) (a : EfiMacAddress)
    (filters : UInt32) : RingsFresh (gemSetReceiveFilters (gemSetMacAddress gem a) filters) :=
  h.of_rings (setReceiveFilters_rings _ filters)

theorem macConfigure_fresh (gem : Gem) : RingsFresh (gemMacConfigure gem) := by
  unfold gemMacConfigure
  exact (initRings_fresh _).filters _ _

theorem parkQueues_mode (queueMask : UInt32) (queues : List Nat) (gem : Gem) :
    (queues.foldl (parkQueue queueMask) gem).mode = gem.mode := by
  induction queues generalizing gem with
  | nil => rfl
  | cons queue queues ih =>
    rw [List.foldl_cons, ih]
    unfold parkQueue
    split <;> rfl

theorem macConfigure_mode (gem : Gem) : (gemMacConfigure gem).mode = gem.mode := by
  unfold gemMacConfigure gemInitRings
  simp only [setReceiveFilters_mode, setMacAddress_mode, parkQueues_mode, gemWrite32_mode]

theorem configured_mode (mdio : Nat → Option UInt16) (gem : Gem) :
    (runPhy (rp1GemPhyInit mdio) (gemMacConfigure (gemMacReset gem))).2.mode = gem.mode := by
  rw [runPhy_mode (phyInit_within mdio), macConfigure_mode]
  unfold gemMacReset
  simp only [gemWrite32_mode]

/-- **An `Initialize` that takes effect leaves fresh rings.** -/
theorem initialize_fresh {mdio : Nat → Option UInt16} {gem : Gem}
    (hstarted : gem.mode.state = .started)
    (hinit : (rp1GemSnpInitialize mdio gem).2.mode.state = .initialized) :
    RingsFresh (rp1GemSnpInitialize mdio gem).2 := by
  have hphy := runPhy_rings (phyInit_within mdio) (gemMacConfigure (gemMacReset gem))
  have hmode := configured_mode mdio gem
  revert hinit
  unfold rp1GemSnpInitialize
  rw [hstarted]
  simp only
  cases phyFailed (runPhy (rp1GemPhyInit mdio) (gemMacConfigure (gemMacReset gem))).1 with
  | none => exact fun _ => (macConfigure_fresh _).of_rings hphy
  | some status =>
    -- the PHY did not come up, and the interface is still only started
    intro hinit
    rw [show _ = gem.mode from hmode, hstarted] at hinit
    cases hinit

theorem macConfigure_rxBuffers (gem : Gem) : (gemMacConfigure gem).rxBuffers = gem.rxBuffers := by
  show (gemMacConfigure gem).rings.rxBuffers = gem.rxBuffers
  unfold gemMacConfigure
  simp only [setReceiveFilters_rings, setMacAddress_rings, initRings_rings, gemWrite32_rings]
  rfl

/-- `Initialize` does not move the buffers. -/
theorem initialize_rxBuffers {mdio : Nat → Option UInt16} {gem : Gem}
    (hstarted : gem.mode.state = .started) :
    (rp1GemSnpInitialize mdio gem).2.rxBuffers = gem.rxBuffers := by
  have hphy := runPhy_rings (phyInit_within mdio) (gemMacConfigure (gemMacReset gem))
  have hbuffers : (runPhy (rp1GemPhyInit mdio) (gemMacConfigure (gemMacReset gem))).2.rxBuffers =
      gem.rxBuffers := by
    have hreset := congrArg GemRings.rxBuffers (macReset_rings gem)
    exact (congrArg GemRings.rxBuffers hphy).trans ((macConfigure_rxBuffers _).trans hreset)
  unfold rp1GemSnpInitialize
  rw [hstarted]
  simp only
  cases phyFailed (runPhy (rp1GemPhyInit mdio) (gemMacConfigure (gemMacReset gem))).1 with
  | none => exact hbuffers
  | some status => exact hbuffers

end Rpi5Uefi
