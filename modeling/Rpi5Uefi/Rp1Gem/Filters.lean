import Rpi5Uefi.Rp1Gem.MCastFilter

/-!
# The receive filters of the controller over whole runs

* **`documentedFilters`**: the filter state `GemSetReceiveFilters` documents, as a function of the
  setting and the station address; **`controllerFilters`** reads it out of the registers.
* **`FiltersHold`**: what every call keeps while the interface is initialised. The station match is
  armed by every path, since each ends with a write to the high address register.
* **`filters_documented_iff`**: so the two agree exactly while unicast or promiscuous reception is
  on.
-/

namespace Rpi5Uefi

open Bits Frame Transition

/-! ## The filter state -/

/-- What the controller filters by: `NET_CFG`'s filter bits, the hash, and the armed station match
with its two registers. -/
structure FilterState where
  copyAll : Bool
  noBcast : Bool
  multiHashEn : Bool
  uniHashEn : Bool
  hashBot : UInt32
  hashTop : UInt32
  station : Option (UInt32 × UInt32)
  deriving DecidableEq, Repr

/-- The filter state in the registers. -/
def controllerFilters (gem : Gem) : FilterState where
  copyAll := filterSet (gem.regs gemNetCfg) gemNetCfgCopyAll
  noBcast := filterSet (gem.regs gemNetCfg) gemNetCfgNoBcast
  multiHashEn := filterSet (gem.regs gemNetCfg) gemNetCfgMultiHashEn
  uniHashEn := filterSet (gem.regs gemNetCfg) gemNetCfgUniHashEn
  hashBot := gem.regs gemHashBot
  hashTop := gem.regs gemHashTop
  station :=
    if gem.specAddrArmed then some (gem.regs gemSpecAddrLow, gem.regs gemSpecAddrHi) else none

/-- The documented filter state of a setting and a station address. -/
def documentedFilters (setting : UInt32) (address : EfiMacAddress) : FilterState :=
  let promiscuous := filterSet setting efiSimpleNetworkReceivePromiscuous
  let multicast := filterSet setting efiSimpleNetworkReceiveMulticast ||
    filterSet setting efiSimpleNetworkReceivePromiscuousMulticast
  let hash : UInt32 := if !promiscuous && multicast then 0xFFFFFFFF else 0
  { copyAll := promiscuous
    noBcast := !promiscuous && !filterSet setting efiSimpleNetworkReceiveBroadcast
    multiHashEn := !promiscuous && multicast
    uniHashEn := false
    hashBot := hash
    hashTop := hash
    station :=
      if filterSet setting efiSimpleNetworkReceiveUnicast || promiscuous then
        some (macAddressLow address, macAddressHi address)
      else none }

/-- What holds of the filters of an initialised interface. -/
structure FiltersHold (gem : Gem) : Prop where
  flags : { controllerFilters gem with station := none } =
    { documentedFilters gem.mode.receiveFilterSetting gem.mode.currentAddress with station := none }
  armed : gem.specAddrArmed = true
  station : filterSet gem.mode.receiveFilterSetting stationFilters = true →
    gem.regs gemSpecAddrLow = macAddressLow gem.mode.currentAddress ∧
      gem.regs gemSpecAddrHi = macAddressHi gem.mode.currentAddress

variable {gem gem' : Gem}

theorem filterSet_or (filters a b : UInt32) :
    filterSet filters (a ||| b) = (filterSet filters a || filterSet filters b) := by
  have hsplit : filters &&& (a ||| b) = (filters &&& a) ||| (filters &&& b) := by
    refine ext fun i _ => ?_
    simp only [bit_and, bit_or]
    cases bit filters i <;> simp
  have hzero : ∀ x y : UInt32, x ||| y = 0 ↔ x = 0 ∧ y = 0 := by
    refine fun x y => ⟨fun h => ?_, fun ⟨hx, hy⟩ => by rw [hx, hy]; rfl⟩
    have hbits := fun i => congrArg (bit · i) h
    simp only [bit_or, bit_zero, Bool.or_eq_false_iff] at hbits
    exact ⟨ext fun i _ => by rw [(hbits i).1, bit_zero],
      ext fun i _ => by rw [(hbits i).2, bit_zero]⟩
  unfold filterSet
  rw [hsplit, Bool.eq_iff_iff, Bool.or_eq_true]
  simp only [bne_iff_ne, ne_eq, hzero, not_and_or]

/-- **The agreement is about the station match.** -/
theorem FiltersHold.documented_iff (h : FiltersHold gem) :
    controllerFilters gem =
        documentedFilters gem.mode.receiveFilterSetting gem.mode.currentAddress ↔
      filterSet gem.mode.receiveFilterSetting stationFilters = true := by
  have hstation : (controllerFilters gem).station =
      some (gem.regs gemSpecAddrLow, gem.regs gemSpecAddrHi) := by
    show (if gem.specAddrArmed then _ else none) = _
    rw [if_pos h.armed]
  have hdoc : (documentedFilters gem.mode.receiveFilterSetting gem.mode.currentAddress).station =
      if filterSet gem.mode.receiveFilterSetting stationFilters then
        some (macAddressLow gem.mode.currentAddress, macAddressHi gem.mode.currentAddress)
      else none := by
    unfold stationFilters
    rw [filterSet_or]
    rfl
  constructor
  · intro heq
    by_contra hoff
    rw [heq, hdoc, if_neg hoff] at hstation
    cases hstation
  · intro hon
    obtain ⟨hlow, hhi⟩ := h.station hon
    rw [if_pos hon] at hdoc
    rw [hlow, hhi] at hstation
    -- all fields but the station address are the invariant's
    have hflags := h.flags
    rw [FilterState.mk.injEq] at hflags
    obtain ⟨h1, h2, h3, h4, h5, h6, -⟩ := hflags
    cases hc : controllerFilters gem
    cases hd : documentedFilters gem.mode.receiveFilterSetting gem.mode.currentAddress
    rw [hc, hd] at h1 h2 h3 h4 h5 h6
    rw [hc] at hstation
    rw [hd] at hdoc
    simp only at h1 h2 h3 h4 h5 h6 hstation hdoc
    rw [h1, h2, h3, h4, h5, h6, hstation, hdoc]

/-! ## The routines that set them -/

/-- Two words that agree in a mask agree in each flag of it. -/
theorem filterSet_congr {x y m k : UInt32} (hm : m &&& k = k) (h : x &&& m = y &&& m) :
    filterSet x k = filterSet y k := by
  have hx : ∀ z : UInt32, z &&& k = (z &&& m) &&& k := by
    intro z
    rw [UInt32.and_assoc, hm]
  unfold filterSet
  rw [hx x, hx y, h]

theorem setMacAddress_regs (gem : Gem) (a : EfiMacAddress) (reg : Nat) :
    (gemSetMacAddress gem a).regs reg =
      if reg = gemSpecAddrHi then macAddressHi a
      else if reg = gemSpecAddrLow then macAddressLow a else gem.regs reg := by
  unfold gemSetMacAddress
  simp only [gemWrite32_regs]

theorem setReceiveFilters_armed (gem : Gem) (filters : UInt32) :
    (gemSetReceiveFilters gem filters).specAddrArmed = true := by
  unfold gemSetReceiveFilters
  cases filterSet filters stationFilters <;> rfl

/-- The registers after `GemSetReceiveFilters`. -/
theorem setReceiveFilters_regs (gem : Gem) (filters : UInt32) (reg : Nat) :
    (gemSetReceiveFilters gem filters).regs reg =
      if reg = gemSpecAddrHi then
        if filterSet filters stationFilters then macAddressHi gem.mode.currentAddress else 0
      else if reg = gemSpecAddrLow then
        if filterSet filters stationFilters then macAddressLow gem.mode.currentAddress else 0
      else if reg = gemNetCfg then
        (gem.regs gemNetCfg &&& ~~~gemNetCfgFilterMask) ||| netCfgFilterBits filters
      else if reg = gemHashTop then filterHash filters
      else if reg = gemHashBot then filterHash filters
      else gem.regs reg := by
  unfold gemSetReceiveFilters
  cases filterSet filters stationFilters <;>
    simp [setMacAddress_regs, gemRead32]

/-- The filter bits are the documented ones. -/
theorem netCfgFilterBits_flags (filters : UInt32) (address : EfiMacAddress) :
    filterSet (netCfgFilterBits filters) gemNetCfgCopyAll =
        (documentedFilters filters address).copyAll ∧
      filterSet (netCfgFilterBits filters) gemNetCfgNoBcast =
        (documentedFilters filters address).noBcast ∧
      filterSet (netCfgFilterBits filters) gemNetCfgMultiHashEn =
        (documentedFilters filters address).multiHashEn ∧
      filterSet (netCfgFilterBits filters) gemNetCfgUniHashEn = false ∧
      filterHash filters = (documentedFilters filters address).hashBot := by
  unfold netCfgFilterBits filterHash documentedFilters
  simp only [filterSet_or filters]
  generalize filterSet filters efiSimpleNetworkReceivePromiscuous = p
  generalize filterSet filters efiSimpleNetworkReceiveBroadcast = b
  generalize filterSet filters efiSimpleNetworkReceiveMulticast = m
  generalize filterSet filters efiSimpleNetworkReceivePromiscuousMulticast = q
  -- four flags decide it
  revert p b m q
  decide

/-- **`GemSetReceiveFilters` establishes what holds**, for the setting it is given. -/
theorem setReceiveFilters_holds (gem : Gem) (filters : UInt32) :
    FiltersHold { gemSetReceiveFilters gem filters with
      mode := { gem.mode with receiveFilterSetting := filters } } := by
  obtain ⟨hcopy, hbcast, hmulti, huni, hhash⟩ :=
    netCfgFilterBits_flags filters gem.mode.currentAddress
  have hcfg : (gemSetReceiveFilters gem filters).regs gemNetCfg =
      (gem.regs gemNetCfg &&& ~~~gemNetCfgFilterMask) ||| netCfgFilterBits filters := by
    rw [setReceiveFilters_regs]
    rfl
  have hflag : ∀ k : UInt32, gemNetCfgFilterMask &&& k = k →
      filterSet ((gemSetReceiveFilters gem filters).regs gemNetCfg) k =
        filterSet (netCfgFilterBits filters) k := by
    intro k hk
    unfold filterSet
    rw [hcfg, field_and hk]
  have hbot : (gemSetReceiveFilters gem filters).regs gemHashBot = filterHash filters := by
    rw [setReceiveFilters_regs]
    rfl
  have htop : (gemSetReceiveFilters gem filters).regs gemHashTop = filterHash filters := by
    rw [setReceiveFilters_regs]
    rfl
  refine ⟨?_, setReceiveFilters_armed gem filters, fun hon => ⟨?_, ?_⟩⟩
  · unfold controllerFilters
    rw [FilterState.mk.injEq]
    exact ⟨(hflag _ (by decide)).trans hcopy, (hflag _ (by decide)).trans hbcast,
      (hflag _ (by decide)).trans hmulti, (hflag _ (by decide)).trans huni, hbot.trans hhash,
      htop.trans hhash, rfl⟩
  · show (gemSetReceiveFilters gem filters).regs gemSpecAddrLow = _
    rw [setReceiveFilters_regs, if_neg (by decide), if_pos rfl]
    exact if_pos hon
  · show (gemSetReceiveFilters gem filters).regs gemSpecAddrHi = _
    rw [setReceiveFilters_regs, if_pos rfl]
    exact if_pos hon

/-! ## What leaves them alone -/

/-- Nothing the filters depend on has changed. -/
structure FiltersKept (gem gem' : Gem) : Prop where
  setting : gem'.mode.receiveFilterSetting = gem.mode.receiveFilterSetting
  address : gem'.mode.currentAddress = gem.mode.currentAddress
  armed : gem'.specAddrArmed = gem.specAddrArmed
  regs : ∀ reg ∈ [gemHashBot, gemHashTop, gemSpecAddrLow, gemSpecAddrHi],
    gem'.regs reg = gem.regs reg
  netCfg : gem'.regs gemNetCfg &&& gemNetCfgFilterMask =
    gem.regs gemNetCfg &&& gemNetCfgFilterMask

theorem FiltersKept.refl (gem : Gem) : FiltersKept gem gem :=
  ⟨rfl, rfl, rfl, fun _ _ => rfl, rfl⟩

theorem FiltersKept.trans {gem'' : Gem} (h : FiltersKept gem gem') (h' : FiltersKept gem' gem'') :
    FiltersKept gem gem'' :=
  ⟨h'.setting.trans h.setting, h'.address.trans h.address, h'.armed.trans h.armed,
    fun reg hreg => (h'.regs reg hreg).trans (h.regs reg hreg), h'.netCfg.trans h.netCfg⟩

theorem FiltersKept.controllerFilters (h : FiltersKept gem gem') :
    controllerFilters gem' = controllerFilters gem := by
  have hflag : ∀ k : UInt32, gemNetCfgFilterMask &&& k = k →
      filterSet (gem'.regs gemNetCfg) k = filterSet (gem.regs gemNetCfg) k :=
    fun k hk => filterSet_congr hk h.netCfg
  unfold Rpi5Uefi.controllerFilters
  rw [hflag _ (by decide), hflag _ (by decide), hflag _ (by decide), hflag _ (by decide),
    h.armed, h.regs gemHashBot (by decide), h.regs gemHashTop (by decide),
    h.regs gemSpecAddrLow (by decide), h.regs gemSpecAddrHi (by decide)]

theorem FiltersHold.of_kept (h : FiltersHold gem) (hkept : FiltersKept gem gem') :
    FiltersHold gem' := by
  refine ⟨?_, hkept.armed.trans h.armed, fun hon => ?_⟩
  · rw [hkept.controllerFilters, hkept.setting, hkept.address]
    exact h.flags
  · rw [hkept.setting] at hon
    rw [hkept.regs gemSpecAddrLow (by decide), hkept.regs gemSpecAddrHi (by decide), hkept.address]
    exact h.station hon

/-- A write to any register the filters are not in. -/
theorem filtersKept_write {offset : Nat} {value : UInt32}
    (h : offset ∉ [gemHashBot, gemHashTop, gemSpecAddrLow, gemSpecAddrHi, gemNetCfg]) :
    FiltersKept gem (gemWrite32 gem offset value) := by
  have hne : ∀ reg ∈ [gemHashBot, gemHashTop, gemSpecAddrLow, gemSpecAddrHi, gemNetCfg],
      (gemWrite32 gem offset value).regs reg = gem.regs reg := by
    intro reg hreg
    rw [gemWrite32_regs, if_neg]
    rintro rfl
    exact h hreg
  refine ⟨rfl, rfl, ?_, fun reg hreg => hne reg ?_, ?_⟩
  · rw [gemWrite32_armed, if_neg, if_neg]
    · rintro rfl
      exact h (by decide)
    · rintro rfl
      exact h (by decide)
  · have happ : [gemHashBot, gemHashTop, gemSpecAddrLow, gemSpecAddrHi, gemNetCfg] =
        [gemHashBot, gemHashTop, gemSpecAddrLow, gemSpecAddrHi] ++ [gemNetCfg] := rfl
    rw [happ]
    exact List.mem_append_left _ hreg
  · rw [hne gemNetCfg (by decide)]

/-- The PHY routines keep the filters. -/
theorem filtersKept_runPhy {α : Type} {m : PhyM α} (hm : Within PhyKept m) (gem : Gem) :
    FiltersKept gem (runPhy m gem).2 := by
  have hkept := hm ⟨gem, 0⟩
  unfold runPhy
  simp only
  generalize after m ⟨gem, 0⟩ = io at hkept
  refine ⟨?_, ?_, ?_, fun reg hreg => ?_, ?_⟩
  · rw [hkept.gem]
  · rw [hkept.gem]
  · rw [hkept.gem]
  -- the PHY routines write the management registers and the link bits of `NET_CFG`
  · have hne : reg ≠ gemNetCtrl ∧ reg ≠ gemPhyMaint ∧ reg ≠ gemNetCfg := by
      revert reg
      decide
    exact hkept.regs reg hne.1 hne.2.1 hne.2.2
  · have hsub : ~~~gemNetCfgLinkMask &&& gemNetCfgFilterMask = gemNetCfgFilterMask := by decide
    rw [← hsub, ← UInt32.and_assoc, ← UInt32.and_assoc, hkept.netCfg]

theorem filtersKept_recycledTx (gem : Gem) : FiltersKept gem (gemGetRecycledTxBuffer gem).2 := by
  unfold gemGetRecycledTxBuffer
  split
  · exact .refl gem
  · simp only
    split
    · exact .refl gem
    · have hcursor : FiltersKept gem { gem with
          txUserBuffer := Function.update gem.txUserBuffer
            (gem.txCons.toNat % gemTxDescCount) none
          txCons := gem.txCons + 1 } := ⟨rfl, rfl, rfl, fun _ _ => rfl, rfl⟩
      exact hcursor.trans (filtersKept_write (by decide))

theorem filtersKept_transmitFrame (gem : Gem) (userBuffer : Nat) (frame : List UInt8) :
    FiltersKept gem (gemTransmitFrame gem userBuffer frame).2 := by
  unfold gemTransmitFrame
  split
  · exact .refl gem
  · have hrings : ∀ dma txRing txUserBuffer txProd,
        FiltersKept gem { gem with dma, txRing, txUserBuffer, txProd } :=
      fun _ _ _ _ => ⟨rfl, rfl, rfl, fun _ _ => rfl, rfl⟩
    exact (hrings _ _ _ _).trans (filtersKept_write (by decide))

theorem filtersKept_receivePass (gem : Gem) (bufferSize : Nat) :
    FiltersKept gem (gemReceivePass gem bufferSize).2 := by
  have hrecycle : FiltersKept gem (gemRecycleRxDescriptor gem gem.rxHead.toNat) :=
    ⟨rfl, rfl, rfl, fun _ _ => rfl, rfl⟩
  unfold gemReceivePass
  simp only
  split
  · exact .refl gem
  · split
    · exact hrecycle
    · split
      · exact .refl gem
      · exact hrecycle.trans (filtersKept_write (by decide))

theorem filtersKept_receiveLoop (bufferSize passes : Nat) (gem : Gem) :
    FiltersKept gem (gemReceiveLoop bufferSize passes gem).2 := by
  induction passes generalizing gem with
  | zero => exact .refl gem
  | succ passes ih =>
    have hpass := filtersKept_receivePass gem bufferSize
    unfold gemReceiveLoop
    revert hpass
    cases gemReceivePass gem bufferSize with
    | mk result gem' =>
      intro hpass
      cases result with
      | some _ => exact hpass
      | none => exact hpass.trans (ih gem')

/-! ## Runs of calls -/

/-- A call of the protocol, with what the PHY answers meanwhile, or the controller at work on the
rings. -/
inductive SnpEvent where
  | start
  | stop
  | snpInitialize (mdio : Nat → Option UInt16)
  | reset (mdio : Nat → Option UInt16)
  | shutdown
  | receiveFilters (call : ReceiveFiltersCall)
  | stationAddress (reset : Bool) (new : Option EfiMacAddress)
  | getStatus (mdio : Nat → Option UInt16) (call : GetStatusCall)
  | transmit (mdio : Nat → Option UInt16) (call : TransmitCall)
  | receive (call : ReceiveCall)
  | controller (rxRing txRing : Nat → GemDmaDesc) (dma : Bytes.Mem)

/-- The state after an event. -/
def snpStep (gem : Gem) : SnpEvent → Gem
  | .start => (rp1GemSnpStart gem).2
  | .stop => (rp1GemSnpStop gem).2
  | .snpInitialize mdio => (rp1GemSnpInitialize mdio gem).2
  | .reset mdio => (rp1GemSnpReset mdio gem).2
  | .shutdown => (rp1GemSnpShutdown gem).2
  | .receiveFilters call => (rp1GemSnpReceiveFilters call gem).2.2
  | .stationAddress reset new => (rp1GemSnpStationAddress reset new gem).2
  | .getStatus mdio call => (rp1GemSnpGetStatus mdio call gem).2
  | .transmit mdio call => (rp1GemSnpTransmit mdio call gem).2
  | .receive call => (rp1GemSnpReceive call gem).2
  | .controller rxRing txRing dma => { gem with rxRing, txRing, dma }

/-- No call copies multicast addresses past the array. -/
def CopiesFit (gem : Gem) : SnpEvent → Prop
  | .receiveFilters call => CopyFits gem call
  | _ => True

/-- The interface is down, or the filters hold. -/
def FiltersInv (gem : Gem) : Prop := gem.mode.state = .initialized → FiltersHold gem

theorem FiltersInv.of_kept (h : FiltersInv gem) (hkept : FiltersKept gem gem')
    (hstate : gem'.mode.state = gem.mode.state) : FiltersInv gem' :=
  fun hinit => (h (hstate ▸ hinit)).of_kept hkept

/-! ### Call by call -/

theorem filters_bringUp (mdio : Nat → Option UInt16) (h : FiltersInv gem) :
    FiltersInv (rp1GemSnpInitialize mdio gem).2 := by
  unfold rp1GemSnpInitialize
  cases hstate : gem.mode.state with
  | stopped => exact h
  | initialized => exact h
  | started =>
    -- `GemMacConfigure` ends with the filters, and the PHY leaves them alone
    have hset : FiltersHold (gemMacConfigure (gemMacReset gem)) := by
      unfold gemMacConfigure
      simp only
      have hholds := fun g : Gem => setReceiveFilters_holds g g.mode.receiveFilterSetting
      refine (hholds _).of_kept ⟨?_, ?_, rfl, fun _ _ => rfl, rfl⟩ <;>
        rw [setReceiveFilters_mode]
    have hkept := filtersKept_runPhy (phyInit_within mdio)
      (gemMacConfigure (gemMacReset gem))
    simp only
    generalize runPhy (rp1GemPhyInit mdio) (gemMacConfigure (gemMacReset gem)) = r at hkept
    have hheld := hset.of_kept hkept
    cases phyFailed r.1 with
    | some status => exact fun _ => hheld
    | none =>
      have hen : FiltersKept r.2 (gemMacEnableTxRx r.2) := filtersKept_write (by decide)
      exact fun _ => (hheld.of_kept hen).of_kept ⟨rfl, rfl, rfl, fun _ _ => rfl, rfl⟩

theorem filters_reset (mdio : Nat → Option UInt16) (h : FiltersInv gem) :
    FiltersInv (rp1GemSnpReset mdio gem).2 := by
  unfold rp1GemSnpReset
  cases needInitialized gem with
  | some status => exact h
  | none =>
    have hkept := filtersKept_runPhy (phyInit_within mdio) gem
    have hmode := runPhy_mode (phyInit_within mdio) gem
    simp only
    generalize runPhy (rp1GemPhyInit mdio) gem = r at hkept hmode
    have hinv : FiltersInv r.2 := h.of_kept hkept (by rw [hmode])
    cases phyFailed r.1 with
    | some status => exact hinv
    | none => exact hinv.of_kept ⟨rfl, rfl, rfl, fun _ _ => rfl, rfl⟩ rfl

theorem filters_receiveFilters (call : ReceiveFiltersCall) (h : FiltersInv gem) :
    FiltersInv (rp1GemSnpReceiveFilters call gem).2.2 := by
  cases hrefused : call.refused gem with
  | some status =>
    rw [receiveFilters_of_refused hrefused]
    exact h
  | none =>
    unfold rp1GemSnpReceiveFilters
    rw [hrefused]
    intro _
    have hholds := setReceiveFilters_holds
      { gem with mode := (mCastFilterUpdate call (call.setting gem) gem.mode).2 }
      (call.setting gem)
    -- the multicast list is in the mode, which the registers do not depend on
    refine hholds.of_kept ⟨rfl, ?_, rfl, fun _ _ => rfl, rfl⟩
    simp only [setReceiveFilters_mode]

theorem filters_stationAddress (reset : Bool) (new : Option EfiMacAddress) (h : FiltersInv gem) :
    FiltersInv (rp1GemSnpStationAddress reset new gem).2 := by
  unfold rp1GemSnpStationAddress
  split
  · exact h
  · cases hneed : needInitialized gem with
    | some status => exact h
    | none =>
      intro _
      have hheld := h (needInitialized_eq_none.mp hneed)
      -- the address registers are written, the rest of the filter stays
      refine ⟨?_, rfl, fun _ => ⟨?_, ?_⟩⟩
      · have hflags := hheld.flags
        unfold controllerFilters at hflags ⊢
        simp only [setMacAddress_regs] at hflags ⊢
        rw [FilterState.mk.injEq] at hflags ⊢
        exact hflags
      · simp only [setMacAddress_regs]
        rfl
      · simp only [setMacAddress_regs]
        rfl

theorem filters_refreshMedia (mdio : Nat → Option UInt16) (h : FiltersInv gem) :
    FiltersInv (refreshMedia mdio gem) := by
  have hkept := filtersKept_runPhy (phyUpdateConfig_within mdio) gem
  have hmode := runPhy_mode (phyUpdateConfig_within mdio) gem
  exact (h.of_kept hkept (by rw [hmode])).of_kept ⟨rfl, rfl, rfl, fun _ _ => rfl, rfl⟩ rfl

theorem filters_getStatus (mdio : Nat → Option UInt16) (call : GetStatusCall)
    (h : FiltersInv gem) : FiltersInv (rp1GemSnpGetStatus mdio call gem).2 := by
  unfold rp1GemSnpGetStatus
  cases needInitialized gem with
  | some status => exact h
  | none =>
    cases call.lockFree with
    | false => exact h
    | true =>
      have hrefresh := filters_refreshMedia mdio h
      have hkept : FiltersKept (refreshMedia mdio gem)
          (recycleTx call.txBuf (refreshMedia mdio gem)).2 := by
        cases call.txBuf with
        | true => exact filtersKept_recycledTx _
        | false => exact .refl _
      exact hrefresh.of_kept hkept (congrArg SnpMode.state (recycleTx_mode _ _))

theorem filters_transmit (mdio : Nat → Option UInt16) (call : TransmitCall)
    (h : FiltersInv gem) : FiltersInv (rp1GemSnpTransmit mdio call gem).2 := by
  unfold rp1GemSnpTransmit
  cases call.refused gem with
  | some status => exact h
  | none =>
    have hlink : FiltersInv (transmitLink mdio gem).2 := by
      have hkept := filtersKept_runPhy (phyWaitLink_within mdio gemLinkRetries) gem
      have hmode := runPhy_mode (phyWaitLink_within mdio gemLinkRetries) gem
      unfold transmitLink
      split
      · exact h
      · generalize runPhy (phyWaitLink mdio gemLinkRetries) gem = r at hkept hmode
        have hinv : FiltersInv r.2 := h.of_kept hkept (by rw [hmode])
        split
        · exact FiltersInv.of_kept hinv ⟨rfl, rfl, rfl, fun _ _ => rfl, rfl⟩ rfl
        · exact hinv
    simp only
    generalize transmitLink mdio gem = r at hlink
    cases r.1 with
    | false => exact hlink
    | true =>
      cases call.lockFree with
      | false => exact hlink
      | true =>
        exact hlink.of_kept (filtersKept_transmitFrame _ _ _)
          (congrArg SnpMode.state (transmitFrame_mode _ _ _))

theorem filters_receive (call : ReceiveCall) (h : FiltersInv gem) :
    FiltersInv (rp1GemSnpReceive call gem).2 := by
  unfold rp1GemSnpReceive
  cases call.refused gem with
  | error status => exact h
  | ok bufferSize =>
    have hkept := filtersKept_receiveLoop bufferSize (gemRxDescCount + 1) gem
    have hmode := receiveLoop_mode bufferSize (gemRxDescCount + 1) gem
    simp only
    revert hkept hmode
    cases gemReceiveLoop bufferSize (gemRxDescCount + 1) gem with
    | mk result gem' =>
      intro hkept hmode
      have hinv : FiltersInv gem' := h.of_kept hkept (by rw [hmode])
      cases result with
      | some _ => exact hinv
      | none => exact hinv

/-- **Every call keeps the filters.** -/
theorem filters_step (e : SnpEvent) (h : FiltersInv gem) : FiltersInv (snpStep gem e) := by
  have hdown : ∀ {g : Gem}, g.mode.state ≠ .initialized → FiltersInv g :=
    fun hstate hinit => absurd hinit hstate
  cases e with
  | start =>
    show FiltersInv (rp1GemSnpStart gem).2
    unfold rp1GemSnpStart
    cases gem.mode.state with
    | stopped => exact hdown (by simp)
    | started => exact h
    | initialized => exact h
  | stop =>
    show FiltersInv (rp1GemSnpStop gem).2
    unfold rp1GemSnpStop
    cases gem.mode.state with
    | stopped => exact h
    | started => exact hdown (by simp)
    | initialized => exact h
  | snpInitialize mdio => exact filters_bringUp mdio h
  | reset mdio => exact filters_reset mdio h
  | shutdown =>
    show FiltersInv (rp1GemSnpShutdown gem).2
    unfold rp1GemSnpShutdown
    cases needInitialized gem with
    | some status => exact h
    | none => exact hdown (by simp)
  | receiveFilters call => exact filters_receiveFilters call h
  | stationAddress reset new => exact filters_stationAddress reset new h
  | getStatus mdio call => exact filters_getStatus mdio call h
  | transmit mdio call => exact filters_transmit mdio call h
  | receive call => exact filters_receive call h
  | controller rxRing txRing dma => exact h.of_kept ⟨rfl, rfl, rfl, fun _ _ => rfl, rfl⟩ rfl

/-- Filter changes keep the speed and duplex bits. -/
theorem setReceiveFilters_link (gem : Gem) (filters : UInt32) :
    (gemSetReceiveFilters gem filters).regs gemNetCfg &&& gemNetCfgLinkMask =
      gem.regs gemNetCfg &&& gemNetCfgLinkMask := by
  have hbits : netCfgFilterBits filters &&& gemNetCfgLinkMask = 0 := by
    unfold netCfgFilterBits
    cases filterSet filters efiSimpleNetworkReceivePromiscuous <;>
      cases filterSet filters efiSimpleNetworkReceiveBroadcast <;>
      cases filterSet filters (efiSimpleNetworkReceiveMulticast |||
        efiSimpleNetworkReceivePromiscuousMulticast) <;> decide
  rw [setReceiveFilters_regs, if_neg (by decide), if_neg (by decide), if_pos rfl]
  exact field_and_of_disjoint (by decide) hbits

theorem receiveFilters_link (call : ReceiveFiltersCall) (gem : Gem) :
    (rp1GemSnpReceiveFilters call gem).2.2.regs gemNetCfg &&& gemNetCfgLinkMask =
      gem.regs gemNetCfg &&& gemNetCfgLinkMask := by
  unfold rp1GemSnpReceiveFilters
  cases call.refused gem with
  | some status => rfl
  | none => exact setReceiveFilters_link { gem with mode := _ } (call.setting gem)

/-- **The filters are the documented ones exactly while the station is to be matched.** In every
state a run of calls reaches with the interface initialised, the registers are the documented
function of the setting and the address if and only if the setting has unicast or promiscuous
reception; a filter change keeps the speed and duplex bits, and a link update the filters. -/
theorem filters_documented_iff (found : Gem) (permanentAddress : EfiMacAddress)
    (es : List SnpEvent) (gem : Gem)
    (hrun : RunWith (fun gem e gem' => gem' = snpStep gem e) CopiesFit
      (rp1GemDriverBindingStart found permanentAddress) es gem)
    (hinit : gem.mode.state = .initialized) :
    (controllerFilters gem =
        documentedFilters gem.mode.receiveFilterSetting gem.mode.currentAddress ↔
      filterSet gem.mode.receiveFilterSetting
        (efiSimpleNetworkReceiveUnicast ||| efiSimpleNetworkReceivePromiscuous) = true) ∧
    (∀ call, (rp1GemSnpReceiveFilters call gem).2.2.regs gemNetCfg &&& gemNetCfgLinkMask =
      gem.regs gemNetCfg &&& gemNetCfgLinkMask) ∧
    ∀ mdio, controllerFilters (runPhy (rp1GemPhyUpdateConfig mdio) gem).2 =
      controllerFilters gem := by
  have hinv : FiltersInv gem := by
    refine RunWith.inv (fun gem e gem' h _ hstep => ?_) hrun nofun
    rw [hstep]
    exact filters_step e h
  exact ⟨(hinv hinit).documented_iff, fun call => receiveFilters_link call gem,
    fun mdio => (filtersKept_runPhy (phyUpdateConfig_within mdio) gem).controllerFilters⟩

/-! ## Two runs -/

/-- Start and initialise the interface. -/
def bringUpEvents : List SnpEvent := [.start, .snpInitialize answeringPhy]

theorem bringUp_run : RunWith (fun gem e gem' => gem' = snpStep gem e) CopiesFit
    (rp1GemDriverBindingStart foundGem stationMac) bringUpEvents initializedGem :=
  .snoc (.snoc .nil trivial rfl) trivial rfl

theorem bringUp_documented :
    initializedGem.mode.state = .initialized ∧
      (controllerFilters initializedGem = documentedFilters
          initializedGem.mode.receiveFilterSetting initializedGem.mode.currentAddress ↔
        filterSet initializedGem.mode.receiveFilterSetting
          (efiSimpleNetworkReceiveUnicast ||| efiSimpleNetworkReceivePromiscuous) = true) ∧
      (∀ call, (rp1GemSnpReceiveFilters call initializedGem).2.2.regs gemNetCfg &&&
          gemNetCfgLinkMask = initializedGem.regs gemNetCfg &&& gemNetCfgLinkMask) ∧
      ∀ mdio, controllerFilters (runPhy (rp1GemPhyUpdateConfig mdio) initializedGem).2 =
        controllerFilters initializedGem := by
  have hinit : initializedGem.mode.state = .initialized := by rfl
  exact ⟨hinit, filters_documented_iff foundGem stationMac bringUpEvents initializedGem
    bringUp_run hinit⟩

/-- Unicast reception off. -/
def disableUnicast : ReceiveFiltersCall := ⟨0, efiSimpleNetworkReceiveUnicast, false, 0, none⟩

/-- The match that should be disarmed is armed, with the address zero. -/
theorem disableUnicast_armed :
    ∃ gem, Run (fun gem e gem' => gem' = snpStep gem e)
        (rp1GemDriverBindingStart foundGem stationMac)
        (bringUpEvents ++ [.receiveFilters disableUnicast]) gem ∧
      gem.mode.state = .initialized ∧
      (controllerFilters gem).station = some (0, 0) ∧
      controllerFilters gem ≠
        documentedFilters gem.mode.receiveFilterSetting gem.mode.currentAddress := by
  refine ⟨_, .snoc bringUp_run.run rfl, by rfl, by rfl, fun heq => ?_⟩
  have hstation : some (0, 0) = (none : Option (UInt32 × UInt32)) :=
    congrArg FilterState.station heq
  cases hstation

end Rpi5Uefi
