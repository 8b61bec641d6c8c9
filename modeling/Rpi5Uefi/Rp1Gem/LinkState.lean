import Rpi5Uefi.Lib.Latch
import Rpi5Uefi.Rp1Gem.Filters
import Rpi5Uefi.Rp1Gem.LinkMode
import Rpi5Uefi.Rp1Gem.RingState

/-!
# The link state of the RP1 GEM over runs of calls (`Snp.c`, `Phy.c`)

The interface together with a PHY whose link drops and comes up between polls, with any partner.
The PHY may leave any access without an answer. What it does answer is what it holds, and its link
bit stays low after a drop until the status is read. What a `ReceiveFilters` that copies past
`MCastFilter` would overwrite behind the array is not in the model, so the runs here have no such
call.

* **`PollSees`**: what one poll may be answered;
* **`LinkStep`**: the calls of the protocol and the changes of the link, in any order;
* **`CopiesInArray`**: no call copies multicast addresses past the array;
* **`linkState_coherent`**: media is only reported on the strength of a poll since the last
  `Initialize`, `Reset` or `Shutdown`, and the MAC is in the highest common mode with the partner
  that poll found.
-/

namespace Rpi5Uefi

open Frame Transition LatchedLow

/-! ## The PHY -/

/-- The PHY: the state of the link, with the partner of the last link-up, and the two registers
this end advertises with. -/
structure PhyLink where
  link : Latch LinkPartner
  gbcr : UInt16
  anar : UInt16

/-- The value a register of `Rp1GemPhyGetConfig` is read with. -/
def PhyLink.Holds (phy : PhyLink) (reg : UInt8) (value : UInt16) : Prop :=
  (reg = phyGbcr → value = phy.gbcr) ∧ (reg = phyGbsr → value = phy.link.value.gbsr) ∧
    (reg = phyAnar → value = phy.anar) ∧ (reg = phyAnlpar → value = phy.link.value.anlpar)

/-- The registers hold what `Rp1GemPhyAutoNegotiate` has written. -/
def PhyLink.Advertised (phy : PhyLink) : Prop :=
  ∃ gbcr anar, phy.gbcr = advertisedGbcr gbcr ∧ phy.anar = advertisedAnar anar

/-- The answers to one poll, during which the link does not change. -/
structure PollSees (mdio : Nat → Option UInt16) (io : PhyIo) (phy phy' : PhyLink) : Prop where
  status : Read io.gem.linkUp phy.link ((mdio io.ops).map bmsrLinkUp) phy'.link
  registers : phy'.gbcr = phy.gbcr ∧ phy'.anar = phy.anar
  config : ∀ k reg value, pollRegisters[k]? = some reg →
    io.ops + k < (after (rp1GemPhyUpdateConfig mdio) io).ops →
    mdio (io.ops + k) = some value → phy.Holds reg value

/-- The link may change while nobody polls. -/
def LinkChanges (phy phy' : PhyLink) : Prop :=
  ∃ link, Relation.ReflTransGen Change phy.link link ∧ phy' = { phy with link }

/-- The answers to the polls of a `Transmit` that waits, with changes of the link in between. -/
def WaitSees (mdio : Nat → Option UInt16) : Nat → PhyIo → PhyLink → PhyLink → Prop
  | 0, _, phy, phy' => phy' = phy
  | retries + 1, io, phy, phy' => ∃ before polled, LinkChanges phy before ∧
      PollSees mdio io before polled ∧
      match rp1GemPhyUpdateConfig mdio io with
      | .ok _ _ => phy' = polled
      | .error _ io' => WaitSees mdio retries io' polled phy'

/-! ## The system -/

/-- The interface and the PHY. `ready` records that the last `Rp1GemPhyInit` succeeded, `found` the
partner of the link that the last poll found, if it found one and no `Initialize`, `Reset` or
`Shutdown` has come since. -/
structure LinkSystem where
  gem : Gem
  phy : PhyLink
  ready : Bool
  found : Option LinkPartner

/-- A call of the protocol, or changes of the link. -/
inductive LinkEvent where
  | call (e : SnpEvent)
  | link

/-- What `Rp1GemPhyInit` returns in a call that runs it. -/
def phyInitOf (gem : Gem) : SnpEvent → Option (Except EfiStatus Unit)
  | .snpInitialize mdio =>
    if gem.mode.state = .started then
      some (runPhy (rp1GemPhyInit mdio) (gemMacConfigure (gemMacReset gem))).1
    else none
  | .reset mdio =>
    if gem.mode.state = .initialized then some (runPhy (rp1GemPhyInit mdio) gem).1 else none
  | _ => none

/-- A `GetStatus` or `Transmit` that polls the PHY. -/
def pollsPhy (gem : Gem) : SnpEvent → Bool
  | .getStatus _ call => gem.mode.state = .initialized && call.lockFree
  | .transmit _ call => (call.refused gem).isNone && !gem.mode.mediaPresent
  | _ => false

/-- A call that neither talks to the PHY nor resets the MAC. -/
def quietCall (gem : Gem) (e : SnpEvent) : Prop :=
  phyInitOf gem e = none ∧ pollsPhy gem e = false ∧
    (e = .shutdown → gem.mode.state ≠ .initialized)

/-- The steps of the system. After a successful `Rp1GemPhyInit` the PHY holds what was written to
it; whatever else an initialisation does to the PHY is left open. -/
inductive LinkStep : LinkSystem → LinkEvent → LinkSystem → Prop where
  | link {s : LinkSystem} {phy : PhyLink} (hlink : LinkChanges s.phy phy) :
      LinkStep s .link { s with phy }
  | phyInit {s : LinkSystem} {e : SnpEvent} {phy : PhyLink} {outcome : Except EfiStatus Unit}
      (hinit : phyInitOf s.gem e = some outcome)
      (hwritten : phyFailed outcome = none → phy.Advertised) :
      LinkStep s (.call e)
        ⟨snpStep s.gem e, phy, (phyFailed outcome).isNone, none⟩
  | shutdown {s : LinkSystem} (hstate : s.gem.mode.state = .initialized) :
      LinkStep s (.call .shutdown) { s with gem := snpStep s.gem .shutdown, found := none }
  | getStatus {s : LinkSystem} {mdio : Nat → Option UInt16} {call : GetStatusCall} {phy : PhyLink}
      (hpolls : pollsPhy s.gem (.getStatus mdio call) = true)
      (hsees : PollSees mdio ⟨s.gem, 0⟩ s.phy phy) :
      LinkStep s (.call (.getStatus mdio call))
        { s with
          gem := snpStep s.gem (.getStatus mdio call)
          phy
          found := match (runPhy (rp1GemPhyUpdateConfig mdio) s.gem).1 with
            | .ok _ => some phy.link.value
            | .error _ => none }
  | transmit {s : LinkSystem} {mdio : Nat → Option UInt16} {call : TransmitCall} {phy : PhyLink}
      (hpolls : pollsPhy s.gem (.transmit mdio call) = true)
      (hsees : WaitSees mdio gemLinkRetries ⟨s.gem, 0⟩ s.phy phy) :
      LinkStep s (.call (.transmit mdio call))
        { s with
          gem := snpStep s.gem (.transmit mdio call)
          phy
          found := if (transmitLink mdio s.gem).1 then some phy.link.value else none }
  | quiet {s : LinkSystem} {e : SnpEvent} (hquiet : quietCall s.gem e) :
      LinkStep s (.call e) { s with gem := snpStep s.gem e }

/-- No call copies multicast addresses past the array. `MediaPresent` stands behind it. -/
def CopiesInArray (s : LinkSystem) : LinkEvent → Prop
  | .call e => CopiesFit s.gem e
  | .link => True

/-- The system after `Rp1GemDriverBindingStart`, with any PHY. -/
def linkStart (found : Gem) (permanentAddress : EfiMacAddress) (phy : PhyLink) : LinkSystem :=
  ⟨rp1GemDriverBindingStart found permanentAddress, phy, false, none⟩

/-- The speed and duplex bits are those of the highest mode in common with a partner. -/
def Encodes (gem : Gem) (partner : LinkPartner) : Prop :=
  ∀ mode, highestCommonMode driverAdvertises partner.modes = some mode →
    gem.regs gemNetCfg &&& gemNetCfgLinkMask = mode.netCfgBits

/-! ## Polls -/

section
variable {mdio : Nat → Option UInt16} {io : PhyIo} {phy phy' : PhyLink} {gem gem' : Gem}

theorem Encodes.of_netCfg {partner : LinkPartner} (h : Encodes gem partner)
    (hcfg : gem'.regs gemNetCfg &&& gemNetCfgLinkMask =
      gem.regs gemNetCfg &&& gemNetCfgLinkMask) : Encodes gem' partner :=
  fun mode hmode => hcfg.trans (h mode hmode)

/-- The link bits after `GemUpdateLinkSpeed`. -/
theorem netCfgLinkBits_and (x : UInt32) (speedMbps : Nat) (fullDuplex : Bool) :
    ((x &&& ~~~gemNetCfgLinkMask) ||| netCfgLinkBits speedMbps fullDuplex) &&& gemNetCfgLinkMask =
      netCfgLinkBits speedMbps fullDuplex := by
  rw [Bits.field_and UInt32.and_self]
  unfold netCfgLinkBits
  split
  · cases fullDuplex <;> decide
  · split
    · cases fullDuplex <;> decide
    · cases fullDuplex <;> decide

/-- The two ends agree on what the driver would compute from the registers of the PHY. -/
theorem encodes_resolved (hadv : phy.Advertised) {x : UInt32}
    (hcfg : gem.regs gemNetCfg = (x &&& ~~~gemNetCfgLinkMask) |||
      netCfgLinkBits (negotiated phy.gbcr phy.link.value.gbsr phy.anar phy.link.value.anlpar).1
        (negotiated phy.gbcr phy.link.value.gbsr phy.anar phy.link.value.anlpar).2) :
    Encodes gem phy.link.value := by
  obtain ⟨gbcr, anar, hgbcr, hanar⟩ := hadv
  intro mode hmode
  rw [hgbcr, hanar, negotiated_highest gbcr anar phy.link.value hmode] at hcfg
  rw [hcfg, netCfgLinkBits_and]
  rfl

/-- **A poll keeps track of the link.** While the driver takes the link for up and the status has
not been low, the MAC is in the mode of the last link-up, unless a failed read has hidden a drop. -/
theorem poll_tracks (hsees : PollSees mdio io phy phy') (hadv : phy.Advertised)
    (htracks : Tracks io.gem.linkUp (Encodes io.gem) phy.link) :
    Tracks (after (rp1GemPhyUpdateConfig mdio) io).gem.linkUp
        (Encodes (after (rp1GemPhyUpdateConfig mdio) io).gem) phy'.link ∧
      ((∃ io', rp1GemPhyUpdateConfig mdio io = .ok () io') → phy'.link.missed = false →
        Encodes (after (rp1GemPhyUpdateConfig mdio) io).gem phy'.link.value) := by
  obtain ⟨hstatus, ⟨hgbcr', hanar'⟩, hconfig⟩ := hsees
  have hcourse := updateConfig_outcome mdio io
  unfold after at hconfig ⊢
  generalize rp1GemPhyUpdateConfig mdio io = r at hcourse hconfig
  cases hcourse with
  | unanswered hnone hlink =>
    rw [hnone] at hstatus
    refine ⟨?_, fun ⟨_, hok⟩ => by cases hok⟩
    show Tracks _ _ _
    rw [hlink.linkUp]
    exact (htracks.unanswered hstatus).mono fun partner h => h.of_netCfg (by rw [hlink.netCfg])
  | down hbmsr hdown hlinkUp =>
    refine ⟨?_, fun ⟨_, hok⟩ => by cases hok⟩
    simp only [hlinkUp]
    exact tracks_of_not_held _ _
  | unresolved hbmsr hup hlinkUp =>
    refine ⟨?_, fun ⟨_, hok⟩ => by cases hok⟩
    simp only [hlinkUp]
    exact tracks_of_not_held _ _
  | still hbmsr hup hwas hlink =>
    rw [hbmsr, Option.map_some, hup] at hstatus
    obtain ⟨hisUp, -, -, hencodes⟩ := htracks.answered hstatus
    refine ⟨fun _ _ hmissed => ⟨hisUp, ?_⟩, fun _ hmissed => ?_⟩
    · exact (hencodes hmissed hwas).of_netCfg (by rw [hlink.netCfg])
    · exact (hencodes hmissed hwas).of_netCfg (by rw [hlink.netCfg])
  | resolved hbmsr hup hwas hgbcr hgbsr hanar hanlpar hops hlinkUp hcfg =>
    rw [hbmsr, Option.map_some, hup] at hstatus
    obtain ⟨hisUp, -, hvalue, -⟩ := htracks.answered hstatus
    -- the four registers are those of one and the same link
    have hreg := fun k reg value hk => hconfig k reg value hk
    simp only [hops] at hreg
    have h1 := (hreg 1 phyGbcr _ rfl (by omega) hgbcr).1 rfl
    have h2 := (hreg 2 phyGbsr _ rfl (by omega) hgbsr).2.1 rfl
    have h3 := (hreg 3 phyAnar _ rfl (by omega) hanar).2.2.1 rfl
    have h4 := (hreg 4 phyAnlpar _ rfl (by omega) hanlpar).2.2.2 rfl
    rw [h1, h2, h3, h4] at hcfg
    have hencodes := encodes_resolved hadv hcfg
    rw [← hvalue] at hencodes
    exact ⟨fun _ _ _ => ⟨hisUp, hencodes⟩, fun _ _ => hencodes⟩

theorem PollSees.advertised (hsees : PollSees mdio io phy phy') (hadv : phy.Advertised) :
    phy'.Advertised := by
  obtain ⟨gbcr, anar, hgbcr, hanar⟩ := hadv
  exact ⟨gbcr, anar, hsees.registers.1.trans hgbcr, hsees.registers.2.trans hanar⟩

theorem LinkChanges.advertised (h : LinkChanges phy phy') (hadv : phy.Advertised) :
    phy'.Advertised := by
  obtain ⟨link, -, rfl⟩ := h
  exact hadv

theorem LinkChanges.tracks {held : Bool} {P : LinkPartner → Prop} (h : LinkChanges phy phy')
    (htracks : Tracks held P phy.link) : Tracks held P phy'.link := by
  obtain ⟨link, hchanges, rfl⟩ := h
  exact htracks.changes hchanges

theorem phyWaitLink_succ (mdio : Nat → Option UInt16) (retries : Nat) (io : PhyIo) :
    phyWaitLink mdio (retries + 1) io =
      match rp1GemPhyUpdateConfig mdio io with
      | .ok _ io' => .ok true io'
      | .error _ io' => phyWaitLink mdio retries io' := by
  show EStateM.bind (attempt (rp1GemPhyUpdateConfig mdio)) _ io = _
  unfold EStateM.bind attempt
  cases rp1GemPhyUpdateConfig mdio io <;> rfl

/-- **So does a `Transmit` that waits**, poll after poll. -/
theorem wait_tracks {retries : Nat} (hsees : WaitSees mdio retries io phy phy')
    (hadv : phy.Advertised) (htracks : Tracks io.gem.linkUp (Encodes io.gem) phy.link) :
    phy'.Advertised ∧
      Tracks (after (phyWaitLink mdio retries) io).gem.linkUp
        (Encodes (after (phyWaitLink mdio retries) io).gem) phy'.link ∧
      (result (phyWaitLink mdio retries) io = .ok true → phy'.link.missed = false →
        Encodes (after (phyWaitLink mdio retries) io).gem phy'.link.value) := by
  induction retries generalizing io phy with
  | zero =>
    obtain rfl : phy' = phy := hsees
    exact ⟨hadv, htracks, fun hok => by cases hok⟩
  | succ retries ih =>
    obtain ⟨before, polled, hchanges, hpoll, hrest⟩ := hsees
    have hadv' := hpoll.advertised (hchanges.advertised hadv)
    obtain ⟨htracked, hfound⟩ :=
      poll_tracks hpoll (hchanges.advertised hadv) (hchanges.tracks htracks)
    unfold after result
    rw [phyWaitLink_succ]
    unfold after at htracked hfound
    cases hr : rp1GemPhyUpdateConfig mdio io with
    | ok _ io' =>
      rw [hr] at hrest htracked hfound
      obtain rfl : phy' = polled := hrest
      exact ⟨hadv', htracked, fun _ => hfound ⟨io', rfl⟩⟩
    | error status io' =>
      rw [hr] at hrest htracked
      exact ih hrest hadv' htracked

/-! ## Calls that keep the link state -/

/-- Nothing the link state depends on has changed. -/
structure LinkKept (gem gem' : Gem) : Prop where
  state : gem'.mode.state = .initialized ↔ gem.mode.state = .initialized
  media : gem'.mode.mediaPresent = gem.mode.mediaPresent
  linkUp : gem'.linkUp = gem.linkUp
  netCfg : gem'.regs gemNetCfg &&& gemNetCfgLinkMask = gem.regs gemNetCfg &&& gemNetCfgLinkMask

theorem LinkKept.refl (gem : Gem) : LinkKept gem gem := ⟨Iff.rfl, rfl, rfl, rfl⟩

theorem LinkKept.trans {gem'' : Gem} (h : LinkKept gem gem') (h' : LinkKept gem' gem'') :
    LinkKept gem gem'' :=
  ⟨h'.state.trans h.state, h'.media.trans h.media, h'.linkUp.trans h.linkUp,
    h'.netCfg.trans h.netCfg⟩

/-- Changes in the rings and the memory. -/
theorem LinkKept.of_fields (hmode : gem'.mode = gem.mode) (hlinkUp : gem'.linkUp = gem.linkUp)
    (hcfg : gem'.regs gemNetCfg = gem.regs gemNetCfg) : LinkKept gem gem' := by
  refine ⟨?_, ?_, hlinkUp, ?_⟩
  · rw [hmode]
  · rw [hmode]
  · rw [hcfg]

theorem linkKept_write {offset : Nat} {value : UInt32} (h : gemNetCfg ≠ offset) :
    LinkKept gem (gemWrite32 gem offset value) := by
  refine .of_fields rfl rfl ?_
  rw [gemWrite32_regs, if_neg h]

theorem linkKept_recycleTx (wanted : Bool) (gem : Gem) :
    LinkKept gem (recycleTx wanted gem).2 := by
  cases wanted with
  | false => exact .refl gem
  | true =>
    show LinkKept gem (gemGetRecycledTxBuffer gem).2
    unfold gemGetRecycledTxBuffer
    split
    · exact .refl gem
    · simp only
      split
      · exact .refl gem
      · refine LinkKept.trans ?_ (linkKept_write (by decide))
        exact .of_fields rfl rfl rfl

theorem linkKept_transmitFrame (gem : Gem) (userBuffer : Nat) (frame : List UInt8) :
    LinkKept gem (gemTransmitFrame gem userBuffer frame).2 := by
  unfold gemTransmitFrame
  split
  · exact .refl gem
  · refine LinkKept.trans ?_ (linkKept_write (by decide))
    exact .of_fields rfl rfl rfl

theorem linkKept_receivePass (gem : Gem) (bufferSize : Nat) :
    LinkKept gem (gemReceivePass gem bufferSize).2 := by
  have hrecycle : LinkKept gem (gemRecycleRxDescriptor gem gem.rxHead.toNat) :=
    .of_fields rfl rfl rfl
  unfold gemReceivePass
  simp only
  split
  · exact .refl gem
  · split
    · exact hrecycle
    · split
      · exact .refl gem
      · exact hrecycle.trans (linkKept_write (by decide))

theorem linkKept_receiveLoop (bufferSize passes : Nat) (gem : Gem) :
    LinkKept gem (gemReceiveLoop bufferSize passes gem).2 := by
  induction passes generalizing gem with
  | zero => exact .refl gem
  | succ passes ih =>
    have hpass := linkKept_receivePass gem bufferSize
    unfold gemReceiveLoop
    revert hpass
    cases gemReceivePass gem bufferSize with
    | mk result gem' =>
      intro hpass
      cases result with
      | some _ => exact hpass
      | none => exact hpass.trans (ih gem')

@[simp] theorem gemWrite32_linkUp (gem : Gem) (offset : Nat) (value : UInt32) :
    (gemWrite32 gem offset value).linkUp = gem.linkUp := rfl

theorem setReceiveFilters_linkUp (gem : Gem) (filters : UInt32) :
    (gemSetReceiveFilters gem filters).linkUp = gem.linkUp := by
  unfold gemSetReceiveFilters gemSetMacAddress
  cases filterSet filters stationFilters <;> simp

theorem mCastFilterUpdate_link (call : ReceiveFiltersCall) (setting : UInt32) (mode : SnpMode) :
    (mCastFilterUpdate call setting mode).2.state = mode.state ∧
      (mCastFilterUpdate call setting mode).2.mediaPresent = mode.mediaPresent := by
  unfold mCastFilterUpdate
  split
  · exact ⟨rfl, rfl⟩
  · split <;> exact ⟨rfl, rfl⟩

theorem linkKept_receiveFilters (call : ReceiveFiltersCall) (gem : Gem) :
    LinkKept gem (rp1GemSnpReceiveFilters call gem).2.2 := by
  have hcfg := receiveFilters_link call gem
  have hfields : (rp1GemSnpReceiveFilters call gem).2.2.mode.state = gem.mode.state ∧
      (rp1GemSnpReceiveFilters call gem).2.2.mode.mediaPresent = gem.mode.mediaPresent ∧
      (rp1GemSnpReceiveFilters call gem).2.2.linkUp = gem.linkUp := by
    unfold rp1GemSnpReceiveFilters
    cases call.refused gem with
    | some status => exact ⟨rfl, rfl, rfl⟩
    | none =>
      obtain ⟨hstate, hmedia⟩ := mCastFilterUpdate_link call (call.setting gem) gem.mode
      simp only [setReceiveFilters_mode, setReceiveFilters_linkUp]
      exact ⟨hstate, hmedia, trivial⟩
  obtain ⟨hstate, hmedia, hlinkUp⟩ := hfields
  exact ⟨by rw [hstate], hmedia, hlinkUp, hcfg⟩

theorem linkKept_stationAddress (reset : Bool) (new : Option EfiMacAddress) (gem : Gem) :
    LinkKept gem (rp1GemSnpStationAddress reset new gem).2 := by
  unfold rp1GemSnpStationAddress
  split
  · exact .refl gem
  · split
    · exact .refl gem
    · refine ⟨Iff.rfl, rfl, rfl, ?_⟩
      simp only [setMacAddress_regs]
      rfl

/-- **A quiet call keeps the link state.** -/
theorem quiet_kept {e : SnpEvent} (hquiet : quietCall gem e) : LinkKept gem (snpStep gem e) := by
  obtain ⟨hinit, hpolls, hshutdown⟩ := hquiet
  cases e with
  | start =>
    show LinkKept gem (rp1GemSnpStart gem).2
    unfold rp1GemSnpStart
    cases hstate : gem.mode.state with
    | started => exact .refl gem
    | initialized => exact .refl gem
    | stopped => exact ⟨by rw [hstate]; simp, rfl, rfl, rfl⟩
  | stop =>
    show LinkKept gem (rp1GemSnpStop gem).2
    unfold rp1GemSnpStop
    cases hstate : gem.mode.state with
    | stopped => exact .refl gem
    | initialized => exact .refl gem
    | started =>
      have hwrite : LinkKept gem (gemMacDisableTxRx gem) := linkKept_write (by decide)
      exact ⟨by rw [hstate]; simp, rfl, rfl, hwrite.netCfg⟩
  | snpInitialize mdio =>
    show LinkKept gem (rp1GemSnpInitialize mdio gem).2
    unfold rp1GemSnpInitialize
    cases hstate : gem.mode.state with
    | stopped => exact .refl gem
    | initialized => exact .refl gem
    | started =>
      -- a started interface is initialised
      simp only [phyInitOf, if_pos hstate] at hinit
      cases hinit
  | reset mdio =>
    show LinkKept gem (rp1GemSnpReset mdio gem).2
    unfold rp1GemSnpReset
    cases hneed : needInitialized gem with
    | some status => exact .refl gem
    | none =>
      simp only [phyInitOf, if_pos (needInitialized_eq_none.mp hneed)] at hinit
      cases hinit
  | shutdown =>
    show LinkKept gem (rp1GemSnpShutdown gem).2
    unfold rp1GemSnpShutdown
    cases hneed : needInitialized gem with
    | some status => exact .refl gem
    | none => exact absurd (needInitialized_eq_none.mp hneed) (hshutdown rfl)
  | receiveFilters call => exact linkKept_receiveFilters call gem
  | stationAddress reset new => exact linkKept_stationAddress reset new gem
  | getStatus mdio call =>
    show LinkKept gem (rp1GemSnpGetStatus mdio call gem).2
    unfold rp1GemSnpGetStatus
    cases hneed : needInitialized gem with
    | some status => exact .refl gem
    | none =>
      have hlock : call.lockFree = false := by
        simpa [pollsPhy, needInitialized_eq_none.mp hneed] using hpolls
      simp only [hlock]
      exact .refl gem
  | transmit mdio call =>
    show LinkKept gem (rp1GemSnpTransmit mdio call gem).2
    unfold rp1GemSnpTransmit
    cases hrefused : call.refused gem with
    | some status => exact .refl gem
    | none =>
      have hmedia : gem.mode.mediaPresent = true := by
        simpa [pollsPhy, hrefused] using hpolls
      simp only
      unfold transmitLink
      rw [if_pos hmedia]
      cases call.lockFree with
      | false => exact .refl gem
      | true => exact linkKept_transmitFrame gem _ _
  | receive call =>
    show LinkKept gem (rp1GemSnpReceive call gem).2
    unfold rp1GemSnpReceive
    cases call.refused gem with
    | error status => exact .refl gem
    | ok bufferSize =>
      have hloop := linkKept_receiveLoop bufferSize (gemRxDescCount + 1) gem
      simp only
      revert hloop
      cases gemReceiveLoop bufferSize (gemRxDescCount + 1) gem with
      | mk result gem' =>
        intro hloop
        cases result with
        | some _ => exact hloop
        | none => exact hloop
  | controller rxRing txRing dma => exact .of_fields rfl rfl rfl

/-! ## Calls that initialise the PHY -/

/-- The state of the interface after a call that runs `Rp1GemPhyInit`. Only a success takes the
media for absent. -/
theorem phyInit_mode {e : SnpEvent} {outcome : Except EfiStatus Unit}
    (hinit : phyInitOf gem e = some outcome) :
    (snpStep gem e).linkUp = false ∧
      (phyFailed outcome = none → (snpStep gem e).mode.state = .initialized ∧
        (snpStep gem e).mode.mediaPresent = false) ∧
      (phyFailed outcome ≠ none → (snpStep gem e).mode = gem.mode) := by
  cases e with
  | snpInitialize mdio =>
    simp only [phyInitOf] at hinit
    split at hinit
    · rename_i hstate
      obtain rfl := Option.some.inj hinit
      have hlinkUp := phyInit_linkUp mdio ⟨gemMacConfigure (gemMacReset gem), 0⟩
      have hmode := configured_mode mdio gem
      show (rp1GemSnpInitialize mdio gem).2.linkUp = false ∧ _ ∧ _
      unfold snpStep rp1GemSnpInitialize
      rw [hstate]
      unfold runPhy at hmode ⊢
      simp only at hmode ⊢
      cases phyFailed (result (rp1GemPhyInit mdio) ⟨gemMacConfigure (gemMacReset gem), 0⟩) with
      | none => exact ⟨hlinkUp, fun _ => ⟨rfl, rfl⟩, fun hne => absurd rfl hne⟩
      | some status =>
        exact ⟨hlinkUp, fun hnone => absurd hnone (Option.some_ne_none _), fun _ => hmode⟩
    · cases hinit
  | reset mdio =>
    simp only [phyInitOf] at hinit
    split at hinit
    · rename_i hstate
      obtain rfl := Option.some.inj hinit
      have hlinkUp := phyInit_linkUp mdio ⟨gem, 0⟩
      have hmode := runPhy_mode (phyInit_within mdio) gem
      show (rp1GemSnpReset mdio gem).2.linkUp = false ∧ _ ∧ _
      unfold snpStep rp1GemSnpReset
      rw [needInitialized_eq_none.mpr hstate]
      unfold runPhy at hmode ⊢
      simp only at hmode ⊢
      cases phyFailed (result (rp1GemPhyInit mdio) ⟨gem, 0⟩) with
      | none =>
        refine ⟨hlinkUp, fun _ => ⟨?_, rfl⟩, fun hne => absurd rfl hne⟩
        rw [hmode]
        exact hstate
      | some status =>
        exact ⟨hlinkUp, fun hnone => absurd hnone (Option.some_ne_none _), fun _ => hmode⟩
    · cases hinit
  | start | stop | shutdown | receiveFilters | stationAddress | getStatus | transmit | receive
  | controller => cases hinit

/-! ## Calls that poll -/

/-- The state after a `GetStatus` that polls. -/
theorem getStatus_kept {call : GetStatusCall}
    (hpolls : pollsPhy gem (.getStatus mdio call) = true) :
    gem.mode.state = .initialized ∧
      LinkKept (refreshMedia mdio gem) (snpStep gem (.getStatus mdio call)) := by
  have hstate : gem.mode.state = .initialized ∧ call.lockFree = true := by
    simpa [pollsPhy] using hpolls
  refine ⟨hstate.1, ?_⟩
  show LinkKept _ (rp1GemSnpGetStatus mdio call gem).2
  unfold rp1GemSnpGetStatus
  rw [needInitialized_eq_none.mpr hstate.1]
  simp only [hstate.2]
  exact linkKept_recycleTx _ _

/-- The state after a `Transmit` that polls. -/
theorem transmit_kept {call : TransmitCall}
    (hpolls : pollsPhy gem (.transmit mdio call) = true) :
    gem.mode.state = .initialized ∧ gem.mode.mediaPresent = false ∧
      LinkKept (transmitLink mdio gem).2 (snpStep gem (.transmit mdio call)) := by
  have hcall : call.refused gem = none ∧ gem.mode.mediaPresent = false := by
    simpa [pollsPhy] using hpolls
  obtain ⟨hrefused, hmedia⟩ := hcall
  have hstate : gem.mode.state = .initialized := by
    rw [← needInitialized_eq_none]
    revert hrefused
    unfold TransmitCall.refused
    split
    · exact fun h => by cases h
    · cases needInitialized gem with
      | none => exact fun _ => rfl
      | some status => exact fun h => by cases h
  refine ⟨hstate, hmedia, ?_⟩
  show LinkKept _ (rp1GemSnpTransmit mdio call gem).2
  unfold rp1GemSnpTransmit
  rw [hrefused]
  simp only
  cases (transmitLink mdio gem).1 with
  | false => exact .refl _
  | true =>
    cases call.lockFree with
    | false => exact .refl _
    | true => exact linkKept_transmitFrame _ _ _

/-- The wait of a `Transmit` sets the media as it finds the link. -/
theorem transmitLink_waits (mdio : Nat → Option UInt16)
    (hmedia : gem.mode.mediaPresent = false) :
    ((transmitLink mdio gem).1 = true ↔
      result (phyWaitLink mdio gemLinkRetries) ⟨gem, 0⟩ = .ok true) ∧
    (transmitLink mdio gem).2 =
      { (after (phyWaitLink mdio gemLinkRetries) ⟨gem, 0⟩).gem with
        mode := { gem.mode with mediaPresent := (transmitLink mdio gem).1 } } := by
  have hmode := runPhy_mode (phyWaitLink_within mdio gemLinkRetries) gem
  unfold transmitLink
  rw [if_neg (by rw [hmedia]; exact Bool.false_ne_true)]
  unfold runPhy at hmode ⊢
  simp only at hmode
  generalize after (phyWaitLink mdio gemLinkRetries) ⟨gem, 0⟩ = io' at hmode ⊢
  cases result (phyWaitLink mdio gemLinkRetries) ⟨gem, 0⟩ with
  | error status =>
    refine ⟨by simp, ?_⟩
    show io'.gem = { io'.gem with mode := { gem.mode with mediaPresent := false } }
    rw [← hmedia, ← hmode]
  | ok link =>
    cases link with
    | true =>
      refine ⟨by simp, ?_⟩
      show { io'.gem with mode := { io'.gem.mode with mediaPresent := true } } = _
      rw [hmode]
    | false =>
      refine ⟨by simp, ?_⟩
      show io'.gem = { io'.gem with mode := { gem.mode with mediaPresent := false } }
      rw [← hmedia, ← hmode]

end

/-! ## The invariant -/

/-- What holds of an initialised interface whose PHY is as the driver left it. -/
structure LinkCoherent (s : LinkSystem) : Prop where
  advertised : s.phy.Advertised
  tracks : Tracks s.gem.linkUp (Encodes s.gem) s.phy.link
  media : s.gem.mode.mediaPresent = true → ∃ partner, s.found = some partner ∧
    (s.phy.link.missed = false → Encodes s.gem partner)

/-- Without an initialised interface there is no media. -/
structure LinkInv (s : LinkSystem) : Prop where
  down : s.gem.mode.state ≠ .initialized → s.gem.mode.mediaPresent = false
  coherent : s.gem.mode.state = .initialized → s.ready = true → LinkCoherent s

section
variable {s s' : LinkSystem} {gem gem' : Gem} {phy : PhyLink} {e : SnpEvent}

theorem tracks_of_kept {l : Latch LinkPartner} (h : Tracks gem.linkUp (Encodes gem) l)
    (hkept : LinkKept gem gem') : Tracks gem'.linkUp (Encodes gem') l := by
  rw [hkept.linkUp]
  exact h.mono fun partner hencodes => hencodes.of_netCfg hkept.netCfg

theorem linkInv_changes (h : LinkInv s) (hlink : LinkChanges s.phy phy) :
    LinkInv { s with phy } := by
  refine ⟨h.down, fun hstate hready => ?_⟩
  obtain ⟨hadv, htracks, hmedia⟩ := h.coherent hstate hready
  refine ⟨hlink.advertised hadv, hlink.tracks htracks, fun hpresent => ?_⟩
  obtain ⟨partner, hfound, hencodes⟩ := hmedia hpresent
  obtain ⟨link, hchanges, rfl⟩ := hlink
  exact ⟨partner, hfound, fun hmissed => hencodes ((missed_of_changes hchanges).symm.trans hmissed)⟩

theorem linkInv_quiet (h : LinkInv s) (hkept : LinkKept s.gem gem') :
    LinkInv { s with gem := gem' } := by
  refine ⟨fun hstate => ?_, fun hstate hready => ?_⟩
  · show gem'.mode.mediaPresent = false
    rw [hkept.media]
    exact h.down fun hinit => hstate (hkept.state.mpr hinit)
  · obtain ⟨hadv, htracks, hmedia⟩ := h.coherent (hkept.state.mp hstate) hready
    refine ⟨hadv, tracks_of_kept htracks hkept, fun hpresent => ?_⟩
    obtain ⟨partner, hfound, hencodes⟩ := hmedia (hkept.media ▸ hpresent)
    exact ⟨partner, hfound, fun hmissed => (hencodes hmissed).of_netCfg hkept.netCfg⟩

theorem linkInv_phyInit (h : LinkInv s) {outcome : Except EfiStatus Unit}
    (hinit : phyInitOf s.gem e = some outcome)
    (hwritten : phyFailed outcome = none → phy.Advertised) :
    LinkInv ⟨snpStep s.gem e, phy, (phyFailed outcome).isNone, none⟩ := by
  obtain ⟨hlinkUp, hok, hfailed⟩ := phyInit_mode hinit
  refine ⟨fun hstate => ?_, fun hstate hready => ?_⟩
  · show (snpStep s.gem e).mode.mediaPresent = false
    by_cases hnone : phyFailed outcome = none
    · exact (hok hnone).2
    · rw [hfailed hnone]
      refine h.down fun hinit' => hstate ?_
      show (snpStep s.gem e).mode.state = .initialized
      rw [hfailed hnone]
      exact hinit'
  · have hnone : phyFailed outcome = none := by simpa using hready
    refine ⟨hwritten hnone, ?_, fun hpresent => ?_⟩
    · show Tracks (snpStep s.gem e).linkUp _ _
      rw [hlinkUp]
      exact tracks_of_not_held _ _
    · have habsent := (hok hnone).2
      rw [show (snpStep s.gem e).mode.mediaPresent = true from hpresent] at habsent
      cases habsent

/-- What a poll leaves, for either call that polls: `polled` is the state after the accesses, `link`
whether a link was found. -/
theorem linkInv_polled {polled : Gem} {link : Bool} {found : Option LinkPartner}
    (hstate : s.gem.mode.state = .initialized)
    (hpoll : s.ready = true → phy.Advertised ∧
      Tracks polled.linkUp (Encodes polled) phy.link ∧
      (link = true → phy.link.missed = false → Encodes polled phy.link.value))
    (hkept : LinkKept { polled with mode := { s.gem.mode with mediaPresent := link } } gem')
    (hfound : link = true → found = some phy.link.value) :
    LinkInv ⟨gem', phy, s.ready, found⟩ := by
  refine ⟨fun hdown => absurd (hkept.state.mpr hstate) hdown, fun _ hready => ?_⟩
  obtain ⟨hadv, htracks, hencodes⟩ := hpoll hready
  refine ⟨hadv, tracks_of_kept ?_ hkept, fun hpresent => ?_⟩
  · exact htracks
  · have hlink : link = true := hkept.media.symm.trans hpresent
    exact ⟨_, hfound hlink, fun hmissed => (hencodes hlink hmissed).of_netCfg hkept.netCfg⟩

theorem linkInv_getStatus {mdio : Nat → Option UInt16} {call : GetStatusCall} (h : LinkInv s)
    (hpolls : pollsPhy s.gem (.getStatus mdio call) = true)
    (hsees : PollSees mdio ⟨s.gem, 0⟩ s.phy phy) :
    LinkInv { s with
      gem := snpStep s.gem (.getStatus mdio call)
      phy
      found := match (runPhy (rp1GemPhyUpdateConfig mdio) s.gem).1 with
        | .ok _ => some phy.link.value
        | .error _ => none } := by
  obtain ⟨hstate, hkept⟩ := getStatus_kept hpolls
  have hmode := runPhy_mode (phyUpdateConfig_within mdio) s.gem
  unfold refreshMedia at hkept
  simp only at hkept
  rw [hmode] at hkept
  refine linkInv_polled hstate (fun hready => ?_) hkept fun hlink => ?_
  · obtain ⟨hadv, htracks, -⟩ := h.coherent hstate hready
    obtain ⟨htracked, hencodes⟩ := poll_tracks hsees hadv htracks
    refine ⟨hsees.advertised hadv, htracked, fun hlink => hencodes ?_⟩
    unfold runPhy result at hlink
    cases hr : rp1GemPhyUpdateConfig mdio ⟨s.gem, 0⟩ with
    | ok _ io' => exact ⟨io', rfl⟩
    | error status io' =>
      rw [hr] at hlink
      cases hlink
  · cases hr : (runPhy (rp1GemPhyUpdateConfig mdio) s.gem).1 with
    | ok _ => rfl
    | error status =>
      rw [hr] at hlink
      cases hlink

theorem linkInv_transmit {mdio : Nat → Option UInt16} {call : TransmitCall} (h : LinkInv s)
    (hpolls : pollsPhy s.gem (.transmit mdio call) = true)
    (hsees : WaitSees mdio gemLinkRetries ⟨s.gem, 0⟩ s.phy phy) :
    LinkInv { s with
      gem := snpStep s.gem (.transmit mdio call)
      phy
      found := if (transmitLink mdio s.gem).1 then some phy.link.value else none } := by
  obtain ⟨hstate, hmedia, hkept⟩ := transmit_kept hpolls
  obtain ⟨hlink, hgem⟩ := transmitLink_waits mdio hmedia
  rw [hgem] at hkept
  refine linkInv_polled hstate (fun hready => ?_) hkept fun hfound => if_pos hfound
  obtain ⟨hadv, htracks, -⟩ := h.coherent hstate hready
  obtain ⟨hadv', htracked, hencodes⟩ := wait_tracks hsees hadv htracks
  exact ⟨hadv', htracked, fun hfound => hencodes (hlink.mp hfound)⟩

/-- **Every step keeps the invariant.** -/
theorem linkInv_step {e : LinkEvent} (h : LinkInv s) (hstep : LinkStep s e s') : LinkInv s' := by
  cases hstep with
  | link hlink => exact linkInv_changes h hlink
  | phyInit hinit hwritten => exact linkInv_phyInit h hinit hwritten
  | shutdown hstate =>
    have hcall : (snpStep s.gem .shutdown).mode.state = .started ∧
        (snpStep s.gem .shutdown).mode.mediaPresent = false := by
      show (rp1GemSnpShutdown s.gem).2.mode.state = _ ∧ _
      unfold snpStep rp1GemSnpShutdown
      rw [needInitialized_eq_none.mpr hstate]
      exact ⟨rfl, rfl⟩
    refine ⟨fun _ => hcall.2, fun hinit => ?_⟩
    rw [show (snpStep s.gem .shutdown).mode.state = .initialized from hinit] at hcall
    cases hcall.1
  | getStatus hpolls hsees => exact linkInv_getStatus h hpolls hsees
  | transmit hpolls hsees => exact linkInv_transmit h hpolls hsees
  | quiet hquiet => exact linkInv_quiet h (quiet_kept hquiet)

end

/-- A call that polls and reports media has found the last link-up of the PHY. -/
theorem polled_found {s s' : LinkSystem} {e : SnpEvent} (hstep : LinkStep s (.call e) s')
    (hpolls : pollsPhy s.gem e = true) (hpresent : s'.gem.mode.mediaPresent = true) :
    s'.found = some s'.phy.link.value := by
  cases hstep with
  | phyInit hinit =>
    -- a call does not do both
    cases e with
    | snpInitialize | reset => cases hpolls
    | start | stop | shutdown | receiveFilters | stationAddress | getStatus | transmit | receive
    | controller => cases hinit
  | shutdown => cases hpolls
  | @getStatus mdio =>
    have hlink := (getStatus_kept hpolls).2.media.symm.trans hpresent
    unfold refreshMedia at hlink
    simp only
    cases hr : (runPhy (rp1GemPhyUpdateConfig mdio) s.gem).1 with
    | ok _ => rfl
    | error status =>
      simp only [hr] at hlink
      cases hlink
  | transmit =>
    obtain ⟨-, hmedia, hkept⟩ := transmit_kept hpolls
    have hlink := hkept.media.symm.trans hpresent
    rw [(transmitLink_waits _ hmedia).2] at hlink
    exact if_pos hlink
  | quiet hquiet =>
    rw [hquiet.2.1] at hpolls
    cases hpolls

/-- The answers of a PHY to one poll, with a status or none. -/
def pollAnswers (phy : PhyLink) (bmsr : Option UInt16) : Nat → Option UInt16
  | 0 => bmsr
  | 1 => some phy.gbcr
  | 2 => some phy.link.value.gbsr
  | 3 => some phy.anar
  | 4 => some phy.link.value.anlpar
  | _ => none

/-- A PHY may answer what it holds. -/
theorem pollSees_answers {io : PhyIo} {phy : PhyLink} {bmsr : Option UInt16}
    {link : Latch LinkPartner} (hops : io.ops = 0)
    (hread : Read io.gem.linkUp phy.link (bmsr.map bmsrLinkUp) link) :
    PollSees (pollAnswers phy bmsr) io phy { phy with link } := by
  refine ⟨?_, ⟨rfl, rfl⟩, fun k reg value hreg _ hans => ?_⟩
  · rw [hops]
    exact hread
  · rw [hops, Nat.zero_add] at hans
    unfold pollRegisters configRegisters at hreg
    match k with
    | 0 =>
      obtain rfl := Option.some.inj hreg
      simp [PhyLink.Holds, phyBmsr, phyGbcr, phyGbsr, phyAnar, phyAnlpar]
    | 1 =>
      obtain ⟨rfl, rfl⟩ := And.intro (Option.some.inj hreg) (Option.some.inj hans)
      simp [PhyLink.Holds, phyGbcr, phyGbsr, phyAnar, phyAnlpar]
    | 2 =>
      obtain ⟨rfl, rfl⟩ := And.intro (Option.some.inj hreg) (Option.some.inj hans)
      simp [PhyLink.Holds, phyGbcr, phyGbsr, phyAnar, phyAnlpar]
    | 3 =>
      obtain ⟨rfl, rfl⟩ := And.intro (Option.some.inj hreg) (Option.some.inj hans)
      simp [PhyLink.Holds, phyGbcr, phyGbsr, phyAnar, phyAnlpar]
    | 4 =>
      obtain ⟨rfl, rfl⟩ := And.intro (Option.some.inj hreg) (Option.some.inj hans)
      simp [PhyLink.Holds, phyGbcr, phyGbsr, phyAnar, phyAnlpar]
    | k + 5 => cases hreg

/-- A partner for 1000 Mbps, and one for 100 Mbps. -/
def gigabitPartner : LinkPartner := ⟨phyGbcr1000BaseTFdx <<< 2, phyAnar100BaseTxFdx⟩
def fastPartner : LinkPartner := ⟨0, phyAnar100BaseTxFdx⟩

/-- The PHY of the runs once it is initialised. -/
def linkPhy (link : Latch LinkPartner) : PhyLink :=
  ⟨link, advertisedGbcr (phyBmsrLinkStatus ||| phyBmsrAnegComplete),
    advertisedAnar (phyBmsrLinkStatus ||| phyBmsrAnegComplete)⟩

/-- A `GetStatus` with nothing asked for. -/
def refreshCall : GetStatusCall := ⟨false, false, true⟩

/-- The answers to the two polls that find the link. -/
def latchedAnswers : Nat → Option UInt16 :=
  pollAnswers (linkPhy ⟨true, true, false, gigabitPartner⟩) (some phyBmsrAnegComplete)
def linkAnswers : Nat → Option UInt16 :=
  pollAnswers (linkPhy ⟨true, false, false, gigabitPartner⟩)
    (some (phyBmsrLinkStatus ||| phyBmsrAnegComplete))

/-- Bring the interface up and find the partner for 1000 Mbps. -/
def findLinkEvents : List LinkEvent :=
  [.call .start, .call (.snpInitialize answeringPhy), .link,
    .call (.getStatus latchedAnswers refreshCall), .call (.getStatus linkAnswers refreshCall)]

/-- The interface with the link found. -/
def linkedGem : Gem :=
  snpStep (snpStep initializedGem (.getStatus latchedAnswers refreshCall))
    (.getStatus linkAnswers refreshCall)

theorem findLink_run :
    RunWith LinkStep CopiesInArray
      (linkStart foundGem stationMac (linkPhy ⟨false, true, false, gigabitPartner⟩))
      findLinkEvents
      ⟨linkedGem, linkPhy ⟨true, false, false, gigabitPartner⟩, true, some gigabitPartner⟩ := by
  have hstart : LinkStep
      (linkStart foundGem stationMac (linkPhy ⟨false, true, false, gigabitPartner⟩)) (.call .start)
      ⟨startedGem, linkPhy ⟨false, true, false, gigabitPartner⟩, false, none⟩ :=
    .quiet ⟨rfl, rfl, fun h => by cases h⟩
  have hinit : LinkStep ⟨startedGem, linkPhy ⟨false, true, false, gigabitPartner⟩, false, none⟩
      (.call (.snpInitialize answeringPhy))
      ⟨initializedGem, linkPhy ⟨false, true, false, gigabitPartner⟩, true, none⟩ := by
    have houtcome : phyInitOf startedGem (.snpInitialize answeringPhy) = some (.ok ()) := by rfl
    have hadv : (linkPhy ⟨false, true, false, gigabitPartner⟩).Advertised := ⟨_, _, rfl, rfl⟩
    exact LinkStep.phyInit
      (s := ⟨startedGem, linkPhy ⟨false, true, false, gigabitPartner⟩, false, none⟩) houtcome
      fun _ => hadv
  have hrise : LinkStep ⟨initializedGem, linkPhy ⟨false, true, false, gigabitPartner⟩, true, none⟩
      .link ⟨initializedGem, linkPhy ⟨true, true, false, gigabitPartner⟩, true, none⟩ :=
    .link ⟨_, .single (.rise _ gigabitPartner rfl), rfl⟩
  -- the status is low once, for the time before the link came up
  have hlatched : LinkStep ⟨initializedGem, linkPhy ⟨true, true, false, gigabitPartner⟩, true, none⟩
      (.call (.getStatus latchedAnswers refreshCall))
      ⟨snpStep initializedGem (.getStatus latchedAnswers refreshCall),
        linkPhy ⟨true, false, false, gigabitPartner⟩, true, none⟩ :=
    .getStatus rfl (pollSees_answers rfl (.answered _ false fun h => by cases h))
  have hfound : LinkStep ⟨snpStep initializedGem (.getStatus latchedAnswers refreshCall),
        linkPhy ⟨true, false, false, gigabitPartner⟩, true, none⟩
      (.call (.getStatus linkAnswers refreshCall))
      ⟨linkedGem, linkPhy ⟨true, false, false, gigabitPartner⟩, true, some gigabitPartner⟩ :=
    .getStatus rfl (pollSees_answers rfl (.answered _ true fun _ => ⟨rfl, rfl⟩))
  exact .snoc (.snoc (.snoc (.snoc (.snoc .nil trivial hstart) trivial hinit) trivial hrise)
    trivial hlatched) trivial hfound

/-- A `Transmit` of a whole frame. -/
def frameCall : TransmitCall := ⟨0, some 0x40000, List.replicate 60 0, none, none, none, true⟩

/-- The answers after the link has come up with the other partner: none at first. -/
def lostAnswers : Nat → Option UInt16 :=
  pollAnswers (linkPhy ⟨true, true, false, fastPartner⟩) none
def fastAnswers : Nat → Option UInt16 :=
  pollAnswers (linkPhy ⟨true, false, true, fastPartner⟩)
    (some (phyBmsrLinkStatus ||| phyBmsrAnegComplete))

end Rpi5Uefi
