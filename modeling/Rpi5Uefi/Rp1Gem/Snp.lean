import Rpi5Uefi.Rp1Gem.Phy
import Rpi5Uefi.Rp1Gem.Rings

/-!
# The Simple Network Protocol of the RP1 GEM (`Snp.c`)

Each call is a function from the driver's state to its status and the next state. `This` is never
`NULL`; `lockFree` is the outcome of `EfiAcquireLockOrFail`, `mdio` what the PHY answers during the
call.
-/

namespace Rpi5Uefi

open Frame

/-- Run a PHY routine at the start of a call's MDIO accesses. -/
def runPhy {α : Type} (m : PhyM α) (gem : Gem) : Except EfiStatus α × Gem :=
  (result m ⟨gem, 0⟩, (after m ⟨gem, 0⟩).gem)

/-- `EFI_ERROR` of what a PHY routine returns. -/
def phyFailed {α : Type} : Except EfiStatus α → Option EfiStatus
  | .ok _ => none
  | .error status => some status

/-- The test of the calls that need an initialised interface. -/
def needInitialized (gem : Gem) : Option EfiStatus :=
  match gem.mode.state with
  | .stopped => some .notStarted
  | .started => some .deviceError
  | .initialized => none

/-! ## State changes -/

/-- `Rp1GemSnpStart`. -/
def rp1GemSnpStart (gem : Gem) : EfiStatus × Gem :=
  match gem.mode.state with
  | .started => (.alreadyStarted, gem)
  | .initialized => (.deviceError, gem)
  | .stopped => (.success, { gem with mode := { gem.mode with state := .started } })

/-- `Rp1GemSnpStop`. -/
def rp1GemSnpStop (gem : Gem) : EfiStatus × Gem :=
  match gem.mode.state with
  | .stopped => (.notStarted, gem)
  | .initialized => (.deviceError, gem)
  | .started =>
    let gem := gemMacDisableTxRx gem
    (.success, { gem with mode := { gem.mode with state := .stopped } })

/-- `Rp1GemSnpInitialize`. -/
def rp1GemSnpInitialize (mdio : Nat → Option UInt16) (gem : Gem) : EfiStatus × Gem :=
  match gem.mode.state with
  | .stopped => (.notStarted, gem)
  | .initialized => (.deviceError, gem)
  | .started =>
    let gem := gemMacReset gem
    let gem := gemMacConfigure gem
    let (outcome, gem) := runPhy (rp1GemPhyInit mdio) gem
    match phyFailed outcome with
    | some status => (status, gem)
    | none =>
      let gem := gemMacEnableTxRx gem
      (.success,
        { gem with mode := { gem.mode with mediaPresent := false, state := .initialized } })

/-- `Rp1GemSnpReset`. -/
def rp1GemSnpReset (mdio : Nat → Option UInt16) (gem : Gem) : EfiStatus × Gem :=
  match needInitialized gem with
  | some status => (status, gem)
  | none =>
    let (outcome, gem) := runPhy (rp1GemPhyInit mdio) gem
    match phyFailed outcome with
    | some status => (status, gem)
    | none => (.success, { gem with mode := { gem.mode with mediaPresent := false } })

/-- `Rp1GemSnpShutdown`. -/
def rp1GemSnpShutdown (gem : Gem) : EfiStatus × Gem :=
  match needInitialized gem with
  | some status => (status, gem)
  | none =>
    let gem := gemMacDisableTxRx gem
    let gem := gemMacReset gem
    (.success, { gem with mode := { gem.mode with mediaPresent := false, state := .started } })

/-! ## Filters and addresses -/

/-- The arguments of `ReceiveFilters`; `mCastFilter` is the caller's list, or `NULL`. -/
structure ReceiveFiltersCall where
  enable : UInt32
  disable : UInt32
  resetMCastFilter : Bool
  mCastFilterCnt : UInt64
  mCastFilter : Option (Nat → EfiMacAddress)

/-- What a call copied: how many addresses, and whether the source was `NULL`. -/
structure MCastCopy where
  count : Nat
  fromNull : Bool
  deriving DecidableEq, Repr

/-- `Setting`. -/
def ReceiveFiltersCall.setting (call : ReceiveFiltersCall) (gem : Gem) : UInt32 :=
  (gem.mode.receiveFilterSetting ||| call.enable) &&& ~~~call.disable

/-- The call names filters the interface does not have. -/
def ReceiveFiltersCall.unsupported (call : ReceiveFiltersCall) (gem : Gem) : Bool :=
  filterSet (call.enable ||| call.disable) (~~~gem.mode.receiveFilterMask)

/-- The list of a call that enables multicast is too long, or missing. -/
def ReceiveFiltersCall.badList (call : ReceiveFiltersCall) (gem : Gem) : Bool :=
  !call.resetMCastFilter &&
    filterSet (call.enable &&& ~~~call.disable) efiSimpleNetworkReceiveMulticast &&
    (decide (call.mCastFilterCnt.toNat > gem.mode.maxMCastFilterCount.toNat) ||
      (call.mCastFilterCnt != 0 && call.mCastFilter.isNone))

/-- Copy the caller's addresses. A copy past the array goes on into `CurrentAddress` and what is
behind it, to `MediaPresent` and beyond; that is not described here, so what is said of runs is said
of those in which every copy fits. The report says that it happened. -/
def mCastFilterCopy (call : ReceiveFiltersCall) (mode : SnpMode) : SnpMode :=
  { mode with
    mCastFilterCount := UInt32.ofNat call.mCastFilterCnt.toNat
    mCastFilter := Vector.ofFn fun i : Fin 16 =>
      if i.val < call.mCastFilterCnt.toNat then
        match call.mCastFilter with
        | some list => list i.val
        | none => mode.mCastFilter[i]
      else mode.mCastFilter[i] }

/-- The tests before `ReceiveFilters` changes anything. -/
def ReceiveFiltersCall.refused (call : ReceiveFiltersCall) (gem : Gem) : Option EfiStatus :=
  if call.unsupported gem then some .invalidParameter
  else if call.badList gem then some .invalidParameter
  else needInitialized gem

/-- What `ReceiveFilters` does to the multicast list. -/
def mCastFilterUpdate (call : ReceiveFiltersCall) (setting : UInt32) (mode : SnpMode) :
    Option MCastCopy × SnpMode :=
  if call.resetMCastFilter then
    (none, { mode with
      mCastFilterCount := 0
      mCastFilter := Vector.replicate 16 (Vector.replicate 32 0) })
  else if filterSet setting efiSimpleNetworkReceiveMulticast then
    (some ⟨call.mCastFilterCnt.toNat, call.mCastFilter.isNone⟩, mCastFilterCopy call mode)
  else (none, mode)

/-- `Rp1GemSnpReceiveFilters`. -/
def rp1GemSnpReceiveFilters (call : ReceiveFiltersCall) (gem : Gem) :
    EfiStatus × Option MCastCopy × Gem :=
  match call.refused gem with
  | some status => (status, none, gem)
  | none =>
    let setting := call.setting gem
    let (copy, mode) := mCastFilterUpdate call setting gem.mode
    let gem := gemSetReceiveFilters { gem with mode } setting
    (.success, copy, { gem with mode := { gem.mode with receiveFilterSetting := setting } })

/-- `Rp1GemSnpStationAddress`. -/
def rp1GemSnpStationAddress (reset : Bool) (new : Option EfiMacAddress) (gem : Gem) :
    EfiStatus × Gem :=
  if !reset && new.isNone then (.invalidParameter, gem)
  else
    match needInitialized gem with
    | some status => (status, gem)
    | none =>
      let address :=
        if reset then gem.mode.permanentAddress else new.getD gem.mode.currentAddress
      let gem := { gem with mode := { gem.mode with currentAddress := address } }
      (.success, gemSetMacAddress gem gem.mode.currentAddress)

/-! ## Status, transmit, receive -/

/-- Which out parameters of `GetStatus` the caller passes. -/
structure GetStatusCall where
  interruptStatus : Bool
  txBuf : Bool
  lockFree : Bool

/-- What `GetStatus` returns and writes. -/
structure GetStatusResult where
  status : EfiStatus
  receiveInterrupt : Bool
  transmitInterrupt : Bool
  txBuf : Option Nat

/-- The link state `GetStatus` reads from the PHY. -/
def refreshMedia (mdio : Nat → Option UInt16) (gem : Gem) : Gem :=
  let (outcome, gem) := runPhy (rp1GemPhyUpdateConfig mdio) gem
  { gem with mode := { gem.mode with mediaPresent := (phyFailed outcome).isNone } }

/-- The recycled buffer of a `GetStatus` that asks for one. -/
def recycleTx (wanted : Bool) (gem : Gem) : Option Nat × Gem :=
  if wanted then gemGetRecycledTxBuffer gem else (none, gem)

/-- `Rp1GemSnpGetStatus`. -/
def rp1GemSnpGetStatus (mdio : Nat → Option UInt16) (call : GetStatusCall) (gem : Gem) :
    GetStatusResult × Gem :=
  match needInitialized gem with
  | some status => (⟨status, false, false, none⟩, gem)
  | none =>
    if call.lockFree then
      let (txBuf, gem) := recycleTx call.txBuf (refreshMedia mdio gem)
      (⟨.success, call.interruptStatus && gemRxPending gem,
        call.interruptStatus && gemTxPendingCompletion gem, txBuf⟩, gem)
    else (⟨.accessDenied, false, false, none⟩, gem)

/-- The arguments of `Transmit`: the caller's buffer with its content, `BufferSize` long. -/
structure TransmitCall where
  headerSize : Nat
  buffer : Option Nat
  content : List UInt8
  srcAddr : Option EfiMacAddress
  destAddr : Option EfiMacAddress
  protocol : Option UInt16
  lockFree : Bool

/-- The tests of `Transmit` on its arguments. -/
def TransmitCall.refused (call : TransmitCall) (gem : Gem) : Option EfiStatus :=
  if call.buffer.isNone then some .invalidParameter
  else
    match needInitialized gem with
    | some status => some status
    | none =>
      if call.headerSize ≠ 0 ∧ (call.headerSize ≠ gem.mode.mediaHeaderSize ∨
          call.destAddr.isNone = true ∨ call.protocol.isNone = true) then some .invalidParameter
      else if call.content.length < gem.mode.mediaHeaderSize then some .bufferTooSmall
      else if call.content.length > gemMaxFrameSize then some .invalidParameter
      else none

/-- The frame after the media header is filled in. -/
def TransmitCall.frame (call : TransmitCall) (gem : Gem) : List UInt8 :=
  match call.destAddr, call.protocol with
  | some dest, some protocol =>
    if call.headerSize ≠ 0 then
      let src := call.srcAddr.getD gem.mode.currentAddress
      dest.toList.take gemEtherAddrLen ++ src.toList.take gemEtherAddrLen ++
        [(protocol >>> 8).toUInt8, protocol.toUInt8] ++ call.content.drop gemEtherHeaderSize
    else call.content
  | _, _ => call.content

/-- `GEM_LINK_TIMEOUT_MS / 10`. -/
def gemLinkRetries : Nat := 500

/-- The wait for a link. -/
def phyWaitLink (mdio : Nat → Option UInt16) : Nat → PhyM Bool
  | 0 => pure false
  | retries + 1 => do
    match ← attempt (rp1GemPhyUpdateConfig mdio) with
    | some _ => pure true
    | none => phyWaitLink mdio retries

/-- The link test of `Transmit`: is there a link, and the state after looking for one. -/
def transmitLink (mdio : Nat → Option UInt16) (gem : Gem) : Bool × Gem :=
  if gem.mode.mediaPresent then (true, gem)
  else
    match runPhy (phyWaitLink mdio gemLinkRetries) gem with
    | (.ok true, gem) => (true, { gem with mode := { gem.mode with mediaPresent := true } })
    | (_, gem) => (false, gem)

/-- `Rp1GemSnpTransmit`. -/
def rp1GemSnpTransmit (mdio : Nat → Option UInt16) (call : TransmitCall) (gem : Gem) :
    EfiStatus × Gem :=
  match call.refused gem with
  | some status => (status, gem)
  | none =>
    let (link, gem) := transmitLink mdio gem
    if !link then (.notReady, gem)
    else if call.lockFree then gemTransmitFrame gem (call.buffer.getD 0) (call.frame gem)
    else (.accessDenied, gem)

/-- The arguments of `Receive`: `*BufferSize`, or `NULL`, and whether `Buffer` is one. -/
structure ReceiveCall where
  bufferSize : Option Nat
  buffer : Bool
  lockFree : Bool

/-- What `Receive` returns and writes. -/
structure SnpReceiveResult where
  receive : GemReceiveResult
  headerSize : Option Nat
  destAddr : Option (List UInt8)
  srcAddr : Option (List UInt8)
  protocol : Option UInt16
  deriving DecidableEq, Repr

/-- The tests of `Receive`, and the size of the buffer. -/
def ReceiveCall.refused (call : ReceiveCall) (gem : Gem) : Except EfiStatus Nat :=
  match call.bufferSize, call.buffer with
  | some bufferSize, true =>
    match needInitialized gem with
    | some status => .error status
    | none => if call.lockFree then .ok bufferSize else .error .accessDenied
  | _, _ => .error .invalidParameter

/-- An address taken from a frame, in a zeroed `EFI_MAC_ADDRESS`. -/
def frameAddress (frame : List UInt8) (offset : Nat) : List UInt8 :=
  (frame.drop offset).take gemEtherAddrLen ++ List.replicate (32 - gemEtherAddrLen) 0

/-- The end of `Receive`. -/
def snpReceiveReturn (gem : Gem) (received : GemReceiveResult) : SnpReceiveResult :=
  match received.frame with
  | none => ⟨received, none, none, none, none⟩
  | some frame =>
    ⟨received, some gem.mode.mediaHeaderSize, some (frameAddress frame 0),
      some (frameAddress frame gemEtherAddrLen),
      some (((frame.getD 12 0).toUInt16 <<< 8) ||| (frame.getD 13 0).toUInt16)⟩

/-- The return of a `Receive` that did not look at the ring. -/
def SnpReceiveResult.error (status : EfiStatus) (call : ReceiveCall) : SnpReceiveResult :=
  ⟨⟨status, call.bufferSize.getD 0, none⟩, none, none, none, none⟩

/-- `Rp1GemSnpReceive`, while the controller deposits nothing. -/
def rp1GemSnpReceive (call : ReceiveCall) (gem : Gem) : Option SnpReceiveResult × Gem :=
  match call.refused gem with
  | .error status => (some (.error status call), gem)
  | .ok bufferSize =>
    match gemReceiveLoop bufferSize (gemRxDescCount + 1) gem with
    | (some received, gem) => (some (snpReceiveReturn gem received), gem)
    | (none, gem) => (none, gem)

/-! ## What the calls leave in `Mode` -/

theorem needInitialized_eq_none : needInitialized gem = none ↔ gem.mode.state = .initialized := by
  unfold needInitialized
  cases gem.mode.state <;> simp

@[simp] theorem setMacAddress_mode (gem : Gem) (a : EfiMacAddress) :
    (gemSetMacAddress gem a).mode = gem.mode := rfl

@[simp] theorem setReceiveFilters_mode (gem : Gem) (filters : UInt32) :
    (gemSetReceiveFilters gem filters).mode = gem.mode := by
  unfold gemSetReceiveFilters
  cases filterSet filters stationFilters <;> simp

theorem phyWaitLink_within (mdio : Nat → Option UInt16) (retries : Nat) :
    Within PhyKept (phyWaitLink mdio retries) := by
  induction retries with
  | zero => exact .pure _
  | succ retries ih =>
    refine .bind (.attempt (phyUpdateConfig_within mdio)) fun outcome => ?_
    cases outcome with
    | some _ => exact .pure _
    | none => exact ih

/-- The PHY routines leave everything but the registers and the link state. -/
theorem runPhy_kept {α : Type} {m : PhyM α} (hm : Within PhyKept m) (gem : Gem) :
    (runPhy m gem).2 = { gem with
      phyAddr := (runPhy m gem).2.phyAddr
      linkUp := (runPhy m gem).2.linkUp
      regs := (runPhy m gem).2.regs } :=
  (hm ⟨gem, 0⟩).gem

theorem runPhy_mode {α : Type} {m : PhyM α} (hm : Within PhyKept m) (gem : Gem) :
    (runPhy m gem).2.mode = gem.mode := by
  rw [runPhy_kept hm gem]

theorem recycledTx_mode (gem : Gem) : (gemGetRecycledTxBuffer gem).2.mode = gem.mode := by
  unfold gemGetRecycledTxBuffer
  split
  · rfl
  · simp only
    split <;> rfl

theorem recycleTx_mode (wanted : Bool) (gem : Gem) : (recycleTx wanted gem).2.mode = gem.mode := by
  cases wanted with
  | true => exact recycledTx_mode gem
  | false => rfl

theorem transmitFrame_mode (gem : Gem) (userBuffer : Nat) (frame : List UInt8) :
    (gemTransmitFrame gem userBuffer frame).2.mode = gem.mode := by
  unfold gemTransmitFrame
  split <;> rfl

theorem receivePass_mode (gem : Gem) (bufferSize : Nat) :
    (gemReceivePass gem bufferSize).2.mode = gem.mode := by
  unfold gemReceivePass
  simp only
  split
  · rfl
  · split
    · rfl
    · split <;> rfl

theorem receiveLoop_mode (bufferSize passes : Nat) (gem : Gem) :
    (gemReceiveLoop bufferSize passes gem).2.mode = gem.mode := by
  induction passes generalizing gem with
  | zero => rfl
  | succ passes ih =>
    have hpass := receivePass_mode gem bufferSize
    unfold gemReceiveLoop
    revert hpass
    cases gemReceivePass gem bufferSize with
    | mk result gem' =>
      intro hpass
      cases result with
      | some _ => exact hpass
      | none => exact (ih gem').trans hpass

/-! ## Driver start (`DriverBinding.c`) -/

/-- `Mode` as `Rp1GemDriverBindingStart` fills it in. -/
def snpModeAtStart (permanentAddress : EfiMacAddress) : SnpMode where
  state := .stopped
  mediaHeaderSize := gemEtherHeaderSize
  receiveFilterMask := efiSimpleNetworkReceiveUnicast ||| efiSimpleNetworkReceiveMulticast |||
    efiSimpleNetworkReceiveBroadcast ||| efiSimpleNetworkReceivePromiscuous |||
    efiSimpleNetworkReceivePromiscuousMulticast
  receiveFilterSetting := efiSimpleNetworkReceiveUnicast ||| efiSimpleNetworkReceiveBroadcast
  maxMCastFilterCount := UInt32.ofNat maxMcastFilterCnt
  mCastFilterCount := 0
  mCastFilter := Vector.replicate 16 (Vector.replicate 32 0)
  currentAddress := permanentAddress
  permanentAddress := permanentAddress
  mediaPresent := false

/-- The controller as `Rp1GemDriverBindingStart` leaves it, from whatever it found. -/
def rp1GemDriverBindingStart (found : Gem) (permanentAddress : EfiMacAddress) : Gem :=
  { gemMacReset found with mode := snpModeAtStart permanentAddress }

/-- A controller as it might be found, with rings and buffers for the driver. -/
def foundGem : Gem where
  mode := snpModeAtStart (Vector.replicate 32 0)
  phyAddr := 0
  linkUp := false
  descBuffer := 0x10000
  rxBuffers := 0x20000
  txBuffers := 0x30000
  rxRing _ := ⟨0, 0, 0⟩
  txRing _ := ⟨0, 0, 0⟩
  nullRxDesc := ⟨0, 0, 0⟩
  nullTxDesc := ⟨0, 0, 0⟩
  rxHead := 0
  txProd := 0
  txCons := 0
  txUserBuffer _ := none
  regs _ := 0
  specAddrArmed := false
  dma _ := 0

/-- A PHY that answers every access, with a link that is up. -/
def answeringPhy : Nat → Option UInt16 := fun _ => some (phyBmsrLinkStatus ||| phyBmsrAnegComplete)

/-- A station address. -/
def stationMac : EfiMacAddress :=
  Vector.ofFn fun i => if i.val < 6 then UInt8.ofNat (i.val + 2) else 0

/-- The interface started. -/
def startedGem : Gem := (rp1GemSnpStart (rp1GemDriverBindingStart foundGem stationMac)).2

/-- The driver started, and the interface started and initialised. -/
def initializedGem : Gem :=
  (rp1GemSnpInitialize answeringPhy
    (rp1GemSnpStart (rp1GemDriverBindingStart foundGem stationMac)).2).2

end Rpi5Uefi
