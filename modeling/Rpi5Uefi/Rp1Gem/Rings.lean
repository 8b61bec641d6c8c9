import Rpi5Uefi.Rp1Gem.Mac

/-!
# The descriptor rings of the RP1 GEM (`GemHw.c`)

The rings are allocated before the protocol is published, so the tests for a `NULL` ring are left
out. A call of `GemReceiveFrame` is a loop in which the controller may deposit at any time; one
pass of it is **`gemReceivePass`**. Within a pass the loop reads one descriptor, which the
controller does not touch from the moment its OWN bit is seen until it is cleared.
-/

namespace Rpi5Uefi

open Bytes

/-! ## Receive -/

/-- `GemRxPending`. -/
def gemRxPending (gem : Gem) : Bool :=
  (gem.rxRing gem.rxHead.toNat).addr &&& gemRxDescAddrOwn != 0

/-- `GemRecycleRxDescriptor`. -/
def gemRecycleRxDescriptor (gem : Gem) (index : Nat) : Gem :=
  let desc := gem.rxRing index
  { gem with
    rxRing := Function.update gem.rxRing index
      { desc with ctrl := 0, addr := desc.addr &&& ~~~gemRxDescAddrOwn }
    rxHead := UInt16.ofNat ((index + 1) % gemRxDescCount) }

/-- `Length`. -/
def rxLength (ctrl : UInt32) : Nat := (ctrl &&& gemRxDescCtrlLengthMask).toNat

/-- A control word of one whole frame in one buffer. -/
def rxWellFormed (ctrl : UInt32) : Bool :=
  ctrl &&& (gemRxDescCtrlSof ||| gemRxDescCtrlEof) == gemRxDescCtrlSof ||| gemRxDescCtrlEof &&
    decide (gemEtherHeaderSize ≤ rxLength ctrl) && decide (rxLength ctrl ≤ gemRxBufferSize)

/-- What `GemReceiveFrame` returns and leaves in `*BufferSize` and `Buffer`. -/
structure GemReceiveResult where
  status : EfiStatus
  bufferSize : Nat
  frame : Option (List UInt8)
  deriving DecidableEq, Repr

/-- The buffer of a slot of the RX ring. -/
def Gem.rxBuffer (gem : Gem) (index : Nat) : Nat := gem.rxBuffers + index * gemRxBufferSize

/-- One pass of `GemReceiveFrame`: the return, or `none` for `continue`. -/
def gemReceivePass (gem : Gem) (bufferSize : Nat) : Option GemReceiveResult × Gem :=
  let index := gem.rxHead.toNat
  let desc := gem.rxRing index
  if desc.addr &&& gemRxDescAddrOwn = 0 then (some ⟨.notReady, bufferSize, none⟩, gem)
  else
    let length := rxLength desc.ctrl
    if !rxWellFormed desc.ctrl then (none, gemRecycleRxDescriptor gem index)
    else if bufferSize < length then (some ⟨.bufferTooSmall, length, none⟩, gem)
    else
      let frame := gem.dma.slice (gem.rxBuffer index) length
      let gem := gemRecycleRxDescriptor gem index
      let gem := gemWrite32 gem gemRxStat
        (gemRxStatFrameRecd ||| gemRxStatBufNotAvail ||| gemRxStatOverrun)
      (some ⟨.success, length, some frame⟩, gem)

/-- `GemReceiveFrame` while the controller deposits nothing, for at most `passes` passes. -/
def gemReceiveLoop (bufferSize : Nat) : Nat → Gem → Option GemReceiveResult × Gem
  | 0, gem => (none, gem)
  | passes + 1, gem =>
    match gemReceivePass gem bufferSize with
    | (some result, gem) => (some result, gem)
    | (none, gem) => gemReceiveLoop bufferSize passes gem

/-! ## Transmit -/

/-- The buffer of a slot of the TX ring. -/
def Gem.txBuffer (gem : Gem) (index : Nat) : Nat := gem.txBuffers + index * gemTxBufferSize

/-- The control word that hands a descriptor to the controller. -/
def txCtrl (index length : Nat) : UInt32 :=
  (UInt32.ofNat length &&& gemTxDescCtrlLengthMask) ||| gemTxDescCtrlLastBuf |||
    (if index = gemTxDescCount - 1 then gemTxDescCtrlWrap else 0)

/-- `GemTransmitFrame`. -/
def gemTransmitFrame (gem : Gem) (userBuffer : Nat) (frame : List UInt8) : EfiStatus × Gem :=
  if (gem.txProd - gem.txCons).toNat ≥ gemTxDescCount then (.notReady, gem)
  else
    let index := gem.txProd.toNat % gemTxDescCount
    let gem := { gem with
      dma := gem.dma.write (gem.txBuffer index) frame
      txRing := Function.update gem.txRing index
        { gem.txRing index with ctrl := txCtrl index frame.length }
      txUserBuffer := Function.update gem.txUserBuffer index (some userBuffer)
      txProd := gem.txProd + 1 }
    (.success, mmioOr32 gem gemNetCtrl gemNetCtrlStartTx)

/-- `GemTxPendingCompletion`. -/
def gemTxPendingCompletion (gem : Gem) : Bool :=
  gem.txCons != gem.txProd &&
    (gem.txRing (gem.txCons.toNat % gemTxDescCount)).ctrl &&& gemTxDescCtrlUsed != 0

/-- `GemGetRecycledTxBuffer`. -/
def gemGetRecycledTxBuffer (gem : Gem) : Option Nat × Gem :=
  if gem.txCons = gem.txProd then (none, gem)
  else
    let index := gem.txCons.toNat % gemTxDescCount
    if (gem.txRing index).ctrl &&& gemTxDescCtrlUsed = 0 then (none, gem)
    else
      let txBuf := gem.txUserBuffer index
      let gem := { gem with
        txUserBuffer := Function.update gem.txUserBuffer index none
        txCons := gem.txCons + 1 }
      (txBuf, gemWrite32 gem gemTxStat
        (gemTxStatComplete ||| gemTxStatUnderrun ||| gemTxStatUsedBitRead))

end Rpi5Uefi
