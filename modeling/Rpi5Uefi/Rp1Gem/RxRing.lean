import Rpi5Uefi.Lib.Ring
import Rpi5Uefi.Rp1Gem.RingState

/-!
# The RX ring of the RP1 GEM

The controller deposits frames in ring order, each into a descriptor whose OWN bit is clear and into
the buffer that descriptor names; `Receive` takes them out. A call of `Receive` is not atomic: it is
accepted, and then makes passes over the ring, between which the controller may deposit. A deposit
carries the status word, which may be anything, and what the buffer holds afterwards.

* **`RxHolds`**: what the descriptors, the head and the buffers say about the deposits;
* **`RxHolds.receivePass`**: a pass as a function of the oldest deposit that is still in the ring;
* **`rxRing_contract`**: what the callers and the controller may rely on, after any run.
-/

namespace Rpi5Uefi

open Bytes Ring Transition

/-! ## The system -/

/-- What the controller leaves in a slot: the status word and the content of the buffer. -/
structure RxDeposit where
  ctrl : UInt32
  content : List UInt8

/-- The frame the status word speaks of. -/
def RxDeposit.frame (d : RxDeposit) : List UInt8 := d.content.take (rxLength d.ctrl)

/-- One whole frame in one buffer. -/
def RxDeposit.wellFormed (d : RxDeposit) : Bool := rxWellFormed d.ctrl

/-- A call of `Receive` in progress: its buffer's size, the passes it made over the ring and the
deposits that fell between them. -/
structure RxCall where
  bufferSize : Nat
  passes : Nat
  deposits : Nat

/-- The driver, the controller's place in the RX ring, everything deposited, how many descriptors
were given back, the call in progress and what the calls so far returned. -/
structure RxSystem where
  gem : Gem
  hwRx : Nat
  deposited : List RxDeposit
  taken : Nat
  call : Option RxCall
  results : List SnpReceiveResult

/-- The frames in what calls of `Receive` returned. -/
def framesReturned (results : List SnpReceiveResult) : List (List UInt8) :=
  results.filterMap fun result => result.receive.frame

/-- What happens to the RX ring. -/
inductive RxEvent where
  | deposit (d : RxDeposit)
  | receive (call : ReceiveCall)
  | pass

/-- `GEM_RXDESC_ADDR_MASK`. -/
def gemRxDescAddrMask : UInt32 := 0xFFFFFFFC

/-- The buffer a descriptor names to the controller. -/
def GemDmaDesc.rxBusAddr (desc : GemDmaDesc) : Nat :=
  desc.addrHi.toNat * 2 ^ 32 + (desc.addr &&& gemRxDescAddrMask).toNat

/-- The controller owns an RX descriptor while its OWN bit is clear. -/
def RxOwned (desc : GemDmaDesc) : Prop := desc.addr &&& gemRxDescAddrOwn = 0

instance (desc : GemDmaDesc) : Decidable (RxOwned desc) := inferInstanceAs (Decidable (_ = _))

/-- The controller fills a slot. -/
def Gem.deposit (gem : Gem) (index : Nat) (d : RxDeposit) : Gem :=
  let desc := gem.rxRing index
  { gem with
    rxRing := Function.update gem.rxRing index
      { desc with addr := desc.addr ||| gemRxDescAddrOwn, ctrl := d.ctrl }
    dma := gem.dma.write desc.rxBusAddr d.content }

/-- One event; `none` where the controller owns no descriptor, or no call is in progress. -/
def RxSystem.next (s : RxSystem) : RxEvent → Option RxSystem
  | .deposit d =>
    let desc := s.gem.rxRing s.hwRx
    -- the controller fills only what is its own, and a whole buffer at a time
    if RxOwned desc ∧ d.content.length = gemRxBufferSize then
      some { s with
        gem := s.gem.deposit s.hwRx d
        hwRx := if desc.addr &&& gemRxDescAddrWrap ≠ 0 then 0 else s.hwRx + 1
        deposited := s.deposited ++ [d]
        call := s.call.map fun c => { c with deposits := c.deposits + 1 } }
    else none
  | .receive call =>
    -- the lock is held while a call is in progress
    let call := { call with lockFree := call.lockFree && s.call.isNone }
    match call.refused s.gem with
    | .error status => some { s with results := s.results ++ [.error status call] }
    | .ok bufferSize => some { s with call := some ⟨bufferSize, 0, 0⟩ }
  | .pass =>
    match s.call with
    | none => none
    | some c =>
      match gemReceivePass s.gem c.bufferSize with
      | (none, gem) =>
        some { s with gem, taken := s.taken + 1, call := some { c with passes := c.passes + 1 } }
      | (some received, gem) =>
        some { s with
          gem
          -- a frame too large for the caller stays in the ring
          taken := if received.status = .success then s.taken + 1 else s.taken
          call := none
          results := s.results ++ [snpReceiveReturn gem received] }

def rxStep (s : RxSystem) (e : RxEvent) (s' : RxSystem) : Prop := s.next e = some s'

/-- The ring as it is after `Initialize`. -/
def rxStart (gem : Gem) : RxSystem := ⟨gem, 0, [], 0, none, []⟩

/-! ## Descriptors -/

/-- What the test in `GemDmaAlloc` and the assertion in `GemInitRings` say of the buffers. -/
structure RxBuffersAllocated (gem : Gem) : Prop where
  below : gem.rxBuffers + gemRxDescCount * gemRxBufferSize ≤ 2 ^ 32
  aligned : gem.rxBuffers % 4 = 0

section
variable {gem : Gem} {hwRx taken : Nat} {deposited : List RxDeposit}

theorem rxBuffer_low (ha : RxBuffersAllocated gem) (index : Nat) :
    UInt32.ofNat (gem.rxBuffer index) &&& 3 = 0 := by
  have haligned := ha.aligned
  rw [← UInt32.toNat_inj, UInt32.toNat_and, UInt32.toNat_ofNat']
  -- the low two bits are the remainder by four, and every buffer is aligned
  show gem.rxBuffer index % 2 ^ 32 &&& (2 ^ 2 - 1) = 0
  rw [Nat.and_two_pow_sub_one_eq_mod]
  unfold Gem.rxBuffer
  simp only [gemRxBufferSize]
  omega

/-- The WRAP bit of a slot's address word. -/
def rxWrap (index : Nat) : UInt32 := if index = gemRxDescCount - 1 then gemRxDescAddrWrap else 0

theorem rxWrap_and_low (index : Nat) : rxWrap index &&& 3 = rxWrap index := by
  unfold rxWrap
  split <;> decide

theorem rxDescInit_addr (gem : Gem) (index : Nat) :
    (rxDescInit gem index).addr = UInt32.ofNat (gem.rxBuffer index) ||| rxWrap index := rfl

theorem rxDescInit_owned (ha : RxBuffersAllocated gem) (index : Nat) :
    RxOwned (rxDescInit gem index) := by
  have hown : gemRxDescAddrOwn = 3 &&& gemRxDescAddrOwn := by decide
  have hwrap : rxWrap index &&& gemRxDescAddrOwn = 0 := by
    unfold rxWrap
    split <;> decide
  unfold RxOwned
  rw [rxDescInit_addr, Bits.or_and_of_disjoint hwrap, hown, ← UInt32.and_assoc,
    rxBuffer_low ha, UInt32.zero_and]

/-- **Only the last slot has the WRAP bit.** -/
theorem rxDescInit_wrap (ha : RxBuffersAllocated gem) (index : Nat) :
    (rxDescInit gem index).addr &&& gemRxDescAddrWrap ≠ 0 ↔ index = gemRxDescCount - 1 := by
  have hmask : gemRxDescAddrWrap = 3 &&& gemRxDescAddrWrap := by decide
  rw [rxDescInit_addr]
  unfold rxWrap
  split
  · next h =>
    rw [Bits.or_and_self]
    exact ⟨fun _ => h, fun _ => by decide⟩
  · next h =>
    rw [UInt32.or_zero, hmask, ← UInt32.and_assoc, rxBuffer_low ha, UInt32.zero_and]
    exact ⟨fun hne => absurd rfl hne, fun heq => absurd heq h⟩

/-- **A descriptor names its slot's buffer.** -/
theorem rxDescInit_bus (ha : RxBuffersAllocated gem) {index : Nat} (hi : index < gemRxDescCount) :
    (rxDescInit gem index).rxBusAddr = gem.rxBuffer index := by
  have hbelow := ha.below
  have hlt : gem.rxBuffer index < 2 ^ 32 := by
    unfold Gem.rxBuffer
    simp only [gemRxBufferSize, gemRxDescCount] at hi hbelow ⊢
    omega
  have hmask : gemRxDescAddrMask = ~~~3 := by decide
  unfold GemDmaDesc.rxBusAddr
  -- masking the flags off leaves the address, and below 4 GiB the high word is zero
  rw [rxDescInit_addr, hmask, Bits.or_and_not_of_empty (rxBuffer_low ha index)
    (rxWrap_and_low index), UInt32.toNat_ofNat_of_lt' hlt]
  show (UInt32.ofNat (gem.rxBuffer index >>> 32)).toNat * 2 ^ 32 + _ = _
  rw [Nat.shiftRight_eq_div_pow, Nat.div_eq_of_lt hlt]
  simp

/-- The descriptor of a slot that holds a deposit. -/
def rxFilled (gem : Gem) (index : Nat) (ctrl : UInt32) : GemDmaDesc :=
  { rxDescInit gem index with addr := (rxDescInit gem index).addr ||| gemRxDescAddrOwn, ctrl }

theorem rxFilled_not_owned (gem : Gem) (index : Nat) (ctrl : UInt32) :
    ¬RxOwned (rxFilled gem index ctrl) := by
  unfold RxOwned rxFilled
  simp only
  rw [Bits.or_and_self]
  decide

/-- **Recycling** gives a filled descriptor its address and its WRAP bit back. -/
theorem rxFilled_recycled (ha : RxBuffersAllocated gem) (index : Nat) (ctrl : UInt32) :
    { rxFilled gem index ctrl with
      ctrl := 0, addr := (rxFilled gem index ctrl).addr &&& ~~~gemRxDescAddrOwn } =
      rxDescInit gem index := by
  have hown : (rxDescInit gem index).addr &&& gemRxDescAddrOwn = 0 := rxDescInit_owned ha index
  unfold rxFilled
  simp only
  rw [Bits.or_and_not_of_empty hown (by decide)]
  rfl

/-! ## The invariant -/

/-- **The ring and the deposits.** The head is at the oldest deposit not given back and the
controller is at the next free slot; the slots in between are filled, with the deposits in their
buffers, and the others are as they were at the start. -/
structure RxHolds (gem : Gem) (hwRx : Nat) (deposited : List RxDeposit) (taken : Nat) : Prop where
  le : taken ≤ deposited.length
  bound : deposited.length ≤ taken + gemRxDescCount
  head : gem.rxHead.toNat = taken % gemRxDescCount
  hwRx : hwRx = deposited.length % gemRxDescCount
  idle : ∀ k, deposited.length ≤ k ∧ k < taken + gemRxDescCount →
    gem.rxRing (k % gemRxDescCount) = rxDescInit gem (k % gemRxDescCount)
  filled : ∀ k d, taken ≤ k → deposited[k]? = some d →
    gem.rxRing (k % gemRxDescCount) = rxFilled gem (k % gemRxDescCount) d.ctrl ∧
      gem.dma.slice (gem.rxBuffer (k % gemRxDescCount)) gemRxBufferSize = d.content

theorem rxHolds_fresh (h : RingsFresh gem) : RxHolds gem 0 [] 0 := by
  refine ⟨Nat.le_refl 0, Nat.zero_le _, ?_, rfl, fun k _ => ?_, fun k d _ hd => ?_⟩
  · rw [h.rxHead]
    rfl
  · exact h.rxRing _ (Nat.mod_lt k (by decide))
  · rw [List.getElem?_nil] at hd
    cases hd

/-- The controller owns the next free slot only while there is one. -/
theorem RxHolds.room (h : RxHolds gem hwRx deposited taken) (howned : RxOwned (gem.rxRing hwRx)) :
    deposited.length < taken + gemRxDescCount := by
  have hle := h.le
  have hbound := h.bound
  have hcount : gemRxDescCount = 16 := rfl
  rcases Nat.lt_or_ge deposited.length (taken + gemRxDescCount) with hlt | hge
  · exact hlt
  · -- every slot is filled, the head's among them
    have heq : deposited.length = taken + gemRxDescCount := by omega
    have hfirst : deposited[taken]? = some deposited[taken] :=
      List.getElem?_eq_getElem (by omega)
    rw [h.hwRx, heq, Nat.add_mod_right, (h.filled taken _ (Nat.le_refl _) hfirst).1] at howned
    exact absurd howned (rxFilled_not_owned gem _ _)

/-- The buffers of two slots do not meet. -/
theorem rxBuffer_apart (gem : Gem) {a b i : Nat} (hne : a ≠ b) (hlo : gem.rxBuffer a ≤ i)
    (hhi : i < gem.rxBuffer a + gemRxBufferSize) :
    i < gem.rxBuffer b ∨ gem.rxBuffer b + gemRxBufferSize ≤ i := by
  unfold Gem.rxBuffer at *
  simp only [gemRxBufferSize] at *
  omega

theorem RxHolds.deposit (ha : RxBuffersAllocated gem) (h : RxHolds gem hwRx deposited taken)
    {d : RxDeposit} (howned : RxOwned (gem.rxRing hwRx))
    (hcontent : d.content.length = gemRxBufferSize) :
    RxHolds (gem.deposit hwRx d)
      (if (gem.rxRing hwRx).addr &&& gemRxDescAddrWrap ≠ 0 then 0 else hwRx + 1)
      (deposited ++ [d]) taken := by
  have hle := h.le
  have hroom := h.room howned
  have hnew : taken ≤ deposited.length ∧ deposited.length < taken + gemRxDescCount := ⟨hle, hroom⟩
  have hdesc := h.idle deposited.length ⟨Nat.le_refl _, hroom⟩
  have hslot : deposited.length % gemRxDescCount < gemRxDescCount :=
    Nat.mod_lt _ (by decide)
  have hbus := rxDescInit_bus ha hslot
  rw [h.hwRx, hdesc]
  unfold Gem.deposit
  constructor
  · rw [List.length_append]
    omega
  · rw [List.length_append, List.length_singleton]
    exact hroom
  · exact h.head
  · have hnext := slot_succ (by decide : 1 < gemRxDescCount) deposited.length
    rw [List.length_append, List.length_singleton, ← hnext]
    exact if_congr (rxDescInit_wrap ha _) rfl rfl
  · intro k hk
    rw [List.length_append, List.length_singleton] at hk
    show Function.update gem.rxRing _ _ _ = rxDescInit gem _
    rw [update_of_ne _ _ ⟨by omega, by omega⟩ hnew (by omega)]
    exact h.idle k ⟨by omega, hk.2⟩
  · intro k d' hlo hd
    show Function.update gem.rxRing _ _ _ = rxFilled gem _ _ ∧
      Mem.slice (Mem.write _ _ _) (gem.rxBuffer _) _ = _
    rw [hdesc, hbus]
    -- an older deposit keeps its slot and buffer; the new one is read back from what was written
    rcases Nat.lt_or_ge k deposited.length with hlt | hge
    · have hne := slot_ne_of_lt hlo hlt hroom
      rw [List.getElem?_append_left hlt] at hd
      obtain ⟨hring, hbuffer⟩ := h.filled k d' hlo hd
      rw [Function.update_of_ne hne, hring, ← hbuffer]
      refine ⟨rfl, Mem.slice_congr fun i hl hh => Mem.write_of_outside _ ?_⟩
      rw [hcontent]
      exact rxBuffer_apart gem hne hl hh
    · obtain ⟨hlt, -⟩ := List.getElem?_eq_some_iff.mp hd
      rw [List.length_append, List.length_singleton] at hlt
      obtain rfl : k = deposited.length := by omega
      rw [List.getElem?_append_right (Nat.le_refl _), Nat.sub_self] at hd
      obtain rfl : d = d' := Option.some.inj hd
      rw [Function.update_self, ← hcontent, Mem.slice_write]
      exact ⟨rfl, rfl⟩

theorem RxHolds.recycle (ha : RxBuffersAllocated gem) (h : RxHolds gem hwRx deposited taken)
    (hlt : taken < deposited.length) :
    RxHolds (gemRecycleRxDescriptor gem gem.rxHead.toNat) hwRx deposited (taken + 1) := by
  have hbound := h.bound
  have hcount : gemRxDescCount = 16 := rfl
  have hfirst : deposited[taken]? = some deposited[taken] := List.getElem?_eq_getElem hlt
  have hold : taken ≤ taken ∧ taken < taken + gemRxDescCount := ⟨Nat.le_refl _, by omega⟩
  have hrecycled := rxFilled_recycled ha (taken % gemRxDescCount) deposited[taken].ctrl
  -- the head's slot holds the oldest deposit, so recycling restores the initial descriptor
  rw [← (h.filled taken _ (Nat.le_refl _) hfirst).1] at hrecycled
  rw [h.head]
  unfold gemRecycleRxDescriptor
  simp only
  rw [hrecycled]
  constructor
  · exact hlt
  · omega
  · show (UInt16.ofNat ((taken % gemRxDescCount + 1) % gemRxDescCount)).toNat = _
    rw [UInt16.toNat_ofNat']
    simp only [gemRxDescCount]
    omega
  · exact h.hwRx
  · intro k hk
    show Function.update gem.rxRing _ _ _ = rxDescInit gem _
    rcases Nat.lt_or_ge k (taken + gemRxDescCount) with hin | hge
    · rw [update_of_ne _ _ ⟨by omega, hin⟩ hold (by omega)]
      exact h.idle k ⟨hk.1, hin⟩
    · -- the slot given back is the window's new last position
      obtain rfl : k = taken + gemRxDescCount := by omega
      rw [Nat.add_mod_right, Function.update_self]
  · intro k d hlo hd
    obtain ⟨hk, -⟩ := List.getElem?_eq_some_iff.mp hd
    show Function.update gem.rxRing _ _ _ = rxFilled gem _ _ ∧ _
    rw [update_of_ne _ _ ⟨by omega, by omega⟩ hold (by omega)]
    exact h.filled k d (by omega) hd

/-- A register write leaves the ring alone. -/
theorem RxHolds.write32 (h : RxHolds gem hwRx deposited taken) (offset : Nat) (value : UInt32) :
    RxHolds (gemWrite32 gem offset value) hwRx deposited taken :=
  ⟨h.le, h.bound, h.head, h.hwRx, h.idle, h.filled⟩

theorem rxLength_le {ctrl : UInt32} (h : rxWellFormed ctrl = true) :
    rxLength ctrl ≤ gemRxBufferSize := by
  unfold rxWellFormed at h
  simp only [Bool.and_eq_true, decide_eq_true_eq] at h
  exact h.2

/-- **A pass, by the oldest deposit in the ring.** -/
theorem RxHolds.receivePass (ha : RxBuffersAllocated gem) (h : RxHolds gem hwRx deposited taken)
    (bufferSize : Nat) :
    gemReceivePass gem bufferSize =
      match deposited[taken]? with
      | none => (some ⟨.notReady, bufferSize, none⟩, gem)
      | some d =>
        if d.wellFormed = false then (none, gemRecycleRxDescriptor gem gem.rxHead.toNat)
        else if bufferSize < rxLength d.ctrl then
          (some ⟨.bufferTooSmall, rxLength d.ctrl, none⟩, gem)
        else (some ⟨.success, rxLength d.ctrl, some d.frame⟩,
          gemWrite32 (gemRecycleRxDescriptor gem gem.rxHead.toNat) gemRxStat
            (gemRxStatFrameRecd ||| gemRxStatBufNotAvail ||| gemRxStatOverrun)) := by
  have hcount : gemRxDescCount = 16 := rfl
  unfold gemReceivePass
  simp only
  rw [h.head]
  cases hd : deposited[taken]? with
  | none =>
    have hge := List.getElem?_eq_none_iff.mp hd
    have hring := h.idle taken ⟨hge, by omega⟩
    have howned : RxOwned (gem.rxRing (taken % gemRxDescCount)) := by
      rw [hring]
      exact rxDescInit_owned ha _
    unfold RxOwned at howned
    rw [if_pos howned]
  | some d =>
    obtain ⟨hring, hbuffer⟩ := h.filled taken d (Nat.le_refl _) hd
    have howned : ¬RxOwned (gem.rxRing (taken % gemRxDescCount)) := by
      rw [hring]
      exact rxFilled_not_owned gem _ _
    have hctrl : (gem.rxRing (taken % gemRxDescCount)).ctrl = d.ctrl := by
      rw [hring]
      rfl
    unfold RxOwned at howned
    rw [if_neg howned, hctrl]
    show _ = if rxWellFormed d.ctrl = false then _ else _
    cases hwf : rxWellFormed d.ctrl with
    | false => rfl
    | true =>
      have hframe : gem.dma.slice (gem.rxBuffer (taken % gemRxDescCount)) (rxLength d.ctrl) =
          d.frame := by
        unfold RxDeposit.frame
        rw [← hbuffer, Mem.take_slice, Nat.min_eq_left (rxLength_le hwf)]
      rw [hframe]
      rfl

end

/-! ## Runs -/

/-- The state after any run from `start`. The frames returned are the well-formed ones among the
deposits given back, and a call in progress has made no more passes than there were deposits for it
to look at. -/
structure RxInv (start : Gem) (s : RxSystem) : Prop where
  initialized : s.gem.mode.state = .initialized
  buffers : s.gem.rxBuffers = start.rxBuffers
  holds : RxHolds s.gem s.hwRx s.deposited s.taken
  returned : framesReturned s.results =
    ((s.deposited.take s.taken).filter RxDeposit.wellFormed).map RxDeposit.frame
  passes : ∀ c, s.call = some c →
    c.passes + (s.deposited.length - s.taken) ≤ gemRxDescCount + c.deposits

section
variable {start : Gem} {s s' : RxSystem}

theorem RxBuffersAllocated.of_eq {gem : Gem} (ha : RxBuffersAllocated start)
    (h : gem.rxBuffers = start.rxBuffers) : RxBuffersAllocated gem := by
  refine ⟨?_, ?_⟩
  · rw [h]
    exact ha.below
  · rw [h]
    exact ha.aligned

theorem framesReturned_snoc (results : List SnpReceiveResult) (r : SnpReceiveResult) :
    framesReturned (results ++ [r]) = framesReturned results ++ r.receive.frame.toList := by
  unfold framesReturned
  rw [List.filterMap_append]
  cases hframe : r.receive.frame <;> simp [hframe]

@[simp] theorem receiveReturn_receive (gem : Gem) (received : GemReceiveResult) :
    (snpReceiveReturn gem received).receive = received := by
  unfold snpReceiveReturn
  cases received.frame <;> rfl

/-- A call that gives no descriptor back and returns no frame. -/
theorem RxInv.quiet (h : RxInv start s) {call : Option RxCall} {r : SnpReceiveResult}
    (hframe : r.receive.frame = none) (hcall : ∀ c, call = some c → s.call = some c) :
    RxInv start { s with call, results := s.results ++ [r] } := by
  refine ⟨h.initialized, h.buffers, h.holds, ?_, fun c hc => h.passes c (hcall c hc)⟩
  rw [framesReturned_snoc, hframe, Option.toList_none, List.append_nil]
  exact h.returned

theorem rxInv_deposit (ha : RxBuffersAllocated start) (h : RxInv start s) (d : RxDeposit)
    (hstep : rxStep s (.deposit d) s') : RxInv start s' := by
  unfold rxStep RxSystem.next at hstep
  simp only at hstep
  split at hstep
  · next hguard =>
    have hle := h.holds.le
    obtain rfl := Option.some.inj hstep
    refine ⟨h.initialized, h.buffers,
      h.holds.deposit (ha.of_eq h.buffers) hguard.1 hguard.2, ?_, fun c hc => ?_⟩
    · rw [List.take_append_of_le_length hle]
      exact h.returned
    · obtain ⟨c', hc', rfl⟩ := Option.map_eq_some_iff.mp hc
      -- one deposit more is pending, and the call has counted it
      have hpasses := h.passes c' hc'
      simp only [List.length_append, List.length_singleton]
      omega
  · cases hstep

theorem rxInv_receive (h : RxInv start s) (call : ReceiveCall)
    (hstep : rxStep s (.receive call) s') : RxInv start s' := by
  have hbound := h.holds.bound
  unfold rxStep RxSystem.next at hstep
  simp only at hstep
  split at hstep
  · obtain rfl := Option.some.inj hstep
    exact h.quiet rfl fun _ hc => hc
  · obtain rfl := Option.some.inj hstep
    refine ⟨h.initialized, h.buffers, h.holds, h.returned, fun c hc => ?_⟩
    cases hc
    simp only
    omega

/-- **A pass of the call in progress**, by the oldest deposit in the ring. -/
theorem RxInv.next_pass (ha : RxBuffersAllocated start) (h : RxInv start s) {c : RxCall}
    (hc : s.call = some c) :
    s.next .pass =
      match s.deposited[s.taken]? with
      | none =>
        some { s with
          call := none
          results := s.results ++ [snpReceiveReturn s.gem ⟨.notReady, c.bufferSize, none⟩] }
      | some d =>
        let recycled := gemRecycleRxDescriptor s.gem s.gem.rxHead.toNat
        let acknowledged := gemWrite32 recycled gemRxStat
          (gemRxStatFrameRecd ||| gemRxStatBufNotAvail ||| gemRxStatOverrun)
        if d.wellFormed = false then
          some { s with
            gem := recycled
            taken := s.taken + 1
            call := some { c with passes := c.passes + 1 } }
        else if c.bufferSize < rxLength d.ctrl then
          some { s with
            call := none
            results := s.results ++
              [snpReceiveReturn s.gem ⟨.bufferTooSmall, rxLength d.ctrl, none⟩] }
        else
          some { s with
            gem := acknowledged
            taken := s.taken + 1
            call := none
            results := s.results ++
              [snpReceiveReturn acknowledged ⟨.success, rxLength d.ctrl, some d.frame⟩] } := by
  have hpass := h.holds.receivePass (ha.of_eq h.buffers) c.bufferSize
  unfold RxSystem.next
  rw [hc]
  simp only
  rw [hpass]
  cases s.deposited[s.taken]? with
  | none => rfl
  | some d =>
    simp only
    cases d.wellFormed with
    | false => rfl
    | true =>
      simp only [Bool.true_eq_false, if_false]
      rcases Nat.lt_or_ge c.bufferSize (rxLength d.ctrl) with hlt | hge
      · simp only [if_pos hlt]
        rfl
      · simp only [if_neg (Nat.not_lt.mpr hge)]
        rfl

theorem take_next {d : RxDeposit} (hd : s.deposited[s.taken]? = some d) :
    s.deposited.take (s.taken + 1) = s.deposited.take s.taken ++ [d] := by
  rw [List.take_add_one, hd, Option.toList_some]

theorem rxInv_pass (ha : RxBuffersAllocated start) (h : RxInv start s)
    (hstep : rxStep s .pass s') : RxInv start s' := by
  unfold rxStep at hstep
  cases hc : s.call with
  | none =>
    unfold RxSystem.next at hstep
    rw [hc] at hstep
    cases hstep
  | some c =>
    have hpasses := h.passes c hc
    rw [h.next_pass ha hc] at hstep
    cases hd : s.deposited[s.taken]? with
    | none =>
      rw [hd] at hstep
      obtain rfl := Option.some.inj hstep
      exact h.quiet (by simp) nofun
    | some d =>
      obtain ⟨hlt, -⟩ := List.getElem?_eq_some_iff.mp hd
      have hrecycle := h.holds.recycle (ha.of_eq h.buffers) hlt
      rw [hd] at hstep
      simp only at hstep
      split at hstep
      · next hwf =>
        -- malformed: the descriptor goes back, and nothing is returned
        obtain rfl := Option.some.inj hstep
        refine ⟨h.initialized, h.buffers, hrecycle, ?_, fun c' hc' => ?_⟩
        · rw [take_next hd, List.filter_append, List.filter_cons_of_neg (by simp [hwf]),
            List.filter_nil, List.append_nil]
          exact h.returned
        -- one pass more, one deposit less
        · cases hc'
          simp only
          omega
      · next hwf =>
        split at hstep
        · obtain rfl := Option.some.inj hstep
          exact h.quiet (by simp) nofun
        · -- returned
          obtain rfl := Option.some.inj hstep
          refine ⟨h.initialized, h.buffers, hrecycle.write32 _ _, ?_, nofun⟩
          rw [framesReturned_snoc, receiveReturn_receive, Option.toList_some, h.returned,
            take_next hd, List.filter_append, List.filter_cons_of_pos (by simpa using hwf),
            List.filter_nil, List.map_append]
          rfl

theorem rxInv_step (ha : RxBuffersAllocated start) (h : RxInv start s) (e : RxEvent)
    (hstep : rxStep s e s') : RxInv start s' := by
  cases e with
  | deposit d => exact rxInv_deposit ha h d hstep
  | receive call => exact rxInv_receive h call hstep
  | pass => exact rxInv_pass ha h hstep

theorem rxInv_run {gem : Gem} {es : List RxEvent} (ha : RxBuffersAllocated gem)
    (hfresh : RingsFresh gem) (hinit : gem.mode.state = .initialized)
    (hrun : Run rxStep (rxStart gem) es s) : RxInv gem s := by
  refine hrun.inv (fun _ e _ h hstep => rxInv_step ha h e hstep) ?_
  exact ⟨hinit, rfl, rxHolds_fresh hfresh, rfl, nofun⟩

end

/-! ## The contract -/

/-- What holds after any run from `start`, in terms of what the controller deposited and what the
calls returned. -/
structure RxContract (start : Gem) (s : RxSystem) : Prop where
  /-- At most the ring's size is pending. -/
  pending : s.taken ≤ s.deposited.length ∧ s.deposited.length ≤ s.taken + gemRxDescCount
  /-- What was returned are the well-formed frames given back, once each, whole and in order. -/
  returned : framesReturned s.results =
    ((s.deposited.take s.taken).filter RxDeposit.wellFormed).map RxDeposit.frame
  /-- While no call is in progress the next one is accepted. -/
  accepted : ∀ call bufferSize, s.call = none → call.bufferSize = some bufferSize →
    call.buffer = true → call.lockFree = true →
    s.next (.receive call) = some { s with call := some ⟨bufferSize, 0, 0⟩ }
  /-- An empty ring ends the call. -/
  empty : ∀ c, s.call = some c → s.deposited.length = s.taken →
    s.next .pass = some { s with
      call := none
      results := s.results ++ [snpReceiveReturn s.gem ⟨.notReady, c.bufferSize, none⟩] }
  /-- A malformed descriptor is given back, and the call goes on. -/
  malformed : ∀ c d, s.call = some c → s.deposited[s.taken]? = some d → d.wellFormed = false →
    ∃ gem, s.next .pass = some { s with
      gem
      taken := s.taken + 1
      call := some { c with passes := c.passes + 1 } }
  /-- A frame that does not fit stays where it is, and the call says how large it is. -/
  tooLarge : ∀ c d, s.call = some c → s.deposited[s.taken]? = some d → d.wellFormed = true →
    c.bufferSize < rxLength d.ctrl →
    s.next .pass = some { s with
      call := none
      results := s.results ++
        [snpReceiveReturn s.gem ⟨.bufferTooSmall, rxLength d.ctrl, none⟩] }
  /-- A frame that fits is returned. -/
  delivered : ∀ c d, s.call = some c → s.deposited[s.taken]? = some d → d.wellFormed = true →
    rxLength d.ctrl ≤ c.bufferSize →
    ∃ gem, s.next .pass = some { s with
      gem
      taken := s.taken + 1
      call := none
      results := s.results ++
        [snpReceiveReturn gem ⟨.success, rxLength d.ctrl, some d.frame⟩] }
  /-- Every descriptor keeps its buffer, and the WRAP bit is on the last slot only. -/
  descriptors : ∀ index < gemRxDescCount,
    (s.gem.rxRing index).rxBusAddr = start.rxBuffer index ∧
      ((s.gem.rxRing index).addr &&& gemRxDescAddrWrap ≠ 0 ↔ index = gemRxDescCount - 1)
  /-- A descriptor given back is as it was at the start. -/
  recycled : ∀ index < gemRxDescCount, RxOwned (s.gem.rxRing index) →
    s.gem.rxRing index = rxDescInit start index
  /-- A call makes at most one pass for each slot of the ring and each deposit during the call. -/
  ends : ∀ c, s.call = some c → c.passes ≤ gemRxDescCount + c.deposits

section
variable {start : Gem} {s : RxSystem}

/-- Every slot is free or filled. -/
theorem RxHolds.slot_cases {gem : Gem} {hwRx taken : Nat} {deposited : List RxDeposit}
    (h : RxHolds gem hwRx deposited taken) {index : Nat} (hi : index < gemRxDescCount) :
    gem.rxRing index = rxDescInit gem index ∨
      ∃ ctrl, gem.rxRing index = rxFilled gem index ctrl := by
  obtain ⟨k, hk, rfl⟩ := exists_slot taken hi
  rcases Nat.lt_or_ge k deposited.length with hlt | hge
  · have hd : deposited[k]? = some deposited[k] := List.getElem?_eq_getElem hlt
    exact Or.inr ⟨_, (h.filled k _ hk.1 hd).1⟩
  · exact Or.inl (h.idle k ⟨hge, hk.2⟩)

theorem rxDescInit_of_buffers {gem : Gem} (h : gem.rxBuffers = start.rxBuffers) (index : Nat) :
    rxDescInit gem index = rxDescInit start index := by
  unfold rxDescInit
  rw [h]

/-- The OWN bit is no part of the address or of WRAP. -/
theorem rxFilled_bus (gem : Gem) (index : Nat) (ctrl : UInt32) :
    (rxFilled gem index ctrl).rxBusAddr = (rxDescInit gem index).rxBusAddr ∧
      (rxFilled gem index ctrl).addr &&& gemRxDescAddrWrap =
        (rxDescInit gem index).addr &&& gemRxDescAddrWrap := by
  have hmask : gemRxDescAddrOwn &&& gemRxDescAddrMask = 0 := by decide
  have hwrap : gemRxDescAddrOwn &&& gemRxDescAddrWrap = 0 := by decide
  unfold GemDmaDesc.rxBusAddr rxFilled
  simp only
  rw [Bits.or_and_of_disjoint hmask, Bits.or_and_of_disjoint hwrap]
  exact ⟨rfl, rfl⟩

theorem RxInv.contract (ha : RxBuffersAllocated start) (h : RxInv start s) :
    RxContract start s := by
  have hpass := fun c => h.next_pass ha (c := c)
  constructor
  · exact ⟨h.holds.le, h.holds.bound⟩
  · exact h.returned
  · intro call bufferSize hidle hsize hbuffer hlock
    have hneed := needInitialized_eq_none.mpr h.initialized
    unfold RxSystem.next ReceiveCall.refused
    simp only [hsize, hbuffer, hlock, hidle, hneed, Option.isNone_none, Bool.and_self, if_true]
  · intro c hc hlen
    -- nothing pending
    have hd : s.deposited[s.taken]? = none := List.getElem?_eq_none_iff.mpr (by omega)
    rw [hpass c hc, hd]
  · intro c d hc hd hwf
    rw [hpass c hc, hd]
    exact ⟨_, if_pos hwf⟩
  · intro c d hc hd hwf hsize
    rw [hpass c hc, hd]
    simp only [hwf, Bool.true_eq_false, if_false, if_pos hsize]
  · intro c d hc hd hwf hsize
    rw [hpass c hc, hd]
    simp only [hwf, Bool.true_eq_false, if_false, if_neg (Nat.not_lt.mpr hsize)]
    exact ⟨_, rfl⟩
  · intro index hi
    have hgem := ha.of_eq h.buffers
    have hbus : (rxDescInit s.gem index).rxBusAddr = start.rxBuffer index := by
      rw [rxDescInit_of_buffers h.buffers]
      exact rxDescInit_bus ha hi
    rcases h.holds.slot_cases hi with hidle | ⟨ctrl, hfilled⟩
    · rw [hidle]
      exact ⟨hbus, rxDescInit_wrap hgem index⟩
    · obtain ⟨hfbus, hfwrap⟩ := rxFilled_bus s.gem index ctrl
      rw [hfilled, hfbus, hfwrap]
      exact ⟨hbus, rxDescInit_wrap hgem index⟩
  · intro index hi howned
    rcases h.holds.slot_cases hi with hidle | ⟨ctrl, hfilled⟩
    · rw [hidle]
      exact rxDescInit_of_buffers h.buffers index
    · rw [hfilled] at howned
      exact absurd howned (rxFilled_not_owned s.gem index ctrl)
  · intro c hc
    have hpasses := h.passes c hc
    omega

end

/-- **The RX ring keeps its contract.** After an `Initialize` that takes effect and any deposits,
calls and passes in any order, every well-formed frame is returned once, whole and in order, unless
it is still pending, malformed descriptors are given back, and no call outlasts the deposits. -/
theorem rxRing_contract {mdio : Nat → Option UInt16} {gem : Gem} {es : List RxEvent}
    {s : RxSystem} (ha : RxBuffersAllocated gem) (hstarted : gem.mode.state = .started)
    (hinit : (rp1GemSnpInitialize mdio gem).2.mode.state = .initialized)
    (hrun : Run rxStep (rxStart (rp1GemSnpInitialize mdio gem).2) es s) :
    RxContract (rp1GemSnpInitialize mdio gem).2 s := by
  have hstart : RxBuffersAllocated (rp1GemSnpInitialize mdio gem).2 :=
    ha.of_eq (initialize_rxBuffers hstarted)
  exact (rxInv_run hstart (initialize_fresh hstarted hinit) hinit hrun).contract hstart

/-- A frame of 60 bytes, as the controller deposits it. -/
def oneDeposit : RxDeposit :=
  ⟨gemRxDescCtrlSof ||| gemRxDescCtrlEof ||| 60, List.replicate gemRxBufferSize 0xAA⟩

/-- A call comes, and then its frame. -/
def oneDepositEvents : List RxEvent := [.receive ⟨some 1536, true, true⟩, .deposit oneDeposit]

theorem startedGem_allocated : RxBuffersAllocated startedGem := by
  have hbuffers : startedGem.rxBuffers = 0x20000 := by rfl
  refine ⟨?_, ?_⟩
  · rw [hbuffers]
    decide
  · rw [hbuffers]

theorem rxStep_deposit {s : RxSystem} {d : RxDeposit} (howned : RxOwned (s.gem.rxRing s.hwRx))
    (hcontent : d.content.length = gemRxBufferSize) :
    ∃ s', rxStep s (.deposit d) s' ∧ s'.deposited = s.deposited ++ [d] :=
  ⟨_, if_pos ⟨howned, hcontent⟩, rfl⟩

theorem oneDeposit_contract :
    ∃ s, Run rxStep (rxStart (rp1GemSnpInitialize answeringPhy startedGem).2) oneDepositEvents s ∧
      s.deposited = [oneDeposit] ∧
      RxContract (rp1GemSnpInitialize answeringPhy startedGem).2 s := by
  have hcontent : oneDeposit.content.length = gemRxBufferSize := by
    unfold oneDeposit
    rw [List.length_replicate]
  have hreceive : rxStep (rxStart (rp1GemSnpInitialize answeringPhy startedGem).2)
      (.receive ⟨some 1536, true, true⟩)
      { rxStart (rp1GemSnpInitialize answeringPhy startedGem).2 with call := some ⟨1536, 0, 0⟩ } :=
    rfl
  obtain ⟨s, hdeposit, hs⟩ := rxStep_deposit
    (s := { rxStart (rp1GemSnpInitialize answeringPhy startedGem).2 with
      call := some ⟨1536, 0, 0⟩ }) (by rfl) hcontent
  have hrun := Run.snoc (Run.single hreceive) hdeposit
  exact ⟨s, hrun, hs, rxRing_contract startedGem_allocated (by rfl) (by rfl) hrun⟩

/-! ## A call without deposits -/

/-- **While the controller is quiet a call ends**, within a pass for each slot and one more. -/
theorem receiveLoop_ends {gem : Gem} {hwRx taken pending : Nat} {deposited : List RxDeposit}
    (ha : RxBuffersAllocated gem) (h : RxHolds gem hwRx deposited taken)
    (hpending : deposited.length - taken ≤ pending) (bufferSize : Nat) :
    (gemReceiveLoop bufferSize (pending + 1) gem).1 ≠ none := by
  induction pending generalizing gem taken with
  | zero =>
    have hd : deposited[taken]? = none := List.getElem?_eq_none_iff.mpr (by omega)
    unfold gemReceiveLoop
    rw [h.receivePass ha, hd]
    exact Option.some_ne_none _
  | succ pending ih =>
    unfold gemReceiveLoop
    rw [h.receivePass ha]
    cases hd : deposited[taken]? with
    | none => exact Option.some_ne_none _
    | some d =>
      obtain ⟨hlt, -⟩ := List.getElem?_eq_some_iff.mp hd
      cases hwf : d.wellFormed with
      | false =>
        -- a malformed descriptor is given back, and one deposit less is pending
        have hbuffers : RxBuffersAllocated (gemRecycleRxDescriptor gem gem.rxHead.toNat) :=
          ha.of_eq rfl
        simpa [hwf] using ih hbuffers (h.recycle ha hlt) (by omega)
      | true =>
        rcases Nat.lt_or_ge bufferSize (rxLength d.ctrl) with hsmall | hfits
        · simp [hwf, hsmall]
        · simp [hwf, Nat.not_lt.mpr hfits]

/-- **The passes of `Receive` are enough**: after any deposits and calls, a call that comes while
the controller is quiet returns. -/
theorem rp1GemSnpReceive_returns {mdio : Nat → Option UInt16} {gem : Gem} {es : List RxEvent}
    {s : RxSystem} (ha : RxBuffersAllocated gem) (hstarted : gem.mode.state = .started)
    (hinit : (rp1GemSnpInitialize mdio gem).2.mode.state = .initialized)
    (hrun : Run rxStep (rxStart (rp1GemSnpInitialize mdio gem).2) es s) (call : ReceiveCall) :
    (rp1GemSnpReceive call s.gem).1 ≠ none := by
  have hstart : RxBuffersAllocated (rp1GemSnpInitialize mdio gem).2 :=
    ha.of_eq (initialize_rxBuffers hstarted)
  have hinv := rxInv_run hstart (initialize_fresh hstarted hinit) hinit hrun
  have hbound := hinv.holds.bound
  unfold rp1GemSnpReceive
  cases call.refused s.gem with
  | error status => exact Option.some_ne_none _
  | ok bufferSize =>
    have hends : (gemReceiveLoop bufferSize (gemRxDescCount + 1) s.gem).1 ≠ none :=
      receiveLoop_ends (hstart.of_eq hinv.buffers) hinv.holds (by omega) bufferSize
    simp only
    cases hloop : gemReceiveLoop bufferSize (gemRxDescCount + 1) s.gem with
    | mk received gem' =>
      rw [hloop] at hends
      cases received with
      | none => exact absurd rfl hends
      | some _ => exact Option.some_ne_none _

end Rpi5Uefi
