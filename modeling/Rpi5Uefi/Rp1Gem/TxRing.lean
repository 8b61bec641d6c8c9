import Rpi5Uefi.Lib.Ring
import Rpi5Uefi.Rp1Gem.RingState

/-!
# The TX ring of the RP1 GEM

Three parties move the ring: `Transmit` fills a descriptor and clears its USED bit, the controller
works through the descriptors in ring order and sets USED, `GetStatus` hands the caller's buffer
back. The system here is the driver's state with the controller's place in the ring; an event is a
call or a completion, in any order. The controller reads the WRAP bit of a descriptor when it
fetches it, and writes back whatever control word it likes with USED set.

* **`TxHolds`**: what the descriptors, the cursors and the buffer table say about the frames
  accepted, completed and handed back so far;
* **`txRun_refines`**: every run of the ring is a run of a `Pipe` with room for the ring's size;
* **`txRing_contract`**: what the callers and the controller may rely on, after any run.
-/

namespace Rpi5Uefi

open Bytes Ring Transition

/-! ## The system -/

/-- What happens to the TX ring. -/
inductive TxEvent where
  | transmit (mdio : Nat → Option UInt16) (call : TransmitCall)
  | complete (ctrl : UInt32)
  | getStatus (mdio : Nat → Option UInt16) (call : GetStatusCall)

/-- Everything but the completions is a call of the driver. -/
def TxEvent.byDriver : TxEvent → Bool
  | .complete _ => false
  | _ => true

/-- The driver, the controller's place in the TX ring, and what the callers saw so far: the buffers
of the `Transmit` calls that succeeded, the completions, and the buffers `GetStatus` returned. -/
structure TxSystem where
  gem : Gem
  hwTx : Nat
  trace : List (PipeEvent Nat)

/-- The controller owns a TX descriptor while its USED bit is clear. -/
def TxOwned (desc : GemDmaDesc) : Prop := desc.ctrl &&& gemTxDescCtrlUsed = 0

instance (desc : GemDmaDesc) : Decidable (TxOwned desc) := inferInstanceAs (Decidable (_ = _))

/-- One event; `none` where the controller has nothing to complete. -/
def TxSystem.next (s : TxSystem) : TxEvent → Option TxSystem
  | .transmit mdio call =>
    let (status, gem) := rp1GemSnpTransmit mdio call s.gem
    -- the buffer stays with the driver only when the call succeeded
    let seen := if status = .success then [.accept (call.buffer.getD 0)] else []
    some { s with gem, trace := s.trace ++ seen }
  | .getStatus mdio call =>
    let (result, gem) := rp1GemSnpGetStatus mdio call s.gem
    let seen := match result.txBuf with
      | some buffer => [.hand buffer]
      | none => []
    some { s with gem, trace := s.trace ++ seen }
  | .complete ctrl =>
    let desc := s.gem.txRing s.hwTx
    -- the controller writes the control word back, and looks at the WRAP bit it had fetched
    if TxOwned desc ∧ ctrl &&& gemTxDescCtrlUsed ≠ 0 then
      some {
        gem := { s.gem with txRing := Function.update s.gem.txRing s.hwTx { desc with ctrl } }
        hwTx := if desc.ctrl &&& gemTxDescCtrlWrap ≠ 0 then 0 else s.hwTx + 1
        trace := s.trace ++ [.complete] }
    else none

def txStep (s : TxSystem) (e : TxEvent) (s' : TxSystem) : Prop := s.next e = some s'

/-- The ring as it is after `Initialize`. -/
def txStart (gem : Gem) : TxSystem := ⟨gem, 0, []⟩

/-! ## What the calls do to the rings -/

/-- `GemTransmitFrame`: the ring is full, or one descriptor and its buffer are filled. -/
theorem transmitFrame_cases (gem : Gem) (userBuffer : Nat) (frame : List UInt8) :
    gemTxDescCount ≤ (gem.txProd - gem.txCons).toNat ∧
      gemTransmitFrame gem userBuffer frame = (.notReady, gem) ∨
    (gem.txProd - gem.txCons).toNat < gemTxDescCount ∧
      (gemTransmitFrame gem userBuffer frame).1 = .success ∧
      (gemTransmitFrame gem userBuffer frame).2.rings =
        let index := gem.txProd.toNat % gemTxDescCount
        { gem.rings with
          dma := gem.dma.write (gem.txBuffer index) frame
          txRing := Function.update gem.txRing index
            { gem.txRing index with ctrl := txCtrl index frame.length }
          txUserBuffer := Function.update gem.txUserBuffer index (some userBuffer)
          txProd := gem.txProd + 1 } := by
  unfold gemTransmitFrame
  split
  · next hfull => exact Or.inl ⟨hfull, rfl⟩
  · next hroom => exact Or.inr ⟨Nat.lt_of_not_le hroom, rfl, rfl⟩

/-- `GemGetRecycledTxBuffer`: nothing is completed, or one descriptor is taken back. -/
theorem recycledTx_cases (gem : Gem) :
    (gem.txCons = gem.txProd ∨ TxOwned (gem.txRing (gem.txCons.toNat % gemTxDescCount))) ∧
      gemGetRecycledTxBuffer gem = (none, gem) ∨
    gem.txCons ≠ gem.txProd ∧
      ¬TxOwned (gem.txRing (gem.txCons.toNat % gemTxDescCount)) ∧
      (gemGetRecycledTxBuffer gem).1 = gem.txUserBuffer (gem.txCons.toNat % gemTxDescCount) ∧
      (gemGetRecycledTxBuffer gem).2.rings = { gem.rings with
        txUserBuffer :=
          Function.update gem.txUserBuffer (gem.txCons.toNat % gemTxDescCount) none
        txCons := gem.txCons + 1 } := by
  unfold gemGetRecycledTxBuffer TxOwned
  split
  · next hempty => exact Or.inl ⟨Or.inl hempty, rfl⟩
  · next hsome =>
    simp only
    split
    · next howned => exact Or.inl ⟨Or.inr howned, rfl⟩
    · next hdone => exact Or.inr ⟨hsome, hdone, rfl, rfl⟩

theorem transmitLink_state (mdio : Nat → Option UInt16) (gem : Gem) :
    (transmitLink mdio gem).2.mode.state = gem.mode.state := by
  have hphy := runPhy_mode (phyWaitLink_within mdio gemLinkRetries) gem
  unfold transmitLink
  split
  · rfl
  · split
    · next hrun =>
      rw [hrun] at hphy
      have hstate := congrArg SnpMode.state hphy
      exact hstate
    · next hrun =>
      rw [hrun] at hphy
      have hstate := congrArg SnpMode.state hphy
      exact hstate

/-- The calls that reach the ring. -/
def TransmitCall.Reaches (call : TransmitCall) (mdio : Nat → Option UInt16) (gem : Gem) : Prop :=
  call.refused gem = none ∧ (transmitLink mdio gem).1 = true ∧ call.lockFree = true

/-- The tests let through what fits a frame, and no refusal reads like a full ring. -/
theorem refused_cases (call : TransmitCall) (gem : Gem) :
    call.refused gem = none ∧ call.content.length ≤ gemMaxFrameSize ∨
      ∃ status, call.refused gem = some status ∧ status ≠ .success ∧ status ≠ .notReady := by
  unfold TransmitCall.refused
  split
  · exact Or.inr ⟨_, rfl, by decide, by decide⟩
  · split
    · next hneed =>
      unfold needInitialized at hneed
      split at hneed <;> cases hneed <;> exact Or.inr ⟨_, rfl, by decide, by decide⟩
    · split
      · exact Or.inr ⟨_, rfl, by decide, by decide⟩
      · split
        · exact Or.inr ⟨_, rfl, by decide, by decide⟩
        · split
          · exact Or.inr ⟨_, rfl, by decide, by decide⟩
          · next hle => exact Or.inl ⟨rfl, Nat.le_of_not_lt hle⟩

theorem transmit_of_reaches {mdio : Nat → Option UInt16} {call : TransmitCall} {gem : Gem}
    (h : call.Reaches mdio gem) :
    rp1GemSnpTransmit mdio call gem =
      gemTransmitFrame (transmitLink mdio gem).2 (call.buffer.getD 0)
        (call.frame (transmitLink mdio gem).2) := by
  obtain ⟨hargs, hlink, hlock⟩ := h
  unfold rp1GemSnpTransmit
  rw [hargs]
  simp only [hlink, hlock]
  rfl

/-- A call that does not reach the ring leaves it alone, and with a link it is not told that the
ring is full. -/
theorem transmit_quiet {mdio : Nat → Option UInt16} {call : TransmitCall} {gem : Gem}
    (h : ¬call.Reaches mdio gem) :
    (rp1GemSnpTransmit mdio call gem).1 ≠ .success ∧
      ((transmitLink mdio gem).1 = true → (rp1GemSnpTransmit mdio call gem).1 ≠ .notReady) ∧
      (rp1GemSnpTransmit mdio call gem).2.rings = gem.rings ∧
      (rp1GemSnpTransmit mdio call gem).2.mode.state = gem.mode.state := by
  unfold TransmitCall.Reaches at h
  have hrings := transmitLink_rings mdio gem
  have hstate := transmitLink_state mdio gem
  unfold rp1GemSnpTransmit
  rcases refused_cases call gem with ⟨hargs, -⟩ | ⟨status, hargs, hsuccess, hready⟩
  · rw [hargs]
    cases hlink : (transmitLink mdio gem).1 with
    | false =>
      simp only [hlink, Bool.not_false, if_true]
      exact ⟨nofun, nofun, hrings, hstate⟩
    | true =>
      cases hlock : call.lockFree with
      | true => exact absurd ⟨hargs, hlink, hlock⟩ h
      | false =>
        simp only [hlink, Bool.not_true, Bool.false_eq_true, if_false]
        exact ⟨nofun, nofun, hrings, hstate⟩
  · rw [hargs]
    exact ⟨hsuccess, fun _ => hready, rfl, rfl⟩

/-- The frame of a call that passes the tests fits a bounce buffer. -/
theorem frame_length_le {call : TransmitCall} {gem : Gem} (gem' : Gem)
    (h : call.refused gem = none) : (call.frame gem').length ≤ gemTxBufferSize := by
  have hcontent : call.content.length ≤ gemMaxFrameSize := by
    rcases refused_cases call gem with ⟨-, hle⟩ | ⟨status, hargs, -⟩
    · exact hle
    · rw [h] at hargs
      cases hargs
  have hmax : gemMaxFrameSize = 1536 := rfl
  have hsize : gemTxBufferSize = 2048 := rfl
  have hdrop : gemEtherHeaderSize = 14 := rfl
  have hmac : gemEtherAddrLen = 6 := rfl
  unfold TransmitCall.frame
  split
  · split
    · simp only [List.length_append, List.length_take, List.length_drop, List.length_cons,
        List.length_nil]
      omega
    · omega
  · omega

/-- `GetStatus`: it does not reach the ring, or it is `GemGetRecycledTxBuffer`. -/
theorem getStatus_cases (mdio : Nat → Option UInt16) (call : GetStatusCall) (gem : Gem) :
    ¬(gem.mode.state = .initialized ∧ call.lockFree = true ∧ call.txBuf = true) ∧
      (rp1GemSnpGetStatus mdio call gem).1.txBuf = none ∧
      (rp1GemSnpGetStatus mdio call gem).2.rings = gem.rings ∧
      (rp1GemSnpGetStatus mdio call gem).2.mode.state = gem.mode.state ∨
    (gem.mode.state = .initialized ∧ call.lockFree = true ∧ call.txBuf = true) ∧
      (rp1GemSnpGetStatus mdio call gem).1.txBuf =
        (gemGetRecycledTxBuffer (refreshMedia mdio gem)).1 ∧
      (rp1GemSnpGetStatus mdio call gem).2 =
        (gemGetRecycledTxBuffer (refreshMedia mdio gem)).2 := by
  have hrings := refreshMedia_rings mdio gem
  have hstate := congrArg SnpMode.state (runPhy_mode (phyUpdateConfig_within mdio) gem)
  unfold rp1GemSnpGetStatus
  cases hneed : needInitialized gem with
  | some status =>
    -- refused before the lock: the interface is not up
    refine Or.inl ⟨fun h => ?_, rfl, rfl, rfl⟩
    rw [needInitialized_eq_none.mpr h.1] at hneed
    cases hneed
  | none =>
    have hinit := needInitialized_eq_none.mp hneed
    cases hlock : call.lockFree with
    | false => exact Or.inl ⟨fun h => absurd h.2.1 (by decide), rfl, rfl, rfl⟩
    | true =>
      cases hwanted : call.txBuf with
      | false => exact Or.inl ⟨fun h => absurd h.2.2 (by decide), rfl, hrings, hstate⟩
      | true => exact Or.inr ⟨⟨hinit, rfl, rfl⟩, rfl, rfl⟩

/-! ## The invariant -/

/-- **The rings and the frames.** The cursors count the frames accepted and handed back, the
controller is at the first frame not completed, the descriptors of exactly the frames in between are
the controller's, with WRAP on the last slot only, and the table holds the callers' buffers. -/
structure TxHolds (r : GemRings) (hwTx : Nat) (q : Pipe Nat) : Prop where
  prod : r.txProd = UInt16.ofNat q.accepted.length
  cons : r.txCons = UInt16.ofNat q.returned
  hwTx : hwTx = q.completed % gemTxDescCount
  owned : ∀ k, q.returned ≤ k ∧ k < q.returned + gemTxDescCount →
    (TxOwned (r.txRing (k % gemTxDescCount)) ↔ q.completed ≤ k ∧ k < q.accepted.length)
  wrap : ∀ k, q.completed ≤ k ∧ k < q.accepted.length →
    ((r.txRing (k % gemTxDescCount)).ctrl &&& gemTxDescCtrlWrap ≠ 0 ↔
      k % gemTxDescCount = gemTxDescCount - 1)
  user : ∀ k, q.returned ≤ k → k < q.accepted.length →
    r.txUserBuffer (k % gemTxDescCount) = q.accepted[k]?

theorem txCtrl_owned (index length : Nat) (desc : GemDmaDesc) :
    TxOwned { desc with ctrl := txCtrl index length } := by
  show txCtrl index length &&& gemTxDescCtrlUsed = 0
  have hlast : gemTxDescCtrlLastBuf &&& gemTxDescCtrlUsed = 0 := by decide
  have hwrap : (if index = gemTxDescCount - 1 then gemTxDescCtrlWrap else 0) &&&
      gemTxDescCtrlUsed = 0 := by
    split <;> decide
  have hmask : gemTxDescCtrlLengthMask &&& gemTxDescCtrlUsed = 0 := by decide
  unfold txCtrl
  rw [Bits.or_and_of_disjoint hwrap, Bits.or_and_of_disjoint hlast, UInt32.and_assoc, hmask,
    UInt32.and_zero]

theorem txCtrl_wrap (index length : Nat) :
    txCtrl index length &&& gemTxDescCtrlWrap ≠ 0 ↔ index = gemTxDescCount - 1 := by
  have hlast : gemTxDescCtrlLastBuf &&& gemTxDescCtrlWrap = 0 := by decide
  have hmask : gemTxDescCtrlLengthMask &&& gemTxDescCtrlWrap = 0 := by decide
  unfold txCtrl
  split
  · next h =>
    rw [Bits.or_and_self]
    exact ⟨fun _ => h, fun _ => by decide⟩
  · next h =>
    rw [UInt32.or_zero, Bits.or_and_of_disjoint hlast, UInt32.and_assoc, hmask, UInt32.and_zero]
    exact ⟨fun hne => absurd rfl hne, fun heq => absurd heq h⟩

section
variable {r : GemRings} {hwTx : Nat} {q : Pipe Nat}

theorem txHolds_fresh {gem : Gem} (h : RingsFresh gem) : TxHolds gem.rings 0 Pipe.empty := by
  refine ⟨h.txProd, h.txCons, rfl, fun k hk => ?_, fun k hk => absurd hk.2 (by simp [Pipe.empty]),
    fun k _ hk => absurd hk (by simp [Pipe.empty])⟩
  have hdesc := h.txRing (k % gemTxDescCount) (Nat.mod_lt k (by decide))
  have hused : ¬TxOwned (gem.txRing (k % gemTxDescCount)) := by
    rw [hdesc]
    unfold TxOwned txDescInit
    simp only
    split <;> decide
  exact ⟨fun howned => absurd howned hused, fun hlt => absurd hlt.2 (by simp [Pipe.empty])⟩

/-- The driver's producer slot is the next frame's. -/
theorem TxHolds.prod_slot (h : TxHolds r hwTx q) :
    r.txProd.toNat % gemTxDescCount = q.accepted.length % gemTxDescCount := by
  rw [h.prod]
  exact cursor_slot (by decide) _

theorem TxHolds.cons_slot (h : TxHolds r hwTx q) :
    r.txCons.toNat % gemTxDescCount = q.returned % gemTxDescCount := by
  rw [h.cons]
  exact cursor_slot (by decide) _

/-- What the driver takes for the frames in the ring are the frames in the ring. -/
theorem TxHolds.outstanding (h : TxHolds r hwTx q) (hv : q.Valid gemTxDescCount) :
    (r.txProd - r.txCons).toNat = q.outstanding := by
  have hle := Nat.le_trans hv.returned_le hv.completed_le
  have hbound := hv.bound
  have hcount : gemTxDescCount = 8 := rfl
  rw [h.prod, h.cons]
  exact cursor_sub hle (by omega)

theorem TxHolds.accept (h : TxHolds r hwTx q) (hv : q.Valid gemTxDescCount)
    (hroom : q.accepted.length < q.returned + gemTxDescCount) (dma : Mem) (buffer length : Nat) :
    TxHolds { r with
      dma
      txRing := Function.update r.txRing (r.txProd.toNat % gemTxDescCount)
        { r.txRing (r.txProd.toNat % gemTxDescCount) with
          ctrl := txCtrl (r.txProd.toNat % gemTxDescCount) length }
      txUserBuffer :=
        Function.update r.txUserBuffer (r.txProd.toNat % gemTxDescCount) (some buffer)
      txProd := r.txProd + 1 } hwTx { q with accepted := q.accepted ++ [buffer] } := by
  have hret := hv.returned_le
  have hcomp := hv.completed_le
  -- the new frame is the last position of the window, in a slot of its own
  have hnew : q.returned ≤ q.accepted.length ∧
      q.accepted.length < q.returned + gemTxDescCount := ⟨by omega, hroom⟩
  rw [h.prod_slot]
  constructor
  · show r.txProd + 1 = _
    rw [h.prod, cursor_succ, List.length_append, List.length_singleton]
  · exact h.cons
  · exact h.hwTx
  · intro k hk
    simp only [List.length_append, List.length_singleton]
    rcases Nat.lt_trichotomy k q.accepted.length with hlt | rfl | hgt
    · rw [update_of_ne _ _ hk hnew (by omega), h.owned k hk]
      omega
    · rw [Function.update_self]
      exact ⟨fun _ => by omega, fun _ => txCtrl_owned _ _ _⟩
    · rw [update_of_ne _ _ hk hnew (by omega), h.owned k hk]
      omega
  · intro k hk
    simp only [List.length_append, List.length_singleton] at hk ⊢
    rcases Nat.lt_or_ge k q.accepted.length with hlt | hge
    · rw [update_of_ne _ _ ⟨by omega, by omega⟩ hnew (by omega)]
      exact h.wrap k ⟨hk.1, hlt⟩
    · obtain rfl : k = q.accepted.length := by omega
      rw [Function.update_self]
      exact txCtrl_wrap _ _
  · intro k hlo hk
    simp only [List.length_append, List.length_singleton] at hlo hk ⊢
    rcases Nat.lt_or_ge k q.accepted.length with hlt | hge
    · rw [update_of_ne _ _ ⟨by omega, by omega⟩ hnew (by omega), h.user k hlo hlt,
        List.getElem?_append_left hlt]
    · obtain rfl : k = q.accepted.length := by omega
      rw [Function.update_self, List.getElem?_append_right (Nat.le_refl _), Nat.sub_self]
      rfl

/-- The controller finds a descriptor of its own only where a frame waits. -/
theorem TxHolds.pending (h : TxHolds r hwTx q) (hv : q.Valid gemTxDescCount)
    (howned : TxOwned (r.txRing hwTx)) : q.completed < q.accepted.length := by
  have hret := hv.returned_le
  have hcomp := hv.completed_le
  have hbound := hv.bound
  rw [h.hwTx] at howned
  rcases Nat.lt_or_ge q.completed (q.returned + gemTxDescCount) with hlt | hge
  · exact ((h.owned q.completed ⟨hret, hlt⟩).mp howned).2
  · -- the whole ring is completed, and none of it is the controller's
    have hslot : q.completed % gemTxDescCount = q.returned % gemTxDescCount := by
      have heq : q.completed = q.returned + gemTxDescCount := by omega
      rw [heq, Nat.add_mod_right]
    have hcount : gemTxDescCount = 8 := rfl
    rw [hslot] at howned
    have hfirst := (h.owned q.returned ⟨Nat.le_refl _, by omega⟩).mp howned
    omega

theorem TxHolds.complete (h : TxHolds r hwTx q) (hv : q.Valid gemTxDescCount)
    (hpending : q.completed < q.accepted.length) {ctrl : UInt32}
    (hused : ctrl &&& gemTxDescCtrlUsed ≠ 0) :
    TxHolds { r with txRing := Function.update r.txRing hwTx { r.txRing hwTx with ctrl } }
      (if (r.txRing hwTx).ctrl &&& gemTxDescCtrlWrap ≠ 0 then 0 else hwTx + 1)
      { q with completed := q.completed + 1 } := by
  have hret := hv.returned_le
  have hbound := hv.bound
  have hpos : q.returned ≤ q.completed ∧ q.completed < q.returned + gemTxDescCount :=
    ⟨hret, by omega⟩
  rw [h.hwTx]
  refine ⟨h.prod, h.cons, ?_, fun k hk => ?_, fun k hk => ?_, h.user⟩
  · have hnext := slot_succ (by decide : 1 < gemTxDescCount) q.completed
    rw [← hnext]
    exact if_congr (h.wrap q.completed ⟨Nat.le_refl _, hpending⟩) rfl rfl
  · simp only
    rcases Nat.lt_trichotomy k q.completed with hlt | rfl | hgt
    · rw [update_of_ne _ _ hk hpos (by omega), h.owned k hk]
      omega
    · rw [Function.update_self]
      exact ⟨fun howned => absurd howned hused, fun hle => by omega⟩
    · rw [update_of_ne _ _ hk hpos (by omega), h.owned k hk]
      omega
  · simp only at hk ⊢
    rw [update_of_ne _ _ ⟨by omega, by omega⟩ hpos (by omega)]
    exact h.wrap k ⟨by omega, hk.2⟩

theorem TxHolds.hand (h : TxHolds r hwTx q) (hv : q.Valid gemTxDescCount)
    (hdone : q.returned < q.completed) :
    TxHolds { r with
      txUserBuffer := Function.update r.txUserBuffer (r.txCons.toNat % gemTxDescCount) none
      txCons := r.txCons + 1 } hwTx { q with returned := q.returned + 1 } := by
  have hcomp := hv.completed_le
  have hbound := hv.bound
  have hcount : gemTxDescCount = 8 := rfl
  rw [h.cons_slot]
  refine ⟨h.prod, ?_, h.hwTx, fun k hk => ?_, h.wrap, fun k hlo hk => ?_⟩
  · show r.txCons + 1 = _
    rw [h.cons, cursor_succ]
  · simp only at hk ⊢
    rcases Nat.lt_or_ge k (q.returned + gemTxDescCount) with hlt | hge
    · exact h.owned k ⟨by omega, hlt⟩
    · -- the window's new position takes over the slot that was handed back
      obtain rfl : k = q.returned + gemTxDescCount := by omega
      rw [Nat.add_mod_right, h.owned q.returned ⟨Nat.le_refl _, by omega⟩]
      omega
  · simp only at hlo hk ⊢
    rw [update_of_ne _ _ ⟨by omega, by omega⟩ (⟨Nat.le_refl _, by omega⟩ :
      q.returned ≤ q.returned ∧ q.returned < q.returned + gemTxDescCount) (by omega)]
    exact h.user k (by omega) hk

end

/-! ## Runs -/

/-- The pipe a system has come to. -/
structure TxRefines (s : TxSystem) (q : Pipe Nat) : Prop where
  initialized : s.gem.mode.state = .initialized
  run : Run (Pipe.Step gemTxDescCount) Pipe.empty s.trace q
  holds : TxHolds s.gem.rings s.hwTx q

section
variable {s s' : TxSystem} {q : Pipe Nat}

theorem TxRefines.valid (h : TxRefines s q) : q.Valid gemTxDescCount :=
  (Pipe.run_history h.run).1

/-- A call that changes neither the rings nor the trace. -/
theorem TxRefines.quiet (h : TxRefines s q) {gem : Gem} (hrings : gem.rings = s.gem.rings)
    (hstate : gem.mode.state = s.gem.mode.state) : TxRefines { s with gem } q :=
  ⟨hstate.trans h.initialized, h.run, hrings ▸ h.holds⟩

theorem txRefines_transmit (h : TxRefines s q) (mdio : Nat → Option UInt16) (call : TransmitCall)
    (hstep : txStep s (.transmit mdio call) s') : ∃ q', TxRefines s' q' := by
  unfold txStep TxSystem.next at hstep
  simp only [Option.some.injEq] at hstep
  by_cases hreach : call.Reaches mdio s.gem
  · have hrings := transmitLink_rings mdio s.gem
    have hstate := transmitLink_state mdio s.gem
    rw [transmit_of_reaches hreach] at hstep
    generalize (transmitLink mdio s.gem).2 = linked at hstep hrings hstate
    -- waiting for the link does not touch the rings, so the invariant is that of the linked state
    have hholds : TxHolds linked.rings s.hwTx q := hrings ▸ h.holds
    have hout : (linked.txProd - linked.txCons).toNat = q.outstanding :=
      hholds.outstanding h.valid
    have hkeep := transmitFrame_mode linked (call.buffer.getD 0) (call.frame linked)
    rcases transmitFrame_cases linked (call.buffer.getD 0) (call.frame linked) with
      ⟨-, hfull⟩ | ⟨hroom, hstatus, hnew⟩
    · -- the ring is full
      rw [hfull, if_neg nofun, List.append_nil] at hstep
      rw [← hstep]
      exact ⟨q, h.quiet hrings hstate⟩
    · rw [hstatus, if_pos rfl] at hstep
      have hlt : q.accepted.length < q.returned + gemTxDescCount := by
        rw [hout] at hroom
        unfold Pipe.outstanding at hroom
        omega
      rw [← hstep]
      refine ⟨_, ?_, .snoc h.run (.accept _ hlt), ?_⟩
      -- the frame is the pipe's next item
      · show (gemTransmitFrame _ _ _).2.mode.state = _
        rw [hkeep, hstate]
        exact h.initialized
      · show TxHolds (gemTransmitFrame _ _ _).2.rings _ _
        rw [hnew]
        exact hholds.accept h.valid hlt _ _ _
  · obtain ⟨hstatus, -, hrings, hstate⟩ := transmit_quiet hreach
    rw [if_neg hstatus, List.append_nil] at hstep
    rw [← hstep]
    exact ⟨q, h.quiet hrings hstate⟩

/-- What `GetStatus` would hand back: the next frame, once it is completed. -/
theorem TxRefines.recycled (h : TxRefines s q) {gem : Gem} (hrings : gem.rings = s.gem.rings) :
    q.returned = q.completed ∧ gemGetRecycledTxBuffer gem = (none, gem) ∨
    q.returned < q.completed ∧ ∃ buffer, q.accepted[q.returned]? = some buffer ∧
      (gemGetRecycledTxBuffer gem).1 = some buffer ∧
      TxHolds (gemGetRecycledTxBuffer gem).2.rings s.hwTx
        { q with returned := q.returned + 1 } := by
  have hv := h.valid
  have hret := hv.returned_le
  have hcomp := hv.completed_le
  have hbound := hv.bound
  have hcount : gemTxDescCount = 8 := rfl
  have hholds : TxHolds gem.rings s.hwTx q := hrings ▸ h.holds
  -- the driver's two tests, cursors equal and USED clear, in terms of the pipe
  have hslot : gem.txCons.toNat % gemTxDescCount = q.returned % gemTxDescCount := hholds.cons_slot
  have hempty : gem.txCons = gem.txProd ↔ q.returned = q.accepted.length := by
    rw [show gem.txCons = _ from hholds.cons, show gem.txProd = _ from hholds.prod]
    exact cursor_eq_iff (by omega) (by omega)
  have howned : TxOwned (gem.txRing (gem.txCons.toNat % gemTxDescCount)) ↔
      q.completed ≤ q.returned ∧ q.returned < q.accepted.length := by
    rw [hslot]
    exact hholds.owned q.returned ⟨Nat.le_refl _, by omega⟩
  rcases recycledTx_cases gem with ⟨hwhy, hnone⟩ | ⟨hne, hdone, hbuffer, hnew⟩
  -- one of the tests held, and either way nothing is completed
  · rw [hempty, howned] at hwhy
    exact Or.inl ⟨by omega, hnone⟩
  · rw [Ne, hempty] at hne
    rw [howned] at hdone
    have hlt : q.returned < q.completed := by omega
    have hitem : q.accepted[q.returned]? = some q.accepted[q.returned] :=
      List.getElem?_eq_getElem (by omega)
    refine Or.inr ⟨hlt, q.accepted[q.returned], hitem, ?_, ?_⟩
    · rw [hbuffer, hslot, ← hitem]
      exact hholds.user q.returned (Nat.le_refl _) (by omega)
    · rw [hnew]
      exact hholds.hand hv hlt

theorem txRefines_getStatus (h : TxRefines s q) (mdio : Nat → Option UInt16) (call : GetStatusCall)
    (hstep : txStep s (.getStatus mdio call) s') : ∃ q', TxRefines s' q' := by
  unfold txStep TxSystem.next at hstep
  simp only [Option.some.injEq] at hstep
  have hstate := congrArg SnpMode.state (runPhy_mode (phyUpdateConfig_within mdio) s.gem)
  rcases getStatus_cases mdio call s.gem with ⟨-, hnone, hrings, hquiet⟩ | ⟨-, hbuffer, hgem⟩
  · rw [hnone, List.append_nil] at hstep
    rw [← hstep]
    exact ⟨q, h.quiet hrings hquiet⟩
  · have hkeep := congrArg SnpMode.state (recycledTx_mode (refreshMedia mdio s.gem))
    rw [hbuffer, hgem] at hstep
    rcases h.recycled (refreshMedia_rings mdio s.gem) with
      ⟨-, hnone⟩ | ⟨hlt, buffer, hitem, hsome, hholds⟩
    · rw [hnone, List.append_nil] at hstep
      rw [← hstep]
      exact ⟨q, h.quiet (refreshMedia_rings mdio s.gem) hstate⟩
    · rw [hsome] at hstep
      rw [← hstep]
      exact ⟨_, (hkeep.trans hstate).trans h.initialized,
        .snoc h.run (.hand buffer hlt hitem), hholds⟩

theorem txRefines_complete (h : TxRefines s q) (ctrl : UInt32)
    (hstep : txStep s (.complete ctrl) s') : ∃ q', TxRefines s' q' := by
  unfold txStep TxSystem.next at hstep
  simp only at hstep
  split at hstep
  · next hguard =>
    have hpending := h.holds.pending h.valid hguard.1
    obtain rfl := Option.some.inj hstep
    exact ⟨_, h.initialized, .snoc h.run (.complete hpending),
      h.holds.complete h.valid hpending hguard.2⟩
  · cases hstep

/-- **Each event is a step of the pipe, or none.** -/
theorem txRefines_step (h : ∃ q, TxRefines s q) (e : TxEvent) (hstep : txStep s e s') :
    ∃ q, TxRefines s' q := by
  obtain ⟨q, h⟩ := h
  cases e with
  | transmit mdio call => exact txRefines_transmit h mdio call hstep
  | complete ctrl => exact txRefines_complete h ctrl hstep
  | getStatus mdio call => exact txRefines_getStatus h mdio call hstep

/-- **Every run of the ring is a run of a pipe.** -/
theorem txRun_refines {gem : Gem} {es : List TxEvent} (hfresh : RingsFresh gem)
    (hinit : gem.mode.state = .initialized) (hrun : Run txStep (txStart gem) es s) :
    ∃ q, TxRefines s q := by
  -- the invariant carries the pipe's own run along with the ring's
  refine hrun.inv (I := fun s => ∃ q, TxRefines s q) (fun _ e _ h hstep => ?_) ?_
  · exact txRefines_step h e hstep
  · exact ⟨Pipe.empty, hinit, .nil, txHolds_fresh hfresh⟩

end

/-! ## The contract -/

/-- The descriptor of a slot, and the content of its bounce buffer. -/
def Gem.txSlot (gem : Gem) (index : Nat) : GemDmaDesc × List UInt8 :=
  (gem.txRing index, gem.dma.slice (gem.txBuffer index) gemTxBufferSize)

open Pipe in
/-- What holds after any run, in terms of what the callers and the controller did. -/
structure TxContract (s : TxSystem) : Prop where
  /-- At most the ring's size is outstanding, and the cursors say how much. -/
  outstanding : (hands s.trace).length ≤ (accepts s.trace).length ∧
    (accepts s.trace).length ≤ (hands s.trace).length + gemTxDescCount ∧
    (s.gem.txProd - s.gem.txCons).toNat = (accepts s.trace).length - (hands s.trace).length
  /-- The buffers come back in the order of the calls, each of them once. -/
  order : hands s.trace = (accepts s.trace).take (hands s.trace).length
  /-- No buffer comes back before its descriptor is completed. -/
  completed : (hands s.trace).length ≤ completions s.trace ∧
    completions s.trace ≤ (accepts s.trace).length
  /-- The controller owns the descriptors of the frames it has not completed. -/
  owned : ∀ index < gemTxDescCount, TxOwned (s.gem.txRing index) ↔
    ∃ k, completions s.trace ≤ k ∧ k < (accepts s.trace).length ∧ k % gemTxDescCount = index
  /-- With a link, `Transmit` says that it is not ready exactly when the ring is full. -/
  transmit : ∀ mdio call, (transmitLink mdio s.gem).1 = true →
    ((rp1GemSnpTransmit mdio call s.gem).1 = .notReady ↔
      call.Reaches mdio s.gem ∧
        (accepts s.trace).length = (hands s.trace).length + gemTxDescCount) ∧
    ((rp1GemSnpTransmit mdio call s.gem).1 = .success ↔
      call.Reaches mdio s.gem ∧
        (accepts s.trace).length ≠ (hands s.trace).length + gemTxDescCount)
  /-- `GetStatus` hands the next buffer back as soon as its descriptor is completed. -/
  getStatus : ∀ mdio call, call.txBuf = true → call.lockFree = true →
    (rp1GemSnpGetStatus mdio call s.gem).1.txBuf =
      if (hands s.trace).length < completions s.trace
      then (accepts s.trace)[(hands s.trace).length]? else none
  /-- The driver writes neither a descriptor nor a bounce buffer of the controller's. -/
  untouched : ∀ e s', e.byDriver = true → txStep s e s' → ∀ index < gemTxDescCount,
    TxOwned (s.gem.txRing index) → s'.gem.txSlot index = s.gem.txSlot index

section
variable {s s' : TxSystem} {q : Pipe Nat}

theorem TxRefines.owner (h : TxRefines s q) {index : Nat} (hi : index < gemTxDescCount) :
    TxOwned (s.gem.txRing index) ↔
      ∃ k, q.completed ≤ k ∧ k < q.accepted.length ∧ k % gemTxDescCount = index := by
  have hv := h.valid
  have hret := hv.returned_le
  have hbound := hv.bound
  constructor
  · intro howned
    -- every slot is that of one position of the window
    obtain ⟨k, hk, rfl⟩ := exists_slot q.returned hi
    obtain ⟨hlo, hhi⟩ := (h.holds.owned k hk).mp howned
    exact ⟨k, hlo, hhi, rfl⟩
  · rintro ⟨k, hlo, hhi, rfl⟩
    exact (h.holds.owned k ⟨by omega, by omega⟩).mpr ⟨hlo, hhi⟩

theorem TxRefines.transmit (h : TxRefines s q) (mdio : Nat → Option UInt16) (call : TransmitCall)
    (hlink : (transmitLink mdio s.gem).1 = true) :
    ((rp1GemSnpTransmit mdio call s.gem).1 = .notReady ↔
      call.Reaches mdio s.gem ∧ q.accepted.length = q.returned + gemTxDescCount) ∧
    ((rp1GemSnpTransmit mdio call s.gem).1 = .success ↔
      call.Reaches mdio s.gem ∧ q.accepted.length ≠ q.returned + gemTxDescCount) := by
  have hbound := h.valid.bound
  by_cases hreach : call.Reaches mdio s.gem
  · have hrings := transmitLink_rings mdio s.gem
    rw [transmit_of_reaches hreach]
    generalize (transmitLink mdio s.gem).2 = linked at hrings
    have hholds : TxHolds linked.rings s.hwTx q := hrings ▸ h.holds
    have hout : (linked.txProd - linked.txCons).toNat = q.accepted.length - q.returned :=
      hholds.outstanding h.valid
    rcases transmitFrame_cases linked (call.buffer.getD 0) (call.frame linked) with
      ⟨hge, hfull⟩ | ⟨hroom, hstatus, -⟩
    · rw [hout] at hge
      rw [hfull]
      have heq : q.accepted.length = q.returned + gemTxDescCount := by
        have hcount : gemTxDescCount = 8 := rfl
        omega
      -- refused, and the window is as long as the ring
      exact ⟨⟨fun _ => ⟨hreach, heq⟩, fun _ => rfl⟩, ⟨nofun, fun hne => absurd heq hne.2⟩⟩
    · rw [hout] at hroom
      rw [hstatus]
      have hne : q.accepted.length ≠ q.returned + gemTxDescCount := by omega
      exact ⟨⟨nofun, fun heq => absurd heq.2 hne⟩, ⟨fun _ => ⟨hreach, hne⟩, fun _ => rfl⟩⟩
  · obtain ⟨hstatus, hready, -, -⟩ := transmit_quiet hreach
    exact ⟨⟨fun heq => absurd heq (hready hlink), fun hr => absurd hr.1 hreach⟩,
      ⟨fun heq => absurd heq hstatus, fun hr => absurd hr.1 hreach⟩⟩

theorem TxRefines.getStatus (h : TxRefines s q) (mdio : Nat → Option UInt16)
    {call : GetStatusCall} (hwanted : call.txBuf = true) (hlock : call.lockFree = true) :
    (rp1GemSnpGetStatus mdio call s.gem).1.txBuf =
      if q.returned < q.completed then q.accepted[q.returned]? else none := by
  rcases getStatus_cases mdio call s.gem with ⟨hnot, -⟩ | ⟨-, hbuffer, -⟩
  · exact absurd ⟨h.initialized, hlock, hwanted⟩ hnot
  · rw [hbuffer]
    rcases h.recycled (refreshMedia_rings mdio s.gem) with
      ⟨heq, hnone⟩ | ⟨hlt, buffer, hitem, hsome, -⟩
    · rw [hnone, if_neg (by omega)]
    · rw [hsome, if_pos hlt, hitem]

theorem txSlot_rings (gem : Gem) (index : Nat) :
    gem.txSlot index = (gem.rings.txRing index,
      gem.rings.dma.slice (gem.rings.txBuffers + index * gemTxBufferSize) gemTxBufferSize) := rfl

theorem txSlot_of_rings {gem gem' : Gem} (h : gem'.rings = gem.rings) (index : Nat) :
    gem'.txSlot index = gem.txSlot index := by
  rw [txSlot_rings, h, txSlot_rings]

/-- Taking a buffer back changes the table and the cursor only. -/
theorem recycledTx_slot (gem : Gem) (index : Nat) :
    (gemGetRecycledTxBuffer gem).2.txSlot index = gem.txSlot index := by
  rcases recycledTx_cases gem with ⟨-, hnone⟩ | ⟨-, -, -, hnew⟩
  · rw [hnone]
  · rw [txSlot_rings, hnew, txSlot_rings]

/-- A frame goes to its own slot. -/
theorem transmitFrame_slot {gem : Gem} {index : Nat} (buffer : Nat) {frame : List UInt8}
    (hframe : frame.length ≤ gemTxBufferSize) (hne : index ≠ gem.txProd.toNat % gemTxDescCount) :
    (gemTransmitFrame gem buffer frame).2.txSlot index = gem.txSlot index := by
  rcases transmitFrame_cases gem buffer frame with ⟨-, hfull⟩ | ⟨-, -, hnew⟩
  · rw [hfull]
  · rw [txSlot_rings, hnew, txSlot_rings, Prod.mk.injEq]
    refine ⟨Function.update_of_ne hne _ _, Mem.slice_congr fun i hlo hhi => ?_⟩
    -- the bounce buffers lie side by side, and the frame does not leave its own
    refine Mem.write_of_outside _ ?_
    have hbuf : gem.rings.txBuffers = gem.txBuffers := rfl
    unfold Gem.txBuffer
    simp only [gemTxBufferSize] at hframe hlo hhi ⊢
    omega

/-- **What is the controller's stays as it is.** -/
theorem TxRefines.untouched (h : TxRefines s q) {e : TxEvent} (he : e.byDriver = true)
    (hstep : txStep s e s') {index : Nat} (hi : index < gemTxDescCount)
    (howned : TxOwned (s.gem.txRing index)) : s'.gem.txSlot index = s.gem.txSlot index := by
  cases e with
  | complete ctrl => cases he
  | getStatus mdio call =>
    unfold txStep TxSystem.next at hstep
    obtain rfl := Option.some.inj hstep
    rcases getStatus_cases mdio call s.gem with ⟨-, -, hrings, -⟩ | ⟨-, -, hgem⟩
    · exact txSlot_of_rings hrings index
    · show (rp1GemSnpGetStatus mdio call s.gem).2.txSlot index = _
      rw [hgem, recycledTx_slot]
      exact txSlot_of_rings (refreshMedia_rings mdio s.gem) index
  | transmit mdio call =>
    unfold txStep TxSystem.next at hstep
    obtain rfl := Option.some.inj hstep
    show (rp1GemSnpTransmit mdio call s.gem).2.txSlot index = _
    by_cases hreach : call.Reaches mdio s.gem
    · have hrings := transmitLink_rings mdio s.gem
      have hframe := frame_length_le (transmitLink mdio s.gem).2 hreach.1
      rw [transmit_of_reaches hreach, ← txSlot_of_rings hrings index]
      generalize (transmitLink mdio s.gem).2 = linked at hrings hframe
      have hholds : TxHolds linked.rings s.hwTx q := hrings ▸ h.holds
      have hout : (linked.txProd - linked.txCons).toNat = q.accepted.length - q.returned :=
        hholds.outstanding h.valid
      have hslot : linked.txProd.toNat % gemTxDescCount = q.accepted.length % gemTxDescCount :=
        hholds.prod_slot
      obtain ⟨k, hlo, hhi, rfl⟩ := (h.owner hi).mp howned
      have hret := h.valid.returned_le
      rcases transmitFrame_cases linked (call.buffer.getD 0) (call.frame linked) with
        ⟨-, hfull⟩ | ⟨hroom, -, -⟩
      · rw [hfull]
      · refine transmitFrame_slot _ hframe ?_
        rw [hout] at hroom
        rw [hslot]
        -- the frame's position and the producer's are two of one window
        exact slot_ne_of_lt (by omega : q.returned ≤ k) hhi (by omega)
    · exact txSlot_of_rings (transmit_quiet hreach).2.2.1 index

end

/-- **The TX ring keeps its contract.** After an `Initialize` that takes effect and any calls and
completions in any order, at most the ring's size is outstanding, the buffers come back once each,
in order and completed, `Transmit` refuses exactly when the ring is full, and what the controller
owns is not written. -/
theorem txRing_contract {mdio : Nat → Option UInt16} {gem : Gem} {es : List TxEvent}
    {s : TxSystem} (hstarted : gem.mode.state = .started)
    (hinit : (rp1GemSnpInitialize mdio gem).2.mode.state = .initialized)
    (hrun : Run txStep (txStart (rp1GemSnpInitialize mdio gem).2) es s) : TxContract s := by
  obtain ⟨q, h⟩ := txRun_refines (initialize_fresh hstarted hinit) hinit hrun
  obtain ⟨hv, haccepts, hcompletions, hhands⟩ := Pipe.run_history h.run
  have hle := Nat.le_trans hv.returned_le hv.completed_le
  have hlength : (Pipe.hands s.trace).length = q.returned := by
    rw [hhands, List.length_take]
    omega
  constructor
  · rw [haccepts, hlength]
    exact ⟨hle, hv.bound, h.holds.outstanding hv⟩
  · rw [hlength, haccepts]
    exact hhands
  · rw [hlength, hcompletions, haccepts]
    exact ⟨hv.returned_le, hv.completed_le⟩
  · intro index hi
    rw [hcompletions, haccepts]
    exact h.owner hi
  · intro mdio call hlink
    rw [haccepts, hlength]
    exact h.transmit mdio call hlink
  · intro mdio call hwanted hlock
    rw [haccepts, hlength, hcompletions]
    exact h.getStatus mdio hwanted hlock
  · intro e s' he hstep index hi howned
    exact h.untouched he hstep hi howned

/-- A frame of 60 bytes with its header. -/
def oneFrame : TransmitCall := ⟨0, some 0x5000, List.replicate 60 0, none, none, none, true⟩

/-- The events of one frame, sent, completed and recycled. -/
def oneFrameEvents : List TxEvent :=
  [.transmit answeringPhy oneFrame, .complete gemTxDescCtrlUsed,
    .getStatus answeringPhy ⟨false, true, true⟩]

theorem oneFrame_contract :
    ∃ s, Run txStep (txStart (rp1GemSnpInitialize answeringPhy startedGem).2) oneFrameEvents s ∧
      s.trace = [.accept 0x5000, .complete, .hand 0x5000] ∧ TxContract s := by
  have htrace : (oneFrameEvents.foldlM TxSystem.next
      (txStart (rp1GemSnpInitialize answeringPhy startedGem).2)).map TxSystem.trace =
        some [.accept 0x5000, .complete, .hand 0x5000] := by
    rfl
  obtain ⟨s, hs, htrace⟩ := Option.map_eq_some_iff.mp htrace
  have hrun := run_iff_foldlM.mpr hs
  exact ⟨s, hrun, htrace, txRing_contract (by rfl) (by rfl) hrun⟩

end Rpi5Uefi
