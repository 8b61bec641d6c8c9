import Mathlib.Algebra.Group.Nat.Defs
import Mathlib.Data.List.Basic
import Mathlib.Logic.Function.Iterate
import Mathlib.Logic.Relation
import Rpi5Uefi.Efi.Status

/-!
# Reading the boot flash over SPI (`Bcm2712SpiFlash.c`)

`SpiXfer` clocks out a command and then zeros, and keeps the bytes that come back after the
command. The controller is the environment: when it clocks the next byte, what its status register
reads, and what the flash answers are arbitrary.

* **`spiXfer_ends`**: the status readings of a call are bounded, whatever they are.
* **`PumpKeeps`**: what the two counters of the loop mean for the FIFOs.
* **`spiXfer_transfers`**: what a successful call has written, read and stored.
-/

namespace Rpi5Uefi

/-! ## The controller -/

def spiCsClearTx : UInt32 := 0x10
def spiCsClearRx : UInt32 := 0x20
def spiCsTa : UInt32 := 0x80
def spiCsDone : UInt32 := 0x10000
def spiCsRxd : UInt32 := 0x20000
def spiCsTxd : UInt32 := 0x40000

def spiStallLimit : Nat := 10000000

/-- What the hardware does: how many bytes are clocked in front of a status reading, what the
reading is, the byte that comes in while the last of the transmitted bytes goes out, and what an
empty FIFO reads as. -/
structure SpiController where
  clocks : Nat → Nat
  status : Nat → UInt32
  reply : List UInt8 → UInt8
  empty : UInt8

/-- The arguments of `SpiXfer`: `rx` is `none` for `NULL`, and the buffers fit the address space. -/
structure SpiTransfer where
  tx : List UInt8
  rx : Option (Nat → UInt8)
  rxLen : Nat
  fits : tx.length + rxLen < 2 ^ 64

/-- The locals of `SpiXfer` and the buffer `Rx`, the last value written to the control register, and
what went through the FIFOs since they were cleared: the bytes written, how many of them are clocked
out, and the bytes read. -/
structure SpiState where
  sent : Nat
  received : Nat
  stall : Nat
  rx : Option (Nat → UInt8)
  control : UInt32
  readings : Nat
  written : List UInt8
  clocked : Nat
  read : List UInt8

variable (t : SpiTransfer) (c : SpiController)

/-- `Total`. -/
def SpiTransfer.total : Nat := (t.tx.length + t.rxLen) % 2 ^ 64

/-- The bytes to transmit: `Tx[Sent]`, and zero from `TxLen` on. -/
def SpiTransfer.txByte (i : Nat) : UInt8 := if i < t.tx.length then t.tx.getD i 0 else 0

namespace SpiState

variable (s : SpiState)

/-- The bytes the controller clocks before a reading; it has no more than were written. -/
def clock : SpiState :=
  { s with clocked := min s.written.length (s.clocked + c.clocks s.readings) }

/-- `MmioRead32` of the control register. -/
def readStatus : UInt32 × SpiState :=
  (c.status s.readings, { s.clock c with readings := s.readings + 1 })

/-- `MmioWrite32` of the FIFO. -/
def writeFifo (b : UInt8) : SpiState := { s with written := s.written ++ [b] }

/-- `MmioRead32` of the FIFO: the oldest byte that was clocked in and not read. -/
def readFifo : UInt8 × SpiState :=
  let b :=
    if s.read.length < s.clocked then c.reply (s.written.take (s.read.length + 1)) else c.empty
  (b, { s with read := s.read ++ [b] })

/-- `Rx[Received - TxLen] = Byte`, for a byte of the answer and a buffer. -/
def store (b : UInt8) : Option (Nat → UInt8) :=
  if s.received ≥ t.tx.length then
    s.rx.map fun rx i => if i = s.received - t.tx.length then b else rx i
  else s.rx

/-- The half of the loop's body for `SPI_CS_TXD`. -/
def transmit (status : UInt32) : SpiState :=
  if status &&& spiCsTxd ≠ 0 ∧ s.sent < t.total then
    { s.writeFifo (t.txByte s.sent) with sent := s.sent + 1 }
  else s

/-- The half of the loop's body for `SPI_CS_RXD`, up to the test of `Stall`. -/
def receive (status : UInt32) : SpiState :=
  if status &&& spiCsRxd ≠ 0 then
    let (byte, s) := s.readFifo c
    { s with rx := s.store t byte, received := s.received + 1, stall := 0 }
  else { s with stall := s.stall + 1 }

end SpiState

/-! ## `SpiXfer` -/

/-- The body of the loop, up to the test of `Stall`. -/
def spiPoll (s : SpiState) : SpiState :=
  let (status, s) := s.readStatus c
  (s.transmit t status).receive t c status

namespace SpiState

variable (s : SpiState) (status : UInt32)

@[simp] theorem transmit_received : (s.transmit t status).received = s.received := by
  unfold transmit
  split <;> rfl

@[simp] theorem transmit_stall : (s.transmit t status).stall = s.stall := by
  unfold transmit
  split <;> rfl

@[simp] theorem transmit_readings : (s.transmit t status).readings = s.readings := by
  unfold transmit
  split <;> rfl

@[simp] theorem transmit_clocked : (s.transmit t status).clocked = s.clocked := by
  unfold transmit
  split <;> rfl

@[simp] theorem receive_readings : (s.receive t c status).readings = s.readings := by
  unfold receive
  split <;> rfl

end SpiState

/-- One turn of the loop reads a byte and resets `Stall`, or counts it. -/
theorem spiPoll_counters (s : SpiState) :
    (spiPoll t c s).received = s.received + 1 ∧ (spiPoll t c s).stall = 0 ∨
      (spiPoll t c s).received = s.received ∧ (spiPoll t c s).stall = s.stall + 1 := by
  unfold spiPoll SpiState.receive
  simp only
  split
  · exact Or.inl ⟨by simp [SpiState.readFifo, SpiState.readStatus, SpiState.clock], rfl⟩
  · exact Or.inr ⟨by simp [SpiState.readStatus, SpiState.clock],
      by simp [SpiState.readStatus, SpiState.clock]⟩

@[simp] theorem spiPoll_readings (s : SpiState) : (spiPoll t c s).readings = s.readings + 1 := by
  simp [spiPoll, SpiState.readStatus]

/-- The loop. -/
def spiLoop (s : SpiState) : EfiStatus × SpiState :=
  if s.received < t.total then
    if (spiPoll t c s).stall > spiStallLimit then
      (.timeout, { spiPoll t c s with control := spiCsClearRx ||| spiCsClearTx })
    else spiLoop (spiPoll t c s)
  else (.success, s)
termination_by (t.total - s.received, spiStallLimit + 1 - s.stall)
decreasing_by
  rcases spiPoll_counters t c s with ⟨hreceived, -⟩ | ⟨hreceived, hstall⟩
  · exact Prod.Lex.left _ _ (by omega)
  · rw [hreceived, hstall]
    exact Prod.Lex.right _ (by omega)

/-- The wait for `SPI_CS_DONE`. -/
def spiWaitDone (s : SpiState) (stall : Nat) : SpiState :=
  let (status, s) := s.readStatus c
  if status &&& spiCsDone = 0 then
    if stall + 1 > spiStallLimit then s else spiWaitDone s (stall + 1)
  else s
termination_by spiStallLimit - stall

/-- The state once the FIFOs are cleared and the transfer is active. -/
def spiStart : SpiState where
  sent := 0
  received := 0
  stall := 0
  rx := t.rx
  control := spiCsTa ||| spiCsClearRx ||| spiCsClearTx
  readings := 0
  written := []
  clocked := 0
  read := []

/-- `SpiXfer`. -/
def spiXfer : EfiStatus × SpiState :=
  let (status, s) := spiLoop t c (spiStart t)
  if status.isError then (status, s)
  else (.success, { spiWaitDone c s 0 with control := spiCsClearRx ||| spiCsClearTx })

variable {t : SpiTransfer} {c : SpiController} {s s' : SpiState}

/-! ## The loop -/

theorem SpiTransfer.total_eq (t : SpiTransfer) : t.total = t.tx.length + t.rxLen :=
  Nat.mod_eq_of_lt t.fits

/-- One turn of the loop that does not end it. -/
def SpiTurn (t : SpiTransfer) (c : SpiController) (s s' : SpiState) : Prop :=
  s.received < t.total ∧ s' = spiPoll t c s ∧ s'.stall ≤ spiStallLimit

/-- The states at the head of the loop. -/
def SpiReached (t : SpiTransfer) (c : SpiController) (s : SpiState) : Prop :=
  Relation.ReflTransGen (SpiTurn t c) (spiStart t) s

/-- **The loop** ends after turns, where all bytes are received or a turn goes over the limit. -/
theorem spiLoop_cases (hs : SpiReached t c s) :
    ∃ s', SpiReached t c s' ∧
      ((¬s'.received < t.total ∧ spiLoop t c s = (.success, s')) ∨
        s'.received < t.total ∧ (spiPoll t c s').stall > spiStallLimit ∧ spiLoop t c s =
          (.timeout, { spiPoll t c s' with control := spiCsClearRx ||| spiCsClearTx })) := by
  fun_induction spiLoop t c s with
  | case1 s hlt hstall => exact ⟨s, hs, Or.inr ⟨hlt, hstall, rfl⟩⟩
  | case2 s hlt hstall ih => exact ih (hs.tail ⟨hlt, rfl, Nat.le_of_not_lt hstall⟩)
  | case3 s hdone => exact ⟨s, hs, Or.inl ⟨hdone, rfl⟩⟩

/-! ## Termination -/

/-- Each byte takes at most one reading more than the limit. -/
theorem readings_le (hs : SpiReached t c s) :
    s.readings ≤ s.received * (spiStallLimit + 1) + s.stall ∧ s.stall ≤ spiStallLimit ∧
      (s.received ≤ t.total ∧ (s.received = t.total → s.stall = 0)) := by
  induction hs with
  | refl => exact ⟨Nat.zero_le _, Nat.zero_le _, Nat.zero_le _, fun _ => rfl⟩
  | @tail m s' _ hturn ih =>
    obtain ⟨hlt, rfl, hstall⟩ := hturn
    obtain ⟨hreadings, hm, -, -⟩ := ih
    rw [spiPoll_readings]
    rcases spiPoll_counters t c m with ⟨hreceived, hzero⟩ | ⟨hreceived, hcount⟩
    · rw [hreceived, hzero, Nat.succ_mul]
      exact ⟨by omega, Nat.zero_le _, by omega, fun _ => rfl⟩
    · rw [hreceived, hcount]
      exact ⟨by omega, by omega, by omega, fun _ => by omega⟩

theorem spiWaitDone_readings (c : SpiController) (s : SpiState) {stall : Nat}
    (h : stall ≤ spiStallLimit) :
    (spiWaitDone c s stall).readings ≤ s.readings + (spiStallLimit + 1 - stall) := by
  fun_induction spiWaitDone c s stall with
  | case1 s stall status s' hread hdone hstall =>
    cases hread
    rw [if_pos hdone, if_pos hstall]
    show s.readings + 1 ≤ _
    omega
  | case2 s stall status s' hread hdone hstall ih =>
    cases hread
    rw [if_pos hdone, if_neg hstall]
    have hrest : _ ≤ s.readings + 1 + _ := ih (by omega)
    omega
  | case3 s stall status s' hread hdone =>
    cases hread
    rw [if_neg hdone]
    show s.readings + 1 ≤ _
    omega

/-- **The call ends**: its status readings are bounded, whatever they are. -/
theorem spiXfer_ends (t : SpiTransfer) (c : SpiController) :
    (spiXfer t c).2.readings ≤ (t.total + 1) * (spiStallLimit + 1) := by
  unfold spiXfer
  obtain ⟨s, hs, ⟨hdone, hloop⟩ | ⟨hlt, hstall, hloop⟩⟩ :=
    spiLoop_cases (Relation.ReflTransGen.refl (r := SpiTurn t c) (a := spiStart t))
  · rw [hloop]
    obtain ⟨hreadings, -, hle, hzero⟩ := readings_le hs
    have hall : s.received = t.total := by omega
    rw [hzero hall, hall] at hreadings
    have hwait := spiWaitDone_readings c s (Nat.zero_le spiStallLimit)
    show (spiWaitDone c s 0).readings ≤ _
    rw [Nat.succ_mul]
    omega
  · rw [hloop]
    obtain ⟨hreadings, hle, -, -⟩ := readings_le hs
    show (spiPoll t c s).readings ≤ _
    rw [spiPoll_readings]
    have hmul : (s.received + 1) * (spiStallLimit + 1) ≤ (t.total + 1) * (spiStallLimit + 1) :=
      Nat.mul_le_mul_right _ (by omega)
    rw [Nat.succ_mul] at hmul
    omega

/-! ## What went through the FIFOs -/

/-- The bytes on the wire: the command, then zeros. -/
def SpiTransfer.bytes (t : SpiTransfer) : List UInt8 := t.tx ++ List.replicate t.rxLen 0

/-- The byte that comes in while byte `i` goes out. -/
def SpiTransfer.echo (t : SpiTransfer) (c : SpiController) (i : Nat) : UInt8 :=
  c.reply (t.bytes.take (i + 1))

/-- A reading has `SPI_CS_RXD` only where a byte was clocked in that is not read. -/
def SpiEchoes (t : SpiTransfer) (c : SpiController) : Prop :=
  ∀ s, SpiReached t c s → s.received < t.total → c.status s.readings &&& spiCsRxd ≠ 0 →
    s.read.length < (s.clock c).clocked

/-- What the counters of the loop mean: the bytes sent are the first ones, as many are read as are
counted, no more than are clocked out, and `Rx` has the ones that answer. -/
structure PumpKeeps (t : SpiTransfer) (c : SpiController) (s : SpiState) : Prop where
  sent : s.sent ≤ t.total
  written : s.written = t.bytes.take s.sent
  received : s.received ≤ s.clocked
  clocked : s.clocked ≤ s.sent
  read : s.read = (List.range s.received).map (t.echo c)
  rx : s.rx = t.rx.map fun rx i => if t.tx.length + i < s.received then t.echo c (t.tx.length + i)
    else rx i

theorem length_bytes (t : SpiTransfer) : t.bytes.length = t.total := by
  rw [t.total_eq, SpiTransfer.bytes, List.length_append, List.length_replicate]

theorem bytes_getElem? {i : Nat} (hi : i < t.total) : t.bytes[i]? = some (t.txByte i) := by
  rw [t.total_eq] at hi
  unfold SpiTransfer.bytes SpiTransfer.txByte
  split
  · rename_i hlt
    rw [List.getElem?_append_left hlt, List.getD_eq_getElem?_getD, List.getElem?_eq_getElem hlt]
    rfl
  · rename_i hge
    rw [List.getElem?_append_right (by omega), List.getElem?_replicate_of_lt (by omega)]

theorem PumpKeeps.length_written (h : PumpKeeps t c s) : s.written.length = s.sent := by
  rw [h.written, List.length_take, length_bytes, Nat.min_eq_left h.sent]

theorem PumpKeeps.length_read (h : PumpKeeps t c s) : s.read.length = s.received := by
  rw [h.read, List.length_map, List.length_range]

theorem pumpKeeps_start : PumpKeeps t c (spiStart t) where
  sent := Nat.zero_le _
  written := rfl
  received := Nat.le_refl 0
  clocked := Nat.le_refl 0
  read := rfl
  rx := by
    show t.rx = _
    cases t.rx <;> simp [spiStart]

theorem PumpKeeps.readStatus (h : PumpKeeps t c s) : PumpKeeps t c (s.readStatus c).2 where
  sent := h.sent
  written := h.written
  received := by
    have hr := h.received
    have hc := h.clocked
    show s.received ≤ min s.written.length (s.clocked + c.clocks s.readings)
    rw [h.length_written]
    omega
  clocked := by
    show min s.written.length (s.clocked + c.clocks s.readings) ≤ s.sent
    rw [h.length_written]
    exact Nat.min_le_left _ _
  read := h.read
  rx := h.rx

theorem PumpKeeps.transmit (h : PumpKeeps t c s) (status : UInt32) :
    PumpKeeps t c (s.transmit t status) := by
  unfold SpiState.transmit
  split
  · rename_i hready
    refine ⟨hready.2, ?_, h.received, Nat.le_succ_of_le h.clocked, h.read, h.rx⟩
    show s.written ++ [t.txByte s.sent] = t.bytes.take (s.sent + 1)
    rw [List.take_add_one, bytes_getElem? hready.2, h.written]
    rfl
  · exact h

theorem PumpKeeps.receive (h : PumpKeeps t c s) {status : UInt32}
    (hecho : status &&& spiCsRxd ≠ 0 → s.received < s.clocked) :
    PumpKeeps t c (s.receive t c status) := by
  unfold SpiState.receive
  split
  · rename_i hready
    have hlt := hecho hready
    have hsent := h.clocked
    -- the byte read is the answer to the oldest byte that was not answered
    have hbyte : (s.readFifo c).1 = t.echo c s.received := by
      unfold SpiState.readFifo SpiTransfer.echo
      simp only
      rw [h.length_read, if_pos hlt, h.written, List.take_take, Nat.min_eq_left (by omega)]
    refine ⟨h.sent, h.written, hlt, h.clocked, ?_, ?_⟩
    · show s.read ++ [(s.readFifo c).1] = (List.range (s.received + 1)).map (t.echo c)
      rw [hbyte, List.range_succ, List.map_append, h.read]
      rfl
    · show (if s.received ≥ t.tx.length then
          s.rx.map fun rx i => if i = s.received - t.tx.length then (s.readFifo c).1 else rx i
        else s.rx) = _
      rw [hbyte, h.rx]
      cases t.rx with
      | none => simp
      | some rx =>
        simp only [Option.map_some, ← apply_ite some, Option.some.injEq]
        funext i
        show _ = if t.tx.length + i < s.received + 1 then t.echo c (t.tx.length + i) else rx i
        by_cases hanswer : s.received ≥ t.tx.length
        case neg => rw [if_neg hanswer, if_neg (by omega), if_neg (by omega)]
        rw [if_pos hanswer]
        by_cases hi : i = s.received - t.tx.length
        · rw [if_pos hi, if_pos (by omega), show t.tx.length + i = s.received by omega]
        · rw [if_neg hi]
          by_cases hlt : t.tx.length + i < s.received
          · rw [if_pos hlt, if_pos (by omega)]
          · rw [if_neg hlt, if_neg (by omega)]
  · exact ⟨h.sent, h.written, h.received, h.clocked, h.read, h.rx⟩

theorem pumpKeeps_reached (hecho : SpiEchoes t c) (hs : SpiReached t c s) : PumpKeeps t c s := by
  induction hs with
  | refl => exact pumpKeeps_start
  | @tail m s' hm hturn ih =>
    obtain ⟨hlt, rfl, -⟩ := hturn
    unfold spiPoll
    refine (ih.readStatus.transmit _).receive fun hready => ?_
    have hbyte := hecho m hm hlt hready
    rw [ih.length_read] at hbyte
    rw [SpiState.transmit_received, SpiState.transmit_clocked]
    exact hbyte

theorem spiWaitDone_frame (c : SpiController) (s : SpiState) (stall : Nat) :
    (spiWaitDone c s stall).written = s.written ∧ (spiWaitDone c s stall).read = s.read ∧
      (spiWaitDone c s stall).rx = s.rx := by
  fun_induction spiWaitDone c s stall with
  | case1 s stall status s' hread hdone hstall =>
    cases hread
    rw [if_pos hdone, if_pos hstall]
    exact ⟨rfl, rfl, rfl⟩
  | case2 s stall status s' hread hdone hstall ih =>
    cases hread
    rw [if_pos hdone, if_neg hstall]
    exact ih
  | case3 s stall status s' hread hdone =>
    cases hread
    rw [if_neg hdone]
    exact ⟨rfl, rfl, rfl⟩

theorem spiPoll_rx (s : SpiState) : (spiPoll t c s).rx.isSome = s.rx.isSome := by
  have htransmit : ((s.readStatus c).2.transmit t (s.readStatus c).1).rx = s.rx := by
    unfold SpiState.transmit
    split <;> rfl
  unfold spiPoll SpiState.receive
  simp only
  split
  · show (SpiState.store t _ _).isSome = _
    unfold SpiState.store
    split
    · rw [Option.isSome_map]
      exact congrArg Option.isSome htransmit
    · exact congrArg Option.isSome htransmit
  · exact congrArg Option.isSome htransmit

/-- A transfer stores into the buffer it was given, whatever its status. -/
theorem spiXfer_rx (t : SpiTransfer) (c : SpiController) :
    (spiXfer t c).2.rx.isSome = t.rx.isSome := by
  have hreached : ∀ s, SpiReached t c s → s.rx.isSome = t.rx.isSome := by
    intro s hs
    induction hs with
    | refl => rfl
    | tail _ hturn ih =>
      obtain ⟨-, rfl, -⟩ := hturn
      exact (spiPoll_rx _).trans ih
  unfold spiXfer
  obtain ⟨s, hs, ⟨-, hloop⟩ | ⟨hlt, hstall, hloop⟩⟩ :=
    spiLoop_cases (Relation.ReflTransGen.refl (r := SpiTurn t c) (a := spiStart t))
  · rw [hloop]
    show (spiWaitDone c s 0).rx.isSome = _
    rw [(spiWaitDone_frame c s 0).2.2]
    exact hreached s hs
  · rw [hloop]
    exact (spiPoll_rx s).trans (hreached s hs)


/-- **A transfer ends, and a successful one is complete.** The bytes written are the command and
zeros, as many are read, and the buffer has the answers to the zeros and is else unchanged. -/
theorem spiXfer_transfers (t : SpiTransfer) (c : SpiController) :
    (spiXfer t c).2.readings ≤ (t.tx.length + t.rxLen + 1) * (spiStallLimit + 1) ∧
      (SpiEchoes t c → (spiXfer t c).1 = .success →
        (spiXfer t c).2.written = t.tx ++ List.replicate t.rxLen 0 ∧
          (spiXfer t c).2.read.length = t.tx.length + t.rxLen ∧
          (spiXfer t c).2.rx = t.rx.map fun rx i =>
            if i < t.rxLen then
              c.reply ((t.tx ++ List.replicate t.rxLen 0).take (t.tx.length + i + 1))
            else rx i) := by
  refine ⟨t.total_eq ▸ spiXfer_ends t c, fun hecho hsuccess => ?_⟩
  unfold spiXfer at hsuccess ⊢
  obtain ⟨s, hs, ⟨hdone, hloop⟩ | ⟨-, -, hloop⟩⟩ :=
    spiLoop_cases (Relation.ReflTransGen.refl (r := SpiTurn t c) (a := spiStart t))
  case inr =>
    rw [hloop] at hsuccess
    cases hsuccess
  rw [hloop]
  have h := pumpKeeps_reached hecho hs
  obtain ⟨hwritten, hread, hrx⟩ := spiWaitDone_frame c s 0
  -- all are received, so all were sent
  have hclocked := h.received
  have hsent := h.clocked
  have hle := h.sent
  have hreceived : s.received = t.total := by omega
  have hall : s.sent = t.total := by omega
  refine ⟨?_, ?_, ?_⟩
  · show (spiWaitDone c s 0).written = t.bytes
    rw [hwritten, h.written, hall, ← length_bytes, List.take_length]
  · show (spiWaitDone c s 0).read.length = _
    rw [hread, h.length_read, hreceived, t.total_eq]
  · show (spiWaitDone c s 0).rx = _
    rw [hrx, h.rx, hreceived, t.total_eq]
    simp only [Nat.add_lt_add_iff_left]
    rfl

/-- The flash's identification, with a controller that clocks one byte a reading. -/
def idTransfer : SpiTransfer := ⟨[0x9F], some fun _ => 0, 3, by decide⟩

def steadyController : SpiController where
  clocks _ := 1
  status n := if n = 0 then spiCsTxd else spiCsTxd ||| spiCsRxd ||| spiCsDone
  reply sent := [0xFF, 0xEF, 0x40, 0x15].getD (sent.length - 1) 0
  empty := 0

theorem idTransfer_reached {s : SpiState} (hs : SpiReached idTransfer steadyController s) :
    ∃ n ≤ 5, s = (spiPoll idTransfer steadyController)^[n] (spiStart idTransfer) := by
  induction hs with
  | refl => exact ⟨0, by decide, rfl⟩
  | @tail m s' _ hturn ih =>
    obtain ⟨hlt, rfl, -⟩ := hturn
    obtain ⟨n, hn, rfl⟩ := ih
    have hne : n ≠ 5 := by
      rintro rfl
      exact absurd hlt (by decide)
    exact ⟨n + 1, by omega, (Function.iterate_succ_apply' _ _ _).symm⟩

theorem idTransfer_echoes : SpiEchoes idTransfer steadyController := by
  intro s hs hlt hready
  obtain ⟨n, hn, rfl⟩ := idTransfer_reached hs
  have hall : ∀ n ≤ 5,
      let s := (spiPoll idTransfer steadyController)^[n] (spiStart idTransfer)
      s.received < idTransfer.total → steadyController.status s.readings &&& spiCsRxd ≠ 0 →
        s.read.length < (s.clock steadyController).clocked := by decide
  exact hall n hn hlt hready

theorem idTransfer_success : (spiXfer idTransfer steadyController).1 = .success := by
  unfold spiXfer
  obtain ⟨s, hs, ⟨-, hloop⟩ | ⟨-, hstall, -⟩⟩ :=
    spiLoop_cases (Relation.ReflTransGen.refl (r := SpiTurn idTransfer steadyController)
      (a := spiStart idTransfer))
  · rw [hloop]
    rfl
  · obtain ⟨n, hn, rfl⟩ := idTransfer_reached hs
    have hall : ∀ n ≤ 5, (spiPoll idTransfer steadyController
        ((spiPoll idTransfer steadyController)^[n] (spiStart idTransfer))).stall ≤
          spiStallLimit := by decide
    exact absurd hstall (Nat.not_lt.mpr (hall n hn))

/-- The identification is read: the three bytes after the one that came in with the command. -/
theorem idTransfer_read :
    (spiXfer idTransfer steadyController).2.written = [0x9F, 0, 0, 0] ∧
      ∀ rx, (spiXfer idTransfer steadyController).2.rx = some rx →
        rx 0 = 0xEF ∧ rx 1 = 0x40 ∧ rx 2 = 0x15 := by
  obtain ⟨hwritten, -, hrx⟩ := (spiXfer_transfers idTransfer steadyController).2
    idTransfer_echoes idTransfer_success
  refine ⟨hwritten, fun rx hread => ?_⟩
  rw [hrx] at hread
  cases hread
  exact ⟨rfl, rfl, rfl⟩

end Rpi5Uefi
