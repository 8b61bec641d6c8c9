import Rpi5Uefi.Eeprom.SpiFlash

/-!
# The image of the boot flash, on a board of either stepping

The device tree may name the wrong stepping, or be made for a board that has none. With the fields
of the other stepping the pins are not routed, so the flash does not answer, and the loop of
`Bcm2712BootSpiReadImage` comes to the right ones.

* **`muxedRegs_other_not_routed`**: the fields of one stepping never route the pins of the other.
* **`HasFlash`**: a board with a flash, and what is on the line where the pins are not routed.
* **`bcm2712BootSpiReadImage_reads`**: the image is the content of the flash, whatever the tree says
  of the stepping.
* **`steady_completes`**: a controller that completes every transfer.
-/

namespace Rpi5Uefi.SpiFlash

open RegisterFields Gpio

variable {board : SpiBoard} {spi : BootSpi} {r regs : Registers} {t : SpiTransfer} {isD0 : Bool}

/-! ## Which encoding routes the pins -/

theorem nibble_pos : 0 < 4 := by decide

theorem SpiMuxField.inside (mux : SpiMuxField) : mux.shift.val + 4 ≤ 32 := by
  have hlt := mux.shift.isLt
  omega

theorem SpiMuxField.fits (mux : SpiMuxField) : (UInt32.ofNat mux.fsel).toNat < 2 ^ 4 := by
  have hlt := mux.fsel.isLt
  rw [UInt32.toNat_ofNat']
  omega

/-- The field of a pin's function. -/
def muxField (spi : BootSpi) (mux : SpiMuxField) : Field :=
  ⟨spi.pinctrlBase.toNat, mux.shift, 4, nibble_pos, mux.inside⟩

/-- The fields a stepping has the pins in, without the chip select's where that is another pin. -/
def muxFields (spi : BootSpi) (isD0 : Bool) : List SpiMuxField :=
  ((if isD0 then muxD0 else muxC0).zipIdx.filter
    fun field => ¬(field.2 = 0 ∧ spi.csPin ≠ 1)).map Prod.fst

/-- The fields with the functions they get. -/
def muxSettings (spi : BootSpi) (isD0 : Bool) : List (Field × UInt32) :=
  (muxFields spi isD0).map fun mux => (muxField spi mux, UInt32.ofNat mux.fsel)

/-- The pins are the controller's, on a board of a stepping. -/
def Routed (spi : BootSpi) (isD0 : Bool) (r : Registers) : Prop :=
  ∀ mux ∈ muxFields spi isD0, (muxField spi mux).get r = UInt32.ofNat mux.fsel

instance (spi : BootSpi) (isD0 : Bool) (r : Registers) : Decidable (Routed spi isD0 r) :=
  inferInstanceAs (Decidable (∀ mux ∈ muxFields spi isD0, _))

theorem update_setValue (mux : SpiMuxField) (value : UInt32) (r : Registers) :
    Function.update r spi.pinctrlBase.toNat
        (value &&& ~~~((0xF : UInt32) <<< UInt32.ofNat mux.shift) |||
          UInt32.ofNat mux.fsel <<< UInt32.ofNat mux.shift) =
      (muxField spi mux).set (UInt32.ofNat mux.fsel)
        (Function.update r spi.pinctrlBase.toNat value) := by
  unfold Field.set muxField
  rw [Function.update_idem, Function.update_self]
  rfl

/-- The loop of `SpiMuxPins` sets the fields, one after another. -/
theorem update_muxValue (spi : BootSpi) (isD0 : Bool) (r : Registers) :
    Function.update r spi.pinctrlBase.toNat
        (muxValue { spi with isD0 } (r spi.pinctrlBase.toNat)) =
      Field.setAll (muxSettings spi isD0) r := by
  unfold muxValue muxSettings muxFields
  generalize (if isD0 then muxD0 else muxC0).zipIdx = l
  -- from any value, since the loop goes on from the one before
  suffices hloop : ∀ value, Function.update r spi.pinctrlBase.toNat (l.foldl _ value) =
      Field.setAll _ (Function.update r spi.pinctrlBase.toNat value) by
    rw [hloop, Function.update_eq_self]
  induction l with
  | nil => exact fun value => rfl
  | cons field l ih =>
    intro value
    rw [List.foldl_cons, ih, List.filter_cons]
    by_cases hskip : field.2 = 0 ∧ spi.csPin ≠ 1
    · rw [if_pos hskip, if_neg (by simp [hskip])]
    · rw [if_neg hskip, if_pos (decide_eq_true hskip), update_setValue]
      rfl

theorem muxSettings_fit (spi : BootSpi) (isD0 : Bool) :
    ∀ x ∈ muxSettings spi isD0, x.2.toNat < 2 ^ x.1.width := by
  intro x hx
  obtain ⟨mux, -, rfl⟩ := List.mem_map.mp hx
  exact mux.fits

theorem muxSettings_apart (spi : BootSpi) (isD0 : Bool) :
    (muxSettings spi isD0).Pairwise fun x y => y.1.Apart x.1 := by
  have hall : ((if isD0 then muxD0 else muxC0).zipIdx).Pairwise
      fun x y => x.1.shift.val + 4 ≤ y.1.shift.val := by
    cases isD0 <;> decide
  unfold muxSettings muxFields
  rw [List.pairwise_map, List.pairwise_map]
  exact (hall.filter _).imp fun h => Or.inr (Or.inr h)

/-- **The encoding of the board's stepping routes the pins.** -/
theorem muxedRegs_routed (spi : BootSpi) (hmux : spi.pinctrlBase ≠ 0) (isD0 : Bool)
    (r : Registers) : Routed spi isD0 (muxedRegs spi isD0 r) := by
  unfold muxedRegs
  rw [if_pos hmux, update_muxValue]
  intro mux hmem
  exact Field.get_setAll (muxSettings_fit spi isD0) (muxSettings_apart spi isD0) r
    (muxField spi mux, UInt32.ofNat mux.fsel) (List.mem_map.mpr ⟨mux, hmem, rfl⟩)

/-- The nibble at 12 has the data or the clock, by the stepping. -/
theorem nibble_mem (spi : BootSpi) (isD0 : Bool) :
    ∃ mux ∈ muxFields spi isD0, mux.shift = 12 ∧ mux.fsel = if isD0 then 6 else 5 := by
  unfold muxFields
  cases isD0
  · exact ⟨.mk 12 5, List.mem_map.mpr ⟨(.mk 12 5, 2), List.mem_filter.mpr
      ⟨by simp [muxC0, List.zipIdx], by simp⟩, rfl⟩, rfl, rfl⟩
  · exact ⟨.mk 12 6, List.mem_map.mpr ⟨(.mk 12 6, 3), List.mem_filter.mpr
      ⟨by simp [muxD0, List.zipIdx], by simp⟩, rfl⟩, rfl, rfl⟩

/-- **The other encoding does not**, whatever the pins had before. -/
theorem muxedRegs_other_not_routed (spi : BootSpi) (hmux : spi.pinctrlBase ≠ 0) (isD0 : Bool)
    (r : Registers) : ¬Routed spi (!isD0) (muxedRegs spi isD0 r) := by
  intro hother
  obtain ⟨mux, hmem, hshift, hfsel⟩ := nibble_mem spi isD0
  obtain ⟨mux', hmem', hshift', hfsel'⟩ := nibble_mem spi (!isD0)
  have hown := muxedRegs_routed spi hmux isD0 r mux hmem
  have hwrong := hother mux' hmem'
  -- both have the nibble at 12, with different functions
  have hfield : muxField spi mux' = muxField spi mux := by
    unfold muxField
    simp only [hshift, hshift']
  rw [hfield, hown, hfsel, hfsel'] at hwrong
  cases isD0 <;> cases hwrong

/-! ## A board with a flash -/

/-- A flash: its identification and its content. -/
structure Flash where
  id : Nat → UInt8
  mem : Nat → UInt8
  id_driven : idDriven id = true

/-- What the flash answers while the last of the bytes goes out. -/
def Flash.answer (flash : Flash) : List UInt8 → UInt8
  | cmd :: rest =>
    if cmd = flashCmdRdid then flash.id (rest.length - 1)
    else
      match rest with
      | a2 :: a1 :: a0 :: rest =>
        flash.mem (a2.toNat * 2 ^ 16 + a1.toNat * 2 ^ 8 + a0.toNat + (rest.length - 1))
      | _ => 0
  | [] => 0

theorem Flash.answer_rdid (flash : Flash) (rest : List UInt8) :
    flash.answer (flashCmdRdid :: rest) = flash.id (rest.length - 1) := by
  simp [Flash.answer]

theorem Flash.answer_read (flash : Flash) (a2 a1 a0 : UInt8) (rest : List UInt8) :
    flash.answer (flashCmdRead :: a2 :: a1 :: a0 :: rest) =
      flash.mem (a2.toNat * 2 ^ 16 + a1.toNat * 2 ^ 8 + a0.toNat + (rest.length - 1)) := by
  simp [Flash.answer, flashCmdRead, flashCmdRdid]

/-- The board is of a stepping and has the flash: the controller clocks all that is written, the
flash answers where it is selected and the pins are routed, and else nothing drives the line. -/
structure HasFlash (board : SpiBoard) (spi : BootSpi) (flash : Flash) (isD0 : Bool) : Prop where
  completes : ∀ n regs t, (spiXfer t (board n regs)).1 = .success
  echoes : ∀ n regs t, SpiEchoes t (board n regs)
  answers : ∀ n regs sent, Routed spi isD0 regs → (csField spi).get regs = csLevel spi true →
    (dirField spi).get regs = 0 → (board n regs).reply sent = flash.answer sent
  floats : ∃ level, (level = 0x00 ∨ level = 0xFF) ∧
    ∀ n regs sent, ¬Routed spi isD0 regs → (board n regs).reply sent = level

section HasFlash

variable {flash : Flash} {real : Bool}

theorem routed_congr (h : regs spi.pinctrlBase.toNat = r spi.pinctrlBase.toNat) :
    Routed spi real regs ↔ Routed spi real r := by
  unfold Routed
  refine forall₂_congr fun mux _ => ?_
  rw [get_congr (f := muxField spi mux) h]

/-- The answer comes while the zeros go out. -/
theorem rdid_answer (flash : Flash) {i : Nat} (hi : i < 3) :
    flash.answer ((rdidTransfer.tx ++ List.replicate rdidTransfer.rxLen 0).take
      (rdidTransfer.tx.length + i + 1)) = flash.id i := by
  have htake : (rdidTransfer.tx ++ List.replicate rdidTransfer.rxLen 0).take
      (rdidTransfer.tx.length + i + 1) = flashCmdRdid :: List.replicate (i + 1) 0 := by
    show flashCmdRdid :: (List.replicate 3 0).take _ = _
    rw [List.take_replicate]
    congr 2
    show min (0 + 1 + i) 3 = i + 1
    omega
  rw [htake, flash.answer_rdid, List.length_replicate, Nat.add_sub_cancel]

theorem read_answer (flash : Flash) (buffer : ImageBuffer) {i : Nat} (hi : i < buffer.len) :
    flash.answer (((readTransfer buffer).tx ++ List.replicate (readTransfer buffer).rxLen 0).take
      ((readTransfer buffer).tx.length + i + 1)) = flash.mem i := by
  have htake : ((readTransfer buffer).tx ++ List.replicate (readTransfer buffer).rxLen 0).take
      ((readTransfer buffer).tx.length + i + 1) =
        flashCmdRead :: 0 :: 0 :: 0 :: List.replicate (i + 1) 0 := by
    show List.take (4 + i + 1) (flashCmdRead :: 0 :: 0 :: 0 :: List.replicate buffer.len 0) = _
    rw [show 4 + i + 1 = i + 1 + 4 by omega]
    simp only [List.take_succ_cons, List.take_replicate]
    rw [Nat.min_eq_left hi]
  rw [htake, flash.answer_read, List.length_replicate, Nat.add_sub_cancel]
  show flash.mem (0 + i) = _
  rw [Nat.zero_add]

/-- A transfer on a board with routed pins. -/
theorem HasFlash.xfer (h : HasFlash board spi flash real) {found : Registers}
    (hfound : Driven spi r true found) (hrouted : Routed spi real found) (n : Nat)
    (t : SpiTransfer) :
    (spiXfer t (board n found)).1 = .success ∧
      (spiXfer t (board n found)).2.rx = t.rx.map fun rx i =>
        if i < t.rxLen then
          flash.answer ((t.tx ++ List.replicate t.rxLen 0).take (t.tx.length + i + 1))
        else rx i := by
  have hsuccess := h.completes n found t
  refine ⟨hsuccess, ?_⟩
  rw [((spiXfer_transfers t (board n found)).2 (h.echoes n found t) hsuccess).2.2]
  congr 1
  funext rx i
  rw [h.answers n found _ hrouted hfound.level hfound.output]

/-- **The identification is read where the pins are routed.** -/
theorem HasFlash.probe (h : HasFlash board spi flash real) (hsep : Separate spi)
    (hdriven : Driven spi r false regs) (hrouted : Routed spi real r) (tries : Nat)
    (id : Nat → UInt8) (log : List (Registers × SpiTransfer)) :
    ∃ id' b', spiProbeJedec board spi (tries + 1) id ⟨regs, log⟩ = (.success, id', b') ∧
      ∀ i < 3, id' i = flash.id i := by
  obtain ⟨found, hfound, b', hxfer, -, -⟩ := selectedXfer_cases board log hsep hdriven rdidTransfer
  have hpins := (routed_congr (hfound.elsewhere _ hsep.pinctrl_not_mem)).mpr hrouted
  obtain ⟨hsuccess, hrx⟩ := h.xfer hfound hpins log.length rdidTransfer
  have hid : ∀ i < 3, ((spiXfer rdidTransfer (board log.length found)).2.rx.getD id) i =
      flash.id i := by
    intro i hi
    rw [hrx]
    show (if i < 3 then _ else _) = _
    rw [if_pos hi, rdid_answer flash hi]
  have haccepted : idDriven ((spiXfer rdidTransfer (board log.length found)).2.rx.getD id) =
      true := by
    have hflash := flash.id_driven
    unfold idDriven at hflash ⊢
    rw [hid 0 (by decide), hid 1 (by decide), hid 2 (by decide)]
    exact hflash
  refine ⟨_, b', ?_, hid⟩
  unfold spiProbeJedec
  rw [hxfer]
  simp only
  rw [hsuccess, haccepted]
  rfl

/-- **Without routed pins no identification is read.** -/
theorem HasFlash.probe_not_routed (h : HasFlash board spi flash real) (hsep : Separate spi)
    (hdriven : Driven spi r false regs) (hrouted : ¬Routed spi real r) (tries : Nat)
    (id : Nat → UInt8) (log : List (Registers × SpiTransfer)) :
    (spiProbeJedec board spi tries id ⟨regs, log⟩).1 = .deviceError := by
  obtain ⟨level, hlevel, hfloats⟩ := h.floats
  induction tries generalizing id regs log with
  | zero => rfl
  | succ tries ih =>
    obtain ⟨found, hfound, b', hxfer, hidle, hlog⟩ :=
      selectedXfer_cases board log hsep hdriven rdidTransfer
    have hpins : ¬Routed spi real found :=
      fun hp => hrouted ((routed_congr (hfound.elsewhere _ hsep.pinctrl_not_mem)).mp hp)
    have hsuccess := h.completes log.length found rdidTransfer
    have hrx := ((spiXfer_transfers rdidTransfer (board log.length found)).2
      (h.echoes log.length found rdidTransfer) hsuccess).2.2
    have hid : ∀ i < 3, ((spiXfer rdidTransfer (board log.length found)).2.rx.getD id) i =
        level := by
      intro i hi
      rw [hrx]
      show (if i < 3 then _ else _) = _
      rw [if_pos hi, hfloats _ _ _ hpins]
    have hrejected : idDriven ((spiXfer rdidTransfer (board log.length found)).2.rx.getD id) =
        false := by
      unfold idDriven
      rw [hid 0 (by decide), hid 1 (by decide), hid 2 (by decide)]
      rcases hlevel with rfl | rfl <;> decide
    unfold spiProbeJedec
    rw [hxfer]
    simp only
    rw [hrejected, Bool.and_false, if_neg Bool.false_ne_true]
    exact ih hidle _ b'.transfers

/-- The loop finds the encoding of the board, whichever is tried first. -/
theorem HasFlash.attempts (h : HasFlash board spi flash real) (hsep : Separate spi)
    (hmux : spi.pinctrlBase ≠ 0) (encs : List Bool) (hreal : real ∈ encs) {p : SpiProbe}
    (hp : Elsewhere spi r p.bus.regs) :
    let out := spiAttempts board spi encs p
    out.status = .success ∧ out.usedD0 = real ∧ out.muxed = true ∧
      (∀ i < 3, out.id i = flash.id i) ∧ Driven spi (muxedRegs spi real r) false out.bus.regs := by
  induction encs generalizing p with
  | nil => exact absurd hreal List.not_mem_nil
  | cons isD0 rest ih =>
    obtain ⟨status, id, bus, ts, ⟨start, hstart, hprobe⟩, hidle, -, -, -, -, hcases⟩ :=
      spiAttempts_cons board hsep hp isD0 rest
    have hwork : Separate { spi with isD0 } := hsep
    have hboard : HasFlash board { spi with isD0 } flash real :=
      ⟨h.completes, h.echoes, h.answers, h.floats⟩
    by_cases hthis : isD0 = real
    · subst hthis
      obtain ⟨id', b', heq, hid⟩ := hboard.probe hwork (driven_encoding_iff.mpr hstart)
        (muxedRegs_routed spi hmux isD0 r) 1 p.id p.bus.transfers
      rw [heq] at hprobe
      cases hprobe
      rcases hcases with ⟨-, -, saved, hend, -⟩ | ⟨hno, -⟩ | ⟨hno, -⟩
      · simp only
        rw [hend]
        exact ⟨rfl, rfl, decide_eq_true hmux, hid, hidle⟩
      · cases hno
      · cases hno
    · have hother : real = !isD0 := by cases isD0 <;> cases real <;> simp_all
      have hfails := hboard.probe_not_routed hwork (driven_encoding_iff.mpr hstart)
        (hother ▸ muxedRegs_other_not_routed spi hmux isD0 r) 2 p.id p.bus.transfers
      rw [hprobe] at hfails
      change status = .deviceError at hfails
      rcases hcases with ⟨hyes, -⟩ | ⟨-, -, hend⟩ | ⟨-, hzero, -⟩
      · rw [hyes] at hfails
        cases hfails
      · simp only
        rw [hend]
        have hmem : real ∈ rest := (List.mem_cons.mp hreal).resolve_left fun heq => hthis heq.symm
        exact ih hmem (hidle.restore hsep hmux).elsewhere
      · exact absurd hzero hmux

/-- **The image is read.** On a board of either stepping, whichever the device tree names, the
buffer gets the content of the flash from address 0 on, and the result names the flash and the
encoding that is right. The other encoding never routes the pins. -/
theorem bcm2712BootSpiReadImage_reads (h : HasFlash board spi flash real) (hsep : Separate spi)
    (hmux : spi.pinctrlBase ≠ 0) (buffer : ImageBuffer) (b : SpiBus) :
    let out := bcm2712BootSpiReadImage board spi buffer b
    out.status = .success ∧
      (∀ i, out.buffer i = if i < buffer.len then flash.mem i else buffer.bytes i) ∧
      out.result = ⟨[flash.id 0, flash.id 1, flash.id 2], real, true⟩ ∧
      ∀ prior, ¬Routed spi real (muxedRegs spi (!real) prior) := by
  have hreal : real ∈ encodings spi := by
    unfold encodings
    cases real <;> cases spi.isD0 <;> simp
  obtain ⟨hstatus, hused, hmuxed, hid, hidle⟩ := h.attempts hsep hmux (encodings spi) hreal
    (p := ⟨.deviceError, fun _ => 0, spi.isD0, 0, false, b⟩) (fun _ _ => rfl)
  unfold bcm2712BootSpiReadImage
  simp only
  change (spiProbe board spi b).status = _ at hstatus
  change (spiProbe board spi b).usedD0 = _ at hused
  change (spiProbe board spi b).muxed = _ at hmuxed
  change ∀ i < 3, (spiProbe board spi b).id i = _ at hid
  change Driven _ _ _ (spiProbe board spi b).bus.regs at hidle
  generalize spiProbe board spi b = p at hstatus hused hmuxed hid hidle
  subst hused
  have hwork : Separate { spi with isD0 := p.usedD0 } := hsep
  obtain ⟨found, hfound, b', hxfer, -, -⟩ := selectedXfer_cases board p.bus.transfers hwork
    (driven_encoding_iff.mpr hidle) (readTransfer buffer)
  have hdriven := driven_encoding_iff.mp hfound
  have hpins := (routed_congr (hdriven.elsewhere _ hsep.pinctrl_not_mem)).mpr
    (muxedRegs_routed spi hmux p.usedD0 b.regs)
  obtain ⟨hsuccess, hrx⟩ := h.xfer hdriven hpins p.bus.transfers.length (readTransfer buffer)
  rw [hstatus, EfiStatus.isError_success, if_neg Bool.false_ne_true, hxfer]
  refine ⟨hsuccess, fun i => ?_, ?_, fun prior => ?_⟩
  · show ((spiXfer _ _).2.rx.getD buffer.bytes) i = _
    rw [hrx]
    show (if i < buffer.len then _ else buffer.bytes i) = _
    by_cases hi : i < buffer.len
    · rw [if_pos hi, if_pos hi, read_answer flash buffer hi]
    · rw [if_neg hi, if_neg hi]
  · rw [hid 0 (by decide), hid 1 (by decide), hid 2 (by decide), hmuxed]
  · have hother := muxedRegs_other_not_routed spi hmux (!p.usedD0) prior
    rwa [Bool.not_not] at hother

end HasFlash

/-! ## A controller in time -/

/-- A controller that clocks a byte before each reading but the first. -/
def steady (reply : List UInt8 → UInt8) : SpiController where
  clocks _ := 1
  status n := if n = 0 then spiCsTxd else spiCsTxd ||| spiCsRxd ||| spiCsDone
  reply := reply
  empty := 0

/-- The turns of its loop: each sends a byte, and each but the first reads one. -/
structure SteadyTurn (t : SpiTransfer) (s : SpiState) : Prop where
  sent : s.sent = min s.readings t.total
  written : s.written.length = s.sent
  received : s.received = s.readings - 1
  clocked : s.clocked = s.received
  read : s.read.length = s.received
  stall : s.stall ≤ min s.readings 1

theorem transmit_read (t : SpiTransfer) (s : SpiState) (status : UInt32) :
    (s.transmit t status).read = s.read := by
  unfold SpiState.transmit
  split <;> rfl

theorem transmit_sent {s : SpiState} {status : UInt32} (htxd : status &&& spiCsTxd ≠ 0)
    (h : s.written.length = s.sent) (hle : s.sent ≤ t.total) :
    (s.transmit t status).sent = min (s.sent + 1) t.total ∧
      (s.transmit t status).written.length = (s.transmit t status).sent := by
  unfold SpiState.transmit
  split
  · rename_i hready
    refine ⟨?_, ?_⟩
    · show s.sent + 1 = _
      omega
    · show (s.written ++ [_]).length = s.sent + 1
      rw [List.length_append, h]
      rfl
  · rename_i hfull
    have hroom : ¬s.sent < t.total := fun hroom => hfull ⟨htxd, hroom⟩
    exact ⟨by omega, h⟩

theorem steady_status (reply : List UInt8 → UInt8) (n : Nat) :
    (steady reply).status n &&& spiCsTxd ≠ 0 ∧
      ((steady reply).status n &&& spiCsRxd ≠ 0 ↔ n ≠ 0) := by
  unfold steady
  by_cases hn : n = 0 <;> simp [hn] <;> decide

/-- The bytes the controller has clocked when it is read. -/
theorem SteadyTurn.clock {s : SpiState} (h : SteadyTurn t s) (hlt : s.received < t.total) :
    min s.written.length (s.clocked + 1) = s.readings := by
  have hsent := h.sent
  have hwritten := h.written
  have hreceived := h.received
  have hclocked := h.clocked
  omega

theorem steady_turn {reply : List UInt8 → UInt8} {s : SpiState} (h : SteadyTurn t s)
    (hlt : s.received < t.total) : SteadyTurn t (spiPoll t (steady reply) s) := by
  have hclock := h.clock hlt
  obtain ⟨hsent, hwritten, hreceived, hclocked, hread, hstall⟩ := h
  obtain ⟨htxd, hrxd⟩ := steady_status reply s.readings
  -- the state after the reading and the byte that is sent
  have hpoll : spiPoll t (steady reply) s = ((s.readStatus (steady reply)).2.transmit t
      ((steady reply).status s.readings)).receive t (steady reply)
      ((steady reply).status s.readings) := rfl
  obtain ⟨husent, huwritten⟩ := transmit_sent (t := t) (s := (s.readStatus (steady reply)).2) htxd
    hwritten (show s.sent ≤ t.total by omega)
  have hureceived := SpiState.transmit_received t (s.readStatus (steady reply)).2
    ((steady reply).status s.readings)
  have huclocked := SpiState.transmit_clocked t (s.readStatus (steady reply)).2
    ((steady reply).status s.readings)
  have hustall := SpiState.transmit_stall t (s.readStatus (steady reply)).2
    ((steady reply).status s.readings)
  have hureadings := SpiState.transmit_readings t (s.readStatus (steady reply)).2
    ((steady reply).status s.readings)
  have huread := transmit_read t (s.readStatus (steady reply)).2 ((steady reply).status s.readings)
  rw [hpoll]
  generalize (s.readStatus (steady reply)).2.transmit t ((steady reply).status s.readings) = u at *
  change u.sent = min (s.sent + 1) t.total at husent
  change u.received = s.received at hureceived
  change u.clocked = min s.written.length (s.clocked + 1) at huclocked
  change u.stall = s.stall at hustall
  change u.readings = s.readings + 1 at hureadings
  change u.read = s.read at huread
  rw [hclock] at huclocked
  unfold SpiState.receive
  split
  · rename_i hready
    have hpos := hrxd.mp hready
    refine ⟨?_, huwritten, ?_, ?_, ?_, Nat.zero_le _⟩
    · show u.sent = min u.readings t.total
      omega
    · show u.received + 1 = u.readings - 1
      omega
    · show u.clocked = u.received + 1
      omega
    · show (u.read ++ [_]).length = u.received + 1
      rw [List.length_append, huread, hread, hureceived]
      rfl
  · rename_i hnot
    have hzero : s.readings = 0 := Classical.not_not.mp fun hpos => hnot (hrxd.mpr hpos)
    refine ⟨?_, huwritten, ?_, ?_, ?_, ?_⟩
    · show u.sent = min u.readings t.total
      omega
    · show u.received = u.readings - 1
      omega
    · show u.clocked = u.received
      omega
    · show u.read.length = u.received
      rw [huread, hread, hureceived]
    · show u.stall + 1 ≤ min u.readings 1
      omega

theorem steady_reached {reply : List UInt8 → UInt8} {s : SpiState}
    (hs : SpiReached t (steady reply) s) : SteadyTurn t s := by
  induction hs with
  | refl => exact ⟨(Nat.zero_min _).symm, rfl, rfl, rfl, rfl, Nat.zero_le _⟩
  | tail _ hturn ih =>
    obtain ⟨hlt, rfl, -⟩ := hturn
    exact steady_turn ih hlt

/-- It completes every transfer. -/
theorem steady_completes (reply : List UInt8 → UInt8) (t : SpiTransfer) :
    (spiXfer t (steady reply)).1 = .success ∧ SpiEchoes t (steady reply) := by
  refine ⟨?_, fun s hs hlt hready => ?_⟩
  · unfold spiXfer
    obtain ⟨s, hs, ⟨-, hloop⟩ | ⟨hlt, hstall, -⟩⟩ := spiLoop_cases
      (Relation.ReflTransGen.refl (r := SpiTurn t (steady reply)) (a := spiStart t))
    · rw [hloop]
      rfl
    · have hturn : SteadyTurn t (spiPoll t (steady reply) s) := steady_turn (steady_reached hs) hlt
      have hstall' := hturn.stall
      have hlimit : 1 ≤ spiStallLimit := by decide
      omega
  · have hturn := steady_reached hs
    have hpos := (steady_status reply s.readings).2.mp hready
    have hread := hturn.read
    have hreceived := hturn.received
    show s.read.length < min s.written.length (s.clocked + 1)
    rw [hturn.clock hlt]
    omega

def sampleFlash : Flash := ⟨fun _ => 0x40, UInt8.ofNat, by decide⟩

/-- A board of stepping D0 with the flash. -/
def d0Board : SpiBoard := fun _ regs =>
  steady (if Routed fixedSpi true regs then sampleFlash.answer else fun _ => 0xFF)

theorem d0Board_hasFlash : HasFlash d0Board fixedSpi sampleFlash true where
  completes _ _ t := (steady_completes _ t).1
  echoes _ _ t := (steady_completes _ t).2
  answers n regs sent hrouted _ _ := by
    show (if Routed fixedSpi true regs then sampleFlash.answer else _) sent = _
    rw [if_pos hrouted]
  floats := ⟨0xFF, Or.inr rfl, fun n regs sent hrouted => by
    show (if Routed fixedSpi true regs then sampleFlash.answer else _) sent = _
    rw [if_neg hrouted]⟩

/-- The image is read there, and the pins are handed back. -/
theorem d0Board_reads :
    let out := bcm2712BootSpiReadImage d0Board fixedSpi ⟨fun _ => 0, 16, by decide⟩
      ⟨fun _ => 0x1234, []⟩
    out.status = .success ∧ out.buffer 5 = 5 ∧ out.result = ⟨[0x40, 0x40, 0x40], true, true⟩ := by
  obtain ⟨hstatus, hbuffer, hresult, -⟩ := bcm2712BootSpiReadImage_reads d0Board_hasFlash
    fixedSpi_separate (by decide) ⟨fun _ => 0, 16, by decide⟩ ⟨fun _ => 0x1234, []⟩
  exact ⟨hstatus, hbuffer 5, hresult⟩

end Rpi5Uefi.SpiFlash
