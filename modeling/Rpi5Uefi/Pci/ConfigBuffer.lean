import Mathlib.Logic.Relation
import Rpi5Uefi.Pci.ConfigSpace

/-!
# Ranges of configuration registers (`PciSegmentReadBuffer`, `PciSegmentWriteBuffer`)

A range of a function's registers is read into a buffer, or written from one, in double words where
the alignment allows it, and in bytes and words at the ends.

* **`transferBuffer_units`**: the accesses, which are aligned and follow on each other, make up the
  range.
* **`pciSegmentReadBuffer_reads`**, **`pciSegmentWriteBuffer_writes`**: what they do is what one
  access to the whole range would do, of any function that can exist.
* **`pciSegmentBuffer_roundTrip`**: a range that was written is read back, whatever was accessed
  between, and an absent function reads as ones.

`Buffer` is an offset in the caller's memory. Assertions are compiled out.
-/

namespace Rpi5Uefi

open Bytes

/-! ## The transfers -/

/-- The locals `StartAddress`, `Size` and `Buffer`, and what they are used on. -/
structure TransferState where
  bus : PcieBus
  memory : Mem
  address : Nat
  size : Nat
  buffer : Nat

/-- One access, at an address of the bus and an offset of the memory. -/
abbrev TransferAccess := PciCfgWidth → Nat → Nat → PcieBus → Mem → PcieBus × Mem

variable (access : TransferAccess)

/-- An access, and the locals moved behind it. -/
def transferUnit (width : PciCfgWidth) (s : TransferState) : TransferState :=
  let (bus, memory) := access width s.address s.buffer s.bus s.memory
  ⟨bus, memory, s.address + width.bytes, s.size - width.bytes, s.buffer + width.bytes⟩

/-- As many double words as possible. -/
def transferDwords (s : TransferState) : TransferState :=
  if s.size ≥ 4 then transferDwords (transferUnit access .uint32 s) else s
termination_by s.size
decreasing_by
  show s.size - 4 < s.size
  omega

/-- The body of both functions, behind the test of `Size`. -/
def transferBuffer (s : TransferState) : TransferState :=
  let s := if s.address &&& 1 ≠ 0 then transferUnit access .uint8 s else s
  let s := if s.size ≥ 2 ∧ s.address &&& 2 ≠ 0 then transferUnit access .uint16 s else s
  let s := transferDwords access s
  let s := if s.size ≥ 2 then transferUnit access .uint16 s else s
  if s.size ≥ 1 then transferUnit access .uint8 s else s

/-- `PciSegmentRead8` and its like, into the memory. -/
def readAccess : TransferAccess := fun width address buffer bus memory =>
  let (bus, value) := pciSegmentRead bus width address
  (bus, memory.write buffer ((le32Bytes value).take width.bytes))

/-- `PciSegmentWrite8` and its like, from the memory. -/
def writeAccess : TransferAccess := fun width address buffer bus memory =>
  (pciSegmentWrite bus width address (leNat (memory.slice buffer width.bytes)), memory)

/-- `PciSegmentReadBuffer`: what is returned, the bus and the memory. -/
def pciSegmentReadBuffer (bus : PcieBus) (memory : Mem) (startAddress size buffer : Nat) :
    Nat × PcieBus × Mem :=
  if size = 0 then (size, bus, memory)
  else
    let s := transferBuffer readAccess ⟨bus, memory, startAddress, size, buffer⟩
    (size, s.bus, s.memory)

/-- `PciSegmentWriteBuffer`: what is returned, and the bus. -/
def pciSegmentWriteBuffer (bus : PcieBus) (memory : Mem) (startAddress size buffer : Nat) :
    Nat × PcieBus :=
  if size = 0 then (0, bus)
  else
    let s := transferBuffer writeAccess ⟨bus, memory, startAddress, size, buffer⟩
    (size, s.bus)

variable {access : TransferAccess} {s s' : TransferState} {width : PciCfgWidth}

/-! ## The accesses -/

/-- An aligned access inside what is left. -/
def UnitStep (access : TransferAccess) (s s' : TransferState) : Prop :=
  ∃ width : PciCfgWidth, s.address % width.bytes = 0 ∧ width.bytes ≤ s.size ∧
    s' = transferUnit access width s

/-- Accesses that follow on each other. -/
abbrev Units (access : TransferAccess) : TransferState → TransferState → Prop :=
  Relation.ReflTransGen (UnitStep access)

theorem Units.unit (h : Units access s s') (halign : s'.address % width.bytes = 0)
    (hsize : width.bytes ≤ s'.size) : Units access s (transferUnit access width s') :=
  h.tail ⟨width, halign, hsize, rfl⟩

/-- The double words end with less than one, at an address that is aligned as before. -/
theorem transferDwords_units {start : TransferState} (h : Units access start s)
    (halign : s.size ≥ 4 → s.address % 4 = 0) :
    Units access start (transferDwords access s) ∧ (transferDwords access s).size < 4 ∧
      (transferDwords access s).size ≤ s.size ∧
      (transferDwords access s).address % 4 = s.address % 4 := by
  fun_induction transferDwords access s with
  | case1 s hsize ih =>
    have hword := halign hsize
    have hnext : (transferUnit access .uint32 s).address % 4 = s.address % 4 :=
      Nat.add_mod_right s.address 4
    have hunit : Units access start (transferUnit access .uint32 s) := h.unit hword hsize
    obtain ⟨hunits, hlast, hle, hend⟩ := ih hunit fun _ => hnext.trans hword
    exact ⟨hunits, hlast, hle.trans (Nat.sub_le _ _), hend.trans hnext⟩
  | case2 s hsize => exact ⟨h, Nat.lt_of_not_le hsize, Nat.le_refl _, rfl⟩

theorem and_one_iff (n : Nat) : n &&& 1 ≠ 0 ↔ n % 2 = 1 := by
  rw [Nat.and_one_is_mod]
  omega

theorem and_two_iff (n : Nat) : n &&& 2 ≠ 0 ↔ n / 2 % 2 = 1 := by
  show n &&& 2 ^ 1 ≠ 0 ↔ _
  rw [Nat.and_two_pow, Nat.testBit_eq_decide_div_mod_eq]
  simp

/-- **The accesses make up the range.** -/
theorem transferBuffer_units (access : TransferAccess) (s : TransferState) (hsize : 0 < s.size) :
    Units access s (transferBuffer access s) ∧ (transferBuffer access s).size = 0 := by
  unfold transferBuffer
  simp only [and_one_iff, and_two_iff]
  -- the byte in front of an even address
  obtain ⟨s1, hs1, hunits1, heven⟩ : ∃ s1, (if s.address % 2 = 1 then transferUnit access .uint8 s
      else s) = s1 ∧ Units access s s1 ∧ s1.address % 2 = 0 := by
    by_cases hodd : s.address % 2 = 1
    · rw [if_pos hodd]
      refine ⟨_, rfl, Units.unit .refl (Nat.mod_one _) hsize, ?_⟩
      show (s.address + 1) % 2 = 0
      omega
    · rw [if_neg hodd]
      exact ⟨s, rfl, .refl, by omega⟩
  rw [hs1]
  -- the word in front of a double word, where there is one
  obtain ⟨s2, hs2, hunits2, heven2, haligned⟩ : ∃ s2, (if s1.size ≥ 2 ∧ s1.address / 2 % 2 = 1 then
      transferUnit access .uint16 s1 else s1) = s2 ∧ Units access s s2 ∧ s2.address % 2 = 0 ∧
      (s2.size ≥ 2 → s2.address % 4 = 0) := by
    by_cases hword : s1.size ≥ 2 ∧ s1.address / 2 % 2 = 1
    · rw [if_pos hword]
      refine ⟨_, rfl, hunits1.unit heven hword.1, ?_, fun _ => ?_⟩
      · show (s1.address + 2) % 2 = 0
        omega
      · show (s1.address + 2) % 4 = 0
        omega
    · rw [if_neg hword]
      exact ⟨s1, rfl, hunits1, heven, by omega⟩
  rw [hs2]
  obtain ⟨hunits3, hless, hle, hend⟩ :=
    transferDwords_units hunits2 fun hdword => haligned (by omega)
  generalize transferDwords access s2 = s3 at hunits3 hless hle hend
  -- the word behind the last double word
  obtain ⟨s4, hs4, hunits4, hlast⟩ : ∃ s4, (if s3.size ≥ 2 then transferUnit access .uint16 s3
      else s3) = s4 ∧ Units access s s4 ∧ s4.size ≤ 1 := by
    by_cases hword : s3.size ≥ 2
    · rw [if_pos hword]
      have halign := haligned (by omega)
      refine ⟨_, rfl, hunits3.unit ?_ hword, ?_⟩
      · show s3.address % 2 = 0
        omega
      · show s3.size - 2 ≤ 1
        omega
    · rw [if_neg hword]
      exact ⟨s3, rfl, hunits3, by omega⟩
  rw [hs4]
  by_cases hbyte : s4.size ≥ 1
  · rw [if_pos hbyte]
    refine ⟨hunits4.unit (Nat.mod_one _) hbyte, ?_⟩
    show s4.size - 1 = 0
    omega
  · rw [if_neg hbyte]
    exact ⟨hunits4, by omega⟩

/-! ## Addresses of one function -/

/-- A range of registers of one function: what the assertions ask for. -/
structure ConfigRange where
  start : Nat
  size : Nat
  valid : start &&& 0xffff0000f0000000 = 0
  inside : start % 0x1000 + size ≤ 0x1000

theorem page_add {start k : Nat} (h : start % 0x1000 + k < 0x1000) :
    (start + k) / 0x1000 = start / 0x1000 := by
  omega

/-- The function is in the bits above the register. -/
theorem pciFunction_of_page {a b : Nat} (h : a / 0x1000 = b / 0x1000) :
    pciFunction a = pciFunction b := by
  have hshift (n : Nat) : a >>> (12 + n) = b >>> (12 + n) := by
    rw [Nat.shiftRight_add, Nat.shiftRight_add, Nat.shiftRight_eq_div_pow a 12,
      Nat.shiftRight_eq_div_pow b 12]
    exact congrArg (· >>> n) h
  unfold pciFunction getSegNum getBusNum getDevNum getFunNum
  rw [hshift 20, hshift 8, hshift 3, hshift 0]

theorem reserved_of_page {a b : Nat} (h : a / 0x1000 = b / 0x1000) :
    a &&& 0xffff0000f0000000 = b &&& 0xffff0000f0000000 := by
  have hmask (x : Nat) : x &&& 0xffff0000f0000000 = ((x / 0x1000) &&& 0xffff0000f0000) <<< 12 := by
    have hdiv : x / 0x1000 = x >>> 12 := (Nat.shiftRight_eq_div_pow x 12).symm
    have hconst : 0xffff0000f0000000 = 0xffff0000f0000 <<< 12 := rfl
    rw [hdiv, hconst]
    refine Nat.eq_of_testBit_eq fun i => ?_
    simp only [Nat.testBit_and, Nat.testBit_shiftLeft, Nat.testBit_shiftRight]
    by_cases hi : 12 ≤ i
    · rw [Nat.add_sub_of_le hi]
      simp [hi]
    · simp [hi]
  rw [hmask, hmask, h]

theorem getRegNum_eq (address : Nat) : getRegNum address = address % 0x1000 :=
  Nat.and_two_pow_sub_one_eq_mod address 12

theorem pciExists_of_page {a b : Nat} (h : a / 0x1000 = b / 0x1000) :
    PciExists a ↔ PciExists b := by
  have hfunction := pciFunction_of_page h
  injection hfunction with hsegment hbus hdevice hfun
  unfold PciExists
  rw [hsegment, hbus, hdevice, hfun]

/-- An aligned address of the range is one for its width. -/
def ConfigRange.unit (range : ConfigRange) {k : Nat} (hk : k < range.size) (width : PciCfgWidth)
    (halign : (range.start + k) % width.bytes = 0) : PciSegmentAddress width where
  address := range.start + k
  valid := by
    have hinside := range.inside
    rw [Nat.and_or_distrib_left, reserved_of_page (page_add (by omega)), range.valid,
      Nat.zero_or]
    cases width with
    | uint8 => exact Nat.and_zero _
    | uint16 => exact (Nat.and_two_pow_sub_one_eq_mod _ 1).trans halign
    | uint32 => exact (Nat.and_two_pow_sub_one_eq_mod _ 2).trans halign

/-! ## Reading a range -/

/-- What a range of registers reads as: those of a function that cannot exist are all ones. -/
def configBytes (bus : PcieBus) (address n : Nat) : List UInt8 :=
  if PciExists address then (bus.config (pciFunction address)).slice (getRegNum address) n
  else List.replicate n 0xFF

@[simp] theorem length_configBytes (bus : PcieBus) (address n : Nat) :
    (configBytes bus address n).length = n := by
  unfold configBytes
  split
  · exact Mem.length_slice _ _ _
  · exact List.length_replicate

@[simp] theorem configBytes_zero (bus : PcieBus) (address : Nat) :
    configBytes bus address 0 = [] :=
  List.eq_nil_of_length_eq_zero (length_configBytes bus address 0)

/-- A range goes on with what is behind it. -/
theorem configBytes_add (bus : PcieBus) {address k : Nat} (n : Nat)
    (h : address % 0x1000 + k < 0x1000) :
    configBytes bus address (k + n) =
      configBytes bus address k ++ configBytes bus (address + k) n := by
  have hpage := page_add h
  have hregister : getRegNum (address + k) = getRegNum address + k := by
    rw [getRegNum_eq, getRegNum_eq]
    omega
  unfold configBytes
  by_cases hexists : PciExists address
  · rw [if_pos hexists, if_pos hexists, if_pos ((pciExists_of_page hpage).mpr hexists),
      pciFunction_of_page hpage, hregister, Mem.slice_add]
  · rw [if_neg hexists, if_neg hexists, if_neg (mt (pciExists_of_page hpage).mp hexists)]
    exact (List.replicate_append_replicate ..).symm

theorem take_le32Bytes (width : PciCfgWidth) (value : Nat) :
    (le32Bytes value).take width.bytes = leBytes width.bytes value := by
  have hdiv : value / 2 ^ 8 / 2 ^ 8 = value / 2 ^ 16 := Nat.div_div_eq_div_mul _ _ _
  have hdiv' : value / 2 ^ 16 / 2 ^ 8 = value / 2 ^ 24 := Nat.div_div_eq_div_mul _ _ _
  cases width with
  | uint8 => rfl
  | uint16 => rfl
  | uint32 =>
    show le32Bytes value = leBytes 4 value
    unfold le32Bytes
    simp only [leBytes, hdiv, hdiv']

/-- One access reads its part. -/
theorem readAccess_eq (bus : PcieBus) (memory : Mem) (buffer : Nat) (a : PciSegmentAddress width) :
    ∃ bus', readAccess width a.address buffer bus memory =
        (bus', memory.write buffer (configBytes bus a.address width.bytes)) ∧
      SameConfig bus bus' := by
  obtain ⟨hreaches, hones⟩ := readHolds bus a
  refine ⟨(pciSegmentRead bus width a.address).1, ?_, ?_⟩
  · show (_, memory.write buffer ((le32Bytes (pciSegmentRead bus width a.address).2).take _)) = _
    rw [take_le32Bytes]
    unfold configBytes
    by_cases hexists : PciExists a.address
    · rw [if_pos hexists, (hreaches hexists).1]
      have hbytes := leBytes_leNat
        ((bus.config (pciFunction a.address)).slice (getRegNum a.address) width.bytes)
      rw [Mem.length_slice] at hbytes
      exact congrArg (fun bytes => (_, memory.write buffer bytes)) hbytes
    · rw [if_neg hexists, hones hexists]
      cases width <;> rfl
  · by_cases hexists : PciExists a.address
    · exact (hreaches hexists).2
    · unfold pciSegmentRead
      rw [pciSegmentLibGetConfigBase_invalid bus hexists]
      exact ⟨fun _ _ => rfl, fun _ => rfl⟩

/-- As far as a range is read. -/
structure ReadSoFar (bus : PcieBus) (m : Mem) (range : ConfigRange) (dest done : Nat)
    (s : TransferState) : Prop where
  address : s.address = range.start + done
  size : s.size + done = range.size
  buffer : s.buffer = dest + done
  memory : s.memory = m.write dest (configBytes bus range.start done)
  config : SameConfig bus s.bus

theorem SameConfig.configBytes {bus bus' : PcieBus} (h : SameConfig bus bus') (address n : Nat) :
    configBytes bus' address n = configBytes bus address n := by
  have hconfig : bus'.config = bus.config :=
    funext fun function => funext fun register => h.config function register
  unfold Rpi5Uefi.configBytes
  rw [hconfig]

theorem ReadSoFar.step {bus : PcieBus} {m : Mem} {range : ConfigRange} {dest done : Nat}
    (h : ReadSoFar bus m range dest done s) (hstep : UnitStep readAccess s s') :
    ∃ more, ReadSoFar bus m range dest more s' := by
  obtain ⟨width, halign, hfits, rfl⟩ := hstep
  obtain ⟨haddress, hsize, hbuffer, hmemory, hconfig⟩ := h
  have hpos : 0 < width.bytes := by cases width <;> decide
  have hinside := range.inside
  have hunit : (range.unit (by omega : done < range.size) width (haddress ▸ halign)).address =
      s.address := haddress.symm
  obtain ⟨bus', haccess, hsame⟩ := readAccess_eq s.bus s.memory s.buffer
    (range.unit (by omega : done < range.size) width (haddress ▸ halign))
  rw [hunit] at haccess
  refine ⟨done + width.bytes, ?_⟩
  unfold transferUnit
  rw [haccess]
  refine ⟨?_, ?_, ?_, ?_, ?_⟩
  · show s.address + width.bytes = _
    omega
  · show s.size - width.bytes + _ = _
    omega
  · show s.buffer + width.bytes = _
    omega
  · show s.memory.write s.buffer _ = _
    rw [hconfig.configBytes, hmemory, hbuffer, configBytes_add bus width.bytes (by omega),
      ← Mem.write_append, length_configBytes, haddress]
  · exact ⟨fun f r => (hsame.config f r).trans (hconfig.config f r),
      fun a => (hsame.other a).trans (hconfig.other a)⟩

/-- **A range is read** into the buffer, all of it and nothing else, and no register changes. -/
theorem pciSegmentReadBuffer_reads (bus : PcieBus) (memory : Mem) (range : ConfigRange)
    (buffer : Nat) :
    let out := pciSegmentReadBuffer bus memory range.start range.size buffer
    out.1 = range.size ∧ SameConfig bus out.2.1 ∧
      out.2.2 = memory.write buffer (configBytes bus range.start range.size) := by
  unfold pciSegmentReadBuffer
  simp only
  by_cases hzero : range.size = 0
  · rw [if_pos hzero]
    refine ⟨rfl, ⟨fun _ _ => rfl, fun _ => rfl⟩, ?_⟩
    rw [hzero, configBytes_zero, Mem.write_nil]
  · rw [if_neg hzero]
    obtain ⟨hunits, hend⟩ := transferBuffer_units readAccess
      ⟨bus, memory, range.start, range.size, buffer⟩ (Nat.pos_of_ne_zero hzero)
    have hrun : ∀ s', Units readAccess ⟨bus, memory, range.start, range.size, buffer⟩ s' →
        ∃ done, ReadSoFar bus memory range buffer done s' := by
      intro s' h
      induction h with
      | refl =>
        refine ⟨0, rfl, rfl, rfl, ?_, ⟨fun _ _ => rfl, fun _ => rfl⟩⟩
        rw [configBytes_zero, Mem.write_nil]
      | tail _ hstep ih =>
        obtain ⟨done, hdone⟩ := ih
        exact hdone.step hstep
    obtain ⟨done, hdone⟩ := hrun _ hunits
    have hall : done = range.size := by
      have hsize := hdone.size
      omega
    subst hall
    exact ⟨rfl, hdone.config, hdone.memory⟩

/-! ## Writing a range -/

/-- Two ranges of a function that follow on each other are written as one. -/
theorem ConfigSpace.write_append (space : ConfigSpace) (function : PciFunction) (register : Nat)
    (a b : List UInt8) :
    (space.write function register a).write function (register + a.length) b =
      space.write function register (a ++ b) := by
  unfold ConfigSpace.write
  rw [Function.update_idem, Function.update_self, Mem.write_append]

theorem ConfigSpace.write_nil (space : ConfigSpace) (function : PciFunction) (register : Nat) :
    space.write function register [] = space := by
  unfold ConfigSpace.write
  rw [Mem.write_nil, Function.update_eq_self]

/-- As far as a range is written. -/
structure WrittenSoFar (bus : PcieBus) (m : Mem) (range : ConfigRange) (source done : Nat)
    (s : TransferState) : Prop where
  address : s.address = range.start + done
  size : s.size + done = range.size
  buffer : s.buffer = source + done
  memory : s.memory = m
  config : s.bus.config = bus.config.write (pciFunction range.start) (getRegNum range.start)
    (m.slice source done)
  other : ∀ place, s.bus.cells (.other place) = bus.cells (.other place)

theorem WrittenSoFar.step {bus : PcieBus} {m : Mem} {range : ConfigRange} {source done : Nat}
    (hexists : PciExists range.start) (h : WrittenSoFar bus m range source done s)
    (hstep : UnitStep writeAccess s s') : ∃ more, WrittenSoFar bus m range source more s' := by
  obtain ⟨width, halign, hfits, rfl⟩ := hstep
  obtain ⟨haddress, hsize, hbuffer, hmemory, hconfig, hother⟩ := h
  have hpos : 0 < width.bytes := by cases width <;> decide
  have hinside := range.inside
  have hpage := page_add (by omega : range.start % 0x1000 + done < 0x1000)
  -- the access, as one of the range
  let a := range.unit (by omega : done < range.size) width (haddress ▸ halign)
  have hexists' : PciExists a.address := (pciExists_of_page hpage).mpr hexists
  obtain ⟨hreaches, hplaces⟩ := ((writeHolds_iff s.bus a
    (leNat (s.memory.slice s.buffer width.bytes))).mpr hexists').reaches hexists'
  have hregister : getRegNum a.address = getRegNum range.start + done := by
    rw [getRegNum_eq, getRegNum_eq]
    show (range.start + done) % 0x1000 = _
    omega
  have hbytes := leBytes_leNat (s.memory.slice s.buffer width.bytes)
  rw [Mem.length_slice] at hbytes
  rw [take_le32Bytes, hbytes, hregister, show pciFunction a.address = pciFunction range.start from
    pciFunction_of_page hpage] at hreaches
  have hunit : a.address = s.address := haddress.symm
  rw [hunit] at hreaches hplaces
  refine ⟨done + width.bytes, ?_, ?_, ?_, hmemory, ?_, fun place => ?_⟩
  · show s.address + width.bytes = _
    omega
  · show s.size - width.bytes + _ = _
    omega
  · show s.buffer + width.bytes = _
    omega
  · refine hreaches.trans ?_
    rw [hconfig, hmemory, hbuffer, Mem.slice_add, ← ConfigSpace.write_append, Mem.length_slice]
  · exact (hplaces place).trans (hother place)

/-- **A range is written** from the buffer: its registers get the bytes, and no other register of
any function changes. -/
theorem pciSegmentWriteBuffer_writes (bus : PcieBus) (memory : Mem) (range : ConfigRange)
    (buffer : Nat) (hexists : PciExists range.start) :
    let out := pciSegmentWriteBuffer bus memory range.start range.size buffer
    out.1 = range.size ∧
      out.2.config = bus.config.write (pciFunction range.start) (getRegNum range.start)
        (memory.slice buffer range.size) ∧
      ∀ place, out.2.cells (.other place) = bus.cells (.other place) := by
  unfold pciSegmentWriteBuffer
  simp only
  by_cases hzero : range.size = 0
  · rw [if_pos hzero, hzero]
    exact ⟨rfl, (ConfigSpace.write_nil _ _ _).symm, fun _ => rfl⟩
  · rw [if_neg hzero]
    obtain ⟨hunits, hend⟩ := transferBuffer_units writeAccess
      ⟨bus, memory, range.start, range.size, buffer⟩ (Nat.pos_of_ne_zero hzero)
    have hrun : ∀ s', Units writeAccess ⟨bus, memory, range.start, range.size, buffer⟩ s' →
        ∃ done, WrittenSoFar bus memory range buffer done s' := by
      intro s' h
      induction h with
      | refl =>
        exact ⟨0, rfl, rfl, rfl, rfl, (ConfigSpace.write_nil _ _ _).symm, fun _ => rfl⟩
      | tail _ hstep ih =>
        obtain ⟨done, hdone⟩ := ih
        exact hdone.step hexists hstep
    obtain ⟨done, hdone⟩ := hrun _ hunits
    have hall : done = range.size := by
      have hsize := hdone.size
      omega
    subst hall
    exact ⟨rfl, hdone.config, hdone.other⟩

/-! ## Writing and reading -/

/-- An access that leaves a range alone: a read, or a write to a function that can exist and to none
of the range's registers. -/
def PciAccess.Spares (range : ConfigRange) : PciAccess → Prop
  | .read _ _ => True
  | .write width a _ => PciExists a.address ∧ (pciFunction a.address ≠ pciFunction range.start ∨
      getRegNum a.address + width.bytes ≤ getRegNum range.start ∨
      getRegNum range.start + range.size ≤ getRegNum a.address)

/-- Accesses that spare a range do not change its registers. -/
theorem slice_of_spares {range : ConfigRange} {accesses : List PciAccess} {space : ConfigSpace}
    (h : ∀ access ∈ accesses, access.Spares range) :
    ((accesses.foldl PciAccess.configStep space) (pciFunction range.start)).slice
        (getRegNum range.start) range.size =
      (space (pciFunction range.start)).slice (getRegNum range.start) range.size := by
  induction accesses generalizing space with
  | nil => rfl
  | cons access accesses ih =>
    obtain ⟨haccess, hrest⟩ := List.forall_mem_cons.mp h
    rw [List.foldl_cons, ih hrest]
    cases access with
    | read width a => rfl
    | write width a value =>
      obtain ⟨-, hapart⟩ := haccess
      show (ConfigSpace.write space (pciFunction a.address) (getRegNum a.address)
        ((le32Bytes value).take width.bytes) (pciFunction range.start)).slice _ _ = _
      unfold ConfigSpace.write
      by_cases hfunction : pciFunction range.start = pciFunction a.address
      · rw [hfunction, Function.update_self]
        have hlength : ((le32Bytes value).take width.bytes).length = width.bytes := by
          cases width <;> rfl
        refine Mem.slice_congr fun i hlow hhigh => Mem.write_of_outside _ ?_
        have hplaces := hapart.resolve_left fun hne => hne hfunction.symm
        omega
      · rw [Function.update_of_ne hfunction]

/-- **The round trip.** A range that was written from a buffer is read back into another, whatever
was accessed between that spares it. -/
theorem pciSegmentBuffer_roundTrip (bus : PcieBus) (memory : Mem) (range : ConfigRange)
    (source dest : Nat) (hexists : PciExists range.start) {between : List PciAccess}
    (hbetween : ∀ access ∈ between, access.Spares range) :
    let written := (pciSegmentWriteBuffer bus memory range.start range.size source).2
    let out := pciSegmentReadBuffer (between.foldl PciAccess.step written) memory range.start
      range.size dest
    out.2.2 = memory.write dest (memory.slice source range.size) := by
  intro written out
  obtain ⟨-, hconfig, -⟩ := pciSegmentWriteBuffer_writes bus memory range source hexists
  obtain ⟨-, -, hread⟩ :=
    pciSegmentReadBuffer_reads (between.foldl PciAccess.step written) memory range dest
  have hstray : ∀ access ∈ between, access.NoStrayWrite := by
    intro access hmem
    have hspares := hbetween access hmem
    cases access with
    | read width a => trivial
    | write width a value => exact hspares.1
  have hbytes : configBytes (between.foldl PciAccess.step written) range.start range.size =
      memory.slice source range.size := by
    unfold configBytes
    rw [if_pos hexists, config_run hstray, slice_of_spares hbetween]
    show ((written.config) _).slice _ _ = _
    rw [show written.config = _ from hconfig]
    unfold ConfigSpace.write
    rw [Function.update_self]
    have hslice := Mem.slice_write (bus.config (pciFunction range.start)) (getRegNum range.start)
      (memory.slice source range.size)
    rw [Mem.length_slice] at hslice
    exact hslice
  show out.2.2 = _
  rw [show out.2.2 = _ from hread, hbytes]

/-- Seven registers of the function on bus 1, from an odd one on. -/
def oddRange : ConfigRange := ⟨0x100013, 7, by decide, by decide⟩

/-- They come back, with an access to the root port's registers between. -/
theorem oddRange_roundTrip :
    let memory : Mem := fun i => UInt8.ofNat i
    let written := (pciSegmentWriteBuffer ⟨fun _ => 0, []⟩ memory 0x100013 7 0x20).2
    let between : List PciAccess := [.write .uint32 ⟨0x14, by decide⟩ 0xAABBCCDD]
    let out := pciSegmentReadBuffer (between.foldl PciAccess.step written) memory 0x100013 7 0x80
    out.2.2 0x86 = 0x26 ∧ out.2.2 0x87 = 0x87 := by
  intro memory written between out
  have hspares : ∀ access ∈ between, access.Spares oddRange := by
    intro access hmem
    rw [List.mem_singleton.mp hmem]
    exact ⟨by decide, Or.inl (by decide)⟩
  have hread : out.2.2 = memory.write 0x80 (memory.slice 0x20 7) :=
    pciSegmentBuffer_roundTrip ⟨fun _ => 0, []⟩ memory oddRange 0x20 0x80 (by decide)
      hspares
  rw [hread]
  exact ⟨rfl, rfl⟩

end Rpi5Uefi
