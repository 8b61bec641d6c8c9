import Rpi5Uefi.Lib.Bits
import Rpi5Uefi.Pci.RootComplex

/-!
# What an outbound window decodes to

`PcieSetupOutboundWindow` splits two numbers of megabytes over three registers. Their low twelve
bits share `BASE_LIMIT`, and are shifted there with the rest of their bits.

* **`windowBaseMB`**, **`windowLimitMB`**: what the registers decode to.
* **`OutboundWindowSet`**: the registers decode to the window, and nothing outside the masks of
  their fields has changed.
* **`pcieSetupOutboundWindow_set_iff`**: they do exactly where the base's upper bits, which fall on
  other bits of `BASE_LIMIT`, find them set.
-/

namespace Rpi5Uefi

open Bits

/-! ## The decode -/

/-- A number of megabytes with its low twelve bits in a field and the rest in another register. -/
def joinedMB (high highMask low lowMask shift : UInt32) : UInt32 :=
  (high &&& highMask) <<< 12 ||| (low &&& lowMask) >>> shift

/-- The first megabyte of a window. -/
def windowBaseMB (s : RcState) (index : Nat) : UInt32 :=
  joinedMB (s.reg (pcieMemWinBaseHi index)) memWinBaseHiMask
    (s.reg (pcieMemWinBaseLimit index)) memWinBaseMask 4

/-- The last megabyte of a window. -/
def windowLimitMB (s : RcState) (index : Nat) : UInt32 :=
  joinedMB (s.reg (pcieMemWinLimitHi index)) memWinLimitHiMask
    (s.reg (pcieMemWinBaseLimit index)) memWinLimitMask 20

/-- The last address of a window. -/
def BcmPcieRcWindow.last (window : BcmPcieRcWindow) : Nat :=
  window.cpuBase.toNat + window.size.toNat - 1

/-- **A window as it should be set**: the registers decode to its megabytes, and what is outside the
masks of the fields is as before. -/
structure OutboundWindowSet (index : Nat) (window : BcmPcieRcWindow) (s s' : RcState) : Prop where
  base : (windowBaseMB s' index).toNat = window.cpuBase.toNat / 2 ^ 20
  limit : (windowLimitMB s' index).toNat = window.last / 2 ^ 20
  baseLimitKept : s'.reg (pcieMemWinBaseLimit index) &&& ~~~(memWinBaseMask ||| memWinLimitMask) =
    s.reg (pcieMemWinBaseLimit index) &&& ~~~(memWinBaseMask ||| memWinLimitMask)
  baseHiKept : s'.reg (pcieMemWinBaseHi index) &&& ~~~memWinBaseHiMask =
    s.reg (pcieMemWinBaseHi index) &&& ~~~memWinBaseHiMask
  limitHiKept : s'.reg (pcieMemWinLimitHi index) &&& ~~~memWinLimitHiMask =
    s.reg (pcieMemWinLimitHi index) &&& ~~~memWinLimitHiMask

/-- The upper bits of the base fall on bits that are set anyway: bits 32 to 35 on the bits between
the fields, as the register held them; bits 36 to 39 on the low bits of the limit. -/
def SpillHidden (window : BcmPcieRcWindow) (baseLimit : UInt32) : Prop :=
  (∀ i < 4, window.cpuBase.toNat.testBit (32 + i) = true → bit baseLimit (16 + i) = true) ∧
    ∀ i < 4, window.cpuBase.toNat.testBit (36 + i) = true → window.last.testBit (20 + i) = true

/-! ## The registers after the call -/

/-- `BASE_LIMIT` after the call, over what it held. -/
def packedBaseLimit (prior : UInt32) (baseMB limitMB : UInt64) : UInt32 :=
  prior &&& ~~~(memWinBaseMask ||| memWinLimitMask) |||
    (baseMB <<< 4 ||| limitMB <<< 20).toUInt32

/-- `BASE_HI` or `LIMIT_HI` after the call, over what it held. -/
def raisedHigh (prior mask : UInt32) (mb : UInt64) : UInt32 :=
  prior &&& ~~~mask ||| (mb >>> 12).toUInt32

/-- The number of the first megabyte, as it is computed. -/
def BcmPcieRcWindow.baseMB (window : BcmPcieRcWindow) : UInt64 := window.cpuBase / size1MB

/-- The number of the last megabyte, as it is computed. -/
def BcmPcieRcWindow.limitMB (window : BcmPcieRcWindow) : UInt64 :=
  (window.cpuBase + window.size - 1) / size1MB

section Registers

variable {hw : RcHardware} {index : Nat} {window : BcmPcieRcWindow} {s : RcState}

/-- The offsets of the window registers are not those of the hardware's own. -/
theorem window_held (hindex : index < pcieNumOutboundWindows) :
    pcieMemWinBaseLimit index ∉ hardwareRegisters ∧
      pcieMemWinBaseHi index ∉ hardwareRegisters ∧
      pcieMemWinLimitHi index ∉ hardwareRegisters := by
  unfold pcieNumOutboundWindows at hindex
  have hall : ∀ index < 4, pcieMemWinBaseLimit index ∉ hardwareRegisters ∧
      pcieMemWinBaseHi index ∉ hardwareRegisters ∧
      pcieMemWinLimitHi index ∉ hardwareRegisters := by decide
  exact hall index hindex

theorem reg_baseLimit (hindex : index < pcieNumOutboundWindows) :
    (pcieSetupOutboundWindow hw index window s).reg (pcieMemWinBaseLimit index) =
      packedBaseLimit (s.reg (pcieMemWinBaseLimit index)) window.baseMB window.limitMB := by
  have hheld := (window_held hindex).1
  unfold pcieNumOutboundWindows at hindex
  unfold pcieSetupOutboundWindow
  rw [mmioWrite32_ne (by unfold pcieMemWinBaseLimit pcieMemWinHi; omega),
    mmioWrite32_ne (by unfold pcieMemWinBaseLimit pcieMemWinLo; omega),
    mmioAndThenOr32_ne (by unfold pcieMemWinBaseLimit pcieMemWinLimitHi; omega),
    mmioAndThenOr32_ne (by unfold pcieMemWinBaseLimit pcieMemWinBaseHi; omega),
    mmioAndThenOr32_held hheld]
  rfl

theorem reg_baseHi (hindex : index < pcieNumOutboundWindows) :
    (pcieSetupOutboundWindow hw index window s).reg (pcieMemWinBaseHi index) =
      raisedHigh (s.reg (pcieMemWinBaseHi index)) memWinBaseHiMask window.baseMB := by
  have hheld := (window_held hindex).2.1
  unfold pcieNumOutboundWindows at hindex
  unfold pcieSetupOutboundWindow
  rw [mmioWrite32_ne (by unfold pcieMemWinBaseHi pcieMemWinHi; omega),
    mmioWrite32_ne (by unfold pcieMemWinBaseHi pcieMemWinLo; omega),
    mmioAndThenOr32_ne (by unfold pcieMemWinBaseHi pcieMemWinLimitHi; omega),
    mmioAndThenOr32_held hheld,
    mmioAndThenOr32_ne (by unfold pcieMemWinBaseHi pcieMemWinBaseLimit; omega)]
  rfl

theorem reg_limitHi (hindex : index < pcieNumOutboundWindows) :
    (pcieSetupOutboundWindow hw index window s).reg (pcieMemWinLimitHi index) =
      raisedHigh (s.reg (pcieMemWinLimitHi index)) memWinLimitHiMask window.limitMB := by
  have hheld := (window_held hindex).2.2
  unfold pcieNumOutboundWindows at hindex
  unfold pcieSetupOutboundWindow
  rw [mmioWrite32_ne (by unfold pcieMemWinLimitHi pcieMemWinHi; omega),
    mmioWrite32_ne (by unfold pcieMemWinLimitHi pcieMemWinLo; omega),
    mmioAndThenOr32_held hheld,
    mmioAndThenOr32_ne (by unfold pcieMemWinLimitHi pcieMemWinBaseHi; omega),
    mmioAndThenOr32_ne (by unfold pcieMemWinLimitHi pcieMemWinBaseLimit; omega)]
  rfl

theorem toNat_baseMB (window : BcmPcieRcWindow) :
    window.baseMB.toNat = window.cpuBase.toNat / 2 ^ 20 :=
  UInt64.toNat_div _ _

theorem toNat_limitMB (hne : 0 < window.cpuBase.toNat + window.size.toNat)
    (hlast : window.cpuBase.toNat + window.size.toNat ≤ 2 ^ 40) :
    window.limitMB.toNat = window.last / 2 ^ 20 := by
  have hone : (1 : UInt64).toNat = 1 := rfl
  unfold BcmPcieRcWindow.limitMB BcmPcieRcWindow.last
  rw [UInt64.toNat_div, UInt64.toNat_sub, UInt64.toNat_add, hone]
  have hsum : (2 ^ 64 - 1 + (window.cpuBase.toNat + window.size.toNat) % 2 ^ 64) % 2 ^ 64 =
      window.cpuBase.toNat + window.size.toNat - 1 := by omega
  rw [hsum]
  rfl

end Registers

/-! ## Bit by bit -/

section Bitwise

variable {i : Nat}

/-- A field's mask, bit by bit, from its first 32 bits. -/
theorem bit_mask {mask : UInt32} {lo hi : Nat} (hhi : hi ≤ 32)
    (h : ∀ i < 32, bit mask i = decide (lo ≤ i ∧ i < hi)) (i : Nat) :
    bit mask i = decide (lo ≤ i ∧ i < hi) := by
  rcases Nat.lt_or_ge i 32 with hi | hi
  · exact h i hi
  · rw [bit_of_ge hi]
    exact (decide_eq_false (by omega)).symm

theorem bit_baseMask (i : Nat) : bit memWinBaseMask i = decide (4 ≤ i ∧ i < 16) :=
  bit_mask (by decide) (by decide) i

theorem bit_limitMask (i : Nat) : bit memWinLimitMask i = decide (20 ≤ i ∧ i < 32) :=
  bit_mask (by decide) (by decide) i

theorem bit_baseHiMask (i : Nat) : bit memWinBaseHiMask i = decide (0 ≤ i ∧ i < 8) :=
  bit_mask (by decide) (by decide) i

/-- `BASE_LIMIT` after the call. The two numbers reach beyond their fields. -/
theorem bit_packedBaseLimit (hi : i < 32) (prior : UInt32) (baseMB limitMB : UInt64) :
    bit (packedBaseLimit prior baseMB limitMB) i =
      (bit prior i && !(decide (4 ≤ i ∧ i < 16) || decide (20 ≤ i ∧ i < 32)) ||
        (decide (4 ≤ i) && baseMB.toNat.testBit (i - 4) ||
          decide (20 ≤ i) && limitMB.toNat.testBit (i - 20))) := by
  have hlt : decide (i < 64) = true := decide_eq_true (by omega)
  unfold packedBaseLimit
  rw [bit_or, bit_and, bit_not hi, bit_or, bit_baseMask, bit_limitMask, bit_toUInt32 hi,
    UInt64.toNat_or, Nat.testBit_or, UInt64.toNat_shiftLeft, UInt64.toNat_shiftLeft,
    Nat.testBit_mod_two_pow, Nat.testBit_mod_two_pow, Nat.testBit_shiftLeft,
    Nat.testBit_shiftLeft, hlt]
  rfl

theorem bit_raisedHigh (hi : i < 32) (prior mask : UInt32) (mb : UInt64) :
    bit (raisedHigh prior mask mb) i =
      (bit prior i && !bit mask i || mb.toNat.testBit (12 + i)) := by
  unfold raisedHigh
  rw [bit_or, bit_and, bit_not hi, bit_toUInt32 hi, UInt64.toNat_shiftRight,
    Nat.testBit_shiftRight]
  rfl

/-- The bits of a number that is read from its two places, of which the second ends at bit 20. -/
theorem bit_joinedMB (hi : i < 32) (high low mask : UInt32) {shift : UInt32}
    (hshift : shift.toNat < 32) :
    bit (joinedMB high memWinBaseHiMask low mask shift) i =
      (decide (12 ≤ i ∧ i < 20) && bit high (i - 12) ||
        bit low (shift.toNat + i) && bit mask (shift.toNat + i)) := by
  have hfield : (decide (12 ≤ i) && (bit high (i - 12) && decide (0 ≤ i - 12 ∧ i - 12 < 8))) =
      (decide (12 ≤ i ∧ i < 20) && bit high (i - 12)) := by
    by_cases h : 12 ≤ i <;> by_cases h' : i < 20 <;> simp [h, h'] <;> omega
  unfold joinedMB
  rw [bit_or, bit_shiftLeft hi _ (by decide), bit_shiftRight _ _ hshift, bit_and, bit_and,
    bit_baseHiMask, ← hfield]
  rfl

/-- The high part of a number is in place. -/
theorem bit_raisedHigh_field (hlow : 12 ≤ i) (hhigh : i < 20) (prior : UInt32) (mb : UInt64) :
    bit (raisedHigh prior memWinBaseHiMask mb) (i - 12) = mb.toNat.testBit i := by
  have hmask : decide (0 ≤ i - 12 ∧ i - 12 < 8) = true := decide_eq_true (by omega)
  rw [bit_raisedHigh (by omega), bit_baseHiMask, hmask, Bool.not_true, Bool.and_false,
    Bool.false_or, Nat.add_sub_cancel' hlow]

theorem testBit_of_lt {n : Nat} (hn : n < 2 ^ 20) (h : 20 ≤ i) : n.testBit i = false :=
  Nat.testBit_lt_two_pow (Nat.lt_of_lt_of_le hn (Nat.pow_le_pow_right (by decide) h))

end Bitwise

/-! ## The parts of the window -/

section Parts

variable {baseMB limitMB : UInt64} (high prior : UInt32)

/-- The base decodes: nothing else is shifted onto it. -/
theorem joinedMB_base (hbase : baseMB.toNat < 2 ^ 20) :
    (joinedMB (raisedHigh high memWinBaseHiMask baseMB) memWinBaseHiMask
      (packedBaseLimit prior baseMB limitMB) memWinBaseMask 4).toNat = baseMB.toNat := by
  refine (toNat_eq_iff (by omega)).mpr fun i hi => ?_
  have hfour : (4 : UInt32).toNat = 4 := rfl
  rw [bit_joinedMB hi _ _ _ (by decide), bit_baseMask, hfour]
  rcases Nat.lt_or_ge i 12 with hlow | hlow
  · rw [bit_packedBaseLimit (by omega)]
    simp [show ¬12 ≤ i by omega, show 4 + i < 16 by omega, show ¬20 ≤ 4 + i by omega]
  · rw [decide_eq_false (show ¬(4 ≤ 4 + i ∧ 4 + i < 16) by omega), Bool.and_false, Bool.or_false]
    rcases Nat.lt_or_ge i 20 with hhigh | hhigh
    · rw [bit_raisedHigh_field hlow hhigh, decide_eq_true ⟨hlow, hhigh⟩, Bool.true_and]
    · rw [testBit_of_lt hbase hhigh, decide_eq_false (by omega), Bool.false_and]

/-- The limit decodes if the base's uppermost bits, which are shifted onto it, are bits of it. -/
theorem joinedMB_limit_iff (hbase : baseMB.toNat < 2 ^ 20) (hlimit : limitMB.toNat < 2 ^ 20) :
    (joinedMB (raisedHigh high memWinBaseHiMask limitMB) memWinBaseHiMask
      (packedBaseLimit prior baseMB limitMB) memWinLimitMask 20).toNat = limitMB.toNat ↔
    ∀ i < 4, baseMB.toNat.testBit (16 + i) = true → limitMB.toNat.testBit i = true := by
  have htwenty : (20 : UInt32).toNat = 20 := rfl
  have hbit : ∀ i < 32, bit (joinedMB (raisedHigh high memWinBaseHiMask limitMB) memWinBaseHiMask
      (packedBaseLimit prior baseMB limitMB) memWinLimitMask 20) i =
        (limitMB.toNat.testBit i || baseMB.toNat.testBit (16 + i)) := by
    intro i hi
    rw [bit_joinedMB hi _ _ _ (by decide), bit_limitMask, htwenty]
    rcases Nat.lt_or_ge i 12 with hlow | hlow
    · rw [bit_packedBaseLimit (by omega)]
      simp [show ¬12 ≤ i by omega, show 20 + i < 32 by omega, show ¬20 + i < 16 by omega,
        show 4 ≤ 20 + i by omega, show 20 + i - 4 = 16 + i by omega, Bool.or_comm]
    · rw [decide_eq_false (show ¬(20 ≤ 20 + i ∧ 20 + i < 32) by omega), Bool.and_false,
        Bool.or_false, testBit_of_lt hbase (show 20 ≤ 16 + i by omega), Bool.or_false]
      rcases Nat.lt_or_ge i 20 with hhigh | hhigh
      · rw [bit_raisedHigh_field hlow hhigh, decide_eq_true ⟨hlow, hhigh⟩, Bool.true_and]
      · rw [testBit_of_lt hlimit hhigh, decide_eq_false (by omega), Bool.false_and]
  rw [toNat_eq_iff (by omega)]
  constructor
  · intro h i hi hset
    have hsame := (hbit i (by omega)).symm.trans (h i (by omega))
    rw [hset, Bool.or_true] at hsame
    exact hsame.symm
  · intro h i hi
    rw [hbit i hi]
    rcases Nat.lt_or_ge i 4 with hlow | hlow
    · cases hset : baseMB.toNat.testBit (16 + i) with
      | false => rw [Bool.or_false]
      | true => rw [h i hlow hset, Bool.or_true]
    · rw [testBit_of_lt hbase (show 20 ≤ 16 + i by omega), Bool.or_false]

/-- The bits between the fields stay if those of the base that are shifted onto them were set. -/
theorem packedBaseLimit_kept_iff (baseMB limitMB : UInt64) :
    packedBaseLimit prior baseMB limitMB &&& ~~~(memWinBaseMask ||| memWinLimitMask) =
        prior &&& ~~~(memWinBaseMask ||| memWinLimitMask) ↔
      ∀ i < 4, baseMB.toNat.testBit (12 + i) = true → bit prior (16 + i) = true := by
  have hout : ∀ i < 32, bit (~~~(memWinBaseMask ||| memWinLimitMask)) i =
      decide (i < 4 ∨ 16 ≤ i ∧ i < 20) := by decide
  constructor
  · intro h i hi hset
    have hbit := congrArg (bit · (16 + i)) h
    simp only [bit_and] at hbit
    rw [hout _ (by omega), decide_eq_true (by omega), Bool.and_true, Bool.and_true,
      bit_packedBaseLimit (by omega)] at hbit
    simpa [show 4 ≤ 16 + i by omega, show 16 + i - 4 = 12 + i by omega, hset] using hbit.symm
  · intro h
    refine ext fun i hi => ?_
    rw [bit_and, bit_and, hout i hi, bit_packedBaseLimit hi]
    rcases Nat.lt_or_ge i 4 with hlow | hlow
    · simp [show ¬4 ≤ i by omega, show ¬20 ≤ i by omega]
    · by_cases hmid : 16 ≤ i ∧ i < 20
      · -- between the fields
        have hbit := h (i - 16) (by omega)
        rw [show 12 + (i - 16) = i - 4 by omega, Nat.add_sub_cancel' hmid.1] at hbit
        cases hset : baseMB.toNat.testBit (i - 4) with
        | false => simp [hmid, show ¬20 ≤ i by omega, show ¬i < 16 by omega]
        | true => simp [hbit hset, hlow]
      · rw [decide_eq_false (show ¬(i < 4 ∨ 16 ≤ i ∧ i < 20) by omega), Bool.and_false,
          Bool.and_false]

/-- The rest of a high register stays: the number has no more bits. -/
theorem raisedHigh_kept {mb : UInt64} (hmb : mb.toNat < 2 ^ 20) :
    raisedHigh prior memWinBaseHiMask mb &&& ~~~memWinBaseHiMask =
      prior &&& ~~~memWinBaseHiMask := by
  refine ext fun i hi => ?_
  rw [bit_and, bit_and, bit_raisedHigh hi, bit_not hi, bit_baseHiMask]
  rcases Nat.lt_or_ge i 8 with hlow | hlow
  · rw [decide_eq_true ⟨Nat.zero_le i, hlow⟩, Bool.not_true, Bool.and_false, Bool.and_false]
  · rw [testBit_of_lt hmb (show 20 ≤ 12 + i by omega), decide_eq_false (by omega), Bool.not_false,
      Bool.and_true, Bool.and_true, Bool.or_false]

end Parts

/-! ## The window -/

/-- **A window is set as it should be** exactly where the upper bits of the base are hidden. -/
theorem pcieSetupOutboundWindow_set_iff (hw : RcHardware) (s : RcState) (window : BcmPcieRcWindow)
    {index : Nat} (hindex : index < pcieNumOutboundWindows)
    (hlow : window.cpuBase.toNat < 2 ^ 40)
    (hne : 0 < window.cpuBase.toNat + window.size.toNat)
    (hlast : window.cpuBase.toNat + window.size.toNat ≤ 2 ^ 40) :
    OutboundWindowSet index window s (pcieSetupOutboundWindow hw index window s) ↔
      SpillHidden window (s.reg (pcieMemWinBaseLimit index)) := by
  have hbaseMB := toNat_baseMB window
  have hlimitMB := toNat_limitMB hne hlast
  have hbase : window.baseMB.toNat < 2 ^ 20 := by omega
  have hlimit : window.limitMB.toNat < 2 ^ 20 := by
    unfold BcmPcieRcWindow.last at hlimitMB
    omega
  have hbits : ∀ i, window.baseMB.toNat.testBit i = window.cpuBase.toNat.testBit (20 + i) :=
    fun i => by rw [hbaseMB, Nat.testBit_div_two_pow, Nat.add_comm]
  have hlimitBits : ∀ i, window.limitMB.toNat.testBit i = window.last.testBit (20 + i) :=
    fun i => by rw [hlimitMB, Nat.testBit_div_two_pow, Nat.add_comm]
  have hkept := packedBaseLimit_kept_iff (s.reg (pcieMemWinBaseLimit index)) window.baseMB
    window.limitMB
  have hdecodes := joinedMB_limit_iff (s.reg (pcieMemWinLimitHi index))
    (s.reg (pcieMemWinBaseLimit index)) hbase hlimit
  simp only [hbits, hlimitBits, ← Nat.add_assoc] at hkept hdecodes
  rw [hlimitMB] at hdecodes
  constructor
  · intro h
    refine ⟨hkept.mp ?_, hdecodes.mp ?_⟩
    · have hsame := h.baseLimitKept
      rwa [reg_baseLimit hindex] at hsame
    · have hsame := h.limit
      unfold windowLimitMB at hsame
      rwa [reg_limitHi hindex, reg_baseLimit hindex] at hsame
  · rintro ⟨hmiddle, hupper⟩
    refine ⟨?_, ?_, ?_, ?_, ?_⟩
    · unfold windowBaseMB
      rw [reg_baseHi hindex, reg_baseLimit hindex, ← hbaseMB]
      exact joinedMB_base _ _ hbase
    · unfold windowLimitMB
      rw [reg_limitHi hindex, reg_baseLimit hindex]
      exact hdecodes.mpr hupper
    · rw [reg_baseLimit hindex]
      exact hkept.mpr hmiddle
    · rw [reg_baseHi hindex]
      exact raisedHigh_kept _ hbase
    · rw [reg_limitHi hindex]
      exact raisedHigh_kept _ hlimit

/-! ### Two windows -/

/-- A window of one megabyte. -/
def megabyteAt (cpuBase : UInt64) : BcmPcieRcWindow := ⟨cpuBase, 0x80000000, 0x100000⟩

/-- Registers that are all clear. -/
def clearRegisters : RcState := ⟨fun _ => 0, 0⟩

/-- A window below 4 GiB. -/
theorem pcieSetupOutboundWindow_set_low :
    OutboundWindowSet 0 (megabyteAt 0x80000000) clearRegisters
        (pcieSetupOutboundWindow (fun _ _ => 0) 0 (megabyteAt 0x80000000) clearRegisters) ↔
      SpillHidden (megabyteAt 0x80000000) (clearRegisters.reg (pcieMemWinBaseLimit 0)) :=
  pcieSetupOutboundWindow_set_iff (fun _ _ => 0) clearRegisters (megabyteAt 0x80000000)
    (by decide) (by decide) (by decide) (by decide)

/-- At the base of the second controller's 32-bit window, bits between the fields are set; and at
64 GiB the limit decodes to the next megabyte. -/
theorem pcieSetupOutboundWindow_spills :
    ¬ OutboundWindowSet 0 (megabyteAt 0x1B00000000) clearRegisters
        (pcieSetupOutboundWindow (fun _ _ => 0) 0 (megabyteAt 0x1B00000000) clearRegisters) ∧
    ¬ OutboundWindowSet 0 (megabyteAt 0x1000000000) clearRegisters
        (pcieSetupOutboundWindow (fun _ _ => 0) 0 (megabyteAt 0x1000000000) clearRegisters) := by
  constructor
  · intro h
    exact absurd h.baseLimitKept (by decide)
  · intro h
    exact absurd h.limit (by decide)

end Rpi5Uefi
