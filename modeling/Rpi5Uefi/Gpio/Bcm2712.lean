import Rpi5Uefi.Lib.RegisterFields

/-!
# The pins of the BCM2712 (`Bcm2712GpioLib`)

Two controllers; of each pin the function and the pull are fields of the pin controller's registers,
by a table, and the value and the direction are a bit each of the bank's registers.

* **`pinField`**, **`pinField_apart`**: the field a setting is in; those of two pins are apart.
* **`gpioSet_independent_iff`**: when a setter leaves the other pins alone and is read back.

A shift by 32 or more is undefined, and is `none`. The assertions are left out: what is behind them
returns where they would fail.
-/

namespace Rpi5Uefi.Gpio

open RegisterFields

/-! ## The tables -/

/-- `PINCTRL_REG_UNUSED`. -/
def pinctrlRegUnused : Nat := 0xFFFF

/-- `BCM2712_PINCTRL_REGISTERS`. The fields are inside their registers. -/
structure PinctrlRegisters where
  muxReg : Nat
  muxBit : Nat
  ctlReg : Nat
  ctlBit : Nat
  muxBit_le : muxBit + 4 ≤ 32 := by decide
  ctlBit_le : ctlBit + 2 ≤ 32 := by decide

/-- A pin without fields in the pin controller. -/
def unusedPin : PinctrlRegisters := .mk pinctrlRegUnused 0 pinctrlRegUnused 0

/-- `Bcm2712PinctrlGioRegisters`. -/
def bcm2712PinctrlGioRegisters : List PinctrlRegisters := [
  -- from 0 on
  unusedPin, .mk 0x0 0 0x10 10, .mk 0x0 4 0x10 12, .mk 0x0 8 0x10 14, .mk 0x0 12 0x10 16,
  unusedPin, unusedPin, unusedPin,
  -- from 8 on
  unusedPin, unusedPin, .mk 0x0 16 0x10 18, .mk 0x0 20 0x10 20, .mk 0x0 24 0x10 22,
  .mk 0x0 28 0x10 24, .mk 0x4 0 0x10 26, .mk 0x4 4 0x10 28,
  -- from 16 on
  unusedPin, unusedPin, .mk 0x4 8 0x14 0, .mk 0x4 12 0x14 2, .mk 0x4 16 0x14 4,
  .mk 0x4 20 0x14 6, .mk 0x4 24 0x14 8, .mk 0x4 28 0x14 10,
  -- from 24 on
  .mk 0x8 0 0x14 12, .mk 0x8 4 0x14 14, .mk 0x8 8 0x14 16, .mk 0x8 12 0x14 18,
  .mk 0x8 16 0x14 20, .mk 0x8 20 0x14 22, .mk 0x8 24 0x14 24, .mk 0x8 28 0x14 26,
  -- from 32 on
  .mk 0xC 0 0x14 28, .mk 0xC 4 0x18 0, .mk 0xC 8 0x18 2, .mk 0xC 12 0x18 4,
  .mk pinctrlRegUnused 0 0x18 6, .mk pinctrlRegUnused 0 0x18 8, .mk pinctrlRegUnused 0 0x18 10,
  .mk pinctrlRegUnused 0 0x18 12,
  -- from 40 on
  .mk pinctrlRegUnused 0 0x18 14, .mk pinctrlRegUnused 0 0x18 16,
  .mk pinctrlRegUnused 0 0x18 18, .mk pinctrlRegUnused 0 0x18 20,
  .mk pinctrlRegUnused 0 0x18 22, .mk pinctrlRegUnused 0 0x18 24,
  .mk pinctrlRegUnused 0 0x18 26]

/-- `Bcm2712PinctrlGioAonRegisters`. -/
def bcm2712PinctrlGioAonRegisters : List PinctrlRegisters := [
  -- from 0 on
  .mk 0xC 0 0x14 18, .mk 0xC 4 0x14 20, .mk 0xC 8 0x14 22, .mk 0xC 12 0x14 24,
  .mk 0xC 16 0x14 26, .mk 0xC 20 0x14 28, .mk 0xC 24 0x18 0, unusedPin,
  -- from 8 on
  .mk 0xC 28 0x18 2, .mk 0x10 0 0x18 4, unusedPin, unusedPin, .mk 0x10 4 0x18 6,
  .mk 0x10 8 0x18 8, .mk 0x10 12 0x18 10, unusedPin,
  -- from 16 on
  unusedPin, unusedPin, unusedPin, unusedPin, unusedPin, unusedPin, unusedPin, unusedPin,
  -- from 24 on
  unusedPin, unusedPin, unusedPin, unusedPin, unusedPin, unusedPin, unusedPin, unusedPin,
  -- from 32 on
  .mk 0x0 0 pinctrlRegUnused 0, .mk 0x0 4 pinctrlRegUnused 0, .mk 0x0 8 pinctrlRegUnused 0,
  .mk 0x0 12 pinctrlRegUnused 0, .mk 0x4 0 pinctrlRegUnused 0, .mk 0x8 0 pinctrlRegUnused 0]

/-- No two pins of a table share bits. -/
structure PinsApart (table : List PinctrlRegisters) : Prop where
  mux : table.Pairwise fun a b => a.muxReg ≠ pinctrlRegUnused → b.muxReg ≠ pinctrlRegUnused →
    a.muxReg ≠ b.muxReg ∨ a.muxBit + 4 ≤ b.muxBit ∨ b.muxBit + 4 ≤ a.muxBit
  ctl : table.Pairwise fun a b => a.ctlReg ≠ pinctrlRegUnused → b.ctlReg ≠ pinctrlRegUnused →
    a.ctlReg ≠ b.ctlReg ∨ a.ctlBit + 2 ≤ b.ctlBit ∨ b.ctlBit + 2 ≤ a.ctlBit
  mux_ctl : ∀ a ∈ table, ∀ b ∈ table, a.muxReg ≠ pinctrlRegUnused →
    b.ctlReg ≠ pinctrlRegUnused → a.muxReg ≠ b.ctlReg

/-- `BCM2712_GPIO_CONTROLLER`. The bank's registers are behind those of the pin controller. -/
structure GpioController where
  gioBase : Nat
  pinctrlBase : Nat
  pinctrlRegisters : List PinctrlRegisters
  apart : PinsApart pinctrlRegisters
  below : ∀ regs ∈ pinctrlRegisters,
    (regs.muxReg ≠ pinctrlRegUnused → pinctrlBase + regs.muxReg < gioBase) ∧
      (regs.ctlReg ≠ pinctrlRegUnused → pinctrlBase + regs.ctlReg < gioBase)

/-- `Controllers`. -/
def gpioControllers : List GpioController := [
  { gioBase := 0x107D508500
    pinctrlBase := 0x107D504100
    pinctrlRegisters := bcm2712PinctrlGioRegisters
    apart := ⟨by decide +kernel, by decide +kernel, by decide +kernel⟩
    below := by decide +kernel },
  { gioBase := 0x107D517C00
    pinctrlBase := 0x107D510700
    pinctrlRegisters := bcm2712PinctrlGioAonRegisters
    apart := ⟨by decide +kernel, by decide +kernel, by decide +kernel⟩
    below := by decide +kernel }]

/-- `GPIOLIB_ASSERT_COMMON_PARAMS`: the controller and the pin's registers, or the failure. -/
def gpioPin (type pin : Nat) : Option (GpioController × PinctrlRegisters) :=
  gpioControllers[type]?.bind fun controller =>
    controller.pinctrlRegisters[pin]?.map fun regs => (controller, regs)

/-! ## The functions -/

/-- `BCM2712_GPIO_ALT_COUNT`. -/
def gpioAltCount : UInt32 := 9

/-- `BCM2712_GPIO_PIN_PULL_NONE`. -/
def gpioPinPullNone : UInt32 := 0

/-- `BCM2712_GPIO_PIN_PULL_DOWN`. -/
def gpioPinPullDown : UInt32 := 1

/-- `BCM2712_GPIO_PIN_PULL_UP`. -/
def gpioPinPullUp : UInt32 := 2

/-- `BCM2712_GPIO_PIN_OUTPUT`. -/
def gpioPinOutput : UInt32 := 0

/-- `BCM2712_GPIO_PIN_INPUT`. -/
def gpioPinInput : UInt32 := 1

/-- `BCM2712_PINCTRL_FSEL_MASK`. -/
def pinctrlFselMask : UInt32 := 0xF

/-- `BCM2712_PINCTRL_PULL_MASK`. -/
def pinctrlPullMask : UInt32 := 0x3

/-- `BCM2712_GIO_DATA_REG`. -/
def gioDataReg : Nat := 0x4

/-- `BCM2712_GIO_IODIR_REG`. -/
def gioIodirReg : Nat := 0x8

/-- `BCM2712_GIO_BANK_OFFSET`. -/
def gioBankOffset (pin : Nat) : Nat := pin / 32 * (8 * 4)

def shiftLeft (a : UInt32) (n : Nat) : Option UInt32 :=
  if n < 32 then some (a <<< UInt32.ofNat n) else none

def shiftRight (a : UInt32) (n : Nat) : Option UInt32 :=
  if n < 32 then some (a >>> UInt32.ofNat n) else none

/-- `BCM2712_GIO_REG_BIT`. -/
def gioRegBit (pin : Nat) : Option UInt32 := shiftLeft 1 pin

/-- `MmioAndThenOr32`. -/
def mmioAndThenOr32 (r : Registers) (address : Nat) (andData orData : UInt32) : Registers :=
  Function.update r address (r address &&& andData ||| orData)

/-- `MmioOr32`. -/
def mmioOr32 (r : Registers) (address : Nat) (orData : UInt32) : Registers :=
  Function.update r address (r address ||| orData)

/-- `MmioAnd32`. -/
def mmioAnd32 (r : Registers) (address : Nat) (andData : UInt32) : Registers :=
  Function.update r address (r address &&& andData)

/-- `GpioGetFunction`. -/
def gpioGetFunction (r : Registers) (type pin : Nat) : Option UInt32 :=
  match gpioPin type pin with
  | none => some gpioAltCount
  | some (controller, regs) =>
    if regs.muxReg = pinctrlRegUnused then some gpioAltCount
    else do
      let value ← shiftRight (r (controller.pinctrlBase + regs.muxReg)) regs.muxBit
      some (value &&& pinctrlFselMask)

/-- `GpioSetFunction`. -/
def gpioSetFunction (r : Registers) (type pin : Nat) (function : UInt8) : Option Registers :=
  match gpioPin type pin with
  | none => some r
  | some (controller, regs) =>
    if regs.muxReg = pinctrlRegUnused then some r
    else do
      let mask ← shiftLeft pinctrlFselMask regs.muxBit
      let value ← shiftLeft function.toUInt32 regs.muxBit
      some (mmioAndThenOr32 r (controller.pinctrlBase + regs.muxReg) (~~~mask) value)

/-- `GpioGetPull`. -/
def gpioGetPull (r : Registers) (type pin : Nat) : Option UInt32 :=
  match gpioPin type pin with
  | none => some gpioPinPullNone
  | some (controller, regs) =>
    if regs.ctlReg = pinctrlRegUnused then some gpioPinPullNone
    else do
      let value ← shiftRight (r (controller.pinctrlBase + regs.ctlReg)) regs.ctlBit
      some (value &&& pinctrlPullMask)

/-- The test of `GpioSetPull` on its value. -/
def pullAccepted (pull : UInt32) : Bool :=
  pull == gpioPinPullNone || pull == gpioPinPullUp || pull == gpioPinPullDown

/-- `GpioSetPull`. -/
def gpioSetPull (r : Registers) (type pin : Nat) (pull : UInt32) : Option Registers :=
  match gpioPin type pin with
  | none => some r
  | some (controller, regs) =>
    if !pullAccepted pull then some r
    else if regs.ctlReg = pinctrlRegUnused then some r
    else do
      let mask ← shiftLeft pinctrlPullMask regs.ctlBit
      let value ← shiftLeft pull regs.ctlBit
      some (mmioAndThenOr32 r (controller.pinctrlBase + regs.ctlReg) (~~~mask) value)

/-- `GpioRead`. -/
def gpioRead (r : Registers) (type pin : Nat) : Option Bool :=
  match gpioPin type pin with
  | none => some false
  | some (controller, _) => do
    let bit ← gioRegBit pin
    some (r (controller.gioBase + gioBankOffset pin + gioDataReg) &&& bit != 0)

/-- `GpioWrite`. -/
def gpioWrite (r : Registers) (type pin : Nat) (value : Bool) : Option Registers :=
  match gpioPin type pin with
  | none => some r
  | some (controller, _) => do
    let bit ← gioRegBit pin
    let address := controller.gioBase + gioBankOffset pin + gioDataReg
    some (if value then mmioOr32 r address bit else mmioAnd32 r address (~~~bit))

/-- `GpioGetDirection`. -/
def gpioGetDirection (r : Registers) (type pin : Nat) : Option UInt32 :=
  match gpioPin type pin with
  | none => some gpioPinOutput
  | some (controller, _) => do
    let bit ← gioRegBit pin
    if r (controller.gioBase + gioBankOffset pin + gioIodirReg) &&& bit ≠ 0 then some gpioPinInput
    else some gpioPinOutput

/-- The test of `GpioSetDirection` on its value; no value fails it. -/
def directionAccepted (direction : UInt32) : Bool :=
  direction != gpioPinOutput || direction != gpioPinInput

/-- `GpioSetDirection`. -/
def gpioSetDirection (r : Registers) (type pin : Nat) (direction : UInt32) : Option Registers :=
  match gpioPin type pin with
  | none => some r
  | some (controller, _) =>
    if !directionAccepted direction then some r
    else
      let address := controller.gioBase + gioBankOffset pin + gioIodirReg
      if direction = gpioPinInput then do
        let bit ← gioRegBit pin
        some (mmioOr32 r address bit)
      else if direction = gpioPinOutput then do
        let bit ← gioRegBit pin
        some (mmioAnd32 r address (~~~bit))
      else some r

/-! ## The fields of a pin -/

inductive GpioSetting where
  | function
  | pull
  | value
  | direction

/-- Of the function and the pull there may be no register. -/
def GpioSetting.Present (regs : PinctrlRegisters) : GpioSetting → Prop
  | .function => regs.muxReg ≠ pinctrlRegUnused
  | .pull => regs.ctlReg ≠ pinctrlRegUnused
  | _ => True

/-- The field of a setting of a pin. In its bank a pin has the bit of its number there. -/
def pinField (controller : GpioController) (regs : PinctrlRegisters) (pin : Nat) :
    GpioSetting → Field
  | .function => ⟨controller.pinctrlBase + regs.muxReg, regs.muxBit, 4, by decide, regs.muxBit_le⟩
  | .pull => ⟨controller.pinctrlBase + regs.ctlReg, regs.ctlBit, 2, by decide, regs.ctlBit_le⟩
  | .value => ⟨controller.gioBase + gioBankOffset pin + gioDataReg, pin % 32, 1, by decide,
      by omega⟩
  | .direction => ⟨controller.gioBase + gioBankOffset pin + gioIodirReg, pin % 32, 1, by decide,
      by omega⟩

variable {controller : GpioController} {regs regs' : PinctrlRegisters} {type pin p q : Nat}
  {setting setting' : GpioSetting} {r r' : Registers}

theorem gpioPin_some (h : gpioPin type pin = some (controller, regs)) :
    controller.pinctrlRegisters[pin]? = some regs := by
  obtain ⟨found, -, hpin⟩ := Option.bind_eq_some_iff.mp h
  obtain ⟨regs', hregs, heq⟩ := Option.map_eq_some_iff.mp hpin
  cases heq
  exact hregs

/-- A relation between any two places of a list. -/
theorem pairwise_at {α : Type} {R : α → α → Prop} (hsymm : ∀ {a b}, R a b → R b a) {l : List α}
    (h : l.Pairwise R) {a b : α} (ha : l[p]? = some a) (hb : l[q]? = some b) (hne : p ≠ q) :
    R a b := by
  obtain ⟨hp, rfl⟩ := List.getElem?_eq_some_iff.mp ha
  obtain ⟨hq, rfl⟩ := List.getElem?_eq_some_iff.mp hb
  rcases Nat.lt_or_gt_of_ne hne with hlt | hgt
  · exact List.pairwise_iff_getElem.mp h p q hp hq hlt
  · exact hsymm (List.pairwise_iff_getElem.mp h q p hq hp hgt)

/-- **The settings of two pins are apart.** -/
theorem pinField_apart (hp : controller.pinctrlRegisters[p]? = some regs)
    (hq : controller.pinctrlRegisters[q]? = some regs') (hne : p ≠ q)
    (hpresent : setting.Present regs) (hpresent' : setting'.Present regs') :
    (pinField controller regs p setting).Apart (pinField controller regs' q setting') := by
  have happart := controller.apart
  have hmem := List.mem_of_getElem? hp
  have hmem' := List.mem_of_getElem? hq
  have hbelow := controller.below regs hmem
  have hbelow' := controller.below regs' hmem'
  unfold Field.Apart pinField gioBankOffset gioDataReg gioIodirReg
  cases setting with
  | function =>
    have hlt := hbelow.1 hpresent
    cases setting' with
    | function =>
      have hmux := pairwise_at (fun h hb ha => by have := h ha hb; omega) happart.mux hp hq hne
        hpresent hpresent'
      simp only
      omega
    | pull =>
      have hne := happart.mux_ctl regs hmem regs' hmem' hpresent hpresent'
      exact Or.inl fun h => hne (Nat.add_left_cancel h)
    | value => exact Or.inl (by simp only; omega)
    | direction => exact Or.inl (by simp only; omega)
  | pull =>
    have hlt := hbelow.2 hpresent
    cases setting' with
    | function =>
      have hne := happart.mux_ctl regs' hmem' regs hmem hpresent' hpresent
      exact Or.inl fun h => hne (Nat.add_left_cancel h).symm
    | pull =>
      have hctl := pairwise_at (fun h hb ha => by have := h ha hb; omega) happart.ctl hp hq hne
        hpresent hpresent'
      simp only
      omega
    | value => exact Or.inl (by simp only; omega)
    | direction => exact Or.inl (by simp only; omega)
  | value =>
    cases setting' with
    | function =>
      have hlt := hbelow'.1 hpresent'
      exact Or.inl (by simp only; omega)
    | pull =>
      have hlt := hbelow'.2 hpresent'
      exact Or.inl (by simp only; omega)
    | value =>
      simp only
      omega
    | direction => exact Or.inl (by simp only; omega)
  | direction =>
    cases setting' with
    | function =>
      have hlt := hbelow'.1 hpresent'
      exact Or.inl (by simp only; omega)
    | pull =>
      have hlt := hbelow'.2 hpresent'
      exact Or.inl (by simp only; omega)
    | value => exact Or.inl (by simp only; omega)
    | direction =>
      simp only
      omega

/-! ## The functions on the fields -/

theorem shiftLeft_eq (a : UInt32) {n : Nat} (hn : n < 32) :
    shiftLeft a n = some (a <<< UInt32.ofNat n) := if_pos hn

theorem shiftRight_eq (a : UInt32) {n : Nat} (hn : n < 32) :
    shiftRight a n = some (a >>> UInt32.ofNat n) := if_pos hn

theorem gpioGetFunction_eq (h : gpioPin type pin = some (controller, regs))
    (hpresent : GpioSetting.function.Present regs) (r : Registers) :
    gpioGetFunction r type pin = some ((pinField controller regs pin .function).get r) := by
  have hbit := regs.muxBit_le
  unfold gpioGetFunction
  rw [h]
  simp only [if_neg hpresent, shiftRight_eq _ (show regs.muxBit < 32 by omega)]
  rfl

theorem gpioSetFunction_eq (h : gpioPin type pin = some (controller, regs))
    (hpresent : GpioSetting.function.Present regs) (r : Registers) (function : UInt8) :
    gpioSetFunction r type pin function =
      some ((pinField controller regs pin .function).set function.toUInt32 r) := by
  have hbit := regs.muxBit_le
  unfold gpioSetFunction
  rw [h]
  simp only [if_neg hpresent, shiftLeft_eq _ (show regs.muxBit < 32 by omega)]
  rfl

theorem gpioGetPull_eq (h : gpioPin type pin = some (controller, regs))
    (hpresent : GpioSetting.pull.Present regs) (r : Registers) :
    gpioGetPull r type pin = some ((pinField controller regs pin .pull).get r) := by
  have hbit := regs.ctlBit_le
  unfold gpioGetPull
  rw [h]
  simp only [if_neg hpresent, shiftRight_eq _ (show regs.ctlBit < 32 by omega)]
  rfl

theorem gpioSetPull_eq (h : gpioPin type pin = some (controller, regs))
    (hpresent : GpioSetting.pull.Present regs) (r : Registers) {pull : UInt32}
    (haccepted : pullAccepted pull = true) :
    gpioSetPull r type pin pull = some ((pinField controller regs pin .pull).set pull r) := by
  have hbit := regs.ctlBit_le
  unfold gpioSetPull
  rw [h]
  simp only [haccepted, Bool.not_true, Bool.false_eq_true, if_false, if_neg hpresent,
    shiftLeft_eq _ (show regs.ctlBit < 32 by omega)]
  rfl

theorem gioRegBit_of_ge (h : 32 ≤ pin) : gioRegBit pin = none := if_neg (by omega)

/-- In the first bank the bit of the pin's number is the mask of the pin's bit. -/
theorem gioRegBit_eq (controller : GpioController) (regs : PinctrlRegisters) (hpin : pin < 32) :
    gioRegBit pin = some ((pinField controller regs pin .value).mask <<<
      UInt32.ofNat (pinField controller regs pin .value).lo) := by
  unfold gioRegBit
  rw [shiftLeft_eq 1 hpin]
  show some (1 <<< UInt32.ofNat pin) = some (1 <<< UInt32.ofNat (pin % 32))
  rw [Nat.mod_eq_of_lt hpin]

theorem gpioRead_eq (h : gpioPin type pin = some (controller, regs)) (hpin : pin < 32)
    (r : Registers) :
    gpioRead r type pin = some ((pinField controller regs pin .value).get r != 0) := by
  have hzero := (pinField controller regs pin .value).and_mask_eq_zero_iff r
  have hread : gpioRead r type pin = some (r (pinField controller regs pin .value).addr &&&
      (pinField controller regs pin .value).mask <<<
        UInt32.ofNat (pinField controller regs pin .value).lo != 0) := by
    unfold gpioRead
    rw [h]
    show (gioRegBit pin).bind _ = _
    rw [gioRegBit_eq controller regs hpin]
    rfl
  rw [hread, Option.some_inj, Bool.eq_iff_iff, bne_iff_ne, bne_iff_ne]
  exact not_congr hzero


theorem gpioRead_of_ge (h : gpioPin type pin = some (controller, regs)) (hpin : 32 ≤ pin)
    (r : Registers) : gpioRead r type pin = none := by
  unfold gpioRead
  rw [h]
  show (gioRegBit pin).bind _ = none
  rw [gioRegBit_of_ge hpin]
  rfl

theorem gpioWrite_eq (h : gpioPin type pin = some (controller, regs)) (hpin : pin < 32)
    (r : Registers) (value : Bool) :
    gpioWrite r type pin value =
      some ((pinField controller regs pin .value).set value.toUInt32 r) := by
  unfold gpioWrite
  rw [h]
  show (gioRegBit pin).bind _ = _
  rw [gioRegBit_eq controller regs hpin]
  cases value with
  | false => exact congrArg some ((pinField controller regs pin .value).set_zero r).symm
  | true => exact congrArg some ((pinField controller regs pin .value).set_mask r).symm

/-- The direction's bit is 1 for an input. -/
theorem gpioGetDirection_eq (h : gpioPin type pin = some (controller, regs)) (hpin : pin < 32)
    (r : Registers) :
    gpioGetDirection r type pin = some ((pinField controller regs pin .direction).get r) := by
  have hzero := (pinField controller regs pin .direction).and_mask_eq_zero_iff r
  have hlt := (pinField controller regs pin .direction).get_lt r
  have hread : gpioGetDirection r type pin =
      if r (pinField controller regs pin .direction).addr &&&
        (pinField controller regs pin .direction).mask <<<
          UInt32.ofNat (pinField controller regs pin .direction).lo ≠ 0 then some gpioPinInput
      else some gpioPinOutput := by
    unfold gpioGetDirection
    rw [h]
    show (gioRegBit pin).bind _ = _
    rw [gioRegBit_eq controller regs hpin]
    rfl
  rw [hread]
  by_cases hget : (pinField controller regs pin .direction).get r = 0
  · rw [if_neg (not_not_intro (hzero.mpr hget)), hget]
    rfl
  · rw [if_pos (fun hand => hget (hzero.mp hand))]
    have hone : ((pinField controller regs pin .direction).get r).toNat = 1 := by
      have hne : ((pinField controller regs pin .direction).get r).toNat ≠ 0 := fun h0 =>
        hget (UInt32.toNat_inj.mp h0)
      have htwo : 2 ^ (pinField controller regs pin .direction).width = 2 := rfl
      omega
    exact congrArg some (UInt32.toNat_inj.mp hone).symm

theorem gpioGetDirection_of_ge (h : gpioPin type pin = some (controller, regs)) (hpin : 32 ≤ pin)
    (r : Registers) : gpioGetDirection r type pin = none := by
  unfold gpioGetDirection
  rw [h]
  show (gioRegBit pin).bind _ = none
  rw [gioRegBit_of_ge hpin]
  rfl

theorem directionAccepted_eq (direction : UInt32) : directionAccepted direction = true := by
  unfold directionAccepted
  by_cases hout : direction = gpioPinOutput
  · rw [hout]
    rfl
  · rw [bne_iff_ne.mpr hout, Bool.true_or]

theorem gpioSetDirection_eq (h : gpioPin type pin = some (controller, regs)) (hpin : pin < 32)
    (r : Registers) {direction : UInt32}
    (hdirection : direction = gpioPinOutput ∨ direction = gpioPinInput) :
    gpioSetDirection r type pin direction =
      some ((pinField controller regs pin .direction).set direction r) := by
  have hbit := gioRegBit_eq controller regs hpin
  unfold gpioSetDirection
  rw [h]
  simp only [directionAccepted_eq, Bool.not_true, Bool.false_eq_true, if_false, hbit]
  rcases hdirection with rfl | rfl
  · exact congrArg some ((pinField controller regs pin .direction).set_zero r).symm
  · exact congrArg some ((pinField controller regs pin .direction).set_mask r).symm

/-! ## Setting a pin -/

/-- A setter's call on a pin, and its value. -/
inductive GpioSet where
  | function (function : UInt8)
  | pull (pull : UInt32)
  | value (value : Bool)
  | direction (direction : UInt32)

namespace GpioSet

def kind : GpioSet → GpioSetting
  | .function _ => .function
  | .pull _ => .pull
  | .value _ => .value
  | .direction _ => .direction

def apply (r : Registers) (type pin : Nat) : GpioSet → Option Registers
  | .function f => gpioSetFunction r type pin f
  | .pull v => gpioSetPull r type pin v
  | .value b => gpioWrite r type pin b
  | .direction d => gpioSetDirection r type pin d

/-- The value passes the setter's own test, where it has one. -/
def Accepted : GpioSet → Prop
  | .pull v => pullAccepted v = true
  | .direction d => directionAccepted d = true
  | _ => True

/-- The getter gives what was set. -/
def ReadsBack (r : Registers) (type pin : Nat) : GpioSet → Prop
  | .function f => gpioGetFunction r type pin = some f.toUInt32
  | .pull v => gpioGetPull r type pin = some v
  | .value b => gpioRead r type pin = some b
  | .direction d => gpioGetDirection r type pin = some d

/-- A value that fits the field, and for the bank's registers a pin of the first bank. -/
def Fits (pin : Nat) : GpioSet → Prop
  | .function f => f.toNat < 16
  | .pull _ => True
  | .value _ => pin < 32
  | .direction d => (d = gpioPinOutput ∨ d = gpioPinInput) ∧ pin < 32

end GpioSet

/-- What the four getters say of a pin. -/
def pinView (r : Registers) (type pin : Nat) : Option (UInt32 × UInt32 × Bool × UInt32) := do
  let function ← gpioGetFunction r type pin
  let pull ← gpioGetPull r type pin
  let value ← gpioRead r type pin
  let direction ← gpioGetDirection r type pin
  some (function, pull, value, direction)

/-- The setter is defined and read back, and the other pin is as before. -/
def Independent (r : Registers) (type p q : Nat) (set : GpioSet) : Prop :=
  ∃ r', set.apply r type p = some r' ∧ set.ReadsBack r' type p ∧
    ∃ view, pinView r type q = some view ∧ pinView r' type q = some view

/-! ## The other pin -/

theorem gpioGetFunction_of_absent (h : gpioPin type pin = some (controller, regs))
    (habsent : ¬GpioSetting.function.Present regs) (r : Registers) :
    gpioGetFunction r type pin = some gpioAltCount := by
  unfold gpioGetFunction
  rw [h]
  exact if_pos (not_not.mp habsent)

theorem gpioGetPull_of_absent (h : gpioPin type pin = some (controller, regs))
    (habsent : ¬GpioSetting.pull.Present regs) (r : Registers) :
    gpioGetPull r type pin = some gpioPinPullNone := by
  unfold gpioGetPull
  rw [h]
  exact if_pos (not_not.mp habsent)

/-- The function and the pull of a pin are always defined. -/
theorem gpioGetFunction_some (h : gpioPin type pin = some (controller, regs)) (r : Registers) :
    ∃ function, gpioGetFunction r type pin = some function := by
  by_cases hpresent : GpioSetting.function.Present regs
  · exact ⟨_, gpioGetFunction_eq h hpresent r⟩
  · exact ⟨_, gpioGetFunction_of_absent h hpresent r⟩

theorem gpioGetPull_some (h : gpioPin type pin = some (controller, regs)) (r : Registers) :
    ∃ pull, gpioGetPull r type pin = some pull := by
  by_cases hpresent : GpioSetting.pull.Present regs
  · exact ⟨_, gpioGetPull_eq h hpresent r⟩
  · exact ⟨_, gpioGetPull_of_absent h hpresent r⟩

theorem pinView_isSome_iff (h : gpioPin type pin = some (controller, regs)) (r : Registers) :
    (pinView r type pin).isSome = true ↔ pin < 32 := by
  obtain ⟨function, hfunction⟩ := gpioGetFunction_some h r
  obtain ⟨pull, hpull⟩ := gpioGetPull_some h r
  unfold pinView
  rw [hfunction, hpull]
  rcases Nat.lt_or_ge pin 32 with hlt | hge
  · rw [gpioRead_eq h hlt, gpioGetDirection_eq h hlt]
    exact iff_of_true rfl hlt
  · rw [gpioRead_of_ge h hge]
    exact iff_of_false (by rintro ⟨⟩) (Nat.not_lt.mpr hge)

/-- The getters look at the pin's fields only. -/
theorem pinView_congr (h : gpioPin type pin = some (controller, regs)) (hpin : pin < 32)
    (hsame : ∀ setting : GpioSetting, setting.Present regs →
      (pinField controller regs pin setting).get r' =
        (pinField controller regs pin setting).get r) :
    pinView r' type pin = pinView r type pin := by
  have hfunction : gpioGetFunction r' type pin = gpioGetFunction r type pin := by
    by_cases hpresent : GpioSetting.function.Present regs
    · rw [gpioGetFunction_eq h hpresent, gpioGetFunction_eq h hpresent, hsame _ hpresent]
    · rw [gpioGetFunction_of_absent h hpresent, gpioGetFunction_of_absent h hpresent]
  have hpull : gpioGetPull r' type pin = gpioGetPull r type pin := by
    by_cases hpresent : GpioSetting.pull.Present regs
    · rw [gpioGetPull_eq h hpresent, gpioGetPull_eq h hpresent, hsame _ hpresent]
    · rw [gpioGetPull_of_absent h hpresent, gpioGetPull_of_absent h hpresent]
  unfold pinView
  rw [hfunction, hpull, gpioRead_eq h hpin, gpioRead_eq h hpin, gpioGetDirection_eq h hpin,
    gpioGetDirection_eq h hpin, hsame .value trivial, hsame .direction trivial]

/-! ## The pin itself -/

/-- What is written to the field. -/
def GpioSet.word : GpioSet → UInt32
  | .function f => f.toUInt32
  | .pull v => v
  | .value b => b.toUInt32
  | .direction d => d

variable {set : GpioSet}

theorem apply_eq (h : gpioPin type pin = some (controller, regs))
    (hpresent : set.kind.Present regs) (haccepted : set.Accepted) (hfits : set.Fits pin)
    (r : Registers) :
    set.apply r type pin = some ((pinField controller regs pin set.kind).set set.word r) := by
  cases set with
  | function f => exact gpioSetFunction_eq h hpresent r f
  | pull v => exact gpioSetPull_eq h hpresent r haccepted
  | value b => exact gpioWrite_eq h hfits r b
  | direction d => exact gpioSetDirection_eq h hfits.2 r hfits.1

theorem word_lt (controller : GpioController) (regs : PinctrlRegisters)
    (haccepted : set.Accepted) (hfits : set.Fits pin) :
    set.word.toNat < 2 ^ (pinField controller regs pin set.kind).width := by
  cases set with
  | function f => exact hfits
  | pull v =>
    have hcases : v = gpioPinPullNone ∨ v = gpioPinPullUp ∨ v = gpioPinPullDown := by
      simpa [GpioSet.Accepted, pullAccepted, or_assoc] using haccepted
    show v.toNat < 4
    rcases hcases with rfl | rfl | rfl <;> decide
  | value b =>
    show b.toUInt32.toNat < 2
    cases b <;> decide
  | direction d =>
    show d.toNat < 2
    rcases hfits.1 with rfl | rfl <;> decide

theorem readsBack_of_get (h : gpioPin type pin = some (controller, regs))
    (hpresent : set.kind.Present regs) (hfits : set.Fits pin)
    (hget : (pinField controller regs pin set.kind).get r = set.word) :
    set.ReadsBack r type pin := by
  cases set with
  | function f => exact (gpioGetFunction_eq h hpresent r).trans (congrArg some hget)
  | pull v => exact (gpioGetPull_eq h hpresent r).trans (congrArg some hget)
  | value b =>
    have hbit : (pinField controller regs pin .value).get r = b.toUInt32 := hget
    refine (gpioRead_eq h hfits r).trans (congrArg some ?_)
    rw [hbit]
    cases b <;> rfl
  | direction d => exact (gpioGetDirection_eq h hfits.2 r).trans (congrArg some hget)

/-- What is read back fits. -/
theorem fits_of_readsBack (h : gpioPin type pin = some (controller, regs))
    (hpresent : set.kind.Present regs) (hread : set.ReadsBack r type pin) : set.Fits pin := by
  cases set with
  | function f =>
    have hlt := (pinField controller regs pin .function).get_lt r
    have hget := Option.some_inj.mp ((gpioGetFunction_eq h hpresent r).symm.trans hread)
    rw [hget] at hlt
    exact hlt
  | pull v => trivial
  | value b =>
    refine Nat.lt_of_not_le fun hge => ?_
    cases (gpioRead_of_ge h hge r).symm.trans hread
  | direction d =>
    have hpin : pin < 32 := by
      refine Nat.lt_of_not_le fun hge => ?_
      cases (gpioGetDirection_of_ge h hge r).symm.trans hread
    have hlt := (pinField controller regs pin .direction).get_lt r
    have hget := Option.some_inj.mp ((gpioGetDirection_eq h hpin r).symm.trans hread)
    rw [hget] at hlt
    have hlt2 : d.toNat < 2 := hlt
    refine ⟨?_, hpin⟩
    rcases Nat.eq_zero_or_pos d.toNat with hzero | hpos
    · exact Or.inl (UInt32.toNat_inj.mp hzero)
    · exact Or.inr (UInt32.toNat_inj.mp (show d.toNat = 1 by omega))

/-- **When pins are independent.** For every content of the registers, both controllers and all
pairs of pins: a setter is read back and leaves the four settings of the other pin, with no
undefined shift, exactly if its value fits the field, the other pin is in the first bank, and so is
the pin itself where its value or direction is set. -/
theorem gpioSet_independent_iff (r : Registers) {type p q : Nat} {controller : GpioController}
    {regs regs' : PinctrlRegisters} (hp : gpioPin type p = some (controller, regs))
    (hq : gpioPin type q = some (controller, regs')) (hne : p ≠ q) (set : GpioSet)
    (hpresent : set.kind.Present regs) (haccepted : set.Accepted) :
    Independent r type p q set ↔ set.Fits p ∧ q < 32 := by
  constructor
  · rintro ⟨r', -, hread, view, hview, -⟩
    refine ⟨fits_of_readsBack hp hpresent hread, (pinView_isSome_iff hq r).mp ?_⟩
    rw [hview]
    rfl
  · rintro ⟨hfits, hlt⟩
    have hword := word_lt controller regs haccepted hfits
    obtain ⟨view, hview⟩ := Option.isSome_iff_exists.mp ((pinView_isSome_iff hq r).mpr hlt)
    refine ⟨_, apply_eq hp hpresent haccepted hfits r,
      readsBack_of_get hp hpresent hfits (Field.get_set hword), view, hview, ?_⟩
    rw [pinView_congr hq hlt fun setting hpresent' => Field.get_set_of_apart
      (pinField_apart (gpioPin_some hp) (gpioPin_some hq) hne hpresent hpresent') hword]
    exact hview

theorem gioPin1_independent :
    Independent (fun _ => 0x12345678) 0 1 2 (.function 7) ∧
      ¬Independent (fun _ => 0x12345678) 0 1 32 (.function 7) := by
  have hpin : gpioPin 0 1 = some (_, .mk 0x0 0 0x10 10) := rfl
  have hpresent : (GpioSet.function 7).kind.Present (.mk 0x0 0 0x10 10) := by
    show 0x0 ≠ pinctrlRegUnused
    decide
  have hnear := gpioSet_independent_iff (fun _ => 0x12345678) hpin
    (show gpioPin 0 2 = some (_, _) from rfl) (by decide) (.function 7) hpresent trivial
  have hfar := gpioSet_independent_iff (fun _ => 0x12345678) hpin
    (show gpioPin 0 32 = some (_, _) from rfl) (by decide) (.function 7) hpresent trivial
  exact ⟨hnear.mpr ⟨show 7 < 16 by decide, by decide⟩, fun h => absurd (hfar.mp h).2 (by decide)⟩

/-- The function 16 is accepted for pin 1 of `BCM2712_GIO`: it is not read back, and pin 2 changes
its function. A write to pin 32 shifts by 32. -/
theorem gioPin1_spills :
    (GpioSet.function 16).Accepted ∧ ¬Independent (fun _ => 0) 0 1 2 (.function 16) ∧
      (gpioSetFunction (fun _ => 0) 0 1 16).bind (gpioGetFunction · 0 1) = some 0 ∧
      gpioGetFunction (fun _ => 0) 0 2 = some 0 ∧
      (gpioSetFunction (fun _ => 0) 0 1 16).bind (gpioGetFunction · 0 2) = some 1 ∧
      (GpioSet.value true).Accepted ∧ ¬Independent (fun _ => 0) 0 32 1 (.value true) ∧
      gpioWrite (fun _ => 0) 0 32 true = none := by
  have hzero : (gpioSetFunction (fun _ => 0) 0 1 16).bind (gpioGetFunction · 0 1) = some 0 := by
    decide
  have hwrite : gpioWrite (fun _ => 0) 0 32 true = none := rfl
  refine ⟨trivial, ?_, hzero, by decide, by decide, trivial, ?_, hwrite⟩
  · rintro ⟨r', happly, hread, -⟩
    have hset : gpioSetFunction (fun _ => 0) 0 1 16 = some r' := happly
    rw [hset] at hzero
    exact absurd (hzero.symm.trans hread) (by decide)
  · rintro ⟨r', happly, -⟩
    exact absurd (hwrite.symm.trans happly) (by rintro ⟨⟩)

end Rpi5Uefi.Gpio
