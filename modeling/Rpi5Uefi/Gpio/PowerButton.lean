import Mathlib.Algebra.GroupWithZero.Nat
import Rpi5Uefi.Blcfg.PowerButton
import Rpi5Uefi.Blcfg.TranslatedReg
import Rpi5Uefi.Efi.Status
import Rpi5Uefi.Gpio.Bcm2712
import Rpi5Uefi.Lib.Run

/-!
# The power button (`PowerButtonDxe`)

The entry point finds the button in the device tree, and with it the bank and the bit of its pin; it
arms the detection of the edge that a press is, and from then on a timer polls. The first press that
a poll finds requests a reset, and no other does.

* **`gpioBank_eq_some_iff`**: the bank and the bit of a pin, among banks of any widths.
* **`powerButton_requests`**: over any run of edges and polls a reset is requested at most once, and
  exactly if a poll came after a press or while the button was down; every other pin, of every bank,
  is as it would be without the driver.

A shift by 32 or more is undefined, and so is a read behind the end of a property; both are `none`.
-/

namespace Rpi5Uefi.PowerButton

open Bits Bytes Gpio Transition

/-! ## The GIO block -/

/-- The registers of a bank: the levels, 1 for an input, 1 for a rising edge, 1 for both edges, 1
for edges that are latched, and the edges that were latched. -/
structure GioBank where
  data : UInt32
  iodir : UInt32
  ec : UInt32
  ei : UInt32
  mask : UInt32
  stat : UInt32

/-- The banks, by the addresses of their registers. -/
abbrev Gio := Nat → GioBank

/-- `GIO_BANK_SIZE`. -/
def gioBankSize : Nat := 0x20

/-- One pin's bit. -/
def pinBit (pin : Nat) : UInt32 := 1 <<< UInt32.ofNat pin

/-- `MmioWrite32` of the status: ones clear. -/
def GioBank.clearStat (bank : GioBank) (value : UInt32) : GioBank :=
  { bank with stat := bank.stat &&& ~~~value }

/-- A pin changes its level. The edge is latched where that is configured. -/
def GioBank.edge (bank : GioBank) (pin : Nat) : GioBank :=
  let rising := !bit bank.data pin
  { bank with
    data := bank.data ^^^ pinBit pin
    stat :=
      if bit bank.mask pin && (bit bank.ei pin || bit bank.ec pin == rising) then
        bank.stat ||| pinBit pin
      else bank.stat }

/-! ## The driver -/

/-- `EFI_RESET_TYPE`, as far as it is used. -/
inductive ResetType where
  | cold
  | shutdown
  deriving DecidableEq, Repr

/-- The driver's statics; `polling` holds while the timer is set. -/
structure ButtonDriver where
  bankBase : Nat
  bitMask : UInt32
  activeLow : Bool
  powerOffOnHalt : Bool
  triggered : Bool
  polling : Bool

/-- The GIO block, the driver, and the requests to `ResetSystem`. -/
structure ButtonSystem where
  gio : Gio
  driver : ButtonDriver
  resets : List ResetType

/-- The driver's bank changed. -/
def ButtonSystem.onBank (s : ButtonSystem) (f : GioBank → GioBank) : ButtonSystem :=
  { s with gio := Function.update s.gio s.driver.bankBase (f (s.gio s.driver.bankBase)) }

/-- `PowerButtonPoll`. -/
def powerButtonPoll (s : ButtonSystem) : ButtonSystem :=
  if s.driver.triggered then s
  else
    let bank := s.gio s.driver.bankBase
    let (pressed, s) :=
      if bank.stat &&& s.driver.bitMask ≠ 0 then (true, s.onBank (·.clearStat s.driver.bitMask))
      else
        let data := bank.data
        (if s.driver.activeLow then decide (data &&& s.driver.bitMask = 0)
          else decide (data &&& s.driver.bitMask ≠ 0), s)
    if !pressed then s
    else
      { s with
        driver := { s.driver with triggered := true, polling := false }
        resets := s.resets ++ [if s.driver.powerOffOnHalt then .shutdown else .cold] }

/-! ## The entry point -/

/-- What libfdt says of the tree: the nodes that `FdtNodeOffsetByCompatible` finds for `gpio-keys`
one after another, the subnodes of a node, and the node of a phandle. -/
structure ButtonTree where
  tree : DeviceTree
  gpioKeys : List Nat
  subnodes : Nat → List Nat
  byPhandle : Nat → Option Nat

/-- `AsciiStrCmp` of the label with `pwr_button`. -/
def isPowerButton (t : ButtonTree) (button : Nat) : Bool :=
  match t.tree.getProp button "label" with
  | none => false
  | some label => label.takeWhile (· != 0) == ascii "pwr_button"

/-- `FindPowerButton`: the controller, the number and the flags, where it returns TRUE. -/
def findPowerButton (t : ButtonTree) : Option (Nat × Nat × Nat) := do
  let button ← (t.gpioKeys.flatMap t.subnodes).find? (isPowerButton t)
  let gpios ← t.tree.getProp button "gpios"
  if gpios.length < 2 * 4 then none
  else do
    let controller ← t.byPhandle (fdtCell gpios 0)
    let prop ← t.tree.getProp controller "#gpio-cells"
    if prop.length ≠ 4 then none
    else
      let gpioCells := fdtCell prop 0
      if gpioCells < 1 ∨ gpioCells > 3 ∨ gpios.length < (1 + gpioCells) * 4 then none
      else
        some (controller, fdtCell gpios 1, if gpioCells ≥ 2 then fdtCell gpios gpioCells else 0)

/-- The loop over the widths, from `bank` on: the bank and the offset in it. -/
def gpioBank : List Nat → Nat → Nat → Option (Nat × Nat)
  | [], _, _ => none
  | width :: widths, bank, offset =>
    if offset < width then some (bank, offset) else gpioBank widths (bank + 1) (offset - width)

/-- The cells of a property. -/
def propCells (prop : List UInt8) : List Nat := (List.range (prop.length / 4)).map (fdtCell prop)

/-- The bank and the offset of a GPIO, by `brcm,gpio-bank-widths` where it is there. -/
def gpioPlace (widths : Option (List UInt8)) (gpioNumber : Nat) : Option (Nat × Nat) :=
  match widths with
  | none => some (gpioNumber / 32, gpioNumber % 32)
  | some prop =>
    if prop.length ≥ 4 then gpioBank (propCells prop) 0 gpioNumber
    else some (gpioNumber / 32, gpioNumber % 32)

/-- The button is made an input, its edge is detected and latched, and an old one is cleared. -/
def GioBank.arm (bank : GioBank) (bitMask : UInt32) (activeLow : Bool) : GioBank :=
  { bank with
    iodir := bank.iodir ||| bitMask
    ec := if activeLow then bank.ec &&& ~~~bitMask else bank.ec ||| bitMask
    ei := bank.ei &&& ~~~bitMask
    mask := bank.mask ||| bitMask }.clearStat bitMask

/-- What the entry point finds: the tree, where it is one, what `ReadPowerOffOnHalt` returns, and
what `CreateEvent` and `SetTimer` return. -/
structure ButtonPlatform where
  fdt : Option ButtonTree
  powerOffOnHalt : Bool
  createEvent : EfiStatus
  setTimer : EfiStatus

/-- The entry point behind the search. -/
def armButton (platform : ButtonPlatform) (t : ButtonTree) (controller gpioNumber flags : Nat)
    (gioBase : Nat) (s : ButtonSystem) : Option (EfiStatus × ButtonSystem) :=
  match gpioPlace (t.tree.getProp controller "brcm,gpio-bank-widths") gpioNumber with
  | none => some (.notFound, s)
  | some (bank, offset) => do
    let bitMask ← shiftLeft 1 offset
    let activeLow := flags % 2 = 1
    let driver : ButtonDriver :=
      { s.driver with
        bankBase := (gioBase + bank * gioBankSize) % 2 ^ 64
        bitMask := bitMask
        activeLow := activeLow
        powerOffOnHalt := platform.powerOffOnHalt }
    let armed := { s with driver }.onBank (·.arm bitMask activeLow)
    if platform.createEvent.isError then some (platform.createEvent, armed)
    else if platform.setTimer.isError then some (platform.setTimer, armed)
    else some (.success, { armed with driver := { armed.driver with polling := true } })

/-- `PowerButtonEntryPoint`. -/
def powerButtonEntryPoint (platform : ButtonPlatform) (s : ButtonSystem) :
    Option (EfiStatus × ButtonSystem) :=
  match platform.fdt with
  | none => some (.notFound, s)
  | some t =>
    match findPowerButton t with
    | none => some (.notFound, s)
    | some (controller, gpioNumber, flags) =>
      match getTranslatedRegAddress t.tree controller with
      | .error .beyondProperty => none
      | .error .returnFalse => some (.notFound, s)
      | .ok (gioBase, _) => armButton platform t controller gpioNumber flags gioBase s

/-! ## The bank of a pin -/

/-- **Banks of any widths**: the pin is in the bank where the widths before leave it an offset below
the bank's own. -/
theorem gpioBank_eq_some_iff {widths : List Nat} {first n bank offset : Nat} :
    gpioBank widths first n = some (bank, offset) ↔
      ∃ k width, bank = first + k ∧ widths[k]? = some width ∧ offset < width ∧
        (widths.take k).sum + offset = n := by
  induction widths generalizing first n with
  | nil => simp [gpioBank]
  | cons width widths ih =>
    unfold gpioBank
    by_cases hlt : n < width
    · rw [if_pos hlt]
      constructor
      · rintro ⟨⟩
        exact ⟨0, width, rfl, rfl, hlt, Nat.zero_add _⟩
      · rintro ⟨k, w, rfl, hk, hoffset, hsum⟩
        cases k with
        | zero =>
          simp only [List.take_zero, List.sum_nil, Nat.zero_add] at hsum
          rw [hsum]
          rfl
        | succ k =>
          rw [List.take_succ_cons, List.sum_cons] at hsum
          omega
    · rw [if_neg hlt, ih]
      constructor
      · rintro ⟨k, w, rfl, hk, hoffset, hsum⟩
        refine ⟨k + 1, w, by omega, hk, hoffset, ?_⟩
        rw [List.take_succ_cons, List.sum_cons]
        omega
      · rintro ⟨k, w, rfl, hk, hoffset, hsum⟩
        cases k with
        | zero =>
          simp only [List.take_zero, List.sum_nil, Nat.zero_add] at hsum
          simp only [List.getElem?_cons_zero, Option.some.injEq] at hk
          omega
        | succ k =>
          rw [List.take_succ_cons, List.sum_cons] at hsum
          exact ⟨k, w, by omega, hk, hoffset, by omega⟩

/-! ## One pin of a bank -/

/-- What the registers of a bank have for a pin. -/
structure PinState where
  level : Bool
  input : Bool
  rising : Bool
  both : Bool
  latches : Bool
  latched : Bool
  deriving DecidableEq, Repr

def GioBank.pin (bank : GioBank) (pin : Nat) : PinState where
  level := bit bank.data pin
  input := bit bank.iodir pin
  rising := bit bank.ec pin
  both := bit bank.ei pin
  latches := bit bank.mask pin
  latched := bit bank.stat pin

/-- An edge, as far as the pin itself sees it. -/
def PinState.edge (pin : PinState) : PinState :=
  { pin with
    level := !pin.level
    latched := pin.latched || pin.latches && (pin.both || pin.rising == !pin.level) }

/-- What arming makes of the button's pin. -/
def PinState.arm (pin : PinState) (activeLow : Bool) : PinState :=
  { pin with
    input := true
    rising := !activeLow
    both := false
    latches := true
    latched := false }

variable {bank : GioBank} {p q : Nat}

theorem bit_pinBit (hp : p < 32) : bit (pinBit p) q = decide (q = p) := bit_single hp

theorem pin_edge (hp : p < 32) : (bank.edge p).pin q =
    if q = p then (bank.pin q).edge else bank.pin q := by
  unfold GioBank.pin GioBank.edge PinState.edge
  by_cases hqp : q = p
  · subst hqp
    rw [if_pos rfl]
    simp only [bit_xor, bit_pinBit hp, decide_true, Bool.xor_true, PinState.mk.injEq, true_and]
    split
    · rename_i hlatch
      rw [bit_or, bit_pinBit hp, hlatch, decide_eq_true rfl]
    · rename_i hnot
      rw [Bool.eq_false_iff.mpr hnot, Bool.or_false]
  · rw [if_neg hqp]
    simp only [bit_xor, bit_pinBit hp, decide_eq_false hqp, Bool.xor_false, PinState.mk.injEq,
      true_and]
    split
    · rw [bit_or, bit_pinBit hp, decide_eq_false hqp, Bool.or_false]
    · rfl

theorem pin_clearStat (hp : p < 32) (hq : q < 32) : (bank.clearStat (pinBit p)).pin q =
    if q = p then { bank.pin q with latched := false } else bank.pin q := by
  unfold GioBank.pin GioBank.clearStat
  simp only [bit_and, bit_not hq, bit_pinBit hp]
  by_cases hqp : q = p
  · rw [if_pos hqp, decide_eq_true hqp, Bool.not_true, Bool.and_false]
  · rw [if_neg hqp, decide_eq_false hqp, Bool.not_false, Bool.and_true]

theorem pin_arm (hp : p < 32) (hq : q < 32) (activeLow : Bool) :
    (bank.arm (pinBit p) activeLow).pin q =
      if q = p then (bank.pin q).arm activeLow else bank.pin q := by
  unfold GioBank.arm
  rw [pin_clearStat hp hq]
  unfold GioBank.pin PinState.arm
  have hnot : bit (~~~pinBit p) q = !decide (q = p) := by rw [bit_not hq, bit_pinBit hp]
  by_cases hqp : q = p
  · rw [if_pos hqp, if_pos hqp]
    rw [decide_eq_true hqp] at hnot
    cases activeLow <;> simp [hnot, bit_pinBit hp, decide_eq_true hqp]
  · rw [if_neg hqp, if_neg hqp]
    rw [decide_eq_false hqp] at hnot
    cases activeLow <;> simp [hnot, bit_pinBit hp, decide_eq_false hqp]

/-! ## Runs -/

/-- What happens: the level of a pin changes, or the timer calls `PowerButtonPoll`. A call that was
queued when the timer was cancelled may still come. -/
inductive ButtonEvent where
  | edge (bankBase : Nat) (pin : Fin 32)
  | poll

/-- What an edge does to the GIO block. -/
def edgeStep (gio : Gio) : ButtonEvent → Gio
  | .edge bankBase pin => Function.update gio bankBase ((gio bankBase).edge pin)
  | .poll => gio

def ButtonSystem.step (s : ButtonSystem) : ButtonEvent → ButtonSystem
  | .edge bankBase pin => { s with gio := edgeStep s.gio (.edge bankBase pin) }
  | .poll => powerButtonPoll s

/-- The pin of the button, and the level it has when the button is up. -/
structure Button where
  bankBase : Nat
  pin : Fin 32
  activeLow : Bool

/-- The button is moved. -/
def ButtonEvent.Moves (button : Button) : ButtonEvent → Prop
  | .edge bankBase pin => bankBase = button.bankBase ∧ pin = button.pin
  | .poll => False

instance (button : Button) (e : ButtonEvent) : Decidable (e.Moves button) := by
  cases e <;> unfold ButtonEvent.Moves <;> infer_instance

/-- Is the button down, in a GIO block? -/
def Button.down (button : Button) (gio : Gio) : Bool :=
  ((gio button.bankBase).pin button.pin).level != button.activeLow

/-- Is it down after some events? -/
def Button.downAfter (button : Button) (gio : Gio) (es : List ButtonEvent) : Bool :=
  button.down (es.foldl edgeStep gio)

/-- The button goes down. -/
def Button.Press (button : Button) (gio : Gio) (pre : List ButtonEvent) (e : ButtonEvent) : Prop :=
  e.Moves button ∧ button.downAfter gio pre = false

/-- A poll finds the button down, or comes after a press. -/
def Button.Found (button : Button) (gio : Gio) (pre : List ButtonEvent) (e : ButtonEvent) : Prop :=
  e = .poll ∧ (button.downAfter gio pre = true ∨ Happens (button.Press gio) pre)

/-- The driver, as the entry point leaves it. -/
structure Armed (gio : Gio) (button : Button) (s : ButtonSystem) : Prop where
  bankBase : s.driver.bankBase = button.bankBase
  bitMask : s.driver.bitMask = pinBit button.pin
  activeLow : s.driver.activeLow = button.activeLow
  triggered : s.driver.triggered = false
  polling : s.driver.polling = true
  gio : s.gio = Function.update gio button.bankBase
    ((gio button.bankBase).arm (pinBit button.pin) button.activeLow)

/-- What the driver requests. -/
def ButtonSystem.resetType (s : ButtonSystem) : ResetType :=
  if s.driver.powerOffOnHalt then .shutdown else .cold

/-- **The driver after a run**, from the block `gio` before it was armed as `start`: as long as no
poll has found the button, its pin shows its level and whether it was pressed; then one reset is
requested. Every other pin is as if there were no driver. -/
structure Watches (gio : Gio) (button : Button) (start : ButtonSystem) (es : List ButtonEvent)
    (s : ButtonSystem) : Prop where
  bankBase : s.driver.bankBase = button.bankBase
  bitMask : s.driver.bitMask = pinBit button.pin
  activeLow : s.driver.activeLow = button.activeLow
  resetType : s.resetType = start.resetType
  spares : ∀ bankBase (pin : Fin 32), ¬(bankBase = button.bankBase ∧ pin = button.pin) →
    (s.gio bankBase).pin pin = ((es.foldl edgeStep gio) bankBase).pin pin
  quiet : ¬Happens (button.Found gio) es → s.driver.triggered = false ∧ s.resets = start.resets ∧
    ∃ latched, (s.gio button.bankBase).pin button.pin =
        ⟨((es.foldl edgeStep gio) button.bankBase).pin button.pin |>.level, true, !button.activeLow,
          false, true, latched⟩ ∧
      (latched = true ↔ Happens (button.Press gio) es)
  requested : Happens (button.Found gio) es →
    s.driver.triggered = true ∧ s.resets = start.resets ++ [start.resetType]

variable {gio : Gio} {button : Button} {start s : ButtonSystem} {es : List ButtonEvent}
  {e : ButtonEvent}

theorem Armed.watches (h : Armed gio button start) : Watches gio button start [] start where
  bankBase := h.bankBase
  bitMask := h.bitMask
  activeLow := h.activeLow
  resetType := rfl
  spares bankBase pin hother := by
    show (start.gio bankBase).pin pin = (gio bankBase).pin pin
    rw [h.gio]
    by_cases hbank : bankBase = button.bankBase
    · subst hbank
      have hpin : (pin : Nat) ≠ button.pin := fun heq => hother ⟨rfl, Fin.ext heq⟩
      rw [Function.update_self, pin_arm button.pin.isLt pin.isLt, if_neg hpin]
    · rw [Function.update_of_ne hbank]
  quiet _ := by
    refine ⟨h.triggered, rfl, false, ?_, iff_of_false Bool.false_ne_true (not_happens_nil _)⟩
    rw [h.gio, Function.update_self, pin_arm button.pin.isLt button.pin.isLt, if_pos rfl]
    rfl
  requested hfound := absurd hfound (not_happens_nil _)

/-- A pin after an edge somewhere. -/
theorem pin_edgeStep (gio : Gio) (bankBase bankBase' : Nat) (pin pin' : Fin 32) :
    ((edgeStep gio (.edge bankBase' pin')) bankBase).pin pin =
      if bankBase' = bankBase ∧ pin' = pin then ((gio bankBase).pin pin).edge
      else (gio bankBase).pin pin := by
  show (Function.update gio bankBase' ((gio bankBase').edge pin') bankBase).pin pin = _
  by_cases hbank : bankBase' = bankBase
  · subst hbank
    rw [Function.update_self, pin_edge pin'.isLt]
    by_cases hpin : pin' = pin
    · rw [if_pos (congrArg Fin.val hpin).symm, if_pos ⟨rfl, hpin⟩]
    · rw [if_neg fun heq => hpin (Fin.ext heq.symm), if_neg fun h => hpin h.2]
  · rw [Function.update_of_ne (Ne.symm hbank), if_neg fun h => hbank h.1]

theorem foldl_edgeStep_snoc (gio : Gio) (es : List ButtonEvent) (e : ButtonEvent) :
    (es ++ [e]).foldl edgeStep gio = edgeStep (es.foldl edgeStep gio) e := by
  rw [List.foldl_append]
  rfl

/-- An edge at any pin. -/
theorem Watches.edge (h : Watches gio button start es s) (bankBase : Nat) (pin : Fin 32) :
    Watches gio button start (es ++ [.edge bankBase pin]) (s.step (.edge bankBase pin)) where
  bankBase := h.bankBase
  bitMask := h.bitMask
  activeLow := h.activeLow
  resetType := h.resetType
  spares other q hother := by
    rw [foldl_edgeStep_snoc]
    show ((edgeStep s.gio _) other).pin q = _
    rw [pin_edgeStep, pin_edgeStep, h.spares other q hother]
  quiet hnot := by
    have hbefore : ¬Happens (button.Found gio) es := fun hf => hnot (happens_snoc_iff.mpr (.inl hf))
    obtain ⟨htriggered, hresets, latched, hpin, hlatched⟩ := h.quiet hbefore
    refine ⟨htriggered, hresets, ?_⟩
    rw [foldl_edgeStep_snoc, happens_snoc_iff]
    show ∃ _, ((edgeStep s.gio _) _).pin _ = _ ∧ _
    rw [pin_edgeStep, pin_edgeStep, hpin]
    by_cases hmoves : bankBase = button.bankBase ∧ pin = button.pin
    · -- the button itself: the edge is latched where it goes down
      rw [if_pos hmoves, if_pos hmoves]
      refine ⟨_, rfl, ?_⟩
      have hpress : button.Press gio es (.edge bankBase pin) ↔
          button.downAfter gio es = false := and_iff_right hmoves
      rw [← hlatched, hpress]
      unfold Button.downAfter Button.down
      cases latched <;> cases button.activeLow <;>
        cases (GioBank.pin (es.foldl edgeStep gio button.bankBase) button.pin).level <;> simp
    · rw [if_neg hmoves, if_neg hmoves]
      refine ⟨latched, rfl, ?_⟩
      rw [hlatched]
      exact (or_iff_left fun hpress => hmoves hpress.1).symm
  requested hfound := by
    rcases happens_snoc_iff.mp hfound with hbefore | ⟨hpoll, -⟩
    · exact h.requested hbefore
    · cases hpoll

/-- The pin that is polled stays the same. -/
def SameWatch (s s' : ButtonSystem) : Prop :=
  s'.driver.bankBase = s.driver.bankBase ∧ s'.driver.bitMask = s.driver.bitMask ∧
    s'.driver.activeLow = s.driver.activeLow

/-- A poll before the button was found: what it finds, and what it does. -/
theorem powerButtonPoll_quiet (h : Watches gio button start es s)
    (hnot : ¬Happens (button.Found gio) es) :
    (button.Found gio es .poll → (powerButtonPoll s).driver.triggered = true ∧
        (powerButtonPoll s).resets = start.resets ++ [start.resetType] ∧
        (powerButtonPoll s).resetType = s.resetType ∧
        SameWatch s (powerButtonPoll s) ∧
        ((powerButtonPoll s).gio = s.gio ∨
          (powerButtonPoll s).gio = Function.update s.gio button.bankBase
            ((s.gio button.bankBase).clearStat (pinBit button.pin)))) ∧
      (¬button.Found gio es .poll → powerButtonPoll s = s) := by
  obtain ⟨htriggered, hresets, latched, hpin, hlatched⟩ := h.quiet hnot
  have hlt := button.pin.isLt
  have hstat : bit (s.gio button.bankBase).stat button.pin = latched :=
    congrArg PinState.latched hpin
  have hdata : bit (s.gio button.bankBase).data button.pin =
      ((es.foldl edgeStep gio button.bankBase).pin button.pin).level :=
    congrArg PinState.level hpin
  have hlatch : (s.gio button.bankBase).stat &&& pinBit button.pin ≠ 0 ↔
      Happens (button.Press gio) es := by
    rw [← hlatched, ← hstat]
    exact and_single_ne_zero_iff hlt
  have hlevel : (s.gio button.bankBase).data &&& pinBit button.pin ≠ 0 ↔
      ((es.foldl edgeStep gio button.bankBase).pin button.pin).level = true := by
    rw [← hdata]
    exact and_single_ne_zero_iff hlt
  have hdown : (if button.activeLow then
        decide ((s.gio button.bankBase).data &&& pinBit button.pin = 0)
      else decide ((s.gio button.bankBase).data &&& pinBit button.pin ≠ 0)) =
        button.downAfter gio es := by
    unfold Button.downAfter Button.down
    by_cases hone : (s.gio button.bankBase).data &&& pinBit button.pin = 0
    · have hlow : ((es.foldl edgeStep gio button.bankBase).pin button.pin).level = false :=
        Bool.eq_false_iff.mpr fun hhigh => hlevel.mpr hhigh hone
      rw [hlow]
      cases button.activeLow <;> simp [hone]
    · rw [hlevel.mp hone]
      cases button.activeLow <;> simp [hone]
  unfold powerButtonPoll
  rw [htriggered, if_neg Bool.false_ne_true]
  simp only [h.bankBase, h.bitMask, h.activeLow]
  by_cases hpress : (s.gio button.bankBase).stat &&& pinBit button.pin ≠ 0
  · rw [if_pos hpress]
    refine ⟨fun _ => ⟨rfl, ?_, rfl, ⟨rfl, rfl, rfl⟩, Or.inr ?_⟩, fun hno => ?_⟩
    · rw [← h.resetType, ← hresets]
      rfl
    · show Function.update s.gio s.driver.bankBase _ = _
      rw [h.bankBase]
    · exact absurd ⟨rfl, Or.inr (hlatch.mp hpress)⟩ hno
  · rw [if_neg hpress, hdown]
    cases hd : button.downAfter gio es with
    | true =>
      refine ⟨fun _ => ⟨rfl, ?_, rfl, ⟨rfl, rfl, rfl⟩, Or.inl rfl⟩,
        fun hno => absurd ⟨rfl, Or.inl hd⟩ hno⟩
      rw [← h.resetType, ← hresets]
      rfl
    | false =>
      refine ⟨fun hfound => ?_, fun _ => rfl⟩
      rcases hfound.2 with hyes | hyes
      · rw [hd] at hyes
        cases hyes
      · exact absurd (hlatch.mpr hyes) hpress

/-- A poll. -/
theorem Watches.poll (h : Watches gio button start es s) :
    Watches gio button start (es ++ [.poll]) (powerButtonPoll s) := by
  have hedges : (es ++ [ButtonEvent.poll]).foldl edgeStep gio = es.foldl edgeStep gio :=
    foldl_edgeStep_snoc gio es .poll
  by_cases hbefore : Happens (button.Found gio) es
  · -- nothing is done any more
    obtain ⟨htriggered, hresets⟩ := h.requested hbefore
    have hsame : powerButtonPoll s = s := by
      unfold powerButtonPoll
      rw [htriggered, if_pos rfl]
    rw [hsame]
    exact {
      bankBase := h.bankBase
      bitMask := h.bitMask
      activeLow := h.activeLow
      resetType := h.resetType
      spares := by
        rw [hedges]
        exact h.spares
      quiet := fun hnot => absurd (happens_snoc_iff.mpr (.inl hbefore)) hnot
      requested := fun _ => ⟨htriggered, hresets⟩ }
  obtain ⟨hfinds, hidle⟩ := powerButtonPoll_quiet h hbefore
  by_cases hfound : button.Found gio es .poll
  · obtain ⟨htriggered, hresets, htype, ⟨hbank, hmask, hlow⟩, hgio⟩ := hfinds hfound
    exact {
      bankBase := hbank.trans h.bankBase
      bitMask := hmask.trans h.bitMask
      activeLow := hlow.trans h.activeLow
      resetType := htype.trans h.resetType
      spares := by
        intro bankBase pin hother
        rw [hedges, ← h.spares bankBase pin hother]
        rcases hgio with hgio | hgio
        · rw [hgio]
        · rw [hgio]
          by_cases hb : bankBase = button.bankBase
          · subst hb
            have hpin : (pin : Nat) ≠ button.pin := fun heq => hother ⟨rfl, Fin.ext heq⟩
            rw [Function.update_self, pin_clearStat button.pin.isLt pin.isLt, if_neg hpin]
          · rw [Function.update_of_ne hb]
      quiet := fun hnot => absurd (happens_snoc_iff.mpr (.inr hfound)) hnot
      requested := fun _ => ⟨htriggered, hresets⟩ }
  · have hnever : ¬Happens (button.Found gio) (es ++ [.poll]) :=
      fun hf => (happens_snoc_iff.mp hf).elim hbefore hfound
    obtain ⟨htriggered, hresets, latched, hpin, hlatched⟩ := h.quiet hbefore
    rw [hidle hfound]
    exact {
      bankBase := h.bankBase
      bitMask := h.bitMask
      activeLow := h.activeLow
      resetType := h.resetType
      spares := by
        rw [hedges]
        exact h.spares
      quiet := by
        intro _
        rw [hedges, happens_snoc_iff]
        exact ⟨htriggered, hresets, latched, hpin,
          hlatched.trans (or_iff_left fun hpress => hpress.1).symm⟩
      requested := fun hf => absurd hf hnever }

/-- The run lemma. -/
theorem Armed.run (h : Armed gio button start) (es : List ButtonEvent) :
    Watches gio button start es (es.foldl ButtonSystem.step start) := by
  induction es using List.reverseRecOn with
  | nil => exact h.watches
  | append_singleton es e ih =>
    rw [List.foldl_append]
    cases e with
    | edge bankBase pin => exact ih.edge bankBase pin
    | poll => exact ih.poll

/-! ## From the entry point on -/

/-- The button the tree names: its controller, its number there and its flags, by the address of the
controller and the widths of its banks. -/
def ButtonPlatform.Names (platform : ButtonPlatform) (button : Button) : Prop :=
  ∃ t controller gpioNumber flags gioBase gioSize bank, platform.fdt = some t ∧
    findPowerButton t = some (controller, gpioNumber, flags) ∧
    getTranslatedRegAddress t.tree controller = .ok (gioBase, gioSize) ∧
    gpioPlace (t.tree.getProp controller "brcm,gpio-bank-widths") gpioNumber =
      some (bank, button.pin.val) ∧
    button.bankBase = (gioBase + bank * gioBankSize) % 2 ^ 64 ∧
    button.activeLow = decide (flags % 2 = 1)

theorem armButton_armed {platform : ButtonPlatform} {t : ButtonTree}
    {controller gpioNumber flags gioBase : Nat} {s armed : ButtonSystem}
    (hfresh : s.driver.triggered = false)
    (h : armButton platform t controller gpioNumber flags gioBase s = some (.success, armed)) :
    ∃ button : Button, Armed s.gio button armed ∧ armed.resets = s.resets ∧
      armed.resetType = (if platform.powerOffOnHalt then .shutdown else .cold) ∧
      ∃ bank, gpioPlace (t.tree.getProp controller "brcm,gpio-bank-widths") gpioNumber =
          some (bank, button.pin.val) ∧
        button.bankBase = (gioBase + bank * gioBankSize) % 2 ^ 64 ∧
        button.activeLow = decide (flags % 2 = 1) := by
  unfold armButton at h
  split at h
  · cases h
  rename_i bank offset hplace
  obtain ⟨bitMask, hshift, h⟩ := Option.bind_eq_some_iff.mp h
  unfold shiftLeft at hshift
  split at hshift
  case isFalse => cases hshift
  rename_i hlt
  cases hshift
  simp only at h
  split at h
  · rename_i herror
    rw [(Prod.mk.inj (Option.some.inj h)).1] at herror
    cases herror
  split at h
  · rename_i herror
    rw [(Prod.mk.inj (Option.some.inj h)).1] at herror
    cases herror
  cases h
  exact ⟨⟨_, ⟨offset, hlt⟩, decide (flags % 2 = 1)⟩,
    ⟨rfl, rfl, rfl, hfresh, rfl, rfl⟩, rfl, rfl, bank, hplace, rfl, rfl⟩

/-- The system the entry point starts in: the statics are zeros. -/
def freshButton (gio : Gio) (resets : List ResetType) : ButtonSystem :=
  ⟨gio, ⟨0, 0, false, false, false, false⟩, resets⟩

theorem powerButtonEntryPoint_armed {platform : ButtonPlatform} {gio : Gio}
    {resets : List ResetType} {armed : ButtonSystem}
    (h : powerButtonEntryPoint platform (freshButton gio resets) = some (.success, armed)) :
    ∃ button : Button, platform.Names button ∧ Armed gio button armed ∧ armed.resets = resets ∧
      armed.resetType = if platform.powerOffOnHalt then .shutdown else .cold := by
  unfold powerButtonEntryPoint at h
  split at h
  · cases h
  rename_i t hfdt
  split at h
  · cases h
  rename_i controller gpioNumber flags hfind
  split at h
  · cases h
  · cases h
  · rename_i gioBase gioSize haddress
    obtain ⟨button, harmed, hresets, htype, bank, hplace, hbase, hlow⟩ := armButton_armed rfl h
    exact ⟨button, ⟨t, controller, gpioNumber, flags, gioBase, gioSize, bank, hfdt, hfind, haddress,
      hplace, hbase, hlow⟩, harmed, hresets, htype⟩

/-- **The button.** From a successful entry point on, whatever edges and polls come: a reset is
requested once a poll has found the button down or come after a press, and none before and none
after; it is a shutdown exactly where `POWER_OFF_ON_HALT` is set. Every other pin of every bank has
the registers it would have without the driver. -/
theorem powerButton_requests {platform : ButtonPlatform} {gio : Gio} {resets : List ResetType}
    {armed : ButtonSystem}
    (h : powerButtonEntryPoint platform (freshButton gio resets) = some (.success, armed)) :
    ∃ button : Button, platform.Names button ∧ ∀ es : List ButtonEvent,
      let out := es.foldl ButtonSystem.step armed
      (Happens (button.Found gio) es →
        out.resets = resets ++ [if platform.powerOffOnHalt then .shutdown else .cold]) ∧
      (¬Happens (button.Found gio) es → out.resets = resets) ∧
      ∀ bankBase (pin : Fin 32), ¬(bankBase = button.bankBase ∧ pin = button.pin) →
        (out.gio bankBase).pin pin = ((es.foldl edgeStep gio) bankBase).pin pin := by
  obtain ⟨button, hnames, harmed, hresets, htype⟩ := powerButtonEntryPoint_armed h
  refine ⟨button, hnames, fun es => ?_⟩
  have hwatches := harmed.run es
  refine ⟨fun hfound => ?_, fun hnot => ?_, hwatches.spares⟩
  · rw [← htype]
    exact (hwatches.requested hfound).2.trans (by rw [hresets])
  · exact (hwatches.quiet hnot).2.1.trans hresets

/-- A tree with the button at GPIO 20 of a controller on the root's bus, active low. -/
def sampleTree : DeviceTree where
  isNode node := node = 0 ∨ node = 4 ∨ node = 8 ∨ node = 12
  parentOffset node :=
    if node = 12 then some 8 else if node = 4 ∨ node = 8 then some 0 else none
  addressCells _ := 2
  sizeCells _ := 2
  getProp node name :=
    if node = 4 ∧ name = "reg" then some ([0x10, 0x7D508500, 0, 0x40].flatMap be32Bytes)
    else if node = 4 ∧ name = "#gpio-cells" then some (be32Bytes 2)
    else if node = 4 ∧ name = "brcm,gpio-bank-widths" then some ([32, 4].flatMap be32Bytes)
    else if node = 12 ∧ name = "label" then some (ascii "pwr_button" ++ [0])
    else if node = 12 ∧ name = "gpios" then some ([9, 20, 1].flatMap be32Bytes)
    else none
  root_parent := rfl
  node_parent := by
    rintro node (rfl | rfl | rfl | rfl) hroot
    · exact absurd rfl hroot
    · exact ⟨0, rfl, Or.inl rfl⟩
    · exact ⟨0, rfl, Or.inl rfl⟩
    · exact ⟨8, rfl, Or.inr (Or.inr (Or.inl rfl))⟩
  parent_lt := by
    intro node parent h
    split at h
    · cases h
      omega
    · split at h <;> cases h
      omega

def samplePlatform : ButtonPlatform where
  fdt := some ⟨sampleTree, [8], fun node => if node = 8 then [12] else [], fun phandle =>
    if phandle = 9 then some 4 else none⟩
  powerOffOnHalt := true
  createEvent := .success
  setTimer := .success

def idleGio : Gio := fun _ => ⟨0x100000, 0, 0, 0, 0, 0x100000⟩

theorem sampleTree_translates :
    getTranslatedRegAddress sampleTree 4 = .ok (0x107D508500, 0x40) := by
  have hroot (s : BusState) (hbus : s.bus = 0) : walkBuses sampleTree s = .ok s.addr := by
    rw [walkBuses, if_neg (by omega)]
  refine bindOk_iff.mpr ⟨0, rfl, bindOk_iff.mpr ⟨⟨2, by decide⟩, rfl, bindOk_iff.mpr
    ⟨⟨2, by decide⟩, rfl, bindOk_iff.mpr ⟨_, rfl, ?_⟩⟩⟩⟩
  rw [if_neg (by decide)]
  exact bindOk_iff.mpr ⟨0x107D508500, rfl, bindOk_iff.mpr ⟨0x40, rfl, bindOk_iff.mpr
    ⟨_, hroot _ rfl, rfl⟩⟩⟩

/-- The button of that tree. -/
def sampleButton : Button := ⟨0x107D508500, 20, true⟩

theorem samplePlatform_names {button : Button} (h : samplePlatform.Names button) :
    button = sampleButton := by
  have hfind : findPowerButton ⟨sampleTree, [8], fun node => if node = 8 then [12] else [],
      fun phandle => if phandle = 9 then some 4 else none⟩ = some (4, 20, 1) := by decide +kernel
  have hplace : gpioPlace (sampleTree.getProp 4 "brcm,gpio-bank-widths") 20 = some (0, 20) := by
    decide +kernel
  obtain ⟨bankBase, pin, activeLow⟩ := button
  obtain ⟨t, controller, gpioNumber, flags, gioBase, gioSize, bank, hfdt, hnamed, haddress, hat,
    hbase, hlow⟩ := h
  cases hfdt
  cases hfind.symm.trans hnamed
  cases sampleTree_translates.symm.trans haddress
  obtain ⟨rfl, hpin⟩ := Prod.mk.inj (Option.some.inj (hplace.symm.trans hat))
  have hpin' : pin = 20 := Fin.ext hpin.symm
  subst hpin' hbase hlow
  rfl

theorem samplePlatform_armed : ∃ armed,
    powerButtonEntryPoint samplePlatform (freshButton idleGio []) = some (.success, armed) := by
  have hfind : findPowerButton ⟨sampleTree, [8], fun node => if node = 8 then [12] else [],
      fun phandle => if phandle = 9 then some 4 else none⟩ = some (4, 20, 1) := by decide +kernel
  unfold powerButtonEntryPoint samplePlatform
  simp only [hfind, sampleTree_translates]
  exact ⟨_, rfl⟩

/-- A short press between two polls is found by the second one, and requests once. -/
theorem samplePlatform_requests : ∃ armed,
    powerButtonEntryPoint samplePlatform (freshButton idleGio []) = some (.success, armed) ∧
      ([.poll, .edge 0x107D508500 20, .edge 0x107D508500 20, .poll, .poll].foldl
        ButtonSystem.step armed).resets = [.shutdown] := by
  obtain ⟨armed, harmed⟩ := samplePlatform_armed
  obtain ⟨button, hnames, hruns⟩ := powerButton_requests harmed
  cases samplePlatform_names hnames
  refine ⟨armed, harmed, (hruns _).1 ?_⟩
  refine ⟨[.poll, .edge 0x107D508500 20, .edge 0x107D508500 20], .poll, [.poll], rfl, rfl,
    Or.inr ⟨[.poll], .edge 0x107D508500 20, [.edge 0x107D508500 20], rfl, ⟨rfl, rfl⟩, ?_⟩⟩
  decide

end Rpi5Uefi.PowerButton
