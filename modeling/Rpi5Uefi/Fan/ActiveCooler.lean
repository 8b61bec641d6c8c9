import Rpi5Uefi.Lib.Hysteresis

/-!
# The active cooler (`ActiveCoolerDxe`)

A timer reads the SoC's temperature once a second and commands a level of the fan. The `FanPolicy`
variable and a protocol for other drivers can pin the level or move the trip points.

* **`readPolicy`**, **`tripMilliC`**: the policy, sanitised, and the trip point of a level.
* **`fanPollTick`**: one poll: the override, the fixed level, or the closed loop.
* **`fanStep`**: polls, overrides, clears and ExitBootServices in any order.
* **`fanPollTick_eq`**: what a poll does to the level, with the closed loop as one sample of
  `Hysteresis.step`.

Of the hardware the model has the duty register of the fan's PWM channel. The clock, the pin and the
rest of the channel, which are set up once, are left out, and so are the debug messages. A level is
a number, with −1 for one that is not set; `GetVariable` is the stored bytes.
-/

namespace Rpi5Uefi

/-! ## The policy -/

/-- `RPI_FAN_POLICY`. -/
structure FanPolicy where
  mode : UInt8
  fixedLevel : UInt8
  trip1C : UInt8
  trip2C : UInt8
  trip3C : UInt8
  trip4C : UInt8
  deriving DecidableEq, Repr

def rpiFanModeAuto : UInt8 := 0
def rpiFanModeFixed : UInt8 := 1
def rpiFanModeCustom : UInt8 := 2

/-- `FAN_LEVEL`. -/
structure FanLevel where
  tripMilliC : Int
  duty255 : Nat
  deriving DecidableEq, Repr

def mFanLevels : List FanLevel := [⟨0, 0⟩, ⟨50000, 75⟩, ⟨60000, 125⟩, ⟨67500, 175⟩, ⟨75000, 250⟩]

def fanLevelMax : Nat := 4

/-- `FAN_LEVEL_SAFE`. -/
def fanLevelSafe : Nat := 2

def fanHystMilliC : Int := 5000

def fanTripMinC : UInt8 := 30

def fanTripMaxC : UInt8 := 90

/-- What `ReadPolicy` starts from. -/
def fanPolicyDefault : FanPolicy := ⟨rpiFanModeAuto, 2, 50, 60, 68, 75⟩

/-- `ReadPolicy`, from what is stored: a variable that is absent or of another size is not used. -/
def readPolicy (stored : Option (List UInt8)) : FanPolicy :=
  match stored with
  | some [mode, fixedLevel, trip1C, trip2C, trip3C, trip4C] =>
    if mode > rpiFanModeCustom then fanPolicyDefault
    else if mode = rpiFanModeCustom ∧ (trip1C < fanTripMinC ∨ trip4C > fanTripMaxC ∨
        trip1C ≥ trip2C ∨ trip2C ≥ trip3C ∨ trip3C ≥ trip4C) then
      fanPolicyDefault
    else
      ⟨mode, if fixedLevel.toNat > fanLevelMax then 2 else fixedLevel, trip1C, trip2C, trip3C,
        trip4C⟩
  | _ => fanPolicyDefault

/-- `TripMilliC`. -/
def tripMilliC (policy : FanPolicy) (level : Nat) : Int :=
  if policy.mode ≠ rpiFanModeCustom then (mFanLevels.getD level ⟨0, 0⟩).tripMilliC
  else
    let tripC := match level with
      | 1 => policy.trip1C
      | 2 => policy.trip2C
      | 3 => policy.trip3C
      | _ => policy.trip4C
    tripC.toNat * 1000

/-- `AvsReadMilliCelsius`, of the status register. -/
def avsReadMilliCelsius (status : UInt32) : Option Int :=
  if status &&& 0x10400 ≠ 0x10400 then none
  else some (450000 - 550 * (status &&& 0x3FF).toNat)

/-! ## The driver -/

/-- The driver's variables, the duty register once the driver has written it, and whether the poll
timer runs. -/
structure Fan where
  mRp1Base : Nat
  mLevel : Int
  mOverride : Int
  mPolicy : FanPolicy
  duty : Option Nat
  polling : Bool
  deriving DecidableEq, Repr

/-- Behind the entry point. -/
def fanStart : Fan := ⟨0, -1, -1, ⟨0, 0, 0, 0, 0, 0⟩, none, true⟩

/-- `DutyTicks`. -/
def dutyTicks (level : Nat) : Nat := ((mFanLevels.getD level ⟨0, 0⟩).duty255 * 2078 + 127) / 255

/-- `FanSetLevel`. -/
def fanSetLevel (fan : Fan) (level : Nat) : Fan :=
  { fan with duty := some (dutyTicks level), mLevel := level }

/-- What a poll finds: RP1's base where its protocol is there, the stored variable, and the status
register. -/
structure FanTick where
  rp1Bus : Option { base : Nat // base ≠ 0 }
  stored : Option (List UInt8)
  status : UInt32

/-- RP1, acquired on first sight; `FanHwInit` writes a duty of 0. -/
def fanAcquire (fan : Fan) (tick : FanTick) : Option Fan :=
  if fan.mRp1Base = 0 then
    tick.rp1Bus.map fun base => { fan with mRp1Base := base.val, duty := some 0 }
  else some fan

/-- `Target`: the loop over the levels, from the last one down. -/
def fanTarget (policy : FanPolicy) (milliC : Int) : Nat → Nat
  | 0 => 0
  | index + 1 =>
    if milliC ≥ tripMilliC policy (index + 1) then index + 1 else fanTarget policy milliC index

/-- The end of `FanPollTick`, with a valid reading. -/
def fanCloseLoop (fan : Fan) (milliC : Int) : Fan :=
  let target := fanTarget fan.mPolicy milliC fanLevelMax
  let target :=
    if fan.mLevel ≥ 0 ∧ target < fan.mLevel.toNat then
      if milliC ≥ tripMilliC fan.mPolicy fan.mLevel.toNat - fanHystMilliC then fan.mLevel.toNat
      else fan.mLevel.toNat - 1
    else target
  if (target : Int) ≠ fan.mLevel then fanSetLevel fan target else fan

/-- `FanPollTick`. -/
def fanPollTick (fan : Fan) (tick : FanTick) : Fan :=
  match fanAcquire fan tick with
  | none => fan
  | some fan =>
    let fan := { fan with mPolicy := readPolicy tick.stored }
    if fan.mOverride ≥ 0 then
      if fan.mLevel ≠ fan.mOverride then fanSetLevel fan fan.mOverride.toNat else fan
    else if fan.mPolicy.mode = rpiFanModeFixed then
      if fan.mLevel ≠ fan.mPolicy.fixedLevel.toNat then fanSetLevel fan fan.mPolicy.fixedLevel.toNat
      else fan
    else
      match avsReadMilliCelsius tick.status with
      | none => if fan.mLevel < fanLevelSafe then fanSetLevel fan fanLevelSafe else fan
      | some milliC => fanCloseLoop fan milliC

/-- `FanSetOverride`. -/
def fanSetOverride (fan : Fan) (level : UInt8) : Fan :=
  if level.toNat > fanLevelMax then fan
  else
    let fan := { fan with mOverride := level.toNat }
    if fan.mRp1Base ≠ 0 ∧ fan.mLevel ≠ fan.mOverride then fanSetLevel fan fan.mOverride.toNat
    else fan

/-- `FanClearOverride`. -/
def fanClearOverride (fan : Fan) : Fan := { fan with mOverride := -1 }

/-- `FanOnExitBootServices`. -/
def fanOnExitBootServices (fan : Fan) : Fan :=
  let fan := { fan with polling := false }
  if fan.mRp1Base ≠ 0 ∧ fan.mLevel < 1 then fanSetLevel fan 1 else fan

inductive FanEvent where
  | pollTick (tick : FanTick)
  | setOverride (level : UInt8)
  | clearOverride
  | exitBootServices

/-- One event; the timer polls until it is cancelled. -/
def fanStep (fan : Fan) : FanEvent → Fan
  | .pollTick tick => if fan.polling then fanPollTick fan tick else fan
  | .setOverride level => fanSetOverride fan level
  | .clearOverride => fanClearOverride fan
  | .exitBootServices => fanOnExitBootServices fan

variable {fan : Fan} {tick : FanTick} {policy : FanPolicy} {milliC : Int}

/-! ## The closed loop as a stepped controller -/

/-- The temperature below which a level is left. -/
def releaseMilliC (policy : FanPolicy) (level : Nat) : Int :=
  tripMilliC policy level - fanHystMilliC

/-- One sample of the closed loop. -/
def loopLevel (policy : FanPolicy) (level : Nat) (milliC : Int) : Nat :=
  Hysteresis.step (tripMilliC policy) (releaseMilliC policy) fanLevelMax level milliC

theorem fanTarget_eq (policy : FanPolicy) (milliC : Int) (index : Nat) :
    fanTarget policy milliC index = Hysteresis.demand (tripMilliC policy) milliC index := by
  induction index with
  | zero => rfl
  | succ index ih =>
    unfold fanTarget Hysteresis.demand
    rw [ih]

/-! ## A command -/

/-- The level is written where it is not the current one. -/
def fanCommand (fan : Fan) (level : Nat) : Fan :=
  if (level : Int) ≠ fan.mLevel then fanSetLevel fan level else fan

@[simp] theorem mLevel_fanCommand (fan : Fan) (level : Nat) :
    (fanCommand fan level).mLevel = level := by
  unfold fanCommand
  split
  · rfl
  · rename_i hsame
    exact (not_not.mp hsame).symm

@[simp] theorem mRp1Base_fanCommand (fan : Fan) (level : Nat) :
    (fanCommand fan level).mRp1Base = fan.mRp1Base := by
  unfold fanCommand
  split <;> rfl

@[simp] theorem mOverride_fanCommand (fan : Fan) (level : Nat) :
    (fanCommand fan level).mOverride = fan.mOverride := by
  unfold fanCommand
  split <;> rfl

@[simp] theorem mPolicy_fanCommand (fan : Fan) (level : Nat) :
    (fanCommand fan level).mPolicy = fan.mPolicy := by
  unfold fanCommand
  split <;> rfl

@[simp] theorem polling_fanCommand (fan : Fan) (level : Nat) :
    (fanCommand fan level).polling = fan.polling := by
  unfold fanCommand
  split <;> rfl

/-- The duty is the one of the level, if it was before. -/
theorem duty_fanCommand (level : Nat)
    (hduty : 0 ≤ fan.mLevel → fan.duty = some (dutyTicks fan.mLevel.toNat)) :
    (fanCommand fan level).duty = some (dutyTicks level) := by
  unfold fanCommand
  split
  · rfl
  · rename_i hsame
    have hlevel : fan.mLevel = level := (not_not.mp hsame).symm
    rw [hduty (by omega), hlevel]
    rfl

/-! ## One poll -/

/-- A level that is not set does what level 0 does. -/
theorem fanCloseLoop_eq (fan : Fan) (milliC : Int) :
    fanCloseLoop fan milliC =
      fanCommand fan (loopLevel fan.mPolicy fan.mLevel.toNat milliC) := by
  unfold fanCloseLoop loopLevel Hysteresis.step fanCommand
  simp only [fanTarget_eq]
  have hset : fan.mLevel ≥ 0 ∧
      Hysteresis.demand (tripMilliC fan.mPolicy) milliC fanLevelMax < fan.mLevel.toNat ↔
        Hysteresis.demand (tripMilliC fan.mPolicy) milliC fanLevelMax < fan.mLevel.toNat := by
    omega
  simp only [hset]
  rfl

/-- The level a poll commands once RP1 is there. -/
def tickLevel (mOverride : Int) (policy : FanPolicy) (reading : Option Int) (mLevel : Int) : Nat :=
  if mOverride ≥ 0 then mOverride.toNat
  else if policy.mode = rpiFanModeFixed then policy.fixedLevel.toNat
  else
    match reading with
    | none => (max mLevel fanLevelSafe).toNat
    | some milliC => loopLevel policy mLevel.toNat milliC

/-- **One poll**: RP1 is acquired, the policy is read again, and the level is commanded. -/
theorem fanPollTick_eq (fan : Fan) (tick : FanTick) :
    fanPollTick fan tick =
      match fanAcquire fan tick with
      | none => fan
      | some fan =>
        fanCommand { fan with mPolicy := readPolicy tick.stored }
          (tickLevel fan.mOverride (readPolicy tick.stored) (avsReadMilliCelsius tick.status)
            fan.mLevel) := by
  unfold fanPollTick tickLevel
  cases fanAcquire fan tick with
  | none => rfl
  | some fan =>
    simp only
    split
    · -- the override
      rename_i hoverride
      unfold fanCommand
      rw [Int.toNat_of_nonneg hoverride]
      simp only [ne_comm]
    split
    · -- the fixed level
      unfold fanCommand
      simp only [ne_comm]
    cases avsReadMilliCelsius tick.status with
    | none =>
      simp only
      unfold fanCommand
      split
      · rename_i hbelow
        have hmax : (max fan.mLevel fanLevelSafe).toNat = fanLevelSafe := by
          rw [max_eq_right (Int.le_of_lt hbelow)]
          rfl
        rw [hmax, if_pos (Int.ne_of_gt hbelow)]
      · rename_i habove
        have hmax : ((max fan.mLevel fanLevelSafe).toNat : Int) = fan.mLevel := by
          have hsafe : (fanLevelSafe : Int) = 2 := rfl
          omega
        rw [hmax, if_neg (not_not.mpr rfl)]
    | some milliC => exact fanCloseLoop_eq _ milliC

/-! ## The other events -/

theorem fanSetOverride_eq (fan : Fan) (level : UInt8) :
    fanSetOverride fan level =
      if level.toNat > fanLevelMax then fan
      else if fan.mRp1Base ≠ 0 then fanCommand { fan with mOverride := level.toNat } level.toNat
      else { fan with mOverride := level.toNat } := by
  unfold fanSetOverride fanCommand
  split
  · rfl
  simp only [Int.toNat_natCast]
  split
  · rename_i hcommand
    rw [if_pos hcommand.1, if_pos (Ne.symm hcommand.2)]
  · rename_i hskip
    split
    · rename_i hbase
      rw [if_neg (fun hne => hskip ⟨hbase, Ne.symm hne⟩)]
    · rfl

theorem fanOnExitBootServices_eq (fan : Fan) :
    fanOnExitBootServices fan =
      if fan.mRp1Base ≠ 0 then
        fanCommand { fan with polling := false } (max fan.mLevel 1).toNat
      else { fan with polling := false } := by
  unfold fanOnExitBootServices fanCommand
  simp only
  split
  · rename_i hparked
    have hlevel : (max fan.mLevel 1).toNat = 1 := by omega
    rw [if_pos hparked.1, hlevel, if_pos (by omega)]
  · rename_i hkept
    split
    · rename_i hbase
      rw [if_neg]
      have hlevel : 1 ≤ fan.mLevel := by
        by_contra hlow
        exact hkept ⟨hbase, by omega⟩
      omega
    · rfl

end Rpi5Uefi
