import Rpi5Uefi.Dwc2.Pump

/-!
# The pump is a one-place mailbox

* **`PumpHolds`** says which state of the mailbox a pump stands for.
* **`harvest_holds`**, **`bulkIn_holds`**: a tick leaves it, a poll is a step of the mailbox.
* **`pump_mailbox`**: so is every run in which the channel halts without `XFERCOMP` only before it
  has received anything, and in time when it is told to.
-/

namespace Rpi5Uefi

open Bytes Transition Mailbox

/-- What the pump relies on in `DwOtgHcInit`: it programs the endpoint and clears `HCINT`. -/
structure HcInitSpec (hcInit : HostChannel → UInt8 → PumpEndpoint → HostChannel) : Prop where
  endpoint : ∀ channel speed endpoint, (hcInit channel speed endpoint).endpoint = endpoint
  hcint : ∀ channel speed endpoint, (hcInit channel speed endpoint).hcint = .clear

/-- The channel is at work for `k`, and `v` is what it has received. -/
structure PumpRunning (dev : PumpDev) (k : PumpEndpoint) (v : List UInt8) : Prop where
  armed : dev.pump.state = .armed
  pump : dev.pump.endpoint = k
  channel : dev.channel.endpoint = k
  running : dev.channel.hcint.chhltd = false
  programmed : dev.channel.programmed = dev.pump.armedLength
  received : dev.channel.received = v.length
  fits : v.length ≤ dev.pump.armedLength
  buffer : dev.buffer.slice 0 v.length = v

/-- The state of the mailbox a pump stands for. -/
inductive PumpHolds (dev : PumpDev) : Box PumpEndpoint UInt8 → Prop where
  | idle (hstate : dev.pump.state = .idle) (hoff : dev.channel.enabled = false) :
      PumpHolds dev .idle
  | stoodDown (k : PumpEndpoint) (hstate : dev.pump.state = .idle)
      (hoff : dev.channel.enabled = false) : PumpHolds dev (.serving k [])
  | running (k : PumpEndpoint) (v : List UInt8) (hrun : PumpRunning dev k v) :
      PumpHolds dev (.serving k v)
  | halted (k : PumpEndpoint) (hstate : dev.pump.state = .armed) (hk : dev.pump.endpoint = k)
      (hoff : dev.channel.enabled = false) (hhalt : dev.channel.hcint.chhltd = true)
      (hempty : dev.channel.hcint.xfercomp = true → dev.pump.armedLength ≤ dev.channel.xferSize) :
      PumpHolds dev (.serving k [])
  | complete (k : PumpEndpoint) (v : List UInt8) (hstate : dev.pump.state = .armed)
      (hk : dev.pump.endpoint = k) (hoff : dev.channel.enabled = false)
      (hhalt : dev.channel.hcint.chhltd = true) (hcomp : dev.channel.hcint.xfercomp = true)
      (hv : v ≠ []) (hsize : dev.channel.xferSize + v.length = dev.pump.armedLength)
      (hbuffer : dev.buffer.slice 0 v.length = v) : PumpHolds dev (.waiting k v)
  | ready (k : PumpEndpoint) (v : List UInt8) (hstate : dev.pump.state = .ready)
      (hk : dev.pump.endpoint = k) (hoff : dev.channel.enabled = false)
      (hlength : dev.pump.readyLength = v.length)
      (hbuffer : dev.buffer.slice 0 v.length = v) : PumpHolds dev (.waiting k v)

variable {hcInit : HostChannel → UInt8 → PumpEndpoint → HostChannel} {maxPacketCount : Nat}
  {dev : PumpDev} {b : Box PumpEndpoint UInt8} {call : BulkIn} {s s' : PumpSystem} {e : PumpEvent}

/-! ## What the driver's functions can do -/

/-- An armed channel has not halted yet. -/
theorem arm_running (hinit : HcInitSpec hcInit) (dev : PumpDev) :
    (dwHcPumpArm hcInit dev).channel.hcint.chhltd = false := by
  show (hcInit dev.channel dev.pump.deviceSpeed dev.pump.endpoint).hcint.chhltd = false
  rw [hinit.hcint]
  rfl

/-- A halt without `XFERCOMP` is followed by another arming. -/
def DwUsbPump.rearms (pump : DwUsbPump) (hcint : Hcint) : Bool :=
  hcint.nak || hcint.frmovrun || decide (pump.errors + 1 < dwc2PumpMaxErrors)

/-- What a harvest can do. -/
inductive Harvest (hcInit : HostChannel → UInt8 → PumpEndpoint → HostChannel) (dev : PumpDev) :
    PumpDev → Prop where
  | quiet (hrun : dev.pump.state = .armed → dev.channel.hcint.chhltd = false) :
      Harvest hcInit dev dev
  | empty (harmed : dev.pump.state = .armed) (hhalt : dev.channel.hcint.chhltd = true)
      (hcomp : dev.channel.hcint.xfercomp = true)
      (hsize : dev.pump.armedLength ≤ dev.channel.xferSize) :
      Harvest hcInit dev (dwHcPumpArm hcInit
        { dev with pump := { dev.pump with pid := dev.channel.pid, errors := 0 } })
  | ready (harmed : dev.pump.state = .armed) (hhalt : dev.channel.hcint.chhltd = true)
      (hcomp : dev.channel.hcint.xfercomp = true)
      (hsize : dev.channel.xferSize < dev.pump.armedLength) :
      Harvest hcInit dev { dev with
        pump := { dev.pump with
          pid := dev.channel.pid
          errors := 0
          readyLength := dev.pump.armedLength - dev.channel.xferSize
          state := .ready } }
  | retry (errors : Nat) (harmed : dev.pump.state = .armed)
      (hhalt : dev.channel.hcint.chhltd = true) (hcomp : dev.channel.hcint.xfercomp = false)
      (hrearms : dev.pump.rearms dev.channel.hcint = true) :
      Harvest hcInit dev (dwHcPumpArm hcInit { dev with pump := { dev.pump with errors } })
  | standDown (harmed : dev.pump.state = .armed) (hhalt : dev.channel.hcint.chhltd = true)
      (hcomp : dev.channel.hcint.xfercomp = false)
      (hrearms : dev.pump.rearms dev.channel.hcint = false) :
      Harvest hcInit dev { dev with
        channel := { dev.channel with hcint := .clear }
        pump := { dev.pump with
          state := .idle
          errors := 0
          cooldown := dwc2PumpCooldownPolls } }

theorem harvest_cases (hcInit : HostChannel → UInt8 → PumpEndpoint → HostChannel)
    (dev : PumpDev) : Harvest hcInit dev (dwHcPumpHarvest hcInit dev) := by
  unfold dwHcPumpHarvest
  -- the tests in the order of the source: armed, halted, complete, retry, give up
  by_cases harmed : dev.pump.state = .armed
  case neg =>
    rw [if_pos harmed]
    exact .quiet fun h => absurd h harmed
  rw [if_neg (not_not_intro harmed)]
  cases hhalt : dev.channel.hcint.chhltd
  case false =>
    rw [if_pos (by decide)]
    exact .quiet fun _ => hhalt
  rw [if_neg (by decide)]
  cases hcomp : dev.channel.hcint.xfercomp
  case true =>
    rw [if_pos rfl]
    simp only
    by_cases hsize : dev.channel.xferSize ≥ dev.pump.armedLength
    · rw [if_pos hsize]
      exact .empty harmed hhalt hcomp hsize
    · rw [if_neg hsize]
      exact .ready harmed hhalt hcomp (by omega)
  rw [if_neg (by decide)]
  by_cases hnak : (dev.channel.hcint.nak || dev.channel.hcint.frmovrun) = true
  · rw [if_pos hnak]
    refine .retry dev.pump.errors harmed hhalt hcomp ?_
    unfold DwUsbPump.rearms
    rw [hnak, Bool.true_or]
  rw [if_neg hnak]
  simp only
  by_cases herrors : dev.pump.errors + 1 < dwc2PumpMaxErrors
  · rw [if_pos herrors]
    refine .retry _ harmed hhalt hcomp ?_
    unfold DwUsbPump.rearms
    rw [decide_eq_true herrors, Bool.or_true]
  · rw [if_neg herrors]
    refine .standDown harmed hhalt hcomp ?_
    unfold DwUsbPump.rearms
    rw [decide_eq_false herrors, Bool.or_false, ← Bool.not_eq_true]
    exact hnak

/-- A pump that is not armed, or whose channel has not halted, is not harvested. -/
theorem harvest_quiet (h : dev.pump.state = .armed → dev.channel.hcint.chhltd = false) :
    dwHcPumpHarvest hcInit dev = dev := by
  unfold dwHcPumpHarvest
  by_cases harmed : dev.pump.state = .armed
  · rw [if_neg (not_not_intro harmed), if_pos (by rw [h harmed]; rfl)]
  · rw [if_pos harmed]

/-- A halted pump's channel is disabled, where it had halted or halts in time. -/
theorem halt_disabled (h : dev.pump.state ≠ .armed → dev.channel.enabled = false)
    (hhalted : dev.channel.hcint.chhltd = true → dev.channel.enabled = false) :
    (dwHcPumpHalt dev true).channel.enabled = false := by
  unfold dwHcPumpHalt
  simp only
  by_cases harmed : dev.pump.state = .armed
  · rw [if_pos harmed]
    cases hflag : dev.channel.hcint.chhltd with
    | true => exact congrArg (· && _) (hhalted hflag)
    | false => exact Bool.and_false _
  · rw [if_neg harmed]
    exact h harmed

theorem takeOver_iff (dev : PumpDev) (call : BulkIn) :
    (dev.pump.deviceAddress ≠ call.deviceAddress ∨ dev.pump.epAddress ≠ call.epNum ∨
      dev.pump.maximumPacketLength ≠ call.maximumPacketLength) ↔
      dev.pump.endpoint ≠ call.endpoint := by
  unfold DwUsbPump.endpoint BulkIn.endpoint
  simp only [ne_eq, PumpEndpoint.mk.injEq, not_and_or]

theorem pumpTakeOver_idle (h : dev.pump.state = .idle) : pumpTakeOver dev call = dev :=
  if_neg fun hcond => hcond.1 h

theorem pumpTakeOver_same (h : dev.pump.endpoint = call.endpoint) : pumpTakeOver dev call = dev :=
  if_neg fun hcond => (takeOver_iff dev call).mp hcond.2 h

theorem pumpTakeOver_other (hbusy : dev.pump.state ≠ .idle)
    (h : dev.pump.endpoint ≠ call.endpoint) :
    pumpTakeOver dev call = { dwHcPumpHalt dev call.haltsInTime with
      pump := { (dwHcPumpHalt dev call.haltsInTime).pump with errors := 0, cooldown := 0 } } :=
  if_pos ⟨hbusy, (takeOver_iff dev call).mpr h⟩

/-- A poll finds the pump idle, or serving its endpoint. -/
theorem pumpTakeOver_cases (dev : PumpDev) (call : BulkIn) :
    (pumpTakeOver dev call).pump.state = .idle ∨
      pumpTakeOver dev call = dev ∧ dev.pump.state ≠ .idle ∧
        dev.pump.endpoint = call.endpoint := by
  by_cases hidle : dev.pump.state = .idle
  · rw [pumpTakeOver_idle hidle]
    exact Or.inl hidle
  by_cases hkey : dev.pump.endpoint = call.endpoint
  · exact Or.inr ⟨pumpTakeOver_same hkey, hidle, hkey⟩
  · rw [pumpTakeOver_other hidle hkey]
    exact Or.inl rfl

/-- **An idle pump declines, or is armed** for the endpoint and with the toggle of the poll. -/
theorem pumpEngage_cases (hcInit : HostChannel → UInt8 → PumpEndpoint → HostChannel)
    (maxPacketCount : Nat) (dev : PumpDev) (call : BulkIn) :
    (∃ status pump, pumpEngage hcInit maxPacketCount dev call =
        .error (.notHandled call status, { dev with pump }) ∧ pump.state = dev.pump.state) ∨
      ∃ pump, pumpEngage hcInit maxPacketCount dev call =
          .ok (dwHcPumpArm hcInit { dev with pump }) ∧ pump.endpoint = call.endpoint ∧
        pump.pid = call.dataToggle.toUInt32 <<< 1 := by
  unfold pumpEngage
  by_cases hcool : dev.pump.cooldown ≠ 0
  · rw [if_pos hcool]
    exact Or.inl ⟨_, _, rfl, rfl⟩
  rw [if_neg hcool]
  by_cases halloc : (!dev.pump.buffer && call.dmaAllocate.isError) = true
  · rw [if_pos halloc]
    exact Or.inl ⟨_, dev.pump, rfl, rfl⟩
  rw [if_neg halloc]
  by_cases hmap : (!dev.pump.buffer && call.dmaMap.isError) = true
  · rw [if_pos hmap]
    exact Or.inl ⟨_, dev.pump, rfl, rfl⟩
  rw [if_neg hmap]
  simp only
  by_cases hzero : pumpPackets call = 0
  · rw [if_pos hzero]
    exact Or.inl ⟨_, _, rfl, rfl⟩
  · rw [if_neg hzero]
    exact Or.inr ⟨_, rfl, rfl, rfl⟩

/-! ## The driver's functions -/

theorem arm_holds (hinit : HcInitSpec hcInit) (dev : PumpDev) :
    PumpHolds (dwHcPumpArm hcInit dev) (.serving dev.pump.endpoint []) :=
  .running _ []
    ⟨rfl, rfl, hinit.endpoint _ _ _, arm_running hinit dev, rfl, rfl, Nat.zero_le _, rfl⟩

/-- An armed pump whose channel has halted: without data, or with a transfer that waits. -/
theorem PumpHolds.of_halted (h : PumpHolds dev b) (harmed : dev.pump.state = .armed)
    (hhalt : dev.channel.hcint.chhltd = true) :
    (b = .serving dev.pump.endpoint [] ∧ dev.channel.enabled = false ∧
        (dev.channel.hcint.xfercomp = true → dev.pump.armedLength ≤ dev.channel.xferSize)) ∨
      ∃ v : List UInt8, b = .waiting dev.pump.endpoint v ∧ 0 < v.length ∧
        dev.channel.enabled = false ∧ dev.channel.xferSize + v.length = dev.pump.armedLength ∧
        dev.buffer.slice 0 v.length = v ∧ dev.channel.hcint.xfercomp = true := by
  cases h with
  | idle hstate => rw [harmed] at hstate; cases hstate
  | stoodDown k hstate => rw [harmed] at hstate; cases hstate
  | ready k v hstate => rw [harmed] at hstate; cases hstate
  | running k v hrun =>
    have hrunning := hrun.running
    rw [hhalt] at hrunning
    cases hrunning
  | halted k _ hk hoff _ hempty => exact Or.inl ⟨by rw [hk], hoff, hempty⟩
  | complete k v _ hk hoff _ hcomp hv hsize hbuffer =>
    exact Or.inr ⟨v, by rw [hk], List.length_pos_iff.mpr hv, hoff, hsize, hbuffer, hcomp⟩

/-- **A harvest changes nothing for the caller**, and a pump still armed is one still running. -/
theorem harvest_holds (hinit : HcInitSpec hcInit) (h : PumpHolds dev b) :
    PumpHolds (dwHcPumpHarvest hcInit dev) b ∧
      ((dwHcPumpHarvest hcInit dev).pump.state = .armed →
        (dwHcPumpHarvest hcInit dev).channel.hcint.chhltd = false) := by
  have hcases := harvest_cases hcInit dev
  generalize dwHcPumpHarvest hcInit dev = dev' at hcases ⊢
  cases hcases with
  | quiet hrun => exact ⟨h, hrun⟩
  | empty harmed hhalt hcomp hsize =>
    obtain ⟨hb, -⟩ | ⟨v, -, hpos, -, hlength, -, -⟩ := h.of_halted harmed hhalt
    · subst hb
      exact ⟨arm_holds hinit _, fun _ => arm_running hinit _⟩
    · omega
  | ready harmed hhalt hcomp hsize =>
    obtain ⟨-, -, hempty⟩ | ⟨v, hb, hpos, hoff, hlength, hbuffer, -⟩ := h.of_halted harmed hhalt
    -- a mailbox without data does not fit a transfer that received some
    · exact absurd (hempty hcomp) (by omega)
    · subst hb
      refine ⟨.ready _ v rfl rfl hoff ?_ hbuffer, nofun⟩
      show dev.pump.armedLength - dev.channel.xferSize = v.length
      omega
  | retry errors harmed hhalt hcomp =>
    obtain ⟨hb, -⟩ | ⟨v, -, -, -, -, -, hdone⟩ := h.of_halted harmed hhalt
    · subst hb
      exact ⟨arm_holds hinit _, fun _ => arm_running hinit _⟩
    · rw [hcomp] at hdone
      cases hdone
  | standDown harmed hhalt hcomp =>
    obtain ⟨hb, hoff, -⟩ | ⟨v, -, -, -, -, -, hdone⟩ := h.of_halted harmed hhalt
    · subst hb
      exact ⟨.stoodDown _ rfl hoff, nofun⟩
    · rw [hcomp] at hdone
      cases hdone

theorem PumpHolds.off_of_not_armed (h : PumpHolds dev b) (hnot : dev.pump.state ≠ .armed) :
    dev.channel.enabled = false := by
  cases h with
  | idle hstate hoff => exact hoff
  | stoodDown k hstate hoff => exact hoff
  | running k v hrun => exact absurd hrun.armed hnot
  | halted k hstate hk hoff => exact hoff
  | complete k v hstate hk hoff => exact hoff
  | ready k v hstate hk hoff => exact hoff

theorem PumpHolds.off_of_halted (h : PumpHolds dev b) (hhalt : dev.channel.hcint.chhltd = true) :
    dev.channel.enabled = false := by
  by_cases harmed : dev.pump.state = .armed
  · obtain ⟨-, hoff, -⟩ | ⟨v, -, -, hoff, -⟩ := h.of_halted harmed hhalt
    · exact hoff
    · exact hoff
  · exact h.off_of_not_armed harmed

/-- **A poll first takes the pump over**, or finds it idle or its own. -/
theorem takeOver_holds (h : PumpHolds dev b) (call : BulkIn) (hhalts : call.haltsInTime = true) :
    ((pumpTakeOver dev call).pump.state = .idle ∧
        (pumpTakeOver dev call).channel.enabled = false ∧
        (b = .idle ∨ (∃ k, b = .serving k []) ∨
          ∃ k v, call.endpoint ≠ k ∧ (b = .serving k v ∨ b = .waiting k v))) ∨
      pumpTakeOver dev call = dev ∧ dev.pump.state ≠ .idle ∧
        dev.pump.endpoint = call.endpoint := by
  -- an idle pump has nothing to hand over, and one that serves the caller is left alone
  by_cases hidle : dev.pump.state = .idle
  · rw [pumpTakeOver_idle hidle]
    left
    cases h with
    | idle hstate hoff => exact ⟨hstate, hoff, Or.inl rfl⟩
    | stoodDown k hstate hoff => exact ⟨hstate, hoff, Or.inr (Or.inl ⟨k, rfl⟩)⟩
    | running k v hrun => rw [hrun.armed] at hidle; cases hidle
    | halted k hstate => rw [hidle] at hstate; cases hstate
    | complete k v hstate => rw [hidle] at hstate; cases hstate
    | ready k v hstate => rw [hidle] at hstate; cases hstate
  by_cases hkey : dev.pump.endpoint = call.endpoint
  · exact Or.inr ⟨pumpTakeOver_same hkey, hidle, hkey⟩
  · rw [pumpTakeOver_other hidle hkey]
    left
    refine ⟨rfl, ?_, ?_⟩
    · rw [hhalts]
      exact halt_disabled h.off_of_not_armed h.off_of_halted
    · cases h with
      | idle hstate => exact absurd hstate hidle
      | stoodDown k hstate => exact absurd hstate hidle
      | running k v hrun =>
        exact Or.inr (Or.inr ⟨k, v, by rwa [hrun.pump, eq_comm] at hkey, Or.inl rfl⟩)
      | halted k hstate hk => exact Or.inr (Or.inl ⟨k, rfl⟩)
      | complete k v hstate hk =>
        exact Or.inr (Or.inr ⟨k, v, by rwa [hk, eq_comm] at hkey, Or.inr rfl⟩)
      | ready k v hstate hk =>
        exact Or.inr (Or.inr ⟨k, v, by rwa [hk, eq_comm] at hkey, Or.inr rfl⟩)

/-- An idle pump is armed for the caller, or left idle with a poll that is not handled. -/
theorem engage_holds (maxPacketCount : Nat) (hinit : HcInitSpec hcInit)
    (hoff : dev.channel.enabled = false)
    (hidle : dev.pump.state = .idle) (call : BulkIn) :
    (∃ result dev', pumpEngage hcInit maxPacketCount dev call = .error (result, dev') ∧
        result.answer = .notHandled ∧ PumpHolds dev' .idle) ∨
      ∃ dev', pumpEngage hcInit maxPacketCount dev call = .ok dev' ∧
        PumpHolds dev' (.serving call.endpoint []) ∧ dev'.pump.state = .armed ∧
        dev'.channel.hcint.chhltd = false := by
  rcases pumpEngage_cases hcInit maxPacketCount dev call with
    ⟨status, pump, hcall, hstate⟩ | ⟨pump, hcall, hkey, -⟩
  · exact Or.inl ⟨_, _, hcall, rfl, .idle (hstate.trans hidle) hoff⟩
  · refine Or.inr ⟨_, hcall, ?_, rfl, arm_running hinit _⟩
    have harm := arm_holds hinit { dev with pump }
    rwa [show (_ : PumpDev).pump.endpoint = call.endpoint from hkey] at harm

theorem PumpHolds.endpoint (h : PumpHolds dev b) (hbusy : dev.pump.state ≠ .idle) :
    ∃ v, b = .serving dev.pump.endpoint v ∨ b = .waiting dev.pump.endpoint v := by
  cases h with
  | idle hstate => exact absurd hstate hbusy
  | stoodDown k hstate => exact absurd hstate hbusy
  | running k v hrun => exact ⟨v, Or.inl (by rw [hrun.pump])⟩
  | halted k hstate hk => exact ⟨[], Or.inl (by rw [hk])⟩
  | complete k v hstate hk => exact ⟨v, Or.inr (by rw [hk])⟩
  | ready k v hstate hk => exact ⟨v, Or.inr (by rw [hk])⟩

/-- The answer to a poll for the endpoint at hand. -/
theorem answer_holds (hinit : HcInitSpec hcInit) (h : PumpHolds dev b)
    (hrun : dev.pump.state = .armed → dev.channel.hcint.chhltd = false)
    (hb : ∃ v, b = .serving call.endpoint v ∨ b = .waiting call.endpoint v) :
    ∃ b', BoxStep b (.polled call.endpoint call.dataLength (pumpAnswer hcInit dev call).1.answer)
        b' ∧ PumpHolds (pumpAnswer hcInit dev call).2 b' ∧
      ∀ copy, (pumpAnswer hcInit dev call).1.copy = some copy → copy.owned = false := by
  unfold pumpAnswer
  obtain ⟨v, rfl | rfl⟩ := hb
  · cases h with
    | stoodDown _ hstate hoff =>
      rw [hstate]
      exact ⟨.idle, .standDown _ _ _, .idle hstate hoff, nofun⟩
    -- the channel is at work: the caller gets nothing and the transfer goes on
    | running _ _ hrunning =>
      rw [hrunning.armed]
      exact ⟨_, .wait _ v _, .running _ v hrunning, nofun⟩
    | halted _ hstate hk hoff hhalt =>
      rw [hrun hstate] at hhalt
      cases hhalt
  · cases h with
    | complete _ _ hstate hk hoff hhalt =>
      rw [hrun hstate] at hhalt
      cases hhalt
    | ready _ _ hstate hk hoff hlength hbuffer =>
      rw [hstate]
      -- the copy is the waiting transfer, cut to the caller's buffer
      have hcopy : dev.buffer.slice 0 (min call.dataLength dev.pump.readyLength) =
          v.take call.dataLength := by
        rw [hlength, ← Mem.take_slice, hbuffer]
      have harm := arm_holds hinit dev
      rw [hk] at harm
      refine ⟨.serving call.endpoint [], ?_, harm, ?_⟩
      · show BoxStep _ (.polled _ _ (.data (dev.buffer.slice 0 _))) _
        rw [hcopy]
        exact .hand _ v _
      · intro copy hcopied
        cases hcopied
        exact hoff

/-- **A poll copies from a halted channel's buffer only.** -/
theorem bulkIn_owned (maxPacketCount : Nat) (hinit : HcInitSpec hcInit) (h : PumpHolds dev b)
    (call : BulkIn) {copy : PumpCopy}
    (hcopy : (dwHcPumpBulkIn hcInit maxPacketCount dev call).1.copy = some copy) :
    copy.owned = false := by
  unfold dwHcPumpBulkIn at hcopy
  simp only at hcopy
  rcases pumpTakeOver_cases dev call with hidle | ⟨hsame, hbusy, hkey⟩
  · -- a pump that was idle has nothing to hand over
    rw [if_pos hidle] at hcopy
    rcases pumpEngage_cases hcInit maxPacketCount (pumpTakeOver dev call) call with
      ⟨status, pump, hcall, -⟩ | ⟨pump, hcall, -⟩
    · rw [hcall] at hcopy
      cases hcopy
    · rw [hcall] at hcopy
      simp only at hcopy
      rw [harvest_quiet fun _ => arm_running hinit _] at hcopy
      cases hcopy
  · rw [hsame, if_neg hbusy] at hcopy
    obtain ⟨hholds, hrun⟩ := harvest_holds hinit h
    obtain ⟨-, -, -, howned⟩ := answer_holds hinit hholds hrun (hkey ▸ h.endpoint hbusy)
    exact howned copy hcopy

/-- **A poll is a step of the mailbox.** -/
theorem bulkIn_holds (maxPacketCount : Nat) (hinit : HcInitSpec hcInit) (h : PumpHolds dev b)
    (call : BulkIn) (hhalts : call.haltsInTime = true) :
    ∃ b', BoxStep b (.polled call.endpoint call.dataLength
          (dwHcPumpBulkIn hcInit maxPacketCount dev call).1.answer) b' ∧
      PumpHolds (dwHcPumpBulkIn hcInit maxPacketCount dev call).2 b' := by
  unfold dwHcPumpBulkIn
  simp only
  rcases takeOver_holds h call hhalts with ⟨hidle, hoff, hfrom⟩ | ⟨hsame, hbusy, hkey⟩
  · rw [if_pos hidle]
    rcases engage_holds maxPacketCount hinit hoff hidle call with
      ⟨result, dev', hcall, hanswer, hholds⟩ | ⟨dev', hcall, hholds, harmed, hrun⟩
    · rw [hcall]
      simp only
      rw [hanswer]
      refine ⟨.idle, ?_, hholds⟩
      rcases hfrom with rfl | ⟨k, rfl⟩ | ⟨k, v, hne, hb⟩
      · exact .refuse _ _
      · exact .standDown k _ _
      · exact .evict b k _ v _ hne hb
    · -- a channel just armed has not halted, so the poll is told to wait
      rw [hcall]
      simp only
      rw [harvest_quiet fun _ => hrun]
      unfold pumpAnswer
      rw [harmed]
      refine ⟨_, ?_, hholds⟩
      rcases hfrom with rfl | ⟨k, rfl⟩ | ⟨k, v, hne, hb⟩
      · exact .start _ _
      · by_cases hk : call.endpoint = k
        · subst hk
          exact .wait _ [] _
        · exact .takeOver _ k _ [] _ hk (Or.inl rfl)
      · exact .takeOver b k _ v _ hne hb
  -- the pump serves the caller: harvest what there is, and answer
  · rw [hsame, if_neg hbusy]
    simp only
    obtain ⟨hholds, hrun⟩ := harvest_holds hinit h
    obtain ⟨b', hbox, hholds', -⟩ :=
      answer_holds hinit hholds hrun (hkey ▸ h.endpoint hbusy)
    exact ⟨b', hbox, hholds'⟩

/-! ## Runs -/

/-- The channel does not halt short of `XFERCOMP` once it has received something. -/
def WholeTransfers (s : PumpSystem) : PumpEvent → Prop
  | .halt hcint _ _ => hcint.xfercomp = false → s.dev.channel.received = 0
  | _ => True

/-- A channel that is told to halt does so while `DwHcPumpHalt` waits for it. -/
def PumpEvent.HaltsInTime : PumpEvent → Prop
  | .poll call => call.haltsInTime = true
  | _ => True

theorem PumpHolds.running_of_enabled (h : PumpHolds dev b) (hon : dev.channel.enabled = true) :
    ∃ k v, b = .serving k v ∧ PumpRunning dev k v := by
  cases h with
  | running k v hrun => exact ⟨k, v, rfl, hrun⟩
  | idle _ hoff => rw [hon] at hoff; cases hoff
  | stoodDown k _ hoff => rw [hon] at hoff; cases hoff
  | halted k _ _ hoff => rw [hon] at hoff; cases hoff
  | complete k v _ _ hoff => rw [hon] at hoff; cases hoff
  | ready k v _ _ hoff => rw [hon] at hoff; cases hoff

/-- What the controller writes behind the received bytes leaves them. -/
theorem PumpRunning.write (hrun : PumpRunning dev k v) {offset : Nat} (bytes : List UInt8)
    (hbehind : v.length ≤ offset) :
    PumpRunning { dev with buffer := dev.buffer.write offset bytes } k v := by
  refine { hrun with buffer := ?_ }
  show (dev.buffer.write offset bytes).slice 0 v.length = v
  conv_rhs => rw [← hrun.buffer]
  exact Mem.slice_congr fun i _ hi => Mem.write_of_lt bytes (by omega)

/-- A packet the controller writes there is received. -/
theorem PumpRunning.receive (hrun : PumpRunning dev k v) {bytes : List UInt8}
    (hfits : v.length + bytes.length ≤ dev.pump.armedLength) (xferSize : Nat) :
    PumpRunning { dev with
      buffer := dev.buffer.write v.length bytes
      channel := { dev.channel with received := v.length + bytes.length, xferSize } }
      k (v ++ bytes) where
  armed := hrun.armed
  pump := hrun.pump
  channel := hrun.channel
  running := hrun.running
  programmed := hrun.programmed
  received := List.length_append.symm
  fits := by
    rw [List.length_append]
    exact hfits
  buffer := by
    have hfront := (hrun.write bytes (Nat.le_refl _)).buffer
    have hback := Mem.slice_write dev.buffer v.length bytes
    simp only at hfront ⊢
    rw [List.length_append, Mem.slice_add, Nat.zero_add, hback, hfront]

/-- **Every event is a step of the mailbox, or none at all.** -/
theorem pumpStep_holds (hinit : HcInitSpec hcInit)
    (h : ∃ b, Run BoxStep .idle s.trace b ∧ PumpHolds s.dev b) (hok : WholeTransfers s e)
    (hhalts : e.HaltsInTime) (hstep : pumpStep hcInit maxPacketCount s e = some s') :
    ∃ b, Run BoxStep .idle s'.trace b ∧ PumpHolds s'.dev b := by
  obtain ⟨b, htrace, hholds⟩ := h
  unfold pumpStep at hstep
  by_cases hallow : channelAllows s.dev.channel e = true
  case neg =>
    rw [if_pos (by simpa using hallow)] at hstep
    cases hstep
  rw [if_neg (by simpa using hallow)] at hstep
  cases e with
  | tick =>
    cases hstep
    exact ⟨b, htrace, (harvest_holds hinit hholds).1⟩
  | poll call =>
    cases hstep
    obtain ⟨b', hbox, hholds'⟩ := bulkIn_holds maxPacketCount hinit hholds call hhalts
    exact ⟨b', .snoc htrace hbox, hholds'⟩
  | packet bytes =>
    cases hstep
    unfold channelAllows at hallow
    rw [Bool.and_eq_true, decide_eq_true_eq] at hallow
    obtain ⟨k, v, rfl, hrun⟩ := hholds.running_of_enabled hallow.1
    -- the controller stays within what the transfer was programmed for
    have hfits := hallow.2
    rw [hrun.received, hrun.programmed] at hfits
    obtain rfl := hrun.channel
    simp only
    rw [hrun.received]
    exact ⟨.serving _ (v ++ bytes), .snoc htrace (.receive _ v bytes),
      .running _ _ (hrun.receive hfits _)⟩
  | write offset bytes =>
    cases hstep
    unfold channelAllows at hallow
    rw [Bool.and_eq_true, decide_eq_true_eq] at hallow
    obtain ⟨k, v, rfl, hrun⟩ := hholds.running_of_enabled hallow.1
    have hbehind := hallow.2
    rw [hrun.received] at hbehind
    -- the controller may scribble behind the received bytes, and no other place
    exact ⟨.serving k v, htrace, .running k v (hrun.write bytes hbehind)⟩
  | interrupt hcint =>
    cases hstep
    unfold channelAllows at hallow
    rw [Bool.and_eq_true] at hallow
    obtain ⟨k, v, rfl, hrun⟩ := hholds.running_of_enabled hallow.1
    have hflag : hcint.chhltd = false := by simpa using hallow.2
    exact ⟨.serving k v, htrace, .running k v { hrun with running := hflag }⟩
  | halt hcint xferSize pid =>
    cases hstep
    unfold channelAllows at hallow
    rw [Bool.and_eq_true, Bool.and_eq_true] at hallow
    obtain ⟨⟨hon, hhalt⟩, hsize⟩ := hallow
    obtain ⟨k, v, rfl, hrun⟩ := hholds.running_of_enabled hon
    have hfits := hrun.fits
    simp only
    by_cases hcomp : hcint.xfercomp = true
    · have hleft : xferSize + v.length = s.dev.pump.armedLength := by
        rw [hcomp] at hsize
        have heq : xferSize = s.dev.channel.programmed - s.dev.channel.received := by
          simpa using hsize
        rw [hrun.programmed, hrun.received] at heq
        omega
      rw [if_pos hcomp, hrun.channel]
      by_cases hv : v = []
      · subst hv
        exact ⟨.serving k [], .snoc htrace (.completeEmpty k),
          .halted k hrun.armed hrun.pump rfl hhalt fun _ => Nat.le_of_eq hleft.symm⟩
      · exact ⟨.waiting k v, .snoc htrace (.complete k v hv),
          .complete k v hrun.armed hrun.pump rfl hhalt hcomp hv hleft hrun.buffer⟩
    -- no `XFERCOMP`: a whole transfer has not received anything
    · rw [if_neg hcomp]
      have hnone : v.length = 0 := by
        rw [← hrun.received]
        exact hok (by simpa using hcomp)
      have hv := List.length_eq_zero_iff.mp hnone
      subst hv
      exact ⟨.serving k [], htrace,
        .halted k hrun.armed hrun.pump rfl hhalt fun h => absurd h hcomp⟩

theorem pumpRun_holds (hinit : HcInitSpec hcInit) {channel : HostChannel} {buffer : Mem}
    {es : List PumpEvent}
    (hrun : RunWith (fun s e s' => pumpStep hcInit maxPacketCount s e = some s')
      (fun s e => WholeTransfers s e ∧ e.HaltsInTime) (pumpStart channel buffer) es s) :
    ∃ b, Run BoxStep .idle s.trace b ∧ PumpHolds s.dev b :=
  RunWith.inv (I := fun s => ∃ b, Run BoxStep .idle s.trace b ∧ PumpHolds s.dev b)
    (fun _ _ _ h hok hstep => pumpStep_holds hinit h hok.1 hok.2 hstep) hrun
    ⟨.idle, .nil, .idle rfl rfl⟩

/-- **The pump is a one-place mailbox.** In every run whose transfers are whole and whose channel
halts in time, the trace is one of a mailbox; the next poll copies from the buffer only while the
channel does not own it; and where no poll for another endpoint or with too short a buffer came in
between, nothing was lost. -/
theorem pump_mailbox (hcInit : HostChannel → UInt8 → PumpEndpoint → HostChannel)
    (maxPacketCount : Nat) (channel : HostChannel) (buffer : Mem) (es : List PumpEvent)
    (s : PumpSystem) (hinit : HcInitSpec hcInit)
    (hrun : RunWith (fun s e s' => pumpStep hcInit maxPacketCount s e = some s')
      (fun s e => WholeTransfers s e ∧ e.HaltsInTime) (pumpStart channel buffer) es s) :
    (∃ b, Run BoxStep .idle s.trace b) ∧
      (∀ call copy, (dwHcPumpBulkIn hcInit maxPacketCount s.dev call).1.copy = some copy →
        copy.owned = false) ∧
      ((∃ b, RunWith BoxStep Undisturbed .idle s.trace b) → LossFree s.trace) := by
  obtain ⟨b, htrace, hholds⟩ := pumpRun_holds hinit hrun
  exact ⟨⟨b, htrace⟩, fun call copy hcopy => bulkIn_owned maxPacketCount hinit hholds call hcopy,
    fun ⟨b', h⟩ => desk_of_box h⟩

/-! ## Two runs -/

/-- A `DwOtgHcInit` that does what the pump relies on, and nothing else. -/
def programChannel (channel : HostChannel) (speed : UInt8) (endpoint : PumpEndpoint) :
    HostChannel :=
  { channel with endpoint, deviceSpeed := speed, hcint := .clear }

theorem programChannel_spec : HcInitSpec programChannel := ⟨fun _ _ _ => rfl, fun _ _ _ => rfl⟩

/-- A poll of a device's endpoint 1 with a 2 KiB buffer. -/
def pollDevice (deviceAddress : UInt8) : PumpEvent :=
  .poll ⟨deviceAddress, 0x81, 3, 512, 2048, 0, .success, .success, true⟩

def idleSystem : PumpSystem := pumpStart ⟨⟨0, 0, 0⟩, 0, false, .clear, 0, 0, 0, 0⟩ fun _ => 0

instance (s : PumpSystem) (e : PumpEvent) : Decidable (WholeTransfers s e) := by
  unfold WholeTransfers
  split <;> infer_instance

instance (e : PumpEvent) : Decidable e.HaltsInTime := by
  unfold PumpEvent.HaltsInTime
  split <;> infer_instance

/-- A transfer of three bytes between two polls. -/
def handedEvents : List PumpEvent :=
  [pollDevice 1, .tick, .packet [1, 2, 3], .halt ⟨true, true, false, false⟩ 2045 2, .tick,
    pollDevice 1]

theorem handedEvents_mailbox :
    ∃ s : PumpSystem, s.trace = [.polled ⟨1, 1, 512⟩ 2048 .nothing, .received ⟨1, 1, 512⟩ [1, 2, 3],
        .completed ⟨1, 1, 512⟩, .polled ⟨1, 1, 512⟩ 2048 (.data [1, 2, 3])] ∧
      (∃ b, Run BoxStep .idle s.trace b) ∧
      (∀ call copy, (dwHcPumpBulkIn programChannel 511 s.dev call).1.copy = some copy →
        copy.owned = false) ∧
      ((∃ b, RunWith BoxStep Undisturbed .idle s.trace b) → LossFree s.trace) := by
  have hrun : ∃ s : PumpSystem, handedEvents.foldlM (fun s e =>
      if WholeTransfers s e ∧ e.HaltsInTime then pumpStep programChannel 511 s e else none)
      idleSystem = some s ∧
      s.trace = [.polled ⟨1, 1, 512⟩ 2048 .nothing, .received ⟨1, 1, 512⟩ [1, 2, 3],
        .completed ⟨1, 1, 512⟩, .polled ⟨1, 1, 512⟩ 2048 (.data [1, 2, 3])] :=
    ⟨_, rfl, rfl⟩
  obtain ⟨s, hrun, htrace⟩ := hrun
  exact ⟨s, htrace, pump_mailbox programChannel 511 _ _ handedEvents s programChannel_spec
    (runWith_of_foldlM hrun)⟩

/-- The same with a poll of another device in between. -/
def takeOverEvents : List PumpEvent :=
  [pollDevice 1, .packet [1, 2, 3], .halt ⟨true, true, false, false⟩ 2045 2, pollDevice 2,
    pollDevice 1]

/-- The newcomer wins: the transfer is gone. -/
theorem takeOverEvents_lose :
    ∃ s : PumpSystem,
      RunWith (fun s e s' => pumpStep programChannel 511 s e = some s')
        (fun s e => WholeTransfers s e ∧ e.HaltsInTime) idleSystem takeOverEvents s ∧
      s.trace = [.polled ⟨1, 1, 512⟩ 2048 .nothing, .received ⟨1, 1, 512⟩ [1, 2, 3],
        .completed ⟨1, 1, 512⟩, .polled ⟨2, 1, 512⟩ 2048 .nothing,
        .polled ⟨1, 1, 512⟩ 2048 .nothing] ∧ ¬LossFree s.trace := by
  have hrun : ∃ s : PumpSystem, takeOverEvents.foldlM (fun s e =>
      if WholeTransfers s e ∧ e.HaltsInTime then pumpStep programChannel 511 s e else none)
      idleSystem = some s ∧
      s.trace = [.polled ⟨1, 1, 512⟩ 2048 .nothing, .received ⟨1, 1, 512⟩ [1, 2, 3],
        .completed ⟨1, 1, 512⟩, .polled ⟨2, 1, 512⟩ 2048 .nothing,
        .polled ⟨1, 1, 512⟩ 2048 .nothing] :=
    ⟨_, rfl, rfl⟩
  obtain ⟨s, hrun, htrace⟩ := hrun
  refine ⟨s, runWith_of_foldlM hrun, htrace, ?_⟩
  rintro ⟨d, hd⟩
  rw [run_iff_foldlM, htrace] at hd
  cases hd

end Rpi5Uefi
