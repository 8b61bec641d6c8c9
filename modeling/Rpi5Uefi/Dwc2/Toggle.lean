import Rpi5Uefi.Dwc2.PumpRun

/-!
# The data toggle of a pumped endpoint

A bulk endpoint's toggle lives in three places: the device moves it with each packet and the core
keeps it in `HCTSIZ.PID`, the pump has a copy in `Pid`, and the caller has another in `DataToggle`.

* **`bulkTransferStep`**: a bulk IN by way of the pump, or by the classic path behind it.
* **`ToggleKept`**: what each step has to meet. An arming must follow a transfer that left the pid
  the pump still holds; a pump may let go of an endpoint only where the caller's copy is the
  device's; and no long poll may pass by the pump that serves its endpoint.
* **`toggles_coherent`**: in runs of such steps, with a channel that halts in time when it is told
  to, every arming and every handover has the device's toggle.
* **`toggles_part`**: two runs with other steps.
-/

namespace Rpi5Uefi

open Transition

def dwc2PumpEngageTimeoutMs : Nat := 8

def efiUsbSpeedHigh : UInt8 := 2

/-! ## The three copies -/

/-- An IN endpoint, as the toggles are kept. -/
structure ToggleKey where
  deviceAddress : UInt8
  epNum : UInt8
  deriving DecidableEq, Repr

def PumpEndpoint.key (endpoint : PumpEndpoint) : ToggleKey :=
  ⟨endpoint.deviceAddress, endpoint.epAddress⟩

def DwUsbPump.key (pump : DwUsbPump) : ToggleKey := ⟨pump.deviceAddress, pump.epAddress⟩

def BulkIn.key (call : BulkIn) : ToggleKey := ⟨call.deviceAddress, call.epNum⟩

/-- `HCTSIZ.PID` of a data packet: `DATA0` or `DATA1`. -/
def dataPid (toggle : Bool) : UInt32 := if toggle then 2 else 0

/-- The same in a caller's `DataToggle`. -/
def toggleValue (toggle : Bool) : UInt8 := if toggle then 1 else 0

theorem toggleValue_shift (toggle : Bool) :
    (toggleValue toggle).toUInt32 <<< 1 = dataPid toggle := by
  cases toggle <;> decide

theorem toggle_of_pid {value : UInt8} {toggle : Bool}
    (h : value.toUInt32 <<< 1 = dataPid toggle) : value = toggleValue toggle := by
  have hnat := congrArg UInt32.toNat h
  have hlt := value.toNat_lt
  rw [UInt32.toNat_shiftLeft, UInt8.toNat_toUInt32, Nat.shiftLeft_eq] at hnat
  rw [← UInt8.toNat_inj]
  -- a byte shifted left by one does not overflow 32 bits
  cases toggle
  · change value.toNat * 2 % 4294967296 = 0 at hnat
    show value.toNat = 0
    omega
  · change value.toNat * 2 % 4294967296 = 2 at hnat
    show value.toNat = 1
    omega

/-- A bulk IN that reached the classic path: the caller's `DataToggle`, the toggle the last
transfer of the endpoint left, and whether the pump still had a request of its own there. -/
structure Handover where
  dataToggle : UInt8
  expected : Bool
  armed : Bool
  deriving DecidableEq, Repr

/-- The driver with the device's toggles, the callers' `DataToggle`s and the bulk INs that reached
the classic path. -/
structure ToggleSystem where
  dev : PumpDev
  device : ToggleKey → Bool
  caller : ToggleKey → UInt8
  handovers : List Handover

/-- A call of `DwHcBulkTransfer` whose arguments are valid. The classic path is the patched
driver's: `classicToggle` is the toggle its transfers leave, in the device and in the caller's
`DataToggle`. -/
structure BulkTransfer where
  request : BulkIn
  timeOut : Nat
  translatorHubAddress : Option UInt8
  classicToggle : Bool

/-- The polling receive that `DwHcBulkTransfer` takes to the pump. -/
def BulkTransfer.engages (call : BulkTransfer) : Bool :=
  decide (call.timeOut ≠ 0) && decide (call.timeOut ≤ dwc2PumpEngageTimeoutMs) &&
    decide (call.request.deviceSpeed = efiUsbSpeedHigh) &&
    decide (call.translatorHubAddress.getD 0 = 0)

/-- The pump has an armed request for an endpoint. -/
def PumpDev.armedFor (dev : PumpDev) (key : ToggleKey) : Bool :=
  decide (dev.pump.state = .armed ∧ dev.pump.key = key ∨
    dev.channel.enabled = true ∧ dev.channel.endpoint.key = key)

/-- The classic path. -/
def classicTransfer (s : ToggleSystem) (call : BulkTransfer) : ToggleSystem :=
  let key := call.request.key
  { s with
    device := Function.update s.device key call.classicToggle
    caller := Function.update s.caller key (toggleValue call.classicToggle)
    handovers := s.handovers ++ [⟨s.caller key, s.device key, s.dev.armedFor key⟩] }

inductive ToggleEvent where
  | tick
  | bulkTransfer (call : BulkTransfer)
  | transact (hcint : Hcint) (xferSize : Nat) (toggle : Bool) (buffer : Bytes.Mem)

section
variable (hcInit : HostChannel → UInt8 → PumpEndpoint → HostChannel) (maxPacketCount : Nat)

/-- `DwHcBulkTransfer`. -/
def bulkTransferStep (s : ToggleSystem) (call : BulkTransfer) : ToggleSystem :=
  -- the toggles of the OUT endpoints are others
  if call.request.endPointAddress &&& 0x80 = 0 then s
  else if call.engages then
    let key := call.request.key
    let (result, dev) := dwHcPumpBulkIn hcInit maxPacketCount s.dev
      { call.request with dataToggle := s.caller key }
    let s := { s with dev, caller := Function.update s.caller key result.dataToggle }
    if result.handled then s else classicTransfer s call
  else classicTransfer s call

/-- One event. A transaction of the enabled channel moves any number of packets, and leaves the
channel enabled or halted. -/
def toggleStep (s : ToggleSystem) : ToggleEvent → Option ToggleSystem
  | .tick => some { s with dev := dwHcPumpHarvest hcInit s.dev }
  | .bulkTransfer call => some (bulkTransferStep hcInit maxPacketCount s call)
  | .transact hcint xferSize toggle buffer =>
    if s.dev.channel.enabled then
      some { s with
        dev := { s.dev with
          channel := { s.dev.channel with
            hcint, xferSize, pid := dataPid toggle, enabled := !hcint.chhltd }
          buffer }
        device := Function.update s.device s.dev.channel.endpoint.key toggle }
    else none

end

/-- A driver just started, with callers that agree with their devices. -/
def toggleStart (channel : HostChannel) (buffer : Bytes.Mem) (device : ToggleKey → Bool) :
    ToggleSystem :=
  ⟨(pumpStart channel buffer).dev, device, fun key => toggleValue (device key), []⟩

/-! ## The property and its condition -/

/-- The toggle the pump has programmed is the one the device goes on with. Arming is the last thing
a tick or a call does, so this is said of every arming. -/
def ArmedCoherent (s : ToggleSystem) : Prop :=
  s.dev.channel.enabled = true →
    s.dev.channel.pid = dataPid (s.device s.dev.channel.endpoint.key)

/-- A bulk IN was handed to the classic path with the device's toggle and without the pump. -/
def Handover.Coherent (handover : Handover) : Prop :=
  handover.dataToggle = toggleValue handover.expected ∧ handover.armed = false

/-- The caller of the pumped endpoint has the toggle in `HCTSIZ`. -/
def CallerKnows (s : ToggleSystem) : Prop :=
  (s.caller s.dev.pump.key).toUInt32 <<< 1 = s.dev.channel.pid

instance (s : ToggleSystem) : Decidable (CallerKnows s) := inferInstanceAs (Decidable (_ = _))

/-- A halt without `XFERCOMP` that is harvested left the pid the pump still holds, or the caller
knows it where the pump stands down. -/
def HarvestKept (s : ToggleSystem) : Prop :=
  s.dev.pump.state = .armed → s.dev.channel.hcint.chhltd = true →
    s.dev.channel.hcint.xfercomp = false →
      if s.dev.pump.rearms s.dev.channel.hcint then s.dev.channel.pid = s.dev.pump.pid
      else CallerKnows s

instance (s : ToggleSystem) : Decidable (HarvestKept s) := by
  unfold HarvestKept
  infer_instance

/-- What a step has to meet. -/
def ToggleKept (s : ToggleSystem) : ToggleEvent → Prop
  | .tick => HarvestKept s
  | .transact .. => True
  | .bulkTransfer call =>
    call.request.endPointAddress &&& 0x80 = 0 ∨ s.dev.pump.state = .idle ∨
      if call.engages then
        if s.dev.pump.endpoint = call.request.endpoint then HarvestKept s else CallerKnows s
      else s.dev.pump.key ≠ call.request.key

instance (s : ToggleSystem) (e : ToggleEvent) : Decidable (ToggleKept s e) := by
  unfold ToggleKept
  split <;> infer_instance

/-- A channel that is told to halt does so while `DwHcPumpHalt` waits for it. -/
def ToggleEvent.HaltsInTime : ToggleEvent → Prop
  | .bulkTransfer call => call.request.haltsInTime = true
  | _ => True

instance (e : ToggleEvent) : Decidable e.HaltsInTime := by
  unfold ToggleEvent.HaltsInTime
  split <;> infer_instance

/-! ## The invariant -/

variable {hcInit : HostChannel → UInt8 → PumpEndpoint → HostChannel} {maxPacketCount : Nat}
  {s s' : ToggleSystem} {dev : PumpDev} {e : ToggleEvent}

/-- Callers agree with their devices, apart from the one the pump serves, whose toggle is in the
channel. -/
structure ToggleInv (s : ToggleSystem) : Prop where
  others : ∀ key, s.dev.pump.state = .idle ∨ key ≠ s.dev.pump.key →
    s.caller key = toggleValue (s.device key)
  served : s.dev.pump.state ≠ .idle → s.dev.channel.pid = dataPid (s.device s.dev.pump.key)
  armed : s.dev.pump.state = .armed → s.dev.channel.endpoint.key = s.dev.pump.key ∧
    s.dev.channel.enabled = !s.dev.channel.hcint.chhltd
  off : s.dev.pump.state ≠ .armed → s.dev.channel.enabled = false
  ready : s.dev.pump.state = .ready → s.dev.pump.pid = s.dev.channel.pid

theorem ToggleInv.off_of_halted (h : ToggleInv s) (hhalt : s.dev.channel.hcint.chhltd = true) :
    s.dev.channel.enabled = false := by
  by_cases harmed : s.dev.pump.state = .armed
  · rw [(h.armed harmed).2, hhalt]
    rfl
  · exact h.off harmed

theorem DwUsbPump.busy_of_armed {pump : DwUsbPump} (h : pump.state = .armed) :
    pump.state ≠ .idle := by
  rw [h]
  decide

theorem ToggleInv.armedCoherent (h : ToggleInv s) : ArmedCoherent s := by
  intro hon
  by_cases harmed : s.dev.pump.state = .armed
  · rw [(h.armed harmed).1]
    exact h.served (DwUsbPump.busy_of_armed harmed)
  · rw [h.off harmed] at hon
    cases hon

/-- The caller that knows the toggle in `HCTSIZ` has the device's. -/
theorem ToggleInv.caller_of_knows (h : ToggleInv s) (hbusy : s.dev.pump.state ≠ .idle)
    (hknows : CallerKnows s) :
    s.caller s.dev.pump.key = toggleValue (s.device s.dev.pump.key) :=
  toggle_of_pid (hknows.trans (h.served hbusy))

theorem ToggleInv.callers_of_knows (h : ToggleInv s) (hbusy : s.dev.pump.state ≠ .idle)
    (hknows : CallerKnows s) (key : ToggleKey) : s.caller key = toggleValue (s.device key) := by
  by_cases hkey : key = s.dev.pump.key
  · rw [hkey]
    exact h.caller_of_knows hbusy hknows
  · exact h.others key (Or.inr hkey)

theorem ToggleInv.callers_of_idle (h : ToggleInv s) (hidle : s.dev.pump.state = .idle)
    (key : ToggleKey) : s.caller key = toggleValue (s.device key) :=
  h.others key (Or.inl hidle)

/-! ## The driver's functions -/

/-- An idle pump leaves all toggles with their callers. -/
theorem toggleInv_idle (hstate : s.dev.pump.state = .idle) (hoff : s.dev.channel.enabled = false)
    (hcallers : ∀ key, s.caller key = toggleValue (s.device key)) : ToggleInv s where
  others key _ := hcallers key
  served hbusy := absurd hstate hbusy
  armed harmed := by rw [hstate] at harmed; cases harmed
  off _ := hoff
  ready hready := by rw [hstate] at hready; cases hready

/-- **An arming with the device's toggle.** -/
theorem arm_toggle (hinit : HcInitSpec hcInit)
    (hothers : ∀ key, key ≠ s.dev.pump.key → s.caller key = toggleValue (s.device key))
    (hpid : s.dev.pump.pid = dataPid (s.device s.dev.pump.key)) :
    ToggleInv { s with dev := dwHcPumpArm hcInit s.dev } where
  others key hkey := hothers key (hkey.resolve_left nofun)
  served _ := hpid
  armed _ := by
    refine ⟨congrArg PumpEndpoint.key (hinit.endpoint _ _ _), ?_⟩
    show true = !(dwHcPumpArm hcInit s.dev).channel.hcint.chhltd
    rw [arm_running hinit]
    rfl
  off hne := absurd rfl hne
  ready := nofun

/-- **A harvest** moves the toggle of a completion into the pump. -/
theorem harvest_toggle (hinit : HcInitSpec hcInit) (h : ToggleInv s) (hok : HarvestKept s) :
    ToggleInv { s with dev := dwHcPumpHarvest hcInit s.dev } ∧
      (dwHcPumpHarvest hcInit s.dev).pump.key = s.dev.pump.key := by
  have hcases := harvest_cases hcInit s.dev
  generalize hdev : dwHcPumpHarvest hcInit s.dev = dev at hcases ⊢
  cases hcases with
  | quiet => exact ⟨h, rfl⟩
  -- a completion without data takes the channel's pid along, and the request is armed again
  | empty harmed hhalt hcomp =>
    have hbusy := DwUsbPump.busy_of_armed harmed
    refine ⟨arm_toggle (s := { s with dev := _ }) hinit ?_ ?_, rfl⟩
    · exact fun key hkey => h.others key (Or.inr hkey)
    · exact h.served hbusy
  | ready harmed hhalt hcomp =>
    have hbusy := DwUsbPump.busy_of_armed harmed
    exact ⟨⟨fun key hkey => h.others key (Or.inr (hkey.resolve_left nofun)),
      fun _ => h.served hbusy, nofun, fun _ => h.off_of_halted hhalt, fun _ => rfl⟩, rfl⟩
  -- no `XFERCOMP`, so the pump arms with its old pid, which the condition has equal to the other
  | retry errors harmed hhalt hcomp hrearms =>
    have hbusy := DwUsbPump.busy_of_armed harmed
    have hpid := hok harmed hhalt hcomp
    rw [if_pos hrearms] at hpid
    refine ⟨arm_toggle (s := { s with dev := _ }) hinit ?_ ?_, rfl⟩
    · exact fun key hkey => h.others key (Or.inr hkey)
    · exact hpid.symm.trans (h.served hbusy)
  -- the endpoint goes back to the caller, who has to know the toggle
  | standDown harmed hhalt hcomp hrearms =>
    have hbusy := DwUsbPump.busy_of_armed harmed
    have hknows := hok harmed hhalt hcomp
    rw [if_neg (by rw [hrearms]; decide)] at hknows
    exact ⟨toggleInv_idle rfl (h.off_of_halted hhalt) (h.callers_of_knows hbusy hknows), rfl⟩

/-- **A take-over** leaves the toggle of the old endpoint with its caller. -/
theorem takeOver_toggle (h : ToggleInv s) (call : BulkIn) (hhalts : call.haltsInTime = true)
    (hok : s.dev.pump.state ≠ .idle → s.dev.pump.endpoint ≠ call.endpoint → CallerKnows s) :
    ToggleInv { s with dev := pumpTakeOver s.dev call } ∧
      ((pumpTakeOver s.dev call).pump.state = .idle ∨
        pumpTakeOver s.dev call = s.dev ∧ s.dev.pump.state ≠ .idle ∧
          s.dev.pump.endpoint = call.endpoint) := by
  by_cases hidle : s.dev.pump.state = .idle
  · rw [pumpTakeOver_idle hidle]
    exact ⟨h, Or.inl hidle⟩
  by_cases hkey : s.dev.pump.endpoint = call.endpoint
  · rw [pumpTakeOver_same hkey]
    exact ⟨h, Or.inr ⟨rfl, hidle, hkey⟩⟩
  · rw [pumpTakeOver_other hidle hkey]
    refine ⟨toggleInv_idle rfl ?_ ?_, Or.inl rfl⟩
    · show (dwHcPumpHalt s.dev call.haltsInTime).channel.enabled = false
      rw [hhalts]
      exact halt_disabled h.off h.off_of_halted
    · exact h.callers_of_knows hidle (hok hidle hkey)

/-- A call that is given its own toggle back changes nothing for the callers. -/
theorem caller_unchanged {call : BulkIn} (hcaller : call.dataToggle = s.caller call.key) :
    Function.update s.caller call.key call.dataToggle = s.caller := by
  rw [hcaller]
  exact Function.update_eq_self _ _

/-- **An answer** takes the toggle of the data it hands out to the caller. -/
theorem answer_toggle (hinit : HcInitSpec hcInit) (h : ToggleInv s) {call : BulkIn}
    (hkey : s.dev.pump.key = call.key) (hcaller : call.dataToggle = s.caller call.key) :
    ToggleInv { s with
        dev := (pumpAnswer hcInit s.dev call).2
        caller := Function.update s.caller call.key
          (pumpAnswer hcInit s.dev call).1.dataToggle } ∧
      ((pumpAnswer hcInit s.dev call).1.handled = false →
        (pumpAnswer hcInit s.dev call).2.pump.state = .idle) := by
  have hsame := caller_unchanged hcaller
  unfold pumpAnswer
  cases hstate : s.dev.pump.state with
  | ready =>
    simp only
    refine ⟨arm_toggle (s := { s with
      caller := Function.update s.caller call.key (s.dev.pump.pid >>> 1).toUInt8 })
      hinit ?_ ?_, nofun⟩
    -- the other callers are not touched
    · intro key hne
      have hother : key ≠ call.key := hkey ▸ hne
      show Function.update s.caller call.key _ key = _
      rw [Function.update_of_ne hother]
      exact h.others key (Or.inr hne)
    · show s.dev.pump.pid = dataPid (s.device s.dev.pump.key)
      rw [h.ready hstate]
      exact h.served (by rw [hstate]; decide)
  | armed =>
    simp only
    rw [hsame]
    exact ⟨h, nofun⟩
  | idle =>
    show ToggleInv { s with caller := Function.update s.caller call.key call.dataToggle } ∧ _
    rw [hsame]
    exact ⟨h, fun _ => hstate⟩

/-- **A poll** that is not handled leaves the pump idle. -/
theorem bulkIn_toggle (maxPacketCount : Nat) (hinit : HcInitSpec hcInit) (h : ToggleInv s)
    (call : BulkIn) (hhalts : call.haltsInTime = true)
    (hcaller : call.dataToggle = s.caller call.key)
    (hok : s.dev.pump.state = .idle ∨
      if s.dev.pump.endpoint = call.endpoint then HarvestKept s else CallerKnows s) :
    ToggleInv { s with
        dev := (dwHcPumpBulkIn hcInit maxPacketCount s.dev call).2
        caller := Function.update s.caller call.key
          (dwHcPumpBulkIn hcInit maxPacketCount s.dev call).1.dataToggle } ∧
      ((dwHcPumpBulkIn hcInit maxPacketCount s.dev call).1.handled = false →
        (dwHcPumpBulkIn hcInit maxPacketCount s.dev call).2.pump.state = .idle) := by
  have hsame := caller_unchanged hcaller
  have htake := takeOver_toggle h call hhalts fun hbusy hne => by
    have hknows := hok.resolve_left hbusy
    rwa [if_neg hne] at hknows
  unfold dwHcPumpBulkIn
  simp only
  generalize pumpTakeOver s.dev call = dev at htake ⊢
  obtain ⟨hinv, hidle | ⟨rfl, hbusy, hendpoint⟩⟩ := htake
  -- the pump is idle now, taken over or not
  · rw [if_pos hidle]
    have hcallers := hinv.callers_of_idle hidle
    rcases pumpEngage_cases hcInit maxPacketCount dev call with
      ⟨status, pump, hcall, hstate⟩ | ⟨pump, hcall, hendpoint, hpid⟩
    · rw [hcall]
      show ToggleInv { s with
        dev := { dev with pump }
        caller := Function.update s.caller call.key call.dataToggle } ∧ _
      rw [hsame]
      have hnow : pump.state = .idle := hstate.trans hidle
      exact ⟨toggleInv_idle hnow (hinv.off (by rw [hidle]; decide)) hcallers, fun _ => hnow⟩
    · -- the pump starts with the caller's toggle, which is the device's while it is idle
      rw [hcall]
      simp only
      rw [harvest_quiet fun _ => arm_running hinit _]
      have hkey : pump.key = call.key := congrArg PumpEndpoint.key hendpoint
      have harm : ToggleInv { s with dev := dwHcPumpArm hcInit { dev with pump } } := by
        refine arm_toggle (s := { s with dev := _ }) hinit (fun key _ => hcallers key) ?_
        show pump.pid = dataPid (s.device pump.key)
        have hvalue : s.caller call.key = toggleValue (s.device call.key) := hcallers call.key
        rw [hpid, hcaller, hkey, hvalue, toggleValue_shift]
      exact answer_toggle hinit harm hkey hcaller
  -- the pump serves this endpoint: what the channel has is harvested first
  · rw [if_neg hbusy]
    simp only
    have hkept := hok.resolve_left hbusy
    rw [if_pos hendpoint] at hkept
    obtain ⟨hharvest, hkey⟩ := harvest_toggle hinit h hkept
    exact answer_toggle hinit hharvest (hkey.trans (congrArg PumpEndpoint.key hendpoint)) hcaller

/-! ## Runs -/

/-- The invariant, and every handover so far was coherent. -/
structure ToggleRun (s : ToggleSystem) : Prop where
  inv : ToggleInv s
  handovers : ∀ handover ∈ s.handovers, handover.Coherent

/-- **The classic path** of an endpoint the pump does not serve. -/
theorem classic_toggle (h : ToggleRun s) (call : BulkTransfer)
    (hfree : s.dev.pump.state = .idle ∨ s.dev.pump.key ≠ call.request.key) :
    ToggleRun (classicTransfer s call) := by
  have hinv := h.inv
  have hfree' : s.dev.pump.state = .idle ∨ call.request.key ≠ s.dev.pump.key :=
    hfree.imp id Ne.symm
  have hkept (hbusy : s.dev.pump.state ≠ .idle) :
      Function.update s.device call.request.key call.classicToggle s.dev.pump.key =
        s.device s.dev.pump.key :=
    Function.update_of_ne (hfree.resolve_left hbusy) _ _
  have hunarmed : s.dev.armedFor call.request.key = false := by
    unfold PumpDev.armedFor
    refine decide_eq_false ?_
    intro hbad
    have harmed : s.dev.pump.state = .armed := by
      rcases hbad with ⟨harmed, -⟩ | ⟨hon, -⟩
      · exact harmed
      · by_contra hne
        rw [hinv.off hne] at hon
        cases hon
    have hbusy := DwUsbPump.busy_of_armed harmed
    have hne := hfree.resolve_left hbusy
    rcases hbad with ⟨-, hkey⟩ | ⟨-, hkey⟩
    · exact hne hkey
    · rw [(hinv.armed harmed).1] at hkey
      exact hne hkey
  -- the transfer moves the device's toggle and the caller's together
  refine ⟨⟨fun key hkey => ?_, fun hbusy => ?_, hinv.armed, hinv.off, hinv.ready⟩, ?_⟩
  · show Function.update s.caller _ _ key = toggleValue (Function.update s.device _ _ key)
    by_cases hsame : key = call.request.key
    · rw [hsame, Function.update_self, Function.update_self]
    · rw [Function.update_of_ne hsame, Function.update_of_ne hsame]
      exact hinv.others key hkey
  · show s.dev.channel.pid = dataPid (Function.update s.device _ _ s.dev.pump.key)
    rw [hkept hbusy]
    exact hinv.served hbusy
  · intro handover hmem
    rcases List.mem_append.mp hmem with hold | hnew
    · exact h.handovers handover hold
    · rw [List.mem_singleton.mp hnew]
      exact ⟨hinv.others _ hfree', hunarmed⟩

/-- **Every event that meets the condition keeps the toggles together.** -/
theorem toggleStep_run (hinit : HcInitSpec hcInit) (h : ToggleRun s) (hok : ToggleKept s e)
    (hhalts : e.HaltsInTime) (hstep : toggleStep hcInit maxPacketCount s e = some s') :
    ToggleRun s' := by
  cases e with
  | tick =>
    cases hstep
    exact ⟨(harvest_toggle hinit h.inv hok).1, h.handovers⟩
  | transact hcint xferSize toggle buffer =>
    simp only [toggleStep] at hstep
    by_cases hon : s.dev.channel.enabled = true
    case neg =>
      rw [if_neg hon] at hstep
      cases hstep
    rw [if_pos hon] at hstep
    cases hstep
    have harmed : s.dev.pump.state = .armed := by
      by_contra hne
      rw [h.inv.off hne] at hon
      cases hon
    have hkey := (h.inv.armed harmed).1
    refine ⟨⟨fun key hother => ?_, fun _ => ?_, fun _ => ⟨hkey, rfl⟩, ?_, ?_⟩, h.handovers⟩
    · have hne : key ≠ s.dev.pump.key := hother.resolve_left (DwUsbPump.busy_of_armed harmed)
      show s.caller key = toggleValue (Function.update s.device _ toggle key)
      rw [hkey, Function.update_of_ne hne]
      exact h.inv.others key (Or.inr hne)
    · show dataPid toggle = dataPid (Function.update s.device _ toggle s.dev.pump.key)
      rw [hkey, Function.update_self]
    · exact fun hne => absurd harmed hne
    · intro hready
      rw [harmed] at hready
      cases hready
  | bulkTransfer call =>
    cases hstep
    unfold bulkTransferStep
    by_cases hout : call.request.endPointAddress &&& 0x80 = 0
    · rw [if_pos hout]
      exact h
    rw [if_neg hout]
    have hkept := hok.resolve_left hout
    by_cases hengages : call.engages = true
    · rw [if_pos hengages]
      rw [if_pos hengages] at hkept
      obtain ⟨hinv, hidle⟩ := bulkIn_toggle maxPacketCount hinit h.inv
        { call.request with dataToggle := s.caller call.request.key } hhalts rfl hkept
      simp only
      generalize dwHcPumpBulkIn hcInit maxPacketCount s.dev _ = answer at hinv hidle ⊢
      -- a poll that is not handled falls through to the classic path, with the pump idle
      cases hhandled : answer.1.handled with
      | true =>
        rw [if_pos rfl]
        exact ⟨hinv, h.handovers⟩
      | false =>
        rw [if_neg (by decide)]
        exact classic_toggle ⟨hinv, h.handovers⟩ call (Or.inl (hidle hhandled))
    · rw [if_neg hengages]
      rw [if_neg hengages] at hkept
      exact classic_toggle h call hkept

theorem toggleStart_run (channel : HostChannel) (buffer : Bytes.Mem)
    (device : ToggleKey → Bool) : ToggleRun (toggleStart channel buffer device) :=
  ⟨toggleInv_idle rfl rfl fun _ => rfl, nofun⟩

/-- **The toggles stay together.** In every run whose steps meet the condition and whose channel
halts in time, the pump has armed its endpoint with the device's toggle, and every bulk IN that
reached the classic path came with the device's toggle and after the pump had let go of the
endpoint. -/
theorem toggles_coherent (hcInit : HostChannel → UInt8 → PumpEndpoint → HostChannel)
    (maxPacketCount : Nat) (channel : HostChannel) (buffer : Bytes.Mem)
    (device : ToggleKey → Bool) (es : List ToggleEvent) (s : ToggleSystem)
    (hinit : HcInitSpec hcInit)
    (hrun : RunWith (fun s e s' => toggleStep hcInit maxPacketCount s e = some s')
      (fun s e => ToggleKept s e ∧ e.HaltsInTime) (toggleStart channel buffer device) es s) :
    ArmedCoherent s ∧ ∀ handover ∈ s.handovers, handover.Coherent := by
  have h : ToggleRun s :=
    RunWith.inv (fun _ _ _ h hok hstep => toggleStep_run hinit h hok.1 hok.2 hstep) hrun
      (toggleStart_run channel buffer device)
  exact ⟨h.inv.armedCoherent, h.handovers⟩

/-! ## Runs of one endpoint -/

/-- A bulk IN of a high-speed device's endpoint 1. -/
def bulkInWithin (timeOut : Nat) : ToggleEvent :=
  .bulkTransfer ⟨⟨1, 0x81, efiUsbSpeedHigh, 512, 2048, 0, .success, .success, true⟩, timeOut, none,
    true⟩

/-- The channel halts after an odd number of packets. -/
def haltOdd (xfercomp : Bool) (xferSize : Nat) : ToggleEvent :=
  .transact ⟨true, xfercomp, false, false⟩ xferSize true fun _ => 0

def quietToggles : ToggleSystem :=
  toggleStart ⟨⟨0, 0, 0⟩, 0, false, .clear, 0, 0, 0, 0⟩ (fun _ => 0) fun _ => false

/-- A transfer is handed out, and a halt without data follows it. -/
def handedToggles : List ToggleEvent :=
  [bulkInWithin 1, haltOdd true 1948, .tick, bulkInWithin 1, haltOdd false 2048, .tick]

theorem handedToggles_coherent :
    ∃ s : ToggleSystem, s.dev.channel.enabled = true ∧ s.dev.channel.pid = 2 ∧
      ArmedCoherent s ∧ ∀ handover ∈ s.handovers, handover.Coherent := by
  have hrun : ∃ s : ToggleSystem, handedToggles.foldlM (fun s e =>
      if ToggleKept s e ∧ e.HaltsInTime then toggleStep programChannel 511 s e else none)
      quietToggles = some s ∧ s.dev.channel.enabled = true ∧ s.dev.channel.pid = 2 :=
    ⟨_, rfl, rfl, rfl⟩
  obtain ⟨s, hrun, hon, hpid⟩ := hrun
  exact ⟨s, hon, hpid, toggles_coherent programChannel 511 _ _ _ handedToggles s
    programChannel_spec (runWith_of_foldlM hrun)⟩

/-- **Toggles that part.** A transfer that breaks off after its first packet is armed again with the
toggle of that packet; and a bulk IN with a long timeout reaches the classic path while the pump has
a request armed there. -/
theorem toggles_part :
    (∃ s : ToggleSystem, Run (fun s e s' => toggleStep programChannel 511 s e = some s')
        quietToggles [bulkInWithin 1, haltOdd false 1536, .tick] s ∧ ¬ArmedCoherent s) ∧
      ∃ s : ToggleSystem, Run (fun s e s' => toggleStep programChannel 511 s e = some s')
        quietToggles [bulkInWithin 1, bulkInWithin 3000] s ∧
        ¬∀ handover ∈ s.handovers, handover.Coherent := by
  constructor
  · refine ⟨_, run_iff_foldlM.mpr rfl, ?_⟩
    intro hcoherent
    exact absurd (hcoherent rfl) (by decide)
  · refine ⟨_, run_iff_foldlM.mpr rfl, ?_⟩
    intro hcoherent
    have hunarmed := (hcoherent ⟨0, false, true⟩ (List.mem_singleton.mpr rfl)).2
    cases hunarmed

end Rpi5Uefi
