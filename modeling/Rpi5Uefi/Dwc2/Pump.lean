import Rpi5Uefi.Efi.Status
import Rpi5Uefi.Lib.Bytes
import Rpi5Uefi.Lib.Mailbox

/-!
# The bulk IN pump of the DWC2 host driver (`DwUsbHostDxe`)

One host channel is left armed with a standing IN request into a buffer of the driver's. A 1 ms
tick looks for a halted channel, and a polled bulk IN is served from the buffer or told that there
is nothing yet.

The driver's side follows the patch function by function. `DwOtgHcInit` and
`DWC2_MAX_PACKET_COUNT` belong to the driver it patches and are parameters. The hardware's side is
a channel that may, while it is enabled, receive packets, write its buffer and halt.

* **`dwHcPumpHarvest`**, **`dwHcPumpBulkIn`**: the tick and the poll.
* **`pumpStep`**: one event of the driver, the channel or a caller, with the trace of what is
  received, completed and answered.
-/

namespace Rpi5Uefi

open Bytes

def dwc2PumpMaxErrors : Nat := 8

def dwc2PumpCooldownPolls : Nat := 64

def dwc2MaxTransferSize : Nat := 65535

/-! ## State -/

/-- The bits of `HCINT` the pump reads. -/
structure Hcint where
  chhltd : Bool
  xfercomp : Bool
  nak : Bool
  frmovrun : Bool
  deriving DecidableEq, Repr

/-- `HCINT` after all bits are written back. -/
def Hcint.clear : Hcint := ⟨false, false, false, false⟩

/-- What a poll names, and what a channel is programmed for. -/
structure PumpEndpoint where
  deviceAddress : UInt8
  epAddress : UInt8
  maximumPacketLength : Nat
  deriving DecidableEq, Repr

/-- The pump's host channel: the endpoint and speed in `HCCHAR`, `CHEN`, `HCINT`, the two fields of
`HCTSIZ`, and how many bytes were programmed and have been received since. -/
structure HostChannel where
  endpoint : PumpEndpoint
  deviceSpeed : UInt8
  enabled : Bool
  hcint : Hcint
  xferSize : Nat
  pid : UInt32
  programmed : Nat
  received : Nat
  deriving DecidableEq, Repr

/-- `DWUSB_PUMP_STATE`. -/
inductive DwUsbPumpState where
  | idle
  | armed
  | ready
  deriving DecidableEq, Repr

/-- `DWUSB_PUMP`. `buffer` says whether the buffer is allocated and mapped. -/
structure DwUsbPump where
  state : DwUsbPumpState
  deviceAddress : UInt8
  epAddress : UInt8
  deviceSpeed : UInt8
  maximumPacketLength : Nat
  pid : UInt32
  armedLength : Nat
  readyLength : Nat
  errors : Nat
  cooldown : Nat
  buffer : Bool
  deriving DecidableEq, Repr

def DwUsbPump.endpoint (pump : DwUsbPump) : PumpEndpoint :=
  ⟨pump.deviceAddress, pump.epAddress, pump.maximumPacketLength⟩

/-- The pump, its channel and its buffer. -/
structure PumpDev where
  pump : DwUsbPump
  channel : HostChannel
  buffer : Mem

/-- The arguments of `DwHcPumpBulkIn`, what `DmaAllocateBuffer` and `DmaMap` will say, and whether
`CHDIS` will halt the channel before `DwHcPumpHalt` gives up waiting. -/
structure BulkIn where
  deviceAddress : UInt8
  endPointAddress : UInt8
  deviceSpeed : UInt8
  maximumPacketLength : Nat
  dataLength : Nat
  dataToggle : UInt8
  dmaAllocate : EfiStatus
  dmaMap : EfiStatus
  haltsInTime : Bool

/-- `EpNum`. -/
def BulkIn.epNum (call : BulkIn) : UInt8 := call.endPointAddress &&& 0x0F

def BulkIn.endpoint (call : BulkIn) : PumpEndpoint :=
  ⟨call.deviceAddress, call.epNum, call.maximumPacketLength⟩

/-- The values of `*TransferResult`. -/
inductive UsbTransferResult where
  | noError
  | errTimeout
  deriving DecidableEq, Repr

/-- The bytes a `CopyMem` took from the buffer, and whether the channel was enabled then. -/
structure PumpCopy where
  bytes : List UInt8
  owned : Bool
  deriving DecidableEq, Repr

/-- What a call returns and leaves in its out parameters; `transferResult` is `none` where it is
not written. -/
structure BulkInResult where
  status : EfiStatus
  handled : Bool
  copy : Option PumpCopy
  dataLength : Nat
  dataToggle : UInt8
  transferResult : Option UsbTransferResult
  deriving DecidableEq, Repr

/-- A return with `*Handled` false. -/
def BulkInResult.notHandled (call : BulkIn) (status : EfiStatus) : BulkInResult :=
  ⟨status, false, none, call.dataLength, call.dataToggle, none⟩

/-! ## The driver -/

section
variable (hcInit : HostChannel → UInt8 → PumpEndpoint → HostChannel) (maxPacketCount : Nat)

/-- `DwHcPumpArm`. -/
def dwHcPumpArm (dev : PumpDev) : PumpDev :=
  let channel := hcInit dev.channel dev.pump.deviceSpeed dev.pump.endpoint
  { dev with
    channel := { channel with
      enabled := true
      xferSize := dev.pump.armedLength
      pid := dev.pump.pid
      programmed := dev.pump.armedLength
      received := 0 }
    pump := { dev.pump with state := .armed } }

/-- `DwHcPumpHalt`. A channel that does not halt in time is left enabled. -/
def dwHcPumpHalt (dev : PumpDev) (haltsInTime : Bool) : PumpDev :=
  { dev with
    channel :=
      if dev.pump.state = .armed then
        let halted := !dev.channel.hcint.chhltd && haltsInTime
        { dev.channel with enabled := dev.channel.enabled && !halted, hcint := .clear }
      else dev.channel
    pump := { dev.pump with state := .idle, readyLength := 0 } }

/-- `DwHcPumpHarvest`. -/
def dwHcPumpHarvest (dev : PumpDev) : PumpDev :=
  if dev.pump.state ≠ .armed then dev
  else if !dev.channel.hcint.chhltd then dev
  else if dev.channel.hcint.xfercomp then
    let sub := dev.channel.xferSize
    let pump := { dev.pump with pid := dev.channel.pid, errors := 0 }
    if sub ≥ dev.pump.armedLength then dwHcPumpArm hcInit { dev with pump }
    else
      { dev with
        pump := { pump with readyLength := dev.pump.armedLength - sub, state := .ready } }
  else if dev.channel.hcint.nak || dev.channel.hcint.frmovrun then dwHcPumpArm hcInit dev
  else
    let pump := { dev.pump with errors := dev.pump.errors + 1 }
    if pump.errors < dwc2PumpMaxErrors then dwHcPumpArm hcInit { dev with pump }
    else
      { dev with
        channel := { dev.channel with hcint := .clear }
        pump := { pump with state := .idle, errors := 0, cooldown := dwc2PumpCooldownPolls } }

/-- The newcomer wins: a poll for another endpoint halts the pump. -/
def pumpTakeOver (dev : PumpDev) (call : BulkIn) : PumpDev :=
  if dev.pump.state ≠ .idle ∧ (dev.pump.deviceAddress ≠ call.deviceAddress ∨
      dev.pump.epAddress ≠ call.epNum ∨
      dev.pump.maximumPacketLength ≠ call.maximumPacketLength) then
    let dev := dwHcPumpHalt dev call.haltsInTime
    { dev with pump := { dev.pump with errors := 0, cooldown := 0 } }
  else dev

/-- The packets of a request. -/
def pumpPackets (call : BulkIn) : Nat :=
  let request := min call.dataLength (dwc2MaxTransferSize - call.maximumPacketLength + 1)
  (request + call.maximumPacketLength - 1) / call.maximumPacketLength

/-- An idle pump: the return that leaves it idle, or the armed pump. -/
def pumpEngage (dev : PumpDev) (call : BulkIn) : Except (BulkInResult × PumpDev) PumpDev :=
  if dev.pump.cooldown ≠ 0 then
    .error (.notHandled call .deviceError,
      { dev with pump := { dev.pump with cooldown := dev.pump.cooldown - 1 } })
  else if !dev.pump.buffer && call.dmaAllocate.isError then
    .error (.notHandled call call.dmaAllocate, dev)
  else if !dev.pump.buffer && call.dmaMap.isError then
    .error (.notHandled call call.dmaMap, dev)
  else
    let dev := { dev with pump := { dev.pump with buffer := true } }
    let numPackets := pumpPackets call
    if numPackets = 0 then .error (.notHandled call .invalidParameter, dev)
    else
      let numPackets := min numPackets maxPacketCount
      .ok (dwHcPumpArm hcInit
        { dev with pump := { dev.pump with
          deviceAddress := call.deviceAddress
          epAddress := call.epNum
          deviceSpeed := call.deviceSpeed
          maximumPacketLength := call.maximumPacketLength
          armedLength := numPackets * call.maximumPacketLength
          pid := call.dataToggle.toUInt32 <<< 1
          errors := 0 } })

/-- The answer to a poll, once the pump is engaged and harvested. -/
def pumpAnswer (dev : PumpDev) (call : BulkIn) : BulkInResult × PumpDev :=
  match dev.pump.state with
  | .ready =>
    let bytes := min call.dataLength dev.pump.readyLength
    (⟨.success, true, some ⟨dev.buffer.slice 0 bytes, dev.channel.enabled⟩, bytes,
      (dev.pump.pid >>> 1).toUInt8, some .noError⟩, dwHcPumpArm hcInit dev)
  | .armed => (⟨.timeout, true, none, 0, call.dataToggle, some .errTimeout⟩, dev)
  | .idle => (.notHandled call .deviceError, dev)

/-- `DwHcPumpBulkIn`. -/
def dwHcPumpBulkIn (dev : PumpDev) (call : BulkIn) : BulkInResult × PumpDev :=
  let dev := pumpTakeOver dev call
  let engaged :=
    if dev.pump.state = .idle then pumpEngage hcInit maxPacketCount dev call else .ok dev
  match engaged with
  | .error result => result
  | .ok dev => pumpAnswer hcInit (dwHcPumpHarvest hcInit dev) call

end

/-! ## Events -/

/-- What happens to the pump: a tick, a poll, and what the enabled channel does. -/
inductive PumpEvent where
  | tick
  | poll (call : BulkIn)
  | packet (bytes : List UInt8)
  | write (offset : Nat) (bytes : List UInt8)
  | interrupt (hcint : Hcint)
  | halt (hcint : Hcint) (xferSize : Nat) (pid : UInt32)

/-- The pump with the trace of what went on. -/
structure PumpSystem where
  dev : PumpDev
  trace : List (Mailbox.Obs PumpEndpoint UInt8)

/-- How the caller sees a result. -/
def BulkInResult.answer (result : BulkInResult) : Mailbox.Answer UInt8 :=
  if result.handled then
    match result.copy with
    | some copy => .data copy.bytes
    | none => .nothing
  else .notHandled

/-- What the enabled channel can do: receive a packet that fits, write behind what it received,
raise bits without a halt, and halt. A halt with `XFERCOMP` leaves the bytes not transferred in
`XFERSIZE`. -/
def channelAllows (channel : HostChannel) : PumpEvent → Bool
  | .tick => true
  | .poll _ => true
  | .packet bytes =>
    channel.enabled && decide (channel.received + bytes.length ≤ channel.programmed)
  | .write offset _ => channel.enabled && decide (channel.received ≤ offset)
  | .interrupt hcint => channel.enabled && !hcint.chhltd
  | .halt hcint xferSize _ =>
    channel.enabled && hcint.chhltd &&
      (!hcint.xfercomp || decide (xferSize = channel.programmed - channel.received))

section
variable (hcInit : HostChannel → UInt8 → PumpEndpoint → HostChannel) (maxPacketCount : Nat)

/-- One event. -/
def pumpStep (s : PumpSystem) (e : PumpEvent) : Option PumpSystem :=
  if !channelAllows s.dev.channel e then none
  else
    match e with
    | .tick => some { s with dev := dwHcPumpHarvest hcInit s.dev }
    | .poll call =>
      let (result, dev) := dwHcPumpBulkIn hcInit maxPacketCount s.dev call
      some ⟨dev, s.trace ++ [.polled call.endpoint call.dataLength result.answer]⟩
    | .packet bytes =>
      some ⟨{ s.dev with
          buffer := s.dev.buffer.write s.dev.channel.received bytes
          channel := { s.dev.channel with
            received := s.dev.channel.received + bytes.length
            xferSize := s.dev.channel.xferSize - bytes.length } },
        s.trace ++ [.received s.dev.channel.endpoint bytes]⟩
    | .write offset bytes =>
      some { s with dev := { s.dev with buffer := s.dev.buffer.write offset bytes } }
    | .interrupt hcint =>
      some { s with dev := { s.dev with channel := { s.dev.channel with hcint } } }
    | .halt hcint xferSize pid =>
      some ⟨{ s.dev with channel := { s.dev.channel with enabled := false, hcint, xferSize, pid } },
        if hcint.xfercomp then s.trace ++ [.completed s.dev.channel.endpoint] else s.trace⟩

/-- The pump at driver start: nothing armed, no buffer. -/
def pumpStart (channel : HostChannel) (buffer : Mem) : PumpSystem :=
  ⟨⟨⟨.idle, 0, 0, 0, 0, 0, 0, 0, 0, 0, false⟩, { channel with enabled := false }, buffer⟩, []⟩

end

end Rpi5Uefi
