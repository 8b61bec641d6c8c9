import Rpi5Uefi.Redfish.BootRuns
import Rpi5Uefi.Redfish.SmbiosTable
import Rpi5Uefi.Redfish.Thermal
import Rpi5Uefi.Lib.Run

/-!
# The exchange and the boot that waits for it

The sync driver runs one exchange with the BMC from callbacks of the Redfish stack, whenever that
has found a service. The platform's boot manager connects the USB NIC at the end of its work and
then holds the boot until the driver says that the exchange is over, for 200 polls at most; the boot
goes on behind that. Callbacks preempt the boot manager, which makes no step while an exchange is
under way.

`syncStep` is one event of either party, or one answer of the BMC.

* **`SyncInvariant`**, **`syncInvariant_step`**: what holds after every event.
* **`syncBoot_safe`**: one exchange in the order of its requests, one signal, and no override behind
  `ReadyToBoot` or behind a wait that ended with the signal.
-/

namespace Rpi5Uefi

open Bytes Transition

/-! ## The requests of an exchange -/

inductive HttpMethod where
  | get
  | patch
  | post
  deriving DecidableEq, Repr

/-- An HTTP request. -/
structure RedfishRequest where
  method : HttpMethod
  uri : String
  body : Option (List UInt8)
  deriving DecidableEq, Repr

def rpiRedfishServiceRootUri : String := "/redfish/v1/"

def rpiRedfishSystemUri : String := "/redfish/v1/Systems/1"

def rpiRedfishMemoryUri : String := "/redfish/v1/Systems/1/Memory"

def rpiRedfishProcessorsUri : String := "/redfish/v1/Systems/1/Processors"

def rpiRedfishDrivesUri : String := "/redfish/v1/Systems/1/Storage/1/Drives"

def rpiRedfishThermalUri : String := "/redfish/v1/Chassis/1/Thermal"

def rpiRedfishFirmwareInventoryUri : String :=
  "/redfish/v1/UpdateService/FirmwareInventory/BiosFirmware"

/-- What the host has to report when an exchange starts. A record stands beside whether the pool has
no room for its body. -/
structure HostReport where
  inventory : RpiRedfishHostInventory × Bool
  processors : EfiStatus × List (RpiRedfishProcessor × Bool)
  memory : EfiStatus × List (RpiRedfishMemoryModule × Bool)
  drives : EfiStatus × List (RpiRedfishDrive × Bool)
  firmware : EfiStatus × List (RpiRedfishFirmwareImage × Bool)
  locateFan : EfiStatus
  getInfo : EfiStatus × RpiFanInfo
  locatePolledFan : EfiStatus

/-- One POST for each record, if it has a body. -/
def reportRecords {α : Type} (uri : String) (build : α → List UInt8)
    (collected : EfiStatus × List (α × Bool)) : List RedfishRequest :=
  if collected.1.isError ∨ collected.2 = [] then []
  else
    collected.2.filterMap fun record =>
      if record.2 then none else some ⟨.post, uri, some (build record.1)⟩

/-- `ReportProcessors`. -/
def reportProcessors (report : HostReport) : List RedfishRequest :=
  reportRecords rpiRedfishProcessorsUri rpiRedfishBuildProcessorPost report.processors

/-- `ReportMemory`. -/
def reportMemory (report : HostReport) : List RedfishRequest :=
  reportRecords rpiRedfishMemoryUri rpiRedfishBuildMemoryPost report.memory

/-- `ReportDrives`. -/
def reportDrives (report : HostReport) : List RedfishRequest :=
  reportRecords rpiRedfishDrivesUri rpiRedfishBuildDrivePost report.drives

/-- `ReportFirmwareInventory`: the first image only. -/
def reportFirmwareInventory (report : HostReport) : List RedfishRequest :=
  if report.firmware.1.isError then []
  else
    match report.firmware.2 with
    | [] => []
    | image :: _ =>
      match rpiRedfishBuildFirmwareInventoryPatch image.1 image.2 with
      | .error _ => []
      | .ok body => [⟨.patch, rpiRedfishFirmwareInventoryUri, some body⟩]

/-- `ReportThermal` and the GET of `PollFanOverride`. -/
def reportThermalRequests (report : HostReport) : List RedfishRequest :=
  (match reportThermal report.locateFan report.getInfo with
    | .error _ => []
    | .ok body => [⟨.patch, rpiRedfishThermalUri, some body⟩]) ++
    if report.locatePolledFan.isError then [] else [⟨.get, rpiRedfishThermalUri, none⟩]

/-- The requests of `RpiRedfishSync` between the service root and the read back. -/
def reportRequests (report : HostReport) : List RedfishRequest :=
  (if report.inventory.2 then []
    else [⟨.patch, rpiRedfishSystemUri, some (rpiRedfishBuildSystemPatch report.inventory.1)⟩]) ++
    reportProcessors report ++ reportMemory report ++ reportDrives report ++
    reportFirmwareInventory report ++ reportThermalRequests report

def getServiceRoot : RedfishRequest := ⟨.get, rpiRedfishServiceRootUri, none⟩

def getSystem : RedfishRequest := ⟨.get, rpiRedfishSystemUri, none⟩

/-! ## The two parties -/

/-- What a call of the HTTP library returns: `EFI_NO_MEDIA`, another error, or a payload. -/
inductive HttpAnswer where
  | noMedia
  | failed
  | ok (payload : Option JsonValue)

/-- The service information `Init` is called with, where there is one. -/
structure ServiceInfo where
  restExHandle : Bool
  serviceCreated : Bool
  report : HostReport

/-- Where the exchange is: at the service root, with the requests behind the one that is
outstanding, at the read back, or over and about to say so. -/
inductive Exchange where
  | root (attempt : Nat) (report : HostReport)
  | reports (rest : List RedfishRequest)
  | readBack
  | settling

/-- What ended the wait. -/
inductive WaitEnd where
  | nothingToWaitFor
  | settled
  | timedOut
  deriving DecidableEq, Repr

/-- Where the boot manager is. -/
inductive BootPhase where
  | connecting
  | waiting (poll : Nat)
  | selecting (why : WaitEnd)
  deriving DecidableEq, Repr

/-- The driver's variables, the handles with the settled protocol, what has been sent and called,
and whether the machine was reset. `started` is the report of the exchange. -/
structure SyncDriver where
  latchArmed : Bool
  handlerInstalled : Bool
  mSyncDone : Bool
  mSettled : Bool
  mReadyToBoot : Bool
  settledInstances : Nat
  exchange : Option Exchange
  started : Option HostReport
  requests : List RedfishRequest
  calls : List SyncCall
  reset : Bool

/-- The boot manager, what `ConnectUsbNicDevices` returned, the polls, and whether `ReadyToBoot` was
signalled. -/
structure BootManager where
  phase : BootPhase
  nicConnected : Bool
  polls : Nat
  signalled : Bool
  deriving DecidableEq, Repr

structure SyncBoot where
  driver : SyncDriver
  boot : BootManager

/-- Behind `RpiRedfishSyncDxeEntryPoint`, by whether the event was created and the handler
installed. -/
def syncStart (latchArmed handlerInstalled : Bool) : SyncBoot where
  driver :=
    ⟨latchArmed, handlerInstalled, false, false, false, 0, none, none, [], [], false⟩
  boot := ⟨.connecting, false, 0, false⟩

def rpiRedfishMediaRetries : Nat := 8

def rpiSyncWaitPolls : Nat := 200

/-! ### The driver -/

/-- A request is sent, and the exchange waits for its answer. -/
def SyncDriver.send (d : SyncDriver) (request : RedfishRequest) (exchange : Exchange) :
    SyncDriver :=
  { d with requests := d.requests ++ [request], exchange := some exchange }

/-- `RpiRedfishConfigHandlerInit`: its status, or none where it goes on into the exchange. -/
def rpiRedfishConfigHandlerInit (d : SyncDriver) (info : Option ServiceInfo) :
    Option EfiStatus × SyncDriver :=
  match info with
  | none => (some .success, d)
  | some info =>
    if !info.restExHandle then (some .notReady, d)
    else if d.mSyncDone then (some .success, d)
    else
      let d := { d with mSyncDone := true, started := some info.report }
      if info.serviceCreated then (none, d.send getServiceRoot (.root 0 info.report))
      else (none, { d with exchange := some .settling })

/-- The next report, or the read back. -/
def sendNext (d : SyncDriver) : List RedfishRequest → SyncDriver
  | [] => d.send getSystem .readBack
  | request :: rest => d.send request (.reports rest)

/-- `HandleBootOverride`, of the payload that was read back; a reset does not return. -/
def applyReadBack (d : SyncDriver) (mark : Option UInt16) (inputs : SyncInputs)
    (payload : Option JsonValue) : SyncDriver :=
  let calls := handleBootOverride mark { inputs with payload, readyToBoot := d.mReadyToBoot }
  if .resetSystem ∈ calls then { d with calls := d.calls ++ calls, reset := true }
  else { d with calls := d.calls ++ calls, exchange := some .settling }

/-- `RpiRedfishSync`, from one answer to the next request; what an override meets comes with the
answer. -/
def rpiRedfishSync (d : SyncDriver) (exchange : Exchange) (answer : HttpAnswer)
    (mark : Option UInt16) (inputs : SyncInputs) : Option SyncDriver :=
  match exchange, answer with
  | .root attempt report, .noMedia =>
    if attempt = rpiRedfishMediaRetries - 1 then some { d with exchange := some .settling }
    else some (d.send getServiceRoot (.root (attempt + 1) report))
  | .root _ _, .failed => some { d with exchange := some .settling }
  | .root _ report, .ok _ => some (sendNext d (reportRequests report))
  | .reports rest, _ => some (sendNext d rest)
  | .readBack, .ok payload => some (applyReadBack d mark inputs payload)
  | .readBack, _ => some { d with exchange := some .settling }
  | .settling, _ => none

/-- `SignalSyncSettled`, with the status of the install; `Init` returns behind it. -/
def signalSyncSettled (d : SyncDriver) (status : EfiStatus) : SyncDriver :=
  let d := { d with exchange := none }
  if d.mSettled then d
  else
    { d with
      mSettled := true
      settledInstances := d.settledInstances + if status.isError then 0 else 1 }

/-- `OnReadyToBoot`, if its event was created. -/
def onReadyToBoot (d : SyncDriver) : SyncDriver :=
  { d with mReadyToBoot := d.mReadyToBoot || d.latchArmed }

/-! ### The boot manager -/

/-- The end of `PlatformBootManagerAfterConsole`, by what `ConnectUsbNicDevices` returned; without
the handler's protocol `WaitForRedfishSyncSettled` returns at once. -/
def afterConsole (boot : BootManager) (handlerInstalled nicConnected : Bool) : BootManager :=
  { boot with
    nicConnected := nicConnected
    phase := if nicConnected ∧ handlerInstalled then .waiting 0 else .selecting .nothingToWaitFor }

/-- One poll of `WaitForRedfishSyncSettled`. -/
def waitForRedfishSyncSettled (boot : BootManager) (settledInstances poll : Nat) : BootManager :=
  if 0 < settledInstances then { boot with phase := .selecting .settled }
  else
    { boot with
      polls := boot.polls + 1
      phase :=
        if poll + 1 < rpiSyncWaitPolls then .waiting (poll + 1) else .selecting .timedOut }

inductive SyncEvent where
  | init (info : Option ServiceInfo)
  | answer (answer : HttpAnswer) (mark : Option UInt16) (inputs : SyncInputs)
  | installed (status : EfiStatus)
  | afterConsole (nicConnected : Bool)
  | poll
  | readyToBoot

/-- The driver's part of an event. -/
def driverStep (d : SyncDriver) : SyncEvent → Option SyncDriver
  | .init info => if d.handlerInstalled then some (rpiRedfishConfigHandlerInit d info).2 else none
  | .answer answer mark inputs =>
    d.exchange.bind fun exchange => rpiRedfishSync d exchange answer mark inputs
  | .installed status =>
    match d.exchange with
    | some .settling => some (signalSyncSettled d status)
    | _ => none
  | _ => none

/-- The boot manager's. -/
def bootManagerStep (s : SyncBoot) : SyncEvent → Option SyncBoot
  | .afterConsole nicConnected =>
    match s.boot.phase with
    | .connecting =>
      some { s with boot := afterConsole s.boot s.driver.handlerInstalled nicConnected }
    | _ => none
  | .poll =>
    match s.boot.phase with
    | .waiting poll =>
      some { s with boot := waitForRedfishSyncSettled s.boot s.driver.settledInstances poll }
    | _ => none
  | .readyToBoot =>
    match s.boot.phase with
    | .selecting _ => some ⟨onReadyToBoot s.driver, { s.boot with signalled := true }⟩
    | _ => none
  | _ => none

/-- The events of the boot manager; the others are callbacks. -/
def SyncEvent.ofBootManager : SyncEvent → Bool
  | .afterConsole _ | .poll | .readyToBoot => true
  | _ => false

/-- One event. Nothing follows a reset, and the boot manager waits while an exchange runs. -/
def syncStep (s : SyncBoot) (event : SyncEvent) : Option SyncBoot :=
  if s.driver.reset then none
  else if event.ofBootManager then
    if s.driver.exchange.isSome then none else bootManagerStep s event
  else (driverStep s.driver event).map fun driver => { s with driver }

/-! ## The driver's invariant -/

/-- All requests of an exchange that asks for the service root so many times. -/
def exchangeRequests (roots : Nat) (report : HostReport) : List RedfishRequest :=
  List.replicate roots getServiceRoot ++ reportRequests report ++ [getSystem]

/-- Nothing is settled, applied or reset. -/
structure Quiet (d : SyncDriver) : Prop where
  calls : d.calls = []
  settled : d.mSettled = false
  instances : d.settledInstances = 0
  reset : d.reset = false

/-- The calls of one override at most, with the latch as it was. -/
def OneOverride (readyToBoot : Bool) (calls : List SyncCall) : Prop :=
  calls = [] ∨
    ∃ mark inputs, inputs.readyToBoot = readyToBoot ∧ calls = handleBootOverride mark inputs

/-- Where the exchange is, and what has been sent. -/
inductive Stage (d : SyncDriver) : Prop where
  | idle (hquiet : Quiet d) (hstarted : d.started = none) (hexchange : d.exchange = none)
      (hrequests : d.requests = [])
  | root (report : HostReport) (attempt : Nat) (hquiet : Quiet d)
      (hstarted : d.started = some report) (hexchange : d.exchange = some (.root attempt report))
      (hattempt : attempt < rpiRedfishMediaRetries)
      (hrequests : d.requests = List.replicate (attempt + 1) getServiceRoot)
  | reports (report : HostReport) (roots : Nat) (rest : List RedfishRequest) (hquiet : Quiet d)
      (hstarted : d.started = some report) (hexchange : d.exchange = some (.reports rest))
      (hroots : roots ≤ rpiRedfishMediaRetries)
      (hrequests :
        d.requests ++ rest = List.replicate roots getServiceRoot ++ reportRequests report)
  | readBack (report : HostReport) (roots : Nat) (hquiet : Quiet d)
      (hstarted : d.started = some report) (hexchange : d.exchange = some .readBack)
      (hroots : roots ≤ rpiRedfishMediaRetries)
      (hrequests : d.requests = exchangeRequests roots report)
  | settling (report : HostReport) (roots : Nat) (readyToBoot : Bool)
      (hopen : d.mSettled = false ∧ d.settledInstances = 0 ∧ d.reset = false)
      (hstarted : d.started = some report) (hexchange : d.exchange = some .settling)
      (hroots : roots ≤ rpiRedfishMediaRetries)
      (hrequests : d.requests <+: exchangeRequests roots report)
      (hcalls : OneOverride readyToBoot d.calls)
  | ended (report : HostReport) (roots : Nat) (readyToBoot : Bool)
      (hsettled : d.mSettled = true ∧ d.settledInstances ≤ 1 ∧ d.reset = false)
      (hstarted : d.started = some report) (hexchange : d.exchange = none)
      (hroots : roots ≤ rpiRedfishMediaRetries)
      (hrequests : d.requests <+: exchangeRequests roots report)
      (hcalls : OneOverride readyToBoot d.calls)
  | reset (report : HostReport) (roots : Nat) (hreset : d.reset = true)
      (hopen : d.settledInstances = 0 ∧ d.mReadyToBoot = false)
      (hstarted : d.started = some report) (hroots : roots ≤ rpiRedfishMediaRetries)
      (hrequests : d.requests <+: exchangeRequests roots report)
      (hcalls : OneOverride false d.calls)

structure DriverInvariant (d : SyncDriver) : Prop where
  done : d.mSyncDone = d.started.isSome
  stage : Stage d

variable {d d' : SyncDriver} {report : HostReport} {roots : Nat}

theorem prefix_exchange (h : d.requests ++ rest = List.replicate roots getServiceRoot ++
    reportRequests report) : d.requests <+: exchangeRequests roots report := by
  refine ⟨rest ++ [getSystem], ?_⟩
  unfold exchangeRequests
  rw [← List.append_assoc, h]

/-- The exchange goes on with what is left of it. -/
theorem Stage.sendNext {rest : List RedfishRequest} (hquiet : Quiet d)
    (hstarted : d.started = some report) (hroots : roots ≤ rpiRedfishMediaRetries)
    (hrequests :
      d.requests ++ rest = List.replicate roots getServiceRoot ++ reportRequests report) :
    Stage (sendNext d rest) := by
  obtain ⟨hcalls, hsettled, hinstances, hreset⟩ := hquiet
  cases rest with
  | nil =>
    apply Stage.readBack (d := d.send getSystem .readBack) report roots
      ⟨hcalls, hsettled, hinstances, hreset⟩ hstarted rfl hroots
    show d.requests ++ [getSystem] = _
    rw [List.append_nil] at hrequests
    rw [hrequests]
    rfl
  | cons request rest =>
    apply Stage.reports (d := d.send request (.reports rest)) report roots rest
      ⟨hcalls, hsettled, hinstances, hreset⟩ hstarted rfl hroots
    show (d.requests ++ [request]) ++ rest = _
    rw [List.append_assoc]
    exact hrequests

/-- `HandleBootOverride` resets only in front of `ReadyToBoot`. -/
theorem not_resetSystem_of_ready {mark : Option UInt16} {inputs : SyncInputs}
    (h : inputs.readyToBoot = true) : handleBootOverride mark inputs = [] := by
  unfold handleBootOverride
  rw [if_pos h]

theorem Stage.applyReadBack (hquiet : Quiet d) (hstarted : d.started = some report)
    (hroots : roots ≤ rpiRedfishMediaRetries)
    (hrequests : d.requests = exchangeRequests roots report) (mark : Option UInt16)
    (inputs : SyncInputs) (payload : Option JsonValue) :
    Stage (applyReadBack d mark inputs payload) := by
  obtain ⟨hcalls, hsettled, hinstances, hreset⟩ := hquiet
  have hprefix : d.requests <+: exchangeRequests roots report := hrequests ▸ List.prefix_rfl
  unfold Rpi5Uefi.applyReadBack
  simp only
  rw [hcalls, List.nil_append]
  split
  · rename_i hmem
    have hready : d.mReadyToBoot = false := by
      by_contra hlatched
      rw [not_resetSystem_of_ready (Bool.not_eq_false _ ▸ hlatched)] at hmem
      exact absurd hmem List.not_mem_nil
    exact Stage.reset report roots rfl ⟨hinstances, hready⟩ hstarted hroots hprefix
      (Or.inr ⟨mark, _, hready, rfl⟩)
  · exact Stage.settling report roots d.mReadyToBoot ⟨hsettled, hinstances, hreset⟩ hstarted rfl
      hroots hprefix (Or.inr ⟨mark, _, rfl, rfl⟩)

/-- The exchange ends early, or after a failed read back. -/
theorem Stage.giveUp (hquiet : Quiet d) (hstarted : d.started = some report)
    (hroots : roots ≤ rpiRedfishMediaRetries)
    (hrequests : d.requests <+: exchangeRequests roots report) :
    Stage { d with exchange := some .settling } :=
  Stage.settling report roots true ⟨hquiet.settled, hquiet.instances, hquiet.reset⟩ hstarted rfl
    hroots hrequests (Or.inl hquiet.calls)

/-- **One answer.** -/
theorem Stage.rpiRedfishSync {exchange : Exchange} {answer : HttpAnswer} {mark : Option UInt16}
    {inputs : SyncInputs} (h : Stage d) (hexchange : d.exchange = some exchange)
    (hreset : d.reset = false)
    (hstep : rpiRedfishSync d exchange answer mark inputs = some d') : Stage d' := by
  cases h with
  | idle _ _ hnone => rw [hnone] at hexchange; cases hexchange
  | ended _ _ _ _ _ hnone => rw [hnone] at hexchange; cases hexchange
  | reset _ _ hisReset => rw [hisReset] at hreset; cases hreset
  | settling _ _ _ _ _ hsettling =>
    rw [hsettling] at hexchange
    cases hexchange
    cases hstep
  | root report attempt hquiet hstarted hroot hattempt hrequests =>
    rw [hroot] at hexchange
    cases hexchange
    have hprefix : d.requests <+: exchangeRequests (attempt + 1) report := by
      apply prefix_exchange
      rw [hrequests]
    cases answer with
    | noMedia =>
      unfold Rpi5Uefi.rpiRedfishSync at hstep
      simp only at hstep
      split at hstep
      · cases hstep
        exact Stage.giveUp hquiet hstarted hattempt hprefix
      · rename_i hlast
        cases hstep
        have hnext : attempt + 1 < rpiRedfishMediaRetries := by
          unfold rpiRedfishMediaRetries at hattempt hlast ⊢
          omega
        obtain ⟨hcalls, hsettled, hinstances, hisReset⟩ := hquiet
        apply Stage.root (d := d.send getServiceRoot (.root (attempt + 1) report)) report
          (attempt + 1) ⟨hcalls, hsettled, hinstances, hisReset⟩ hstarted rfl hnext
        show d.requests ++ [getServiceRoot] = _
        rw [hrequests, ← List.replicate_succ']
    | failed =>
      cases hstep
      exact Stage.giveUp hquiet hstarted hattempt hprefix
    | ok payload =>
      cases hstep
      exact Stage.sendNext hquiet hstarted hattempt (by rw [hrequests])
  | reports report roots rest hquiet hstarted hreports hroots hrequests =>
    rw [hreports] at hexchange
    cases hexchange
    have hnext : d' = Rpi5Uefi.sendNext d rest := by
      cases answer <;> exact (Option.some.inj hstep).symm
    rw [hnext]
    exact Stage.sendNext hquiet hstarted hroots hrequests
  | readBack report roots hquiet hstarted hread hroots hrequests =>
    rw [hread] at hexchange
    cases hexchange
    have hprefix : d.requests <+: exchangeRequests roots report := hrequests ▸ List.prefix_rfl
    cases answer with
    | ok payload =>
      cases hstep
      exact Stage.applyReadBack hquiet hstarted hroots hrequests mark inputs payload
    | noMedia =>
      cases hstep
      exact Stage.giveUp hquiet hstarted hroots hprefix
    | failed =>
      cases hstep
      exact Stage.giveUp hquiet hstarted hroots hprefix

/-- Where no exchange has started, nothing has happened. -/
theorem Stage.of_not_started (h : Stage d) (hstarted : d.started = none) :
    Quiet d ∧ d.exchange = none ∧ d.requests = [] := by
  cases h with
  | idle hquiet _ hexchange hrequests => exact ⟨hquiet, hexchange, hrequests⟩
  | root _ _ _ hsome => rw [hsome] at hstarted; cases hstarted
  | reports _ _ _ _ hsome => rw [hsome] at hstarted; cases hstarted
  | readBack _ _ _ hsome => rw [hsome] at hstarted; cases hstarted
  | settling _ _ _ _ hsome => rw [hsome] at hstarted; cases hstarted
  | ended _ _ _ _ hsome => rw [hsome] at hstarted; cases hstarted
  | reset _ _ _ _ hsome => rw [hsome] at hstarted; cases hstarted

/-- The report of an `Init` that is given a service. -/
def SyncEvent.hostReport : SyncEvent → Option HostReport
  | .init (some info) => if info.restExHandle then some info.report else none
  | _ => none

theorem init_early {info : ServiceInfo} (h : info.restExHandle = false) :
    rpiRedfishConfigHandlerInit d (some info) = (some .notReady, d) := by
  unfold rpiRedfishConfigHandlerInit
  simp [h]

theorem init_again {info : ServiceInfo} (h : info.restExHandle = true)
    (hdone : d.mSyncDone = true) :
    rpiRedfishConfigHandlerInit d (some info) = (some .success, d) := by
  unfold rpiRedfishConfigHandlerInit
  simp [h, hdone]

theorem init_first {info : ServiceInfo} (h : info.restExHandle = true)
    (hdone : d.mSyncDone = false) :
    (rpiRedfishConfigHandlerInit d (some info)).2 =
      if info.serviceCreated then
        { d with mSyncDone := true, started := some info.report }.send getServiceRoot
          (.root 0 info.report)
      else
        { d with mSyncDone := true, started := some info.report, exchange := some .settling } := by
  unfold rpiRedfishConfigHandlerInit
  simp only [h, hdone, Bool.not_true, Bool.false_eq_true, if_false]
  split <;> rfl

/-- **One call of `Init`**: the first that is given a service starts the exchange. -/
theorem DriverInvariant.init (h : DriverInvariant d) (info : Option ServiceInfo) :
    DriverInvariant (rpiRedfishConfigHandlerInit d info).2 ∧
      (rpiRedfishConfigHandlerInit d info).2.started =
        d.started.or (SyncEvent.init info).hostReport := by
  obtain ⟨hdone, hstage⟩ := h
  cases info with
  | none => exact ⟨⟨hdone, hstage⟩, (Option.or_none ..).symm⟩
  | some info =>
    cases hhandle : info.restExHandle with
    | false =>
      have hreport : (SyncEvent.init (some info)).hostReport = none := if_neg (by simp [hhandle])
      rw [init_early hhandle, hreport, Option.or_none]
      exact ⟨⟨hdone, hstage⟩, rfl⟩
    | true =>
      have hreport : (SyncEvent.init (some info)).hostReport = some info.report := if_pos hhandle
      rw [hreport]
      cases hstarted : d.started with
      | some report =>
        have hisDone : d.mSyncDone = true := by rw [hdone, hstarted]; rfl
        rw [init_again hhandle hisDone]
        exact ⟨⟨hdone, hstage⟩, hstarted⟩
      | none =>
        have hnotDone : d.mSyncDone = false := by rw [hdone, hstarted]; rfl
        obtain ⟨⟨hcalls, hsettled, hinstances, hreset⟩, -, hrequests⟩ :=
          hstage.of_not_started hstarted
        rw [init_first hhandle hnotDone]
        split
        · refine ⟨⟨rfl, ?_⟩, rfl⟩
          refine Stage.root info.report 0 ⟨hcalls, hsettled, hinstances, hreset⟩ rfl rfl
            (by decide) ?_
          show d.requests ++ [getServiceRoot] = _
          rw [hrequests]
          rfl
        · refine ⟨⟨rfl, ?_⟩, rfl⟩
          refine Stage.settling info.report 0 true ⟨hsettled, hinstances, hreset⟩ rfl rfl
            (Nat.zero_le _) ?_ (Or.inl hcalls)
          show d.requests <+: _
          rw [hrequests]
          exact List.nil_prefix

theorem Stage.signalSyncSettled (h : Stage d) (hexchange : d.exchange = some .settling)
    (hreset : d.reset = false) (status : EfiStatus) : Stage (signalSyncSettled d status) := by
  cases h with
  | settling report roots readyToBoot hopen hstarted _ hroots hrequests hcalls =>
    obtain ⟨hsettled, hinstances, -⟩ := hopen
    unfold Rpi5Uefi.signalSyncSettled
    simp only
    rw [if_neg (by rw [hsettled]; decide), hinstances]
    refine Stage.ended report roots readyToBoot ⟨rfl, ?_, hreset⟩ hstarted rfl hroots hrequests
      hcalls
    show 0 + _ ≤ 1
    split <;> decide
  | idle _ _ hother => rw [hother] at hexchange; cases hexchange
  | root _ _ _ _ hother => rw [hother] at hexchange; cases hexchange
  | reports _ _ _ _ _ hother => rw [hother] at hexchange; cases hexchange
  | readBack _ _ _ _ hother => rw [hother] at hexchange; cases hexchange
  | ended _ _ _ _ _ hother => rw [hother] at hexchange; cases hexchange
  | reset _ _ hisReset => rw [hisReset] at hreset; cases hreset

/-- What an event of the driver leaves as it was; and an installed signal stays. -/
structure DriverFrame (d d' : SyncDriver) : Prop where
  latchArmed : d'.latchArmed = d.latchArmed
  handlerInstalled : d'.handlerInstalled = d.handlerInstalled
  mReadyToBoot : d'.mReadyToBoot = d.mReadyToBoot
  instances : d.settledInstances ≤ d'.settledInstances

theorem sendNext_frame (d : SyncDriver) (rest : List RedfishRequest) :
    DriverFrame d (sendNext d rest) ∧ (sendNext d rest).mSyncDone = d.mSyncDone ∧
      (sendNext d rest).started = d.started := by
  cases rest with
  | nil => exact ⟨⟨rfl, rfl, rfl, Nat.le_refl _⟩, rfl, rfl⟩
  | cons request rest => exact ⟨⟨rfl, rfl, rfl, Nat.le_refl _⟩, rfl, rfl⟩

theorem rpiRedfishSync_frame {exchange : Exchange} {answer : HttpAnswer} {mark : Option UInt16}
    {inputs : SyncInputs} (hstep : rpiRedfishSync d exchange answer mark inputs = some d') :
    DriverFrame d d' ∧ d'.mSyncDone = d.mSyncDone ∧ d'.started = d.started := by
  unfold rpiRedfishSync at hstep
  split at hstep
  · split at hstep <;>
    · cases hstep
      exact ⟨⟨rfl, rfl, rfl, Nat.le_refl _⟩, rfl, rfl⟩
  · cases hstep
    exact ⟨⟨rfl, rfl, rfl, Nat.le_refl _⟩, rfl, rfl⟩
  · cases hstep
    exact sendNext_frame d _
  · cases hstep
    exact sendNext_frame d _
  · cases hstep
    unfold applyReadBack
    simp only
    split <;> exact ⟨⟨rfl, rfl, rfl, Nat.le_refl _⟩, rfl, rfl⟩
  · cases hstep
    exact ⟨⟨rfl, rfl, rfl, Nat.le_refl _⟩, rfl, rfl⟩
  · cases hstep

theorem init_frame (d : SyncDriver) (info : Option ServiceInfo) :
    DriverFrame d (rpiRedfishConfigHandlerInit d info).2 := by
  unfold rpiRedfishConfigHandlerInit
  split
  · exact ⟨rfl, rfl, rfl, Nat.le_refl _⟩
  · repeat' split
    all_goals exact ⟨rfl, rfl, rfl, Nat.le_refl _⟩

theorem signalSyncSettled_frame (d : SyncDriver) (status : EfiStatus) :
    DriverFrame d (signalSyncSettled d status) ∧
      (signalSyncSettled d status).mSyncDone = d.mSyncDone ∧
      (signalSyncSettled d status).started = d.started := by
  unfold signalSyncSettled
  simp only
  split
  · exact ⟨⟨rfl, rfl, rfl, Nat.le_refl _⟩, rfl, rfl⟩
  · exact ⟨⟨rfl, rfl, rfl, Nat.le_add_right _ _⟩, rfl, rfl⟩

theorem driverStep_installed {status : EfiStatus}
    (h : driverStep d (.installed status) = some d') :
    d.exchange = some .settling ∧ d' = signalSyncSettled d status := by
  unfold driverStep at h
  simp only at h
  split at h
  · rename_i hexchange
    exact ⟨hexchange, (Option.some.inj h).symm⟩
  · cases h

/-- **One event of the driver.** -/
theorem DriverInvariant.step {event : SyncEvent} (h : DriverInvariant d) (hreset : d.reset = false)
    (hstep : driverStep d event = some d') :
    DriverInvariant d' ∧ DriverFrame d d' ∧ d'.started = d.started.or event.hostReport := by
  have hkept : event.hostReport = none → d'.started = d.started →
      d'.started = d.started.or event.hostReport := by
    intro hnone hsame
    rw [hnone, Option.or_none, hsame]
  cases event with
  | init info =>
    unfold driverStep at hstep
    simp only at hstep
    split at hstep
    · cases hstep
      obtain ⟨hinvariant, hstarted⟩ := h.init info
      exact ⟨hinvariant, init_frame d info, hstarted⟩
    · cases hstep
  | answer answer mark inputs =>
    obtain ⟨exchange, hexchange, hsync⟩ := Option.bind_eq_some_iff.mp hstep
    obtain ⟨hframe, hdone, hstarted⟩ := rpiRedfishSync_frame hsync
    refine ⟨⟨?_, h.stage.rpiRedfishSync hexchange hreset hsync⟩, hframe, hkept rfl hstarted⟩
    rw [hdone, hstarted, h.done]
  | installed status =>
    obtain ⟨hexchange, rfl⟩ := driverStep_installed hstep
    obtain ⟨hframe, hdone, hstarted⟩ := signalSyncSettled_frame d status
    refine ⟨⟨?_, h.stage.signalSyncSettled hexchange hreset status⟩, hframe, hkept rfl hstarted⟩
    rw [hdone, hstarted, h.done]
  | afterConsole nicConnected => cases hstep
  | poll => cases hstep
  | readyToBoot => cases hstep

/-! ## Both parties -/

/-- Where the boot manager is, and how it got there. -/
inductive BootStage (s : SyncBoot) : Prop where
  | connecting (hphase : s.boot.phase = .connecting) (hpolls : s.boot.polls = 0)
      (hsignalled : s.boot.signalled = false)
  | waiting (poll : Nat) (hphase : s.boot.phase = .waiting poll) (hpolls : s.boot.polls = poll)
      (hpoll : poll < rpiSyncWaitPolls) (hsignalled : s.boot.signalled = false)
  | noWait (hphase : s.boot.phase = .selecting .nothingToWaitFor) (hpolls : s.boot.polls = 0)
      (hnothing : s.boot.nicConnected = true → s.driver.handlerInstalled = false)
  | settled (hphase : s.boot.phase = .selecting .settled) (hpolls : s.boot.polls < rpiSyncWaitPolls)
      (hinstalled : 0 < s.driver.settledInstances)
  | timedOut (hphase : s.boot.phase = .selecting .timedOut)
      (hpolls : s.boot.polls = rpiSyncWaitPolls)

/-- **What holds after every event.** -/
structure SyncInvariant (s : SyncBoot) : Prop where
  driver : DriverInvariant s.driver
  boot : BootStage s
  latch : s.driver.mReadyToBoot = (s.driver.latchArmed && s.boot.signalled)

variable {s s' : SyncBoot} {event : SyncEvent} {events events' : List SyncEvent}

/-- **What an event can do**: it is the boot manager's, with no exchange under way, or a callback,
which leaves the boot manager as it is. -/
theorem syncStep_cases (h : syncStep s event = some s') :
    s.driver.reset = false ∧
      (event.ofBootManager = true ∧ s.driver.exchange = none ∧
          bootManagerStep s event = some s' ∨
        driverStep s.driver event = some s'.driver ∧ s'.boot = s.boot) := by
  unfold syncStep at h
  split at h
  · cases h
  rename_i hreset
  refine ⟨Bool.not_eq_true _ ▸ hreset, ?_⟩
  split at h
  · rename_i hboot
    split at h
    · cases h
    · rename_i hexchange
      exact Or.inl ⟨hboot, Option.not_isSome_iff_eq_none.mp hexchange, h⟩
  · obtain ⟨driver, hdriver, rfl⟩ := Option.map_eq_some_iff.mp h
    exact Or.inr ⟨hdriver, rfl⟩

theorem Quiet.onReadyToBoot (h : Quiet d) : Quiet (onReadyToBoot d) :=
  ⟨h.calls, h.settled, h.instances, h.reset⟩

/-- The latch is nothing to an exchange that has not reset the machine. -/
theorem Stage.onReadyToBoot (h : Stage d) (hreset : d.reset = false) : Stage (onReadyToBoot d) := by
  cases h with
  | idle hquiet hstarted hexchange hrequests =>
    exact Stage.idle hquiet.onReadyToBoot hstarted hexchange hrequests
  | root report attempt hquiet hstarted hexchange hattempt hrequests =>
    exact Stage.root report attempt hquiet.onReadyToBoot hstarted hexchange hattempt hrequests
  | reports report roots rest hquiet hstarted hexchange hroots hrequests =>
    exact Stage.reports report roots rest hquiet.onReadyToBoot hstarted hexchange hroots hrequests
  | readBack report roots hquiet hstarted hexchange hroots hrequests =>
    exact Stage.readBack report roots hquiet.onReadyToBoot hstarted hexchange hroots hrequests
  | settling report roots ready hopen hstarted hexchange hroots hrequests hcalls =>
    exact Stage.settling report roots ready hopen hstarted hexchange hroots hrequests hcalls
  | ended report roots ready hsettled hstarted hexchange hroots hrequests hcalls =>
    exact Stage.ended report roots ready hsettled hstarted hexchange hroots hrequests hcalls
  | reset _ _ hisReset => rw [hisReset] at hreset; cases hreset

/-- The boot manager's steps: to the wait or past it, one poll, or the signal of `ReadyToBoot`. -/
theorem bootManagerStep_cases (h : bootManagerStep s event = some s') :
    (∃ nicConnected, s.boot.phase = .connecting ∧
        s' = { s with boot := afterConsole s.boot s.driver.handlerInstalled nicConnected }) ∨
      (∃ poll, s.boot.phase = .waiting poll ∧
        s' = { s with boot := waitForRedfishSyncSettled s.boot s.driver.settledInstances poll }) ∨
      ∃ why, s.boot.phase = .selecting why ∧
        s' = ⟨onReadyToBoot s.driver, { s.boot with signalled := true }⟩ := by
  unfold bootManagerStep at h
  split at h
  · split at h
    · rename_i nicConnected _ hphase
      exact Or.inl ⟨nicConnected, hphase, (Option.some.inj h).symm⟩
    · cases h
  · split at h
    · rename_i poll hphase
      exact Or.inr (Or.inl ⟨poll, hphase, (Option.some.inj h).symm⟩)
    · cases h
  · split at h
    · rename_i why hphase
      exact Or.inr (Or.inr ⟨why, hphase, (Option.some.inj h).symm⟩)
    · cases h
  · cases h

/-- An event of the driver takes nothing away from the boot manager. -/
theorem BootStage.frame (h : BootStage s) (hboot : s'.boot = s.boot)
    (hframe : DriverFrame s.driver s'.driver) : BootStage s' := by
  cases h with
  | connecting hphase hpolls hsignalled =>
    exact .connecting (hboot ▸ hphase) (hboot ▸ hpolls) (hboot ▸ hsignalled)
  | waiting poll hphase hpolls hpoll hsignalled =>
    exact .waiting poll (hboot ▸ hphase) (hboot ▸ hpolls) hpoll (hboot ▸ hsignalled)
  | noWait hphase hpolls hnothing =>
    refine .noWait (hboot ▸ hphase) (hboot ▸ hpolls) ?_
    rw [hboot, hframe.handlerInstalled]
    exact hnothing
  | settled hphase hpolls hinstalled =>
    exact .settled (hboot ▸ hphase) (hboot ▸ hpolls)
      (Nat.lt_of_lt_of_le hinstalled hframe.instances)
  | timedOut hphase hpolls => exact .timedOut (hboot ▸ hphase) (hboot ▸ hpolls)

/-- Into the wait only where there is something to wait for. -/
theorem BootStage.afterConsole (h : BootStage s) (hphase : s.boot.phase = .connecting)
    (nicConnected : Bool) :
    BootStage { s with
      boot := Rpi5Uefi.afterConsole s.boot s.driver.handlerInstalled nicConnected } := by
  obtain ⟨hpolls, hsignalled⟩ : s.boot.polls = 0 ∧ s.boot.signalled = false := by
    cases h with
    | connecting _ hpolls hsignalled => exact ⟨hpolls, hsignalled⟩
    | waiting _ hother => rw [hother] at hphase; cases hphase
    | noWait hother => rw [hother] at hphase; cases hphase
    | settled hother => rw [hother] at hphase; cases hphase
    | timedOut hother => rw [hother] at hphase; cases hphase
  by_cases hwait : nicConnected = true ∧ s.driver.handlerInstalled = true
  · exact .waiting 0 (if_pos hwait) hpolls (by decide) hsignalled
  · refine .noWait (if_neg hwait) hpolls fun hnic => ?_
    exact Bool.not_eq_true _ ▸ fun hinstalled => hwait ⟨hnic, hinstalled⟩

/-- One poll: the signal is there, or one more poll has gone by. -/
theorem BootStage.poll {poll : Nat} (h : BootStage s) (hphase : s.boot.phase = .waiting poll) :
    BootStage { s with
      boot := waitForRedfishSyncSettled s.boot s.driver.settledInstances poll } := by
  obtain ⟨hpolls, hpoll, hsignalled⟩ :
      s.boot.polls = poll ∧ poll < rpiSyncWaitPolls ∧ s.boot.signalled = false := by
    cases h with
    | waiting poll' hother hpolls hpoll hsignalled =>
      obtain rfl := BootPhase.waiting.inj (hother.symm.trans hphase)
      exact ⟨hpolls, hpoll, hsignalled⟩
    | connecting hother => rw [hother] at hphase; cases hphase
    | noWait hother => rw [hother] at hphase; cases hphase
    | settled hother => rw [hother] at hphase; cases hphase
    | timedOut hother => rw [hother] at hphase; cases hphase
  unfold waitForRedfishSyncSettled
  split
  · rename_i hinstalled
    exact .settled rfl (hpolls ▸ hpoll) hinstalled
  by_cases hmore : poll + 1 < rpiSyncWaitPolls
  · exact .waiting (poll + 1) (if_pos hmore) (congrArg (· + 1) hpolls) hmore hsignalled
  · refine .timedOut (if_neg hmore) ?_
    show s.boot.polls + 1 = rpiSyncWaitPolls
    omega

/-- `ReadyToBoot` is signalled behind the wait, and changes nothing about how it ended. -/
theorem BootStage.readyToBoot {why : WaitEnd} (h : BootStage s)
    (hphase : s.boot.phase = .selecting why) :
    BootStage ⟨onReadyToBoot s.driver, { s.boot with signalled := true }⟩ := by
  cases h with
  | noWait hwhy hpolls hnothing => exact .noWait hwhy hpolls hnothing
  | settled hwhy hpolls hinstalled => exact .settled hwhy hpolls hinstalled
  | timedOut hwhy hpolls => exact .timedOut hwhy hpolls
  | connecting hother => rw [hother] at hphase; cases hphase
  | waiting _ hother => rw [hother] at hphase; cases hphase

theorem hostReport_of_bootManager (h : event.ofBootManager = true) : event.hostReport = none := by
  cases event with
  | init _ => cases h
  | answer _ _ _ => cases h
  | installed _ => cases h
  | afterConsole _ => rfl
  | poll => rfl
  | readyToBoot => rfl

/-- **Every event keeps the invariant**; the report of the exchange is that of the first `Init` that
is given a service. -/
theorem syncInvariant_step (h : SyncInvariant s) (hstep : syncStep s event = some s') :
    SyncInvariant s' ∧ s'.driver.started = s.driver.started.or event.hostReport := by
  obtain ⟨hdriver, hboot, hlatch⟩ := h
  obtain ⟨hreset, ⟨howner, -, hboth⟩ | ⟨hcallback, hsame⟩⟩ := syncStep_cases hstep
  · rw [hostReport_of_bootManager howner, Option.or_none]
    rcases bootManagerStep_cases hboth with ⟨nicConnected, hphase, rfl⟩ | ⟨poll, hphase, rfl⟩ |
      ⟨why, hphase, rfl⟩
    · exact ⟨⟨hdriver, hboot.afterConsole hphase nicConnected, hlatch⟩, rfl⟩
    · refine ⟨⟨hdriver, hboot.poll hphase, ?_⟩, rfl⟩
      rw [hlatch]
      unfold waitForRedfishSyncSettled
      split <;> rfl
    · refine ⟨⟨⟨hdriver.done, hdriver.stage.onReadyToBoot hreset⟩, hboot.readyToBoot hphase, ?_⟩,
        rfl⟩
      show (s.driver.mReadyToBoot || s.driver.latchArmed) = (s.driver.latchArmed && true)
      rw [hlatch]
      cases s.driver.latchArmed <;> cases s.boot.signalled <;> rfl
  · obtain ⟨hinvariant, hframe, hstarted⟩ := hdriver.step hreset hcallback
    refine ⟨⟨hinvariant, hboot.frame hsame hframe, ?_⟩, hstarted⟩
    rw [hframe.mReadyToBoot, hframe.latchArmed, hsame, hlatch]

theorem syncInvariant_start (latchArmed handlerInstalled : Bool) :
    SyncInvariant (syncStart latchArmed handlerInstalled) where
  driver := ⟨rfl, .idle ⟨rfl, rfl, rfl, rfl⟩ rfl rfl rfl⟩
  boot := .connecting rfl rfl rfl
  latch := (Bool.and_false _).symm

/-! ## Whole boots -/

/-- **What a boot promises.** -/
structure SyncSafe (events : List SyncEvent) (s : SyncBoot) : Prop where
  oneExchange : s.driver.started = events.findSome? SyncEvent.hostReport
  inOrder : ∀ report, s.driver.started = some report → ∃ roots ≤ rpiRedfishMediaRetries,
    s.driver.requests <+: exchangeRequests roots report
  notStarted : s.driver.started = none → s.driver.requests = [] ∧ s.driver.calls = []
  oneOverride : ∃ readyToBoot, OneOverride readyToBoot s.driver.calls
  oneSignal : s.driver.settledInstances ≤ 1
  behindSignal : 0 < s.driver.settledInstances →
    s.driver.started.isSome = true ∧ s.driver.exchange = none ∧ s.driver.reset = false
  resetEarly : s.driver.reset = true → s.driver.latchArmed = true → s.boot.signalled = false
  waited : s.boot.signalled = true → s.boot.nicConnected = true →
    s.driver.handlerInstalled = true →
    0 < s.driver.settledInstances ∨ s.boot.polls = rpiSyncWaitPolls
  bounded : s.boot.polls ≤ rpiSyncWaitPolls

theorem Stage.inOrder (h : Stage d) (hstarted : d.started = some report) :
    ∃ roots ≤ rpiRedfishMediaRetries, d.requests <+: exchangeRequests roots report := by
  have hsame {report'} (h' : d.started = some report') : report' = report :=
    Option.some.inj (h'.symm.trans hstarted)
  cases h with
  | idle _ hnone => rw [hnone] at hstarted; cases hstarted
  | root report' attempt _ h' _ hattempt hrequests =>
    obtain rfl := hsame h'
    exact ⟨attempt + 1, hattempt, prefix_exchange (by rw [hrequests])⟩
  | reports report' roots rest _ h' _ hroots hrequests =>
    obtain rfl := hsame h'
    exact ⟨roots, hroots, prefix_exchange hrequests⟩
  | readBack report' roots _ h' _ hroots hrequests =>
    obtain rfl := hsame h'
    exact ⟨roots, hroots, hrequests ▸ List.prefix_rfl⟩
  | settling report' roots _ _ h' _ hroots hrequests _ =>
    obtain rfl := hsame h'
    exact ⟨roots, hroots, hrequests⟩
  | ended report' roots _ _ h' _ hroots hrequests _ =>
    obtain rfl := hsame h'
    exact ⟨roots, hroots, hrequests⟩
  | reset report' roots _ _ h' hroots hrequests _ =>
    obtain rfl := hsame h'
    exact ⟨roots, hroots, hrequests⟩

theorem Stage.oneOverride (h : Stage d) : ∃ readyToBoot, OneOverride readyToBoot d.calls := by
  cases h with
  | idle hquiet => exact ⟨true, Or.inl hquiet.calls⟩
  | root _ _ hquiet => exact ⟨true, Or.inl hquiet.calls⟩
  | reports _ _ _ hquiet => exact ⟨true, Or.inl hquiet.calls⟩
  | readBack _ _ hquiet => exact ⟨true, Or.inl hquiet.calls⟩
  | settling _ _ ready _ _ _ _ _ hcalls => exact ⟨ready, hcalls⟩
  | ended _ _ ready _ _ _ _ _ hcalls => exact ⟨ready, hcalls⟩
  | reset _ _ _ _ _ _ _ hcalls => exact ⟨false, hcalls⟩

/-- The signal is installed only where the exchange is over. -/
theorem Stage.instances (h : Stage d) : d.settledInstances ≤ 1 ∧
    (0 < d.settledInstances → d.started.isSome = true ∧ d.exchange = none ∧ d.reset = false) := by
  have hnone (h0 : d.settledInstances = 0) : d.settledInstances ≤ 1 ∧
      (0 < d.settledInstances → d.started.isSome = true ∧ d.exchange = none ∧ d.reset = false) :=
    ⟨by omega, fun hpos => by omega⟩
  cases h with
  | idle hquiet => exact hnone hquiet.instances
  | root _ _ hquiet => exact hnone hquiet.instances
  | reports _ _ _ hquiet => exact hnone hquiet.instances
  | readBack _ _ hquiet => exact hnone hquiet.instances
  | settling _ _ _ hopen => exact hnone hopen.2.1
  | ended _ _ _ hsettled hstarted hexchange =>
    exact ⟨hsettled.2.1, fun _ => ⟨by rw [hstarted]; rfl, hexchange, hsettled.2.2⟩⟩
  | reset _ _ _ hopen => exact hnone hopen.1

theorem Stage.resetEarly (h : Stage d) (hreset : d.reset = true) : d.mReadyToBoot = false := by
  have hnot (h' : d.reset = false) : d.mReadyToBoot = false := by
    rw [h'] at hreset
    cases hreset
  cases h with
  | idle hquiet => exact hnot hquiet.reset
  | root _ _ hquiet => exact hnot hquiet.reset
  | reports _ _ _ hquiet => exact hnot hquiet.reset
  | readBack _ _ hquiet => exact hnot hquiet.reset
  | settling _ _ _ hopen => exact hnot hopen.2.2
  | ended _ _ _ hsettled => exact hnot hsettled.2.2
  | reset _ _ _ hopen => exact hopen.2

/-- How a wait ended, once `ReadyToBoot` was signalled. -/
theorem BootStage.waited (h : BootStage s) :
    (s.boot.signalled = true → s.boot.nicConnected = true → s.driver.handlerInstalled = true →
      0 < s.driver.settledInstances ∨ s.boot.polls = rpiSyncWaitPolls) ∧
    s.boot.polls ≤ rpiSyncWaitPolls := by
  cases h with
  | connecting _ hpolls hsignalled =>
    rw [hsignalled, hpolls]
    exact ⟨nofun, Nat.zero_le _⟩
  | waiting poll _ hpolls hpoll hsignalled =>
    rw [hsignalled, hpolls]
    exact ⟨nofun, hpoll.le⟩
  | noWait _ hpolls hnothing =>
    rw [hpolls]
    refine ⟨fun _ hnic hinstalled => ?_, Nat.zero_le _⟩
    rw [hnothing hnic] at hinstalled
    cases hinstalled
  | settled _ hpolls hinstalled => exact ⟨fun _ _ _ => Or.inl hinstalled, hpolls.le⟩
  | timedOut _ hpolls => exact ⟨fun _ _ _ => Or.inr hpolls, hpolls.le⟩

/-- An exchange that is over, with what it has sent and called. -/
structure Over (requests : List RedfishRequest) (calls : List SyncCall) (d : SyncDriver) :
    Prop where
  done : d.mSyncDone = true
  exchange : d.exchange = none
  reset : d.reset = false
  requests : d.requests = requests
  calls : d.calls = calls

/-- Nothing of it comes back, whatever the event. -/
theorem Over.step {requests : List RedfishRequest} {calls : List SyncCall}
    (h : Over requests calls s.driver) (hstep : syncStep s event = some s') :
    Over requests calls s'.driver := by
  obtain ⟨-, ⟨-, -, hboth⟩ | ⟨hcallback, -⟩⟩ := syncStep_cases hstep
  · rcases bootManagerStep_cases hboth with ⟨_, _, rfl⟩ | ⟨_, _, rfl⟩ | ⟨_, _, rfl⟩
    · exact h
    · exact h
    · exact ⟨h.done, h.exchange, h.reset, h.requests, h.calls⟩
  · cases event with
    | init info =>
      have hsame : (rpiRedfishConfigHandlerInit s.driver info).2 = s.driver := by
        cases info with
        | none => rfl
        | some info =>
          cases hhandle : info.restExHandle with
          | false => rw [init_early hhandle]
          | true => rw [init_again hhandle h.done]
      unfold driverStep at hcallback
      simp only at hcallback
      split at hcallback
      · rw [← Option.some.inj hcallback, hsame]
        exact h
      · cases hcallback
    | answer answer mark inputs =>
      obtain ⟨exchange, hexchange, -⟩ := Option.bind_eq_some_iff.mp hcallback
      rw [h.exchange] at hexchange
      cases hexchange
    | installed status =>
      have hexchange := (driverStep_installed hcallback).1
      rw [h.exchange] at hexchange
      cases hexchange
    | afterConsole nicConnected => cases hcallback
    | poll => cases hcallback
    | readyToBoot => cases hcallback

/-- The relation of `syncStep`. -/
def SyncStep (s : SyncBoot) (event : SyncEvent) (s' : SyncBoot) : Prop := syncStep s event = some s'

theorem syncInvariant_run {latchArmed handlerInstalled : Bool}
    (h : Run SyncStep (syncStart latchArmed handlerInstalled) events s) :
    SyncInvariant s ∧ s.driver.started = events.findSome? SyncEvent.hostReport := by
  induction h with
  | nil => exact ⟨syncInvariant_start latchArmed handlerInstalled, rfl⟩
  | snoc _ hstep ih =>
    obtain ⟨hinvariant, hstarted⟩ := ih
    obtain ⟨hnext, hreport⟩ := syncInvariant_step hinvariant hstep
    refine ⟨hnext, ?_⟩
    rw [hreport, hstarted, List.findSome?_append, List.findSome?_singleton]

/-- **A boot with a BMC is safe**, however the callbacks of the Redfish stack fall between the boot
manager's steps and whatever the BMC answers: there is one exchange, of the first service that is
found, its requests in order; there is one signal, behind the exchange; the machine is not reset
behind `ReadyToBoot`; the boot waits for the signal or for 200 polls. Once the signal is installed
nothing of the exchange happens any more. -/
theorem syncBoot_safe (latchArmed handlerInstalled : Bool) (events : List SyncEvent) (s : SyncBoot)
    (h : Run SyncStep (syncStart latchArmed handlerInstalled) events s) :
    SyncSafe events s ∧
      (0 < s.driver.settledInstances → ∀ events' s', Run SyncStep s events' s' →
        s'.driver.requests = s.driver.requests ∧ s'.driver.calls = s.driver.calls ∧
          s'.driver.reset = false) := by
  obtain ⟨⟨⟨hdone, hstage⟩, hboot, hlatch⟩, hstarted⟩ := syncInvariant_run h
  obtain ⟨hone, hsignal⟩ := hstage.instances
  obtain ⟨hwaited, hbounded⟩ := hboot.waited
  constructor
  · refine ⟨hstarted, fun _ => hstage.inOrder, ?_, hstage.oneOverride, hone, hsignal, ?_, hwaited,
      hbounded⟩
    · intro hnone
      obtain ⟨hquiet, -, hrequests⟩ := hstage.of_not_started hnone
      exact ⟨hrequests, hquiet.calls⟩
    · intro hreset harmed
      have hready := hstage.resetEarly hreset
      rwa [hlatch, harmed, Bool.true_and] at hready
  · intro hinstalled events' s' hrun
    obtain ⟨hsome, hexchange, hreset⟩ := hsignal hinstalled
    have hover : Over s.driver.requests s.driver.calls s'.driver :=
      hrun.inv (I := fun s' => Over s.driver.requests s.driver.calls s'.driver)
        (fun _ _ _ hm hstep => hm.step hstep)
        ⟨hdone.trans hsome, hexchange, hreset, rfl, rfl⟩
    exact ⟨hover.requests, hover.calls, hover.reset⟩

/-! ### A boot of the usual kind -/

def shortText (text : String) (h : (ascii text).length < 64 ∧ (0 : UInt8) ∉ ascii text) :
    InventoryString rpiRedfishStrMax := ⟨ascii text, h.1, h.2⟩

/-- A host with nothing but itself to report. -/
def bareReport : HostReport where
  inventory := ({ noInventory with model := shortText "Pi 5" (by decide) }, false)
  processors := (.notFound, [])
  memory := (.notFound, [])
  drives := (.notFound, [])
  firmware := (.notFound, [])
  locateFan := .notFound
  getInfo := (.notFound, ⟨0, false, 0, 0, 0, false⟩)
  locatePolledFan := .notFound

/-- `Init` before discovery, the NIC, the service, one retry, nothing staged, the signal, the poll
that sees it, and the boot. -/
def usualBoot : List SyncEvent :=
  let inputs := syncedBoot "Disabled"
  [.init (some ⟨false, false, bareReport⟩), .afterConsole true, .poll,
    .init (some ⟨true, true, bareReport⟩), .answer .noMedia none inputs,
    .answer (.ok none) none inputs, .answer .failed none inputs,
    .answer (.ok inputs.payload) none inputs, .installed .success, .poll, .readyToBoot]

/-- Where that boot ends. -/
def usualBootEnd : SyncBoot :=
  (usualBoot.foldlM syncStep (syncStart true true)).getD (syncStart true true)

theorem usualBoot_safe :
    usualBootEnd.driver.settledInstances = 1 ∧ usualBootEnd.boot.signalled = true ∧
      SyncSafe usualBoot usualBootEnd ∧
      (0 < usualBootEnd.driver.settledInstances → ∀ events' s',
        Run SyncStep usualBootEnd events' s' →
        s'.driver.requests = usualBootEnd.driver.requests ∧
          s'.driver.calls = usualBootEnd.driver.calls ∧ s'.driver.reset = false) :=
  ⟨rfl, rfl, syncBoot_safe true true usualBoot usualBootEnd (run_iff_foldlM.mpr rfl)⟩

end Rpi5Uefi
