import Rpi5Uefi.Lib.Ledger
import Rpi5Uefi.Rp1Gem.DmaSafe
import Rpi5Uefi.Rp1Gem.Resources

/-!
# Binding the driver of the RP1 GEM (`DriverBinding.c`)

`Start` acquires the device, the memory for DMA and what the child handle is made of, one after the
other, and a failure on the way goes to the label that releases what there is. `Stop` is called for
the child first and without one after that.

* **`startDevice_cases`**: a `Start` that fails has released what it acquired.
* **`binding_safe`**: over any run, what is held is what the driver's state says, the controller
  reaches nothing else, and it is at rest without a child and after ExitBootServices.

The link between the device and its child is the core's own record and is left out.
-/

namespace Rpi5Uefi

open Ledger Transition

namespace GemBinding

/-! ## Resources -/

/-- What the driver can hold: private data by its address, the device by an open of its protocol,
runs of pages for DMA, and what belongs to the child handle. -/
inductive GemResource where
  | privateData (address : Nat)
  | byDriver
  | dmaBuffer (base pages : Nat)
  | devicePath
  | waitForPacket
  | exitBootServicesEvent
  | childHandle
  deriving DecidableEq, Repr

/-- Two resources that can be held at once: runs of pages do not overlap. -/
def GemResource.Apart (r q : GemResource) : Prop :=
  r ≠ q ∧
    match r, q with
    | .dmaBuffer r m, .dmaBuffer q n => r + m * efiPageSize ≤ q ∨ q + n * efiPageSize ≤ r
    | _, _ => True

instance : DecidableRel GemResource.Apart := fun r q => by
  unfold GemResource.Apart
  cases r <;> cases q <;> exact inferInstance

theorem GemResource.not_apart_self (r : GemResource) : ¬r.Apart r :=
  fun h => h.1 rfl

abbrev GemAction := Ledger.Action GemResource

/-! ## DMA memory (`GemHw.c`) -/

/-- What the three calls of `DmaAllocateBuffer` say, what they hand out, and what is in it. -/
structure DmaAllocations where
  desc : EfiStatus
  rx : EfiStatus
  tx : EfiStatus
  buffers : GemBuffers
  rxRing : Nat → GemDmaDesc
  txRing : Nat → GemDmaDesc
  nullRxDesc : GemDmaDesc
  nullTxDesc : GemDmaDesc
  dma : Bytes.Mem

def descPages (b : GemBuffers) : GemResource := .dmaBuffer b.descBuffer 1

def rxPages (b : GemBuffers) : GemResource :=
  .dmaBuffer b.rxBuffers (efiSizeToPages (gemRxDescCount * gemRxBufferSize))

def txPages (b : GemBuffers) : GemResource :=
  .dmaBuffer b.txBuffers (efiSizeToPages (gemTxDescCount * gemTxBufferSize))

/-- The memory for DMA. -/
def dmaPages (b : GemBuffers) : List GemResource := [descPages b, rxPages b, txPages b]

/-- The test of `GemDmaAlloc`, with `SIZE_4GB`. -/
def AboveFourGb (b : GemBuffers) : Prop :=
  b.descBuffer ≥ 2 ^ 32 ∨ b.rxBuffers + gemRxDescCount * gemRxBufferSize > 2 ^ 32 ∨
    b.txBuffers + gemTxDescCount * gemTxBufferSize > 2 ^ 32

instance (b : GemBuffers) : Decidable (AboveFourGb b) := by
  unfold AboveFourGb
  exact inferInstance

/-- `GemDmaAlloc`: its status, and what it does. -/
def gemDmaAlloc (d : DmaAllocations) : EfiStatus × List GemAction :=
  let b := d.buffers
  if d.desc.isError then (d.desc, [])
  else if d.rx.isError then (d.rx, [.acquire (descPages b), .release (descPages b)])
  else if d.tx.isError then
    (d.tx, [.acquire (descPages b), .acquire (rxPages b), .release (rxPages b),
      .release (descPages b)])
  else if AboveFourGb b then
    (.outOfResources, [.acquire (descPages b), .acquire (rxPages b), .acquire (txPages b),
      .release (txPages b), .release (rxPages b), .release (descPages b)])
  else (.success, [.acquire (descPages b), .acquire (rxPages b), .acquire (txPages b)])

/-- `GemDmaFree`. -/
def gemDmaFree (b : GemBuffers) : List GemAction :=
  (if b.txBuffers ≠ 0 then [.release (txPages b)] else []) ++
    ((if b.rxBuffers ≠ 0 then [.release (rxPages b)] else []) ++
      if b.descBuffer ≠ 0 then [.release (descPages b)] else [])

/-! ## The station address -/

/-- What the firmware's calls answer. -/
structure FirmwareAnswers where
  getMacAddress : Except EfiStatus (Vector UInt8 6)
  getSerial : Except EfiStatus UInt64

/-- Six bytes of an address, with the rest 0. -/
def macAddress (bytes : List UInt8) : EfiMacAddress := Vector.ofFn fun i => bytes.getD i.val 0

/-- The address from the board's serial number. -/
def serialAddress (serial : UInt64) : EfiMacAddress :=
  macAddress [0x02, (serial >>> 32).toUInt8, (serial >>> 24).toUInt8, (serial >>> 16).toUInt8,
    (serial >>> 8).toUInt8, serial.toUInt8]

/-- The address of last resort. -/
def fixedAddress : EfiMacAddress := macAddress [0x02, 0x52, 0x50, 0x31, 0x47, 0x4D]

/-- The address by what `GetSerial` answers. -/
def addressFromSerial : Except EfiStatus UInt64 → Option EfiMacAddress
  | .ok serial => if serial ≠ 0 then some (serialAddress serial) else none
  | .error _ => none

/-- The address a firmware gives, by its own or by the serial number. -/
def firmwareAddress (firmware : FirmwareAnswers) : Option EfiMacAddress :=
  match firmware.getMacAddress with
  | .ok mac =>
    if mac.toList.foldl (· ||| ·) 0 ≠ 0 ∧ mac.toList.headD 0 &&& 1 = 0 then
      some (macAddress mac.toList)
    else addressFromSerial firmware.getSerial
  | .error _ => addressFromSerial firmware.getSerial

/-- `Rp1GemGetMacAddress`; `none` is a firmware protocol that is not there. -/
def rp1GemGetMacAddress (firmware : Option FirmwareAnswers) : EfiMacAddress :=
  (firmware.bind firmwareAddress).getD fixedAddress

/-! ## The driver -/

/-- The controller, whether the device is open, the private data of the child where there is one,
and what the driver has acquired and released. -/
structure GemSystem where
  gem : Gem
  bound : Bool
  child : Option Nat
  actions : List GemAction

/-- What the calls of one `Start` say. `privateData` is what `AllocateZeroPool` gives. -/
structure StartAnswers where
  privateData : Option Nat
  openByDriver : EfiStatus
  typeMatches : Bool
  resources : List UInt8
  dma : DmaAllocations
  firmware : Option FirmwareAnswers
  handleProtocol : EfiStatus
  appendDevicePathNode : Bool
  createEvent : EfiStatus
  createEventEx : EfiStatus
  install : EfiStatus
  openByChild : EfiStatus

/-- Zeroed private data, with the memory from `GemDmaAlloc`, on the controller as it is found. -/
def privateGem (found : Gem) (d : DmaAllocations) : Gem :=
  { found with
    phyAddr := 0
    linkUp := false
    descBuffer := d.buffers.descBuffer
    rxBuffers := d.buffers.rxBuffers
    txBuffers := d.buffers.txBuffers
    rxRing := d.rxRing
    txRing := d.txRing
    nullRxDesc := d.nullRxDesc
    nullTxDesc := d.nullTxDesc
    rxHead := 0
    txProd := 0
    txCons := 0
    txUserBuffer := fun _ => none
    dma := d.dma }

section labels
variable (pool : Nat) (b : GemBuffers)

/-- The label `CloseProtocol`, where `DmaAllocated` is false. -/
def closeProtocol : List GemAction := [.release .byDriver, .release (.privateData pool)]

/-- The label `CloseProtocol`, where it is true. -/
def closeProtocolDma : List GemAction :=
  .release .byDriver :: (gemDmaFree b ++ [.release (.privateData pool)])

/-- The label `FreeDevicePath`. -/
def freeDevicePath : List GemAction := .release .devicePath :: closeProtocolDma pool b

/-- The label `CloseWaitEvent`. -/
def closeWaitEvent : List GemAction := .release .waitForPacket :: freeDevicePath pool b

/-- The label `CloseExitBootServicesEvent`. -/
def closeExitBootServicesEvent : List GemAction :=
  .release .exitBootServicesEvent :: closeWaitEvent pool b

/-- The label `UninstallProtocols`. -/
def uninstallProtocols : List GemAction :=
  .release .childHandle :: closeExitBootServicesEvent pool b

end labels

/-- `Rp1GemDriverBindingStart` behind `GemDmaAlloc`. -/
def startChild (a : StartAnswers) (pool : Nat) : EfiStatus × List GemAction :=
  let b := a.dma.buffers
  if a.handleProtocol.isError then (a.handleProtocol, closeProtocolDma pool b)
  else if !a.appendDevicePathNode then (.outOfResources, closeProtocolDma pool b)
  else if a.createEvent.isError then
    (a.createEvent, .acquire .devicePath :: freeDevicePath pool b)
  else if a.createEventEx.isError then
    (a.createEventEx, .acquire .devicePath :: .acquire .waitForPacket :: closeWaitEvent pool b)
  else if a.install.isError then
    (a.install, .acquire .devicePath :: .acquire .waitForPacket ::
      .acquire .exitBootServicesEvent :: closeExitBootServicesEvent pool b)
  else if a.openByChild.isError then
    (a.openByChild, .acquire .devicePath :: .acquire .waitForPacket ::
      .acquire .exitBootServicesEvent :: .acquire .childHandle :: uninstallProtocols pool b)
  else
    (.success, [.acquire .devicePath, .acquire .waitForPacket, .acquire .exitBootServicesEvent,
      .acquire .childHandle])

/-- `Rp1GemDriverBindingStart` behind the open of the device. -/
def startDevice (sys : GemSystem) (a : StartAnswers) (pool : Nat) :
    EfiStatus × List GemAction × Gem :=
  if !a.typeMatches then (.unsupported, closeProtocol pool, sys.gem)
  else
    match rp1GemParseResources a.resources with
    | .error status => (status, closeProtocol pool, sys.gem)
    | .ok _ =>
      let alloc := gemDmaAlloc a.dma
      if alloc.1.isError then (alloc.1, alloc.2 ++ closeProtocol pool, gemMacReset sys.gem)
      else
        let child := startChild a pool
        (child.1, alloc.2 ++ child.2,
          if child.1.isError then gemMacReset sys.gem
          else Rpi5Uefi.rp1GemDriverBindingStart (privateGem sys.gem a.dma)
            (rp1GemGetMacAddress a.firmware))

/-- `Rp1GemDriverBindingStart`. -/
def rp1GemDriverBindingStart (sys : GemSystem) (a : StartAnswers) : EfiStatus × GemSystem :=
  match a.privateData with
  | none => (.outOfResources, sys)
  | some pool =>
    if a.openByDriver.isError then
      (a.openByDriver, { sys with
        actions := sys.actions ++ [.acquire (.privateData pool), .release (.privateData pool)] })
    else
      let (status, actions, gem) := startDevice sys a pool
      (status, {
        gem
        bound := sys.bound || !status.isError
        child := if status.isError then sys.child else some pool
        actions :=
          sys.actions ++ (.acquire (.privateData pool) :: .acquire .byDriver :: actions) })

/-- An entry of `ChildHandleBuffer`: whether it is the driver's child, and what uninstalling its
protocols says. -/
structure StopHandle where
  isChild : Bool
  uninstall : EfiStatus

/-- What `Stop` releases with the child. -/
def stopActions (pool : Nat) (b : GemBuffers) : List GemAction :=
  .release .childHandle :: .release .exitBootServicesEvent :: .release .waitForPacket ::
    (gemDmaFree b ++ [.release .devicePath, .release (.privateData pool)])

/-- The loop of `Rp1GemDriverBindingStop`. -/
def stopLoop : List StopHandle → GemSystem → EfiStatus × GemSystem
  | [], sys => (.success, sys)
  | handle :: rest, sys =>
    match sys.child, handle.isChild with
    | some pool, true =>
      let gem := gemMacReset (gemMacDisableTxRx sys.gem)
      if handle.uninstall.isError then (.deviceError, { sys with gem })
      else
        stopLoop rest { sys with
          gem, child := none, actions := sys.actions ++ stopActions pool gem.buffers }
    | _, _ => (.deviceError, sys)

/-- `Rp1GemDriverBindingStop`. -/
def rp1GemDriverBindingStop (sys : GemSystem) (childHandleBuffer : List StopHandle) :
    EfiStatus × GemSystem :=
  if childHandleBuffer.length = 0 then
    (.success, { sys with bound := false, actions := sys.actions ++ [.release .byDriver] })
  else stopLoop childHandleBuffer sys

/-- `Rp1GemNotifyExitBootServices`, of the child's event. -/
def rp1GemNotifyExitBootServices (sys : GemSystem) : GemSystem :=
  if sys.child.isSome then { sys with gem := gemWrite32 sys.gem gemNetCtrl 0 } else sys

/-- A call of the driver binding or of the child's protocol, the controller at work, or the end of
the boot services. -/
inductive BindingEvent where
  | start (answers : StartAnswers)
  | stop (childHandleBuffer : List StopHandle)
  | snp (e : SnpEvent)
  | exitBootServices

/-- The system after an event. -/
def bindingStep (sys : GemSystem) : BindingEvent → GemSystem
  | .start answers => (rp1GemDriverBindingStart sys answers).2
  | .stop childHandleBuffer => (rp1GemDriverBindingStop sys childHandleBuffer).2
  | .snp e => if sys.child.isSome then { sys with gem := snpStep sys.gem e } else sys
  | .exitBootServices => rp1GemNotifyExitBootServices sys

/-- What is acquired behind the memory for DMA. -/
def childParts : List GemResource :=
  [.devicePath, .waitForPacket, .exitBootServicesEvent, .childHandle]

/-- What belongs to the child. -/
def childResources (pool : Nat) (b : GemBuffers) : List GemResource :=
  .privateData pool :: (dmaPages b ++ childParts)

/-- What is held, by the driver's state. -/
def GemSystem.owned (sys : GemSystem) : List GemResource :=
  (if sys.bound then [.byDriver] else []) ++
    match sys.child with
    | some pool => childResources pool sys.gem.buffers
    | none => []

/-- What `DmaAllocateBuffer` promises: runs of pages that do not overlap, and none at 0. -/
structure DmaServed (b : GemBuffers) : Prop where
  aligned : ∀ a ∈ b.allocations, a.1 % efiPageSize = 0
  nonzero : ∀ a ∈ b.allocations, a.1 ≠ 0
  rxDesc : (rxPages b).Apart (descPages b)
  txRx : (txPages b).Apart (rxPages b)
  txDesc : (txPages b).Apart (descPages b)

/-- What the core keeps to: a device is opened by one driver once, private data is not what is held
already, the child is stopped before the device, and what `DmaOk` says of the calls. -/
def BindingOk (sys : GemSystem) : BindingEvent → Prop
  | .start answers =>
    (answers.openByDriver = .success → sys.bound = false) ∧
      (∀ pool, answers.privateData = some pool → sys.child ≠ some pool) ∧
      DmaServed answers.dma.buffers
  | .stop childHandleBuffer =>
    childHandleBuffer = [] → sys.child = none ∧ sys.bound = true
  | .snp e => DmaOk sys.gem e
  | .exitBootServices => True

section
variable {found gem : Gem} {sys : GemSystem} {a : StartAnswers} {b : GemBuffers} {pool : Nat}

/-! ## A station can have the address -/

/-- Not a group's address, and not zero. -/
def Unicast (mac : EfiMacAddress) : Prop :=
  mac.toList.headD 0 &&& 1 = 0 ∧ mac ≠ Vector.replicate 32 0

theorem unicast_macAddress {bytes : List UInt8} (hgroup : bytes.headD 0 &&& 1 = 0)
    (hbyte : ∃ i < 32, bytes.getD i 0 ≠ 0) : Unicast (macAddress bytes) := by
  obtain ⟨i, hi, hbyte⟩ := hbyte
  have hget : ∀ i (hi : i < 32), (macAddress bytes)[i] = bytes.getD i 0 := by
    intro i hi
    unfold macAddress
    rw [Vector.getElem_ofFn]
  have hhead : (macAddress bytes).toList.headD 0 = bytes.headD 0 := by
    unfold macAddress
    rw [Vector.toList_ofFn, List.ofFn_succ]
    cases bytes with
    | nil => rfl
    | cons b bytes => rfl
  refine ⟨(congrArg (· &&& 1) hhead).trans hgroup, fun hzero => hbyte ?_⟩
  rw [← hget i hi, hzero, Vector.getElem_replicate]

theorem unicast_fixed : Unicast fixedAddress :=
  unicast_macAddress (by decide) ⟨0, by decide, by decide⟩

theorem unicast_fromSerial {answer : Except EfiStatus UInt64} {mac : EfiMacAddress}
    (h : addressFromSerial answer = some mac) : Unicast mac := by
  unfold addressFromSerial at h
  split at h
  · split at h
    · have hgroup : (0x02 : UInt8) &&& 1 = 0 := by decide
      have hbyte : (0x02 : UInt8) ≠ 0 := by decide
      rw [← Option.some.inj h]
      exact unicast_macAddress hgroup ⟨0, by decide, hbyte⟩
    · cases h
  · cases h

theorem foldl_or_zero {bytes : List UInt8} (h : ∀ b ∈ bytes, b = 0) :
    bytes.foldl (· ||| ·) 0 = 0 := by
  induction bytes with
  | nil => rfl
  | cons b bytes ih =>
    rw [List.foldl_cons, h b List.mem_cons_self]
    exact ih fun b hb => h b (List.mem_cons_of_mem _ hb)

/-- An address that passes the test of `Rp1GemGetMacAddress`. -/
theorem unicast_tested {mac : Vector UInt8 6} (hbytes : mac.toList.foldl (· ||| ·) 0 ≠ 0)
    (hgroup : mac.toList.headD 0 &&& 1 = 0) : Unicast (macAddress mac.toList) := by
  refine unicast_macAddress hgroup ?_
  by_contra hnone
  refine hbytes (foldl_or_zero fun b hb => ?_)
  obtain ⟨i, hi, rfl⟩ := List.mem_iff_getElem.mp hb
  have hlt : i < 6 := by simpa using hi
  by_contra hne
  refine hnone ⟨i, by omega, ?_⟩
  rw [List.getD_eq_getElem?_getD, List.getElem?_eq_getElem hi]
  exact hne

/-- Whatever the firmware answers. -/
theorem getMacAddress_unicast (firmware : Option FirmwareAnswers) :
    Unicast (rp1GemGetMacAddress firmware) := by
  unfold rp1GemGetMacAddress
  cases hanswer : firmware.bind firmwareAddress with
  | none => exact unicast_fixed
  | some mac =>
    obtain ⟨answers, -, hmac⟩ := Option.bind_eq_some_iff.mp hanswer
    show Unicast mac
    unfold firmwareAddress at hmac
    split at hmac
    · split at hmac
      · rename_i htested
        rw [← Option.some.inj hmac]
        exact unicast_tested htested.1 htested.2
      · exact unicast_fromSerial hmac
    · exact unicast_fromSerial hmac

/-! ## One `Start` -/

/-- What is acquired, in order. -/
def acquired (pool : Nat) (b : GemBuffers) : List GemResource :=
  .privateData pool :: .byDriver :: (dmaPages b ++ childParts)

theorem acquired_fresh (h : DmaServed b) (pool : Nat) :
    Fresh GemResource.Apart [] (acquired pool b) := by
  obtain ⟨-, -, hrxDesc, htxRx, htxDesc⟩ := h
  unfold descPages rxPages GemResource.Apart at hrxDesc
  unfold txPages rxPages GemResource.Apart at htxRx
  unfold txPages descPages GemResource.Apart at htxDesc
  simp_all [acquired, childParts, dmaPages, descPages, rxPages, txPages, Fresh, GemResource.Apart]

theorem allocations_nonzero (h : DmaServed b) :
    b.descBuffer ≠ 0 ∧ b.rxBuffers ≠ 0 ∧ b.txBuffers ≠ 0 :=
  ⟨h.nonzero _ List.mem_cons_self, h.nonzero _ (List.mem_cons_of_mem _ List.mem_cons_self),
    h.nonzero _ (List.mem_cons_of_mem _ (List.mem_cons_of_mem _ List.mem_cons_self))⟩

theorem gemDmaFree_eq (h : DmaServed b) :
    gemDmaFree b = (dmaPages b).reverse.map .release := by
  obtain ⟨hdesc, hrx, htx⟩ := allocations_nonzero h
  unfold gemDmaFree
  rw [if_pos htx, if_pos hrx, if_pos hdesc]
  rfl

/-- What a failed `Start` has done: it released all that it acquired. -/
def Undone (pool : Nat) (b : GemBuffers) (actions : List GemAction) : Prop :=
  ∃ rs rs' : List GemResource, rs <+: acquired pool b ∧ rs'.Perm rs ∧
    .acquire (.privateData pool) :: .acquire .byDriver :: actions =
      rs.map .acquire ++ rs'.map .release

theorem gemDmaAlloc_cases (d : DmaAllocations) :
    (gemDmaAlloc d).1.isError = true ∧ (∃ rs, rs <+: dmaPages d.buffers ∧
      (gemDmaAlloc d).2 = rs.map .acquire ++ rs.reverse.map .release) ∨
    gemDmaAlloc d = (.success, (dmaPages d.buffers).map .acquire) ∧ ¬AboveFourGb d.buffers := by
  unfold gemDmaAlloc
  simp only
  split
  · rename_i hdesc
    exact Or.inl ⟨hdesc, [], ⟨_, rfl⟩, rfl⟩
  split
  · rename_i hrx
    exact Or.inl ⟨hrx, [descPages d.buffers], ⟨_, rfl⟩, rfl⟩
  split
  · rename_i htx
    exact Or.inl ⟨htx, [descPages d.buffers, rxPages d.buffers], ⟨_, rfl⟩, rfl⟩
  split
  · exact Or.inl ⟨rfl, dmaPages d.buffers, ⟨[], rfl⟩, rfl⟩
  · rename_i hbelow
    exact Or.inr ⟨rfl, hbelow⟩

theorem undone_alloc {rs : List GemResource} (h : rs <+: dmaPages b) :
    Undone pool b (rs.map .acquire ++ rs.reverse.map .release ++ closeProtocol pool) := by
  obtain ⟨rest, hrest⟩ := h
  refine ⟨.privateData pool :: .byDriver :: rs, (.privateData pool :: .byDriver :: rs).reverse,
    ?_, List.reverse_perm _, ?_⟩
  · unfold acquired
    rw [← hrest, List.append_assoc]
    exact ⟨_, rfl⟩
  · simp [closeProtocol]

/-- What the labels release, in order, where some of these parts are there. -/
def released (pool : Nat) (b : GemBuffers) (front : List GemResource) : List GemResource :=
  front.reverse ++ GemResource.byDriver :: ((dmaPages b).reverse ++ [.privateData pool])

theorem undone_child {front : List GemResource} (h : front <+: childParts) :
    Undone pool b ((dmaPages b).map .acquire ++
      (front.map .acquire ++ (released pool b front).map .release)) := by
  obtain ⟨rest, hrest⟩ := h
  refine ⟨.privateData pool :: .byDriver :: (dmaPages b ++ front), released pool b front,
    ?_, ?_, ?_⟩
  · refine ⟨rest, ?_⟩
    unfold acquired
    rw [← hrest]
    simp
  · -- the labels release the device before the memory
    refine .trans (.append_left _ List.perm_middle.symm) ?_
    refine .trans (.of_eq ?_) (List.reverse_perm _)
    simp
  · simp

theorem startChild_cases (h : DmaServed a.dma.buffers) (pool : Nat) :
    (startChild a pool).1.isError = true ∧ (∃ front, front <+: childParts ∧
      (startChild a pool).2 =
        front.map .acquire ++ (released pool a.dma.buffers front).map .release) ∨
    startChild a pool = (.success, childParts.map .acquire) := by
  have hclose : closeProtocolDma pool a.dma.buffers =
      (released pool a.dma.buffers []).map .release := by
    unfold closeProtocolDma released
    rw [gemDmaFree_eq h]
    simp
  unfold startChild uninstallProtocols closeExitBootServicesEvent closeWaitEvent freeDevicePath
  simp only [hclose]
  split
  · rename_i herror
    exact Or.inl ⟨herror, [], ⟨_, rfl⟩, rfl⟩
  split
  · exact Or.inl ⟨rfl, [], ⟨_, rfl⟩, rfl⟩
  split
  · rename_i herror
    exact Or.inl ⟨herror, [.devicePath], ⟨_, rfl⟩, rfl⟩
  split
  · rename_i herror
    exact Or.inl ⟨herror, [.devicePath, .waitForPacket], ⟨_, rfl⟩, rfl⟩
  split
  · rename_i herror
    exact Or.inl ⟨herror, [.devicePath, .waitForPacket, .exitBootServicesEvent], ⟨_, rfl⟩, rfl⟩
  split
  · rename_i herror
    exact Or.inl ⟨herror, childParts, ⟨[], rfl⟩, rfl⟩
  · exact Or.inr rfl

/-- The controller and the private data of a `Start` that goes through. -/
def startedSystemGem (found : Gem) (a : StartAnswers) : Gem :=
  Rpi5Uefi.rp1GemDriverBindingStart (privateGem found a.dma) (rp1GemGetMacAddress a.firmware)

/-- **One `Start`**, with the device open: it fails, and has released what it acquired; or it goes
through, with all its memory below 4 GiB. -/
theorem startDevice_cases (h : DmaServed a.dma.buffers) (sys : GemSystem) (pool : Nat) :
    (startDevice sys a pool).1.isError = true ∧
      Undone pool a.dma.buffers (startDevice sys a pool).2.1 ∧
      ((startDevice sys a pool).2.2 = sys.gem ∨
        (startDevice sys a pool).2.2 = gemMacReset sys.gem) ∨
    startDevice sys a pool = (.success, (dmaPages a.dma.buffers ++ childParts).map .acquire,
      startedSystemGem sys.gem a) ∧ ¬AboveFourGb a.dma.buffers := by
  have hclosed : Undone pool a.dma.buffers (closeProtocol pool) :=
    undone_alloc List.nil_prefix
  unfold startDevice
  split
  · exact Or.inl ⟨rfl, hclosed, Or.inl rfl⟩
  cases hparse : rp1GemParseResources a.resources with
  | error status =>
    rw [parseResources_error hparse]
    exact Or.inl ⟨rfl, hclosed, Or.inl rfl⟩
  | ok bases =>
    simp only
    rcases gemDmaAlloc_cases a.dma with ⟨herror, rs, hpre, hactions⟩ | ⟨halloc, hbelow⟩
    · rw [if_pos herror, hactions]
      exact Or.inl ⟨herror, undone_alloc hpre, Or.inr rfl⟩
    · rw [halloc]
      simp only [EfiStatus.isError_success, Bool.false_eq_true, if_false]
      rcases startChild_cases h pool with ⟨herror, front, hpre, hactions⟩ | hchild
      · rw [if_pos herror, hactions]
        exact Or.inl ⟨herror, undone_child hpre, Or.inr rfl⟩
      · rw [hchild]
        refine Or.inr ⟨?_, hbelow⟩
        simp [startedSystemGem]

/-! ## What holds after every event -/

/-- The driver's side of a child. -/
structure ChildInv (gem : Gem) : Prop where
  served : DmaServed gem.buffers
  allocated : gem.buffers.Allocated
  station : Unicast gem.mode.permanentAddress
  dma : DmaInv gem

/-- The record can be replayed, and what it leaves is what is held by the state. -/
def Accounted (sys : GemSystem) : Prop :=
  ∃ s, replay GemResource.Apart ⟨[], none⟩ sys.actions = some s ∧ s.held.Perm sys.owned ∧
    s.published = none

/-- **The invariant.** -/
structure BindingInv (found : Gem) (sys : GemSystem) : Prop where
  accounted : Accounted sys
  bound : ∀ pool, sys.child = some pool → sys.bound = true
  child : ∀ pool, sys.child = some pool → ChildInv sys.gem
  quiet : sys.child = none → sys.gem.regs = found.regs ∨ ¬DmaEnabled sys.gem.regs

theorem ChildInv.of_safe (h : ChildInv sys.gem) (hsafe : DmaSafe sys.gem gem) : ChildInv gem := by
  obtain ⟨hinv, hbuffers, hpermanent⟩ := hsafe
  exact ⟨hbuffers ▸ h.served, hbuffers ▸ h.allocated, hpermanent ▸ h.station, hinv h.dma⟩

/-- A call that leaves the driver's memory where it is. -/
theorem BindingInv.of_safe (h : BindingInv found sys) (hchild : sys.child = some pool)
    (hsafe : DmaSafe sys.gem gem) : BindingInv found { sys with gem } := by
  refine ⟨?_, h.bound, fun pool hpool => (h.child pool hpool).of_safe hsafe, fun hnone => ?_⟩
  · have howned : GemSystem.owned { sys with gem } = sys.owned := by
      unfold GemSystem.owned
      simp only [hsafe.buffers]
    unfold Accounted
    rw [howned]
    exact h.accounted
  · rw [hchild] at hnone
    cases hnone

/-- Acquiring and releasing again. -/
theorem Accounted.bracket (h : Accounted sys) {sys' : GemSystem} {rs rs' : List GemResource}
    (hfresh : ∀ held, held.Perm sys.owned → Fresh GemResource.Apart held rs) (hperm : rs'.Perm rs)
    (hactions : sys'.actions = sys.actions ++ (rs.map .acquire ++ rs'.map .release))
    (howned : sys'.owned = sys.owned) : Accounted sys' := by
  obtain ⟨s, hreplay, hheld, hpublished⟩ := h
  have hsound : s.Sound := by
    intro r hr
    rw [hpublished] at hr
    cases hr
  refine ⟨s, ?_, howned ▸ hheld, hpublished⟩
  rw [hactions, replay_append hreplay]
  exact replay_bracket GemResource.not_apart_self hsound (hfresh _ hheld) hperm

/-- Releasing a part of what is held. -/
theorem Accounted.release (h : Accounted sys) {sys' : GemSystem} {rs : List GemResource}
    (hnodup : rs.Nodup) (howned : sys.owned.Perm (rs ++ sys'.owned))
    (hactions : sys'.actions = sys.actions ++ rs.map .release) : Accounted sys' := by
  obtain ⟨s, hreplay, hheld, hpublished⟩ := h
  have hreleased : ∃ s', replay GemResource.Apart s (rs.map .release) = some s' ∧
      s'.held.Perm sys'.owned ∧ s'.published = none :=
    replay_releases_perm hnodup (hheld.trans howned) hpublished
  obtain ⟨s', hreplay', hleft, hpublished'⟩ := hreleased
  refine ⟨s', ?_, hleft, hpublished'⟩
  rw [hactions]
  exact (replay_append hreplay).trans hreplay'

theorem owned_of_unbound (hbound : sys.bound = false) (hchild : sys.child = none) :
    sys.owned = [] := by
  unfold GemSystem.owned
  rw [hbound, hchild]
  rfl

theorem child_of_mem_owned {other : Nat} (h : GemResource.privateData other ∈ sys.owned) :
    sys.child = some other := by
  unfold GemSystem.owned at h
  rcases List.mem_append.mp h with hdevice | hchild
  · split at hdevice
    · cases List.mem_singleton.mp hdevice
    · cases hdevice
  · split at hchild
    · rename_i pool heq
      have hsame : other = pool := by
        simpa [childResources, childParts, dmaPages, descPages, rxPages, txPages] using hchild
      rw [heq, hsame]
    · cases hchild

/-- Private data that no child has is apart from all that is held. -/
theorem privateData_apart (hchild : sys.child ≠ some pool) :
    ∀ q ∈ sys.owned, (GemResource.privateData pool).Apart q := by
  intro q hq
  cases q with
  | privateData other =>
    refine ⟨fun heq => hchild ?_, trivial⟩
    cases heq
    exact child_of_mem_owned hq
  | byDriver => exact ⟨nofun, trivial⟩
  | dmaBuffer base pages => exact ⟨nofun, trivial⟩
  | devicePath => exact ⟨nofun, trivial⟩
  | waitForPacket => exact ⟨nofun, trivial⟩
  | exitBootServicesEvent => exact ⟨nofun, trivial⟩
  | childHandle => exact ⟨nofun, trivial⟩

/-- Memory that passed the test of `GemDmaAlloc`. -/
theorem allocated_of_below (h : DmaServed b) (hbelow : ¬AboveFourGb b) : b.Allocated := by
  unfold AboveFourGb at hbelow
  have hdesc := h.aligned _ List.mem_cons_self
  refine ⟨h.aligned, ?_⟩
  have hrx : gemRxDescCount * gemRxBufferSize = 32768 := rfl
  have htx : gemTxDescCount * gemTxBufferSize = 16384 := rfl
  have hpage : efiPageSize = 4096 := rfl
  rw [hrx, htx] at hbelow
  rw [hpage] at hdesc
  simp only at hdesc
  rw [allocations_eq]
  intro alloc halloc
  simp only [List.mem_cons, List.not_mem_nil, or_false] at halloc
  rw [hpage]
  rcases halloc with rfl | rfl | rfl
  · simp only
    omega
  · simp only
    omega
  · simp only
    omega

theorem startedGem_child (found : Gem) (h : DmaServed a.dma.buffers)
    (hbelow : ¬AboveFourGb a.dma.buffers) : ChildInv (startedSystemGem found a) := by
  obtain ⟨hbuffers, -⟩ := macReset_kept (privateGem found a.dma)
  have hsame : (startedSystemGem found a).buffers = a.dma.buffers := hbuffers
  have hdisabled : (startedSystemGem found a).regs gemNetCtrl &&& gemNetCtrlEnables = 0 :=
    macReset_disabled (privateGem found a.dma)
  exact ⟨hsame ▸ h, hsame ▸ allocated_of_below h hbelow, getMacAddress_unicast a.firmware,
    .of_disabled hdisabled⟩

/-! ### Event by event -/

theorem binding_start (h : BindingInv found sys) (hok : BindingOk sys (.start a)) :
    BindingInv found (rp1GemDriverBindingStart sys a).2 := by
  obtain ⟨hopen, hpool, hserved⟩ := hok
  unfold rp1GemDriverBindingStart
  cases hprivate : a.privateData with
  | none => exact h
  | some pool =>
    simp only
    by_cases herror : a.openByDriver.isError = true
    · rw [if_pos herror]
      have hfresh : ∀ held, held.Perm sys.owned →
          Fresh GemResource.Apart held [.privateData pool] := fun held hheld =>
        ⟨fun q hq => privateData_apart (hpool pool hprivate) q (hheld.mem_iff.mp hq), trivial⟩
      exact ⟨h.accounted.bracket hfresh (.refl _) rfl rfl, h.bound, h.child, h.quiet⟩
    · rw [if_neg herror]
      have hbound := hopen (EfiStatus.isError_eq_false.mp (Bool.eq_false_iff.mpr herror))
      have hchild : sys.child = none := by
        cases hc : sys.child with
        | none => rfl
        | some other =>
          have hopened := h.bound other hc
          rw [hbound] at hopened
          cases hopened
      have howned := owned_of_unbound hbound hchild
      have hfresh := acquired_fresh hserved pool
      rcases startDevice_cases hserved sys pool with ⟨hfailed, hundone, hgem⟩ | ⟨hstarted, hbelow⟩
      · obtain ⟨rs, rs', ⟨rest, hrest⟩, hperm, hactions⟩ := hundone
        rw [hfailed]
        refine ⟨h.accounted.bracket (fun held hheld => ?_) hperm ?_ ?_, ?_, ?_, fun _ => ?_⟩
        · rw [howned] at hheld
          rw [hheld.eq_nil]
          exact (Ledger.fresh_append.mp (hrest ▸ hfresh)).1
        · simp only [hactions]
        · rw [howned]
          exact owned_of_unbound (by simp [hbound]) hchild
        · intro other hother
          rw [if_pos rfl, hchild] at hother
          cases hother
        · intro other hother
          rw [if_pos rfl, hchild] at hother
          cases hother
        · rcases hgem with hgem | hgem
          · simp only [hgem]
            exact h.quiet hchild
          · simp only [hgem]
            exact Or.inr (fun henabled => henabled (macReset_disabled _))
      · rw [hstarted]
        obtain ⟨s, hreplay, hheld, hpublished⟩ := h.accounted
        rw [howned] at hheld
        have hempty : s.held = [] := hheld.eq_nil
        have hacquired : replay GemResource.Apart s ((acquired pool a.dma.buffers).map .acquire) =
            some { s with held := (acquired pool a.dma.buffers).reverse ++ s.held } :=
          replay_acquires (hempty ▸ hfresh)
        have hbuffers : (startedSystemGem sys.gem a).buffers = a.dma.buffers :=
          (macReset_kept (privateGem sys.gem a.dma)).1
        refine ⟨⟨_, (replay_append hreplay).trans hacquired, ?_, hpublished⟩, fun _ _ => ?_,
          fun _ _ => startedGem_child sys.gem hserved hbelow, nofun⟩
        · simp only [hempty, List.append_nil]
          refine (List.reverse_perm _).trans ?_
          unfold GemSystem.owned
          simp only [EfiStatus.isError_success, Bool.not_false, Bool.or_true, if_true, hbuffers,
            Bool.false_eq_true, if_false]
          exact List.Perm.swap _ _ _
        · simp

/-- What a stopped child releases, in order. -/
def stopped (pool : Nat) (b : GemBuffers) : List GemResource :=
  GemResource.childHandle :: .exitBootServicesEvent :: .waitForPacket ::
    ((dmaPages b).reverse ++ [.devicePath, .privateData pool])

theorem stopped_perm (pool : Nat) (b : GemBuffers) :
    (stopped pool b).Perm (childResources pool b) := by
  refine .trans ?_ (List.reverse_perm _)
  unfold childResources childParts stopped
  simp only [List.reverse_cons, List.reverse_append, List.reverse_nil, List.nil_append,
    List.cons_append]
  -- the device path is released behind the memory
  exact ((List.perm_middle.cons _).cons _).cons _

theorem childResources_nodup (h : DmaServed b) : (childResources pool b).Nodup := by
  have hnodup : (acquired pool b).Nodup :=
    (acquired_fresh h pool).nodup GemResource.not_apart_self
  exact hnodup.sublist ((List.sublist_cons_self _ _).cons_cons _)

/-- A child that is stopped. -/
theorem accounted_stopped (h : BindingInv found sys) (hchild : sys.child = some pool)
    (hbuffers : gem.buffers = sys.gem.buffers) :
    Accounted { sys with
      gem, child := none, actions := sys.actions ++ stopActions pool gem.buffers } := by
  have hserved := (h.child pool hchild).served
  have hperm := stopped_perm pool sys.gem.buffers
  refine h.accounted.release (hperm.nodup_iff.mpr (childResources_nodup hserved)) ?_ ?_
  · unfold GemSystem.owned
    simp only [h.bound pool hchild, hchild]
    exact (hperm.symm.cons _).trans (List.perm_append_singleton _ _).symm
  · unfold stopActions stopped
    rw [hbuffers, gemDmaFree_eq hserved]
    simp

/-- The loop of `Stop`, over the handles. -/
theorem binding_stopLoop (handles : List StopHandle) (h : BindingInv found sys) :
    BindingInv found (stopLoop handles sys).2 := by
  induction handles generalizing sys with
  | nil => exact h
  | cons handle rest ih =>
    unfold stopLoop
    split
    · rename_i pool hchild _
      obtain ⟨hbuffers, hmode⟩ := macReset_kept (gemMacDisableTxRx sys.gem)
      have hdisabled := macReset_disabled (gemMacDisableTxRx sys.gem)
      simp only
      generalize gemMacReset (gemMacDisableTxRx sys.gem) = gem at hbuffers hmode hdisabled
      have hsafe : DmaSafe sys.gem gem :=
        ⟨fun _ => .of_disabled hdisabled, hbuffers, congrArg SnpMode.permanentAddress hmode⟩
      split
      · exact h.of_safe hchild hsafe
      · apply ih
        exact ⟨accounted_stopped h hchild hbuffers, nofun, nofun,
          fun _ => Or.inr (fun henabled => henabled hdisabled)⟩
    · exact h

theorem binding_stop (handles : List StopHandle) (h : BindingInv found sys)
    (hok : BindingOk sys (.stop handles)) :
    BindingInv found (rp1GemDriverBindingStop sys handles).2 := by
  unfold rp1GemDriverBindingStop
  split
  · rename_i hlength
    obtain ⟨hchild, hbound⟩ := hok (List.eq_nil_of_length_eq_zero hlength)
    have howned : sys.owned = [.byDriver] := by
      unfold GemSystem.owned
      rw [hbound, hchild]
      rfl
    refine ⟨h.accounted.release (List.nodup_singleton .byDriver) ?_ rfl, ?_, h.child, h.quiet⟩
    · have hleft : ∀ actions, GemSystem.owned ⟨sys.gem, false, sys.child, actions⟩ = [] :=
        fun _ => owned_of_unbound rfl hchild
      show sys.owned.Perm ([.byDriver] ++ GemSystem.owned ⟨sys.gem, false, sys.child, _⟩)
      rw [howned, hleft]
      exact .refl _
    · intro pool hpool
      rw [hchild] at hpool
      cases hpool
  · exact binding_stopLoop handles h

/-- ExitBootServices puts the controller to rest. -/
theorem binding_exit (h : BindingInv found sys) :
    BindingInv found (rp1GemNotifyExitBootServices sys) ∧
      ((rp1GemNotifyExitBootServices sys).gem.regs = found.regs ∨
        ¬DmaEnabled (rp1GemNotifyExitBootServices sys).gem.regs) := by
  unfold rp1GemNotifyExitBootServices
  split
  · rename_i hsome
    obtain ⟨pool, hchild⟩ := Option.isSome_iff_exists.mp hsome
    have hdisabled :
        (gemWrite32 sys.gem gemNetCtrl 0).regs gemNetCtrl &&& gemNetCtrlEnables = 0 := by
      rw [gemWrite32_regs, if_pos rfl]
      exact UInt32.zero_and
    exact ⟨h.of_safe hchild ⟨fun _ => .of_disabled hdisabled, rfl, rfl⟩,
      Or.inr (fun henabled => henabled hdisabled)⟩
  · rename_i hnone
    exact ⟨h, h.quiet (Option.not_isSome_iff_eq_none.mp hnone)⟩

/-- **Every event.** -/
theorem binding_step (h : BindingInv found sys) {e : BindingEvent} (hok : BindingOk sys e) :
    BindingInv found (bindingStep sys e) := by
  cases e with
  | start answers => exact binding_start h hok
  | stop handles => exact binding_stop handles h hok
  | snp e =>
    unfold bindingStep
    simp only
    split
    · rename_i hsome
      obtain ⟨pool, hchild⟩ := Option.isSome_iff_exists.mp hsome
      exact h.of_safe hchild (dmaSafe_step (h.child pool hchild).allocated hok)
    · exact h
  | exitBootServices => exact (binding_exit h).1

/-! ## Runs -/

/-- The driver before the first `Start`. -/
def bindingStart (found : Gem) : GemSystem := ⟨found, false, none, []⟩

/-- What holds in every state. -/
structure BindingSafe (found : Gem) (sys : GemSystem) : Prop where
  accounted : ∃ s, replay GemResource.Apart ⟨[], none⟩ sys.actions = some s ∧
    s.held.Perm sys.owned
  undone : ∀ answers, BindingOk sys (.start answers) →
    (rp1GemDriverBindingStart sys answers).1.isError = true →
      (rp1GemDriverBindingStart sys answers).2.owned = sys.owned
  reach : ∀ pool, sys.child = some pool → DmaEnabled sys.gem.regs → ∀ base size,
    GemReach sys.gem base size → ∃ first pages, .dmaBuffer first pages ∈ sys.owned ∧
      first ≤ base ∧ base + size ≤ first + pages * efiPageSize
  quiet : sys.child = none → sys.gem.regs = found.regs ∨ ¬DmaEnabled sys.gem.regs
  handedOver : (rp1GemNotifyExitBootServices sys).gem.regs = found.regs ∨
    ¬DmaEnabled (rp1GemNotifyExitBootServices sys).gem.regs
  station : ∀ pool, sys.child = some pool → Unicast sys.gem.mode.permanentAddress

theorem BindingInv.reach (h : BindingInv found sys) (hchild : sys.child = some pool)
    (henabled : DmaEnabled sys.gem.regs) {base size : Nat} (hreach : GemReach sys.gem base size) :
    ∃ first pages, .dmaBuffer first pages ∈ sys.owned ∧ first ≤ base ∧
      base + size ≤ first + pages * efiPageSize := by
  have hinv := h.child pool hchild
  obtain ⟨alloc, halloc, hfirst, hend⟩ := hinv.dma.contained hinv.allocated henabled hreach
  refine ⟨alloc.1, alloc.2, ?_, hfirst, hend⟩
  have hpages : GemResource.dmaBuffer alloc.1 alloc.2 ∈ dmaPages sys.gem.buffers :=
    List.mem_map_of_mem (f := fun a : Nat × Nat => GemResource.dmaBuffer a.1 a.2) halloc
  unfold GemSystem.owned
  rw [hchild]
  exact List.mem_append_right _ (List.mem_cons_of_mem _ (List.mem_append_left _ hpages))

/-- A `Start` that fails. -/
theorem start_undone (hok : BindingOk sys (.start a))
    (herror : (rp1GemDriverBindingStart sys a).1.isError = true) :
    (rp1GemDriverBindingStart sys a).2.owned = sys.owned := by
  obtain ⟨-, -, hserved⟩ := hok
  unfold rp1GemDriverBindingStart at herror ⊢
  cases hprivate : a.privateData with
  | none => rfl
  | some pool =>
    rw [hprivate] at herror
    simp only at herror ⊢
    split
    · rfl
    · rename_i hopen
      rw [if_neg hopen] at herror
      simp only at herror ⊢
      rw [herror]
      have hbuffers : (startDevice sys a pool).2.2.buffers = sys.gem.buffers := by
        rcases startDevice_cases hserved sys pool with ⟨-, -, hgem⟩ | ⟨hstarted, -⟩
        · rcases hgem with hgem | hgem
          · rw [hgem]
          · rw [hgem]
            exact (macReset_kept sys.gem).1
        · rw [hstarted] at herror
          cases herror
      unfold GemSystem.owned
      simp only [hbuffers, Bool.not_true, Bool.or_false, if_true]

end

/-! ## A run -/

/-- A `Start` of which every call succeeds, on the device that the bus registers. -/
def servedAnswers : StartAnswers where
  privateData := some 0x1000
  openByDriver := .success
  typeMatches := true
  resources := rp1BusVendorResources 0x1F00000000 gemRanges
  dma := {
    desc := .success
    rx := .success
    tx := .success
    buffers := foundGem.buffers
    rxRing := fun _ => ⟨0, 0, 0⟩
    txRing := fun _ => ⟨0, 0, 0⟩
    nullRxDesc := ⟨0, 0, 0⟩
    nullTxDesc := ⟨0, 0, 0⟩
    dma := fun _ => 0 }
  firmware := none
  handleProtocol := .success
  appendDevicePathNode := true
  createEvent := .success
  createEventEx := .success
  install := .success
  openByChild := .success

theorem served_parsed :
    rp1GemParseResources servedAnswers.resources = .ok (0x1F00100000, 0x1F00104000) := by
  have hparse := (vendorResources_iff 0x1F00000000 gemRanges [] 0x1F00100000 0x1F00104000).mpr
    ⟨_, _, rfl, by decide, by decide, by decide, by decide⟩
  rwa [List.append_nil] at hparse

theorem served_pages : DmaServed servedAnswers.dma.buffers := by
  refine ⟨?_, ?_, by decide, by decide, by decide⟩
  · intro a ha
    have hmem : a ∈ [(0x10000, 1), (0x20000, 8), (0x30000, 4)] := ha
    simp only [List.mem_cons, List.not_mem_nil, or_false] at hmem
    rcases hmem with rfl | rfl | rfl
    · rfl
    · rfl
    · rfl
  · intro a ha
    have hmem : a ∈ [(0x10000, 1), (0x20000, 8), (0x30000, 4)] := ha
    simp only [List.mem_cons, List.not_mem_nil, or_false] at hmem
    rcases hmem with rfl | rfl | rfl
    · decide
    · decide
    · decide

/-- The driver is started on it, and the interface is brought up. -/
def servedEvents : List BindingEvent :=
  [.start servedAnswers, .snp .start, .snp (.snpInitialize answeringPhy)]

def servedSystem : GemSystem := servedEvents.foldl bindingStep (bindingStart foundGem)

theorem served_run : RunWith (fun sys e sys' => sys' = bindingStep sys e) BindingOk
    (bindingStart foundGem) servedEvents servedSystem :=
  .snoc (.snoc (.snoc .nil ⟨fun _ => rfl, fun _ _ => nofun, served_pages⟩ rfl) trivial rfl)
    trivial rfl

theorem served_started : bindingStep (bindingStart foundGem) (.start servedAnswers) =
    ⟨startedSystemGem foundGem servedAnswers, true, some 0x1000,
      (acquired 0x1000 foundGem.buffers).map .acquire⟩ := by
  unfold bindingStep rp1GemDriverBindingStart startDevice
  simp only [served_parsed]
  rfl

theorem servedSystem_eq : servedSystem =
    ⟨(rp1GemSnpInitialize answeringPhy
      (rp1GemSnpStart (startedSystemGem foundGem servedAnswers)).2).2, true, some 0x1000,
      (acquired 0x1000 foundGem.buffers).map .acquire⟩ := by
  unfold servedSystem servedEvents
  simp only [List.foldl_cons, List.foldl_nil, served_started]
  rfl

theorem served_enabled : DmaEnabled servedSystem.gem.regs := by
  rw [servedSystem_eq]
  unfold DmaEnabled
  decide

end GemBinding

end Rpi5Uefi
