import Mathlib.Data.List.Nodup
import Rpi5Uefi.Efi.Status
import Rpi5Uefi.Lib.Run

/-!
# Deferred interrupt transfers (`DwHcAsyncInterruptTransfer`)

An interrupt endpoint that a class driver arms is polled from a list of deferred requests. Arming an
endpoint that has a request retires that request and honours the new one; the checks of the new
request come after the retirement.

* **`DwHcUnseen`**: the part of the function that the patched driver has and the patch does not
  show.
* **`dwHcAsyncInterruptTransfer`**: a call to arm or to cancel.
* **`deferred_nodup`**: in every run an endpoint has at most one request.
* **`callsHold_iff`**: failed calls leave the list as it was exactly in the runs in which no re-arm
  of a live endpoint is rejected.
-/

namespace Rpi5Uefi

open Transition

/-! ## The list and the calls -/

/-- What a caller passes. The callback and its context are in the request. -/
structure AsyncInterruptArgs where
  deviceAddress : UInt8
  endPointAddress : UInt8
  deviceSpeed : UInt8
  maximumPacketLength : Nat
  isNewTransfer : Bool
  dataToggle : UInt8
  pollingInterval : Nat
  dataLength : Nat
  deriving DecidableEq, Repr

/-- `DWUSB_DEFERRED_REQ`: the endpoint it polls, and the rest of it. -/
structure DwUsbDeferredReq (ρ : Type) where
  deviceAddress : UInt8
  endPointAddress : UInt8
  rest : ρ
  deriving DecidableEq, Repr

/-- The endpoint of a request. -/
def DwUsbDeferredReq.endpoint {ρ : Type} (req : DwUsbDeferredReq ρ) : UInt8 × UInt8 :=
  (req.deviceAddress, req.endPointAddress)

/-- The endpoint of a call. -/
def AsyncInterruptArgs.endpoint (args : AsyncInterruptArgs) : UInt8 × UInt8 :=
  (args.deviceAddress, args.endPointAddress)

/-- A status that is an error. -/
abbrev EfiError := {status : EfiStatus // status.isError = true}

/-- The part of the driver that the patch does not show: what is checked before the lookup and after
the retirement, the lookup, and the request that is made. -/
structure DwHcUnseen (ρ : Type) where
  entry : AsyncInterruptArgs → Option EfiError
  /-- `DwHcFindDeferredTransfer`: the place of an endpoint's request in the list. -/
  find : List (DwUsbDeferredReq ρ) → UInt8 × UInt8 → Option Nat
  find_some : ∀ {list endpoint i}, find list endpoint = some i →
    ∃ req, list[i]? = some req ∧ req.endpoint = endpoint
  find_none : ∀ {list endpoint}, find list endpoint = none → ∀ req ∈ list, req.endpoint ≠ endpoint
  /-- The status for a `DataLength` of zero. -/
  emptyError : EfiError
  /-- The checks of `DataToggle` and `PollingInterval`. -/
  check : AsyncInterruptArgs → Option EfiError
  /-- The status where memory is short. -/
  memoryError : EfiError
  request : AsyncInterruptArgs → ρ
  /-- The status for a cancel that finds no request. -/
  cancelError : EfiError

/-- A call, and whether the memory for a new request is there. -/
structure AsyncInterruptCall where
  args : AsyncInterruptArgs
  allocated : Bool
  deriving DecidableEq, Repr

variable {ρ : Type}

/-- What becomes of a new request behind the retirement. -/
def dwHcArm (unseen : DwHcUnseen ρ) (call : AsyncInterruptCall) (list : List (DwUsbDeferredReq ρ)) :
    EfiStatus × List (DwUsbDeferredReq ρ) :=
  if call.args.dataLength = 0 then (unseen.emptyError, list)
  else
    match unseen.check call.args with
    | some error => (error, list)
    | none =>
      if call.allocated then
        (.success, list ++ [⟨call.args.deviceAddress, call.args.endPointAddress,
          unseen.request call.args⟩])
      else (unseen.memoryError, list)

/-- `DwHcAsyncInterruptTransfer`. -/
def dwHcAsyncInterruptTransfer (unseen : DwHcUnseen ρ) (call : AsyncInterruptCall)
    (list : List (DwUsbDeferredReq ρ)) : EfiStatus × List (DwUsbDeferredReq ρ) :=
  match unseen.entry call.args with
  | some error => (error, list)
  | none =>
    let foundReq := unseen.find list call.args.endpoint
    if call.args.isNewTransfer then
      match foundReq with
      -- retire the stale request and honour the new one
      | some i => dwHcArm unseen call (list.eraseIdx i)
      | none => dwHcArm unseen call list
    else
      match foundReq with
      | some i => (.success, list.eraseIdx i)
      | none => (unseen.cancelError, list)

/-! ## What a call should do -/

/-- At most one request for each endpoint. -/
def OnePerEndpoint (list : List (DwUsbDeferredReq ρ)) : Prop :=
  (list.map DwUsbDeferredReq.endpoint).Nodup

/-- **A call as it should be**: no endpoint has two requests after it, and a failed one leaves the
list as it was. -/
structure CallHolds (unseen : DwHcUnseen ρ) (call : AsyncInterruptCall)
    (list : List (DwUsbDeferredReq ρ)) : Prop where
  onePerEndpoint : OnePerEndpoint (dwHcAsyncInterruptTransfer unseen call list).2
  atomic : (dwHcAsyncInterruptTransfer unseen call list).1.isError = true →
    (dwHcAsyncInterruptTransfer unseen call list).2 = list

/-- Each call of a run is as it should be, on the list the ones before have left. -/
def CallsHold (unseen : DwHcUnseen ρ) : List (DwUsbDeferredReq ρ) → List AsyncInterruptCall → Prop
  | _, [] => True
  | list, call :: calls =>
    CallHolds unseen call list ∧
      CallsHold unseen (dwHcAsyncInterruptTransfer unseen call list).2 calls

/-- What a new request is rejected for after the retirement. -/
def RejectedLate (unseen : DwHcUnseen ρ) (call : AsyncInterruptCall) : Prop :=
  call.args.dataLength = 0 ∨ unseen.check call.args ≠ none ∨ call.allocated = false

/-- The call re-arms an endpoint that has a request, and is rejected. -/
def RejectedRearm (unseen : DwHcUnseen ρ) (call : AsyncInterruptCall)
    (list : List (DwUsbDeferredReq ρ)) : Prop :=
  unseen.entry call.args = none ∧ call.args.isNewTransfer = true ∧
    (∃ req ∈ list, req.endpoint = call.args.endpoint) ∧ RejectedLate unseen call

/-- No call of a run re-arms a live endpoint and is rejected. -/
def NoRejectedRearm (unseen : DwHcUnseen ρ) :
    List (DwUsbDeferredReq ρ) → List AsyncInterruptCall → Prop
  | _, [] => True
  | list, call :: calls =>
    ¬RejectedRearm unseen call list ∧
      NoRejectedRearm unseen (dwHcAsyncInterruptTransfer unseen call list).2 calls

/-! ## The list after a request is retired -/

section Lists

variable {list : List (DwUsbDeferredReq ρ)} {endpoint : UInt8 × UInt8} {i : Nat}

theorem OnePerEndpoint.eraseIdx (h : OnePerEndpoint list) (i : Nat) :
    OnePerEndpoint (list.eraseIdx i) :=
  List.Nodup.sublist ((List.eraseIdx_sublist list i).map _) h

/-- The endpoint of the retired request has none left. -/
theorem OnePerEndpoint.ne_of_mem_eraseIdx (h : OnePerEndpoint list) {req : DwUsbDeferredReq ρ}
    (hreq : list[i]? = some req) : ∀ other ∈ list.eraseIdx i, other.endpoint ≠ req.endpoint := by
  intro other hother heq
  obtain ⟨j, hne, hj⟩ := List.mem_eraseIdx_iff_getElem?.mp hother
  -- two places with one endpoint
  have hmapi : (list.map DwUsbDeferredReq.endpoint)[i]? = some req.endpoint := by
    rw [List.getElem?_map, hreq]
    rfl
  have hmapj : (list.map DwUsbDeferredReq.endpoint)[j]? = some req.endpoint := by
    rw [List.getElem?_map, hj, ← heq]
    rfl
  have hlt : j < (list.map DwUsbDeferredReq.endpoint).length := by
    rw [List.length_map]
    exact (List.getElem?_eq_some_iff.mp hj).1
  exact hne ((List.getElem?_inj hlt h).mp (hmapj.trans hmapi.symm))

theorem OnePerEndpoint.concat (h : OnePerEndpoint list) {req : DwUsbDeferredReq ρ}
    (hnew : ∀ other ∈ list, other.endpoint ≠ req.endpoint) : OnePerEndpoint (list ++ [req]) := by
  unfold OnePerEndpoint
  rw [List.map_append, List.map_singleton]
  refine List.Nodup.append h (List.nodup_singleton _) fun endpoint hold hreq => ?_
  obtain ⟨other, hother, rfl⟩ := List.mem_map.mp hold
  exact hnew other hother (List.mem_singleton.mp hreq)

/-- A list without one of its requests is another list. -/
theorem eraseIdx_ne (hi : i < list.length) : list.eraseIdx i ≠ list := by
  intro heq
  have hlength := congrArg List.length heq
  rw [List.length_eraseIdx_of_lt hi] at hlength
  omega

end Lists

/-! ## One call -/

section Call

variable {unseen : DwHcUnseen ρ} {call : AsyncInterruptCall} {list : List (DwUsbDeferredReq ρ)}

/-- A new request is rejected and the list is as the retirement left it, or it is the last. -/
theorem dwHcArm_cases (unseen : DwHcUnseen ρ) (call : AsyncInterruptCall)
    (list : List (DwUsbDeferredReq ρ)) :
    (RejectedLate unseen call ∧ (dwHcArm unseen call list).1.isError = true ∧
      (dwHcArm unseen call list).2 = list) ∨
    (¬RejectedLate unseen call ∧ dwHcArm unseen call list =
      (.success, list ++ [⟨call.args.deviceAddress, call.args.endPointAddress,
        unseen.request call.args⟩])) := by
  unfold dwHcArm RejectedLate
  split
  · rename_i hempty
    exact Or.inl ⟨Or.inl hempty, unseen.emptyError.property, rfl⟩
  · rename_i hempty
    cases hcheck : unseen.check call.args with
    | some error =>
      refine Or.inl ⟨Or.inr (Or.inl ?_), error.property, rfl⟩
      exact fun h => by cases h
    | none =>
      cases hallocated : call.allocated with
      | false => exact Or.inl ⟨Or.inr (Or.inr rfl), unseen.memoryError.property, rfl⟩
      | true =>
        refine Or.inr ⟨?_, rfl⟩
        rintro (h | h | h)
        · exact hempty h
        · exact h rfl
        · cases h

/-- An arm behind a retirement keeps one request for each endpoint. -/
theorem onePerEndpoint_dwHcArm (h : OnePerEndpoint list)
    (hnew : ∀ other ∈ list, other.endpoint ≠ call.args.endpoint) :
    OnePerEndpoint (dwHcArm unseen call list).2 := by
  rcases dwHcArm_cases unseen call list with ⟨-, -, hlist⟩ | ⟨-, heq⟩
  · rw [hlist]
    exact h
  · rw [heq]
    exact h.concat hnew

/-- **The step**: a call keeps one request for each endpoint. -/
theorem onePerEndpoint_step (unseen : DwHcUnseen ρ) (call : AsyncInterruptCall)
    (h : OnePerEndpoint list) :
    OnePerEndpoint (dwHcAsyncInterruptTransfer unseen call list).2 := by
  unfold dwHcAsyncInterruptTransfer
  cases unseen.entry call.args with
  | some error => exact h
  | none =>
    cases hfind : unseen.find list call.args.endpoint with
    | some i =>
      obtain ⟨req, hreq, hendpoint⟩ := unseen.find_some hfind
      cases call.args.isNewTransfer with
      | true =>
        apply onePerEndpoint_dwHcArm (h.eraseIdx i)
        rw [← hendpoint]
        exact h.ne_of_mem_eraseIdx hreq
      | false => exact h.eraseIdx i
    | none =>
      cases call.args.isNewTransfer with
      | true => exact onePerEndpoint_dwHcArm h (unseen.find_none hfind)
      | false => exact h

/-- A failed call leaves the list as it was, unless it is a rejected re-arm. -/
theorem atomic_iff (unseen : DwHcUnseen ρ) (call : AsyncInterruptCall)
    (list : List (DwUsbDeferredReq ρ)) :
    ((dwHcAsyncInterruptTransfer unseen call list).1.isError = true →
        (dwHcAsyncInterruptTransfer unseen call list).2 = list) ↔
      ¬RejectedRearm unseen call list := by
  unfold dwHcAsyncInterruptTransfer RejectedRearm
  cases unseen.entry call.args with
  | some error =>
    refine iff_of_true (fun _ => rfl) ?_
    rintro ⟨h, -⟩
    cases h
  | none =>
    cases hfind : unseen.find list call.args.endpoint with
    | some i =>
      obtain ⟨req, hreq, hendpoint⟩ := unseen.find_some hfind
      have hlive : ∃ req ∈ list, req.endpoint = call.args.endpoint :=
        ⟨req, List.mem_of_getElem? hreq, hendpoint⟩
      cases call.args.isNewTransfer with
      | true =>
        show ((dwHcArm unseen call (list.eraseIdx i)).1.isError = true →
          (dwHcArm unseen call (list.eraseIdx i)).2 = list) ↔ _
        rcases dwHcArm_cases unseen call (list.eraseIdx i) with
          ⟨hlate, herror, hlist⟩ | ⟨hlate, heq⟩
        · -- the stale request is gone
          rw [hlist]
          refine iff_of_false (fun h => ?_) fun h => h ⟨rfl, rfl, hlive, hlate⟩
          exact eraseIdx_ne (List.getElem?_eq_some_iff.mp hreq).1 (h herror)
        · rw [heq]
          exact iff_of_true (fun h => by cases h) fun h => hlate h.2.2.2
      | false =>
        refine iff_of_true (fun h => by cases h) ?_
        rintro ⟨-, h, -⟩
        cases h
    | none =>
      have hnone := unseen.find_none hfind
      refine iff_of_true (fun herror => ?_) ?_
      · cases hnew : call.args.isNewTransfer with
        | false => rfl
        | true =>
          rw [hnew] at herror
          rcases dwHcArm_cases unseen call list with ⟨-, -, hlist⟩ | ⟨-, heq⟩
          · exact hlist
          · rw [if_pos rfl] at herror
            have hok := herror
            rw [heq] at hok
            cases hok
      · rintro ⟨-, -, ⟨req, hmem, hendpoint⟩, -⟩
        exact hnone req hmem hendpoint

end Call

/-! ## Runs -/

/-- **In every run an endpoint has at most one request.** -/
theorem deferred_nodup {unseen : DwHcUnseen ρ} {calls : List AsyncInterruptCall}
    {list : List (DwUsbDeferredReq ρ)}
    (hrun : Run (fun list call list' => (dwHcAsyncInterruptTransfer unseen call list).2 = list')
      [] calls list) : OnePerEndpoint list := by
  refine hrun.inv (fun list call list' h hstep => ?_) List.nodup_nil
  rw [← hstep]
  exact onePerEndpoint_step unseen call h

/-- **Every call of a run is as it should be** exactly if none of them re-arms a live endpoint and
is rejected. Induction on the calls; the list they start from has one request for each endpoint. -/
theorem callsHold_iff (unseen : DwHcUnseen ρ) (calls : List AsyncInterruptCall) :
    CallsHold unseen [] calls ↔ NoRejectedRearm unseen [] calls := by
  have hgeneral : ∀ list : List (DwUsbDeferredReq ρ), OnePerEndpoint list →
      (CallsHold unseen list calls ↔ NoRejectedRearm unseen list calls) := by
    induction calls with
    | nil => exact fun _ _ => Iff.rfl
    | cons call calls ih =>
      intro list hlist
      have hstep := onePerEndpoint_step unseen call hlist
      have hcall : CallHolds unseen call list ↔ ¬RejectedRearm unseen call list :=
        ⟨fun h => (atomic_iff unseen call list).mp h.atomic,
          fun h => ⟨hstep, (atomic_iff unseen call list).mpr h⟩⟩
      exact and_congr hcall (ih _ hstep)
  exact hgeneral [] List.nodup_nil

/-! ### A rejected re-arm -/

theorem invalidParameter_isError : EfiStatus.isError .invalidParameter = true := rfl

/-- A driver that looks for the first request of an endpoint and checks the toggle and the interval
of a new one. -/
def listedDriver : DwHcUnseen Unit where
  entry _ := none
  find list endpoint := list.findIdx? (·.endpoint == endpoint)
  find_some := by
    intro list endpoint i h
    obtain ⟨hlt, hfound, -⟩ := List.findIdx?_eq_some_iff_getElem.mp h
    exact ⟨list[i], List.getElem?_eq_getElem hlt, eq_of_beq hfound⟩
  find_none := by
    intro list endpoint h req hreq heq
    have hnot := List.findIdx?_eq_none_iff.mp h req hreq
    rw [heq, beq_self_eq_true] at hnot
    cases hnot
  emptyError := ⟨.invalidParameter, invalidParameter_isError⟩
  check args :=
    if args.dataToggle ≤ 1 ∧ 1 ≤ args.pollingInterval ∧ args.pollingInterval ≤ 255 then none
    else some ⟨.invalidParameter, invalidParameter_isError⟩
  memoryError := ⟨.outOfResources, rfl⟩
  request _ := ()
  cancelError := ⟨.invalidParameter, invalidParameter_isError⟩

/-- Arming the notification endpoint of a device. -/
def armCall (pollingInterval dataLength : Nat) : AsyncInterruptCall where
  args := ⟨1, 0x82, 2, 16, true, 0, pollingInterval, dataLength⟩
  allocated := true

/-- A second arm with an interval of zero is rejected, and the endpoint is no longer polled. -/
theorem callsHold_rejectedRearm :
    (dwHcAsyncInterruptTransfer listedDriver (armCall 0 16)
        (dwHcAsyncInterruptTransfer listedDriver (armCall 16 16) []).2) =
      (.invalidParameter, []) ∧
    ¬CallsHold listedDriver [] [armCall 16 16, armCall 0 16] := by
  refine ⟨by decide, fun h => ?_⟩
  exact absurd (h.2.1.atomic (by decide)) (by decide)

end Rpi5Uefi
