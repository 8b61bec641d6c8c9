import Mathlib.Data.List.Basic
import Rpi5Uefi.Efi.Status
import Rpi5Uefi.Lib.Bytes

/-!
# Receiving NCM transfer blocks (`UsbEthNcmReceive`)

A bulk transfer brings one NTB: a header whose `NdpIndex` points to an NDP16 table, whose entries
point to the datagrams. A call delivers one datagram; the counters `TotalDatagram` and
`NowDatagram` tell whether the next call goes on with the same block or reads a new one.

The path that goes on belongs to the driver the patch is for and is a parameter; `ContinuesWith`
says what is relied on.

* **`blockResults_eq`**: what one block hands up.
* **`blockDelivered_iff`**: it is the table, with no byte read outside the received data, exactly
  when the counted entries lie inside and no entry past the count does.
-/

namespace Rpi5Uefi

open Bytes

/-! ## The block -/

/-- A little-endian 16-bit word. -/
def le16 (m : Mem) (offset : Nat) : Nat := (m offset).toNat + 256 * (m (offset + 1)).toNat

/-- `Nth->NdpIndex`. -/
def ndpIndex (m : Mem) : Nat := le16 m 10

/-- `Ndp->Length`. -/
def ndpLength (m : Mem) : Nat := le16 m (ndpIndex m + 4)

/-- Entry `k` of the table. -/
def entryOffset (m : Mem) (k : Nat) : Nat := ndpIndex m + 8 + 4 * k

def datagramIndex (m : Mem) (k : Nat) : Nat := le16 m (entryOffset m k)

def datagramLength (m : Mem) (k : Nat) : Nat := le16 m (entryOffset m k + 2)

/-- The frame entry `k` points to. -/
def datagram (m : Mem) (k : Nat) : List UInt8 := m.slice (datagramIndex m k) (datagramLength m k)

/-- Is the length one of a table that can carry datagrams? -/
def TableWellFormed (m : Mem) : Prop := 12 ≤ ndpLength m ∧ ndpLength m % 4 = 0

instance (m : Mem) : Decidable (TableWellFormed m) := by unfold TableWellFormed; infer_instance

/-- The datagrams a table of this length has. -/
def tableCount (m : Mem) : Nat := (ndpLength m - 12) / 4

/-! ## The driver -/

/-- The receive state of `USB_ETHERNET_DRIVER`, and how much of the buffer the last transfer
filled. -/
structure UsbEthDriver where
  totalDatagram : UInt8
  nowDatagram : UInt8
  bulkBuffer : Mem
  received : Nat

/-- A range of the bulk buffer that is read. -/
structure BufferRead where
  offset : Nat
  length : Nat
  deriving DecidableEq, Repr

/-- What a call returns: its status, the packet if it copied one, and what it read. -/
structure ReceiveResult where
  status : EfiStatus
  packet : Option (List UInt8)
  reads : List BufferRead
  deriving DecidableEq, Repr

/-- The reads that find and copy the datagram of entry `k`. -/
def entryReads (m : Mem) (k : Nat) : List BufferRead :=
  [⟨entryOffset m k, 4⟩, ⟨datagramIndex m k, datagramLength m k⟩]

/-- The result of a call that delivers entry `k`. -/
def entryResult (m : Mem) (k : Nat) : ReceiveResult :=
  ⟨.success, some (datagram m k), ⟨10, 2⟩ :: entryReads m k⟩

/-- The parts of a fresh block that every call looks at. -/
def headerReads (m : Mem) : List BufferRead := [⟨10, 2⟩, ⟨ndpIndex m + 4, 2⟩]

/-- A new block in the buffer: what `UsbEthNcmReceive` does once the bulk transfer succeeded. -/
def receiveBlock (driver : UsbEthDriver) : ReceiveResult × UsbEthDriver :=
  let m := driver.bulkBuffer
  if ndpLength m < 12 ∨ ndpLength m % 4 ≠ 0 then
    (⟨.notReady, none, headerReads m⟩, { driver with totalDatagram := 0, nowDatagram := 0 })
  else
    let driver := { driver with totalDatagram := UInt8.ofNat ((ndpLength m - 8) / 4 - 1) }
    if driver.totalDatagram = 0 then
      (⟨.notReady, none, headerReads m⟩, { driver with nowDatagram := 0 })
    else
      (⟨.success, some (datagram m 0), headerReads m ++ entryReads m 0⟩,
        { driver with nowDatagram := driver.nowDatagram + 1 })

/-- `UsbEthNcmReceive`; `bulk` is what `UsbBulkTransfer` brings. A new block starts with
`NowDatagram` 0. -/
def usbEthNcmReceive (continuation : UsbEthDriver → ReceiveResult × UsbEthDriver)
    (driver : UsbEthDriver) (bulk : Except EfiStatus (List UInt8)) :
    ReceiveResult × UsbEthDriver :=
  if driver.totalDatagram = driver.nowDatagram then
    match bulk with
    | .error status => (⟨status, none, []⟩, driver)
    | .ok ntb =>
      receiveBlock { driver with
        nowDatagram := 0
        bulkBuffer := driver.bulkBuffer.write 0 ntb
        received := ntb.length }
  else continuation driver

/-- The path that goes on delivers entry `NowDatagram` of the same buffer and increments it. -/
def ContinuesWith (continuation : UsbEthDriver → ReceiveResult × UsbEthDriver) : Prop :=
  ∀ driver, continuation driver =
    (entryResult driver.bulkBuffer driver.nowDatagram.toNat,
      { driver with nowDatagram := driver.nowDatagram + 1 })

/-- The results of up to `n` calls that go on with the block; `next` is what a bulk transfer would
bring, and never asked for. -/
def goOn (continuation : UsbEthDriver → ReceiveResult × UsbEthDriver)
    (next : Except EfiStatus (List UInt8)) :
    Nat → UsbEthDriver → List ReceiveResult × UsbEthDriver
  | 0, driver => ([], driver)
  | n + 1, driver =>
    if driver.totalDatagram = driver.nowDatagram then ([], driver)
    else
      let (result, driver) := usbEthNcmReceive continuation driver next
      let (results, driver) := goOn continuation next n driver
      (result :: results, driver)

/-- The results of the call that fetches `ntb` and of all calls before the next fetch. -/
def blockResults (continuation : UsbEthDriver → ReceiveResult × UsbEthDriver)
    (next : Except EfiStatus (List UInt8)) (driver : UsbEthDriver) (ntb : List UInt8) :
    List ReceiveResult × UsbEthDriver :=
  let (result, driver) := usbEthNcmReceive continuation driver (.ok ntb)
  let (results, driver) := goOn continuation next 255 driver
  (result :: results, driver)

/-- The frames handed up. -/
def framesOf (results : List ReceiveResult) : List (List UInt8) :=
  results.filterMap ReceiveResult.packet

/-! ## What a block hands up -/

variable {continuation : UsbEthDriver → ReceiveResult × UsbEthDriver}
  {next : Except EfiStatus (List UInt8)} {driver : UsbEthDriver} {ntb : List UInt8} {m : Mem}
  {n k received : Nat}

theorem goOn_eq (hcont : ContinuesWith continuation) (next : Except EfiStatus (List UInt8))
    (hle : driver.nowDatagram.toNat ≤ driver.totalDatagram.toNat)
    (hn : driver.totalDatagram.toNat - driver.nowDatagram.toNat ≤ n) :
    goOn continuation next n driver =
      ((List.range' driver.nowDatagram.toNat
          (driver.totalDatagram.toNat - driver.nowDatagram.toNat)).map
        (entryResult driver.bulkBuffer),
      { driver with nowDatagram := driver.totalDatagram }) := by
  have hstay : driver.totalDatagram = driver.nowDatagram →
      { driver with nowDatagram := driver.totalDatagram } = driver := by
    intro h
    cases driver
    simp only at h
    subst h
    rfl
  induction n generalizing driver with
  | zero =>
    have heq : driver.totalDatagram = driver.nowDatagram := UInt8.toNat_inj.mp (by omega)
    rw [hstay heq, heq, Nat.sub_self]
    rfl
  | succ n ih =>
    unfold goOn
    by_cases hdone : driver.totalDatagram = driver.nowDatagram
    · rw [if_pos hdone, hstay hdone, hdone, Nat.sub_self]
      rfl
    · have hne : driver.totalDatagram.toNat ≠ driver.nowDatagram.toNat :=
        fun h => hdone (UInt8.toNat_inj.mp h)
      have hlt := driver.totalDatagram.toNat_lt
      have hnext : (driver.nowDatagram + 1).toNat = driver.nowDatagram.toNat + 1 := by
        rw [UInt8.toNat_add]
        exact Nat.mod_eq_of_lt (by change _ + 1 < 256; omega)
      rw [if_neg hdone]
      unfold usbEthNcmReceive
      rw [if_neg hdone, hcont]
      simp only
      rw [ih (by simp only; omega) (by simp only; omega) (by
        intro h
        cases driver
        simp only at h
        simp only [h])]
      simp only
      rw [hnext, show driver.totalDatagram.toNat - driver.nowDatagram.toNat =
        (driver.totalDatagram.toNat - (driver.nowDatagram.toNat + 1)) + 1 from by omega,
        List.range'_succ, List.map_cons]

/-- `TotalDatagram` of a block: the narrowed count. -/
def countedDatagrams (m : Mem) : Nat := if TableWellFormed m then tableCount m % 256 else 0

theorem toNat_totalDatagram (h : TableWellFormed m) :
    (UInt8.ofNat ((ndpLength m - 8) / 4 - 1)).toNat = countedDatagrams m := by
  obtain ⟨hlen, hmod⟩ := id h
  unfold countedDatagrams tableCount
  rw [if_pos h, UInt8.toNat_ofNat',
    show (ndpLength m - 8) / 4 - 1 = (ndpLength m - 12) / 4 from by omega]

/-- **What one block hands up**: nothing, or the entries in front of the count, each with a call of
its own. Either way the next call fetches. -/
theorem blockResults_eq (hcont : ContinuesWith continuation)
    (next : Except EfiStatus (List UInt8))
    (hfetch : driver.totalDatagram = driver.nowDatagram) (hm : driver.bulkBuffer.write 0 ntb = m) :
    (blockResults continuation next driver ntb).2.totalDatagram =
        (blockResults continuation next driver ntb).2.nowDatagram ∧
      (countedDatagrams m = 0 ∧
          (blockResults continuation next driver ntb).1 = [⟨.notReady, none, headerReads m⟩] ∨
        0 < countedDatagrams m ∧
          (blockResults continuation next driver ntb).1 =
            ⟨.success, some (datagram m 0), headerReads m ++ entryReads m 0⟩ ::
              (List.range' 1 (countedDatagrams m - 1)).map (entryResult m)) := by
  have hstop : ∀ driver : UsbEthDriver, driver.totalDatagram = driver.nowDatagram →
      goOn continuation next 255 driver = ([], driver) := by
    intro driver h
    unfold goOn
    rw [if_pos h]
  unfold blockResults usbEthNcmReceive
  rw [if_pos hfetch]
  simp only
  unfold receiveBlock
  simp only
  rw [hm]
  by_cases hform : TableWellFormed m
  case neg =>
    have hbad : ndpLength m < 12 ∨ ndpLength m % 4 ≠ 0 := by
      unfold TableWellFormed at hform
      omega
    rw [if_pos hbad]
    simp only
    rw [hstop _ rfl]
    refine ⟨rfl, Or.inl ⟨?_, rfl⟩⟩
    unfold countedDatagrams
    rw [if_neg hform]
  have hgood : ¬(ndpLength m < 12 ∨ ndpLength m % 4 ≠ 0) := by
    obtain ⟨hlen, hmod⟩ := hform
    omega
  have hcount := toNat_totalDatagram hform
  have hlt := (UInt8.ofNat ((ndpLength m - 8) / 4 - 1)).toNat_lt
  rw [if_neg hgood]
  by_cases hzero : UInt8.ofNat ((ndpLength m - 8) / 4 - 1) = 0
  · rw [if_pos hzero]
    simp only
    rw [hzero] at hcount ⊢
    rw [hstop _ rfl]
    exact ⟨rfl, Or.inl ⟨hcount.symm, rfl⟩⟩
  · have hpos : 0 < countedDatagrams m := by
      rw [← hcount]
      by_contra hle
      exact hzero (UInt8.toNat_inj.mp (by show _ = 0; omega))
    rw [if_neg hzero]
    simp only
    have hone : ((0 : UInt8) + 1).toNat = 1 := rfl
    rw [goOn_eq hcont next (by simp only [hone, hcount]; omega)
      (by simp only [hone, hcount]; omega)]
    refine ⟨rfl, Or.inr ⟨hpos, ?_⟩⟩
    simp only [hone, hcount]

/-! ## The table and the received data -/

/-- No byte of the range lies behind the received data. -/
def BufferRead.Inside (received : Nat) (read : BufferRead) : Prop :=
  read.length = 0 ∨ read.offset + read.length ≤ received

/-- The entry and its datagram lie in the received data. -/
def EntryInside (m : Mem) (received k : Nat) : Prop :=
  ∀ read ∈ entryReads m k, read.Inside received

instance (received : Nat) (read : BufferRead) : Decidable (read.Inside received) := by
  unfold BufferRead.Inside
  infer_instance

instance (m : Mem) (received k : Nat) : Decidable (EntryInside m received k) := by
  unfold EntryInside
  infer_instance

/-- The frames of a block: the datagrams of a well-formed table, without those that lie outside
the received data. -/
def tableFrames (m : Mem) (received : Nat) : List (List UInt8) :=
  if TableWellFormed m then
    (List.range (tableCount m)).filterMap fun k =>
      if EntryInside m received k then some (datagram m k) else none
  else []

/-- The block was handed up: its frames once each and in order, nothing outside it read, and the
next call fetches. -/
structure BlockDelivered (m : Mem) (received : Nat) (results : List ReceiveResult)
    (driver : UsbEthDriver) : Prop where
  frames : framesOf results = tableFrames m received
  reads : ∀ result ∈ results, ∀ read ∈ result.reads, read.Inside received
  fetches : driver.totalDatagram = driver.nowDatagram

/-- The header and the counted entries lie in the received data, and no entry past the count
does. -/
structure BlockFits (m : Mem) (received : Nat) : Prop where
  header : ∀ read ∈ headerReads m, read.Inside received
  counted : ∀ k < countedDatagrams m, EntryInside m received k
  rest : TableWellFormed m → ∀ k, countedDatagrams m ≤ k → k < tableCount m →
    ¬EntryInside m received k

theorem framesOf_entryResults (m : Mem) (l : List Nat) :
    framesOf (l.map (entryResult m)) = l.map (datagram m) := by
  induction l with
  | nil => rfl
  | cons k l ih =>
    unfold framesOf at ih ⊢
    rw [List.map_cons, List.map_cons, ← ih]
    rfl

/-- The frames of a block are the entries in front of the count. -/
theorem framesOf_blockResults (hcont : ContinuesWith continuation)
    (next : Except EfiStatus (List UInt8))
    (hfetch : driver.totalDatagram = driver.nowDatagram) (hm : driver.bulkBuffer.write 0 ntb = m) :
    framesOf (blockResults continuation next driver ntb).1 =
      (List.range (countedDatagrams m)).map (datagram m) := by
  rcases (blockResults_eq hcont next hfetch hm).2 with ⟨hzero, hcall⟩ | ⟨hpos, hcall⟩
  · rw [hcall, hzero]
    rfl
  · have hrange : List.range (countedDatagrams m) =
        0 :: List.range' 1 (countedDatagrams m - 1) := by
      rw [List.range_eq_range',
        show countedDatagrams m = (countedDatagrams m - 1) + 1 from by omega,
        List.range'_succ, Nat.add_sub_cancel]
    rw [hcall, hrange, List.map_cons, ← framesOf_entryResults]
    rfl

/-- What the calls of a block read: the header, and the entries in front of the count. -/
theorem reads_blockResults (hcont : ContinuesWith continuation)
    (next : Except EfiStatus (List UInt8))
    (hfetch : driver.totalDatagram = driver.nowDatagram) (hm : driver.bulkBuffer.write 0 ntb = m) :
    (∀ result ∈ (blockResults continuation next driver ntb).1, ∀ read ∈ result.reads,
        read.Inside received) ↔
      (∀ read ∈ headerReads m, read.Inside received) ∧
        ∀ k < countedDatagrams m, EntryInside m received k := by
  rcases (blockResults_eq hcont next hfetch hm).2 with ⟨hzero, hcall⟩ | ⟨hpos, hcall⟩
  · rw [hcall, hzero]
    simp
  · rw [hcall]
    constructor
    · intro h
      have hfirst := h _ List.mem_cons_self
      refine ⟨fun read hread => hfirst read (List.mem_append_left _ hread), fun k hk => ?_⟩
      rcases Nat.eq_zero_or_pos k with rfl | hk0
      · exact fun read hread => hfirst read (List.mem_append_right _ hread)
      · have hmem : entryResult m k ∈
            (List.range' 1 (countedDatagrams m - 1)).map (entryResult m) :=
          List.mem_map_of_mem (List.mem_range'_1.mpr ⟨hk0, by omega⟩)
        exact fun read hread => h _ (List.mem_cons_of_mem _ hmem) read
          (List.mem_cons_of_mem _ hread)
    · rintro ⟨hheader, hentries⟩ result hresult read hread
      rw [List.mem_cons, List.mem_map] at hresult
      rcases hresult with rfl | ⟨k, hk, rfl⟩
      · rcases List.mem_append.mp hread with hread | hread
        · exact hheader read hread
        · exact hentries 0 hpos read hread
      · have hbound := List.mem_range'_1.mp hk
        rcases List.mem_cons.mp hread with rfl | hread
        · exact hheader _ List.mem_cons_self
        · exact hentries k (by omega) read hread

/-- The table has as many frames as counted entries exactly when no other entry lies inside. -/
theorem tableFrames_eq_iff (hinside : ∀ k < countedDatagrams m, EntryInside m received k) :
    (List.range (countedDatagrams m)).map (datagram m) = tableFrames m received ↔
      (TableWellFormed m → ∀ k, countedDatagrams m ≤ k → k < tableCount m →
        ¬EntryInside m received k) := by
  unfold tableFrames
  by_cases hform : TableWellFormed m
  case neg =>
    rw [if_neg hform]
    refine ⟨fun _ h => absurd h hform, fun _ => ?_⟩
    unfold countedDatagrams
    rw [if_neg hform]
    rfl
  rw [if_pos hform]
  have hle : countedDatagrams m ≤ tableCount m := by
    unfold countedDatagrams
    rw [if_pos hform]
    exact Nat.mod_le _ _
  obtain ⟨more, hmore⟩ := Nat.exists_eq_add_of_le hle
  rw [hmore, List.range_add, List.filterMap_append]
  -- the counted entries give all their datagrams
  have hfront : (List.range (countedDatagrams m)).filterMap (fun k =>
      if EntryInside m received k then some (datagram m k) else none) =
      (List.range (countedDatagrams m)).map (datagram m) := by
    rw [← List.filterMap_eq_map]
    refine List.filterMap_congr fun k hk => ?_
    rw [if_pos (hinside k (List.mem_range.mp hk))]
    rfl
  rw [hfront, List.self_eq_append_right, List.filterMap_eq_nil_iff]
  constructor
  · intro h _ k hk hlt hin
    have hmem : k ∈ (List.range more).map (countedDatagrams m + ·) :=
      List.mem_map.mpr ⟨k - countedDatagrams m, List.mem_range.mpr (by omega), by omega⟩
    have hnone := h k hmem
    rw [if_pos hin] at hnone
    cases hnone
  · intro h k hk
    obtain ⟨j, hj, rfl⟩ := List.mem_map.mp hk
    have hlt := List.mem_range.mp hj
    exact if_neg (h hform _ (by omega) (by omega))

/-- **One NTB, exactly.** The calls up to the next bulk transfer hand up the datagrams of the table
and read nothing outside the received data if and only if the header and the counted entries lie
inside it and no entry past the narrowed count does. -/
theorem blockDelivered_iff (continuation : UsbEthDriver → ReceiveResult × UsbEthDriver)
    (next : Except EfiStatus (List UInt8)) (driver : UsbEthDriver) (ntb : List UInt8)
    (hcont : ContinuesWith continuation)
    (hfetch : driver.totalDatagram = driver.nowDatagram) :
    BlockDelivered (driver.bulkBuffer.write 0 ntb) ntb.length
        (blockResults continuation next driver ntb).1
        (blockResults continuation next driver ntb).2 ↔
      BlockFits (driver.bulkBuffer.write 0 ntb) ntb.length := by
  have hframes := framesOf_blockResults hcont next hfetch (rfl : driver.bulkBuffer.write 0 ntb = _)
  constructor
  · intro h
    have hreads := (reads_blockResults hcont next hfetch rfl).mp h.reads
    refine ⟨hreads.1, hreads.2, (tableFrames_eq_iff hreads.2).mp ?_⟩
    exact hframes.symm.trans h.frames
  · intro h
    refine ⟨hframes.trans ((tableFrames_eq_iff h.counted).mpr h.rest), ?_,
      (blockResults_eq hcont next hfetch rfl).1⟩
    exact (reads_blockResults hcont next hfetch rfl).mpr ⟨h.header, h.counted⟩

/-- A continuation as the driver has it. -/
def deliverNext (driver : UsbEthDriver) : ReceiveResult × UsbEthDriver :=
  (entryResult driver.bulkBuffer driver.nowDatagram.toNat,
    { driver with nowDatagram := driver.nowDatagram + 1 })

def freshDriver : UsbEthDriver := ⟨0, 0, fun _ => 0, 0⟩

/-- A transfer header, a table at 12 and the datagrams behind it. -/
def blockOf (length : Nat) (entries : List UInt8) : List UInt8 :=
  List.replicate 10 0 ++ [12, 0] ++ List.replicate 4 0 ++
    [UInt8.ofNat length, UInt8.ofNat (length / 256), 0, 0] ++ entries

/-- Two datagrams of one byte each. -/
def twoDatagrams : List UInt8 := blockOf 20 [0, 0, 1, 0, 12, 0, 1, 0, 0, 0, 0, 0]

theorem twoDatagrams_delivered :
    BlockDelivered (freshDriver.bulkBuffer.write 0 twoDatagrams) twoDatagrams.length
        (blockResults deliverNext (.error .timeout) freshDriver twoDatagrams).1
        (blockResults deliverNext (.error .timeout) freshDriver twoDatagrams).2 := by
  have hcounted : countedDatagrams (freshDriver.bulkBuffer.write 0 twoDatagrams) = 2 := by
    decide +kernel
  have htable : tableCount (freshDriver.bulkBuffer.write 0 twoDatagrams) = 2 := by
    decide +kernel
  refine (blockDelivered_iff deliverNext (.error .timeout) freshDriver twoDatagrams (fun _ => rfl)
    rfl).mpr ⟨by decide +kernel, ?_, fun _ k hk hlt => ?_⟩
  · rw [hcounted]
    decide +kernel
  · rw [hcounted] at hk
    rw [htable] at hlt
    omega

/-- A table of 256 datagrams of one byte each. -/
def manyDatagrams : List UInt8 :=
  blockOf 1036 ((List.replicate 256 [0, 0, 1, 0]).flatten ++ [0, 0, 0, 0])

/-- The count of 256 is narrowed to 0, and no frame is handed up. -/
theorem manyDatagrams_lost :
    TableWellFormed (freshDriver.bulkBuffer.write 0 manyDatagrams) ∧
      tableCount (freshDriver.bulkBuffer.write 0 manyDatagrams) = 256 ∧
      (blockResults deliverNext (.error .timeout) freshDriver manyDatagrams).1 =
        [⟨.notReady, none, [⟨10, 2⟩, ⟨16, 2⟩]⟩] ∧
      ¬BlockDelivered (freshDriver.bulkBuffer.write 0 manyDatagrams) manyDatagrams.length
        (blockResults deliverNext (.error .timeout) freshDriver manyDatagrams).1
        (blockResults deliverNext (.error .timeout) freshDriver manyDatagrams).2 := by
  have hform : TableWellFormed (freshDriver.bulkBuffer.write 0 manyDatagrams) := by
    decide +kernel
  have hcount : tableCount (freshDriver.bulkBuffer.write 0 manyDatagrams) = 256 := by
    decide +kernel
  have hresults : (blockResults deliverNext (.error .timeout) freshDriver manyDatagrams).1 =
      [⟨.notReady, none, [⟨10, 2⟩, ⟨16, 2⟩]⟩] := by
    decide +kernel
  refine ⟨hform, hcount, hresults, fun h => ?_⟩
  have hframes := h.frames
  rw [hresults] at hframes
  have hfirst : datagram (freshDriver.bulkBuffer.write 0 manyDatagrams) 0 ∈
      tableFrames (freshDriver.bulkBuffer.write 0 manyDatagrams) manyDatagrams.length := by
    unfold tableFrames
    rw [if_pos hform, hcount, List.mem_filterMap]
    exact ⟨0, by decide, if_pos (by decide +kernel)⟩
  rw [← hframes] at hfirst
  cases hfirst

end Rpi5Uefi
