import Rpi5Uefi.Redfish.InventoryBodies

/-!
# The processor's body, and all four

The strings of a processor alone leave the buffer little room for the rest, and the identification
registers go in without an escape.

* **`rpiRedfishBuildProcessorPost_iff`**: the body is the object of its record exactly where the
  strings are UTF-8, the numbers print, the registers need no escape and the whole text fits.
* **`inventoryBodies_iff`**: the four builders.
* **`rpiRedfishBuildProcessorPost_quotes`**: a record whose body has lost its closing brace.
-/

namespace Rpi5Uefi

open Bytes Appends Json

/-! ## The identification registers -/

def idMember (idRegisters : List UInt8) : List Member :=
  if idRegisters = [] then []
  else [(ascii "ProcessorId",
    .object [(ascii "IdentificationRegisters", .string (spaced idRegisters))])]

def idPieces (idRegisters : List UInt8) : List (List UInt8) :=
  if idRegisters = [] then []
  else [asciiSPrint 80 (ascii ",\"ProcessorId\":\x7b\"IdentificationRegisters\":\"" ++
    idRegisters ++ ascii "\"\x7d")]

variable {s : List UInt8}

theorem catAll_idPieces (json idRegisters : List UInt8) (jsonSize : Nat) :
    (if idRegisters ≠ [] then
        asciiStrCatS json jsonSize
          (asciiSPrint 80 (ascii ",\"ProcessorId\":\x7b\"IdentificationRegisters\":\"" ++
            idRegisters ++ ascii "\"\x7d"))
      else json) = catAll jsonSize json (idPieces idRegisters) := by
  unfold idPieces
  rw [ite_not]
  split <;> rfl

theorem count_minus_spaced (s : List UInt8) : (spaced s).count 0x2D = s.count 0x2D := by
  induction s with
  | nil => rfl
  | cons b s ih =>
    show ((if b < 0x20 then 0x20 else b) :: spaced s).count 0x2D = _
    rw [List.count_cons, List.count_cons, ih]
    congr 1
    split
    · rename_i hcontrol
      have hne : b ≠ 0x2D := by
        rintro rfl
        exact absurd hcontrol (by decide)
      rw [if_neg (by decide), if_neg (by simpa using hne)]
    · rfl

theorem spaced_of_unescaped (h : Unescaped s) : spaced s = s := by
  unfold spaced
  conv_rhs => rw [← List.map_id s]
  apply List.map_congr_left
  intro b hb
  exact if_neg (UInt8.not_lt.mpr (h b hb).1)

/-- A space takes as much as the control character it stands for. -/
theorem stringSize_spaced_eq (s : List UInt8) : stringSize (spaced s) = stringSize s := by
  unfold stringSize spaced
  rw [List.map_map]
  congr 1
  apply List.map_congr_left
  intro b _
  show byteSize (if b < 0x20 then 0x20 else b) = byteSize b
  split
  · rename_i hcontrol
    have hplain : ¬ (b = 0x22 ∨ b = 0x5C) := by
      rintro (rfl | rfl) <;> exact absurd hcontrol (by decide)
    exact (if_neg hplain).symm
  · rfl

/-- The text of the registers is not cut. -/
theorem idPieces_eq {idRegisters : List UInt8} (hne : idRegisters ≠ [])
    (hfits : idRegisters.length < 19) :
    idPieces idRegisters = [ascii ",\"ProcessorId\":\x7b\"IdentificationRegisters\":\"" ++
      idRegisters ++ ascii "\"\x7d"] := by
  unfold idPieces asciiSPrint
  rw [if_neg hne, List.take_of_length_le]
  rw [List.length_append, List.length_append]
  show 43 + idRegisters.length + 2 ≤ 79
  omega

theorem membersSize_idMember {idRegisters : List UInt8} (hne : idRegisters ≠ []) :
    membersSize (idMember idRegisters) = 45 + stringSize (spaced idRegisters) := by
  unfold idMember
  rw [if_neg hne]
  show 11 + 3 + (1 + max 1 (23 + 3 + (2 + stringSize (spaced idRegisters)) + 1 + 0)) + 1 + 0 = _
  omega

theorem shownCount_idPieces {idRegisters : List UInt8} (hne : idRegisters ≠ [])
    (hfits : idRegisters.length < 19) :
    shownCount (idPieces idRegisters).flatten = 45 + shownCount idRegisters := by
  rw [idPieces_eq hne hfits, List.flatten_singleton, shownCount_append, shownCount_append]
  show 43 + shownCount idRegisters + 2 = _
  omega

theorem idPieces_counted {idRegisters : List UInt8} (hfits : idRegisters.length < 19) :
    Counted (idPieces idRegisters) (idMember idRegisters) 0 := by
  by_cases hne : idRegisters = []
  · rw [hne]
    exact ⟨Nat.zero_le _, Nat.zero_le _, fun _ hpiece => absurd hpiece List.not_mem_nil⟩
  have hshown := shownCount_idPieces hne hfits
  constructor
  · rw [hshown, membersSize_idMember hne, stringSize_spaced_eq]
    exact Nat.add_le_add_left (shownCount_le_stringSize idRegisters) 45
  · rw [idPieces_eq hne hfits, List.flatten_singleton, List.count_append, List.count_append]
    unfold idMember
    rw [if_neg hne]
    show 0 + (0 + (spaced idRegisters).count 0x2D + 0) + 0 ≤ _
    rw [count_minus_spaced]
    show _ ≤ 0 + idRegisters.count 0x2D + 0
    omega
  · intro piece hpiece
    rw [idPieces_eq hne hfits] at hshown hpiece
    rw [List.mem_singleton.mp hpiece]
    rw [List.flatten_singleton] at hshown
    omega

/-- **The registers** are spelled where they need no escape. -/
theorem idPieces_spell {idRegisters : List UInt8} (hfits : idRegisters.length < 19)
    (hplain : Unescaped idRegisters) (hutf8 : IsUtf8 idRegisters) :
    Spells (idPieces idRegisters) (idMember idRegisters) := by
  by_cases hne : idRegisters = []
  · rw [hne]
    exact Spells.nil
  rw [idPieces_eq hne hfits]
  unfold idMember
  rw [if_neg hne, spaced_of_unescaped hplain]
  have htext : ascii ",\"ProcessorId\":\x7b\"IdentificationRegisters\":\"" ++ idRegisters ++
      ascii "\"\x7d" =
      ascii ",\"" ++ ascii "ProcessorId" ++ ascii "\":" ++ 0x7B ::
        ([ascii ",\"" ++ ascii "IdentificationRegisters" ++ ascii "\":" ++
          0x22 :: (idRegisters ++ [0x22])].flatten.tail ++ [0x7D]) := by
    simp [ascii]
  rw [htext]
  apply Spells.nested (by decide)
  · exact spells_unescaped (by decide) hplain hutf8
  · rfl

/-- The registers in an object are UTF-8. -/
theorem utf8_of_idMember {idRegisters text : List UInt8} {ms : List Member} (h : IsObject text ms)
    (hmem : ∀ m ∈ idMember idRegisters, m ∈ ms) : IsUtf8 idRegisters := by
  unfold idMember at hmem
  split at hmem
  · rename_i hempty
    rw [hempty]
    exact .nil
  · obtain ⟨valueText, hvalue⟩ := h.member_value (hmem _ List.mem_cons_self)
    have hinner : IsObject valueText
        [(ascii "IdentificationRegisters", .string (spaced idRegisters))] :=
      ⟨_, List.Perm.refl _, hvalue⟩
    exact isUtf8_spaced.mp (hinner.string_utf8 List.mem_cons_self)

/-! ## The body -/

def processorOpened (enabled : Bool) : List Member :=
  [(ascii "@odata.type", .string (ascii "#Processor.v1_16_0.Processor")),
    (ascii "Status", .object [
      (ascii "State", .string (ascii (if enabled then "Enabled" else "Disabled"))),
      (ascii "Health", .string (ascii "OK"))]),
    (ascii "ProcessorArchitecture", .string (ascii "ARM")),
    (ascii "InstructionSet", .string (ascii "ARM-A64"))]

def processorStrings (processor : RpiRedfishProcessor) : List Member :=
  stringMember "ProcessorType" ((processor.processorType.map fun t => ascii t.text).getD []) ++
    stringMember "Socket" processor.socket.bytes ++
    stringMember "Name" processor.socket.bytes ++
    stringMember "Manufacturer" processor.manufacturer.bytes ++
    stringMember "Model" processor.model.bytes ++
    stringMember "SerialNumber" processor.serialNumber.bytes ++
    stringMember "PartNumber" processor.partNumber.bytes

def processorNumbers (processor : RpiRedfishProcessor) : List Member :=
  numberMember "MaxSpeedMHz" processor.maxSpeedMhz.toNat ++
    numberMember "OperatingSpeedMHz" processor.operatingSpeedMhz.toNat ++
    numberMember "TotalCores" processor.totalCores.toNat ++
    numberMember "TotalEnabledCores" processor.totalEnabledCores.toNat ++
    numberMember "TotalThreads" processor.totalThreads.toNat

/-- What the record of a processor is to be sent as. -/
def processorMembers (processor : RpiRedfishProcessor) : List Member :=
  processorOpened processor.enabled ++ processorStrings processor ++
    (processorNumbers processor ++ idMember processor.idRegisters.bytes)

def processorHeader (enabled : Bool) : List UInt8 :=
  asciiSPrint rpiRedfishJsonMax
    (ascii "\x7b\"@odata.type\":\"#Processor.v1_16_0.Processor\"" ++
      ascii ",\"Status\":\x7b\"State\":\"" ++
      ascii (if enabled then "Enabled" else "Disabled") ++
      ascii "\",\"Health\":\"OK\"\x7d" ++
      ascii ",\"ProcessorArchitecture\":\"ARM\"" ++
      ascii ",\"InstructionSet\":\"ARM-A64\"")

def processorStringPieces (processor : RpiRedfishProcessor) : List (List UInt8) :=
  stringPieces "ProcessorType" ((processor.processorType.map fun t => ascii t.text).getD []) ++
    stringPieces "Socket" processor.socket.bytes ++
    stringPieces "Name" processor.socket.bytes ++
    stringPieces "Manufacturer" processor.manufacturer.bytes ++
    stringPieces "Model" processor.model.bytes ++
    stringPieces "SerialNumber" processor.serialNumber.bytes ++
    stringPieces "PartNumber" processor.partNumber.bytes

def processorNumberPieces (processor : RpiRedfishProcessor) : List (List UInt8) :=
  appendNumberPieces "MaxSpeedMHz" processor.maxSpeedMhz.toNat ++
    appendNumberPieces "OperatingSpeedMHz" processor.operatingSpeedMhz.toNat ++
    appendNumberPieces "TotalCores" processor.totalCores.toNat ++
    appendNumberPieces "TotalEnabledCores" processor.totalEnabledCores.toNat ++
    appendNumberPieces "TotalThreads" processor.totalThreads.toNat

theorem rpiRedfishBuildProcessorPost_eq (processor : RpiRedfishProcessor) :
    rpiRedfishBuildProcessorPost processor =
      catAll rpiRedfishJsonMax (processorHeader processor.enabled)
        (processorStringPieces processor ++
          (processorNumberPieces processor ++ idPieces processor.idRegisters.bytes) ++
          [ascii "\x7d"]) := by
  unfold rpiRedfishBuildProcessorPost processorHeader processorStringPieces processorNumberPieces
  simp only [appendJsonString_eq, appendJsonNumber_eq, catAll_append, Option.getD_some,
    catAll_idPieces, asciiStrCatS_eq _ _ (ascii "\x7d")]

theorem processorHeader_opens (enabled : Bool) :
    Opens (processorHeader enabled) (processorOpened enabled) := by
  have hstate : Plain (ascii (if enabled then "Enabled" else "Disabled")) := by
    cases enabled <;> decide
  apply Spells.opens
  · apply Spells.cons
    · exact spells_literal (by decide) (by decide)
    apply Spells.cons
    · apply Spells.nested (by decide)
      · exact (spells_literal (by decide) hstate).cons (spells_literal (by decide) (by decide))
      · rfl
    exact (spells_literal (by decide) (by decide)).cons (spells_literal (by decide) (by decide))
  · cases enabled <;> decide +kernel
  · cases enabled <;> decide +kernel

theorem processorType_lt (processor : RpiRedfishProcessor) :
    ((processor.processorType.map fun t => ascii t.text).getD []).length < rpiRedfishStrMax := by
  rcases processor.processorType with _ | (_ | _) <;> decide

theorem processorType_plain (processor : RpiRedfishProcessor) :
    Plain ((processor.processorType.map fun t => ascii t.text).getD []) := by
  rcases processor.processorType with _ | (_ | _) <;> decide

/-- The strings that are sent are UTF-8. -/
structure ProcessorUtf8 (processor : RpiRedfishProcessor) : Prop where
  socket : IsUtf8 processor.socket.bytes
  manufacturer : IsUtf8 processor.manufacturer.bytes
  model : IsUtf8 processor.model.bytes
  serialNumber : IsUtf8 processor.serialNumber.bytes
  partNumber : IsUtf8 processor.partNumber.bytes
  idRegisters : IsUtf8 processor.idRegisters.bytes

variable {processor : RpiRedfishProcessor}

theorem processorStringPieces_spell (h : ProcessorUtf8 processor) :
    Spells (processorStringPieces processor) (processorStrings processor) := by
  unfold processorStringPieces processorStrings
  refine Spells.append (Spells.append (Spells.append (Spells.append (Spells.append
    (Spells.append ?_ ?_) ?_) ?_) ?_) ?_) ?_
  · exact spells_string (by decide) (processorType_lt processor)
      (processorType_plain processor).utf8
  · exact spells_string (by decide) processor.socket.fits h.socket
  · exact spells_string (by decide) processor.socket.fits h.socket
  · exact spells_string (by decide) processor.manufacturer.fits h.manufacturer
  · exact spells_string (by decide) processor.model.fits h.model
  · exact spells_string (by decide) processor.serialNumber.fits h.serialNumber
  · exact spells_string (by decide) processor.partNumber.fits h.partNumber

theorem processorUtf8_of_isObject {text : List UInt8}
    (h : IsObject text (processorMembers processor)) : ProcessorUtf8 processor := by
  have hstring : ∀ name value, (∀ m ∈ stringMember name value, m ∈ processorStrings processor) →
      IsUtf8 value := fun _ _ hsub => utf8_of_stringMember h fun m hm =>
    List.mem_append_left _ (List.mem_append_right _ (hsub m hm))
  unfold processorStrings at hstring
  simp only [List.mem_append] at hstring
  exact ⟨hstring "Socket" _ (by tauto), hstring "Manufacturer" _ (by tauto),
    hstring "Model" _ (by tauto), hstring "SerialNumber" _ (by tauto),
    hstring "PartNumber" _ (by tauto), utf8_of_idMember h fun m hm =>
      List.mem_append_right _ (List.mem_append_right _ hm)⟩

/-- The numbers that are printed with their sign are below it. -/
structure ProcessorPrintable (processor : RpiRedfishProcessor) : Prop where
  maxSpeedMhz : processor.maxSpeedMhz.toNat < 2 ^ 31
  operatingSpeedMhz : processor.operatingSpeedMhz.toNat < 2 ^ 31
  totalCores : processor.totalCores.toNat < 2 ^ 31
  totalEnabledCores : processor.totalEnabledCores.toNat < 2 ^ 31
  totalThreads : processor.totalThreads.toNat < 2 ^ 31

theorem processorNumberPieces_spell (processor : RpiRedfishProcessor) :
    SpellsWhen (ProcessorPrintable processor) (processorNumberPieces processor)
      (processorNumbers processor) 5 := by
  have hcalls : SpellsWhen
      ((((processor.maxSpeedMhz.toNat < 2 ^ 31 ∧ processor.operatingSpeedMhz.toNat < 2 ^ 31) ∧
        processor.totalCores.toNat < 2 ^ 31) ∧ processor.totalEnabledCores.toNat < 2 ^ 31) ∧
        processor.totalThreads.toNat < 2 ^ 31)
      (processorNumberPieces processor) (processorNumbers processor) (1 + 1 + 1 + 1 + 1) := by
    unfold processorNumberPieces processorNumbers
    refine SpellsWhen.append (SpellsWhen.append (SpellsWhen.append (SpellsWhen.append ?_ ?_) ?_)
      ?_) ?_
    · exact spellsWhen_appendNumber (by decide) processor.maxSpeedMhz.toNat_lt rfl (by decide)
    · exact spellsWhen_appendNumber (by decide) processor.operatingSpeedMhz.toNat_lt rfl (by decide)
    · exact spellsWhen_appendNumber (by decide) processor.totalCores.toNat_lt rfl (by decide)
    · exact spellsWhen_appendNumber (by decide) processor.totalEnabledCores.toNat_lt rfl (by decide)
    · exact spellsWhen_appendNumber (by decide) processor.totalThreads.toNat_lt rfl (by decide)
  apply hcalls.congr
  constructor
  · rintro ⟨⟨⟨⟨hmax, hspeed⟩, hcores⟩, henabled⟩, hthreads⟩
    exact ⟨hmax, hspeed, hcores, henabled, hthreads⟩
  · rintro ⟨hmax, hspeed, hcores, henabled, hthreads⟩
    exact ⟨⟨⟨⟨hmax, hspeed⟩, hcores⟩, henabled⟩, hthreads⟩

theorem membersSize_processorOpened (enabled : Bool) :
    membersSize (processorOpened enabled) = if enabled then 145 else 146 := by
  cases enabled <;> decide +kernel

theorem membersSize_processorStrings_le (processor : RpiRedfishProcessor) :
    membersSize (processorStrings processor) ≤ 863 := by
  have htype : membersSize (stringMember "ProcessorType"
      ((processor.processorType.map fun t => ascii t.text).getD [])) ≤ 22 := by
    rcases processor.processorType with _ | (_ | _) <;> decide
  have hsocket : membersSize (stringMember "Socket" processor.socket.bytes) ≤ 138 :=
    membersSize_stringMember_le (by decide) processor.socket.fits
  have hname : membersSize (stringMember "Name" processor.socket.bytes) ≤ 136 :=
    membersSize_stringMember_le (by decide) processor.socket.fits
  have hmanufacturer : membersSize (stringMember "Manufacturer" processor.manufacturer.bytes) ≤
      144 := membersSize_stringMember_le (by decide) processor.manufacturer.fits
  have hmodel : membersSize (stringMember "Model" processor.model.bytes) ≤ 137 :=
    membersSize_stringMember_le (by decide) processor.model.fits
  have hserial : membersSize (stringMember "SerialNumber" processor.serialNumber.bytes) ≤ 144 :=
    membersSize_stringMember_le (by decide) processor.serialNumber.fits
  have hpart : membersSize (stringMember "PartNumber" processor.partNumber.bytes) ≤ 142 :=
    membersSize_stringMember_le (by decide) processor.partNumber.fits
  unfold processorStrings
  simp only [membersSize_append]
  omega

/-! ### The room it takes -/

def idRoom (idRegisters : List UInt8) : Nat :=
  if idRegisters = [] then 0 else 45 + idRegisters.length

/-- The length of the text a processor's record makes, each quote and each backslash of a string
with the backslash in front of it. -/
def processorRoom (processor : RpiRedfishProcessor) : Nat :=
  (if processor.enabled then 145 else 146) +
    (stringRoom "ProcessorType" ((processor.processorType.map fun t => ascii t.text).getD []) +
      stringRoom "Socket" processor.socket.bytes +
      stringRoom "Name" processor.socket.bytes +
      stringRoom "Manufacturer" processor.manufacturer.bytes +
      stringRoom "Model" processor.model.bytes +
      stringRoom "SerialNumber" processor.serialNumber.bytes +
      stringRoom "PartNumber" processor.partNumber.bytes) +
    (numberRoom "MaxSpeedMHz" processor.maxSpeedMhz.toNat +
      numberRoom "OperatingSpeedMHz" processor.operatingSpeedMhz.toNat +
      numberRoom "TotalCores" processor.totalCores.toNat +
      numberRoom "TotalEnabledCores" processor.totalEnabledCores.toNat +
      numberRoom "TotalThreads" processor.totalThreads.toNat) +
    idRoom processor.idRegisters.bytes + 1

/-- When the body is what it is to be. -/
structure ProcessorSendable (processor : RpiRedfishProcessor) : Prop where
  utf8 : ProcessorUtf8 processor
  printable : ProcessorPrintable processor
  plainId : Unescaped processor.idRegisters.bytes
  room : processorRoom processor < rpiRedfishJsonMax

theorem membersSize_idMember_of_plain {idRegisters : List UInt8} (h : Unescaped idRegisters) :
    membersSize (idMember idRegisters) = idRoom idRegisters := by
  by_cases hne : idRegisters = []
  · rw [hne]
    rfl
  · unfold idRoom
    rw [membersSize_idMember hne, spaced_of_unescaped h, h.stringSize, if_neg hne]

theorem membersSize_processorMembers (h : Unescaped processor.idRegisters.bytes) :
    1 + membersSize (processorMembers processor) = processorRoom processor := by
  unfold processorMembers processorStrings processorNumbers processorRoom
  simp only [membersSize_append, membersSize_processorOpened, membersSize_idMember_of_plain h]
  rw [membersSize_stringMember (by decide), membersSize_stringMember (by decide),
    membersSize_stringMember (by decide), membersSize_stringMember (by decide),
    membersSize_stringMember (by decide), membersSize_stringMember (by decide),
    membersSize_stringMember (by decide), membersSize_numberMember (by decide),
    membersSize_numberMember (by decide), membersSize_numberMember (by decide),
    membersSize_numberMember (by decide), membersSize_numberMember (by decide)]
  omega

/-- **A processor's body** is the object of its record exactly where the strings are UTF-8, the
numbers print, the registers need no escape and the text fits. -/
theorem rpiRedfishBuildProcessorPost_iff (processor : RpiRedfishProcessor) :
    IsObject (rpiRedfishBuildProcessorPost processor) (processorMembers processor) ↔
      ProcessorSendable processor := by
  have hopen := processorHeader_opens processor.enabled
  have hnumbers := processorNumberPieces_spell processor
  have hfits : membersSize (processorOpened processor.enabled) +
      membersSize (processorStrings processor) < rpiRedfishJsonMax := by
    have hsaid := membersSize_processorStrings_le processor
    rw [membersSize_processorOpened]
    show _ < 1024
    split <;> omega
  rw [rpiRedfishBuildProcessorPost_eq]
  constructor
  · intro hobject
    have hutf8 := processorUtf8_of_isObject hobject
    have hstrings := processorStringPieces_spell hutf8
    have hid := idPieces_counted processor.idRegisters.fits
    obtain ⟨hroom, hshown, hminus⟩ := hopen.body_counts hstrings (hnumbers.toCounted.append hid)
      (by decide) hfits hobject
    rw [List.flatten_append, List.count_append, membersMinusSigns_append] at hminus
    have hprintable : ProcessorPrintable processor := by
      by_contra hnot
      have hexcess := hnumbers.excess hnot
      have hidMinus := hid.minus
      omega
    have hplain : Unescaped processor.idRegisters.bytes := by
      by_cases hne : processor.idRegisters.bytes = []
      · rw [hne]
        decide
      apply unescaped_of_stringSize_le
      have hnumber : shownCount (processorNumberPieces processor).flatten ≤
          membersSize (processorNumbers processor) := by
        rw [← (hnumbers.spells hprintable).length]
        exact shownCount_le_length _
      rw [List.flatten_append, shownCount_append, membersSize_append,
        shownCount_idPieces hne processor.idRegisters.fits, membersSize_idMember hne,
        stringSize_spaced_eq] at hshown
      omega
    refine ⟨hutf8, hprintable, hplain, ?_⟩
    rw [← membersSize_processorMembers hplain]
    exact hroom
  · rintro ⟨hutf8, hprintable, hplain, hroom⟩
    have hstrings := processorStringPieces_spell hutf8
    have hlate := (hnumbers.spells hprintable).append
      (idPieces_spell processor.idRegisters.fits hplain hutf8.idRegisters)
    unfold processorMembers
    rw [List.append_assoc (processorOpened processor.enabled)]
    apply hopen.body_spells (hstrings.append hlate)
    rw [← membersSize_processorMembers hplain] at hroom
    unfold processorMembers at hroom
    rwa [List.append_assoc (processorOpened processor.enabled)] at hroom

/-! ## The four builders -/

/-- **The inventory bodies** are the objects of their records exactly under their conditions. -/
theorem inventoryBodies_iff (inventory : RpiRedfishHostInventory) (memory : RpiRedfishMemoryModule)
    (processor : RpiRedfishProcessor) (drive : RpiRedfishDrive) :
    (IsObject (rpiRedfishBuildSystemPatch inventory) (systemMembers inventory) ↔
        SystemUtf8 inventory) ∧
      (IsObject (rpiRedfishBuildMemoryPost memory) (memoryMembers memory) ↔
        MemoryUtf8 memory ∧ MemoryPrintable memory) ∧
      (IsObject (rpiRedfishBuildProcessorPost processor) (processorMembers processor) ↔
        ProcessorSendable processor) ∧
      (IsObject (rpiRedfishBuildDrivePost drive) (driveMembers drive) ↔
        DriveUtf8 drive ∧ drive.capacityBytes.toNat < 2 ^ 63) := by
  refine ⟨?_, ?_, ?_, ?_⟩
  · exact rpiRedfishBuildSystemPatch_iff inventory
  · exact rpiRedfishBuildMemoryPost_iff memory
  · exact rpiRedfishBuildProcessorPost_iff processor
  · exact rpiRedfishBuildDrivePost_iff drive

/-- 63 quotes, the longest string of a record. -/
def quotes : InventoryString rpiRedfishStrMax := ⟨List.replicate 63 0x22, by decide, by decide⟩

/-- A processor all of whose strings are quotes, with the speeds and cores of the board's. -/
def quotedProcessor : RpiRedfishProcessor where
  socket := quotes
  manufacturer := quotes
  model := quotes
  serialNumber := quotes
  partNumber := quotes
  idRegisters := ⟨ascii "0x00000000414FD0B1", by decide, by decide⟩
  processorType := some .cpu
  maxSpeedMhz := 2400
  operatingSpeedMhz := 2400
  totalCores := 4
  totalEnabledCores := 4
  totalThreads := 4
  enabled := true

/-- Its text takes 1170 bytes: the body has lost members and the closing brace. -/
theorem rpiRedfishBuildProcessorPost_quotes :
    ¬ IsObject (rpiRedfishBuildProcessorPost quotedProcessor) (processorMembers quotedProcessor) ∧
      (rpiRedfishBuildProcessorPost quotedProcessor).getLast? ≠ some 0x7D := by
  constructor
  · intro hobject
    have hroom := ((rpiRedfishBuildProcessorPost_iff quotedProcessor).mp hobject).room
    have hlength : ¬ processorRoom quotedProcessor < rpiRedfishJsonMax := by decide +kernel
    exact hlength hroom
  · decide +kernel

end Rpi5Uefi
