import Rpi5Uefi.Fan.Loop
import Rpi5Uefi.Redfish.Firmware
import Rpi5Uefi.Redfish.FanOverride
import Rpi5Uefi.Lib.JsonNumbers

/-!
# The thermal report (`ReportThermal`)

The sync asks the cooler for the temperature and the state of the fan and sends both as one object.
The temperature, thousandths of a degree in 32 signed bits, is written as a number with three
decimals, in a buffer of 64 bytes.

* **`temperatureNumber_eq`**: the number is the fixed-point numeral of the temperature.
* **`thermalBody_iff`**: when the body is the object it is meant to be.
* **`thermalBody_reachable`**: what the cooler can report always is.
-/

namespace Rpi5Uefi

open Bytes Json

/-! ## What the cooler tells -/

/-- `RPI_FAN_INFO`. -/
structure RpiFanInfo where
  temperatureMilliCelsius : Int32
  temperatureValid : Bool
  level : UInt8
  maxLevel : UInt8
  duty255 : UInt32
  overrideActive : Bool

/-- What `FanGetInfo` fills in before it looks for RP1; a reading that is not valid is 0. -/
def fanTemperatureInfo (fan : Fan) (status : UInt32) : RpiFanInfo where
  temperatureMilliCelsius := Int32.ofInt ((avsReadMilliCelsius status).getD 0)
  temperatureValid := (avsReadMilliCelsius status).isSome
  level := 0
  maxLevel := UInt8.ofNat fanLevelMax
  duty255 := 0
  overrideActive := fan.mOverride ≥ 0

/-- `FanGetInfo`, with the status register of the AVS monitor. -/
def fanGetInfo (fan : Fan) (status : UInt32) : EfiStatus × RpiFanInfo :=
  let info := fanTemperatureInfo fan status
  if fan.mRp1Base = 0 then (.notReady, info)
  else
    let level := if fan.mLevel < 0 then 0 else fan.mLevel.toNat
    (.success, { info with
      level := UInt8.ofNat level
      duty255 := UInt32.ofNat (mFanLevels.getD level ⟨0, 0⟩).duty255 })

/-! ## The body -/

/-- `%0<width>d` of a number that is not negative. -/
def printPadded (width n : Nat) : List UInt8 :=
  List.replicate (width - (printDecimal n).length) 0x30 ++ printDecimal n

/-- The sign a whole part of 0 cannot have, the whole part, the point and the decimals. -/
def temperatureNumber (temperature : Int32) : List UInt8 :=
  let whole := temperature / 1000
  let milli := temperature % 1000
  let milli := if milli < 0 then -milli else milli
  (if temperature < 0 ∧ whole = 0 then ascii "-" else []) ++
    printSigned 32 whole.toUInt32.toNat ++ ascii "." ++ printPadded 3 milli.toUInt32.toNat

/-- `TempField`, a buffer of 64. -/
def temperatureField (info : RpiFanInfo) : List UInt8 :=
  if info.temperatureValid then
    asciiSPrint 64 (ascii "\"Temperatures\":[\x7b\"MemberId\":\"SoC\",\"ReadingCelsius\":" ++
      temperatureNumber info.temperatureMilliCelsius ++ ascii "\x7d],")
  else []

/-- `Percent`. -/
def thermalPercent (info : RpiFanInfo) : UInt32 := info.duty255 * 100 / 255

/-- The members behind the temperature, with the braces that close the object. -/
def fansText (info : RpiFanInfo) : List UInt8 :=
  ascii "\"Fans\":[\x7b\"MemberId\":\"ActiveCooler\",\"Reading\":" ++
    printSigned 32 (thermalPercent info).toNat ++
    ascii ",\"ReadingUnits\":\"Percent\",\"Oem\":\x7b\"PiBmc\":\x7b\"Level\":" ++
    printSigned 32 info.level.toNat ++ ascii ",\"MaxLevel\":" ++
    printSigned 32 info.maxLevel.toNat ++ ascii ",\"OverrideActive\":" ++
    ascii (if info.overrideActive then "true" else "false") ++ ascii "\x7d\x7d\x7d]\x7d"

/-- `Body`. -/
def thermalBody (info : RpiFanInfo) : List UInt8 :=
  asciiSPrint rpiRedfishJsonMax (ascii "\x7b" ++ temperatureField info ++ fansText info)

/-- `ReportThermal`, as far as the PATCH: its body, or the status that is returned without one. -/
def reportThermal (locate : EfiStatus) (getInfo : EfiStatus × RpiFanInfo) :
    Except EfiStatus (List UInt8) :=
  if locate.isError then .error .notFound
  else if getInfo.1.isError ∧ getInfo.1 ≠ .notReady then .error getInfo.1
  else .ok (thermalBody getInfo.2)

/-! ## The object -/

/-- A temperature with its three decimals. -/
def readingNumeral (milliC : Int) : Numeral :=
  .fixed (milliC < 0) (milliC.natAbs / 1000) 3 (milliC.natAbs % 1000)

/-- The entry of `Temperatures`. -/
def temperatureMembers (milliC : Int) : List Member :=
  [(ascii "MemberId", .string (ascii "SoC")),
    (ascii "ReadingCelsius", .number (readingNumeral milliC))]

/-- `Oem.PiBmc` of the fan. -/
def coolerMembers (level maxLevel : Nat) (overrideActive : Bool) : List Member :=
  [(ascii "Level", .number (.ofNat level)), (ascii "MaxLevel", .number (.ofNat maxLevel)),
    (ascii "OverrideActive", .bool overrideActive)]

/-- The entry of `Fans`. -/
def fanMembers (percent level maxLevel : Nat) (overrideActive : Bool) : List Member :=
  [(ascii "MemberId", .string (ascii "ActiveCooler")),
    (ascii "Reading", .number (.ofNat percent)),
    (ascii "ReadingUnits", .string (ascii "Percent")),
    (ascii "Oem", .object
      [(ascii "PiBmc", .object (coolerMembers level maxLevel overrideActive))])]

/-- A valid temperature, and the fan. -/
def thermalMembers (reading : Option Int) (percent level maxLevel : Nat) (overrideActive : Bool) :
    List Member :=
  (match reading with
    | some milliC => [(ascii "Temperatures", .array [.object (temperatureMembers milliC)])]
    | none => []) ++
    [(ascii "Fans", .array [.object (fanMembers percent level maxLevel overrideActive)])]

/-- The reading of an answer. -/
def RpiFanInfo.reading (info : RpiFanInfo) : Option Int :=
  if info.temperatureValid then some info.temperatureMilliCelsius.toInt else none

/-- What an answer is to be sent as. -/
def RpiFanInfo.members (info : RpiFanInfo) : List Member :=
  thermalMembers info.reading (thermalPercent info).toNat info.level.toNat info.maxLevel.toNat
    info.overrideActive

/-! ## The number -/

theorem toNat_toUInt32_of_nonneg {x : Int32} (h : 0 ≤ x.toInt) :
    x.toUInt32.toNat = x.toInt.natAbs := by
  have hcond : x.toInt = _ := BitVec.toInt_eq_toNat_cond x.toBitVec
  have hlt := x.toBitVec.isLt
  show x.toBitVec.toNat = _
  split at hcond <;> omega

theorem toNat_toUInt32_of_neg {x : Int32} (h : x.toInt < 0) :
    x.toUInt32.toNat = 2 ^ 32 - x.toInt.natAbs := by
  have hcond : x.toInt = _ := BitVec.toInt_eq_toNat_cond x.toBitVec
  have hlt := x.toBitVec.isLt
  show x.toBitVec.toNat = _
  split at hcond <;> omega

/-- Zeros in front fill the places. -/
theorem printPadded_eq {width n : Nat} (hwidth : width ≠ 0) (h : n < 10 ^ width) :
    printPadded width n = digitText (paddedDigits width n) := by
  have hzero (k : Nat) : List.replicate k (0x30 : UInt8) = digitText (List.replicate k 0) := by
    unfold digitText
    rw [List.map_replicate]
    rfl
  unfold printPadded paddedDigits Nat.digitsAppend
  rw [List.reverse_append, List.reverse_replicate, hzero]
  unfold digitText
  rw [List.map_append]
  rcases eq_or_ne n 0 with rfl | hne
  · obtain ⟨width, rfl⟩ := Nat.exists_eq_succ_of_ne_zero hwidth
    rw [Nat.digits_zero, List.length_nil, Nat.sub_zero, List.reverse_nil, List.map_nil,
      List.append_nil, List.replicate_succ', List.map_append]
    rfl
  · rw [length_printDecimal hne]
    unfold printDecimal
    rw [if_neg hne]

theorem toInt_thousand : (1000 : Int32).toInt = 1000 := by decide

/-- The decimals, without their sign. -/
theorem milli_eq (temperature : Int32) :
    (if temperature % 1000 < 0 then -(temperature % 1000) else temperature % 1000).toUInt32.toNat =
      temperature.toInt.natAbs % 1000 := by
  have hmilli : (temperature % 1000).toInt = temperature.toInt.tmod 1000 := by
    rw [Int32.toInt_mod, toInt_thousand]
  have habs : (temperature % 1000).toInt.natAbs = temperature.toInt.natAbs % 1000 := by
    rw [hmilli, Int.natAbs_tmod]
    rfl
  have hlt : temperature.toInt.natAbs % 1000 < 1000 := Nat.mod_lt _ (by decide)
  split
  · rename_i hneg
    have hsign : (temperature % 1000).toInt < 0 := Int32.lt_iff_toInt_lt.mp hneg
    have hopposite : (-(temperature % 1000)).toInt = -(temperature % 1000).toInt := by
      rw [Int32.toInt_neg]
      apply Int.bmod_eq_of_le <;> omega
    rw [toNat_toUInt32_of_nonneg (by omega), hopposite, Int.natAbs_neg, habs]
  · rename_i hpos
    have hsign : ¬ (temperature % 1000).toInt < 0 := fun h => hpos (Int32.lt_iff_toInt_lt.mpr h)
    rw [toNat_toUInt32_of_nonneg (by omega), habs]

/-- The whole part, and the sign in front of a whole part of 0. -/
theorem whole_eq (temperature : Int32) :
    (if temperature < 0 ∧ temperature / 1000 = 0 then ascii "-" else []) ++
        printSigned 32 (temperature / 1000).toUInt32.toNat =
      signText (temperature.toInt < 0) ++ printDecimal (temperature.toInt.natAbs / 1000) := by
  have hwhole : (temperature / 1000).toInt = temperature.toInt.tdiv 1000 := by
    rw [Int32.toInt_div_of_ne_right _ _ (by decide), toInt_thousand]
  have habs : (temperature / 1000).toInt.natAbs = temperature.toInt.natAbs / 1000 := by
    rw [hwhole, Int.natAbs_tdiv]
    rfl
  have hneg : temperature < 0 ↔ temperature.toInt < 0 := Int32.lt_iff_toInt_lt
  have hzero : temperature / 1000 = 0 ↔ (temperature / 1000).toInt = 0 := by
    rw [← Int32.toInt_inj]
    rfl
  have hlow := temperature.le_toInt
  have hhigh := temperature.toInt_lt
  by_cases hsign : temperature.toInt < 0
  · have hnonpos : (temperature / 1000).toInt ≤ 0 := by
      rw [hwhole]
      rw [← neg_neg temperature.toInt, Int.neg_tdiv]
      exact neg_nonpos.mpr (Int.tdiv_nonneg (by omega) (by decide))
    have hsignText : signText (temperature.toInt < 0) = [0x2D] := by simp [signText, hsign]
    rw [hsignText]
    by_cases hnone : (temperature / 1000).toInt = 0
    · -- the sign is printed in front of the 0
      rw [if_pos ⟨hneg.mpr hsign, hzero.mpr hnone⟩, toNat_toUInt32_of_nonneg (by omega), habs]
      unfold printSigned
      rw [if_pos (by omega)]
      rfl
    · rw [if_neg fun h => hnone (hzero.mp h.2), toNat_toUInt32_of_neg (by omega), habs]
      unfold printSigned
      rw [if_neg (by omega), Nat.sub_sub_self (by omega)]
      rfl
  · have hnonneg : 0 ≤ (temperature / 1000).toInt := by
      rw [hwhole]
      exact Int.tdiv_nonneg (by omega) (by decide)
    have hsignText : signText (temperature.toInt < 0) = [] := by simp [signText, hsign]
    rw [hsignText, if_neg fun h => hsign (hneg.mp h.1), toNat_toUInt32_of_nonneg hnonneg, habs]
    unfold printSigned
    rw [if_pos (by omega)]

/-- **The number is the numeral of the temperature**, for every 32 bits. -/
theorem temperatureNumber_eq (temperature : Int32) :
    temperatureNumber temperature =
      fixedText (temperature.toInt < 0) (temperature.toInt.natAbs / 1000) 3
        (temperature.toInt.natAbs % 1000) := by
  have hpart : temperature.toInt.natAbs % 1000 < 10 ^ 3 := Nat.mod_lt _ (by decide)
  unfold temperatureNumber
  simp only
  rw [milli_eq, whole_eq, printPadded_eq (by decide) hpart, List.append_assoc]
  rfl

/-! ## The text -/

/-- An array of one object. -/
def arrayText (pieces : List (List UInt8)) : List UInt8 := 0x5B :: (objectText pieces ++ [0x5D])

theorem spells_memberText_array {name : String} {pieces : List (List UInt8)}
    {members : List Member} {m : Member} (hname : Plain (ascii name))
    (h : Spells pieces (m :: members)) (hpieces : pieces.flatten = 0x2C :: pieces.flatten.tail) :
    Spells [memberText name (arrayText pieces)]
      [(ascii name, .array [.object (m :: members)])] := by
  obtain ⟨htrailing, hlength, hminus⟩ := h
  unfold arrayText objectText
  generalize pieces.flatten.tail = text at hpieces
  rw [hpieces] at htrailing hlength hminus
  apply Spells.member hname (List.flatten_singleton ..)
  · cases htrailing with
    | cons hfirst hmembers =>
      exact .array (.element (.object (Derives.members_of_trailing hfirst hmembers)))
  · show _ = 1 + max 1 (1 + max 1 (membersSize (m :: members)) + 1 + 0)
    rw [← hlength]
    simp only [List.length_cons, List.length_append, List.length_nil]
    omega
  · show _ = membersMinusSigns (m :: members) + 0
    rw [← hminus]
    simp only [List.count_cons, List.count_append, List.count_nil]
    simp

theorem spells_reading (milliC : Int) :
    Spells [memberText "ReadingCelsius"
        (fixedText (milliC < 0) (milliC.natAbs / 1000) 3 (milliC.natAbs % 1000))]
      [(ascii "ReadingCelsius", .number (readingNumeral milliC))] := by
  have hpart : milliC.natAbs % 1000 < 10 ^ 3 := Nat.mod_lt _ (by decide)
  apply Spells.member (by decide) (List.flatten_singleton ..)
  · exact Numeral.text_fixed (by decide) hpart
  · exact length_fixedText (by decide) hpart
  · exact count_minus_fixedText _ _ _ _

def temperaturePieces (milliC : Int) : List (List UInt8) :=
  [memberText "MemberId" (quotedText (ascii "SoC")),
    memberText "ReadingCelsius"
      (fixedText (milliC < 0) (milliC.natAbs / 1000) 3 (milliC.natAbs % 1000))]

def coolerPieces (level maxLevel : Nat) (overrideActive : Bool) : List (List UInt8) :=
  [memberText "Level" (printDecimal level), memberText "MaxLevel" (printDecimal maxLevel),
    memberText "OverrideActive" (ascii (if overrideActive then "true" else "false"))]

def fanPieces (percent level maxLevel : Nat) (overrideActive : Bool) : List (List UInt8) :=
  [memberText "MemberId" (quotedText (ascii "ActiveCooler")),
    memberText "Reading" (printDecimal percent),
    memberText "ReadingUnits" (quotedText (ascii "Percent")),
    memberText "Oem"
      (objectText [memberText "PiBmc" (objectText (coolerPieces level maxLevel overrideActive))])]

/-- The members of `thermalMembers` as they are to be written. -/
def thermalPieces (reading : Option Int) (percent level maxLevel : Nat) (overrideActive : Bool) :
    List (List UInt8) :=
  (match reading with
    | some milliC => [memberText "Temperatures" (arrayText (temperaturePieces milliC))]
    | none => []) ++
    [memberText "Fans" (arrayText (fanPieces percent level maxLevel overrideActive))]

theorem temperaturePieces_spell (milliC : Int) :
    Spells (temperaturePieces milliC) (temperatureMembers milliC) := by
  apply Spells.piece (spells_memberText_string (by decide) (by decide))
  exact spells_reading milliC

theorem coolerPieces_spell (level maxLevel : Nat) (overrideActive : Bool) :
    Spells (coolerPieces level maxLevel overrideActive)
      (coolerMembers level maxLevel overrideActive) := by
  apply Spells.piece (spells_memberText_decimal (by decide) level)
  apply Spells.piece (spells_memberText_decimal (by decide) maxLevel)
  exact spells_memberText_bool (by decide) overrideActive

theorem fanPieces_spell (percent level maxLevel : Nat) (overrideActive : Bool) :
    Spells (fanPieces percent level maxLevel overrideActive)
      (fanMembers percent level maxLevel overrideActive) := by
  apply Spells.piece (spells_memberText_string (by decide) (by decide))
  apply Spells.piece (spells_memberText_decimal (by decide) percent)
  apply Spells.piece (spells_memberText_string (by decide) (by decide))
  apply Spells.object (by decide)
  · exact Spells.object (by decide) (coolerPieces_spell level maxLevel overrideActive) rfl
  · rfl

theorem thermalPieces_spell (reading : Option Int) (percent level maxLevel : Nat)
    (overrideActive : Bool) :
    Spells (thermalPieces reading percent level maxLevel overrideActive)
      (thermalMembers reading percent level maxLevel overrideActive) := by
  have hfans : Spells
      [memberText "Fans" (arrayText (fanPieces percent level maxLevel overrideActive))]
      [(ascii "Fans", .array [.object (fanMembers percent level maxLevel overrideActive)])] :=
    spells_memberText_array (by decide) (fanPieces_spell percent level maxLevel overrideActive) rfl
  unfold thermalPieces thermalMembers
  cases reading with
  | none => exact hfans
  | some milliC =>
    apply Spells.piece _ hfans
    exact spells_memberText_array (by decide) (temperaturePieces_spell milliC) rfl

/-- What an answer is to be written as. -/
def RpiFanInfo.pieces (info : RpiFanInfo) : List (List UInt8) :=
  thermalPieces info.reading (thermalPercent info).toNat info.level.toNat info.maxLevel.toNat
    info.overrideActive

/-- The text of an object, from its last member. -/
theorem objectText_last {piece text : List UInt8} (h : piece ++ [0x7D] = 0x2C :: text) :
    objectText [piece] = 0x7B :: text := by
  cases piece with
  | nil => cases h
  | cons b piece =>
    obtain ⟨-, rfl⟩ := List.cons.inj h
    unfold objectText
    rw [List.flatten_singleton, List.tail_cons]
    rfl

/-- Another member in front. -/
theorem objectText_front {piece text last rest : List UInt8} (h : piece ++ [0x2C] = 0x2C :: text)
    (hlast : last ++ [0x7D] = 0x2C :: rest) :
    objectText [piece, last] = 0x7B :: (text ++ rest) := by
  cases last with
  | nil => cases hlast
  | cons b last =>
    obtain ⟨rfl, rfl⟩ := List.cons.inj hlast
    have hflatten : [piece, 0x2C :: last].flatten = 0x2C :: (text ++ last) := by
      rw [List.flatten_cons, List.flatten_singleton, List.append_cons, h, List.cons_append]
    unfold objectText
    rw [hflatten, List.tail_cons, List.append_assoc]
    rfl

theorem temperatureText_eq (number : List UInt8) :
    memberText "Temperatures" (arrayText [memberText "MemberId" (quotedText (ascii "SoC")),
      memberText "ReadingCelsius" number]) ++ [0x2C] =
      0x2C :: (ascii "\"Temperatures\":[\x7b\"MemberId\":\"SoC\",\"ReadingCelsius\":" ++ number ++
        ascii "\x7d],") := by
  unfold arrayText objectText memberText quotedText
  simp [ascii]

theorem fansText_eq (percent level maxLevel active : List UInt8) :
    memberText "Fans" (arrayText [memberText "MemberId" (quotedText (ascii "ActiveCooler")),
      memberText "Reading" percent, memberText "ReadingUnits" (quotedText (ascii "Percent")),
      memberText "Oem" (objectText [memberText "PiBmc" (objectText [memberText "Level" level,
        memberText "MaxLevel" maxLevel, memberText "OverrideActive" active])])]) ++ [0x7D] =
      0x2C :: (ascii "\"Fans\":[\x7b\"MemberId\":\"ActiveCooler\",\"Reading\":" ++ percent ++
        ascii ",\"ReadingUnits\":\"Percent\",\"Oem\":\x7b\"PiBmc\":\x7b\"Level\":" ++ level ++
        ascii ",\"MaxLevel\":" ++ maxLevel ++ ascii ",\"OverrideActive\":" ++ active ++
        ascii "\x7d\x7d\x7d]\x7d") := by
  unfold arrayText objectText memberText quotedText
  simp [ascii]

/-- `TempField`, if nothing is cut. -/
def temperatureText (info : RpiFanInfo) : List UInt8 :=
  if info.temperatureValid then
    ascii "\"Temperatures\":[\x7b\"MemberId\":\"SoC\",\"ReadingCelsius\":" ++
      temperatureNumber info.temperatureMilliCelsius ++ ascii "\x7d],"
  else []

theorem printSigned_small {value : Nat} (h : value < 2 ^ 31) :
    printSigned 32 value = printDecimal value := if_pos h

theorem thermalPercent_lt (info : RpiFanInfo) : (thermalPercent info).toNat < 2 ^ 31 := by
  have hlt := (info.duty255 * 100).toNat_lt
  show (info.duty255 * 100).toNat / 255 < 2 ^ 31
  omega

/-- The body, if nothing is cut. -/
theorem thermalText_eq (info : RpiFanInfo) :
    ascii "\x7b" ++ temperatureText info ++ fansText info = objectText info.pieces := by
  have hfans := fansText_eq (printDecimal (thermalPercent info).toNat)
    (printDecimal info.level.toNat) (printDecimal info.maxLevel.toNat)
    (ascii (if info.overrideActive then "true" else "false"))
  have hlevel := info.level.toNat_lt
  have hmaxLevel := info.maxLevel.toNat_lt
  unfold fansText
  rw [printSigned_small (thermalPercent_lt info), printSigned_small (by omega),
    printSigned_small (by omega)]
  unfold temperatureText RpiFanInfo.pieces RpiFanInfo.reading thermalPieces
  cases info.temperatureValid with
  | false => exact (objectText_last hfans).symm
  | true =>
    have htemperature := temperatureText_eq (temperatureNumber info.temperatureMilliCelsius)
    rw [temperatureNumber_eq] at htemperature
    simp only [if_true, List.append_assoc, List.cons_append, List.nil_append]
    rw [temperatureNumber_eq]
    have hobject := objectText_front htemperature hfans
    simp only [List.append_assoc] at hobject
    exact hobject.symm

/-! ## The room for the temperature -/

/-- A temperature whose text fits in `TempField`: four digits in front of the point where it is
negative, five where it is not. -/
def TemperatureFits (temperature : Int32) : Prop :=
  -10000000 < temperature.toInt ∧ temperature.toInt < 100000000

instance (temperature : Int32) : Decidable (TemperatureFits temperature) :=
  inferInstanceAs (Decidable (_ ∧ _))

theorem length_printDecimal_le_iff {width n : Nat} (hwidth : width ≠ 0) :
    (printDecimal n).length ≤ width ↔ n < 10 ^ width := by
  rcases eq_or_ne n 0 with rfl | hne
  · exact iff_of_true (Nat.one_le_iff_ne_zero.mpr hwidth) (Nat.pow_pos (by decide))
  · rw [length_printDecimal hne, Nat.digits_length_le_iff (by decide)]

theorem length_temperatureNumber (temperature : Int32) :
    (temperatureNumber temperature).length =
      (if temperature.toInt < 0 then 1 else 0) +
        (printDecimal (temperature.toInt.natAbs / 1000)).length + 4 := by
  have hpart : temperature.toInt.natAbs % 1000 < 10 ^ 3 := Nat.mod_lt _ (by decide)
  have hsign : (signText (temperature.toInt < 0)).length =
      if temperature.toInt < 0 then 1 else 0 := by
    unfold signText
    split <;> simp_all
  rw [temperatureNumber_eq]
  unfold fixedText
  rw [List.length_append, List.length_append, hsign, List.length_cons]
  show _ + (printDecimal _).length + ((digitText (paddedDigits 3 _)).length + 1) = _
  unfold digitText
  rw [List.length_map, length_paddedDigits hpart]

/-- Nine bytes are what is left of the buffer for the number. -/
theorem temperatureNumber_fits (temperature : Int32) :
    (temperatureNumber temperature).length ≤ 9 ↔ TemperatureFits temperature := by
  rw [length_temperatureNumber]
  unfold TemperatureFits
  split
  · rename_i hneg
    have hwhole := length_printDecimal_le_iff (n := temperature.toInt.natAbs / 1000)
      (by decide : 4 ≠ 0)
    constructor
    · intro h
      have hlt := hwhole.mp (by omega)
      omega
    · intro h
      have hlen := hwhole.mpr (by omega)
      omega
  · rename_i hpos
    have hwhole := length_printDecimal_le_iff (n := temperature.toInt.natAbs / 1000)
      (by decide : 5 ≠ 0)
    constructor
    · intro h
      have hlt := hwhole.mp (by omega)
      omega
    · intro h
      have hlen := hwhole.mpr (by omega)
      omega

theorem length_temperatureText (info : RpiFanInfo) (h : info.temperatureValid = true) :
    (temperatureText info).length =
      54 + (temperatureNumber info.temperatureMilliCelsius).length := by
  unfold temperatureText
  rw [if_pos h, List.length_append, List.length_append]
  show 51 + _ + 3 = _
  omega

/-- The buffer keeps 63 bytes. -/
theorem temperatureField_eq (info : RpiFanInfo) :
    temperatureField info = (temperatureText info).take 63 := by
  unfold temperatureField temperatureText
  split
  · rfl
  · rfl

theorem length_fansText_le (info : RpiFanInfo) : (fansText info).length ≤ 200 := by
  have hpercent := (length_printDecimal_le_iff (n := (thermalPercent info).toNat)
    (by decide : 10 ≠ 0)).mpr (Nat.lt_trans (thermalPercent_lt info) (by decide))
  have hlevel := (length_printDecimal_le_iff (n := info.level.toNat) (by decide : 3 ≠ 0)).mpr
    (Nat.lt_trans info.level.toNat_lt (by decide))
  have hmaxLevel := (length_printDecimal_le_iff (n := info.maxLevel.toNat)
    (by decide : 3 ≠ 0)).mpr (Nat.lt_trans info.maxLevel.toNat_lt (by decide))
  have hactive : (ascii (if info.overrideActive then "true" else "false")).length ≤ 5 := by
    cases info.overrideActive <;> decide
  have hlt := info.level.toNat_lt
  have hltMax := info.maxLevel.toNat_lt
  unfold fansText
  rw [printSigned_small (thermalPercent_lt info), printSigned_small (by omega),
    printSigned_small (by omega)]
  have hconstants :
      (ascii "\"Fans\":[\x7b\"MemberId\":\"ActiveCooler\",\"Reading\":").length = 45 ∧
      (ascii ",\"ReadingUnits\":\"Percent\",\"Oem\":\x7b\"PiBmc\":\x7b\"Level\":").length = 50 ∧
      (ascii ",\"MaxLevel\":").length = 12 ∧ (ascii ",\"OverrideActive\":").length = 18 ∧
      (ascii "\x7d\x7d\x7d]\x7d").length = 5 := by
    simp [ascii]
  simp only [List.length_append]
  omega

/-! ## The body -/

theorem thermalPieces_isObject (info : RpiFanInfo) :
    IsObject (objectText info.pieces) info.members := by
  have hspells := thermalPieces_spell info.reading (thermalPercent info).toNat info.level.toNat
    info.maxLevel.toNat info.overrideActive
  have hobject {m : Member} {members : List Member} (hmembers : info.members = m :: members)
      (hcomma : info.pieces.flatten = 0x2C :: info.pieces.flatten.tail) :
      IsObject (objectText info.pieces) info.members := by
    change Spells info.pieces info.members at hspells
    rw [hmembers] at hspells ⊢
    have hopens : Opens (0x7B :: info.pieces.flatten.tail) (m :: members) :=
      hspells.opens rfl hcomma
    have hbody := hopens.object .nil
    rwa [List.append_nil, List.append_nil] at hbody
  unfold RpiFanInfo.members RpiFanInfo.pieces RpiFanInfo.reading at hobject ⊢
  cases hvalid : info.temperatureValid with
  | false =>
    rw [hvalid] at hobject
    exact hobject rfl rfl
  | true =>
    rw [hvalid] at hobject
    exact hobject rfl rfl

/-- A buffer that holds the temperature holds all of it, and then the body holds everything. -/
theorem thermalBody_eq (info : RpiFanInfo)
    (h : info.temperatureValid = true → TemperatureFits info.temperatureMilliCelsius) :
    thermalBody info = objectText info.pieces := by
  have hlength : (temperatureText info).length ≤ 63 := by
    cases hvalid : info.temperatureValid with
    | false =>
      unfold temperatureText
      rw [hvalid]
      exact Nat.zero_le _
    | true =>
      have hnumber := (temperatureNumber_fits info.temperatureMilliCelsius).mpr (h hvalid)
      rw [length_temperatureText info hvalid]
      omega
  have hfans := length_fansText_le info
  unfold thermalBody
  rw [temperatureField_eq, List.take_of_length_le hlength, thermalText_eq]
  apply List.take_of_length_le
  rw [← thermalText_eq, List.length_append, List.length_append]
  show 1 + _ + _ ≤ 1023
  omega

theorem value_readingNumeral (milliC : Int) : (readingNumeral milliC).value = milliC / 1000 := by
  have hpart : milliC.natAbs % 1000 < 10 ^ 3 := Nat.mod_lt _ (by decide)
  have habs : ((milliC.natAbs / 1000 : Nat) : ℚ) + (milliC.natAbs % 1000 : Nat) / 10 ^ 3 =
      milliC.natAbs / 1000 := by
    have hsplit : ((milliC.natAbs : Nat) : ℚ) =
        1000 * (milliC.natAbs / 1000 : Nat) + (milliC.natAbs % 1000 : Nat) := by
      exact_mod_cast (Nat.div_add_mod milliC.natAbs 1000).symm
    rw [hsplit]
    ring
  unfold readingNumeral
  rw [Numeral.value_fixed hpart, habs]
  by_cases hneg : milliC < 0
  · have hopposite : ((milliC.natAbs : Nat) : ℚ) = -milliC := by
      rw [Nat.cast_natAbs, abs_of_neg hneg, Int.cast_neg]
    simp only [hneg, decide_true, if_true]
    rw [hopposite]
    ring
  · have hsame : ((milliC.natAbs : Nat) : ℚ) = milliC := by
      rw [Nat.cast_natAbs, abs_of_nonneg (not_lt.mp hneg)]
    simp only [hneg, decide_false, Bool.false_eq_true, if_false]
    rw [hsame]
    ring

/-- Where the temperature fits, nothing is missing. -/
theorem thermalBody_isObject (info : RpiFanInfo)
    (hfits : info.temperatureValid = true → TemperatureFits info.temperatureMilliCelsius) :
    IsObject (thermalBody info) info.members := by
  rw [thermalBody_eq info hfits]
  exact thermalPieces_isObject info

/-- **When the body is the thermal object.** For every answer of the cooler, the body that is sent
is the object with the temperature, in degrees, and the state of the fan if and only if the
temperature is not valid or its text fits in its buffer. -/
theorem thermalBody_iff (info : RpiFanInfo) :
    (readingNumeral info.temperatureMilliCelsius.toInt).value =
        info.temperatureMilliCelsius.toInt / 1000 ∧
      (IsObject (thermalBody info) info.members ↔
        (info.temperatureValid = true → TemperatureFits info.temperatureMilliCelsius)) := by
  refine ⟨value_readingNumeral _, ?_, thermalBody_isObject info⟩
  · intro hobject hvalid
    by_contra hfits
    -- a byte is missing, and the object has none to spare
    have hnumber := mt (temperatureNumber_fits info.temperatureMilliCelsius).mp hfits
    have hshown := hobject.covers.shown
    have hmembers : (objectText info.pieces).length = 1 + membersSize info.members := by
      have hspells : Spells info.pieces info.members := thermalPieces_spell ..
      rw [← hspells.length]
      unfold RpiFanInfo.pieces RpiFanInfo.reading
      rw [if_pos hvalid, length_objectText rfl, Nat.add_comm]
    have hbody : (thermalBody info).length ≤ 1 + 63 + (fansText info).length := by
      unfold thermalBody asciiSPrint
      rw [temperatureField_eq, List.length_take, List.length_append, List.length_append,
        List.length_take]
      show _ ≤ _
      have hbrace : (ascii "\x7b").length = 1 := rfl
      omega
    have htext : (objectText info.pieces).length =
        1 + (temperatureText info).length + (fansText info).length := by
      rw [← thermalText_eq, List.length_append, List.length_append]
      rfl
    have hlength := length_temperatureText info hvalid
    have hcount := shownCount_le_length (thermalBody info)
    omega

/-! ## What the cooler can report -/

theorem avsReading_fits {status : UInt32} {milliC : Int}
    (h : avsReadMilliCelsius status = some milliC) :
    (Int32.ofInt milliC).toInt = milliC ∧ TemperatureFits (Int32.ofInt milliC) := by
  unfold avsReadMilliCelsius at h
  split at h
  · cases h
  obtain rfl := Option.some.inj h
  have hraw : (status &&& 0x3FF).toNat ≤ 0x3FF := by
    rw [UInt32.toNat_and]
    exact Nat.and_le_right
  have hsame : (Int32.ofInt (450000 - 550 * (status &&& 0x3FF).toNat)).toInt =
      450000 - 550 * (status &&& 0x3FF).toNat := by
    apply Int32.toInt_ofInt_of_le <;> omega
  refine ⟨hsame, ?_⟩
  unfold TemperatureFits
  rw [hsame]
  omega

/-- The temperature of the answer is the monitor's. -/
theorem fanGetInfo_reading (fan : Fan) (status : UInt32) :
    (fanGetInfo fan status).2.reading = avsReadMilliCelsius status ∧
      ((fanGetInfo fan status).2.temperatureValid = true →
        TemperatureFits (fanGetInfo fan status).2.temperatureMilliCelsius) := by
  have htemperature : (fanGetInfo fan status).2.temperatureMilliCelsius =
        Int32.ofInt ((avsReadMilliCelsius status).getD 0) ∧
      (fanGetInfo fan status).2.temperatureValid = (avsReadMilliCelsius status).isSome := by
    unfold fanGetInfo
    split <;> exact ⟨rfl, rfl⟩
  obtain ⟨hvalue, hvalid⟩ := htemperature
  unfold RpiFanInfo.reading
  rw [hvalue, hvalid]
  cases hreading : avsReadMilliCelsius status with
  | none => exact ⟨rfl, nofun⟩
  | some milliC =>
    obtain ⟨hsame, hfits⟩ := avsReading_fits hreading
    exact ⟨congrArg some hsame, fun _ => hfits⟩

/-- The duty of a level, of 255. -/
def levelDuty (level : Nat) : Nat := (mFanLevels.getD level ⟨0, 0⟩).duty255

/-- **The state of the fan in the answer**, once a run has led there: before RP1 is there no level
is set, and what is reported is level 0. -/
theorem FanInvariant.getInfo {fan : Fan} (h : FanInvariant fan) (status : UInt32) :
    (fanGetInfo fan status).2.level.toNat = fan.mLevel.toNat ∧
      (thermalPercent (fanGetInfo fan status).2).toNat = levelDuty fan.mLevel.toNat * 100 / 255 ∧
      (fanGetInfo fan status).2.maxLevel.toNat = fanLevelMax ∧
      (fanGetInfo fan status).2.overrideActive = (overrideInForce fan).isSome := by
  have hoverride : (fanTemperatureInfo fan status).overrideActive =
      (overrideInForce fan).isSome := by
    unfold fanTemperatureInfo overrideInForce
    simp only [ge_iff_le]
    split <;> simp_all
  have hle := h.level_le
  unfold fanGetInfo
  split
  · rename_i hnone
    rw [h.unset hnone]
    exact ⟨rfl, rfl, rfl, hoverride⟩
  · have hlevel : (if fan.mLevel < 0 then 0 else fan.mLevel.toNat) = fan.mLevel.toNat := by
      split <;> omega
    simp only
    rw [hlevel]
    have htable : ∀ level ≤ fanLevelMax, (UInt8.ofNat level).toNat = level ∧
        (UInt32.ofNat (levelDuty level) * 100 / 255).toNat = levelDuty level * 100 / 255 := by
      decide
    obtain ⟨hsame, hpercent⟩ := htable _ hle
    exact ⟨hsame, hpercent, rfl, hoverride⟩

/-- **Every report of a run is the thermal object.** Wherever a run of the fan loop has led, and
whatever the monitor reads, the body sent is the object with the temperature the monitor's register
stands for, left out where it is not valid, and with the fan's level, duty and override. -/
theorem thermalBody_reachable (events : List FanEvent) (status : UInt32) :
    let fan := events.foldl fanStep fanStart
    ∃ body, reportThermal .success (fanGetInfo fan status) = .ok body ∧
      IsObject body (thermalMembers (avsReadMilliCelsius status)
        (levelDuty fan.mLevel.toNat * 100 / 255) fan.mLevel.toNat fanLevelMax
        (overrideInForce fan).isSome) ∧
      fan.mLevel.toNat ≤ fanLevelMax ∧ levelDuty fan.mLevel.toNat * 100 / 255 ≤ 100 := by
  intro fan
  have hinvariant : FanInvariant fan := fanStart_invariant.run events
  obtain ⟨hreading, hfits⟩ := fanGetInfo_reading fan status
  obtain ⟨hlevel, hpercent, hmaxLevel, hoverride⟩ := hinvariant.getInfo status
  have hbody := thermalBody_isObject (fanGetInfo fan status).2 hfits
  unfold RpiFanInfo.members at hbody
  rw [hreading, hlevel, hpercent, hmaxLevel, hoverride] at hbody
  refine ⟨_, ?_, hbody, hinvariant.level_le, ?_⟩
  · have hstatus :
        ¬((fanGetInfo fan status).1.isError ∧ (fanGetInfo fan status).1 ≠ .notReady) := by
      unfold fanGetInfo
      split <;> simp
    unfold reportThermal
    rw [if_neg (by simp), if_neg hstatus]
  · have htable : ∀ level ≤ fanLevelMax, levelDuty level * 100 / 255 ≤ 100 := by decide
    exact htable _ hinvariant.level_le

end Rpi5Uefi
