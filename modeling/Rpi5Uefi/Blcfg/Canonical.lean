import Rpi5Uefi.Blcfg.AppliedUpdate

/-!
# Canonical values (`BlcfgValues.c`)

The Setup page compares what the form holds with what the running config says, and offers an update
where they differ. Both sides are put into one canonical form on the way in, so that a setting
nobody edited never looks changed.

* **`parseBootOrder_some`**: a boot order that is accepted comes out as `0x` and the digits that
  were there, each with its value, in lowercase.
* **`blValuesFromText_canonical`**, **`blValuesFromData_canonical`**: whatever the text or the
  form, the values are canonical.
* **`blValuesFromData_again`**: values that came from a form survive the way back to it.
-/

namespace Rpi5Uefi

open Bytes Lines

/-! ## The boot order -/

/-- The value of a hex digit of either case. -/
def hexDigitValue (c : UInt8) : Option Nat :=
  if chZero ≤ c ∧ c ≤ 0x39 then some (c.toNat - 0x30)
  else if 0x41 ≤ c ∧ c ≤ 0x46 then some (c.toNat - 0x41 + 10)
  else if 0x61 ≤ c ∧ c ≤ 0x66 then some (c.toNat - 0x61 + 10)
  else none

/-- The characters `ParseBootOrder` takes for digits: blanks and the prefix are gone. -/
def orderDigits (str : List UInt8) : List UInt8 :=
  dropHexPrefix ((str.dropWhile isBlank).rdropWhile isBlank)

/-- A digit that is accepted keeps its value and becomes lowercase. -/
theorem canonHexDigit_some {c d : UInt8} (h : canonHexDigit c = some d) :
    isLowerHex d = true ∧ (hexDigitValue c).isSome = true ∧ hexDigitValue d = hexDigitValue c := by
  have hall : ∀ n : Fin 256, ∀ d ∈ canonHexDigit (UInt8.ofNat n), isLowerHex d = true ∧
      (hexDigitValue (UInt8.ofNat n)).isSome = true ∧
      hexDigitValue d = hexDigitValue (UInt8.ofNat n) := by
    decide +kernel
  have hc := hall ⟨c.toNat, c.toNat_lt⟩ d
  simp only [UInt8.ofNat_toNat] at hc
  exact hc h

theorem mapM_canonHexDigit_some {cs ds : List UInt8} (h : cs.mapM canonHexDigit = some ds) :
    (∀ d ∈ ds, isLowerHex d = true) ∧ (∀ c ∈ cs, (hexDigitValue c).isSome = true) ∧
      ds.map hexDigitValue = cs.map hexDigitValue := by
  induction cs generalizing ds with
  | nil =>
    obtain rfl : [] = ds := Option.some.inj h
    exact ⟨by simp, by simp, rfl⟩
  | cons c rest ih =>
    rw [List.mapM_cons] at h
    obtain ⟨d, hd, h⟩ := Option.bind_eq_some_iff.mp h
    obtain ⟨ds', hds', h⟩ := Option.bind_eq_some_iff.mp h
    obtain rfl : d :: ds' = ds := Option.some.inj h
    obtain ⟨hlower, hsome, hvalue⟩ := canonHexDigit_some hd
    obtain ⟨hlowers, hsomes, hvalues⟩ := ih hds'
    refine ⟨List.forall_mem_cons.mpr ⟨hlower, hlowers⟩,
      List.forall_mem_cons.mpr ⟨hsome, hsomes⟩, ?_⟩
    rw [List.map_cons, List.map_cons, hvalue, hvalues]

/-- **An accepted boot order** is `0x` and as many digits as there were, with their values. -/
theorem parseBootOrder_some {str order : List UInt8} (h : parseBootOrder str = some order) :
    ∃ digits, order = ascii "0x" ++ digits ∧ 1 ≤ digits.length ∧ digits.length ≤ 8 ∧
      (∀ d ∈ digits, isLowerHex d = true) ∧
      (∀ c ∈ orderDigits str, (hexDigitValue c).isSome = true) ∧
      digits.map hexDigitValue = (orderDigits str).map hexDigitValue := by
  unfold parseBootOrder at h
  simp only at h
  split at h
  · cases h
  · rename_i hlength
    obtain ⟨digits, hdigits, horder⟩ := Option.map_eq_some_iff.mp h
    obtain ⟨hlower, hsome, hvalue⟩ := mapM_canonHexDigit_some hdigits
    have hsame : digits.length = (orderDigits str).length := by
      have hlengths := congrArg List.length hvalue
      rwa [List.length_map, List.length_map] at hlengths
    have hpos : (orderDigits str).length ≠ 0 := fun hzero =>
      hlength (Or.inl (List.length_eq_zero_iff.mp hzero))
    refine ⟨digits, horder.symm, by omega, ?_, hlower, hsome, hvalue⟩
    have hle : ¬ (orderDigits str).length > 8 := fun hlong => hlength (Or.inr hlong)
    omega

/-! ## Values from a text -/

theorem flagFromText_canonical (text key : List UInt8) {dflt : UInt8}
    (hdflt : dflt = 0 ∨ dflt = 1) :
    flagFromText text key dflt = 0 ∨ flagFromText text key dflt = 1 := by
  unfold flagFromText
  split
  · split
    · exact Or.inr rfl
    · exact Or.inl rfl
  · exact hdflt

theorem snapPsuMaxCurrent_canonical (number : Nat) :
    snapPsuMaxCurrent number 0 = 0 ∨ snapPsuMaxCurrent number 0 = 3000 ∨
      snapPsuMaxCurrent number 0 = 5000 := by
  unfold snapPsuMaxCurrent
  split
  · exact Or.inr (Or.inr rfl)
  · split
    · exact Or.inr (Or.inl rfl)
    · exact Or.inl rfl

/-- The boot order is the one of the text, or the default. -/
theorem bootOrder_fromText (text : List UInt8) :
    (blValuesFromText text).bootOrder =
      ((blTextGetValue text BlKey.bootOrder.name).bind parseBootOrder).getD
        setDefaults.bootOrder := by
  unfold blValuesFromText
  cases (blTextGetValue text BlKey.bootOrder.name).bind parseBootOrder <;> rfl

/-- **Every text gives canonical values.** -/
theorem blValuesFromText_canonical (text : List UInt8) : (blValuesFromText text).Canonical where
  bootOrder := by
    rw [bootOrder_fromText]
    cases horder : (blTextGetValue text BlKey.bootOrder.name).bind parseBootOrder with
    | some order =>
      obtain ⟨str, -, hparse⟩ := Option.bind_eq_some_iff.mp horder
      obtain ⟨digits, hdigits, hpos, hle, hlower, -⟩ := parseBootOrder_some hparse
      exact ⟨digits, hdigits, hpos, hle, hlower⟩
    | none => exact ⟨ascii "f41", by decide +kernel⟩
  bootUart := flagFromText_canonical text _ (Or.inl rfl)
  powerOffOnHalt := flagFromText_canonical text _ (Or.inl rfl)
  wakeOnGpio := flagFromText_canonical text _ (Or.inr rfl)
  psuMaxCurrent := by
    unfold blValuesFromText
    simp only
    split
    · exact snapPsuMaxCurrent_canonical _
    · exact Or.inl rfl

/-- The boot order of a text whose key has an accepted value. -/
theorem blValuesFromText_bootOrder {text str order : List UInt8}
    (hvalue : blTextGetValue text BlKey.bootOrder.name = some str)
    (hparse : parseBootOrder str = some order) : (blValuesFromText text).bootOrder = order := by
  unfold blValuesFromText
  simp only [hvalue, Option.bind_some, hparse]

/-! ## Values from a form -/

/-- What an accepted form gives. -/
theorem blValuesFromData_some {data : RpiBlcfgData} {values : BlcfgValues}
    (h : blValuesFromData data = some values) :
    ∃ chars, asciiBootOrder ((List.ofFn data.bootOrder).take rpiBlcfgBootOrderMaxlen) = some chars ∧
      parseBootOrder chars = some values.bootOrder ∧
      (data.psuMaxCurrent = 0 ∨ data.psuMaxCurrent = 3000 ∨ data.psuMaxCurrent = 5000) ∧
      values = ⟨values.bootOrder, if data.bootUart ≠ 0 then 1 else 0,
        if data.powerOffOnHalt ≠ 0 then 1 else 0, if data.wakeOnGpio ≠ 0 then 1 else 0,
        data.psuMaxCurrent⟩ := by
  unfold blValuesFromData at h
  split at h
  · cases h
  · rename_i bootOrder hbootOrder
    obtain ⟨chars, hchars, hparse⟩ := Option.bind_eq_some_iff.mp hbootOrder
    split at h
    · cases h
    · rename_i hpsu
      obtain rfl := Option.some.inj h
      refine ⟨chars, hchars, hparse, ?_, rfl⟩
      by_contra hno
      exact hpsu ⟨fun h0 => hno (Or.inl h0), fun h3 => hno (Or.inr (Or.inl h3)),
        fun h5 => hno (Or.inr (Or.inr h5))⟩

/-- **Every accepted form gives canonical values.** -/
theorem blValuesFromData_canonical {data : RpiBlcfgData} {values : BlcfgValues}
    (h : blValuesFromData data = some values) : values.Canonical := by
  obtain ⟨chars, -, hparse, hpsu, hvalues⟩ := blValuesFromData_some h
  obtain ⟨digits, hdigits, hpos, hle, hlower, -⟩ := parseBootOrder_some hparse
  have hflag : ∀ b : UInt8, (if b ≠ 0 then (1 : UInt8) else 0) = 0 ∨
      (if b ≠ 0 then (1 : UInt8) else 0) = 1 := by
    intro b
    split
    · exact Or.inr rfl
    · exact Or.inl rfl
  rw [hvalues]
  exact ⟨⟨digits, hdigits, hpos, hle, hlower⟩, hflag _, hflag _, hflag _, hpsu⟩

/-- **Values from a form survive the way back to it.** -/
theorem blValuesFromData_again {data : RpiBlcfgData} {values : BlcfgValues}
    (h : blValuesFromData data = some values) :
    blValuesFromData (blValuesToData values) = some values :=
  blValuesFromData_toData (blValuesFromData_canonical h)

end Rpi5Uefi
