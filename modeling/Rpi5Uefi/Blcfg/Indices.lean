import Rpi5Uefi.Blcfg.Canonical
import Rpi5Uefi.Lib.Indexed

/-!
# The config values, index by index (`BlcfgValues.c`)

The functions of `Values` and `Staging` work on whole texts. Here they are again with the indices
the source computes, every read and every store checked against the array it goes to: an
access out of bounds has no result.

* **`blTextGetValueAt_eq`**, **`parseBootOrderAt_eq`**, **`parseDecimalAt_eq`**: each has a result,
  and it is the one of the function on the whole text.
* **`blValuesFromTextAt_eq`**, **`blValuesFromDataAt_eq`**, **`blValuesToDataAt_eq`**: so both
  ways between text, values and form stay inside their arrays.
-/

namespace Rpi5Uefi

open Bytes Lines Indexed

/-! ## `BlTextGetValue` -/

/-- The test for the key, with its two length checks in front of the reads. -/
def lineHasKeyAt (text key : List UInt8) (pos lineEnd : Nat) : Option Bool :=
  if lineEnd - pos > key.length then
    (readRange text pos key.length).bind fun start =>
      if start == key then (text)[pos + key.length]?.map (· == chEq) else some false
  else some false

/-- `ValEnd`. -/
def valueEndAt (text key : List UInt8) (pos lineEnd : Nat) : Option Nat :=
  if lineEnd > pos + key.length + 1 then
    (text)[lineEnd - 1]?.map fun c => if c = chCr then lineEnd - 1 else lineEnd
  else some lineEnd

theorem le_of_scanFrom {p : UInt8 → Bool} {s : List UInt8} {fin pos e : Nat} (hpos : pos ≤ fin)
    (h : scanFrom p s fin pos = some e) (hlen : fin ≤ s.length) : pos ≤ e := by
  rw [scanFrom_eq hpos hlen] at h
  obtain rfl := Option.some.inj h
  omega

/-- The loop over the lines, from `Pos`: the offset and the length of the value found. -/
def blTextGetValueFrom (text key : List UInt8) (pos : Nat) (found : Option (Nat × Nat)) :
    Option (Option (Nat × Nat)) :=
  if hpos : pos < text.length then
    match hscan : scanFrom (· != chLf) text text.length pos with
    | none => none
    | some lineEnd =>
      have : text.length - (lineEnd + 1) < text.length - pos := by
        have := le_of_scanFrom (by omega) hscan (Nat.le_refl _)
        omega
      (lineHasKeyAt text key pos lineEnd).bind fun hasKey =>
        if hasKey then
          (valueEndAt text key pos lineEnd).bind fun valEnd =>
            blTextGetValueFrom text key (lineEnd + 1)
              (some (pos + key.length + 1, valEnd - (pos + key.length + 1)))
        else blTextGetValueFrom text key (lineEnd + 1) found
  else some found
termination_by text.length - pos

/-- `BlTextGetValue`: `*Value` as an offset, and `*ValueLen`. -/
def blTextGetValueAt (text key : List UInt8) : Option (Option (Nat × Nat)) :=
  blTextGetValueFrom text key 0 none

/-- The characters of a value found in the text. -/
def valueAt (text : List UInt8) (value : Nat × Nat) : List UInt8 :=
  between text value.1 (value.1 + value.2)

/-- The value lies in the text. -/
def ValueIn (text : List UInt8) (value : Nat × Nat) : Prop := value.1 + value.2 ≤ text.length

variable {text key : List UInt8} {pos lineEnd : Nat}

theorem lineHasKeyAt_eq (hpos : pos ≤ lineEnd) (hend : lineEnd ≤ text.length) :
    lineHasKeyAt text key pos lineEnd = some (lineHasKey (between text pos lineEnd) key) := by
  unfold lineHasKeyAt lineHasKey
  rw [length_between hend]
  split
  · rename_i hlong
    have hstart : readRange text pos key.length =
        some ((between text pos lineEnd).take key.length) := by
      have hfit : pos + key.length ≤ lineEnd := by omega
      rw [readRange_eq (by omega), between_take text hfit]
    have hbehind : (text)[pos + key.length]? = (between text pos lineEnd)[key.length]? := by
      unfold between
      rw [List.getElem?_drop, List.getElem?_take_of_lt (by omega)]
    obtain ⟨c, hc⟩ : ∃ c, (between text pos lineEnd)[key.length]? = some c := by
      rw [← Option.isSome_iff_exists, isSome_getElem?, length_between hend]
      omega
    rw [hstart, Option.bind_some, hbehind, hc]
    simp only [hlong, decide_true, Bool.true_and, Option.map_some]
    split
    · rename_i hkey
      rw [hkey]
      rfl
    · rename_i hkey
      rw [Bool.not_eq_true] at hkey
      rw [hkey]
      rfl
  · rename_i hshort
    simp [hshort]

/-- The `'\r'` is looked at only where the value has a character. -/
theorem valueEndAt_eq (hpos : pos + key.length + 1 ≤ lineEnd) (hend : lineEnd ≤ text.length) :
    ∃ valEnd, valueEndAt text key pos lineEnd = some valEnd ∧ pos + key.length + 1 ≤ valEnd ∧
      valEnd ≤ lineEnd ∧
      between text (pos + key.length + 1) valEnd = lineValue (between text pos lineEnd) key := by
  have hdrop : (between text pos lineEnd).drop (key.length + 1) =
      between text (pos + key.length + 1) lineEnd := (between_drop (key.length + 1)).symm
  unfold valueEndAt lineValue
  rw [hdrop]
  split
  · rename_i hlong
    obtain ⟨front, rfl⟩ : ∃ front, lineEnd = front + 1 := ⟨lineEnd - 1, by omega⟩
    obtain ⟨c, hread, hconcat⟩ := between_concat (pos + key.length + 1) (by omega) hend
    rw [Nat.add_sub_cancel, hread, Option.map_some, hconcat]
    simp only [List.getLast?_concat, Option.some.injEq, List.dropLast_concat]
    split
    · exact ⟨front, rfl, by omega, by omega, rfl⟩
    · exact ⟨front + 1, rfl, by omega, by omega, hconcat⟩
  · have hempty : between text (pos + key.length + 1) lineEnd = [] := between_nil (by omega)
    refine ⟨lineEnd, rfl, hpos, Nat.le_refl _, ?_⟩
    rw [hempty]
    rfl

/-- The loop has a result, and what it found is what the fold over the lines finds. -/
theorem blTextGetValueFrom_eq (text key : List UInt8) (pos : Nat) (found : Option (Nat × Nat))
    (hfound : ∀ value ∈ found, ValueIn text value) :
    ∃ r, blTextGetValueFrom text key pos found = some r ∧ (∀ value ∈ r, ValueIn text value) ∧
      r.map (valueAt text) = (lines chLf (text.drop pos)).foldl
        (fun found l => if lineHasKey l.body key then some (lineValue l.body key) else found)
        (found.map (valueAt text)) := by
  obtain ⟨n, hn⟩ : ∃ n, n = text.length - pos := ⟨_, rfl⟩
  induction n using Nat.strong_induction_on generalizing pos found with
  | _ n ih =>
    unfold blTextGetValueFrom
    split
    · rename_i hpos
      -- one line, and the rest of the text by induction
      have hrest : text.drop pos = between text pos text.length := by
        unfold between
        rw [List.take_length]
      have hne : text.drop pos ≠ [] := by
        rw [ne_eq, List.drop_eq_nil_iff]
        omega
      split
      · rename_i hscan
        rw [scanFrom_eq (by omega) (Nat.le_refl _)] at hscan
        cases hscan
      · rename_i lineEnd hscan
        have hend := length_takeWhile_le (· != chLf) (Nat.le_of_lt hpos) (Nat.le_refl text.length)
        rw [scanFrom_eq (by omega) (Nat.le_refl _), ← hrest] at hscan
        rw [← hrest] at hend
        obtain hlineEnd := (Option.some.inj hscan).symm
        rw [← hlineEnd] at hend
        have hline : between text pos lineEnd = (text.drop pos).takeWhile (· != chLf) := by
          have hfit : pos + ((text.drop pos).takeWhile (· != chLf)).length ≤ text.length :=
            hlineEnd ▸ hend
          rw [hlineEnd, between_take text hfit, ← hrest]
          exact (List.prefix_iff_eq_take.mp (List.takeWhile_prefix _)).symm
        have hnext : (text.drop pos).drop (((text.drop pos).takeWhile (· != chLf)).length + 1) =
            text.drop (lineEnd + 1) := by
          rw [List.drop_drop, hlineEnd, Nat.add_assoc]
        rw [lines_eq_cons hne, List.foldl_cons, hnext, ← hline,
          lineHasKeyAt_eq (by omega) (by omega), Option.bind_some]
        split
        · rename_i hkey
          have hlong : pos + key.length + 1 ≤ lineEnd := by
            obtain ⟨value, hvalue⟩ := lineHasKey_iff.mp hkey
            have hlength := congrArg List.length hvalue
            rw [length_between (by omega), List.length_append, List.length_cons] at hlength
            omega
          obtain ⟨valEnd, hvalEnd, hfrom, hto, hvalue⟩ := valueEndAt_eq hlong (by omega)
          obtain ⟨r, hr, hin, hval⟩ := ih (text.length - (lineEnd + 1)) (by omega) (lineEnd + 1)
            (some (pos + key.length + 1, valEnd - (pos + key.length + 1)))
            (by rintro value ⟨rfl⟩; show _ + _ ≤ text.length; omega) rfl
          refine ⟨r, by rw [hvalEnd]; exact hr, hin, ?_⟩
          rw [hval, ← hvalue]
          simp only [Option.map_some, valueAt]
          congr 2
          rw [Nat.add_sub_cancel' hfrom]
        · obtain ⟨r, hr, hin, hval⟩ := ih (text.length - (lineEnd + 1)) (by omega) (lineEnd + 1)
            found hfound rfl
          exact ⟨r, hr, hin, hval⟩
    · rename_i hpos
      rw [List.drop_eq_nil_of_le (by omega)]
      exact ⟨found, rfl, hfound, rfl⟩

/-- **`BlTextGetValue` stays inside the text**, and so does the value it returns. -/
theorem blTextGetValueAt_eq (text key : List UInt8) :
    ∃ r, blTextGetValueAt text key = some r ∧ (∀ value ∈ r, ValueIn text value) ∧
      r.map (valueAt text) = blTextGetValue text key := by
  have hnone : ∀ value ∈ (none : Option (Nat × Nat)), ValueIn text value := by
    rintro value ⟨⟩
  exact blTextGetValueFrom_eq text key 0 none hnone

/-! ## `ParseBootOrder` and `ParseDecimal` -/

/-- The test for `0x` at the start. -/
def hexPrefixAt (str : List UInt8) (pos fin : Nat) : Option Nat :=
  if fin - pos > 2 then
    (str)[pos]?.bind fun c =>
      if c = chZero then
        (str)[pos + 1]?.map fun x => if x = 0x78 ∨ x = 0x58 then pos + 2 else pos
      else some pos
  else some pos

/-- The digits and the NUL behind them, in an `Out` of `RPI_BLCFG_BOOT_ORDER_MAXLEN + 1`. -/
def orderDigitsAt (str : List UInt8) (fin pos : Nat) (out : List UInt8) :
    Option (Option (List UInt8)) :=
  if pos < fin then
    (str)[pos]?.bind fun c =>
      match canonHexDigit c with
      | none => some none
      | some d =>
        (putChar (rpiBlcfgBootOrderMaxlen + 1) out d).bind fun out =>
          orderDigitsAt str fin (pos + 1) out
  else (putChar (rpiBlcfgBootOrderMaxlen + 1) out 0).map fun _ => some out
termination_by fin - pos

/-- `ParseBootOrder`, `str` being what can be read at `Str`. -/
def parseBootOrderAt (str : List UInt8) (len : Nat) : Option (Option (List UInt8)) :=
  (scanFrom isBlank str len 0).bind fun pos =>
    (scanBack isBlank str pos len).bind fun fin =>
      (hexPrefixAt str pos fin).bind fun pos =>
        if fin = pos ∨ fin - pos > 8 then some none
        else orderDigitsAt str fin pos (ascii "0x")

/-- The loop of `ParseDecimal`. -/
def parseDigitsAt (str : List UInt8) (len pos value : Nat) : Option (Option Nat) :=
  if pos < len then
    (str)[pos]?.bind fun c =>
      if c < chZero ∨ c > 0x39 ∨ value > 0xFFFFFF then some none
      else parseDigitsAt str len (pos + 1) (value * 10 + (c - chZero).toNat)
  else some (some value)
termination_by len - pos

/-- `ParseDecimal`. -/
def parseDecimalAt (str : List UInt8) (len : Nat) : Option (Option Nat) :=
  if len = 0 then some none else parseDigitsAt str len 0 0

variable {str : List UInt8} {fin len : Nat} {values : BlcfgValues}

theorem dropHexPrefix_short {s : List UInt8} (h : s.length ≤ 2) : dropHexPrefix s = s := by
  unfold dropHexPrefix
  split
  · rename_i c x d rest
    simp only [List.length_cons] at h
    omega
  · rfl

/-- The prefix is dropped from the characters that are left. -/
theorem hexPrefixAt_eq (hpos : pos ≤ fin) (hfin : fin ≤ str.length) :
    ∃ pos', hexPrefixAt str pos fin = some pos' ∧ pos' ≤ fin ∧
      between str pos' fin = dropHexPrefix (between str pos fin) := by
  unfold hexPrefixAt
  split
  · rename_i hlong
    obtain ⟨c, hc, hcons⟩ := between_cons pos (by omega) hfin
    obtain ⟨x, hx, hcons'⟩ := between_cons (pos + 1) (by omega) hfin
    obtain ⟨d, -, hcons''⟩ := between_cons (pos + 1 + 1) (by omega) hfin
    have hthree : between str pos fin = c :: x :: d :: between str (pos + 1 + 1 + 1) fin := by
      rw [hcons, hcons', hcons'']
    rw [hc, Option.bind_some, hx, Option.map_some]
    split
    · rename_i hzero
      split
      · rename_i hx'
        refine ⟨pos + 2, rfl, by omega, ?_⟩
        rw [hthree]
        show _ = if c = chZero ∧ (x = 0x78 ∨ x = 0x58) then d :: between str (pos + 1 + 1 + 1) fin
          else _
        rw [if_pos ⟨hzero, hx'⟩]
        exact hcons''
      · rename_i hx'
        refine ⟨pos, rfl, hpos, ?_⟩
        rw [hthree]
        exact (if_neg fun h => hx' h.2).symm
    · rename_i hzero
      refine ⟨pos, rfl, hpos, ?_⟩
      rw [hthree]
      exact (if_neg fun h => hzero h.1).symm
  · rename_i hshort
    refine ⟨pos, rfl, hpos, (dropHexPrefix_short ?_).symm⟩
    rw [length_between hfin]
    omega

theorem orderDigitsAt_eq (hpos : pos ≤ fin) (hfin : fin ≤ str.length) {out : List UInt8}
    (hroom : out.length + (fin - pos) < rpiBlcfgBootOrderMaxlen + 1) :
    orderDigitsAt str fin pos out =
      some (((between str pos fin).mapM canonHexDigit).map (out ++ ·)) := by
  obtain ⟨n, hn⟩ : ∃ n, n = fin - pos := ⟨_, rfl⟩
  induction n generalizing pos out with
  | zero =>
    unfold orderDigitsAt
    rw [if_neg (by omega), putChar_eq (by omega), between_nil (by omega)]
    simp
  | succ n ih =>
    obtain ⟨c, hread, hcons⟩ := between_cons pos (by omega) hfin
    unfold orderDigitsAt
    rw [if_pos (by omega), hread, Option.bind_some, hcons, List.mapM_cons]
    cases canonHexDigit c with
    | none => rfl
    | some d =>
      simp only
      rw [putChar_eq (by omega), Option.bind_some]
      rw [ih (by omega) (by rw [List.length_append, List.length_singleton]; omega) (by omega)]
      cases (between str (pos + 1) fin).mapM canonHexDigit with
      | none => rfl
      | some ds => simp

/-- **`ParseBootOrder` stays inside the string and its output array.** -/
theorem parseBootOrderAt_eq (hlen : len ≤ str.length) :
    parseBootOrderAt str len = some (parseBootOrder (between str 0 len)) := by
  -- blanks in front, blanks behind, the prefix
  obtain ⟨first, hfirst, -, hle, hfront⟩ := scanFrom_spec isBlank (Nat.zero_le len) hlen
  obtain ⟨last, hlast, hge, hle', hback⟩ := scanBack_spec isBlank hle hlen
  obtain ⟨pos, hprefix, hpos, hdigits⟩ := hexPrefixAt_eq hge (Nat.le_trans hle' hlen)
  have hlength : (between str pos last).length = last - pos := length_between (by omega)
  have hnil : between str pos last = [] ↔ last = pos := by
    rw [← List.length_eq_zero_iff, hlength]
    omega
  unfold parseBootOrderAt parseBootOrder
  rw [hfirst, Option.bind_some, hlast, Option.bind_some, hprefix, Option.bind_some, ← hfront,
    ← hback, ← hdigits]
  simp only [hnil, hlength]
  split
  · rfl
  · apply orderDigitsAt_eq hpos (by omega)
    have htwo : (ascii "0x").length = 2 := by decide
    rw [htwo, show rpiBlcfgBootOrderMaxlen = 11 from rfl]
    omega

theorem parseDigitsAt_eq (hpos : pos ≤ len) (hlen : len ≤ str.length) (value : Nat) :
    parseDigitsAt str len pos value = some (parseDigits (between str pos len) value) := by
  obtain ⟨n, hn⟩ : ∃ n, n = len - pos := ⟨_, rfl⟩
  induction n generalizing pos value with
  | zero =>
    unfold parseDigitsAt
    rw [if_neg (by omega), between_nil (by omega)]
    rfl
  | succ n ih =>
    obtain ⟨c, hread, hcons⟩ := between_cons pos (by omega) hlen
    unfold parseDigitsAt
    rw [if_pos (by omega), hread, Option.bind_some, hcons]
    unfold parseDigits
    split
    · rfl
    · exact ih (by omega) _ (by omega)

/-- **`ParseDecimal` stays inside the string.** -/
theorem parseDecimalAt_eq (hlen : len ≤ str.length) :
    parseDecimalAt str len = some (parseDecimal (between str 0 len)) := by
  unfold parseDecimalAt parseDecimal
  split
  · rename_i hzero
    rw [if_pos (between_nil (by omega))]
  · rename_i hne
    have hcons : between str 0 len ≠ [] := by
      intro hnil
      have hlength : (between str 0 len).length = len - 0 := length_between hlen
      rw [hnil] at hlength
      exact hne hlength.symm
    rw [if_neg hcons, parseDigitsAt_eq (Nat.zero_le len) hlen]

/-! ## `BlValuesFromText` -/

/-- `AsciiStrCpyS` into a `BootOrder` of `RPI_BLCFG_BOOT_ORDER_MAXLEN + 1`. -/
def copyBootOrder (order : List UInt8) : Option (List UInt8) :=
  if order.length < rpiBlcfgBootOrderMaxlen + 1 then some order else none

/-- The value of a key, parsed where it stands in the text. -/
def keyAtWith {β : Type} (text key : List UInt8) (parse : List UInt8 → Nat → Option (Option β)) :
    Option (Option β) :=
  (blTextGetValueAt text key).bind fun found =>
    match found with
    | none => some none
    | some value => parse (text.drop value.1) value.2

/-- A setting of 0 or 1: `dflt` unless there is a number. -/
def flagOfNumber (number : Option Nat) (dflt : UInt8) : UInt8 :=
  match number with
  | some number => if number ≠ 0 then 1 else 0
  | none => dflt

/-- `BlValuesFromText`. -/
def blValuesFromTextAt (text : List UInt8) : Option BlcfgValues := do
  let order ← keyAtWith text BlKey.bootOrder.name parseBootOrderAt
  let bootOrder ← copyBootOrder (order.getD setDefaults.bootOrder)
  let uart ← keyAtWith text BlKey.bootUart.name parseDecimalAt
  let halt ← keyAtWith text BlKey.powerOffOnHalt.name parseDecimalAt
  let gpio ← keyAtWith text BlKey.wakeOnGpio.name parseDecimalAt
  let psu ← keyAtWith text BlKey.psuMaxCurrent.name parseDecimalAt
  some {
    bootOrder := bootOrder
    bootUart := flagOfNumber uart setDefaults.bootUart
    powerOffOnHalt := flagOfNumber halt setDefaults.powerOffOnHalt
    wakeOnGpio := flagOfNumber gpio setDefaults.wakeOnGpio
    psuMaxCurrent :=
      match psu with
      | some number => snapPsuMaxCurrent number setDefaults.psuMaxCurrent
      | none => setDefaults.psuMaxCurrent }

theorem keyAtWith_eq {β : Type} {parse : List UInt8 → Nat → Option (Option β)}
    {f : List UInt8 → Option β}
    (hparse : ∀ {str : List UInt8} {len : Nat}, len ≤ str.length →
      parse str len = some (f (between str 0 len))) (text key : List UInt8) :
    keyAtWith text key parse = some ((blTextGetValue text key).bind f) := by
  obtain ⟨r, hr, hin, hvalue⟩ := blTextGetValueAt_eq text key
  unfold keyAtWith
  rw [hr, Option.bind_some, ← hvalue]
  cases r with
  | none => rfl
  | some value =>
    have hlen : value.1 + value.2 ≤ text.length := hin value rfl
    have hsame : between (text.drop value.1) 0 value.2 = valueAt text value := by
      unfold valueAt between
      rw [List.drop_zero, List.take_drop]
    simp only [Option.map_some, Option.bind_some]
    rw [hparse (by rw [List.length_drop]; omega), hsame]

theorem copyBootOrder_eq (hv : values.Canonical) :
    copyBootOrder values.bootOrder = some values.bootOrder := by
  have hlength := (bootOrder_ascii hv).1
  exact if_pos (Nat.lt_succ_of_le (Nat.le_succ_of_le hlength))

/-- **From a text to the values**, with every index in bounds. -/
theorem blValuesFromTextAt_eq (text : List UInt8) :
    blValuesFromTextAt text = some (blValuesFromText text) := by
  have hcopy := copyBootOrder_eq (blValuesFromText_canonical text)
  have horder : ((blTextGetValue text BlKey.bootOrder.name).bind parseBootOrder).getD
      setDefaults.bootOrder = (blValuesFromText text).bootOrder := (bootOrder_fromText text).symm
  unfold blValuesFromTextAt
  simp only [keyAtWith_eq parseBootOrderAt_eq, keyAtWith_eq parseDecimalAt_eq, horder, hcopy,
    Option.bind_eq_bind, Option.bind_some]
  rfl

/-! ## `BlValuesFromData` and `BlValuesToData` -/

/-- `Data->BootOrder[Index]`. -/
def RpiBlcfgData.charAt (data : RpiBlcfgData) (index : Nat) : Option UInt16 :=
  if h : index < 12 then some (data.bootOrder ⟨index, h⟩) else none

/-- The loop of `BlValuesFromData` from `Index`, with the characters of `Ascii` so far. -/
def asciiBootOrderAt (data : RpiBlcfgData) (index : Nat) (chars : List UInt8) :
    Option (Option (List UInt8)) :=
  if index < rpiBlcfgBootOrderMaxlen then
    (data.charAt index).bind fun c =>
      if c = 0 then some (some chars)
      else if c > 0x7F then some none
      else
        (putChar (rpiBlcfgBootOrderMaxlen + 1) chars c.toUInt8).bind fun chars =>
          asciiBootOrderAt data (index + 1) chars
  else some (some chars)
termination_by rpiBlcfgBootOrderMaxlen - index

/-- `BlValuesFromData`. -/
def blValuesFromDataAt (data : RpiBlcfgData) : Option (Option BlcfgValues) :=
  (asciiBootOrderAt data 0 []).bind fun chars =>
    match chars with
    | none => some none
    | some chars =>
      (putChar (rpiBlcfgBootOrderMaxlen + 1) chars 0).bind fun ascii =>
        (parseBootOrderAt ascii chars.length).map fun order =>
          match order with
          | none => none
          | some bootOrder =>
            if data.psuMaxCurrent ≠ 0 ∧ data.psuMaxCurrent ≠ 3000 ∧ data.psuMaxCurrent ≠ 5000 then
              none
            else
              some {
                bootOrder := bootOrder
                bootUart := if data.bootUart ≠ 0 then 1 else 0
                powerOffOnHalt := if data.powerOffOnHalt ≠ 0 then 1 else 0
                wakeOnGpio := if data.wakeOnGpio ≠ 0 then 1 else 0
                psuMaxCurrent := data.psuMaxCurrent }

/-- The loop of `BlValuesToData` over a string with its NUL, into a field of 12. -/
def copyOrderAt (str : List UInt8) (index : Nat) (chars : List UInt16) : Option (List UInt16) :=
  if h : index < str.length then
    if str[index] = 0 then some chars
    else
      (putChar 12 chars (str[index]).toUInt16).bind fun chars => copyOrderAt str (index + 1) chars
  else none
termination_by str.length - index

/-- `BlValuesToData`. -/
def blValuesToDataAt (values : BlcfgValues) : Option RpiBlcfgData :=
  (copyOrderAt (values.bootOrder ++ [0]) 0 []).map fun chars =>
    { bootOrder := fun i => chars.getD i 0
      bootUart := values.bootUart
      powerOffOnHalt := values.powerOffOnHalt
      wakeOnGpio := values.wakeOnGpio
      psuMaxCurrent := values.psuMaxCurrent }

/-- The first 11 characters of the form's field. -/
def orderField (data : RpiBlcfgData) : List UInt16 :=
  (List.ofFn data.bootOrder).take rpiBlcfgBootOrderMaxlen

theorem charAt_eq (data : RpiBlcfgData) (index : Nat) :
    data.charAt index = (List.ofFn data.bootOrder)[index]? := by
  rw [List.getElem?_ofFn]
  rfl

theorem asciiBootOrderAt_eq (data : RpiBlcfgData) (index : Nat) (chars : List UInt8)
    (hlength : chars.length = index) (hle : index ≤ rpiBlcfgBootOrderMaxlen) :
    asciiBootOrderAt data index chars =
        some ((asciiBootOrder ((orderField data).drop index)).map (chars ++ ·)) ∧
      ∀ rest ∈ asciiBootOrder ((orderField data).drop index),
        index + rest.length ≤ rpiBlcfgBootOrderMaxlen := by
  have hfield : (orderField data).length = rpiBlcfgBootOrderMaxlen := by
    unfold orderField
    rw [List.length_take, List.length_ofFn]
    rfl
  obtain ⟨n, hn⟩ : ∃ n, n = rpiBlcfgBootOrderMaxlen - index := ⟨_, rfl⟩
  induction n generalizing index chars with
  | zero =>
    unfold asciiBootOrderAt
    rw [if_neg (by omega), List.drop_eq_nil_of_le (by omega)]
    refine ⟨by simp [asciiBootOrder], ?_⟩
    rintro rest ⟨⟩
    exact hle
  | succ n ih =>
    have hlt : index < (orderField data).length := by omega
    have hread : data.charAt index = some (orderField data)[index] := by
      have htake : (orderField data)[index]? = (List.ofFn data.bootOrder)[index]? :=
        List.getElem?_take_of_lt (by omega)
      rw [charAt_eq, ← htake]
      exact List.getElem?_eq_getElem hlt
    obtain ⟨hrun, hbound⟩ := ih (index + 1) (chars ++ [((orderField data)[index]).toUInt8])
      (by simp [hlength]) (by omega) (by omega)
    rw [List.drop_eq_getElem_cons hlt]
    unfold asciiBootOrderAt asciiBootOrder
    rw [if_pos (by omega), hread, Option.bind_some]
    split
    · refine ⟨by simp, ?_⟩
      rintro rest ⟨⟩
      exact hle
    · split
      · exact ⟨rfl, fun rest hrest => by cases hrest⟩
      · rw [putChar_eq (by omega), Option.bind_some, hrun]
        refine ⟨?_, ?_⟩
        · cases asciiBootOrder ((orderField data).drop (index + 1)) with
          | none => rfl
          | some rest => simp
        · intro rest hrest
          obtain ⟨rest', hrest', rfl⟩ := Option.map_eq_some_iff.mp hrest
          have hle' := hbound rest' hrest'
          rw [List.length_cons]
          omega

/-- **From the form to the values**, with every index in bounds. -/
theorem blValuesFromDataAt_eq (data : RpiBlcfgData) :
    blValuesFromDataAt data = some (blValuesFromData data) := by
  obtain ⟨hrun, hbound⟩ := asciiBootOrderAt_eq data 0 [] rfl (Nat.zero_le _)
  rw [List.drop_zero] at hrun hbound
  unfold blValuesFromDataAt blValuesFromData
  rw [hrun, Option.bind_some]
  unfold orderField at hbound ⊢
  cases hchars : asciiBootOrder ((List.ofFn data.bootOrder).take rpiBlcfgBootOrderMaxlen) with
  | none => rfl
  | some chars =>
    have hlength := hbound chars hchars
    have hfront : between (chars ++ [0]) 0 chars.length = chars := by
      unfold between
      rw [List.drop_zero, List.take_left]
    simp only [Option.map_some, List.nil_append, Option.bind_some]
    rw [putChar_eq (by omega), Option.bind_some, parseBootOrderAt_eq (by simp), hfront]
    rfl

theorem copyOrderAt_eq {str : List UInt8} (hne : ∀ c ∈ str, c ≠ 0) (hlength : str.length ≤ 12)
    {index : Nat} (hindex : index ≤ str.length) :
    copyOrderAt (str ++ [0]) index ((str.take index).map UInt8.toUInt16) =
      some (str.map UInt8.toUInt16) := by
  obtain ⟨n, hn⟩ : ∃ n, n = str.length - index := ⟨_, rfl⟩
  induction n generalizing index with
  | zero =>
    have hend : index = str.length := by omega
    unfold copyOrderAt
    rw [dif_pos (by simp [hend]), if_pos (by simp [hend]), hend, List.take_length]
  | succ n ih =>
    have hlt : index < str.length := by omega
    have hin : index < (str ++ [0]).length := by
      rw [List.length_append]
      omega
    have hread : (str ++ [0])[index] = str[index] := List.getElem_append_left hlt
    have hchars : (str.take index).map UInt8.toUInt16 ++ [(str[index]).toUInt16] =
        (str.take (index + 1)).map UInt8.toUInt16 := by
      rw [List.take_succ_eq_append_getElem hlt, List.map_append]
      rfl
    unfold copyOrderAt
    rw [dif_pos hin, hread, if_neg (hne _ (List.getElem_mem hlt)),
      putChar_eq (by rw [List.length_map, List.length_take]; omega), Option.bind_some, hchars]
    exact ih (by omega) (by omega)

/-- **From the values to the form**, with every index in bounds. -/
theorem blValuesToDataAt_eq (hv : values.Canonical) :
    blValuesToDataAt values = some (blValuesToData values) := by
  obtain ⟨hlength, hascii⟩ := bootOrder_ascii hv
  have hne : ∀ c ∈ values.bootOrder, c ≠ 0 := fun c hc => (hascii c hc).1
  have hcopy := copyOrderAt_eq hne (by omega) (Nat.zero_le _)
  rw [List.take_zero, List.map_nil] at hcopy
  unfold blValuesToDataAt
  rw [hcopy, Option.map_some]
  unfold blValuesToData
  congr 2
  funext i
  have hzero : (0 : UInt16) = UInt8.toUInt16 0 := rfl
  rw [hzero, List.getD_map]

/-! ## The whole -/

/-- **Settings nobody edited never look changed.** Every text gives canonical values, which survive
the way to the form and back, and so do the values of every form that is accepted. A boot order
keeps its digits, each with its value. Every index on the way is in bounds. -/
theorem configValues_stable (text : List UInt8) (data : RpiBlcfgData) :
    ((blValuesFromText text).Canonical ∧
      (∃ v, blValuesFromData (blValuesToData (blValuesFromText text)) = some v ∧
        blValuesEqual v (blValuesFromText text) = true) ∧
      (∀ str order, blTextGetValue text BlKey.bootOrder.name = some str →
        parseBootOrder str = some order →
        (blValuesFromText text).bootOrder = order ∧ ∃ digits, order = ascii "0x" ++ digits ∧
          (∀ c ∈ orderDigits str, (hexDigitValue c).isSome = true) ∧
          digits.map hexDigitValue = (orderDigits str).map hexDigitValue) ∧
      blValuesFromTextAt text = some (blValuesFromText text) ∧
      blValuesToDataAt (blValuesFromText text) = some (blValuesToData (blValuesFromText text))) ∧
    blValuesFromDataAt data = some (blValuesFromData data) ∧
    ∀ v, blValuesFromData data = some v →
      v.Canonical ∧ blValuesFromData (blValuesToData v) = some v ∧
        blValuesToDataAt v = some (blValuesToData v) ∧
        ∃ chars digits, asciiBootOrder (orderField data) = some chars ∧
          v.bootOrder = ascii "0x" ++ digits ∧
          (∀ c ∈ orderDigits chars, (hexDigitValue c).isSome = true) ∧
          digits.map hexDigitValue = (orderDigits chars).map hexDigitValue := by
  refine ⟨?_, blValuesFromDataAt_eq data, fun v h => ?_⟩
  · have hv := blValuesFromText_canonical text
    refine ⟨hv, ⟨_, blValuesFromData_toData hv, blValuesEqual_iff.mpr rfl⟩, ?_,
      blValuesFromTextAt_eq text, blValuesToDataAt_eq hv⟩
    intro str order hvalue hparse
    obtain ⟨digits, horder, -, -, -, hsome, hdigits⟩ := parseBootOrder_some hparse
    exact ⟨blValuesFromText_bootOrder hvalue hparse, digits, horder, hsome, hdigits⟩
  · have hv := blValuesFromData_canonical h
    obtain ⟨chars, hchars, hparse, -⟩ := blValuesFromData_some h
    obtain ⟨digits, horder, -, -, -, hsome, hdigits⟩ := parseBootOrder_some hparse
    exact ⟨hv, blValuesFromData_again h, blValuesToDataAt_eq hv, chars, digits, hchars, horder,
      hsome, hdigits⟩

/-- Eight uppercase digits in a text, and a form with a blank and no prefix. -/
theorem configValues_stable_uppercase :
    (blValuesFromText (ascii "BOOT_ORDER= 0XF461BCDE\t\r\n")).bootOrder = ascii "0xf461bcde" ∧
      blValuesFromData (blValuesToData ⟨ascii "0xf4", 1, 0, 0, 3000⟩) =
        some ⟨ascii "0xf4", 1, 0, 0, 3000⟩ := by
  have hstable := configValues_stable (ascii "BOOT_ORDER= 0XF461BCDE\t\r\n")
    ⟨fun i => [0x20, 0x46, 0x34].getD i 0, 7, 0, 0, 3000⟩
  exact ⟨(hstable.1.2.2.1 (ascii " 0XF461BCDE\t") (ascii "0xf461bcde") rfl rfl).1,
    (hstable.2.2 ⟨ascii "0xf4", 1, 0, 0, 3000⟩ rfl).2.1⟩

end Rpi5Uefi
