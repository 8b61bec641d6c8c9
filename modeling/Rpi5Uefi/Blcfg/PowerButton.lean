import Rpi5Uefi.Blcfg.Publish
import Rpi5Uefi.Blcfg.RoundTrip

/-!
# The power button's reading of the config (`PowerButtonDxe.c`)

`ReadPowerOffOnHalt` scans the same region as `LoadBlconfig` for `POWER_OFF_ON_HALT=1`, with a scan
of its own: the first line with the key decides, and only the byte behind the `=` is looked at. The
Setup page takes the last line with the key, and any decimal number that is not 0.

* **`scanPowerOffOnHalt_eq`**: the scan, as the first of the lines in front of the first NUL.
* **`powerOffOnHalt_agree_iff`**: the texts on which the two readers agree, in particular those with
  one such line.
-/

namespace Rpi5Uefi

open Bytes Lines

/-! ## The scan -/

/-- `BLCONFIG_STAGE_MAX`. -/
def blconfigStageMax : Nat := 0x2000

/-- `Key`. -/
def powerOffOnHaltKey : List UInt8 := ascii "POWER_OFF_ON_HALT="

/-- `'1'`. -/
def chOne : UInt8 := 0x31

/-- The scan from `Pos`: `lineStart` holds in the outer loop, and not in the inner one that looks
for the next line. -/
def scanPowerOffOnHalt : Bool → List UInt8 → Bool
  | _, [] => false
  | lineStart, c :: rest =>
    if c = 0 then false
    else if lineStart ∧ (c :: rest).length > powerOffOnHaltKey.length ∧
        (c :: rest).take powerOffOnHaltKey.length = powerOffOnHaltKey then
      (c :: rest)[powerOffOnHaltKey.length]? = some chOne
    else scanPowerOffOnHalt (c = chLf) rest

/-- `ReadPowerOffOnHalt`: `region` is the address and the size `GetTranslatedRegAddress` gives for
the blconfig node, where there is one. -/
def readPowerOffOnHalt (region : Option (Nat × Nat)) (memory : Mem) (poolFull : Bool) : Bool :=
  match region with
  | none => false
  | some (regionAddress, regionSize) =>
    if regionAddress = 0 ∨ regionSize = 0 ∨ regionSize ≥ blconfigRegionMax then false
    else if poolFull then false
    else scanPowerOffOnHalt true (memory.slice regionAddress (min regionSize blconfigStageMax))

/-! ## The lines with the key -/

/-- The lines of a text that have the key `POWER_OFF_ON_HALT`. -/
def powerOffLines (text : List UInt8) : List (List UInt8) :=
  ((lines chLf text).map Line.body).filter (lineHasKey · BlKey.powerOffOnHalt.name)

/-- The bytes in front of the first NUL. -/
def beforeNul (data : List UInt8) : List UInt8 := data.takeWhile (· != 0)

variable {text data line value : List UInt8} {ls : List (Line UInt8)}

theorem lineHasKey_powerOff_iff :
    lineHasKey line BlKey.powerOffOnHalt.name = true ↔
      ∃ rest, line = powerOffOnHaltKey ++ rest := by
  have hkey : powerOffOnHaltKey = BlKey.powerOffOnHalt.name ++ [chEq] := by decide
  rw [lineHasKey_iff, hkey]
  simp only [List.append_assoc, List.singleton_append]

/-- The scan of a text starts with its first line. -/
theorem lines_head (text : List UInt8) (hne : text ≠ []) :
    ∃ terminated rest, lines chLf text = ⟨text.takeWhile (· != chLf), terminated⟩ :: rest := by
  induction text with
  | nil => exact absurd rfl hne
  | cons c text ih =>
    by_cases hc : c = chLf
    · refine ⟨true, lines chLf text, ?_⟩
      rw [lines, if_pos hc, List.takeWhile_cons_of_neg (by simpa using hc)]
    · rw [lines, if_neg hc, List.takeWhile_cons_of_pos (by simpa using hc)]
      cases text with
      | nil => exact ⟨false, [], rfl⟩
      | cons d text =>
        obtain ⟨terminated, rest, hlines⟩ := ih (List.cons_ne_nil d text)
        rw [hlines]
        exact ⟨terminated, rest, rfl⟩

/-- Does the first line with the key have a 1 behind the `=`? -/
def firstIsOne (ls : List (Line UInt8)) : Bool :=
  match (ls.map Line.body).find? (lineHasKey · BlKey.powerOffOnHalt.name) with
  | some line => (line)[powerOffOnHaltKey.length]? = some chOne
  | none => false

theorem firstIsOne_cons_of_not {l : Line UInt8}
    (h : ¬lineHasKey l.body BlKey.powerOffOnHalt.name = true) :
    firstIsOne (l :: ls) = firstIsOne ls := by
  unfold firstIsOne
  rw [List.map_cons, List.find?_cons_of_neg (by simpa using h)]

theorem firstIsOne_cons_of_key {l : Line UInt8}
    (h : lineHasKey l.body BlKey.powerOffOnHalt.name = true) :
    firstIsOne (l :: ls) = decide (l.body[powerOffOnHaltKey.length]? = some chOne) := by
  unfold firstIsOne
  rw [List.map_cons, List.find?_cons_of_pos (by simpa using h)]

theorem lines_cons_tail {c : UInt8} (hc : c ≠ chLf) (text : List UInt8) :
    (lines chLf (c :: text)).tail = (lines chLf text).tail := by
  rw [lines, if_neg hc]
  cases lines chLf text <;> rfl

/-- What the scan tests at the start of a line. -/
theorem atKey_iff : (data.length > powerOffOnHaltKey.length ∧
      data.take powerOffOnHaltKey.length = powerOffOnHaltKey) ↔
    ∃ d rest, data = powerOffOnHaltKey ++ d :: rest := by
  constructor
  · rintro ⟨hlen, htake⟩
    refine ⟨data[powerOffOnHaltKey.length], data.drop (powerOffOnHaltKey.length + 1), ?_⟩
    have hsplit := List.take_append_drop powerOffOnHaltKey.length data
    rw [htake, List.drop_eq_getElem_cons hlen] at hsplit
    exact hsplit.symm
  · rintro ⟨d, rest, rfl⟩
    simp

/-- The key has no NUL and no newline. -/
theorem powerOffOnHaltKey_plain : ∀ c ∈ powerOffOnHaltKey, c ≠ 0 ∧ c ≠ chLf := by
  decide +kernel

theorem beforeNul_key (rest : List UInt8) :
    beforeNul (powerOffOnHaltKey ++ rest) = powerOffOnHaltKey ++ beforeNul rest :=
  List.takeWhile_append_of_pos fun c hc => by simpa using (powerOffOnHaltKey_plain c hc).1

theorem takeWhile_lf_key (rest : List UInt8) :
    (powerOffOnHaltKey ++ rest).takeWhile (· != chLf) =
      powerOffOnHaltKey ++ rest.takeWhile (· != chLf) :=
  List.takeWhile_append_of_pos fun c hc => by simpa using (powerOffOnHaltKey_plain c hc).2

/-- The byte behind the key is the same in the data and on its line, where it is a 1. -/
theorem getElem?_line_iff (d : UInt8) (rest : List UInt8) :
    ((powerOffOnHaltKey ++ beforeNul (d :: rest)).takeWhile
        (· != chLf))[powerOffOnHaltKey.length]? = some chOne ↔
      (powerOffOnHaltKey ++ d :: rest)[powerOffOnHaltKey.length]? = some chOne := by
  rw [takeWhile_lf_key, List.getElem?_append_right (Nat.le_refl _),
    List.getElem?_append_right (Nat.le_refl _), Nat.sub_self]
  by_cases hd : d = chOne
  · subst hd
    rfl
  · simp only [List.getElem?_cons_zero, Option.some.injEq]
    refine iff_of_false (fun h => hd ?_) hd
    unfold beforeNul at h
    rw [List.takeWhile_cons] at h
    split at h
    · rw [List.takeWhile_cons] at h
      split at h
      · simpa using h
      · cases h
    · cases h

/-- **The scan.** At a line start it decides by the first line with the key in front of the first
NUL; inside a line, by the first of the lines behind this one. -/
theorem scanPowerOffOnHalt_eq (lineStart : Bool) (data : List UInt8) :
    scanPowerOffOnHalt lineStart data =
      firstIsOne (if lineStart then lines chLf (beforeNul data)
        else (lines chLf (beforeNul data)).tail) := by
  induction data generalizing lineStart with
  | nil => cases lineStart <;> rfl
  | cons c rest ih =>
    rw [scanPowerOffOnHalt]
    by_cases hnul : c = 0
    · rw [if_pos hnul]
      have hempty : beforeNul (c :: rest) = [] := List.takeWhile_cons_of_neg (by simpa using hnul)
      rw [hempty]
      cases lineStart <;> rfl
    rw [if_neg hnul]
    have hcons : beforeNul (c :: rest) = c :: beforeNul rest :=
      List.takeWhile_cons_of_pos (by simpa using hnul)
    cases lineStart with
    | false =>
      rw [if_neg (by simp), ih, hcons]
      by_cases hlf : c = chLf
      · simp [hlf, lines]
      · simp [hlf, lines_cons_tail]
    | true =>
      obtain ⟨terminated, later, hlines⟩ := lines_head (beforeNul (c :: rest)) (by simp [hcons])
      have htail : (lines chLf (beforeNul (c :: rest))).tail = later := by rw [hlines]; rfl
      simp only [true_and, if_true]
      by_cases hmatch : (c :: rest).length > powerOffOnHaltKey.length ∧
          (c :: rest).take powerOffOnHaltKey.length = powerOffOnHaltKey
      · -- the line has the key, and its next byte decides
        rw [if_pos hmatch]
        obtain ⟨d, tail, hsplit⟩ := atKey_iff.mp hmatch
        rw [hlines, hsplit, beforeNul_key, firstIsOne_cons_of_key]
        · exact decide_eq_decide.mpr (getElem?_line_iff d tail).symm
        · rw [takeWhile_lf_key]
          exact lineHasKey_powerOff_iff.mpr ⟨_, rfl⟩
      · rw [if_neg hmatch, ih]
        have hlater : firstIsOne (if decide (c = chLf) = true then lines chLf (beforeNul rest)
            else (lines chLf (beforeNul rest)).tail) = firstIsOne later := by
          rw [← htail, hcons]
          by_cases hlf : c = chLf
          · simp [hlf, lines]
          · simp [hlf, lines_cons_tail]
        rw [hlater, hlines]
        by_cases hkey : lineHasKey ((beforeNul (c :: rest)).takeWhile (· != chLf))
            BlKey.powerOffOnHalt.name = true
        · -- a key that ends the data: nothing is behind it, on its line or further down
          obtain ⟨value, hvalue⟩ := lineHasKey_powerOff_iff.mp hkey
          have hprefix : powerOffOnHaltKey <+: c :: rest := by
            refine List.IsPrefix.trans ⟨value, hvalue.symm⟩ ?_
            exact (List.takeWhile_prefix _).trans (List.takeWhile_prefix _)
          obtain ⟨behind, hbehind⟩ := hprefix
          cases behind with
          | cons d tail => exact absurd (atKey_iff.mpr ⟨d, tail, hbehind.symm⟩) hmatch
          | nil =>
            rw [List.append_nil] at hbehind
            rw [← hbehind] at hlines ⊢
            have hall : lines chLf (beforeNul powerOffOnHaltKey) =
                [⟨powerOffOnHaltKey, false⟩] := by
              decide +kernel
            rw [hall] at hlines
            cases hlines
            decide +kernel
        · rw [firstIsOne_cons_of_not hkey]

/-! ## The two readers -/

variable {region : Option (Nat × Nat)} {memory : Mem} {poolFull : Bool}

/-- The bytes both drivers copy of the region, none where they refuse it. -/
def blconfigBytes (region : Option (Nat × Nat)) (memory : Mem) (poolFull : Bool) : List UInt8 :=
  (stageBlconfig true none region memory poolFull).blconfigRaw.getD []

/-- The drivers refuse the same regions, and copy the same bytes. -/
theorem readPowerOffOnHalt_eq (region : Option (Nat × Nat)) (memory : Mem) (poolFull : Bool) :
    readPowerOffOnHalt region memory poolFull =
      scanPowerOffOnHalt true (blconfigBytes region memory poolFull) := by
  unfold readPowerOffOnHalt blconfigBytes stageBlconfig
  cases region with
  | none => rfl
  | some place =>
    simp only [Bool.not_true, Bool.false_eq_true, if_false]
    split
    · rfl
    · cases poolFull <;> rfl

theorem currentValues_loadBlconfig (region : Option (Nat × Nat)) (memory : Mem) (poolFull : Bool) :
    (loadBlconfig true region memory poolFull).currentValues =
      blValuesFromText (delimited (blconfigBytes region memory poolFull)) := by
  rw [loadBlconfig_eq true none]
  unfold BlLive.currentValues blconfigBytes
  cases (stageBlconfig true none region memory poolFull).blconfigRaw <;> rfl

/-- The value of a line begins with a 1: what the power button takes for on. -/
def OneBehindKey (line : List UInt8) : Prop := (line)[powerOffOnHaltKey.length]? = some chOne

/-- The value of a line, less a final CR, is a decimal number other than 0: what the Setup page
takes for on. -/
def NonzeroValue (line : List UInt8) : Prop :=
  ∃ number ≠ 0, parseDecimal (lineValue line BlKey.powerOffOnHalt.name) = some number

theorem scanPowerOffOnHalt_iff (data : List UInt8) :
    scanPowerOffOnHalt true data = true ↔
      ∃ line, (powerOffLines (beforeNul data)).head? = some line ∧ OneBehindKey line := by
  unfold OneBehindKey
  rw [scanPowerOffOnHalt_eq, if_pos rfl, powerOffLines, List.head?_filter, firstIsOne]
  split
  · rename_i line hline
    simp [hline]
  · rename_i hnone
    simp [hnone]

theorem powerOffOnHalt_iff (text : List UInt8) :
    (blValuesFromText text).powerOffOnHalt = 1 ↔
      ∃ line, (powerOffLines text).getLast? = some line ∧ NonzeroValue line := by
  show flagFromText text BlKey.powerOffOnHalt.name 0 = 1 ↔ _
  have hget : blTextGetValue text BlKey.powerOffOnHalt.name =
      (powerOffLines text).getLast?.map (lineValue · BlKey.powerOffOnHalt.name) :=
    blTextGetValue_eq _ _
  unfold flagFromText NonzeroValue
  rw [hget]
  cases (powerOffLines text).getLast? with
  | none => simp
  | some line =>
    simp only [Option.map_some, Option.bind_some, Option.some.injEq, exists_eq_left']
    cases parseDecimal (lineValue line BlKey.powerOffOnHalt.name) with
    | none => simp
    | some number => by_cases h : number = 0 <;> simp [h]

/-- The texts that mean the same to both: the first line with the key in front of the first NUL and
the last one in front of the first NUL or erased byte are both on, or neither is. -/
inductive ReadersAgree (data : List UInt8) : Prop where
  | on {first last : List UInt8}
      (hfirst : (powerOffLines (beforeNul data)).head? = some first) (hone : OneBehindKey first)
      (hlast : (powerOffLines (delimited data)).getLast? = some last)
      (hnumber : NonzeroValue last)
  | off
      (hfirst : ∀ first, (powerOffLines (beforeNul data)).head? = some first → ¬OneBehindKey first)
      (hlast : ∀ last, (powerOffLines (delimited data)).getLast? = some last → ¬NonzeroValue last)

theorem readersAgree_iff (data : List UInt8) :
    ((∃ first, (powerOffLines (beforeNul data)).head? = some first ∧ OneBehindKey first) ↔
        ∃ last, (powerOffLines (delimited data)).getLast? = some last ∧ NonzeroValue last) ↔
      ReadersAgree data := by
  constructor
  · intro hagree
    by_cases hon : ∃ first,
        (powerOffLines (beforeNul data)).head? = some first ∧ OneBehindKey first
    · obtain ⟨last, hlast, hnumber⟩ := hagree.mp hon
      obtain ⟨first, hfirst, hone⟩ := hon
      exact .on hfirst hone hlast hnumber
    · exact .off (fun first hfirst hone => hon ⟨first, hfirst, hone⟩)
        fun last hlast hnumber => hon (hagree.mpr ⟨last, hlast, hnumber⟩)
  · intro h
    cases h with
    | on hfirst hone hlast hnumber =>
      exact iff_of_true ⟨_, hfirst, hone⟩ ⟨_, hlast, hnumber⟩
    | off hfirst hlast =>
      refine iff_of_false ?_ ?_
      · rintro ⟨first, heq, hone⟩
        exact hfirst first heq hone
      · rintro ⟨last, heq, hnumber⟩
        exact hlast last heq hnumber

/-- With one such line, in front of any erased byte, the value alone decides. -/
theorem singleLine_agree_iff (hnul : powerOffLines (beforeNul data) = [line])
    (herased : powerOffLines (delimited data) = [line]) :
    ReadersAgree data ↔ (OneBehindKey line ↔ NonzeroValue line) := by
  constructor
  · intro h
    cases h with
    | on hfirst hone hlast hnumber =>
      rw [hnul] at hfirst
      rw [herased] at hlast
      cases hfirst
      cases hlast
      exact iff_of_true hone hnumber
    | off hfirst hlast =>
      rw [hnul] at hfirst
      rw [herased] at hlast
      exact iff_of_false (hfirst line rfl) (hlast line rfl)
  · intro hsame
    by_cases hone : OneBehindKey line
    · exact .on (by rw [hnul]; rfl) hone (by rw [herased]; rfl) (hsame.mp hone)
    · refine .off (fun first hfirst => ?_) fun last hlast => ?_
      · rw [hnul] at hfirst
        cases hfirst
        exact hone
      · rw [herased] at hlast
        cases hlast
        exact fun hnumber => hone (hsame.mpr hnumber)

/-- **The two readers of `POWER_OFF_ON_HALT`** agree on exactly these texts. -/
theorem powerOffOnHalt_agree_iff (region : Option (Nat × Nat)) (memory : Mem) (poolFull : Bool) :
    ((readPowerOffOnHalt region memory poolFull = true ↔
        (loadBlconfig true region memory poolFull).currentValues.powerOffOnHalt = 1) ↔
      ReadersAgree (blconfigBytes region memory poolFull)) ∧
    ∀ line, powerOffLines (beforeNul (blconfigBytes region memory poolFull)) = [line] →
      powerOffLines (delimited (blconfigBytes region memory poolFull)) = [line] →
      (ReadersAgree (blconfigBytes region memory poolFull) ↔
        (OneBehindKey line ↔ NonzeroValue line)) := by
  rw [readPowerOffOnHalt_eq, currentValues_loadBlconfig, scanPowerOffOnHalt_iff, powerOffOnHalt_iff]
  generalize blconfigBytes region memory poolFull = data
  exact ⟨readersAgree_iff data, fun _ => singleLine_agree_iff⟩

/-- A region of 21 bytes at 4. -/
def haltRegion (text : String) : Option (Nat × Nat) × Mem :=
  (some (4, 21), fun i => (ascii text).getD (i - 4) 0)

/-- A value that is not exactly 1 counts for the power button. -/
theorem powerOffOnHalt_oneX :
    ¬(readPowerOffOnHalt (haltRegion "POWER_OFF_ON_HALT=1x\n").1
          (haltRegion "POWER_OFF_ON_HALT=1x\n").2 false = true ↔
        (loadBlconfig true (haltRegion "POWER_OFF_ON_HALT=1x\n").1
          (haltRegion "POWER_OFF_ON_HALT=1x\n").2 false).currentValues.powerOffOnHalt = 1) := by
  decide +kernel

end Rpi5Uefi
