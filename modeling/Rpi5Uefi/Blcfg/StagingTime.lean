import Mathlib.Algebra.Group.Nat.Defs
import Rpi5Uefi.Efi.Status
import Rpi5Uefi.Lib.Calendar

/-!
# The timestamp of a staged update (`BootloaderConfigSetup.c`)

The bootloader takes a staged image whose timestamp differs from the installed one's.
`StagingTimestamp` uses the clock where its reading is plausible and later than the installed
timestamp, and else counts one up.

* **`efiTimeToUnix_eq`**: the civil-date formula against the calendar.
* **`stagingTimestamp_differs`**: the chosen timestamp, for every reading of the clock.
* **`stagingTimestamp_later`**: both for the years the clock is trusted in.
-/

namespace Rpi5Uefi

open Calendar

/-- `EFI_TIME`, of which the fields below a second and the time zone are not read. -/
structure EfiTime where
  year : UInt16
  month : UInt8
  day : UInt8
  hour : UInt8
  minute : UInt8
  second : UInt8
  deriving DecidableEq, Repr

/-- `EfiTimeToUnix`. -/
def efiTimeToUnix (time : EfiTime) : UInt32 :=
  let year : Int := time.year.toNat - if time.month ≤ 2 then 1 else 0
  let era := year.tdiv 400
  let yoe := year - era * 400
  let doy : Int :=
    (153 * ((time.month.toNat : Int) + if time.month > 2 then -3 else 9) + 2).tdiv 5 +
      time.day.toNat - 1
  let doe := yoe * 365 + yoe.tdiv 4 - yoe.tdiv 100 + doy
  let days := era * 146097 + doe - 719468
  UInt32.ofInt (days * 86400 + time.hour.toNat * 3600 + time.minute.toNat * 60 +
    time.second.toNat)

/-- `StagingTimestamp`, for what `GetTime` says. -/
def stagingTimestamp (getTime : Except { status : EfiStatus // status.isError = true } EfiTime)
    (mDtbUpdateTimestamp : UInt32) : UInt32 :=
  match getTime with
  | .ok time =>
    if time.year ≥ 2025 ∧ time.year ≤ 2100 then
      let unix := efiTimeToUnix time
      if unix > mDtbUpdateTimestamp then unix else mDtbUpdateTimestamp + 1
    else mDtbUpdateTimestamp + 1
  | .error _ => mDtbUpdateTimestamp + 1

/-! ## The formula -/

/-- The date and time the fields stand for. -/
def EfiTime.civil (time : EfiTime) : Civil where
  year := time.year.toNat
  month := time.month.toNat
  day := time.day.toNat
  hour := time.hour.toNat
  minute := time.minute.toNat
  second := time.second.toNat

/-- The days of the formula, for a year counted from March and the months since. -/
theorem civilDays_eq {y : Nat} (mp : Nat) (d : Int) (hy : 1 ≤ y) :
    (let year : Int := y
     let era := year.tdiv 400
     let yoe := year - era * 400
     let doy : Int := (153 * (mp : Int) + 2).tdiv 5 + d - 1
     let doe := yoe * 365 + yoe.tdiv 4 - yoe.tdiv 100 + doy
     era * 146097 + doe - 719468) =
      365 * (y : Int) + ((y / 4 : Nat) : Int) - ((y / 100 : Nat) : Int) + ((y / 400 : Nat) : Int) +
        (((153 * mp + 2) / 5 : Nat) : Int) + d - 719469 := by
  simp only
  rw [Int.tdiv_eq_ediv_of_nonneg (by omega), Int.tdiv_eq_ediv_of_nonneg (by omega),
    Int.tdiv_eq_ediv_of_nonneg (by omega), Int.tdiv_eq_ediv_of_nonneg (by omega)]
  omega

theorem civilDays_march {y m d : Nat} (hy : 1970 ≤ y) (h3 : 3 ≤ m) (h12 : m ≤ 12) (hd : 1 ≤ d) :
    365 * (y : Int) + ((y / 4 : Nat) : Int) - ((y / 100 : Nat) : Int) + ((y / 400 : Nat) : Int) +
        (((153 * (m - 3) + 2) / 5 : Nat) : Int) + d - 719469 =
      ((daysOfYears (y - 1970) + (daysOfMonths y (m - 1) + (d - 1)) : Nat) : Int) := by
  have hyears := daysOfYears_eq (y - 1970)
  rw [daysOfMonths_march y h3 h12]
  unfold leapDay
  split <;> omega

theorem civilDays_january {y m d : Nat} (hy : 1970 ≤ y) (h1 : 1 ≤ m) (h2 : m ≤ 2) (hd : 1 ≤ d) :
    365 * ((y - 1 : Nat) : Int) + (((y - 1) / 4 : Nat) : Int) - (((y - 1) / 100 : Nat) : Int) +
        (((y - 1) / 400 : Nat) : Int) + (((153 * (m + 9) + 2) / 5 : Nat) : Int) + d - 719469 =
      ((daysOfYears (y - 1970) + (daysOfMonths y (m - 1) + (d - 1)) : Nat) : Int) := by
  have hyears := daysOfYears_eq (y - 1970)
  have hmonths := daysOfMonths_january y h1 h2
  omega

/-- **The formula is the calendar's**, from 1970 on and up to the cast. -/
theorem efiTimeToUnix_eq {time : EfiTime} (h : time.civil.Valid) (hyear : 1970 ≤ time.year.toNat) :
    efiTimeToUnix time = UInt32.ofInt time.civil.seconds := by
  have hmonth : 1 ≤ time.month.toNat ∧ time.month.toNat ≤ 12 := h.month
  have hday : 1 ≤ time.day.toNat := h.day.1
  have hle : time.month ≤ 2 ↔ time.month.toNat ≤ 2 := UInt8.le_iff_toNat_le
  have hlt : time.month > 2 ↔ 2 < time.month.toNat := UInt8.lt_iff_toNat_lt
  have hseconds : (time.civil.seconds : Int) =
      ((daysOfYears (time.year.toNat - 1970) + (daysOfMonths time.year.toNat
        (time.month.toNat - 1) + (time.day.toNat - 1)) : Nat) : Int) * 86400 +
        time.hour.toNat * 3600 + time.minute.toNat * 60 + time.second.toNat := by
    simp only [Civil.seconds, Civil.dayOfYear, Civil.timeOfDay, EfiTime.civil]
    omega
  rw [hseconds]
  unfold efiTimeToUnix
  rcases Nat.lt_or_ge 2 time.month.toNat with hmarch | hjanuary
  · rw [if_neg (hle.not.mpr (Nat.not_le.mpr hmarch)), if_pos (hlt.mpr hmarch),
      show (time.year.toNat : Int) - 0 = (time.year.toNat : Int) by omega,
      show (time.month.toNat : Int) + -3 = ((time.month.toNat - 3 : Nat) : Int) by omega]
    have hdays := (civilDays_eq (time.month.toNat - 3) time.day.toNat (by omega)).trans
      (civilDays_march hyear hmarch hmonth.2 hday)
    rw [← hdays]
  · rw [if_pos (hle.mpr hjanuary), if_neg (hlt.not.mpr (Nat.not_lt.mpr hjanuary)),
      show (time.year.toNat : Int) - 1 = ((time.year.toNat - 1 : Nat) : Int) by omega,
      show (time.month.toNat : Int) + 9 = ((time.month.toNat + 9 : Nat) : Int) by omega]
    have hdays := (civilDays_eq (time.month.toNat + 9) time.day.toNat (by omega)).trans
      (civilDays_january hyear hmonth.1 hjanuary hday)
    rw [← hdays]

/-- Until 2100 the seconds fit. -/
theorem seconds_lt_of_year {c : Civil} (h : c.Valid) (hyear : 1970 ≤ c.year ∧ c.year ≤ 2100) :
    c.seconds < 2 ^ 32 := by
  have hin := h.dayOfYear_lt h.month.2
  have htime := h.timeOfDay_lt
  have hle := daysOfYears_le (show c.year - 1970 < 131 by omega)
  rw [daysOfMonths_year] at hin
  rw [show 1970 + (c.year - 1970) = c.year by omega] at hle
  have hlast := daysOfYears_eq 131
  unfold Civil.seconds
  omega

theorem toNat_efiTimeToUnix {time : EfiTime} (h : time.civil.Valid)
    (hyear : 1970 ≤ time.year.toNat ∧ time.year.toNat ≤ 2100) :
    (efiTimeToUnix time).toNat = time.civil.seconds := by
  rw [efiTimeToUnix_eq h hyear.1]
  have hfits := seconds_lt_of_year h hyear
  unfold UInt32.ofInt
  rw [Int.emod_eq_of_lt (by omega) (by omega), Int.toNat_natCast, UInt32.toNat_ofNat',
    Nat.mod_eq_of_lt hfits]

/-! ## The chosen timestamp -/

theorem lt_add_one_of_ne_max {x : UInt32} (h : x ≠ 0xFFFFFFFF) : x < x + 1 := by
  have hlt := x.toNat_lt
  have hne : x.toNat ≠ 0xFFFFFFFF := fun he => h (UInt32.toNat_inj.mp he)
  rw [UInt32.lt_iff_toNat_lt, UInt32.toNat_add]
  show x.toNat < (x.toNat + 1) % 2 ^ 32
  omega

theorem add_one_ne (x : UInt32) : x + 1 ≠ x := by
  have hlt := x.toNat_lt
  intro h
  have hnat := congrArg UInt32.toNat h
  rw [UInt32.toNat_add] at hnat
  have hnat : (x.toNat + 1) % 2 ^ 32 = x.toNat := hnat
  omega

/-- **The timestamp differs** from the installed one, and is later where that is not the last. -/
theorem stagingTimestamp_differs
    (getTime : Except { status : EfiStatus // status.isError = true } EfiTime)
    (installed : UInt32) :
    stagingTimestamp getTime installed ≠ installed ∧
      (installed ≠ 0xFFFFFFFF → installed < stagingTimestamp getTime installed) := by
  have hnext : installed + 1 ≠ installed ∧
      (installed ≠ 0xFFFFFFFF → installed < installed + 1) :=
    ⟨add_one_ne installed, lt_add_one_of_ne_max⟩
  unfold stagingTimestamp
  split
  · split
    · simp only
      split
      · rename_i hlater
        exact ⟨fun h => absurd hlater (h ▸ UInt32.lt_irrefl _), fun _ => hlater⟩
      · exact hnext
    · exact hnext
  · exact hnext

/-- **The timestamps of a staged update.** In the years the clock is trusted in, the seconds are
exact, fit and follow the calendar; and whatever the clock says, the installed timestamp is left
behind. -/
theorem stagingTimestamp_later :
    (∀ time : EfiTime, time.civil.Valid → 2025 ≤ time.year.toNat → time.year.toNat ≤ 2100 →
        (efiTimeToUnix time).toNat = time.civil.seconds ∧ time.civil.seconds < 2 ^ 32) ∧
      (∀ a b : EfiTime, a.civil.Valid → b.civil.Valid →
        2025 ≤ a.year.toNat → a.year.toNat ≤ 2100 → 2025 ≤ b.year.toNat → b.year.toNat ≤ 2100 →
        a.civil.Before b.civil → efiTimeToUnix a < efiTimeToUnix b) ∧
      ∀ (getTime : Except { status : EfiStatus // status.isError = true } EfiTime)
        (installed : UInt32),
        stagingTimestamp getTime installed ≠ installed ∧
          (installed ≠ 0xFFFFFFFF → installed < stagingTimestamp getTime installed) := by
  refine ⟨fun time h hfirst hlast => ?_, fun a b ha hb hfirst hlast hfirst' hlast' hbefore => ?_,
    stagingTimestamp_differs⟩
  · refine ⟨toNat_efiTimeToUnix h ⟨by omega, hlast⟩, seconds_lt_of_year h ⟨?_, hlast⟩⟩
    show 1970 ≤ time.year.toNat
    omega
  · rw [UInt32.lt_iff_toNat_lt, toNat_efiTimeToUnix ha ⟨by omega, hlast⟩,
      toNat_efiTimeToUnix hb ⟨by omega, hlast'⟩]
    refine seconds_lt ha hb ?_ hbefore
    show 1970 ≤ a.year.toNat
    omega

/-- The last second of a leap day, and the next one. -/
def leapDayEnd : EfiTime := ⟨2028, 2, 29, 23, 59, 59⟩

def leapDayNext : EfiTime := ⟨2028, 3, 1, 0, 0, 0⟩

theorem leapDay_later :
    (efiTimeToUnix leapDayEnd).toNat = 1835481599 ∧
      efiTimeToUnix leapDayEnd < efiTimeToUnix leapDayNext := by
  have hend : leapDayEnd.civil.Valid := ⟨by decide, by decide, by decide, by decide, by decide⟩
  have hnext : leapDayNext.civil.Valid := ⟨by decide, by decide, by decide, by decide, by decide⟩
  obtain ⟨hexact, hbefore, -⟩ := stagingTimestamp_later
  refine ⟨?_, hbefore _ _ hend hnext (by decide) (by decide) (by decide) (by decide) (by decide)⟩
  rw [(hexact leapDayEnd hend (by decide) (by decide)).1]
  decide

end Rpi5Uefi
