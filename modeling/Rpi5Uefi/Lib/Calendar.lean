import Mathlib.Tactic.Common
import Mathlib.Tactic.IntervalCases

/-!
# The Gregorian calendar and the Unix time scale

Dates count from the first of January 1970, year by year and month by month; a day has 86400
seconds.

* **`daysOfYears_eq`**: the days before a year in closed form.
* **`seconds_lt`**: later in calendar order is later on the time scale.
-/

namespace Calendar

/-- A date and a time of day. -/
structure Civil where
  year : Nat
  month : Nat
  day : Nat
  hour : Nat
  minute : Nat
  second : Nat
  deriving DecidableEq, Repr

/-- Every fourth year, but of the centuries every fourth one. -/
def leapDay (y : Nat) : Nat := if y % 4 = 0 ∧ (y % 100 ≠ 0 ∨ y % 400 = 0) then 1 else 0

def yearDays (y : Nat) : Nat := 365 + leapDay y

def monthDays (y m : Nat) : Nat :=
  if m = 2 then 28 + leapDay y
  else if m = 4 ∨ m = 6 ∨ m = 9 ∨ m = 11 then 30
  else 31

structure Civil.Valid (c : Civil) : Prop where
  month : 1 ≤ c.month ∧ c.month ≤ 12
  day : 1 ≤ c.day ∧ c.day ≤ monthDays c.year c.month
  hour : c.hour < 24
  minute : c.minute < 60
  second : c.second < 60

/-- The days of the first months of a year. -/
def daysOfMonths (y : Nat) : Nat → Nat
  | 0 => 0
  | m + 1 => daysOfMonths y m + monthDays y (m + 1)

/-- The days of the first years from 1970 on. -/
def daysOfYears : Nat → Nat
  | 0 => 0
  | n + 1 => daysOfYears n + yearDays (1970 + n)

/-- The days of the year that are over. -/
def Civil.dayOfYear (c : Civil) : Nat := daysOfMonths c.year (c.month - 1) + (c.day - 1)

/-- The seconds of the day that are over. -/
def Civil.timeOfDay (c : Civil) : Nat := c.hour * 3600 + c.minute * 60 + c.second

/-- The seconds since 1970. -/
def Civil.seconds (c : Civil) : Nat :=
  (daysOfYears (c.year - 1970) + c.dayOfYear) * 86400 + c.timeOfDay

/-- The order of the calendar. -/
def Civil.Before (a b : Civil) : Prop :=
  a.year < b.year ∨ a.year = b.year ∧
    (a.month < b.month ∨ a.month = b.month ∧
      (a.day < b.day ∨ a.day = b.day ∧
        (a.hour < b.hour ∨ a.hour = b.hour ∧
          (a.minute < b.minute ∨ a.minute = b.minute ∧ a.second < b.second))))

instance (a b : Civil) : Decidable (a.Before b) :=
  inferInstanceAs (Decidable (_ ∨ _ ∧ (_ ∨ _ ∧ (_ ∨ _ ∧ (_ ∨ _ ∧ (_ ∨ _ ∧ _))))))

/-! ## Closed forms -/

/-- **The days before a year**, counted by its leap days since the year one. -/
theorem daysOfYears_eq (n : Nat) :
    daysOfYears n + 719162 + (1969 + n) / 100 =
      365 * (1969 + n) + (1969 + n) / 4 + (1969 + n) / 400 := by
  induction n with
  | zero => rfl
  | succ n ih =>
    have hstep : ∀ k, (1969 + (n + 1)) / k = (1969 + n) / k + if k ∣ 1970 + n then 1 else 0 :=
      fun k => by
        rw [show 1969 + (n + 1) = 1969 + n + 1 by omega, show 1970 + n = 1969 + n + 1 by omega]
        exact Nat.succ_div
    have hcentury : 100 ∣ 1970 + n → 4 ∣ 1970 + n := (Nat.dvd_trans (by decide) ·)
    have hfourth : 400 ∣ 1970 + n → 100 ∣ 1970 + n := (Nat.dvd_trans (by decide) ·)
    rw [hstep, hstep, hstep]
    unfold daysOfYears yearDays leapDay
    simp only [ne_eq, ← Nat.dvd_iff_mod_eq_zero]
    -- each of the three divisors counts the years it divides
    by_cases h4 : 4 ∣ 1970 + n
    case neg =>
      rw [if_neg fun h => h4 h.1, if_neg fun h => h4 (hcentury h), if_neg h4,
        if_neg fun h => h4 (hcentury (hfourth h))]
      omega
    by_cases h100 : 100 ∣ 1970 + n
    case neg =>
      rw [if_pos ⟨h4, Or.inl h100⟩, if_neg h100, if_pos h4, if_neg fun h => h100 (hfourth h)]
      omega
    by_cases h400 : 400 ∣ 1970 + n
    · rw [if_pos ⟨h4, Or.inr h400⟩, if_pos h100, if_pos h4, if_pos h400]
      omega
    · rw [if_neg fun h => h.2.elim (fun h => h h100) h400, if_pos h100, if_pos h4, if_neg h400]
      omega

/-- **The days before a month**, from March on. -/
theorem daysOfMonths_march (y : Nat) {m : Nat} (h3 : 3 ≤ m) (h12 : m ≤ 12) :
    daysOfMonths y (m - 1) = 59 + leapDay y + (153 * (m - 3) + 2) / 5 := by
  interval_cases m <;> simp [daysOfMonths, monthDays] <;> omega

/-- The months before March, counted from the March of the year before. -/
theorem daysOfMonths_january (y : Nat) {m : Nat} (h1 : 1 ≤ m) (h2 : m ≤ 2) :
    daysOfMonths y (m - 1) + 306 = (153 * (m + 9) + 2) / 5 := by
  interval_cases m
  · rfl
  · rfl

theorem daysOfMonths_year (y : Nat) : daysOfMonths y 12 = yearDays y := by
  simp [daysOfMonths, monthDays, yearDays]
  omega

/-! ## Order -/

theorem daysOfMonths_le (y : Nat) {m n : Nat} (h : m < n) :
    daysOfMonths y m + monthDays y (m + 1) ≤ daysOfMonths y n := by
  induction n with
  | zero => omega
  | succ n ih =>
    rcases Nat.lt_or_ge m n with hlt | hge
    · exact Nat.le_trans (ih hlt) (Nat.le_add_right _ _)
    · obtain rfl : m = n := by omega
      exact Nat.le_refl _

theorem daysOfYears_le {m n : Nat} (h : m < n) :
    daysOfYears m + yearDays (1970 + m) ≤ daysOfYears n := by
  induction n with
  | zero => omega
  | succ n ih =>
    rcases Nat.lt_or_ge m n with hlt | hge
    · exact Nat.le_trans (ih hlt) (Nat.le_add_right _ _)
    · obtain rfl : m = n := by omega
      exact Nat.le_refl _

variable {a b c : Civil}

/-- A valid date is within its month. -/
theorem Civil.Valid.dayOfYear_lt (h : c.Valid) {m : Nat} (hm : c.month ≤ m) :
    c.dayOfYear < daysOfMonths c.year m := by
  have hle := daysOfMonths_le c.year (show c.month - 1 < m by have := h.month; omega)
  have hday := h.day
  rw [Nat.sub_add_cancel h.month.1] at hle
  unfold Civil.dayOfYear
  omega

theorem Civil.Valid.timeOfDay_lt (h : c.Valid) : c.timeOfDay < 86400 := by
  have hhour := h.hour
  have hminute := h.minute
  have hsecond := h.second
  unfold Civil.timeOfDay
  omega

/-- An earlier day ends before a later one begins. -/
theorem seconds_lt_of_days (ha : a.Valid)
    (h : daysOfYears (a.year - 1970) + a.dayOfYear < daysOfYears (b.year - 1970) + b.dayOfYear) :
    a.seconds < b.seconds := by
  have htime := ha.timeOfDay_lt
  unfold Civil.seconds
  omega

/-- **Later in the calendar is later on the time scale.** -/
theorem seconds_lt (ha : a.Valid) (hb : b.Valid) (hepoch : 1970 ≤ a.year) (h : a.Before b) :
    a.seconds < b.seconds := by
  rcases h with hyear | ⟨hyear, hmonth | ⟨hmonth, hday | ⟨hday, htime⟩⟩⟩
  · -- the last day of a year is over before the next one begins
    have hin := ha.dayOfYear_lt ha.month.2
    rw [daysOfMonths_year] at hin
    have hle := daysOfYears_le (show a.year - 1970 < b.year - 1970 by omega)
    rw [show 1970 + (a.year - 1970) = a.year by omega] at hle
    exact seconds_lt_of_days ha (by omega)
  · have hb1 := hb.month.1
    have hin := ha.dayOfYear_lt (show a.month ≤ b.month - 1 by omega)
    refine seconds_lt_of_days ha ?_
    rw [hyear] at hin ⊢
    unfold Civil.dayOfYear at hin ⊢
    omega
  · have ha1 := ha.day.1
    refine seconds_lt_of_days ha ?_
    unfold Civil.dayOfYear
    rw [hyear, hmonth]
    omega
  · have hsame : a.dayOfYear = b.dayOfYear := by
      unfold Civil.dayOfYear
      rw [hyear, hmonth, hday]
    have hclock : a.timeOfDay < b.timeOfDay := by
      have hminute := ha.minute
      have hsecond := ha.second
      unfold Civil.timeOfDay
      omega
    unfold Civil.seconds
    rw [hyear, hsame]
    omega

end Calendar
