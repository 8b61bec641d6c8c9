import Mathlib.Order.Iterate
import Mathlib.Order.Lattice

/-!
# A stepped controller with hysteresis

A controller with levels `0 … top` follows an input. It goes up at once, to the level the input
demands, and comes down by one level at a time, once the input is below the level's release point.

* **`demand`**, **`step`**: the level an input demands, and the level after one sample.
* **`step_mono`**: the step is monotone in the level and in the input together.
* **`step_drop`**: a drop is by one level, and only below the release point.
* **`iterate_settles`**: under a constant input the level only falls after the first sample, and
  stays where it is after as many samples as it is high.

The trip points need no order among them: `demand` is the highest level whose trip point is reached.
-/

namespace Hysteresis

variable {α : Type*} [LinearOrder α]

/-- The highest of the levels up to `top` whose trip point the input reaches, or 0. -/
def demand (up : Nat → α) (x : α) : Nat → Nat
  | 0 => 0
  | level + 1 => if up (level + 1) ≤ x then level + 1 else demand up x level

/-- One sample. -/
def step (up down : Nat → α) (top level : Nat) (x : α) : Nat :=
  let target := demand up x top
  if target < level then if down level ≤ x then level else level - 1
  else target

variable {up down : Nat → α} {top level level' : Nat} {x y : α}

/-! ## The demanded level -/

theorem demand_le (up : Nat → α) (x : α) (top : Nat) : demand up x top ≤ top := by
  induction top with
  | zero => exact Nat.le_refl 0
  | succ top ih =>
    unfold demand
    split
    · exact Nat.le_refl _
    · exact Nat.le_succ_of_le ih

/-- A level whose trip point is reached is at most the demanded one. -/
theorem le_demand (hlevel : level ≤ top) (hup : up level ≤ x) : level ≤ demand up x top := by
  induction top with
  | zero => exact hlevel
  | succ top ih =>
    unfold demand
    split
    · exact hlevel
    · rename_i hbelow
      apply ih
      -- the top level's own trip point is not reached
      refine Nat.le_of_lt_succ (Nat.lt_of_le_of_ne hlevel ?_)
      rintro rfl
      exact hbelow hup

/-- The demanded level is 0, or its trip point is reached. -/
theorem up_demand (up : Nat → α) (x : α) (top : Nat) :
    demand up x top = 0 ∨ up (demand up x top) ≤ x := by
  induction top with
  | zero => exact Or.inl rfl
  | succ top ih =>
    unfold demand
    split
    · rename_i hreached
      exact Or.inr hreached
    · exact ih

theorem demand_mono (hx : x ≤ y) : demand up x top ≤ demand up y top := by
  rcases up_demand up x top with hzero | hreached
  · rw [hzero]
    exact Nat.zero_le _
  · exact le_demand (demand_le up x top) (hreached.trans hx)

/-! ## One sample -/

/-- What a sample does: it goes to the demanded level, holds, or comes down by one. -/
theorem step_cases (up down : Nat → α) (top level : Nat) (x : α) :
    (level ≤ demand up x top ∧ step up down top level x = demand up x top) ∨
      (demand up x top < level ∧ down level ≤ x ∧ step up down top level x = level) ∨
      (demand up x top < level ∧ x < down level ∧ step up down top level x = level - 1) := by
  unfold step
  simp only
  split
  · rename_i hbelow
    split
    · rename_i hhold
      exact Or.inr (Or.inl ⟨hbelow, hhold, rfl⟩)
    · rename_i hrelease
      exact Or.inr (Or.inr ⟨hbelow, lt_of_not_ge hrelease, rfl⟩)
  · rename_i habove
    exact Or.inl ⟨Nat.le_of_not_lt habove, rfl⟩

/-- **The step is monotone** in the level and in the input. -/
theorem step_mono (hlevel : level ≤ level') (hx : x ≤ y) :
    step up down top level x ≤ step up down top level' y := by
  have hdemand : demand up x top ≤ demand up y top := demand_mono hx
  rcases step_cases up down top level x with ⟨-, h⟩ | ⟨-, hhold, h⟩ | ⟨-, -, h⟩ <;>
    rcases step_cases up down top level' y with ⟨hle', h'⟩ | ⟨hlt', -, h'⟩ |
      ⟨hlt', hrelease, h'⟩ <;>
    rw [h, h']
  case inr.inl.inr.inr =>
    -- one holds and the other comes down: not from the same level, for the input is no higher
    have hne : level ≠ level' := by
      rintro rfl
      exact absurd (lt_of_lt_of_le hrelease hhold) (not_lt_of_ge hx)
    omega
  all_goals omega

theorem demand_le_step (up down : Nat → α) (top level : Nat) (x : α) :
    demand up x top ≤ step up down top level x := by
  rcases step_cases up down top level x with ⟨-, h⟩ | ⟨hlt, -, h⟩ | ⟨hlt, -, h⟩ <;> rw [h] <;> omega

theorem step_le (hlevel : level ≤ top) : step up down top level x ≤ top := by
  have hdemand := demand_le up x top
  rcases step_cases up down top level x with ⟨-, h⟩ | ⟨-, -, h⟩ | ⟨-, -, h⟩ <;> rw [h] <;> omega

/-- **A drop** is by one level, and only below the release point. -/
theorem step_drop (h : step up down top level x < level) :
    step up down top level x = level - 1 ∧ x < down level := by
  rcases step_cases up down top level x with ⟨hle, hstep⟩ | ⟨-, -, hstep⟩ | ⟨-, hrelease, hstep⟩
  · omega
  · omega
  · exact ⟨hstep, hrelease⟩

/-! ## A constant input -/

/-- Above the demanded level a sample never goes up. -/
theorem step_le_of_demand_le (h : demand up x top ≤ level) :
    step up down top level x ≤ level := by
  rcases step_cases up down top level x with ⟨hle, hstep⟩ | ⟨-, -, hstep⟩ | ⟨-, -, hstep⟩ <;> omega

/-- From a level at or above the demanded one, the level only falls. -/
theorem iterate_antitone (h : demand up x top ≤ level) :
    Antitone fun n => (step up down top · x)^[n] level := by
  refine antitone_nat_of_succ_le fun n => ?_
  rw [Function.iterate_succ_apply']
  apply step_le_of_demand_le
  cases n with
  | zero => exact h
  | succ n =>
    rw [Function.iterate_succ_apply']
    exact demand_le_step up down top _ x

/-- **The level settles**: after as many samples as it is high, it stays. The induction is on the
level; a sample that does not lower it is the last that changes it. -/
theorem iterate_settles (h : demand up x top ≤ level) {n : Nat} (hn : level ≤ n) :
    (step up down top · x)^[n] level = (step up down top · x)^[level] level := by
  induction level generalizing n with
  | zero =>
    have hfixed : step up down top 0 x = 0 := Nat.le_zero.mp (step_le_of_demand_le h)
    exact Function.iterate_fixed hfixed n
  | succ level ih =>
    rcases Nat.lt_or_ge (step up down top (level + 1) x) (level + 1) with hdrop | hstay
    · have hlevel : step up down top (level + 1) x = level := (step_drop hdrop).1
      have hdemand : demand up x top ≤ level := by
        rw [← hlevel]
        exact demand_le_step up down top _ x
      obtain ⟨m, rfl⟩ : ∃ m, n = m + 1 := ⟨n - 1, by omega⟩
      rw [Function.iterate_succ_apply, Function.iterate_succ_apply, hlevel]
      exact ih hdemand (by omega)
    · have hfixed : step up down top (level + 1) x = level + 1 :=
        Nat.le_antisymm (step_le_of_demand_le h) hstay
      rw [Function.iterate_fixed hfixed, Function.iterate_fixed hfixed]

end Hysteresis
