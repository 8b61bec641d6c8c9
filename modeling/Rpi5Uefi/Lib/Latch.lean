import Mathlib.Logic.Relation
import Mathlib.Tactic.Common

/-!
# A latched-low status bit

A condition comes and goes, each time with a value of its own. An observer sees it through a status
bit that goes low when the condition fails and stays low until it is read, so a failure between two
reads shows as one low reading. The observer holds a flag, and whatever it derived from the value,
for as long as it takes the condition to last.

* **`Tracks.change`**: what the observer holds is right until the bit is low;
* **`Tracks.unanswered`**, **`Tracks.answered`**: reading the bit keeps that, with one exception: a
  read without an answer may clear the bit, and the failure it showed is missed.
-/

namespace LatchedLow

/-- The condition behind the bit. `fell` is the latch, `value` belongs to the last rise. `missed`
records that a read without an answer has cleared the latch. -/
structure Latch (α : Type) where
  up : Bool
  fell : Bool
  missed : Bool
  value : α

variable {α : Type} {l l' : Latch α} {held b : Bool} {P : α → Prop}

/-- What happens to the condition while nobody looks. -/
inductive Change : Latch α → Latch α → Prop where
  | fall (l : Latch α) : Change l { l with up := false, fell := true }
  | rise (l : Latch α) (value : α) (hdown : l.up = false) :
      Change l { l with up := true, value }

/-- A read of the bit by an observer with its flag `held`. A high answer is always true; a low one
may also have other reasons. -/
inductive Read (held : Bool) : Latch α → Option Bool → Latch α → Prop where
  | answered (l : Latch α) (b : Bool) (htrue : b = true → l.up = true ∧ l.fell = false) :
      Read held l (some b) { l with fell := !l.up, missed := l.missed && b && held }
  | lost (l : Latch α) : Read held l none l
  | cleared (l : Latch α) :
      Read held l none { l with fell := !l.up, missed := l.missed || (l.fell && l.up) }

/-- While the flag is held and the bit is high, the condition lasts and `P` holds of its value. -/
def Tracks (held : Bool) (P : α → Prop) (l : Latch α) : Prop :=
  held = true → l.fell = false → l.missed = false → l.up = true ∧ P l.value

theorem tracks_of_not_held (P : α → Prop) (l : Latch α) : Tracks false P l := by
  intro hheld
  cases hheld

theorem Tracks.mono {Q : α → Prop} (h : Tracks held P l) (hPQ : ∀ value, P value → Q value) :
    Tracks held Q l := by
  intro hheld hfell hmissed
  obtain ⟨hup, hvalue⟩ := h hheld hfell hmissed
  exact ⟨hup, hPQ _ hvalue⟩

theorem Tracks.change (h : Tracks held P l) (hchange : Change l l') : Tracks held P l' := by
  intro hheld hfell hmissed
  cases hchange with
  | fall => cases hfell
  | rise value hdown =>
    -- the condition has been down, so the bit is low
    have hup := (h hheld hfell hmissed).1
    rw [hdown] at hup
    cases hup

theorem Tracks.changes (h : Tracks held P l) (hchanges : Relation.ReflTransGen Change l l') :
    Tracks held P l' := by
  induction hchanges with
  | refl => exact h
  | tail _ hlast ih => exact ih.change hlast

theorem missed_of_changes (hchanges : Relation.ReflTransGen Change l l') :
    l'.missed = l.missed := by
  induction hchanges with
  | refl => rfl
  | tail _ hlast ih =>
    rw [← ih]
    cases hlast <;> rfl

/-- **A read without an answer.** -/
theorem Tracks.unanswered (h : Tracks held P l) (hread : Read held l none l') :
    Tracks held P l' := by
  cases hread with
  | lost => exact h
  | cleared =>
    intro hheld hfell hmissed
    obtain ⟨hbefore, hnow⟩ := Bool.or_eq_false_iff.mp hmissed
    have hup : l.up = true := by simpa using hfell
    -- the latch has not shown a failure that this read would have cleared
    rw [hup, Bool.and_true] at hnow
    exact ⟨hup, (h hheld hnow hbefore).2⟩

/-- **A high answer**: the condition lasts, and the value is the one the flag was raised for. -/
theorem Tracks.answered (h : Tracks held P l) (hread : Read held l (some true) l') :
    l'.up = true ∧ l'.fell = false ∧ l'.value = l.value ∧
      (l'.missed = false → held = true → P l'.value) := by
  cases hread with
  | answered _ htrue =>
    obtain ⟨hup, hfell⟩ := htrue rfl
    refine ⟨hup, by simp [hup], rfl, fun hmissed hheld => ?_⟩
    have hbefore : l.missed = false := by simpa [hheld] using hmissed
    exact (h hheld hfell hbefore).2

end LatchedLow
