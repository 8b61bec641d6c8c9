import Mathlib.Algebra.Group.Nat.Defs
import Mathlib.Data.List.TakeDrop
import Mathlib.Tactic.Common
import Rpi5Uefi.Lib.Run

/-!
# Descriptor rings

A ring of `n` slots holds a window of an unbounded sequence: position `k` lives in slot `k % n`. The
cursors are free-running 16-bit counters, so a position is known only modulo `2 ^ 16`.

* **`slot_ne`**: two positions of one window live in different slots;
* **`cursor_sub`**: the difference of two cursors is the number of positions between them;
* **`Pipe`**: what such a ring is for. Items are accepted at one end, completed in order by the
  other party, and handed back in order;
* **`Pipe.run_history`**: in every run of a pipe the items handed back are the first ones accepted.
-/

namespace Ring

/-! ## Slots and cursors -/

theorem slot_ne_of_lt {n lo a b : Nat} (ha : lo ≤ a) (hab : a < b) (hb : b < lo + n) :
    a % n ≠ b % n := by
  intro heq
  have hdvd : n ∣ b - a := Nat.dvd_of_mod_eq_zero (Nat.sub_mod_eq_zero_of_mod_eq heq.symm)
  have hle := Nat.le_of_dvd (by omega) hdvd
  omega

/-- **Positions of one window have slots of their own.** -/
theorem slot_ne {n lo a b : Nat} (ha : lo ≤ a ∧ a < lo + n) (hb : lo ≤ b ∧ b < lo + n)
    (hne : a ≠ b) : a % n ≠ b % n := by
  rcases Nat.lt_or_gt_of_ne hne with hlt | hgt
  · exact slot_ne_of_lt ha.1 hlt hb.2
  · exact (slot_ne_of_lt hb.1 hgt ha.2).symm

/-- **Every slot is that of a position of the window.** -/
theorem exists_slot {n index : Nat} (lo : Nat) (hi : index < n) :
    ∃ k, (lo ≤ k ∧ k < lo + n) ∧ k % n = index := by
  have hdiv := Nat.div_add_mod lo n
  have hlt := Nat.mod_lt lo (by omega : n > 0)
  have hslot := Nat.mod_eq_of_lt hi
  rcases Nat.lt_or_ge index (lo % n) with hbefore | hafter
  · have hnext : n * (lo / n + 1) = n * (lo / n) + n := Nat.mul_succ _ _
    exact ⟨n * (lo / n + 1) + index, by omega, (Nat.mul_add_mod _ _ _).trans hslot⟩
  · exact ⟨n * (lo / n) + index, by omega, (Nat.mul_add_mod _ _ _).trans hslot⟩

/-- A table changed in one slot is as it was at every other position of the window. -/
theorem update_of_ne {β : Type*} {n lo a b : Nat} (table : Nat → β) (x : β)
    (ha : lo ≤ a ∧ a < lo + n) (hb : lo ≤ b ∧ b < lo + n) (hne : a ≠ b) :
    Function.update table (b % n) x (a % n) = table (a % n) :=
  Function.update_of_ne (slot_ne ha hb hne) _ _

/-- **The distance of two cursors.** -/
theorem cursor_sub {a b : Nat} (hle : b ≤ a) (hlt : a - b < 2 ^ 16) :
    (UInt16.ofNat a - UInt16.ofNat b).toNat = a - b := by
  rw [UInt16.toNat_sub, UInt16.toNat_ofNat', UInt16.toNat_ofNat']
  omega

theorem cursor_eq_iff {a b : Nat} (hle : b ≤ a) (hlt : a - b < 2 ^ 16) :
    UInt16.ofNat b = UInt16.ofNat a ↔ b = a := by
  constructor
  · intro heq
    have hsub := cursor_sub hle hlt
    rw [heq, UInt16.sub_self] at hsub
    have hzero : (0 : UInt16).toNat = 0 := rfl
    omega
  · intro heq
    rw [heq]

/-- The slot of a cursor, where the ring's size divides the range of the cursor. -/
theorem cursor_slot {n : Nat} (hn : n ∣ 2 ^ 16) (k : Nat) : (UInt16.ofNat k).toNat % n = k % n := by
  rw [UInt16.toNat_ofNat']
  exact Nat.mod_mod_of_dvd k hn

theorem cursor_succ (k : Nat) : UInt16.ofNat k + 1 = UInt16.ofNat (k + 1) := by
  rw [UInt16.ofNat_add]
  rfl

/-- The next slot, for a party that goes back to the first slot at the end of the ring. -/
theorem slot_succ {n : Nat} (hn : 1 < n) (k : Nat) :
    (if k % n = n - 1 then 0 else k % n + 1) = (k + 1) % n := by
  have hlt := Nat.mod_lt k (by omega : n > 0)
  have h1 : 1 % n = 1 := Nat.mod_eq_of_lt hn
  rw [Nat.add_mod k, h1]
  split
  · next hlast => rw [hlast, Nat.sub_add_cancel (by omega), Nat.mod_self]
  · next hmid => exact (Nat.mod_eq_of_lt (by omega)).symm

/-! ## Pipes -/

/-- What happens to a pipe. -/
inductive PipeEvent (α : Type*) where
  | accept (item : α)
  | complete
  | hand (item : α)
  deriving DecidableEq

/-- Everything accepted so far, how much of it is completed and how much was handed back. -/
structure Pipe (α : Type*) where
  accepted : List α
  completed : Nat
  returned : Nat

namespace Pipe

variable {α : Type*}

def empty : Pipe α := ⟨[], 0, 0⟩

/-- Items in the pipe. -/
def outstanding (q : Pipe α) : Nat := q.accepted.length - q.returned

/-- A step of a pipe with room for `n` items. -/
inductive Step (n : Nat) (q : Pipe α) : PipeEvent α → Pipe α → Prop where
  | accept (item : α) (hroom : q.accepted.length < q.returned + n) :
      Step n q (.accept item) { q with accepted := q.accepted ++ [item] }
  | complete (hpending : q.completed < q.accepted.length) :
      Step n q .complete { q with completed := q.completed + 1 }
  | hand (item : α) (hdone : q.returned < q.completed)
      (hitem : q.accepted[q.returned]? = some item) :
      Step n q (.hand item) { q with returned := q.returned + 1 }

/-- The order of the three ends, and the bound. -/
structure Valid (n : Nat) (q : Pipe α) : Prop where
  returned_le : q.returned ≤ q.completed
  completed_le : q.completed ≤ q.accepted.length
  bound : q.accepted.length ≤ q.returned + n

theorem Valid.empty (n : Nat) : (empty : Pipe α).Valid n :=
  ⟨Nat.le_refl 0, Nat.le_refl 0, Nat.zero_le _⟩

theorem Valid.step {n : Nat} {q q' : Pipe α} {e : PipeEvent α} (hv : q.Valid n)
    (h : Step n q e q') : q'.Valid n := by
  obtain ⟨hret, hcomp, hbound⟩ := hv
  cases h with
  | accept item hroom =>
    refine ⟨hret, ?_, ?_⟩ <;> simp only [List.length_append, List.length_singleton] <;> omega
  | complete hpending => exact ⟨Nat.le_succ_of_le hret, hpending, hbound⟩
  | hand item hdone _ => exact ⟨hdone, hcomp, by show q.accepted.length ≤ q.returned + 1 + n; omega⟩

/-! ## Histories -/

/-- The items accepted in a history. -/
def accepts (trace : List (PipeEvent α)) : List α :=
  trace.filterMap fun | .accept item => some item | _ => none

/-- The items handed back in a history. -/
def hands (trace : List (PipeEvent α)) : List α :=
  trace.filterMap fun | .hand item => some item | _ => none

/-- How many completions a history has. -/
def completions (trace : List (PipeEvent α)) : Nat :=
  (trace.filter fun | .complete => true | _ => false).length

/-- A history and the pipe it leads to. -/
structure History (trace : List (PipeEvent α)) (q : Pipe α) : Prop where
  accepts : accepts trace = q.accepted
  completions : completions trace = q.completed
  hands : hands trace = q.accepted.take q.returned

theorem History.step {n : Nat} {trace : List (PipeEvent α)} {q q' : Pipe α} {e : PipeEvent α}
    (hh : History trace q) (hv : q.Valid n) (h : Step n q e q') : History (trace ++ [e]) q' := by
  obtain ⟨hacc, hcomp, hhand⟩ := hh
  unfold Pipe.accepts at hacc
  unfold Pipe.completions at hcomp
  unfold Pipe.hands at hhand
  have hle : q.returned ≤ q.accepted.length := Nat.le_trans hv.returned_le hv.completed_le
  constructor
  · show List.filterMap _ _ = _
    rw [List.filterMap_append, hacc]
    cases h <;> simp
  · show (List.filter _ _).length = _
    rw [List.filter_append, List.length_append, hcomp]
    cases h <;> simp
  · show List.filterMap _ _ = _
    rw [List.filterMap_append, hhand]
    cases h with
    | accept item _ =>
      simp only [List.filterMap_cons, List.filterMap_nil, List.append_nil]
      rw [List.take_append_of_le_length hle]
    | complete _ => simp
    | hand item _ hitem =>
      simp only [List.filterMap_cons, List.filterMap_nil]
      rw [List.take_add_one, hitem, Option.toList_some]

/-- **First in, first out.** In every run the pipe stays within its bound, what was handed back is
the beginning of what was accepted, and nothing was handed back before it was completed. -/
theorem run_history {n : Nat} {trace : List (PipeEvent α)} {q : Pipe α}
    (h : Transition.Run (Step n) empty trace q) : q.Valid n ∧ History trace q := by
  induction h with
  | nil => exact ⟨Valid.empty n, rfl, rfl, rfl⟩
  | snoc _ hstep ih => exact ⟨ih.1.step hstep, ih.2.step ih.1 hstep⟩

end Pipe

end Ring
