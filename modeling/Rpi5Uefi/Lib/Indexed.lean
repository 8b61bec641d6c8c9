import Mathlib.Data.List.DropRight
import Mathlib.Tactic.Common

/-!
# Loops over indices

A loop that walks an array by its indices, with the reads it makes on the way. A read out of bounds
has no result, so a loop with a result made none.

* **`between`**: the characters from one index up to another.
* **`scanFrom`**, **`scanBack`**: `while (Pos < End && p (s[Pos])) Pos++`, and the loop that
  comes from the other end. `scanFrom_eq` and `scanBack_eq` say where they stop.
* **`putChar`**: an append to an array of fixed size.
-/

namespace Indexed

variable {α : Type*} {p : α → Bool} {s : List α} {pos fin k : Nat}

/-- The characters from `pos` up to `fin`. -/
def between (s : List α) (pos fin : Nat) : List α := (s.take fin).drop pos

theorem length_between (h : fin ≤ s.length) : (between s pos fin).length = fin - pos := by
  simp [between, Nat.min_eq_left h]

theorem between_nil (h : fin ≤ pos) : between s pos fin = [] := by
  unfold between
  apply List.drop_eq_nil_of_le
  rw [List.length_take]
  omega

theorem between_cons (pos : Nat) (hpos : pos < fin) (h : fin ≤ s.length) :
    ∃ c, s[pos]? = some c ∧ between s pos fin = c :: between s (pos + 1) fin := by
  have hlt : pos < (s.take fin).length := by
    rw [List.length_take]
    omega
  refine ⟨(s.take fin)[pos], ?_, List.drop_eq_getElem_cons hlt⟩
  rw [List.getElem_take, List.getElem?_eq_getElem]

theorem between_concat (pos : Nat) (hpos : pos < fin + 1) (h : fin + 1 ≤ s.length) :
    ∃ c, s[fin]? = some c ∧ between s pos (fin + 1) = between s pos fin ++ [c] := by
  have hlt : fin < s.length := by omega
  refine ⟨s[fin], List.getElem?_eq_getElem hlt, ?_⟩
  unfold between
  rw [List.take_succ_eq_append_getElem hlt, List.drop_append_of_le_length]
  rw [List.length_take]
  omega

theorem between_drop (k : Nat) : between s (pos + k) fin = (between s pos fin).drop k := by
  unfold between
  rw [List.drop_drop]

theorem between_take (s : List α) (h : pos + k ≤ fin) :
    between s pos (pos + k) = (between s pos fin).take k := by
  unfold between
  rw [List.take_drop, List.take_take, Nat.min_eq_left h]

/-! ## The loops -/

/-- `while (Pos < End && p (s[Pos])) Pos++`, without a result where it reads out of bounds. -/
def scanFrom (p : α → Bool) (s : List α) (fin pos : Nat) : Option Nat :=
  if pos < fin then
    s[pos]?.bind fun c => if p c then scanFrom p s fin (pos + 1) else some pos
  else some pos
termination_by fin - pos

/-- `while (End > Pos && p (s[End - 1])) End--`. -/
def scanBack (p : α → Bool) (s : List α) (pos : Nat) : Nat → Option Nat
  | 0 => some 0
  | fin + 1 =>
    if pos < fin + 1 then
      s[fin]?.bind fun c => if p c then scanBack p s pos fin else some (fin + 1)
    else some (fin + 1)

/-- **The loop stays inside the array** and stops behind the characters with the property. -/
theorem scanFrom_eq (hpos : pos ≤ fin) (h : fin ≤ s.length) :
    scanFrom p s fin pos = some (pos + ((between s pos fin).takeWhile p).length) := by
  obtain ⟨n, hn⟩ : ∃ n, n = fin - pos := ⟨_, rfl⟩
  induction n generalizing pos with
  | zero =>
    have hend : fin = pos := by omega
    unfold scanFrom
    rw [if_neg (by omega), between_nil (by omega)]
    rfl
  | succ n ih =>
    obtain ⟨c, hread, hcons⟩ := between_cons pos (by omega) h
    unfold scanFrom
    rw [if_pos (by omega), hread, Option.bind_some, hcons, List.takeWhile_cons]
    split
    · rw [ih (by omega) (by omega), List.length_cons]
      congr 1
      omega
    · rfl

/-- **From the other end**: it stops in front of them. -/
theorem scanBack_eq (hpos : pos ≤ fin) (h : fin ≤ s.length) :
    scanBack p s pos fin = some (pos + ((between s pos fin).rdropWhile p).length) := by
  induction fin with
  | zero =>
    have hzero : pos = 0 := by omega
    subst hzero
    rfl
  | succ fin ih =>
    unfold scanBack
    split
    · rename_i hlt
      obtain ⟨c, hread, hconcat⟩ := between_concat pos hlt h
      rw [hread, Option.bind_some, hconcat]
      cases hp : p c with
      | true =>
        rw [List.rdropWhile_concat_pos _ _ _ hp]
        exact ih (by omega) (by omega)
      | false =>
        rw [List.rdropWhile_concat_neg _ _ _ (by simp [hp]), List.length_append,
          length_between (by omega), List.length_singleton]
        simp only [Bool.false_eq_true, if_false, Option.some.injEq]
        omega
    · have hend : pos = fin + 1 := by omega
      rw [between_nil (by omega), hend]
      rfl

/-- What is in front of the loop is the text without the characters it passed. -/
theorem between_dropWhile (p : α → Bool) (s : List α) (pos fin : Nat) :
    between s (pos + ((between s pos fin).takeWhile p).length) fin =
      (between s pos fin).dropWhile p := by
  have hdrop : ((between s pos fin).takeWhile p ++ (between s pos fin).dropWhile p).drop
      ((between s pos fin).takeWhile p).length = (between s pos fin).dropWhile p := List.drop_left
  rw [List.takeWhile_append_dropWhile] at hdrop
  rw [between_drop, hdrop]

theorem length_takeWhile_le (p : α → Bool) (hpos : pos ≤ fin) (h : fin ≤ s.length) :
    pos + ((between s pos fin).takeWhile p).length ≤ fin := by
  have hle := (List.takeWhile_prefix p (l := between s pos fin)).length_le
  rw [length_between h] at hle
  omega

theorem length_rdropWhile_le (p : α → Bool) (hpos : pos ≤ fin) (h : fin ≤ s.length) :
    pos + ((between s pos fin).rdropWhile p).length ≤ fin := by
  have hle := (List.rdropWhile_prefix p (between s pos fin)).length_le
  rw [length_between h] at hle
  omega

theorem between_rdropWhile (p : α → Bool) (hpos : pos ≤ fin) (h : fin ≤ s.length) :
    between s pos (pos + ((between s pos fin).rdropWhile p).length) =
      (between s pos fin).rdropWhile p := by
  rw [between_take s (length_rdropWhile_le p hpos h)]
  exact (List.prefix_iff_eq_take.mp (List.rdropWhile_prefix p _)).symm

/-- The loop from the front, as the characters it leaves. -/
theorem scanFrom_spec (p : α → Bool) (hpos : pos ≤ fin) (h : fin ≤ s.length) :
    ∃ pos', scanFrom p s fin pos = some pos' ∧ pos ≤ pos' ∧ pos' ≤ fin ∧
      between s pos' fin = (between s pos fin).dropWhile p :=
  ⟨_, scanFrom_eq hpos h, Nat.le_add_right _ _, length_takeWhile_le p hpos h,
    between_dropWhile p s pos fin⟩

/-- The loop from the back, likewise. -/
theorem scanBack_spec (p : α → Bool) (hpos : pos ≤ fin) (h : fin ≤ s.length) :
    ∃ fin', scanBack p s pos fin = some fin' ∧ pos ≤ fin' ∧ fin' ≤ fin ∧
      between s pos fin' = (between s pos fin).rdropWhile p :=
  ⟨_, scanBack_eq hpos h, Nat.le_add_right _ _, length_rdropWhile_le p hpos h,
    between_rdropWhile p hpos h⟩

/-! ## Arrays of fixed size -/

/-- Store a character behind the ones already stored, in an array of `cap`. -/
def putChar (cap : Nat) (out : List α) (c : α) : Option (List α) :=
  if out.length < cap then some (out ++ [c]) else none

theorem putChar_eq {cap : Nat} {out : List α} (h : out.length < cap) (c : α) :
    putChar cap out c = some (out ++ [c]) := if_pos h

/-- Read `n` characters at `pos`. -/
def readRange (s : List α) (pos n : Nat) : Option (List α) :=
  if pos + n ≤ s.length then some (between s pos (pos + n)) else none

theorem readRange_eq {n : Nat} (h : pos + n ≤ s.length) :
    readRange s pos n = some (between s pos (pos + n)) := if_pos h

end Indexed
