import Mathlib.Data.List.Basic
import Mathlib.Data.List.Nodup
import Mathlib.Tactic.Common

/-!
# The first elements of every key

A loop that goes through a list, takes an element whose key it has not taken before, and stops with
so many of them, as `firsts` and `take` say it.

* **`firsts_sublist`**, **`nodup_firsts`**, **`firsts_split`**, **`exists_mem_firsts`**: in the
  order of the list, one of each key, the first, and every key.
* **`firsts_taken`**, **`firsts_skipped`**: one round of the loop.
-/

namespace FirstOccurrences

variable {α κ : Type*} [DecidableEq κ]

/-- The elements whose key has not been seen, in front of them or before. -/
def firstsFrom (key : α → κ) (seen : List κ) : List α → List α
  | [] => []
  | a :: l => if key a ∈ seen then firstsFrom key seen l else a :: firstsFrom key (key a :: seen) l

def firsts (key : α → κ) (l : List α) : List α := firstsFrom key [] l

variable {key : α → κ} {seen : List κ} {l : List α} {a : α}

theorem firstsFrom_sublist (seen : List κ) (l : List α) : (firstsFrom key seen l).Sublist l := by
  induction l generalizing seen with
  | nil => exact List.Sublist.slnil
  | cons a l ih =>
    unfold firstsFrom
    split
    · exact (ih seen).cons a
    · exact (ih _).cons_cons a

theorem firsts_sublist (l : List α) : (firsts key l).Sublist l := firstsFrom_sublist [] l

theorem key_not_mem_seen (h : a ∈ firstsFrom key seen l) : key a ∉ seen := by
  induction l generalizing seen with
  | nil => cases h
  | cons b l ih =>
    unfold firstsFrom at h
    split at h
    · exact ih h
    · rename_i hnew
      rcases List.mem_cons.mp h with rfl | hlater
      · exact hnew
      · exact fun hmem => ih hlater (List.mem_cons_of_mem _ hmem)

theorem nodup_firstsFrom (seen : List κ) (l : List α) :
    ((firstsFrom key seen l).map key).Nodup := by
  induction l generalizing seen with
  | nil => exact List.nodup_nil
  | cons a l ih =>
    unfold firstsFrom
    split
    · exact ih seen
    · rw [List.map_cons, List.nodup_cons]
      refine ⟨fun hmem => ?_, ih _⟩
      obtain ⟨b, hb, hkey⟩ := List.mem_map.mp hmem
      exact key_not_mem_seen hb (hkey ▸ List.mem_cons_self)

/-- **No key twice.** -/
theorem nodup_firsts (l : List α) : ((firsts key l).map key).Nodup := nodup_firstsFrom [] l

theorem firstsFrom_split (h : a ∈ firstsFrom key seen l) :
    ∃ pre post, l = pre ++ a :: post ∧ ∀ b ∈ pre, key b ≠ key a := by
  induction l generalizing seen with
  | nil => cases h
  | cons c l ih =>
    have hold := key_not_mem_seen h
    unfold firstsFrom at h
    split at h
    · rename_i hseen
      obtain ⟨pre, post, rfl, hpre⟩ := ih h
      refine ⟨c :: pre, post, rfl, fun b hb => ?_⟩
      rcases List.mem_cons.mp hb with rfl | hmem
      · exact fun hkey => hold (hkey ▸ hseen)
      · exact hpre b hmem
    · rcases List.mem_cons.mp h with rfl | hlater
      · exact ⟨[], l, rfl, fun b hb => absurd hb List.not_mem_nil⟩
      have hnew := key_not_mem_seen hlater
      obtain ⟨pre, post, rfl, hpre⟩ := ih hlater
      refine ⟨c :: pre, post, rfl, fun b hb => ?_⟩
      rcases List.mem_cons.mp hb with rfl | hmem
      · exact fun hkey => hnew (hkey ▸ List.mem_cons_self)
      · exact hpre b hmem

/-- **The first of its key.** -/
theorem firsts_split (h : a ∈ firsts key l) :
    ∃ pre post, l = pre ++ a :: post ∧ ∀ b ∈ pre, key b ≠ key a := firstsFrom_split h

theorem exists_mem_firstsFrom (h : a ∈ l) (hnew : key a ∉ seen) :
    ∃ b ∈ firstsFrom key seen l, key b = key a := by
  induction l generalizing seen with
  | nil => cases h
  | cons b l ih =>
    unfold firstsFrom
    rcases List.mem_cons.mp h with rfl | hlater
    · rw [if_neg hnew]
      exact ⟨a, List.mem_cons_self, rfl⟩
    split
    · exact ih hlater hnew
    · by_cases hsame : key a = key b
      · exact ⟨b, List.mem_cons_self, hsame.symm⟩
      · have hunseen : key a ∉ key b :: seen := by
          simp [hsame, hnew]
        obtain ⟨c, hc, hkey⟩ := ih hlater hunseen
        exact ⟨c, List.mem_cons_of_mem _ hc, hkey⟩

/-- **Every key.** -/
theorem exists_mem_firsts (h : a ∈ l) : ∃ b ∈ firsts key l, key b = key a :=
  exists_mem_firstsFrom h List.not_mem_nil

/-- What has been seen matters, and not its order. -/
theorem firstsFrom_congr {seen' : List κ} (h : ∀ k, k ∈ seen ↔ k ∈ seen') (l : List α) :
    firstsFrom key seen l = firstsFrom key seen' l := by
  induction l generalizing seen seen' with
  | nil => rfl
  | cons a l ih =>
    unfold firstsFrom
    by_cases hmem : key a ∈ seen
    · rw [if_pos hmem, if_pos ((h _).mp hmem)]
      exact ih h
    · rw [if_neg hmem, if_neg ((h _).not.mp hmem)]
      congr 1
      apply ih
      intro k
      rw [List.mem_cons, List.mem_cons, h]

/-! ## A bounded collection -/

/-- What a loop has taken so far, and what is left of the list. -/
theorem firsts_taken (taken : List α) (hnew : key a ∉ taken.map key) (l : List α) :
    taken ++ firstsFrom key (taken.map key) (a :: l) =
      taken ++ [a] ++ firstsFrom key ((taken ++ [a]).map key) l := by
  have hseen : firstsFrom key (key a :: taken.map key) l =
      firstsFrom key ((taken ++ [a]).map key) l := by
    apply firstsFrom_congr
    intro k
    simp [or_comm]
  conv_lhs => unfold firstsFrom
  rw [if_neg hnew, hseen, List.append_assoc]
  rfl

theorem firsts_skipped (taken : List α) (hseen : key a ∈ taken.map key) (l : List α) :
    firstsFrom key (taken.map key) (a :: l) = firstsFrom key (taken.map key) l := by
  conv_lhs => unfold firstsFrom
  rw [if_pos hseen]

/-- **A bounded collection holds one of each key**, in order; and every key, if the bound has not
been reached. -/
theorem mem_take_firsts {n : Nat} (h : ((firsts key l).take n).length < n) (ha : a ∈ l) :
    ∃ b ∈ (firsts key l).take n, key b = key a := by
  have hall : (firsts key l).take n = firsts key l := by
    apply List.take_of_length_le
    rw [List.length_take] at h
    omega
  rw [hall]
  exact exists_mem_firsts ha

end FirstOccurrences
