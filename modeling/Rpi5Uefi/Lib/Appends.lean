import Mathlib.Algebra.BigOperators.Group.List.Basic
import Mathlib.Algebra.GroupWithZero.Nat
import Mathlib.Algebra.Order.Group.Nat
import Mathlib.Tactic.Common

/-!
# Appends to a buffer of bounded size

A text is put together in a buffer piece by piece. A piece that does not fit, with the byte that
ends the text, is left out, and the ones behind it are still tried.

* **`catAll_of_fits`**: where all of it fits, the text is the pieces in a row.
* **`catAll_kept`**: in any case it is some of the pieces, in their order.
* **`sublist_loses`**: the pieces are all there, or the weight of a whole one is missing.
-/

namespace Appends

variable {α : Type*} {size : Nat} {text piece : List α} {pieces pieces' : List (List α)}

/-- One piece. -/
def cat (size : Nat) (text piece : List α) : List α :=
  if text.length + piece.length < size then text ++ piece else text

/-- Piece after piece. -/
def catAll (size : Nat) (text : List α) (pieces : List (List α)) : List α :=
  pieces.foldl (cat size) text

theorem catAll_append (size : Nat) (text : List α) (pieces pieces' : List (List α)) :
    catAll size text (pieces ++ pieces') = catAll size (catAll size text pieces) pieces' :=
  List.foldl_append ..

theorem length_cat_lt (h : text.length < size) (piece : List α) :
    (cat size text piece).length < size := by
  unfold cat
  split
  · rw [List.length_append]
    assumption
  · exact h

theorem length_catAll_lt (h : text.length < size) (pieces : List (List α)) :
    (catAll size text pieces).length < size := by
  induction pieces generalizing text with
  | nil => exact h
  | cons piece pieces ih => exact ih (length_cat_lt h piece)

/-- **Everything fits.** -/
theorem catAll_of_fits (h : text.length + pieces.flatten.length < size) :
    catAll size text pieces = text ++ pieces.flatten := by
  induction pieces generalizing text with
  | nil => exact (List.append_nil _).symm
  | cons piece pieces ih =>
    rw [List.flatten_cons, List.length_append] at h
    have hfits : cat size text piece = text ++ piece := if_pos (by omega)
    show catAll size (cat size text piece) pieces = text ++ (piece ++ pieces.flatten)
    rw [hfits, ih, List.append_assoc]
    rw [List.length_append]
    omega

/-- **Some of the pieces are kept.** -/
theorem catAll_kept (size : Nat) (text : List α) (pieces : List (List α)) :
    ∃ kept : List (List α), kept.Sublist pieces ∧
      catAll size text pieces = text ++ kept.flatten := by
  induction pieces generalizing text with
  | nil => exact ⟨[], List.Sublist.refl _, (List.append_nil _).symm⟩
  | cons piece pieces ih =>
    obtain ⟨kept, hkept, heq⟩ := ih (cat size text piece)
    show ∃ kept : List (List α), kept.Sublist (piece :: pieces) ∧
      catAll size (cat size text piece) pieces = text ++ kept.flatten
    rw [heq]
    unfold cat
    split
    · refine ⟨piece :: kept, hkept.cons_cons piece, ?_⟩
      rw [List.flatten_cons, List.append_assoc]
    · exact ⟨kept, hkept.cons piece, rfl⟩

/-- **What a left out piece costs.** The induction is on the sublist. -/
theorem sublist_loses {β : Type*} {weight : β → Nat} {least : Nat} {kept all : List β}
    (h : kept.Sublist all) (hleast : ∀ x ∈ all, least ≤ weight x) :
    kept = all ∨ (kept.map weight).sum + least ≤ (all.map weight).sum := by
  induction h with
  | slnil => exact Or.inl rfl
  | @cons kept all x h ih =>
    apply Or.inr
    have hx : least ≤ weight x := hleast x List.mem_cons_self
    rw [List.map_cons, List.sum_cons]
    rcases ih fun y hy => hleast y (List.mem_cons_of_mem _ hy) with rfl | hlost <;> omega
  | @cons_cons kept all x h ih =>
    rcases ih fun y hy => hleast y (List.mem_cons_of_mem _ hy) with rfl | hlost
    · exact Or.inl rfl
    · apply Or.inr
      rw [List.map_cons, List.sum_cons, List.map_cons, List.sum_cons]
      omega

end Appends
