import Mathlib.Data.List.Induction
import Mathlib.Data.Set.Lattice
import Mathlib.Order.CompletePartialOrder

/-!
# All-or-nothing claims on a pool

A pool of free items, and a list of claims that are made on it one after another. A claim takes all
its items if they are all free, and none otherwise, and whoever makes the claims does not look at
which went through.

* **`claimAll`**: what is free afterwards.
* **`takenClaims`**: the claims that go through, told from the pool beforehand.
* **`claimAll_eq`**, **`claimsExactly_iff`**: the items that are gone are those of the taken claims.
* **`claimsExactly_of_apart`**: claims that are apart, each all free or not free at all.
-/

namespace Pool

variable {α : Type*}

open Classical in
/-- One claim. -/
noncomputable def claim (free c : Set α) : Set α := if c ⊆ free then free \ c else free

/-- The claims, one after another. -/
noncomputable def claimAll (free : Set α) (claims : List (Set α)) : Set α := claims.foldl claim free

/-- The claim is all free beforehand and meets none that was taken. -/
def Takes (free : Set α) (taken : List (Set α)) (c : Set α) : Prop :=
  c ⊆ free ∧ ∀ t ∈ taken, Disjoint c t

open Classical in
/-- The claims that go through, the last one first. -/
noncomputable def takenClaims (free : Set α) (claims : List (Set α)) : List (Set α) :=
  claims.foldl (fun taken c => if Takes free taken c then c :: taken else taken) []

/-- Just the items of `wanted` are gone. -/
structure ClaimsExactly (free wanted after : Set α) : Prop where
  gone : ∀ x ∈ wanted, x ∉ after
  kept : ∀ x ∉ wanted, (x ∈ after ↔ x ∈ free)

variable {free wanted c : Set α} {claims taken : List (Set α)} {x : α}

theorem takenClaims_concat_of (h : Takes free (takenClaims free claims) c) :
    takenClaims free (claims ++ [c]) = c :: takenClaims free claims := by
  unfold takenClaims at h ⊢
  rw [List.foldl_append]
  exact if_pos h

theorem takenClaims_concat_of_not (h : ¬Takes free (takenClaims free claims) c) :
    takenClaims free (claims ++ [c]) = takenClaims free claims := by
  unfold takenClaims at h ⊢
  rw [List.foldl_append]
  exact if_neg h

theorem mem_claims_of_mem_takenClaims {t : Set α} (h : t ∈ takenClaims free claims) :
    t ∈ claims ∧ t ⊆ free := by
  induction claims using List.reverseRecOn with
  | nil => cases h
  | append_singleton claims c ih =>
    by_cases htakes : Takes free (takenClaims free claims) c
    · rw [takenClaims_concat_of htakes] at h
      rcases List.mem_cons.mp h with rfl | h
      · exact ⟨List.mem_append_right _ List.mem_cons_self, htakes.1⟩
      · exact ⟨List.mem_append_left _ (ih h).1, (ih h).2⟩
    · rw [takenClaims_concat_of_not htakes] at h
      exact ⟨List.mem_append_left _ (ih h).1, (ih h).2⟩

/-- **What is left** is what was free and is in no taken claim. -/
theorem claimAll_eq (free : Set α) (claims : List (Set α)) :
    claimAll free claims = {x ∈ free | ∀ t ∈ takenClaims free claims, x ∉ t} := by
  induction claims using List.reverseRecOn with
  | nil =>
    ext x
    exact ⟨fun hx => ⟨hx, fun t ht => absurd ht List.not_mem_nil⟩, And.left⟩
  | append_singleton claims c ih =>
    have hstep : claimAll free (claims ++ [c]) = claim (claimAll free claims) c := by
      unfold claimAll
      rw [List.foldl_append]
      rfl
    -- all free now: all free beforehand, and apart from what was taken since
    have htakes : c ⊆ claimAll free claims ↔ Takes free (takenClaims free claims) c := by
      rw [ih]
      refine ⟨fun h => ⟨fun x hx => (h hx).1, fun t ht => ?_⟩,
        fun h x hx => ⟨h.1 hx, fun t ht => ?_⟩⟩
      · exact Set.disjoint_left.mpr fun x hx => (h hx).2 t ht
      · exact Set.disjoint_left.mp (h.2 t ht) hx
    rw [hstep]
    unfold claim
    by_cases hc : c ⊆ claimAll free claims
    · rw [if_pos hc, takenClaims_concat_of (htakes.mp hc), ih]
      ext x
      simp only [Set.mem_sdiff, Set.mem_ofPred_eq, List.forall_mem_cons]
      tauto
    · rw [if_neg hc, takenClaims_concat_of_not fun h => hc (htakes.mpr h), ih]

/-- **Exactly the wanted items are gone** if the free ones of them are those of the taken claims. -/
theorem claimsExactly_iff (free wanted : Set α) (claims : List (Set α)) :
    ClaimsExactly free wanted (claimAll free claims) ↔
      ∀ x ∈ free, x ∈ wanted ↔ ∃ t ∈ takenClaims free claims, x ∈ t := by
  rw [claimAll_eq]
  constructor
  · intro h x hx
    constructor
    · intro hwanted
      by_contra hnone
      exact h.gone x hwanted ⟨hx, fun t ht hxt => hnone ⟨t, ht, hxt⟩⟩
    · rintro ⟨t, ht, hxt⟩
      by_contra hwanted
      exact ((h.kept x hwanted).mpr hx).2 t ht hxt
  · intro h
    refine ⟨fun x hwanted hx => ?_, fun x hwanted => ⟨And.left, fun hx => ⟨hx, fun t ht hxt => ?_⟩⟩⟩
    · obtain ⟨t, ht, hxt⟩ := (h x hx.1).mp hwanted
      exact hx.2 t ht hxt
    · exact hwanted ((h x hx).mpr ⟨t, ht, hxt⟩)

/-- Claims that are apart and each all free or not free at all take what is free of them. -/
theorem claimsExactly_of_apart (hapart : claims.Pairwise Disjoint)
    (hwhole : ∀ c ∈ claims, c ⊆ free ∨ Disjoint c free) :
    ClaimsExactly free {x | ∃ c ∈ claims, x ∈ c} (claimAll free claims) := by
  refine (claimsExactly_iff _ _ _).mpr fun x hx => ⟨?_, ?_⟩
  · rintro ⟨c, hc, hxc⟩
    have hfree : c ⊆ free := (hwhole c hc).resolve_right fun h => Set.disjoint_left.mp h hxc hx
    refine ⟨c, ?_, hxc⟩
    clear hwhole
    induction claims using List.reverseRecOn with
    | nil => cases hc
    | append_singleton claims d ih =>
      obtain ⟨hbefore, -, hlast⟩ := List.pairwise_append.mp hapart
      rcases List.mem_append.mp hc with hc | hc
      · have hmem := ih hbefore hc
        by_cases htakes : Takes free (takenClaims free claims) d
        · rw [takenClaims_concat_of htakes]
          exact List.mem_cons_of_mem _ hmem
        · rw [takenClaims_concat_of_not htakes]
          exact hmem
      · cases List.mem_singleton.mp hc
        have htakes : Takes free (takenClaims free claims) c :=
          ⟨hfree, fun t ht => (hlast t (mem_claims_of_mem_takenClaims ht).1 c
            List.mem_cons_self).symm⟩
        rw [takenClaims_concat_of htakes]
        exact List.mem_cons_self
  · rintro ⟨t, ht, hxt⟩
    exact ⟨t, (mem_claims_of_mem_takenClaims ht).1, hxt⟩

end Pool
