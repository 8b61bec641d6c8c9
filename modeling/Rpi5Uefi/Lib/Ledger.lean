import Mathlib.Data.List.Nodup
import Mathlib.Data.List.Perm.Basic
import Rpi5Uefi.Lib.Run

/-!
# Ledgers of resources

A program acquires resources, releases them, and may publish one of them: leave a reference to it
where others will follow it. A ledger replays what the program did and is `none` from the first
action that goes wrong: an acquired resource that is not apart from all held ones, a release of what
is not held or is published, a publication of what is not held.

* **`held_of_published`**: at every point of a replayed list of actions the published resource is
  held.
* **`count_acquire`**: every resource is released as often as it was acquired, up to the one that is
  still held.
* **`replay_bracket`**: acquiring some resources and releasing them all, in any order, leaves the
  ledger as it was.
* **`replay_releases_perm`**: releasing a part of what is held leaves the rest.
* **`replay_bracket_keeping`**: releasing a part of what was acquired leaves the rest held.
* **`replay_handOver`**: publishing a new resource in place of the old one.
-/

namespace Ledger

open Transition

inductive Action (ρ : Type*) where
  | acquire (r : ρ)
  | release (r : ρ)
  | publish (r : ρ)
  deriving DecidableEq, Repr

structure State (ρ : Type*) where
  held : List ρ
  published : Option ρ
  deriving DecidableEq, Repr

variable {ρ : Type*} [DecidableEq ρ] (apart : ρ → ρ → Prop) [DecidableRel apart]

/-- The effect of one action, where it may be done. -/
def step (s : State ρ) : Action ρ → Option (State ρ)
  | .acquire r => if ∀ q ∈ s.held, apart r q then some { s with held := r :: s.held } else none
  | .release r =>
    if r ∈ s.held ∧ s.published ≠ some r then some { s with held := s.held.erase r } else none
  | .publish r => if r ∈ s.held then some { s with published := some r } else none

/-- The effect of a list of actions, where all may be done in turn. -/
def replay (s : State ρ) (actions : List (Action ρ)) : Option (State ρ) :=
  actions.foldlM (step apart) s

/-- Resources that can be acquired in turn while some are held. -/
def Fresh : List ρ → List ρ → Prop
  | _, [] => True
  | held, r :: rs => (∀ q ∈ held, apart r q) ∧ Fresh (r :: held) rs

/-- The published resource is held. -/
def State.Sound (s : State ρ) : Prop := ∀ r, s.published = some r → r ∈ s.held

variable {apart} {s m s' : State ρ} {actions actions' : List (Action ρ)} {r : ρ} {rs rs' : List ρ}

/-! ## Replaying -/

theorem replay_cons (s : State ρ) (action : Action ρ) (actions : List (Action ρ)) :
    replay apart s (action :: actions) = (step apart s action).bind (replay apart · actions) :=
  rfl

theorem replay_append (h : replay apart s actions = some m) :
    replay apart s (actions ++ actions') = replay apart m actions' := by
  unfold replay at h ⊢
  rw [List.foldlM_append, h]
  rfl

/-- Every prefix of a list of actions that can be done can be done. -/
theorem replay_prefix (h : replay apart s actions' = some s') (hpre : actions <+: actions') :
    ∃ m, replay apart s actions = some m := by
  obtain ⟨rest, rfl⟩ := hpre
  unfold replay at h ⊢
  rw [List.foldlM_append] at h
  cases hm : actions.foldlM (step apart) s with
  | none =>
    rw [hm] at h
    cases h
  | some m => exact ⟨m, rfl⟩

theorem replay_run (h : replay apart s actions = some s') :
    Run (fun s e s' => step apart s e = some s') s actions s' :=
  run_iff_foldlM.mpr h

/-! ## What is published is held -/

theorem sound_step {action : Action ρ} (hs : s.Sound) (h : step apart s action = some s') :
    s'.Sound := by
  cases action with
  | acquire r =>
    simp only [step] at h
    split at h
    · cases h
      exact fun q hq => List.mem_cons_of_mem _ (hs q hq)
    · cases h
  | release r =>
    simp only [step] at h
    split at h
    · rename_i hreleased
      cases h
      intro q hq
      -- the published resource is not the released one
      have hne : q ≠ r := by
        rintro rfl
        exact hreleased.2 hq
      exact (List.mem_erase_of_ne hne).mpr (hs q hq)
    · cases h
  | publish r =>
    simp only [step] at h
    split at h
    · rename_i hheld
      cases h
      intro q hq
      cases hq
      exact hheld
    · cases h

/-- **What is published is held**, after every prefix of the actions. -/
theorem held_of_published (hs : s.Sound) (h : replay apart s actions' = some s')
    (hpre : actions <+: actions') : ∃ m, replay apart s actions = some m ∧ m.Sound := by
  obtain ⟨m, hm⟩ := replay_prefix h hpre
  exact ⟨m, hm, (replay_run hm).inv (fun _ _ _ hs hstep => sound_step hs hstep) hs⟩

/-! ## Acquired and released -/

theorem count_step {action : Action ρ} (h : step apart s action = some s') (r : ρ) :
    [action].count (.acquire r) + s.held.count r =
      [action].count (.release r) + s'.held.count r := by
  cases action with
  | acquire q =>
    simp only [step] at h
    split at h
    · cases h
      by_cases hq : q = r
      · subst hq
        simp [Nat.add_comm]
      · simp [hq]
    · cases h
  | release q =>
    simp only [step] at h
    split at h
    · rename_i hreleased
      cases h
      by_cases hq : q = r
      · subst hq
        have hpos : 0 < s.held.count q := List.count_pos_iff.mpr hreleased.1
        simp only [List.count_cons, List.count_nil, List.count_erase_self]
        simp only [beq_self_eq_true, if_true, reduceCtorEq, beq_iff_eq, if_false]
        omega
      · have hne : r ≠ q := fun h => hq h.symm
        simp [hq, List.count_erase_of_ne hne]
    · cases h
  | publish q =>
    simp only [step] at h
    split at h
    · cases h
      simp
    · cases h

/-- **Released as often as acquired**, up to what is still held. -/
theorem count_acquire (h : replay apart s actions = some s') (r : ρ) :
    actions.count (.acquire r) + s.held.count r =
      actions.count (.release r) + s'.held.count r := by
  have hrun := replay_run h
  clear h
  induction hrun with
  | nil => simp
  | snoc _ hstep ih =>
    have hlast := count_step hstep r
    rw [List.count_append, List.count_append]
    omega

/-! ## Brackets -/

theorem replay_acquires (hfresh : Fresh apart s.held rs) :
    replay apart s (rs.map .acquire) = some { s with held := rs.reverse ++ s.held } := by
  induction rs generalizing s with
  | nil => rfl
  | cons r rs ih =>
    obtain ⟨hr, hrs⟩ := hfresh
    rw [List.map_cons, replay_cons]
    simp only [step]
    rw [if_pos hr, Option.bind_some, ih hrs]
    simp

theorem replay_releases (hnodup : rs.Nodup) (hheld : ∀ r ∈ rs, r ∈ s.held)
    (hpublished : ∀ r ∈ rs, s.published ≠ some r) :
    replay apart s (rs.map .release) = some { s with held := s.held.diff rs } := by
  induction rs generalizing s with
  | nil => rfl
  | cons r rs ih =>
    obtain ⟨hr, hrs⟩ := List.nodup_cons.mp hnodup
    rw [List.map_cons, replay_cons]
    simp only [step]
    rw [if_pos ⟨hheld r List.mem_cons_self, hpublished r List.mem_cons_self⟩, Option.bind_some,
      ih hrs]
    · rw [List.diff_cons]
    · intro q hq
      have hne : q ≠ r := by
        rintro rfl
        exact hr hq
      exact (List.mem_erase_of_ne hne).mpr (hheld q (List.mem_cons_of_mem _ hq))
    · exact fun q hq => hpublished q (List.mem_cons_of_mem _ hq)

theorem diff_append_self (front back : List ρ) : (front ++ back).diff front = back := by
  induction front with
  | nil => rfl
  | cons r front ih => rw [List.cons_append, List.diff_cons, List.erase_cons_head, ih]

omit [DecidableEq ρ] [DecidableRel apart] in
theorem Fresh.ne_held (hirrefl : ∀ q, ¬apart q q) {held : List ρ} (h : Fresh apart held rs)
    (hr : r ∈ rs) : r ∉ held := by
  induction rs generalizing held with
  | nil => cases hr
  | cons q rs ih =>
    intro hheld
    rcases List.mem_cons.mp hr with rfl | hr
    · exact hirrefl r (h.1 r hheld)
    · exact ih h.2 hr (List.mem_cons_of_mem _ hheld)

omit [DecidableEq ρ] [DecidableRel apart] in
theorem Fresh.nodup (hirrefl : ∀ q, ¬apart q q) {held : List ρ} (h : Fresh apart held rs) :
    rs.Nodup := by
  induction rs generalizing held with
  | nil => exact List.nodup_nil
  | cons r rs ih =>
    refine List.nodup_cons.mpr ⟨fun hr => ?_, ih h.2⟩
    exact h.2.ne_held hirrefl hr List.mem_cons_self

omit [DecidableEq ρ] [DecidableRel apart] in
theorem fresh_append {held : List ρ} :
    Fresh apart held (rs ++ rs') ↔ Fresh apart held rs ∧ Fresh apart (rs.reverse ++ held) rs' := by
  induction rs generalizing held with
  | nil => exact ⟨fun h => ⟨trivial, h⟩, And.right⟩
  | cons r rs ih =>
    simp only [List.cons_append, Fresh, ih, List.reverse_cons, List.append_assoc, List.nil_append,
      and_assoc]

/-- **Releasing a part** of what is held leaves the rest, where nothing is published. -/
theorem replay_releases_perm {rest : List ρ} (hnodup : rs.Nodup)
    (hheld : s.held.Perm (rs ++ rest)) (hpublished : s.published = none) :
    ∃ s', replay apart s (rs.map .release) = some s' ∧ s'.held.Perm rest ∧
      s'.published = none := by
  refine ⟨{ s with held := s.held.diff rs }, replay_releases hnodup (fun r hr => ?_)
    (fun r _ => ?_), ?_, hpublished⟩
  · exact hheld.mem_iff.mpr (List.mem_append_left _ hr)
  · rw [hpublished]
    exact nofun
  · have hdiff := hheld.diff_right rs
    rwa [diff_append_self] at hdiff

/-- **Acquiring and releasing** the same resources, in any order, leaves the ledger as it was. -/
theorem replay_bracket (hirrefl : ∀ q, ¬apart q q) (hs : s.Sound) (hfresh : Fresh apart s.held rs)
    (hperm : rs'.Perm rs) :
    replay apart s (rs.map .acquire ++ rs'.map .release) = some s := by
  rw [replay_append (replay_acquires hfresh)]
  have hmem : ∀ r ∈ rs', r ∈ rs := fun r hr => hperm.mem_iff.mp hr
  rw [replay_releases (hperm.nodup_iff.mpr (hfresh.nodup hirrefl))]
  · rw [(hperm.trans (List.reverse_perm rs).symm).diff_left, diff_append_self]
  · exact fun r hr => List.mem_append_left _ (List.mem_reverse.mpr (hmem r hr))
  · exact fun r hr hpublished => hfresh.ne_held hirrefl (hmem r hr) (hs r hpublished)

/-- **Acquiring some and releasing a part** of them, in any order, leaves the rest held. -/
theorem replay_bracket_keeping (hirrefl : ∀ q, ¬apart q q) (hs : s.Sound) {kept : List ρ}
    (hfresh : Fresh apart s.held rs) (hperm : rs.Perm (rs' ++ kept)) :
    ∃ held, replay apart s (rs.map .acquire ++ rs'.map .release) = some ⟨held, s.published⟩ ∧
      held.Perm (kept ++ s.held) := by
  have hmem : ∀ r ∈ rs', r ∈ rs := fun r hr => hperm.mem_iff.mpr (List.mem_append_left _ hr)
  have hnodup : rs'.Nodup :=
    (List.nodup_append.mp (hperm.nodup_iff.mp (hfresh.nodup hirrefl))).1
  refine ⟨(rs.reverse ++ s.held).diff rs', ?_, ?_⟩
  · rw [replay_append (replay_acquires hfresh), replay_releases hnodup]
    · exact fun r hr => List.mem_append_left _ (List.mem_reverse.mpr (hmem r hr))
    · exact fun r hr hpublished => hfresh.ne_held hirrefl (hmem r hr) (hs r hpublished)
  · have hheld : (rs.reverse ++ s.held).Perm (rs' ++ (kept ++ s.held)) := by
      rw [← List.append_assoc]
      exact ((List.reverse_perm rs).trans hperm).append_right _
    have hdiff := hheld.diff_right rs'
    rwa [diff_append_self] at hdiff

/-- **Handing over.** Acquiring some resources, publishing one of them in place of the old one and
releasing the old one and a part of the others leaves the new one held, with the rest. -/
theorem replay_handOver (hirrefl : ∀ q, ¬apart q q) {old : Option ρ} {held kept : List ρ}
    (hheld : s.held.Perm (old.toList ++ held)) (hfresh : Fresh apart s.held rs)
    (hperm : rs.Perm (r :: (rs' ++ kept))) :
    ∃ held', replay apart s
        (rs.map .acquire ++ (.publish r :: (old.toList ++ rs').map .release)) =
      some ⟨held', some r⟩ ∧ held'.Perm (r :: (kept ++ held)) := by
  have hmem : ∀ q ∈ r :: rs', q ∈ rs :=
    fun q hq => hperm.mem_iff.mpr (List.mem_append_left kept hq)
  have hold : ∀ q ∈ old.toList, q ∈ s.held :=
    fun q hq => hheld.mem_iff.mpr (List.mem_append_left _ hq)
  have hnew : ∀ q ∈ r :: rs', q ∉ s.held := fun q hq => hfresh.ne_held hirrefl (hmem q hq)
  obtain ⟨hr, hrest⟩ := List.nodup_cons.mp (hperm.nodup_iff.mp (hfresh.nodup hirrefl))
  have hnodup : (old.toList ++ rs').Nodup := by
    refine List.Nodup.append ?_ (List.nodup_append.mp hrest).1 ?_
    · cases old <;> simp
    · exact fun q hq hq' => hnew q (List.mem_cons_of_mem _ hq') (hold q hq)
  refine ⟨(rs.reverse ++ s.held).diff (old.toList ++ rs'), ?_, ?_⟩
  · rw [replay_append (replay_acquires hfresh), replay_cons]
    simp only [step]
    rw [if_pos (List.mem_append_left _ (List.mem_reverse.mpr (hmem r List.mem_cons_self))),
      Option.bind_some, replay_releases hnodup]
    · intro q hq
      rcases List.mem_append.mp hq with hq | hq
      · exact List.mem_append_right _ (hold q hq)
      · exact List.mem_append_left _ (List.mem_reverse.mpr (hmem q (List.mem_cons_of_mem _ hq)))
    · intro q hq hpublished
      cases hpublished
      rcases List.mem_append.mp hq with hq | hq
      · exact hnew r List.mem_cons_self (hold r hq)
      · exact hr (List.mem_append_left _ hq)
  · -- what is left of the resources, up to their order
    have hsplit : (rs.reverse ++ s.held).Perm ((old.toList ++ rs') ++ (r :: (kept ++ held))) := by
      refine (((List.reverse_perm rs).trans hperm).append hheld).trans ?_
      refine List.perm_iff_count.mpr fun q => ?_
      simp only [List.count_append, List.count_cons]
      omega
    have hdiff := hsplit.diff_right (old.toList ++ rs')
    rwa [diff_append_self] at hdiff

end Ledger
