import Rpi5Uefi.Redfish.BootRuns

/-!
# The mark of a continuous override

`RPI_REDFISH_CONTINUOUS_MARK_VAR` is to say that the boot before staged `BootNext` for `Continuous`
and reset.

* **`continuousMark_faithful`**: it does in every run in which a boot that finds the mark reads the
  override and deletes it, and the writes of a staging boot succeed.
* **`staleMarkEvents_stale`**: a mark whose `BootNext` could not be written.
-/

namespace Rpi5Uefi

open Bytes Transition

variable {s s' : BootSystem} {e : BootEvent} {inputs : SyncInputs} {mark : Option UInt16}
  {calls : List SyncCall} {meanwhile : List (Option Override)} {option : BootOption}

/-- What the mark is for: it is there only when the boot before staged `BootNext` for `Continuous`
and reset, so that a boot that reads the override was entered through it or stages it. -/
structure MarkFaithful (history : List BootRecord) : Prop where
  pending : ∀ pre r post, history = pre ++ r :: post → r.markAtStart = true →
    EnteredThrough pre r
  applied : ∀ pre r post, history = pre ++ r :: post → r.read = some .continuous →
    ∀ option, r.matched = some option →
    EnteredThrough pre r ∨ r.Staged .continuous option.optionNumber

/-- A boot that finds the mark reads `Continuous` and deletes it; one that stages `Continuous` can
write both variables. -/
def MarkKept (s : BootSystem) : BootEvent → Prop
  | .operator _ => True
  | .boot inputs _ =>
    if s.nv.mark.isSome then
      overrideRead inputs = some .continuous ∧ inputs.deleteStatus = .success
    else
      overrideRead inputs = some .continuous → (matchedOption inputs).isSome = true →
        inputs.markStatus = .success ∧ inputs.bootNextStatus = .success

/-- What such runs keep: a mark that is set belongs to the last boot. -/
structure MarkPending (s : BootSystem) : Prop where
  faithful : MarkFaithful s.history
  last : s.nv.mark.isSome = true → ∃ front p n, s.history = front ++ [p] ∧
    p.Staged .continuous n ∧ s.nv.bootNext = some n

/-- A boot that finds the mark and deletes it. -/
theorem calls_of_mark (hc : Course mark inputs calls) (hmark : mark.isSome = true)
    (hread : overrideRead inputs = some .continuous) :
    calls = [.deleteMark inputs.deleteStatus] := by
  cases hc with
  | standAside => rfl
  | nothingRead h =>
    rw [hread] at h
    cases h
  | noMatch o h hnone =>
    rw [hread] at h
    cases h
    rw [hnone rfl] at hmark
    cases hmark
  | notMarked option _ hnone =>
    rw [hnone] at hmark
    cases hmark
  | marked option _ hnone =>
    rw [hnone] at hmark
    cases hmark
  | notDisabled option h =>
    rw [hread] at h
    cases h
  | disabled option h =>
    rw [hread] at h
    cases h

/-- A boot that stages `Continuous`, when both writes succeed. -/
theorem calls_of_no_mark (hc : Course mark inputs calls) (hmark : mark = none)
    (hread : overrideRead inputs = some .continuous) (hmatch : matchedOption inputs = some option)
    (hset : inputs.markStatus = .success) (hnext : inputs.bootNextStatus = .success) :
    calls = [.setMark option.optionNumber .success, .setBootNext option.optionNumber .success,
      .resetSystem] := by
  cases hc with
  | nothingRead h =>
    rw [hread] at h
    cases h
  | standAside _ h =>
    rw [hmark] at h
    cases h
  | noMatch o _ _ h =>
    rw [hmatch] at h
    cases h
  | notMarked option' _ _ _ h => exact absurd hset h
  | marked option' _ _ h =>
    rw [hmatch] at h
    cases h
    rw [hnext]
    rfl
  | notDisabled option' h =>
    rw [hread] at h
    cases h
  | disabled option' h =>
    rw [hread] at h
    cases h

theorem calls_of_no_match (hc : Course mark inputs calls) (hmark : mark = none)
    (hmatch : matchedOption inputs = none) : calls = [] := by
  cases hc with
  | nothingRead => rfl
  | standAside _ h =>
    rw [hmark] at h
    cases h
  | noMatch => rfl
  | notMarked option _ _ h =>
    rw [hmatch] at h
    cases h
  | marked option _ _ h =>
    rw [hmatch] at h
    cases h
  | notDisabled option _ h =>
    rw [hmatch] at h
    cases h
  | disabled option _ h =>
    rw [hmatch] at h
    cases h

/-- What is faithful stays so with a boot that is: it was entered through the mark it finds, and
where it reads `Continuous` it was entered through it or stages it. -/
theorem MarkFaithful.snoc {history : List BootRecord} {boot : BootRecord}
    (h : MarkFaithful history)
    (hpending : boot.markAtStart = true → EnteredThrough history boot)
    (happlied : boot.read = some .continuous → ∀ option, boot.matched = some option →
      EnteredThrough history boot ∨ boot.Staged .continuous option.optionNumber) :
    MarkFaithful (history ++ [boot]) := by
  constructor
  · intro pre r post heq hstart
    rcases history_snoc heq with ⟨rfl, rfl, -⟩ | ⟨post', rfl, heq'⟩
    · exact hpending hstart
    · exact h.pending pre r post' heq' hstart
  · intro pre r post heq hread option hopt
    rcases history_snoc heq with ⟨rfl, rfl, -⟩ | ⟨post', rfl, heq'⟩
    · exact happlied hread option hopt
    · exact h.applied pre r post' heq' hread option hopt

/-- A boot without the mark that stages `Continuous`. -/
theorem staged_of_no_mark (hnone : s.nv.mark = none) (hok : MarkKept s (.boot inputs meanwhile))
    (hread : overrideRead inputs = some .continuous)
    (hmatch : matchedOption inputs = some option) :
    (bootRecord s inputs).calls = [.setMark option.optionNumber .success,
        .setBootNext option.optionNumber .success, .resetSystem] ∧
      (bootRecord s inputs).Staged .continuous option.optionNumber := by
  have hc : Course s.nv.mark inputs (bootRecord s inputs).calls := handleBootOverride_course _ _
  unfold MarkKept at hok
  simp only [hnone, Option.isSome_none, Bool.false_eq_true, if_false] at hok
  obtain ⟨hset, hnext⟩ := hok hread (by rw [hmatch]; rfl)
  have hcalls := calls_of_no_mark hc hnone hread hmatch hset hnext
  exact ⟨hcalls, hread, by rw [hcalls]; simp, by rw [hcalls]; simp⟩

theorem markPending_boot (h : MarkPending s) (hok : MarkKept s (.boot inputs meanwhile))
    (hstep : bootStep s (.boot inputs meanwhile) = some s') : MarkPending s' := by
  obtain ⟨-, hnv, -, hhistory⟩ := bootStep_boot hstep
  have hc : Course s.nv.mark inputs (bootRecord s inputs).calls := handleBootOverride_course _ _
  have hentered : s.nv.mark.isSome = true → EnteredThrough s.history (bootRecord s inputs) := by
    intro hmark
    obtain ⟨front, p, n, hlast, hstaged, hnext⟩ := h.last hmark
    exact ⟨front, p, n, hlast, hstaged, hnext⟩
  by_cases hmark : s.nv.mark.isSome = true
  · -- the boot that the mark is for
    unfold MarkKept at hok
    simp only [hmark, if_true] at hok
    refine ⟨?_, fun hafter => ?_⟩
    · rw [hhistory]
      exact h.faithful.snoc hentered fun _ _ _ => Or.inl (hentered hmark)
    · rw [hnv, calls_of_mark hc hmark hok.1, hok.2] at hafter
      cases hafter
  · have hnone : s.nv.mark = none := by simpa using hmark
    refine ⟨?_, fun hafter => ?_⟩
    · rw [hhistory]
      refine h.faithful.snoc hentered fun hread option hopt => Or.inr ?_
      exact (staged_of_no_mark hnone hok hread hopt).2
    · -- a mark that is there now was set by this boot
      by_cases hread : overrideRead inputs = some .continuous
      case neg =>
        rw [hnv, mark_of_not_continuous hc hread] at hafter
        exact absurd hafter hmark
      cases hmatch : matchedOption inputs with
      | none =>
        have hcalls : (bootRecord s inputs).calls = [] := calls_of_no_match hc hnone hmatch
        rw [hnv, hcalls] at hafter
        exact absurd hafter hmark
      | some option =>
        obtain ⟨hcalls, hstaged⟩ := staged_of_no_mark hnone hok hread hmatch
        refine ⟨s.history, bootRecord s inputs, option.optionNumber, hhistory, hstaged, ?_⟩
        rw [hnv, hcalls]
        rfl

theorem markPending_step (h : MarkPending s) (hok : MarkKept s e)
    (hstep : bootStep s e = some s') : MarkPending s' := by
  cases e with
  | operator o =>
    cases hstep
    exact ⟨h.faithful, h.last⟩
  | boot inputs meanwhile => exact markPending_boot h hok hstep

/-- **The mark is faithful** in every run whose boots all meet `MarkKept`. -/
theorem continuousMark_faithful (bmc : BmcState) (es : List BootEvent) (s : BootSystem)
    (hrun : RunWith (fun s e s' => bootStep s e = some s') MarkKept
      (bootStart ⟨none, none⟩ bmc) es s) : MarkFaithful s.history := by
  have hstart : MarkPending (bootStart ⟨none, none⟩ bmc) :=
    ⟨⟨fun _ _ _ h => absurd h (by simp [bootStart]), fun _ _ _ h => absurd h (by simp [bootStart])⟩,
      nofun⟩
  exact (hrun.inv (I := MarkPending)
    (fun _ _ _ h hok hstep => markPending_step h hok hstep) hstart).faithful

instance (s : BootSystem) (e : BootEvent) : Decidable (MarkKept s e) := by
  cases e with
  | operator => exact isTrue trivial
  | boot inputs meanwhile =>
    unfold MarkKept
    simp only
    infer_instance

def continuousEvents : List BootEvent :=
  [.operator (some .continuous), .boot (syncedBoot "Continuous") [],
    .boot (syncedBoot "Continuous") []]

/-- One boot stages the override, the next is entered through it. -/
theorem continuousEvents_faithful :
    ∃ s : BootSystem,
      s.history.map (fun r => (r.entered, r.markAtStart)) = [(none, false), (some 3, true)] ∧
      MarkFaithful s.history := by
  have hrun : ∃ s : BootSystem, continuousEvents.foldlM (fun s e =>
      if MarkKept s e then bootStep s e else none) (bootStart ⟨none, none⟩ ⟨none, 0⟩) = some s ∧
      s.history.map (fun r => (r.entered, r.markAtStart)) = [(none, false), (some 3, true)] :=
    ⟨_, rfl, by decide⟩
  obtain ⟨s, hrun, hhistory⟩ := hrun
  exact ⟨s, hhistory, continuousMark_faithful ⟨none, 0⟩ continuousEvents s
    (runWith_of_foldlM hrun)⟩

/-- The same, but `BootNext` cannot be written in the first boot. -/
def staleMarkEvents : List BootEvent :=
  [.operator (some .continuous),
    .boot { syncedBoot "Continuous" with bootNextStatus := .deviceError } [],
    .boot (syncedBoot "Continuous") []]

/-- The second boot finds a mark nobody staged anything for, and stands aside. -/
theorem staleMarkEvents_stale :
    ∃ s : BootSystem, Run (fun s e s' => bootStep s e = some s') (bootStart ⟨none, none⟩ ⟨none, 0⟩)
        staleMarkEvents s ∧
      s.history.map (fun r => (r.entered, r.markAtStart, r.calls)) =
        [(none, false, [.setMark 3 .success, .setBootNext 3 .deviceError]),
          (none, true, [.deleteMark .success])] ∧ ¬MarkFaithful s.history := by
  have hrun : ∃ s : BootSystem, staleMarkEvents.foldlM bootStep
      (bootStart ⟨none, none⟩ ⟨none, 0⟩) = some s ∧
      s.history.map (fun r => (r.entered, r.markAtStart, r.calls)) =
        [(none, false, [.setMark 3 .success, .setBootNext 3 .deviceError]),
          (none, true, [.deleteMark .success])] :=
    ⟨_, rfl, by decide⟩
  obtain ⟨s, hrun, hhistory⟩ := hrun
  refine ⟨s, run_iff_foldlM.mpr hrun, hhistory, fun h => ?_⟩
  obtain ⟨r, rest, hhead, -, htail⟩ := List.map_eq_cons_iff.mp hhistory
  obtain ⟨r', rest', htail', hr', hnil⟩ := List.map_eq_cons_iff.mp htail
  rw [List.map_eq_nil_iff] at hnil
  subst hnil htail'
  -- the second boot is not entered through anything
  obtain ⟨front, p, n, -, -, hentered⟩ := h.pending [r] r' [] hhead (by
    injection hr' with _ hrest
    injection hrest)
  injection hr' with hnone
  rw [hnone] at hentered
  cases hentered

end Rpi5Uefi
