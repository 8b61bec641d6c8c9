import Rpi5Uefi.Redfish.BootRuns

/-!
# No reset loop and no replay

* **`NoReplay`**, **`noReplay_step`**: what every change by the operator and every boot keeps,
  whatever fails.
* **`override_noReplay`**: no boot resets for `Continuous` right after one that did, and `BootNext`
  is set once for each time a `Once` override is staged, behind the PATCH that disables it.
-/

namespace Rpi5Uefi

open Transition

variable {s s' : BootSystem} {e : BootEvent} {inputs : SyncInputs} {mark : Option UInt16}
  {calls : List SyncCall} {meanwhile : List (Option Override)} {status : EfiStatus}

/-- A `Once` override is applied behind the accepted PATCH, with one write of `BootNext`. -/
theorem calls_of_once (hc : Course mark inputs calls) (hread : overrideRead inputs = some .once)
    {n : UInt16} (hset : .setBootNext n status ∈ calls) :
    inputs.patchStatus = .success ∧ ∃ option, matchedOption inputs = some option ∧
      calls = .patchDisabled .success :: applyMatchedOption option inputs.bootNextStatus := by
  cases hc with
  | nothingRead => simp at hset
  | standAside => simp at hset
  | noMatch => simp at hset
  | notMarked => simp at hset
  | marked option h =>
    rw [hread] at h
    cases h
  | notDisabled => simp at hset
  | disabled option _ hmatch hstatus => exact ⟨hstatus, option, hmatch, rfl⟩

/-- `BootNext` is written once in a boot at most. -/
theorem countP_setBootNext (hc : Course mark inputs calls) :
    calls.countP (fun call => match call with | .setBootNext _ _ => true | _ => false) ≤ 1 := by
  have happly : ∀ option status, (applyMatchedOption option status).countP
      (fun call => match call with | .setBootNext _ _ => true | _ => false) ≤ 1 := by
    intro option status
    unfold applyMatchedOption
    split
    · exact Nat.le_refl _
    · exact Nat.le_refl _
  cases hc with
  | nothingRead => exact Nat.zero_le _
  | standAside => exact Nat.zero_le _
  | noMatch => exact Nat.zero_le _
  | notMarked => exact Nat.zero_le _
  | marked option =>
    rw [List.countP_cons]
    exact happly option _
  | notDisabled => exact Nat.zero_le _
  | disabled option =>
    rw [List.countP_cons]
    exact happly option _

/-- The operator's changes count up. -/
theorem staging_operator (l : List (Option Override)) (bmc : BmcState) :
    (l.foldl BmcState.operator bmc).staging = bmc.staging + l.length := by
  induction l generalizing bmc with
  | nil => rfl
  | cons o l ih =>
    rw [List.foldl_cons, ih]
    show bmc.staging + 1 + l.length = bmc.staging + (l.length + 1)
    omega

theorem staging_apply (takesEffect : Bool) (calls : List SyncCall) (bmc : BmcState) :
    (calls.foldl (BmcState.apply takesEffect) bmc).staging = bmc.staging := by
  induction calls generalizing bmc with
  | nil => rfl
  | cons call calls ih =>
    rw [List.foldl_cons, ih]
    cases call with
    | patchDisabled status =>
      unfold BmcState.apply
      simp only
      split
      · rfl
      · rfl
    | deleteMark => rfl
    | setMark => rfl
    | setBootNext => rfl
    | resetSystem => rfl

/-- Nothing the sync does sets the override. -/
theorem override_of_apply {takesEffect : Bool} {bmc : BmcState} {o : Override}
    (h : (calls.foldl (BmcState.apply takesEffect) bmc).override = some o) :
    bmc.override = some o := by
  induction calls generalizing bmc with
  | nil => exact h
  | cons call calls ih =>
    have hnext := ih h
    cases call with
    | patchDisabled status =>
      unfold BmcState.apply at hnext
      simp only at hnext
      split at hnext
      · cases hnext
      · exact hnext
    | deleteMark => exact hnext
    | setMark => exact hnext
    | setBootNext => exact hnext
    | resetSystem => exact hnext

/-- An override that was read and has not been set again since. -/
def Live (bmc : BmcState) (staging : Nat) : Prop :=
  bmc.staging = staging ∧ bmc.override = some .once

/-- What every run keeps. -/
structure NoReplay (s : BootSystem) : Prop where
  pending : ∀ pre r mid, s.history = pre ++ r :: mid → r.ResetFor .continuous →
    (∀ x ∈ mid, x.read ≠ some .continuous) → s.nv.mark.isSome = true
  resets : ∀ pre r mid r' post, s.history = (pre ++ r :: mid) ++ r' :: post →
    (∀ x ∈ mid, x.read ≠ some .continuous) → r.ResetFor .continuous → ¬r'.ResetFor .continuous
  patched : ∀ r ∈ s.history, r.read = some .once → ∀ n status,
    .setBootNext n status ∈ r.calls →
    ∃ front back, r.calls = front ++ .setBootNext n status :: back ∧ .patchDisabled .success ∈ front
  single : ∀ r ∈ s.history,
    r.calls.countP (fun call => match call with | .setBootNext _ _ => true | _ => false) ≤ 1
  known : ∀ r ∈ s.history, r.SetsOnce → r.staging ≤ s.bmc.staging ∧ ¬Live s.bmc r.staging
  once : s.history.Pairwise fun r r' => r.SetsOnce → r'.SetsOnce → r.staging ≠ r'.staging

theorem noReplay_operator (h : NoReplay s) (o : Option Override) :
    NoReplay { s with bmc := s.bmc.operator o } := by
  refine ⟨h.pending, h.resets, h.patched, h.single, fun r hr hset => ?_, h.once⟩
  obtain ⟨hle, -⟩ := h.known r hr hset
  refine ⟨Nat.le_succ_of_le hle, fun hlive => ?_⟩
  have hstage : s.bmc.staging + 1 = r.staging := hlive.1
  omega

/-- The write of `BootNext` for a `Once` override is behind the accepted PATCH. -/
theorem patched_of_once (hc : Course mark inputs calls) (hread : overrideRead inputs = some .once)
    {n : UInt16} (hset : .setBootNext n status ∈ calls) :
    ∃ front back, calls = front ++ .setBootNext n status :: back ∧
      .patchDisabled .success ∈ front := by
  obtain ⟨-, option, -, hcalls⟩ := calls_of_once hc hread hset
  rw [hcalls] at hset ⊢
  obtain ⟨front, back, hsplit⟩ := List.append_of_mem hset
  cases front with
  | nil => cases hsplit
  | cons call front =>
    rw [List.cons_append, List.cons.injEq] at hsplit
    obtain ⟨rfl, hbehind⟩ := hsplit
    rw [hbehind]
    exact ⟨.patchDisabled .success :: front, back, rfl, List.mem_cons_self⟩

/-- An override set during a boot is a new one: one staged before is live afterwards only if
nothing was set meanwhile and it was live already. -/
theorem live_of_boot (hstep : bootStep s (.boot inputs meanwhile) = some s') {staging : Nat}
    (hle : staging ≤ s.bmc.staging) (hlive : Live s'.bmc staging) :
    meanwhile = [] ∧ Live s.bmc staging := by
  obtain ⟨-, -, hbmc, -⟩ := bootStep_boot hstep
  obtain ⟨hstage, ho⟩ := hlive
  rw [hbmc, staging_apply, staging_operator] at hstage
  have hnone : meanwhile = [] := List.length_eq_zero_iff.mp (by omega)
  subst hnone
  rw [hbmc] at ho
  exact ⟨rfl, by simpa using hstage, override_of_apply ho⟩

/-- A `Once` override that was applied is not live any more. -/
theorem not_live_of_applied (hstep : bootStep s (.boot inputs meanwhile) = some s')
    (hset : (bootRecord s inputs).SetsOnce) : ¬Live s'.bmc s.bmc.staging := by
  intro hlive
  obtain ⟨-, -, hbmc, -⟩ := bootStep_boot hstep
  obtain ⟨hread, n, status, hcall⟩ := hset
  have hc : Course s.nv.mark inputs (bootRecord s inputs).calls := handleBootOverride_course _ _
  obtain ⟨-, option, -, hcalls⟩ := calls_of_once hc hread hcall
  obtain ⟨rfl, -⟩ := live_of_boot hstep (Nat.le_refl _) hlive
  -- the PATCH took the override away, and nothing behind it brings it back
  have hon := hlive.2
  rw [hbmc, hcalls, List.foldl_cons] at hon
  cases override_of_apply hon

/-- **A boot keeps it.** -/
theorem noReplay_boot (h : NoReplay s)
    (hstep : bootStep s (.boot inputs meanwhile) = some s') : NoReplay s' := by
  obtain ⟨hhonest, hnv, hbmc, hhistory⟩ := bootStep_boot hstep
  have hc : Course s.nv.mark inputs (bootRecord s inputs).calls := handleBootOverride_course _ _
  have hold : ∀ r, r ∈ s'.history → r ∈ s.history ∨ r = bootRecord s inputs := by
    intro r hr
    rw [hhistory] at hr
    simpa using hr
  have hgrow : s.bmc.staging ≤ s'.bmc.staging := by
    rw [hbmc, staging_apply, staging_operator]
    exact Nat.le_add_right _ _
  refine ⟨fun pre r mid heq hreset hmid => ?_, fun pre r mid r' post heq hmid hreset hreset' => ?_,
    fun r hr hread n status hset => ?_, fun r hr => ?_, fun r hr hset => ?_, ?_⟩
  · -- the mark: this boot set it with its reset, or did not read `Continuous` and left it alone
    rw [hhistory] at heq
    rw [hnv]
    rcases history_snoc heq with ⟨-, rfl, -⟩ | ⟨mid', rfl, heq'⟩
    · exact (mark_of_reset hc hreset.1 hreset.2 _).2
    · rw [mark_of_not_continuous hc (hmid (bootRecord s inputs) (by simp))]
      exact h.pending pre r mid' heq' hreset fun x hx => hmid x (by simp [hx])
  · -- a reset needs a clear mark
    rw [hhistory] at heq
    rcases history_snoc heq with ⟨heq', rfl, -⟩ | ⟨post', rfl, heq'⟩
    · have hmark := h.pending pre r mid heq'.symm hreset hmid
      rw [(mark_of_reset hc hreset'.1 hreset'.2 s.nv).1] at hmark
      cases hmark
    · exact h.resets pre r mid r' post' heq' hmid hreset hreset'
  · rcases hold r hr with hr | rfl
    · exact h.patched r hr hread n status hset
    · exact patched_of_once hc hread hset
  · rcases hold r hr with hr | rfl
    · exact h.single r hr
    · exact countP_setBootNext hc
  · rcases hold r hr with hr | rfl
    · obtain ⟨hle, hdead⟩ := h.known r hr hset
      exact ⟨Nat.le_trans hle hgrow, fun hl => hdead (live_of_boot hstep hle hl).2⟩
    · exact ⟨hgrow, not_live_of_applied hstep hset⟩
  · rw [hhistory, List.pairwise_append]
    refine ⟨h.once, List.pairwise_singleton _ _, fun r hr r' hr' hset hset' heq => ?_⟩
    rw [List.mem_singleton] at hr'
    subst hr'
    -- what this boot reads is live, and what an earlier one applied is not
    have hread : overrideRead inputs = some .once := hset'.1
    have ho : s.bmc.override = some .once := by
      rcases hhonest with hnone | hsame
      · rw [hread] at hnone
        cases hnone
      · exact hsame.symm.trans hread
    exact (h.known r hr hset).2 ⟨heq.symm, ho⟩

theorem noReplay_step (h : NoReplay s) (hstep : bootStep s e = some s') : NoReplay s' := by
  cases e with
  | operator o =>
    cases hstep
    exact noReplay_operator h o
  | boot inputs meanwhile => exact noReplay_boot h hstep

/-- **No reset loop and no replay.** In every run: no boot resets for `Continuous` when the last
boot that read it did; a `Once` override gets `BootNext` behind the accepted PATCH only, once in a
boot, and in one boot for each time the operator stages it. -/
theorem override_noReplay (nv : NvStore) (bmc : BmcState) (es : List BootEvent) (s : BootSystem)
    (hrun : Run (fun s e s' => bootStep s e = some s') (bootStart nv bmc) es s) :
    (∀ pre r mid r' post, s.history = (pre ++ r :: mid) ++ r' :: post →
        (∀ x ∈ mid, x.read ≠ some .continuous) → r.ResetFor .continuous →
        ¬r'.ResetFor .continuous) ∧
      (∀ r ∈ s.history, r.read = some .once → ∀ n status, .setBootNext n status ∈ r.calls →
        ∃ front back, r.calls = front ++ .setBootNext n status :: back ∧
          .patchDisabled .success ∈ front) ∧
      (∀ r ∈ s.history,
        r.calls.countP (fun call => match call with | .setBootNext _ _ => true | _ => false) ≤ 1) ∧
      s.history.Pairwise fun r r' => r.SetsOnce → r'.SetsOnce → r.staging ≠ r'.staging := by
  have hstart : NoReplay (bootStart nv bmc) :=
    ⟨fun _ _ _ h => absurd h (by simp [bootStart]),
      fun _ _ _ _ _ h => absurd h (by simp [bootStart]),
      nofun, nofun, nofun, .nil⟩
  have h := hrun.inv (I := NoReplay) (fun _ _ _ h hstep => noReplay_step h hstep) hstart
  exact ⟨h.resets, h.patched, h.single, h.once⟩

/-- A `Continuous` override over three boots, and a `Once` override staged twice. -/
def repeatedEvents : List BootEvent :=
  [.operator (some .continuous), .boot (syncedBoot "Continuous") [],
    .boot (syncedBoot "Continuous") [], .boot (syncedBoot "Continuous") [],
    .operator (some .once), .boot (syncedBoot "Once") [], .operator (some .once),
    .boot (syncedBoot "Once") []]

theorem repeatedEvents_noReplay :
    ∃ s : BootSystem, s.history.map (fun r => (r.staging, r.calls.length)) =
        [(1, 3), (1, 1), (1, 3), (2, 3), (3, 3)] ∧
      (∀ pre r mid r' post, s.history = (pre ++ r :: mid) ++ r' :: post →
        (∀ x ∈ mid, x.read ≠ some .continuous) → r.ResetFor .continuous →
        ¬r'.ResetFor .continuous) ∧
      (∀ r ∈ s.history, r.read = some .once → ∀ n status, .setBootNext n status ∈ r.calls →
        ∃ front back, r.calls = front ++ .setBootNext n status :: back ∧
          .patchDisabled .success ∈ front) ∧
      (∀ r ∈ s.history,
        r.calls.countP (fun call => match call with | .setBootNext _ _ => true | _ => false) ≤ 1) ∧
      s.history.Pairwise fun r r' => r.SetsOnce → r'.SetsOnce → r.staging ≠ r'.staging := by
  have hrun : ∃ s : BootSystem, repeatedEvents.foldlM bootStep
      (bootStart ⟨none, none⟩ ⟨none, 0⟩) = some s ∧
      s.history.map (fun r => (r.staging, r.calls.length)) =
        [(1, 3), (1, 1), (1, 3), (2, 3), (3, 3)] :=
    ⟨_, rfl, by decide⟩
  obtain ⟨s, hrun, hhistory⟩ := hrun
  exact ⟨s, hhistory, override_noReplay ⟨none, none⟩ ⟨none, 0⟩ repeatedEvents s
    (run_iff_foldlM.mpr hrun)⟩

end Rpi5Uefi
