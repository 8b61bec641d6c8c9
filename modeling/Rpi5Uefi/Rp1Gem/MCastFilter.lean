import Rpi5Uefi.Lib.Run
import Rpi5Uefi.Rp1Gem.Snp

/-!
# The multicast list of `ReceiveFilters`

The list is checked when the call itself enables multicast and copied whenever multicast is enabled
after the call.

* **`CopyFits`**: the condition under which the copy stays in the array and has a source.
* **`receiveFilters_safe_iff`**: after any calls that meet it, the count is within its bound, and
  the next call is safe exactly when it meets it too.
-/

namespace Rpi5Uefi

open Transition

/-- What a call of `ReceiveFilters` owes its caller and the memory around the list. -/
structure ReceiveFiltersSafe (call : ReceiveFiltersCall) (gem : Gem) : Prop where
  count : (rp1GemSnpReceiveFilters call gem).2.2.mode.mCastFilterCount ≤
    gem.mode.maxMCastFilterCount
  copy : ∀ copy, (rp1GemSnpReceiveFilters call gem).2.1 = some copy →
    copy.count ≤ maxMcastFilterCnt ∧ (copy.fromNull = true → copy.count = 0)
  unchanged : (rp1GemSnpReceiveFilters call gem).1.isError = true →
    (rp1GemSnpReceiveFilters call gem).2.2 = gem

/-- A call that is accepted, keeps the list and leaves multicast enabled passes a list that is not
too long, and one that is there. -/
def CopyFits (gem : Gem) (call : ReceiveFiltersCall) : Prop :=
  call.refused gem = none → call.resetMCastFilter = false →
    filterSet (call.setting gem) efiSimpleNetworkReceiveMulticast = true →
    call.mCastFilterCnt.toNat ≤ gem.mode.maxMCastFilterCount.toNat ∧
      (call.mCastFilter = none → call.mCastFilterCnt.toNat = 0)

/-- One call. -/
def receiveFiltersStep (gem : Gem) (call : ReceiveFiltersCall) (gem' : Gem) : Prop :=
  gem' = (rp1GemSnpReceiveFilters call gem).2.2

/-- The bound of the list is the size of the array, and the count is within it. -/
structure MCastBounded (gem : Gem) : Prop where
  max : gem.mode.maxMCastFilterCount = UInt32.ofNat maxMcastFilterCnt
  count : gem.mode.mCastFilterCount ≤ gem.mode.maxMCastFilterCount

variable {gem : Gem} {call : ReceiveFiltersCall}

/-- A refused call changes nothing. -/
theorem receiveFilters_of_refused {status : EfiStatus} (h : call.refused gem = some status) :
    rp1GemSnpReceiveFilters call gem = (status, none, gem) := by
  unfold rp1GemSnpReceiveFilters
  rw [h]

/-- **What an accepted call does** to the status, the list and the rest of `Mode`. -/
theorem receiveFilters_of_accepted (h : call.refused gem = none) :
    (rp1GemSnpReceiveFilters call gem).1 = .success ∧
      (rp1GemSnpReceiveFilters call gem).2.1 =
        (mCastFilterUpdate call (call.setting gem) gem.mode).1 ∧
      (rp1GemSnpReceiveFilters call gem).2.2.mode =
        { (mCastFilterUpdate call (call.setting gem) gem.mode).2 with
          receiveFilterSetting := call.setting gem } := by
  unfold rp1GemSnpReceiveFilters
  rw [h]
  simp only [setReceiveFilters_mode, and_self]

/-- The list is emptied, left alone, or copied. -/
theorem mCastFilterUpdate_cases (call : ReceiveFiltersCall) (setting : UInt32) (mode : SnpMode) :
    (call.resetMCastFilter = true ∨
        filterSet setting efiSimpleNetworkReceiveMulticast = false) ∧
      (mCastFilterUpdate call setting mode).1 = none ∧
      ((mCastFilterUpdate call setting mode).2.mCastFilterCount = 0 ∨
        (mCastFilterUpdate call setting mode).2.mCastFilterCount = mode.mCastFilterCount) ∨
    call.resetMCastFilter = false ∧
      filterSet setting efiSimpleNetworkReceiveMulticast = true ∧
      (mCastFilterUpdate call setting mode).1 =
        some ⟨call.mCastFilterCnt.toNat, call.mCastFilter.isNone⟩ ∧
      (mCastFilterUpdate call setting mode).2.mCastFilterCount =
        UInt32.ofNat call.mCastFilterCnt.toNat := by
  unfold mCastFilterUpdate
  cases hreset : call.resetMCastFilter with
  | true =>
    rw [if_pos rfl]
    exact Or.inl ⟨Or.inl rfl, rfl, Or.inl rfl⟩
  | false =>
    rw [if_neg (by decide)]
    cases hmulti : filterSet setting efiSimpleNetworkReceiveMulticast with
    | true =>
      rw [if_pos rfl]
      exact Or.inr ⟨rfl, rfl, rfl, rfl⟩
    | false =>
      rw [if_neg (by decide)]
      exact Or.inl ⟨Or.inr rfl, rfl, Or.inr rfl⟩

theorem mCastFilterUpdate_max (call : ReceiveFiltersCall) (setting : UInt32) (mode : SnpMode) :
    (mCastFilterUpdate call setting mode).2.maxMCastFilterCount = mode.maxMCastFilterCount := by
  unfold mCastFilterUpdate
  split
  · rfl
  · split <;> rfl

/-- A refused call changes nothing. -/
theorem safe_of_refused (hb : MCastBounded gem) {status : EfiStatus}
    (h : call.refused gem = some status) : ReceiveFiltersSafe call gem := by
  have hcall := receiveFilters_of_refused h
  refine ⟨?_, ?_, ?_⟩
  · rw [hcall]
    exact hb.count
  · rw [hcall]
    exact nofun
  · rw [hcall]
    exact fun _ => rfl

/-- Nothing is copied, and the count is zero or what it was. -/
theorem safe_of_no_copy (hb : MCastBounded gem) (h : call.refused gem = none)
    (hnone : (mCastFilterUpdate call (call.setting gem) gem.mode).1 = none)
    (hcount : (mCastFilterUpdate call (call.setting gem) gem.mode).2.mCastFilterCount = 0 ∨
      (mCastFilterUpdate call (call.setting gem) gem.mode).2.mCastFilterCount =
        gem.mode.mCastFilterCount) : ReceiveFiltersSafe call gem := by
  obtain ⟨hstatus, hcopy, hmode⟩ := receiveFilters_of_accepted h
  refine ⟨?_, ?_, ?_⟩
  · rw [hmode]
    show (mCastFilterUpdate call (call.setting gem) gem.mode).2.mCastFilterCount ≤ _
    rcases hcount with hcount | hcount <;> rw [hcount]
    · exact UInt32.zero_le
    · exact hb.count
  · rw [hcopy, hnone]
    exact nofun
  · rw [hstatus]
    exact nofun

/-- The list is copied: its length is what the safety is about. -/
theorem safe_of_copy_iff (hb : MCastBounded gem) (h : call.refused gem = none)
    (hsome : (mCastFilterUpdate call (call.setting gem) gem.mode).1 =
      some ⟨call.mCastFilterCnt.toNat, call.mCastFilter.isNone⟩)
    (hcount : (mCastFilterUpdate call (call.setting gem) gem.mode).2.mCastFilterCount =
      UInt32.ofNat call.mCastFilterCnt.toNat) :
    ReceiveFiltersSafe call gem ↔ call.mCastFilterCnt.toNat ≤ gem.mode.maxMCastFilterCount.toNat ∧
      (call.mCastFilter = none → call.mCastFilterCnt.toNat = 0) := by
  have hmax : gem.mode.maxMCastFilterCount.toNat = maxMcastFilterCnt := by
    rw [hb.max]
    rfl
  obtain ⟨hstatus, hcopy, hmode⟩ := receiveFilters_of_accepted h
  rw [hmax]
  constructor
  · rintro ⟨-, hsafe, -⟩
    obtain ⟨hle, hnull⟩ := hsafe _ (hcopy.trans hsome)
    exact ⟨hle, fun hnone => hnull (Option.isNone_iff_eq_none.mpr hnone)⟩
  · rintro ⟨hle, hnull⟩
    refine ⟨?_, fun copy hc => ?_, ?_⟩
    · rw [hmode]
      show (mCastFilterUpdate call (call.setting gem) gem.mode).2.mCastFilterCount ≤ _
      have hsmall : maxMcastFilterCnt < 2 ^ 32 := by decide
      rw [hcount, UInt32.le_iff_toNat_le, hmax,
        UInt32.toNat_ofNat_of_lt' (by show _ < 2 ^ 32; omega)]
      exact hle
    · rw [hcopy, hsome] at hc
      cases hc
      exact ⟨hle, fun hnone => hnull (Option.isNone_iff_eq_none.mp hnone)⟩
    · rw [hstatus]
      exact nofun

/-- **A call is safe exactly when its list fits.** -/
theorem receiveFiltersSafe_iff (hb : MCastBounded gem) :
    ReceiveFiltersSafe call gem ↔ CopyFits gem call := by
  cases hrefused : call.refused gem with
  | some status =>
    refine iff_of_true (safe_of_refused hb hrefused) fun hnone => ?_
    rw [hrefused] at hnone
    cases hnone
  | none =>
    rcases mCastFilterUpdate_cases call (call.setting gem) gem.mode with
      ⟨hwhy, hnone, hcount⟩ | ⟨hreset, hmulti, hsome, hcount⟩
    · refine iff_of_true (safe_of_no_copy hb hrefused hnone hcount) fun _ hreset hmulti => ?_
      rcases hwhy with hwhy | hwhy
      · rw [hreset] at hwhy
        cases hwhy
      · rw [hmulti] at hwhy
        cases hwhy
    · rw [safe_of_copy_iff hb hrefused hsome hcount]
      exact ⟨fun hfits _ _ _ => hfits, fun hfits => hfits hrefused hreset hmulti⟩

theorem receiveFilters_max (call : ReceiveFiltersCall) (gem : Gem) :
    (rp1GemSnpReceiveFilters call gem).2.2.mode.maxMCastFilterCount =
      gem.mode.maxMCastFilterCount := by
  cases hrefused : call.refused gem with
  | some status => rw [receiveFilters_of_refused hrefused]
  | none =>
    rw [(receiveFilters_of_accepted hrefused).2.2]
    exact mCastFilterUpdate_max call (call.setting gem) gem.mode

theorem mCastBounded_step (hb : MCastBounded gem) (hfits : CopyFits gem call) :
    MCastBounded (rp1GemSnpReceiveFilters call gem).2.2 := by
  have hmax := receiveFilters_max call gem
  refine ⟨hmax.trans hb.max, ?_⟩
  rw [hmax]
  exact ((receiveFiltersSafe_iff hb).mpr hfits).count

/-- **The list stays bounded exactly as long as the calls fit.** After any sequence of calls that
fit, the count is within its bound, and the next call is safe if and only if it fits. -/
theorem receiveFilters_safe_iff (start gem : Gem) (calls : List ReceiveFiltersCall)
    (call : ReceiveFiltersCall) (hstart : MCastBounded start)
    (hrun : RunWith receiveFiltersStep CopyFits start calls gem) :
    gem.mode.mCastFilterCount ≤ gem.mode.maxMCastFilterCount ∧
      (ReceiveFiltersSafe call gem ↔ CopyFits gem call) := by
  have hb : MCastBounded gem := by
    refine RunWith.inv (fun gem call gem' hb hfits hstep => ?_) hrun hstart
    rw [hstep]
    exact mCastBounded_step hb hfits
  exact ⟨hb.count, receiveFiltersSafe_iff hb⟩

/-! ## Two calls -/

theorem initializedGem_bounded : MCastBounded initializedGem := ⟨by rfl, by decide⟩

/-- Multicast enabled, with an empty list. -/
def enableMulticast : ReceiveFiltersCall := ⟨efiSimpleNetworkReceiveMulticast, 0, false, 0, none⟩

/-- Broadcast enabled, with a list of one address more than the array holds. -/
def enableBroadcast : ReceiveFiltersCall :=
  ⟨efiSimpleNetworkReceiveBroadcast, 0, false, 17, some fun _ => stationMac⟩

theorem enableMulticast_safe :
    ∃ gem, RunWith receiveFiltersStep CopyFits initializedGem [enableMulticast] gem ∧
      gem.mode.mCastFilterCount ≤ gem.mode.maxMCastFilterCount ∧
      (ReceiveFiltersSafe enableBroadcast gem ↔ CopyFits gem enableBroadcast) := by
  have hrun : RunWith receiveFiltersStep CopyFits initializedGem [enableMulticast]
      (rp1GemSnpReceiveFilters enableMulticast initializedGem).2.2 :=
    .snoc .nil (fun _ _ _ => ⟨by decide, fun _ => rfl⟩) rfl
  exact ⟨_, hrun, receiveFilters_safe_iff initializedGem _ [enableMulticast] enableBroadcast
    initializedGem_bounded hrun⟩

/-- The second call's list is not checked, and copied past the array. -/
theorem enableBroadcast_overruns :
    ∃ gem, Run receiveFiltersStep initializedGem [enableMulticast] gem ∧
      ¬ReceiveFiltersSafe enableBroadcast gem := by
  refine ⟨_, .snoc .nil rfl, fun hsafe => ?_⟩
  have hcopy : (rp1GemSnpReceiveFilters enableBroadcast
      (rp1GemSnpReceiveFilters enableMulticast initializedGem).2.2).2.1 = some ⟨17, false⟩ := by
    rfl
  exact absurd (hsafe.copy _ hcopy).1 (by decide)

end Rpi5Uefi
