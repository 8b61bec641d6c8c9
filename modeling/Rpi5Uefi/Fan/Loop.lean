import Rpi5Uefi.Fan.ActiveCooler
import Mathlib.Data.List.Forall2
import Mathlib.Order.MinMax

/-!
# The fan loop over whole runs

Two results about every run of the driver, in which polls, overrides, clears and ExitBootServices
come in any order and the stored policy is whatever it is at each poll.

* **`fanLevel_mono`**: of two runs that differ in the temperatures only, the hotter one is never at
  a lower level.
* **`fanLoop_invariants`**: the level stays within the table, the policy stays usable, and the
  closed loop meets the trip curve, comes down one level at a time below the hysteresis, and
  settles.
-/

namespace Rpi5Uefi

/-! ## A hotter board -/

/-- The same event, or a poll of a board that is at least as hot. A sample that cannot be read is
one in both. -/
inductive HotterEvent : FanEvent → FanEvent → Prop where
  | pollTick {tick tick' : FanTick} (hbus : tick.rp1Bus = tick'.rp1Bus)
      (hstored : tick.stored = tick'.stored)
      (hread : Option.Rel (· ≤ ·) (avsReadMilliCelsius tick.status)
        (avsReadMilliCelsius tick'.status)) :
      HotterEvent (.pollTick tick) (.pollTick tick')
  | setOverride (level : UInt8) : HotterEvent (.setOverride level) (.setOverride level)
  | clearOverride : HotterEvent .clearOverride .clearOverride
  | exitBootServices : HotterEvent .exitBootServices .exitBootServices

/-- The two runs agree in everything but the level and the duty, and the first level is no
higher. -/
structure SlowerFan (fan fan' : Fan) : Prop where
  base : fan.mRp1Base = fan'.mRp1Base
  override : fan.mOverride = fan'.mOverride
  policy : fan.mPolicy = fan'.mPolicy
  polling : fan.polling = fan'.polling
  level : fan.mLevel ≤ fan'.mLevel

variable {fan fan' : Fan} {tick tick' : FanTick} {policy : FanPolicy} {milliC : Int}

theorem SlowerFan.refl (fan : Fan) : SlowerFan fan fan := ⟨rfl, rfl, rfl, rfl, le_rfl⟩

theorem SlowerFan.command {level level' : Nat} (h : SlowerFan fan fan') (hlevel : level ≤ level') :
    SlowerFan (fanCommand fan level) (fanCommand fan' level') where
  base := by simpa using h.base
  override := by simpa using h.override
  policy := by simpa using h.policy
  polling := by simpa using h.polling
  level := by
    rw [mLevel_fanCommand, mLevel_fanCommand]
    exact Int.ofNat_le.mpr hlevel

/-- **A poll's level is monotone** in the reading and in the level before. -/
theorem tickLevel_mono {reading reading' : Option Int} {level level' : Int} (mOverride : Int)
    (policy : FanPolicy) (hread : Option.Rel (· ≤ ·) reading reading') (hlevel : level ≤ level') :
    tickLevel mOverride policy reading level ≤ tickLevel mOverride policy reading' level' := by
  unfold tickLevel
  split
  · exact le_rfl
  split
  · exact le_rfl
  cases hread with
  | none =>
    show (max level fanLevelSafe).toNat ≤ (max level' fanLevelSafe).toNat
    apply Int.toNat_le_toNat
    exact max_le_max hlevel le_rfl
  | some hmilliC =>
    apply Hysteresis.step_mono
    · exact Int.toNat_le_toNat hlevel
    · exact hmilliC

theorem SlowerFan.acquire (h : SlowerFan fan fan') (hbus : tick.rp1Bus = tick'.rp1Bus) :
    Option.Rel SlowerFan (fanAcquire fan tick) (fanAcquire fan' tick') := by
  unfold fanAcquire
  rw [← h.base, ← hbus]
  split
  · cases tick.rp1Bus with
    | none => exact .none
    | some base => exact .some ⟨rfl, h.override, h.policy, h.polling, h.level⟩
  · exact .some h

/-- **One poll** of the hotter board. -/
theorem SlowerFan.pollTick (h : SlowerFan fan fan') (hbus : tick.rp1Bus = tick'.rp1Bus)
    (hstored : tick.stored = tick'.stored)
    (hread : Option.Rel (· ≤ ·) (avsReadMilliCelsius tick.status)
      (avsReadMilliCelsius tick'.status)) :
    SlowerFan (fanPollTick fan tick) (fanPollTick fan' tick') := by
  rw [fanPollTick_eq, fanPollTick_eq, ← hstored]
  have hacquire : Option.Rel SlowerFan (fanAcquire fan tick) (fanAcquire fan' tick') :=
    h.acquire hbus
  generalize fanAcquire fan tick = acquired at hacquire
  generalize fanAcquire fan' tick' = acquired' at hacquire
  cases hacquire with
  | none => exact h
  | some hacquired =>
    apply SlowerFan.command
    · exact ⟨hacquired.base, hacquired.override, rfl, hacquired.polling, hacquired.level⟩
    · rw [← hacquired.override]
      exact tickLevel_mono _ _ hread hacquired.level

theorem SlowerFan.step {event event' : FanEvent} (h : SlowerFan fan fan')
    (hevent : HotterEvent event event') : SlowerFan (fanStep fan event) (fanStep fan' event') := by
  unfold fanStep
  cases hevent with
  | pollTick hbus hstored hread =>
    simp only
    rw [← h.polling]
    split
    · exact h.pollTick hbus hstored hread
    · exact h
  | setOverride level =>
    show SlowerFan (fanSetOverride fan level) (fanSetOverride fan' level)
    rw [fanSetOverride_eq, fanSetOverride_eq, ← h.base]
    split
    · exact h
    split
    · apply SlowerFan.command
      · exact ⟨rfl, rfl, h.policy, h.polling, h.level⟩
      · exact Nat.le_refl _
    · exact ⟨rfl, rfl, h.policy, h.polling, h.level⟩
  | clearOverride => exact ⟨h.base, rfl, h.policy, h.polling, h.level⟩
  | exitBootServices =>
    show SlowerFan (fanOnExitBootServices fan) (fanOnExitBootServices fan')
    rw [fanOnExitBootServices_eq, fanOnExitBootServices_eq, ← h.base]
    split
    · apply SlowerFan.command
      · exact ⟨rfl, h.override, h.policy, rfl, h.level⟩
      · apply Int.toNat_le_toNat
        exact max_le_max h.level le_rfl
    · exact ⟨rfl, h.override, h.policy, rfl, h.level⟩

/-- Whole runs, from states that are so related. -/
theorem SlowerFan.run {events events' : List FanEvent} (h : SlowerFan fan fan')
    (hevents : List.Forall₂ HotterEvent events events') :
    SlowerFan (events.foldl fanStep fan) (events'.foldl fanStep fan') := by
  induction hevents generalizing fan fan' with
  | nil => exact h
  | cons hevent _ ih => exact ih (h.step hevent)

/-- **A hotter board never gets a slower fan**: two runs from one state, with the same policies
and events and readings at least as high in the second, compared after every event. -/
theorem fanLevel_mono (fan : Fan) {events events' : List FanEvent}
    (h : List.Forall₂ HotterEvent events events') (n : Nat) :
    ((events.take n).foldl fanStep fan).mLevel ≤ ((events'.take n).foldl fanStep fan).mLevel := by
  apply SlowerFan.level
  apply SlowerFan.run
  · exact SlowerFan.refl fan
  · exact List.forall₂_take n h

theorem fanLevel_mono_cooling :
    (([.pollTick ⟨some ⟨1, by decide⟩, none, 0x10400 + 709⟩,
        .pollTick ⟨none, none, 0x10400 + 729⟩].take 2).foldl fanStep fanStart).mLevel ≤
      (([.pollTick ⟨some ⟨1, by decide⟩, none, 0x10400 + 682⟩,
        .pollTick ⟨none, none, 0x10400 + 720⟩].take 2).foldl fanStep fanStart).mLevel := by
  apply fanLevel_mono
  apply List.Forall₂.cons
  · exact .pollTick rfl rfl (.some (by decide))
  apply List.Forall₂.cons
  · exact .pollTick rfl rfl (.some (by decide))
  exact List.Forall₂.nil

/-! ## The invariants -/

/-- A policy the loop can use: levels of the table, and trip points that ascend within the
window. -/
structure PolicyUsable (policy : FanPolicy) : Prop where
  mode : policy.mode ≤ rpiFanModeCustom
  fixedLevel : policy.fixedLevel.toNat < mFanLevels.length
  ascending : ∀ level, 1 ≤ level → level < fanLevelMax →
    tripMilliC policy level < tripMilliC policy (level + 1)
  low : fanTripMinC.toNat * 1000 ≤ tripMilliC policy 1
  high : tripMilliC policy fanLevelMax ≤ fanTripMaxC.toNat * 1000

/-- What holds after every event. -/
structure FanInvariant (fan : Fan) : Prop where
  level : fan.mLevel = -1 ∨ 0 ≤ fan.mLevel ∧ fan.mLevel.toNat < mFanLevels.length
  override : fan.mOverride = -1 ∨ 0 ≤ fan.mOverride ∧ fan.mOverride.toNat < mFanLevels.length
  policy : PolicyUsable fan.mPolicy
  unset : fan.mRp1Base = 0 → fan.mLevel = -1
  duty : 0 ≤ fan.mLevel → fan.duty = some (dutyTicks fan.mLevel.toNat)

theorem tripMilliC_table (hmode : policy.mode ≠ rpiFanModeCustom) (level : Nat) :
    tripMilliC policy level = (mFanLevels.getD level ⟨0, 0⟩).tripMilliC := if_pos hmode

theorem PolicyUsable.of_table (hmode : policy.mode ≤ rpiFanModeCustom)
    (hcustom : policy.mode ≠ rpiFanModeCustom)
    (hfixed : policy.fixedLevel.toNat < mFanLevels.length) : PolicyUsable policy where
  mode := hmode
  fixedLevel := hfixed
  ascending := by
    simp only [tripMilliC_table hcustom]
    decide
  low := by
    rw [tripMilliC_table hcustom]
    decide
  high := by
    rw [tripMilliC_table hcustom]
    decide

theorem PolicyUsable.of_custom (hmode : policy.mode = rpiFanModeCustom)
    (hfixed : policy.fixedLevel.toNat < mFanLevels.length)
    (hlow : fanTripMinC ≤ policy.trip1C) (hhigh : policy.trip4C ≤ fanTripMaxC)
    (h12 : policy.trip1C < policy.trip2C) (h23 : policy.trip2C < policy.trip3C)
    (h34 : policy.trip3C < policy.trip4C) : PolicyUsable policy := by
  rw [UInt8.le_iff_toNat_le] at hlow hhigh
  rw [UInt8.lt_iff_toNat_lt] at h12 h23 h34
  have htrip1 : tripMilliC policy 1 = policy.trip1C.toNat * 1000 := if_neg (not_not.mpr hmode)
  have htrip2 : tripMilliC policy 2 = policy.trip2C.toNat * 1000 := if_neg (not_not.mpr hmode)
  have htrip3 : tripMilliC policy 3 = policy.trip3C.toNat * 1000 := if_neg (not_not.mpr hmode)
  have htrip4 : tripMilliC policy 4 = policy.trip4C.toNat * 1000 := if_neg (not_not.mpr hmode)
  constructor
  · rw [hmode]
    exact UInt8.le_refl _
  · exact hfixed
  · intro level hpos hlt
    have hcases : level = 1 ∨ level = 2 ∨ level = 3 := by
      unfold fanLevelMax at hlt
      omega
    rcases hcases with rfl | rfl | rfl
    · rw [htrip1, htrip2]
      omega
    · rw [htrip2, htrip3]
      omega
    · rw [htrip3, htrip4]
      omega
  · rw [htrip1]
    omega
  · show tripMilliC policy 4 ≤ _
    rw [htrip4]
    omega

/-- **The policy is usable** whatever is stored. -/
theorem readPolicy_usable (stored : Option (List UInt8)) : PolicyUsable (readPolicy stored) := by
  have hdefault : PolicyUsable fanPolicyDefault :=
    PolicyUsable.of_table (by decide) (by decide) (by decide)
  unfold readPolicy
  split
  · rename_i mode fixedLevel trip1C trip2C trip3C trip4C
    split
    · exact hdefault
    rename_i hmode
    split
    · exact hdefault
    rename_i htrips
    have hfixed : (if fixedLevel.toNat > fanLevelMax then 2 else fixedLevel).toNat <
        mFanLevels.length := by
      split
      · decide
      · rename_i hlevel
        exact Nat.lt_succ_of_le (Nat.le_of_not_lt hlevel)
    by_cases hcustom : mode = rpiFanModeCustom
    · -- none of the five checks has turned the trip points down
      simp only [hcustom, true_and, not_or, UInt8.not_lt, UInt8.not_le, ge_iff_le, gt_iff_lt]
        at htrips
      obtain ⟨hlow, hhigh, h12, h23, h34⟩ := htrips
      exact PolicyUsable.of_custom hcustom hfixed hlow hhigh h12 h23 h34
    · exact PolicyUsable.of_table (UInt8.not_lt.mp hmode) hcustom hfixed
  · exact hdefault

theorem fanStart_invariant : FanInvariant fanStart where
  level := Or.inl rfl
  override := Or.inl rfl
  policy := PolicyUsable.of_table (by decide) (by decide) (by decide)
  unset := fun _ => rfl
  duty := fun hset => absurd hset (by decide)

theorem FanInvariant.command {level : Nat} (h : FanInvariant fan) (hbase : fan.mRp1Base ≠ 0)
    (hlevel : level < mFanLevels.length) : FanInvariant (fanCommand fan level) where
  level := by
    rw [mLevel_fanCommand]
    exact Or.inr ⟨Int.natCast_nonneg level, hlevel⟩
  override := by simpa using h.override
  policy := by simpa using h.policy
  unset := fun hunset => absurd (by simpa using hunset) hbase
  duty := fun _ => by
    rw [mLevel_fanCommand]
    exact duty_fanCommand level h.duty

/-- Where RP1 is first seen no level is set, and the duty written is nobody's. -/
theorem FanInvariant.acquire {acquired : Fan} (h : FanInvariant fan)
    (hacquire : fanAcquire fan tick = some acquired) :
    FanInvariant acquired ∧ acquired.mRp1Base ≠ 0 ∧ acquired.mLevel = fan.mLevel ∧
      acquired.mOverride = fan.mOverride ∧ acquired.polling = fan.polling := by
  unfold fanAcquire at hacquire
  split at hacquire
  · rename_i hunset
    obtain ⟨base, -, rfl⟩ := Option.map_eq_some_iff.mp hacquire
    refine ⟨⟨h.level, h.override, h.policy, fun _ => h.unset hunset, ?_⟩, base.property, rfl, rfl,
      rfl⟩
    intro hset
    exact absurd (h.unset hunset ▸ hset) (by decide)
  · rename_i hbase
    cases hacquire
    exact ⟨h, hbase, rfl, rfl, rfl⟩

theorem FanInvariant.withPolicy (h : FanInvariant fan) (hpolicy : PolicyUsable policy) :
    FanInvariant { fan with mPolicy := policy } :=
  ⟨h.level, h.override, hpolicy, h.unset, h.duty⟩

theorem FanInvariant.level_le (h : FanInvariant fan) : fan.mLevel.toNat ≤ fanLevelMax := by
  rcases h.level with hunset | ⟨-, hset⟩
  · rw [hunset]
    exact Nat.zero_le _
  · exact Nat.le_of_lt_succ hset

/-- A poll commands a level of the table. -/
theorem FanInvariant.tickLevel_lt (h : FanInvariant fan) (reading : Option Int)
    (hpolicy : PolicyUsable policy) :
    tickLevel fan.mOverride policy reading fan.mLevel < mFanLevels.length := by
  unfold tickLevel
  split
  · rename_i hoverride
    rcases h.override with hnone | ⟨-, hset⟩
    · exact absurd (hnone ▸ hoverride) (by decide)
    · exact hset
  split
  · exact hpolicy.fixedLevel
  cases reading with
  | none =>
    have hlevel : fan.mLevel.toNat ≤ 4 := h.level_le
    show (max fan.mLevel 2).toNat < 5
    omega
  | some milliC =>
    apply Nat.lt_succ_of_le
    exact Hysteresis.step_le h.level_le

/-- **One event keeps the invariant.** -/
theorem FanInvariant.step (h : FanInvariant fan) (event : FanEvent) :
    FanInvariant (fanStep fan event) := by
  cases event with
  | pollTick tick =>
    unfold fanStep
    simp only
    split
    · rw [fanPollTick_eq]
      cases hacquire : fanAcquire fan tick with
      | none => exact h
      | some acquired =>
        obtain ⟨hacquired, hbase, -⟩ := h.acquire hacquire
        have hpolicy : PolicyUsable (readPolicy tick.stored) := readPolicy_usable tick.stored
        apply (hacquired.withPolicy hpolicy).command
        · exact hbase
        · exact hacquired.tickLevel_lt _ hpolicy
    · exact h
  | setOverride level =>
    show FanInvariant (fanSetOverride fan level)
    rw [fanSetOverride_eq]
    split
    · exact h
    rename_i hlevel
    have htable : level.toNat < mFanLevels.length := Nat.lt_succ_of_le (Nat.le_of_not_lt hlevel)
    have hstaged : FanInvariant { fan with mOverride := level.toNat } :=
      ⟨h.level, Or.inr ⟨Int.natCast_nonneg _, htable⟩, h.policy, h.unset, h.duty⟩
    split
    · rename_i hbase
      exact hstaged.command hbase htable
    · exact hstaged
  | clearOverride => exact ⟨h.level, Or.inl rfl, h.policy, h.unset, h.duty⟩
  | exitBootServices =>
    show FanInvariant (fanOnExitBootServices fan)
    rw [fanOnExitBootServices_eq]
    have hstopped : FanInvariant { fan with polling := false } :=
      ⟨h.level, h.override, h.policy, h.unset, h.duty⟩
    split
    · rename_i hbase
      apply hstopped.command hbase
      have hlevel : fan.mLevel.toNat ≤ 4 := h.level_le
      show (max fan.mLevel 1).toNat < 5
      omega
    · exact hstopped

/-- **Every run keeps the invariant.** -/
theorem FanInvariant.run (h : FanInvariant fan) (events : List FanEvent) :
    FanInvariant (events.foldl fanStep fan) := by
  induction events generalizing fan with
  | nil => exact h
  | cons event events ih => exact ih (h.step event)

/-! ## The closed loop -/

/-- The poll runs the closed loop, with a valid reading. -/
structure ClosedLoopTick (fan : Fan) (tick : FanTick) (policy : FanPolicy) (milliC : Int) :
    Prop where
  polling : fan.polling = true
  rp1 : fan.mRp1Base ≠ 0 ∨ tick.rp1Bus.isSome = true
  noOverride : fan.mOverride = -1
  stored : readPolicy tick.stored = policy
  notFixed : policy.mode ≠ rpiFanModeFixed
  reading : avsReadMilliCelsius tick.status = some milliC

/-- **A poll of the closed loop** is one sample of the stepped controller, and leaves the rest as
the next poll needs it. -/
theorem ClosedLoopTick.step (h : ClosedLoopTick fan tick policy milliC) :
    (fanStep fan (.pollTick tick)).mLevel = loopLevel policy fan.mLevel.toNat milliC ∧
      (fanStep fan (.pollTick tick)).mRp1Base ≠ 0 ∧
      (fanStep fan (.pollTick tick)).mOverride = -1 ∧
      (fanStep fan (.pollTick tick)).polling = true := by
  have hacquired : ∃ acquired, fanAcquire fan tick = some acquired ∧ acquired.mRp1Base ≠ 0 ∧
      acquired.mLevel = fan.mLevel ∧ acquired.mOverride = fan.mOverride ∧
      acquired.polling = fan.polling := by
    unfold fanAcquire
    split
    · rename_i hunset
      obtain ⟨base, hbus⟩ := Option.isSome_iff_exists.mp (h.rp1.resolve_left (not_not.mpr hunset))
      rw [hbus]
      exact ⟨_, rfl, base.property, rfl, rfl, rfl⟩
    · rename_i hbase
      exact ⟨fan, rfl, hbase, rfl, rfl, rfl⟩
  obtain ⟨acquired, hacquire, hbase, hlevel, hoverride, hpolling⟩ := hacquired
  have htick : tickLevel acquired.mOverride policy (some milliC) acquired.mLevel =
      loopLevel policy fan.mLevel.toNat milliC := by
    unfold tickLevel
    rw [hoverride, h.noOverride, if_neg (by decide), if_neg h.notFixed, hlevel]
  have hpoll : fanStep fan (.pollTick tick) =
      fanCommand { acquired with mPolicy := policy }
        (loopLevel policy fan.mLevel.toNat milliC) := by
    show (if fan.polling = true then fanPollTick fan tick else fan) = _
    rw [if_pos h.polling, fanPollTick_eq, hacquire, h.stored, h.reading]
    simp only
    rw [htick]
  rw [hpoll]
  simp only [mLevel_fanCommand, mRp1Base_fanCommand, mOverride_fanCommand, polling_fanCommand]
  exact ⟨trivial, hbase, hoverride.trans h.noOverride, hpolling.trans h.polling⟩

/-- What the closed loop promises of one poll: the trip curve is met, and the level comes down by
one at most, below that level's hysteresis. -/
structure TripCurveMet (policy : FanPolicy) (milliC level level' : Int) : Prop where
  demanded : ∀ index : Nat, 1 ≤ index → index ≤ fanLevelMax →
    tripMilliC policy index ≤ milliC → index ≤ level'
  oneStep : level - 1 ≤ level'
  hysteresis : level' < level → milliC < tripMilliC policy level.toNat - fanHystMilliC

theorem ClosedLoopTick.tripCurveMet (h : ClosedLoopTick fan tick policy milliC)
    (hlevel : -1 ≤ fan.mLevel) :
    TripCurveMet policy milliC fan.mLevel (fanStep fan (.pollTick tick)).mLevel := by
  rw [h.step.1]
  constructor
  · intro index _ hindex htrip
    have hdemand : index ≤ Hysteresis.demand (tripMilliC policy) milliC fanLevelMax :=
      Hysteresis.le_demand hindex htrip
    exact Int.ofNat_le.mpr (hdemand.trans (Hysteresis.demand_le_step _ _ _ _ _))
  · rcases Nat.lt_or_ge (loopLevel policy fan.mLevel.toNat milliC) fan.mLevel.toNat
      with hdrop | hstay
    · have hone : loopLevel policy fan.mLevel.toNat milliC = fan.mLevel.toNat - 1 :=
        (Hysteresis.step_drop hdrop).1
      omega
    · omega
  · intro hdrop
    have hnat : loopLevel policy fan.mLevel.toNat milliC < fan.mLevel.toNat := by omega
    exact (Hysteresis.step_drop hnat).2

example : ClosedLoopTick fanStart ⟨some ⟨0x1f00000000, by decide⟩, none, 0x10400 + 709⟩
    fanPolicyDefault 60050 :=
  ⟨rfl, Or.inr rfl, rfl, rfl, by decide, by decide⟩

/-! ### A constant temperature -/

/-- After some polls. -/
def fanPolls (fan : Fan) (ticks : Nat → FanTick) : Nat → Fan
  | 0 => fan
  | n + 1 => fanStep (fanPolls fan ticks n) (.pollTick (ticks n))

/-- Polls of the closed loop under one policy and one temperature. -/
structure ConstantLoop (fan : Fan) (ticks : Nat → FanTick) (policy : FanPolicy) (milliC : Int) :
    Prop where
  first : ClosedLoopTick fan (ticks 0) policy milliC
  stored : ∀ n, readPolicy (ticks n).stored = policy
  reading : ∀ n, avsReadMilliCelsius (ticks n).status = some milliC

variable {ticks : Nat → FanTick}

theorem ConstantLoop.closed (h : ConstantLoop fan ticks policy milliC) (n : Nat) :
    ClosedLoopTick (fanPolls fan ticks n) (ticks n) policy milliC := by
  induction n with
  | zero => exact h.first
  | succ n ih =>
    obtain ⟨-, hbase, hoverride, hpolling⟩ := ih.step
    exact ⟨hpolling, Or.inl hbase, hoverride, h.stored _, h.first.notFixed, h.reading _⟩

/-- The polls after the first iterate the controller's step. -/
theorem ConstantLoop.mLevel_succ (h : ConstantLoop fan ticks policy milliC) (n : Nat) :
    (fanPolls fan ticks (n + 1)).mLevel =
      ((loopLevel policy · milliC)^[n] (loopLevel policy fan.mLevel.toNat milliC) : Nat) := by
  induction n with
  | zero => exact (h.closed 0).step.1
  | succ n ih =>
    rw [Function.iterate_succ_apply', ← Int.toNat_natCast ((loopLevel policy · milliC)^[n] _), ← ih]
    exact (h.closed (n + 1)).step.1

/-- What a constant temperature leads to. -/
structure LevelSettles (levels : Nat → Int) : Prop where
  falls : ∀ n, 1 ≤ n → levels (n + 1) ≤ levels n
  settles : ∀ n, 5 ≤ n → levels n = levels 5

theorem ConstantLoop.settles (h : ConstantLoop fan ticks policy milliC)
    (hlevel : fan.mLevel.toNat ≤ fanLevelMax) :
    LevelSettles fun n => (fanPolls fan ticks n).mLevel := by
  -- the first sample takes the level to the demanded one or above
  have hdemand : Hysteresis.demand (tripMilliC policy) milliC fanLevelMax ≤
      loopLevel policy fan.mLevel.toNat milliC := Hysteresis.demand_le_step _ _ _ _ _
  have htop : loopLevel policy fan.mLevel.toNat milliC ≤ fanLevelMax := Hysteresis.step_le hlevel
  constructor
  · intro n hn
    obtain ⟨n, rfl⟩ : ∃ m, n = m + 1 := ⟨n - 1, by omega⟩
    show (fanPolls fan ticks (n + 1 + 1)).mLevel ≤ (fanPolls fan ticks (n + 1)).mLevel
    rw [h.mLevel_succ, h.mLevel_succ]
    apply Int.ofNat_le.mpr
    exact Hysteresis.iterate_antitone hdemand (Nat.le_succ n)
  · intro n hn
    obtain ⟨n, rfl⟩ : ∃ m, n = m + 1 := ⟨n - 1, by omega⟩
    show (fanPolls fan ticks (n + 1)).mLevel = (fanPolls fan ticks (4 + 1)).mLevel
    rw [h.mLevel_succ, h.mLevel_succ]
    apply congrArg Nat.cast
    have hfour : fanLevelMax ≤ n := Nat.le_of_succ_le_succ hn
    -- both are past the sample from which the level stays
    exact (Hysteresis.iterate_settles hdemand (htop.trans hfour)).trans
      (Hysteresis.iterate_settles hdemand htop).symm

/-- **The fan loop's invariants**, in every run from the start: the level and the policy; of each
poll of the closed loop, the trip curve and the way down; and under a constant temperature the level
falls after the first poll and stays after the fifth. -/
theorem fanLoop_invariants (events : List FanEvent) :
    FanInvariant (events.foldl fanStep fanStart) ∧
      (∀ tick policy milliC, ClosedLoopTick (events.foldl fanStep fanStart) tick policy milliC →
        TripCurveMet policy milliC (events.foldl fanStep fanStart).mLevel
          (fanStep (events.foldl fanStep fanStart) (.pollTick tick)).mLevel) ∧
      ∀ ticks policy milliC, ConstantLoop (events.foldl fanStep fanStart) ticks policy milliC →
        LevelSettles fun n => (fanPolls (events.foldl fanStep fanStart) ticks n).mLevel := by
  have hinv : FanInvariant (events.foldl fanStep fanStart) := fanStart_invariant.run events
  refine ⟨hinv, ?_, ?_⟩
  · intro tick policy milliC htick
    apply htick.tripCurveMet
    rcases hinv.level with hunset | ⟨hset, -⟩ <;> omega
  · intro ticks policy milliC hconstant
    exact hconstant.settles hinv.level_le

end Rpi5Uefi
