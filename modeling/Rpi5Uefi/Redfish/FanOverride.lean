import Rpi5Uefi.Efi.Status
import Rpi5Uefi.Fan.ActiveCooler
import Rpi5Uefi.Lib.Bytes

/-!
# The BMC's fan override (`PollFanOverride`)

The BMC pins the fan by an integer in `Oem.PiBmc.FanOverrideLevel` of its Thermal resource and
releases it by anything else. The poll walks to that member, checks its type and its range, and
calls the cooler's protocol, which has a range check of its own.

* **`pollValue`**: where the walk ends. It stays at the last value it found, so a member on the way
  that is not an object is taken for the level.
* **`overrideInForce_poll`**: the override after a poll, from that value.
* **`pollFanOverride_iff`**: when the override is the one the document stages.
-/

namespace Rpi5Uefi

open Bytes

/-- A value of the Thermal resource; `other` is null, a boolean, a real, a string or an array. -/
inductive ThermalValue where
  | object (fields : List (List UInt8 × ThermalValue))
  | integer (value : Int)
  | other

/-- `JsonObjectGetValue`, of a value that has to be an object. -/
def ThermalValue.get (value : ThermalValue) (key : String) : Option ThermalValue :=
  match value with
  | .object fields => (fields.find? fun field => field.1 == ascii key).map Prod.snd
  | _ => none

/-- `JsonValueIsObject`. -/
def ThermalValue.isObject : ThermalValue → Bool
  | .object _ => true
  | _ => false

/-- `Value`, behind the lookups. -/
def pollValue (root : Option ThermalValue) : Option ThermalValue :=
  match root with
  | none => none
  | some root =>
    if root.isObject then
      match root.get "Oem" with
      | none => none
      | some oem =>
        if oem.isObject then
          match oem.get "PiBmc" with
          | none => none
          | some piBmc => if piBmc.isObject then piBmc.get "FanOverrideLevel" else some piBmc
        else some oem
    else none

/-- `PollFanOverride`: what `LocateProtocol` and the GET return, and the root of the payload, if
there is one. -/
def pollFanOverride (locate get : EfiStatus) (root : Option ThermalValue) (fan : Fan) :
    EfiStatus × Fan :=
  if locate.isError then (.notFound, fan)
  else if get.isError then (get, fan)
  else
    match pollValue root with
    | some (.integer level) =>
      if level ≥ 0 ∧ level ≤ 0xFF then (.success, fanSetOverride fan (UInt8.ofNat level.toNat))
      else (.success, fanClearOverride fan)
    | _ => (.success, fanClearOverride fan)

/-! ## What the document stages -/

/-- `Oem`. -/
def thermalOem (root : Option ThermalValue) : Option ThermalValue := root.bind (·.get "Oem")

/-- `Oem.PiBmc`. -/
def thermalPiBmc (root : Option ThermalValue) : Option ThermalValue :=
  (thermalOem root).bind (·.get "PiBmc")

/-- `Oem.PiBmc.FanOverrideLevel`. -/
def thermalLevel (root : Option ThermalValue) : Option ThermalValue :=
  (thermalPiBmc root).bind (·.get "FanOverrideLevel")

/-- An integer of the fan's table. -/
def tableLevel (value : Option ThermalValue) : Option Nat :=
  match value with
  | some (.integer level) => if 0 ≤ level ∧ level ≤ fanLevelMax then some level.toNat else none
  | _ => none

/-- The level the document stages: the one at the end of the path. -/
def stagedLevel (root : Option ThermalValue) : Option Nat := tableLevel (thermalLevel root)

/-- The level that is pinned. -/
def overrideInForce (fan : Fan) : Option Nat :=
  if 0 ≤ fan.mOverride then some fan.mOverride.toNat else none

/-! ## The walk -/

variable {root : Option ThermalValue} {fan : Fan}

theorem ThermalValue.get_of_not_isObject {value : ThermalValue} (h : value.isObject = false)
    (key : String) : value.get key = none := by
  cases value with
  | object fields => cases h
  | integer value => rfl
  | other => rfl

/-- **Where the walk ends**: at `Oem` or at `PiBmc` if that is not an object, and then nothing is
behind it; else at the end of the path. -/
theorem pollValue_cases (root : Option ThermalValue) :
    (pollValue root = thermalOem root ∧ thermalPiBmc root = none ∧ thermalLevel root = none) ∨
      (pollValue root = thermalPiBmc root ∧ (∀ n, thermalOem root ≠ some (.integer n)) ∧
        thermalLevel root = none) ∨
      (pollValue root = thermalLevel root ∧ (∀ n, thermalOem root ≠ some (.integer n)) ∧
        ∀ n, thermalPiBmc root ≠ some (.integer n)) := by
  unfold pollValue thermalLevel thermalPiBmc thermalOem
  cases root with
  | none => exact Or.inl ⟨rfl, rfl, rfl⟩
  | some root =>
    simp only [Option.bind_some]
    cases hroot : root.isObject with
    | false =>
      rw [ThermalValue.get_of_not_isObject hroot]
      exact Or.inl ⟨rfl, rfl, rfl⟩
    | true =>
      simp only [if_true]
      cases root.get "Oem" with
      | none => exact Or.inl ⟨rfl, rfl, rfl⟩
      | some oem =>
        simp only [Option.bind_some]
        cases hoem : oem.isObject with
        | false =>
          rw [ThermalValue.get_of_not_isObject hoem]
          exact Or.inl ⟨rfl, rfl, rfl⟩
        | true =>
          have hobject : ∀ n, some oem ≠ some (.integer n) := by
            rintro n ⟨rfl⟩
            cases hoem
          simp only [if_true]
          cases oem.get "PiBmc" with
          | none => exact Or.inr (Or.inl ⟨rfl, hobject, rfl⟩)
          | some piBmc =>
            simp only [Option.bind_some]
            cases hpiBmc : piBmc.isObject with
            | false =>
              rw [ThermalValue.get_of_not_isObject hpiBmc]
              exact Or.inr (Or.inl ⟨rfl, hobject, rfl⟩)
            | true =>
              refine Or.inr (Or.inr ⟨rfl, hobject, ?_⟩)
              rintro n ⟨rfl⟩
              cases hpiBmc

/-! ## The poll -/

/-- The protocol refuses a level that is not in the table, and leaves the override as it was. -/
theorem overrideInForce_set (fan : Fan) (level : UInt8) :
    overrideInForce (fanSetOverride fan level) =
      if level.toNat ≤ fanLevelMax then some level.toNat else overrideInForce fan := by
  rw [fanSetOverride_eq]
  unfold overrideInForce
  split
  · rename_i hhigh
    rw [if_neg (by omega : ¬ level.toNat ≤ fanLevelMax)]
  · rename_i hlow
    have hforce : ∀ fan' : Fan, fan'.mOverride = level.toNat →
        (if 0 ≤ fan'.mOverride then some fan'.mOverride.toNat else none) = some level.toNat := by
      intro fan' hset
      rw [hset, if_pos (Int.natCast_nonneg _), Int.toNat_natCast]
    rw [if_pos (by omega : level.toNat ≤ fanLevelMax)]
    split
    · apply hforce
      rw [mOverride_fanCommand]
    · exact hforce _ rfl

/-- The override that is left where the walk ends at a value. -/
def overrideAt (fan : Fan) (value : Option ThermalValue) : Option Nat :=
  match value with
  | some (.integer n) =>
    if 0 ≤ n ∧ n ≤ fanLevelMax then some n.toNat
    else if fanLevelMax < n ∧ n ≤ 0xFF then overrideInForce fan else none
  | _ => none

/-- **The override after a poll**, from the value the walk ends at. -/
theorem overrideInForce_poll (root : Option ThermalValue) (fan : Fan) :
    overrideInForce (pollFanOverride .success .success root fan).2 =
      overrideAt fan (pollValue root) := by
  unfold pollFanOverride overrideAt
  simp only [EfiStatus.isError_success, Bool.false_eq_true, if_false]
  split
  · rename_i n hvalue
    have hmax : (fanLevelMax : Int) = 4 := rfl
    split
    · rename_i hbyte
      have hlevel : (UInt8.ofNat n.toNat).toNat = n.toNat := by
        rw [UInt8.toNat_ofNat', Nat.mod_eq_of_lt]
        omega
      rw [overrideInForce_set, hlevel]
      split
      · rename_i htable
        rw [if_pos ⟨hbyte.1, by omega⟩]
      · rename_i htable
        rw [if_neg (by omega), if_pos ⟨by omega, hbyte.2⟩]
    · rename_i hbyte
      rw [if_neg (by omega), if_neg (by omega)]
      rfl
  · rfl

/-- A GET that fails, or no cooler, changes nothing. -/
theorem pollFanOverride_failed {locate get : EfiStatus} (h : locate.isError ∨ get.isError)
    (root : Option ThermalValue) (fan : Fan) : (pollFanOverride locate get root fan).2 = fan := by
  unfold pollFanOverride
  split
  · rfl
  · rename_i hlocate
    rw [if_pos (h.resolve_left hlocate)]

/-- No member on the way is itself an integer of the table; and no integer the walk may end at is
beyond the table but within a byte, unless no override is in force. -/
def SteersByDocument (root : Option ThermalValue) (fan : Fan) : Prop :=
  (∀ n : Int, thermalOem root = some (.integer n) ∨ thermalPiBmc root = some (.integer n) →
      ¬ (0 ≤ n ∧ n ≤ fanLevelMax)) ∧
    ∀ n : Int, thermalOem root = some (.integer n) ∨ thermalPiBmc root = some (.integer n) ∨
        thermalLevel root = some (.integer n) →
      fanLevelMax < n ∧ n ≤ 0xFF → overrideInForce fan = none

/-- At a member on the way nothing is staged: it must not be an integer of the table, nor one that
the protocol refuses while an override is in force. -/
theorem overrideAt_eq_none_iff (fan : Fan) (value : Option ThermalValue) :
    overrideAt fan value = none ↔ ∀ n, value = some (.integer n) →
      ¬ (0 ≤ n ∧ n ≤ fanLevelMax) ∧
        (fanLevelMax < n ∧ n ≤ 0xFF → overrideInForce fan = none) := by
  unfold overrideAt
  split
  · rename_i n
    simp only [Option.some.injEq, ThermalValue.integer.injEq, forall_eq']
    split
    · rename_i htable
      simp [htable]
    · rename_i htable
      simp only [htable, not_false_eq_true, true_and]
      split
      · rename_i hbeyond
        simp [hbeyond]
      · rename_i hbeyond
        simp [hbeyond]
  · rename_i hother
    exact ⟨fun _ n hn => absurd hn (hother n), fun _ => rfl⟩

/-- At the end of the path only an integer that the protocol refuses goes wrong. -/
theorem overrideAt_eq_tableLevel_iff (fan : Fan) (value : Option ThermalValue) :
    overrideAt fan value = tableLevel value ↔ ∀ n, value = some (.integer n) →
      fanLevelMax < n ∧ n ≤ 0xFF → overrideInForce fan = none := by
  unfold overrideAt tableLevel
  split
  · rename_i n
    simp only [Option.some.injEq, ThermalValue.integer.injEq, forall_eq']
    split
    · rename_i htable
      refine ⟨fun _ hbeyond => ?_, fun _ => rfl⟩
      omega
    · split
      · rename_i hbeyond
        simp [hbeyond]
      · rename_i hbeyond
        simp [hbeyond]
  · rename_i hother
    exact ⟨fun _ n hn => absurd hn (hother n), fun _ => rfl⟩

/-- **When a poll puts the staged level in force.** Whatever the override was, the one after a
successful GET is the one the document stages if and only if no member on the way is itself taken
for a level, and the protocol does not refuse a level while an override is in force. -/
theorem pollFanOverride_iff (root : Option ThermalValue) (fan : Fan) :
    overrideInForce (pollFanOverride .success .success root fan).2 = stagedLevel root ↔
      SteersByDocument root fan := by
  have hpoll := overrideInForce_poll root fan
  unfold stagedLevel SteersByDocument
  rcases pollValue_cases root with ⟨hend, hpiBmc, hlevel⟩ | ⟨hend, hoem, hlevel⟩ |
    ⟨hend, hoem, hpiBmc⟩
  · -- the walk ends at `Oem`
    rw [hpoll, hend, hpiBmc, hlevel]
    refine (overrideAt_eq_none_iff fan (thermalOem root)).trans ?_
    simp only [reduceCtorEq, or_false]
    exact forall₂_and
  · -- the walk ends at `PiBmc`
    rw [hpoll, hend, hlevel]
    refine (overrideAt_eq_none_iff fan (thermalPiBmc root)).trans ?_
    simp only [hoem, reduceCtorEq, false_or, or_false]
    exact forall₂_and
  · -- the walk ends at the level
    rw [hpoll, hend]
    refine (overrideAt_eq_tableLevel_iff fan (thermalLevel root)).trans ?_
    simp [hoem, hpiBmc]

/-- `FanOverrideLevel` 200 with level 2 in force, which stays; and `Oem` 3, which pins level 3. -/
theorem pollFanOverride_refused :
    let pinned := fanSetOverride fanStart 2
    let beyond : ThermalValue := .object [(ascii "Oem", .object [(ascii "PiBmc",
      .object [(ascii "FanOverrideLevel", .integer 200)])])]
    let stray : ThermalValue := .object [(ascii "Oem", .integer 3)]
    (stagedLevel (some beyond) = none ∧
        overrideInForce (pollFanOverride .success .success (some beyond) pinned).2 = some 2) ∧
      stagedLevel (some stray) = none ∧
        overrideInForce (pollFanOverride .success .success (some stray) fanStart).2 = some 3 := by
  decide +kernel

end Rpi5Uefi
