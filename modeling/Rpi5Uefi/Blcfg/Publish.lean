import Mathlib.Data.List.Induction
import Rpi5Uefi.Blcfg.Delimited

/-!
# The BMC's copy of the config (`BootloaderConfigOnReadyToBoot`)

At the first ReadyToBoot of a boot the driver publishes the blconfig region as a variable for the
BMC, and behind it the update timestamp of the EEPROM the region came from. A stored timestamp that
is not older than the running EEPROM's keeps it from writing anything.

* **`stageBlconfig`**: the bytes `LoadBlconfig` copies, which `loadBlconfig` cuts to their text.
* **`bootloaderConfigOnReadyToBoot`**, **`publishBoot`**: one signal, and one boot.
* **`config_of_gate_open`**: a boot that gets to write publishes its region.
* **`bmcMirror_holds`**: the copy is the region of every boot whose EEPROM is not behind an earlier
  one, and the stored timestamp is that of a published config, whatever the history.

A variable that `SetVariable` could not write keeps its value. `BlStagedMarkerCleanup`, which runs
first, touches neither variable and is part of another module.
-/

namespace Rpi5Uefi

open Bytes

/-! ## What a boot loads -/

/-- A device tree cell. -/
def fdt32ToCpu : List UInt8 → Option UInt32
  | [a, b, c, d] =>
    some (a.toUInt32 <<< 24 ||| b.toUInt32 <<< 16 ||| c.toUInt32 <<< 8 ||| d.toUInt32)
  | _ => none

/-- `mDtbUpdateTimestamp` where `mDtbHasTimestamp`, and `mBlconfigRaw` where it is not `NULL`. -/
structure StagedBlconfig where
  dtbUpdateTimestamp : Option UInt32
  blconfigRaw : Option (List UInt8)
  deriving DecidableEq, Repr

/-- `LoadBlconfig`, with the bytes it copies: `updateTimestamp` is the property of
`/chosen/bootloader`. -/
def stageBlconfig (fdt : Bool) (updateTimestamp : Option (List UInt8))
    (region : Option (Nat × Nat)) (memory : Mem) (poolFull : Bool) : StagedBlconfig :=
  if !fdt then ⟨none, none⟩
  else
    let timestamp := updateTimestamp.bind fdt32ToCpu
    match region with
    | none => ⟨timestamp, none⟩
    | some (regionAddress, regionSize) =>
      if regionAddress = 0 ∨ regionSize = 0 ∨ regionSize ≥ blconfigRegionMax then ⟨timestamp, none⟩
      else if poolFull then ⟨timestamp, none⟩
      else ⟨timestamp, some (memory.slice regionAddress (min regionSize blconfigVarMaxLen))⟩

/-- The text of the Setup page is that of the copied bytes. -/
theorem loadBlconfig_eq (fdt : Bool) (updateTimestamp : Option (List UInt8))
    (region : Option (Nat × Nat)) (memory : Mem) (poolFull : Bool) :
    loadBlconfig fdt region memory poolFull =
      ⟨fdt, (stageBlconfig fdt updateTimestamp region memory poolFull).blconfigRaw.map
        delimited⟩ := by
  unfold loadBlconfig stageBlconfig
  cases fdt with
  | false => rfl
  | true =>
    simp only [Bool.not_true, Bool.false_eq_true, if_false]
    cases region with
    | none => rfl
    | some place =>
      simp only
      split
      · rfl
      · cases poolFull <;> rfl

/-! ## Publishing -/

/-- `BootloaderConfig` and `BootloaderUpdateTimestamp`; a timestamp of another size than four bytes
is none. -/
structure BmcVariables where
  config : Option (List UInt8)
  timestamp : Option UInt32
  deriving DecidableEq, Repr

/-- What the variable calls of one signal say. -/
structure ReadyToBoot where
  getTimestamp : EfiStatus
  setConfig : EfiStatus
  setTimestamp : EfiStatus
  deriving DecidableEq, Repr

/-- The stored timestamp is read, and is not older than the EEPROM's. -/
def upToDate (vars : BmcVariables) (signal : ReadyToBoot) (dtbUpdateTimestamp : UInt32) : Bool :=
  !signal.getTimestamp.isError &&
    match vars.timestamp with
    | some storedTimestamp => decide (storedTimestamp ≥ dtbUpdateTimestamp)
    | none => false

/-- The variables after `BootloaderConfigOnReadyToBoot`, behind `mPublished`. -/
def publish (staged : StagedBlconfig) (signal : ReadyToBoot) (vars : BmcVariables) :
    BmcVariables :=
  match staged.dtbUpdateTimestamp with
  | none => vars
  | some timestamp =>
    if upToDate vars signal timestamp then vars
    else
      match staged.blconfigRaw with
      | none => vars
      | some raw =>
        if signal.setConfig.isError then vars
        -- the timestamp is advanced last
        else if signal.setTimestamp.isError then { vars with config := some raw }
        else ⟨some raw, some timestamp⟩

/-- `BootloaderConfigOnReadyToBoot`, with `mPublished`. -/
def bootloaderConfigOnReadyToBoot (staged : StagedBlconfig) (state : Bool × BmcVariables)
    (signal : ReadyToBoot) : Bool × BmcVariables :=
  if state.1 then state else (true, publish staged signal state.2)

/-- A boot: what the driver loads at its entry, and the signals of ReadyToBoot. -/
structure PublishBoot where
  fdt : Bool
  updateTimestamp : Option (List UInt8)
  region : Option (Nat × Nat)
  memory : Mem
  poolFull : Bool
  signals : List ReadyToBoot

def PublishBoot.staged (boot : PublishBoot) : StagedBlconfig :=
  stageBlconfig boot.fdt boot.updateTimestamp boot.region boot.memory boot.poolFull

/-- One boot, from `mPublished = FALSE`. -/
def publishBoot (vars : BmcVariables) (boot : PublishBoot) : BmcVariables :=
  (boot.signals.foldl (bootloaderConfigOnReadyToBoot boot.staged) (false, vars)).2

/-- The variables after a history of boots. -/
def publishBoots (boots : List PublishBoot) : BmcVariables :=
  boots.foldl publishBoot ⟨none, none⟩

/-! ## One boot -/

variable {vars : BmcVariables} {boot : PublishBoot} {boots before after : List PublishBoot}
  {signal : ReadyToBoot} {timestamp stored : UInt32} {raw : List UInt8}

/-- Only the first signal of a boot counts. -/
theorem publishBoot_eq (vars : BmcVariables) (boot : PublishBoot) :
    publishBoot vars boot =
      match boot.signals with
      | [] => vars
      | signal :: _ => publish boot.staged signal vars := by
  have hlater : ∀ (signals : List ReadyToBoot) (vars : BmcVariables),
      signals.foldl (bootloaderConfigOnReadyToBoot boot.staged) (true, vars) = (true, vars) := by
    intro signals vars
    induction signals with
    | nil => rfl
    | cons signal signals ih => exact ih
  unfold publishBoot
  cases boot.signals with
  | nil => rfl
  | cons signal signals =>
    show (signals.foldl _ (true, publish boot.staged signal vars)).2 = _
    rw [hlater]

@[simp] theorem publishBoots_concat (boots : List PublishBoot) (boot : PublishBoot) :
    publishBoots (boots ++ [boot]) = publishBoot (publishBoots boots) boot := by
  simp [publishBoots]

/-- The first signal of the boot cannot read the stored timestamp. -/
def PublishBoot.ReadFails (boot : PublishBoot) : Prop :=
  ∃ signal ∈ boot.signals.head?, signal.getTimestamp.isError = true

/-- The boot signals ReadyToBoot, and what it writes then is written. -/
def PublishBoot.WritesSucceed (boot : PublishBoot) : Prop :=
  ∃ signal ∈ boot.signals.head?, signal.setConfig = .success ∧ signal.setTimestamp = .success

/-- **What one boot does to the variables**: nothing, or it publishes its region, with or without
the timestamp, where the stored one is older or could not be read. -/
theorem publishBoot_cases (vars : BmcVariables) (boot : PublishBoot) :
    publishBoot vars boot = vars ∨
      ∃ timestamp raw, boot.staged = ⟨some timestamp, some raw⟩ ∧
        (boot.ReadFails ∨ ∀ stored, vars.timestamp = some stored → stored < timestamp) ∧
        (publishBoot vars boot = { vars with config := some raw } ∨
          publishBoot vars boot = ⟨some raw, some timestamp⟩) := by
  rw [publishBoot_eq]
  cases hsignals : boot.signals with
  | nil => exact Or.inl rfl
  | cons signal signals =>
    simp only
    unfold publish
    rcases boot.staged with ⟨timestamp, raw⟩
    cases timestamp with
    | none => exact Or.inl rfl
    | some timestamp =>
      simp only
      cases hgate : upToDate vars signal timestamp with
      | true => exact Or.inl rfl
      | false =>
        rw [if_neg (by decide)]
        cases raw with
        | none => exact Or.inl rfl
        | some raw =>
          -- the gate is open: unreadable, absent or older
          have hopen : boot.ReadFails ∨
              ∀ stored, vars.timestamp = some stored → stored < timestamp := by
            unfold upToDate at hgate
            cases hread : signal.getTimestamp.isError with
            | true => exact Or.inl ⟨signal, by rw [hsignals]; rfl, hread⟩
            | false =>
              refine Or.inr fun stored hstored => ?_
              rw [hread, hstored] at hgate
              simpa using hgate
          simp only
          by_cases hconfig : signal.setConfig.isError = true
          · rw [if_pos hconfig]
            exact Or.inl rfl
          · rw [if_neg hconfig]
            refine Or.inr ⟨timestamp, raw, rfl, hopen, ?_⟩
            by_cases htimestamp : signal.setTimestamp.isError = true
            · rw [if_pos htimestamp]
              exact Or.inl rfl
            · rw [if_neg htimestamp]
              exact Or.inr rfl

/-- The boot has a timestamp and a region. -/
def PublishBoot.Offers (boot : PublishBoot) (timestamp : UInt32) (raw : List UInt8) : Prop :=
  boot.staged = ⟨some timestamp, some raw⟩

/-- **A boot that gets past the gate publishes its region.** -/
theorem config_of_gate_open (hoffers : boot.Offers timestamp raw) (hwrites : boot.WritesSucceed)
    (hopen : boot.ReadFails ∨ ∀ stored, vars.timestamp = some stored → stored < timestamp) :
    (publishBoot vars boot).config = some raw := by
  obtain ⟨signal, hsignal, hconfig, htimestamp⟩ := hwrites
  have hgate : upToDate vars signal timestamp = false := by
    unfold upToDate
    rcases hopen with ⟨failed, hfailed, hread⟩ | hold
    · rw [Option.mem_unique hsignal hfailed, hread]
      rfl
    · cases hstored : vars.timestamp with
      | none => simp
      | some stored => simpa using fun _ => hold stored hstored
  rw [publishBoot_eq]
  cases hsignals : boot.signals with
  | nil =>
    rw [hsignals] at hsignal
    cases hsignal
  | cons head signals =>
    rw [hsignals] at hsignal
    cases hsignal
    show (publish boot.staged signal vars).config = some raw
    unfold publish
    rw [hoffers]
    simp only
    rw [hgate, hconfig, htimestamp]
    rfl

/-! ## Histories -/

/-- A boot that could not read the stored timestamp has no EEPROM older than one before it. -/
def InOrderUnread (boots : List PublishBoot) : Prop :=
  ∀ before boot after, boots = before ++ boot :: after → boot.ReadFails →
    ∀ earlier ∈ before, ∀ t r t' r', earlier.Offers t r → boot.Offers t' r' → t ≤ t'

/-- No earlier EEPROM is newer, or as old with another config. -/
def NotBehind (before : List PublishBoot) (timestamp : UInt32) (raw : List UInt8) : Prop :=
  ∀ earlier ∈ before, ∀ t r, earlier.Offers t r → t < timestamp ∨ t = timestamp ∧ r = raw

theorem InOrderUnread.front (h : InOrderUnread (boots ++ [boot])) : InOrderUnread boots := by
  intro before b after hsplit
  exact h before b (after ++ [boot]) (by rw [hsplit]; simp)

/-- The published config is that of an EEPROM no older than the stored timestamp. -/
theorem stored_le_published (hread : InOrderUnread boots)
    (hstored : (publishBoots boots).timestamp = some stored) :
    ∃ boot ∈ boots, ∃ timestamp raw, boot.Offers timestamp raw ∧
      (publishBoots boots).config = some raw ∧ stored ≤ timestamp := by
  induction boots using List.reverseRecOn generalizing stored with
  | nil => cases hstored
  | append_singleton boots boot ih =>
    rw [publishBoots_concat] at hstored ⊢
    rcases publishBoot_cases (publishBoots boots) boot with
      hsame | ⟨timestamp, raw, hoffers, hopen, hconfig | hboth⟩
    · rw [hsame] at hstored ⊢
      obtain ⟨earlier, hearlier, rest⟩ := ih hread.front hstored
      exact ⟨earlier, List.mem_append_left _ hearlier, rest⟩
    · -- the old timestamp stays behind a new config: the gate, or the order, bounds it
      rw [hconfig] at hstored ⊢
      refine ⟨boot, by simp, timestamp, raw, hoffers, rfl, ?_⟩
      rcases hopen with hfails | hold
      · obtain ⟨earlier, hearlier, t, r, hoffers', -, hle⟩ := ih hread.front hstored
        have horder := hread boots boot [] rfl hfails earlier hearlier t r _ _ hoffers' hoffers
        exact UInt32.le_trans hle horder
      · exact UInt32.le_of_lt (hold stored hstored)
    · rw [hboth] at hstored ⊢
      cases hstored
      exact ⟨boot, by simp, _, raw, hoffers, rfl, UInt32.le_refl _⟩

/-- **The copy is fresh after a boot that is not behind.** -/
theorem config_of_notBehind (hread : InOrderUnread before) (hoffers : boot.Offers timestamp raw)
    (hwrites : boot.WritesSucceed) (hbehind : NotBehind before timestamp raw) :
    (publishBoots (before ++ [boot])).config = some raw := by
  rw [publishBoots_concat]
  by_cases hopen : boot.ReadFails ∨
      ∀ stored, (publishBoots before).timestamp = some stored → stored < timestamp
  · exact config_of_gate_open hoffers hwrites hopen
  · -- the gate is closed, so the stored timestamp is this one and the config its own
    rw [not_or] at hopen
    obtain ⟨hreads, hnewer⟩ := hopen
    simp only [not_forall, UInt32.not_lt] at hnewer
    obtain ⟨stored, hstored, hle⟩ := hnewer
    obtain ⟨earlier, hearlier, t, r, hoffers', hconfig, hle'⟩ := stored_le_published hread hstored
    have hraw : r = raw := by
      rcases hbehind earlier hearlier t r hoffers' with hlt | ⟨-, hraw⟩
      · exact absurd hlt (UInt32.not_lt.mpr (UInt32.le_trans hle hle'))
      · exact hraw
    rcases publishBoot_cases (publishBoots before) boot with
      hsame | ⟨t', r', hoffers'', hopen', -⟩
    · rw [hsame, hconfig, hraw]
    · rw [PublishBoot.Offers, hoffers''] at hoffers
      cases hoffers
      rcases hopen' with hfails | hold
      · exact absurd hfails hreads
      · exact absurd (hold stored hstored) (UInt32.not_lt.mpr hle)

/-- The boot of a history whose timestamp is `stored` has published its config. -/
def PublishedAt (boots : List PublishBoot) (stored : UInt32) : Prop :=
  ∃ before boot after raw, boots = before ++ boot :: after ∧ boot.Offers stored raw ∧
    (publishBoots (before ++ [boot])).config = some raw

/-- **The stored timestamp is that of a published config.** -/
theorem publishedAt_stored (hstored : (publishBoots boots).timestamp = some stored) :
    PublishedAt boots stored := by
  induction boots using List.reverseRecOn generalizing stored with
  | nil => cases hstored
  | append_singleton boots boot ih =>
    rw [publishBoots_concat] at hstored
    have hbefore : (publishBoots boots).timestamp = some stored →
        PublishedAt (boots ++ [boot]) stored := by
      intro h
      obtain ⟨before, earlier, after, raw, hsplit, rest⟩ := ih h
      exact ⟨before, earlier, after ++ [boot], raw, by rw [hsplit]; simp, rest⟩
    rcases publishBoot_cases (publishBoots boots) boot with
      hsame | ⟨timestamp, raw, hoffers, -, hconfig | hboth⟩
    · exact hbefore (hsame ▸ hstored)
    · rw [hconfig] at hstored
      exact hbefore hstored
    · rw [hboth] at hstored
      cases hstored
      exact ⟨boots, boot, [], raw, rfl, hoffers, by rw [publishBoots_concat, hboth]⟩

/-- **The BMC's copy.** After every boot of a history that has a timestamp and a region and whose
writes succeed, the published config is that region, if its EEPROM is not behind an earlier one; the
stored timestamp is always that of a config that was published. -/
theorem bmcMirror_holds (boots : List PublishBoot) :
    (∀ before boot after timestamp raw, boots = before ++ boot :: after →
        boot.Offers timestamp raw → boot.WritesSucceed → InOrderUnread before →
        NotBehind before timestamp raw →
        (publishBoots (before ++ [boot])).config = some raw) ∧
      ∀ stored, (publishBoots boots).timestamp = some stored → PublishedAt boots stored :=
  ⟨fun _ _ _ _ _ _ hoffers hwrites hread hbehind =>
    config_of_notBehind hread hoffers hwrites hbehind, fun _ => publishedAt_stored⟩

/-- A boot with a two-byte region at 4, every call of which succeeds. -/
def plainBoot (timestamp content : UInt8) : PublishBoot where
  fdt := true
  updateTimestamp := some [0, 0, 0, timestamp]
  region := some (4, 2)
  memory := fun _ => content
  poolFull := false
  signals := [⟨.success, .success, .success⟩]

/-- An EEPROM that was put back to an older image is not published. -/
theorem bmcMirror_downgraded :
    (plainBoot 1 0x62).Offers 1 [0x62, 0x62] ∧ (plainBoot 1 0x62).WritesSucceed ∧
      (publishBoots [plainBoot 2 0x61, plainBoot 1 0x62]).config = some [0x61, 0x61] :=
  ⟨rfl, ⟨_, rfl, rfl, rfl⟩, by decide⟩

end Rpi5Uefi
