import Mathlib.Order.Bounds.Basic
import Rpi5Uefi.Redfish.BootOverride

/-!
# Finding the option of an override (`FindBootOverrideOption`)

The boot options are scanned for one that matches the target. Where none does, the target's class of
devices is connected, the options are refreshed, and the new ones are scanned once more. The array
that is returned is the caller's to free.

* **`BootOptionSource`**: what the boot manager answers, before and after a refresh.
* **`findBootOverrideArray`**: the function, with the arrays it has allocated and not freed.
* **`FindHolds`**: it finds the first match, of the options as they stand or else of the refreshed
  ones, and owns exactly the array it returns.
* **`findHolds_iff`**: it does exactly if there are options to begin with, or no refresh would help,
  and no array is empty.
* **`findBootOverrideArray_option`**: what it finds is what `HandleBootOverride` acts on.
-/

namespace Rpi5Uefi

open Bytes

/-! ## The boot manager -/

/-- The classes of devices a policy connects. -/
inductive PolicyClass where
  | network
  | connectAll
  deriving DecidableEq, Repr

/-- What the boot manager answers: the array of options as they stand, the status of locating the
policy protocol, and the array after a class was connected, if one was, and the options refreshed.
`none` stands for a null pointer. -/
structure BootOptionSource where
  current : Option (List BootOption)
  locatePolicy : EfiStatus
  refreshed : Option PolicyClass → Option (List BootOption)

/-- `ConnectBootClassDevices`: the class that is connected. -/
def connectBootClassDevices (source : BootOptionSource) (target : List UInt8) :
    Option PolicyClass :=
  if source.locatePolicy.isError then none
  else if target = ascii "Pxe" then some .network
  else some .connectAll

/-- The array that connecting the target's devices and refreshing produces. -/
def refreshedArray (source : BootOptionSource) (target : List UInt8) : Option (List BootOption) :=
  source.refreshed (connectBootClassDevices source target)

/-! ## The function -/

/-- The two arrays that may be allocated. -/
inductive OptionArray where
  | current
  | refreshed
  deriving DecidableEq, Repr

/-- An array of options in memory. -/
structure LoadedOptions where
  array : OptionArray
  entries : List BootOption
  deriving DecidableEq, Repr

/-- `*Options`, `*OptionCount` and `*Match`, and the arrays that are allocated. -/
structure FindState where
  options : Option LoadedOptions
  optionCount : Nat
  matchIndex : Nat
  allocated : List OptionArray
  deriving DecidableEq, Repr

/-- `*Options = EfiBootManagerGetLoadOptions (OptionCount, LoadOptionTypeBoot)`. -/
def getLoadOptions (array : OptionArray) (answer : Option (List BootOption)) (s : FindState) :
    FindState :=
  match answer with
  | none => { s with options := none, optionCount := 0 }
  | some entries =>
    { s with
      options := some ⟨array, entries⟩
      optionCount := entries.length
      allocated := array :: s.allocated }

/-- `EfiBootManagerFreeLoadOptions (*Options, *OptionCount)`, and the two outputs cleared. -/
def freeLoadOptions (s : FindState) : FindState where
  options := none
  optionCount := 0
  matchIndex := s.matchIndex
  allocated :=
    match s.options with
    | none => s.allocated
    | some loaded => s.allocated.erase loaded.array

/-- The inner loop from `Index` on. -/
def scanOptions (target : List UInt8) : List BootOption → Nat → Option Nat
  | [], _ => none
  | option :: options, index =>
    if optionMatchesTarget target option then some index else scanOptions target options (index + 1)

/-- One pass over the options that were got: `none` where there are none. -/
def scanLoaded (target : List UInt8) (s : FindState) : Option (Option Nat) :=
  match s.options with
  | none => none
  | some loaded => if s.optionCount = 0 then none else some (scanOptions target loaded.entries 0)

/-- The second turn of `Pass`, over the refreshed options. -/
def secondPass (source : BootOptionSource) (target : List UInt8) (s : FindState) :
    EfiStatus × FindState :=
  let s := getLoadOptions .refreshed (refreshedArray source target) s
  match scanLoaded target s with
  | none => (.notFound, s)
  | some (some index) => (.success, { s with matchIndex := index })
  | some none => (.notFound, freeLoadOptions s)

/-- `FindBootOverrideOption`. -/
def findBootOverrideArray (source : BootOptionSource) (target : Option (List UInt8)) :
    EfiStatus × FindState :=
  let s : FindState := ⟨none, 0, 0, []⟩
  match target with
  | none => (.notFound, s)
  | some target =>
    if target = ascii "None" then (.notFound, s)
    else
      let s := getLoadOptions .current source.current s
      match scanLoaded target s with
      | none => (.notFound, s)
      | some (some index) => (.success, { s with matchIndex := index })
      -- nothing matches yet: connect the class of devices and look once more
      | some none => secondPass source target (freeLoadOptions s)

/-! ## What it should find -/

/-- Some option of an array matches the target. -/
def AnyMatch (target : List UInt8) (options : Option (List BootOption)) : Prop :=
  ∃ option ∈ options.getD [], optionMatchesTarget target option = true

/-- **A search as it should be.** -/
structure FindHolds (source : BootOptionSource) (target : Option (List UInt8))
    (r : EfiStatus × FindState) : Prop where
  /-- It succeeds exactly if an option matches, of those as they stand or of the refreshed ones. -/
  succeeds_iff : r.1 = .success ↔ ∃ name, target = some name ∧
    (AnyMatch name source.current ∨ AnyMatch name (refreshedArray source name))
  /-- The array that is returned, and the only one that stays allocated, is that of the options as
  they stand if one of them matches, else that of the refreshed ones; the index is its first
  match. -/
  first : r.1 = .success → ∃ name loaded, target = some name ∧ r.2.options = some loaded ∧
    r.2.optionCount = loaded.entries.length ∧ r.2.allocated = [loaded.array] ∧
    (AnyMatch name source.current → some loaded.entries = source.current) ∧
    (¬AnyMatch name source.current → some loaded.entries = refreshedArray source name) ∧
    IsLeast {i | ∃ option, loaded.entries[i]? = some option ∧
      optionMatchesTarget name option = true} r.2.matchIndex
  /-- A failure returns no array and leaves none allocated. -/
  failed : r.1 ≠ .success → r.2.options = none ∧ r.2.allocated = []
  /-- `Pxe` does not select an option behind USB. -/
  pxe : r.1 = .success → target = some (ascii "Pxe") → ∀ loaded option,
    r.2.options = some loaded → loaded.entries[r.2.matchIndex]? = some option →
      ∀ path, option.filePath = some path → DevicePathNode.usb ∉ path

/-- There are options to begin with, or a refresh would not help; and no array that is got is
empty. -/
def OptionsToScan (source : BootOptionSource) (target : List UInt8) : Prop :=
  match source.current with
  | none => ¬AnyMatch target (refreshedArray source target)
  | some [] => False
  | some current => AnyMatch target (some current) ∨ refreshedArray source target ≠ some []

/-! ## The scan -/

section Scan

variable {source : BootOptionSource} {target : List UInt8} {options : List BootOption} {index : Nat}

theorem scanOptions_eq (target : List UInt8) (options : List BootOption) (index : Nat) :
    scanOptions target options index =
      (options.findIdx? (optionMatchesTarget target)).map (· + index) := by
  induction options generalizing index with
  | nil => rfl
  | cons option options ih =>
    unfold scanOptions
    rw [List.findIdx?_cons]
    split
    · rename_i hmatch
      rw [Option.map_some, Nat.zero_add]
    · rw [ih, Option.map_map]
      congr 1
      funext k
      show k + (index + 1) = k + 1 + index
      omega

/-- The scan stops at the first match. -/
theorem isLeast_of_scanOptions (h : scanOptions target options 0 = some index) :
    IsLeast {i | ∃ option, options[i]? = some option ∧
      optionMatchesTarget target option = true} index := by
  rw [scanOptions_eq] at h
  obtain ⟨k, hk, rfl⟩ := Option.map_eq_some_iff.mp h
  obtain ⟨hlt, hmatch, hbefore⟩ := List.findIdx?_eq_some_iff_getElem.mp hk
  refine ⟨⟨options[k], List.getElem?_eq_getElem hlt, hmatch⟩, ?_⟩
  rintro i ⟨option, hoption, hi⟩
  obtain ⟨hi', rfl⟩ := List.getElem?_eq_some_iff.mp hoption
  exact Nat.le_of_not_lt fun hlt' => hbefore i hlt' hi

theorem anyMatch_of_scanOptions (h : scanOptions target options 0 = some index) :
    AnyMatch target (some options) := by
  obtain ⟨⟨option, hoption, hmatch⟩, -⟩ := isLeast_of_scanOptions h
  exact ⟨option, List.mem_of_getElem? hoption, hmatch⟩

theorem not_anyMatch_of_scanOptions (h : scanOptions target options 0 = none) :
    ¬AnyMatch target (some options) := by
  rintro ⟨option, hoption, hmatch⟩
  rw [scanOptions_eq, Option.map_eq_none_iff, List.findIdx?_eq_none_iff] at h
  rw [h option hoption] at hmatch
  cases hmatch

theorem not_anyMatch_none : ¬AnyMatch target none := fun ⟨_, h, _⟩ => absurd h List.not_mem_nil

/-- No option matches `None`. -/
theorem not_anyMatch_noTarget (options : Option (List BootOption)) :
    ¬AnyMatch (ascii "None") options := by
  rintro ⟨option, -, hmatch⟩
  unfold optionMatchesTarget at hmatch
  rw [if_neg (by decide), if_neg (by decide), if_neg (by decide)] at hmatch
  cases hmatch

/-- A network boot option has no USB node. -/
theorem no_usb_of_pxe {option : BootOption} (h : optionMatchesTarget (ascii "Pxe") option = true)
    {path : List DevicePathNode} (hpath : option.filePath = some path) :
    DevicePathNode.usb ∉ path := by
  unfold optionMatchesTarget at h
  rw [if_neg (by decide), if_pos rfl] at h
  unfold optionIsNetworkBoot at h
  rw [hpath] at h
  intro husb
  have hcontains : path.contains DevicePathNode.usb = true := List.contains_iff_mem.mpr husb
  simp only [hcontains] at h
  cases h

end Scan

/-! ## One search -/

section Search

variable {source : BootOptionSource} {name : List UInt8} {array : OptionArray}
  {entries : List BootOption} {index : Nat}

/-- A failure is as it should be if it returns nothing and nothing matches. -/
theorem findHolds_failed {target : Option (List UInt8)} {s : FindState}
    (hoptions : s.options = none) (hallocated : s.allocated = [])
    (hnone : ∀ name, target = some name →
      ¬AnyMatch name source.current ∧ ¬AnyMatch name (refreshedArray source name)) :
    FindHolds source target (.notFound, s) where
  succeeds_iff := by
    refine iff_of_false (fun h => EfiStatus.noConfusion h) ?_
    rintro ⟨name, hname, hmatch⟩
    exact hmatch.elim (hnone name hname).1 (hnone name hname).2
  first h := EfiStatus.noConfusion h
  failed _ := ⟨hoptions, hallocated⟩
  pxe h := EfiStatus.noConfusion h

/-- A success is as it should be if the array that was scanned is the right one. -/
theorem findHolds_succeeded {count : Nat} (hcount : count = entries.length)
    (hscan : scanOptions name entries 0 = some index)
    (harray : AnyMatch name source.current → some entries = source.current)
    (hrefreshed : ¬AnyMatch name source.current → some entries = refreshedArray source name) :
    FindHolds source (some name)
      (.success, ⟨some ⟨array, entries⟩, count, index, [array]⟩) where
  succeeds_iff := by
    refine iff_of_true rfl ⟨name, rfl, ?_⟩
    have hmatch := anyMatch_of_scanOptions hscan
    by_cases hcurrent : AnyMatch name source.current
    · exact Or.inl hcurrent
    · rw [hrefreshed hcurrent] at hmatch
      exact Or.inr hmatch
  first _ :=
    ⟨name, ⟨array, entries⟩, rfl, rfl, hcount, rfl, harray, hrefreshed,
      isLeast_of_scanOptions hscan⟩
  failed h := absurd rfl h
  pxe _ hpxe loaded option hloaded hoption path hpath := by
    cases hloaded
    obtain ⟨⟨option', hoption', hmatch⟩, -⟩ := isLeast_of_scanOptions hscan
    rw [hoption] at hoption'
    cases hoption'
    rw [Option.some.inj hpxe] at hmatch
    exact no_usb_of_pxe hmatch hpath

/-- An empty array is returned with the error. -/
theorem not_findHolds_empty {target : Option (List UInt8)} {s : FindState} {loaded : LoadedOptions}
    (hoptions : s.options = some loaded) : ¬FindHolds source target (.notFound, s) := by
  intro h
  have hnone := (h.failed fun h => EfiStatus.noConfusion h).1
  rw [hoptions] at hnone
  cases hnone

/-- **The second pass**, where no option as they stand matches. -/
theorem findHolds_secondPass_iff (hcurrent : ¬AnyMatch name source.current) :
    FindHolds source (some name) (secondPass source name ⟨none, 0, 0, []⟩) ↔
      refreshedArray source name ≠ some [] := by
  unfold secondPass
  cases harray : refreshedArray source name with
  | none =>
    refine iff_of_true (findHolds_failed rfl rfl fun name' hname => ?_) (fun h => by cases h)
    cases hname
    rw [harray]
    exact ⟨hcurrent, not_anyMatch_none⟩
  | some entries =>
    cases entries with
    | nil => exact iff_of_false (not_findHolds_empty rfl) fun h => h rfl
    | cons option entries =>
      refine iff_of_true ?_ fun h => by cases h
      show FindHolds source (some name) (match some (scanOptions name (option :: entries) 0) with
        | none => _
        | some (some index) => _
        | some none => _)
      cases hscan : scanOptions name (option :: entries) 0 with
      | some index =>
        exact findHolds_succeeded rfl hscan (fun h => absurd h hcurrent) fun _ => harray.symm
      | none =>
        refine findHolds_failed rfl rfl fun name' hname => ?_
        cases hname
        rw [harray]
        exact ⟨hcurrent, not_anyMatch_of_scanOptions hscan⟩

end Search

/-- **A search is as it should be** exactly if its target is none, or there are options to scan. -/
theorem findHolds_iff (source : BootOptionSource) (target : Option (List UInt8)) :
    FindHolds source target (findBootOverrideArray source target) ↔
      ∀ name, target = some name → name ≠ ascii "None" → OptionsToScan source name := by
  cases target with
  | none =>
    refine iff_of_true (findHolds_failed rfl rfl fun name h => by cases h) fun name h => by cases h
  | some name =>
    have hall : (∀ name', some name = some name' → name' ≠ ascii "None" →
        OptionsToScan source name') ↔ (name ≠ ascii "None" → OptionsToScan source name) :=
      ⟨fun h => h name rfl, fun h name' heq => Option.some.inj heq ▸ h⟩
    rw [hall]
    unfold findBootOverrideArray
    by_cases hnone : name = ascii "None"
    · subst hnone
      show FindHolds source _ (if _ then _ else _) ↔ _
      rw [if_pos rfl]
      refine iff_of_true (findHolds_failed rfl rfl fun name' hname => ?_) fun h => absurd rfl h
      cases hname
      exact ⟨not_anyMatch_noTarget _, not_anyMatch_noTarget _⟩
    · have hgoal : (name ≠ ascii "None" → OptionsToScan source name) ↔
          OptionsToScan source name := ⟨fun h => h hnone, fun h _ => h⟩
      rw [hgoal]
      show FindHolds source _ (if _ then _ else _) ↔ _
      rw [if_neg hnone]
      unfold OptionsToScan
      cases hcurrent : source.current with
      | none =>
        -- no array: the search ends before a class is connected
        show FindHolds source (some name) (.notFound, ⟨none, 0, 0, []⟩) ↔ _
        constructor
        · intro h hmatch
          exact EfiStatus.noConfusion (h.succeeds_iff.mpr ⟨name, rfl, Or.inr hmatch⟩)
        · intro h
          refine findHolds_failed rfl rfl fun name' hname => ?_
          cases hname
          rw [hcurrent]
          exact ⟨not_anyMatch_none, h⟩
      | some current =>
        cases current with
        | nil => exact iff_of_false (not_findHolds_empty rfl) id
        | cons option current =>
          show FindHolds source (some name)
            (match some (scanOptions name (option :: current) 0) with
            | none => _
            | some (some index) => _
            | some none => secondPass source name ⟨none, 0, 0, []⟩) ↔ _
          cases hscan : scanOptions name (option :: current) 0 with
          | some index =>
            have hmatch := anyMatch_of_scanOptions hscan
            refine iff_of_true (findHolds_succeeded rfl hscan (fun _ => hcurrent.symm) fun h => ?_)
              (Or.inl hmatch)
            rw [hcurrent] at h
            exact absurd hmatch h
          | none =>
            have hmatch := not_anyMatch_of_scanOptions hscan
            have hnone : ¬AnyMatch name source.current := hcurrent ▸ hmatch
            have hpass := findHolds_secondPass_iff hnone
            exact hpass.trans ⟨Or.inr, fun h => h.resolve_left hmatch⟩

/-! ## The option that is acted on -/

/-- The option a successful search selects. -/
def selectedOption (r : EfiStatus × FindState) : Option BootOption :=
  if r.1 = .success then r.2.options.bind fun loaded => loaded.entries[r.2.matchIndex]? else none

/-- The scan selects the option that `List.find?` does. -/
theorem find?_of_scanOptions {name : List UInt8} {entries : List BootOption} {index : Nat}
    (h : scanOptions name entries 0 = some index) :
    ∃ option, entries[index]? = some option ∧
      entries.find? (optionMatchesTarget name) = some option := by
  obtain ⟨⟨option, hoption, -⟩, -⟩ := isLeast_of_scanOptions h
  have hindex : entries.findIdx? (optionMatchesTarget name) = some index := by
    rw [scanOptions_eq] at h
    simpa using h
  refine ⟨option, hoption, ?_⟩
  rw [List.find?_eq_bind_findIdx?_getElem?, hindex]
  exact hoption

theorem find?_of_scanOptions_none {name : List UInt8} {entries : List BootOption}
    (h : scanOptions name entries 0 = none) :
    entries.find? (optionMatchesTarget name) = none := by
  refine List.find?_eq_none.mpr fun option hoption hmatch => ?_
  exact not_anyMatch_of_scanOptions h ⟨option, hoption, hmatch⟩

theorem selectedOption_secondPass (source : BootOptionSource) (name : List UInt8) :
    selectedOption (secondPass source name ⟨none, 0, 0, []⟩) =
      ((refreshedArray source name).getD []).find? (optionMatchesTarget name) := by
  unfold secondPass
  cases harray : refreshedArray source name with
  | none => rfl
  | some entries =>
    cases entries with
    | nil => rfl
    | cons option entries =>
      show selectedOption (match some (scanOptions name (option :: entries) 0) with
        | none => _
        | some (some index) => _
        | some none => _) = _
      cases hscan : scanOptions name (option :: entries) 0 with
      | some index =>
        obtain ⟨found, hindex, hfind⟩ := find?_of_scanOptions hscan
        exact hindex.trans hfind.symm
      | none => exact (find?_of_scanOptions_none hscan).symm

/-- **What is found is what `HandleBootOverride` acts on.** -/
theorem findBootOverrideArray_option (source : BootOptionSource) (target : Option (List UInt8)) :
    selectedOption (findBootOverrideArray source target) =
      findBootOverrideOption target (source.current.getD [])
        ((target.bind (refreshedArray source)).getD []) := by
  cases target with
  | none => rfl
  | some name =>
    unfold findBootOverrideArray findBootOverrideOption
    show selectedOption (if _ then _ else _) = if _ then _ else _
    split
    · rfl
    · cases hcurrent : source.current with
      | none => rfl
      | some current =>
        cases current with
        | nil => rfl
        | cons option current =>
          have hloaded : scanLoaded name (getLoadOptions .current (some (option :: current))
              ⟨none, 0, 0, []⟩) = some (scanOptions name (option :: current) 0) := rfl
          simp only [hloaded, Option.getD_some]
          cases hscan : scanOptions name (option :: current) 0 with
          | some index =>
            obtain ⟨found, hindex, hfind⟩ := find?_of_scanOptions hscan
            rw [hfind]
            exact hindex
          | none =>
            rw [find?_of_scanOptions_none hscan]
            exact selectedOption_secondPass source name

/-! ### An early boot -/

/-- The onboard network's option. -/
def networkOption : BootOption := ⟨4, false, some [.other, .macAddr]⟩

/-- A boot manager with no options until the network is connected. -/
def unconnectedSource (current : Option (List BootOption)) : BootOptionSource where
  current := current
  locatePolicy := .success
  refreshed
    | some .network => some [networkOption]
    | _ => current

/-- Without options the network is not connected, although its option would match; and an array
without options is returned with the error. -/
theorem findBootOverrideArray_unconnected :
    ¬FindHolds (unconnectedSource none) (some (ascii "Pxe"))
        (findBootOverrideArray (unconnectedSource none) (some (ascii "Pxe"))) ∧
      ¬FindHolds (unconnectedSource (some [])) (some (ascii "Pxe"))
        (findBootOverrideArray (unconnectedSource (some [])) (some (ascii "Pxe"))) := by
  constructor
  · intro h
    have hmatch : AnyMatch (ascii "Pxe") (refreshedArray (unconnectedSource none) (ascii "Pxe")) :=
      ⟨networkOption, by decide, by decide⟩
    exact absurd (h.succeeds_iff.mpr ⟨_, rfl, Or.inr hmatch⟩) (by decide)
  · intro h
    exact absurd (h.failed (by decide)).1 (by decide)

end Rpi5Uefi
