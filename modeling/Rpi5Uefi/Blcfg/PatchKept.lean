import Rpi5Uefi.Blcfg.PatchRuns
import Rpi5Uefi.Eeprom.Apart

/-!
# Replacements that keep the chains

The replacements of `PatchImage` follow from the image it is given: one look at the input says
which files are rewritten, and with what. So what they do to the chains can be asked of the input,
replacement by replacement.

* **`replacements`**: the list, and **`patchConfigs_replacements`** that it is what the run does.
* **`walkable_replace`**: a replacement keeps the chain of its own partition exactly where
  **`ChainKept`** says so.
* **`walkable_replace_start`**: one in partition B, and the chain walked from 0.
-/

namespace Rpi5Uefi

open Bytes Chain Transition

variable {image imageA : Mem} {size : Nat} {w : EepromWindow} {name : CString} {data : List UInt8}
  {values : BlcfgValues} {timestamp : UInt32} {poolFull : Bool} {config : List UInt8}
  {p : EepromPartition} {pre rest : List EepromSection} {s : EepromSection}

/-! ## One replacement -/

/-- A replacement that takes place leaves a chain that can be walked. -/
def ChainKept (image : Mem) (size : Nat) (w : EepromWindow) (name : CString) (data : List UInt8) :
    Prop :=
  ∀ loc, eepromFindFileIn image size w name = some loc → ContentFits size loc data →
    ChainResumes image size w loc data

/-- **The chain of the window** can be walked afterwards exactly where it could be before and is
kept. -/
theorem walkable_replace (hw : w.Fits size) (image : Mem) (name : CString) (data : List UInt8) :
    Walkable (eepromReplaceFileIn image size w name data).2 size w ↔
      Walkable image size w ∧ ChainKept image size w name data := by
  rcases eepromReplaceFileIn_cases hw image name data with
    ⟨status, hstatus, hcall⟩ | ⟨pre, s, rest, hr, hfind, hcall⟩
  · rw [hcall]
    refine (and_iff_left fun loc hloc hfits => ?_).symm
    exact absurd hfits (ReplaceFails.not_fits hw ⟨hstatus, hcall⟩ hloc)
  · rw [hcall, and_iff_right hr.walkable, hr.walkable_iff]
    constructor
    · intro hresumes loc hloc _
      rw [hfind] at hloc
      cases hloc
      exact hresumes
    · exact fun hkept => hkept _ hfind ⟨hr.len, hr.scratch, hr.room⟩

/-- A file that is the last section, with room for any content, can be replaced by any. -/
theorem chainKept_of_last {loc : EepromFileLoc}
    (hfind : eepromFindFileIn image size w name = some loc) (hlast : loc.isLast = true)
    (hroom : loc.contentOffset + eepromMaxFileSize + 8 ≤ loc.nextOffset) :
    ChainKept image size w name data := by
  intro loc' hloc hfits
  rw [hfind] at hloc
  cases hloc
  refine Or.inl ⟨hlast, ?_⟩
  have hlen := hfits.1
  unfold padStart alignUp8
  omega

/-- A partition's files on the chain walked from 0. -/
def EepromPartition.fromStart (p : EepromPartition) : EepromWindow :=
  ⟨0, p.window.winStart, p.window.winEnd⟩

theorem walk_unique {head : Nat → Head EepromSection} {o m m' : Nat} {l l' : List EepromSection}
    (h : Path head o l m) (hm : head m = .stop) (h' : Path head o l' m') (hm' : head m' = .stop) :
    l = l' := by
  have hwalk : Chain.walk head o (l.length + l'.length) = some l :=
    walk_eq_some_iff.mpr ⟨by omega, m, h, hm⟩
  have hwalk' : Chain.walk head o (l.length + l'.length) = some l' :=
    walk_eq_some_iff.mpr ⟨by omega, m', h', hm'⟩
  exact Option.some.inj (hwalk.symm.trans hwalk')

/-- A replacement in partition B is one on the chain walked from 0 where that goes through the start
of the partition. -/
theorem Replacing.fromStart (h : Replacing image size partitionB name data pre s rest)
    (hwalk : Walkable image size readOnlyWindow)
    (hreach : Reaches (sectionHead image size) 0 eepromPartitionBStart) :
    ∃ pre', Replacing image size EepromPartition.b.fromStart name data pre' s rest := by
  obtain ⟨front, hfront⟩ := hreach
  obtain ⟨-, hpre, n, m, hhead, htail, hstop⟩ := walkSections_split h.walk
  obtain ⟨sections, hsections⟩ := Option.ne_none_iff_exists'.mp hwalk
  have hpath : Path (sectionHead image size) 0 ((front ++ pre) ++ [s]) n :=
    (hfront.append hpre).append (.single hhead)
  have hsections' := hsections
  rw [walkSections_eq_walk] at hsections'
  obtain ⟨rest', hrest, hafter⟩ := exists_append_of_walk hsections' hpath
  obtain ⟨-, m', htail', hstop'⟩ := walk_eq_some_iff.mp hafter
  have hsame : rest' = rest := walk_unique htail' hstop' htail hstop
  refine ⟨front ++ pre, ⟨by decide, h.fits.winEnd, h.fits.scratch, h.fits.size_lt⟩, ?_, ?_, h.hit,
    h.len, h.scratch, h.room⟩
  · show walkSections image size 0 eepromMaxSections = _
    rw [hrest, hsame, List.append_assoc] at hsections
    exact hsections
  · intro t ht
    rcases List.mem_append.mp ht with ht | ht
    · -- the sections in front of the partition are not in the window
      have hlt := (onChain_of_path (w := readOnlyWindow) (Reaches.refl _ _) hfront ht).2.2
      by_contra hmatch
      rw [Bool.not_eq_false] at hmatch
      have hstart : eepromPartitionBStart ≤ t.offset := (sectionMatches_iff.mp hmatch).2.1
      omega
    · exact h.first t ht

/-- **The chain walked from 0** can be walked after a replacement in partition B that keeps it. -/
theorem walkable_replace_start (hB : partitionB.Fits size) (hinside : SectionsInside image size)
    (hwalk : Walkable image size readOnlyWindow)
    (hkept : ChainKept image size EepromPartition.b.fromStart name data) :
    Walkable (eepromReplaceFileIn image size partitionB name data).2 size readOnlyWindow := by
  rcases eepromReplaceFileIn_cases hB image name data with
    ⟨status, -, hcall⟩ | ⟨pre, s, rest, hr, -, hcall⟩
  · rw [hcall]
    exact hwalk
  rw [hcall]
  by_cases hreach : Reaches (sectionHead image size) 0 eepromPartitionBStart
  · obtain ⟨pre', hr'⟩ := hr.fromStart hwalk hreach
    have hfind := (eepromReplaceFileIn_of_replacing hr').1
    exact hr'.walkable_iff.mpr (hkept _ hfind ⟨hr'.len, hr'.scratch, hr'.room⟩)
  · -- the chain ends in front of the partition, where nothing is written
    have hsame : walkSections (replaced image size partitionB data s rest) size 0
        eepromMaxSections = walkSections image size 0 eepromMaxSections := by
      refine walkSections_congr fun x hx => ?_
      have hlt : x < eepromPartitionBStart := by
        by_contra hle
        exact hreach (hinside.reaches (Reaches.refl _ _) (Nat.zero_le _) hx (Nat.not_lt.mp hle))
      have hmod := reaches_aligned hx (by decide)
      have hstart : eepromPartitionBStart ≤ s.offset := (sectionMatches_iff.mp hr.hit).2.1
      have hBmod : eepromPartitionBStart % 8 = 0 := by decide
      exact hr.head_low (by omega)
    unfold Walkable
    show walkSections _ size 0 _ ≠ none
    rw [hsame]
    exact hwalk

/-! ## Partitions stay apart -/

theorem sectionsInside_of_walk {l : List EepromSection}
    (hwalk : walkSections image size 0 eepromMaxSections = some l)
    (h : ∀ t ∈ l, t.offset < eepromPartitionBStart →
      t.offset + 8 + t.length ≤ eepromPartitionBStart) : SectionsInside image size :=
  fun t ht hlt => h t (mem_walk_of_onChain (w := partitionA) hwalk ht) hlt

theorem SectionsInside.of_low (h : SectionsInside image size) {image' : Mem}
    (hlow : ∀ i, i < eepromPartitionBStart → image' i = image i) : SectionsInside image' size := by
  intro t ht hlt
  have hB' : eepromPartitionBStart % 8 = 0 := by decide
  refine h t ((onChain_iff_of_heads rfl (fun x _ hx hmod => ?_) hlt).mp ht) hlt
  exact sectionHead_congr fun i _ hi => hlow i (by omega)

/-- **No replacement moves a section across the start of partition B.** -/
theorem PartitionsApart.replace (hA : partitionA.Fits size) (hB : partitionB.Fits size)
    (h : PartitionsApart image size) (p : EepromPartition) (name : CString) (data : List UInt8) :
    PartitionsApart (eepromReplaceFileIn image size p.window name data).2 size := by
  cases p with
  | a =>
    rcases eepromReplaceFileIn_cases hA image name data with
      ⟨status, -, hcall⟩ | ⟨pre, s, rest, hr, -, hcall⟩
    · exact hcall ▸ h
    · exact hcall ▸ h.replaced hr
  | b =>
    have hlow : ∀ i, i < eepromPartitionBStart + 4 →
        (eepromReplaceFileIn image size partitionB name data).2 i = image i :=
      fun i hi => replaceStepB_low (e := (name, data)) hB hi rfl
    refine ⟨h.inside.of_low fun i hi => hlow i (by omega), ?_⟩
    have hsame : be32 (eepromReplaceFileIn image size partitionB name data).2
        eepromPartitionBStart = be32 image eepromPartitionBStart :=
      be32_congr fun i _ hi => hlow i hi
    exact fun hpad => h.noPad (hsame.symm.trans hpad)

theorem PartitionsApart.outside_replace (hA : partitionA.Fits size)
    (h : PartitionsApart image size) (name : CString) (data : List UInt8) {i : Nat}
    (hi : eepromPartitionBStart ≤ i) :
    (eepromReplaceFileIn image size partitionA name data).2 i = image i := by
  rcases eepromReplaceFileIn_cases hA image name data with
    ⟨status, -, hcall⟩ | ⟨pre, s, rest, hr, -, hcall⟩
  · rw [hcall]
  · rw [hcall]
    exact h.outside hr hi

/-! ## The replacements of a run -/

/-- One call of `EepromReplaceFileIn` by `PatchImage`. -/
structure Replacement where
  partition : EepromPartition
  name : CString
  data : List UInt8

/-- The image behind a call. -/
def replaceIn (size : Nat) (image : Mem) (e : Replacement) : Mem :=
  (eepromReplaceFileIn image size e.partition.window e.name e.data).2

/-- The config text that `PatchImage` builds. -/
def newConfigText (image : Mem) (size : Nat) (values : BlcfgValues) : Option (List UInt8) :=
  match eepromFindFileIn image size partitionA bootconfTxt with
  | none => none
  | some loc => (blBuildNewConfigText (fileContent image loc) values newConfigCap).toOption

/-- The replacements in one partition: none without a config that the new one fits in the place of,
and one of the digest where there is one. -/
def stageReplacements (image : Mem) (size : Nat) (p : EepromPartition) (config : List UInt8)
    (timestamp : UInt32) : List Replacement :=
  match eepromFindFileIn image size p.window bootconfTxt with
  | none => []
  | some loc =>
    if ContentFits size loc config then
      ⟨p, bootconfTxt, config⟩ ::
        (if (eepromFindFileIn image size p.window bootconfSig).isSome then
          [⟨p, bootconfSig, configSig config timestamp⟩] else [])
    else []

/-- The replacements of a run that gets past partition A. -/
def replacements (image : Mem) (size : Nat) (config : List UInt8) (timestamp : UInt32) :
    List Replacement :=
  stageReplacements image size .a config timestamp ++
    stageReplacements image size .b config timestamp

theorem stageReplacements_of_replacing (h : Replacing image size p.window bootconfTxt config pre s
    rest) (timestamp : UInt32) :
    stageReplacements image size p config timestamp =
      ⟨p, bootconfTxt, config⟩ ::
        (if (eepromFindFileIn image size p.window bootconfSig).isSome then
          [⟨p, bootconfSig, configSig config timestamp⟩] else []) := by
  unfold stageReplacements
  rw [(eepromReplaceFileIn_of_replacing h).1]
  exact if_pos ⟨h.len, h.scratch, h.room⟩

theorem PatchedA.newConfigText (h : PatchedA image size values timestamp config imageA) :
    newConfigText image size values = some config := by
  obtain ⟨loc, hloc, hbuild⟩ := h.built
  unfold Rpi5Uefi.newConfigText
  rw [hloc]
  simp only [hbuild]
  rfl

/-- **Partition A's stage** is its replacements. -/
theorem PatchedA.replacements (hA : partitionA.Fits size)
    (h : PatchedA image size values timestamp config imageA) :
    (stageReplacements image size .a config timestamp).foldl (replaceIn size) image = imageA := by
  obtain ⟨imageT, htxt, hsig⟩ := h.config
  rcases eepromReplaceFileIn_cases hA image bootconfTxt config with
    ⟨status, hne, hcall⟩ | ⟨pre, s, rest, hr, -, -⟩
  · rw [hcall] at htxt
    cases htxt
    exact absurd rfl hne
  have htxt' : replaceIn size image ⟨.a, bootconfTxt, config⟩ = imageT := congrArg Prod.snd htxt
  rw [stageReplacements_of_replacing hr, List.foldl_cons, htxt']
  rcases hsig with ⟨hsome, hsync⟩ | ⟨hnone, rfl⟩
  · rw [if_pos (show (eepromFindFileIn image size EepromPartition.a.window bootconfSig).isSome =
      true from hsome)]
    exact congrArg Prod.snd hsync
  · rw [show eepromFindFileIn image size EepromPartition.a.window bootconfSig = none from hnone]
    rfl

/-- **So is partition B's.** -/
theorem patchPartitionB_replacements (hB : partitionB.Fits size) (imageA : Mem)
    (config : List UInt8) (timestamp : UInt32) :
    (patchPartitionB imageA size config timestamp).1 =
      (stageReplacements imageA size .b config timestamp).foldl (replaceIn size) imageA := by
  have hfails {image : Mem} {e : Replacement} {status : EfiStatus}
      (h : ReplaceFails image size e.partition.window e.name e.data status) :
      replaceIn size image e = image := congrArg Prod.snd h.2
  rcases patchPartitionB_cases hB imageA config timestamp with
    ⟨hnone, hcall⟩ | ⟨status, hfail, hcall⟩ | ⟨pre, s, rest, hr, hcase⟩
  · rw [hcall]
    unfold stageReplacements
    rw [show eepromFindFileIn imageA size EepromPartition.b.window bootconfTxt = none from hnone]
    rfl
  · rw [hcall]
    unfold stageReplacements
    cases hfind : eepromFindFileIn imageA size EepromPartition.b.window bootconfTxt with
    | none => rfl
    | some loc =>
      simp only
      rw [if_neg (hfail.not_fits hB hfind)]
      rfl
  have htxt : replaceIn size imageA ⟨.b, bootconfTxt, config⟩ =
      replaced imageA size partitionB config s rest :=
    congrArg Prod.snd (eepromReplaceFileIn_of_replacing hr).2
  rw [stageReplacements_of_replacing (p := .b) hr, List.foldl_cons, htxt]
  -- where the digest is not written, the call for it changes nothing
  have hsame : ∀ status, ReplaceFails (replaced imageA size partitionB config s rest) size
      partitionB bootconfSig (configSig config timestamp) status →
      replaced imageA size partitionB config s rest =
        (if (eepromFindFileIn imageA size EepromPartition.b.window bootconfSig).isSome then
          [⟨.b, bootconfSig, configSig config timestamp⟩] else []).foldl (replaceIn size)
            (replaced imageA size partitionB config s rest) := by
    intro status hfail
    split
    · exact (hfails (e := ⟨.b, bootconfSig, configSig config timestamp⟩) hfail).symm
    · rfl
  rcases hcase with ⟨hsig, hcall⟩ | ⟨status, -, hfail, hcall⟩ | ⟨pre', s', rest', hr', hcall⟩
  · rw [hcall]
    obtain ⟨status, hfail⟩ := replaceFails_of_find_none hsig (configSig config timestamp)
    exact hsame status hfail
  · rw [hcall]
    exact hsame status hfail
  · rw [hcall]
    have hsome : (eepromFindFileIn imageA size EepromPartition.b.window bootconfSig).isSome =
        true := by
      by_contra hnone
      rw [Option.not_isSome_iff_eq_none] at hnone
      have hno := hr.noMatch_other (noMatch_of_find_none hr.walkable hnone)
      have hhit := hr'.hit
      rw [hno s' hr'.onChain] at hhit
      cases hhit
    rw [if_pos hsome]
    exact (congrArg Prod.snd (eepromReplaceFileIn_of_replacing hr').2).symm

theorem partition_of_mem_stage {e : Replacement}
    (h : e ∈ stageReplacements image size p config timestamp) : e.partition = p := by
  unfold stageReplacements at h
  split at h
  · cases h
  split at h
  · rcases List.mem_cons.mp h with rfl | h
    · rfl
    split at h
    · rw [List.mem_singleton.mp h]
    · cases h
  · cases h

/-- Partition A's stage leaves what is behind it, where the partitions do not overlap. -/
theorem PatchedA.outside (hA : partitionA.Fits size) (hB : partitionB.Fits size)
    (hapart : PartitionsApart image size)
    (h : PatchedA image size values timestamp config imageA) {i : Nat}
    (hi : eepromPartitionBStart ≤ i) : imageA i = image i := by
  obtain ⟨imageT, htxt, hsig⟩ := h.config
  have hT : PartitionsApart imageT size := by
    have hreplaced := hapart.replace hA hB .a bootconfTxt config
    rwa [show (eepromReplaceFileIn image size EepromPartition.a.window bootconfTxt config).2 =
      imageT from congrArg Prod.snd htxt] at hreplaced
  have himageT : imageT i = image i := by
    rw [← show (eepromReplaceFileIn image size partitionA bootconfTxt config).2 = imageT from
      congrArg Prod.snd htxt]
    exact hapart.outside_replace hA bootconfTxt config hi
  rcases hsig with ⟨-, hsync⟩ | ⟨-, rfl⟩
  · rw [← himageT, ← show (eepromReplaceFileIn imageT size partitionA bootconfSig
      (configSig config timestamp)).2 = imageA from congrArg Prod.snd hsync]
    exact hT.outside_replace hA bootconfSig _ hi
  · exact himageT

/-- So partition B's stage finds there what the input has. -/
theorem PatchedA.stage_b (hA : partitionA.Fits size) (hB : partitionB.Fits size)
    (hapart : PartitionsApart image size)
    (h : PatchedA image size values timestamp config imageA) :
    stageReplacements imageA size .b config timestamp =
      stageReplacements image size .b config timestamp := by
  have hfind (name : CString) : eepromFindFileIn imageA size EepromPartition.b.window name =
      eepromFindFileIn image size EepromPartition.b.window name :=
    find_congr_from (w := partitionB) (fun i hi => h.outside hA hB hapart hi) name
  unfold stageReplacements
  rw [hfind, hfind]

/-- **What a run does** to an image whose partitions do not overlap, up to the timestamp, is the
replacements that the image itself says. -/
theorem patchConfigs_replacements (hA : partitionA.Fits size) (hB : partitionB.Fits size)
    (hapart : PartitionsApart image size) {m : Mem} {warnings : List (String × EfiStatus)}
    (h : patchConfigs image size values timestamp poolFull = .ok (m, warnings)) :
    ∃ config, newConfigText image size values = some config ∧
      m = (replacements image size config timestamp).foldl (replaceIn size) image := by
  unfold patchConfigs at h
  rcases patchPartitionA_cases image size values timestamp poolFull with
    ⟨result, hcall, -, -⟩ | ⟨config, imageA, hpatched, hcall⟩
  · rw [hcall] at h
    cases h
  rw [hcall] at h
  refine ⟨config, hpatched.newConfigText, ?_⟩
  have hm : (patchPartitionB imageA size config timestamp).1 = m :=
    congrArg Prod.fst (Except.ok.inj h)
  unfold replacements
  rw [← hm, patchPartitionB_replacements hB, List.foldl_append, hpatched.replacements hA,
    hpatched.stage_b hA hB hapart]

end Rpi5Uefi
