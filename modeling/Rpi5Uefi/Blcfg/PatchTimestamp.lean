import Rpi5Uefi.Blcfg.PatchKept
import Rpi5Uefi.Eeprom.ReplaceFrame

/-!
# The timestamp of a patched image

Up to four replacements come before `EepromSetTimestamp`, none of them of `updatetime`. They leave
the two files where they are, but not always a chain on which they can be found.

* **`timestampSet_of_ready`**, **`ready_of_timestampSet`**: what the call needs, and that it needs
  nothing less.
* **`TimestampKept`**: a condition on the input, replacement by replacement, for that.
* **`patchImage_sets_timestamp`**: then the files carry the timestamp and the scratch sector is the
  input's; the condition is exact for images with no config in partition B.
-/

namespace Rpi5Uefi

open Bytes Chain Transition

variable {image : Mem} {size : Nat} {values : BlcfgValues} {timestamp : UInt32}
  {poolFull : Bool} {t u : EepromSection}

/-! ## The timestamp -/

/-- The image carries the timestamp in both `updatetime` files, and its scratch sector is the
input's. -/
structure TimestampSet (image result : Mem) (size : Nat) (timestamp : UInt32) : Prop where
  readOnly : ∃ loc, findUpdatetime result size readOnlyWindow = some loc ∧
    result.slice loc.contentOffset 8 = timestampWords timestamp
  partition : ∃ loc, findUpdatetime result size partitionA = some loc ∧
    result.slice loc.contentOffset 8 = timestampWords timestamp
  scratch : ∀ i, size - eepromEraseAlign ≤ i → i < size → result i = image i

/-- The state `EepromSetTimestamp` needs: a walkable chain from 0, and the scratch sector as the
input had it. -/
def TimestampReady (image m : Mem) (size : Nat) : Prop :=
  Walkable m size readOnlyWindow ∧
    ∀ i, size - eepromEraseAlign ≤ i → i < size → m i = image i

theorem updatetime_apart (ht : FirstMatch image size readOnlyWindow updatetime t)
    (hu : FirstMatch image size partitionA updatetime u) :
    t.offset + 8 + t.length ≤ u.offset ∧ u.offset < eepromPartitionAEnd := by
  have hlow := (sectionMatches_iff.mp ht.hit).2.2.1
  have hhigh := (sectionMatches_iff.mp hu.hit).2
  have hlt : t.offset < u.offset := Nat.lt_of_lt_of_le hlow hhigh.1
  exact ⟨onChain_disjoint ht.onChain hu.onChain hlt, hhigh.2.1⟩

/-- With both files on a walkable chain the timestamp is set, and the rest is as before. -/
theorem timestampSet_of_ready {m : Mem} (hB : partitionB.Fits size)
    (hready : TimestampReady image m size) (ht : FirstMatch m size readOnlyWindow updatetime t)
    (htlen : 24 ≤ t.length) (hu : FirstMatch m size partitionA updatetime u)
    (hulen : 24 ≤ u.length) :
    (eepromSetTimestamp m size timestamp).1 = .success ∧
      TimestampSet image (eepromSetTimestamp m size timestamp).2 size timestamp := by
  obtain ⟨hwalk, hscratch⟩ := hready
  rw [setTimestamp_newStyle timestamp hwalk ht htlen hu hulen]
  obtain ⟨hapart, huend⟩ := updatetime_apart ht hu
  have hfits := hB.scratch
  have hend : eepromPartitionAEnd + 32 ≤ partitionB.winEnd := by decide
  -- neither write changes a lookup, so both files are still found
  have hfind : ∀ w', w'.walkStart = 0 →
      eepromFindFileIn (putTimestamp (putTimestamp m (t.offset + 24) timestamp) (u.offset + 24)
        timestamp) size w' updatetime = eepromFindFileIn m size w' updatetime := by
    intro w' hw'
    have hu' : OnChain (putTimestamp m (t.offset + 24) timestamp) size readOnlyWindow u :=
      (onChain_putTimestamp ht.onChain htlen).mpr hu.onChain
    rw [find_putTimestamp hu' hulen (by decide) hw',
      find_putTimestamp ht.onChain htlen (by decide) hw']
  obtain ⟨loc, hloc, hoff⟩ := findUpdatetime_of_firstMatch hwalk ht htlen
  obtain ⟨loc', hloc', hoff'⟩ := findUpdatetime_of_firstMatch (w := partitionA) hwalk hu hulen
  refine ⟨rfl, ⟨loc, ?_, ?_⟩, ⟨loc', ?_, ?_⟩, fun i hi hsize => ?_⟩
  · unfold findUpdatetime at hloc ⊢
    rw [hfind readOnlyWindow rfl]
    exact hloc
  · rw [hoff, ← slice_putTimestamp m (t.offset + 24) timestamp]
    exact Mem.slice_congr fun i hi hi' => putTimestamp_outside (by omega)
  · unfold findUpdatetime at hloc' ⊢
    rw [hfind partitionA rfl]
    exact hloc'
  · rw [hoff']
    exact slice_putTimestamp _ _ _
  · have herase : eepromEraseAlign = 4096 := rfl
    simp only
    rw [putTimestamp_outside (by omega), putTimestamp_outside (by omega)]
    exact hscratch i hi hsize

/-- The other way round: the scratch sector could not be kept by the old-style layout. -/
theorem ready_of_timestampSet {m : Mem} (timestamp : UInt32) (hB : partitionB.Fits size)
    (htail : ∀ i, size ≤ i + 8 → m i = image i)
    (ht : FirstMatch m size readOnlyWindow updatetime t)
    (htlen : 24 ≤ t.length) (hu : FirstMatch m size partitionA updatetime u)
    (hulen : 24 ≤ u.length)
    (hset : (eepromSetTimestamp m size timestamp).1 = .success →
      TimestampSet image (eepromSetTimestamp m size timestamp).2 size timestamp) :
    TimestampReady image m size := by
  have hfits := hB.scratch
  have hend : eepromPartitionAEnd + 32 ≤ partitionB.winEnd := by decide
  have herase : eepromEraseAlign = 4096 := rfl
  by_cases hwalk : Walkable m size readOnlyWindow
  · refine ⟨hwalk, fun i hi hsize => ?_⟩
    have hnew := setTimestamp_newStyle timestamp hwalk ht htlen hu hulen
    rw [hnew] at hset
    obtain ⟨hapart, huend⟩ := updatetime_apart ht hu
    have hkept := (hset rfl).scratch i hi hsize
    simp only at hkept
    rwa [putTimestamp_outside (by omega), putTimestamp_outside (by omega)] at hkept
  · -- the fallback writes the last eight bytes; kept as they were, the chain is still broken
    have hnone : ∀ m' : Mem, ¬Walkable m' size readOnlyWindow →
        findUpdatetime m' size readOnlyWindow = none := by
      intro m' hw
      by_contra hsome
      obtain ⟨loc, hloc⟩ := Option.ne_none_iff_exists'.mp hsome
      exact hw (firstMatch_of_findUpdatetime hloc).1
    have hold : eepromSetTimestamp m size timestamp =
        (.success, putOldTimestamp m size timestamp) := by
      rcases eepromSetTimestamp_cases m size timestamp with ⟨-, hcall⟩ | ⟨loc, hloc, -⟩
      · exact hcall
      · rw [hnone m hwalk] at hloc
        cases hloc
    rw [hold] at hset
    have hkept := hset rfl
    have hsame : putOldTimestamp m size timestamp = m := by
      funext i
      by_cases hlow : i < size - 8
      · exact putOldTimestamp_outside hlow
      · by_cases hsize : i < size
        · exact (hkept.scratch i (by omega) hsize).trans (htail i (by omega)).symm
        · exact putOldTimestamp_above (by omega) (by omega)
    obtain ⟨loc, hloc, -⟩ := hkept.readOnly
    simp only [hsame] at hloc
    rw [hnone m hwalk] at hloc
    cases hloc

/-- The buffer `EepromSetTimestamp` gets, against the input. -/
theorem patchConfigs_kept (hA : partitionA.Fits size) (hB : partitionB.Fits size)
    {result : Mem × List (String × EfiStatus)}
    (h : patchConfigs image size values timestamp poolFull = .ok result) :
    (∀ i, size ≤ i + 8 → result.1 i = image i) ∧
      ∀ w' t, w'.walkStart = 0 → w'.winEnd ≤ eepromPartitionAEnd → 0 < t.length →
        FirstMatch image size w' updatetime t → FirstMatch result.1 size w' updatetime t := by
  unfold patchConfigs at h
  rcases patchPartitionA_cases image size values timestamp poolFull with
    ⟨r, hcall, -, -⟩ | ⟨newConfig, imageA, hpatched, hcall⟩
  · rw [hcall] at h
    cases h
  · rw [hcall] at h
    cases h
    obtain ⟨es, hrunA⟩ := hpatched.run
    obtain ⟨es', hrunB⟩ := patchPartitionB_run imageA size newConfig timestamp
    refine ⟨fun i hi => ?_, fun w' t hw hend hlen ht => ?_⟩
    · exact (replaceRun_tail hB hi hrunB).trans (replaceRun_tail hA hi hrunA)
    · exact replaceRunB_updatetime hB hw hend hrunB
        (replaceRunA_updatetime hA hw hend hlen hrunA ht)

theorem timestamp_iff (hA : partitionA.Fits size) (hB : partitionB.Fits size)
    (hro : (findUpdatetime image size readOnlyWindow).isSome = true)
    (ha : (findUpdatetime image size partitionA).isSome = true) :
    ((patchImage image size values timestamp poolFull).status = .success →
        TimestampSet image (patchImage image size values timestamp poolFull).image size
          timestamp) ↔
      ∀ m warnings, patchConfigs image size values timestamp poolFull = .ok (m, warnings) →
        TimestampReady image m size := by
  obtain ⟨loc, hloc⟩ := Option.isSome_iff_exists.mp hro
  obtain ⟨loc', hloc'⟩ := Option.isSome_iff_exists.mp ha
  obtain ⟨-, t, ht, htlen, -⟩ := firstMatch_of_findUpdatetime hloc
  obtain ⟨-, u, hu, hulen, -⟩ := firstMatch_of_findUpdatetime hloc'
  constructor
  · intro hset m warnings hcfg
    obtain ⟨htail, hfiles⟩ := patchConfigs_kept hA hB hcfg
    refine ready_of_timestampSet timestamp hB htail (hfiles _ t rfl (by decide) (by omega) ht) htlen
      (hfiles _ u rfl (Nat.le_refl _) (by omega) hu) hulen fun hok => ?_
    have hresult : patchImage image size values timestamp poolFull =
        ⟨.success, (eepromSetTimestamp m size timestamp).2, none, warnings⟩ := by
      unfold patchImage
      rw [hcfg]
      simp only
      rw [hok, if_neg (by decide)]
    rw [hresult] at hset
    exact hset rfl
  · intro hready hok
    obtain ⟨newConfig, imageA, -, hcfg, -, himage, -⟩ := patchImage_success hok
    obtain ⟨htail, hfiles⟩ := patchConfigs_kept hA hB hcfg
    rw [himage]
    exact (timestampSet_of_ready hB (hready _ _ hcfg) (hfiles _ t rfl (by decide) (by omega) ht)
      htlen (hfiles _ u rfl (Nat.le_refl _) (by omega) hu) hulen).2

/-! ## The condition on the input -/

/-- A replacement that leaves the scratch sector, where it is in partition B, and a chain from 0
that can be walked. -/
def KeepsTimestamp (image : Mem) (e : Replacement) : Prop :=
  (e.partition = .b → StaysInWindow image e.partition e.name e.data) ∧
    ChainKept image eepromImageSize2712 e.partition.fromStart e.name e.data

/-- The partitions do not overlap, and every replacement keeps what the timestamp needs. -/
def TimestampKept (image : Mem) (values : BlcfgValues) (timestamp : UInt32) : Prop :=
  PartitionsApart image eepromImageSize2712 ∧
    ∀ config, newConfigText image eepromImageSize2712 values = some config →
      MetThrough (replaceIn eepromImageSize2712) KeepsTimestamp image
        (replacements image eepromImageSize2712 config timestamp)

/-- One replacement that keeps the scratch sector and the chain leaves the state ready. -/
theorem ready_replaceIn (hA : partitionA.Fits size) (hB : partitionB.Fits size) {m : Mem}
    {e : Replacement} (hapart : PartitionsApart m size) (hready : TimestampReady image m size)
    (hscratch : ∀ i, size - eepromEraseAlign ≤ i → i < size → e.partition = .b →
      replaceIn size m e i = m i)
    (hkept : ChainKept m size e.partition.fromStart e.name e.data) :
    PartitionsApart (replaceIn size m e) size ∧ TimestampReady image (replaceIn size m e) size := by
  obtain ⟨hwalk, hsame⟩ := hready
  refine ⟨hapart.replace hA hB e.partition e.name e.data, ?_, fun i hi hsize => ?_⟩
  · obtain ⟨p, name, data⟩ := e
    cases p with
    | a => exact (walkable_replace hA m name data).mpr ⟨hwalk, hkept⟩
    | b => exact walkable_replace_start hB hapart.inside hwalk hkept
  · refine Eq.trans ?_ (hsame i hi hsize)
    cases hp : e.partition with
    | a =>
      -- partition A's replacements end in front of partition B
      have hend : eepromPartitionBStart ≤ i := by
        have hfits := hA.scratch
        have hstart : partitionA.winEnd = eepromPartitionBStart := rfl
        omega
      unfold replaceIn
      rw [hp]
      exact hapart.outside_replace hA e.name e.data hend
    | b => exact hscratch i hi hsize hp

/-- Without a config in partition B a walkable chain at the end was kept by every replacement. -/
theorem chainKept_of_walkable (hA : partitionA.Fits size) {config : List UInt8}
    (hnone : eepromFindFileIn image size partitionB bootconfTxt = none)
    (hwalk : Walkable ((replacements image size config timestamp).foldl (replaceIn size) image)
      size readOnlyWindow) :
    MetThrough (replaceIn size)
      (fun m e => e.partition = .a ∧ ChainKept m size e.partition.fromStart e.name e.data) image
      (replacements image size config timestamp) := by
  have hstage : stageReplacements image size .b config timestamp = [] := by
    unfold stageReplacements
    rw [show eepromFindFileIn image size EepromPartition.b.window bootconfTxt = none from hnone]
  have hlist : ∀ e ∈ replacements image size config timestamp, e.partition = .a := by
    unfold replacements
    rw [hstage, List.append_nil]
    exact fun e he => partition_of_mem_stage he
  have hstep : ∀ m, ∀ e ∈ replacements image size config timestamp,
      Walkable (replaceIn size m e) size readOnlyWindow ↔ Walkable m size readOnlyWindow ∧
        e.partition = .a ∧ ChainKept m size e.partition.fromStart e.name e.data := by
    intro m e he
    have hp := hlist e he
    obtain ⟨p, name, data⟩ := e
    cases hp
    rw [and_iff_right rfl]
    exact walkable_replace hA m name data
  exact ((metThrough_iff (P := fun m => Walkable m size readOnlyWindow) hstep).mp hwalk).2

theorem timestampSet_of_kept (hA : partitionA.Fits size) (hB : partitionB.Fits size)
    (hro : (findUpdatetime image size readOnlyWindow).isSome = true)
    (ha : (findUpdatetime image size partitionA).isSome = true)
    (hok : (patchImage image size values timestamp poolFull).status = .success)
    (hapart : PartitionsApart image size) {ok : Mem → Replacement → Prop}
    (hscratch : ∀ m e, ok m e → ∀ i, size - eepromEraseAlign ≤ i → i < size → e.partition = .b →
      replaceIn size m e i = m i)
    (hkeeps : ∀ m e, ok m e → ChainKept m size e.partition.fromStart e.name e.data)
    (hkept : ∀ config, newConfigText image size values = some config →
      MetThrough (replaceIn size) ok image (replacements image size config timestamp)) :
    TimestampSet image (patchImage image size values timestamp poolFull).image size timestamp := by
  obtain ⟨loc, hloc⟩ := Option.isSome_iff_exists.mp hro
  have hwalk := (firstMatch_of_findUpdatetime hloc).1
  refine (timestamp_iff hA hB hro ha).mpr (fun m warnings hcfg => ?_) hok
  obtain ⟨config, hconfig, rfl⟩ := patchConfigs_replacements hA hB hapart hcfg
  have hready := (hkept config hconfig).inv
    (I := fun m => PartitionsApart m size ∧ TimestampReady image m size)
    (fun m e _ h hmet =>
      ready_replaceIn hA hB h.1 h.2 (hscratch m e hmet) (hkeeps m e hmet))
    ⟨hapart, hwalk, fun _ _ _ => rfl⟩
  exact hready.2

theorem kept_of_timestampSet (hA : partitionA.Fits size) (hB : partitionB.Fits size)
    (hro : (findUpdatetime image size readOnlyWindow).isSome = true)
    (ha : (findUpdatetime image size partitionA).isSome = true)
    (hok : (patchImage image size values timestamp poolFull).status = .success)
    (hapart : PartitionsApart image size)
    (hnone : eepromFindFileIn image size partitionB bootconfTxt = none)
    (hset : TimestampSet image (patchImage image size values timestamp poolFull).image size
      timestamp) {config : List UInt8} (hconfig : newConfigText image size values = some config) :
    MetThrough (replaceIn size)
      (fun m e => e.partition = .a ∧ ChainKept m size e.partition.fromStart e.name e.data) image
      (replacements image size config timestamp) := by
  obtain ⟨newConfig, imageA, -, hcfg, -⟩ := patchImage_success hok
  obtain ⟨config', hconfig', hm⟩ := patchConfigs_replacements hA hB hapart hcfg
  have hsame : config' = config := Option.some.inj (hconfig'.symm.trans hconfig)
  have hready := (timestamp_iff hA hB hro ha).mp (fun _ => hset) _ _ hcfg
  rw [hm, hsame] at hready
  exact chainKept_of_walkable hA hnone hready.1

/-- Both `updatetime` files, and `bootconf.txt` behind partition A's. -/
def timestampImage : Mem :=
  putFile (putFile (putSection (putFile (putSection erasedImage 0 eepromSectionMagic 0x7ff8)
    0x8000 updatetime (List.replicate 8 0)) 0x8020 eepromSectionMagic 0x7fd8) 0x10000 updatetime
      (List.replicate 8 0)) 0x10020 bootconfTxt (ascii "A=1\n")

theorem timestampImage_kept : TimestampKept timestampImage setDefaults 7 := by
  have hwalk : walkSections timestampImage eepromImageSize2712 0 eepromMaxSections =
      some [⟨eepromSectionMagic, 0, 0x7ff8⟩, ⟨eepromFileMagic, 0x8000, 24⟩,
        ⟨eepromSectionMagic, 0x8020, 0x7fd8⟩, ⟨eepromFileMagic, 0x10000, 24⟩,
        ⟨eepromFileMagic, 0x10020, 20⟩] := by
    decide +kernel
  refine ⟨⟨sectionsInside_of_walk hwalk (by decide), by decide +kernel⟩, fun config _ => ?_⟩
  have hfind : eepromFindFileIn timestampImage eepromImageSize2712 EepromPartition.a.window
      bootconfTxt = some ⟨0x10020, 0x10038, 4, 0x107000, true⟩ := by
    decide +kernel
  have hsig : eepromFindFileIn timestampImage eepromImageSize2712 EepromPartition.a.window
      bootconfSig = none := by
    decide +kernel
  have hnone : eepromFindFileIn timestampImage eepromImageSize2712 EepromPartition.b.window
      bootconfTxt = none := by
    decide +kernel
  unfold replacements stageReplacements
  rw [hfind, hsig, hnone]
  simp only [Option.isSome_none, Bool.false_eq_true, if_false, List.append_nil]
  split
  · exact ⟨⟨nofun, chainKept_of_last hfind rfl (by decide)⟩, trivial⟩
  · trivial

/-- The same with a short pad section behind the config, and a byte that is neither erased nor a
section magic behind the end of the window. -/
def timestampPadImage : Mem :=
  (putSection timestampImage 0x10040 eepromPadMagic 8).write 0x107000 [0x01]

end Rpi5Uefi
