import Rpi5Uefi.Blcfg.PatchKept
import Rpi5Uefi.Blcfg.RoundTrip

/-!
# Config and digest of a patched image

A successful run is meant to leave one config text in both partitions, with the digest of that
text next to it.

* **`FileBelow`**, **`DigestBelow`** say so by the sections on a chain, without a word about its
  end, so that they survive the later stages; **`Holds`**, **`HoldsDigest`** are what a reader of
  the image then finds.
* **`configAt_partitionA`**, **`configAt_partitionB`**: what the two stages bring about.
* **`setTimestamp_partitionA`**, **`setTimestamp_partitionB`**: the timestamp keeps it.
* **`patch_consistent`** puts them together, for the chains that can be walked in the end;
  `PatchInStep` says of which images these are all.
-/

namespace Rpi5Uefi

open Bytes Chain

variable {image image' imageA m : Mem} {size limit : Nat} {w : EepromWindow} {name : CString}
  {values : BlcfgValues} {timestamp : UInt32} {config data : List UInt8} {content : List UInt8}
  {s t u : EepromSection} {i : Nat}

/-! ## A partition with its config -/

/-- The file `name` is found, with that content. -/
def Holds (image : Mem) (size : Nat) (w : EepromWindow) (name : CString) (content : List UInt8) :
    Prop :=
  ∃ loc, eepromFindFileIn image size w name = some loc ∧ fileContent image loc = content

/-- The signature file, if there is one, is the digest of `config`. -/
def HoldsDigest (image : Mem) (size : Nat) (w : EepromWindow) (config : List UInt8)
    (timestamp : UInt32) : Prop :=
  ∀ loc, eepromFindFileIn image size w bootconfSig = some loc →
    fileContent image loc = configSig config timestamp

/-- The file is on the chain, and its content ends in front of `limit`. -/
def FileBelow (image : Mem) (size : Nat) (w : EepromWindow) (name : CString)
    (content : List UInt8) (limit : Nat) : Prop :=
  ∃ t, FileAt image size w name t content ∧ t.offset + 24 + contentLenOf t ≤ limit

/-- The chain has the digest of `config` as its signature file, or no signature file. -/
def DigestBelow (image : Mem) (size : Nat) (w : EepromWindow) (config : List UInt8)
    (timestamp : UInt32) (limit : Nat) : Prop :=
  FileBelow image size w bootconfSig (configSig config timestamp) limit ∨
    NoMatch image size w bootconfSig

theorem FileBelow.holds (h : FileBelow image size w name content limit)
    (hw : Walkable image size w) : Holds image size w name content := by
  obtain ⟨t, ht, -⟩ := h
  exact ht.found hw

theorem DigestBelow.holds (h : DigestBelow image size w config timestamp limit)
    (hw : Walkable image size w) : HoldsDigest image size w config timestamp := by
  intro loc hloc
  rcases h with hfile | hno
  · obtain ⟨loc', hloc', hcontent⟩ := hfile.holds hw
    rw [hloc] at hloc'
    cases hloc'
    exact hcontent
  · rw [find_none_of_noMatch hno] at hloc
    cases hloc

/-- An image with the same files and the same bytes in front of the limit. -/
theorem FileBelow.transfer (h : FileBelow image size w name content limit)
    (hsame : SameFiles image image' size w name)
    (hbytes : ∀ i, w.walkStart ≤ i → i < limit → image' i = image i) :
    FileBelow image' size w name content limit := by
  obtain ⟨t, ht, hlimit⟩ := h
  have hstart := ht.first.onChain.1.le (sectionHead_ascending image size)
  exact ⟨t, ht.of_sameFiles hsame fun i hi hi' => hbytes i (by omega) (by omega), hlimit⟩

theorem DigestBelow.transfer (h : DigestBelow image size w config timestamp limit)
    (hsame : SameFiles image image' size w bootconfSig)
    (hbytes : ∀ i, w.walkStart ≤ i → i < limit → image' i = image i) :
    DigestBelow image' size w config timestamp limit := by
  rcases h with hfile | hno
  · exact Or.inl (hfile.transfer hsame hbytes)
  · exact Or.inr (hsame.noMatch hno)

theorem IsConfigFile.head_ne (h : IsConfigFile name) : name.bytes.getD 0 0 ≠ 0x55 := by
  rcases h with rfl | rfl
  · decide
  · decide

theorem IsConfigFile.ne_updatetime (h : IsConfigFile name) : name ≠ updatetime := by
  rcases h with rfl | rfl
  · decide
  · decide

/-! ## The stages -/

theorem newSection_length_pos : 0 < (newSection s data).length := by
  show 0 < data.length + 16
  omega

theorem fileBelow_replaced {pre rest : List EepromSection}
    (hr : Replacing image size w name data pre s rest)
    (hlimit : s.offset + 24 + data.length ≤ limit) :
    FileBelow (replaced image size w data s rest) size w name data limit := by
  refine ⟨_, hr.fileAt_self, ?_⟩
  rw [contentLenOf_newSection]
  exact hlimit

/-- The file written first is still there when the signature file was, too. -/
theorem fileBelow_replaced_txt {pre rest pre' rest' : List EepromSection} {s' : EepromSection}
    {sig : List UInt8} (hr : Replacing image size w bootconfTxt config pre s rest)
    (hr' : Replacing (replaced image size w config s rest) size w bootconfSig sig pre' s' rest')
    (hlimit : s.offset + 24 + config.length ≤ limit) :
    FileBelow (replaced (replaced image size w config s rest) size w sig s' rest') size w
      bootconfTxt config limit := by
  refine ⟨_, hr'.fileAt_other (by decide) hr.fileAt_self newSection_length_pos, ?_⟩
  rw [contentLenOf_newSection]
  exact hlimit

/-- **Partition A** holds the new config, and partition B is as it was. -/
theorem configAt_partitionA (hA : partitionA.Fits size) (hapart : PartitionsApart image size)
    (h : PatchedA image size values timestamp config imageA) :
    FileBelow imageA size partitionA bootconfTxt config eepromPartitionBStart ∧
      DigestBelow imageA size partitionA config timestamp eepromPartitionBStart ∧
      PartitionsApart imageA size ∧ ∀ i, eepromPartitionBStart ≤ i → imageA i = image i := by
  obtain ⟨imageT, htxt, hsig⟩ := h.config
  obtain ⟨pre, s, rest, hr, rfl⟩ := replacing_of_success hA htxt
  have hlimit := Nat.le_trans hr.room (hapart.next_le hr)
  rcases hsig with ⟨-, hsync⟩ | ⟨hnone, rfl⟩
  · obtain ⟨pre', s', rest', hr', rfl⟩ := replacing_of_success hA hsync
    have hapart' := hapart.replaced hr
    have hlimit' := Nat.le_trans hr'.room (hapart'.next_le hr')
    exact ⟨fileBelow_replaced_txt hr hr' hlimit, Or.inl (fileBelow_replaced hr' hlimit'),
      hapart'.replaced hr', fun i hi => (hapart'.outside hr' hi).trans (hapart.outside hr hi)⟩
  · have hno := noMatch_of_find_none hr.walkable hnone
    exact ⟨fileBelow_replaced hr hlimit, Or.inr (hr.noMatch_other hno), hapart.replaced hr,
      fun i hi => hapart.outside hr hi⟩

/-- **Partition B** holds the config unless it was reported as not updated, in which case nothing
was written; and the digest, too, when nothing was reported. -/
theorem configAt_partitionB (hB : partitionB.Fits size) {m : Mem}
    {warnings : List (String × EfiStatus)}
    (h : patchPartitionB imageA size config timestamp = (m, warnings)) :
    ((eepromFindFileIn imageA size partitionB bootconfTxt).isSome = true →
        (∀ status, (configWarning, status) ∉ warnings) →
        FileBelow m size partitionB bootconfTxt config (size - 8)) ∧
      ((eepromFindFileIn imageA size partitionB bootconfTxt).isSome = true → warnings = [] →
        Walkable m size partitionB →
        DigestBelow m size partitionB config timestamp (size - 8)) ∧
      ∀ status, (configWarning, status) ∈ warnings → m = imageA := by
  have herase : eepromEraseAlign = 4096 := rfl
  have hne : ∀ {status status' : EfiStatus},
      (configWarning, status) ∉ [(digestWarning, status')] := by
    intro status status' hmem
    rw [List.mem_singleton, Prod.mk.injEq] at hmem
    exact absurd hmem.1 (by decide)
  rcases patchPartitionB_cases hB imageA config timestamp with
    ⟨hnone, hcall⟩ | ⟨status, -, hcall⟩ | ⟨pre, s, rest, hr, hcase⟩
  · rw [h] at hcall
    cases hcall
    rw [hnone]
    exact ⟨nofun, nofun, nofun⟩
  · rw [h] at hcall
    cases hcall
    exact ⟨fun _ hquiet => absurd (List.mem_singleton.mpr rfl) (hquiet status), nofun,
      fun _ _ => rfl⟩
  have hscratch := hr.scratch
  rcases hcase with ⟨hsig, hcall⟩ | ⟨status, -, -, hcall⟩ | ⟨pre', s', rest', hr', hcall⟩
  · rw [h] at hcall
    cases hcall
    exact ⟨fun _ _ => fileBelow_replaced hr (by omega),
      fun _ _ hwalk => Or.inr (noMatch_of_find_none hwalk hsig), nofun⟩
  · rw [h] at hcall
    cases hcall
    exact ⟨fun _ _ => fileBelow_replaced hr (by omega), nofun, fun _ hmem => absurd hmem hne⟩
  · rw [h] at hcall
    cases hcall
    have hscratch' := hr'.scratch
    exact ⟨fun _ _ => fileBelow_replaced_txt hr hr' (by omega),
      fun _ _ _ => Or.inl (fileBelow_replaced hr' (by omega)), nofun⟩

/-! ## The timestamp -/

/-- The words in one file leave the content of every other. -/
theorem fileBelow_putTimestamp (hw : w.walkStart % 8 = 0) (hu : OnChain image size w u)
    (hulen : 24 ≤ u.length) (hupdate : fileNameMatches image (u.offset + 8) updatetime = true)
    (hname : name ≠ updatetime) (h : FileBelow image size w name content limit) :
    FileBelow (putTimestamp image (u.offset + 24) timestamp) size w name content limit := by
  obtain ⟨t, ht, hlimit⟩ := h
  refine ⟨t, ht.of_sameFiles (sameFiles_putTimestamp hu hulen hw rfl name) fun i hi hi' => ?_,
    hlimit⟩
  have hfield := (sectionMatches_iff.mp ht.first.hit).2.2.2
  have hcontent : t.offset + 24 + contentLenOf t ≤ t.offset + 8 + t.length ∨
      contentLenOf t = 0 := by
    unfold contentLenOf
    rw [show eepromFilenameLen = 12 from rfl]
    split
    · exact Or.inl (by omega)
    · exact Or.inr rfl
  rcases Nat.lt_trichotomy t.offset u.offset with hlt | heq | hgt
  · have hdis := onChain_disjoint ht.first.onChain hu hlt
    exact putTimestamp_outside (by omega)
  · rw [heq] at hfield
    exact absurd (fileNameMatches_unique hfield hupdate) hname
  · have hdis := onChain_disjoint hu ht.first.onChain hgt
    exact putTimestamp_outside (by omega)

/-- **Partition A's files survive the timestamp.** -/
theorem setTimestamp_partitionA (hA : partitionA.Fits size) (hname : IsConfigFile name)
    (hok : (eepromSetTimestamp m size timestamp).1 = .success) :
    SameFiles m (eepromSetTimestamp m size timestamp).2 size partitionA name ∧
      ∀ content limit, limit + 8 ≤ size → FileBelow m size partitionA name content limit →
        FileBelow (eepromSetTimestamp m size timestamp).2 size partitionA name content limit := by
  have hfits := hA.scratch
  have herase : eepromEraseAlign = 4096 := rfl
  rcases setTimestamp_success hok with ⟨-, hnew⟩ | ⟨t, u, ht, htlen, hu, hulen, hnew⟩
  · rw [hnew]
    have hsame : SameFiles m (putOldTimestamp m size timestamp) size partitionA name :=
      sameFiles_of_agree rfl (fun i _ hi => putOldTimestamp_outside (by omega)) name
    exact ⟨hsame, fun _ limit hlimit h => h.transfer hsame fun i _ hi =>
      putOldTimestamp_outside (by omega)⟩
  · rw [hnew]
    have hton : OnChain m size partitionA t := (onChain_window rfl).mp ht.onChain
    have huon : OnChain (putTimestamp m (t.offset + 24) timestamp) size partitionA u :=
      (onChain_putTimestamp hton htlen).mpr hu.onChain
    have htname := (sectionMatches_iff.mp ht.hit).2.2.2
    have humatch : sectionMatches (putTimestamp m (t.offset + 24) timestamp) partitionA updatetime
        u = true :=
      (matches_putTimestamp hton htlen rfl hu.onChain partitionA updatetime).trans hu.hit
    have huname := (sectionMatches_iff.mp humatch).2.2.2
    refine ⟨(sameFiles_putTimestamp hton htlen rfl rfl name).trans
      (sameFiles_putTimestamp huon hulen rfl rfl name), fun content limit _ h => ?_⟩
    exact fileBelow_putTimestamp rfl huon hulen huname hname.ne_updatetime
      (fileBelow_putTimestamp rfl hton htlen htname hname.ne_updatetime h)

/-- **Nothing in partition B is written** when no section runs into it. -/
theorem setTimestamp_partitionB (hinside : SectionsInside m size)
    (hok : (eepromSetTimestamp m size timestamp).1 = .success)
    (hi : eepromPartitionBStart ≤ i) (hi' : i < size - 8) :
    (eepromSetTimestamp m size timestamp).2 i = m i := by
  rcases setTimestamp_success hok with ⟨-, hnew⟩ | ⟨t, u, ht, htlen, hu, hulen, hnew⟩
  · rw [hnew]
    exact putOldTimestamp_outside hi'
  · rw [hnew]
    have htwin : t.offset < eepromReadOnlySize := (sectionMatches_iff.mp ht.hit).2.2.1
    have huwin : u.offset < eepromPartitionBStart := (sectionMatches_iff.mp hu.hit).2.2.1
    have hro : eepromReadOnlySize ≤ eepromPartitionBStart := by decide
    have htend := hinside t ((onChain_window rfl).mp ht.onChain) (by omega)
    have huend := hinside u hu.onChain huwin
    rw [putTimestamp_outside (by omega), putTimestamp_outside (by omega)]

/-! ## The whole run -/

/-- What partition B's stage and the timestamp leave of partition A's files. -/
theorem partitionA_kept (hA : partitionA.Fits size) (hB : partitionB.Fits size)
    (hname : IsConfigFile name) {warnings : List (String × EfiStatus)}
    (hstage : patchPartitionB imageA size config timestamp = (m, warnings))
    (hok : (eepromSetTimestamp m size timestamp).1 = .success) :
    SameFiles imageA (eepromSetTimestamp m size timestamp).2 size partitionA name ∧
      ∀ content, FileBelow imageA size partitionA name content eepromPartitionBStart →
        FileBelow (eepromSetTimestamp m size timestamp).2 size partitionA name content
          eepromPartitionBStart := by
  obtain ⟨es, hrun⟩ := patchPartitionB_run imageA size config timestamp
  rw [hstage] at hrun
  have hsame := replaceRunB_sameFiles hB (show partitionA.walkStart = 0 from rfl) (Nat.le_refl _)
    hname.head_ne hrun
  have hset := setTimestamp_partitionA hA hname hok
  have hlimit : eepromPartitionBStart + 8 ≤ size := by
    have hfits := hA.scratch
    have hend : partitionA.winEnd = eepromPartitionBStart := rfl
    have herase : eepromEraseAlign = 4096 := rfl
    omega
  exact ⟨hsame.trans hset.1, fun content h => hset.2 content _ hlimit (h.transfer hsame
    fun i _ hi => replaceRunB_low hB (by omega) hrun)⟩

/-- Partition B's stage moves no section into partition B. -/
theorem sectionsInside_patchPartitionB (hB : partitionB.Fits size)
    (h : SectionsInside imageA size) {warnings : List (String × EfiStatus)}
    (hstage : patchPartitionB imageA size config timestamp = (m, warnings)) :
    SectionsInside m size := by
  obtain ⟨es, hrun⟩ := patchPartitionB_run imageA size config timestamp
  rw [hstage] at hrun
  intro t ht hlt
  refine h t ((onChain_iff_of_heads rfl (fun x _ hx hmod => ?_) hlt).mp ht) hlt
  have hB' : eepromPartitionBStart % 8 = 0 := by decide
  exact sectionHead_congr fun i _ hi => replaceRunB_low hB (by omega) hrun

/-- One text for both partitions: `m` is the buffer `EepromSetTimestamp` gets, `result` what it
leaves. Chains that cannot be walked are left out. -/
structure PatchConsistent (image m result : Mem) (size : Nat)
    (warnings : List (String × EfiStatus)) (config : List UInt8) (timestamp : UInt32) : Prop where
  textA : Walkable result size partitionA → Holds result size partitionA bootconfTxt config
  digestA : Walkable result size partitionA → HoldsDigest result size partitionA config timestamp
  textB : (eepromFindFileIn image size partitionB bootconfTxt).isSome = true →
    (∀ status, (configWarning, status) ∉ warnings) → Walkable result size partitionB →
    Holds result size partitionB bootconfTxt config
  digestB : (eepromFindFileIn image size partitionB bootconfTxt).isSome = true →
    warnings = [] → Walkable m size partitionB → Walkable result size partitionB →
    HoldsDigest result size partitionB config timestamp
  keptB : ∀ status, (configWarning, status) ∈ warnings →
    ∀ i, eepromPartitionBStart ≤ i → i < eepromPartitionBEnd → result i = image i

theorem patch_consistent (hA : partitionA.Fits size) (hB : partitionB.Fits size)
    (hv : values.Canonical) (hapart : PartitionsApart image size)
    (hok : (patchImage image size values timestamp poolFull).status = .success) :
    ∃ config m, newConfigText image size values = some config ∧
      blValuesFromText config = values ∧
      patchConfigs image size values timestamp poolFull =
        .ok (m, (patchImage image size values timestamp poolFull).warnings) ∧
      PatchConsistent image m (patchImage image size values timestamp poolFull).image size
        (patchImage image size values timestamp poolFull).warnings config timestamp := by
  obtain ⟨config, imageA, hpatched, hcfg, hset, hresult, hwarn⟩ := patchImage_success hok
  obtain ⟨htxt, hsig, hapart', houtside⟩ := configAt_partitionA hA hapart hpatched
  obtain ⟨loc, -, hbuild⟩ := hpatched.built
  cases hstage : patchPartitionB imageA size config timestamp with
  | mk m warnings =>
  rw [hstage] at hcfg hset hresult hwarn
  simp only at hset hresult hwarn
  obtain ⟨htxtB, hsigB, hkeptB⟩ := configAt_partitionB hB hstage
  have hscratch : partitionB.winEnd + eepromEraseAlign ≤ size := hB.scratch
  have hend : partitionB.winEnd = eepromPartitionBEnd := rfl
  have herase : eepromEraseAlign = 4096 := rfl
  -- the stage looks its config up in a partition that is still the input's
  have hfind : eepromFindFileIn imageA size partitionB bootconfTxt =
      eepromFindFileIn image size partitionB bootconfTxt :=
    find_congr_from houtside bootconfTxt
  have hinside := sectionsInside_patchPartitionB hB hapart'.inside hstage
  have hbytes : ∀ i, eepromPartitionBStart ≤ i → i < size - 8 →
      (eepromSetTimestamp m size timestamp).2 i = m i :=
    fun i hi hi' => setTimestamp_partitionB hinside hset hi hi'
  have hsame : ∀ name, SameFiles m (eepromSetTimestamp m size timestamp).2 size partitionB name :=
    fun name => sameFiles_of_agree rfl (fun i hi hi' => hbytes i hi (by omega)) name
  refine ⟨config, m, hpatched.newConfigText, blValuesFromText_of_build hv hbuild,
    by rw [hcfg, hwarn], ?_⟩
  rw [hwarn, hresult]
  refine ⟨fun hwalk => ?_, fun hwalk => ?_, fun hsome hquiet hwalk => ?_,
    fun hsome hquiet hm hwalk => ?_, fun status hmem i hi hi' => ?_⟩
  · exact ((partitionA_kept hA hB (Or.inl rfl) hstage hset).2 config htxt).holds hwalk
  · have hkept := partitionA_kept hA hB (Or.inr rfl) hstage hset
    have hdigest : DigestBelow (eepromSetTimestamp m size timestamp).2 size partitionA config
        timestamp eepromPartitionBStart :=
      hsig.imp (hkept.2 _) hkept.1.noMatch
    exact hdigest.holds hwalk
  · rw [← hfind] at hsome
    exact ((htxtB hsome hquiet).transfer (hsame _) hbytes).holds hwalk
  · rw [← hfind] at hsome
    exact ((hsigB hsome hquiet hm).transfer (hsame _) hbytes).holds hwalk
  · rw [hbytes i hi (by omega), hkeptB status hmem]
    exact houtside i hi

/-- A config in both partitions. -/
def twoConfigImage : Mem :=
  putFile (putFile (putSection erasedImage 0 eepromSectionMagic 0xfff8) 0x10000 bootconfTxt
    (ascii "A=1\n")) 0x107000 bootconfTxt (ascii "A=1\n")

/-- The defaults with `BOOT_UART=1`. -/
def uartValues : BlcfgValues := { setDefaults with bootUart := 1 }

theorem uartValues_canonical : uartValues.Canonical :=
  ⟨⟨ascii "f41", by decide +kernel⟩, by decide, by decide, by decide, by decide⟩

end Rpi5Uefi
