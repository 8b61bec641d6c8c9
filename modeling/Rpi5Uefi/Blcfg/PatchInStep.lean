import Rpi5Uefi.Blcfg.PatchConsistent
import Rpi5Uefi.Blcfg.PatchKept

/-!
# Config and digest in step, by the input

What `PatchConsistent` says of the chains that can be walked in the end holds of both partitions
where the input has room for the replacements and each of them lets its chains go on.

* **`ConfigsKept`**: that condition, on the image, the values and the timestamp.
* **`isDigestOf_configSig`**: the file `SyncConfigDigest` writes is the lowercase digest the tool
  writes exactly where the digest has no letters: `AsciiSPrint` prints `%02x` in upper case.
* **`patchImage_inStep_iff`**: under the condition, config and digest agree in both partitions if
  and only if there is no digest to renew, or one without letters.
-/

namespace Rpi5Uefi

open Bytes Chain Transition

variable {image image' imageA m : Mem} {size : Nat} {w : EepromWindow} {name : CString}
  {values : BlcfgValues} {timestamp : UInt32} {poolFull : Bool} {config data : List UInt8}
  {warnings : List (String × EfiStatus)}

/-! ## The digest -/

/-- A digit of the tool's hexadecimal numbers. -/
def lowerHexDigit (d : Nat) : UInt8 := UInt8.ofNat (if d < 10 then 0x30 + d else 0x57 + d)

/-- A byte as the tool prints it. -/
def lowerHexByte (b : UInt8) : List UInt8 :=
  [lowerHexDigit (b.toNat / 16), lowerHexDigit (b.toNat % 16)]

/-- The lowercase hex digest of a config, then the `ts` line, each ended by LF or by CR LF. -/
def IsDigestOf (content config : List UInt8) (timestamp : UInt32) : Prop :=
  ∃ eol, (eol = [chLf] ∨ eol = [chCr, chLf]) ∧
    content = (blSha256 config).flatMap lowerHexByte ++ eol ++ ascii "ts: " ++
      decimalText timestamp ++ eol

/-- Neither hex digit of the byte is a letter. -/
def DecimalByte (b : UInt8) : Prop := b.toNat / 16 < 10 ∧ b.toNat % 16 < 10

theorem printHexDigit_eq_lower {d : Nat} (hd : d < 16) :
    printHexDigit d = lowerHexDigit d ↔ d < 10 := by
  have hall : ∀ d < 16, printHexDigit d = lowerHexDigit d ↔ d < 10 := by decide
  exact hall d hd

theorem hexByte_eq_lower (b : UInt8) : hexByte b = lowerHexByte b ↔ DecimalByte b := by
  have hlt := b.toNat_lt
  have hhex : hexByte b = [printHexDigit (b.toNat / 16), printHexDigit (b.toNat % 16)] := by
    show [printHexDigit (b.toNat / 16 % 16), printHexDigit (b.toNat / 1 % 16)] = _
    rw [Nat.mod_eq_of_lt (by omega : b.toNat / 16 < 16), Nat.div_one]
  rw [hhex]
  unfold lowerHexByte DecimalByte
  rw [List.cons_eq_cons, List.cons_eq_cons, and_iff_left rfl, printHexDigit_eq_lower (by omega),
    printHexDigit_eq_lower (by omega)]

theorem hexBytes_eq_lower (bytes : List UInt8) :
    bytes.flatMap hexByte = bytes.flatMap lowerHexByte ↔ ∀ b ∈ bytes, DecimalByte b := by
  induction bytes with
  | nil => simp
  | cons b bytes ih =>
    rw [List.flatMap_cons, List.flatMap_cons, List.forall_mem_cons, ← ih, ← hexByte_eq_lower]
    exact ⟨fun h => List.append_inj h rfl, fun h => by rw [h.1, h.2]⟩

theorem length_hexBytes (bytes : List UInt8) :
    (bytes.flatMap hexByte).length = (bytes.flatMap lowerHexByte).length := by
  induction bytes with
  | nil => rfl
  | cons b bytes ih =>
    rw [List.flatMap_cons, List.flatMap_cons, List.length_append, List.length_append, ih]
    rfl

/-- **What `SyncConfigDigest` writes** is the tool's digest where that has no letters. -/
theorem isDigestOf_configSig (config : List UInt8) (timestamp : UInt32) :
    IsDigestOf (configSig config timestamp) config timestamp ↔
      ∀ b ∈ blSha256 config, DecimalByte b := by
  rw [← hexBytes_eq_lower]
  constructor
  · rintro ⟨eol, -, h⟩
    unfold configSig digestLine at h
    simp only [List.append_assoc] at h
    exact (List.append_inj h (length_hexBytes _)).1
  · intro h
    refine ⟨printedEol, Or.inr rfl, ?_⟩
    unfold configSig digestLine
    rw [h]

/-! ## The condition on the input -/

/-- A replacement that fits where it is in partition B, whose failures are logged only, and that
leaves its chain, and the one walked from 0, such that they can be walked. -/
structure KeepsConfigs (size : Nat) (image : Mem) (e : Replacement) : Prop where
  fits : e.partition = .b → ∀ loc,
    eepromFindFileIn image size e.partition.window e.name = some loc → ContentFits size loc e.data
  own : ChainKept image size e.partition.window e.name e.data
  fromStart : ChainKept image size e.partition.fromStart e.name e.data

/-- The partitions and the scratch sector do not overlap, the new config fits in partition B, and
every replacement keeps the chains. -/
def ConfigsKept (image : Mem) (size : Nat) (values : BlcfgValues) (timestamp : UInt32) : Prop :=
  PartitionsApart image size ∧ ScratchApart image size ∧
    ∀ config, newConfigText image size values = some config →
      (∀ loc, eepromFindFileIn image size partitionB bootconfTxt = some loc →
        ContentFits size loc config) ∧
      MetThrough (replaceIn size) (KeepsConfigs size) image
        (replacements image size config timestamp)

/-! ## The files that are there -/

/-- A walkable chain has a file of a name where a section carries it. -/
theorem find_isSome_iff (hw : Walkable image size w) :
    (eepromFindFileIn image size w name).isSome = true ↔ ¬NoMatch image size w name := by
  rw [Option.isSome_iff_ne_none]
  refine not_congr ⟨noMatch_of_find_none hw, find_none_of_noMatch⟩

theorem walkable_congr_from (h : ∀ i, w.walkStart ≤ i → image' i = image i) :
    Walkable image' size w ↔ Walkable image size w := by
  have hasc := sectionHead_ascending image size
  unfold Walkable
  rw [walkSections_congr fun x hx => sectionHead_congr fun i hi _ => h i ?_]
  have hle := hx.le hasc
  omega

/-! ## One replacement -/

/-- What the replacements of a run keep of the image they start from. -/
structure StaysInStep (image m : Mem) (size : Nat) : Prop where
  apart : PartitionsApart m size
  scratch : ScratchApart m size
  start : Walkable m size readOnlyWindow
  walkB : Walkable image size partitionB → Walkable m size partitionB
  sigA : NoMatch m size partitionA bootconfSig ↔ NoMatch image size partitionA bootconfSig
  sigB : NoMatch m size partitionB bootconfSig ↔ NoMatch image size partitionB bootconfSig

theorem noMatch_replace (hw : w.Fits size) (image : Mem) (name' : CString)
    (hname : name.bytes.getD 0 0 ≠ 0x55) :
    NoMatch (eepromReplaceFileIn image size w name' data).2 size w name ↔
      NoMatch image size w name := by
  rcases eepromReplaceFileIn_cases hw image name' data with
    ⟨status, -, hcall⟩ | ⟨pre, s, rest, hr, -, hcall⟩
  · rw [hcall]
  · rw [hcall]
    exact hr.noMatch_iff hname

theorem ScratchApart.replace (hB : partitionB.Fits size) (h : ScratchApart image size)
    (name : CString) (data : List UInt8) :
    ScratchApart (eepromReplaceFileIn image size partitionB name data).2 size := by
  rcases eepromReplaceFileIn_cases hB image name data with
    ⟨status, -, hcall⟩ | ⟨pre, s, rest, hr, -, hcall⟩
  · exact hcall ▸ h
  · exact hcall ▸ h.replaced hr

theorem StaysInStep.replace (hA : partitionA.Fits size) (hB : partitionB.Fits size)
    {e : Replacement} (h : StaysInStep image m size) (hkeeps : KeepsConfigs size m e) :
    StaysInStep image (replaceIn size m e) size := by
  have hapart := h.apart.replace hA hB e.partition e.name e.data
  obtain ⟨p, name, data⟩ := e
  cases p with
  | a =>
    have hhigh : ∀ i, eepromPartitionBStart ≤ i →
        (eepromReplaceFileIn m size partitionA name data).2 i = m i :=
      fun i hi => h.apart.outside_replace hA name data hi
    exact ⟨hapart, h.scratch.of_high hhigh,
      (walkable_replace hA m name data).mpr ⟨h.start, hkeeps.own⟩,
      fun hwalk => (walkable_congr_from (w := partitionB) hhigh).mpr (h.walkB hwalk),
      (noMatch_replace hA m name (by decide)).trans h.sigA,
      (sameFiles_of_agree (w := partitionB) (by decide) (fun i hi _ => hhigh i hi)
        bootconfSig).noMatch_iff.trans h.sigB⟩
  | b =>
    have hsame : SameFiles m (eepromReplaceFileIn m size partitionB name data).2 size partitionA
        bootconfSig :=
      replaceStepB_sameFiles (e := (name, data)) hB rfl (Nat.le_refl _) (by decide) rfl
    exact ⟨hapart, h.scratch.replace hB name data,
      walkable_replace_start hB h.apart.inside h.start hkeeps.fromStart,
      fun hwalk => (walkable_replace hB m name data).mpr ⟨h.walkB hwalk, hkeeps.own⟩,
      hsame.noMatch_iff.trans h.sigA, (noMatch_replace hB m name (by decide)).trans h.sigB⟩

/-! ## Partition B's stage -/

/-- **Nothing is logged** where both replacements fit. -/
theorem patchPartitionB_quiet (hB : partitionB.Fits size)
    (htxt : ∀ loc, eepromFindFileIn imageA size partitionB bootconfTxt = some loc →
      ContentFits size loc config)
    (hkept : MetThrough (replaceIn size) (KeepsConfigs size) imageA
      (stageReplacements imageA size .b config timestamp)) :
    (patchPartitionB imageA size config timestamp).2 = [] := by
  cases hfind : eepromFindFileIn imageA size partitionB bootconfTxt with
  | none =>
    unfold patchPartitionB
    rw [hfind]
  | some loc =>
  rcases patchPartitionB_cases hB imageA config timestamp with
    ⟨-, hcall⟩ | ⟨status, hfail, hcall⟩ | ⟨pre, s, rest, hr, hcase⟩
  · rw [hcall]
  · exact absurd (htxt loc hfind) (hfail.not_fits hB hfind)
  rcases hcase with ⟨-, hcall⟩ | ⟨status, hsome, hfail, hcall⟩ | ⟨pre', s', rest', hr', hcall⟩
  · rw [hcall]
  · -- a digest that is found now was there before, so its replacement is one of the list
    obtain ⟨loc, hloc⟩ := Option.isSome_iff_exists.mp hsome
    have hwalk := (firstMatch_of_find hloc).1
    have hmatch := (find_isSome_iff hwalk).mp hsome
    rw [hr.noMatch_iff (by decide)] at hmatch
    have hsome' : (eepromFindFileIn imageA size EepromPartition.b.window bootconfSig).isSome =
        true := (find_isSome_iff hr.walkable).mpr hmatch
    rw [stageReplacements_of_replacing (p := .b) hr, if_pos hsome'] at hkept
    have himage : replaceIn size imageA ⟨.b, bootconfTxt, config⟩ =
        replaced imageA size partitionB config s rest :=
      congrArg Prod.snd (eepromReplaceFileIn_of_replacing hr).2
    have hfits := hkept.2.1.fits rfl loc
    rw [himage] at hfits
    exact absurd (hfits hloc) (hfail.not_fits hB hloc)
  · rw [hcall]

/-! ## The timestamp -/

/-- A chain that stays in front of the last eight bytes is as before when only those change. -/
theorem walkable_of_front (hfront : ∀ x, Reaches (sectionHead m size) w.walkStart x → x + 16 ≤ size)
    (hsame : ∀ i, w.walkStart ≤ i → i + 8 < size → image' i = m i) :
    Walkable image' size w ↔ Walkable m size w := by
  have hasc := sectionHead_ascending m size
  unfold Walkable
  rw [walkSections_congr fun x hx => sectionHead_congr fun i hi hi' => hsame i ?_ ?_]
  · have hle := hx.le hasc
    omega
  · have hlast := hfront x hx
    omega

/-- **The timestamp keeps both chains.** -/
theorem StaysInStep.setTimestamp (hB : partitionB.Fits size) (h : StaysInStep image m size)
    (hok : (eepromSetTimestamp m size timestamp).1 = .success) :
    Walkable (eepromSetTimestamp m size timestamp).2 size partitionA ∧
      (Walkable m size partitionB →
        Walkable (eepromSetTimestamp m size timestamp).2 size partitionB) := by
  have hscratch : partitionB.winEnd + eepromEraseAlign ≤ size := hB.scratch
  have hend : partitionB.winEnd = eepromPartitionBEnd := rfl
  have herase : eepromEraseAlign = 4096 := rfl
  have hfrontB : ∀ x, Reaches (sectionHead m size) eepromPartitionBStart x → x + 16 ≤ size := by
    intro x hx
    have hle := h.scratch.reaches_le hx
    omega
  constructor
  · rcases setTimestamp_success hok with ⟨-, hnew⟩ | ⟨t, u, ht, htlen, hu, hulen, hnew⟩
    · rw [hnew]
      refine (walkable_of_front (fun x hx => ?_) fun i _ hi =>
        putOldTimestamp_outside (by omega)).mpr h.start
      by_cases hlow : x < eepromPartitionBStart
      · have hstart : eepromPartitionBStart ≤ eepromPartitionBEnd := by decide
        omega
      · -- the chain gets behind the start of partition B through it
        have hthrough := h.apart.inside.reaches (Reaches.refl _ _) (Nat.zero_le _) hx (by omega)
        exact hfrontB x ((hthrough.through (sectionHead_ascending m size) (by omega)).mp hx)
    · rw [hnew]
      have hton : OnChain m size partitionA t := (onChain_window rfl).mp ht.onChain
      have huon : OnChain (putTimestamp m (t.offset + 24) timestamp) size partitionA u :=
        (onChain_putTimestamp hton htlen).mpr hu.onChain
      unfold Walkable
      rw [walkSections_putTimestamp huon hulen, walkSections_putTimestamp hton htlen]
      exact h.start
  · refine (walkable_of_front (w := partitionB) hfrontB fun i hi hi' => ?_).mpr
    exact setTimestamp_partitionB h.apart.inside hok hi (by omega)

/-! ## The whole run -/

/-- A partition has a config with the values, and the digest of that config where it has one. -/
def PartitionAgrees (result : Mem) (size : Nat) (w : EepromWindow) (values : BlcfgValues)
    (timestamp : UInt32) : Prop :=
  ∃ config, blValuesFromText config = values ∧ Holds result size w bootconfTxt config ∧
    ∀ loc, eepromFindFileIn result size w bootconfSig = some loc →
      IsDigestOf (fileContent result loc) config timestamp

/-- Partition A agrees, and so does partition B where the input has a config there. -/
structure ConfigsAgree (image result : Mem) (size : Nat) (values : BlcfgValues)
    (timestamp : UInt32) : Prop where
  partitionA : PartitionAgrees result size partitionA values timestamp
  partitionB : (eepromFindFileIn image size partitionB bootconfTxt).isSome = true →
    PartitionAgrees result size partitionB values timestamp

/-- There is a digest to renew, in partition A or next to a config in partition B. -/
def HasDigest (image : Mem) (size : Nat) : Prop :=
  (eepromFindFileIn image size partitionA bootconfSig).isSome = true ∨
    (eepromFindFileIn image size partitionB bootconfTxt).isSome = true ∧
      (eepromFindFileIn image size partitionB bootconfSig).isSome = true

/-- One partition, by the digest it had before. -/
theorem partitionAgrees_iff {result : Mem} {present : Prop} (hvalues : blValuesFromText config =
    values) (htxt : Holds result size w bootconfTxt config)
    (hdigest : HoldsDigest result size w config timestamp)
    (hpresent : (eepromFindFileIn result size w bootconfSig).isSome = true ↔ present) :
    PartitionAgrees result size w values timestamp ↔
      (present → ∀ b ∈ blSha256 config, DecimalByte b) := by
  rw [← isDigestOf_configSig config timestamp, ← hpresent]
  constructor
  · rintro ⟨config', -, htxt', hsig⟩ hsome
    obtain ⟨loc, hloc⟩ := Option.isSome_iff_exists.mp hsome
    obtain ⟨locT, hlocT, hcontent⟩ := htxt
    obtain ⟨locT', hlocT', hcontent'⟩ := htxt'
    rw [hlocT] at hlocT'
    cases hlocT'
    rw [← hdigest loc hloc]
    have hsame : config' = config := hcontent'.symm.trans hcontent
    rw [← hsame]
    exact hsig loc hloc
  · intro h
    refine ⟨config, hvalues, htxt, fun loc hloc => ?_⟩
    rw [hdigest loc hloc]
    exact h (by rw [hloc]; rfl)

theorem StaysInStep.run (hA : partitionA.Fits size) (hB : partitionB.Fits size)
    {es : List Replacement} (h : StaysInStep image m size)
    (hmet : MetThrough (replaceIn size) (KeepsConfigs size) m es) :
    StaysInStep image (es.foldl (replaceIn size) m) size :=
  hmet.inv (I := fun m => StaysInStep image m size)
    (fun _ _ _ h hkeeps => h.replace hA hB hkeeps) h

/-- **What the condition gives** in front of the timestamp. -/
theorem staysInStep_of_kept (hA : partitionA.Fits size) (hB : partitionB.Fits size)
    (hkept : ConfigsKept image size values timestamp)
    (hpatched : PatchedA image size values timestamp config imageA) :
    (patchPartitionB imageA size config timestamp).2 = [] ∧
      StaysInStep image (patchPartitionB imageA size config timestamp).1 size := by
  obtain ⟨hapart, hscratch, hconfigs⟩ := hkept
  obtain ⟨htxt, hmet⟩ := hconfigs config hpatched.newConfigText
  obtain ⟨loc, hloc, -⟩ := hpatched.built
  have hstart : StaysInStep image image size :=
    ⟨hapart, hscratch, (firstMatch_of_find hloc).1, id, Iff.rfl, Iff.rfl⟩
  unfold replacements at hmet
  rw [metThrough_append, hpatched.replacements hA, ← hpatched.stage_b hA hB hapart] at hmet
  have hstayA := hstart.run hA hB hmet.1
  rw [hpatched.replacements hA] at hstayA
  refine ⟨patchPartitionB_quiet hB (fun loc hloc => htxt loc ?_) hmet.2, ?_⟩
  · rw [← hloc]
    exact (find_congr_from (w := partitionB)
      (fun i hi => hpatched.outside hA hB hapart hi) bootconfTxt).symm
  · rw [patchPartitionB_replacements hB]
    exact hstayA.run hA hB hmet.2

/-- **Config and digest agree** after a successful run that keeps the chains exactly where no digest
with letters is renewed. -/
theorem configs_inStep_iff (hA : partitionA.Fits size) (hB : partitionB.Fits size)
    (hv : values.Canonical) (hkept : ConfigsKept image size values timestamp)
    (hok : (patchImage image size values timestamp poolFull).status = .success) :
    ConfigsAgree image (patchImage image size values timestamp poolFull).image size values
        timestamp ↔
      ∀ config, newConfigText image size values = some config → HasDigest image size →
        ∀ b ∈ blSha256 config, DecimalByte b := by
  obtain ⟨config, m, hconfig, hvalues, hcfg, hcons⟩ := patch_consistent hA hB hv hkept.1 hok
  obtain ⟨config', imageA, hpatched, hcfg', hset, hresult, hwarn⟩ := patchImage_success hok
  obtain ⟨loc, hloc, -⟩ := hpatched.built
  have hwalkA : Walkable image size partitionA := (firstMatch_of_find hloc).1
  have hsame : config' = config :=
    Option.some.inj (hpatched.newConfigText.symm.trans hconfig)
  subst hsame
  obtain ⟨hquiet, hstay⟩ := staysInStep_of_kept hA hB hkept hpatched
  have hm : (patchPartitionB imageA size config' timestamp).1 = m :=
    congrArg Prod.fst (Except.ok.inj (hcfg'.symm.trans hcfg))
  rw [hm] at hstay hset hresult
  rw [hwarn, hquiet, hresult] at hcons
  rw [hresult]
  obtain ⟨hresA, hresB⟩ := hstay.setTimestamp hB hset
  have hpartA : PartitionAgrees (eepromSetTimestamp m size timestamp).2 size partitionA values
      timestamp ↔ ((eepromFindFileIn image size partitionA bootconfSig).isSome = true →
        ∀ b ∈ blSha256 config', DecimalByte b) := by
    refine partitionAgrees_iff hvalues (hcons.textA hresA) (hcons.digestA hresA) ?_
    rw [find_isSome_iff hresA, find_isSome_iff hwalkA, ← hstay.sigA,
      (setTimestamp_partitionA hA (Or.inr rfl) hset).1.noMatch_iff]
  have hpartB (hsome : (eepromFindFileIn image size partitionB bootconfTxt).isSome = true) :
      PartitionAgrees (eepromSetTimestamp m size timestamp).2 size partitionB values timestamp ↔
        ((eepromFindFileIn image size partitionB bootconfSig).isSome = true →
          ∀ b ∈ blSha256 config', DecimalByte b) := by
    obtain ⟨locB, hlocB⟩ := Option.isSome_iff_exists.mp hsome
    have hwalkB : Walkable image size partitionB := (firstMatch_of_find hlocB).1
    have hmB := hstay.walkB hwalkB
    have hsigB : SameFiles m (eepromSetTimestamp m size timestamp).2 size partitionB
        bootconfSig := by
      refine sameFiles_of_agree rfl (fun i hi hi' => ?_) bootconfSig
      have hfits : partitionB.winEnd + eepromEraseAlign ≤ size := hB.scratch
      have hend : partitionB.winEnd = eepromPartitionBEnd := rfl
      have herase : eepromEraseAlign = 4096 := rfl
      exact setTimestamp_partitionB hstay.apart.inside hset hi (by omega)
    refine partitionAgrees_iff hvalues (hcons.textB hsome nofun (hresB hmB))
      (hcons.digestB hsome rfl hmB (hresB hmB)) ?_
    rw [find_isSome_iff (hresB hmB), find_isSome_iff hwalkB, ← hstay.sigB, hsigB.noMatch_iff]
  constructor
  · rintro ⟨hagreeA, hagreeB⟩ config hconfig' hdigest
    have hsame : config = config' := Option.some.inj (hconfig'.symm.trans hconfig)
    rw [hsame]
    rcases hdigest with hsig | ⟨hsome, hsig⟩
    · exact hpartA.mp hagreeA hsig
    · exact (hpartB hsome).mp (hagreeB hsome) hsig
  · intro h
    exact ⟨hpartA.mpr fun hsig => h config' hconfig (Or.inl hsig),
      fun hsome => (hpartB hsome).mpr fun hsig => h config' hconfig (Or.inr ⟨hsome, hsig⟩)⟩

/-- The text of `uartValues` for `twoConfigImage`. -/
def uartConfig : List UInt8 := ascii "A=1\nBOOT_UART=1\n"

/-- The two replacements in `twoConfigImage` keep what they have to. -/
theorem twoConfigImage_kept : ConfigsKept twoConfigImage eepromImageSize2712 uartValues 7 := by
  have hwalk : walkSections twoConfigImage eepromImageSize2712 0 eepromMaxSections =
      some [⟨eepromSectionMagic, 0, 0xfff8⟩, ⟨eepromFileMagic, 0x10000, 20⟩] := by
    decide +kernel
  have hwalkB : walkSections twoConfigImage eepromImageSize2712 eepromPartitionBStart
      eepromMaxSections = some [⟨eepromFileMagic, 0x107000, 20⟩] := by
    decide +kernel
  have hfree : sectionHead twoConfigImage eepromImageSize2712 eepromPartitionBEnd = .stop := by
    decide +kernel
  have hnew : newConfigText twoConfigImage eepromImageSize2712 uartValues = some uartConfig := by
    decide +kernel
  refine ⟨⟨sectionsInside_of_walk hwalk (by decide), by decide +kernel⟩,
    ⟨fun t ht _ => ?_, fun t n h => by rw [hfree] at h; cases h⟩, fun config hconfig => ?_⟩
  · have hmem := mem_walk_of_onChain (w := partitionB) hwalkB ht
    rw [List.mem_singleton] at hmem
    rw [hmem]
    decide
  obtain rfl : uartConfig = config := Option.some.inj (hnew.symm.trans hconfig)
  have hfindA : eepromFindFileIn twoConfigImage eepromImageSize2712 EepromPartition.a.window
      bootconfTxt = some ⟨0x10000, 0x10018, 4, 0x107000, true⟩ := by
    decide +kernel
  have hfindB : eepromFindFileIn twoConfigImage eepromImageSize2712 EepromPartition.b.window
      bootconfTxt = some ⟨0x107000, 0x107018, 4, 0x1fe000, true⟩ := by
    decide +kernel
  have hfits : ContentFits eepromImageSize2712 ⟨0x107000, 0x107018, 4, 0x1fe000, true⟩
      uartConfig := by
    decide +kernel
  have hsigA : eepromFindFileIn twoConfigImage eepromImageSize2712 EepromPartition.a.window
      bootconfSig = none := by
    decide +kernel
  have hsigB : eepromFindFileIn twoConfigImage eepromImageSize2712 EepromPartition.b.window
      bootconfSig = none := by
    decide +kernel
  have hlist : replacements twoConfigImage eepromImageSize2712 uartConfig 7 =
      [⟨.a, bootconfTxt, uartConfig⟩, ⟨.b, bootconfTxt, uartConfig⟩] := by
    unfold replacements stageReplacements
    rw [hfindA, hfindB, hsigA, hsigB]
    simp only
    rw [if_pos (by decide +kernel), if_pos hfits]
    rfl
  refine ⟨fun loc hloc => ?_, ?_⟩
  · cases hfindB.symm.trans hloc
    exact hfits
  rw [hlist]
  -- partition B is the same after the first of them, and not on the chain walked from 0
  have hfindB' : eepromFindFileIn (replaceIn eepromImageSize2712 twoConfigImage
      ⟨.a, bootconfTxt, uartConfig⟩) eepromImageSize2712 EepromPartition.b.window bootconfTxt =
        some ⟨0x107000, 0x107018, 4, 0x1fe000, true⟩ := by
    decide +kernel
  have hnone : eepromFindFileIn (replaceIn eepromImageSize2712 twoConfigImage
      ⟨.a, bootconfTxt, uartConfig⟩) eepromImageSize2712 EepromPartition.b.fromStart
        bootconfTxt = none := by
    decide +kernel
  refine ⟨⟨nofun, chainKept_of_last hfindA rfl (by decide),
    chainKept_of_last hfindA rfl (by decide)⟩, ⟨fun _ loc hloc => ?_,
    chainKept_of_last hfindB' rfl (by decide), fun loc hloc => ?_⟩, trivial⟩
  · cases hfindB'.symm.trans hloc
    exact hfits
  · cases hnone.symm.trans hloc

/-- The digest of `A=1`, as the tool writes it. -/
def oldSig : List UInt8 :=
  ascii "91d6a3d55e9fea7911c537afae6607c77fa8bc0f3a76c375e104ac5a8cfa84db\nts: 1\n"

/-- The digest in front of the config, with room for the new one. -/
def digestImage : Mem :=
  putFile (putSection (putFile (putSection erasedImage 0 eepromSectionMagic 0xfff8) 0x10000
    bootconfSig oldSig) 0x10060 eepromPadMagic 0x98) 0x10100 bootconfTxt (ascii "A=1\n")

end Rpi5Uefi
