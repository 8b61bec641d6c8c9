import Rpi5Uefi.Blcfg.Delimited
import Rpi5Uefi.Blcfg.PatchConsistent
import Rpi5Uefi.Blcfg.StagedFiles

/-!
# An applied update is recognised

On the boot after an update the bootloader hands over `bootconf.txt` of the patched image. The
driver reads its values from the delimited text and compares them with the staged ones.

* **`patchPartitionB_header`**: partition B's stage writes nothing, or there is a section at the
  start of the partition before and after it. The length of a section of a 2 MiB image has a zero in
  front, so a config text of partition A that runs that far ends there for the reader.
* **`delimited_patched`**: so the reader gets the same text from the patched image as from the text
  that was built, even where the later stages wrote into it.
* **`appliedUpdate_iff`**: the staged values are recognised exactly when the text reads back, and
  then the staged files are deleted.
-/

namespace Rpi5Uefi

open Bytes Chain Lines

variable {image imageA m : Mem} {size : Nat} {w : EepromWindow} {name : CString}
  {values : BlcfgValues} {timestamp : UInt32} {poolFull : Bool} {config data : List UInt8}
  {s t r : EepromSection} {pre rest : List EepromSection} {o n : Nat}

/-! ## The header of partition B -/

/-- A section of an image of at most 16 MiB: the first byte of its magic is fixed and the first byte
of its length is zero. -/
theorem record_bytes (hsize : size ≤ 2 ^ 24) (h : sectionHead image size o = .record r n) :
    image o = 0x55 ∧ image (o + 4) = 0 := by
  obtain ⟨-, hmagic, hlength, ⟨-, -, hmask⟩, hfit, -⟩ := sectionHead_eq_record_iff.mp h
  constructor
  · have hshift := congrArg (· >>> 24) hmask
    simp only [Nat.shiftRight_and_distrib] at hshift
    rw [← hmagic, show eepromSectionMagicMask >>> 24 = 2 ^ 8 - 1 from rfl,
      show eepromSectionMagic >>> 24 = 0x55 from rfl, Nat.and_two_pow_sub_one_eq_mod,
      Nat.shiftRight_eq_div_pow] at hshift
    unfold be32 at hshift
    have h0 := (image o).toNat_lt
    have h1 := (image (o + 1)).toNat_lt
    have h2 := (image (o + 2)).toNat_lt
    have h3 := (image (o + 3)).toNat_lt
    apply UInt8.toNat_inj.mp
    show (image o).toNat = 0x55
    omega
  · unfold be32 at hlength
    apply UInt8.toNat_inj.mp
    show (image (o + 4)).toNat = 0
    omega

/-- A chain that has a section has one at its start. -/
theorem OnChain.record_at_start (h : OnChain image size w t) :
    ∃ r n, sectionHead image size w.walkStart = .record r n := by
  obtain ⟨⟨l, hl⟩, n, hn⟩ := h
  generalize t.offset = o at hl hn
  cases hl with
  | nil _ => exact ⟨_, _, hn⟩
  | cons hhead _ => exact ⟨_, _, hhead⟩

theorem Replacing.header_bytes (h : Replacing image size w name data pre s rest)
    (hsize : size ≤ 2 ^ 24) :
    image w.walkStart = 0x55 ∧ image (w.walkStart + 4) = 0 ∧
      replaced image size w data s rest (w.walkStart + 4) = 0 := by
  obtain ⟨r, n, hold⟩ := h.onChain.record_at_start
  obtain ⟨r', n', hnew⟩ := h.onChain_self.record_at_start
  exact ⟨(record_bytes hsize hold).1, (record_bytes hsize hold).2, (record_bytes hsize hnew).2⟩

/-- **Partition B's stage** writes nothing, or there is a section header at its start, whose length
has a zero in front before and afterwards. -/
theorem patchPartitionB_header (hB : partitionB.Fits size) (hsize : size ≤ 2 ^ 24)
    {warnings : List (String × EfiStatus)}
    (h : patchPartitionB imageA size config timestamp = (m, warnings)) :
    m = imageA ∨ imageA eepromPartitionBStart = 0x55 ∧ imageA (eepromPartitionBStart + 4) = 0 ∧
      m (eepromPartitionBStart + 4) = 0 := by
  rcases patchPartitionB_cases hB imageA config timestamp with
    ⟨-, hcall⟩ | ⟨status, -, hcall⟩ | ⟨pre, s, rest, hr, hcase⟩
  · rw [h] at hcall
    cases hcall
    exact Or.inl rfl
  · rw [h] at hcall
    cases hcall
    exact Or.inl rfl
  have hheader := hr.header_bytes hsize
  rcases hcase with ⟨-, hcall⟩ | ⟨status, -, -, hcall⟩ | ⟨pre', s', rest', hr', hcall⟩
  · rw [h] at hcall
    cases hcall
    exact Or.inr hheader
  · rw [h] at hcall
    cases hcall
    exact Or.inr hheader
  · rw [h] at hcall
    cases hcall
    exact Or.inr ⟨hheader.1, hheader.2.1, (hr'.header_bytes hsize).2.2⟩

/-! ## The text in the patched image -/

/-- Two memories that agree up to a terminator in the range have the same delimited text there. -/
theorem delimited_slice_congr {m m' : Mem} {off p : Nat} (hoff : off ≤ p)
    (hagree : ∀ i, off ≤ i → i ≤ p → m' i = m i) (hp : isTerminator (m p) = true) (n : Nat) :
    delimited (m'.slice off n) = delimited (m.slice off n) := by
  by_cases hn : off + n ≤ p
  · rw [Mem.slice_congr fun i hi hlt => hagree i hi (by omega)]
  · obtain ⟨k, rfl⟩ : ∃ k, n = (p - off + 1) + k := ⟨n - (p - off + 1), by omega⟩
    have hfront : m'.slice off (p - off + 1) = m.slice off (p - off + 1) :=
      Mem.slice_congr fun i hi hlt => hagree i hi (by omega)
    have hany : (m.slice off (p - off + 1)).any isTerminator = true := by
      refine List.any_eq_true.mpr ⟨m p, ?_, hp⟩
      refine List.mem_map.mpr ⟨p - off, List.mem_range.mpr (by omega), ?_⟩
      rw [Nat.add_sub_cancel' hoff]
    rw [Mem.slice_add m' off (p - off + 1), Mem.slice_add m off (p - off + 1), hfront,
      delimited_append_of_any hany, delimited_append_of_any hany]

/-- Partition A holds the new config in front of the scratch sector. -/
theorem PatchedA.fileBelow (hA : partitionA.Fits size)
    (h : PatchedA image size values timestamp config imageA) :
    FileBelow imageA size partitionA bootconfTxt config (size - eepromEraseAlign) ∧
      config.length ≤ eepromMaxFileSize := by
  obtain ⟨imageT, htxt, hsig⟩ := h.config
  obtain ⟨pre, s, rest, hr, rfl⟩ := replacing_of_success hA htxt
  rcases hsig with ⟨-, hsync⟩ | ⟨-, rfl⟩
  · obtain ⟨pre', s', rest', hr', rfl⟩ := replacing_of_success hA hsync
    exact ⟨fileBelow_replaced_txt hr hr' hr.scratch, hr.len⟩
  · exact ⟨fileBelow_replaced hr hr.scratch, hr.len⟩

/-- A config file of partition A that reaches into partition B starts well in front of it, where
there is a section header at the start of partition B. -/
theorem config_offset_le (ht : OnChain image size partitionA t)
    (hmatch : sectionMatches image partitionA bootconfTxt t = true)
    (hB : image eepromPartitionBStart = 0x55) : t.offset + 24 ≤ eepromPartitionBStart := by
  obtain ⟨-, -, hlt, hname⟩ := sectionMatches_iff.mp hmatch
  have haligned : t.offset % 8 = 0 := reaches_aligned ht.1 rfl
  have hend : partitionA.winEnd = eepromPartitionBStart := rfl
  have hstart : eepromPartitionBStart % 8 = 0 := by decide
  have hbytes := (fileNameMatches_iff.mp hname).2
  by_contra hclose
  -- otherwise the start of partition B lies in the file name
  have hcases : t.offset + 8 = eepromPartitionBStart ∨ t.offset + 16 = eepromPartitionBStart := by
    omega
  -- a header starts with 0x55, and neither a letter of the name nor its end is that
  rcases hcases with h8 | h16
  · have hbyte := hbytes 0 (by decide)
    rw [Nat.add_zero, h8, hB] at hbyte
    exact absurd hbyte (by decide)
  · have hbyte := hbytes 8 (by decide)
    rw [show t.offset + 8 + 8 = eepromPartitionBStart from h16, hB] at hbyte
    exact absurd hbyte (by decide)

/-- **The reader's text.** Whatever the later stages wrote, the config file that is found in
partition A of the patched image is delimited as the text that was built. -/
theorem delimited_patched (hA : partitionA.Fits size) (hB : partitionB.Fits size)
    (hsize : size ≤ 2 ^ 24)
    (hok : (patchImage image size values timestamp poolFull).status = .success)
    {loc' : EepromFileLoc}
    (hfind : eepromFindFileIn (patchImage image size values timestamp poolFull).image size
      partitionA bootconfTxt = some loc') :
    ∃ loc config, eepromFindFileIn image size partitionA bootconfTxt = some loc ∧
      blBuildNewConfigText (fileContent image loc) values newConfigCap = .ok config ∧
      config.length ≤ eepromMaxFileSize ∧
      (fileContent (patchImage image size values timestamp poolFull).image loc').length =
        config.length ∧
      delimited (fileContent (patchImage image size values timestamp poolFull).image loc') =
        delimited config := by
  obtain ⟨config, imageA, hpatched, -, hset, hresult, -⟩ := patchImage_success hok
  obtain ⟨⟨t, ht, hlimit⟩, hlength⟩ := hpatched.fileBelow hA
  obtain ⟨loc, hloc, hbuild⟩ := hpatched.built
  refine ⟨loc, config, hloc, hbuild, hlength, ?_⟩
  have hscratch := hA.scratch
  have herase : eepromEraseAlign = 4096 := rfl
  have hlen : contentLenOf t = config.length := by
    rw [← ht.holds, Mem.length_slice]
  -- the file as partition B's stage leaves it
  obtain ⟨es, hrun⟩ := patchPartitionB_run imageA size config timestamp
  cases hstage : patchPartitionB imageA size config timestamp with
  | mk m warnings =>
  rw [hstage] at hrun hset hresult
  have hsame := replaceRunB_sameFiles hB (show partitionA.walkStart = 0 from rfl) (Nat.le_refl _)
    (IsConfigFile.head_ne (Or.inl rfl)) hrun
  have hfile : FileBelow m size partitionA bootconfTxt
      (m.slice (t.offset + 24) (contentLenOf t)) (size - eepromEraseAlign) :=
    ⟨t, ⟨hsame.firstMatch ht.first, rfl⟩, hlimit⟩
  -- and the timestamp
  obtain ⟨loc'', hloc'', hcontent⟩ :=
    ((setTimestamp_partitionA hA (Or.inl rfl) hset).2 _ _ (by omega) hfile).holds
      (hresult ▸ (firstMatch_of_find hfind).1)
  rw [← hresult, hfind] at hloc''
  obtain rfl := Option.some.inj hloc''
  rw [← hresult] at hcontent
  rw [hcontent, Mem.length_slice, hlen]
  refine ⟨rfl, ?_⟩
  have hbuilt : imageA.slice (t.offset + 24) config.length = config := by
    rw [← hlen]
    exact ht.holds
  -- a text that runs into partition B ends at the zero in its first header's length
  rcases patchPartitionB_header hB hsize hstage with rfl | ⟨hheader, hzero, hzero'⟩
  · rw [hbuilt]
  · have hoff := config_offset_le ht.first.onChain ht.first.hit hheader
    have hagree : ∀ i, t.offset + 24 ≤ i → i ≤ eepromPartitionBStart + 4 → m i = imageA i := by
      intro i _ hi
      rcases Nat.lt_or_ge i (eepromPartitionBStart + 4) with hlt | hge
      · exact replaceRunB_low hB hlt hrun
      · have hlast : i = eepromPartitionBStart + 4 := by omega
        rw [hlast, hzero, hzero']
    rw [delimited_slice_congr (by omega) hagree (by rw [hzero]; rfl), hbuilt]

/-! ## The values in the variable -/

/-- Characters of a boot order: no NUL, and ASCII. -/
theorem asciiBootOrder_of_ascii {text : List UInt8} (h : ∀ c ∈ text, c ≠ 0 ∧ c ≤ 0x7f)
    (rest : List UInt16) : asciiBootOrder (text.map UInt8.toUInt16 ++ 0 :: rest) = some text := by
  induction text with
  | nil => rfl
  | cons c text ih =>
    have hc := h c List.mem_cons_self
    have hne : c.toUInt16 ≠ 0 := by
      intro hzero
      exact hc.1 (UInt8.toUInt16_inj.mp hzero)
    have hle : ¬c.toUInt16 > 0x7F := by
      have hbound := UInt8.le_iff_toNat_le.mp hc.2
      rw [gt_iff_lt, UInt16.lt_iff_toNat_lt, UInt8.toNat_toUInt16]
      exact Nat.not_lt.mpr hbound
    have hrest := ih fun d hd => h d (List.mem_cons_of_mem _ hd)
    show asciiBootOrder (c.toUInt16 :: (text.map UInt8.toUInt16 ++ 0 :: rest)) = _
    unfold asciiBootOrder
    rw [if_neg hne, if_neg hle, hrest, UInt8.toUInt8_toUInt16]
    rfl

theorem bootOrder_ascii (hv : values.Canonical) :
    values.bootOrder.length ≤ 10 ∧ ∀ c ∈ values.bootOrder, c ≠ 0 ∧ c ≤ 0x7f := by
  obtain ⟨digits, hbo, -, hle, hhex⟩ := hv.bootOrder
  have hprefix : (ascii "0x").length = 2 := by decide
  have hx : ∀ c ∈ ascii "0x", c ≠ 0 ∧ c ≤ 0x7f := by decide +kernel
  rw [hbo]
  refine ⟨?_, fun c hc => ?_⟩
  · rw [List.length_append, hprefix]
    omega
  · rcases List.mem_append.mp hc with hc | hc
    · exact hx c hc
    · have hdigit := hhex c hc
      simp only [isLowerHex, Bool.or_eq_true, Bool.and_eq_true, decide_eq_true_eq] at hdigit
      constructor
      · rintro rfl
        exact absurd hdigit (by decide)
      · rcases hdigit with ⟨-, hupper⟩ | ⟨-, hupper⟩
        · exact UInt8.le_trans hupper (by decide)
        · exact UInt8.le_trans hupper (by decide)

/-- **Canonical values survive the variable.** -/
theorem blValuesFromData_toData (hv : values.Canonical) :
    blValuesFromData (blValuesToData values) = some values := by
  obtain ⟨hlength, hascii⟩ := bootOrder_ascii hv
  have hfield : (List.ofFn (blValuesToData values).bootOrder).take rpiBlcfgBootOrderMaxlen =
      values.bootOrder.map UInt8.toUInt16 ++
        0 :: List.replicate (10 - values.bootOrder.length) 0 := by
    refine List.ext_getElem ?_ fun i hi hi' => ?_
    · rw [List.length_take, List.length_ofFn, List.length_append, List.length_map,
        List.length_cons, List.length_replicate, show rpiBlcfgBootOrderMaxlen = 11 from rfl]
      omega
    -- the field is the text and zeros behind it
    · rw [List.getElem_take, List.getElem_ofFn]
      show (values.bootOrder.getD i 0).toUInt16 = _
      rcases Nat.lt_or_ge i values.bootOrder.length with hlt | hge
      · rw [List.getD_eq_getElem _ _ hlt, List.getElem_append_left (by simpa using hlt),
          List.getElem_map]
      · rw [List.getD_eq_default _ _ hge, List.getElem_append_right (by simpa using hge)]
        have hzero : ∀ c ∈ (0 : UInt16) :: List.replicate (10 - values.bootOrder.length) 0,
            c = 0 := by
          intro c hc
          rcases List.mem_cons.mp hc with rfl | hc
          · rfl
          · exact (List.mem_replicate.mp hc).2
        exact (hzero _ (List.getElem_mem _)).symm
  have hflag : ∀ b : UInt8, b = 0 ∨ b = 1 → (if b ≠ 0 then (1 : UInt8) else 0) = b := by
    rintro b (rfl | rfl) <;> rfl
  unfold blValuesFromData
  rw [hfield, asciiBootOrder_of_ascii hascii, Option.bind_some, parseBootOrder_canonical hv]
  simp only
  rw [if_neg ?_]
  · show some (BlcfgValues.mk values.bootOrder (if values.bootUart ≠ 0 then 1 else 0)
      (if values.powerOffOnHalt ≠ 0 then 1 else 0) (if values.wakeOnGpio ≠ 0 then 1 else 0)
      values.psuMaxCurrent) = some values
    rw [hflag _ hv.bootUart, hflag _ hv.powerOffOnHalt, hflag _ hv.wakeOnGpio]
  · rintro ⟨h0, h3000, h5000⟩
    rcases hv.psuMaxCurrent with h | h | h
    · exact h0 h
    · exact h3000 h
    · exact h5000 h

/-! ## The next boot -/

/-- The region holds `bootconf.txt` of partition A, padded with terminators up to its end, and is
one `LoadBlconfig` accepts. -/
structure HandsOver (memory : Mem) (address regionSize : Nat) (image : Mem) : Prop where
  address_ne : address ≠ 0
  size_pos : 0 < regionSize
  size_lt : regionSize < blconfigRegionMax
  content : ∃ loc padding,
    eepromFindFileIn image eepromImageSize2712 partitionA bootconfTxt = some loc ∧
      memory.slice address regionSize = fileContent image loc ++ padding ∧
      ∀ c ∈ padding, isTerminator c = true

/-- **What is loaded** from a padded region, cut to 8 KiB or not. -/
theorem loadBlconfig_padded {memory : Mem} {address regionSize : Nat} {content padding : List UInt8}
    (haddress : address ≠ 0) (hpos : 0 < regionSize) (hlt : regionSize < blconfigRegionMax)
    (hslice : memory.slice address regionSize = content ++ padding)
    (hpadding : ∀ c ∈ padding, isTerminator c = true)
    (hlength : content.length ≤ blconfigVarMaxLen) :
    loadBlconfig true (some (address, regionSize)) memory false =
      ⟨true, some (delimited content)⟩ := by
  have hread : memory.slice address (min regionSize blconfigVarMaxLen) =
      content ++ padding.take (blconfigVarMaxLen - content.length) := by
    rw [Nat.min_comm, ← Mem.take_slice, hslice, List.take_append, List.take_of_length_le hlength]
  unfold loadBlconfig
  rw [if_neg (by decide)]
  simp only
  rw [if_neg (by omega), if_neg (by decide), hread,
    delimited_padding content fun c hc => hpadding c (List.mem_of_mem_take hc)]

/-- **An applied update is recognised** exactly when its text reads back: when no unmanaged line of
the original `bootconf.txt` has a NUL or 0xFF byte, or every key that differs from its default has a
line in front of the first one that does. Then the staged files are deleted. -/
theorem appliedUpdate_iff (image : Mem) (values : BlcfgValues) (timestamp : UInt32)
    (poolFull : Bool) (hv : values.Canonical)
    (hok : (patchImage image eepromImageSize2712 values timestamp poolFull).status = .success)
    {memory : Mem} {address regionSize : Nat}
    (hregion : HandsOver memory address regionSize
      (patchImage image eepromImageSize2712 values timestamp poolFull).image) :
    ∃ loc, eepromFindFileIn image eepromImageSize2712 partitionA bootconfTxt = some loc ∧
      ((loadBlconfig true (some (address, regionSize)) memory false).currentValues = values ↔
        ReadsBack (fileContent image loc) values) ∧
      (stagedApplied (loadBlconfig true (some (address, regionSize)) memory false)
          (blValuesToData values) = true ↔
        ReadsBack (fileContent image loc) values) ∧
      (ReadsBack (fileContent image loc) values →
        ∀ (io : IoOracle) (handles : List Nat) (setVariable : EfiStatus) (w w0 : FsWorld)
          (volume : Nat), openBootVolume io handles w = (some volume, w0) →
          DeletesOpen io w0 volume stagedUpdateFile →
          DeletesOpen io (deleteFileIfPresent io w0 volume stagedUpdateFile) volume stagedSigFile →
          ∃ w' marker', blStagedMarkerCleanup
              (loadBlconfig true (some (address, regionSize)) memory false) io handles .success
              setVariable w (some (blValuesToData values)) = (w', marker') ∧
            w'.file volume stagedUpdateFile = none ∧ w'.file volume stagedSigFile = none) := by
  obtain ⟨loc', padding, hfind, hslice, hpadding⟩ := hregion.content
  obtain ⟨loc, config, hloc, hbuild, hmax, hlength, hdelimited⟩ :=
    delimited_patched EepromPartition.a.fits EepromPartition.b.fits (by decide) hok hfind
  have hfits : (fileContent (patchImage image eepromImageSize2712 values timestamp
      poolFull).image loc').length ≤ blconfigVarMaxLen := by
    have hbound : eepromMaxFileSize ≤ blconfigVarMaxLen := by decide
    omega
  have hlive := loadBlconfig_padded hregion.address_ne hregion.size_pos hregion.size_lt hslice
    hpadding hfits
  rw [hdelimited] at hlive
  have hvalues : (loadBlconfig true (some (address, regionSize)) memory false).currentValues =
      values ↔ ReadsBack (fileContent image loc) values := by
    rw [hlive]
    exact delimited_readsBack_iff hv hbuild
  have happlied : stagedApplied (loadBlconfig true (some (address, regionSize)) memory false)
      (blValuesToData values) = true ↔ ReadsBack (fileContent image loc) values := by
    unfold stagedApplied
    rw [blValuesFromData_toData hv]
    exact (blValuesEqual_iff.trans eq_comm).trans hvalues
  refine ⟨loc, hloc, hvalues, happlied, fun hreads io handles setVariable w w0 volume hopen hupd
    hsig => ?_⟩
  obtain ⟨hgone, hgone'⟩ := deleteStagedFiles_gone hopen hupd hsig
  have hdeleted : (if stagedApplied (loadBlconfig true (some (address, regionSize)) memory false)
      (blValuesToData values) = true then deleteStagedFiles io handles w else w) =
        deleteStagedFiles io handles w := if_pos (happlied.mpr hreads)
  exact ⟨_, _, rfl, hdeleted.symm ▸ hgone, hdeleted.symm ▸ hgone'⟩

/-- The region at `0x1000` with a text, erased behind it. -/
def blconfigMemory (text : List UInt8) : Mem := erasedImage.write 0x1000 text

theorem twoConfigImage_handsOver :
    HandsOver (blconfigMemory (ascii "A=1\nBOOT_UART=1\n")) 0x1000 0x20
      (patchImage twoConfigImage eepromImageSize2712 uartValues 7 false).image :=
  ⟨by decide, by decide, by decide, ⟨0x10000, 0x10018, 16, 0x107000, true⟩,
    List.replicate 16 0xff, by decide +kernel, by decide +kernel, by decide +kernel⟩

theorem twoConfigImage_applied :
    stagedApplied (loadBlconfig true (some (0x1000, 0x20))
      (blconfigMemory (ascii "A=1\nBOOT_UART=1\n")) false) (blValuesToData uartValues) = true := by
  obtain ⟨loc, hloc, -, happlied, -⟩ := appliedUpdate_iff twoConfigImage uartValues 7 false
    uartValues_canonical (by decide +kernel) twoConfigImage_handsOver
  have hfound : eepromFindFileIn twoConfigImage eepromImageSize2712 partitionA bootconfTxt =
      some ⟨0x10000, 0x10018, 4, 0x107000, true⟩ := by decide +kernel
  rw [hfound] at hloc
  obtain rfl := Option.some.inj hloc
  exact happlied.mpr (by decide +kernel)

/-- A comment with a NUL in it. -/
def nulConfigImage : Mem :=
  putFile (putSection erasedImage 0 eepromSectionMagic 0xfff8) 0x10000 bootconfTxt [0x23, 0, chLf]

/-- The reader stops in the comment and does not get to the line that was appended. -/
theorem nulConfigImage_notApplied :
    uartValues.Canonical ∧
      (patchImage nulConfigImage eepromImageSize2712 uartValues 7 false).status = .success ∧
      HandsOver (blconfigMemory ([0x23, 0, chLf] ++ ascii "BOOT_UART=1\n")) 0x1000 0x20
        (patchImage nulConfigImage eepromImageSize2712 uartValues 7 false).image ∧
      (loadBlconfig true (some (0x1000, 0x20))
        (blconfigMemory ([0x23, 0, chLf] ++ ascii "BOOT_UART=1\n")) false).currentValues ≠
          uartValues ∧
      stagedApplied (loadBlconfig true (some (0x1000, 0x20))
        (blconfigMemory ([0x23, 0, chLf] ++ ascii "BOOT_UART=1\n")) false)
          (blValuesToData uartValues) = false := by
  refine ⟨uartValues_canonical, by decide +kernel, ⟨by decide, by decide, by decide,
    ⟨0x10000, 0x10018, 15, 0x107000, true⟩, List.replicate 17 0xff, by decide +kernel,
    by decide +kernel, by decide +kernel⟩, by decide +kernel, by decide +kernel⟩

end Rpi5Uefi
