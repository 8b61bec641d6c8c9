import Rpi5Uefi.Blcfg.RoundTrip
import Rpi5Uefi.Blcfg.Staging

/-!
# The text in the blconfig region (`LoadBlconfig`)

The bootloader hands its config over in a memory region, padded with NUL or erased flash, and the
driver takes the text to end at the first such byte. The writer knows the length of the text and
copies every line it does not manage through, whatever bytes are in it.

* **`delimited`**: the text up to the first NUL or 0xFF byte.
* **`linesBeforeCut`**: an unmanaged line with such a byte ends the text for the reader. The managed
  lines never have one, whatever the original had there.
* **`delimited_readsBack_iff`**: the reader finds the requested values exactly when every key that
  differs from its default has a line in front of the first such line, or there is no such line.
-/

namespace Rpi5Uefi

open Bytes Lines

/-! ## The reader -/

/-- `BLCONFIG_REGION_MAX`. -/
def blconfigRegionMax : Nat := 0x10000

/-- `BLCONFIG_VAR_MAX_LEN`. -/
def blconfigVarMaxLen : Nat := 0x2000

/-- `'\0'`, or erased flash. -/
def isTerminator (c : UInt8) : Bool := c == 0 || c == 0xff

/-- The bytes in front of the first terminator: `mBlconfigTextLen` is their number. -/
def delimited (raw : List UInt8) : List UInt8 := raw.takeWhile (fun c => !isTerminator c)

/-- `LoadBlconfig`: `region` is the address and the size `BlGetTranslatedRegAddress` gives for the
blconfig node, where there is one. -/
def loadBlconfig (fdt : Bool) (region : Option (Nat × Nat)) (memory : Mem) (poolFull : Bool) :
    BlLive :=
  if !fdt then ⟨false, none⟩
  else
    match region with
    | none => ⟨true, none⟩
    | some (regionAddress, regionSize) =>
      if regionAddress = 0 ∨ regionSize = 0 ∨ regionSize ≥ blconfigRegionMax then ⟨true, none⟩
      else
        let dataLen := min regionSize blconfigVarMaxLen
        if poolFull then ⟨true, none⟩
        else ⟨true, some (delimited (memory.slice regionAddress dataLen))⟩

/-! ## Terminators -/

variable {values : BlcfgValues} {orig out : List UInt8} {outCap : Nat}

/-- No byte of it ends the text. -/
def Unterminated (text : List UInt8) : Prop := ∀ c ∈ text, isTerminator c = false

theorem delimited_append {a : List UInt8} (h : Unterminated a) (b : List UInt8) :
    delimited (a ++ b) = a ++ delimited b :=
  List.takeWhile_append_of_pos fun c hc => by rw [h c hc]; rfl

theorem delimited_of_unterminated {a : List UInt8} (h : Unterminated a) : delimited a = a := by
  have happ := delimited_append h []
  rwa [List.append_nil, show delimited [] = [] from rfl, List.append_nil] at happ

/-- What is behind a terminator is not read. -/
theorem delimited_append_of_any {a : List UInt8} (h : a.any isTerminator = true) (b : List UInt8) :
    delimited (a ++ b) = delimited a := by
  induction a with
  | nil => cases h
  | cons c rest ih =>
    rw [List.any_cons, Bool.or_eq_true] at h
    unfold delimited at ih ⊢
    rw [List.cons_append]
    cases hc : isTerminator c with
    | true =>
      rw [List.takeWhile_cons_of_neg (by rw [hc]; decide),
        List.takeWhile_cons_of_neg (by rw [hc]; decide)]
    | false =>
      rw [List.takeWhile_cons_of_pos (by rw [hc]; rfl),
        List.takeWhile_cons_of_pos (by rw [hc]; rfl),
        ih (h.resolve_left (by rw [hc]; decide))]

/-- Nor is the padding. -/
theorem delimited_padding (a : List UInt8) {padding : List UInt8}
    (h : ∀ c ∈ padding, isTerminator c = true) : delimited (a ++ padding) = delimited a := by
  have hpadding : delimited padding = [] := by
    cases padding with
    | nil => rfl
    | cons c rest =>
      have hc := h c List.mem_cons_self
      unfold delimited
      rw [List.takeWhile_cons_of_neg (by rw [hc]; decide)]
  -- with a terminator of its own the text ends before the padding, without one at it
  cases hany : a.any isTerminator with
  | true => exact delimited_append_of_any hany padding
  | false =>
    have ha : Unterminated a := fun c hc => by
      simpa using List.any_eq_false.mp hany c hc
    rw [delimited_append ha, hpadding, delimited_of_unterminated ha, List.append_nil]

/-- A terminator is no newline, so lines without one make a text without one. -/
theorem unterminated_unlines {ls : List (Line UInt8)} (h : ∀ l ∈ ls, Unterminated l.body) :
    Unterminated (unlines chLf ls) := by
  intro c hc
  obtain ⟨l, hl, hmem⟩ := List.mem_flatMap.mp hc
  unfold Line.text at hmem
  rcases List.mem_append.mp hmem with hbody | hnl
  · exact h l hl c hbody
  · split at hnl
    · rw [List.mem_singleton] at hnl
      rw [hnl]
      decide
    · simp at hnl

/-! ## What the writer puts out -/

theorem isTerminator_of_isLowerHex {c : UInt8} (h : isLowerHex c = true) :
    isTerminator c = false := by
  rw [Bool.eq_false_iff]
  intro hc
  simp only [isTerminator, Bool.or_eq_true, beq_iff_eq] at hc
  rcases hc with rfl | rfl <;> revert h <;> decide

/-- **The managed lines have no terminator.** -/
theorem unterminated_formatted (hv : values.Canonical) (key : BlKey) :
    ∀ l ∈ formattedLines values key, Unterminated l.body := by
  intro l hl
  unfold formattedLines at hl
  cases hk : keyValueText key values with
  | none => simp [hk] at hl
  | some value =>
    simp only [hk, List.mem_singleton] at hl
    subst hl
    have hname : Unterminated key.name := by
      unfold Unterminated
      cases key <;> decide +kernel
    -- a value is hexadecimal digits behind `0x`, or one of four numbers
    have hx : ∀ c ∈ ascii "0x", isTerminator c = false := by decide +kernel
    have hvalue : Unterminated value := by
      rcases keyValueText_cases hv hk with ⟨digits, rfl, -, hhex⟩ | hfew
      · intro c hc
        rcases List.mem_append.mp hc with hc | hc
        · exact hx c hc
        · exact isTerminator_of_isLowerHex (hhex c hc)
      · have hall : ∀ value ∈ [ascii "0", ascii "1", ascii "3000", ascii "5000"],
            ∀ c ∈ value, isTerminator c = false := by decide +kernel
        exact hall value hfew
    intro c hc
    rcases List.mem_append.mp hc with hc | hc
    · exact hname c hc
    · rcases List.mem_cons.mp hc with rfl | hc
      · decide
      · exact hvalue c hc

/-- A line that is copied through and ends the text for the reader. -/
def cutsText (l : Line UInt8) : Bool := (matchKey l.body).isNone && l.body.any isTerminator

theorem unterminated_keptLines (hv : values.Canonical) {ls : List (Line UInt8)}
    (h : ∀ l ∈ ls, cutsText l = false) (seen : BlKey → Bool) :
    ∀ l ∈ keptLines values ls seen, Unterminated l.body := by
  induction ls generalizing seen with
  | nil => simp [keptLines]
  | cons line rest ih =>
    have hrest : ∀ l ∈ rest, cutsText l = false := fun l hl => h l (List.mem_cons_of_mem _ hl)
    unfold keptLines
    cases hm : matchKey line.body with
    | none =>
      have hline : line.body.any isTerminator = false := by
        have hcut := h line List.mem_cons_self
        unfold cutsText at hcut
        rwa [hm, Option.isNone_none, Bool.true_and] at hcut
      intro l hl
      rcases List.mem_cons.mp hl with rfl | hl
      · exact fun c hc => by simpa using List.any_eq_false.mp hline c hc
      · exact ih hrest seen l hl
    | some key =>
      simp only
      split
      · exact ih hrest seen
      · intro l hl
        rcases List.mem_append.mp hl with hl | hl
        · exact unterminated_formatted hv key l hl
        · exact ih hrest _ l hl

/-- The lines kept of two parts: what was seen in the first does not matter for its own lines. -/
theorem keptLines_append (values : BlcfgValues) (a b : List (Line UInt8)) (seen : BlKey → Bool) :
    ∃ seen', keptLines values (a ++ b) seen =
      keptLines values a seen ++ keptLines values b seen' := by
  induction a generalizing seen with
  | nil => exact ⟨seen, rfl⟩
  | cons line rest ih =>
    rw [List.cons_append]
    cases hm : matchKey line.body with
    | none =>
      have hcons : ∀ ls, keptLines values (line :: ls) seen = line :: keptLines values ls seen := by
        intro ls
        rw [keptLines, hm]
      obtain ⟨seen', hih⟩ := ih seen
      exact ⟨seen', by rw [hcons, hcons, hih, List.cons_append]⟩
    | some key =>
      by_cases hs : seen key
      · have hcons : ∀ ls, keptLines values (line :: ls) seen = keptLines values ls seen := by
          intro ls
          simp only [keptLines, hm, if_pos hs]
        obtain ⟨seen', hih⟩ := ih seen
        exact ⟨seen', by rw [hcons, hcons, hih]⟩
      · have hcons : ∀ ls, keptLines values (line :: ls) seen = formattedLines values key ++
            keptLines values ls (fun k => if k = key then true else seen k) := by
          intro ls
          simp only [keptLines, hm, if_neg hs]
        obtain ⟨seen', hih⟩ := ih (fun k => if k = key then true else seen k)
        exact ⟨seen', by rw [hcons, hcons, hih, List.append_assoc]⟩

/-- **A text without such a line is read whole.** -/
theorem delimited_build_whole (hv : values.Canonical)
    (h : blBuildNewConfigText orig values outCap = .ok out)
    (hwhole : ∀ l ∈ lines chLf orig, cutsText l = false) : delimited out = out := by
  obtain ⟨seen, -, hlines⟩ := lines_of_build hv h
  have hout : unlines chLf (lines chLf out) = out := unlines_lines out
  rw [← hout, hlines]
  refine delimited_of_unterminated (unterminated_unlines fun l hl => ?_)
  rcases List.mem_append.mp hl with hl | hl
  · obtain ⟨l', hl', rfl⟩ := List.mem_map.mp hl
    exact unterminated_keptLines hv hwhole _ l' hl'
  · obtain ⟨key, -, hkey⟩ := List.mem_flatMap.mp hl
    split at hkey
    · simp at hkey
    · exact unterminated_formatted hv key l hkey

/-! ## A text that is cut -/

/-- The lines in front of the first one that ends the text. -/
def linesBeforeCut (ls : List (Line UInt8)) : List (Line UInt8) :=
  ls.takeWhile (fun l => !cutsText l)

theorem linesBeforeCut_mem {ls : List (Line UInt8)} : ∀ l ∈ linesBeforeCut ls, cutsText l = false :=
  fun l hl => by simpa using List.mem_takeWhile_imp hl

theorem exists_cut {ls : List (Line UInt8)} (h : ¬∀ l ∈ ls, cutsText l = false) :
    ∃ cut post, ls = linesBeforeCut ls ++ cut :: post ∧ cutsText cut = true := by
  have hsplit := List.takeWhile_append_dropWhile (p := fun l => !cutsText l) (l := ls)
  cases hdrop : ls.dropWhile (fun l => !cutsText l) with
  | nil =>
    refine absurd (fun l hl => ?_) h
    have hall := List.dropWhile_eq_nil_iff.mp hdrop l hl
    simpa using hall
  | cons cut post =>
    have hhead := List.head?_dropWhile_not (fun l => !cutsText l) ls
    rw [hdrop] at hhead hsplit
    exact ⟨cut, post, hsplit.symm, by simpa using hhead⟩

/-- A cut line is nobody's line. -/
theorem lineHasKey_delimited {body : List UInt8} (h : matchKey body = none) (k : BlKey) :
    lineHasKey (delimited body) k.name = false := by
  rw [Bool.eq_false_iff]
  intro hhas
  obtain ⟨rest, hrest⟩ := lineHasKey_iff.mp hhas
  have hbody : body = k.name ++ chEq :: (rest ++ body.dropWhile (fun c => !isTerminator c)) := by
    have hsplit := List.takeWhile_append_dropWhile (p := fun c => !isTerminator c) (l := body)
    unfold delimited at hrest
    rw [hrest] at hsplit
    simpa using hsplit.symm
  rw [matchKey_eq_some_iff.mpr (lineHasKey_iff.mpr ⟨_, hbody⟩)] at h
  cases h

/-- **What is left of a cut text**: the lines kept of those in front of the cut, and a piece of the
line that cut it. -/
theorem delimited_build_cut (hv : values.Canonical)
    (h : blBuildNewConfigText orig values outCap = .ok out) {pre post : List (Line UInt8)}
    {cut : Line UInt8} (hsplit : lines chLf orig = pre ++ cut :: post)
    (hpre : ∀ l ∈ pre, cutsText l = false) (hcut : cutsText cut = true) :
    delimited out = unlines chLf (terminateAll (keptLines values pre (fun _ => false))) ++
      delimited cut.body := by
  obtain ⟨seen, -, hlines⟩ := lines_of_build hv h
  unfold cutsText at hcut
  rw [Bool.and_eq_true, Option.isNone_iff_eq_none] at hcut
  obtain ⟨hnone, hany⟩ := hcut
  -- no managed key, so the line is kept as it is, and everything behind it is unread
  obtain ⟨seen', hkept⟩ := keptLines_append values pre (cut :: post) (fun _ => false)
  have hcons : keptLines values (cut :: post) seen' = cut :: keptLines values post seen' := by
    rw [keptLines, hnone]
  have hunterminated : Unterminated
      (unlines chLf (terminateAll (keptLines values pre (fun _ => false)))) := by
    refine unterminated_unlines fun l hl => ?_
    obtain ⟨l', hl', rfl⟩ := List.mem_map.mp hl
    exact unterminated_keptLines hv hpre _ l' hl'
  have hterminate : terminateAll (keptLines values pre (fun _ => false) ++
      cut :: keptLines values post seen') =
      terminateAll (keptLines values pre (fun _ => false)) ++
        ⟨cut.body, true⟩ :: terminateAll (keptLines values post seen') := List.map_append
  have hout : unlines chLf (lines chLf out) = out := unlines_lines out
  rw [← hout, hlines, hsplit, hkept, hcons, hterminate, List.append_assoc, unlines_append,
    delimited_append hunterminated, List.cons_append, unlines_cons, Line.text, List.append_assoc,
    delimited_append_of_any hany]

theorem lines_delimited_cut (hv : values.Canonical) {pre : List (Line UInt8)} {body : List UInt8}
    (hpre : Proper chLf pre) (hbody : chLf ∉ body) :
    lines chLf (unlines chLf (terminateAll (keptLines values pre (fun _ => false))) ++ body) =
      terminateAll (keptLines values pre (fun _ => false)) ++
        if body = [] then [] else [⟨body, false⟩] := by
  have htail : unlines chLf (if body = [] then [] else [⟨body, false⟩]) = body := by
    split
    · next hnil => rw [hnil, unlines_nil]
    · simp [Line.text]
  have hproper : Proper chLf (if body = [] then [] else [⟨body, false⟩]) := by
    split
    · trivial
    · next hne => exact ⟨hbody, Or.inr ⟨rfl, hne⟩, trivial⟩
  have hkept : ∀ l ∈ terminateAll (keptLines values pre (fun _ => false)),
      chLf ∉ l.body ∧ l.terminated = true := by
    intro l hl
    obtain ⟨l', hl', rfl⟩ := List.mem_map.mp hl
    exact ⟨(keptLines_proper hv hpre _).notMem l' hl', rfl⟩
  calc lines chLf (unlines chLf (terminateAll (keptLines values pre (fun _ => false))) ++ body)
      = lines chLf (unlines chLf (terminateAll (keptLines values pre (fun _ => false)) ++
          if body = [] then [] else [⟨body, false⟩])) := by rw [unlines_append, htail]
    _ = _ := lines_unlines (proper_append hkept hproper)

/-- **What the reader finds in a cut text**: the requested value, where the key has a line in front
of the cut. -/
theorem blTextGetValue_of_cut (hv : values.Canonical)
    (h : blBuildNewConfigText orig values outCap = .ok out) {pre post : List (Line UInt8)}
    {cut : Line UInt8} (hsplit : lines chLf orig = pre ++ cut :: post)
    (hpre : ∀ l ∈ pre, cutsText l = false) (hcut : cutsText cut = true) (k : BlKey) :
    blTextGetValue (delimited out) k.name =
      if hasKeyLine pre k then keyValueText k values else none := by
  refine blTextGetValue_of_keyLines hv ?_
  have hproper : Proper chLf (lines chLf orig) := proper_lines orig
  rw [hsplit] at hproper
  have hbody : chLf ∉ delimited cut.body := by
    intro hmem
    exact hproper.notMem cut (by simp) ((List.takeWhile_sublist _).mem hmem)
  have hnone : matchKey cut.body = none := by
    unfold cutsText at hcut
    rw [Bool.and_eq_true, Option.isNone_iff_eq_none] at hcut
    exact hcut.1
  -- the piece of the cut line belongs to no key
  have hpiece : keyLines k
      (if delimited cut.body = [] then [] else [⟨delimited cut.body, false⟩]) = [] := by
    unfold keyLines
    split
    · rfl
    · rw [List.filter_cons_of_neg (by rw [lineHasKey_delimited hnone k]; decide), List.filter_nil]
  have happ : ∀ a b : List (Line UInt8), keyLines k (a ++ b) = keyLines k a ++ keyLines k b :=
    fun a b => List.filter_append a b
  rw [delimited_build_cut hv h hsplit hpre hcut,
    lines_delimited_cut hv hproper.of_append_left hbody,
    happ, hpiece, List.append_nil, keyLines_terminateAll, keyLines_keptLines, Bool.not_false,
    Bool.true_and]
  split
  · exact terminateAll_formattedLines k
  · rfl

/-! ## When the values are read back -/

/-- No line ends the text early, or every key that differs from its default has a line in front of
the first one that does. -/
def ReadsBack (orig : List UInt8) (values : BlcfgValues) : Prop :=
  (∀ l ∈ lines chLf orig, cutsText l = false) ∨
    ∀ k ∈ BlKey.all, appendWanted k values = true →
      hasKeyLine (linesBeforeCut (lines chLf orig)) k = true

instance : Decidable (ReadsBack orig values) := by
  unfold ReadsBack; infer_instance

/-- A key that is not found is read as its default, which is not appended. -/
theorem notWanted_of_get_none {text : List UInt8} {k : BlKey}
    (hget : blTextGetValue text k.name = none) (h : blValuesFromText text = values) :
    appendWanted k values = false := by
  subst h
  cases k <;> simp only [appendWanted, blValuesFromText, flagFromText, hget, Option.bind_none] <;>
    decide

/-- **The exact condition** for the delimited text to be read as the values it was written for. -/
theorem delimited_readsBack_iff (hv : values.Canonical)
    (h : blBuildNewConfigText orig values outCap = .ok out) :
    blValuesFromText (delimited out) = values ↔ ReadsBack orig values := by
  by_cases hwhole : ∀ l ∈ lines chLf orig, cutsText l = false
  · rw [delimited_build_whole hv h hwhole]
    exact iff_of_true (blValuesFromText_of_build hv h) (Or.inl hwhole)
  · obtain ⟨cut, post, hsplit, hcut⟩ := exists_cut hwhole
    have hget := blTextGetValue_of_cut hv h hsplit linesBeforeCut_mem hcut
    unfold ReadsBack
    rw [or_iff_right hwhole]
    constructor
    -- a key that is not found reads as its default, so it was not wanted
    · intro hvalues k _ hwanted
      by_contra hmissing
      have hnone := (hget k).trans (if_neg hmissing)
      rw [notWanted_of_get_none hnone hvalues] at hwanted
      cases hwanted
    · intro hpresent
      refine blValuesFromText_of_get hv (hasKeyLine (linesBeforeCut (lines chLf orig))) fun k => ?_
      rw [hget k]
      -- a wanted key has a line in front of the cut anyway
      cases hwanted : appendWanted k values with
      | false => rw [Bool.or_false]
      | true => rw [hpresent k k.mem_all hwanted, Bool.or_true]

end Rpi5Uefi
