import Rpi5Uefi.Blcfg.OutBuffer

/-!
# What a rewrite leaves alone (`BlBuildNewConfigText`)

The config text belongs to the user: comments, section headers and the keys the Setup page does not
know are copied through. This module says that nothing else of the text depends on the rewrite, and
that a second rewrite with the same values changes nothing.

* **`unmanagedLines`**: the lines that no managed key starts.
* **`unmanagedLines_of_build`**: they come out as they were, in their order, each now with its
  newline.
* **`blTextGetValue_unmanaged`**: so every other key keeps its value.
* **`Fits`**: the checks against `OutCap` that a run made, line by line of what it wrote. They are
  the ones the second run makes, at the same positions.
* **`rewriteLines_settled`**: lines with at most one line for each key, the formatted one, are
  copied.
-/

namespace Rpi5Uefi

open Bytes Lines

variable {values : BlcfgValues} {orig out : List UInt8} {outCap : Nat}

/-! ## The unmanaged lines -/

/-- The lines that no managed key starts. -/
def unmanagedLines (ls : List (Line UInt8)) : List (Line UInt8) :=
  ls.filter (fun l => (matchKey l.body).isNone)

theorem unmanagedLines_append (a b : List (Line UInt8)) :
    unmanagedLines (a ++ b) = unmanagedLines a ++ unmanagedLines b :=
  List.filter_append a b

theorem unmanagedLines_terminateAll (ls : List (Line UInt8)) :
    unmanagedLines (terminateAll ls) = terminateAll (unmanagedLines ls) := by
  unfold unmanagedLines terminateAll
  rw [List.filter_map]
  rfl

/-- A formatted line is a line of its key. -/
theorem matchKey_formatted {key : BlKey} {l : Line UInt8} (h : l ∈ formattedLines values key) :
    matchKey l.body = some key := by
  unfold formattedLines at h
  split at h
  · exact absurd h List.not_mem_nil
  · rename_i value _
    rw [List.mem_singleton.mp h]
    exact matchKey_eq_some_iff.mpr (lineHasKey_iff.mpr ⟨value, rfl⟩)

theorem unmanagedLines_formatted (key : BlKey) :
    unmanagedLines (formattedLines values key) = [] := by
  unfold unmanagedLines
  rw [List.filter_eq_nil_iff]
  intro l hl
  simp [matchKey_formatted hl]

theorem unmanagedLines_keptLines (ls : List (Line UInt8)) (seen : BlKey → Bool) :
    unmanagedLines (keptLines values ls seen) = unmanagedLines ls := by
  induction ls generalizing seen with
  | nil => rfl
  | cons line rest ih =>
    unfold keptLines
    cases hm : matchKey line.body with
    | none =>
      have ih := ih seen
      unfold unmanagedLines at ih ⊢
      rw [List.filter_cons_of_pos (by simp [hm]), List.filter_cons_of_pos (by simp [hm]), ih]
    | some key =>
      have hdrop : unmanagedLines (line :: rest) = unmanagedLines rest :=
        List.filter_cons_of_neg (by simp [hm])
      simp only [hdrop]
      split
      · exact ih seen
      · rw [unmanagedLines_append, unmanagedLines_formatted, ih, List.nil_append]

theorem unmanagedLines_appendedLines (seen : BlKey → Bool) (keys : List BlKey) :
    unmanagedLines (appendedLines values seen keys) = [] := by
  induction keys with
  | nil => rfl
  | cons key rest ih =>
    have hcons : appendedLines values seen (key :: rest) =
        (if seen key || !appendWanted key values then [] else formattedLines values key) ++
          appendedLines values seen rest := List.flatMap_cons
    rw [hcons, unmanagedLines_append, ih, List.append_nil]
    split
    · rfl
    · exact unmanagedLines_formatted key

/-- **The unmanaged lines come out as they were**, each with its newline. -/
theorem unmanagedLines_of_build (hv : values.Canonical)
    (h : blBuildNewConfigText orig values outCap = .ok out) :
    unmanagedLines (lines chLf out) = terminateAll (unmanagedLines (lines chLf orig)) := by
  obtain ⟨seen, -, hlines⟩ := lines_of_build hv h
  rw [hlines, unmanagedLines_append, unmanagedLines_terminateAll, unmanagedLines_keptLines,
    unmanagedLines_appendedLines, List.append_nil]

/-- The text without the lines of the managed keys. -/
def unmanagedText (text : List UInt8) : List UInt8 :=
  unlines chLf (unmanagedLines (lines chLf text))

theorem unmanagedText_of_build (hv : values.Canonical)
    (h : blBuildNewConfigText orig values outCap = .ok out) :
    unmanagedText out = closeText chLf (unmanagedText orig) := by
  unfold unmanagedText
  rw [unmanagedLines_of_build hv h]
  exact unlines_terminateAll ((proper_lines orig).filter _)

/-! ## The other keys -/

/-- A line of another key is not a line of a managed one. -/
theorem matchKey_of_other {line key : List UInt8} (heq : chEq ∉ key)
    (hother : ∀ k : BlKey, key ≠ k.name)
    (h : lineHasKey line key = true) : matchKey line = none := by
  obtain ⟨rest, rfl⟩ := lineHasKey_iff.mp h
  cases hm : matchKey (key ++ chEq :: rest) with
  | none => rfl
  | some k =>
    obtain ⟨rest', hrest⟩ := lineHasKey_iff.mp (matchKey_eq_some_iff.mp hm)
    -- both keys are what stands in front of the first `'='`
    have hwhile := congrArg (List.takeWhile (· != chEq)) hrest
    rw [takeWhile_key (fun c hc hce => heq (hce ▸ hc)), takeWhile_key k.name_no_eq] at hwhile
    exact absurd hwhile (hother k)

/-- The reader of another key looks at unmanaged lines only. -/
theorem filter_other {key : List UInt8} (heq : chEq ∉ key) (hother : ∀ k : BlKey, key ≠ k.name)
    (ls : List (Line UInt8)) :
    (ls.map Line.body).filter (lineHasKey · key) =
      ((unmanagedLines ls).map Line.body).filter (lineHasKey · key) := by
  unfold unmanagedLines
  rw [List.filter_map, List.filter_map, List.filter_filter]
  congr 1
  apply List.filter_congr
  intro l _
  show lineHasKey l.body key = (lineHasKey l.body key && (matchKey l.body).isNone)
  cases hl : lineHasKey l.body key with
  | false => rfl
  | true => rw [matchKey_of_other heq hother hl]; rfl

/-- **Every other key keeps its value.** -/
theorem blTextGetValue_unmanaged (hv : values.Canonical)
    (h : blBuildNewConfigText orig values outCap = .ok out) {key : List UInt8} (heq : chEq ∉ key)
    (hother : ∀ k : BlKey, key ≠ k.name) : blTextGetValue out key = blTextGetValue orig key := by
  have hbody : ∀ ls : List (Line UInt8), (terminateAll ls).map Line.body = ls.map Line.body := by
    intro ls
    unfold terminateAll
    rw [List.map_map]
    rfl
  rw [blTextGetValue_eq, blTextGetValue_eq, filter_other heq hother (lines chLf out),
    filter_other heq hother (lines chLf orig), unmanagedLines_of_build hv h, hbody]

/-! ## The room for each line -/

/-- The room the writer asks for before it writes a line. -/
def lineRoom (l : Line UInt8) : Nat := if (matchKey l.body).isNone then l.body.length + 1 else 64

/-- From `pos` on, there was room for every line. -/
def Fits (outCap : Nat) : Nat → List (Line UInt8) → Prop
  | _, [] => True
  | pos, l :: rest => pos + lineRoom l ≤ outCap ∧ Fits outCap (pos + (l.text chLf).length) rest

theorem fits_append {pos : Nat} {a b : List (Line UInt8)} :
    Fits outCap pos (a ++ b) ↔
      Fits outCap pos a ∧ Fits outCap (pos + (unlines chLf a).length) b := by
  induction a generalizing pos with
  | nil => simp [Fits]
  | cons l rest ih =>
    show pos + lineRoom l ≤ outCap ∧ Fits outCap (pos + (l.text chLf).length) (rest ++ b) ↔
      (pos + lineRoom l ≤ outCap ∧ Fits outCap (pos + (l.text chLf).length) rest) ∧ _
    rw [ih, unlines_cons, List.length_append, ← Nat.add_assoc, and_assoc]

/-- Only the last line of a proper text grows when it gets its newline, and nothing follows it. -/
theorem fits_terminateAll {pos : Nat} {ls : List (Line UInt8)} (hproper : Proper chLf ls)
    (h : Fits outCap pos ls) : Fits outCap pos (terminateAll ls) := by
  induction ls generalizing pos with
  | nil => trivial
  | cons l rest ih =>
    obtain ⟨-, hterm, hrest⟩ := hproper
    obtain ⟨hroom, hfits⟩ := h
    obtain ⟨body, terminated⟩ := l
    refine ⟨hroom, ?_⟩
    rcases hterm with hterm | ⟨rfl, -⟩
    · obtain rfl : terminated = true := hterm
      exact ih hrest hfits
    · trivial

theorem fits_formatted {pos : Nat} (hroom : pos + 64 ≤ outCap) (key : BlKey) :
    Fits outCap pos (formattedLines values key) := by
  cases hf : formattedLines values key with
  | nil => trivial
  | cons l rest =>
    have hm : matchKey l.body = some key :=
      matchKey_formatted (by rw [hf]; exact List.mem_cons_self)
    have hrest : rest = [] := by
      unfold formattedLines at hf
      split at hf
      · cases hf
      · exact (List.cons.inj hf).2.symm
    subst hrest
    refine ⟨?_, trivial⟩
    simpa [lineRoom, hm] using hroom

theorem fits_keptLines (hv : values.Canonical) {ls : List (Line UInt8)} {seen : BlKey → Bool}
    {out : List UInt8} {r : (BlKey → Bool) × List UInt8}
    (h : rewriteLines values outCap ls seen out = .ok r) :
    Fits outCap out.length (keptLines values ls seen) := by
  induction ls generalizing seen out with
  | nil => trivial
  | cons line rest ih =>
    unfold rewriteLines at h
    unfold keptLines
    cases hm : matchKey line.body with
    | none =>
      simp only [hm] at h ⊢
      split at h
      · cases h
      · rename_i hroom
        have hrest := ih h
        rw [List.length_append] at hrest
        refine ⟨?_, hrest⟩
        simp only [lineRoom, hm, Option.isNone_none, if_true]
        omega
    | some key =>
      simp only [hm] at h ⊢
      split at h
      · rename_i hs
        rw [if_pos hs]
        exact ih h
      · rename_i hs
        rw [if_neg hs]
        split at h
        · cases h
        · have hrest := ih h
          rw [formatKeyLine_of_canonical hv key (by omega), List.length_append] at hrest
          exact fits_append.mpr ⟨fits_formatted (by omega) key, hrest⟩

theorem fits_appendedLines (hv : values.Canonical) {seen : BlKey → Bool} {keys : List BlKey}
    {text out : List UInt8} (h : appendKeys values outCap seen keys text = .ok out) :
    Fits outCap text.length (appendedLines values seen keys) := by
  induction keys generalizing text with
  | nil => trivial
  | cons key rest ih =>
    have hcons : appendedLines values seen (key :: rest) =
        (if seen key || !appendWanted key values then [] else formattedLines values key) ++
          appendedLines values seen rest := List.flatMap_cons
    rw [hcons]
    unfold appendKeys at h
    split at h
    · rename_i hskip
      rw [if_pos hskip]
      exact ih h
    · rename_i hadd
      rw [if_neg hadd]
      split at h
      · cases h
      · have hrest := ih h
        rw [formatKeyLine_of_canonical hv key (by omega), List.length_append] at hrest
        exact fits_append.mpr ⟨fits_formatted (by omega) key, hrest⟩

/-- **A run that succeeded had room for every line it put out.** -/
theorem fits_of_build (hv : values.Canonical)
    (h : blBuildNewConfigText orig values outCap = .ok out) : Fits outCap 0 (lines chLf out) := by
  obtain ⟨seen', hseen', hlines⟩ := lines_of_build hv h
  obtain ⟨seen, kept, text, hrw, ht, happend⟩ := blBuildNewConfigText_ok h
  have hsame : seen' = seen := by
    funext k
    rw [hseen' k, (rewriteLines_ok hv hrw).2 k]
    rfl
  have hfront := fits_terminateAll (keptLines_proper hv (proper_lines orig) (fun _ => false))
    (fits_keptLines hv hrw)
  have hback := fits_appendedLines hv happend
  rw [unlines_of_terminateText hv hrw ht] at hback
  rw [hlines, hsame]
  refine fits_append.mpr ⟨hfront, ?_⟩
  rw [Nat.zero_add]
  exact hback

theorem Fits.mono {cap' : Nat} (hcap : outCap ≤ cap') {pos : Nat} {ls : List (Line UInt8)}
    (h : Fits outCap pos ls) : Fits cap' pos ls := by
  induction ls generalizing pos with
  | nil => trivial
  | cons l rest ih => exact ⟨Nat.le_trans h.1 hcap, ih h.2⟩

/-! ## The second run -/

theorem keyLines_nil_iff {k : BlKey} {ls : List (Line UInt8)} :
    keyLines k ls = [] ↔ hasKeyLine ls k = false := by
  unfold keyLines hasKeyLine
  rw [List.filter_eq_nil_iff, List.any_eq_false]
  refine forall₂_congr fun l _ => ?_
  rw [← matchKey_eq_some_iff]
  simp

/-- Lines with at most one line for each key, the formatted one, and that one not written yet. -/
def Settled (values : BlcfgValues) (ls : List (Line UInt8)) (seen : BlKey → Bool) : Prop :=
  ∀ k, keyLines k ls = [] ∨ (seen k = false ∧ keyLines k ls = formattedLines values k)

/-- **Settled lines are copied**: the unmanaged ones as they are, and each managed one by
formatting the same value again. -/
theorem rewriteLines_settled (hv : values.Canonical) {ls : List (Line UInt8)}
    {seen : BlKey → Bool} {text : List UInt8} (hsettled : Settled values ls seen)
    (hfits : Fits outCap text.length ls) :
    ∃ seen', rewriteLines values outCap ls seen text = .ok (seen', text ++ unlines chLf ls) := by
  induction ls generalizing seen text with
  | nil => exact ⟨seen, by simp [rewriteLines]⟩
  | cons line rest ih =>
    obtain ⟨hroom, hrest⟩ := hfits
    rw [← List.length_append] at hrest
    unfold rewriteLines
    cases hm : matchKey line.body with
    | none =>
      have hnot : ∀ k, keyLines k (line :: rest) = keyLines k rest := by
        intro k
        apply List.filter_cons_of_neg
        intro hh
        rw [matchKey_eq_some_iff.mpr hh] at hm
        cases hm
      have htail : Settled values rest seen := fun k => by
        rw [← hnot k]
        exact hsettled k
      obtain ⟨seen', hrun⟩ := ih htail hrest
      have hfit : ¬ text.length + line.body.length + 1 > outCap := by
        simp only [lineRoom, hm, Option.isNone_none, if_true] at hroom
        omega
      refine ⟨seen', ?_⟩
      simp only [if_neg hfit]
      rw [hrun, List.append_assoc, unlines_cons]
    | some key =>
      -- the line is the formatted one of its key, and the only one
      have hhas : lineHasKey line.body key.name = true := matchKey_eq_some_iff.mp hm
      have hcons : keyLines key (line :: rest) = line :: keyLines key rest :=
        List.filter_cons_of_pos hhas
      have hkey : seen key = false ∧ line :: keyLines key rest = formattedLines values key := by
        rw [← hcons]
        refine (hsettled key).resolve_left fun hnil => ?_
        rw [hcons] at hnil
        cases hnil
      obtain ⟨hseen, hline⟩ := hkey
      have honly : keyLines key rest = [] ∧ formattedLines values key = [line] := by
        unfold formattedLines at hline ⊢
        split at hline
        · cases hline
        · obtain ⟨hhead, htail⟩ := List.cons.inj hline
          exact ⟨htail, by rw [hhead]⟩
      have htail : Settled values rest (fun k => if k = key then true else seen k) := by
        intro k
        rcases eq_or_ne k key with rfl | hne
        · exact Or.inl honly.1
        · have hskip : keyLines k (line :: rest) = keyLines k rest := by
            apply List.filter_cons_of_neg
            intro hh
            exact hne (key_unique hh hhas)
          simp only [if_neg hne]
          rw [← hskip]
          exact hsettled k
      obtain ⟨seen', hrun⟩ := ih htail hrest
      have hfit : ¬ text.length + 64 > outCap := by
        simp only [lineRoom, hm] at hroom
        rw [if_neg (by simp)] at hroom
        omega
      have hformat : formatKeyLine key values (outCap - text.length) = line.text chLf := by
        rw [formatKeyLine_of_canonical hv key (by omega), honly.2]
        simp
      refine ⟨seen', ?_⟩
      simp only [hseen, if_neg hfit, hformat]
      rw [if_neg (by simp), hrun, List.append_assoc, unlines_cons]

/-- The lines of a produced text are settled. -/
theorem settled_of_build (hv : values.Canonical)
    (h : blBuildNewConfigText orig values outCap = .ok out) :
    Settled values (lines chLf out) (fun _ => false) := by
  intro k
  rw [keyLines_of_build hv h k]
  split
  · exact Or.inr ⟨rfl, rfl⟩
  · exact Or.inl rfl

/-- A wanted key has a line in the produced text, so the second run appends nothing. -/
theorem hasKeyLine_of_wanted (hv : values.Canonical)
    (h : blBuildNewConfigText orig values outCap = .ok out) {k : BlKey}
    (hwanted : appendWanted k values = true) : hasKeyLine (lines chLf out) k = true := by
  rw [← Bool.not_eq_false, ← keyLines_nil_iff, keyLines_of_build hv h k, if_pos (by simp [hwanted])]
  unfold formattedLines
  cases hk : keyValueText k values with
  | some value => exact List.cons_ne_nil _ _
  | none =>
    -- only the supply current is ever omitted, and its default is not wanted
    cases k with
    | psuMaxCurrent =>
      have hzero : values.psuMaxCurrent = 0 := by simpa [keyValueText] using hk
      simp [appendWanted, hzero] at hwanted
    | _ => simp [keyValueText] at hk

/-- Every line of a produced text has its newline. -/
theorem terminated_of_build (hv : values.Canonical)
    (h : blBuildNewConfigText orig values outCap = .ok out) :
    ∀ l ∈ lines chLf out, l.terminated = true := by
  obtain ⟨seen, -, hlines⟩ := lines_of_build hv h
  rw [hlines]
  intro l hl
  rcases List.mem_append.mp hl with hkept | happended
  · obtain ⟨l', -, rfl⟩ := List.mem_map.mp hkept
    rfl
  · obtain ⟨key, -, hkey⟩ := List.mem_flatMap.mp happended
    split at hkey
    · exact absurd hkey List.not_mem_nil
    · exact (formattedLines_proper hv key l hkey).2

theorem terminateText_of_lines {text : List UInt8}
    (h : ∀ l ∈ lines chLf text, l.terminated = true) : terminateText outCap text = .ok text := by
  unfold terminateText
  apply if_neg
  rintro ⟨hne, hlast⟩
  have htext : unlines chLf (lines chLf text) = text := unlines_lines text
  have hnil : lines chLf text ≠ [] := by
    rintro hnil
    rw [hnil] at htext
    exact hne htext.symm
  have hend : (unlines chLf (lines chLf text)).getLast? = some chLf := getLast?_unlines h hnil
  rw [htext] at hend
  exact hlast hend

theorem appendKeys_of_seen {seen : BlKey → Bool}
    (hseen : ∀ k, appendWanted k values = true → seen k = true) (keys : List BlKey)
    (text : List UInt8) : appendKeys values outCap seen keys text = .ok text := by
  induction keys with
  | nil => rfl
  | cons key rest ih =>
    unfold appendKeys
    rw [if_pos, ih]
    cases hw : appendWanted key values with
    | false => simp
    | true => simp [hseen key hw]

/-- **Rebuilding the produced text gives the same text**, in a buffer of the same size or a larger
one. -/
theorem build_of_build (hv : values.Canonical)
    (h : blBuildNewConfigText orig values outCap = .ok out) {cap' : Nat} (hcap : outCap ≤ cap') :
    blBuildNewConfigText out values cap' = .ok out := by
  have hfits : Fits cap' ([] : List UInt8).length (lines chLf out) := (fits_of_build hv h).mono hcap
  obtain ⟨seen, hrun⟩ := rewriteLines_settled hv (settled_of_build hv h) hfits
  rw [List.nil_append, unlines_lines] at hrun
  have hseen : ∀ k, seen k = hasKeyLine (lines chLf out) k := by
    intro k
    rw [(rewriteLines_ok hv hrun).2 k]
    rfl
  have hclosed : terminateText cap' out = .ok out :=
    terminateText_of_lines (terminated_of_build hv h)
  unfold blBuildNewConfigText
  rw [hrun]
  simp only [bind, Except.bind, hclosed]
  apply appendKeys_of_seen
  intro k hwanted
  rw [hseen k]
  exact hasKeyLine_of_wanted hv h hwanted

/-- The produced text does not depend on the size of the buffer. -/
theorem build_unique (hv : values.Canonical) {cap' : Nat} {out' : List UInt8}
    (h : blBuildNewConfigText orig values outCap = .ok out)
    (h' : blBuildNewConfigText orig values cap' = .ok out') : out' = out := by
  obtain ⟨seen, hseen, hlines⟩ := lines_of_build hv h
  obtain ⟨seen', hseen', hlines'⟩ := lines_of_build hv h'
  have hsame : seen' = seen := by
    funext k
    rw [hseen k, hseen' k]
  calc out' = unlines chLf (lines chLf out') := (unlines_lines out').symm
    _ = unlines chLf (lines chLf out) := by rw [hlines, hlines', hsame]
    _ = out := unlines_lines out

/-! ## The whole -/

theorem nulFree_of_canonical (hv : values.Canonical) : NulFree values := by
  intro key value hvalue
  have hfew :
      ∀ value ∈ [ascii "0", ascii "1", ascii "3000", ascii "5000"], (0 : UInt8) ∉ value := by
    decide
  rcases keyValueText_cases hv hvalue with ⟨digits, rfl, -, hhex⟩ | hmem
  · intro hzero
    rcases List.mem_append.mp hzero with hprefix | hdigits
    · exact absurd hprefix (by decide)
    · exact absurd (hhex 0 hdigits) (by decide)
  · exact hfew value hmem

/-- **A rewrite touches the managed lines only.** Of the produced text, the unmanaged lines are
those of the original, the only addition being a newline behind an unterminated last one; every
other key reads as before; and rebuilding it with the same values changes nothing. The buffer ends
up with this text, and no run stores at or beyond `OutCap`. -/
theorem configText_frame (orig : List UInt8) (values : BlcfgValues) (outCap : Nat) (mem : Mem) :
    (∀ out, values.Canonical → blBuildNewConfigText orig values outCap = .ok out →
      unmanagedLines (lines chLf out) = terminateAll (unmanagedLines (lines chLf orig)) ∧
        unmanagedText out = closeText chLf (unmanagedText orig) ∧
        (∀ key, chEq ∉ key → (∀ k : BlKey, key ≠ k.name) →
          blTextGetValue out key = blTextGetValue orig key) ∧
        (∀ cap', outCap ≤ cap' → blBuildNewConfigText out values cap' = .ok out) ∧
        (∀ cap' out', blBuildNewConfigText out values cap' = .ok out' → out' = out) ∧
        (blBuildNewConfigTextAt orig values mem outCap).1 = .success ∧
        (blBuildNewConfigTextAt orig values mem outCap).2.Holds out) ∧
      ∀ s ∈ (blBuildNewConfigTextAt orig values mem outCap).2.stored, s.1 + s.2 ≤ outCap := by
  refine ⟨?_, blBuildNewConfigTextAt_stored orig values mem outCap⟩
  intro out hv h
  have hagain := build_of_build hv h (Nat.le_refl outCap)
  have hbuffer := blBuildNewConfigTextAt_holds outCap (nulFree_of_canonical hv) orig mem
  rw [h] at hbuffer
  refine ⟨unmanagedLines_of_build hv h, unmanagedText_of_build hv h, ?_, ?_, ?_, hbuffer⟩
  · intro key heq hother
    exact blTextGetValue_unmanaged hv h heq hother
  · intro cap' hcap
    exact build_of_build hv h hcap
  · intro cap' out' h'
    exact build_unique hv hagain h'

/-- A duplicate, a comment and an unterminated last line. -/
theorem configText_frame_duplicate :
    unmanagedText (ascii "BOOT_UART=1\n# keep\nFOO=1\r\n") = ascii "# keep\nFOO=1\r\n" ∧
      blTextGetValue (ascii "BOOT_UART=1\n# keep\nFOO=1\r\n") (ascii "FOO") =
        blTextGetValue (ascii "BOOT_UART=0\n# keep\nBOOT_UART=7\nFOO=1\r") (ascii "FOO") := by
  have hframe := (configText_frame (ascii "BOOT_UART=0\n# keep\nBOOT_UART=7\nFOO=1\r")
    ⟨ascii "0xf41", 1, 0, 1, 0⟩ 4096 (fun _ => 0)).1 _
    ⟨⟨ascii "f41", by decide +kernel⟩, by decide, by decide, by decide, by decide⟩ rfl
  exact ⟨hframe.2.1, hframe.2.2.1 _ (by decide) (by intro k; cases k <;> decide)⟩

end Rpi5Uefi
