import Rpi5Uefi.Blcfg.Values

/-!
# Reading back a rewritten config text

`blBuildNewConfigText` keeps the **first** line of a managed key, drops the later ones, and
appends a missing key only when its value differs from the reader's default.
`blValuesFromText` takes the **last** line of a key and falls back to the default. This module
proves that the two agree on every original text: what was written is what is read.

## The architecture

* **`keptLines`, `appendedLines`**: the lines the writer puts out, without the byte bookkeeping.
  `rewriteLines_ok` and `appendKeys_ok` say that a successful writer produced exactly those.
* **`matchKey_eq_some_iff`**: no line has two managed keys, so the writer's first match over the
  keys and the reader's test for one key are the same test.
* **`keyLines_keptLines`**: of the lines of one key at most one is left, the formatted one.
* **`blTextGetValue_of_build`**: the value the reader finds for each key.
-/

namespace Rpi5Uefi

open Bytes Lines

/-! ## A line has at most one key -/

theorem lineHasKey_iff {l key : List UInt8} :
    lineHasKey l key = true ↔ ∃ rest, l = key ++ chEq :: rest := by
  constructor
  · intro h
    simp only [lineHasKey, Bool.and_eq_true, decide_eq_true_eq, beq_iff_eq, gt_iff_lt] at h
    obtain ⟨⟨hlen, htake⟩, hget⟩ := h
    refine ⟨l.drop (key.length + 1), ?_⟩
    have hsplit := List.take_append_drop key.length l
    rw [htake, List.drop_eq_getElem_cons hlen] at hsplit
    have hhead : l[key.length] = chEq := by
      rw [List.getElem?_eq_getElem hlen] at hget
      exact Option.some.inj hget
    rw [hhead] at hsplit
    exact hsplit.symm
  · rintro ⟨rest, rfl⟩
    simp [lineHasKey]

theorem BlKey.name_no_eq (k : BlKey) : ∀ c ∈ k.name, c ≠ chEq := by
  cases k <;> decide +kernel

theorem BlKey.name_no_lf (k : BlKey) : chLf ∉ k.name := by
  cases k <;> decide

theorem BlKey.name_length_le (k : BlKey) : k.name.length ≤ 17 := by
  cases k <;> decide

theorem BlKey.name_injective {k k' : BlKey} (h : k.name = k'.name) : k = k' := by
  revert h
  cases k <;> cases k' <;> decide

/-- The text in front of the first `'='` is the key. -/
theorem takeWhile_key {key : List UInt8} (h : ∀ c ∈ key, c ≠ chEq) (rest : List UInt8) :
    (key ++ chEq :: rest).takeWhile (· != chEq) = key := by
  rw [List.takeWhile_append_of_pos (by simpa using h)]
  simp

theorem key_unique {line : List UInt8} {k k' : BlKey} (h : lineHasKey line k.name = true)
    (h' : lineHasKey line k'.name = true) : k = k' := by
  obtain ⟨r, rfl⟩ := lineHasKey_iff.mp h
  obtain ⟨r', hr'⟩ := lineHasKey_iff.mp h'
  have hwhile := congrArg (List.takeWhile (· != chEq)) hr'
  rw [takeWhile_key k.name_no_eq, takeWhile_key k'.name_no_eq] at hwhile
  exact BlKey.name_injective hwhile

/-- The writer's search over the keys finds `k` exactly when the reader's test for `k` holds. -/
theorem matchKey_eq_some_iff {line : List UInt8} {k : BlKey} :
    matchKey line = some k ↔ lineHasKey line k.name = true := by
  constructor
  · intro h
    exact List.find?_some (p := fun key : BlKey => lineHasKey line key.name) h
  · intro h
    obtain ⟨k', hk'⟩ : ∃ k', matchKey line = some k' := by
      rw [← Option.isSome_iff_exists, matchKey, List.find?_isSome]
      exact ⟨k, k.mem_all, h⟩
    have hhas : lineHasKey line k'.name = true :=
      List.find?_some (p := fun key : BlKey => lineHasKey line key.name) hk'
    rw [hk', key_unique hhas h]

/-! ## The lines the writer puts out -/

/-- The line of one key, none where the key is omitted. -/
def formattedLines (values : BlcfgValues) (key : BlKey) : List (Line UInt8) :=
  match keyValueText key values with
  | none => []
  | some value => [⟨key.name ++ chEq :: value, true⟩]

/-- What is left of the original lines, from a state of `Seen`. -/
def keptLines (values : BlcfgValues) : List (Line UInt8) → (BlKey → Bool) → List (Line UInt8)
  | [], _ => []
  | line :: rest, seen =>
    match matchKey line.body with
    | none => line :: keptLines values rest seen
    | some key =>
      if seen key then keptLines values rest seen
      else formattedLines values key ++
        keptLines values rest (fun k => if k = key then true else seen k)

/-- Does some line have the key? -/
def hasKeyLine (ls : List (Line UInt8)) (key : BlKey) : Bool :=
  ls.any (fun l => matchKey l.body == some key)

/-- The lines of the keys that were absent and are wanted. -/
def appendedLines (values : BlcfgValues) (seen : BlKey → Bool) (keys : List BlKey) :
    List (Line UInt8) :=
  keys.flatMap (fun key =>
    if seen key || !appendWanted key values then [] else formattedLines values key)

/-! ## Canonical values are short and stay on their line -/

/-- The bytes of a value text: at most ten, and no end-of-line byte among them. -/
def PlainValue (value : List UInt8) : Prop :=
  value.length ≤ 10 ∧ chLf ∉ value ∧ chCr ∉ value

instance (value : List UInt8) : Decidable (PlainValue value) :=
  inferInstanceAs (Decidable (_ ∧ _ ∧ _))

theorem isLowerHex_ne {c : UInt8} (h : isLowerHex c = true) : c ≠ chLf ∧ c ≠ chCr := by
  constructor <;> rintro rfl <;> revert h <;> decide

variable {values : BlcfgValues}

/-- **The value texts**: a boot order, or one of four others. -/
theorem keyValueText_cases (hv : values.Canonical) {key : BlKey} {value : List UInt8}
    (h : keyValueText key values = some value) :
    (∃ digits : List UInt8, value = ascii "0x" ++ digits ∧ digits.length ≤ 8 ∧
        ∀ c ∈ digits, isLowerHex c = true) ∨
      value ∈ [ascii "0", ascii "1", ascii "3000", ascii "5000"] := by
  have hflag : ∀ b : UInt8, b = 0 ∨ b = 1 →
      [chZero + b] ∈ [ascii "0", ascii "1", ascii "3000", ascii "5000"] := by
    rintro b (rfl | rfl) <;> decide
  cases key with
  | bootOrder =>
    obtain ⟨digits, hbo, -, hle, hhex⟩ := hv.bootOrder
    simp only [keyValueText, Option.some.injEq] at h
    exact Or.inl ⟨digits, h ▸ hbo, hle, hhex⟩
  | bootUart =>
    simp only [keyValueText, Option.some.injEq] at h
    exact Or.inr (h ▸ hflag _ hv.bootUart)
  | powerOffOnHalt =>
    simp only [keyValueText, Option.some.injEq] at h
    exact Or.inr (h ▸ hflag _ hv.powerOffOnHalt)
  | wakeOnGpio =>
    simp only [keyValueText, Option.some.injEq] at h
    exact Or.inr (h ▸ hflag _ hv.wakeOnGpio)
  | psuMaxCurrent =>
    rcases hv.psuMaxCurrent with hp | hp | hp
    · simp [keyValueText, hp] at h
    · have hd : psuDigits 3000 = ascii "3000" := by decide
      simp only [keyValueText, hp, hd] at h
      rw [if_neg (by decide), Option.some.injEq] at h
      exact Or.inr (h ▸ by decide)
    · have hd : psuDigits 5000 = ascii "5000" := by decide
      simp only [keyValueText, hp, hd] at h
      rw [if_neg (by decide), Option.some.injEq] at h
      exact Or.inr (h ▸ by decide)

theorem plainValue_of_canonical (hv : values.Canonical) {key : BlKey} {value : List UInt8}
    (h : keyValueText key values = some value) : PlainValue value := by
  rcases keyValueText_cases hv h with ⟨digits, rfl, hle, hhex⟩ | hfew
  · have hprefix : (ascii "0x").length = 2 := by decide
    refine ⟨?_, fun hmem => ?_, fun hmem => ?_⟩
    · rw [List.length_append, hprefix]
      omega
    · rcases List.mem_append.mp hmem with hm | hm
      · exact absurd hm (by decide)
      · exact (isLowerHex_ne (hhex _ hm)).1 rfl
    · rcases List.mem_append.mp hmem with hm | hm
      · exact absurd hm (by decide)
      · exact (isLowerHex_ne (hhex _ hm)).2 rfl
  · have hall : ∀ value ∈ [ascii "0", ascii "1", ascii "3000", ascii "5000"], PlainValue value := by
      decide
    exact hall value hfew

/-- With the 64 bytes of room the callers leave, the formatted line is never cut. -/
theorem formatKeyLine_of_canonical (hv : values.Canonical) (key : BlKey) {cap : Nat}
    (hcap : 64 ≤ cap) :
    formatKeyLine key values cap = unlines chLf (formattedLines values key) := by
  unfold formatKeyLine formattedLines
  cases hk : keyValueText key values with
  | none => rfl
  | some value =>
    have hlen := (plainValue_of_canonical hv hk).1
    have hname := key.name_length_le
    simp only
    rw [if_neg (by omega)]
    simp [Line.text]

theorem formattedLines_proper (hv : values.Canonical) (key : BlKey) :
    ∀ l ∈ formattedLines values key, chLf ∉ l.body ∧ l.terminated = true := by
  intro l hl
  unfold formattedLines at hl
  cases hk : keyValueText key values with
  | none => simp [hk] at hl
  | some value =>
    simp only [hk, List.mem_singleton] at hl
    subst hl
    have hlf := (plainValue_of_canonical hv hk).2.1
    have hname := key.name_no_lf
    have heq : chLf ≠ chEq := by decide
    refine ⟨?_, rfl⟩
    simp [hname, hlf, heq]

/-! ## The writer produces those lines -/

theorem rewriteLines_ok (hv : values.Canonical) {outCap : Nat} {ls : List (Line UInt8)}
    {seen seen' : BlKey → Bool} {out out' : List UInt8}
    (h : rewriteLines values outCap ls seen out = .ok (seen', out')) :
    out' = out ++ unlines chLf (keptLines values ls seen) ∧
      ∀ k, seen' k = (seen k || hasKeyLine ls k) := by
  induction ls generalizing seen out with
  | nil =>
    simp only [rewriteLines, Except.ok.injEq, Prod.mk.injEq] at h
    obtain ⟨rfl, rfl⟩ := h
    simp [keptLines, hasKeyLine]
  | cons line rest ih =>
    unfold rewriteLines at h
    cases hm : matchKey line.body with
    | none =>
      simp only [hm] at h
      split at h
      · cases h
      · obtain ⟨hout, hseen⟩ := ih h
        refine ⟨?_, ?_⟩
        · rw [hout]
          simp [keptLines, hm]
        · intro k
          rw [hseen k]
          simp [hasKeyLine, hm]
    | some key =>
      simp only [hm] at h
      split at h
      · -- a duplicate: dropped, and its key was seen before
        rename_i hs
        obtain ⟨hout, hseen⟩ := ih h
        refine ⟨?_, ?_⟩
        · rw [hout]
          simp [keptLines, hm, hs]
        · intro k
          rw [hseen k]
          by_cases hk : k = key
          · subst hk
            simp [hs]
          · have hne : (key == k) = false := beq_eq_false_iff_ne.mpr (Ne.symm hk)
            simp [hasKeyLine, hm, hne]
      · rename_i hs
        split at h
        · cases h
        · rename_i hroom
          obtain ⟨hout, hseen⟩ := ih h
          refine ⟨?_, ?_⟩
          · rw [hout, formatKeyLine_of_canonical hv key (by omega)]
            simp [keptLines, hm, hs, unlines_append]
          · intro k
            rw [hseen k]
            by_cases hk : k = key
            · subst hk
              simp [hasKeyLine, hm]
            · have hne : (key == k) = false := beq_eq_false_iff_ne.mpr (Ne.symm hk)
              simp [hasKeyLine, hm, hk, hne]

theorem terminateText_ok {outCap : Nat} {out out' : List UInt8}
    (h : terminateText outCap out = .ok out') : out' = closeText chLf out := by
  unfold terminateText at h
  unfold closeText
  cases hl : out.getLast? with
  | none =>
    have hnil : out = [] := by simpa using hl
    subst hnil
    simpa using h.symm
  | some c =>
    have hne : out ≠ [] := by rintro rfl; simp at hl
    simp only [hl, hne, ne_eq, not_false_eq_true, true_and, Option.some.injEq] at h ⊢
    by_cases hc : c = chLf
    · rw [if_pos hc]
      rw [if_neg (by simpa using hc)] at h
      exact (Except.ok.inj h).symm
    · rw [if_neg hc]
      rw [if_pos (by simpa using hc)] at h
      split at h
      · cases h
      · exact (Except.ok.inj h).symm

theorem appendKeys_ok (hv : values.Canonical) {outCap : Nat} {seen : BlKey → Bool}
    {keys : List BlKey} {out out' : List UInt8}
    (h : appendKeys values outCap seen keys out = .ok out') :
    out' = out ++ unlines chLf (appendedLines values seen keys) := by
  induction keys generalizing out with
  | nil =>
    simp only [appendKeys, Except.ok.injEq] at h
    simp [h, appendedLines]
  | cons key rest ih =>
    unfold appendKeys at h
    split at h
    · rename_i hskip
      rw [ih h]
      simp only [appendedLines, List.flatMap_cons, if_pos hskip, List.nil_append]
    · rename_i hadd
      split at h
      · cases h
      · rw [ih h, formatKeyLine_of_canonical hv key (by omega)]
        simp only [appendedLines, List.flatMap_cons, if_neg hadd, unlines_append,
          List.append_assoc]

/-! ## What is left of one key -/

theorem keptLines_proper (hv : values.Canonical) {ls : List (Line UInt8)} (h : Proper chLf ls)
    (seen : BlKey → Bool) : Proper chLf (keptLines values ls seen) := by
  induction ls generalizing seen with
  | nil => trivial
  | cons line rest ih =>
    obtain ⟨hnl, hterm, hrest⟩ := h
    unfold keptLines
    cases hm : matchKey line.body with
    | none =>
      refine ⟨hnl, hterm.imp id ?_, ih hrest seen⟩
      rintro ⟨rfl, hne⟩
      exact ⟨rfl, hne⟩
    | some key =>
      simp only
      split
      · exact ih hrest seen
      · exact proper_append (formattedLines_proper hv key) (ih hrest _)

/-- The reader's lines for `k`: those that start with `k` and an `'='`. -/
def keyLines (k : BlKey) (ls : List (Line UInt8)) : List (Line UInt8) :=
  ls.filter (fun l => lineHasKey l.body k.name)

theorem keyLines_formatted (k key : BlKey) :
    keyLines k (formattedLines values key) = if key = k then formattedLines values k else [] := by
  unfold formattedLines keyLines
  by_cases hk : key = k
  · subst hk
    rw [if_pos rfl]
    cases keyValueText key values with
    | none => rfl
    | some value =>
      have hhas : lineHasKey (key.name ++ chEq :: value) key.name = true :=
        lineHasKey_iff.mpr ⟨value, rfl⟩
      simp [hhas]
  · rw [if_neg hk]
    cases keyValueText key values with
    | none => rfl
    | some value =>
      have hhas : lineHasKey (key.name ++ chEq :: value) key.name = true :=
        lineHasKey_iff.mpr ⟨value, rfl⟩
      have hnot : lineHasKey (key.name ++ chEq :: value) k.name = false := by
        rw [Bool.eq_false_iff]
        intro hh
        exact hk (key_unique hhas hh)
      simp [hnot]

/-- **At most one line of a key is left**: the formatted one, where the key was there and had not
been written yet. -/
theorem keyLines_keptLines (ls : List (Line UInt8)) (seen : BlKey → Bool) (k : BlKey) :
    keyLines k (keptLines values ls seen) =
      if !seen k && hasKeyLine ls k then formattedLines values k else [] := by
  induction ls generalizing seen with
  | nil => simp [keptLines, keyLines, hasKeyLine]
  | cons line rest ih =>
    unfold keptLines
    cases hm : matchKey line.body with
    | none =>
      -- an unmanaged line is nobody's line
      have hnot : lineHasKey line.body k.name = false := by
        rw [Bool.eq_false_iff]
        intro hh
        rw [matchKey_eq_some_iff.mpr hh] at hm
        cases hm
      have ih := ih seen
      unfold keyLines at ih ⊢
      rw [List.filter_cons_of_neg (by simp [hnot]), ih]
      simp [hasKeyLine, hm]
    | some key =>
      simp only
      by_cases hs : seen key
      · rw [if_pos hs, ih seen]
        by_cases hk : key = k
        · subst hk
          simp [hs]
        · simp [hasKeyLine, hm, hk]
      · rw [if_neg hs]
        have happ : ∀ a b, keyLines k (a ++ b) = keyLines k a ++ keyLines k b :=
          fun a b => List.filter_append a b
        rw [happ, keyLines_formatted, ih]
        by_cases hk : key = k
        · subst hk
          simp [hasKeyLine, hm, hs]
        · simp [hasKeyLine, hm, hk, Ne.symm hk]

theorem keyLines_appendedLines (seen : BlKey → Bool) (k : BlKey) :
    keyLines k (appendedLines values seen BlKey.all) =
      if !seen k && appendWanted k values then formattedLines values k else [] := by
  have hone : ∀ key, keyLines k
      (if seen key || !appendWanted key values then [] else formattedLines values key) =
      if key = k then (if !seen k && appendWanted k values then formattedLines values k else [])
      else [] := by
    intro key
    by_cases hk : key = k
    · subst hk
      by_cases hs : seen key <;> by_cases ha : appendWanted key values
      · simp [hs, keyLines]
      · simp [hs, keyLines]
      · simp [hs, ha, keyLines_formatted]
      · simp [hs, ha, keyLines]
    · rw [if_neg hk]
      split
      · rfl
      · rw [keyLines_formatted, if_neg hk]
  have hflat : ∀ keys : List BlKey, keyLines k (keys.flatMap (fun key =>
      if seen key || !appendWanted key values then [] else formattedLines values key)) =
      keys.flatMap (fun key => if key = k then
        (if !seen k && appendWanted k values then formattedLines values k else []) else []) := by
    intro keys
    induction keys with
    | nil => rfl
    | cons key rest ih =>
      rw [List.flatMap_cons, List.flatMap_cons, ← ih, ← hone key]
      exact List.filter_append _ _
  unfold appendedLines
  rw [hflat]
  cases k <;> simp [BlKey.all]

/-! ## The reader's value for each key -/

/-- The three stages of a run that succeeds. -/
theorem blBuildNewConfigText_ok {orig out : List UInt8} {outCap : Nat}
    (h : blBuildNewConfigText orig values outCap = .ok out) :
    ∃ seen kept text,
      rewriteLines values outCap (lines chLf orig) (fun _ => false) [] = .ok (seen, kept) ∧
        terminateText outCap kept = .ok text ∧
        appendKeys values outCap seen BlKey.all text = .ok out := by
  unfold blBuildNewConfigText at h
  cases hrw : rewriteLines values outCap (lines chLf orig) (fun _ => false) [] with
  | error e => rw [hrw] at h; cases h
  | ok r =>
    obtain ⟨seen, kept⟩ := r
    rw [hrw] at h
    cases ht : terminateText outCap kept with
    | error e => simp only [bind, Except.bind, ht] at h; cases h
    | ok text =>
      simp only [bind, Except.bind, ht] at h
      exact ⟨seen, kept, text, rfl, ht, h⟩

/-- The text in front of the appended keys: the kept lines, each with its newline. -/
theorem unlines_of_terminateText (hv : values.Canonical) {orig kept text : List UInt8}
    {outCap : Nat} {seen : BlKey → Bool}
    (hrw : rewriteLines values outCap (lines chLf orig) (fun _ => false) [] = .ok (seen, kept))
    (ht : terminateText outCap kept = .ok text) :
    text = unlines chLf (terminateAll (keptLines values (lines chLf orig) (fun _ => false))) := by
  have hprop := keptLines_proper hv (proper_lines orig) (fun _ => false)
  rw [terminateText_ok ht, unlines_terminateAll hprop, (rewriteLines_ok hv hrw).1]
  rfl

/-- The lines of the produced text. -/
theorem lines_of_build (hv : values.Canonical) {orig out : List UInt8} {outCap : Nat}
    (h : blBuildNewConfigText orig values outCap = .ok out) :
    ∃ seen : BlKey → Bool, (∀ k, seen k = hasKeyLine (lines chLf orig) k) ∧
      lines chLf out = terminateAll (keptLines values (lines chLf orig) (fun _ => false)) ++
        appendedLines values seen BlKey.all := by
  obtain ⟨seen, kept, text, hrw, ht, happend⟩ := blBuildNewConfigText_ok h
  have hseen := (rewriteLines_ok hv hrw).2
  have hprop := keptLines_proper hv (proper_lines orig) (fun _ => false)
  refine ⟨seen, by simpa using hseen, ?_⟩
  rw [appendKeys_ok hv happend, unlines_of_terminateText hv hrw ht, ← unlines_append]
  refine lines_unlines (proper_append ?_ (proper_of_terminated ?_))
  · intro l hl
    obtain ⟨l', hl', rfl⟩ := List.mem_map.mp hl
    exact ⟨hprop.notMem l' hl', rfl⟩
  · intro l hl
    obtain ⟨key, -, hkey⟩ := List.mem_flatMap.mp hl
    split at hkey
    · simp at hkey
    · exact formattedLines_proper hv key l hkey

theorem keyLines_terminateAll (k : BlKey) (ls : List (Line UInt8)) :
    keyLines k (terminateAll ls) = terminateAll (keyLines k ls) := by
  unfold keyLines terminateAll
  rw [List.filter_map]
  rfl

theorem terminateAll_formattedLines (k : BlKey) :
    terminateAll (formattedLines values k) = formattedLines values k := by
  unfold formattedLines
  cases keyValueText k values <;> rfl

theorem lineValue_formatted (hv : values.Canonical) {k : BlKey} {value : List UInt8}
    (h : keyValueText k values = some value) :
    lineValue (k.name ++ chEq :: value) k.name = value := by
  have hcr := (plainValue_of_canonical hv h).2.2
  have hdrop : (k.name ++ chEq :: value).drop (k.name.length + 1) = value := by
    rw [List.drop_append]
    simp
  unfold lineValue
  rw [hdrop]
  refine if_neg (fun hlast => ?_)
  exact hcr (List.mem_of_getLast? hlast)

/-- **The last line with the key has the value.** -/
theorem blTextGetValue_eq (text key : List UInt8) :
    blTextGetValue text key =
      (((lines chLf text).map Line.body).filter (lineHasKey · key)).getLast?.map
        (lineValue · key) := by
  unfold blTextGetValue
  induction lines chLf text using List.reverseRecOn with
  | nil => rfl
  | append_singleton ls l ih =>
    rw [List.foldl_append, ih, List.map_append, List.filter_append]
    by_cases hkey : lineHasKey l.body key = true
    · simp [hkey]
    · simp [hkey]

/-- The value of a key whose only line, if there is one, is the formatted one. -/
theorem blTextGetValue_of_keyLines (hv : values.Canonical) {text : List UInt8} {k : BlKey}
    {present : Bool} (h : keyLines k (lines chLf text) =
      if present then formattedLines values k else []) :
    blTextGetValue text k.name = if present then keyValueText k values else none := by
  unfold keyLines at h
  unfold blTextGetValue
  rw [foldl_lastMatch (fun l : Line UInt8 => lineHasKey l.body k.name), h]
  split
  · unfold formattedLines
    cases hk : keyValueText k values with
    | none => rfl
    | some value => simp [lineValue_formatted hv hk]
  · rfl

/-- The lines of each key in the produced text: the formatted one, where the key was in the
original text or had to be appended. -/
theorem keyLines_of_build (hv : values.Canonical) {orig out : List UInt8} {outCap : Nat}
    (h : blBuildNewConfigText orig values outCap = .ok out) (k : BlKey) :
    keyLines k (lines chLf out) =
      if hasKeyLine (lines chLf orig) k || appendWanted k values then formattedLines values k
      else [] := by
  obtain ⟨seen, hseen, hlines⟩ := lines_of_build hv h
  have happ : keyLines k (lines chLf out) =
      keyLines k (terminateAll (keptLines values (lines chLf orig) (fun _ => false))) ++
        keyLines k (appendedLines values seen BlKey.all) := by
    rw [hlines]
    exact List.filter_append _ _
  rw [keyLines_terminateAll, keyLines_keptLines, keyLines_appendedLines, hseen k] at happ
  refine happ.trans ?_
  by_cases hk : hasKeyLine (lines chLf orig) k
  · simp [hk, terminateAll_formattedLines]
  · simp [hk, terminateAll]

/-- **What the reader finds for each key**: the requested value, where the key was in the original
text or had to be appended, and nothing otherwise. -/
theorem blTextGetValue_of_build (hv : values.Canonical) {orig out : List UInt8} {outCap : Nat}
    (h : blBuildNewConfigText orig values outCap = .ok out) (k : BlKey) :
    blTextGetValue out k.name =
      if hasKeyLine (lines chLf orig) k || appendWanted k values then keyValueText k values
      else none :=
  blTextGetValue_of_keyLines hv (keyLines_of_build hv h k)

/-! ## Reading a canonical value -/

theorem isBlank_of_isLowerHex {c : UInt8} (h : isLowerHex c = true) : isBlank c = false := by
  rw [Bool.eq_false_iff]
  intro hb
  simp only [isBlank, Bool.or_eq_true, beq_iff_eq] at hb
  rcases hb with rfl | rfl <;> revert h <;> decide

theorem canonHexDigit_of_isLowerHex {c : UInt8} (h : isLowerHex c = true) :
    canonHexDigit c = some c := by
  simp only [isLowerHex, Bool.or_eq_true, Bool.and_eq_true, decide_eq_true_eq] at h
  have hup : ¬ (0x41 ≤ c ∧ c ≤ 0x46) := by
    rintro ⟨h1, h2⟩
    rcases h with ⟨-, h4⟩ | ⟨h3, -⟩
    · exact absurd (UInt8.le_trans h1 h4) (by decide)
    · exact absurd (UInt8.le_trans h3 h2) (by decide)
  simp only [canonHexDigit, if_neg hup, if_pos h]

theorem mapM_canonHexDigit {digits : List UInt8} (h : ∀ c ∈ digits, isLowerHex c = true) :
    digits.mapM canonHexDigit = some digits := by
  induction digits with
  | nil => rfl
  | cons c rest ih =>
    have hc := canonHexDigit_of_isLowerHex (h c (by simp))
    have hrest := ih (fun d hd => h d (by simp [hd]))
    rw [List.mapM_cons, hc, hrest]
    rfl

/-- A canonical `BOOT_ORDER` is read back unchanged. -/
theorem parseBootOrder_canonical (hv : values.Canonical) :
    parseBootOrder values.bootOrder = some values.bootOrder := by
  obtain ⟨digits, hbo, hpos, hle, hhex⟩ := hv.bootOrder
  have hx : ascii "0x" = [0x30, 0x78] := by decide
  obtain ⟨d, rest, rfl⟩ : ∃ d rest, digits = d :: rest := by
    cases digits with
    | nil => simp at hpos
    | cons d rest => exact ⟨d, rest, rfl⟩
  -- neither end is blank, so nothing is trimmed
  have hfront : (values.bootOrder.dropWhile isBlank) = values.bootOrder := by
    rw [hbo, hx]
    rfl
  have hback : values.bootOrder.rdropWhile isBlank = values.bootOrder := by
    rw [List.rdropWhile_eq_self_iff]
    intro hne
    have hlast : values.bootOrder.getLast hne ∈ d :: rest := by
      have happ : values.bootOrder.getLast hne = (d :: rest).getLast (by simp) := by
        simp only [hbo]
        exact List.getLast_append_of_ne_nil _ (by simp)
      rw [happ]
      exact List.getLast_mem _
    simp [isBlank_of_isLowerHex (hhex _ hlast)]
  have hdrop : dropHexPrefix values.bootOrder = d :: rest := by
    rw [hbo, hx]
    rfl
  unfold parseBootOrder
  rw [hfront, hback, hdrop]
  simp only
  rw [if_neg (by simpa using hle), mapM_canonHexDigit hhex, hbo]
  rfl

/-- A flag that was written as one digit, or left out because it is the default, is read back. -/
theorem flagFromText_of_get {text key : List UInt8} {b : UInt8} (dflt : UInt8)
    (hb : b = 0 ∨ b = 1) {present : Bool}
    (hget : blTextGetValue text key = if present || b != dflt then some [chZero + b] else none) :
    flagFromText text key dflt = b := by
  unfold flagFromText
  rw [hget]
  by_cases hp : present || b != dflt
  · have hdec : (parseDecimal [chZero + b]).map (fun n => if n ≠ 0 then (1 : UInt8) else 0) =
        some b := by
      rcases hb with rfl | rfl <;> decide
    obtain ⟨n, hn, hnb⟩ := Option.map_eq_some_iff.mp hdec
    rw [if_pos hp, Option.bind_some, hn]
    exact hnb
  · rw [if_neg hp]
    simp only [Bool.or_eq_true, bne_iff_ne, ne_eq, not_or, Decidable.not_not] at hp
    exact hp.2.symm

theorem psuMaxCurrent_of_get (hv : values.Canonical) {text : List UInt8} {present : Bool}
    (hget : blTextGetValue text BlKey.psuMaxCurrent.name =
      if present || appendWanted .psuMaxCurrent values then keyValueText .psuMaxCurrent values
      else none) : (blValuesFromText text).psuMaxCurrent = values.psuMaxCurrent := by
  simp only [blValuesFromText, hget]
  rcases hv.psuMaxCurrent with hp | hp | hp
  · simp [keyValueText, appendWanted, hp, setDefaults]
  · have hsnap : (parseDecimal (psuDigits 3000)).map (snapPsuMaxCurrent · 0) = some 3000 := by
      decide
    obtain ⟨n, hn, hs⟩ := Option.map_eq_some_iff.mp hsnap
    simp [keyValueText, appendWanted, hp, setDefaults, hn, hs]
  · have hsnap : (parseDecimal (psuDigits 5000)).map (snapPsuMaxCurrent · 0) = some 5000 := by
      decide
    obtain ⟨n, hn, hs⟩ := Option.map_eq_some_iff.mp hsnap
    simp [keyValueText, appendWanted, hp, setDefaults, hn, hs]

/-- Reading field by field gives the requested values, where only defaults were left out. -/
theorem blValuesFromText_of_get (hv : values.Canonical) {text : List UInt8} (present : BlKey → Bool)
    (hget : ∀ k, blTextGetValue text k.name =
      if present k || appendWanted k values then keyValueText k values else none) :
    blValuesFromText text = values := by
  have hpsu := psuMaxCurrent_of_get hv (hget .psuMaxCurrent)
  have huart := flagFromText_of_get 0 hv.bootUart (hget .bootUart)
  have hhalt := flagFromText_of_get 0 hv.powerOffOnHalt (hget .powerOffOnHalt)
  have hgpio := flagFromText_of_get 1 hv.wakeOnGpio (hget .wakeOnGpio)
  have horder : (blValuesFromText text).bootOrder = values.bootOrder := by
    simp only [blValuesFromText, hget .bootOrder]
    split
    · rename_i order hsome
      split at hsome
      · simp only [keyValueText, Option.bind_some, parseBootOrder_canonical hv,
          Option.some.injEq] at hsome
        exact hsome.symm
      · cases hsome
    · rename_i hnone
      split at hnone
      · simp [keyValueText, parseBootOrder_canonical hv] at hnone
      · rename_i hdef
        simp only [appendWanted, Bool.or_eq_true, bne_iff_ne, ne_eq, not_or,
          Decidable.not_not] at hdef
        exact hdef.2.symm
  cases values
  simp only [blValuesFromText, BlcfgValues.mk.injEq] at *
  exact ⟨horder, huart, hhalt, hgpio, hpsu⟩

theorem blValuesFromText_of_build {orig out : List UInt8} {values : BlcfgValues} {outCap : Nat}
    (hv : values.Canonical) (h : blBuildNewConfigText orig values outCap = .ok out) :
    blValuesFromText out = values :=
  blValuesFromText_of_get hv (hasKeyLine (lines chLf orig)) (blTextGetValue_of_build hv h)

/-- **The round trip.** Whatever the original text, the text the writer produces is read back as
the requested values. -/
theorem configText_roundTrip (orig : List UInt8) (values : BlcfgValues) (outCap : Nat)
    (out : List UInt8) (hv : values.Canonical)
    (h : blBuildNewConfigText orig values outCap = .ok out) : blValuesFromText out = values :=
  blValuesFromText_of_build hv h

/-- A text with a duplicated key, a carriage return, a bad number and an unterminated last line. -/
theorem configText_roundTrip_duplicates :
    blValuesFromText (ascii "BOOT_UART=1\n[all]\nWAKE_ON_GPIO=0\n") =
      ⟨ascii "0xf41", 1, 0, 0, 0⟩ :=
  configText_roundTrip (ascii "BOOT_UART=0\r\n[all]\nBOOT_UART=7\nPSU_MAX_CURRENT=x")
    ⟨ascii "0xf41", 1, 0, 0, 0⟩ 4096 _
    ⟨⟨ascii "f41", by decide +kernel⟩, by decide, by decide, by decide, by decide⟩ rfl

end Rpi5Uefi
