import Rpi5Uefi.Blcfg.RoundTrip

/-!
# The output buffer of the config text (`BlBuildNewConfigText`)

`blBuildNewConfigText` returns the text it wrote. This module follows the same code on the buffer
itself: the caller's memory behind `Out`, the position `OutPos`, and every range that was stored
to, also on the runs that end with an error.

* **`OutBuffer`**: the memory, `OutPos`, and the ranges stored so far.
* **`Holds`**: the buffer holds a text in front of `OutPos`.
* **`blBuildNewConfigTextAt_holds`**: the buffer ends up holding the text of
  `blBuildNewConfigText`, or both fail with the same status.
* **`blBuildNewConfigTextAt_stored`**: every range ends at or in front of `OutCap`.
-/

namespace Rpi5Uefi

open Bytes Lines

/-- `Out` and `OutPos`; `stored` has the offset and the length of every store. -/
structure OutBuffer where
  mem : Mem
  outPos : Nat
  stored : List (Nat × Nat)

/-- Store bytes at `OutPos` and step over them. -/
def OutBuffer.store (b : OutBuffer) (bytes : List UInt8) : OutBuffer where
  mem := b.mem.write b.outPos bytes
  outPos := b.outPos + bytes.length
  stored := b.stored ++ [(b.outPos, bytes.length)]

/-- The characters in front of the terminating NUL. -/
def cString (s : List UInt8) : List UInt8 := s.takeWhile (· != 0)

/-- `FormatKeyLine` at `&Out[OutPos]`, with the step over the bytes it emitted. -/
def formatKeyLineAt (key : BlKey) (values : BlcfgValues) (cap : Nat) (b : OutBuffer) : OutBuffer :=
  match keyValueText key values with
  | none => b
  | some value =>
    if key.name.length + 1 + (cString value).length + 1 > cap then b
    else (((b.store key.name).store [chEq]).store (cString value)).store [chLf]

/-- The loop over the lines of `Orig`. -/
def rewriteLinesAt (values : BlcfgValues) (outCap : Nat) :
    List (Line UInt8) → (BlKey → Bool) → OutBuffer → EfiStatus × (BlKey → Bool) × OutBuffer
  | [], seen, b => (.success, seen, b)
  | line :: rest, seen, b =>
    match matchKey line.body with
    | none =>
      if b.outPos + line.body.length + 1 > outCap then (.bufferTooSmall, seen, b)
      else
        let b := b.store line.body
        rewriteLinesAt values outCap rest seen (if line.terminated then b.store [chLf] else b)
    | some key =>
      if seen key then rewriteLinesAt values outCap rest seen b
      else if b.outPos + 64 > outCap then (.bufferTooSmall, seen, b)
      else
        rewriteLinesAt values outCap rest (fun k => if k = key then true else seen k)
          (formatKeyLineAt key values (outCap - b.outPos) b)

/-- The newline behind a final line that had none. -/
def terminateTextAt (outCap : Nat) (b : OutBuffer) : EfiStatus × OutBuffer :=
  if b.outPos > 0 ∧ b.mem (b.outPos - 1) ≠ chLf then
    if b.outPos + 1 > outCap then (.bufferTooSmall, b) else (.success, b.store [chLf])
  else (.success, b)

/-- The loop that appends the absent keys. -/
def appendKeysAt (values : BlcfgValues) (outCap : Nat) (seen : BlKey → Bool) :
    List BlKey → OutBuffer → EfiStatus × OutBuffer
  | [], b => (.success, b)
  | key :: rest, b =>
    if seen key || !appendWanted key values then appendKeysAt values outCap seen rest b
    else if b.outPos + 64 > outCap then (.bufferTooSmall, b)
    else
      appendKeysAt values outCap seen rest (formatKeyLineAt key values (outCap - b.outPos) b)

/-- `BlBuildNewConfigText` with the memory behind `Out`; on success `OutLen` is the last
`outPos`. -/
def blBuildNewConfigTextAt (orig : List UInt8) (values : BlcfgValues) (out : Mem) (outCap : Nat) :
    EfiStatus × OutBuffer :=
  match rewriteLinesAt values outCap (lines chLf orig) (fun _ => false) ⟨out, 0, []⟩ with
  | (status, seen, b) =>
    if status.isError then (status, b)
    else
      match terminateTextAt outCap b with
      | (status, b) =>
        if status.isError then (status, b) else appendKeysAt values outCap seen BlKey.all b

/-! ## Every store is inside the buffer -/

/-- Every range stored to ends at or in front of `outCap`. -/
def OutBuffer.Within (b : OutBuffer) (outCap : Nat) : Prop :=
  ∀ s ∈ b.stored, s.1 + s.2 ≤ outCap

theorem OutBuffer.Within.store {b : OutBuffer} {outCap : Nat} (h : b.Within outCap)
    {bytes : List UInt8} (hroom : b.outPos + bytes.length ≤ outCap) :
    (b.store bytes).Within outCap := by
  intro s hs
  rcases List.mem_append.mp hs with hold | hnew
  · exact h s hold
  · rw [List.mem_singleton.mp hnew]
    exact hroom

/-- The length check of `FormatKeyLine` is made against the room that is left. -/
theorem formatKeyLineAt_within {b : OutBuffer} {outCap : Nat} (h : b.Within outCap)
    (hpos : b.outPos ≤ outCap) (key : BlKey) (values : BlcfgValues) :
    (formatKeyLineAt key values (outCap - b.outPos) b).Within outCap := by
  unfold formatKeyLineAt
  split
  · exact h
  · split
    · exact h
    · -- the four stores follow one another
      apply OutBuffer.Within.store
      · apply OutBuffer.Within.store
        · apply OutBuffer.Within.store
          · apply OutBuffer.Within.store h
            omega
          · simp only [OutBuffer.store, List.length_singleton]
            omega
        · simp only [OutBuffer.store, List.length_singleton]
          omega
      · simp only [OutBuffer.store, List.length_singleton]
        omega

theorem rewriteLinesAt_within (values : BlcfgValues) {outCap : Nat} (ls : List (Line UInt8))
    (seen : BlKey → Bool) {b : OutBuffer} (h : b.Within outCap) :
    (rewriteLinesAt values outCap ls seen b).2.2.Within outCap := by
  induction ls generalizing seen b with
  | nil => exact h
  | cons line rest ih =>
    unfold rewriteLinesAt
    split
    · split
      · exact h
      · rename_i hroom
        apply ih
        have hline : (b.store line.body).Within outCap := h.store (by omega)
        split
        · apply hline.store
          show b.outPos + line.body.length + 1 ≤ outCap
          omega
        · exact hline
    · split
      · exact ih seen h
      · split
        · exact h
        · apply ih
          exact formatKeyLineAt_within h (by omega) _ values

theorem terminateTextAt_within {outCap : Nat} {b : OutBuffer} (h : b.Within outCap) :
    (terminateTextAt outCap b).2.Within outCap := by
  unfold terminateTextAt
  split
  · split
    · exact h
    · apply h.store
      show b.outPos + 1 ≤ outCap
      omega
  · exact h

theorem appendKeysAt_within (values : BlcfgValues) {outCap : Nat} (seen : BlKey → Bool)
    (keys : List BlKey) {b : OutBuffer} (h : b.Within outCap) :
    (appendKeysAt values outCap seen keys b).2.Within outCap := by
  induction keys generalizing b with
  | nil => exact h
  | cons key rest ih =>
    unfold appendKeysAt
    split
    · exact ih h
    · split
      · exact h
      · apply ih
        exact formatKeyLineAt_within h (by omega) _ values

/-- **No byte at or beyond `OutCap` is stored to**, whatever the text and the values, and whether
or not the run succeeds. -/
theorem blBuildNewConfigTextAt_stored (orig : List UInt8) (values : BlcfgValues) (out : Mem)
    (outCap : Nat) : (blBuildNewConfigTextAt orig values out outCap).2.Within outCap := by
  have hstart : OutBuffer.Within ⟨out, 0, []⟩ outCap := fun s hs => absurd hs List.not_mem_nil
  have hrewrite := rewriteLinesAt_within values (lines chLf orig) (fun _ => false) hstart
  unfold blBuildNewConfigTextAt
  generalize rewriteLinesAt values outCap (lines chLf orig) (fun _ => false) ⟨out, 0, []⟩ = r
    at hrewrite
  obtain ⟨status, seen, b⟩ := r
  simp only
  split
  · exact hrewrite
  · have hterminate := terminateTextAt_within hrewrite
    generalize terminateTextAt outCap b = t at hterminate
    obtain ⟨status', b'⟩ := t
    simp only
    split
    · exact hterminate
    · exact appendKeysAt_within values seen BlKey.all hterminate

/-! ## The buffer holds the text -/

/-- The bytes in front of `OutPos` are the text. -/
def OutBuffer.Holds (b : OutBuffer) (text : List UInt8) : Prop :=
  b.outPos = text.length ∧ b.mem.slice 0 text.length = text

theorem OutBuffer.Holds.store {b : OutBuffer} {text : List UInt8} (h : b.Holds text)
    (bytes : List UInt8) : (b.store bytes).Holds (text ++ bytes) := by
  obtain ⟨hpos, hslice⟩ := h
  refine ⟨?_, ?_⟩
  · simp [OutBuffer.store, hpos]
  · have hfront : (b.mem.write b.outPos bytes).slice 0 text.length = text := by
      rw [← hslice]
      simp only [Mem.length_slice]
      apply Mem.slice_congr
      intro i _ hi
      exact Mem.write_of_lt bytes (by omega)
    have hback : (b.mem.write b.outPos bytes).slice text.length bytes.length = bytes := by
      rw [← hpos]
      exact Mem.slice_write b.mem b.outPos bytes
    show (b.mem.write b.outPos bytes).slice 0 (text ++ bytes).length = text ++ bytes
    rw [List.length_append, Mem.slice_add, Nat.zero_add, hfront, hback]

/-- The last byte stored is the last one of the text. -/
theorem OutBuffer.Holds.last {b : OutBuffer} {text : List UInt8} (h : b.Holds text)
    (hne : text ≠ []) : text.getLast? = some (b.mem (b.outPos - 1)) := by
  obtain ⟨hpos, hslice⟩ := h
  have hlt : text.length - 1 < text.length := by
    have := List.length_pos_iff.mpr hne
    omega
  rw [List.getLast?_eq_getElem?, List.getElem?_eq_getElem hlt, hpos]
  have hlast : text.length - 1 < (b.mem.slice 0 text.length).length := by simpa using hlt
  have helem := Mem.getElem_slice hlast
  simp only [hslice, Nat.zero_add] at helem
  rw [helem]

/-- No value text has a NUL. -/
def NulFree (values : BlcfgValues) : Prop :=
  ∀ key value, keyValueText key values = some value → 0 ∉ value

theorem cString_of_notMem {s : List UInt8} (h : 0 ∉ s) : cString s = s := by
  unfold cString
  rw [List.takeWhile_eq_self_iff]
  intro c hc
  simp only [bne_iff_ne, ne_eq]
  rintro rfl
  exact h hc

variable {values : BlcfgValues} (outCap : Nat)

theorem formatKeyLineAt_holds (hnul : NulFree values) (key : BlKey) (cap : Nat) {b : OutBuffer}
    {text : List UInt8} (h : b.Holds text) :
    (formatKeyLineAt key values cap b).Holds (text ++ formatKeyLine key values cap) := by
  unfold formatKeyLineAt formatKeyLine
  cases hvalue : keyValueText key values with
  | none => simpa using h
  | some value =>
    simp only
    rw [cString_of_notMem (hnul key value hvalue)]
    split
    · simpa using h
    · have hstores := (((h.store key.name).store [chEq]).store value).store [chLf]
      simpa only [List.append_assoc] using hstores

/-- One run of the line loop on the buffer and on the text: both stop with the same status, or the
buffer holds the text and the same keys were seen. -/
theorem rewriteLinesAt_holds (hnul : NulFree values) (ls : List (Line UInt8))
    (seen : BlKey → Bool) {b : OutBuffer} {text : List UInt8} (h : b.Holds text) :
    match rewriteLines values outCap ls seen text with
    | .ok (seen', text') => (rewriteLinesAt values outCap ls seen b).1 = .success ∧
        (rewriteLinesAt values outCap ls seen b).2.1 = seen' ∧
        (rewriteLinesAt values outCap ls seen b).2.2.Holds text'
    | .error status => (rewriteLinesAt values outCap ls seen b).1 = status ∧ status.isError := by
  induction ls generalizing seen b text with
  | nil => exact ⟨rfl, rfl, h⟩
  | cons line rest ih =>
    have hpos := h.1
    unfold rewriteLines rewriteLinesAt
    cases hm : matchKey line.body with
    | none =>
      simp only [hpos]
      split_ifs with hroom hterm
      · exact ⟨rfl, rfl⟩
      · apply ih
        have hstores := (h.store line.body).store [chLf]
        simpa only [Line.text, hterm, if_true, List.append_assoc] using hstores
      · apply ih
        simpa [Line.text, hterm] using h.store line.body
    | some key =>
      simp only [hpos]
      split_ifs with hseen hroom
      · exact ih seen h
      · exact ⟨rfl, rfl⟩
      · apply ih
        exact formatKeyLineAt_holds hnul key _ h

/-- The test of the last byte reads it back from the buffer. -/
theorem terminateTextAt_holds {b : OutBuffer} {text : List UInt8} (h : b.Holds text) :
    match terminateText outCap text with
    | .ok text' => (terminateTextAt outCap b).1 = .success ∧
        (terminateTextAt outCap b).2.Holds text'
    | .error status => (terminateTextAt outCap b).1 = status ∧ status.isError := by
  have hcond : (text.length > 0 ∧ b.mem (text.length - 1) ≠ chLf) ↔
      (text ≠ [] ∧ text.getLast? ≠ some chLf) := by
    rw [gt_iff_lt, List.length_pos_iff]
    refine and_congr_right fun hne => ?_
    rw [h.last hne, h.1]
    simp
  unfold terminateText terminateTextAt
  simp only [h.1, hcond]
  split_ifs with hlast hroom
  · exact ⟨rfl, rfl⟩
  · exact ⟨rfl, h.store [chLf]⟩
  · exact ⟨rfl, h⟩

theorem appendKeysAt_holds (hnul : NulFree values) (seen : BlKey → Bool) (keys : List BlKey)
    {b : OutBuffer} {text : List UInt8} (h : b.Holds text) :
    match appendKeys values outCap seen keys text with
    | .ok text' => (appendKeysAt values outCap seen keys b).1 = .success ∧
        (appendKeysAt values outCap seen keys b).2.Holds text'
    | .error status => (appendKeysAt values outCap seen keys b).1 = status := by
  induction keys generalizing b text with
  | nil => exact ⟨rfl, h⟩
  | cons key rest ih =>
    have hpos := h.1
    unfold appendKeys appendKeysAt
    simp only [hpos]
    split_ifs with hskip hroom
    · exact ih h
    · rfl
    · apply ih
      exact formatKeyLineAt_holds hnul key _ h

/-- **The buffer ends up holding the text** of `blBuildNewConfigText`, or both fail alike. -/
theorem blBuildNewConfigTextAt_holds (hnul : NulFree values) (orig : List UInt8) (out : Mem) :
    match blBuildNewConfigText orig values outCap with
    | .ok text => (blBuildNewConfigTextAt orig values out outCap).1 = .success ∧
        (blBuildNewConfigTextAt orig values out outCap).2.Holds text
    | .error status => (blBuildNewConfigTextAt orig values out outCap).1 = status := by
  have hstart : OutBuffer.Holds ⟨out, 0, []⟩ [] := ⟨rfl, rfl⟩
  have hrewrite := rewriteLinesAt_holds outCap hnul (lines chLf orig)
    (fun _ => false) hstart
  unfold blBuildNewConfigText blBuildNewConfigTextAt
  generalize rewriteLinesAt values outCap (lines chLf orig) (fun _ => false) ⟨out, 0, []⟩ = r
    at hrewrite
  obtain ⟨status, seen', b⟩ := r
  cases hr : rewriteLines values outCap (lines chLf orig) (fun _ => false) [] with
  | error e =>
    rw [hr] at hrewrite
    obtain ⟨rfl, herror⟩ : status = e ∧ e.isError := hrewrite
    simp [bind, Except.bind, herror]
  | ok p =>
    obtain ⟨seen, text⟩ := p
    rw [hr] at hrewrite
    obtain ⟨rfl, rfl, hb⟩ : status = .success ∧ seen' = seen ∧ b.Holds text := hrewrite
    have hterminate := terminateTextAt_holds outCap hb
    cases ht : terminateText outCap text with
    | error e =>
      rw [ht] at hterminate
      obtain ⟨hstatus, herror⟩ := hterminate
      simp [bind, Except.bind, ht, hstatus, herror]
    | ok text' =>
      rw [ht] at hterminate
      obtain ⟨hstatus, hb'⟩ := hterminate
      have happend := appendKeysAt_holds outCap hnul seen' BlKey.all hb'
      simpa [bind, Except.bind, ht, hstatus] using happend

end Rpi5Uefi
