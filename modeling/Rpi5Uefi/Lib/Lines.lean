import Mathlib.Tactic.Common

/-!
# Text as a sequence of lines

Line-oriented code scans to the next newline, handles the line, and goes on behind the newline; a
last line may lack one. `lines` is that scan over a list, keeping for each line whether its
newline was there, and `unlines` writes the lines back.

* **`Proper`** is what the scan yields: no newline inside a line, only the last line
  unterminated, and an unterminated line not empty.
* **`lines_unlines`**: proper lines written out are scanned back as the same lines, so a program
  that rewrites a text line by line can be read back line by line.
* **`terminateAll`** is the text with the missing last newline added.
-/

namespace Lines

/-- A line, and whether a newline ended it. -/
structure Line (α : Type*) where
  body : List α
  terminated : Bool
  deriving DecidableEq

variable {α : Type*} [DecidableEq α]

/-- Scan a text into its lines. The empty rest behind a final newline is not a line. -/
def lines (nl : α) : List α → List (Line α)
  | [] => []
  | c :: t =>
    if c = nl then ⟨[], true⟩ :: lines nl t
    else
      match lines nl t with
      | [] => [⟨[c], false⟩]
      | l :: r => ⟨c :: l.body, l.terminated⟩ :: r

omit [DecidableEq α] in
/-- A line with its newline, when it has one. -/
def Line.text (nl : α) (l : Line α) : List α :=
  l.body ++ if l.terminated then [nl] else []

omit [DecidableEq α] in
/-- Write lines out. -/
def unlines (nl : α) (ls : List (Line α)) : List α := ls.flatMap (Line.text nl)

/-- Lines as a scan yields them. -/
def Proper (nl : α) : List (Line α) → Prop
  | [] => True
  | l :: r => nl ∉ l.body ∧ (l.terminated = true ∨ (r = [] ∧ l.body ≠ [])) ∧ Proper nl r

variable {nl : α}

omit [DecidableEq α] in
@[simp] theorem unlines_nil : unlines nl ([] : List (Line α)) = [] := rfl

omit [DecidableEq α] in
@[simp] theorem unlines_cons (l : Line α) (r : List (Line α)) :
    unlines nl (l :: r) = l.text nl ++ unlines nl r := rfl

omit [DecidableEq α] in
theorem unlines_append (a b : List (Line α)) :
    unlines nl (a ++ b) = unlines nl a ++ unlines nl b := by
  simp [unlines]

/-! ## Scanning what was written -/

theorem lines_body_cons {body : List α} (h : nl ∉ body) (rest : List α) :
    lines nl (body ++ nl :: rest) = ⟨body, true⟩ :: lines nl rest := by
  induction body with
  | nil => simp [lines]
  | cons c body ih =>
    have hc : c ≠ nl := by rintro rfl; simp at h
    have ih := ih (fun hm => h (by simp [hm]))
    simp only [List.cons_append, lines]
    rw [if_neg hc, ih]

theorem lines_body_end {body : List α} (h : nl ∉ body) (hne : body ≠ []) :
    lines nl body = [⟨body, false⟩] := by
  induction body with
  | nil => exact absurd rfl hne
  | cons c body ih =>
    have hc : c ≠ nl := by rintro rfl; simp at h
    have h' : nl ∉ body := fun hm => h (by simp [hm])
    simp only [lines]
    rw [if_neg hc]
    cases body with
    | nil => simp [lines]
    | cons d body => rw [ih h' (by simp)]

/-- **Proper lines survive being written and scanned.** -/
theorem lines_unlines {ls : List (Line α)} (h : Proper nl ls) : lines nl (unlines nl ls) = ls := by
  induction ls with
  | nil => simp [lines]
  | cons l r ih =>
    obtain ⟨hnl, hterm, hr⟩ := h
    obtain ⟨body, terminated⟩ := l
    cases terminated with
    | true =>
      have hcons := lines_body_cons hnl (unlines nl r)
      simpa [Line.text, ih hr] using hcons
    | false =>
      obtain ⟨rfl, hne⟩ : r = [] ∧ body ≠ [] := by simpa using hterm
      simpa [Line.text] using lines_body_end hnl hne

/-- The scan, a line at a time: up to the next newline, and on behind it. -/
theorem lines_eq_cons {t : List α} (h : t ≠ []) :
    lines nl t = ⟨t.takeWhile (· != nl), decide ((t.takeWhile (· != nl)).length < t.length)⟩ ::
      lines nl (t.drop ((t.takeWhile (· != nl)).length + 1)) := by
  induction t with
  | nil => exact absurd rfl h
  | cons c t ih =>
    simp only [lines]
    split
    · rename_i hc
      rw [List.takeWhile_cons_of_neg (by simp [hc])]
      simp
    · rename_i hc
      rw [List.takeWhile_cons_of_pos (by simpa using hc)]
      cases t with
      | nil => simp [lines]
      | cons d t =>
        rw [ih (List.cons_ne_nil d t)]
        simp

/-- What the scan yields is proper. -/
theorem proper_lines (t : List α) : Proper nl (lines nl t) := by
  induction t with
  | nil => trivial
  | cons c t ih =>
    simp only [lines]
    split
    · exact ⟨by simp, .inl rfl, ih⟩
    · rename_i hc
      cases hl : lines nl t with
      | nil => exact ⟨by simpa using Ne.symm hc, .inr ⟨rfl, by simp⟩, trivial⟩
      | cons l r =>
        rw [hl] at ih
        obtain ⟨hnl, hterm, hr⟩ := ih
        refine ⟨by simpa using ⟨Ne.symm hc, hnl⟩, ?_, hr⟩
        exact hterm.imp id (fun h => ⟨h.1, by simp⟩)

/-- Writing the scanned lines gives the text back. -/
theorem unlines_lines (t : List α) : unlines nl (lines nl t) = t := by
  induction t with
  | nil => rfl
  | cons c t ih =>
    simp only [lines]
    split
    · rename_i hc
      simp [Line.text, ih, hc]
    · cases hl : lines nl t with
      | nil =>
        rw [hl] at ih
        simp [Line.text, ← ih]
      | cons l r =>
        rw [hl] at ih
        simpa [Line.text] using ih

/-! ## Adding the last newline -/

omit [DecidableEq α] in
/-- The lines with every newline present. -/
def terminateAll (ls : List (Line α)) : List (Line α) := ls.map (fun l => ⟨l.body, true⟩)

omit [DecidableEq α] in
/-- Terminated lines may stand in front of proper ones. -/
theorem proper_append {a b : List (Line α)}
    (ha : ∀ l ∈ a, nl ∉ l.body ∧ l.terminated = true) (hb : Proper nl b) :
    Proper nl (a ++ b) := by
  induction a with
  | nil => exact hb
  | cons l r ih =>
    obtain ⟨hnl, hterm⟩ := ha l (by simp)
    exact ⟨hnl, .inl hterm, ih (fun x hx => ha x (by simp [hx]))⟩

omit [DecidableEq α] in
theorem proper_of_terminated {ls : List (Line α)}
    (h : ∀ l ∈ ls, nl ∉ l.body ∧ l.terminated = true) : Proper nl ls := by
  have happ := proper_append (b := []) h trivial
  simpa using happ

omit [DecidableEq α] in
theorem Proper.of_append_left {a b : List (Line α)} (h : Proper nl (a ++ b)) : Proper nl a := by
  induction a with
  | nil => trivial
  | cons l r ih =>
    obtain ⟨hnl, hterm, hr⟩ := h
    exact ⟨hnl, hterm.imp id (fun hend => ⟨(List.append_eq_nil_iff.mp hend.1).1, hend.2⟩), ih hr⟩

omit [DecidableEq α] in
theorem Proper.notMem {ls : List (Line α)} (h : Proper nl ls) : ∀ l ∈ ls, nl ∉ l.body := by
  induction ls with
  | nil => simp
  | cons l r ih =>
    obtain ⟨hnl, _, hr⟩ := h
    intro x hx
    rcases List.mem_cons.mp hx with rfl | hx
    · exact hnl
    · exact ih hr x hx

omit [DecidableEq α] in
/-- Some of the lines of a proper text are proper. -/
theorem Proper.filter {ls : List (Line α)} (h : Proper nl ls) (p : Line α → Bool) :
    Proper nl (ls.filter p) := by
  induction ls with
  | nil => trivial
  | cons l r ih =>
    obtain ⟨hnl, hterm, hr⟩ := h
    rw [List.filter_cons]
    split
    · refine ⟨hnl, hterm.imp id ?_, ih hr⟩
      rintro ⟨rfl, hne⟩
      exact ⟨rfl, hne⟩
    · exact ih hr

omit [DecidableEq α] in
/-- A text of terminated lines ends with a newline. -/
theorem getLast?_unlines {ls : List (Line α)} (h : ∀ l ∈ ls, l.terminated = true)
    (hne : ls ≠ []) : (unlines nl ls).getLast? = some nl := by
  obtain ⟨front, l, rfl⟩ : ∃ front l, ls = front ++ [l] :=
    ⟨_, _, (List.dropLast_concat_getLast hne).symm⟩
  rw [unlines_append]
  simp [Line.text, h l (by simp)]

/-- A text with its last newline added when it lacks one. -/
def closeText (nl : α) (t : List α) : List α :=
  match t.getLast? with
  | none => t
  | some c => if c = nl then t else t ++ [nl]

theorem closeText_append {a u : List α} (hu : u ≠ []) :
    closeText nl (a ++ u) = a ++ closeText nl u := by
  obtain ⟨c, hc⟩ : ∃ c, u.getLast? = some c := Option.isSome_iff_exists.mp (by simpa using hu)
  have hac : (a ++ u).getLast? = some c := by simp [List.getLast?_append, hc]
  simp only [closeText, hc, hac]
  split <;> simp

theorem closeText_of_last {t : List α} (h : nl ∉ t) (hne : t ≠ []) :
    closeText nl t = t ++ [nl] := by
  obtain ⟨c, hc⟩ : ∃ c, t.getLast? = some c := Option.isSome_iff_exists.mp (by simpa using hne)
  have hcn : c ≠ nl := by
    rintro rfl
    exact h (List.mem_of_getLast? hc)
  simp [closeText, hc, hcn]

/-- **Terminating every line of a scan adds the last newline and nothing else.** -/
theorem unlines_terminateAll {ls : List (Line α)} (h : Proper nl ls) :
    unlines nl (terminateAll ls) = closeText nl (unlines nl ls) := by
  induction ls with
  | nil => rfl
  | cons l r ih =>
    obtain ⟨hnl, hterm, hr⟩ := h
    have ih := ih hr
    obtain ⟨body, terminated⟩ := l
    cases terminated with
    | true =>
      simp only [terminateAll, List.map_cons, unlines_cons] at ih ⊢
      by_cases hu : unlines nl r = []
      · rw [ih, hu]
        simp [closeText, Line.text]
      · rw [closeText_append hu, ih]
    | false =>
      obtain ⟨rfl, hne⟩ : r = [] ∧ body ≠ [] := by simpa using hterm
      have hclose := closeText_of_last hnl hne
      simpa [terminateAll, Line.text] using hclose.symm

/-! ## The last line with a property -/

omit [DecidableEq α] in
/-- A scan that overwrites its answer at every match answers with the last one. -/
theorem foldl_lastMatch {β γ : Type*} (p : β → Bool) (f : β → γ) (l : List β) (init : Option γ) :
    l.foldl (fun acc x => if p x then some (f x) else acc) init =
      (((l.filter p).getLast?).map f).or init := by
  induction l generalizing init with
  | nil => simp
  | cons x l ih =>
    rw [List.foldl_cons, ih]
    by_cases hp : p x
    · rw [List.filter_cons_of_pos hp, if_pos hp]
      cases l.filter p with
      | nil => simp
      | cons y r => simp [List.getLast?_eq_some_getLast]
    · rw [List.filter_cons_of_neg hp, if_neg hp]

end Lines
