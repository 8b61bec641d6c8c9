import Mathlib.Tactic.Common

/-!
# Walking a chain of self-sized records

Many storage formats are a chain of records: the header at an offset says where the next record
starts, that the chain ends there, or that the bytes there are no header at all. A reader walks
the chain from a start offset into a table of bounded size and gives up on a bad header or a
full table.

* **`Head`** is what a reader sees at one offset, **`walk`** the bounded walk.
* **`Path`** is the part of a walk that has happened: the records passed between two offsets,
  with no bound and no statement about what comes after. It composes, splits and survives a
  change of the bytes behind it, which `walk` does not. **`Reaches`** forgets the records.
* **`walk_of_path`** connects the two: a walk is the path to any offset it passes, followed by
  the walk from there with the room that is left.

All of it is about a function from offsets to heads, so a change of the underlying bytes is a
second such function that agrees with the first where the bytes did not change.
-/

namespace Chain

/-- What a header says: the chain ends, the header is bad, or a record and the next offset. -/
inductive Head (α : Type*) where
  | stop
  | corrupt
  | record (a : α) (next : Nat)
  deriving DecidableEq

variable {α : Type*}

/-- Walk from `o` into a table with room for `cap` records. `none` is a bad header or a chain
that does not fit the table. -/
def walk (head : Nat → Head α) : Nat → Nat → Option (List α)
  | o, cap =>
    match head o with
    | .stop => some []
    | .corrupt => none
    | .record a next =>
      match cap with
      | 0 => none
      | cap + 1 => (walk head next cap).map (a :: ·)

/-- `Path head o l m`: walking from `o` passes the records `l` and arrives at `m`. -/
inductive Path (head : Nat → Head α) : Nat → List α → Nat → Prop where
  | nil (o : Nat) : Path head o [] o
  | cons {o next m : Nat} {a : α} {l : List α} (hhead : head o = .record a next)
      (rest : Path head next l m) : Path head o (a :: l) m

/-- Every record of the chain ends behind the offset where it starts. -/
def Ascending (head : Nat → Head α) : Prop :=
  ∀ o a next, head o = .record a next → o < next

variable {head head' : Nat → Head α} {o m n cap : Nat} {l l' : List α} {a : α}

/-! ## Paths compose, split and are unique -/

theorem Path.append (h : Path head o l m) (h' : Path head m l' n) :
    Path head o (l ++ l') n := by
  induction h with
  | nil _ => exact h'
  | cons hhead _ ih => exact .cons hhead (ih h')

theorem Path.single (h : head o = .record a n) : Path head o [a] n :=
  .cons h (.nil n)

theorem Path.uncons (h : Path head o (a :: l) m) :
    ∃ n, head o = .record a n ∧ Path head n l m := by
  cases h with
  | cons hhead rest => exact ⟨_, hhead, rest⟩

theorem Path.split (h : Path head o (l ++ l') n) :
    ∃ m, Path head o l m ∧ Path head m l' n := by
  induction l generalizing o with
  | nil => exact ⟨o, .nil o, h⟩
  | cons a l ih =>
    cases h with
    | cons hhead rest =>
      obtain ⟨m, h1, h2⟩ := ih rest
      exact ⟨m, .cons hhead h1, h2⟩

theorem Path.le (hasc : Ascending head) (h : Path head o l m) : o ≤ m := by
  induction h with
  | nil _ => exact Nat.le_refl _
  | cons hhead _ ih => exact Nat.le_trans (Nat.le_of_lt (hasc _ _ _ hhead)) ih

/-- A path survives a change of the chain outside the records it passes. -/
theorem Path.congr (hasc : Ascending head) (h : Path head o l m)
    (heq : ∀ x a n, o ≤ x → n ≤ m → head x = .record a n → head' x = .record a n) :
    Path head' o l m := by
  induction h with
  | nil o => exact .nil o
  | cons hhead rest ih =>
    have hlt := hasc _ _ _ hhead
    have hle := rest.le hasc
    refine .cons (heq _ _ _ (Nat.le_refl _) hle hhead) (ih ?_)
    intro x a n hx hn
    exact heq x a n (by omega) hn

/-- Of two paths from one offset, the shorter one is the beginning of the other. -/
theorem Path.extend (hasc : Ascending head) (h : Path head o l m) (h' : Path head o l' n)
    (hle : m ≤ n) : ∃ r, l' = l ++ r ∧ Path head m r n := by
  induction h generalizing l' with
  | nil o => exact ⟨l', rfl, h'⟩
  | cons hhead rest ih =>
    cases h' with
    | nil _ =>
      have hlt := hasc _ _ _ hhead
      have hrest := rest.le hasc
      omega
    | cons hhead' rest' =>
      rw [hhead] at hhead'
      cases hhead'
      obtain ⟨r, rfl, hr⟩ := ih rest' hle
      exact ⟨r, rfl, hr⟩

/-! ## Reachable offsets -/

/-- Walking from `o` arrives at `x`. -/
def Reaches (head : Nat → Head α) (o x : Nat) : Prop := ∃ l, Path head o l x

theorem Reaches.refl (head : Nat → Head α) (o : Nat) : Reaches head o o := ⟨[], .nil o⟩

theorem Reaches.trans (h : Reaches head o m) (h' : Reaches head m n) : Reaches head o n := by
  obtain ⟨l, hl⟩ := h
  obtain ⟨l', hl'⟩ := h'
  exact ⟨l ++ l', hl.append hl'⟩

theorem Reaches.step (h : Reaches head o m) (hhead : head m = .record a n) :
    Reaches head o n :=
  h.trans ⟨[a], .single hhead⟩

theorem Reaches.le (hasc : Ascending head) (h : Reaches head o m) : o ≤ m := by
  obtain ⟨l, hl⟩ := h
  exact hl.le hasc

/-- **The chain is a line**: behind a reached offset, reached means reached from there. -/
theorem Reaches.through (hasc : Ascending head) (h : Reaches head o m) (hle : m ≤ n) :
    Reaches head o n ↔ Reaches head m n := by
  constructor
  · rintro ⟨l', hl'⟩
    obtain ⟨l, hl⟩ := h
    obtain ⟨r, -, hr⟩ := hl.extend hasc hl' hle
    exact ⟨r, hr⟩
  · exact h.trans

/-- From a record on, the chain goes on behind it. -/
theorem Reaches.next (hasc : Ascending head) (hhead : head o = .record a n)
    (h : Reaches head o m) (hne : o ≠ m) : n ≤ m ∧ Reaches head n m := by
  obtain ⟨l, hl⟩ := h
  cases hl with
  | nil _ => exact absurd rfl hne
  | cons hhead' rest =>
    rw [hhead] at hhead'
    cases hhead'
    exact ⟨rest.le hasc, _, rest⟩

/-- Nothing is reached behind an offset that holds no record. -/
theorem Reaches.eq_of_no_record (hhead : ∀ a n, head o ≠ .record a n) (h : Reaches head o m) :
    o = m := by
  obtain ⟨l, hl⟩ := h
  cases hl with
  | nil _ => rfl
  | cons hhead' _ => exact absurd hhead' (hhead _ _)

/-- A chain none of whose records runs across `b` goes through `b` to get behind it. -/
theorem Reaches.crossing {b : Nat} (h : Reaches head o m) (ho : o ≤ b) (hm : b ≤ m)
    (hstep : ∀ x a n, Reaches head o x → x < b → head x = .record a n → n ≤ b) :
    Reaches head o b := by
  obtain ⟨l, hl⟩ := h
  induction hl with
  | nil o =>
    have heq : o = b := Nat.le_antisymm ho hm
    subst heq
    exact Reaches.refl head o
  | cons hhead rest ih =>
    rcases Nat.lt_or_eq_of_le ho with hlt | rfl
    · have hfirst := (Reaches.refl head _).step hhead
      refine hfirst.trans (ih (hstep _ _ _ (Reaches.refl head _) hlt hhead) hm ?_)
      exact fun x a n hx => hstep x a n (hfirst.trans hx)
    · exact Reaches.refl head _

theorem Reaches.congr (hasc : Ascending head) (h : Reaches head o m)
    (heq : ∀ x a n, o ≤ x → n ≤ m → head x = .record a n → head' x = .record a n) :
    Reaches head' o m := by
  obtain ⟨l, hl⟩ := h
  exact ⟨l, hl.congr hasc heq⟩

/-- Chains that agree on what one of them reaches reach the same. -/
theorem reaches_iff_of_agree (heq : ∀ x, Reaches head o x → head' x = head x) :
    Reaches head' o n ↔ Reaches head o n := by
  have hback : ∀ {x y : Nat} {l : List α}, Path head' x l y → Reaches head o x →
      Reaches head o y := by
    intro x y l hp
    induction hp with
    | nil _ => exact id
    | cons hhead _ ih => exact fun hx => ih (hx.step ((heq _ hx).symm.trans hhead))
  have hforth : ∀ {x y : Nat} {l : List α}, Path head x l y → Reaches head o x →
      Path head' x l y := by
    intro x y l hp
    induction hp with
    | nil x => exact fun _ => .nil x
    | cons hhead _ ih => exact fun hx => .cons ((heq _ hx).trans hhead) (ih (hx.step hhead))
  constructor
  · rintro ⟨l, hl⟩
    exact hback hl (Reaches.refl head o)
  · rintro ⟨l, hl⟩
    exact ⟨l, hforth hl (Reaches.refl head o)⟩

/-! ## Bounded walks -/

theorem walk_stop (h : head o = .stop) : walk head o cap = some [] := by
  rw [walk, h]

theorem walk_corrupt (h : head o = .corrupt) : walk head o cap = none := by
  rw [walk, h]

theorem walk_full (h : head o = .record a n) : walk head o 0 = none := by
  rw [walk, h]

theorem walk_record (h : head o = .record a n) :
    walk head o (cap + 1) = (walk head n cap).map (a :: ·) := by
  rw [walk, h]

/-- **A walk goes through every offset on its path.** What the walk returns is the path there,
then the walk from there with the room left in the table. -/
theorem walk_of_path (h : Path head o l m) (hcap : l.length ≤ cap) :
    walk head o cap = (walk head m (cap - l.length)).map (l ++ ·) := by
  induction h generalizing cap with
  | nil o => simp
  | cons hhead rest ih =>
    cases cap with
    | zero => simp at hcap
    | succ cap =>
      simp only [List.length_cons] at hcap ⊢
      rw [walk_record hhead, ih (by omega), Nat.add_sub_add_right, Option.map_map]
      rfl

/-- A path longer than the table makes the walk fail. -/
theorem walk_of_path_full (h : Path head o l m) (hcap : cap < l.length) :
    walk head o cap = none := by
  induction h generalizing cap with
  | nil o => simp at hcap
  | cons hhead rest ih =>
    cases cap with
    | zero => exact walk_full hhead
    | succ cap =>
      simp only [List.length_cons] at hcap
      rw [walk_record hhead, ih (by omega)]
      rfl

/-- **The result of a walk**: the records of a path that fits the table and ends the chain. -/
theorem walk_eq_some_iff :
    walk head o cap = some l ↔
      l.length ≤ cap ∧ ∃ m, Path head o l m ∧ head m = .stop := by
  constructor
  · intro h
    induction cap generalizing o l with
    | zero =>
      cases hh : head o with
      | stop =>
        rw [walk_stop hh] at h
        cases h
        exact ⟨Nat.le_refl _, o, .nil o, hh⟩
      | corrupt => rw [walk_corrupt hh] at h; cases h
      | record a next => rw [walk_full hh] at h; cases h
    | succ cap ih =>
      cases hh : head o with
      | stop =>
        rw [walk_stop hh] at h
        cases h
        exact ⟨Nat.zero_le _, o, .nil o, hh⟩
      | corrupt => rw [walk_corrupt hh] at h; cases h
      | record a next =>
        rw [walk_record hh] at h
        obtain ⟨rest, hrest, rfl⟩ := Option.map_eq_some_iff.mp h
        obtain ⟨hlen, m, hpath, hstop⟩ := ih hrest
        exact ⟨by simpa using hlen, m, .cons hh hpath, hstop⟩
  · rintro ⟨hcap, m, hpath, hstop⟩
    rw [walk_of_path hpath hcap, walk_stop hstop]
    simp

/-- The records of a path are the first ones a successful walk returns. -/
theorem exists_append_of_walk (h : walk head o cap = some l) (hp : Path head o l' m) :
    ∃ r, l = l' ++ r ∧ walk head m (cap - l'.length) = some r := by
  by_cases hcap : l'.length ≤ cap
  · rw [walk_of_path hp hcap] at h
    obtain ⟨r, hr, rfl⟩ := Option.map_eq_some_iff.mp h
    exact ⟨r, rfl, hr⟩
  · rw [walk_of_path_full hp (by omega)] at h
    cases h

/-- A walk depends on the headers it reaches only. -/
theorem walk_congr (heq : ∀ x, Reaches head o x → head x = head' x) :
    walk head o cap = walk head' o cap := by
  have ho := heq o (Reaches.refl head o)
  induction cap generalizing o with
  | zero =>
    cases hh : head o with
    | stop => rw [walk_stop hh, walk_stop (ho.symm.trans hh)]
    | corrupt => rw [walk_corrupt hh, walk_corrupt (ho.symm.trans hh)]
    | record a next => rw [walk_full hh, walk_full (ho.symm.trans hh)]
  | succ cap ih =>
    cases hh : head o with
    | stop => rw [walk_stop hh, walk_stop (ho.symm.trans hh)]
    | corrupt => rw [walk_corrupt hh, walk_corrupt (ho.symm.trans hh)]
    | record a next =>
      have hnext : ∀ x, Reaches head next x → head x = head' x := fun x hx =>
        heq x (((Reaches.refl head o).step hh).trans hx)
      rw [walk_record hh, walk_record (ho.symm.trans hh),
        ih hnext (hnext next (Reaches.refl head next))]

end Chain
