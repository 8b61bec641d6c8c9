import Mathlib.Data.List.Basic

/-!
# Writes to a store of bounded room

A store whose writes may fail for lack of room, and then change nothing. A list of writes is made
one after another, and a failure is not looked at.

* **`RoomStore`**: reads, and writes that may fail.
* **`writeAll`**: the writes, one after another.
* **`LandsInTurn`**, **`Agree`**: each write that fails is made again later; no key is given two
  values.
* **`written_iff`**: every key has its value in the end exactly under these two.
-/

/-- A store with keys `K` and values `V`. -/
structure RoomStore (σ K V : Type*) [DecidableEq K] where
  get : σ → K → Option V
  write : σ → K → V → Option σ
  get_write : ∀ {s s' : σ} {k : K} {v : V}, write s k v = some s' →
    ∀ k', get s' k' = if k' = k then some v else get s k'
  write_same : ∀ {s : σ} {k : K} {v : V}, get s k = some v → (write s k v).isSome

namespace RoomStore

variable {σ K V : Type*} [DecidableEq K] (S : RoomStore σ K V)

/-- A write that may fail. -/
def tryWrite (s : σ) (w : K × V) : σ := (S.write s w.1 w.2).getD s

/-- The writes, one after another. -/
def writeAll (s : σ) (writes : List (K × V)) : σ := writes.foldl S.tryWrite s

/-- No key is given two values. -/
def Agree (writes : List (K × V)) : Prop :=
  ∀ w ∈ writes, ∀ w' ∈ writes, w.1 = w'.1 → w.2 = w'.2

/-- Each write has room when its turn comes, or is made again later. -/
def LandsInTurn (s : σ) : List (K × V) → Prop
  | [] => True
  | w :: writes =>
    match S.write s w.1 w.2 with
    | some s' => LandsInTurn s' writes
    | none => w ∈ writes ∧ LandsInTurn s writes

/-- Every key has the value it was given. -/
def Written (s : σ) (writes : List (K × V)) : Prop := ∀ w ∈ writes, S.get s w.1 = some w.2

variable {S} {s : σ} {writes : List (K × V)} {w : K × V}

/-- A key has a value it was given, or the one from before. -/
theorem get_writeAll (s : σ) (writes : List (K × V)) (k : K) :
    S.get (S.writeAll s writes) k = S.get s k ∨
      ∃ w ∈ writes, w.1 = k ∧ S.get (S.writeAll s writes) k = some w.2 := by
  induction writes generalizing s with
  | nil => exact Or.inl rfl
  | cons w writes ih =>
    show S.get (S.writeAll (S.tryWrite s w) writes) k = _ ∨
      ∃ v ∈ w :: writes, v.1 = k ∧ S.get (S.writeAll (S.tryWrite s w) writes) k = some v.2
    rcases ih (S.tryWrite s w) with hkept | ⟨v, hv, hkey, hvalue⟩
    · rw [hkept]
      unfold tryWrite
      cases hwrite : S.write s w.1 w.2 with
      | none => exact Or.inl rfl
      | some s' =>
        simp only [Option.getD_some]
        rw [S.get_write hwrite]
        by_cases hk : k = w.1
        · rw [if_pos hk]
          exact Or.inr ⟨w, List.mem_cons_self, hk.symm, rfl⟩
        · rw [if_neg hk]
          exact Or.inl rfl
    · exact Or.inr ⟨v, List.mem_cons_of_mem _ hv, hkey, hvalue⟩

/-- The other keys are as before. -/
theorem get_writeAll_of_notMem {k : K} (h : ∀ w ∈ writes, w.1 ≠ k) :
    S.get (S.writeAll s writes) k = S.get s k :=
  (get_writeAll s writes k).resolve_right fun ⟨w, hw, hkey, _⟩ => h w hw hkey

/-- A key that holds the value of all its writes keeps it. -/
theorem get_writeAll_of_agree {k : K} {v : V} (hget : S.get s k = some v)
    (hagree : ∀ w ∈ writes, w.1 = k → w.2 = v) : S.get (S.writeAll s writes) k = some v := by
  rcases get_writeAll s writes k with h | ⟨w, hw, hkey, hvalue⟩
  · rw [h, hget]
  · rw [hvalue, hagree w hw hkey]

omit [DecidableEq K] in
theorem Agree.tail (h : Agree (w :: writes)) : Agree writes :=
  fun _ hv _ hv' => h _ (List.mem_cons_of_mem _ hv) _ (List.mem_cons_of_mem _ hv')

/-- **Every key has its value in the end** exactly if the writes agree, and each has room in its
turn or is made again. -/
theorem written_iff (s : σ) (writes : List (K × V)) :
    S.Written (S.writeAll s writes) writes ↔ Agree writes ∧ S.LandsInTurn s writes := by
  constructor
  · intro h
    refine ⟨fun w hw w' hw' hkey => ?_, ?_⟩
    · have hvalue := h w' hw'
      rw [← hkey, h w hw] at hvalue
      exact Option.some.inj hvalue
    · induction writes generalizing s with
      | nil => trivial
      | cons w writes ih =>
        have htail : S.Written (S.writeAll (S.tryWrite s w) writes) writes :=
          fun v hv => h v (List.mem_cons_of_mem _ hv)
        have hlands := ih _ htail
        have hhead : S.get (S.writeAll (S.tryWrite s w) writes) w.1 = some w.2 :=
          h w List.mem_cons_self
        unfold tryWrite at hhead hlands
        unfold LandsInTurn
        cases hwrite : S.write s w.1 w.2 with
        | some s' =>
          rw [hwrite] at hlands
          exact hlands
        | none =>
          rw [hwrite] at hhead hlands
          refine ⟨?_, hlands⟩
          -- the value is not from before, or the write would have had room
          rcases get_writeAll s writes w.1 with hkept | ⟨v, hv, hkey, hvalue⟩
          · have hsome := S.write_same (hkept.symm.trans hhead)
            rw [hwrite] at hsome
            cases hsome
          · have hsame : w = v := Prod.ext hkey.symm (Option.some.inj (hhead.symm.trans hvalue))
            exact hsame ▸ hv
  · rintro ⟨hagree, hlands⟩
    induction writes generalizing s with
    | nil => exact fun w hw => absurd hw List.not_mem_nil
    | cons w writes ih =>
      unfold LandsInTurn at hlands
      show S.Written (S.writeAll (S.tryWrite s w) writes) (w :: writes)
      unfold tryWrite
      cases hwrite : S.write s w.1 w.2 with
      | some s' =>
        rw [hwrite] at hlands
        have hput : S.get s' w.1 = some w.2 := by rw [S.get_write hwrite, if_pos rfl]
        refine List.forall_mem_cons.mpr ⟨?_, ih s' hagree.tail hlands⟩
        exact get_writeAll_of_agree hput fun v hv hkey =>
          hagree v (List.mem_cons_of_mem _ hv) w List.mem_cons_self hkey
      | none =>
        rw [hwrite] at hlands
        have htail := ih s hagree.tail hlands.2
        exact List.forall_mem_cons.mpr ⟨htail w hlands.1, htail⟩

end RoomStore
