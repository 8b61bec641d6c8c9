import Mathlib.Data.List.Induction
import Mathlib.Tactic.Common

/-!
# Runs of a transition system

A system is a relation `step s e s'`: in state `s` the event `e` may lead to `s'`. The event
carries whatever the environment chooses at that step. A `Run` is a finite sequence of such steps
with the events it consumed; what holds at the end of every run holds of every reachable state,
since each prefix of a run is a run.

The rules here are the induction over runs, said once:

* **`Run.inv`**: an invariant kept by every step holds at the end;
* **`RunWith.inv`**: the same when only steps that meet a condition keep it, for runs all of
  whose steps meet that condition;
* **`run_holds_iff`**: the same where steps keep it exactly under the condition;
* **`happens_snoc_iff`**: what has happened in a history, by its last event;
* **`run_iff_foldlM`**: the runs of an executable system can be computed;
* **`MetThrough.inv`**, **`metThrough_iff`**: the rules for the run of a function, whose conditions
  can be read off its first state.
-/

namespace Transition

variable {σ ε : Type*}

/-- `Run step s es s'`: the events `es` lead from `s` to `s'`. -/
inductive Run (step : σ → ε → σ → Prop) (s : σ) : List ε → σ → Prop where
  | nil : Run step s [] s
  | snoc {es : List ε} {m s' : σ} {e : ε} (front : Run step s es m) (hstep : step m e s') :
      Run step s (es ++ [e]) s'

/-- A run each of whose steps, from its own state with its own event, meets `ok`. -/
inductive RunWith (step : σ → ε → σ → Prop) (ok : σ → ε → Prop) (s : σ) : List ε → σ → Prop where
  | nil : RunWith step ok s [] s
  | snoc {es : List ε} {m s' : σ} {e : ε} (front : RunWith step ok s es m) (hok : ok m e)
      (hstep : step m e s') : RunWith step ok s (es ++ [e]) s'

variable {step : σ → ε → σ → Prop} {ok : σ → ε → Prop} {s m s' : σ} {es es' : List ε} {e : ε}

theorem RunWith.run (h : RunWith step ok s es s') : Run step s es s' := by
  induction h with
  | nil => exact .nil
  | snoc _ _ hstep ih => exact .snoc ih hstep

theorem RunWith.single (hok : ok s e) (h : step s e s') : RunWith step ok s [e] s' :=
  .snoc .nil hok h

theorem Run.single (h : step s e s') : Run step s [e] s' :=
  .snoc .nil h

theorem Run.trans (h : Run step s es m) (h' : Run step m es' s') :
    Run step s (es ++ es') s' := by
  induction h' with
  | nil => simpa using h
  | snoc _ hstep ih =>
    rw [← List.append_assoc]
    exact .snoc ih hstep

/-- **The invariant rule.** -/
theorem Run.inv {I : σ → Prop} (hkeep : ∀ s e s', I s → step s e s' → I s')
    (h : Run step s es s') (h0 : I s) : I s' := by
  induction h with
  | nil => exact h0
  | snoc _ hstep ih => exact hkeep _ _ _ ih hstep

/-- **The invariant rule for conditional steps.** -/
theorem RunWith.inv {I : σ → Prop} (hkeep : ∀ s e s', I s → ok s e → step s e s' → I s')
    (h : RunWith step ok s es s') (h0 : I s) : I s' := by
  induction h with
  | nil => exact h0
  | snoc _ hok hstep ih => exact hkeep _ _ _ ih hok hstep

/-- **The rule for exact conditions.** Where each step keeps `P` exactly under its condition, `P`
holds at the end of exactly the runs that meet it. -/
theorem run_holds_iff {P : σ → Prop} (h0 : P s)
    (hstep : ∀ m e m', step m e m' → (P m' ↔ P m ∧ ok m e)) (h : Run step s es s') :
    P s' ↔ RunWith step ok s es s' := by
  constructor
  · induction h with
    | nil => exact fun _ => .nil
    | snoc _ hlast ih =>
      intro hP
      obtain ⟨hfront, hok⟩ := (hstep _ _ _ hlast).mp hP
      exact .snoc (ih hfront) hok hlast
  · exact fun hrun => hrun.inv (fun m e m' hm hok hs => (hstep m e m' hs).mpr ⟨hm, hok⟩) h0

/-- The runs of a system given by a partial function are its iterations. -/
theorem run_iff_foldlM {f : σ → ε → Option σ} :
    Run (fun s e s' => f s e = some s') s es s' ↔ es.foldlM f s = some s' := by
  constructor
  · intro h
    induction h with
    | nil => rfl
    | snoc _ hstep ih =>
      rw [List.foldlM_append, ih]
      simpa using hstep
  · induction es using List.reverseRecOn generalizing s' with
    | nil =>
      intro h
      cases h
      exact .nil
    | append_singleton es e ih =>
      intro h
      rw [List.foldlM_append] at h
      cases hm : es.foldlM f s with
      | none =>
        rw [hm] at h
        cases h
      | some m =>
        rw [hm] at h
        exact .snoc (ih hm) (by simpa using h)

/-- The places of a history with one more record. -/
theorem history_snoc {α : Type*} {history pre post : List α} {x r : α}
    (h : history ++ [r] = pre ++ x :: post) :
    pre = history ∧ x = r ∧ post = [] ∨
      ∃ post', post = post' ++ [r] ∧ history = pre ++ x :: post' := by
  rcases List.eq_nil_or_concat post with rfl | ⟨post', last, rfl⟩
  · obtain ⟨hpre, hlast⟩ := List.append_inj' h rfl
    exact Or.inl ⟨hpre.symm, by simpa using hlast.symm, rfl⟩
  · rw [List.concat_eq_append, ← List.cons_append, ← List.append_assoc] at h
    obtain ⟨hpre, hlast⟩ := List.append_inj' h rfl
    rw [List.concat_eq_append]
    refine Or.inr ⟨post', ?_, hpre⟩
    rw [hlast]

/-- Somewhere in a history there is an event that, with the history before it, is as `P` says. -/
def Happens (P : List ε → ε → Prop) (es : List ε) : Prop :=
  ∃ pre e post, es = pre ++ e :: post ∧ P pre e

theorem not_happens_nil (P : List ε → ε → Prop) : ¬Happens P [] := by
  rintro ⟨pre, e, post, h, -⟩
  exact absurd h.symm (List.append_ne_nil_of_right_ne_nil _ (List.cons_ne_nil _ _))

/-- It happened before, or the last event is it. -/
theorem happens_snoc_iff {P : List ε → ε → Prop} :
    Happens P (es ++ [e]) ↔ Happens P es ∨ P es e := by
  constructor
  · rintro ⟨pre, x, post, h, hx⟩
    rcases history_snoc h with ⟨rfl, rfl, -⟩ | ⟨post', -, rfl⟩
    · exact Or.inr hx
    · exact Or.inl ⟨pre, x, post', rfl, hx⟩
  · rintro (⟨pre, x, post, rfl, hx⟩ | hlast)
    · exact ⟨pre, x, post ++ [e], by simp, hx⟩
    · exact ⟨es, e, [], rfl, hlast⟩

theorem runWith_of_foldlM {f : σ → ε → Option σ} [∀ s e, Decidable (ok s e)]
    (h : es.foldlM (fun s e => if ok s e then f s e else none) s = some s') :
    RunWith (fun s e s' => f s e = some s') ok s es s' := by
  rw [← run_iff_foldlM] at h
  induction h with
  | nil => exact .nil
  | @snoc _ m _ e _ hstep ih =>
    by_cases hok : ok m e
    · rw [if_pos hok] at hstep
      exact .snoc ih hok hstep
    · rw [if_neg hok] at hstep
      cases hstep

/-! ## The run of a function -/

/-- Every event meets its condition in the state that the function makes of the events before. -/
def MetThrough (f : σ → ε → σ) (ok : σ → ε → Prop) : σ → List ε → Prop
  | _, [] => True
  | s, e :: es => ok s e ∧ MetThrough f ok (f s e) es

variable {f : σ → ε → σ}

theorem metThrough_append :
    MetThrough f ok s (es ++ es') ↔ MetThrough f ok s es ∧ MetThrough f ok (es.foldl f s) es' := by
  induction es generalizing s with
  | nil => exact (and_iff_right trivial).symm
  | cons e es ih =>
    simp only [List.cons_append, MetThrough, ih, List.foldl_cons, and_assoc]

theorem MetThrough.imp {ok' : σ → ε → Prop} (h : MetThrough f ok s es)
    (himp : ∀ s, ∀ e ∈ es, ok s e → ok' s e) : MetThrough f ok' s es := by
  induction es generalizing s with
  | nil => trivial
  | cons e es ih =>
    exact ⟨himp s e List.mem_cons_self h.1,
      ih h.2 fun s e he => himp s e (List.mem_cons_of_mem _ he)⟩

/-- **The invariant rule.** -/
theorem MetThrough.inv {I : σ → Prop} (h : MetThrough f ok s es)
    (hkeep : ∀ s, ∀ e ∈ es, I s → ok s e → I (f s e)) (h0 : I s) : I (es.foldl f s) := by
  induction es generalizing s with
  | nil => exact h0
  | cons e es ih =>
    exact ih h.2 (fun s e he => hkeep s e (List.mem_cons_of_mem _ he))
      (hkeep s e List.mem_cons_self h0 h.1)

/-- **The rule for exact conditions.** -/
theorem metThrough_iff {P : σ → Prop} (hstep : ∀ s, ∀ e ∈ es, (P (f s e) ↔ P s ∧ ok s e)) :
    P (es.foldl f s) ↔ P s ∧ MetThrough f ok s es := by
  induction es generalizing s with
  | nil => exact (and_iff_left trivial).symm
  | cons e es ih =>
    rw [List.foldl_cons, ih fun s e he => hstep s e (List.mem_cons_of_mem _ he),
      hstep s e List.mem_cons_self, and_assoc]
    rfl

end Transition
