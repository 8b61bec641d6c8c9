import Mathlib.Tactic.Common

/-!
# Frames of stateful programs

A driver routine that talks to a device may throw at any access. `Within R m` says that whatever
the program `m` does to the state, returning or throwing, stays within the relation `R`. For a
reflexive and transitive `R` this is closed under the constructs of the monad, so a frame is proved
from the frames of the accesses.
-/

namespace Frame

variable {σ ε α β : Type}

/-- The state a program leaves, whether it returns or throws. -/
def after (m : EStateM ε σ α) (s : σ) : σ :=
  match m s with
  | .ok _ s' => s'
  | .error _ s' => s'

/-- What a program returns, where it does not throw. -/
def result (m : EStateM ε σ α) (s : σ) : Except ε α :=
  match m s with
  | .ok a _ => .ok a
  | .error e _ => .error e

/-- Whatever the program does to the state stays within `R`. -/
def Within (R : σ → σ → Prop) (m : EStateM ε σ α) : Prop := ∀ s, R s (after m s)

variable {R : σ → σ → Prop}

theorem Within.pure [Std.Refl R] (a : α) : Within R (Pure.pure a : EStateM ε σ α) :=
  fun s => Std.Refl.refl s

theorem Within.throw [Std.Refl R] (e : ε) : Within R (throw e : EStateM ε σ α) :=
  fun s => Std.Refl.refl s

theorem Within.modify {f : σ → σ} (h : ∀ s, R s (f s)) :
    Within R (modify f : EStateM ε σ PUnit) := h

theorem Within.bind [IsTrans σ R] {m : EStateM ε σ α} {f : α → EStateM ε σ β}
    (hm : Within R m) (hf : ∀ a, Within R (f a)) : Within R (m >>= f) := by
  intro s
  have hfirst := hm s
  show R s (match EStateM.bind m f s with | .ok _ s' => s' | .error _ s' => s')
  unfold EStateM.bind
  unfold after at hfirst
  cases hr : m s with
  | error e s1 =>
    rw [hr] at hfirst
    exact hfirst
  | ok a s1 =>
    rw [hr] at hfirst
    exact IsTrans.trans _ _ _ hfirst (hf a s1)

/-- Go on after an exception. -/
def attempt (m : EStateM ε σ α) : EStateM ε σ (Option α) := fun s =>
  match m s with
  | .ok a s' => .ok (some a) s'
  | .error _ s' => .ok none s'

theorem Within.attempt {m : EStateM ε σ α} (hm : Within R m) : Within R (attempt m) := by
  intro s
  have h := hm s
  unfold after at h
  unfold after Frame.attempt
  cases hr : m s with
  | ok a s' =>
    rw [hr] at h
    exact h
  | error e s' =>
    rw [hr] at h
    exact h

/-- A program that looks at the state first. -/
theorem Within.read {f : σ → EStateM ε σ β} (hf : ∀ s, R s (after (f s) s)) :
    Within R (get >>= f) := hf

end Frame
