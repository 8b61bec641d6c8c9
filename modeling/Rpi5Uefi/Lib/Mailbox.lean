import Rpi5Uefi.Lib.Run

/-!
# A one-place mailbox with a polling reader

Parts of a message arrive for a sender `k`; a completion ends the message; pollers ask for the
messages of one sender each. Two specifications of what a trace of such events may look like:

* **`deskStep`**: the loss-free hand-over. Every completed message is kept until a poll for its
  sender, which gets the first one whole.
* **`BoxStep`**: a single place, for the sender polled last. A poll for another sender takes the
  place over, and what was in it is gone; a short poll gets the front of the message.
* **`desk_of_box`**: where no poll for another sender comes in between and no poll is too short, a
  mailbox trace is a loss-free one.
-/

namespace Mailbox

open Transition

variable {κ α : Type*}

/-- How a poll is answered. -/
inductive Answer (α : Type*) where
  | notHandled
  | nothing
  | data (got : List α)
  deriving DecidableEq

/-- What happens at the mailbox: a part of a message, the end of a message, a poll. -/
inductive Obs (κ α : Type*) where
  | received (k : κ) (part : List α)
  | completed (k : κ)
  | polled (k : κ) (capacity : Nat) (answer : Answer α)
  deriving DecidableEq

/-! ## One place -/

/-- The place: nobody's, collecting a message for `k`, or holding one. -/
inductive Box (κ α : Type*) where
  | idle
  | serving (k : κ) (part : List α)
  | waiting (k : κ) (whole : List α)

/-- The steps of the mailbox. An empty message is dropped at its completion. -/
inductive BoxStep : Box κ α → Obs κ α → Box κ α → Prop where
  | receive (k : κ) (v part : List α) :
      BoxStep (.serving k v) (.received k part) (.serving k (v ++ part))
  | complete (k : κ) (v : List α) (hv : v ≠ []) :
      BoxStep (.serving k v) (.completed k) (.waiting k v)
  | completeEmpty (k : κ) : BoxStep (.serving k []) (.completed k) (.serving k [])
  | start (k : κ) (n : Nat) : BoxStep .idle (.polled k n .nothing) (.serving k [])
  | refuse (k : κ) (n : Nat) : BoxStep .idle (.polled k n .notHandled) .idle
  | standDown (k k' : κ) (n : Nat) :
      BoxStep (.serving k []) (.polled k' n .notHandled) .idle
  | wait (k : κ) (v : List α) (n : Nat) :
      BoxStep (.serving k v) (.polled k n .nothing) (.serving k v)
  | hand (k : κ) (v : List α) (n : Nat) :
      BoxStep (.waiting k v) (.polled k n (.data (v.take n))) (.serving k [])
  | takeOver (b : Box κ α) (k k' : κ) (v : List α) (n : Nat) (hne : k' ≠ k)
      (hb : b = .serving k v ∨ b = .waiting k v) :
      BoxStep b (.polled k' n .nothing) (.serving k' [])
  | evict (b : Box κ α) (k k' : κ) (v : List α) (n : Nat) (hne : k' ≠ k)
      (hb : b = .serving k v ∨ b = .waiting k v) : BoxStep b (.polled k' n .notHandled) .idle

/-- A poll that does not lose anything: of the sender at hand, and long enough. -/
def Undisturbed : Box κ α → Obs κ α → Prop
  | .serving k v, .polled k' _ _ => k' = k ∨ v = []
  | .waiting k v, .polled k' n _ => k' = k ∧ v.length ≤ n
  | _, _ => True

/-! ## The loss-free hand-over -/

/-- The messages in progress, and the completed ones nobody has polled yet. -/
structure Desk (κ α : Type*) where
  parts : κ → List α
  done : List (κ × List α)

/-- The first message of `k`, and the others. -/
def takeFirst [DecidableEq κ] (k : κ) :
    List (κ × List α) → Option (List α × List (κ × List α))
  | [] => none
  | m :: rest =>
    if m.1 = k then some (m.2, rest)
    else (takeFirst k rest).map fun r => (r.1, m :: r.2)

/-- Every completed message goes to the first poll of its sender, whole and in order. -/
def deskStep [DecidableEq κ] [DecidableEq α] (d : Desk κ α) : Obs κ α → Option (Desk κ α)
  | .received k part => some { d with parts := Function.update d.parts k (d.parts k ++ part) }
  | .completed k =>
    some ⟨Function.update d.parts k [],
      if d.parts k = [] then d.done else d.done ++ [(k, d.parts k)]⟩
  | .polled k _ answer =>
    match takeFirst k d.done with
    | none => if answer = .nothing ∨ answer = .notHandled then some d else none
    | some (whole, rest) => if answer = .data whole then some { d with done := rest } else none

/-- The trace is one of a loss-free hand-over. -/
def LossFree [DecidableEq κ] [DecidableEq α] (trace : List (Obs κ α)) : Prop :=
  ∃ d, Run (fun d o d' => deskStep d o = some d') ⟨fun _ => [], []⟩ trace d

/-- The desk that holds what is in the place. -/
def Box.desk [DecidableEq κ] : Box κ α → Desk κ α
  | .idle => ⟨fun _ => [], []⟩
  | .serving k v => ⟨Function.update (fun _ => []) k v, []⟩
  | .waiting k v => ⟨fun _ => [], [(k, v)]⟩

section
variable [DecidableEq κ] [DecidableEq α]

/-- A mailbox step that loses nothing is one of the desk. -/
theorem deskStep_of_boxStep {b b' : Box κ α} {o : Obs κ α} (hok : Undisturbed b o)
    (h : BoxStep b o b') : deskStep b.desk o = some b'.desk := by
  cases h with
  | receive k v part => simp [deskStep, Box.desk]
  | complete k v hv => simp [deskStep, Box.desk, hv]
  | completeEmpty k => simp [deskStep, Box.desk]
  | start k n => simp [deskStep, Box.desk, takeFirst]
  | refuse k n => simp [deskStep, Box.desk, takeFirst]
  | standDown k k' n => simp [deskStep, Box.desk, takeFirst]
  | wait k v n => simp [deskStep, Box.desk, takeFirst]
  | hand k v n =>
    have hlen : v.length ≤ n := hok.2
    simp [deskStep, Box.desk, takeFirst, List.take_of_length_le hlen]
  | takeOver b k k' v n hne hb =>
    rcases hb with rfl | rfl
    · rcases hok with hk | rfl
      · exact absurd hk hne
      · simp [deskStep, Box.desk, takeFirst]
    · exact absurd hok.1 hne
  | evict b k k' v n hne hb =>
    rcases hb with rfl | rfl
    · rcases hok with hk | rfl
      · exact absurd hk hne
      · simp [deskStep, Box.desk, takeFirst]
    · exact absurd hok.1 hne

/-- **An undisturbed mailbox loses nothing.** -/
theorem desk_of_box {b : Box κ α} {trace : List (Obs κ α)}
    (h : RunWith BoxStep Undisturbed .idle trace b) : LossFree trace := by
  refine ⟨b.desk, ?_⟩
  induction h with
  | nil => exact .nil
  | snoc _ hok hstep ih => exact .snoc ih (deskStep_of_boxStep hok hstep)

end

end Mailbox
