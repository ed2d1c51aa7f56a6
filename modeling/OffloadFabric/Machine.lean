import Mathlib

/-!
Machines that take labelled steps, their runs, and forward simulations between them. What a
simulating machine cannot do, the simulated one cannot do either: every run of the one is
matched by a run of the other with the same labels.
-/

/-- A machine: where it may start, and which steps it may take with which label. -/
structure Machine (σ ε : Type*) where
  Starts : σ → Prop
  Step : σ → ε → σ → Prop

namespace Machine

variable {σ τ υ ε : Type*}

/-- The runs of a machine with their labels, the latest label last. -/
inductive Run (machine : Machine σ ε) : List ε → σ → Prop where
  | start {state : σ} : machine.Starts state → Run machine [] state
  | step {events : List ε} {event : ε} {state next : σ} : Run machine events state →
      machine.Step state event next → Run machine (events ++ [event]) next

/-- The machine can take steps with these labels. -/
def Accepts (machine : Machine σ ε) (events : List ε) : Prop :=
  ∃ state, machine.Run events state

/-- Related states stay related when the second machine repeats the steps of the first. -/
structure Simulates (machine : Machine σ ε) (other : Machine τ ε) (R : σ → τ → Prop) : Prop where
  start : ∀ {state}, machine.Starts state → ∃ image, other.Starts image ∧ R state image
  step : ∀ {state next event image}, R state image → machine.Step state event next →
    ∃ image', other.Step image event image' ∧ R next image'

section Runs

variable {machine : Machine σ ε} {other : Machine τ ε} {R : σ → τ → Prop} {events : List ε}
  {state : σ}

theorem Simulates.run (h : machine.Simulates other R) (hrun : machine.Run events state) :
    ∃ image, other.Run events image ∧ R state image := by
  induction hrun with
  | start hstarts =>
    obtain ⟨image, himage, hrelated⟩ := h.start hstarts
    exact ⟨image, .start himage, hrelated⟩
  | step hrun hnext ih =>
    obtain ⟨image, himage, hrelated⟩ := ih
    obtain ⟨image', hstep, hrelated'⟩ := h.step hrelated hnext
    exact ⟨image', himage.step hstep, hrelated'⟩

/-- What the first machine can do, the second can do as well. -/
theorem Simulates.accepts (h : machine.Simulates other R) (haccepts : machine.Accepts events) :
    other.Accepts events := by
  obtain ⟨state, hrun⟩ := haccepts
  obtain ⟨image, himage, -⟩ := h.run hrun
  exact ⟨image, himage⟩

end Runs

end Machine
