import ClusterDeploy.Flow.Basic
/-!
# Running a flow

The surroundings answer each call from a state of their own, and say how long the answer takes and
whether the flow is cancelled meanwhile. A run gives the result, the state and the time at the end,
and every call with its answer and the times it started and finished.
-/
namespace ClusterDeploy

structure Reaction (σ β : Type) where
  answer : β
  after : σ
  elapsed : Nat := 0
  /-- The flow is cancelled when the answer comes. -/
  cancels : Bool := false

abbrev Surroundings (σ : Type) := (c : Call) → σ → Reaction σ c.Answer

structure Scene (σ : Type) where
  state : σ
  now : Nat := 0
  /-- The time at which the flow is cancelled, as soon as that is settled. -/
  cancelAt : Option Nat := none

structure Step where
  call : Call
  answer : call.Answer
  start : Nat
  finish : Nat

structure Run (σ α : Type) where
  result : α
  scene : Scene σ
  steps : List Step

namespace Scene

def isCancelled (s : Scene σ) : Bool := s.cancelAt.any (· ≤ s.now)

def moment (s : Scene σ) : Moment := ⟨s.now, s.isCancelled⟩

/-- The earlier of two times to cancel. -/
def cancelledBy (s : Scene σ) (time : Nat) : Option Nat :=
  match s.cancelAt with
  | some t => some (min t time)
  | none => some time

def after (s : Scene σ) (r : Reaction σ β) : Scene σ :=
  { state := r.after
    now := s.now + r.elapsed
    cancelAt := if r.cancels then s.cancelledBy (s.now + r.elapsed) else s.cancelAt }

/-- Lets time pass up to the end of a pause, or up to the cancellation if that comes first. -/
def rest (s : Scene σ) (time : Nat) : Scene σ :=
  { s with
    now :=
      match s.cancelAt with
      | some t => max s.now (min t (s.now + time))
      | none => s.now + time }

end Scene

namespace Flow

def run (world : Surroundings σ) : Flow α → Scene σ → Run σ α
  | done a, s => ⟨a, s, []⟩
  | ask c next, s =>
    let r := world c s.state
    let rest := (next r.answer).run world (s.after r)
    { rest with steps := ⟨c, r.answer, s.now, (s.after r).now⟩ :: rest.steps }
  | clock next, s => (next s.moment).run world s
  | pause time next, s => next.run world (s.rest time)

/-- A run of two flows in sequence is the run of the first and then that of the second. -/
theorem run_bind (world : Surroundings σ) (t : Flow α) (f : α → Flow β) (s : Scene σ) :
    (t.bind f).run world s =
      let first := t.run world s
      let second := (f first.result).run world first.scene
      { second with steps := first.steps ++ second.steps } := by
  induction t generalizing s with
  | done a => simp [bind, run]
  | ask c next ih => simp [bind, run, ih]
  | clock next ih => simp [bind, run, ih]
  | pause time next ih => simp [bind, run, ih]

end Flow

end ClusterDeploy
