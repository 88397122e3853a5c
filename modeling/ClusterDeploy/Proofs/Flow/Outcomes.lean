import ClusterDeploy.Job.Basic
import ClusterDeploy.Proofs.Flow.Positions
/-!
# What an attempt leaves

A part of a job is described by what holds when it succeeds and what holds when it fails, and by the
calls it may make. The description of a sequence comes from those of its parts.
-/
namespace ClusterDeploy.Flow

variable {σ : Type} {world : Surroundings σ} {permits : Call → Prop} {s : Scene σ}

def Concludes (done : α → σ → Prop) (failed : σ → Prop) : Except ε α → σ → Prop
  | .ok a => done a
  | .error _ => failed

theorem Concludes.of_both {done : α → σ → Prop} {failed : σ → Prop} {state : σ} (r : Except ε α)
    (hdone : ∀ a, done a state) (hfailed : failed state) : Concludes done failed r state := by
  cases r with
  | ok a => exact hdone a
  | error e => exact hfailed

theorem Concludes.mono {done done' : α → σ → Prop} {failed failed' : σ → Prop} {r : Except ε α}
    {state : σ} (h : Concludes done failed r state) (hdone : ∀ a, done a state → done' a state)
    (hfailed : failed state → failed' state) : Concludes done' failed' r state := by
  cases r with
  | ok a => exact hdone a h
  | error e => exact hfailed h

/-- What a part of the state says may be said of the whole. -/
theorem Concludes.of_view {τ : Type} (view : σ → τ) (done : α → τ → Prop) (failed : τ → Prop)
    {r : Except ε α} {state : σ} (h : Concludes done failed r (view state)) :
    Concludes (fun a state => done a (view state)) (fun state => failed (view state)) r state := by
  cases r with
  | ok a => exact h
  | error e => exact h

/-- From the scene on, only permitted calls are made, and the end is as described. -/
def Leaves (world : Surroundings σ) (permits : Call → Prop) (done : α → σ → Prop)
    (failed : σ → Prop) (t : ExceptT ε Flow α) (s : Scene σ) : Prop :=
  Meets world (fun c _ => permits c) (fun r s' => Concludes done failed r s'.state) t.run s

namespace Leaves

variable {done : α → σ → Prop} {failed : σ → Prop}

theorem andThen {then_ : β → σ → Prop} {t : ExceptT ε Flow α} {f : α → ExceptT ε Flow β}
    (ht : Leaves world permits done failed t s)
    (hf : ∀ a s', done a s'.state → Leaves world permits then_ failed (f a) s') :
    Leaves world permits then_ failed (t >>= f) s :=
  Meets.andThen ht hf fun _ _ h => h

theorem mono {done' : α → σ → Prop} {failed' : σ → Prop} {t : ExceptT ε Flow α}
    (h : Leaves world permits done failed t s) (hdone : ∀ a state, done a state → done' a state)
    (hfailed : ∀ state, failed state → failed' state) :
    Leaves world permits done' failed' t s :=
  Meets.mono h fun _ s' hr => hr.mono (fun a => hdone a s'.state) (hfailed s'.state)

theorem of_bind {t : ExceptT ε Flow α} {f : ε → ε'} (h : Leaves world permits done failed t s) :
    Leaves world permits done failed
      (ExceptT.mk (Flow.bind t.run fun r => .done (r.mapError f)) : ExceptT ε' Flow α) s := by
  refine meets_bind.mpr (Meets.mono h fun r s' hr => ?_)
  cases r with
  | ok a => exact hr
  | error e => exact hr

theorem wrap {t : Attempt α} (f : Error → Error) (h : Leaves world permits done failed t s) :
    Leaves world permits done failed (Attempt.wrap f t) s :=
  h.of_bind

theorem under {t : Attempt α} (context : String) (h : Leaves world permits done failed t s) :
    Leaves world permits done failed (t.under context) s :=
  h.of_bind

theorem ask (c : Call) (read : c.Answer → Except Error α) (permitted : permits c)
    (h : Concludes done failed (read (world c s.state).answer) (world c s.state).after) :
    Leaves world permits done failed (Attempt.of (.ask c fun answer => .done (read answer))) s :=
  ⟨permitted, h⟩

theorem run {kept : σ → Prop} {t : ExceptT ε Flow α}
    (h : Leaves world permits (fun _ => kept) kept t s) :
    (∀ step ∈ (t.run.run world s).steps, permits step.call) ∧
      kept (t.run.run world s).scene.state := by
  constructor
  · intro step hstep
    obtain ⟨made, later, hsteps⟩ := List.append_of_mem hstep
    obtain ⟨next, scene, position, _⟩ := LeadsTo.of_step hsteps
    exact Meets.call h position
  · have hfinish := Meets.finish h
    cases hresult : (t.run.run world s).result with
    | ok a => rwa [hresult] at hfinish
    | error e => rwa [hresult] at hfinish

end Leaves

/-- Calls that keep something keep it whether they fail in the end or not. -/
theorem Makes.leaves {p : Call → Prop} {t : ExceptT ε Flow α} (h : Makes p t.run) {kept : σ → Prop}
    (permitted : ∀ c, p c → permits c)
    (keeps : ∀ c state, p c → kept state → kept (world c state).after) (holds : kept s.state) :
    Leaves world permits (fun _ => kept) kept t s := by
  refine Meets.mono (h.meets kept (fun c s' hc hkept => ⟨permitted c hc, keeps c s'.state hc hkept⟩)
    holds) fun r s' hr => ?_
  cases r with
  | ok a => exact hr
  | error e => exact hr

end ClusterDeploy.Flow
