import ClusterDeploy.Proofs.Bootstrap.Sequence
/-!
# What a bootstrapper remembers

A bootstrapper is used again and again, to run it and to ensure that it has run. The outcome of the
first success to ensure the access is all that one use leaves to the later ones.
-/
namespace ClusterDeploy

inductive BootstrapCall where
  | ensure
  | run (event : LifecycleEvent)
  deriving DecidableEq, Repr

structure BootstrapUse (σ : Type) where
  call : BootstrapCall
  before : Scene σ
  run : Run σ (Except Error BootstrapOutcome)
  after : Bootstrapper

namespace Bootstrapper

def perform (b : Bootstrapper) :
    BootstrapCall → Flow (Except Error BootstrapOutcome × Bootstrapper)
  | .ensure => b.ensure
  | .run event => Flow.bind (b.run event).run fun r => .done (r, b)

def use (world : Surroundings σ) (b : Bootstrapper) (s : Scene σ) (call : BootstrapCall) :
    BootstrapUse σ :=
  let r := (b.perform call).run world s
  ⟨call, s, ⟨r.result.1, r.scene, r.steps⟩, r.result.2⟩

def uses (world : Surroundings σ) (b : Bootstrapper) (s : Scene σ) :
    List BootstrapCall → List (BootstrapUse σ)
  | [] => []
  | call :: more =>
    let u := b.use world s call
    u :: uses world u.after u.run.scene more

end Bootstrapper

namespace BootstrapUse

def ensured? (u : BootstrapUse σ) : Option BootstrapOutcome :=
  match u.call with
  | .ensure => u.run.result.toOption
  | .run _ => none

structure Executes (world : Surroundings σ) (b : Bootstrapper) (event : LifecycleEvent)
    (u : BootstrapUse σ) : Prop where
  eq : u.run = (b.run event).runIn world u.before
  starts : ∃ step ∈ u.run.steps.head?, step.call = .reach .noConfig
  advances : u.run.Advances b.way

/-- What a use comes to once `cached` has been ensured, if anything. -/
inductive Follows (world : Surroundings σ) (b : Bootstrapper) (cached : Option BootstrapOutcome)
    (u : BootstrapUse σ) : Prop
  | repeats {event : LifecycleEvent} (call : u.call = .run event)
      (executes : u.Executes world b event) (after : u.after = { b with ensured := cached })
  | attempts (call : u.call = .ensure) (first : cached = none)
      (executes : u.Executes world b .preDeploy)
      (after : u.after = { b with ensured := u.run.result.toOption })
  | recalls {outcome : BootstrapOutcome} (call : u.call = .ensure) (later : cached = some outcome)
      (run : u.run = ⟨.ok outcome, u.before, []⟩) (after : u.after = { b with ensured := cached })

end BootstrapUse

namespace Bootstrapper

variable {world : Surroundings σ} {b : Bootstrapper} {s : Scene σ}

def cachedAfter (b : Bootstrapper) (made : List (BootstrapUse σ)) : Option BootstrapOutcome :=
  b.ensured.or (made.findSome? BootstrapUse.ensured?)

theorem cachedAfter_nil : b.cachedAfter ([] : List (BootstrapUse σ)) = b.ensured :=
  Option.or_none

theorem cachedAfter_cons (u : BootstrapUse σ) (more : List (BootstrapUse σ)) :
    b.cachedAfter (u :: more) =
      { b with ensured := b.cachedAfter [u] }.cachedAfter more := by
  unfold cachedAfter
  rw [Option.or_assoc, ← List.findSome?_append, List.singleton_append]

theorem cachedAfter_concat (made : List (BootstrapUse σ)) (u : BootstrapUse σ) :
    b.cachedAfter (made ++ [u]) = (b.cachedAfter made).or u.ensured? := by
  have hlast : [u].findSome? BootstrapUse.ensured? = u.ensured? := by
    rw [List.findSome?_cons, List.findSome?_nil]
    cases u.ensured? <;> rfl
  rw [cachedAfter, cachedAfter, List.findSome?_append, hlast, Option.or_assoc]

theorem run_starts (b : Bootstrapper) (event : LifecycleEvent) (s : Scene σ) :
    ∃ step ∈ ((b.run event).runIn world s).steps.head?, step.call = .reach .noConfig := by
  have hstart : (b.run event).runIn world s = _ := Attempt.runIn_bind_ok rfl
  rw [hstart]
  exact ⟨_, rfl, rfl⟩

end Bootstrapper

namespace BootstrapUse

open Bootstrapper

variable {world : Surroundings σ} {b : Bootstrapper} {s : Scene σ} {u : BootstrapUse σ}

theorem executes_of_eq {event : LifecycleEvent}
    (h : u.run = (b.run event).runIn world u.before) : u.Executes world b event := by
  refine ⟨h, ?_, ?_⟩
  · rw [h]
    exact run_starts b event u.before
  · rw [h]
    exact run_advances b event

theorem Follows.of_ensured {cached before : Option BootstrapOutcome}
    (h : u.Follows world { b with ensured := before } cached) : u.Follows world b cached := by
  cases h with
  | repeats call executes after => exact .repeats call (executes_of_eq executes.eq) after
  | attempts call first executes after =>
    exact .attempts call first (executes_of_eq executes.eq) after
  | recalls call later run after => exact .recalls call later run after

/-- Whether it was a success or not, only the first success to ensure the access is remembered. -/
theorem Follows.after_eq {cached : Option BootstrapOutcome} (h : u.Follows world b cached) :
    u.after = { b with ensured := cached.or u.ensured? } := by
  unfold ensured?
  cases h with
  | repeats call executes after =>
    rw [call, after]
    simp only [Option.or_none]
  | attempts call first executes after =>
    rw [call, after, first]
    rfl
  | recalls call later run after =>
    rw [call, after, later]
    rfl

end BootstrapUse

namespace Bootstrapper

variable {world : Surroundings σ} {b : Bootstrapper} {s : Scene σ}

theorem use_follows (world : Surroundings σ) (b : Bootstrapper) (s : Scene σ)
    (call : BootstrapCall) : (b.use world s call).Follows world b b.ensured := by
  cases call with
  | run event =>
    have hrun : (b.use world s (.run event)).run = (b.run event).runIn world s := by
      simp [use, perform, Flow.run_bind, Flow.run, Attempt.runIn]
    have hafter : (b.use world s (.run event)).after = b := by
      simp [use, perform, Flow.run_bind, Flow.run]
    exact .repeats rfl (BootstrapUse.executes_of_eq hrun) hafter
  | ensure =>
    cases hcached : b.ensured with
    | none =>
      have hrun : (b.use world s .ensure).run = (b.run .preDeploy).runIn world s := by
        simp [use, perform, ensure, hcached, Flow.run_bind, Flow.run, Attempt.runIn]
      have hafter : (b.use world s .ensure).after =
          { b with ensured := (b.use world s .ensure).run.result.toOption } := by
        simp [use, perform, ensure, hcached, Flow.run_bind, Flow.run]
      exact .attempts rfl rfl (BootstrapUse.executes_of_eq hrun) hafter
    | some outcome =>
      have hrun : (b.use world s .ensure).run = ⟨.ok outcome, s, []⟩ := by
        simp [use, perform, ensure, hcached, Flow.run]
      have hafter : (b.use world s .ensure).after = b := by
        simp [use, perform, ensure, hcached, Flow.run]
      refine .recalls rfl rfl hrun ?_
      rw [hafter, ← hcached]

/-- Each use starts where the last one ended. Every run goes through the whole machine again, and so
does every attempt to ensure the access up to the first success. From then on ensuring it repeats
that outcome and does nothing, and no run, successful or not, ever changes what is remembered. -/
theorem ensure_memoized (b : Bootstrapper) (calls : List BootstrapCall) (world : Surroundings σ)
    (s : Scene σ) :
    (b.uses world s calls).map (·.call) = calls ∧
      ∀ earlier u later, b.uses world s calls = earlier ++ u :: later →
        u.before = (earlier.getLast?.map (·.run.scene)).getD s ∧
        u.Follows world b (b.cachedAfter earlier) ∧
        u.after = { b with ensured := b.cachedAfter (earlier ++ [u]) } := by
  induction calls generalizing b s with
  | nil =>
    refine ⟨rfl, fun earlier u later h => ?_⟩
    exact absurd h (by simp [uses])
  | cons call more ih =>
    obtain ⟨hcalls, hlater⟩ := ih (b.use world s call).after (b.use world s call).run.scene
    have hfirst := use_follows world b s call
    have hafter : (b.use world s call).after =
        { b with ensured := b.cachedAfter [b.use world s call] } := by
      rw [hfirst.after_eq, ← List.nil_append [b.use world s call], cachedAfter_concat,
        cachedAfter_nil]
    refine ⟨congrArg (call :: ·) hcalls, fun earlier u later h => ?_⟩
    cases earlier with
    | nil =>
      obtain ⟨rfl, _⟩ := List.cons.inj h
      refine ⟨rfl, ?_, hafter⟩
      rwa [cachedAfter_nil]
    | cons first earlier =>
      obtain ⟨rfl, htail⟩ := List.cons.inj h
      -- the later uses go on with what the first one has left, which is all that differs
      obtain ⟨hbefore, hfollows, hlast⟩ := hlater earlier u later htail
      rw [hafter] at hfollows hlast
      refine ⟨?_, ?_, ?_⟩
      · rw [hbefore, List.getLast?_cons]
        cases earlier.getLast? <;> rfl
      · rw [cachedAfter_cons]
        exact hfollows.of_ensured
      · rw [List.cons_append, cachedAfter_cons]
        exact hlast

end Bootstrapper

end ClusterDeploy
