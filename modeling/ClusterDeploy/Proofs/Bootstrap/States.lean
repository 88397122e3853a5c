import ClusterDeploy.Flow.Session
import ClusterDeploy.Proofs.Flow.Runs
/-!
# The states that a bootstrap goes through

Which states a run has come to can be told from its steps. An attempt advances along a list of
states when it comes to all of them in order, or else fails under the name of the first one it
misses.
-/
namespace ClusterDeploy

def Call.reached? : Call → Option BootstrapState
  | .reach state => some state
  | _ => none

def reached (steps : List Step) : List BootstrapState := steps.filterMap (·.call.reached?)

/-- The last state reached, which may have been reached before. -/
def stateAfter (before : BootstrapState) (steps : List Step) : BootstrapState :=
  (reached steps).getLastD before

@[simp] theorem reached_append (a b : List Step) : reached (a ++ b) = reached a ++ reached b :=
  List.filterMap_append

theorem reached_eq_of_ne_nil {before : BootstrapState} {steps : List Step}
    (h : reached steps ≠ []) :
    reached steps = (reached steps).dropLast ++ [stateAfter before steps] := by
  have hlast : stateAfter before steps = (reached steps).getLast h := by
    rw [stateAfter, List.getLastD_eq_getLast?, List.getLast?_eq_some_getLast h]
    rfl
  rw [hlast, List.dropLast_concat_getLast h]

def Call.Stays (c : Call) : Prop := c.reached? = none

theorem reached_of_stays {steps : List Step} (h : ∀ step ∈ steps, step.call.Stays) :
    reached steps = [] :=
  List.filterMap_eq_nil_iff.mpr h

/-- A session shows the state that was reached last. -/
theorem Session.bootstrap_run (outside : Outside τ) (observer : Observer π)
    (store : KubeconfigStore) (t : Flow α) (s : Scene (Session π τ)) :
    let r := t.run (Session.respond outside observer store) s
    r.scene.state.bootstrap = stateAfter s.state.bootstrap r.steps := by
  induction t generalizing s with
  | done a => rfl
  | ask c next ih =>
    simp only [Flow.run]
    rw [ih]
    cases c with
    | reach state =>
      simp only [stateAfter, reached, List.filterMap_cons, Call.reached?, List.getLastD_cons]
      rfl
    | _ => rfl
  | clock next ih => exact ih _ s
  | pause time next ih => exact ih (s.rest time)

/-- The run comes to all states of the list, or fails under the name of the first one it misses. -/
structure Run.Advances (r : Run σ (Except Error α)) (states : List BootstrapState) : Prop where
  complete : ∀ a, r.result = .ok a → reached r.steps = states
  named : ∀ e, r.result = .error e → ∃ state source later,
    e = .bootstrap state source ∧ states = reached r.steps ++ state :: later

theorem Run.Advances.infix_of_error {r : Run σ (Except Error α)} {states : List BootstrapState}
    {before : BootstrapState} {e : Error} (h : r.Advances states) (hsteps : reached r.steps ≠ [])
    (he : r.result = .error e) :
    ∃ state source, e = .bootstrap state source ∧
      [stateAfter before r.steps, state] <:+: states := by
  obtain ⟨state, source, later, rfl, hstates⟩ := h.named e he
  refine ⟨state, source, rfl, (reached r.steps).dropLast, later, ?_⟩
  calc (reached r.steps).dropLast ++ [stateAfter before r.steps, state] ++ later
      = ((reached r.steps).dropLast ++ [stateAfter before r.steps]) ++ state :: later := by simp
    _ = reached r.steps ++ state :: later := by rw [← reached_eq_of_ne_nil hsteps]
    _ = states := hstates.symm

namespace Attempt

variable {world : Surroundings σ} {s : Scene σ} {states later : List BootstrapState}
  {state : BootstrapState}

theorem advances_pure (a : α) : ((pure a : Attempt α).runIn world s).Advances [] := by
  constructor
  · intro _ _
    rfl
  · intro e h
    cases h

theorem advances_fail (state : BootstrapState) (source : Error) (more : List BootstrapState) :
    ((throw (.bootstrap state source) : Attempt α).runIn world s).Advances (state :: more) := by
  constructor
  · intro a h
    cases h
  · rintro e ⟨⟩
    exact ⟨state, source, more, rfl, rfl⟩

theorem advances_call {c : Call} (h : c.Stays) : ((call c).runIn world s).Advances [] := by
  constructor
  · intro _ _
    exact reached_of_stays (Flow.Makes.run (t := (call c).run) (Flow.makes_call h) s)
  · intro e he
    cases he

theorem advances_reach (state : BootstrapState) :
    ((call (.reach state)).runIn world s).Advances [state] := by
  constructor
  · intro _ _
    rfl
  · intro e he
    cases he

theorem advances_bind {t : Attempt α} {f : α → Attempt β}
    (ht : (t.runIn world s).Advances states)
    (hf : ∀ a s, ((f a).runIn world s).Advances later) :
    ((t >>= f).runIn world s).Advances (states ++ later) := by
  cases hr : (t.runIn world s).result with
  | ok a =>
    have hlater := hf a (t.runIn world s).scene
    rw [runIn_bind_ok hr]
    constructor
    · intro b hb
      rw [reached_append, ht.complete a hr, hlater.complete b hb]
    · intro e he
      obtain ⟨state, source, more, rfl, hmore⟩ := hlater.named e he
      refine ⟨state, source, more, rfl, ?_⟩
      rw [reached_append, ht.complete a hr, hmore, List.append_assoc]
  | error e =>
    rw [runIn_bind_error hr]
    constructor
    · intro b hb
      cases hb
    · rintro _ ⟨⟩
      obtain ⟨state, source, more, he, hmore⟩ := ht.named e hr
      exact ⟨state, source, more ++ later, he, by simp [hmore]⟩

theorem advances_toward {t : Attempt α} {f : α → Attempt β}
    (ht : Flow.Makes Call.Stays t.run)
    (hf : ∀ a s, ((f a).runIn world s).Advances (state :: later)) :
    ((wrap (.bootstrap state) t >>= f).runIn world s).Advances (state :: later) := by
  have hquiet : reached ((wrap (.bootstrap state) t).runIn world s).steps = [] :=
    reached_of_stays (Flow.Makes.run (Flow.Makes.wrap _ ht) s)
  cases hr : (t.runIn world s).result with
  | ok a =>
    have hok : ((wrap (.bootstrap state) t).runIn world s).result = .ok a := by
      rw [runIn_wrap, hr]
      rfl
    have hlater := hf a ((wrap (.bootstrap state) t).runIn world s).scene
    rw [runIn_bind_ok hok]
    constructor
    · intro b hb
      rw [reached_append, hquiet, List.nil_append]
      exact hlater.complete b hb
    · intro e he
      rw [reached_append, hquiet, List.nil_append]
      exact hlater.named e he
  | error source =>
    have herror : ((wrap (.bootstrap state) t).runIn world s).result =
        .error (.bootstrap state source) := by
      rw [runIn_wrap, hr]
      rfl
    rw [runIn_bind_error herror]
    constructor
    · intro b hb
      cases hb
    · rintro _ ⟨⟩
      exact ⟨state, source, later, rfl, by rw [hquiet, List.nil_append]⟩

end Attempt

end ClusterDeploy
