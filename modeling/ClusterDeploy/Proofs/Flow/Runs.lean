import ClusterDeploy.Flow.Run
/-!
# Runs of attempts

How the run of a composed attempt arises from the runs of its parts, which calls a flow can make at
all, and what an uncancelled end says about the run before it. The surroundings are arbitrary.
-/
namespace ClusterDeploy

variable {σ : Type} {world : Surroundings σ} {s : Scene σ}

namespace Scene

theorem not_cancelled_iff : s.isCancelled = false ↔ ∀ t ∈ s.cancelAt, s.now < t := by
  unfold isCancelled
  cases s.cancelAt <;> simp

theorem not_cancelled_of_after {r : Reaction σ β} (h : (s.after r).isCancelled = false) :
    s.isCancelled = false := by
  rw [not_cancelled_iff] at h ⊢
  intro t ht
  by_cases hc : r.cancels
  · have := h (min t (s.now + r.elapsed)) (by simp_all [after, cancelledBy])
    simp only [after] at this
    omega
  · have := h t (by simp_all [after])
    simp only [after] at this
    omega

theorem not_cancelled_of_rest {time : Nat} (h : (s.rest time).isCancelled = false) :
    s.isCancelled = false := by
  rw [not_cancelled_iff] at h ⊢
  intro t ht
  have := h t ht
  simp only [rest, Option.mem_def.mp ht] at this
  omega

theorem now_le_rest (s : Scene σ) (time : Nat) : s.now ≤ (s.rest time).now := by
  cases hc : s.cancelAt with
  | none => simp [rest, hc]
  | some t => simp only [rest, hc]; omega

/-- A pause that no cancellation cuts short takes its full time. -/
theorem rest_now {time : Nat} (h : (s.rest time).isCancelled = false) :
    (s.rest time).now = s.now + time := by
  rw [not_cancelled_iff] at h
  cases hc : s.cancelAt with
  | none => simp [rest, hc]
  | some t =>
    have := h t hc
    simp only [rest, hc] at this ⊢
    omega

end Scene

namespace Flow

/-- A cancellation is never taken back. -/
theorem not_cancelled_of_run (t : Flow α) (s : Scene σ)
    (h : (t.run world s).scene.isCancelled = false) : s.isCancelled = false := by
  induction t generalizing s with
  | done a => exact h
  | ask c next ih => exact Scene.not_cancelled_of_after (ih _ _ h)
  | clock next ih => exact ih _ s h
  | pause time next ih => exact Scene.not_cancelled_of_rest (ih _ h)

theorem now_le_run (t : Flow α) (s : Scene σ) : s.now ≤ (t.run world s).scene.now := by
  induction t generalizing s with
  | done a => exact Nat.le_refl _
  | ask c next ih =>
    have hlater := ih (world c s.state).answer (s.after (world c s.state))
    exact Nat.le_trans (Nat.le_add_right s.now (world c s.state).elapsed) hlater
  | clock next ih => exact ih _ s
  | pause time next ih => exact Nat.le_trans (Scene.now_le_rest s time) (ih _)

theorem finish_le_run (t : Flow α) (s : Scene σ) :
    ∀ step ∈ (t.run world s).steps, step.finish ≤ (t.run world s).scene.now := by
  induction t generalizing s with
  | done a => intro step hs; cases hs
  | ask c next ih =>
    intro step hs
    rcases List.mem_cons.mp hs with rfl | hs
    · exact now_le_run _ _
    · exact ih _ _ step hs
  | clock next ih => exact ih _ s
  | pause time next ih => exact ih _

theorem answer_of_run (t : Flow α) (s : Scene σ) :
    ∀ step ∈ (t.run world s).steps, ∃ state, step.answer = (world step.call state).answer := by
  induction t generalizing s with
  | done a => intro step hs; cases hs
  | ask c next ih =>
    intro step hs
    rcases List.mem_cons.mp hs with rfl | hs
    · exact ⟨s.state, rfl⟩
    · exact ih _ _ step hs
  | clock next ih => exact ih _ s
  | pause time next ih => exact ih _

/-- Surroundings that agree as long as an invariant holds have the same runs where it does. -/
theorem run_congr {other : Surroundings σ} {inv : σ → Prop}
    (agree : ∀ c state, inv state → world c state = other c state)
    (kept : ∀ c state, inv state → inv (world c state).after) (t : Flow α) (s : Scene σ)
    (h : inv s.state) : t.run world s = t.run other s := by
  induction t generalizing s with
  | done a => rfl
  | ask c next ih =>
    rw [run, run, ← agree c s.state h, ih _ _ (kept c s.state h)]
  | clock next ih => exact ih _ s h
  | pause time next ih => exact ih _ h

/-- Whatever is answered, the flow makes only calls with the property. -/
def Makes (p : Call → Prop) : Flow α → Prop
  | done _ => True
  | ask c next => p c ∧ ∀ answer, (next answer).Makes p
  | clock next => ∀ m, (next m).Makes p
  | pause _ next => next.Makes p

variable {p : Call → Prop}

theorem Makes.mono {q : Call → Prop} {t : Flow α} (h : t.Makes p) (hpq : ∀ c, p c → q c) :
    t.Makes q := by
  induction t with
  | done a => trivial
  | ask c next ih => exact ⟨hpq c h.1, fun answer => ih answer (h.2 answer)⟩
  | clock next ih => exact fun m => ih m (h m)
  | pause time next ih => exact ih h

theorem Makes.bind {t : Flow α} {f : α → Flow β} (ht : t.Makes p) (hf : ∀ a, (f a).Makes p) :
    (t.bind f).Makes p := by
  induction t with
  | done a => exact hf a
  | ask c next ih => exact ⟨ht.1, fun answer => ih answer (ht.2 answer)⟩
  | clock next ih => exact fun m => ih m (ht m)
  | pause time next ih => exact ih ht

section Failing

variable {t : ExceptT ε Flow α}

theorem Makes.andThen {f : α → ExceptT ε Flow β} (ht : Makes p t.run)
    (hf : ∀ a, Makes p (f a).run) : Makes p (t >>= f).run := by
  refine Makes.bind ht fun r => ?_
  cases r with
  | ok a => exact hf a
  | error e => trivial

theorem Makes.wrap {t : Attempt α} (f : Error → Error) (h : Makes p t.run) :
    Makes p (Attempt.wrap f t).run :=
  Makes.bind h fun _ => trivial

theorem Makes.unlessNotFound {t : Attempt α} (h : Makes p t.run) :
    Makes p (Attempt.unlessNotFound t).run :=
  Makes.bind h fun _ => trivial

theorem makes_ofExcept (r : Except Error α) : Makes p (Attempt.ofExcept r).run := trivial

theorem makes_afterExcept {r : Except ε α} {f : α → ExceptT ε Flow β}
    (h : ∀ a, r = .ok a → Makes p (f a).run) :
    Makes p ((ExceptT.mk (done r) : ExceptT ε Flow α) >>= f).run := by
  cases r with
  | ok a => exact h a rfl
  | error e => trivial

theorem makes_call {c : Call} (h : p c) : Makes p (Attempt.call c).run := ⟨h, fun _ => trivial⟩

theorem makes_of (c : Call) (read : c.Answer → Except Error α) (h : p c) :
    Makes p (Attempt.of (.ask c fun answer => .done (read answer))).run := ⟨h, fun _ => trivial⟩

end Failing

theorem Makes.run {t : Flow α} (h : t.Makes p) (s : Scene σ) :
    ∀ step ∈ (t.run world s).steps, p step.call := by
  induction t generalizing s with
  | done a => intro step hs; cases hs
  | ask c next ih =>
    intro step hs
    rcases List.mem_cons.mp hs with rfl | hs
    · exact h.1
    · exact ih _ (h.2 _) _ step hs
  | clock next ih => exact ih _ (h _) s
  | pause time next ih => exact ih h _

/-- What none of the calls changes in the surroundings stays as it is. -/
theorem Makes.keeps {t : Flow α} (h : t.Makes p) (world : Surroundings σ) (view : σ → γ)
    (keeps : ∀ c state, p c → view (world c state).after = view state) (s : Scene σ) :
    view (t.run world s).scene.state = view s.state := by
  induction t generalizing s with
  | done a => rfl
  | ask c next ih => exact (ih _ (h.2 _) _).trans (keeps c s.state h.1)
  | clock next ih => exact ih _ (h _) s
  | pause time next ih => exact ih h _

end Flow

namespace Attempt

def runIn (world : Surroundings σ) (t : Attempt α) (s : Scene σ) : Run σ (Except Error α) :=
  Flow.run world t.run s

theorem runIn_bind (t : Attempt α) (f : α → Attempt β) :
    (t >>= f).runIn world s =
      match (t.runIn world s).result with
      | .ok a =>
        let second := (f a).runIn world (t.runIn world s).scene
        { second with steps := (t.runIn world s).steps ++ second.steps }
      | .error e => { t.runIn world s with result := .error e } := by
  show Flow.run world (Flow.bind t.run (ExceptT.bindCont f)) s = _
  rw [Flow.run_bind]
  unfold runIn
  generalize Flow.run world t.run s = first
  obtain ⟨result, scene, steps⟩ := first
  cases result with
  | error e => simp [ExceptT.bindCont, pure, Flow.run]
  | ok a => rfl

theorem runIn_bind_ok {t : Attempt α} {f : α → Attempt β} {a : α}
    (h : (t.runIn world s).result = .ok a) :
    (t >>= f).runIn world s =
      { (f a).runIn world (t.runIn world s).scene with
        steps := (t.runIn world s).steps ++
          ((f a).runIn world (t.runIn world s).scene).steps } := by
  rw [runIn_bind, h]

theorem runIn_bind_error {t : Attempt α} {f : α → Attempt β} {e : Error}
    (h : (t.runIn world s).result = .error e) :
    (t >>= f).runIn world s = { t.runIn world s with result := .error e } := by
  rw [runIn_bind, h]

theorem runIn_bind_pure (t : Attempt α) (f : α → β) :
    (t >>= fun a => pure (f a)).runIn world s =
      { t.runIn world s with result := (t.runIn world s).result.map f } := by
  rw [runIn_bind]
  generalize t.runIn world s = first
  obtain ⟨result, scene, steps⟩ := first
  cases result with
  | error e => rfl
  | ok a =>
    show (⟨.ok (f a), scene, steps ++ []⟩ : Run σ (Except Error β)) = _
    rw [List.append_nil]
    rfl

theorem result_bind_ok {t : Attempt α} {f : α → Attempt β} {a : α}
    (h : (t.runIn world s).result = .ok a) :
    ((t >>= f).runIn world s).result =
      ((f a).runIn world (t.runIn world s).scene).result := by
  rw [runIn_bind_ok h]

theorem not_cancelled_of_bind {t : Attempt α} {f : α → Attempt β}
    (h : ((t >>= f).runIn world s).scene.isCancelled = false) :
    (t.runIn world s).scene.isCancelled = false := by
  cases hr : (t.runIn world s).result with
  | error e => rwa [runIn_bind_error hr] at h
  | ok a =>
    rw [runIn_bind_ok hr] at h
    exact Flow.not_cancelled_of_run _ _ h

theorem runIn_wrap (f : Error → Error) (t : Attempt α) :
    (wrap f t).runIn world s =
      { t.runIn world s with result := (t.runIn world s).result.mapError f } := by
  show Flow.run world (Flow.bind t.run _) s = _
  rw [Flow.run_bind]
  simp [runIn, Flow.run]

theorem result_wrap_ok {t : Attempt α} {a : α} (f : Error → Error)
    (h : (t.runIn world s).result = .ok a) : ((wrap f t).runIn world s).result = .ok a := by
  rw [runIn_wrap, h]
  rfl

theorem runIn_unlessNotFound (t : Attempt α) :
    (unlessNotFound t).runIn world s =
      { t.runIn world s with
        result := match (t.runIn world s).result with
          | .ok a => .ok (some a)
          | .error e => if e.isNotFound then .ok none else .error e } := by
  show Flow.run world (Flow.bind t.run _) s = _
  rw [Flow.run_bind]
  simp only [Flow.run, List.append_nil]
  rfl

theorem not_cancelled_of_wrap {f : Error → Error} {t : Attempt α}
    (h : ((wrap f t).runIn world s).scene.isCancelled = false) :
    (t.runIn world s).scene.isCancelled = false := by
  rwa [runIn_wrap] at h

theorem not_cancelled_of_unlessNotFound {t : Attempt α}
    (h : ((unlessNotFound t).runIn world s).scene.isCancelled = false) :
    (t.runIn world s).scene.isCancelled = false := by
  rwa [runIn_unlessNotFound] at h

end Attempt

end ClusterDeploy
