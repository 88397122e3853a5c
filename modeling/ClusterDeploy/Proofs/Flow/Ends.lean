import ClusterDeploy.Proofs.Flow.Runs
/-!
# What attempts end with

A flow that is answered fairly ends with a result that has some property, whoever answers and
whatever the clock shows. For attempts there is one property of what they give and one of the
errors they fail with, and both compose.
-/
namespace ClusterDeploy

instance : LawfulMonad Flow :=
  LawfulMonad.mk' Flow Flow.bind_done (fun _ _ => rfl) Flow.bind_assoc

namespace Flow

/-- As long as every answer is fair, the flow ends with a result that has the property. -/
def Ends (fair : (c : Call) → c.Answer → Prop) (q : α → Prop) : Flow α → Prop
  | done a => q a
  | ask c next => ∀ answer, fair c answer → (next answer).Ends fair q
  | clock next => ∀ m, (next m).Ends fair q
  | pause _ next => next.Ends fair q

variable {σ : Type} {world : Surroundings σ} {fair : (c : Call) → c.Answer → Prop}

theorem Ends.bind {t : Flow α} {f : α → Flow β} {p : α → Prop} {q : β → Prop}
    (ht : t.Ends fair p) (hf : ∀ a, p a → (f a).Ends fair q) : (t.bind f).Ends fair q := by
  induction t with
  | done a => exact hf a ht
  | ask c next ih => exact fun answer h => ih answer (ht answer h)
  | clock next ih => exact fun m => ih m (ht m)
  | pause time next ih => exact ih ht

theorem Ends.run {t : Flow α} {q : α → Prop} (h : t.Ends fair q)
    (answers : ∀ c state, fair c (world c state).answer) (s : Scene σ) :
    q (t.run world s).result := by
  induction t generalizing s with
  | done a => exact h
  | ask c next ih => exact ih _ (h _ (answers c s.state)) _
  | clock next ih => exact ih _ (h _) s
  | pause time next ih => exact ih h _

/-- Where the property is missed at the end, some answer was unfair. -/
theorem Ends.run_unless {t : Flow α} {q : α → Prop} (h : t.Ends fair q) (world : Surroundings σ)
    (s : Scene σ) :
    q (t.run world s).result ∨ ∃ step ∈ (t.run world s).steps, ¬ fair step.call step.answer := by
  induction t generalizing s with
  | done a => exact .inl h
  | ask c next ih =>
    by_cases hfair : fair c (world c s.state).answer
    · rcases ih _ (h _ hfair) (s.after (world c s.state)) with hq | ⟨step, hstep, hunfair⟩
      · exact .inl hq
      · exact .inr ⟨step, List.mem_cons_of_mem _ hstep, hunfair⟩
    · exact .inr ⟨_, List.mem_cons_self, hfair⟩
  | clock next ih => exact ih _ (h _) s
  | pause time next ih => exact ih h _

end Flow

namespace Attempt

def Outcome (good : α → Prop) (bad : Error → Prop) : Except Error α → Prop
  | .ok a => good a
  | .error e => bad e

/-- Answered fairly, the attempt gives only what is good, and fails only with what is bad. -/
def Gives (fair : (c : Call) → c.Answer → Prop) (good : α → Prop) (bad : Error → Prop)
    (t : Attempt α) : Prop :=
  Flow.Ends fair (Outcome good bad) t.run

variable {fair : (c : Call) → c.Answer → Prop} {good : α → Prop} {bad : Error → Prop}

theorem Gives.andThen {t : Attempt α} {f : α → Attempt β} {better : β → Prop}
    (ht : Gives fair good bad t) (hf : ∀ a, good a → Gives fair better bad (f a)) :
    Gives fair better bad (t >>= f) := by
  refine Flow.Ends.bind ht fun r hr => ?_
  cases r with
  | ok a => exact hf a hr
  | error e => exact hr

theorem Gives.wrap {t : Attempt α} {inner : Error → Prop} {f : Error → Error}
    (h : Gives fair good inner t) (hf : ∀ e, inner e → bad (f e)) :
    Gives fair good bad (wrap f t) := by
  refine Flow.Ends.bind h fun r hr => ?_
  cases r with
  | ok a => exact hr
  | error e => exact hf e hr

theorem Gives.unlessNotFound {t : Attempt α} (h : Gives fair good bad t) :
    Gives fair (fun found => ∀ a ∈ found, good a) bad (unlessNotFound t) := by
  refine Flow.Ends.bind h fun r hr => ?_
  cases r with
  | ok a =>
    rintro _ ⟨⟩
    exact hr
  | error e =>
    dsimp only
    split
    · rintro _ ⟨⟩
    · exact hr

/-- Nothing is absent where no failure is one to find something. -/
theorem Gives.present {t : Attempt α} (h : Gives fair good bad t)
    (other : ∀ e, bad e → e.isNotFound = false) :
    Gives fair (fun found => ∃ a ∈ found, good a) bad (Attempt.unlessNotFound t) := by
  refine Flow.Ends.bind h fun r hr => ?_
  cases r with
  | ok a => exact ⟨a, rfl, hr⟩
  | error e =>
    have hother := other e hr
    dsimp only
    rw [hother]
    exact hr

theorem gives_any (t : Attempt α) : Gives fair (fun _ => True) (fun _ => True) t := by
  have hends : ∀ t : Flow (Except Error α),
      t.Ends fair (Outcome (fun _ => True) fun _ => True) := by
    intro t
    induction t with
    | done r => cases r <;> trivial
    | ask c next ih => exact fun answer _ => ih answer
    | clock next ih => exact ih
    | pause time next ih => exact ih
  exact hends t.run

theorem gives_pure {a : α} (h : good a) : Gives fair good bad (pure a) := h

theorem gives_ofExcept {r : Except Error α} (h : Outcome good bad r) :
    Gives fair good bad (ofExcept r) := h

theorem gives_call (c : Call) : Gives fair (fun _ => True) bad (call c) := fun _ _ => trivial

theorem gives_of (c : Call) (read : c.Answer → Except Error α)
    (h : ∀ answer, fair c answer → Outcome good bad (read answer)) :
    Gives fair good bad (of (.ask c fun answer => .done (read answer))) := h

theorem Gives.runIn {σ : Type} {t : Attempt α} (h : Gives fair good bad t)
    (world : Surroundings σ) (answers : ∀ c state, fair c (world c state).answer) (s : Scene σ) :
    Outcome good bad (t.runIn world s).result :=
  Flow.Ends.run h answers s

end Attempt

end ClusterDeploy
