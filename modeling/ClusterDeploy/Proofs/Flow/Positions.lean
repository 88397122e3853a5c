import ClusterDeploy.Proofs.Flow.Runs
/-!
# Positions in a run

A run goes from position to position: a flow that is left, in a scene, after some steps. What holds
wherever a call is about to be made, and of the end, is proved along the flow, in given surroundings
and from a given scene.
-/
namespace ClusterDeploy.Flow

variable {σ : Type} {world : Surroundings σ}

/-- The run of a flow in a scene makes some steps and comes to a flow in another scene. -/
inductive LeadsTo (world : Surroundings σ) :
    Flow α → Scene σ → List Step → Flow α → Scene σ → Prop
  | here {t : Flow α} {s : Scene σ} : LeadsTo world t s [] t s
  | ask {c : Call} {next : c.Answer → Flow α} {s s' : Scene σ} {made : List Step} {t : Flow α}
      (later : LeadsTo world (next (world c s.state).answer) (s.after (world c s.state)) made t
        s') :
      LeadsTo world (.ask c next) s
        (⟨c, (world c s.state).answer, s.now, (s.after (world c s.state)).now⟩ :: made) t s'
  | clock {next : Moment → Flow α} {s s' : Scene σ} {made : List Step} {t : Flow α}
      (later : LeadsTo world (next s.moment) s made t s') :
      LeadsTo world (.clock next) s made t s'
  | pause {time : Nat} {next : Flow α} {s s' : Scene σ} {made : List Step} {t : Flow α}
      (later : LeadsTo world next (s.rest time) made t s') :
      LeadsTo world (.pause time next) s made t s'

namespace LeadsTo

variable {t t' : Flow α} {s s' : Scene σ} {made : List Step}

theorem run_eq (h : LeadsTo world t s made t' s') :
    t.run world s =
      { t'.run world s' with steps := made ++ (t'.run world s').steps } := by
  induction h with
  | here => rfl
  | ask later ih => simp only [Flow.run, ih, List.cons_append]
  | clock later ih => exact ih
  | pause later ih => exact ih

theorem not_cancelled (h : LeadsTo world t s made t' s') (after : s'.isCancelled = false) :
    s.isCancelled = false := by
  induction h with
  | here => exact after
  | ask later ih => exact Scene.not_cancelled_of_after (ih after)
  | clock later ih => exact ih after
  | pause later ih => exact Scene.not_cancelled_of_rest (ih after)

theorem of_run (t : Flow α) (s : Scene σ) :
    LeadsTo world t s (t.run world s).steps (.done (t.run world s).result)
      (t.run world s).scene := by
  induction t generalizing s with
  | done a => exact .here
  | ask c next ih => exact .ask (ih _ _)
  | clock next ih => exact .clock (ih _ s)
  | pause time next ih => exact .pause (ih _)

theorem of_step {t : Flow α} {s : Scene σ} {before after : List Step} {step : Step}
    (h : (t.run world s).steps = before ++ step :: after) :
    ∃ next s', LeadsTo world t s before (.ask step.call next) s' ∧ step.start = s'.now := by
  induction t generalizing s before with
  | done a =>
    have hnil : [] = before ++ step :: after := h
    exact absurd hnil (by simp)
  | ask c next ih =>
    cases before with
    | nil =>
      obtain ⟨rfl, _⟩ := List.cons.inj h
      exact ⟨next, s, .here, rfl⟩
    | cons first before =>
      obtain ⟨rfl, hlater⟩ := List.cons.inj h
      obtain ⟨next', s', hleads, hstart⟩ := ih _ hlater
      exact ⟨next', s', .ask hleads, hstart⟩
  | clock next ih =>
    obtain ⟨next', s', hleads, hstart⟩ := ih _ h
    exact ⟨next', s', .clock hleads, hstart⟩
  | pause time next ih =>
    obtain ⟨next', s', hleads, hstart⟩ := ih h
    exact ⟨next', s', .pause hleads, hstart⟩

/-- A cancellation that is settled is never put off. -/
theorem cancelAt_le (h : LeadsTo world t s made t' s') {time : Nat} (settled : time ∈ s.cancelAt) :
    ∃ time' ∈ s'.cancelAt, time' ≤ time := by
  induction h generalizing time with
  | here => exact ⟨time, settled, Nat.le_refl time⟩
  | @ask c next s s' made t later ih =>
    have hafter : ∃ time' ∈ (s.after (world c s.state)).cancelAt, time' ≤ time := by
      unfold Scene.after Scene.cancelledBy
      rw [Option.mem_def.mp settled]
      by_cases hcancels : (world c s.state).cancels
      · exact ⟨_, if_pos hcancels, Nat.min_le_left _ _⟩
      · exact ⟨time, if_neg hcancels, Nat.le_refl time⟩
    obtain ⟨between, hbetween, hle⟩ := hafter
    obtain ⟨time', htime', hle'⟩ := ih hbetween
    exact ⟨time', htime', Nat.le_trans hle' hle⟩
  | clock later ih => exact ih settled
  | pause later ih => exact ih settled

theorem le_cancelAt (h : LeadsTo world t s made t' s') {start time : Nat} (begun : start ≤ s.now)
    (fresh : ∀ time ∈ s.cancelAt, start ≤ time) (settled : time ∈ s'.cancelAt) : start ≤ time := by
  induction h with
  | here => exact fresh time settled
  | @ask c next s s' made t later ih =>
    -- a call that cancels the run settles on its own end, which is not before its start
    refine ih (Nat.le_trans begun (Nat.le_add_right _ _)) (fun between hbetween => ?_) settled
    unfold Scene.after Scene.cancelledBy at hbetween
    by_cases hcancels : (world c s.state).cancels
    · cases hat : s.cancelAt with
      | none =>
        have : s.now + (world c s.state).elapsed = between := by
          simpa [hcancels, hat] using hbetween
        omega
      | some earlier =>
        have hearlier := fresh earlier hat
        have : min earlier (s.now + (world c s.state).elapsed) = between := by
          simpa [hcancels, hat] using hbetween
        omega
    · exact fresh between (by simpa [hcancels] using hbetween)
  | clock later ih => exact ih begun fresh settled
  | pause later ih => exact ih (Nat.le_trans begun (Scene.now_le_rest _ _)) fresh settled

end LeadsTo

/-- Wherever a call is made it is in order there, and the end is as promised. -/
def Meets (world : Surroundings σ) (ok : Call → Scene σ → Prop) (post : α → Scene σ → Prop) :
    Flow α → Scene σ → Prop
  | done a, s => post a s
  | ask c next, s =>
    ok c s ∧ (next (world c s.state).answer).Meets world ok post (s.after (world c s.state))
  | clock next, s => (next s.moment).Meets world ok post s
  | pause time next, s => next.Meets world ok post (s.rest time)

section Meets

variable {ok : Call → Scene σ → Prop} {s : Scene σ}

theorem Meets.along {post : α → Scene σ → Prop} {t t' : Flow α} {made : List Step} {s' : Scene σ}
    (h : t.Meets world ok post s) (position : LeadsTo world t s made t' s') :
    t'.Meets world ok post s' := by
  induction position with
  | here => exact h
  | ask later ih => exact ih h.2
  | clock later ih => exact ih h
  | pause later ih => exact ih h

theorem Meets.call {post : α → Scene σ → Prop} {t : Flow α} {made : List Step} {c : Call}
    {next : c.Answer → Flow α} {s' : Scene σ} (h : t.Meets world ok post s)
    (position : LeadsTo world t s made (.ask c next) s') : ok c s' :=
  (h.along position).1

theorem Meets.finish {post : α → Scene σ → Prop} {t : Flow α} (h : t.Meets world ok post s) :
    post (t.run world s).result (t.run world s).scene := by
  induction t generalizing s with
  | done a => exact h
  | ask c next ih => exact ih _ h.2
  | clock next ih => exact ih _ h
  | pause time next ih => exact ih h

theorem meets_bind {t : Flow α} {f : α → Flow β} {post : β → Scene σ → Prop} :
    (t.bind f).Meets world ok post s ↔
      t.Meets world ok (fun a s' => (f a).Meets world ok post s') s := by
  induction t generalizing s with
  | done a => exact Iff.rfl
  | ask c next ih => exact and_congr_right fun _ => ih _
  | clock next ih => exact ih _
  | pause time next ih => exact ih

theorem Meets.mono {post post' : α → Scene σ → Prop} {t : Flow α} (h : t.Meets world ok post s)
    (weaker : ∀ a s', post a s' → post' a s') : t.Meets world ok post' s := by
  induction t generalizing s with
  | done a => exact weaker a s h
  | ask c next ih => exact ⟨h.1, ih _ h.2⟩
  | clock next ih => exact ih _ h
  | pause time next ih => exact ih h

/-- What no call of a sort breaks holds at the end of a flow that makes only such calls. -/
theorem Makes.meets {p : Call → Prop} {t : Flow α} (h : t.Makes p) (inv : σ → Prop)
    (keeps : ∀ c s, p c → inv s.state → ok c s ∧ inv (world c s.state).after)
    (holds : inv s.state) : t.Meets world ok (fun _ s' => inv s'.state) s := by
  induction t generalizing s with
  | done a => exact holds
  | ask c next ih =>
    have hcall := keeps c s h.1 holds
    exact ⟨hcall.1, ih _ (h.2 _) hcall.2⟩
  | clock next ih => exact ih _ (h _) holds
  | pause time next ih => exact ih h holds

theorem Meets.andThen {t : ExceptT ε Flow α} {f : α → ExceptT ε Flow β}
    {mid : Except ε α → Scene σ → Prop} {post : Except ε β → Scene σ → Prop}
    (ht : Meets world ok mid t.run s)
    (hf : ∀ a s', mid (.ok a) s' → Meets world ok post (f a).run s')
    (failed : ∀ e s', mid (.error e) s' → post (.error e) s') :
    Meets world ok post (t >>= f).run s := by
  refine meets_bind.mpr (ht.mono fun r s' hr => ?_)
  cases r with
  | ok a => exact hf a s' hr
  | error e => exact failed e s' hr

end Meets

end ClusterDeploy.Flow
