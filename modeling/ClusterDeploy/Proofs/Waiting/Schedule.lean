import ClusterDeploy.Proofs.Waiting.Outcome
import Mathlib.Algebra.Order.Floor.Div
/-!
# When a wait looks

The first listing starts at once and the next ones an interval after the end of the one before,
with the last pause cut at the deadline. So the rounds are bounded by the time there is, a wait is
refused only by a listing that ended at the deadline or later, and listings that take no time stand
at the multiples of the interval.
-/
namespace ClusterDeploy

namespace Watch

/-- One pause less is one multiple of the interval less, the clipped pause included. -/
theorem ceilDiv_remaining {interval remaining : Nat} (spaced : 0 < interval)
    (some_left : 0 < remaining) :
    remaining ⌈/⌉ interval = (remaining - min interval remaining) ⌈/⌉ interval + 1 := by
  rw [Nat.ceilDiv_eq_add_pred_div, Nat.ceilDiv_eq_add_pred_div]
  rcases Nat.le_total interval remaining with h | h
  · have hshift : remaining + interval - 1 = remaining - interval + interval - 1 + interval := by
      omega
    rw [Nat.min_eq_left h, hshift, Nat.add_div_right _ spaced]
  · have hnone : (0 + interval - 1) / interval = 0 := Nat.div_eq_of_lt (by omega)
    have hone : (remaining + interval - 1) / interval = 1 :=
      Nat.div_eq_of_lt_le (by omega) (by omega)
    rw [Nat.min_eq_right h, Nat.sub_self, hnone, hone]

variable {σ : Type} {world : Surroundings σ} {w : Watch α} {poll : PollOptions}

/-- A limit on the rounds that suffices is never felt, whether the wait is cancelled or not. -/
theorem run_lookUntil_add (spaced : 0 < poll.interval) {deadline rounds : Nat}
    {last : Option String} {s : Scene σ} (early : s.now ≤ deadline)
    (room : Suffices poll deadline s.now rounds) (extra : Nat) :
    Flow.run world (w.lookUntil poll deadline (rounds + extra) last) s =
      Flow.run world (w.lookUntil poll deadline rounds last) s := by
  induction rounds generalizing last s with
  | zero => exact absurd room (Suffices.rounds_ne_zero spaced early)
  | succ rounds ih =>
    rw [Nat.add_right_comm, run_lookUntil, run_lookUntil]
    have hnext : (w.listed world s).now < deadline →
        ∀ last, Flow.run world (w.lookUntil poll deadline (rounds + extra) last)
            (w.rested poll world deadline s) =
          Flow.run world (w.lookUntil poll deadline rounds last)
            (w.rested poll world deadline s) := by
      intro hearly last
      have hroom := room.next (now_le_listed w world s) hearly
      cases hc : (w.rested poll world deadline s).isCancelled with
      | false =>
        rw [← rested_now hc] at hroom
        refine ih ?_ hroom
        rw [rested_now hc]
        omega
      | true =>
        cases rounds with
        | zero => exact absurd hroom (Suffices.rounds_ne_zero spaced (by omega))
        | succ rounds =>
          rw [Nat.add_right_comm, run_lookUntil, run_lookUntil, hc]
          rfl
    by_cases hdue : deadline ≤ (w.listed world s).now
    · simp only [hdue, if_true]
    · simp only [hnext (Nat.lt_of_not_le hdue)]

namespace Polls

variable {deadline : Nat} {last : Option String} {s : Scene σ} {r : Run σ (Except Error α)}

theorem length_le (spaced : 0 < poll.interval) (h : w.Polls poll world deadline last s r) :
    r.steps.length ≤ (deadline - s.now) ⌈/⌉ poll.interval + 1 := by
  induction h with
  | settled decided => simp
  | timedOut undecided due => simp
  | @again last s more undecided early paused rest ih =>
    have hforward := now_le_listed w world s
    have hmono : (deadline - (w.listed world s).now) ⌈/⌉ poll.interval ≤
        (deadline - s.now) ⌈/⌉ poll.interval := by
      simp only [Nat.ceilDiv_eq_add_pred_div]
      exact Nat.div_le_div_right (by omega)
    have hstep := ceilDiv_remaining spaced (Nat.sub_pos_of_lt early)
    rw [paused, ← Nat.sub_sub] at ih
    rw [List.length_cons]
    omega

theorem next (h : w.Polls poll world deadline last s r) {i : Nat} {step : Step}
    (at_i : r.steps[i]? = some step) (undecided : step.entries.findSome? w.settles = none)
    (early : step.finish < deadline) :
    ∃ next ∈ r.steps[i + 1]?,
      next.start = step.finish + min poll.interval (deadline - step.finish) := by
  induction h generalizing i with
  | @settled last s outcome decided =>
    obtain ⟨rfl, rfl⟩ : i = 0 ∧ w.listing world s = step := by
      cases i <;> simp_all
    rw [decided] at undecided
    cases undecided
  | @timedOut last s _ due =>
    obtain ⟨rfl, rfl⟩ : i = 0 ∧ w.listing world s = step := by
      cases i <;> simp_all
    exact absurd due (Nat.not_le_of_lt early)
  | @again last s more _ _ paused rest ih =>
    cases i with
    | succ i => exact ih (by simpa using at_i)
    | zero =>
      obtain rfl : w.listing world s = step := by simpa using at_i
      have hprompt := rest.rounds.prompt
      cases hmore : more.steps with
      | nil => simp [hmore] at hprompt
      | cons next others =>
        rw [hmore, List.head?_cons, Option.map_some, Option.some_inj] at hprompt
        exact ⟨next, rfl, hprompt.trans paused⟩

theorem result_of_decided (h : w.Polls poll world deadline last s r) {step : Step}
    (made : step ∈ r.steps) {outcome : Except Error α}
    (decided : step.entries.findSome? w.settles = some outcome) : r.result = outcome := by
  induction h with
  | settled first =>
    rw [List.mem_singleton.mp made, first] at decided
    exact Option.some.inj decided
  | timedOut undecided due =>
    rw [List.mem_singleton.mp made, undecided] at decided
    cases decided
  | again undecided early paused rest ih =>
    rcases List.mem_cons.mp made with rfl | made
    · rw [undecided] at decided
      cases decided
    · exact ih made

theorem finish_eq (h : w.Polls poll world deadline last s r) :
    ∃ step ∈ r.steps.getLast?, r.scene.now = step.finish := by
  induction h with
  | settled decided => exact ⟨_, rfl, rfl⟩
  | timedOut undecided due => exact ⟨_, rfl, rfl⟩
  | @again last s more undecided early paused rest ih =>
    obtain ⟨step, hstep, hfinish⟩ := ih
    have hmade : more.steps ≠ [] := by
      intro hnil
      simp [hnil] at hstep
    refine ⟨step, ?_, hfinish⟩
    rwa [List.getLast?_cons_of_ne_nil hmade]

theorem due_of_expired (h : w.Polls poll world deadline last s r) {last' : Option String}
    (expired : r.result = .error (w.expired poll last')) :
    deadline ≤ r.scene.now ∧ ∀ step ∈ r.steps, step.entries.findSome? w.settles = none := by
  constructor
  · induction h with
    | settled decided =>
      simp only at expired
      rw [expired] at decided
      exact absurd decided (findSome?_settles_ne_expired w poll last' _)
    | timedOut undecided due => exact due
    | again undecided early paused rest ih => exact ih expired
  · intro step hstep
    cases hfind : step.entries.findSome? w.settles with
    | none => rfl
    | some outcome =>
      rw [← h.result_of_decided hstep hfind, expired] at hfind
      exact absurd hfind (findSome?_settles_ne_expired w poll last' _)

theorem instants (spaced : 0 < poll.interval) (h : w.Polls poll world deadline last s r)
    (early : s.now ≤ deadline) (instantaneous : ∀ step ∈ r.steps, step.finish = step.start)
    {last' : Option String} (expired : r.result = .error (w.expired poll last')) :
    r.steps.map Step.start =
        (List.range ((deadline - s.now) ⌈/⌉ poll.interval)).map (s.now + · * poll.interval) ++
          [deadline] ∧
      r.scene.now = deadline := by
  induction h with
  | settled decided =>
    simp only at expired
    rw [expired] at decided
    exact absurd decided (findSome?_settles_ne_expired w poll last' _)
  | @timedOut last s undecided due =>
    have hnow : (w.listed world s).now = s.now := instantaneous _ List.mem_cons_self
    have hdeadline : s.now = deadline := Nat.le_antisymm early (hnow ▸ due)
    refine ⟨?_, hnow.trans hdeadline⟩
    have hstart : (w.listing world s).start = deadline := hdeadline
    rw [hdeadline, Nat.sub_self, zero_ceilDiv]
    simpa using hstart
  | @again last s more undecided before paused rest ih =>
    have hnow : (w.listed world s).now = s.now := instantaneous _ List.mem_cons_self
    rw [hnow] at before paused
    obtain ⟨hstarts, hend⟩ := ih (by omega)
      (fun step hstep => instantaneous step (List.mem_cons_of_mem _ hstep)) expired
    refine ⟨?_, hend⟩
    rw [List.map_cons, hstarts, paused, ← Nat.sub_sub,
      ceilDiv_remaining spaced (Nat.sub_pos_of_lt before), List.range_succ_eq_map, List.map_cons,
      Nat.zero_mul, Nat.add_zero, List.cons_append, List.map_map]
    refine congrArg (s.now :: · ++ [deadline]) ?_
    rcases Nat.le_total poll.interval (deadline - s.now) with h | h
    · rw [Nat.min_eq_left h]
      refine List.map_congr_left fun k _ => ?_
      rw [Function.comp_apply, Nat.succ_mul]
      omega
    · -- the pause is cut at the deadline, and there is no multiple of the interval left
      rw [Nat.min_eq_right h, Nat.sub_self, zero_ceilDiv]
      rfl

end Polls

structure Schedule (w : Watch α) (poll : PollOptions) (start : Nat)
    (r : Run σ (Except Error α)) : Prop where
  lists : ∀ step ∈ r.steps, step.call = .request (.list w.kind)
  prompt : r.steps.head?.map Step.start = some start
  bounded : r.steps.length ≤ poll.timeout ⌈/⌉ poll.interval + 1
  /-- After a listing that leaves the wait undecided before the deadline comes another one, and
  when. -/
  next : ∀ (i : Nat) (step : Step), r.steps[i]? = some step →
    step.entries.findSome? w.settles = none → step.finish < start + poll.timeout →
    ∃ next ∈ r.steps[i + 1]?,
      next.start = step.finish + min poll.interval (start + poll.timeout - step.finish)
  /-- Whatever a listing decides is the result, no matter when the listing ends. -/
  heeded : ∀ step ∈ r.steps, ∀ outcome, step.entries.findSome? w.settles = some outcome →
    r.result = outcome
  /-- A refusal comes right after a listing that ended at the deadline or later and did not decide
  anything either. -/
  patient : ∀ last, r.result = .error (w.expired poll last) →
    ∃ step ∈ r.steps.getLast?, start + poll.timeout ≤ step.finish ∧ r.scene.now = step.finish ∧
      step.entries.findSome? w.settles = none
  /-- Listings that take no time stand at the multiples of the interval below the deadline, and one
  at the deadline itself. -/
  instants : (∀ step ∈ r.steps, step.finish = step.start) →
    ∀ last, r.result = .error (w.expired poll last) →
      r.steps.map Step.start =
          (List.range (poll.timeout ⌈/⌉ poll.interval)).map (start + · * poll.interval) ++
            [start + poll.timeout] ∧
        r.scene.now = start + poll.timeout

theorem Polls.schedule (spaced : 0 < poll.interval) {s : Scene σ} {last : Option String}
    {r : Run σ (Except Error α)}
    (h : w.Polls poll world (s.now + poll.timeout) last s r) : w.Schedule poll s.now r := by
  constructor
  case lists => exact h.rounds.lists
  case prompt => exact h.rounds.prompt
  case bounded => simpa using h.length_le spaced
  case next => exact fun i step at_i => h.next at_i
  case heeded => exact fun step made outcome => h.result_of_decided made
  case patient =>
    intro last expired
    obtain ⟨step, hstep, hfinish⟩ := h.finish_eq
    obtain ⟨hdue, hundecided⟩ := h.due_of_expired expired
    exact ⟨step, hstep, hfinish ▸ hdue, hfinish,
      hundecided step (List.mem_of_getLast? hstep)⟩
  case instants =>
    intro instantaneous last expired
    simpa using h.instants spaced (Nat.le_add_right _ _) instantaneous expired

/-- A wait that is not cancelled keeps to its schedule, and no further rounds would change it. -/
theorem wait_schedule (w : Watch α) {poll : PollOptions} (spaced : 0 < poll.interval)
    (world : Surroundings σ) (s : Scene σ)
    (uncancelled : ((w.wait poll).runIn world s).scene.isCancelled = false) :
    w.Schedule poll s.now ((w.wait poll).runIn world s) ∧
      ∀ rounds, poll.rounds ≤ rounds →
        Flow.run world (w.lookUntil poll (s.now + poll.timeout) rounds none) s =
          (w.wait poll).runIn world s := by
  refine ⟨(wait_polls spaced uncancelled).schedule spaced, ?_⟩
  intro rounds henough
  obtain ⟨extra, rfl⟩ := Nat.le.dest henough
  exact run_lookUntil_add spaced (Nat.le_add_right _ _) (suffices_rounds spaced s.now) extra

/-- A wait in an empty cluster: the last pause is cut from four to two. -/
theorem wait_schedule_empty :
    let r := (idle.wait (.every 4 10)).runIn Script.surroundings (Script.scene ⟨[]⟩)
    r.scene.isCancelled = false ∧ r.steps.map Step.start = [0, 4, 8, 10] ∧ r.scene.now = 10 := by
  have uncancelled : ((idle.wait (.every 4 10)).runIn Script.surroundings
      (Script.scene ⟨[]⟩)).scene.isCancelled = false := by decide +kernel
  obtain ⟨schedule, _⟩ := wait_schedule idle (by decide) _ _ uncancelled
  have instantaneous : ∀ step ∈ ((idle.wait (.every 4 10)).runIn Script.surroundings
      (Script.scene ⟨[]⟩)).steps, step.finish = step.start := by decide +kernel
  obtain ⟨starts, ends⟩ := schedule.instants instantaneous none (by rfl)
  exact ⟨uncancelled, starts.trans (by decide), ends⟩

end Watch

end ClusterDeploy
