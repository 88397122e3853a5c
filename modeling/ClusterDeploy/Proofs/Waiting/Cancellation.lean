import ClusterDeploy.Proofs.Flow.Ends
import ClusterDeploy.Proofs.Flow.Positions
import ClusterDeploy.Waiting
/-!
# Waits that are cancelled

Before each listing a wait looks whether it is cancelled. So no listing starts afterwards, and a
pause that ends in a cancelled scene, however it came to that, is the end of the wait.
-/
namespace ClusterDeploy

open ClusterDeploy.Flow (LeadsTo)

def Call.listed? : Call → Option ResourceKind
  | .request (.list kind) => some kind
  | _ => none

variable {σ : Type} {world : Surroundings σ} {s : Scene σ}

theorem Scene.rest_of_settled {time t : Nat} (settled : t ∈ s.cancelAt) (due : t ≤ s.now + time) :
    s.rest time = { s with now := max s.now t } ∧ (s.rest time).isCancelled = true := by
  have hat : s.cancelAt = some t := settled
  have hrest : s.rest time = { s with now := max s.now t } := by
    simp only [rest, hat, Nat.min_eq_left due]
  refine ⟨hrest, ?_⟩
  rw [hrest]
  simp only [isCancelled, hat, Option.any_some, decide_eq_true_eq]
  omega

/-! ## Listings in time -/

def Call.Heeds (c : Call) (s : Scene σ) : Prop := c.listed?.isSome → s.isCancelled = false

structure Attempt.ListsInTime (world : Surroundings σ) (t : Attempt α) (s : Scene σ) : Prop where
  uncancelled : ∀ {made c next s'}, LeadsTo world t.run s made (.ask c next) s' →
    c.listed?.isSome → s'.isCancelled = false
  /-- Seen on the clock, with a cancellation that comes up at any time of the run. -/
  inTime : ∀ step ∈ (t.runIn world s).steps, step.call.listed?.isSome →
    ∀ time ∈ (t.runIn world s).scene.cancelAt, step.start ≤ time
  /-- With a cancellation that is settled before, none starts at the same time either. -/
  before : ∀ step ∈ (t.runIn world s).steps, step.call.listed?.isSome →
    ∀ time ∈ s.cancelAt, step.start < time

def Attempt.Heeds (world : Surroundings σ) (t : Attempt α) : Prop :=
  ∀ s, Flow.Meets world Call.Heeds (fun _ _ => True) t.run s

namespace Attempt.Heeds

variable {t : Attempt α}

theorem listsInTime (h : t.Heeds world) (s : Scene σ) : t.ListsInTime world s := by
  constructor
  case uncancelled => exact fun position hlists => (h s).call position hlists
  case inTime =>
    intro step hstep hlists time htime
    obtain ⟨made, later, hsteps⟩ := List.append_of_mem hstep
    obtain ⟨next, s', position, hstart⟩ := LeadsTo.of_step hsteps
    have hnot := Scene.not_cancelled_iff.mp ((h s).call position hlists)
    rw [runIn, position.run_eq] at htime
    rw [hstart]
    exact (LeadsTo.of_run _ s').le_cancelAt (Nat.le_refl _)
      (fun between hbetween => Nat.le_of_lt (hnot between hbetween)) htime
  case before =>
    intro step hstep hlists time htime
    obtain ⟨made, later, hsteps⟩ := List.append_of_mem hstep
    obtain ⟨next, s', position, hstart⟩ := LeadsTo.of_step hsteps
    have hnot := Scene.not_cancelled_iff.mp ((h s).call position hlists)
    obtain ⟨time', htime', hle⟩ := position.cancelAt_le htime
    have := hnot time' htime'
    omega

theorem andThen {f : α → Attempt β} (ht : t.Heeds world) (hf : ∀ a, (f a).Heeds world) :
    (t >>= f).Heeds world :=
  fun s => (ht s).andThen (fun a s' _ => hf a s') fun _ _ _ => trivial

theorem wrap (f : Error → Error) (h : t.Heeds world) : (wrap f t).Heeds world :=
  fun s => Flow.meets_bind.mpr (h s)

theorem unlessNotFound (h : t.Heeds world) : (Attempt.unlessNotFound t).Heeds world :=
  fun s => Flow.meets_bind.mpr (h s)

theorem of_makes (h : Flow.Makes (fun c => c.listed? = none) t.run) : t.Heeds world := by
  intro s
  refine h.meets (fun _ => True) (fun c s' hc _ => ⟨fun hlists => ?_, trivial⟩) trivial
  rw [hc] at hlists
  exact absurd hlists Bool.false_ne_true

end Attempt.Heeds

theorem Attempt.heeds_pure (a : α) : Attempt.Heeds world (pure a : Attempt α) := fun _ => trivial

namespace Watch

variable {w : Watch α} {poll : PollOptions} {deadline rounds : Nat} {last : Option String}

theorem lookUntil_heeds (w : Watch α) (poll : PollOptions) (deadline rounds : Nat)
    (last : Option String) (s : Scene σ) :
    Flow.Meets world Call.Heeds (fun _ _ => True) (w.lookUntil poll deadline rounds last) s := by
  induction rounds generalizing last s with
  | zero => trivial
  | succ rounds ih =>
    rw [lookUntil, Flow.Meets]
    split
    · trivial
    next uncancelled =>
      refine ⟨fun _ => Bool.eq_false_iff.mpr uncancelled, ?_⟩
      cases (world (.request (.list w.kind)) s.state).answer with
      | error e => trivial
      | ok items =>
        dsimp only
        split
        · trivial
        · trivial
        · rw [Flow.Meets]
          split
          · trivial
          · exact ih _ _

theorem wait_heeds (w : Watch α) (poll : PollOptions) : (w.wait poll).Heeds world :=
  fun s => w.lookUntil_heeds poll (s.now + poll.timeout) poll.rounds none s

/-! ## The end of a cancelled wait -/

theorem run_lookUntil_cancelled (cancelled : s.isCancelled = true) :
    Flow.run world (w.lookUntil poll deadline rounds last) s =
      ⟨.error (.cancelled w.kind), s, []⟩ := by
  cases rounds <;> simp [lookUntil, Flow.run, Scene.moment, cancelled]

theorem lookUntil_pauses {made : List Step} {time : Nat} {next : Flow (Except Error α)}
    {s' : Scene σ}
    (position :
      LeadsTo world (w.lookUntil poll deadline rounds last) s made (.pause time next) s') :
    ∃ rounds last, next = w.lookUntil poll deadline rounds last := by
  induction rounds generalizing last s made with
  | zero =>
    rw [lookUntil] at position
    cases position with
    | clock later => cases later
  | succ rounds ih =>
    rw [lookUntil] at position
    cases position with
    | clock later =>
      dsimp only at later
      split at later
      · cases later
      cases later with
      | ask later =>
        dsimp only at later
        split at later
        · cases later
        split at later
        · cases later
        · cases later
        cases later with
        | clock later =>
          dsimp only at later
          split at later
          · cases later
          cases later with
          | here => exact ⟨rounds, _, rfl⟩
          | pause later => exact ih later

structure Cancellable (w : Watch α) (poll : PollOptions) (world : Surroundings σ) (s : Scene σ) :
    Prop where
  inTime : (w.wait poll).ListsInTime world s
  entered : s.isCancelled = true → (w.wait poll).runIn world s = ⟨.error (.cancelled w.kind), s, []⟩
  /-- The time `t` may be that of the end of the pause, which may take no time. -/
  paused : ∀ {made time next s'}, LeadsTo world (w.wait poll).run s made (.pause time next) s' →
    ∀ t ∈ s'.cancelAt, t ≤ s'.now + time →
      (w.wait poll).runIn world s =
        ⟨.error (.cancelled w.kind), { s' with now := max s'.now t }, made⟩

theorem cancellable (w : Watch α) (poll : PollOptions) (world : Surroundings σ) (s : Scene σ) :
    w.Cancellable poll world s := by
  constructor
  case inTime => exact (w.wait_heeds poll).listsInTime s
  case entered => exact run_lookUntil_cancelled
  case paused =>
    intro made time next s' position t settled due
    obtain ⟨rounds, last, rfl⟩ : ∃ rounds last,
        next = w.lookUntil poll (s.now + poll.timeout) rounds last := by
      cases position with
      | clock later => exact lookUntil_pauses later
    obtain ⟨hrest, hcancelled⟩ := Scene.rest_of_settled settled due
    rw [Attempt.runIn, position.run_eq, Flow.run, run_lookUntil_cancelled hcancelled, hrest,
      List.append_nil]

/-! ## Waits that never list -/

variable {fair : (c : Call) → c.Answer → Prop}

/-- A wait that does not get to its first listing has been cancelled. -/
theorem wait_gives_cancelled (w : Watch α) (poll : PollOptions)
    (unlisted : ∀ answer, ¬ fair (.request (.list w.kind)) answer) :
    (w.wait poll).Gives fair (fun _ => False) (· = .cancelled w.kind) := by
  obtain ⟨rounds, hrounds⟩ : ∃ rounds, poll.rounds = rounds + 1 := by
    unfold PollOptions.rounds
    split
    · exact ⟨_, rfl⟩
    · exact ⟨_, rfl⟩
  intro start
  show Flow.Ends fair _ (w.lookUntil poll (start.now + poll.timeout) poll.rounds none)
  rw [hrounds, lookUntil]
  intro again
  dsimp only
  split
  · rfl
  · exact fun answer hfair => absurd hfair (unlisted answer)

end Watch

end ClusterDeploy
