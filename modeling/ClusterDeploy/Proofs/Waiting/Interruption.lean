import ClusterDeploy.Endpoint.Resolve
import ClusterDeploy.Proofs.Waiting.Cancellation
import ClusterDeploy.Proofs.Waiting.Outcome
/-!
# Waits that are cancelled during a listing

A wait looks at the deadline before it looks for a cancellation again. So a listing that shows
nothing ready, and during which the wait is cancelled at the latest, ends the wait as cancelled if
its answer comes before the deadline. At the deadline and after it, the wait is refused as if nobody
had cancelled it.
-/
namespace ClusterDeploy

open ClusterDeploy.Flow (LeadsTo)

namespace Watch

variable {σ : Type} {world : Surroundings σ} {w : Watch α} {poll : PollOptions} {s s' : Scene σ}
  {made : List Step}

def Passes (w : Watch α) (items : List Json) : Prop :=
  ∀ item ∈ items, ∃ a, w.decode item = some a ∧ (w.accepts a && w.ready a) = false

theorem Passes.settles {items : List Json} (h : w.Passes items) :
    (items.map Except.ok).findSome? w.settles = none := by
  refine List.findSome?_eq_none_iff.mpr fun entry hentry => ?_
  obtain ⟨item, hitem, rfl⟩ := List.mem_map.mp hentry
  obtain ⟨a, hdecode, hquiet⟩ := h item hitem
  simp [Watch.settles, hdecode, hquiet]

theorem entries_of_answer {items : List Json}
    (answered : (world (.request (.list w.kind)) s.state).answer = .ok items) :
    (w.listing world s).entries = items.map .ok := by
  simp only [listing, answered, Step.entries]

/-- Where a wait makes a call, it goes on as a look that has read the listings so far. -/
theorem lookUntil_asks {deadline rounds : Nat} {last : Option String} {c : Call}
    {next : c.Answer → Flow (Except Error α)}
    (position : LeadsTo world (w.lookUntil poll deadline rounds last) s made (.ask c next) s') :
    s'.isCancelled = false ∧ ∃ left, Flow.run world (.ask c next) s' =
      Flow.run world
        (w.lookUntil poll deadline (left + 1) ((w.lastAccepted (stream made)).or last)) s' := by
  induction rounds generalizing last s made with
  | zero =>
    rw [lookUntil] at position
    cases position with
    | clock later => cases later
  | succ rounds ih =>
    rw [lookUntil] at position
    cases position with
    | clock later =>
      dsimp only at later
      split at later
      · cases later
      next uncancelled =>
        cases later with
        | here =>
          have hnot : s'.isCancelled = false := Bool.eq_false_iff.mpr uncancelled
          refine ⟨hnot, rounds, ?_⟩
          rw [lookUntil]
          simp [Flow.run, Scene.moment, hnot, stream, lastAccepted]
        | ask later =>
          dsimp only at later
          cases hanswer : (world (.request (.list w.kind)) s.state).answer with
          | error e =>
            rw [hanswer] at later
            cases later
          | ok items =>
            rw [hanswer] at later
            dsimp only at later
            rw [scan_eq] at later
            split at later
            · cases later
            · cases later
            next last' hscan =>
              cases later with
              | clock later =>
                dsimp only at later
                split at later
                · cases later
                cases later with
                | pause later =>
                  obtain ⟨hnot, left, hrun⟩ := ih later
                  refine ⟨hnot, left, hrun.trans ?_⟩
                  have hlast : last' = (w.lastAccepted (items.map .ok)).or last := by
                    split at hscan <;> simp_all
                  have hstream (start finish : Nat) (made : List Step) :
                      stream (⟨.request (.list w.kind), .ok items, start, finish⟩ :: made) =
                        items.map .ok ++ stream made := by
                    simp [stream, Step.entries]
                  rw [hstream, lastAccepted_append, hlast, Option.or_assoc]

/-- A look whose listing leaves the wait undecided and cancelled is the last one. -/
theorem run_lookUntil_interrupted (poll : PollOptions) (deadline left : Nat)
    (last : Option String) (begun : s.isCancelled = false)
    (cancelled : (w.listed world s).isCancelled = true)
    (quiet : (w.listing world s).entries.findSome? w.settles = none) :
    (Flow.run world (w.lookUntil poll deadline (left + 1) last) s).steps = [w.listing world s] ∧
      (Flow.run world (w.lookUntil poll deadline (left + 1) last) s).result =
        .error (if deadline ≤ (w.listed world s).now then
            w.expired poll ((w.lastAccepted (w.listing world s).entries).or last)
          else .cancelled w.kind) := by
  rw [run_lookUntil, begun]
  simp only [Bool.false_eq_true, if_false, quiet]
  by_cases hdue : deadline ≤ (w.listed world s).now
  · simp only [hdue, if_true, and_self]
  · -- The pause is cut short by the cancellation, and the next look is not taken.
    have hrested : (w.rested poll world deadline s).isCancelled = true :=
      Bool.of_not_eq_false fun h => by
        rw [Scene.not_cancelled_of_rest h] at cancelled
        cases cancelled
    simp only [hdue, if_false, run_lookUntil_cancelled hrested, and_self]

/-- How a wait goes that is cancelled no later than during the listing made in `s'`, if that listing
shows nothing ready. -/
structure Interrupted (w : Watch α) (poll : PollOptions) (world : Surroundings σ) (s : Scene σ)
    (made : List Step) (s' : Scene σ) : Prop where
  steps : ((w.wait poll).runIn world s).steps = made ++ [w.listing world s']
  cancelled_iff : ((w.wait poll).runIn world s).result = .error (.cancelled w.kind) ↔
    (w.listed world s').now < s.now + poll.timeout
  late : s.now + poll.timeout ≤ (w.listed world s').now →
    ((w.wait poll).runIn world s).result =
      .error (w.expired poll (w.lastAccepted (stream (made ++ [w.listing world s']))))
  /-- Whoever tolerates absence is not told of the cancellation then. -/
  tolerated_iff : ((Attempt.unlessNotFound (w.wait poll)).runIn world s).result = .ok none ↔
    s.now + poll.timeout ≤ (w.listed world s').now ∧
      ∀ entry ∈ stream (made ++ [w.listing world s']), w.accepted? entry = none

theorem run_interrupted {next : Call.Answer (.request (.list w.kind)) → Flow (Except Error α)}
    (position : LeadsTo world (w.wait poll).run s made (.ask (.request (.list w.kind)) next) s')
    (cancelled : (w.listed world s').isCancelled = true) {items : List Json}
    (answered : (world (.request (.list w.kind)) s'.state).answer = .ok items)
    (passes : w.Passes items) :
    ((w.wait poll).runIn world s).steps = made ++ [w.listing world s'] ∧
      ((w.wait poll).runIn world s).result =
        .error (if s.now + poll.timeout ≤ (w.listed world s').now then
            w.expired poll (w.lastAccepted (stream (made ++ [w.listing world s'])))
          else .cancelled w.kind) := by
  have hlook : LeadsTo world (w.lookUntil poll (s.now + poll.timeout) poll.rounds none) s made
      (.ask (.request (.list w.kind)) next) s' := by
    cases position with
    | clock later => exact later
  obtain ⟨hnot, left, hrun⟩ := lookUntil_asks hlook
  have hquiet : (w.listing world s').entries.findSome? w.settles = none := by
    rw [entries_of_answer answered]
    exact passes.settles
  have hlast : w.lastAccepted (stream (made ++ [w.listing world s'])) =
      (w.lastAccepted (w.listing world s').entries).or (w.lastAccepted (stream made)) := by
    rw [stream, List.flatMap_append, lastAccepted_append]
    simp [stream]
  obtain ⟨hsteps, hresult⟩ := run_lookUntil_interrupted poll (s.now + poll.timeout) left
    ((w.lastAccepted (stream made)).or none) hnot cancelled hquiet
  rw [Attempt.runIn, position.run_eq, hrun]
  dsimp only
  rw [hsteps, hresult, hlast, Option.or_none]
  exact ⟨rfl, rfl⟩

theorem interrupted {next : Call.Answer (.request (.list w.kind)) → Flow (Except Error α)}
    (position : LeadsTo world (w.wait poll).run s made (.ask (.request (.list w.kind)) next) s')
    (cancelled : (w.listed world s').isCancelled = true) {items : List Json}
    (answered : (world (.request (.list w.kind)) s'.state).answer = .ok items)
    (passes : w.Passes items) : w.Interrupted poll world s made s' := by
  obtain ⟨hsteps, hresult⟩ := run_interrupted position cancelled answered passes
  have hnone : w.lastAccepted (stream (made ++ [w.listing world s'])) = none ↔
      ∀ entry ∈ stream (made ++ [w.listing world s']), w.accepted? entry = none := by
    simp [lastAccepted]
  refine ⟨hsteps, ?_, fun hlate => ?_, ?_⟩
  · rw [hresult]
    split
    · cases w.lastAccepted (stream (made ++ [w.listing world s'])) <;> simp_all [expired]
    · simp_all
  · rw [hresult, if_pos hlate]
  · rw [Attempt.runIn_unlessNotFound, hresult, ← hnone]
    by_cases hlate : s.now + poll.timeout ≤ (w.listed world s').now
    · cases w.lastAccepted (stream (made ++ [w.listing world s'])) <;>
        simp [hlate, expired, Error.isNotFound]
    · simp [hlate, Error.isNotFound]

/-- A wait that is cancelled says so, except when a listing that was in flight is answered at the
deadline or later. -/
theorem cancelled_in_time (w : Watch α) (poll : PollOptions) (world : Surroundings σ)
    (s : Scene σ) :
    (s.isCancelled = true → (w.wait poll).runIn world s = ⟨.error (.cancelled w.kind), s, []⟩) ∧
      ∀ made next s',
        LeadsTo world (w.wait poll).run s made (.ask (.request (.list w.kind)) next) s' →
        (w.listed world s').isCancelled = true →
        ∀ items, (world (.request (.list w.kind)) s'.state).answer = .ok items →
          w.Passes items → w.Interrupted poll world s made s' :=
  ⟨run_lookUntil_cancelled, fun _ _ _ position cancelled _ answered passes =>
    interrupted position cancelled answered passes⟩

/-- The token is cancelled while the first listing of four is in flight. -/
theorem cancelled_in_time_flying :
    let r := (idle.wait (.every 4 10)).runIn Script.surroundings
      (Script.scene ⟨[("deployment", [{ elapsed := 3, cancels := true }])]⟩)
    r.result = .error (.cancelled .deployment) ∧ r.steps.map Step.finish = [3] := by
  have interrupted := (cancelled_in_time idle (.every 4 10) Script.surroundings
    (Script.scene ⟨[("deployment", [{ elapsed := 3, cancels := true }])]⟩)).2 _ _ _
      (.clock (.clock .here)) (by rfl) [] (by rfl) (fun _ hitem => absurd hitem List.not_mem_nil)
  exact ⟨interrupted.cancelled_iff.mpr (by decide), by rw [interrupted.steps]; rfl⟩

/-- Answers to the first listing of a kind, during which the token is cancelled. -/
def broken (kind : ResourceKind) : Scene (Session ProgressChannel Script) :=
  Script.scene ⟨[(kind.label, [{ cancels := true }])]⟩

/-- With no time to wait, the cancellation during the only listing is passed over: the service is
said not to exist, and a search for endpoints succeeds without those of the ingress. -/
theorem cancelled_at_deadline_unsaid :
    (((Watch.service "todo-api").listed Script.surroundings (broken .service)).isCancelled = true ∧
      (Script.surroundings (.request (.list .service)) (broken .service).state).answer = .ok [] ∧
      (((Watch.service "todo-api").wait (.every 1000 0)).runIn Script.surroundings
        (broken .service)).result = .error (.resourceNotFound .service)) ∧
    let search :=
      (Endpoint.resolve "todo-api" "todo-api" "" (.every 1000 0)).runIn Script.surroundings
      (broken .ingress)
    search.result = .ok [] ∧ search.scene.isCancelled = true :=
  ⟨⟨by rfl, by rfl, by rfl⟩, by rfl, by rfl⟩

end Watch

end ClusterDeploy
