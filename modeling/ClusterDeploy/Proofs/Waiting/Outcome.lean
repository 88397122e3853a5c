import ClusterDeploy.Flow.Script
import ClusterDeploy.Proofs.Flow.Runs
import ClusterDeploy.Waiting
/-!
# What a wait comes to

The listings of a wait are read as one stream: the items of each listing in order, and one entry
for a listing that failed. The first entry that settles the wait is its result. Without any, the
wait lasts until its deadline, and what it was refused for depends on the last accepted resource.
-/
namespace ClusterDeploy

def Step.entries : Step → List (Except Error Json)
  | ⟨.request (.list _), .error e, _, _⟩ => [.error e]
  | ⟨.request (.list _), .ok items, _, _⟩ => items.map .ok
  | _ => []

def stream (steps : List Step) : List (Except Error Json) := steps.flatMap Step.entries

namespace Watch

def settles (w : Watch α) : Except Error Json → Option (Except Error α)
  | .error e => some (.error (.listResources w.kind e))
  | .ok item =>
    match w.decode item with
    | none => some (.error (.decodeResource w.kind))
    | some a => if w.accepts a && w.ready a then some (.ok a) else none

def accepted? (w : Watch α) : Except Error Json → Option α
  | .error _ => none
  | .ok item => (w.decode item).filter w.accepts

def lastAccepted (w : Watch α) (entries : List (Except Error Json)) : Option String :=
  (entries.filterMap w.accepted?).getLast?.map w.name

def verdict (w : Watch α) (poll : PollOptions) (entries : List (Except Error Json)) :
    Except Error α :=
  match entries.findSome? w.settles, w.lastAccepted entries with
  | some outcome, _ => outcome
  | none, some name => .error (.resourceNotReady w.kind name poll.timeout)
  | none, none => .error (.resourceNotFound w.kind)

variable {w : Watch α} {poll : PollOptions}

theorem settles_item_iff {item : Json} {a : α} :
    w.settles (.ok item) = some (.ok a) ↔
      w.decode item = some a ∧ w.accepts a = true ∧ w.ready a = true := by
  cases hd : w.decode item with
  | none => simp [settles, hd]
  | some b =>
    simp only [settles, hd, Option.ite_none_right_eq_some, Bool.and_eq_true, Option.some.injEq,
      Except.ok.injEq]
    constructor
    · rintro ⟨hb, rfl⟩
      exact ⟨rfl, hb⟩
    · rintro ⟨rfl, ha⟩
      exact ⟨ha, rfl⟩

theorem settles_item_error {item : Json} {e : Error}
    (h : w.settles (.ok item) = some (.error e)) : e = .decodeResource w.kind := by
  unfold settles at h
  cases hd : w.decode item with
  | none => simpa [hd] using h.symm
  | some a => simp [hd] at h

theorem settles_ne_expired (w : Watch α) (poll : PollOptions) (last : Option String)
    (entry : Except Error Json) :
    w.settles entry ≠ some (.error (w.expired poll last)) := by
  cases entry with
  | error e => cases last <;> simp [settles, expired]
  | ok item => cases hd : w.decode item <;> cases last <;> simp [settles, expired, hd]

theorem findSome?_settles_ne_expired (w : Watch α) (poll : PollOptions) (last : Option String)
    (entries : List (Except Error Json)) :
    entries.findSome? w.settles ≠ some (.error (w.expired poll last)) := by
  intro h
  obtain ⟨entry, _, he⟩ := List.exists_of_findSome?_eq_some h
  exact settles_ne_expired w poll last entry he

theorem verdict_of_settled {entries : List (Except Error Json)} {outcome : Except Error α}
    (h : entries.findSome? w.settles = some outcome) : w.verdict poll entries = outcome := by
  simp [verdict, h]

theorem verdict_of_unsettled {entries : List (Except Error Json)}
    (h : entries.findSome? w.settles = none) :
    w.verdict poll entries = .error (w.expired poll (w.lastAccepted entries)) := by
  simp only [verdict, h]
  cases w.lastAccepted entries <;> rfl

theorem settled_of_verdict {entries : List (Except Error Json)} {a : α}
    (h : w.verdict poll entries = .ok a) : entries.findSome? w.settles = some (.ok a) := by
  cases hfind : entries.findSome? w.settles with
  | none =>
    rw [verdict_of_unsettled hfind] at h
    cases h
  | some outcome =>
    rw [verdict_of_settled hfind] at h
    rw [h]

/-- A stream that amounts to a resource holds it as an item. -/
theorem taken_of_verdict {entries : List (Except Error Json)} {a : α}
    (h : w.verdict poll entries = .ok a) :
    ∃ item, .ok item ∈ entries ∧ w.decode item = some a ∧ w.accepts a = true ∧
      w.ready a = true := by
  obtain ⟨entry, hmem, hentry⟩ := List.exists_of_findSome?_eq_some (settled_of_verdict h)
  cases entry with
  | error e => cases hentry
  | ok item => exact ⟨item, hmem, settles_item_iff.mp hentry⟩

theorem verdict_error {entries : List (Except Error Json)} {e : Error}
    (h : w.verdict poll entries = .error e) :
    (∃ last, e = w.expired poll last) ∨ (∃ source, e = .listResources w.kind source) ∨
      e = .decodeResource w.kind := by
  cases hfind : entries.findSome? w.settles with
  | none =>
    rw [verdict_of_unsettled hfind] at h
    exact .inl ⟨_, (Except.error.inj h).symm⟩
  | some outcome =>
    rw [verdict_of_settled hfind] at h
    subst h
    obtain ⟨entry, _, hentry⟩ := List.exists_of_findSome?_eq_some hfind
    cases entry with
    | error source =>
      cases hentry
      exact .inr (.inl ⟨source, rfl⟩)
    | ok item => exact .inr (.inr (settles_item_error hentry))

theorem verdict_eq_notFound_iff {entries : List (Except Error Json)} :
    w.verdict poll entries = .error (.resourceNotFound w.kind) ↔
      ∀ entry ∈ entries, w.settles entry = none ∧ w.accepted? entry = none := by
  have hnone : w.lastAccepted entries = none ↔ ∀ entry ∈ entries, w.accepted? entry = none := by
    simp [lastAccepted]
  constructor
  · intro h
    cases hfind : entries.findSome? w.settles with
    | some outcome =>
      rw [verdict_of_settled hfind] at h
      subst h
      exact absurd hfind (findSome?_settles_ne_expired w poll none entries)
    | none =>
      have hquiet := List.findSome?_eq_none_iff.mp hfind
      rw [verdict_of_unsettled hfind] at h
      cases hlast : w.lastAccepted entries with
      | some name => simp [hlast, expired] at h
      | none => exact fun entry he => ⟨hquiet entry he, hnone.mp hlast entry he⟩
  · intro h
    have hfind := List.findSome?_eq_none_iff.mpr fun entry he => (h entry he).1
    rw [verdict_of_unsettled hfind, hnone.mpr fun entry he => (h entry he).2]
    rfl

theorem lastAccepted_append (a b : List (Except Error Json)) :
    w.lastAccepted (a ++ b) = (w.lastAccepted b).or (w.lastAccepted a) := by
  simp only [lastAccepted, List.filterMap_append, List.getLast?_append]
  cases (b.filterMap w.accepted?).getLast? <;> simp

theorem lastAccepted_cons (entry : Except Error Json) (more : List (Except Error Json)) :
    w.lastAccepted (entry :: more) = (w.lastAccepted more).or ((w.accepted? entry).map w.name) := by
  rw [← List.singleton_append, lastAccepted_append]
  cases ha : w.accepted? entry <;> simp [lastAccepted, ha]

theorem scan_eq (last : Option String) (items : List Json) :
    w.scan last items =
      match (items.map .ok).findSome? w.settles with
      | some (.ok a) => .found a
      | some (.error _) => .undecodable
      | none => .pending ((w.lastAccepted (items.map .ok)).or last) := by
  induction items generalizing last with
  | nil => simp [scan, lastAccepted]
  | cons item more ih =>
    rw [List.map_cons, List.findSome?_cons, lastAccepted_cons, scan]
    cases hd : w.decode item with
    | none => simp [settles, hd]
    | some a =>
      cases ha : w.accepts a with
      | false => simp [settles, accepted?, Option.filter, hd, ha, ih]
      | true =>
        cases hr : w.ready a with
        | true => simp [settles, hd, ha, hr]
        | false => simp [settles, accepted?, Option.filter, hd, ha, hr, ih]

theorem decodeResource_of_settles {items : List Json} {e : Error}
    (h : (items.map .ok).findSome? w.settles = some (.error e)) : e = .decodeResource w.kind := by
  obtain ⟨entry, hentry, he⟩ := List.exists_of_findSome?_eq_some h
  obtain ⟨item, _, rfl⟩ := List.mem_map.mp hentry
  exact settles_item_error he

variable {σ : Type} {world : Surroundings σ}

def listing (w : Watch α) (world : Surroundings σ) (s : Scene σ) : Step :=
  let r := world (.request (.list w.kind)) s.state
  ⟨.request (.list w.kind), r.answer, s.now, (s.after r).now⟩

def listed (w : Watch α) (world : Surroundings σ) (s : Scene σ) : Scene σ :=
  s.after (world (.request (.list w.kind)) s.state)

def rested (w : Watch α) (poll : PollOptions) (world : Surroundings σ) (deadline : Nat)
    (s : Scene σ) : Scene σ :=
  (w.listed world s).rest (min poll.interval (deadline - (w.listed world s).now))

theorem run_lookUntil (deadline rounds : Nat) (last : Option String) (s : Scene σ) :
    Flow.run world (w.lookUntil poll deadline (rounds + 1) last) s =
      if s.isCancelled then ⟨.error (.cancelled w.kind), s, []⟩
      else
        let entries := (w.listing world s).entries
        let last := (w.lastAccepted entries).or last
        match entries.findSome? w.settles with
        | some outcome => ⟨outcome, w.listed world s, [w.listing world s]⟩
        | none =>
          if deadline ≤ (w.listed world s).now then
            ⟨.error (w.expired poll last), w.listed world s, [w.listing world s]⟩
          else
            let rest := Flow.run world (w.lookUntil poll deadline rounds last)
              (w.rested poll world deadline s)
            { rest with steps := w.listing world s :: rest.steps } := by
  rw [lookUntil, Flow.run]
  cases hc : s.isCancelled with
  | true => simp [Scene.moment, hc, Flow.run]
  | false =>
    simp only [Scene.moment, hc, Flow.run, listing, Bool.false_eq_true, if_false]
    cases ha : (world (.request (.list w.kind)) s.state).answer with
    | error e => simp [Step.entries, settles, listed, Flow.run]
    | ok items =>
      simp only [Step.entries, scan_eq]
      cases hs : (items.map Except.ok).findSome? w.settles with
      | none =>
        simp only [Flow.run, Scene.moment, rested, listed]
        by_cases hd : deadline ≤ (s.after (world (.request (.list w.kind)) s.state)).now
        · simp only [hd, if_true]
          rfl
        · simp only [hd, if_false]
          rfl
      | some outcome =>
        cases outcome with
        | ok a => rfl
        | error e => rw [decodeResource_of_settles hs]; rfl

theorem settles_ok {entry : Except Error Json} {a : α} (h : w.settles entry = some (.ok a)) :
    w.accepts a = true ∧ w.ready a = true := by
  cases entry with
  | error e => cases h
  | ok item => exact (settles_item_iff.mp h).2

theorem lookUntil_ready {deadline rounds : Nat} {last : Option String} {s : Scene σ} {a : α}
    (h : (Flow.run world (w.lookUntil poll deadline rounds last) s).result = .ok a) :
    w.accepts a = true ∧ w.ready a = true := by
  induction rounds generalizing last s with
  | zero => cases h
  | succ rounds ih =>
    rw [run_lookUntil] at h
    split at h
    · cases h
    cases hfind : (w.listing world s).entries.findSome? w.settles with
    | some outcome =>
      simp only [hfind] at h
      subst h
      obtain ⟨entry, _, hentry⟩ := List.exists_of_findSome?_eq_some hfind
      exact settles_ok hentry
    | none =>
      simp only [hfind] at h
      split at h
      · cases h
      · exact ih h

/-- A wait gives nothing that is not accepted and ready, whether it is cancelled later or not. -/
theorem wait_ready {s : Scene σ} {a : α} (h : ((w.wait poll).runIn world s).result = .ok a) :
    w.accepts a = true ∧ w.ready a = true :=
  lookUntil_ready h

/-- Some rounds before a deadline, after which `last` had been accepted. -/
structure Rounds (w : Watch α) (poll : PollOptions) (deadline : Nat) (last : Option String)
    (start : Nat) (made : List Step) (outcome : Except Error α) : Prop where
  lists : ∀ step ∈ made, step.call = .request (.list w.kind)
  prompt : made.head?.map Step.start = some start
  undecided : ∀ entry ∈ stream made.dropLast, w.settles entry = none
  settled : ∀ result, (stream made).findSome? w.settles = some result → outcome = result
  expired : (stream made).findSome? w.settles = none →
    outcome = .error (w.expired poll ((w.lastAccepted (stream made)).or last)) ∧
      ∃ step ∈ made.getLast?, deadline ≤ step.finish

theorem rounds_single {deadline : Nat} {last : Option String} {s : Scene σ}
    {outcome : Except Error α}
    (settled : ∀ result, (w.listing world s).entries.findSome? w.settles = some result →
      outcome = result)
    (expired : (w.listing world s).entries.findSome? w.settles = none →
      outcome = .error (w.expired poll ((w.lastAccepted (w.listing world s).entries).or last)) ∧
        deadline ≤ (w.listing world s).finish) :
    w.Rounds poll deadline last s.now [w.listing world s] outcome := by
  have hstream : stream [w.listing world s] = (w.listing world s).entries := by simp [stream]
  constructor
  · intro step hstep
    rw [List.mem_singleton.mp hstep]
    rfl
  · rfl
  · simp [stream]
  · rwa [hstream]
  · intro h
    rw [hstream] at h ⊢
    exact ⟨(expired h).1, _, rfl, (expired h).2⟩

theorem Rounds.cons {deadline start : Nat} {last : Option String} {s : Scene σ}
    {made : List Step} {outcome : Except Error α}
    (quiet : (w.listing world s).entries.findSome? w.settles = none)
    (h : w.Rounds poll deadline ((w.lastAccepted (w.listing world s).entries).or last) start made
      outcome) :
    w.Rounds poll deadline last s.now (w.listing world s :: made) outcome := by
  have hmade : made ≠ [] := by
    rintro rfl
    exact absurd h.prompt (by simp)
  have hstream : stream (w.listing world s :: made) =
      (w.listing world s).entries ++ stream made := by simp [stream]
  have hfind : (stream (w.listing world s :: made)).findSome? w.settles =
      (stream made).findSome? w.settles := by
    rw [hstream, List.findSome?_append, quiet, Option.none_or]
  constructor
  · intro step hstep
    rcases List.mem_cons.mp hstep with rfl | hstep
    · rfl
    · exact h.lists step hstep
  · rfl
  · intro entry hentry
    rw [List.dropLast_cons_of_ne_nil hmade] at hentry
    simp only [stream, List.flatMap_cons, List.mem_append] at hentry
    rcases hentry with hentry | hentry
    · exact List.findSome?_eq_none_iff.mp quiet entry hentry
    · exact h.undecided entry hentry
  · rw [hfind]
    exact h.settled
  · intro hnone
    rw [hfind] at hnone
    obtain ⟨houtcome, step, hstep, hle⟩ := h.expired hnone
    refine ⟨?_, step, ?_, hle⟩
    · rw [houtcome, hstream, lastAccepted_append, Option.or_assoc]
    · rwa [List.getLast?_cons_of_ne_nil hmade]

theorem now_le_listed (w : Watch α) (world : Surroundings σ) (s : Scene σ) :
    s.now ≤ (w.listed world s).now :=
  Nat.le_add_right _ _

theorem rested_now {deadline : Nat} {s : Scene σ}
    (h : (w.rested poll world deadline s).isCancelled = false) :
    (w.rested poll world deadline s).now =
      (w.listed world s).now + min poll.interval (deadline - (w.listed world s).now) :=
  Scene.rest_now h

/-- The rounds of a wait that is not cancelled, which go on until a listing settles the wait or ends
no earlier than the deadline. -/
inductive Polls (w : Watch α) (poll : PollOptions) (world : Surroundings σ) (deadline : Nat) :
    Option String → Scene σ → Run σ (Except Error α) → Prop
  | settled {last : Option String} {s : Scene σ} {outcome : Except Error α}
      (decided : (w.listing world s).entries.findSome? w.settles = some outcome) :
      Polls w poll world deadline last s ⟨outcome, w.listed world s, [w.listing world s]⟩
  | timedOut {last : Option String} {s : Scene σ}
      (undecided : (w.listing world s).entries.findSome? w.settles = none)
      (due : deadline ≤ (w.listed world s).now) :
      Polls w poll world deadline last s
        ⟨.error (w.expired poll ((w.lastAccepted (w.listing world s).entries).or last)),
          w.listed world s, [w.listing world s]⟩
  | again {last : Option String} {s : Scene σ} {more : Run σ (Except Error α)}
      (undecided : (w.listing world s).entries.findSome? w.settles = none)
      (early : (w.listed world s).now < deadline)
      (paused : (w.rested poll world deadline s).now =
        (w.listed world s).now + min poll.interval (deadline - (w.listed world s).now))
      (rest : Polls w poll world deadline ((w.lastAccepted (w.listing world s).entries).or last)
        (w.rested poll world deadline s) more) :
      Polls w poll world deadline last s { more with steps := w.listing world s :: more.steps }

/-- The rounds that are left always suffice for a listing at the deadline. A round that ends before
the deadline is followed by a pause, which takes the whole interval or is the last one. -/
def Suffices (poll : PollOptions) (deadline now rounds : Nat) : Prop :=
  deadline + poll.interval ≤ now + rounds * poll.interval

theorem Suffices.rounds_ne_zero {deadline now : Nat} (spaced : 0 < poll.interval)
    (early : now ≤ deadline) : ¬ Suffices poll deadline now 0 := by
  unfold Suffices
  omega

theorem Suffices.next {deadline now finish rounds : Nat}
    (h : Suffices poll deadline now (rounds + 1)) (forward : now ≤ finish)
    (early : finish < deadline) :
    Suffices poll deadline (finish + min poll.interval (deadline - finish)) rounds := by
  unfold Suffices at h ⊢
  rw [Nat.succ_mul] at h
  cases rounds with
  | zero => omega
  | succ rounds =>
    rw [Nat.succ_mul] at h ⊢
    omega

theorem suffices_rounds (spaced : 0 < poll.interval) (now : Nat) :
    Suffices poll (now + poll.timeout) now poll.rounds := by
  have hrounds : poll.rounds = poll.timeout / poll.interval + 2 :=
    if_neg (Nat.pos_iff_ne_zero.mp spaced)
  have hdiv := Nat.div_add_mod poll.timeout poll.interval
  have hmod := Nat.mod_lt poll.timeout spaced
  unfold Suffices
  rw [hrounds, Nat.add_mul, Nat.mul_comm (poll.timeout / poll.interval)]
  omega

theorem lookUntil_polls (spaced : 0 < poll.interval) {deadline rounds : Nat}
    {last : Option String} {s : Scene σ} (early : s.now ≤ deadline)
    (room : Suffices poll deadline s.now rounds)
    (uncancelled :
      (Flow.run world (w.lookUntil poll deadline rounds last) s).scene.isCancelled = false) :
    w.Polls poll world deadline last s
      (Flow.run world (w.lookUntil poll deadline rounds last) s) := by
  induction rounds generalizing last s with
  | zero => exact absurd room (Suffices.rounds_ne_zero spaced early)
  | succ rounds ih =>
    have hs : s.isCancelled = false := Flow.not_cancelled_of_run _ _ uncancelled
    rw [run_lookUntil, hs] at uncancelled ⊢
    simp only [Bool.false_eq_true, if_false] at uncancelled ⊢
    cases hfind : (w.listing world s).entries.findSome? w.settles with
    | some outcome => exact .settled hfind
    | none =>
      simp only [hfind] at uncancelled ⊢
      split at uncancelled
      · next due =>
        rw [if_pos due]
        exact .timedOut hfind due
      · next more =>
        rw [if_neg more]
        have hearly : (w.listed world s).now < deadline := Nat.lt_of_not_le more
        have hpaused := rested_now (Flow.not_cancelled_of_run _ _ uncancelled)
        refine .again hfind hearly hpaused (ih ?_ ?_ uncancelled)
        · rw [hpaused]
          omega
        · rw [hpaused]
          exact room.next (now_le_listed w world s) hearly

theorem Polls.rounds {deadline : Nat} {last : Option String} {s : Scene σ}
    {r : Run σ (Except Error α)} (h : w.Polls poll world deadline last s r) :
    w.Rounds poll deadline last s.now r.steps r.result := by
  induction h with
  | settled decided =>
    apply rounds_single
    · intro result h
      exact Option.some.inj (decided.symm.trans h)
    · intro h
      rw [decided] at h
      cases h
  | timedOut undecided due =>
    apply rounds_single
    · intro result h
      rw [undecided] at h
      cases h
    · exact fun _ => ⟨rfl, due⟩
  | again undecided early paused rest ih => exact ih.cons undecided

theorem wait_polls (spaced : 0 < poll.interval) {s : Scene σ}
    (uncancelled : ((w.wait poll).runIn world s).scene.isCancelled = false) :
    w.Polls poll world (s.now + poll.timeout) none s ((w.wait poll).runIn world s) :=
  lookUntil_polls spaced (Nat.le_add_right _ _) (suffices_rounds spaced s.now) uncancelled

/-- How a wait goes: the listings it makes, and what it comes to. -/
structure Conduct (w : Watch α) (poll : PollOptions) (start : Nat) (made : List Step)
    (outcome : Except Error α) : Prop where
  lists : ∀ step ∈ made, step.call = .request (.list w.kind)
  prompt : made.head?.map Step.start = some start
  undecided : ∀ entry ∈ stream made.dropLast, w.settles entry = none
  outcome : outcome = w.verdict poll (stream made)
  patient : (stream made).findSome? w.settles = none →
    ∃ step ∈ made.getLast?, start + poll.timeout ≤ step.finish

theorem Rounds.conduct {start : Nat} {made : List Step} {outcome : Except Error α}
    (h : w.Rounds poll (start + poll.timeout) none start made outcome) :
    w.Conduct poll start made outcome := by
  refine ⟨h.lists, h.prompt, h.undecided, ?_, fun hnone => (h.expired hnone).2⟩
  cases hfind : (stream made).findSome? w.settles with
  | some result => rw [verdict_of_settled hfind, h.settled result hfind]
  | none => rw [verdict_of_unsettled hfind, (h.expired hfind).1, Option.or_none]

theorem wait_conduct (spaced : 0 < poll.interval) {s : Scene σ}
    (uncancelled : ((w.wait poll).runIn world s).scene.isCancelled = false) :
    w.Conduct poll s.now ((w.wait poll).runIn world s).steps
      ((w.wait poll).runIn world s).result :=
  (wait_polls spaced uncancelled).rounds.conduct

/-- The result is what the stream of all listings amounts to: its first settling entry, or else a
refusal, and the tolerated one only if nothing was ever accepted. All listings are of the kind
waited for, only the last one settles the wait, and if nothing does, it ends no earlier than the
deadline. -/
theorem wait_result (w : Watch α) {poll : PollOptions} (spaced : 0 < poll.interval)
    (world : Surroundings σ) (s : Scene σ)
    (uncancelled : ((w.wait poll).runIn world s).scene.isCancelled = false) :
    let r := (w.wait poll).runIn world s
    r.result = w.verdict poll (stream r.steps) ∧
      (r.result = .error (.resourceNotFound w.kind) ↔
        ∀ entry ∈ stream r.steps, w.settles entry = none ∧ w.accepted? entry = none) ∧
      (∀ step ∈ r.steps, step.call = .request (.list w.kind)) ∧
      (∀ entry ∈ stream r.steps.dropLast, w.settles entry = none) ∧
      ((stream r.steps).findSome? w.settles = none →
        ∃ step ∈ r.steps.getLast?, s.now + poll.timeout ≤ step.finish) := by
  have h := wait_conduct spaced uncancelled
  refine ⟨h.outcome, ?_, h.lists, h.undecided, h.patient⟩
  rw [h.outcome]
  exact verdict_eq_notFound_iff

def idle : Watch String where
  kind := .deployment
  decode := Json.str?
  name := id
  accepts := nameContains "api"
  ready _ := false

def fading : Script := ⟨[("deployment", [{ items := [.str "web", .str "api-1"] }, {}])]⟩

/-- A resource that vanished again still counts as one that did not become ready. -/
theorem wait_result_fading :
    let r := (idle.wait (.every 5 10)).runIn Script.surroundings fading.scene
    r.scene.isCancelled = false ∧ r.steps.length = 3 ∧
      r.result = .error (.resourceNotReady .deployment "api-1" 10) := by
  have uncancelled : ((idle.wait (.every 5 10)).runIn Script.surroundings
      fading.scene).scene.isCancelled = false := by decide +kernel
  refine ⟨uncancelled, by decide +kernel, ?_⟩
  exact (wait_result idle (by decide) _ _ uncancelled).1.trans (by rfl)

end Watch

end ClusterDeploy
