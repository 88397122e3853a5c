import ClusterDeploy.Proofs.Waiting.Cancellation
import ClusterDeploy.Proofs.Waiting.Schedule
import Mathlib.Algebra.Order.BigOperators.Group.List
/-!
# What waits take

Where nothing but pauses takes time, the time of an attempt is the time of its waits. A wait takes
no longer than its timeout, and all of it when it is refused. In a sequence the listings and the
times of the parts add up, as long as no kind is waited for twice.
-/
namespace ClusterDeploy

def Step.listed? (step : Step) : Option ResourceKind := step.call.listed?

def listings (steps : List Step) : List Step := steps.filter (·.listed?.isSome)

def listingsOf (kind : ResourceKind) (steps : List Step) : List Step :=
  steps.filter (·.listed? == some kind)

/-- The time from the first listing of a kind to the end of the last one. -/
def timeOn (kind : ResourceKind) (steps : List Step) : Nat :=
  match (listingsOf kind steps).head?, (listingsOf kind steps).getLast? with
  | some first, some last => last.finish - first.start
  | _, _ => 0

section Listings

variable {kind : ResourceKind} {a b steps : List Step}

theorem listingsOf_append : listingsOf kind (a ++ b) = listingsOf kind a ++ listingsOf kind b :=
  List.filter_append a b

theorem listingsOf_eq_nil (h : ∀ step ∈ steps, step.listed? ≠ some kind) :
    listingsOf kind steps = [] :=
  List.filter_eq_nil_iff.mpr fun step hstep => by simpa using h step hstep

theorem listingsOf_eq_self (h : ∀ step ∈ steps, step.call = .request (.list kind)) :
    listingsOf kind steps = steps := by
  refine List.filter_eq_self.mpr fun step hstep => ?_
  obtain ⟨call, answer, start, finish⟩ := step
  obtain rfl : call = .request (.list kind) := h _ hstep
  exact beq_self_eq_true _

theorem timeOn_append_left (h : listingsOf kind b = []) : timeOn kind (a ++ b) = timeOn kind a := by
  rw [timeOn, timeOn, listingsOf_append, h, List.append_nil]

theorem timeOn_append_right (h : listingsOf kind a = []) :
    timeOn kind (a ++ b) = timeOn kind b := by
  rw [timeOn, timeOn, listingsOf_append, h, List.nil_append]

theorem timeOn_eq_zero (h : listingsOf kind steps = []) : timeOn kind steps = 0 := by
  rw [timeOn, h]
  rfl

end Listings

def Error.unready : Error → Option ResourceKind
  | .resourceNotReady kind _ _ => some kind
  | .serviceEndpoints source | .ingressEndpoints source => source.unready
  | _ => none

structure Sought where
  kind : ResourceKind
  accepts : Except Error Json → Bool

def Watch.sought (w : Watch α) : Sought := ⟨w.kind, fun entry => (w.accepted? entry).isSome⟩

/-- Nothing of what is waited for is in any of the listings. -/
def Sought.Missing (w : Sought) (steps : List Step) : Prop :=
  ∀ entry ∈ stream (listingsOf w.kind steps), w.accepts entry = false

/-- A run whose time is that of its waits. -/
structure Budget (poll : PollOptions) (sought : List Sought) (start : Nat)
    (r : Run σ (Except Error α)) : Prop where
  known : ∀ step ∈ r.steps, ∀ kind, step.listed? = some kind → kind ∈ sought.map Sought.kind
  few : (listings r.steps).length ≤ sought.length * (poll.timeout ⌈/⌉ poll.interval + 1)
  each : ∀ w ∈ sought, timeOn w.kind r.steps ≤ poll.timeout
  total : r.scene.now = start + (sought.map fun w => timeOn w.kind r.steps).sum
  /-- A success without something that was waited for took the whole time for it. -/
  patient : ∀ a, r.result = .ok a → ∀ w ∈ sought, w.Missing r.steps →
    timeOn w.kind r.steps = poll.timeout
  /-- A refusal comes when the whole time is over, counted from the first listing of the kind. -/
  late : ∀ e kind, r.result = .error e → e.unready = some kind →
    ∃ first ∈ (listingsOf kind r.steps).head?, r.scene.now = first.start + poll.timeout

namespace Budget

variable {poll : PollOptions} {first second sought : List Sought} {start : Nat} {σ : Type}

theorem brief {r : Run σ (Except Error α)} (h : Budget poll sought start r) :
    r.scene.now ≤ start + sought.length * poll.timeout := by
  have hsum := List.sum_le_card_nsmul (sought.map fun w => timeOn w.kind r.steps) poll.timeout
    (by
      intro time htime
      obtain ⟨w, hw, rfl⟩ := List.mem_map.mp htime
      exact h.each w hw)
  rw [List.length_map, smul_eq_mul] at hsum
  rw [h.total]
  omega

theorem of_quiet {r : Run σ (Except Error α)} (quiet : ∀ step ∈ r.steps, step.listed? = none)
    (instant : r.scene.now = start) (ready : ∀ e, r.result = .error e → e.unready = none) :
    Budget poll [] start r where
  known := by
    intro step hstep kind hkind
    cases (quiet step hstep).symm.trans hkind
  few := by
    have hnone : listings r.steps = [] := List.filter_eq_nil_iff.mpr fun step hstep => by
      simp [quiet step hstep]
    simp [hnone]
  each := nofun
  total := instant
  patient := nofun
  late := by
    intro e kind he hkind
    cases (ready e he).symm.trans hkind

variable {r₁ : Run σ (Except Error α)} {r₂ : Run σ (Except Error β)}

theorem listingsOf_nil (h : Budget poll sought start r₁) {kind : ResourceKind}
    (unknown : kind ∉ sought.map Sought.kind) : listingsOf kind r₁.steps = [] :=
  listingsOf_eq_nil fun step hstep hkind => unknown (h.known step hstep kind hkind)

/-- One run after the other. -/
theorem append (h₁ : Budget poll first start r₁) (h₂ : Budget poll second r₁.scene.now r₂)
    (succeeded : ∃ a, r₁.result = .ok a)
    (apart : List.Disjoint (first.map Sought.kind) (second.map Sought.kind)) :
    Budget poll (first ++ second) start { r₂ with steps := r₁.steps ++ r₂.steps } := by
  have hfirst : ∀ w ∈ first, listingsOf w.kind r₂.steps = [] := fun w hw =>
    h₂.listingsOf_nil fun h => apart (List.mem_map_of_mem hw) h
  have hsecond : ∀ w ∈ second, listingsOf w.kind r₁.steps = [] := fun w hw =>
    h₁.listingsOf_nil fun h => apart h (List.mem_map_of_mem hw)
  constructor
  case known =>
    intro step hstep kind hkind
    rw [List.map_append, List.mem_append]
    rcases List.mem_append.mp hstep with hstep | hstep
    · exact .inl (h₁.known step hstep kind hkind)
    · exact .inr (h₂.known step hstep kind hkind)
  case few =>
    have hfew := Nat.add_le_add h₁.few h₂.few
    rw [listings, List.filter_append, List.length_append, List.length_append, Nat.add_mul]
    exact hfew
  case each =>
    intro w hw
    dsimp only
    rcases List.mem_append.mp hw with hw | hw
    · rw [timeOn_append_left (hfirst w hw)]
      exact h₁.each w hw
    · rw [timeOn_append_right (hsecond w hw)]
      exact h₂.each w hw
  case total =>
    have hleft : (first.map fun w => timeOn w.kind (r₁.steps ++ r₂.steps)) =
        first.map fun w => timeOn w.kind r₁.steps :=
      List.map_congr_left fun w hw => timeOn_append_left (hfirst w hw)
    have hright : (second.map fun w => timeOn w.kind (r₁.steps ++ r₂.steps)) =
        second.map fun w => timeOn w.kind r₂.steps :=
      List.map_congr_left fun w hw => timeOn_append_right (hsecond w hw)
    dsimp only
    rw [List.map_append, List.sum_append, hleft, hright, h₂.total, h₁.total, Nat.add_assoc]
  case patient =>
    intro b hb w hw hmissing
    dsimp only at hmissing ⊢
    unfold Sought.Missing at hmissing
    obtain ⟨a, ha⟩ := succeeded
    rcases List.mem_append.mp hw with hw | hw
    · rw [listingsOf_append, hfirst w hw, List.append_nil] at hmissing
      rw [timeOn_append_left (hfirst w hw)]
      exact h₁.patient a ha w hw hmissing
    · rw [listingsOf_append, hsecond w hw, List.nil_append] at hmissing
      rw [timeOn_append_right (hsecond w hw)]
      exact h₂.patient b hb w hw hmissing
  case late =>
    intro e kind he hkind
    obtain ⟨listing, hlisting, hnow⟩ := h₂.late e kind he hkind
    have hmem : kind ∈ second.map Sought.kind := by
      by_contra hunknown
      rw [h₂.listingsOf_nil hunknown] at hlisting
      cases hlisting
    have hnil := h₁.listingsOf_nil fun h => apart h hmem
    refine ⟨listing, ?_, hnow⟩
    dsimp only
    rwa [listingsOf_append, hnil, List.nil_append]

theorem stop (h : Budget poll first start r₁) {e : Error} (failed : r₁.result = .error e)
    (apart : List.Disjoint (first.map Sought.kind) (second.map Sought.kind)) :
    Budget poll (first ++ second) start ({ r₁ with result := .error e } :
      Run σ (Except Error β)) := by
  have hsecond : ∀ w ∈ second, timeOn w.kind r₁.steps = 0 := fun w hw =>
    timeOn_eq_zero (h.listingsOf_nil fun h => apart h (List.mem_map_of_mem hw))
  constructor
  case known =>
    intro step hstep kind hkind
    rw [List.map_append, List.mem_append]
    exact .inl (h.known step hstep kind hkind)
  case few =>
    rw [List.length_append, Nat.add_mul]
    exact Nat.le_add_right_of_le h.few
  case each =>
    intro w hw
    rcases List.mem_append.mp hw with hw | hw
    · exact h.each w hw
    · exact (hsecond w hw).trans_le (Nat.zero_le _)
  case total =>
    have hzero : (second.map fun w => timeOn w.kind r₁.steps).sum = 0 := by
      rw [List.map_congr_left hsecond, List.map_const', List.sum_replicate, smul_zero]
    dsimp only
    rw [List.map_append, List.sum_append, hzero, Nat.add_zero, h.total]
  case patient => nofun
  case late =>
    rintro _ kind ⟨⟩ hkind
    exact h.late e kind failed hkind

/-- The same run with another result. An error may be told under another one, and may count as a
success where it took the whole time to notice an absence. -/
theorem retell (h : Budget poll sought start r₁) {result : Except Error β}
    (ok : ∀ b, result = .ok b → (∃ a, r₁.result = .ok a) ∨
      ∀ w ∈ sought, w.Missing r₁.steps → timeOn w.kind r₁.steps = poll.timeout)
    (failed : ∀ e kind, result = .error e → e.unready = some kind →
      ∃ source, r₁.result = .error source ∧ source.unready = some kind) :
    Budget poll sought start { r₁ with result } where
  known := h.known
  few := h.few
  each := h.each
  total := h.total
  patient := by
    intro b hb w hw hmissing
    rcases ok b hb with ⟨a, ha⟩ | habsent
    · exact h.patient a ha w hw hmissing
    · exact habsent w hw hmissing
  late := by
    intro e kind he hkind
    obtain ⟨source, hsource, hunready⟩ := failed e kind he hkind
    exact h.late source kind hsource hunready

end Budget

/-! ## One wait -/

def Instant (world : Surroundings σ) : Prop := ∀ c state, (world c state).elapsed = 0

theorem Instant.now_after {world : Surroundings σ} (h : Instant world) (c : Call) (s : Scene σ) :
    (s.after (world c s.state)).now = s.now := by
  rw [Scene.after, h, Nat.add_zero]

namespace Watch

variable {σ : Type} {world : Surroundings σ} {w : Watch α} {poll : PollOptions} {s : Scene σ}

theorem Polls.in_time {deadline : Nat} {last : Option String} {r : Run σ (Except Error α)}
    (h : w.Polls poll world deadline last s r) (instant : Instant world)
    (early : s.now ≤ deadline) : r.scene.now ≤ deadline := by
  induction h with
  | settled decided => exact (instant.now_after _ _).trans_le early
  | timedOut undecided due => exact (instant.now_after _ _).trans_le early
  | again undecided before paused rest ih =>
    refine ih ?_
    rw [paused]
    omega

theorem Polls.forward {deadline : Nat} {last : Option String} {r : Run σ (Except Error α)}
    (h : w.Polls poll world deadline last s r) : s.now ≤ r.scene.now := by
  induction h with
  | settled decided => exact now_le_listed _ _ _
  | timedOut undecided due => exact now_le_listed _ _ _
  | @again last s more undecided early paused rest ih =>
    have hlisted := now_le_listed w world s
    change s.now ≤ more.scene.now
    omega

/-- The last pause is cut, so a refusal is on time. -/
theorem Polls.on_time {deadline : Nat} {last last' : Option String} {r : Run σ (Except Error α)}
    (h : w.Polls poll world deadline last s r) (instant : Instant world)
    (early : s.now ≤ deadline) (expired : r.result = .error (w.expired poll last')) :
    r.scene.now = deadline :=
  Nat.le_antisymm (h.in_time instant early) (h.due_of_expired expired).1

theorem Polls.timeOn_eq {deadline : Nat} {last : Option String} {r : Run σ (Except Error α)}
    (h : w.Polls poll world deadline last s r) : timeOn w.kind r.steps = r.scene.now - s.now := by
  obtain ⟨step, hstep, hfinish⟩ := h.finish_eq
  have hprompt := h.rounds.prompt
  obtain ⟨first, hfirst, hstart⟩ := Option.map_eq_some_iff.mp hprompt
  rw [timeOn, listingsOf_eq_self h.rounds.lists, hfirst, Option.mem_def.mp hstep]
  dsimp only
  rw [hfinish, hstart]

/-- Only the end of its time makes a wait fail to find something, or to find it ready. -/
theorem Conduct.error_cases {start : Nat} {made : List Step} {e : Error}
    (h : w.Conduct poll start made (.error e)) :
    (∃ last, e = w.expired poll last) ∨ e.unready = none ∧ e.isNotFound = false := by
  rcases verdict_error h.outcome.symm with hlast | ⟨source, rfl⟩ | rfl
  · exact .inl hlast
  · exact .inr ⟨rfl, rfl⟩
  · exact .inr ⟨rfl, rfl⟩

theorem Conduct.accepted {start : Nat} {made : List Step} {a : α}
    (h : w.Conduct poll start made (.ok a)) :
    ∃ entry ∈ stream made, w.sought.accepts entry = true := by
  obtain ⟨item, hmem, hdecoded, haccepted, -⟩ := taken_of_verdict h.outcome.symm
  exact ⟨.ok item, hmem, by simp [sought, accepted?, hdecoded, haccepted]⟩

theorem Polls.budget {r : Run σ (Except Error α)} (spaced : 0 < poll.interval)
    (instant : Instant world) (h : w.Polls poll world (s.now + poll.timeout) none s r) :
    Budget poll [w.sought] s.now r := by
  have hearly : s.now ≤ s.now + poll.timeout := Nat.le_add_right _ _
  have hlists := h.rounds.lists
  have htime := h.timeOn_eq
  have hbrief := h.in_time instant hearly
  have hconduct := h.rounds.conduct
  have hforward := h.forward
  constructor
  case known =>
    intro step hstep kind hkind
    obtain ⟨call, answer, start, finish⟩ := step
    obtain rfl : call = .request (.list w.kind) := hlists _ hstep
    cases hkind
    exact List.mem_singleton_self _
  case few =>
    have hfew := h.length_le spaced
    rw [Nat.add_sub_cancel_left] at hfew
    rw [List.length_singleton, Nat.one_mul]
    exact (List.length_filter_le _ _).trans hfew
  case each =>
    intro _ hw
    rw [List.mem_singleton.mp hw]
    change timeOn w.kind r.steps ≤ poll.timeout
    omega
  case total =>
    change r.scene.now = s.now + (timeOn w.kind r.steps + 0)
    omega
  case patient =>
    intro a ha _ hw hmissing
    rw [List.mem_singleton.mp hw] at hmissing
    rw [ha] at hconduct
    obtain ⟨entry, hentry, haccepted⟩ := hconduct.accepted
    unfold Sought.Missing at hmissing
    rw [show listingsOf w.sought.kind r.steps = r.steps from listingsOf_eq_self hlists] at hmissing
    rw [hmissing entry hentry] at haccepted
    cases haccepted
  case late =>
    intro e kind he hkind
    rw [he] at hconduct
    rcases hconduct.error_cases with ⟨last, rfl⟩ | ⟨hnone, _⟩
    · have hnow := h.on_time instant hearly he
      obtain ⟨first, hfirst, hstart⟩ := Option.map_eq_some_iff.mp h.rounds.prompt
      obtain rfl : w.kind = kind := by
        cases last with
        | none => cases hkind
        | some name => exact Option.some.inj hkind
      refine ⟨first, ?_, hnow.trans (by rw [hstart])⟩
      rwa [listingsOf_eq_self hlists]
    · cases hnone.symm.trans hkind

end Watch

/-! ## Attempts -/

namespace Attempt

variable {σ : Type} {world : Surroundings σ} {poll : PollOptions} {s : Scene σ}
  {sought first second : List Sought}

def Within (world : Surroundings σ) (poll : PollOptions) (sought : List Sought) (t : Attempt α)
    (s : Scene σ) : Prop :=
  (t.runIn world s).scene.isCancelled = false → Budget poll sought s.now (t.runIn world s)

theorem within_pure (a : α) : (pure a : Attempt α).Within world poll [] s :=
  fun _ => .of_quiet (List.forall_mem_nil _) rfl nofun

theorem within_ofExcept {r : Except Error α} (h : ∀ e, r = .error e → e.unready = none) :
    (ofExcept r).Within world poll [] s :=
  fun _ => .of_quiet (List.forall_mem_nil _) rfl h

theorem within_of (instant : Instant world) {c : Call} {read : c.Answer → Except Error α}
    (quiet : c.listed? = none)
    (ready : ∀ e, read (world c s.state).answer = .error e → e.unready = none) :
    (of (.ask c fun answer => .done (read answer))).Within world poll [] s := by
  intro _
  refine .of_quiet (fun step hstep => ?_) (instant.now_after c s) ready
  rw [List.mem_singleton.mp hstep]
  exact quiet

theorem within_wrap_of (instant : Instant world) {c : Call}
    {read : c.Answer → Except Error α} {f : Error → Error} (quiet : c.listed? = none)
    (ready : ∀ e, (f e).unready = none) :
    (wrap f (of (.ask c fun answer => .done (read answer)))).Within world poll [] s := by
  rw [Within, runIn_wrap]
  intro _
  refine .of_quiet (fun step hstep => ?_) (instant.now_after c s) fun e he => ?_
  · rw [List.mem_singleton.mp hstep]
    exact quiet
  · change (read _).mapError f = .error e at he
    cases hread : read (world c s.state).answer with
    | ok a =>
      rw [hread] at he
      cases he
    | error source =>
      rw [hread] at he
      cases he
      exact ready source

theorem within_call (instant : Instant world) {c : Call} (quiet : c.listed? = none) :
    (call c).Within world poll [] s :=
  within_of instant quiet nofun

theorem Within.andThen {t : Attempt α} {f : α → Attempt β} (ht : t.Within world poll first s)
    (hf : ∀ a s, (f a).Within world poll second s)
    (apart : List.Disjoint (first.map Sought.kind) (second.map Sought.kind)) :
    (t >>= f).Within world poll (first ++ second) s := by
  intro uncancelled
  have hfirst := ht (not_cancelled_of_bind uncancelled)
  cases hr : (t.runIn world s).result with
  | error e =>
    rw [runIn_bind_error hr]
    exact hfirst.stop hr apart
  | ok a =>
    rw [runIn_bind_ok hr] at uncancelled ⊢
    exact hfirst.append (hf a _ uncancelled) ⟨a, hr⟩ apart

theorem Within.after {t : Attempt α} {f : α → Attempt β} (ht : t.Within world poll [] s)
    (hf : ∀ a s, (f a).Within world poll sought s) : (t >>= f).Within world poll sought s :=
  ht.andThen hf (List.disjoint_nil_left _)

theorem Within.before {t : Attempt α} {f : α → Attempt β} (ht : t.Within world poll sought s)
    (hf : ∀ a s, (f a).Within world poll [] s) : (t >>= f).Within world poll sought s := by
  have h := ht.andThen hf (List.disjoint_nil_right _)
  rwa [List.append_nil] at h

theorem Within.wrap {t : Attempt α} {f : Error → Error} (h : t.Within world poll sought s)
    (ready : ∀ e kind, (f e).unready = some kind → e.unready = some kind) :
    (wrap f t).Within world poll sought s := by
  intro uncancelled
  rw [runIn_wrap] at uncancelled ⊢
  refine (h uncancelled).retell (fun a ha => ?_) fun e kind he hkind => ?_
  · cases hr : (t.runIn world s).result with
    | ok a => exact .inl ⟨a, rfl⟩
    | error e =>
      rw [hr] at ha
      cases ha
  · cases hr : (t.runIn world s).result with
    | ok a =>
      rw [hr] at he
      cases he
    | error source =>
      rw [hr] at he
      cases he
      exact ⟨source, rfl, ready source kind hkind⟩

variable {w : Watch α}

theorem within_wait (spaced : 0 < poll.interval) (instant : Instant world) :
    (w.wait poll).Within world poll [w.sought] s :=
  fun uncancelled => (Watch.wait_polls spaced uncancelled).budget spaced instant

/-- A wait and what follows it fail to find something only when the whole time is over, or when
something was there. -/
theorem timeOn_of_notFound (spaced : 0 < poll.interval) (instant : Instant world)
    {f : α → Attempt β} {e : Error}
    (uncancelled : ((w.wait poll >>= f).runIn world s).scene.isCancelled = false)
    (failed : ((w.wait poll >>= f).runIn world s).result = .error e) (absent : e.isNotFound = true)
    (missing : w.sought.Missing ((w.wait poll >>= f).runIn world s).steps) :
    timeOn w.kind ((w.wait poll >>= f).runIn world s).steps = poll.timeout := by
  have hpolls := Watch.wait_polls spaced (not_cancelled_of_bind uncancelled)
  have hconduct := hpolls.rounds.conduct
  cases hr : ((w.wait poll).runIn world s).result with
  | error source =>
    rw [runIn_bind_error hr] at failed ⊢
    cases failed
    rw [hr] at hconduct
    rcases hconduct.error_cases with ⟨last, rfl⟩ | ⟨_, hpresent⟩
    · have hnow := hpolls.on_time instant (Nat.le_add_right _ _) hr
      rw [hpolls.timeOn_eq, hnow, Nat.add_sub_cancel_left]
    · cases absent.symm.trans hpresent
  | ok a =>
    rw [hr] at hconduct
    obtain ⟨entry, hentry, haccepted⟩ := hconduct.accepted
    rw [runIn_bind_ok hr] at missing
    have hlists : listingsOf w.kind ((w.wait poll).runIn world s).steps = _ :=
      listingsOf_eq_self hpolls.rounds.lists
    have hmem : entry ∈ stream (listingsOf w.kind (((w.wait poll).runIn world s).steps ++
        ((f a).runIn world ((w.wait poll).runIn world s).scene).steps)) := by
      rw [listingsOf_append, hlists, stream, List.flatMap_append]
      exact List.mem_append_left _ hentry
    cases haccepted.symm.trans (missing entry hmem)

theorem within_tolerated (spaced : 0 < poll.interval) (instant : Instant world)
    {f : α → Attempt β} (hf : ∀ a s, (f a).Within world poll [] s) :
    (unlessNotFound (w.wait poll >>= f)).Within world poll [w.sought] s := by
  intro uncancelled
  have hinner := not_cancelled_of_unlessNotFound uncancelled
  have hwait : (w.wait poll).Within world poll [w.sought] s := within_wait spaced instant
  have hbudget := hwait.before hf hinner
  rw [runIn_unlessNotFound]
  refine hbudget.retell (fun found hfound => ?_) fun e kind he hkind => ?_
  · cases hr : ((w.wait poll >>= f).runIn world s).result with
    | ok a => exact .inl ⟨a, rfl⟩
    | error e =>
      right
      rw [hr] at hfound
      cases habsent : e.isNotFound with
      | false => simp [habsent] at hfound
      | true =>
        intro _ hw hmissing
        obtain rfl := List.mem_singleton.mp hw
        exact timeOn_of_notFound spaced instant hinner hr habsent hmissing
  · cases hr : ((w.wait poll >>= f).runIn world s).result with
    | ok a =>
      rw [hr] at he
      cases he
    | error source =>
      rw [hr] at he
      cases habsent : source.isNotFound with
      | true => simp [habsent] at he
      | false =>
        simp only [habsent, Bool.false_eq_true, if_false, Except.error.injEq] at he
        exact ⟨source, rfl, he ▸ hkind⟩

end Attempt

end ClusterDeploy
