import ClusterDeploy.Endpoint.Resolve
import ClusterDeploy.Proofs.Deploy.Sequence
import ClusterDeploy.Proofs.Endpoint.Ingress
/-!
# The endpoints of a service and of its ingress together

Two waits in sequence. Absence of what is waited for is tolerated in both, everything else ends the
search under an error of its own, and the endpoints of the ingress come last.
-/
namespace ClusterDeploy.Endpoint

open Attempt

def fromService : Except Error Service → Except Error (List Endpoint)
  | .ok service => .ok (ofService service)
  | .error (.resourceNotFound _) => .ok []
  | .error e => .error (.serviceEndpoints e)

def fromIngress (relativePath : String) : Except Error Ingress → Except Error (List Endpoint)
  | .ok ingress => (ofIngress ingress relativePath).mapError .ingressEndpoints
  | .error (.resourceNotFound _) => .ok []
  | .error e => .error (.ingressEndpoints e)

/-! ## Sources -/

theorem ofIngress_source {ingress : Ingress} {relativePath : String} {endpoints : List Endpoint}
    (h : ofIngress ingress relativePath = .ok endpoints) :
    ∀ e ∈ endpoints, e.source = .ingress := by
  intro e he
  obtain ⟨position, _, hserves⟩ := serves_of_mem h he
  exact hserves.source

theorem ofIngress_error {ingress : Ingress} {relativePath : String} {e : Error}
    (h : ofIngress ingress relativePath = .error e) : e.isNotFound = false := by
  obtain ⟨first, _, fault, _, rfl, _⟩ := ofIngress_error_iff.mp h
  rfl

theorem fromIngress_source {relativePath : String} {found : Except Error Ingress}
    {endpoints : List Endpoint} (h : fromIngress relativePath found = .ok endpoints) :
    ∀ e ∈ endpoints, e.source = .ingress := by
  unfold fromIngress at h
  split at h
  · next ingress =>
    cases hi : ofIngress ingress relativePath with
    | error e => rw [hi] at h; cases h
    | ok built =>
      rw [hi] at h
      cases h
      exact ofIngress_source hi
  · cases h
    intro e he
    cases he
  · cases h

/-! ## One wait and what follows it -/

variable {world : Surroundings σ} {s : Scene σ} {poll : PollOptions}

theorem kind_of_notFound {w : Watch α} {start : Nat} {made : List Step} {kind : ResourceKind}
    (h : w.Conduct poll start made (.error (.resourceNotFound kind))) : kind = w.kind := by
  rcases Watch.verdict_error h.outcome.symm with ⟨last, hlast⟩ | ⟨source, hlisting⟩ | hdecoding
  · cases last with
    | none => exact Error.resourceNotFound.inj hlast
    | some name => cases hlast
  · cases hlisting
  · cases hdecoding

theorem fromService_ok_iff {filter : String} {start : Nat} {made : List Step}
    {served : Except Error Service} (h : (Watch.service filter).Conduct poll start made served) :
    (∃ first, fromService served = .ok first) ↔
      served = .error (.resourceNotFound .service) ∨ ∃ service, served = .ok service := by
  cases served with
  | ok service => exact iff_of_true ⟨_, rfl⟩ (.inr ⟨service, rfl⟩)
  | error e =>
    cases e with
    | resourceNotFound kind =>
      obtain rfl : kind = .service := kind_of_notFound h
      exact iff_of_true ⟨[], rfl⟩ (.inl rfl)
    | _ =>
      refine iff_of_false ?_ ?_
      · rintro ⟨first, hfirst⟩
        cases hfirst
      · rintro (hserved | ⟨service, hserved⟩) <;> cases hserved

theorem fromIngress_ok_iff {filter relativePath : String} {start : Nat} {made : List Step}
    {found : Except Error Ingress} (h : (Watch.ingress filter).Conduct poll start made found) :
    (∃ rest, fromIngress relativePath found = .ok rest) ↔
      found = .error (.resourceNotFound .ingress) ∨
        ∃ ingress built, found = .ok ingress ∧ ofIngress ingress relativePath = .ok built := by
  cases found with
  | ok ingress =>
    cases hi : ofIngress ingress relativePath with
    | ok built =>
      exact iff_of_true ⟨built, by rw [fromIngress, hi]; rfl⟩ (.inr ⟨ingress, built, rfl, hi⟩)
    | error e =>
      refine iff_of_false ?_ ?_
      · rintro ⟨rest, hrest⟩
        rw [fromIngress, hi] at hrest
        cases hrest
      · rintro (hfound | ⟨_, built, hfound, hbuilt⟩)
        · cases hfound
        · cases hfound
          rw [hi] at hbuilt
          cases hbuilt
  | error e =>
    cases e with
    | resourceNotFound kind =>
      obtain rfl : kind = .ingress := kind_of_notFound h
      exact iff_of_true ⟨[], rfl⟩ (.inl rfl)
    | _ =>
      refine iff_of_false ?_ ?_
      · rintro ⟨rest, hrest⟩
        cases hrest
      · rintro (hfound | ⟨_, _, hfound, _⟩) <;> cases hfound

theorem warnAll_run (warnings : List Warning) (world : Surroundings σ) (s : Scene σ) :
    ((warnAll warnings).runIn world s).result = .ok () ∧
      outward ((warnAll warnings).runIn world s).steps = [] := by
  have hpasses : ((warnAll warnings).runIn world s).Passes [] () := Deploy.warnAll_passes warnings
  obtain ⟨fault, hstages, hresult⟩ := hpasses
  generalize outward ((warnAll warnings).runIn world s).steps = made at hstages
  cases hstages
  exact ⟨hresult, rfl⟩

theorem await_run (w : Watch α) (warnings : α → List Warning) (conclude : α → Except Error β)
    {t : Attempt β}
    (ht : t = (w.wait poll >>= fun a =>
      warnAll (warnings a) >>= fun _ => Attempt.ofExcept (conclude a)))
    (spaced : 0 < poll.interval) (uncancelled : (t.runIn world s).scene.isCancelled = false) :
    ∃ outcome, w.Conduct poll s.now (outward (t.runIn world s).steps) outcome ∧
      (t.runIn world s).result = outcome.bind conclude := by
  subst ht
  have hwait := Watch.wait_conduct spaced (not_cancelled_of_bind uncancelled)
  have houtward := Deploy.outward_of_lists hwait.lists
  cases hr : ((w.wait poll).runIn world s).result with
  | error e =>
    rw [runIn_bind_error hr]
    rw [hr] at hwait
    exact ⟨.error e, by rwa [houtward], rfl⟩
  | ok a =>
    rw [hr] at hwait
    have hwarned := warnAll_run (warnings a) world ((w.wait poll).runIn world s).scene
    rw [runIn_bind_ok hr, runIn_bind_ok hwarned.1]
    refine ⟨.ok a, ?_, rfl⟩
    rw [outward_append, outward_append, houtward, hwarned.2]
    change w.Conduct poll s.now (_ ++ ([] ++ [])) _
    rwa [List.append_nil, List.append_nil]

theorem awaitService_run (filter : String) (spaced : 0 < poll.interval)
    (uncancelled : ((awaitService filter poll).runIn world s).scene.isCancelled = false) :
    ∃ outcome, (Watch.service filter).Conduct poll s.now
        (outward ((awaitService filter poll).runIn world s).steps) outcome ∧
      ((awaitService filter poll).runIn world s).result = outcome.bind fun a => .ok (ofService a) :=
  await_run _ warningsOfService _ rfl spaced uncancelled

theorem awaitIngress_run (filter relativePath : String) (spaced : 0 < poll.interval)
    (uncancelled : ((awaitIngress filter relativePath poll).runIn world s).scene.isCancelled =
      false) :
    ∃ outcome, (Watch.ingress filter).Conduct poll s.now
        (outward ((awaitIngress filter relativePath poll).runIn world s).steps) outcome ∧
      ((awaitIngress filter relativePath poll).runIn world s).result =
        outcome.bind fun i => ofIngress i relativePath :=
  await_run _ warningsOfIngress _ rfl spaced uncancelled

/-- What is left of an outcome when absence is tolerated and every other error is wrapped. -/
def tolerate (f : Error → Error) : Except Error α → Except Error (Option α)
  | .ok a => .ok (some a)
  | .error e => if e.isNotFound then .ok none else .error (f e)

theorem runIn_tolerate (f : Error → Error) (t : Attempt α) (world : Surroundings σ) (s : Scene σ) :
    (wrap f (unlessNotFound t)).runIn world s =
      { t.runIn world s with result := tolerate f (t.runIn world s).result } := by
  rw [runIn_wrap, runIn_unlessNotFound]
  cases (t.runIn world s).result with
  | ok a => rfl
  | error e => cases he : e.isNotFound <;> simp only [tolerate, he] <;> rfl

theorem tolerate_service (served : Except Error Service) :
    (tolerate .serviceEndpoints (served.bind fun a => .ok (ofService a))).map (·.getD []) =
      fromService served := by
  cases served with
  | ok service => rfl
  | error e => cases e <;> rfl

theorem tolerate_ingress (relativePath : String) (found : Except Error Ingress) :
    (tolerate .ingressEndpoints (found.bind fun i => ofIngress i relativePath)).map (·.getD []) =
      fromIngress relativePath found := by
  cases found with
  | ok ingress =>
    change (tolerate .ingressEndpoints (ofIngress ingress relativePath)).map (·.getD []) =
      (ofIngress ingress relativePath).mapError .ingressEndpoints
    cases hi : ofIngress ingress relativePath with
    | ok endpoints => rfl
    | error e =>
      rw [tolerate, ofIngress_error hi]
      rfl
  | error e => cases e <;> rfl

theorem ok_of_map {f : α → β} {outcome : Except ε α} {b : β} (h : outcome.map f = .ok b) :
    ∃ a, outcome = .ok a ∧ b = f a := by
  cases outcome with
  | ok a =>
    cases h
    exact ⟨a, rfl, rfl⟩
  | error e => cases h

/-- Once the first wait is over, the second one alone decides whether there is a union. -/
theorem union_ok_iff {filter relativePath : String} {start : Nat} {made : List Step}
    {found : Except Error Ingress} {first : List Endpoint} {result : Except Error (List Endpoint)}
    (h : (Watch.ingress filter).Conduct poll start made found)
    (hresult : result = (fromIngress relativePath found).map (first ++ ·)) :
    (∃ endpoints, result = .ok endpoints) ↔
      ∃ start found, (Watch.ingress filter).Conduct poll start made found ∧
        (found = .error (.resourceNotFound .ingress) ∨
          ∃ ingress built, found = .ok ingress ∧ ofIngress ingress relativePath = .ok built) := by
  subst hresult
  constructor
  · rintro ⟨endpoints, hok⟩
    obtain ⟨rest, hrest, _⟩ := ok_of_map hok
    exact ⟨start, found, h, (fromIngress_ok_iff h).mp ⟨rest, hrest⟩⟩
  · rintro ⟨start', found', h', hpassed⟩
    obtain rfl : found' = found := h'.outcome.trans h.outcome.symm
    obtain ⟨rest, hrest⟩ := (fromIngress_ok_iff h').mpr hpassed
    exact ⟨first ++ rest, by rw [hrest]; rfl⟩

/-- The second wait, once the first one has left some endpoints. -/
theorem ingress_after (ingressFilter relativePath : String) (first : List Endpoint)
    (spaced : 0 < poll.interval) {t : Attempt (List Endpoint)}
    (ht : t = (wrap .ingressEndpoints
      (unlessNotFound (awaitIngress ingressFilter relativePath poll)) >>= fun rest =>
        pure (first ++ rest.getD [])))
    (uncancelled : (t.runIn world s).scene.isCancelled = false) :
    ∃ found, (Watch.ingress ingressFilter).Conduct poll s.now
        (outward (t.runIn world s).steps) found ∧
      (t.runIn world s).result = (fromIngress relativePath found).map (first ++ ·) := by
  subst ht
  obtain ⟨found, hingress, hfound⟩ := awaitIngress_run ingressFilter relativePath spaced
    (not_cancelled_of_unlessNotFound (not_cancelled_of_wrap (not_cancelled_of_bind uncancelled)))
  have hrest := runIn_tolerate .ingressEndpoints
    (awaitIngress ingressFilter relativePath poll) world s
  have hunion := tolerate_ingress relativePath found
  rw [hfound] at hrest
  refine ⟨found, ?_, ?_⟩
  · cases ht : tolerate .ingressEndpoints (found.bind fun i => ofIngress i relativePath) with
    | error e =>
      rw [ht] at hrest
      rwa [runIn_bind_error (congrArg Run.result hrest), hrest]
    | ok rest =>
      rw [ht] at hrest
      rw [runIn_bind_ok (congrArg Run.result hrest), hrest]
      change (Watch.ingress ingressFilter).Conduct poll s.now (outward (_ ++ [])) found
      rwa [List.append_nil]
  · rw [← hunion]
    cases ht : tolerate .ingressEndpoints (found.bind fun i => ofIngress i relativePath) with
    | error e =>
      rw [ht] at hrest
      rw [runIn_bind_error (congrArg Run.result hrest)]
      rfl
    | ok rest =>
      rw [ht] at hrest
      rw [runIn_bind_ok (congrArg Run.result hrest)]
      rfl

/-- The endpoints of the service come first, those of the ingress last. -/
theorem resolve_union (serviceFilter ingressFilter relativePath : String) {poll : PollOptions}
    (spaced : 0 < poll.interval) (world : Surroundings σ) (s : Scene σ)
    (uncancelled : ((resolve serviceFilter ingressFilter relativePath poll).runIn world
      s).scene.isCancelled = false) :
    let r := (resolve serviceFilter ingressFilter relativePath poll).runIn world s
    ∃ services ingresses served, outward r.steps = services ++ ingresses ∧
      (Watch.service serviceFilter).Conduct poll s.now services served ∧
      ((∃ endpoints, r.result = .ok endpoints) ↔
        (served = .error (.resourceNotFound .service) ∨ ∃ service, served = .ok service) ∧
          ∃ start found, (Watch.ingress ingressFilter).Conduct poll start ingresses found ∧
            (found = .error (.resourceNotFound .ingress) ∨
              ∃ ingress built, found = .ok ingress ∧ ofIngress ingress relativePath = .ok built)) ∧
      match fromService served with
      | .error e => ingresses = [] ∧ r.result = .error e
      | .ok first => ∃ start found, (∀ step ∈ services, step.finish ≤ start) ∧
          (Watch.ingress ingressFilter).Conduct poll start ingresses found ∧
          r.result = (fromIngress relativePath found).map (first ++ ·) ∧
          ∀ rest, fromIngress relativePath found = .ok rest → rest ≠ [] →
            ∃ last ∈ (first ++ rest).getLast?, last.source = .ingress := by
  intro r
  have huncancelled := not_cancelled_of_unlessNotFound (not_cancelled_of_wrap
    (not_cancelled_of_bind uncancelled))
  obtain ⟨served, hservice, hserved⟩ := awaitService_run serviceFilter spaced huncancelled
  have hfinish : ∀ step ∈ ((awaitService serviceFilter poll).runIn world s).steps,
      step.finish ≤ ((awaitService serviceFilter poll).runIn world s).scene.now :=
    Flow.finish_le_run _ s
  have hfirst := runIn_tolerate .serviceEndpoints (awaitService serviceFilter poll) world s
  rw [hserved] at hfirst
  have hunion := tolerate_service served
  cases ht : tolerate .serviceEndpoints (served.bind fun a => .ok (ofService a)) with
  | error e =>
    rw [ht] at hfirst hunion
    have hr : r = _ := runIn_bind_error (congrArg Run.result hfirst)
    rw [hfirst] at hr
    refine ⟨_, [], served, ?_, hservice, ?_, ?_⟩
    · rw [hr, List.append_nil]
    · rw [← fromService_ok_iff hservice, ← hunion, hr]
      refine iff_of_false ?_ ?_
      · rintro ⟨endpoints, hok⟩
        cases hok
      · rintro ⟨⟨first, hok⟩, _⟩
        cases hok
    · rw [← hunion]
      exact ⟨rfl, by rw [hr]⟩
  | ok first =>
    rw [ht] at hfirst hunion
    have hr : r = _ := runIn_bind_ok (congrArg Run.result hfirst)
    rw [hfirst] at hr
    have hsteps := (congrArg (fun r => outward r.steps) hr).trans (outward_append _ _)
    have hscene := congrArg (fun r => r.scene.isCancelled) hr
    obtain ⟨found, hingress, hfound⟩ := ingress_after ingressFilter relativePath (first.getD [])
      spaced rfl (hscene.symm.trans uncancelled)
    have hresult : r.result = _ := (congrArg Run.result hr).trans hfound
    refine ⟨_, _, served, hsteps, hservice, ?_, ?_⟩
    · rw [← fromService_ok_iff hservice, ← hunion, union_ok_iff hingress hresult]
      exact (and_iff_right ⟨_, rfl⟩).symm
    rw [← hunion]
    refine ⟨_, found, fun step hstep => ?_, hingress, hresult, fun rest hrest hne => ?_⟩
    · exact hfinish step (List.mem_filter.mp hstep).1
    · have hsource := fromIngress_source hrest _ (List.getLast_mem hne)
      refine ⟨rest.getLast hne, ?_, hsource⟩
      rw [List.getLast?_append, List.getLast?_eq_some_getLast hne]
      rfl

def absentRun : Run (Session ProgressChannel Script) (Except Error (List Endpoint)) :=
  (resolve "api" "api" "v1" (.every 5 10)).runIn Script.surroundings (Script.scene ⟨[]⟩)

/-- Where neither ever appears, the second wait begins anew when the first one is over. -/
theorem resolve_union_absent :
    absentRun.scene.isCancelled = false ∧ absentRun.result = .ok [] ∧
      (outward absentRun.steps).map Step.start = [0, 5, 10, 10, 15, 20] ∧
      ∃ services ingresses served, outward absentRun.steps = services ++ ingresses ∧
        (Watch.service "api").Conduct (.every 5 10) 0 services served ∧
        (served = .error (.resourceNotFound .service) ∨ ∃ service, served = .ok service) ∧
        ∃ start found, (Watch.ingress "api").Conduct (.every 5 10) start ingresses found ∧
          (found = .error (.resourceNotFound .ingress) ∨
            ∃ ingress built, found = .ok ingress ∧ ofIngress ingress "v1" = .ok built) := by
  have uncancelled : absentRun.scene.isCancelled = false := by decide +kernel
  have hresult : absentRun.result = .ok [] := by rfl
  refine ⟨uncancelled, hresult, by decide +kernel, ?_⟩
  obtain ⟨services, ingresses, served, hsteps, hservice, hok, -⟩ :=
    resolve_union _ _ _ (by decide) _ _ uncancelled
  exact ⟨services, ingresses, served, hsteps, hservice, hok.mp ⟨[], hresult⟩⟩

end ClusterDeploy.Endpoint
