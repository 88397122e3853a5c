import ClusterDeploy.Proofs.Deploy.Record
import ClusterDeploy.Proofs.Waiting.Budget
/-!
# Rollouts

A rollout is verified when a listing shows a deployment settled and the cluster then confirms it by
name. A deploy does without a rollout only when none of its listings showed a deployment of the name
that it looks for.
-/
namespace ClusterDeploy

open Attempt

theorem Text.hasInfix_iff {part cs : List Char} : hasInfix part cs = true ↔ part <:+: cs := by
  induction cs with
  | nil => simp [hasInfix]
  | cons c rest ih =>
    rw [hasInfix, Bool.or_eq_true, List.isPrefixOf_iff_prefix, ih, List.infix_cons_iff]

namespace Deployment

variable {filter : String} {d : Deployment}

def Named (filter : String) (d : Deployment) : Prop := filter.toList <:+: d.name.toList

def Settled (d : Deployment) : Prop := d.available.getD 0 = d.desired.getD 0

def ofEntry? : Except Error Json → Option Deployment
  | .error _ => none
  | .ok item => ofJson? item

theorem nameContains_iff : nameContains filter d.name = true ↔ d.Named filter := Text.hasInfix_iff

theorem isRolledOut_iff : d.isRolledOut = true ↔ d.Settled := beq_iff_eq

instance : Decidable (d.Named filter) := decidable_of_iff _ nameContains_iff

instance : Decidable d.Settled := decidable_of_iff _ isRolledOut_iff

end Deployment

/-! ## What the steps show -/

def deploymentsIn (steps : List Step) : List Deployment :=
  (stream (listingsOf .deployment steps)).filterMap Deployment.ofEntry?

def Call.confirmed? : Call → Option String
  | .request (.rolloutStatus deployment) => some deployment
  | _ => none

def confirmations (steps : List Step) : List String := steps.filterMap (·.call.confirmed?)

def Call.ListsNoDeployments (c : Call) : Prop := c.listed? ≠ some .deployment

section Steps

variable {a b steps : List Step}

theorem deploymentsIn_append : deploymentsIn (a ++ b) = deploymentsIn a ++ deploymentsIn b := by
  simp only [deploymentsIn, listingsOf_append, stream, List.flatMap_append, List.filterMap_append]

theorem deploymentsIn_eq_nil (h : ∀ step ∈ steps, step.call.ListsNoDeployments) :
    deploymentsIn steps = [] := by
  rw [deploymentsIn, listingsOf_eq_nil h]
  rfl

theorem deploymentsIn_of_lists (h : ∀ step ∈ steps, step.call = .request (.list .deployment)) :
    deploymentsIn steps = (stream steps).filterMap Deployment.ofEntry? := by
  rw [deploymentsIn, listingsOf_eq_self h]

theorem deploymentsIn_outward : deploymentsIn (outward steps) = deploymentsIn steps := by
  have hlistings : listingsOf .deployment (outward steps) = listingsOf .deployment steps := by
    unfold listingsOf outward
    rw [List.filter_filter]
    refine List.filter_congr fun step _ => ?_
    obtain ⟨call, answer, start, finish⟩ := step
    cases call <;> simp [Step.listed?, Call.listed?, Call.isOutward]
  rw [deploymentsIn, hlistings, deploymentsIn]

theorem confirmations_of_lists (h : ∀ step ∈ steps, step.call = .request (.list .deployment)) :
    confirmations steps = [] := by
  refine List.filterMap_eq_nil_iff.mpr fun step hstep => ?_
  rw [h step hstep]
  rfl

theorem confirmations_asked (h : ∀ step ∈ steps, step.call = .request (.list .deployment))
    (name : String) (answer : Except Error CommandOutput) (start finish : Nat) :
    confirmations (steps ++ [⟨.request (.rolloutStatus name), answer, start, finish⟩]) =
      [name] := by
  rw [confirmations, List.filterMap_append, ← confirmations, confirmations_of_lists h]
  rfl

end Steps

namespace Watch

variable {w : Watch α} {poll : PollOptions} {begun : Nat} {made : List Step}

/-- What a wait gives was shown by its last listing, and nothing before it settles the wait. -/
theorem Conduct.found {a : α} (h : w.Conduct poll begun made (.ok a)) :
    ∃ earlier front item back start finish,
      made = earlier ++ [⟨.request (.list w.kind), .ok (front ++ item :: back), start, finish⟩] ∧
      w.decode item = some a ∧ (∀ entry ∈ stream earlier, w.settles entry = none) ∧
      ∀ other ∈ front, w.settles (.ok other) = none := by
  have hfind := settled_of_verdict h.outcome.symm
  have hundecided := h.undecided
  rcases List.eq_nil_or_concat' made with rfl | ⟨earlier, step, rfl⟩
  · cases h.prompt
  obtain ⟨call, answer, start, finish⟩ := step
  obtain rfl : call = .request (.list w.kind) :=
    h.lists _ (List.mem_append_right _ List.mem_cons_self)
  rw [List.dropLast_concat] at hundecided
  -- the earlier listings settle nothing, so the last one does
  have hquiet : (earlier.flatMap Step.entries).findSome? w.settles = none :=
    List.findSome?_eq_none_iff.mpr hundecided
  rw [stream, List.flatMap_append, List.findSome?_append, hquiet, Option.none_or,
    List.flatMap_singleton] at hfind
  cases answer with
  | error e => cases hfind
  | ok items =>
    simp only [Step.entries, List.findSome?_map] at hfind
    obtain ⟨front, item, back, rfl, hitem, hfront⟩ := List.findSome?_eq_some_iff.mp hfind
    have hdecoded := (settles_item_iff.mp hitem).1
    exact ⟨earlier, front, item, back, start, finish, rfl, hdecoded, hundecided, hfront⟩

/-- What a search for a deployment gives was shown, settled and under its name. -/
theorem Conduct.rolledOut {filter : String} {d : Deployment}
    (h : (rollout filter).Conduct poll begun made (.ok d)) :
    d ∈ deploymentsIn made ∧ d.Named filter ∧ d.Settled := by
  obtain ⟨item, hmem, hdecoded, hnamed, hsettled⟩ := taken_of_verdict h.outcome.symm
  rw [deploymentsIn_of_lists h.lists]
  exact ⟨List.mem_filterMap.mpr ⟨.ok item, hmem, hdecoded⟩,
    Deployment.nameContains_iff.mp hnamed, Deployment.isRolledOut_iff.mp hsettled⟩

/-- A wait that finds nothing has not accepted anything either. -/
theorem Conduct.unaccepted {e : Error} (h : w.Conduct poll begun made (.error e))
    (absent : e.isNotFound = true) : ∀ entry ∈ stream made, w.accepted? entry = none := by
  rcases h.error_cases with ⟨last, rfl⟩ | ⟨-, hpresent⟩
  · cases last with
    | some name => cases absent
    | none => exact fun entry hentry => (verdict_eq_notFound_iff.mp h.outcome.symm entry hentry).2
  · cases absent.symm.trans hpresent

variable {filter : String} {entry : Except Error Json} {d : Deployment}

theorem not_settled_of_rollout (h : (rollout filter).settles entry = none)
    (shown : Deployment.ofEntry? entry = some d) : ¬ (d.Named filter ∧ d.Settled) := by
  rintro ⟨hnamed, hsettled⟩
  cases entry with
  | error e => cases shown
  | ok item =>
    have hready : (rollout filter).settles (.ok item) = some (.ok d) :=
      settles_item_iff.mpr ⟨shown, Deployment.nameContains_iff.mpr hnamed,
        Deployment.isRolledOut_iff.mpr hsettled⟩
    cases h.symm.trans hready

theorem not_named_of_rollout (h : (rollout filter).accepted? entry = none)
    (shown : Deployment.ofEntry? entry = some d) : ¬ d.Named filter := by
  intro hnamed
  cases entry with
  | error e => cases shown
  | ok item =>
    have haccepted : (rollout filter).accepted? (.ok item) = some d :=
      Option.filter_eq_some_iff.mpr ⟨shown, Deployment.nameContains_iff.mpr hnamed⟩
    cases h.symm.trans haccepted

end Watch

/-! ## One rollout -/

structure Confirmed (filter : String) (d : Deployment) (steps : List Step) : Prop where
  named : d.Named filter
  settled : d.Settled
  once : confirmations steps = [d.name]
  /-- The deployment is an item of the last listing, and no item before it could have been taken. -/
  shown : ∃ earlier front item back start finish output asked answered,
    steps = earlier ++ [
      ⟨.request (.list .deployment), .ok (front ++ item :: back), start, finish⟩,
      ⟨.request (.rolloutStatus d.name), .ok output, asked, answered⟩] ∧
    (∀ step ∈ earlier, step.call = .request (.list .deployment)) ∧
    Deployment.ofJson? item = some d ∧
    ∀ other ∈ deploymentsIn earlier ++ front.filterMap Deployment.ofJson?,
      ¬ (other.Named filter ∧ other.Settled)

/-- The run of a rollout, compared with that of its search for a deployment alone. -/
structure Verified (filter : String) (search r : Run σ (Except Error Deployment)) : Prop where
  missed : ∀ e, search.result = .error e →
    r.result = .error e ∧ r.steps = search.steps ∧ confirmations r.steps = []
  /-- What the search finds is confirmed once, whatever the answer to that is. -/
  asked : ∀ d, search.result = .ok d → ∃ answer start finish,
    r.steps = search.steps ++ [⟨.request (.rolloutStatus d.name), answer, start, finish⟩] ∧
      confirmations r.steps = [d.name] ∧ r.result = answer.map fun _ => d
  refused : ∀ name e start finish,
    ⟨.request (.rolloutStatus name), .error e, start, finish⟩ ∈ r.steps →
      r.result = .error e ∧ confirmations r.steps = [name]
  confirmed : ∀ d, r.result = .ok d → Confirmed filter d r.steps

variable {σ : Type} {world : Surroundings σ} {s : Scene σ} {poll : PollOptions} {filter : String}

theorem rollOut_of_found {d : Deployment}
    (h : (((Watch.rollout filter).wait poll).runIn world s).result = .ok d) :
    ∃ answer start finish,
      ((rollOut filter poll).runIn world s).steps =
        (((Watch.rollout filter).wait poll).runIn world s).steps ++
          [⟨.request (.rolloutStatus d.name), answer, start, finish⟩] ∧
      ((rollOut filter poll).runIn world s).result = answer.map fun _ => d := by
  rw [rollOut, runIn_bind_ok h, runIn_bind_pure]
  exact ⟨_, _, _, rfl, rfl⟩

theorem Watch.Conduct.confirmed {begun : Nat} {made : List Step} {d : Deployment}
    (h : (Watch.rollout filter).Conduct poll begun made (.ok d)) (output : CommandOutput)
    (start finish : Nat) :
    Confirmed filter d
      (made ++ [⟨.request (.rolloutStatus d.name), .ok output, start, finish⟩]) := by
  have hlists := h.lists
  have honce := confirmations_asked h.lists d.name (.ok output) start finish
  obtain ⟨-, hnamed, hsettled⟩ := h.rolledOut
  obtain ⟨earlier, front, item, back, listed, ready, rfl, hitem, hbefore, hfront⟩ := h.found
  have hearlier : ∀ step ∈ earlier, step.call = .request (.list .deployment) :=
    fun step hstep => hlists step (List.mem_append_left _ hstep)
  refine ⟨hnamed, hsettled, honce, earlier, front, item, back, listed, ready, output, start,
    finish, ?_, hearlier, hitem, ?_⟩
  · exact List.append_assoc ..
  · intro other hother
    rw [deploymentsIn_of_lists hearlier] at hother
    rcases List.mem_append.mp hother with hother | hother
    · obtain ⟨entry, hentry, hshown⟩ := List.mem_filterMap.mp hother
      exact Watch.not_settled_of_rollout (hbefore entry hentry) hshown
    · obtain ⟨item, hmem, hshown⟩ := List.mem_filterMap.mp hother
      exact Watch.not_settled_of_rollout (hfront item hmem) hshown

namespace Verified

variable {search r : Run σ (Except Error Deployment)} {begun : Nat}

theorem of_missed {e : Error} (failed : search.result = .error e) (steps : r.steps = search.steps)
    (result : r.result = .error e)
    (lists : ∀ step ∈ search.steps, step.call = .request (.list .deployment)) :
    Verified filter search r where
  missed := by
    intro e' he
    cases failed.symm.trans he
    exact ⟨result, steps, by rw [steps, confirmations_of_lists lists]⟩
  asked := by
    intro d hd
    cases failed.symm.trans hd
  refused := by
    intro name e' start finish hstep
    rw [steps] at hstep
    cases lists _ hstep
  confirmed := by
    intro d hd
    cases result.symm.trans hd

theorem of_found {d : Deployment} {answer : Except Error CommandOutput} {start finish : Nat}
    (h : (Watch.rollout filter).Conduct poll begun search.steps search.result)
    (found : search.result = .ok d)
    (steps : r.steps =
      search.steps ++ [⟨.request (.rolloutStatus d.name), answer, start, finish⟩])
    (result : r.result = answer.map fun _ => d) : Verified filter search r := by
  have honce : confirmations r.steps = [d.name] := by
    rw [steps, confirmations_asked h.lists]
  constructor
  case missed =>
    intro e he
    cases found.symm.trans he
  case asked =>
    intro d' hd
    cases found.symm.trans hd
    exact ⟨answer, start, finish, steps, honce, result⟩
  case refused =>
    intro name e start' finish' hstep
    rw [steps] at hstep
    rcases List.mem_append.mp hstep with hstep | hstep
    · cases h.lists _ hstep
    · cases List.mem_singleton.mp hstep
      exact ⟨result, honce⟩
  case confirmed =>
    intro d' hd
    rw [result] at hd
    cases answer with
    | error e => cases hd
    | ok output =>
      cases hd
      rw [found] at h
      rw [steps]
      exact h.confirmed output start finish

end Verified

theorem rollOut_verifies (filter : String) (spaced : 0 < poll.interval)
    (uncancelled : ((rollOut filter poll).runIn world s).scene.isCancelled = false) :
    Verified filter (((Watch.rollout filter).wait poll).runIn world s)
      ((rollOut filter poll).runIn world s) := by
  have hconduct := Watch.wait_conduct spaced (not_cancelled_of_bind uncancelled)
  cases hsearch : (((Watch.rollout filter).wait poll).runIn world s).result with
  | error e =>
    have hrun : (rollOut filter poll).runIn world s = _ := runIn_bind_error hsearch
    exact .of_missed hsearch (by rw [hrun]) (by rw [hrun]) hconduct.lists
  | ok d =>
    obtain ⟨answer, start, finish, hsteps, hresult⟩ := rollOut_of_found hsearch
    exact .of_found hconduct hsearch hsteps hresult

/-! ## The rollout of a deploy -/

/-- Whoever confirms rollouts never says that there is nothing to be found. -/
def SparesAbsence (world : Surroundings σ) : Prop :=
  ∀ name state e, (world (.request (.rolloutStatus name)) state).answer = .error e →
    e.isNotFound = false

theorem Toolbox.respond_sparesAbsence (observer : Observer π) (store : KubeconfigStore) :
    SparesAbsence (Session.respond Toolbox.outside observer store) := by
  intro name state e h
  cases ofTool_of_rolloutStatus h <;> rfl

namespace Deploy

open Stage

/-- What a deploy makes of the deployments that its listings showed. -/
structure Accounts (filter : String) (r : Run σ (Except Error DeployResult)) : Prop where
  absent : ∀ result, r.result = .ok result →
    (result.details = none ↔ ∀ d ∈ deploymentsIn r.steps, ¬ d.Named filter)
  present : ∀ result d, r.result = .ok result → result.details = some d →
    d ∈ deploymentsIn r.steps ∧ d.Named filter ∧ d.Settled
  unsettled : (∃ d ∈ deploymentsIn r.steps, d.Named filter) →
    (∀ d ∈ deploymentsIn r.steps, d.Named filter → ¬ d.Settled) → ∃ e, r.result = .error e

def stagesBefore (service : ServiceConfig) (package : Option ServicePackage)
    (target : TargetResource) (c : Carried) : List Stage :=
  [check target.validate (),
    check (packageOf package) c.package,
    (answered (.request (.push service.name c.package target.name)) id ()).wrapped
      (.containerDeploy service.name)] ++
    applyStages service c ++ [told (.report "Verifying deployment") ()]

def stagesAfter (service : ServiceConfig) (poll : PollOptions) (c : Carried) : List Stage :=
  told (.report "Fetching endpoints for AKS service") () ::
    (endpointStages service poll c ++ recordStages service c.lines)

theorem sequence_eq (service : ServiceConfig) (package : Option ServicePackage)
    (target : TargetResource) (poll : PollOptions) (c : Carried) :
    sequence service package target poll c =
      stagesBefore service package target c ++
        optional (rolloutStages service.deploymentName poll) id c.details ::
          stagesAfter service poll c :=
  rfl

theorem calls_awaited {p : Call → Prop} {w : Watch α} {value : α}
    (h : p (.request (.list w.kind))) : (awaited w poll value).Calls p := by
  rintro made fault ⟨start, hconduct⟩ step hstep
  rwa [hconduct.lists step hstep]

theorem stagesBefore_calls (service : ServiceConfig) (package : Option ServicePackage)
    (target : TargetResource) (c : Carried) :
    ∀ stage ∈ stagesBefore service package target c, stage.Calls Call.ListsNoDeployments := by
  intro stage hstage
  simp only [stagesBefore, applyStages, List.cons_append, List.nil_append, List.mem_cons,
    List.not_mem_nil, or_false] at hstage
  rcases hstage with rfl | rfl | rfl | rfl | rfl | rfl | rfl | rfl
  · exact calls_check _ _
  · exact calls_check _ _
  · exact calls_wrapped (calls_answered _ _ nofun)
  · exact calls_answered _ _ nofun
  · exact calls_answered _ _ nofun
  · exact calls_answered _ _ nofun
  · exact calls_wrapped (calls_performed _ nofun)
  · exact calls_answered _ _ nofun

theorem stagesAfter_calls (service : ServiceConfig) (c : Carried) :
    ∀ stage ∈ stagesAfter service poll c, stage.Calls Call.ListsNoDeployments := by
  intro stage hstage
  rcases List.mem_cons.mp hstage with rfl | hstage
  · exact calls_answered _ _ nofun
  rcases List.mem_append.mp hstage with hstage | hstage
  · simp only [endpointStages, List.mem_cons, List.not_mem_nil, or_false] at hstage
    rcases hstage with rfl | rfl
    · refine calls_wrapped (calls_optional fun found stage hstage => ?_)
      rw [List.mem_singleton.mp hstage]
      exact calls_awaited nofun
    · refine calls_wrapped (calls_optional fun found stage hstage => ?_)
      simp only [ingressStages, List.mem_cons, List.not_mem_nil, or_false] at hstage
      rcases hstage with rfl | rfl
      · exact calls_awaited nofun
      · exact calls_check _ _
  · unfold recordStages at hstage
    split at hstage
    · cases hstage
    · simp only [List.mem_cons, List.not_mem_nil, or_false] at hstage
      rcases hstage with rfl | rfl
      · exact calls_answered _ _ nofun
      · exact calls_wrapped (calls_answered _ _ nofun)

/-- Where a refused confirmation is not an absence, only a search without a match is one. -/
theorem rollout_cases {made : List Step} {details : Option Deployment}
    (h : optional (rolloutStages filter poll) id details made none)
    (spares : ∀ name e start finish,
      ⟨.request (.rolloutStatus name), .error e, start, finish⟩ ∈ made → e.isNotFound = false) :
    (details = none ∧ ∀ d ∈ deploymentsIn made, ¬ d.Named filter) ∨
      ∃ d ∈ deploymentsIn made, details = some d ∧ d.Named filter ∧ d.Settled := by
  obtain ⟨d, inside, hinner, houtcome⟩ := h
  cases inside with
  | none =>
    obtain ⟨rfl, -⟩ := houtcome
    obtain ⟨searched, rest, rfl, ⟨begun, hconduct⟩, -⟩ := FailStop.of_cons hinner
    obtain ⟨hshown, hnamed, hsettled⟩ := hconduct.rolledOut
    refine .inr ⟨d, ?_, rfl, hnamed, hsettled⟩
    rw [deploymentsIn_append]
    exact List.mem_append_left _ hshown
  | some e =>
    cases habsent : e.isNotFound with
    | false => simp [habsent] at houtcome
    | true =>
      simp only [habsent, if_true] at houtcome
      obtain ⟨rfl, -⟩ := houtcome
      cases hinner with
      | stop hsearch =>
        obtain ⟨begun, hconduct⟩ := hsearch
        refine .inl ⟨rfl, fun d hd => ?_⟩
        rw [deploymentsIn_of_lists hconduct.lists] at hd
        obtain ⟨entry, hentry, hshown⟩ := List.mem_filterMap.mp hd
        exact Watch.not_named_of_rollout (hconduct.unaccepted habsent entry hentry) hshown
      | next hsearch hrest =>
        obtain ⟨output, answer, start, finish, rfl, hanswer⟩ := hrest.of_single
        obtain rfl : answer = .error e := hanswer
        have hpresent := spares _ e start finish (List.mem_append_right _ List.mem_cons_self)
        cases habsent.symm.trans hpresent

theorem run_rollout_cases (service : ServiceConfig) (package : Option ServicePackage)
    (target : TargetResource) (spaced : 0 < poll.interval) (spares : SparesAbsence world)
    (uncancelled : ((run service package target poll).runIn world s).scene.isCancelled = false)
    {result : DeployResult}
    (succeeded : ((run service package target poll).runIn world s).result = .ok result) :
    let shown := deploymentsIn ((run service package target poll).runIn world s).steps
    (result.details = none ∧ ∀ d ∈ shown, ¬ d.Named service.deploymentName) ∨
      ∃ d ∈ shown, result.details = some d ∧ d.Named service.deploymentName ∧ d.Settled := by
  obtain ⟨c, fault, hstages, hresult⟩ := run_passes service package target spaced uncancelled
  rw [succeeded] at hresult
  cases fault with
  | some e => cases hresult
  | none =>
    cases hresult
    rw [sequence_eq] at hstages
    obtain ⟨first, middle, last, hmade, hfirst, hmiddle, hlast⟩ :=
      hstages.of_middle (stagesBefore_calls service package target c) (stagesAfter_calls service c)
    have hshown : deploymentsIn ((run service package target poll).runIn world s).steps =
        deploymentsIn middle := by
      rw [← deploymentsIn_outward, hmade, deploymentsIn_append, deploymentsIn_append,
        deploymentsIn_eq_nil hfirst, deploymentsIn_eq_nil hlast, List.nil_append, List.append_nil]
    have hmem : ∀ step ∈ middle,
        step ∈ ((run service package target poll).runIn world s).steps := by
      intro step hstep
      refine List.mem_of_mem_filter (p := (·.call.isOutward)) ?_
      rw [← outward, hmade]
      exact List.mem_append_left _ (List.mem_append_right _ hstep)
    dsimp only
    rw [hshown]
    refine rollout_cases hmiddle fun name e start finish hstep => ?_
    obtain ⟨state, hanswer⟩ := Flow.answer_of_run _ _ _ (hmem _ hstep)
    exact spares name state e hanswer.symm

theorem run_accounts (service : ServiceConfig) (package : Option ServicePackage)
    (target : TargetResource) (spaced : 0 < poll.interval) (spares : SparesAbsence world)
    (uncancelled : ((run service package target poll).runIn world s).scene.isCancelled = false) :
    Accounts service.deploymentName ((run service package target poll).runIn world s) := by
  have hcases {result : DeployResult}
      (hok : ((run service package target poll).runIn world s).result = .ok result) :=
    run_rollout_cases service package target spaced spares uncancelled hok
  constructor
  case absent =>
    intro result hok
    rcases hcases hok with ⟨hnone, hunnamed⟩ | ⟨d, hd, hsome, hnamed, -⟩
    · exact iff_of_true hnone hunnamed
    · refine iff_of_false ?_ fun hunnamed => hunnamed d hd hnamed
      rw [hsome]
      nofun
  case present =>
    intro result d hok hsome
    rcases hcases hok with ⟨hnone, -⟩ | ⟨d', hd, hsome', hnamed, hsettled⟩
    · cases hnone.symm.trans hsome
    · cases hsome'.symm.trans hsome
      exact ⟨hd, hnamed, hsettled⟩
  case unsettled =>
    rintro ⟨d, hd, hnamed⟩ hunsettled
    cases hok : ((run service package target poll).runIn world s).result with
    | error e => exact ⟨e, rfl⟩
    | ok result =>
      rcases hcases hok with ⟨-, hunnamed⟩ | ⟨d', hd', -, hnamed', hsettled⟩
      · exact absurd hnamed (hunnamed d hd)
      · exact absurd hsettled (hunsettled d' hd' hnamed')

/-- A rollout that succeeds has its deployment from the last listing, settled and confirmed by name,
and nothing before it could have been taken; every failure is that of the search or that of the
confirmation. So a deploy goes without a rollout exactly when no listing showed a deployment of the
name, and does not succeed when one was shown but none of them settled, as long as the confirmation
does not claim that there is nothing to be found. Real tools never do. -/
theorem rollOut_verified (filter : String) {poll : PollOptions} (spaced : 0 < poll.interval)
    (world : Surroundings σ) (s : Scene σ) :
    (let search := ((Watch.rollout filter).wait poll).runIn world s
     let r := (rollOut filter poll).runIn world s
     r.scene.isCancelled = false → Verified filter search r) ∧
    (SparesAbsence world → ∀ service package target,
      let r := (run service package target poll).runIn world s
      r.scene.isCancelled = false → Accounts service.deploymentName r) ∧
    (∀ files name t e, (Toolbox.outside files (.rolloutStatus name) t).answer = .error e →
      e.OfTool) ∧
    ∀ {π : Type} (observer : Observer π) (store : KubeconfigStore),
      SparesAbsence (Session.respond Toolbox.outside observer store) := by
  refine ⟨?_, ?_, ?_, ?_⟩
  · intro search r uncancelled
    exact rollOut_verifies filter spaced uncancelled
  · intro spares service package target r uncancelled
    exact run_accounts service package target spaced spares uncancelled
  · intro files name t e h
    exact Toolbox.ofTool_of_rolloutStatus h
  · exact Toolbox.respond_sparesAbsence

def scaled (name : String) (available desired : Nat) : Json :=
  .obj [("metadata", .obj [("name", .str name)]),
    ("spec", .obj [("replicas", .ofNat desired), ("selector", .obj []), ("template", .obj [])]),
    ("status", .obj [("availableReplicas", .ofNat available)])]

/-- A cluster that counts its listings of deployments. The one that is waited for has too many
replicas at first, then it is gone, and then it is settled. -/
def rolling : Outside Nat := fun files r n =>
  match r with
  | .list .deployment =>
    { answer := .ok (match n with
        | 0 => [scaled "api-v2" 2 1]
        | 1 => []
        | _ => [scaled "web" 1 1, scaled "api-v2" 1 1])
      after := n + 1 }
  | r => { answer := (exposed files r ()).answer, after := n }

def rollingWorld : Surroundings (Session ProgressChannel Nat) :=
  Session.respond rolling ProgressChannel.observer ⟨"config"⟩

def rollingScene : Scene (Session ProgressChannel Nat) where
  state := {
    files := {}
    environment := ⟨".env", .empty⟩
    watcher := .ofCapacity 16
    outside := 0 }

def rolledOut : Run (Session ProgressChannel Nat) (Except Error Deployment) :=
  (rollOut "api" (.every 5 20)).runIn rollingWorld rollingScene

def rolledDeploy : Run (Session ProgressChannel Nat) (Except Error DeployResult) :=
  (run { name := "api" } (some ⟨"api:1", none⟩) ⟨"s", "g", "c"⟩ (.every 5 20)).runIn rollingWorld
    rollingScene

theorem rollOut_verified_rolling :
    SparesAbsence rollingWorld ∧
      (rolledOut.scene.isCancelled = false ∧
        ∃ d, rolledOut.result = .ok d ∧ Confirmed "api" d rolledOut.steps ∧
          confirmations rolledOut.steps = ["api-v2"] ∧
          (deploymentsIn rolledOut.steps).map Deployment.name = ["api-v2", "web", "api-v2"]) ∧
      rolledDeploy.scene.isCancelled = false ∧
        ∃ result, rolledDeploy.result = .ok result ∧ result.details ≠ none := by
  have spares : SparesAbsence rollingWorld := fun _ _ _ => nofun
  have spaced : 0 < (PollOptions.every 5 20).interval := by decide
  have hrolled : rolledOut.scene.isCancelled = false := by decide +kernel
  have hdeployed : rolledDeploy.scene.isCancelled = false := by decide +kernel
  have hfound : ∃ d, rolledOut.result = .ok d := ⟨_, by rfl⟩
  have hok : ∃ result, rolledDeploy.result = .ok result := ⟨_, by rfl⟩
  have hshown : (deploymentsIn rolledDeploy.steps).any (fun d => d.Named "api") = true := by
    decide +kernel
  obtain ⟨hverified, haccounts, -⟩ := rollOut_verified "api" spaced rollingWorld rollingScene
  obtain ⟨d, hd⟩ := hfound
  obtain ⟨result, hresult⟩ := hok
  refine ⟨spares, ⟨hrolled, d, hd, (hverified hrolled).confirmed d hd, ?_, ?_⟩, hdeployed, result,
    hresult, ?_⟩
  · decide +kernel
  · decide +kernel
  · intro hnone
    have hunnamed := ((haccounts spares _ _ _ hdeployed).absent result hresult).mp hnone
    obtain ⟨d, hmem, hnamed⟩ := List.any_eq_true.mp hshown
    exact hunnamed d hmem (of_decide_eq_true hnamed)

end Deploy

end ClusterDeploy
