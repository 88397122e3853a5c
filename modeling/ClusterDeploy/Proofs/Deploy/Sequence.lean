import ClusterDeploy.Deploy
import ClusterDeploy.Flow.Script
import ClusterDeploy.Proofs.Flow.Labels
import ClusterDeploy.Proofs.Waiting.Outcome
/-!
# The sequence of a deploy

A deploy with an interval between its listings that nobody cancels goes through one fixed sequence
of effects and labels, and stops at the first failure. Only where it waits does the failure to find
a resource count as its absence.
-/
namespace ClusterDeploy.Deploy

open Attempt
open Stage

structure Carried where
  package : ServicePackage
  values : Environment
  details : Option Deployment
  fromService : Option (List Endpoint)
  fromIngress : Option (List Endpoint)
  deriving Inhabited

def Carried.lines (c : Carried) : List String :=
  (c.fromService.getD [] ++ c.fromIngress.getD []).map Endpoint.text

def awaited (w : Watch α) (poll : PollOptions) (value : α) : Stage := fun made fault =>
  ∃ start, w.Conduct poll start made (ended value fault)

def rolloutStages (filter : String) (poll : PollOptions) (d : Deployment) : List Stage :=
  [awaited (Watch.rollout filter) poll d, performed (.request (.rolloutStatus d.name)) id]

def ingressStages (filter relativePath : String) (poll : PollOptions)
    (found : Ingress × List Endpoint) : List Stage :=
  [awaited (Watch.ingress filter) poll found.1,
    check (Endpoint.ofIngress found.1 relativePath) found.2]

def endpointStages (service : ServiceConfig) (poll : PollOptions) (c : Carried) : List Stage :=
  [(optional (fun s => [awaited (Watch.service service.serviceName) poll s]) Endpoint.ofService
      c.fromService).wrapped .serviceEndpoints,
    (optional (ingressStages service.ingressName service.ingressPath poll) Prod.snd
      c.fromIngress).wrapped .ingressEndpoints]

def applyStages (service : ServiceConfig) (c : Carried) : List Stage :=
  [told .environmentValues c.values,
    told (.request (.setEnvironment c.values)) (),
    told (.report "Applying k8s manifests") (),
    (performed (.request (.apply service.manifests)) id).wrapped
      (.applyManifests service.manifests)]

def verifyStages (service : ServiceConfig) (poll : PollOptions) (c : Carried) : List Stage :=
  [told (.report "Verifying deployment") (),
    optional (rolloutStages service.deploymentName poll) id c.details,
    told (.report "Fetching endpoints for AKS service") ()] ++
    endpointStages service poll c

def recordStages (service : ServiceConfig) (lines : List String) : List Stage :=
  match lines.getLast? with
  | none => []
  | some line =>
    [told (.setProperty service.name Environment.endpointProperty (Endpoint.urlOf line)) (),
      (answered .saveEnvironment id ()).wrapped .saveEndpoint]

def sequence (service : ServiceConfig) (package : Option ServicePackage) (target : TargetResource)
    (poll : PollOptions) (c : Carried) : List Stage :=
  [check target.validate (),
    check (packageOf package) c.package,
    (answered (.request (.push service.name c.package target.name)) id ()).wrapped
      (.containerDeploy service.name)] ++
    applyStages service c ++ verifyStages service poll c ++ recordStages service c.lines

variable {world : Surroundings σ} {s : Scene σ} {poll : PollOptions}

theorem outward_of_lists {kind : ResourceKind} {steps : List Step}
    (h : ∀ step ∈ steps, step.call = .request (.list kind)) : outward steps = steps := by
  apply List.filter_eq_self.mpr
  intro step hstep
  simp [Call.isOutward, h step hstep]

theorem wait_passes [Inhabited α] (w : Watch α) (spaced : 0 < poll.interval)
    (uncancelled : ((w.wait poll).runIn world s).scene.isCancelled = false) :
    ∃ value, ((w.wait poll).runIn world s).Passes [awaited w poll value] value := by
  have h := Watch.wait_conduct spaced uncancelled
  cases hr : ((w.wait poll).runIn world s).result with
  | ok a =>
    refine ⟨a, none, .single ⟨s.now, ?_⟩, hr⟩
    rwa [outward_of_lists h.lists, ended_none, ← hr]
  | error e =>
    refine ⟨default, some e, .single ⟨s.now, ?_⟩, hr⟩
    rwa [outward_of_lists h.lists, ended_some, ← hr]

theorem rollOut_passes (filter : String) (spaced : 0 < poll.interval)
    (uncancelled : ((rollOut filter poll).runIn world s).scene.isCancelled = false) :
    ∃ d, ((rollOut filter poll).runIn world s).Passes (rolloutStages filter poll d) d := by
  refine passes_bind_uncancelled (fun d _ => d) uncancelled (wait_passes _ spaced) (fun _ _ => rfl)
    fun d s _ => ?_
  refine passes_bind (fun _ c => c)
    (passes_perform (.request (.rolloutStatus _)) id rfl) (fun _ _ => rfl) fun _ _ => ?_
  exact ⟨d, passes_pure d⟩

theorem warnAll_passes (warnings : List Warning) :
    ((warnAll warnings).runIn world s).Passes [] () := by
  induction warnings generalizing s with
  | nil => exact passes_pure ()
  | cons w more ih => exact passes_then (passes_inward _ rfl) ih

theorem awaitService_passes (filter : String) (spaced : 0 < poll.interval)
    (uncancelled : ((Endpoint.awaitService filter poll).runIn world s).scene.isCancelled = false) :
    ∃ found, ((Endpoint.awaitService filter poll).runIn world s).Passes
      [awaited (Watch.service filter) poll found] (Endpoint.ofService found) := by
  have hwait := wait_passes _ spaced (not_cancelled_of_bind uncancelled)
  exact passes_end hwait fun found s => passes_then (warnAll_passes _) (passes_pure _)

theorem awaitIngress_passes (filter relativePath : String) (spaced : 0 < poll.interval)
    (uncancelled :
      ((Endpoint.awaitIngress filter relativePath poll).runIn world s).scene.isCancelled = false) :
    ∃ found, ((Endpoint.awaitIngress filter relativePath poll).runIn world s).Passes
      (ingressStages filter relativePath poll found) found.2 := by
  refine passes_bind_uncancelled (fun i c => (i, c.2)) uncancelled (wait_passes _ spaced)
    (fun _ _ => rfl) fun i s _ => ?_
  obtain ⟨endpoints, h⟩ := passes_ofExcept (Endpoint.ofIngress i relativePath)
  exact ⟨(i, endpoints), passes_then (warnAll_passes _) h⟩

theorem resolve_passes (service : ServiceConfig) (spaced : 0 < poll.interval)
    (uncancelled : ((Endpoint.resolve service.serviceName service.ingressName service.ingressPath
      poll).runIn world s).scene.isCancelled = false) :
    ∃ c : Carried, ((Endpoint.resolve service.serviceName service.ingressName service.ingressPath
      poll).runIn world s).Passes (endpointStages service poll c)
      (c.fromService.getD [] ++ c.fromIngress.getD []) := by
  refine passes_bind_uncancelled (fun fromService c => { c with fromService }) uncancelled
    (fun h => passes_wrap _ (passes_unlessNotFound (awaitService_passes _ spaced
      (not_cancelled_of_unlessNotFound (not_cancelled_of_wrap h)))))
    (fun _ _ => rfl) fun fromService s h => ?_
  refine passes_bind_uncancelled (fun fromIngress c => { c with fromIngress }) h
    (fun h => passes_wrap _ (passes_unlessNotFound (awaitIngress_passes _ _ spaced
      (not_cancelled_of_unlessNotFound (not_cancelled_of_wrap h)))))
    (fun _ _ => rfl) fun fromIngress s _ => ?_
  exact ⟨default, passes_pure _⟩

theorem endpoints_passes (service : ServiceConfig) (spaced : 0 < poll.interval)
    (uncancelled : ((endpoints service poll).runIn world s).scene.isCancelled = false) :
    ∃ c, ((endpoints service poll).runIn world s).Passes (endpointStages service poll c)
      c.lines :=
  passes_end (resolve_passes service spaced (not_cancelled_of_bind uncancelled)) fun _ _ =>
    passes_pure _

theorem verify_passes (service : ServiceConfig) (spaced : 0 < poll.interval)
    (uncancelled : ((verify service poll).runIn world s).scene.isCancelled = false) :
    ∃ c, ((verify service poll).runIn world s).Passes (verifyStages service poll c)
      (c.details, c.lines) := by
  refine passes_bind_uncancelled (fun _ c => c) uncancelled
    (fun _ => passes_call (.report _) rfl) (fun _ _ => rfl) fun _ s h => ?_
  refine passes_bind_uncancelled (fun details c => { c with details }) h
    (fun h => passes_unlessNotFound (rollOut_passes _ spaced (not_cancelled_of_unlessNotFound h)))
    (fun _ _ => rfl) fun details s h => ?_
  refine passes_bind_uncancelled (fun _ c => c) h
    (fun _ => passes_call (.report _) rfl) (fun _ _ => rfl) fun _ s h => ?_
  exact passes_end (endpoints_passes service spaced (not_cancelled_of_bind h)) fun c _ =>
    passes_pure (details, c.lines)

theorem applyManifests_passes (service : ServiceConfig) :
    ∃ c, ((applyManifests service).runIn world s).Passes (applyStages service c) () := by
  refine passes_bind (fun values c => { c with values })
    (passes_call .environmentValues rfl) (fun _ _ => rfl) fun values _ => ?_
  refine passes_bind (fun _ c => c)
    (passes_call (.request (.setEnvironment values)) rfl) (fun _ _ => rfl) fun _ _ => ?_
  refine passes_bind (fun _ c => c) (passes_call (.report _) rfl)
    (fun _ _ => rfl) fun _ _ => ?_
  refine passes_bind (fun _ c => c)
    (passes_wrap _ (passes_perform (.request (.apply _)) id rfl))
    (fun _ _ => rfl) fun _ _ => ?_
  exact ⟨default, passes_pure ()⟩

theorem record_passes (service : ServiceConfig) (lines : List String) :
    ∃ u, ((record service lines).runIn world s).Passes (recordStages service lines) u := by
  unfold record recordStages
  cases lines.getLast? with
  | none => exact ⟨(), passes_pure ()⟩
  | some line =>
    refine passes_bind (fun _ c => c) (passes_call (.setProperty _ _ _) rfl)
      (fun _ _ => rfl) fun _ _ => ?_
    exact passes_wrap _ (passes_ask .saveEnvironment id rfl)

theorem run_passes (service : ServiceConfig) (package : Option ServicePackage)
    (target : TargetResource) (spaced : 0 < poll.interval)
    (uncancelled : ((run service package target poll).runIn world s).scene.isCancelled = false) :
    ∃ c, ((run service package target poll).runIn world s).Passes
      (sequence service package target poll c) ⟨c.package, target, c.details, c.lines⟩ := by
  refine passes_bind_uncancelled (fun _ c => c) uncancelled (fun _ => passes_ofExcept _)
    (fun _ _ => rfl) fun _ s h => ?_
  refine passes_bind_uncancelled (fun package c => { c with package }) h
    (fun _ => passes_ofExcept _) (fun _ _ => rfl) fun package s h => ?_
  refine passes_bind_uncancelled (fun _ c => c) h
    (fun _ => passes_wrap _ (passes_ask (.request (.push _ _ _)) id rfl))
    (fun _ _ => rfl) fun _ s h => ?_
  refine passes_bind_uncancelled (fun d c => { c with values := d.values }) h
    (fun _ => applyManifests_passes service) (fun _ _ => rfl) fun _ s h => ?_
  refine passes_bind_uncancelled (fun d c => { d with package := c.package, values := c.values }) h
    (fun h => verify_passes service spaced h) (fun _ _ => rfl) fun d s _ => ?_
  obtain ⟨_, h⟩ := passes_end (record_passes service d.lines) fun _ _ =>
    passes_pure (DeployResult.mk package target d.details d.lines)
  exact ⟨default, h⟩

def deployLabels : List String :=
  ["Applying k8s manifests", "Verifying deployment", "Fetching endpoints for AKS service"]

theorem silent_awaited (w : Watch α) (poll : PollOptions) (value : α) :
    (awaited w poll value).Silent := by
  rintro made fault ⟨start, hconduct⟩
  apply List.filterMap_eq_nil_iff.mpr
  intro step hstep
  rw [hconduct.lists step hstep]
  rfl

theorem applyStages_reports (service : ServiceConfig) (c : Carried) :
    Reports (applyStages service c) ["Applying k8s manifests"] := by
  apply Reports.cons (silent_told _ rfl)
  apply Reports.cons (silent_told _ rfl)
  apply Reports.label
  apply Reports.cons (silent_wrapped (silent_performed _ rfl))
  exact .nil

theorem endpointStages_reports (service : ServiceConfig) (c : Carried) :
    Reports (endpointStages service poll c) [] := by
  apply Reports.cons
  · apply silent_wrapped (silent_optional _)
    intro s
    exact .cons (silent_awaited _ _ _) .nil
  apply Reports.cons
  · apply silent_wrapped (silent_optional _)
    intro found
    exact .cons (silent_awaited _ _ _) (.cons (silent_check _ _) .nil)
  exact .nil

theorem verifyStages_reports (service : ServiceConfig) (c : Carried) :
    Reports (verifyStages service poll c)
      ["Verifying deployment", "Fetching endpoints for AKS service"] := by
  apply Reports.label
  apply Reports.cons
  · apply silent_optional
    intro d
    exact .cons (silent_awaited _ _ _) (.cons (silent_performed _ rfl) .nil)
  apply Reports.label
  exact endpointStages_reports service c

theorem recordStages_reports (service : ServiceConfig) (lines : List String) :
    Reports (recordStages service lines) [] := by
  unfold recordStages
  cases lines.getLast? with
  | none => exact .nil
  | some line =>
    apply Reports.cons (silent_told _ rfl)
    exact .cons (silent_wrapped (silent_answered _ _ rfl)) .nil

theorem sequence_reports (service : ServiceConfig) (package : Option ServicePackage)
    (target : TargetResource) (c : Carried) :
    Reports (sequence service package target poll c) deployLabels := by
  apply Reports.cons (silent_check _ _)
  apply Reports.cons (silent_check _ _)
  apply Reports.cons (silent_wrapped (silent_answered _ _ rfl))
  have hverified : Reports (applyStages service c ++ verifyStages service poll c) deployLabels :=
    (applyStages_reports service c).append (verifyStages_reports service c)
  exact hverified.append (recordStages_reports service c.lines)

/-- The effects of a deploy come in the order of the sequence, none after the first failure that is
not tolerated, and the error is that of the failing stage. The labels are the ones up to there. -/
theorem deploy_failstop (service : ServiceConfig) (package : Option ServicePackage)
    (target : TargetResource) {poll : PollOptions} (spaced : 0 < poll.interval)
    (world : Surroundings σ) (s : Scene σ)
    (uncancelled : ((run service package target poll).runIn world s).scene.isCancelled = false) :
    let r := (run service package target poll).runIn world s
    (∃ c, r.Passes (sequence service package target poll c)
      ⟨c.package, target, c.details, c.lines⟩) ∧
    labels r.steps <+: deployLabels := by
  obtain ⟨c, fault, hstages, hresult⟩ := run_passes service package target spaced uncancelled
  refine ⟨⟨c, fault, hstages, hresult⟩, ?_⟩
  rw [← labels_outward]
  exact (sequence_reports service package target c _ _ hstages).1

def unlisted : Script := ⟨[("svc", [{ failure := some (.spawn "kubectl" .notFound) }])]⟩

def unlistedRun : Run (Session ProgressChannel Script) (Except Error DeployResult) :=
  (run { name := "api", k8s := { deploymentPath := "m" } } (some ⟨"api:1", none⟩) ⟨"s", "g", "c"⟩
    (.every 5 10)).runIn Script.surroundings unlisted.scene

/-- The absent deployment is tolerated, the failed listing is not. -/
theorem deploy_failstop_unlisted :
    unlistedRun.scene.isCancelled = false ∧
      unlistedRun.result =
        .error (.serviceEndpoints (.listResources .service (.spawn "kubectl" .notFound))) ∧
      labels unlistedRun.steps = deployLabels ∧
      ∃ c, unlistedRun.Passes
        (sequence { name := "api", k8s := { deploymentPath := "m" } } (some ⟨"api:1", none⟩)
          ⟨"s", "g", "c"⟩ (.every 5 10) c)
        ⟨c.package, ⟨"s", "g", "c"⟩, c.details, c.lines⟩ := by
  have uncancelled : unlistedRun.scene.isCancelled = false := by decide +kernel
  refine ⟨uncancelled, by rfl, by decide +kernel, ?_⟩
  exact (deploy_failstop _ _ _ (by decide) _ _ uncancelled).1

end ClusterDeploy.Deploy
