import ClusterDeploy.Proofs.Endpoint.Union
import ClusterDeploy.Proofs.Tools.Started
import ClusterDeploy.Proofs.Waiting.Budget
/-!
# The time of a deploy

A deploy waits for a deployment, a service and an ingress, one after the other and each with a
deadline of its own. With tools that take no time, these three waits are all the time there is.
-/
namespace ClusterDeploy

open Attempt

variable {σ : Type} {world : Surroundings σ} {poll : PollOptions} {s : Scene σ}

def Confirms (world : Surroundings σ) : Prop :=
  ∀ name state e, (world (.request (.rolloutStatus name)) state).answer = .error e →
    e.unready = none

theorem warnAll_within (instant : Instant world) (warnings : List Warning) :
    (warnAll warnings).Within world poll [] s := by
  induction warnings generalizing s with
  | nil => exact within_pure ()
  | cons w more ih => exact (within_call instant rfl).after fun _ _ => ih

theorem rollOut_within (filter : String) (spaced : 0 < poll.interval) (instant : Instant world)
    (confirms : Confirms world) :
    (unlessNotFound (rollOut filter poll)).Within world poll [(Watch.rollout filter).sought] s := by
  refine within_tolerated spaced instant fun d s => ?_
  refine .after ?_ fun _ _ => within_pure d
  exact within_of instant rfl (confirms d.name s.state)

namespace Endpoint

theorem awaitService_within (filter : String) (spaced : 0 < poll.interval)
    (instant : Instant world) :
    (unlessNotFound (awaitService filter poll)).Within world poll
      [(Watch.service filter).sought] s := by
  refine within_tolerated spaced instant fun service _ => ?_
  exact (warnAll_within instant _).after fun _ _ => within_pure (ofService service)

theorem unready_of_ofIngress {ingress : Ingress} {relativePath : String} {e : Error}
    (h : ofIngress ingress relativePath = .error e) : e.unready = none := by
  obtain ⟨first, _, fault, _, rfl, _⟩ := ofIngress_error_iff.mp h
  rfl

theorem awaitIngress_within (filter relativePath : String) (spaced : 0 < poll.interval)
    (instant : Instant world) :
    (unlessNotFound (awaitIngress filter relativePath poll)).Within world poll
      [(Watch.ingress filter).sought] s := by
  refine within_tolerated spaced instant fun _ _ => ?_
  refine (warnAll_within instant _).after fun _ _ => ?_
  exact within_ofExcept fun _ => unready_of_ofIngress

theorem resolve_within (serviceFilter ingressFilter relativePath : String)
    (spaced : 0 < poll.interval) (instant : Instant world) :
    (resolve serviceFilter ingressFilter relativePath poll).Within world poll
      [(Watch.service serviceFilter).sought, (Watch.ingress ingressFilter).sought] s := by
  have hservice : (wrap .serviceEndpoints (unlessNotFound (awaitService serviceFilter poll))).Within
      world poll [(Watch.service serviceFilter).sought] s :=
    (awaitService_within serviceFilter spaced instant).wrap fun _ _ h => h
  refine hservice.andThen (fun fromService s => ?_)
    (by simp [Watch.sought, Watch.service, Watch.ingress])
  have hingress : (wrap .ingressEndpoints
      (unlessNotFound (awaitIngress ingressFilter relativePath poll))).Within
        world poll [(Watch.ingress ingressFilter).sought] s :=
    (awaitIngress_within ingressFilter relativePath spaced instant).wrap fun _ _ h => h
  exact hingress.before fun _ _ => within_pure _

end Endpoint

/-! ## Real tools -/

/-- No tool takes any time, whatever was started before. -/
def Machine.Instant (m : Machine) : Prop := ∀ before call, (m.behave before call).elapsed = 0

theorem Machine.Instant.of_starts {m m' : Machine} {p : Invocation → Prop} (h : m.Instant)
    (starts : m.Starts p m') : m'.Instant := by
  obtain ⟨_, rfl, _⟩ := starts
  exact h

theorem Machine.Instant.run {m : Machine} (h : m.Instant) (files : FileTree) (c : Command) :
    (m.run files c).elapsed = 0 := by
  unfold Machine.run
  dsimp only
  split
  · rfl
  · exact h _ _

namespace Toolbox

theorem thenDo_elapsed {r : Reply Machine (Except Error α)}
    {next : α → Machine → Reply Machine (Except Error β)} (hr : r.elapsed = 0)
    (hnext : ∀ a, (next a r.after).elapsed = 0) : (thenDo r next).elapsed = 0 := by
  unfold thenDo
  split
  · exact hr
  · dsimp only
    rw [hr, hnext]

theorem pushImage_elapsed {m : Machine} (h : m.Instant) (files : FileTree) (program : String)
    (package : ServicePackage) : (pushImage m files program package).elapsed = 0 := by
  unfold pushImage
  dsimp only
  split
  · exact thenDo_elapsed (h.run files _) fun _ => rfl
  · refine thenDo_elapsed (h.run files _) fun _ => ?_
    exact thenDo_elapsed ((h.of_starts (m.run_starts files _)).run files _) fun _ => rfl

theorem outside_elapsed {t : Toolbox} (h : t.machine.Instant) (files : FileTree) (r : Request) :
    (outside files r t).elapsed = 0 := by
  cases r with
  | push service package resource => exact pushImage_elapsed h files _ _
  | setEnvironment values => rfl
  | setKubeconfig path => rfl
  | _ => exact h.run files _

theorem respond_elapsed (observer : Observer π) (store : KubeconfigStore) (c : Call)
    (state : Session π Toolbox) (h : state.outside.machine.Instant) :
    (Session.respond outside observer store c state).elapsed = 0 := by
  cases c with
  | request r => exact outside_elapsed h state.files r
  | _ => rfl

theorem respond_instant (observer : Observer π) (store : KubeconfigStore) (c : Call)
    (state : Session π Toolbox) (h : state.outside.machine.Instant) :
    (Session.respond outside observer store c state).after.outside.machine.Instant := by
  cases c with
  | request r => exact h.of_starts (outside_answers state.files r state.outside).started
  | _ => exact h

/-- A tool that fails does not fail like a wait. -/
theorem respond_confirms (observer : Observer π) (store : KubeconfigStore) :
    Confirms (Session.respond Toolbox.outside observer store) := by
  intro name state e h
  cases ofTool_of_rolloutStatus h <;> rfl

end Toolbox

namespace Deploy

def exposure (service : ServiceConfig) : List Sought :=
  [(Watch.service service.serviceName).sought, (Watch.ingress service.ingressName).sought]

def awaits (service : ServiceConfig) : List Sought :=
  (Watch.rollout service.deploymentName).sought :: exposure service

theorem endpoints_within (service : ServiceConfig) (spaced : 0 < poll.interval)
    (instant : Instant world) :
    (endpoints service poll).Within world poll (exposure service) s :=
  (Endpoint.resolve_within _ _ _ spaced instant).before fun _ _ => within_pure _

theorem verify_within (service : ServiceConfig) (spaced : 0 < poll.interval)
    (instant : Instant world) (confirms : Confirms world) :
    (verify service poll).Within world poll (awaits service) s := by
  refine .after (within_call instant rfl) fun _ s => ?_
  refine (rollOut_within _ spaced instant confirms).andThen (fun details s => ?_)
    (by simp [Watch.sought, Watch.rollout, Watch.service, Watch.ingress])
  refine .after (within_call instant rfl) fun _ s => ?_
  exact (endpoints_within service spaced instant).before fun _ _ => within_pure _

theorem applyManifests_within (service : ServiceConfig) (instant : Instant world) :
    (applyManifests service).Within world poll [] s := by
  refine .after (within_call instant rfl) fun values s => ?_
  refine .after (within_call instant rfl) fun _ s => ?_
  refine .after (within_call instant rfl) fun _ s => ?_
  refine .after ?_ fun _ _ => within_pure ()
  exact within_wrap_of instant rfl fun _ => rfl

theorem record_within (service : ServiceConfig) (lines : List String) (instant : Instant world) :
    (record service lines).Within world poll [] s := by
  unfold record
  cases lines.getLast? with
  | none => exact within_pure ()
  | some line =>
    refine .after (within_call instant rfl) fun _ s => ?_
    exact within_wrap_of instant rfl fun _ => rfl

theorem run_within (service : ServiceConfig) (package : Option ServicePackage)
    (target : TargetResource) (spaced : 0 < poll.interval) (instant : Instant world)
    (confirms : Confirms world) :
    (run service package target poll).Within world poll (awaits service) s := by
  refine .after (within_ofExcept ?_) fun _ s => ?_
  · intro e he
    unfold TargetResource.validate at he
    split at he <;> cases he
    rfl
  refine .after (within_ofExcept ?_) fun package s => ?_
  · intro e he
    cases package <;> cases he
    rfl
  refine .after (within_wrap_of instant rfl fun _ => rfl) fun _ s => ?_
  refine .after (applyManifests_within service instant) fun _ s => ?_
  refine (verify_within service spaced instant confirms).before fun found s => ?_
  exact .after (record_within service found.2 instant) fun _ _ => within_pure _

/-- The same answers in no time. -/
def hurried (world : Surroundings σ) : Surroundings σ := fun c state =>
  { world c state with elapsed := 0 }

theorem runIn_hurried {s : Scene (Session π Toolbox)} (t : Attempt α) (observer : Observer π)
    (store : KubeconfigStore) (instant : s.state.outside.machine.Instant) :
    t.runIn (Session.respond Toolbox.outside observer store) s =
      t.runIn (hurried (Session.respond Toolbox.outside observer store)) s := by
  refine Flow.run_congr (fun c state h => ?_) (Toolbox.respond_instant observer store) t.run s
    instant
  have helapsed := Toolbox.respond_elapsed observer store c state h
  unfold hurried
  rw [← helapsed]

/-- With tools that take no time, a deploy lists at most so often and takes at most three timeouts,
a search for endpoints two. Whatever is missing when it succeeds has taken one whole timeout, and
the refusal of a wait comes one whole timeout after the first listing of that wait. All other parts
take no time. -/
theorem deploy_budget (service : ServiceConfig) (package : Option ServicePackage)
    (target : TargetResource) (spaced : 0 < poll.interval) (observer : Observer π)
    (store : KubeconfigStore) (s : Scene (Session π Toolbox))
    (instant : s.state.outside.machine.Instant) :
    let world := Session.respond Toolbox.outside observer store
    (let r := (run service package target poll).runIn world s
     r.scene.isCancelled = false →
      (listings r.steps).length ≤ 3 * (poll.timeout ⌈/⌉ poll.interval + 1) ∧
        r.scene.now ≤ s.now + 3 * poll.timeout ∧ Budget poll (awaits service) s.now r) ∧
    (let r := (endpoints service poll).runIn world s
     r.scene.isCancelled = false →
      (listings r.steps).length ≤ 2 * (poll.timeout ⌈/⌉ poll.interval + 1) ∧
        r.scene.now ≤ s.now + 2 * poll.timeout ∧ Budget poll (exposure service) s.now r) := by
  have hurry : Instant (hurried (Session.respond Toolbox.outside observer store)) :=
    fun _ _ => rfl
  have confirms : Confirms (hurried (Session.respond Toolbox.outside observer store)) :=
    Toolbox.respond_confirms observer store
  dsimp only
  rw [runIn_hurried _ observer store instant, runIn_hurried _ observer store instant]
  constructor
  · intro uncancelled
    have hbudget := run_within service package target spaced hurry confirms uncancelled
    exact ⟨hbudget.few, hbudget.brief, hbudget⟩
  · intro uncancelled
    have hbudget := endpoints_within service spaced hurry uncancelled
    exact ⟨hbudget.few, hbudget.brief, hbudget⟩

def silent : Toolbox where
  machine := {
    vars := [("PATH", "/bin")], toolFolder := "/bin", installed := ["kubectl", "docker"]
    behave := fun _ _ => {} }
  kubectl := { program := "kubectl" }
  az := "az"
  docker := "docker"

def silentRun : Run (Session Unit Toolbox) (Except Error DeployResult) :=
  (run { name := "api", k8s := { deploymentPath := "m" } } (some ⟨"api:1", none⟩) ⟨"s", "g", "c"⟩
    (.every 4 10)).runIn (Session.respond Toolbox.outside ⟨fun _ w => w, fun _ w => w⟩ ⟨"config"⟩)
    { state := { files := {}, environment := ⟨".env", .empty⟩, watcher := (), outside := silent } }

/-- Where nothing is ever listed, all three timeouts pass. -/
theorem deploy_budget_silent :
    silent.machine.Instant ∧ silentRun.scene.isCancelled = false ∧
      (∃ result, silentRun.result = .ok result) ∧
      (listings silentRun.steps).length = 12 ∧ silentRun.scene.now = 30 := by
  have instant : silent.machine.Instant := fun _ _ => rfl
  have uncancelled : silentRun.scene.isCancelled = false := by decide +kernel
  have hok : ∃ result, silentRun.result = .ok result := ⟨_, by rfl⟩
  have hlength : (listings silentRun.steps).length = 12 := by decide +kernel
  have hquiet (kind : ResourceKind) : stream (listingsOf kind silentRun.steps) = [] := by
    refine List.length_eq_zero_iff.mp ?_
    cases kind <;> decide +kernel
  have hmissing (w : Sought) : w.Missing silentRun.steps := by
    intro entry hentry
    rw [hquiet] at hentry
    cases hentry
  refine ⟨instant, uncancelled, hok, hlength, ?_⟩
  obtain ⟨-, -, hbudget⟩ := (deploy_budget _ _ _ (by decide) _ _ _ instant).1 uncancelled
  obtain ⟨result, hresult⟩ := hok
  have htimes := List.map_congr_left fun w hw =>
    hbudget.patient result hresult w hw (hmissing w)
  exact hbudget.total.trans (by rw [htimes]; rfl)

end Deploy

end ClusterDeploy
