import ClusterDeploy.Bootstrap.Basic
import ClusterDeploy.Proofs.Bootstrap.States
import ClusterDeploy.Proofs.Flow.Sequence
/-!
# The sequence of a bootstrap

Every run of a bootstrap goes through one fixed sequence and stops at the first failure, which is
reported under the state that was to be reached next. Nothing is assumed about the answers, nor
about what happened before the run.
-/
namespace ClusterDeploy

namespace Bootstrapper

structure Carried where
  blobs : List (List UInt8)
  blob : List UInt8
  config : Kubeconfig
  login : Kubeconfig
  path : String
  rendered : CommandOutput
  deriving Inhabited

open Attempt
open Stage (check answered performed told wrapped)

def fetchStages (target : TargetResource) (cluster : String) (c : Carried) : List Stage :=
  [(answered (.request (.credentials target.subscription target.resourceGroup cluster)) id
      c.blobs).wrapped .fetchCredentials,
    check (firstOf c.blobs) c.blob]

def adoptStages (inNamespace cluster : String) (blob : List UInt8) (c : Carried) : List Stage :=
  [check (Kubeconfig.parse blob) c.config,
    check (loginOf c.config cluster inNamespace) c.login,
    (answered (.addContext cluster c.login) id c.path).wrapped (.updateContext cluster),
    told (.request (.setKubeconfig c.path)) (),
    (performed (.request (.useContext cluster)) id).wrapped (.useContext cluster)]

def namespaceStages (name : String) (c : Carried) : List Stage :=
  [(answered (.request (.createNamespace name .dryRunYaml)) id c.rendered).wrapped
      (.createNamespace name),
    (performed (.request (.applyInput c.rendered.stdout)) id).wrapped (.applyNamespace name)]

def toward (state : BootstrapState) (stages : List Stage) : List Stage :=
  stages.map (wrapped (.bootstrap state))

def accessStages (b : Bootstrapper) (c : Carried) : List Stage :=
  match b.config.kubeconfigOverride, b.config.cluster with
  | some path, _ => [told (.request (.setKubeconfig path)) ()]
  | none, none =>
    toward .credentialsFetched
      [check (.error (.missingClusterName Environment.clusterVar)) ()]
  | none, some cluster =>
    toward .credentialsFetched (fetchStages b.target cluster c) ++
      toward .contextMerged (adoptStages b.config.inNamespace cluster c.blob c)

def sequence (b : Bootstrapper) (c : Carried) : List Stage :=
  b.accessStages c ++ toward .namespaceEnsured (namespaceStages b.config.inNamespace c)

def way (b : Bootstrapper) : List BootstrapState :=
  match b.config.kubeconfigOverride with
  | some _ => [.noConfig, .namespaceEnsured, .ready]
  | none => [.noConfig, .credentialsFetched, .contextMerged, .namespaceEnsured, .ready]

def pathOf (b : Bootstrapper) (c : Carried) : String := b.config.kubeconfigOverride.getD c.path

variable {world : Surroundings σ} {s : Scene σ} {b : Bootstrapper}

theorem fetchLogin_passes (target : TargetResource) (cluster : String) :
    ∃ c, ((fetchLogin target cluster).runIn world s).Passes (fetchStages target cluster c)
      c.blob := by
  refine passes_bind (fun blobs c => { c with blobs })
    (passes_wrap _ (passes_ask (.request (.credentials _ _ _)) id rfl))
    (fun _ _ => rfl) fun blobs _ => ?_
  obtain ⟨blob, h⟩ := passes_ofExcept (firstOf blobs)
  exact ⟨{ (default : Carried) with blob }, h⟩

theorem adoptLogin_passes (inNamespace cluster : String) (blob : List UInt8) :
    ∃ c, ((adoptLogin inNamespace cluster blob).runIn world s).Passes
      (adoptStages inNamespace cluster blob c) c.path := by
  refine passes_bind (fun config c => { c with config }) (passes_ofExcept _)
    (fun _ _ => rfl) fun config _ => ?_
  refine passes_bind (fun login c => { c with login }) (passes_ofExcept _)
    (fun _ _ => rfl) fun login _ => ?_
  refine passes_bind (fun path c => { c with path })
    (passes_wrap _ (passes_ask (.addContext _ _) id rfl))
    (fun _ _ => rfl) fun path _ => ?_
  refine passes_bind (fun _ c => c) (passes_call (.request (.setKubeconfig path)) rfl)
    (fun _ _ => rfl) fun _ _ => ?_
  refine passes_bind (fun _ c => c)
    (passes_wrap _ (passes_perform (.request (.useContext _)) id rfl))
    (fun _ _ => rfl) fun _ _ => ?_
  exact ⟨default, passes_pure path⟩

theorem ensureNamespace_passes (name : String) :
    ∃ c, ((ensureNamespace name).runIn world s).Passes (namespaceStages name c) () := by
  refine passes_bind (fun rendered c => { c with rendered })
    (passes_wrap _ (passes_ask (.request (.createNamespace _ _)) id rfl))
    (fun _ _ => rfl) fun rendered _ => ?_
  refine passes_bind (fun _ c => c)
    (passes_wrap _ (passes_perform (.request (.applyInput _)) id rfl))
    (fun _ _ => rfl) fun _ _ => ?_
  exact ⟨default, passes_pure ()⟩

theorem login_passes (b : Bootstrapper) (h : b.config.kubeconfigOverride = none) :
    ∃ c, (b.login.runIn world s).Passes (b.accessStages c) c.path := by
  unfold login accessStages
  rw [h]
  cases b.config.cluster with
  | none => exact ⟨default, some _, .single ⟨some _, ⟨rfl, rfl⟩, rfl⟩, rfl⟩
  | some cluster =>
    refine passes_bind (fun d c => { c with blobs := d.blobs, blob := d.blob })
      (passes_wrap _ (fetchLogin_passes _ _)) (fun _ _ => rfl) fun d _ => ?_
    refine Exists.imp (fun c => passes_then (passes_inward _ rfl)) ?_
    refine passes_end (passes_wrap _ (adoptLogin_passes _ _ d.blob)) fun c _ => ?_
    exact passes_then (passes_inward _ rfl) (passes_pure c.path)

theorem access_passes (b : Bootstrapper) :
    ∃ c, (b.access.runIn world s).Passes (b.accessStages c)
      (b.pathOf c, b.config.kubeconfigOverride.isSome) := by
  unfold access pathOf
  cases h : b.config.kubeconfigOverride with
  | some path =>
    simp only [accessStages, h]
    refine passes_bind (fun _ c => c)
      (passes_call (.request (.setKubeconfig path)) rfl)
      (fun _ _ => rfl) fun _ _ => ?_
    exact ⟨default, passes_pure (path, true)⟩
  | none =>
    exact passes_end (login_passes b h) fun c _ => passes_pure (c.path, false)

theorem notice_passes (path : String) (usedOverride : Bool) (event : LifecycleEvent) :
    ((notice path usedOverride event).runIn world s).Passes [] () := by
  unfold notice
  split
  · exact passes_inward _ rfl
  · exact passes_pure ()

theorem run_passes (b : Bootstrapper) (event : LifecycleEvent) :
    ∃ c, ((b.run event).runIn world s).Passes (b.sequence c)
      ⟨b.pathOf c, b.config.inNamespace, b.config.kubeconfigOverride.isSome⟩ := by
  have hall (d c : Carried) : b.sequence { d with rendered := c.rendered } =
      b.accessStages d ++ toward .namespaceEnsured (namespaceStages b.config.inNamespace c) := by
    unfold sequence accessStages
    cases b.config.kubeconfigOverride <;> cases b.config.cluster <;> rfl
  refine Exists.imp (fun c => passes_then (passes_inward _ rfl)) ?_
  refine passes_bind (fun d c => { d with rendered := c.rendered })
    (access_passes b) hall fun d _ => ?_
  refine passes_end (passes_wrap _ (ensureNamespace_passes _)) fun c _ => ?_
  refine passes_then (passes_inward _ rfl) ?_
  refine passes_then (notice_passes _ _ _) ?_
  exact passes_then (passes_inward _ rfl) (passes_pure _)

theorem fetchLogin_makes (target : TargetResource) (cluster : String) :
    Flow.Makes
      (· = .request (.credentials target.subscription target.resourceGroup cluster))
      (fetchLogin target cluster).run := by
  apply Flow.Makes.andThen
  · exact .wrap _ (Flow.makes_of (.request _) id rfl)
  · exact fun _ => Flow.makes_ofExcept _

inductive Adopts (inNamespace cluster : String) : Call → Prop where
  | add {config login : Kubeconfig} (h : config.loginFor cluster inNamespace = some login) :
      Adopts inNamespace cluster (.addContext cluster login)
  | set (path : String) : Adopts inNamespace cluster (.request (.setKubeconfig path))
  | use : Adopts inNamespace cluster (.request (.useContext cluster))

theorem loginFor_of_loginOf {config login : Kubeconfig} {cluster inNamespace : String}
    (h : loginOf config cluster inNamespace = .ok login) :
    config.loginFor cluster inNamespace = some login := by
  unfold loginOf at h
  split at h
  · cases h
  · next h' =>
    cases h
    exact h'

theorem adoptLogin_makes (inNamespace cluster : String) (blob : List UInt8) :
    Flow.Makes (Adopts inNamespace cluster) (adoptLogin inNamespace cluster blob).run := by
  apply Flow.makes_afterExcept
  intro config _
  apply Flow.makes_afterExcept
  intro login hlogin
  apply Flow.Makes.andThen
  · exact .wrap _ (Flow.makes_of (.addContext _ _) id (.add (loginFor_of_loginOf hlogin)))
  intro path
  apply Flow.Makes.andThen (Flow.makes_call (.set path))
  intro _
  apply Flow.Makes.andThen
  · exact .wrap _ (Flow.makes_of (.request _) id .use)
  · exact fun _ => trivial

inductive Ensures (name : String) : Call → Prop where
  | create : Ensures name (.request (.createNamespace name .dryRunYaml))
  | apply (manifest : String) : Ensures name (.request (.applyInput manifest))

theorem ensureNamespace_makes (name : String) :
    Flow.Makes (Ensures name) (ensureNamespace name).run := by
  apply Flow.Makes.andThen
  · exact .wrap _ (Flow.makes_of (.request _) id .create)
  intro rendered
  apply Flow.Makes.andThen
  · exact .wrap _ (Flow.makes_of (.request _) id (.apply rendered.stdout))
  · exact fun _ => trivial

theorem login_advances (b : Bootstrapper) :
    (b.login.runIn world s).Advances [.credentialsFetched, .contextMerged] := by
  unfold login
  cases b.config.cluster with
  | none => exact advances_fail _ _ _
  | some cluster =>
    apply advances_toward
    · refine (fetchLogin_makes _ _).mono ?_
      rintro _ rfl
      rfl
    intro blob s
    apply advances_bind (advances_reach _)
    intro _ s
    apply advances_toward
    · refine (adoptLogin_makes _ _ _).mono ?_
      rintro _ (_ | _ | _) <;> rfl
    intro path s
    exact advances_bind (advances_reach _) fun _ _ => advances_pure path

theorem access_advances (b : Bootstrapper) :
    (b.access.runIn world s).Advances
      (if b.config.kubeconfigOverride.isSome then []
        else [.credentialsFetched, .contextMerged]) := by
  unfold access
  cases b.config.kubeconfigOverride with
  | some path =>
    have hset : Call.Stays (.request (.setKubeconfig path)) := rfl
    exact advances_bind (advances_call hset) fun _ _ => advances_pure (path, true)
  | none => exact advances_bind (login_advances b) fun path _ => advances_pure (path, false)

theorem notice_advances (path : String) (usedOverride : Bool) (event : LifecycleEvent) :
    ((notice path usedOverride event).runIn world s).Advances [] := by
  unfold notice
  split
  · exact advances_call rfl
  · exact advances_pure ()

theorem run_advances (b : Bootstrapper) (event : LifecycleEvent) :
    ((b.run event).runIn world s).Advances b.way := by
  have hway : b.way = .noConfig ::
      ((if b.config.kubeconfigOverride.isSome then [] else [.credentialsFetched, .contextMerged]) ++
        [.namespaceEnsured, .ready]) := by
    unfold way
    cases b.config.kubeconfigOverride <;> rfl
  rw [hway]
  apply advances_bind (advances_reach _)
  intro _ s
  apply advances_bind (access_advances b)
  rintro ⟨path, usedOverride⟩ s
  apply advances_toward
  · refine (ensureNamespace_makes _).mono ?_
    rintro _ (_ | _) <;> rfl
  intro _ s
  apply advances_bind (advances_reach _)
  intro _ s
  apply advances_bind (notice_advances _ _ _)
  intro _ s
  exact advances_bind (advances_reach _) fun _ _ => advances_pure _

/-- A run makes the calls of the sequence up to the first failure. It succeeds exactly when all of
them do, and is ready then. Otherwise the error names the state right after the last one reached. -/
theorem bootstrap_failstop (b : Bootstrapper) (event : LifecycleEvent) (world : Surroundings σ)
    (s : Scene σ) (before : BootstrapState) :
    let r := (b.run event).runIn world s
    (∃ c, r.Passes (b.sequence c)
      ⟨b.pathOf c, b.config.inNamespace, b.config.kubeconfigOverride.isSome⟩) ∧
    (∀ outcome, r.result = .ok outcome → stateAfter before r.steps = .ready) ∧
    (∀ e, r.result = .error e → ∃ state source, e = .bootstrap state source ∧
      [stateAfter before r.steps, state] <:+: b.way) := by
  intro r
  have hadvances : r.Advances b.way := run_advances b event
  refine ⟨run_passes b event, ?_, ?_⟩
  · intro outcome h
    have hreached := hadvances.complete outcome h
    unfold stateAfter
    rw [hreached]
    unfold way
    cases b.config.kubeconfigOverride <;> rfl
  · intro e he
    apply hadvances.infix_of_error _ he
    have hstart : r = _ := runIn_bind_ok rfl
    rw [hstart]
    exact List.cons_ne_nil _ _

end Bootstrapper

end ClusterDeploy
