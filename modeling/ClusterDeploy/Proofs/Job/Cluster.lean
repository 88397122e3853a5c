import ClusterDeploy.Job.Run
import ClusterDeploy.Proofs.Bootstrap.Sequence
import ClusterDeploy.Proofs.Deploy.Calls
/-!
# The cluster of a job

A job addresses one cluster only: the one its bootstrap is configured with. Whether that is also the
cluster that is reported depends on the command line and the env file, which both may name one.
-/
namespace ClusterDeploy

def Call.clusterNames : Call → List String
  | .request (.credentials _ _ cluster) => [cluster]
  | .addContext name login =>
    name :: (login.contexts.map Named.name ++ login.currentContext.toList)
  | .request (.useContext name) => [name]
  | _ => []

def Call.fetchesLogin : Call → Bool
  | .request (.credentials _ _ _) => true
  | _ => false

theorem Call.name_of_fetchesLogin {c : Call} (h : c.fetchesLogin) :
    ∃ name, name ∈ c.clusterNames := by
  unfold fetchesLogin at h
  split at h
  · exact ⟨_, List.mem_singleton_self _⟩
  · cases h

def Call.Addresses (cluster : Option String) (c : Call) : Prop :=
  ∀ name ∈ c.clusterNames, cluster = some name

def Call.Nameless (c : Call) : Prop := c.clusterNames = []

theorem Call.Nameless.addresses {cluster : Option String} {c : Call} (h : c.Nameless) :
    c.Addresses cluster := by
  intro name hname
  rw [h] at hname
  cases hname

theorem Flow.Makes.addresses {cluster : Option String} {t : Flow α}
    (h : t.Makes Call.Nameless) : t.Makes (Call.Addresses cluster) :=
  h.mono fun _ => Call.Nameless.addresses

theorem Call.Prepares.nameless {c : Call} (h : c.Prepares) : c.Nameless := by
  cases h <;> rfl

theorem Call.Records.nameless {c : Call} (h : c.Records) : c.Nameless := by
  cases h <;> rfl

namespace Deploy

theorem run_makes (service : ServiceConfig) (package : Option ServicePackage)
    (target : TargetResource) (poll : PollOptions) :
    Flow.Makes Call.Nameless (run service package target poll).run := by
  rw [run_eq_prepare]
  apply Flow.Makes.andThen
  · exact (prepare_makes _ _ _ _).mono fun _ => Call.Prepares.nameless
  intro d
  exact .andThen ((record_makes _ _).mono fun _ => Call.Records.nameless) fun _ => trivial

end Deploy

theorem Kubeconfig.names_of_loginFor {config login : Kubeconfig} {cluster inNamespace : String}
    (h : config.loginFor cluster inNamespace = some login) :
    login.contexts.map Named.name = [cluster] ∧ login.currentContext = some cluster := by
  unfold loginFor at h
  split at h
  · cases h
  · cases h
    exact ⟨rfl, rfl⟩

namespace Bootstrapper

theorem fetchLogin_addresses (target : TargetResource) (cluster : String) :
    Flow.Makes (Call.Addresses (some cluster)) (fetchLogin target cluster).run := by
  apply (fetchLogin_makes target cluster).mono
  rintro _ rfl name hname
  simpa [Call.clusterNames, eq_comm] using hname

/-- The login that is stored bears the name of the cluster, and of no other. -/
theorem adoptLogin_addresses (inNamespace cluster : String) (blob : List UInt8) :
    Flow.Makes (Call.Addresses (some cluster)) (adoptLogin inNamespace cluster blob).run := by
  apply (adoptLogin_makes inNamespace cluster blob).mono
  rintro _ (h | path | _) name hname
  · obtain ⟨hcontexts, hcurrent⟩ := Kubeconfig.names_of_loginFor h
    simpa [Call.clusterNames, hcontexts, hcurrent, eq_comm] using hname
  · cases hname
  · simpa [Call.clusterNames, eq_comm] using hname

theorem login_addresses (b : Bootstrapper) :
    Flow.Makes (Call.Addresses b.config.cluster) b.login.run := by
  unfold login
  cases b.config.cluster with
  | none => trivial
  | some cluster =>
    refine .andThen (.wrap _ (fetchLogin_addresses _ _)) fun blob => ?_
    refine .andThen (Flow.makes_call nofun) fun _ => ?_
    refine .andThen (.wrap _ (adoptLogin_addresses _ _ _)) fun _ => ?_
    exact .andThen (Flow.makes_call nofun) fun _ => trivial

theorem access_addresses (b : Bootstrapper) :
    Flow.Makes (Call.Addresses b.config.cluster) b.access.run := by
  unfold access
  cases b.config.kubeconfigOverride with
  | some path => exact .andThen (Flow.makes_call nofun) fun _ => trivial
  | none => exact .andThen (login_addresses b) fun _ => trivial

theorem run_addresses (b : Bootstrapper) (event : LifecycleEvent) :
    Flow.Makes (Call.Addresses b.config.cluster) (b.run event).run := by
  refine .andThen (Flow.makes_call nofun) fun _ => ?_
  refine .andThen (access_addresses b) fun accessed => ?_
  apply Flow.Makes.andThen
  · refine .wrap _ ((ensureNamespace_makes _).mono ?_)
    rintro _ (_ | _) <;> nofun
  intro _
  refine .andThen (Flow.makes_call nofun) fun _ => ?_
  apply Flow.Makes.andThen
  · unfold notice
    split
    · exact Flow.makes_call nofun
    · trivial
  exact fun _ => .andThen (Flow.makes_call nofun) fun _ => trivial

theorem ensure_addresses (b : Bootstrapper) :
    Flow.Makes (Call.Addresses b.config.cluster) b.ensure := by
  unfold ensure
  split
  · trivial
  · exact .bind (run_addresses b .preDeploy) fun _ => trivial

end Bootstrapper

namespace Setup

variable {p : Call → Prop}

theorem under_makes {t : Attempt α} (context : String) (h : Flow.Makes p t.run) :
    Flow.Makes p (t.under context).run :=
  .bind h fun _ => trivial

theorem say_makes (h : ∀ line, p (.say line)) (line : String) :
    Flow.Makes p (Routine.say line).run :=
  ⟨h line, fun _ => trivial⟩

theorem sayAll_makes (h : ∀ line, p (.say line)) (lines : List String) :
    Flow.Makes p (Routine.sayAll lines).run := by
  induction lines with
  | nil => trivial
  | cons line more ih => exact .andThen (say_makes h line) fun _ => ih

theorem config_of_bootstrapper {s : Setup} {b : Bootstrapper} (h : s.bootstrapper = .ok b) :
    b.config = s.bootstrapConfig := by
  unfold bootstrapper at h
  cases hs : s.store with
  | ok store =>
    rw [hs] at h
    cases h
    rfl
  | error e =>
    rw [hs] at h
    cases h

theorem ensureAccess_addresses (s : Setup) :
    Flow.Makes (Call.Addresses s.bootstrapConfig.cluster) s.ensureAccess.run := by
  apply Flow.makes_afterExcept
  intro b hb
  rw [← config_of_bootstrapper hb]
  exact under_makes _ (.bind b.ensure_addresses fun _ => trivial)

theorem deploy_addresses (s : Setup) (package : ServicePackage) :
    Flow.Makes (Call.Addresses s.bootstrapConfig.cluster) (s.deploy package).run := by
  have hsay (line : String) : Call.Addresses s.bootstrapConfig.cluster (.say line) := nofun
  refine .andThen (under_makes _ (Flow.makes_ofExcept _)) fun _ => ?_
  refine .andThen (say_makes hsay _) fun _ => ?_
  refine .andThen (say_makes hsay _) fun _ => ?_
  refine .andThen (ensureAccess_addresses s) fun _ => ?_
  refine .andThen (under_makes _ (Deploy.run_makes _ _ _ _).addresses) fun _ => ?_
  exact sayAll_makes hsay _

theorem endpoints_addresses (s : Setup) :
    Flow.Makes (Call.Addresses s.bootstrapConfig.cluster) s.endpoints.run := by
  have hsay (line : String) : Call.Addresses s.bootstrapConfig.cluster (.say line) := nofun
  have hfind (service : ServiceConfig) (poll : PollOptions) :
      Flow.Makes Call.Nameless (Deploy.endpoints service poll).run :=
    (Deploy.endpoints_makes service poll).mono fun _ h => h.prepares.nameless
  refine .andThen (ensureAccess_addresses s) fun _ => ?_
  refine .andThen (under_makes _ (hfind _ _).addresses) fun found => ?_
  dsimp only
  split
  · exact .andThen (say_makes hsay _) fun _ => sayAll_makes hsay _
  · exact sayAll_makes hsay _

theorem context_addresses (s : Setup) :
    Flow.Makes (Call.Addresses s.bootstrapConfig.cluster) s.context.run := by
  have hsay (line : String) : Call.Addresses s.bootstrapConfig.cluster (.say line) := nofun
  refine .andThen (say_makes hsay _) fun _ => ?_
  apply Flow.makes_afterExcept
  intro b hb
  have hrun := b.run_addresses .postProvision
  rw [config_of_bootstrapper hb] at hrun
  refine .andThen (under_makes _ hrun) fun _ => ?_
  refine .andThen (say_makes hsay _) fun _ => ?_
  exact say_makes hsay _

theorem routine_addresses (s : Setup) (job : Job) :
    Flow.Makes (Call.Addresses s.bootstrapConfig.cluster) (s.routine job).run := by
  cases job with
  | deploy package => exact s.deploy_addresses package
  | endpoints => exact s.endpoints_addresses
  | context => exact s.context_addresses

theorem target_of_load {files : FileTree} {lookup : String → Option String} {home : String}
    {c : CommandLine} {s : Setup} (h : (load files lookup home c).1 = .ok s) :
    s.target = c.target s.environment.values := by
  unfold load at h
  split at h
  · cases h
  split at h
  · cases h
  split at h
  · cases h
  · cases h
    rfl

/-- The env file comes first. -/
theorem cluster_of_bootstrapConfig {s : Setup} {name : String}
    (h : s.bootstrapConfig.cluster = some name) :
    name = (s.environment.values.getFilled? Environment.clusterVar).getD s.target.name := by
  simp only [bootstrapConfig, BootstrapConfig.ofEnvironment] at h
  cases hv : s.environment.values.getFilled? Environment.clusterVar with
  | some value =>
    rw [hv] at h
    exact (Option.some.inj h).symm
  | none =>
    rw [hv, Option.none_or] at h
    split at h
    · cases h
    · exact (Option.some.inj h).symm

end Setup

namespace CommandLine

/-- All calls of a job are about the cluster of its bootstrap. -/
theorem run_addresses {c : CommandLine} {w : Workstation} {setup : Setup}
    (loaded : (Setup.load w.files w.machine.lookup w.machine.home c).1 = .ok setup) :
    ∀ step ∈ (c.run w).steps, step.call.Addresses setup.bootstrapConfig.cluster := by
  unfold run
  cases hload : Setup.load w.files w.machine.lookup w.machine.home c with
  | mk result files =>
    rw [hload] at loaded
    cases loaded
    exact (setup.routine_addresses c.job).run _

/-- Whenever a login is fetched, every call about a cluster is about the reported one, which is that
of the command line or else of the env file, exactly if the two do not contradict each other: for
the bootstrap the env file has the last word. -/
theorem one_cluster_iff (c : CommandLine) (w : Workstation) {setup : Setup}
    (loaded : (Setup.load w.files w.machine.lookup w.machine.home c).1 = .ok setup)
    (fetched : (c.run w).steps.any (·.call.fetchesLogin)) :
    setup.target.name =
        (c.cluster.or (setup.environment.values.get? Environment.clusterVar)).getD "" ∧
      ((∀ step ∈ (c.run w).steps, ∀ name ∈ step.call.clusterNames, name = setup.target.name) ↔
        ∀ flag value, c.cluster = some flag →
          setup.environment.values.getFilled? Environment.clusterVar = some value →
          flag = value) := by
  have htarget : setup.target.name =
      (c.cluster.or (setup.environment.values.get? Environment.clusterVar)).getD "" := by
    rw [Setup.target_of_load loaded]
    rfl
  have hnames : ∀ step ∈ (c.run w).steps, ∀ name ∈ step.call.clusterNames,
      name = (setup.environment.values.getFilled? Environment.clusterVar).getD setup.target.name :=
    fun step hstep name hname =>
      Setup.cluster_of_bootstrapConfig (run_addresses loaded step hstep name hname)
  refine ⟨htarget, ?_, ?_⟩
  · intro hall flag value hflag hvalue
    obtain ⟨step, hstep, hfetch⟩ := List.any_eq_true.mp fetched
    obtain ⟨name, hname⟩ := Call.name_of_fetchesLogin hfetch
    calc flag = setup.target.name := by rw [htarget, hflag]; rfl
      _ = name := (hall step hstep name hname).symm
      _ = value := by rw [hnames step hstep name hname, hvalue]; rfl
  · intro hagree step hstep name hname
    rw [hnames step hstep name hname]
    cases hvalue : setup.environment.values.getFilled? Environment.clusterVar with
    | none => rfl
    | some value =>
      rw [Option.getD_some, htarget]
      cases hflag : c.cluster with
      | some flag => exact (hagree flag value hflag hvalue).symm
      | none =>
        obtain ⟨hget, _⟩ := Option.filter_eq_some_iff.mp hvalue
        rw [hget]
        rfl

def bare : Workstation where
  files := { entries := [(["settings"], .file []),
    (["service"], .file (Text.encodeUtf8 "name: api\nproject: todo")),
    (["env"], .file (Text.encodeUtf8 "AZURE_AKS_CLUSTER_NAME=b"))] }
  machine := { vars := [], toolFolder := "", installed := [], behave := fun _ _ => {} }

def contextOf (cluster : String) : CommandLine :=
  ⟨"env", none, none, some cluster, some "settings", false, "service", .context⟩

theorem one_cluster_when_agreed :
    ∃ setup, (Setup.load bare.files bare.machine.lookup bare.machine.home (contextOf "b")).1 =
        .ok setup ∧
      ((contextOf "b").run bare).steps.any (·.call.fetchesLogin) ∧
      ∀ step ∈ ((contextOf "b").run bare).steps, ∀ name ∈ step.call.clusterNames,
        name = setup.target.name := by
  have fetched : ((contextOf "b").run bare).steps.any (·.call.fetchesLogin) := by decide +kernel
  have hvalue : (Setup.load bare.files bare.machine.lookup bare.machine.home
      (contextOf "b")).1.toOption.map (·.environment.values.getFilled? Environment.clusterVar) =
      some (some "b") := by decide +kernel
  cases loaded : (Setup.load bare.files bare.machine.lookup bare.machine.home
      (contextOf "b")).1 with
  | error e =>
    rw [loaded] at hvalue
    cases hvalue
  | ok setup =>
    rw [loaded] at hvalue
    refine ⟨setup, rfl, fetched, (one_cluster_iff _ _ loaded fetched).2.mpr ?_⟩
    intro flag value hflag hfilled
    obtain rfl : "b" = flag := Option.some.inj hflag
    exact (Option.some.inj ((Option.some.inj hvalue).symm.trans hfilled))

/-- Otherwise the login is fetched for the cluster of the env file, and the other is reported. -/
theorem two_clusters_when_not_agreed :
    (Setup.load bare.files bare.machine.lookup bare.machine.home
        (contextOf "f")).1.toOption.map (·.target.name) = some "f" ∧
      ((contextOf "f").run bare).steps.any (·.call.fetchesLogin) ∧
      ((contextOf "f").run bare).steps.flatMap (·.call.clusterNames) = ["b"] := by
  decide +kernel

end CommandLine

end ClusterDeploy
