import ClusterDeploy.Proofs.Flow.Positions
import ClusterDeploy.Proofs.Job.Cluster
import ClusterDeploy.Proofs.Kubeconfig.Store
import ClusterDeploy.Proofs.Tools.Started
/-!
# The kubeconfig of a job

The bootstrap of a job sets one kubeconfig, and nothing is asked of the cluster before. So every
call of the cluster's client carries it, and with it the values of the env file.
-/
namespace ClusterDeploy

open ClusterDeploy.Flow (LeadsTo)

def Call.toCluster : Call → Bool
  | .request r => r.toCluster
  | _ => false

def Call.setsKubeconfig : Call → Bool
  | .request (.setKubeconfig _) => true
  | _ => false

def Call.isPlain : Call → Bool
  | .request (.setEnvironment _) | .request (.setKubeconfig _) | .setProperty _ _ _ => false
  | _ => true

/-- The call can be made while the client is set to a kubeconfig, if to any. -/
structure Call.Suits (kubeconfig : Option String) (c : Call) : Prop where
  plain : c.isPlain
  ready : c.toCluster → kubeconfig.isSome

def Call.isRequest : Call → Bool
  | .request _ => true
  | _ => false

structure Setup.AsksWith (s : Setup) (m : Machine) (path : String) (i : Invocation) : Prop where
  client : ∃ words flags stdin, i.StartedFor m
    (KubectlClient.command ⟨s.settings.kubectl, s.environment.values.entries, some path⟩
      words flags stdin)
  args : ∃ words, i.args = "--kubeconfig" :: path :: words
  values : ∀ name value, s.environment.values.get? name = some value → i.setting? name = some value

namespace Setup

/-- The kubeconfig of the env file, and else the file that logins are kept in. -/
def kubeconfigPath (s : Setup) : Option String :=
  s.store.toOption.map fun store =>
    (s.environment.values.getFilled? Environment.kubeconfigVar).getD store.path

/-- A call that a job may start before any of the cluster's client. -/
def Supplies (s : Setup) (m : Machine) (i : Invocation) : Prop :=
  (s.toolbox m).LogsIn i ∨ (s.toolbox m).Ships i

def MayStart (s : Setup) (m : Machine) (kubeconfig : Option String) (i : Invocation) : Prop :=
  (∃ path, kubeconfig = some path ∧ s.AsksWith m path i) ∨ s.Supplies m i

structure Equipped (s : Setup) (m : Machine) (kubeconfig : Option String) (t : Toolbox) :
    Prop where
  started : m.Starts (s.MayStart m kubeconfig) t.machine
  client : t.kubectl = ⟨s.settings.kubectl, s.environment.values.entries, kubeconfig⟩
  az : t.az = s.settings.az
  docker : t.docker = s.settings.docker

variable {s : Setup} {m : Machine} {kubeconfig : Option String} {path : String} {t t' : Toolbox}

theorem asksWith_of_startedFor {words : List String} {flags : KubectlFlags} {stdin : String}
    {i : Invocation}
    (h : i.StartedFor m (KubectlClient.command
      ⟨s.settings.kubectl, s.environment.values.entries, some path⟩ words flags stdin)) :
    s.AsksWith m path i := by
  refine ⟨⟨words, flags, stdin, h⟩, ⟨words ++ flags.toArgs, h.args⟩, ?_⟩
  intro name value hvalue
  obtain ⟨entry, hentry, rfl⟩ := Option.map_eq_some_iff.mp hvalue
  have hvars : i.vars = s.environment.values.entries ++ m.vars := h.vars
  unfold Invocation.setting?
  rw [hvars, List.find?_append, hentry]
  rfl

/-- What a request starts is started by a client that is set. -/
theorem Equipped.mayStart (h : s.Equipped m kubeconfig t) {r : Request} {i : Invocation}
    (ready : r.toCluster → kubeconfig.isSome) (started : t.MayStart r i) :
    s.MayStart m kubeconfig i := by
  rcases started with ⟨hcluster, words, flags, stdin, hasked⟩ | ⟨sub, group, cluster, hlogin⟩ |
    ⟨args, hwords, hships⟩
  · obtain ⟨path, rfl⟩ := Option.isSome_iff_exists.mp (ready hcluster)
    rw [h.client] at hasked
    exact .inl ⟨path, rfl, asksWith_of_startedFor (h.started.startedFor hasked)⟩
  · rw [h.az] at hlogin
    exact .inr (.inl ⟨sub, group, cluster, h.started.startedFor hlogin⟩)
  · rw [h.docker] at hships
    exact .inr (.inr ⟨args, hwords, h.started.startedFor hships⟩)

theorem Equipped.answers (h : s.Equipped m kubeconfig t) {r : Request} (answered : t.Answers r t')
    (plain : r.setting t.kubectl = t.kubectl) (ready : r.toCluster → kubeconfig.isSome) :
    s.Equipped m kubeconfig t' where
  started := h.started.trans (answered.started.mono fun _ => h.mayStart ready)
  client := by rw [answered.client, plain, h.client]
  az := answered.az.trans h.az
  docker := answered.docker.trans h.docker

theorem supplies_of_none {m' : Machine} (h : m.Starts (s.MayStart m none) m') :
    m.Starts (s.Supplies m) m' := by
  apply h.mono
  rintro i (⟨_, hset, _⟩ | hsupplies)
  · cases hset
  · exact hsupplies

/-- Before the kubeconfig is set the client has not been used, and it is set only once. -/
theorem Equipped.answers_setKubeconfig (h : s.Equipped m none t)
    (answered : t.Answers (.setKubeconfig path) t') : s.Equipped m (some path) t' := by
  have hstarted : m.Starts (s.MayStart m none) t'.machine :=
    h.started.trans (answered.started.mono fun _ => h.mayStart nofun)
  constructor
  case started => exact (supplies_of_none hstarted).mono fun _ => .inr
  case client =>
    rw [answered.client, h.client]
    rfl
  case az => exact answered.az.trans h.az
  case docker => exact answered.docker.trans h.docker

structure Kitted (s : Setup) (m : Machine) (kubeconfig : Option String)
    (state : Session Screen Toolbox) : Prop where
  toolbox : s.Equipped m kubeconfig state.outside
  environment : state.environment = s.environment

/-- The kubeconfig of the job is set before anything is asked of the cluster. -/
def Permits (s : Setup) (c : Call) (scene : Scene (Session Screen Toolbox)) : Prop :=
  (c.toCluster → scene.state.outside.kubectl.kubeconfig.isSome) ∧
    ∀ path, c = .request (.setKubeconfig path) → s.kubeconfigPath = some path

section Session

variable {observer : Observer Screen} {store : KubeconfigStore}
  {scene : Scene (Session Screen Toolbox)} {state : Session Screen Toolbox}

theorem Kitted.respond (h : s.Kitted m kubeconfig state) {c : Call} (suits : c.Suits kubeconfig) :
    s.Kitted m kubeconfig (Session.respond Toolbox.outside observer store c state).after := by
  have hplain := suits.plain
  cases c with
  | request r =>
    refine ⟨h.toolbox.answers (Toolbox.outside_answers state.files r state.outside) ?_ suits.ready,
      h.environment⟩
    cases r <;> first | rfl | cases hplain
  | setProperty service key value => cases hplain
  | _ => exact ⟨h.toolbox, h.environment⟩

variable {t : Flow α}

theorem Kitted.meets (h : s.Kitted m kubeconfig scene.state)
    (makes : t.Makes (Call.Suits kubeconfig)) :
    t.Meets (Session.respond Toolbox.outside observer store) s.Permits
      (fun _ scene' => s.Kitted m kubeconfig scene'.state) scene := by
  refine makes.meets (s.Kitted m kubeconfig) (fun c scene' hc h => ⟨⟨?_, ?_⟩, ?_⟩) h
  · rw [h.toolbox.client]
    exact hc.ready
  · rintro path rfl
    cases hc.plain
  · exact h.respond hc

theorem Equipped.meets (h : s.Equipped m kubeconfig scene.state.outside)
    (makes : t.Makes fun c => c.isRequest = false) :
    t.Meets (Session.respond Toolbox.outside observer store) s.Permits
      (fun _ scene' => s.Equipped m kubeconfig scene'.state.outside) scene := by
  refine makes.meets (fun state : Session Screen Toolbox => s.Equipped m kubeconfig state.outside)
    (fun c scene' hc h => ⟨⟨?_, ?_⟩, ?_⟩) h
  · intro hcluster
    cases c with
    | request r => cases hc
    | _ => cases hcluster
  · rintro path rfl
    cases hc
  · cases c <;> first | exact h | cases hc

/-! ## Setting the kubeconfig -/

def Settled (s : Setup) (m : Machine) (state : Session Screen Toolbox) : Prop :=
  s.Equipped m none state.outside ∨ s.Equipped m s.kubeconfigPath state.outside

def SetUp (s : Setup) (m : Machine) (r : Except ε α) (scene : Scene (Session Screen Toolbox)) :
    Prop :=
  match r with
  | .ok _ => s.kubeconfigPath.isSome ∧ s.Kitted m s.kubeconfigPath scene.state
  | .error _ => s.Settled m scene.state

def SetsUp (s : Setup) (m : Machine) (observer : Observer Screen) (store : KubeconfigStore)
    (t : ExceptT ε Flow α) (scene : Scene (Session Screen Toolbox)) : Prop :=
  Flow.Meets (Session.respond Toolbox.outside observer store) s.Permits (s.SetUp m) t.run scene

def Settles (s : Setup) (m : Machine) (observer : Observer Screen) (store : KubeconfigStore)
    (t : ExceptT ε Flow α) (scene : Scene (Session Screen Toolbox)) : Prop :=
  Flow.Meets (Session.respond Toolbox.outside observer store) s.Permits
    (fun _ scene' => s.Settled m scene'.state) t.run scene

theorem Kitted.setUp (h : s.Kitted m s.kubeconfigPath scene.state)
    (known : s.kubeconfigPath.isSome) (r : Except ε α) : s.SetUp m r scene := by
  cases r with
  | ok a => exact ⟨known, h⟩
  | error e => exact .inr h.toolbox

theorem Kitted.setKubeconfig (h : s.Kitted m none scene.state)
    (known : s.kubeconfigPath = some path) :
    Flow.Meets (Session.respond Toolbox.outside observer store) s.Permits
      (fun _ scene' => s.Kitted m s.kubeconfigPath scene'.state)
      (Attempt.call (.request (.setKubeconfig path))).run scene := by
  have hset := h.toolbox.answers_setKubeconfig
    (Toolbox.outside_answers scene.state.files (.setKubeconfig path) scene.state.outside)
  rw [← known] at hset
  refine ⟨⟨nofun, ?_⟩, hset, h.environment⟩
  rintro _ ⟨⟩
  exact known

theorem adoptLogin_setsUp (stored : s.store = .ok store)
    (given : s.environment.values.getFilled? Environment.kubeconfigVar = none)
    (inNamespace cluster : String) (blob : List UInt8) (h : s.Kitted m none scene.state) :
    s.SetsUp m observer store (Bootstrapper.adoptLogin inNamespace cluster blob) scene := by
  have known : s.kubeconfigPath = some store.path := by
    simp only [kubeconfigPath, stored, given]
    rfl
  refine (h.meets (Flow.makes_ofExcept _)).andThen (fun config scene h => ?_)
    fun _ _ h => .inl h.toolbox
  refine (h.meets (Flow.makes_ofExcept _)).andThen (fun login scene h => ?_)
    fun _ _ h => .inl h.toolbox
  have hadd : Flow.Meets (Session.respond Toolbox.outside observer store) s.Permits
      (fun r scene' => s.Kitted m none scene'.state ∧ ∀ path, r = .ok path → path = store.path)
      (Attempt.wrap (.updateContext cluster)
        (Attempt.of (Flow.call (.addContext cluster login)))).run scene := by
    refine ⟨⟨nofun, nofun⟩, h.respond ⟨rfl, nofun⟩, fun path hpath => ?_⟩
    have hanswer : (Session.respond Toolbox.outside observer store (.addContext cluster login)
        scene.state).answer =
          (store.add login scene.state.files (scene.state.disks.headD {})).1 := rfl
    rw [hanswer] at hpath
    cases hadded : (store.add login scene.state.files (scene.state.disks.headD {})).1 with
    | ok added =>
      rw [hadded] at hpath
      cases hpath
      exact (KubeconfigStore.merged_of_add (Prod.ext hadded rfl)).1
    | error e =>
      rw [hadded] at hpath
      cases hpath
  refine hadd.andThen (fun path scene h => ?_) fun _ _ h => .inl h.1.toolbox
  obtain ⟨h, hpath⟩ := h
  rw [← hpath path rfl] at known
  refine (h.setKubeconfig known).andThen (fun _ scene h => ?_) fun _ _ h => .inr h.toolbox
  have hset := Option.isSome_of_eq_some known
  have huse : Flow.Makes (Call.Suits s.kubeconfigPath) (Attempt.wrap (.useContext cluster)
      (Attempt.of (Flow.call (.request (.useContext cluster))))).run :=
    .wrap _ (Flow.makes_of (.request (.useContext cluster)) id ⟨rfl, fun _ => hset⟩)
  exact (h.meets huse).andThen (fun _ _ h => ⟨hset, h⟩) fun _ _ h => .inr h.toolbox

theorem SetsUp.wrap {t : Attempt α} (f : Error → Error) (h : s.SetsUp m observer store t scene) :
    s.SetsUp m observer store (Attempt.wrap f t) scene := by
  refine Flow.meets_bind.mpr (h.mono fun r scene' hr => ?_)
  cases r with
  | ok a => exact hr
  | error e => exact hr

theorem SetsUp.under {t : Attempt α} (context : String)
    (h : s.SetsUp m observer store t scene) :
    s.SetsUp m observer store (t.under context) scene := by
  refine Flow.meets_bind.mpr (h.mono fun r scene' hr => ?_)
  cases r with
  | ok a => exact hr
  | error e => exact hr

theorem SetsUp.settles {t : ExceptT ε Flow α} (h : s.SetsUp m observer store t scene) :
    s.Settles m observer store t scene := by
  refine h.mono fun r scene' ended => ?_
  cases r with
  | ok a => exact .inr ended.2.toolbox
  | error e => exact ended

theorem SetsUp.andThen {t : ExceptT ε Flow α} {f : α → ExceptT ε Flow β}
    (h : s.SetsUp m observer store t scene)
    (hf : ∀ a, s.kubeconfigPath.isSome → Flow.Makes (Call.Suits s.kubeconfigPath) (f a).run) :
    s.SetsUp m observer store (t >>= f) scene := by
  refine Flow.Meets.andThen h (fun a scene' ended => ?_) fun _ _ ended => ended
  exact (ended.2.meets (hf a ended.1)).mono fun r _ hr => hr.setUp ended.1 r

variable {b : Bootstrapper}

theorem login_setsUp (stored : s.store = .ok store)
    (given : s.environment.values.getFilled? Environment.kubeconfigVar = none)
    (h : s.Kitted m none scene.state) :
    s.SetsUp m observer store b.login scene := by
  unfold Bootstrapper.login
  cases b.config.cluster with
  | none => exact .inl h.toolbox
  | some cluster =>
    have hfetch : Flow.Makes (Call.Suits none) (Attempt.wrap (.bootstrap .credentialsFetched)
        (Bootstrapper.fetchLogin b.target cluster)).run := by
      refine .wrap _ ((Bootstrapper.fetchLogin_makes _ _).mono ?_)
      rintro _ rfl
      exact ⟨rfl, nofun⟩
    refine (h.meets hfetch).andThen (fun blob scene h => ?_) fun _ _ h => .inl h.toolbox
    refine (h.meets (Flow.makes_call (c := .reach _) ⟨rfl, nofun⟩)).andThen (fun _ scene h => ?_)
      fun _ _ h => .inl h.toolbox
    refine ((adoptLogin_setsUp stored given _ _ _ h).wrap _).andThen fun path _ => ?_
    exact .andThen (Flow.makes_call ⟨rfl, nofun⟩) fun _ => trivial

theorem access_setsUp (configured : b.config = s.bootstrapConfig) (stored : s.store = .ok store)
    (h : s.Kitted m none scene.state) :
    s.SetsUp m observer store b.access scene := by
  have hoverride : b.config.kubeconfigOverride =
      s.environment.values.getFilled? Environment.kubeconfigVar := by
    rw [configured]
    rfl
  unfold Bootstrapper.access
  rw [hoverride]
  cases given : s.environment.values.getFilled? Environment.kubeconfigVar with
  | none => exact (login_setsUp stored given h).andThen fun _ _ => trivial
  | some path =>
    have known : s.kubeconfigPath = some path := by
      simp only [kubeconfigPath, stored, given]
      rfl
    refine (h.setKubeconfig known).andThen (fun _ scene h => ?_) fun _ _ h => .inr h.toolbox
    exact ⟨Option.isSome_of_eq_some known, h⟩

theorem run_setsUp (configured : b.config = s.bootstrapConfig) (stored : s.store = .ok store)
    (event : LifecycleEvent) (h : s.Kitted m none scene.state) :
    s.SetsUp m observer store (b.run event) scene := by
  refine (h.meets (Flow.makes_call (c := .reach _) ⟨rfl, nofun⟩)).andThen (fun _ scene h => ?_)
    fun _ _ h => .inl h.toolbox
  refine (access_setsUp configured stored h).andThen fun accessed hset => ?_
  apply Flow.Makes.andThen
  · refine .wrap _ ((Bootstrapper.ensureNamespace_makes _).mono ?_)
    rintro _ (_ | _)
    · exact ⟨rfl, fun _ => hset⟩
    · exact ⟨rfl, fun _ => hset⟩
  intro _
  refine .andThen (Flow.makes_call ⟨rfl, nofun⟩) fun _ => ?_
  apply Flow.Makes.andThen
  · unfold Bootstrapper.notice
    split
    · exact Flow.makes_call ⟨rfl, nofun⟩
    · trivial
  exact fun _ => .andThen (Flow.makes_call ⟨rfl, nofun⟩) fun _ => trivial

theorem stored_of_bootstrapper (h : s.bootstrapper = .ok b) :
    ∃ store, s.store = .ok store ∧ b.ensured = none := by
  unfold bootstrapper at h
  cases hs : s.store with
  | error e =>
    rw [hs] at h
    cases h
  | ok store =>
    rw [hs] at h
    cases h
    exact ⟨store, rfl, rfl⟩

theorem ensureAccess_setsUp (agrees : ∀ stored, s.store = .ok stored → stored = store)
    (h : s.Kitted m none scene.state) :
    s.SetsUp m observer store s.ensureAccess scene := by
  cases hb : s.bootstrapper with
  | error e =>
    unfold ensureAccess
    rw [hb]
    exact .inl h.toolbox
  | ok b =>
    obtain ⟨stored, hstored, hfresh⟩ := stored_of_bootstrapper hb
    obtain rfl := agrees stored hstored
    have hconfig := config_of_bootstrapper hb
    have hensure : s.SetsUp m observer stored
        (Attempt.of (Flow.bind b.ensure fun r => .done r.1)) scene := by
      refine Flow.meets_bind.mpr ?_
      unfold Bootstrapper.ensure
      rw [hfresh]
      exact Flow.meets_bind.mpr (run_setsUp hconfig hstored .preDeploy h)
    unfold ensureAccess
    rw [hb]
    exact hensure.under _

/-! ## The jobs -/

theorem observes_suits {c : Call} (h : c.Observes) (set : kubeconfig.isSome) :
    c.Suits kubeconfig := by
  cases h with
  | list kind => exact ⟨rfl, fun _ => set⟩
  | rolloutStatus deployment => exact ⟨rfl, fun _ => set⟩
  | report label => exact ⟨rfl, nofun⟩
  | warn warning => exact ⟨rfl, nofun⟩

/-- The values that are handed over are the ones that the client has already. -/
theorem applyManifests_meets (set : kubeconfig.isSome) (service : ServiceConfig)
    (h : s.Kitted m kubeconfig scene.state) :
    Flow.Meets (Session.respond Toolbox.outside observer store) s.Permits
      (fun _ scene' => s.Kitted m kubeconfig scene'.state)
      (Deploy.applyManifests service).run scene := by
  have hvalues : Flow.Meets (Session.respond Toolbox.outside observer store) s.Permits
      (fun r scene' => s.Kitted m kubeconfig scene'.state ∧
        ∀ values, r = .ok values → values = s.environment.values)
      (Attempt.call .environmentValues).run scene := by
    refine ⟨⟨nofun, nofun⟩, h.respond ⟨rfl, nofun⟩, ?_⟩
    rintro _ ⟨⟩
    exact congrArg EnvFile.values h.environment
  refine hvalues.andThen (fun values scene h => ?_) fun _ _ h => h.1
  obtain ⟨h, hvalues⟩ := h
  obtain rfl := hvalues values rfl
  have hhandOver : Flow.Meets (Session.respond Toolbox.outside observer store) s.Permits
      (fun _ scene' => s.Kitted m kubeconfig scene'.state)
      (Attempt.call (.request (.setEnvironment s.environment.values))).run scene := by
    refine ⟨⟨nofun, nofun⟩, h.toolbox.answers (Toolbox.outside_answers scene.state.files
      (.setEnvironment s.environment.values) scene.state.outside) ?_ nofun, h.environment⟩
    rw [h.toolbox.client]
    rfl
  refine hhandOver.andThen (fun _ scene h => ?_) fun _ _ h => h
  refine h.meets (.andThen (Flow.makes_call (c := .report _) ⟨rfl, nofun⟩) fun _ => ?_)
  apply Flow.Makes.andThen
  · exact .wrap _ (Flow.makes_of (.request (.apply _)) id ⟨rfl, fun _ => set⟩)
  · exact fun _ => trivial

theorem deployRun_meets (set : kubeconfig.isSome) (service : ServiceConfig)
    (package : Option ServicePackage) (target : TargetResource) (poll : PollOptions)
    (h : s.Kitted m kubeconfig scene.state) :
    Flow.Meets (Session.respond Toolbox.outside observer store) s.Permits
      (fun _ scene' => s.Equipped m kubeconfig scene'.state.outside)
      (Deploy.run service package target poll).run scene := by
  refine (h.meets (Flow.makes_ofExcept _)).andThen (fun _ scene h => ?_) fun _ _ h => h.toolbox
  refine (h.meets (Flow.makes_ofExcept _)).andThen (fun package scene h => ?_)
    fun _ _ h => h.toolbox
  have hpush : Flow.Makes (Call.Suits kubeconfig) (Attempt.wrap (.containerDeploy service.name)
      (Attempt.of (Flow.call (.request (.push service.name package target.name))))).run :=
    .wrap _ (Flow.makes_of (.request (.push _ _ _)) id ⟨rfl, nofun⟩)
  refine (h.meets hpush).andThen (fun _ scene h => ?_) fun _ _ h => h.toolbox
  refine (applyManifests_meets set service h).andThen (fun _ scene h => ?_) fun _ _ h => h.toolbox
  have hverify := (Deploy.verify_makes service poll).mono fun c hc => observes_suits hc set
  refine (h.meets hverify).andThen (fun found scene h => ?_) fun _ _ h => h.toolbox
  refine h.toolbox.meets (.andThen ((Deploy.record_makes service found.2).mono ?_)
    fun _ => trivial)
  rintro _ (_ | _) <;> rfl

theorem deploy_settles (agrees : ∀ stored, s.store = .ok stored → stored = store)
    (package : ServicePackage) (h : s.Kitted m none scene.state) :
    s.Settles m observer store (s.deploy package) scene := by
  have hsay (line : String) : Flow.Makes (Call.Suits none) (Routine.say line).run :=
    ⟨⟨rfl, nofun⟩, fun _ => trivial⟩
  refine (h.meets (under_makes _ (Flow.makes_ofExcept _))).andThen (fun _ scene h => ?_)
    fun _ _ h => .inl h.toolbox
  refine (h.meets (hsay _)).andThen (fun _ scene h => ?_) fun _ _ h => .inl h.toolbox
  refine (h.meets (hsay _)).andThen (fun _ scene h => ?_) fun _ _ h => .inl h.toolbox
  refine Flow.Meets.andThen (ensureAccess_setsUp agrees h) (fun _ scene h => ?_) fun _ _ h => h
  obtain ⟨hset, h⟩ := h
  have hrun (context : String) : Flow.Meets (Session.respond Toolbox.outside observer store)
      s.Permits (fun _ scene' => s.Equipped m s.kubeconfigPath scene'.state.outside)
      (Attempt.under context
        (Deploy.run s.service (some package) s.target s.settings.poll)).run scene :=
    Flow.meets_bind.mpr (deployRun_meets hset _ _ _ _ h)
  refine (hrun _).andThen (fun result scene h => ?_) fun _ _ h => .inr h
  exact (h.meets (sayAll_makes (fun _ => rfl) _)).mono fun _ _ h => .inr h

theorem endpoints_settles (agrees : ∀ stored, s.store = .ok stored → stored = store)
    (h : s.Kitted m none scene.state) :
    s.Settles m observer store s.endpoints scene := by
  have hsay (line : String) : Call.Suits s.kubeconfigPath (.say line) := ⟨rfl, nofun⟩
  refine ((ensureAccess_setsUp agrees h).andThen fun _ hset => ?_).settles
  have hfind := (Deploy.endpoints_makes s.service s.settings.poll).mono fun c hc =>
    observes_suits hc hset
  refine .andThen (under_makes _ hfind) fun found => ?_
  dsimp only
  split
  · exact .andThen (say_makes hsay _) fun _ => sayAll_makes hsay _
  · exact sayAll_makes hsay _

theorem context_settles (agrees : ∀ stored, s.store = .ok stored → stored = store)
    (h : s.Kitted m none scene.state) :
    s.Settles m observer store s.context scene := by
  have hsay (kubeconfig : Option String) (line : String) : Call.Suits kubeconfig (.say line) :=
    ⟨rfl, nofun⟩
  refine (h.meets (say_makes (hsay none) _)).andThen (fun _ scene h => ?_)
    fun _ _ h => .inl h.toolbox
  cases hb : s.bootstrapper with
  | error e => exact .inl h.toolbox
  | ok b =>
    obtain ⟨stored, hstored, _⟩ := stored_of_bootstrapper hb
    obtain rfl := agrees stored hstored
    have hconfig := config_of_bootstrapper hb
    have hrun (context : String) :
        s.SetsUp m observer stored (Attempt.under context (b.run .postProvision)) scene :=
      (run_setsUp hconfig hstored .postProvision h).under context
    refine ((hrun _).andThen fun outcome _ => ?_).settles
    exact .andThen (say_makes (hsay _) _) fun _ => say_makes (hsay _) _

theorem routine_settles (agrees : ∀ stored, s.store = .ok stored → stored = store) (job : Job)
    (h : s.Kitted m none scene.state) :
    s.Settles m observer store (s.routine job) scene := by
  cases job with
  | deploy package => exact deploy_settles agrees package h
  | endpoints => exact endpoints_settles agrees h
  | context => exact context_settles agrees h

end Session

theorem kubeconfig_of_unset {observer : Observer Screen} {store : KubeconfigStore}
    {t left : Flow α} {scene scene' : Scene (Session Screen Toolbox)} {made : List Step}
    (position : LeadsTo (Session.respond Toolbox.outside observer store) t scene made left scene')
    (unset : ∀ step ∈ made, step.call.setsKubeconfig = false) :
    scene'.state.outside.kubectl.kubeconfig = scene.state.outside.kubectl.kubeconfig := by
  induction position with
  | here => rfl
  | @ask c next scene scene' made left later ih =>
    refine (ih fun step hstep => unset step (List.mem_cons_of_mem _ hstep)).trans ?_
    have hfirst : c.setsKubeconfig = false := unset _ List.mem_cons_self
    cases c with
    | request r =>
      have hanswers := Toolbox.outside_answers scene.state.files r scene.state.outside
      refine (congrArg KubectlClient.kubeconfig hanswers.client).trans ?_
      cases r <;> first | rfl | cases hfirst
    | _ => rfl
  | clock later ih => exact ih unset
  | pause later ih => exact ih unset

structure Pinned (s : Setup) (m : Machine) (r : JobRun) : Prop where
  sets : ∀ step ∈ r.steps, ∀ path, step.call = .request (.setKubeconfig path) →
    s.kubeconfigPath = some path
  /-- Nothing is asked of the cluster before the kubeconfig is set. -/
  first : ∀ made step later, r.steps = made ++ step :: later → step.call.toCluster →
    ∃ set ∈ made, set.call.setsKubeconfig
  started : m.Starts (s.MayStart m s.kubeconfigPath) r.after.machine
  unset : (∀ step ∈ r.steps, step.call.setsKubeconfig = false) →
    m.Starts (s.Supplies m) r.after.machine

theorem run_pinned (s : Setup) (w : Workstation) (job : Job) :
    s.Pinned w.machine (s.run w job) := by
  have hstart : s.Kitted w.machine none (s.start w).state := ⟨⟨.refl _, rfl, rfl, rfl⟩, rfl⟩
  have hmeets : Flow.Meets (s.surroundings w.machine.home) s.Permits
      (fun _ scene => s.Settled w.machine scene.state) (s.routine job).run (s.start w) := by
    refine routine_settles (fun stored hstored => ?_) job hstart
    rw [hstored]
    rfl
  have hend : LeadsTo (s.surroundings w.machine.home) (s.routine job).run (s.start w) _ _ _ :=
    LeadsTo.of_run _ _
  constructor
  case sets =>
    intro step hstep path hset
    obtain ⟨made, later, hsteps⟩ := List.append_of_mem hstep
    obtain ⟨next, scene, position, _⟩ := LeadsTo.of_step hsteps
    exact (hmeets.call position).2 path hset
  case first =>
    intro made step later hsteps hcluster
    obtain ⟨next, scene, position, _⟩ := LeadsTo.of_step hsteps
    have hset := (hmeets.call position).1 hcluster
    -- the client starts without a kubeconfig, so one of the calls before has set it
    by_contra hnone
    have hunset := kubeconfig_of_unset position fun set hmade =>
      Bool.eq_false_iff.mpr fun h => hnone ⟨set, hmade, h⟩
    rw [hunset] at hset
    cases hset
  case started =>
    rcases hmeets.finish with hbefore | hafter
    · exact (supplies_of_none hbefore.started).mono fun _ => .inr
    · exact hafter.started
  case unset =>
    intro hunset
    have hnone := kubeconfig_of_unset hend hunset
    rcases hmeets.finish with hbefore | hafter
    · exact supplies_of_none hbefore.started
    · rw [hafter.client] at hnone
      have hpath : s.kubeconfigPath = none := hnone
      rw [hpath] at hafter
      exact supplies_of_none hafter.started

end Setup

namespace CommandLine

def pointed : Workstation where
  files := { entries := [(["settings"], .file []),
    (["service"], .file (Text.encodeUtf8 "name: api\nproject: todo")),
    (["env"], .file (Text.encodeUtf8 "KUBECONFIG=k"))] }
  machine := {
    vars := [("PATH", "/bin")], toolFolder := "/bin", installed := ["kubectl"]
    behave := fun _ _ => {} }

example : ((contextOf "b").run pointed).after.machine.log.map (·.args) =
    [["--kubeconfig", "k", "create", "namespace", "todo", "--dry-run=client", "-o", "yaml"],
      ["--kubeconfig", "k", "apply", "-f", "-"]] := by
  decide +kernel

end CommandLine

end ClusterDeploy
