import ClusterDeploy.Proofs.Flow.Outcomes
import ClusterDeploy.Proofs.Job.Cluster
import ClusterDeploy.Proofs.Job.Inquiry
import ClusterDeploy.Proofs.Job.Kubeconfig
/-!
# Jobs that only look

Whatever is answered, a job that shows the endpoints or sets up the access stays on the way of an
inquiry. Each part of it is described by the station that it leaves when it succeeds; a part that
fails leaves the beginning of an inquiry.
-/
namespace ClusterDeploy

inductive Call.Looks : Call → Prop
  | credentials (subscription resourceGroup cluster : String) :
      Looks (.request (.credentials subscription resourceGroup cluster))
  | setKubeconfig (path : String) : Looks (.request (.setKubeconfig path))
  | useContext (name : String) : Looks (.request (.useContext name))
  | render (name : String) : Looks (.request (.createNamespace name .dryRunYaml))
  | applyInput (manifest : String) : Looks (.request (.applyInput manifest))
  | services : Looks (.request (.list .service))
  | ingresses : Looks (.request (.list .ingress))
  | addContext (name : String) (login : Kubeconfig) : Looks (.addContext name login)
  | reach (state : BootstrapState) : Looks (.reach state)
  | warn (warning : Warning) : Looks (.warn warning)
  | say (line : String) : Looks (.say line)

def Call.IsInternal : Call → Prop
  | .request _ => False
  | _ => True

def Call.IsQuiet (c : Call) : Prop := c.IsInternal ∧ c.Looks

theorem Session.respond_internal {outside : Outside τ} {observer : Observer π}
    {store : KubeconfigStore} {c : Call} (h : c.IsInternal) (state : Session π τ) :
    (Session.respond outside observer store c state).after.outside = state.outside := by
  cases c <;> first | rfl | cases h

namespace Setup

variable {s : Setup} {m : Machine} {path : String} {observer : Observer π}
  {store : KubeconfigStore} {scene : Scene (Session π Toolbox)} {b : Bootstrapper}

/-! ## The bootstrap -/

def Proceeds (s : Setup) (m : Machine) (observer : Observer π) (store : KubeconfigStore)
    (done : α → Toolbox → Prop) (t : ExceptT ε Flow α) (scene : Scene (Session π Toolbox)) : Prop :=
  Flow.Leaves (Session.respond Toolbox.outside observer store) Call.Looks
    (fun a state => done a state.outside) (fun state => s.Inquired m 0 0 state.outside.machine) t
    scene

def Stays (observer : Observer π) (store : KubeconfigStore) (kept : Toolbox → Prop)
    (t : ExceptT ε Flow α) (scene : Scene (Session π Toolbox)) : Prop :=
  Flow.Leaves (Session.respond Toolbox.outside observer store) Call.Looks
    (fun _ state => kept state.outside) (fun state => kept state.outside) t scene

theorem Stays.mono {t : ExceptT ε Flow α} {kept kept' : Toolbox → Prop}
    (h : Stays observer store kept t scene) (weaker : ∀ t, kept t → kept' t) :
    Stays observer store kept' t scene :=
  Flow.Leaves.mono h (fun _ state => weaker state.outside) fun state => weaker state.outside

theorem stays_internal {t : ExceptT ε Flow α} {kept : Toolbox → Prop}
    (makes : Flow.Makes Call.IsQuiet t.run)
    (holds : kept scene.state.outside) : Stays observer store kept t scene := by
  refine makes.leaves (fun c hc => hc.2) (fun c state hc hkept => ?_) holds
  rwa [Session.respond_internal hc.1]

theorem proceeds_internal {t : ExceptT ε Flow α}
    (makes : Flow.Makes Call.IsQuiet t.run) {kept : Toolbox → Prop}
    (stops : ∀ t, kept t → s.Inquired m 0 0 t.machine) (holds : kept scene.state.outside) :
    s.Proceeds m observer store (fun _ => kept) t scene :=
  Flow.Leaves.mono (stays_internal makes holds) (fun _ _ h => h) fun state => stops state.outside

theorem proceeds_ask {done : α → Toolbox → Prop} (r : Request) (read : r.Answer → Except Error α)
    (looks : Call.Looks (.request r))
    (h : Flow.Concludes done (fun t => s.Inquired m 0 0 t.machine)
      (read (Toolbox.outside scene.state.files r scene.state.outside).answer)
      (Toolbox.outside scene.state.files r scene.state.outside).after) :
    s.Proceeds m observer store done
      (Attempt.of (.ask (.request r) fun answer => .done (read answer))) scene :=
  .ask (.request r) read looks
    (.of_view Session.outside done (fun t => s.Inquired m 0 0 t.machine) h)

theorem reach_makes (state : BootstrapState) :
    Flow.Makes Call.IsQuiet (Attempt.call (.reach state)).run :=
  Flow.makes_call ⟨trivial, .reach state⟩

theorem inquired_of_fresh (t : Toolbox) (fresh : t = s.toolbox m) :
    s.Inquired m 0 0 t.machine := by
  subst fresh
  exact (underway_start s m).inquired_start

theorem fetchLogin_proceeds {cluster : String}
    (given : s.environment.values.getFilled? Environment.kubeconfigVar = none)
    (named : s.bootstrapConfig.cluster = some cluster)
    (fresh : scene.state.outside = s.toolbox m) :
    s.Proceeds m observer store (fun _ => s.Underway m none none [])
      (Bootstrapper.fetchLogin s.target cluster) scene := by
  have hlogin := underway_login (m := m) given named scene.state.files
  rw [← fresh] at hlogin
  have hask : s.Proceeds m observer store (fun _ => s.Underway m none none [])
      (Attempt.wrap .fetchCredentials (Attempt.of (Flow.call (.request
        (.credentials s.target.subscription s.target.resourceGroup cluster))))) scene := by
    refine .wrap _ (proceeds_ask (.credentials _ _ cluster) id (.credentials _ _ _) ?_)
    exact .of_both _ (fun _ => hlogin) hlogin.inquired_start
  refine Flow.Leaves.andThen hask fun blobs scene h => ?_
  exact proceeds_internal (Flow.makes_ofExcept _) (fun _ h => h.inquired_start) h

theorem adoptLogin_proceeds {cluster : String}
    (given : s.environment.values.getFilled? Environment.kubeconfigVar = none)
    (named : s.bootstrapConfig.cluster = some cluster) (inNamespace : String) (blob : List UInt8)
    (h : s.Underway m none none [] scene.state.outside) :
    s.Proceeds m observer store (fun path => s.Switched m path)
      (Bootstrapper.adoptLogin inNamespace cluster blob) scene := by
  refine Flow.Leaves.andThen (proceeds_internal (Flow.makes_ofExcept _)
    (fun _ h => h.inquired_start) h) fun config scene h => ?_
  refine Flow.Leaves.andThen (proceeds_internal (Flow.makes_ofExcept _)
    (fun _ h => h.inquired_start) h) fun login scene h => ?_
  have hadd := Flow.makes_of (p := Call.IsQuiet)
    (.addContext cluster login) id ⟨trivial, .addContext _ _⟩
  refine Flow.Leaves.andThen (proceeds_internal (.wrap _ hadd)
    (fun _ h => h.inquired_start) h) fun path scene h => ?_
  have hset : s.Proceeds m observer store (fun _ => s.Underway m (some path) none [])
      (Attempt.call (.request (.setKubeconfig path))) scene :=
    ⟨.setKubeconfig path, h.setKubeconfig (.inr (Option.isSome_of_eq_some named)) path⟩
  refine Flow.Leaves.andThen hset fun _ scene h => ?_
  have huse : s.Proceeds m observer store (fun _ => s.Switched m path)
      (Attempt.of (Flow.call (.request (.useContext cluster)))) scene :=
    proceeds_ask (.useContext cluster) id (.useContext _) (h.switches given named scene.state.files)
  exact .andThen (.wrap _ huse) fun _ _ h => h

theorem login_proceeds
    (given : s.environment.values.getFilled? Environment.kubeconfigVar = none)
    (configured : b.config = s.bootstrapConfig) (aimed : b.target = s.target)
    (fresh : scene.state.outside = s.toolbox m) :
    s.Proceeds m observer store (fun path => s.Switched m path) b.login scene := by
  unfold Bootstrapper.login
  rw [configured, aimed]
  cases named : s.bootstrapConfig.cluster with
  | none => exact inquired_of_fresh _ fresh
  | some cluster =>
    refine .andThen (.wrap _ (fetchLogin_proceeds given named fresh)) fun blob scene h => ?_
    refine Flow.Leaves.andThen (proceeds_internal (reach_makes _) (fun _ h => h.inquired_start) h)
      fun _ scene h => ?_
    refine .andThen (.wrap _ (adoptLogin_proceeds given named _ blob h)) fun path scene h => ?_
    exact Flow.Leaves.andThen (proceeds_internal (reach_makes _) (fun _ h => h.inquired) h)
      fun _ _ h => h

theorem access_proceeds (configured : b.config = s.bootstrapConfig) (aimed : b.target = s.target)
    (fresh : scene.state.outside = s.toolbox m) :
    s.Proceeds m observer store (fun accessed => s.Switched m accessed.1) b.access scene := by
  have hoverride : b.config.kubeconfigOverride =
      s.environment.values.getFilled? Environment.kubeconfigVar := by
    rw [configured]
    rfl
  unfold Bootstrapper.access
  rw [hoverride]
  cases given : s.environment.values.getFilled? Environment.kubeconfigVar with
  | none => exact .andThen (login_proceeds given configured aimed fresh) fun _ _ h => h
  | some path =>
    have hstart := underway_start s m
    rw [← fresh] at hstart
    have hswitches : s.switches = [] := by
      unfold switches
      rw [given]
    have hset : s.Proceeds m observer store (fun _ => s.Switched m path)
        (Attempt.call (.request (.setKubeconfig path))) scene := by
      refine ⟨.setKubeconfig path, ?_⟩
      unfold Switched
      rw [hswitches]
      exact hstart.setKubeconfig (.inl (Option.isSome_of_eq_some given)) path
    exact Flow.Leaves.andThen hset fun _ _ h => h

theorem ensureNamespace_proceeds (h : s.Switched m path scene.state.outside) :
    s.Proceeds m observer store (fun _ => s.Listing m 0 0)
      (Bootstrapper.ensureNamespace s.service.inNamespace) scene := by
  have hrender : s.Proceeds m observer store (fun rendering => s.Rendered m path rendering.stdout)
      (Attempt.of (Flow.call (.request (.createNamespace s.service.inNamespace .dryRunYaml))))
      scene :=
    proceeds_ask (.createNamespace _ _) id (.render _) (h.renders scene.state.files)
  refine .andThen (.wrap _ hrender) fun rendering scene h => ?_
  have happly : s.Proceeds m observer store (fun _ => s.Listing m 0 0)
      (Attempt.of (Flow.call (.request (.applyInput rendering.stdout)))) scene :=
    proceeds_ask (.applyInput _) id (.applyInput _) (h.applies scene.state.files)
  exact .andThen (.wrap _ happly) fun _ _ h => h

theorem run_proceeds (configured : b.config = s.bootstrapConfig) (aimed : b.target = s.target)
    (event : LifecycleEvent) (fresh : scene.state.outside = s.toolbox m) :
    s.Proceeds m observer store (fun _ => s.Listing m 0 0) (b.run event) scene := by
  have hnotice (path : String) (usedOverride : Bool) :
      Flow.Makes Call.IsQuiet
        (Bootstrapper.notice path usedOverride event).run := by
    unfold Bootstrapper.notice
    split
    · exact Flow.makes_call ⟨trivial, .warn _⟩
    · trivial
  refine Flow.Leaves.andThen (proceeds_internal (reach_makes _) inquired_of_fresh fresh)
    fun _ scene fresh => ?_
  refine .andThen (access_proceeds configured aimed fresh) fun accessed scene h => ?_
  have hnamespace : b.config.inNamespace = s.service.inNamespace := by
    rw [configured]
    rfl
  rw [hnamespace]
  refine .andThen (.wrap _ (ensureNamespace_proceeds h)) fun _ scene h => ?_
  refine Flow.Leaves.andThen (proceeds_internal (reach_makes _) (fun _ h => h.inquired) h)
    fun _ scene h => ?_
  refine Flow.Leaves.andThen (proceeds_internal (hnotice _ _) (fun _ h => h.inquired) h)
    fun _ scene h => ?_
  exact Flow.Leaves.andThen (proceeds_internal (reach_makes _) (fun _ h => h.inquired) h)
    fun _ _ h => h

theorem target_of_bootstrapper (h : s.bootstrapper = .ok b) : b.target = s.target := by
  unfold bootstrapper at h
  cases hs : s.store with
  | ok store =>
    rw [hs] at h
    cases h
    rfl
  | error e =>
    rw [hs] at h
    cases h

theorem ensureAccess_proceeds (fresh : scene.state.outside = s.toolbox m) :
    s.Proceeds m observer store (fun _ => s.Listing m 0 0) s.ensureAccess scene := by
  unfold ensureAccess
  cases hb : s.bootstrapper with
  | error e => exact inquired_of_fresh _ fresh
  | ok b =>
    obtain ⟨_, _, hensured⟩ := stored_of_bootstrapper hb
    have hrun : s.Proceeds m observer store (fun _ => s.Listing m 0 0) (b.run .preDeploy) scene :=
      run_proceeds (config_of_bootstrapper hb) (target_of_bootstrapper hb) .preDeploy fresh
    have hensure : s.Proceeds m observer store (fun _ => s.Listing m 0 0)
        (Attempt.of (Flow.bind b.ensure fun r => .done r.1)) scene := by
      refine Flow.meets_bind.mpr ?_
      unfold Bootstrapper.ensure
      rw [hensured]
      exact Flow.meets_bind.mpr hrun
    exact hensure.under _

/-! ## The jobs -/

theorem context_proceeds (fresh : scene.state.outside = s.toolbox m) :
    s.Proceeds m observer store (fun _ t => s.Inquired m 0 0 t.machine) s.context scene := by
  have hsay (line : String) : Flow.Makes Call.IsQuiet
      (Routine.say line).run := say_makes (fun line => ⟨trivial, .say line⟩) line
  refine Flow.Leaves.andThen (proceeds_internal (hsay _) inquired_of_fresh fresh)
    fun _ scene fresh => ?_
  have hready : s.Proceeds m observer store
      (fun b t => s.bootstrapper = .ok b ∧ t = s.toolbox m) (Routine.ofExcept s.bootstrapper)
      scene := by
    cases hb : s.bootstrapper with
    | error e => exact inquired_of_fresh _ fresh
    | ok b => exact ⟨rfl, fresh⟩
  refine Flow.Leaves.andThen hready fun b scene h => ?_
  obtain ⟨hb, fresh⟩ := h
  have hrun : s.Proceeds m observer store (fun _ => s.Listing m 0 0) (b.run .postProvision)
      scene :=
    run_proceeds (config_of_bootstrapper hb) (target_of_bootstrapper hb) .postProvision fresh
  refine Flow.Leaves.andThen (hrun.under accessContext) fun outcome scene h => ?_
  refine Flow.Leaves.andThen (proceeds_internal (hsay _) (fun _ h => h.inquired) h)
    fun _ scene h => ?_
  exact (proceeds_internal (hsay _) (fun _ h => h.inquired) h).mono (fun _ _ h => h.inquired)
    fun _ h => h

def Lists (kind : ResourceKind) (c : Call) : Prop :=
  c = .request (.list kind) ∨ c.IsQuiet

theorem awaitService_makes (filter : String) (poll : PollOptions) :
    Flow.Makes (Lists .service) (Endpoint.awaitService filter poll).run := by
  refine .andThen (Watch.wait_makes _ (.inl rfl)) fun _ => ?_
  exact .andThen (Attempt.warnAll_makes (fun w => .inr ⟨trivial, .warn w⟩) _) fun _ => trivial

theorem awaitIngress_makes (filter relativePath : String) (poll : PollOptions) :
    Flow.Makes (Lists .ingress) (Endpoint.awaitIngress filter relativePath poll).run := by
  refine .andThen (Watch.wait_makes _ (.inl rfl)) fun _ => ?_
  exact .andThen (Attempt.warnAll_makes (fun w => .inr ⟨trivial, .warn w⟩) _) fun _ =>
    Flow.makes_ofExcept _

theorem stays_listing {t : ExceptT ε Flow α} {kind : ResourceKind} {kept : Toolbox → Prop}
    (makes : Flow.Makes (Lists kind) t.run) (looks : Call.Looks (.request (.list kind)))
    (keeps : ∀ t files, kept t → kept (Toolbox.outside files (.list kind) t).after)
    (holds : kept scene.state.outside) : Stays observer store kept t scene := by
  refine makes.leaves (fun c hc => ?_) (fun c state hc hkept => ?_) holds
  · rcases hc with rfl | ⟨_, hlooks⟩
    · exact looks
    · exact hlooks
  · rcases hc with rfl | ⟨hinternal, _⟩
    · exact keeps state.outside state.files hkept
    · rwa [Session.respond_internal hinternal]

theorem findEndpoints_stays (h : s.Listing m 0 0 scene.state.outside) (service : ServiceConfig)
    (poll : PollOptions) :
    Stays observer store (fun t => ∃ services ingresses, s.Listing m services ingresses t)
      (Deploy.endpoints service poll) scene := by
  have hservice : Stays observer store (fun t => ∃ services, s.Listing m services 0 t)
      (Attempt.wrap .serviceEndpoints
        (Attempt.unlessNotFound (Endpoint.awaitService service.serviceName poll))) scene := by
    refine stays_listing (.wrap _ (.unlessNotFound (awaitService_makes _ _))) .services ?_ ⟨0, h⟩
    rintro t files ⟨services, h⟩
    exact h.lists_service files
  have hingress (scene : Scene (Session π Toolbox))
      (h : ∃ services, s.Listing m services 0 scene.state.outside) :
      Stays observer store (fun t => ∃ services ingresses, s.Listing m services ingresses t)
        (Attempt.wrap .ingressEndpoints (Attempt.unlessNotFound
          (Endpoint.awaitIngress service.ingressName service.ingressPath poll))) scene := by
    obtain ⟨services, h⟩ := h
    refine stays_listing (.wrap _ (.unlessNotFound (awaitIngress_makes _ _ _))) .ingresses ?_
      ⟨services, 0, h⟩
    rintro t files ⟨services, ingresses, h⟩
    exact ⟨services, h.lists_ingress files⟩
  have hresolve : Stays observer store
      (fun t => ∃ services ingresses, s.Listing m services ingresses t)
      (Endpoint.resolve service.serviceName service.ingressName service.ingressPath poll)
      scene := by
    refine Flow.Leaves.andThen (Flow.Leaves.mono hservice (fun _ _ h => h) ?_) fun _ scene h => ?_
    · rintro state ⟨services, h⟩
      exact ⟨services, 0, h⟩
    · exact Flow.Leaves.andThen (hingress scene h) fun _ _ h => h
  exact Flow.Leaves.andThen hresolve fun _ _ h => h

theorem endpoints_stays (fresh : scene.state.outside = s.toolbox m) :
    Stays observer store
      (fun t => ∃ services ingresses, s.Inquired m services ingresses t.machine)
      s.endpoints scene := by
  have hinquired : ∀ t, (∃ services ingresses, s.Listing m services ingresses t) →
      ∃ services ingresses, s.Inquired m services ingresses t.machine := by
    rintro t ⟨services, ingresses, h⟩
    exact ⟨services, ingresses, h.inquired⟩
  refine Flow.Leaves.andThen (Flow.Leaves.mono (ensureAccess_proceeds fresh) (fun _ _ h => h)
    fun _ h => ⟨0, 0, h⟩) fun _ scene h => ?_
  have hfind : Stays observer store
      (fun t => ∃ services ingresses, s.Inquired m services ingresses t.machine)
      (Deploy.endpoints s.service s.settings.poll) scene :=
    (findEndpoints_stays h _ _).mono hinquired
  refine Flow.Leaves.andThen (hfind.under _) fun found scene h => ?_
  have hsay (line : String) : (Call.say line).IsQuiet := ⟨trivial, .say line⟩
  show Stays observer store
    (fun t => ∃ services ingresses, s.Inquired m services ingresses t.machine) _ scene
  refine stays_internal ?_ h
  dsimp only
  split
  · exact .andThen (say_makes hsay _) fun _ => sayAll_makes hsay _
  · exact sayAll_makes hsay _

end Setup

end ClusterDeploy
