import ClusterDeploy.Proofs.Deploy.Calls
import ClusterDeploy.Proofs.Endpoint.Union
import ClusterDeploy.Proofs.Environment.File
import ClusterDeploy.Proofs.Tools.Started
/-!
# What a deploy leaves in the environment

Nothing is set and nothing is saved before the endpoints are known. Then one value is set and the
environment is saved once; when that fails, at whichever step of the save, the value is set all the
same, and no file has changed.
-/
namespace ClusterDeploy

def saves (steps : List Step) : Nat := steps.countP fun step =>
  match step.call with
  | .saveEnvironment => true
  | _ => false

theorem saves_append (a b : List Step) : saves (a ++ b) = saves a + saves b := List.countP_append

theorem saves_eq_zero {steps : List Step} (h : ∀ step ∈ steps, step.call.Prepares) :
    saves steps = 0 := by
  rw [saves, List.countP_eq_zero]
  intro step hstep
  obtain ⟨call, answer, start, finish⟩ := step
  cases h _ hstep <;> exact Bool.false_ne_true

/-- No rollout is refused with the error of a save, which is the program's own. -/
def Outside.SparesSaves (outside : Outside τ) : Prop :=
  ∀ files deployment state source,
    (outside files (.rolloutStatus deployment) state).answer ≠ .error (.saveEndpoint source)

/-- Real tools fail only with errors of their own. -/
theorem Toolbox.outside_sparesSaves : Outside.SparesSaves Toolbox.outside := by
  intro files deployment t source h
  cases Toolbox.ofTool_of_rolloutStatus h

namespace Deploy

open Attempt

/-! ## What is prepared -/

/-- The lines are those of the endpoints of a service, and then those of the ones of an ingress. -/
structure Reported (services ingresses : List Endpoint) (lines : List String) : Prop where
  ofService : ∀ e ∈ services, e.source = .service
  ofIngress : ∀ e ∈ ingresses, e.source = .ingress
  texts : lines = (services ++ ingresses).map Endpoint.text

/-- The last line is that of the last endpoint of the ingress, if there is one. -/
theorem Reported.last {services ingresses : List Endpoint} {lines : List String}
    (h : Reported services ingresses lines) {line : String} (hline : lines.getLast? = some line) :
    ∃ e ∈ ingresses.getLast?.or services.getLast?, e.text = line := by
  rw [h.texts, List.getLast?_map, List.getLast?_append] at hline
  exact Option.map_eq_some_iff.mp hline

theorem ofService_source (s : Service) : ∀ e ∈ Endpoint.ofService s, e.source = .service := by
  intro e he
  unfold Endpoint.ofService at he
  split at he
  · obtain ⟨ip, _, rfl⟩ := List.mem_map.mp he
    rfl
  split at he
  · obtain ⟨pair, _, rfl⟩ := List.mem_map.mp he
    rfl
  · cases he

section Results

/-- An answer that does not pass the error of a save off as that of a rollout. -/
def Fair : (c : Call) → c.Answer → Prop
  | .request (.rolloutStatus _), answer => ∀ source, answer ≠ .error (.saveEndpoint source)
  | _, _ => True

/-- Only the answer to a rollout is taken over as it is; all other errors are the program's own. -/
structure Owned (fair : (c : Call) → c.Answer → Prop) (bad : Error → Prop) : Prop where
  rollout : ∀ deployment e, fair (.request (.rolloutStatus deployment)) (.error e) → bad e
  others : ∀ e, (∀ source, e ≠ .saveEndpoint source) → bad e

variable {fair : (c : Call) → c.Answer → Prop} {bad : Error → Prop} {poll : PollOptions}

theorem lookUntil_gives (owned : Owned fair bad) (w : Watch α) (deadline rounds : Nat)
    (last : Option String) :
    Flow.Ends fair (Outcome (fun _ => True) bad) (w.lookUntil poll deadline rounds last) := by
  have hexpired (last : Option String) : bad (w.expired poll last) := by
    cases last <;> exact owned.others _ nofun
  induction rounds generalizing last with
  | zero =>
    intro end_
    dsimp only
    split
    · exact owned.others _ nofun
    · exact hexpired last
  | succ rounds ih =>
    intro start
    dsimp only
    split
    · exact owned.others _ nofun
    intro listing _
    cases listing with
    | error e => exact owned.others _ nofun
    | ok items =>
      dsimp only
      split
      · trivial
      · exact owned.others _ nofun
      · intro finish
        dsimp only
        split
        · exact hexpired _
        · exact ih _

theorem wait_gives (owned : Owned fair bad) (w : Watch α) :
    Gives fair (fun _ => True) bad (w.wait poll) :=
  fun start => lookUntil_gives owned w (start.now + poll.timeout) poll.rounds none

theorem rollOut_gives (owned : Owned fair bad) (filter : String) :
    Gives fair (fun _ => True) bad (rollOut filter poll) := by
  refine (wait_gives owned _).andThen fun d _ => ?_
  have hstatus : Gives fair (fun _ => True) bad
      (of (Flow.call (.request (.rolloutStatus d.name)))) := by
    refine gives_of (.request (.rolloutStatus d.name)) id fun answer hfair => ?_
    cases answer with
    | ok output => trivial
    | error e => exact owned.rollout _ _ hfair
  exact hstatus.andThen fun _ _ => gives_pure trivial

theorem warnAll_gives (warnings : List Warning) :
    Gives fair (fun _ => True) bad (warnAll warnings) := by
  induction warnings with
  | nil => exact gives_pure trivial
  | cons w more ih => exact (gives_call _).andThen fun _ _ => ih

theorem endpoints_gives (owned : Owned fair bad) (service : ServiceConfig) :
    Gives fair (fun lines => ∃ services ingresses, Reported services ingresses lines) bad
      (endpoints service poll) := by
  have anything : Owned fair fun _ => True := ⟨fun _ _ _ => trivial, fun _ _ => trivial⟩
  have hservice : Gives fair (fun found => ∀ e ∈ found, e.source = .service) (fun _ => True)
      (Endpoint.awaitService service.serviceName poll) :=
    (wait_gives anything _).andThen fun s _ =>
      (warnAll_gives _).andThen fun _ _ => gives_pure (ofService_source s)
  have hingress : Gives fair (fun found => ∀ e ∈ found, e.source = .ingress) (fun _ => True)
      (Endpoint.awaitIngress service.ingressName service.ingressPath poll) := by
    refine (wait_gives anything _).andThen fun i _ => ?_
    refine (warnAll_gives _).andThen fun _ _ => gives_ofExcept ?_
    cases h : Endpoint.ofIngress i service.ingressPath with
    | ok found => exact Endpoint.ofIngress_source h
    | error e => trivial
  suffices hresolve : Gives fair (fun found => ∃ services ingresses,
      Reported services ingresses (found.map Endpoint.text)) bad
      (Endpoint.resolve service.serviceName service.ingressName service.ingressPath poll) from
    hresolve.andThen fun found h => gives_pure h
  refine (hservice.unlessNotFound.wrap fun _ _ => owned.others _ (by nofun)).andThen
    fun fromService hservices => ?_
  refine (hingress.unlessNotFound.wrap fun _ _ => owned.others _ (by nofun)).andThen
    fun fromIngress hingresses => gives_pure ?_
  refine ⟨fromService.getD [], fromIngress.getD [], ?_, ?_, rfl⟩
  · cases fromService with
    | none => nofun
    | some found => exact hservices found rfl
  · cases fromIngress with
    | none => nofun
    | some found => exact hingresses found rfl

theorem wrapped_gives (c : Call) (read : c.Answer → Except Error α) {f : Error → Error}
    (hf : ∀ e, bad (f e)) :
    Gives fair (fun _ => True) bad (wrap f (of (.ask c fun answer => .done (read answer)))) := by
  have hcall : Gives fair (fun _ => True) (fun _ => True)
      (of (.ask c fun answer => .done (read answer))) := by
    refine gives_of c read fun answer _ => ?_
    cases read answer <;> trivial
  exact hcall.wrap fun e _ => hf e

theorem applyManifests_gives (owned : Owned fair bad) (service : ServiceConfig) :
    Gives fair (fun _ => True) bad (applyManifests service) := by
  refine (gives_call .environmentValues).andThen fun values _ => ?_
  refine (gives_call (.request (.setEnvironment values))).andThen fun _ _ => ?_
  refine (gives_call (.report _)).andThen fun _ _ => ?_
  refine (wrapped_gives (.request (.apply _)) id fun _ => owned.others _ (by nofun)).andThen
    fun _ _ => ?_
  exact gives_pure trivial

theorem verify_gives (owned : Owned fair bad) (service : ServiceConfig) :
    Gives fair (fun found => ∃ services ingresses, Reported services ingresses found.2) bad
      (verify service poll) := by
  refine (gives_call (.report _)).andThen fun _ _ => ?_
  refine (rollOut_gives owned _).unlessNotFound.andThen fun details _ => ?_
  refine (gives_call (.report _)).andThen fun _ _ => ?_
  exact (endpoints_gives owned service).andThen fun lines h => gives_pure h

theorem prepare_gives (owned : Owned fair bad) (service : ServiceConfig)
    (package : Option ServicePackage) (target : TargetResource) (poll : PollOptions) :
    Gives fair (fun d => ∃ services ingresses, Reported services ingresses d.endpoints) bad
      (prepare service package target poll) := by
  have hvalid : Outcome (fun _ => True) bad target.validate := by
    unfold TargetResource.validate
    split
    · exact owned.others _ nofun
    · trivial
  have hpackage : Outcome (fun _ => True) bad (packageOf package) := by
    cases package with
    | none => exact owned.others _ nofun
    | some package => trivial
  refine (gives_ofExcept hvalid).andThen fun _ _ => ?_
  refine (gives_ofExcept hpackage).andThen fun package _ => ?_
  refine (wrapped_gives (.request (.push _ _ _)) id fun _ => owned.others _ (by nofun)).andThen
    fun _ _ => ?_
  refine (applyManifests_gives owned service).andThen fun _ _ => ?_
  exact (verify_gives owned service).andThen fun found h => gives_pure h

end Results

/-! ## What is recorded -/

section Session

variable {outside : Outside τ} {observer : Observer π} {store : KubeconfigStore}
  {service : ServiceConfig} {s : Scene (Session π τ)}

theorem respond_prepares (c : Call) (state : Session π τ) (h : c.Prepares) :
    ((Session.respond outside observer store c state).after.environment,
      (Session.respond outside observer store c state).after.files,
      (Session.respond outside observer store c state).after.disks) =
      (state.environment, state.files, state.disks) := by
  cases h <;> rfl

/-- The run has neither changed nor saved the environment, and has touched neither a file nor the
disk. -/
structure Untouched (s : Scene (Session π τ)) (r : Run (Session π τ) α) : Prop where
  environment : r.scene.state.environment = s.state.environment
  files : r.scene.state.files = s.state.files
  disks : r.scene.state.disks = s.state.disks
  unsaved : saves r.steps = 0

def endpointKey (service : ServiceConfig) : String :=
  Environment.propertyKey service.name Environment.endpointProperty

/-- The run has set one value and has tried to save the environment once. -/
structure Noted (service : ServiceConfig) (lines : List String) (s : Scene (Session π τ))
    (r : Run (Session π τ) α) : Prop where
  path : r.scene.state.environment.path = s.state.environment.path
  /-- The address at the head of the last line of the ingress, or else of the service. -/
  endpoint : ∃ services ingresses, Reported services ingresses lines ∧
    ∃ last ∈ ingresses.getLast?.or services.getLast?,
      r.scene.state.environment.values.get? (endpointKey service) =
        some (Endpoint.urlOf last.text)
  others : ∀ name, name ≠ endpointKey service →
    r.scene.state.environment.values.get? name = s.state.environment.values.get? name
  once : saves r.steps = 1

theorem prepare_untouched (outside : Outside τ) (observer : Observer π)
    (store : KubeconfigStore) (service : ServiceConfig) (package : Option ServicePackage)
    (target : TargetResource) (poll : PollOptions) (s : Scene (Session π τ)) :
    Untouched s ((prepare service package target poll).runIn
      (Session.respond outside observer store) s) := by
  have hmakes := prepare_makes service package target poll
  have hkept := hmakes.keeps (Session.respond outside observer store)
    (fun state => (state.environment, state.files, state.disks)) respond_prepares s
  constructor
  case environment => exact congrArg Prod.fst hkept
  case files => exact congrArg (·.2.1) hkept
  case disks => exact congrArg (·.2.2) hkept
  case unsaved => exact saves_eq_zero (hmakes.run s)

def saving (environment : EnvFile) (state : Session π τ) : Except Error Unit × FileTree :=
  environment.save state.files (state.disks.headD {})

theorem respond_save (state : Session π τ) :
    Session.respond outside observer store .saveEnvironment state =
      Session.reply (saving state.environment state).1
        { state with
          files := (saving state.environment state).2
          disks := state.disks.tail } := by
  unfold Session.respond saving
  dsimp only

theorem runIn_save (s : Scene (Session π τ)) :
    (of (Flow.call .saveEnvironment)).runIn (Session.respond outside observer store) s =
      { result := (saving s.state.environment s.state).1
        scene := { s with state := { s.state with
          files := (saving s.state.environment s.state).2
          disks := s.state.disks.tail } }
        steps := [
          ⟨.saveEnvironment, (saving s.state.environment s.state).1, s.now, s.now⟩] } := by
  unfold runIn of Flow.call
  change Flow.run _ (.ask .saveEnvironment .done) s = _
  rw [Flow.run, Flow.run, respond_save]
  rfl

theorem runIn_record {lines : List String} {line : String} (h : lines.getLast? = some line) :
    let environment := s.state.environment.set (endpointKey service) (Endpoint.urlOf line)
    let saved := saving environment s.state
    (record service lines).runIn (Session.respond outside observer store) s =
      { result := saved.1.mapError .saveEndpoint
        scene := { s with state := { s.state with
          environment, files := saved.2, disks := s.state.disks.tail } }
        steps := [
          ⟨.setProperty service.name Environment.endpointProperty (Endpoint.urlOf line), (),
            s.now, s.now⟩,
          ⟨.saveEnvironment, saved.1, s.now, s.now⟩] } := by
  intro environment saved
  have hset : (call (.setProperty service.name Environment.endpointProperty
      (Endpoint.urlOf line))).runIn (Session.respond outside observer store) s =
      ⟨.ok (), { s with state := { s.state with environment } },
        [⟨.setProperty service.name Environment.endpointProperty (Endpoint.urlOf line), (),
          s.now, s.now⟩]⟩ := rfl
  unfold record
  rw [h]
  dsimp only
  rw [runIn_bind_ok (congrArg Run.result hset), hset, runIn_wrap, runIn_save]
  rfl

theorem run_of_error {package : Option ServicePackage} {target : TargetResource}
    {poll : PollOptions} {world : Surroundings σ} {s : Scene σ} {e : Error}
    (h : ((prepare service package target poll).runIn world s).result = .error e) :
    (run service package target poll).runIn world s =
      { (prepare service package target poll).runIn world s with result := .error e } := by
  rw [run_eq_prepare, runIn_bind_error h]

theorem run_of_ok {package : Option ServicePackage} {target : TargetResource}
    {poll : PollOptions} {world : Surroundings σ} {s : Scene σ} {d : DeployResult}
    (h : ((prepare service package target poll).runIn world s).result = .ok d) :
    let first := (prepare service package target poll).runIn world s
    let second := (record service d.endpoints).runIn world first.scene
    (run service package target poll).runIn world s =
      ⟨second.result.map fun _ => d, second.scene, first.steps ++ second.steps⟩ := by
  intro first second
  rw [run_eq_prepare, runIn_bind_ok h, runIn_bind_pure]

/-- Nothing before the record fails like a save. -/
theorem prepare_ne_saveEndpoint (spares : outside.SparesSaves) {package : Option ServicePackage}
    {target : TargetResource} {poll : PollOptions} (s : Scene (Session π τ)) {source : Error} :
    ((prepare service package target poll).runIn (Session.respond outside observer store)
      s).result ≠ .error (.saveEndpoint source) := by
  have owned : Owned Fair fun e => ∀ source, e ≠ .saveEndpoint source := by
    refine ⟨?_, fun e h => h⟩
    rintro deployment e hfair source rfl
    exact hfair source rfl
  have hfair : ∀ (c : Call) (state : Session π τ),
      Fair c (Session.respond outside observer store c state).answer := by
    intro c state
    unfold Fair
    split
    · exact spares _ _ _
    · trivial
  have hgives := (prepare_gives owned service package target poll).runIn
    (Session.respond outside observer store) hfair s
  intro h
  rw [h] at hgives
  exact hgives source rfl

/-- Without a line there is nothing to record. -/
theorem run_unexposed {package : Option ServicePackage} {target : TargetResource}
    {poll : PollOptions} {d : DeployResult}
    (hprepared : ((prepare service package target poll).runIn
      (Session.respond outside observer store) s).result = .ok d)
    (hline : d.endpoints.getLast? = none) :
    let r := (run service package target poll).runIn (Session.respond outside observer store) s
    Untouched s r ∧ r.result = .ok d := by
  have hrecord : record service d.endpoints = (pure () : Attempt Unit) := by
    unfold record
    rw [hline]
  have hrun := run_of_ok hprepared
  dsimp only at hrun
  rw [hrecord] at hrun
  have huntouched := prepare_untouched outside observer store service package target poll s
  dsimp only
  rw [hrun]
  exact ⟨⟨huntouched.environment, huntouched.files, huntouched.disks,
    (saves_append _ _).trans huntouched.unsaved⟩, rfl⟩

theorem run_recorded {package : Option ServicePackage} {target : TargetResource}
    {poll : PollOptions} {d : DeployResult} {line : String}
    (hprepared : ((prepare service package target poll).runIn
      (Session.respond outside observer store) s).result = .ok d)
    (hline : d.endpoints.getLast? = some line) :
    let r := (run service package target poll).runIn (Session.respond outside observer store) s
    let environment := s.state.environment.set (endpointKey service) (Endpoint.urlOf line)
    let saved := saving environment s.state
    r.scene.state.environment = environment ∧ r.scene.state.files = saved.2 ∧
      r.result = (saved.1.mapError .saveEndpoint).map (fun _ => d) ∧ saves r.steps = 1 := by
  have huntouched := prepare_untouched outside observer store service package target poll s
  have hrun := run_of_ok hprepared
  dsimp only at hrun
  have hsaving (environment : EnvFile) : saving environment ((prepare service package target
      poll).runIn (Session.respond outside observer store) s).scene.state =
        saving environment s.state := by
    rw [saving, huntouched.files, huntouched.disks, saving]
  rw [runIn_record hline, huntouched.environment, hsaving] at hrun
  refine ⟨congrArg (·.scene.state.environment) hrun, congrArg (·.scene.state.files) hrun,
    congrArg Run.result hrun, ?_⟩
  rw [hrun, saves_append, huntouched.unsaved]
  rfl

theorem run_noted {package : Option ServicePackage} {target : TargetResource} {poll : PollOptions}
    {d : DeployResult} {services ingresses : List Endpoint} {last : Endpoint}
    (hprepared : ((prepare service package target poll).runIn
      (Session.respond outside observer store) s).result = .ok d)
    (hreported : Reported services ingresses d.endpoints)
    (hlast : last ∈ ingresses.getLast?.or services.getLast?)
    (hline : d.endpoints.getLast? = some last.text) :
    let r := (run service package target poll).runIn (Session.respond outside observer store) s
    let saved := saving r.scene.state.environment s.state
    Noted service d.endpoints s r ∧ r.scene.state.files = saved.2 ∧
      r.result = (saved.1.mapError .saveEndpoint).map fun _ => d := by
  obtain ⟨henvironment, hfiles, hresult, honce⟩ := run_recorded hprepared hline
  rw [← henvironment] at hfiles hresult
  refine ⟨?_, hfiles, hresult⟩
  constructor
  case path =>
    rw [henvironment]
    rfl
  case endpoint =>
    refine ⟨services, ingresses, hreported, last, hlast, ?_⟩
    rw [henvironment]
    exact (Environment.get?_set _ _ _ _).trans (if_pos rfl)
  case others =>
    intro name hname
    rw [henvironment]
    exact (Environment.get?_set _ _ _ _).trans (if_neg hname)
  case once => exact honce

/-- The ways of a deploy: it fails before the record, it has nothing to record, or it sets the value
and the environment is saved or not. -/
inductive Course (service : ServiceConfig) (s : Scene (Session π τ))
    (first r : Run (Session π τ) (Except Error DeployResult)) : Prop
  | failed {e : Error} (prepared : first.result = .error e) (result : r.result = .error e)
      (untouched : Untouched s r)
  | unexposed {d : DeployResult} (result : r.result = .ok d) (none : d.endpoints = [])
      (untouched : Untouched s r)
  | saved {d : DeployResult} (result : r.result = .ok d) (some : d.endpoints ≠ [])
      (noted : Noted service d.endpoints s r)
      (save : saving r.scene.state.environment s.state = (.ok (), r.scene.state.files))
  | unsaved {d : DeployResult} {source : Error} (prepared : first.result = .ok d)
      (result : r.result = .error (.saveEndpoint source))
      (noted : Noted service d.endpoints s r)
      (save : saving r.scene.state.environment s.state = (.error source, r.scene.state.files))

namespace Course

variable {first r : Run (Session π τ) (Except Error DeployResult)} {d : DeployResult}

theorem untouched_of_none (h : Course service s first r) (hok : r.result = .ok d)
    (hnone : d.endpoints = []) : Untouched s r := by
  cases h with
  | failed _ hresult _ => cases hok.symm.trans hresult
  | unexposed _ _ huntouched => exact huntouched
  | saved hresult hsome _ _ =>
    cases hok.symm.trans hresult
    exact absurd hnone hsome
  | unsaved _ hresult _ _ => cases hok.symm.trans hresult

theorem untouched_of_error (h : Course service s first r) {e : Error} (herror : r.result = .error e)
    (hother : ∀ source, e ≠ .saveEndpoint source) : Untouched s r := by
  cases h with
  | failed _ _ huntouched => exact huntouched
  | unexposed _ _ huntouched => exact huntouched
  | saved hresult _ _ _ => cases herror.symm.trans hresult
  | unsaved _ hresult _ _ => exact absurd (Except.error.inj (herror.symm.trans hresult)) (hother _)

theorem noted_of_some (h : Course service s first r) (hok : r.result = .ok d)
    (hsome : d.endpoints ≠ []) : Noted service d.endpoints s r ∧
      saving r.scene.state.environment s.state = (.ok (), r.scene.state.files) := by
  cases h with
  | failed _ hresult _ => cases hok.symm.trans hresult
  | unexposed hresult hnone _ =>
    cases hok.symm.trans hresult
    exact absurd hnone hsome
  | saved hresult _ hnoted hsave =>
    cases hok.symm.trans hresult
    exact ⟨hnoted, hsave⟩
  | unsaved _ hresult _ _ => cases hok.symm.trans hresult

theorem noted_of_unsaved (h : Course service s first r) {source : Error}
    (herror : r.result = .error (.saveEndpoint source))
    (hfirst : first.result ≠ .error (.saveEndpoint source)) :
    ∃ d, first.result = .ok d ∧ Noted service d.endpoints s r ∧
      ∃ e, saving r.scene.state.environment s.state = (.error e, r.scene.state.files) := by
  cases h with
  | failed hprepared hresult _ =>
    cases herror.symm.trans hresult
    exact absurd hprepared hfirst
  | unexposed hresult _ _ => cases herror.symm.trans hresult
  | saved hresult _ _ _ => cases herror.symm.trans hresult
  | unsaved hprepared _ hnoted hsave => exact ⟨_, hprepared, hnoted, _, hsave⟩

end Course

theorem run_course (outside : Outside τ) (observer : Observer π) (store : KubeconfigStore)
    (service : ServiceConfig) (package : Option ServicePackage)
    (target : TargetResource) (poll : PollOptions) (s : Scene (Session π τ)) :
    Course service s
      ((prepare service package target poll).runIn (Session.respond outside observer store) s)
      ((run service package target poll).runIn (Session.respond outside observer store) s) := by
  have huntouched := prepare_untouched outside observer store service package target poll s
  have anything : Owned (fun _ _ => True) fun _ => True :=
    ⟨fun _ _ _ => trivial, fun _ _ => trivial⟩
  have hgives := (prepare_gives anything service package target poll).runIn
    (Session.respond outside observer store) (fun _ _ => trivial) s
  cases hprepared : ((prepare service package target poll).runIn
      (Session.respond outside observer store) s).result with
  | error e =>
    refine .failed hprepared ?_ ?_
    · rw [run_of_error hprepared]
    · rw [run_of_error hprepared]
      exact ⟨huntouched.environment, huntouched.files, huntouched.disks, huntouched.unsaved⟩
  | ok d =>
    rw [hprepared] at hgives
    obtain ⟨services, ingresses, hreported⟩ := hgives
    cases hline : d.endpoints.getLast? with
    | none =>
      obtain ⟨hunchanged, hresult⟩ := run_unexposed hprepared hline
      exact .unexposed hresult (List.getLast?_eq_none_iff.mp hline) hunchanged
    | some line =>
      have hsome : d.endpoints ≠ [] := by
        rintro hnone
        rw [hnone] at hline
        cases hline
      obtain ⟨last, hlast, rfl⟩ := hreported.last hline
      obtain ⟨hnoted, hfiles, hresult⟩ := run_noted hprepared hreported hlast hline
      cases hsaved : (saving ((run service package target poll).runIn
          (Session.respond outside observer store) s).scene.state.environment s.state).1 with
      | ok u =>
        rw [hsaved] at hresult
        exact .saved hresult hsome hnoted (Prod.ext hsaved hfiles.symm)
      | error source =>
        rw [hsaved] at hresult
        exact .unsaved hprepared hresult hnoted (Prod.ext hsaved hfiles.symm)

/-- Without endpoints, and with any error but that of the save, a deploy leaves environment and
files alone and does not save. With endpoints it sets exactly the value for the last one and saves
once; a save that fails is reported as such and changes no file, and the value is set all the same.
A disk that refuses the temporary file, the write or the rename makes the save fail. -/
theorem deploy_record (service : ServiceConfig) (package : Option ServicePackage)
    (target : TargetResource) (poll : PollOptions) (outside : Outside τ) (observer : Observer π)
    (store : KubeconfigStore) (s : Scene (Session π τ)) :
    let world := Session.respond outside observer store
    let r := (run service package target poll).runIn world s
    (∀ d, r.result = .ok d → d.endpoints = [] → Untouched s r) ∧
      (∀ e, r.result = .error e → (∀ source, e ≠ .saveEndpoint source) → Untouched s r) ∧
      (∀ d, r.result = .ok d → d.endpoints ≠ [] → Noted service d.endpoints s r ∧
        r.scene.state.files.standing? s.state.environment.path =
          some (.file (Text.encodeUtf8 r.scene.state.environment.text))) ∧
      (outside.SparesSaves → ∀ source, r.result = .error (.saveEndpoint source) →
        ∃ d, ((prepare service package target poll).runIn world s).result = .ok d ∧
          Noted service d.endpoints s r ∧
          (∀ place content, r.scene.state.files.node? place = some (.file content) ↔
            s.state.files.node? place = some (.file content)) ∧
          ∀ path content, s.state.files.standing? path = some (.file content) →
            r.scene.state.files.standing? path = some (.file content)) ∧
      ((s.state.disks.headD {}).Refuses → ∀ d, r.result = .ok d → d.endpoints = []) := by
  intro world r
  have hcourse := run_course outside observer store service package target poll s
  refine ⟨?_, ?_, ?_, ?_, ?_⟩
  · intro d hok hnone
    exact hcourse.untouched_of_none hok hnone
  · intro e herror hother
    exact hcourse.untouched_of_error herror hother
  · intro d hok hsome
    obtain ⟨hnoted, hsave⟩ := hcourse.noted_of_some hok hsome
    have hstanding := EnvFile.standing?_save hsave
    rw [hnoted.path] at hstanding
    exact ⟨hnoted, hstanding⟩
  · intro spares source herror
    obtain ⟨d, hprepared, hnoted, _, hsave⟩ :=
      hcourse.noted_of_unsaved herror (prepare_ne_saveEndpoint spares s)
    have hgrows := EnvFile.save_eq_error hsave
    exact ⟨d, hprepared, hnoted, fun _ _ => hgrows.file_iff, fun _ _ => hgrows.standing?⟩
  · intro refuses d hok
    by_contra hsome
    obtain ⟨-, hsave⟩ := hcourse.noted_of_some hok hsome
    obtain ⟨e, after, hfailed⟩ := r.scene.state.environment.save_of_refuses refuses s.state.files
    cases hsave.symm.trans hfailed

end Session

def balanced : Json := .obj [("metadata", .obj [("name", .str "api")]),
  ("spec", .obj [("type", .str "LoadBalancer")]),
  ("status", .obj [("loadBalancer",
    .obj [("ingress", .arr [.obj [("ip", .str "1.2.3.4")]])])])]

def exposed : Outside Unit := fun _ r _ =>
  match r with
  | .list .service => { answer := .ok [balanced], after := () }
  | .list _ => { answer := .ok [], after := () }
  | .rolloutStatus _ | .apply _ | .applyInput _ | .createNamespace _ _ | .useContext _ =>
    { answer := .ok {}, after := () }
  | .setEnvironment _ | .setKubeconfig _ => { answer := (), after := () }
  | .credentials _ _ _ => { answer := .ok [], after := () }
  | .push _ _ _ => { answer := .ok (), after := () }

/-- The text `A=1` on a line. -/
def keptOctets : List UInt8 := [65, 61, 49, 10]

/-- A deploy whose disk is full after some bytes of the new env file. -/
def fullRun : Run (Session ProgressChannel Unit) (Except Error DeployResult) :=
  (run { name := "api" } (some ⟨"api:1", none⟩) ⟨"s", "g", "c"⟩ (.every 5 0)).runIn
    (Session.respond exposed ProgressChannel.observer ⟨"config"⟩)
    { state := {
        files := { entries := [([".env"], .file keptOctets)] }
        disks := [{ write := some (7, .storageFull) }]
        environment := ⟨".env", .ofList [("A", "1")]⟩
        watcher := .ofCapacity 16
        outside := () } }

/-- The value is set although it cannot be saved, and the file says what it said before. -/
theorem deploy_record_full :
    exposed.SparesSaves ∧
      fullRun.result = .error (.saveEndpoint (.fileUnwritable ".env" .storageFull)) ∧
      saves fullRun.steps = 1 ∧
      fullRun.scene.state.environment.values.entries =
        [("A", "1"), ("SERVICE_API_ENDPOINT_URL", "http://1.2.3.4")] ∧
      fullRun.scene.state.files.standing? ".env" = some (.file keptOctets) := by
  have spares : exposed.SparesSaves := fun _ _ _ _ => nofun
  have hresult : fullRun.result =
      .error (.saveEndpoint (.fileUnwritable ".env" .storageFull)) := by rfl
  obtain ⟨_, _, _, hrefused, _⟩ := deploy_record { name := "api" } (some ⟨"api:1", none⟩)
    ⟨"s", "g", "c"⟩ (.every 5 0) exposed ProgressChannel.observer ⟨"config"⟩ _
  obtain ⟨d, _, hnoted, _, hfiles⟩ := hrefused spares _ hresult
  exact ⟨spares, hresult, hnoted.once, by decide +kernel, hfiles _ _ (by decide +kernel)⟩

end Deploy

end ClusterDeploy
