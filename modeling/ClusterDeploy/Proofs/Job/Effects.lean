import ClusterDeploy.Proofs.Files.Place
import ClusterDeploy.Proofs.Flow.Files
import ClusterDeploy.Proofs.Job.Queries
/-!
# What a job changes

Jobs that only look read the env file and leave it alone, and a deploy that misses its resource
group ends before anything has happened. Both need the env file, the settings and the kubeconfig
store to be different files.
-/
namespace ClusterDeploy

/-- Calls that only look add logins to the store, and otherwise leave the files alone. -/
theorem FilesAlong.spares {store : KubeconfigStore} {files last : FileTree} {steps : List Step}
    {p : Place} (h : FilesAlong store files steps last)
    (looks : ∀ step ∈ steps, step.call.Looks) (elsewhere : files.placeOf store.path ≠ p) :
    FileTree.Spares (files.placeOf (KubeconfigStore.lockPath store.path) = p) p files last := by
  induction h with
  | done => exact .refl _
  | @add files after last name login answer start finish more disk h later ih =>
    have hadded := KubeconfigStore.add_spares elsewhere login disk
    rw [h] at hadded
    have hplace := FileTree.placeOf_of_home hadded.folders.home
    rw [hplace, hplace] at ih
    exact hadded.trans (ih (fun step hstep => looks step (List.mem_cons_of_mem _ hstep)) elsewhere)
  | save environment disk later ih => cases looks _ List.mem_cons_self
  | pass h later ih =>
    exact ih (fun step hstep => looks step (List.mem_cons_of_mem _ hstep)) elsewhere

namespace Setup

variable {s : Setup} {w : Workstation} {p : Place}

/-- A job that has no store ends before it does anything about files. -/
theorem leavesFiles_of_unstored {e : Failure} (h : s.store = .error e) :
    Flow.Makes Call.LeavesFiles s.endpoints.run ∧ Flow.Makes Call.LeavesFiles s.context.run := by
  have hnone : ∀ b, s.bootstrapper ≠ .ok b := by
    intro b hb
    obtain ⟨store, hstore, _⟩ := stored_of_bootstrapper hb
    cases h.symm.trans hstore
  have haccess : ∃ e, s.ensureAccess = ExceptT.mk (.done (.error e)) := by
    unfold ensureAccess
    cases hb : s.bootstrapper with
    | ok b => exact (hnone b hb).elim
    | error e => exact ⟨e, rfl⟩
  constructor
  · obtain ⟨e, haccess⟩ := haccess
    unfold endpoints
    rw [haccess]
    trivial
  · refine .andThen (say_makes (fun _ => trivial) _) fun _ => ?_
    exact Flow.makes_afterExcept fun b hb => (hnone b hb).elim

structure OnlyLooks (s : Setup) (w : Workstation) (job : Job) (r : JobRun) : Prop where
  calls : ∀ step ∈ r.steps, step.call.Looks
  machine : ∃ services ingresses, s.Inquired w.machine services ingresses r.after.machine ∧
    (job = .context → services = 0 ∧ ingresses = 0)
  files : ∀ p, (∀ store ∈ s.store.toOption, w.files.placeOf store.path ≠ p) →
    FileTree.Spares (∃ store ∈ s.store.toOption,
      w.files.placeOf (KubeconfigStore.lockPath store.path) = p) p w.files r.after.files

theorem run_spares {job : Job} (query : job = .endpoints ∨ job = .context)
    (looks : ∀ step ∈ (s.run w job).steps, step.call.Looks)
    (elsewhere : ∀ store ∈ s.store.toOption, w.files.placeOf store.path ≠ p) :
    FileTree.Spares (∃ store ∈ s.store.toOption,
      w.files.placeOf (KubeconfigStore.lockPath store.path) = p) p w.files
        (s.run w job).after.files := by
  have halong : FilesAlong (s.store.toOption.getD ⟨KubeconfigStore.defaultPath w.machine.home⟩)
      w.files (s.run w job).steps (s.run w job).after.files :=
    Session.filesAlong Toolbox.outside Screen.observer _ (s.routine job).run (s.start w)
  cases hstore : s.store with
  | ok store =>
    rw [hstore] at halong elsewhere
    have hspares := halong.spares looks (elsewhere store rfl)
    exact hspares.mono fun h => ⟨store, rfl, h⟩
  | error e =>
    have hleaves : Flow.Makes Call.LeavesFiles (s.routine job).run := by
      rcases query with rfl | rfl
      · exact (leavesFiles_of_unstored hstore).1
      · exact (leavesFiles_of_unstored hstore).2
    have hsame : w.files = (s.run w job).after.files := halong.eq_of_all_pass (hleaves.run _)
    rw [← hsame]
    exact .refl w.files

theorem run_onlyLooks (s : Setup) (w : Workstation) {job : Job}
    (query : job = .endpoints ∨ job = .context) : s.OnlyLooks w job (s.run w job) := by
  have hrun : (∀ step ∈ (s.run w job).steps, step.call.Looks) ∧
      ∃ services ingresses,
        s.Inquired w.machine services ingresses (s.run w job).after.machine ∧
          (job = .context → services = 0 ∧ ingresses = 0) := by
    have hfresh : (s.start w).state.outside = s.toolbox w.machine := rfl
    rcases query with rfl | rfl
    · obtain ⟨hcalls, services, ingresses, hasked⟩ := Flow.Leaves.run (endpoints_stays hfresh)
      exact ⟨hcalls, services, ingresses, hasked, nofun⟩
    · obtain ⟨hcalls, hasked⟩ := Flow.Leaves.run (context_proceeds hfresh)
      exact ⟨hcalls, 0, 0, hasked, fun _ => ⟨rfl, rfl⟩⟩
  exact ⟨hrun.1, hrun.2, fun p => run_spares query hrun.1⟩

/-- A deploy that misses its resource group ends at once. -/
theorem run_of_no_group (s : Setup) (w : Workstation) (package : ServicePackage)
    (missing : s.target.resourceGroup = "") :
    (s.run w (.deploy package)).steps = [] ∧ (s.run w (.deploy package)).after = w := by
  have hinvalid : s.target.validate = .error (.missingResourceGroup s.target.name) := by
    unfold TargetResource.validate
    rw [missing]
    rfl
  have hends : (s.routine (.deploy package)).run = .done (.error ⟨"validating target resource",
      .error (.missingResourceGroup s.target.name)⟩) := by
    unfold routine deploy
    rw [hinvalid]
    rfl
  unfold run
  rw [hends]
  exact ⟨rfl, rfl⟩

end Setup

namespace CommandLine

variable {c : CommandLine} {w : Workstation}

def setup? (c : CommandLine) (w : Workstation) : Option Setup :=
  (Setup.load w.files w.machine.lookup w.machine.home c).1.toOption

def store? (c : CommandLine) (w : Workstation) : Option KubeconfigStore :=
  (c.setup? w).bind (·.store.toOption)

def settingsPath (c : CommandLine) (w : Workstation) : String :=
  c.settings.getD (Settings.defaultPath w.machine.lookup w.machine.home)

/-- The env file, the settings and the kubeconfig store are different files. -/
structure Apart (c : CommandLine) (w : Workstation) : Prop where
  settings : w.files.placeOf (c.settingsPath w) ≠ w.files.placeOf c.envFile
  store : ∀ store ∈ c.store? w, w.files.placeOf store.path ≠ w.files.placeOf c.envFile ∧
    w.files.placeOf (c.settingsPath w) ≠ w.files.placeOf store.path

structure OnlyLooks (c : CommandLine) (w : Workstation) : Prop where
  calls : ∀ step ∈ (c.run w).steps, step.call.Looks
  failed : c.setup? w = none → (c.run w).after.machine = w.machine
  machine : ∀ setup ∈ c.setup? w, ∃ services ingresses,
    setup.Inquired w.machine services ingresses (c.run w).after.machine ∧
      (c.job = .context → services = 0 ∧ ingresses = 0)
  /-- Only a lock of the store may appear where no env file is. -/
  envFile : FileTree.KeepsFile (∃ store ∈ c.store? w,
      w.files.placeOf (KubeconfigStore.lockPath store.path) = w.files.placeOf c.envFile)
    c.envFile w.files (c.run w).after.files

structure DoesNothing (c : CommandLine) (w : Workstation) : Prop where
  machine : (c.run w).after.machine = w.machine
  envFile : FileTree.KeepsFile False c.envFile w.files (c.run w).after.files
  store : ∀ store ∈ c.store? w, FileTree.KeepsFile False store.path w.files (c.run w).after.files

theorem load_spares {p : Place} (elsewhere : w.files.placeOf (c.settingsPath w) ≠ p) :
    FileTree.Spares False p w.files
      (Setup.load w.files w.machine.lookup w.machine.home c).2 := by
  rw [Setup.load_files]
  exact Settings.load_spares elsewhere

theorem run_eq (c : CommandLine) (w : Workstation) :
    match c.setup? w with
    | none => (c.run w).steps = [] ∧ (c.run w).after =
        { w with files := (Setup.load w.files w.machine.lookup w.machine.home c).2 }
    | some setup => c.run w = setup.run
        { w with files := (Setup.load w.files w.machine.lookup w.machine.home c).2 } c.job := by
  unfold setup? run
  cases Setup.load w.files w.machine.lookup w.machine.home c with
  | mk result files =>
    cases result with
    | error e => exact ⟨rfl, rfl⟩
    | ok setup => rfl

theorem run_onlyLooks (apart : c.Apart w) (query : c.job = .endpoints ∨ c.job = .context) :
    c.OnlyLooks w := by
  have hloaded := load_spares apart.settings
  have hrun := c.run_eq w
  cases hsetup : c.setup? w with
  | none =>
    rw [hsetup] at hrun
    obtain ⟨hsteps, hafter⟩ := hrun
    constructor
    case calls =>
      rw [hsteps]
      nofun
    case failed =>
      intro _
      rw [hafter]
    case machine =>
      rw [hsetup]
      nofun
    case envFile =>
      rw [hafter]
      exact (hloaded.mono False.elim).keepsFile
  | some setup =>
    rw [hsetup] at hrun
    have hstore : c.store? w = setup.store.toOption := by
      unfold store?
      rw [hsetup]
      rfl
    have hlooks := setup.run_onlyLooks
      { w with files := (Setup.load w.files w.machine.lookup w.machine.home c).2 } query
    rw [← hrun] at hlooks
    have hplace := FileTree.placeOf_of_home hloaded.folders.home
    constructor
    case calls => exact hlooks.calls
    case failed =>
      rw [hsetup]
      nofun
    case machine =>
      rw [hsetup]
      rintro _ ⟨⟩
      exact hlooks.machine
    case envFile =>
      have hspared := hlooks.files (w.files.placeOf c.envFile) (by
        intro store hmem
        rw [← hstore] at hmem
        rw [hplace]
        exact (apart.store store hmem).1)
      simp only [hplace, ← hstore] at hspared
      exact ((hloaded.mono False.elim).trans hspared).keepsFile

theorem run_doesNothing (apart : c.Apart w) {package : ServicePackage}
    (deploys : c.job = .deploy package)
    (missing : ∀ setup ∈ c.setup? w, setup.target.resourceGroup = "") : c.DoesNothing w := by
  have hafter : (c.run w).after =
      { w with files := (Setup.load w.files w.machine.lookup w.machine.home c).2 } := by
    have hrun := c.run_eq w
    cases hsetup : c.setup? w with
    | none =>
      rw [hsetup] at hrun
      exact hrun.2
    | some setup =>
      rw [hsetup, deploys] at hrun
      rw [hrun]
      exact (setup.run_of_no_group _ package (missing setup hsetup)).2
  constructor
  case machine => rw [hafter]
  case envFile =>
    rw [hafter]
    exact (load_spares apart.settings).keepsFile
  case store =>
    intro store hstore
    rw [hafter]
    exact (load_spares (apart.store store hstore).2).keepsFile

/-- A job that asks for endpoints or for the access does not deploy, and a deploy without a resource
group does not begin. -/
theorem effects_of_queries (c : CommandLine) (w : Workstation) (apart : c.Apart w) :
    match c.job with
    | .deploy _ =>
      (∀ setup ∈ c.setup? w, setup.target.resourceGroup = "") → c.DoesNothing w
    | .endpoints | .context => c.OnlyLooks w := by
  cases hjob : c.job with
  | deploy package => exact run_doesNothing apart hjob
  | endpoints => exact run_onlyLooks apart (.inl hjob)
  | context => exact run_onlyLooks apart (.inr hjob)

theorem effects_when_pointed :
    (contextOf "b").Apart pointed ∧ (contextOf "b").OnlyLooks pointed ∧
      { contextOf "b" with job := .deploy ⟨"a", none⟩ }.DoesNothing pointed := by
  have hlooking : (contextOf "b").Apart pointed := ⟨by decide +kernel, by decide +kernel⟩
  have hdeploying : { contextOf "b" with job := .deploy ⟨"a", none⟩ }.Apart pointed :=
    ⟨by decide +kernel, by decide +kernel⟩
  have hmissing : ∀ setup ∈ { contextOf "b" with job := .deploy ⟨"a", none⟩ }.setup? pointed,
      setup.target.resourceGroup = "" := by decide +kernel
  have hlooks : (contextOf "b").OnlyLooks pointed := effects_of_queries _ _ hlooking
  exact ⟨hlooking, hlooks, effects_of_queries { contextOf "b" with job := .deploy ⟨"a", none⟩ }
    pointed hdeploying hmissing⟩

end CommandLine

end ClusterDeploy
