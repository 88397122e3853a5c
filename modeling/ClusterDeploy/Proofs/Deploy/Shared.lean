import ClusterDeploy.Proofs.Deploy.Record
import ClusterDeploy.Proofs.Environment.Property
/-!
# Deploys that share an environment file

Deploys of several services come one after the other, and each of them loads the file anew. One that
publishes an address changes the property of its own service, and of every other one whose name is
the same in upper case with underscores for hyphens. What is recorded for any other service stays.
-/
namespace ClusterDeploy

namespace Environment

/-- What the name of a property keeps of the name of its service. -/
def folded (service : String) : List Char :=
  (Text.upper service.toList).map fun c => if c = '-' then '_' else c

theorem propertyKey_inj {a b key : String} :
    propertyKey a key = propertyKey b key ↔ folded a = folded b := by
  rw [← String.toList_inj, toList_propertyKey, toList_propertyKey, List.append_left_inj,
    List.append_right_inj]
  rfl

end Environment

namespace EnvFile

open Environment (propertyKey endpointProperty folded)

def recorded (path service : String) (files : FileTree) : Option String :=
  (load files path).toOption.bind fun env => env.values.get? (propertyKey service endpointProperty)

def Tidy (path : String) (files : FileTree) : Prop :=
  ∀ env, load files path = .ok env → ∀ entry ∈ env.values.entries, Dotenv.Plain entry.1

variable {files files' : FileTree} {env : EnvFile} {path service url : String} {disk : Disk}

theorem recorded_of_load (loaded : load files path = .ok env) (other : String) :
    recorded path other files = env.values.get? (propertyKey other endpointProperty) := by
  rw [recorded, loaded]
  rfl

theorem path_of_load (loaded : load files path = .ok env) : env.path = path := by
  unfold load at loaded
  split at loaded
  · cases loaded
    rfl
  split at loaded
  · cases loaded
  split at loaded
  · cases loaded
  · cases loaded
    rfl

theorem empty_of_no_file (h : ∀ content, files.standing? path ≠ some (.file content))
    (loaded : load files path = .ok env) : env.values = .empty := by
  unfold load at loaded
  rw [FileTree.exists?_eq] at loaded
  cases hstanding : files.standing? path with
  | none =>
    rw [hstanding] at loaded
    cases loaded
    rfl
  | some node =>
    cases node with
    | file content => exact absurd hstanding (h content)
    | folder =>
      have hread : files.readText path = .error .isADirectory := by
        rw [FileTree.readText, FileTree.read_of_folder hstanding]
        rfl
      rw [hstanding, hread] at loaded
      cases loaded

theorem recorded_of_no_file (h : ∀ content, files.standing? path ≠ some (.file content))
    (other : String) : recorded path other files = none := by
  unfold recorded
  cases hload : load files path with
  | error e => rfl
  | ok env =>
    change env.values.get? _ = none
    rw [empty_of_no_file h hload]
    rfl

/-- A save that fails puts nothing else at its path when the folder is there already, and no file
when the disk refuses nothing. -/
theorem standing?_of_unsaved {e : Error} (env : EnvFile)
    (calm : files.isFolder (Path.folder env.path) = true ∨ disk = {})
    (unsaved : env.save files disk = (.error e, files')) :
    files'.standing? env.path = files.standing? env.path ∨
      ∀ content, files'.standing? env.path ≠ some (.file content) := by
  unfold save at unsaved
  split at unsaved
  · cases unsaved
  next fault left hreplace =>
  cases unsaved
  rcases calm with hfolder | rfl
  · left
    rcases FileTree.replace_eq_error hreplace with hleft | ⟨made, rest, hmade, rfl⟩
    · cases (FileTree.createFolders_of_isFolder hfolder).symm.trans hleft
    · cases (FileTree.createFolders_of_isFolder hfolder).symm.trans hmade
      exact FileTree.standing?_temporaries env.path
  · right
    intro content hstanding
    rcases FileTree.replace_eq_error hreplace with hleft | ⟨made, rest, hmade, rfl⟩
    · obtain ⟨-, hmissing⟩ := (FileTree.missing_of_createFoldersWithin hleft).resolve_left nofun
      cases hmissing.symm.trans (FileTree.isFolder_of_file hstanding)
    · rw [FileTree.standing?_temporaries] at hstanding
      obtain ⟨p, htarget⟩ := FileTree.target_of_file hstanding
      cases (FileTree.replace_of_target hmade htarget _).symm.trans hreplace

/-- What is saved replaces what the file had for all services of the same folded name. -/
theorem recorded_of_saved (tidy : Tidy path files) (loaded : load files path = .ok env)
    (hequals : '=' ∉ service.toList) (hfeed : '\n' ∉ service.toList)
    (saved : (env.record service url).save files disk = (.ok (), files')) :
    Tidy path files' ∧ ∀ other, recorded path other files' =
      if folded service = folded other then some url else recorded path other files := by
  have hpath := path_of_load loaded
  have hplain : ∀ entry ∈ (env.record service url).values.entries, Dotenv.Plain entry.1 :=
    plain_record (tidy env loaded) hequals hfeed
  have hload : load files' path = .ok (env.record service url) := by
    have hload := load_saved (save_sound saved)
    rw [Dotenv.parse_render _ hplain] at hload
    change load files' env.path = .ok (env.record service url) at hload
    rwa [hpath] at hload
  constructor
  · intro env' hload'
    cases hload.symm.trans hload'
    exact hplain
  · intro other
    rw [recorded_of_load hload, recorded_of_load loaded]
    refine (Environment.get?_set _ _ _ _).trans ?_
    simp only [Environment.propertyKey_inj, eq_comm]

/-- What cannot be saved leaves what the file had. -/
theorem recorded_of_unsaved {e : Error} (tidy : Tidy path files)
    (loaded : load files path = .ok env)
    (calm : files.isFolder (Path.folder path) = true ∨ disk = {})
    (unsaved : (env.record service url).save files disk = (.error e, files')) :
    Tidy path files' ∧ ∀ other, recorded path other files' = recorded path other files := by
  have hgrows := save_eq_error unsaved
  obtain rfl : env.path = path := path_of_load loaded
  have hstanding : _ ∨ ∀ content, files'.standing? env.path ≠ some (.file content) :=
    standing?_of_unsaved (env.record service url) calm unsaved
  rcases hstanding with hsame | hnone
  · have hload : load files' env.path = load files env.path := load_congr hsame
    constructor
    · intro env' hload'
      exact tidy env' (hload.symm.trans hload')
    · intro other
      rw [recorded, recorded, hload]
  · have hbefore : ∀ content, files.standing? env.path ≠ some (.file content) := fun content h =>
      hnone content (hgrows.standing? h)
    constructor
    · intro env' hload'
      rw [empty_of_no_file hnone hload']
      nofun
    · intro other
      rw [recorded_of_no_file hnone, recorded_of_no_file hbefore]

theorem keepsFolders_save (env : EnvFile) (files : FileTree) (disk : Disk) :
    FileTree.KeepsFolders files (env.save files disk).2 := by
  have hkept := files.keepsFolders_replace env.path (Text.encodeUtf8 env.text) disk
  unfold save
  split <;> next h => rwa [h] at hkept

end EnvFile

namespace Deploy

open Attempt
open Environment (folded propertyKey endpointProperty)

/-! ## One deploy -/

/-- A deploy that was asked for, and the scene for it apart from files and environment. The disks of
the scene tell which of its saves are disturbed. -/
structure Order (π τ : Type) where
  service : ServiceConfig
  package : Option ServicePackage
  target : TargetResource
  poll : PollOptions
  start : Scene (Session π τ)

section Orders

variable (outside : Outside τ) (observer : Observer π) (store : KubeconfigStore) (path : String)

def Order.run (o : Order π τ) (env : EnvFile) (files : FileTree) :
    Run (Session π τ) (Except Error DeployResult) :=
  (Deploy.run o.service o.package o.target o.poll).runIn (Session.respond outside observer store)
    { o.start with state := { o.start.state with files, environment := env } }

def published (result : Except Error DeployResult) : Option String :=
  result.toOption.bind fun d => d.endpoints.getLast?.map Endpoint.urlOf

/-- Carries an order out with the environment that is loaded from the file; nothing is done when it
cannot be loaded. The second part is the address that was published. -/
def Order.carryOut (o : Order π τ) (files : FileTree) : FileTree × Option String :=
  match EnvFile.load files path with
  | .error _ => (files, none)
  | .ok env =>
    let r := o.run outside observer store env files
    (r.scene.state.files, published r.result)

/-- The files after some orders, and for each address that was published the name of its service. -/
def carryOutAll : List (Order π τ) → FileTree → FileTree × List (String × String)
  | [], files => (files, [])
  | o :: more, files =>
    let (files, url) := o.carryOut outside observer store path files
    let (last, log) := carryOutAll more files
    (last, (url.map fun url => (o.service.name, url)).toList ++ log)

end Orders

variable {outside : Outside τ} {observer : Observer π} {store : KubeconfigStore} {path : String}

/-- An order changes nothing and publishes nothing, or it records the address of its last endpoint
and publishes it when that could be saved. -/
theorem Order.run_cases (outside : Outside τ) (observer : Observer π) (store : KubeconfigStore)
    (o : Order π τ) (env : EnvFile) (files : FileTree) :
    let r := o.run outside observer store env files
    (r.scene.state.environment = env ∧ r.scene.state.files = files ∧ published r.result = none) ∨
    ∃ url, let saved := (env.record o.service.name url).save files (o.start.state.disks.headD {})
      r.scene.state.environment = env.record o.service.name url ∧
        r.scene.state.files = saved.2 ∧ published r.result = saved.1.toOption.map fun _ => url := by
  let s : Scene (Session π τ) :=
    { o.start with state := { o.start.state with files, environment := env } }
  cases hprepared : ((prepare o.service o.package o.target o.poll).runIn
      (Session.respond outside observer store) s).result with
  | error e =>
    left
    have hrun : o.run outside observer store env files = _ := run_of_error hprepared
    have huntouched :=
      prepare_untouched outside observer store o.service o.package o.target o.poll s
    rw [hrun]
    exact ⟨huntouched.environment, huntouched.files, rfl⟩
  | ok d =>
    cases hline : d.endpoints.getLast? with
    | none =>
      left
      obtain ⟨huntouched, hresult⟩ := run_unexposed hprepared hline
      refine ⟨huntouched.environment, huntouched.files, (congrArg published hresult).trans ?_⟩
      exact congrArg (Option.map Endpoint.urlOf) hline
    | some line =>
      right
      obtain ⟨henvironment, hfiles, hresult, -⟩ := run_recorded hprepared hline
      refine ⟨Endpoint.urlOf line, henvironment, hfiles, (congrArg published hresult).trans ?_⟩
      change published (Except.map _ (Except.mapError _
        ((env.record o.service.name (Endpoint.urlOf line)).save files
          (o.start.state.disks.headD {})).1)) = _
      cases ((env.record o.service.name (Endpoint.urlOf line)).save files
        (o.start.state.disks.headD {})).1 with
      | error e => rfl
      | ok => exact congrArg (Option.map Endpoint.urlOf) hline

theorem get?_of_run (outside : Outside τ) (observer : Observer π) (store : KubeconfigStore)
    (o : Order π τ) (env : EnvFile) (files : FileTree) :
    let r := o.run outside observer store env files
    let kept service := r.scene.state.environment.values.get? (propertyKey service endpointProperty)
    (∀ other, folded o.service.name ≠ folded other →
      kept other = env.values.get? (propertyKey other endpointProperty)) ∧
    ∀ url, published r.result = some url → kept o.service.name = some url := by
  rcases o.run_cases outside observer store env files with ⟨henv, -, hurl⟩ | ⟨url, henv, -, hurl⟩
  · dsimp only
    rw [henv, hurl]
    exact ⟨fun _ _ => rfl, nofun⟩
  · dsimp only
    rw [henv, hurl]
    have hget (service : String) :
        (env.record o.service.name url).values.get? (propertyKey service endpointProperty) =
          if propertyKey service endpointProperty = propertyKey o.service.name endpointProperty
          then some url else env.values.get? (propertyKey service endpointProperty) :=
      Environment.get?_set _ _ _ _
    constructor
    · intro other hother
      rw [hget, if_neg fun h => hother (Environment.propertyKey_inj.mp h).symm]
    · intro published hpublished
      obtain ⟨-, -, rfl⟩ := Option.map_eq_some_iff.mp hpublished
      rw [hget, if_pos rfl]

theorem recorded_of_carryOut {files : FileTree} (o : Order π τ) (tidy : EnvFile.Tidy path files)
    (calm : files.isFolder (Path.folder path) = true ∨ o.start.state.disks = [])
    (hequals : '=' ∉ o.service.name.toList) (hfeed : '\n' ∉ o.service.name.toList) :
    let done := o.carryOut outside observer store path files
    EnvFile.Tidy path done.1 ∧ ∀ other, EnvFile.recorded path other done.1 =
      if folded o.service.name = folded other then done.2.or (EnvFile.recorded path other files)
      else EnvFile.recorded path other files := by
  unfold Order.carryOut
  cases hload : EnvFile.load files path with
  | error e => exact ⟨tidy, fun other => (ite_self _).symm⟩
  | ok env =>
    dsimp only
    rcases o.run_cases outside observer store env files with
      ⟨-, hfiles, hurl⟩ | ⟨url, -, hfiles, hurl⟩
    · rw [hfiles, hurl]
      exact ⟨tidy, fun other => (ite_self _).symm⟩
    rw [hfiles, hurl]
    have hdisk : files.isFolder (Path.folder path) = true ∨ o.start.state.disks.headD {} = {} :=
      calm.imp_right fun hnone => by rw [hnone]; rfl
    cases hsave : (env.record o.service.name url).save files (o.start.state.disks.headD {}) with
    | mk saved after =>
      cases saved with
      | ok => exact EnvFile.recorded_of_saved tidy hload hequals hfeed hsave
      | error e =>
        obtain ⟨htidy, hsame⟩ := EnvFile.recorded_of_unsaved tidy hload hdisk hsave
        exact ⟨htidy, fun other => (hsame other).trans (ite_self _).symm⟩

theorem keepsFolders_carryOut (o : Order π τ) (files : FileTree) :
    FileTree.KeepsFolders files (o.carryOut outside observer store path files).1 := by
  unfold Order.carryOut
  cases EnvFile.load files path with
  | error e => exact .refl files
  | ok env =>
    dsimp only
    rcases o.run_cases outside observer store env files with ⟨-, hfiles, -⟩ | ⟨url, -, hfiles, -⟩
    · rw [hfiles]
      exact .refl files
    · rw [hfiles]
      exact EnvFile.keepsFolders_save (env.record o.service.name url) files _

/-! ## One deploy after the other -/

/-- The last address that was published for a service whose name is among some. -/
def latest (among : String → Bool) (log : List (String × String)) : Option String :=
  (log.filter fun entry => among entry.1).getLast?.map Prod.snd

theorem latest_append (among : String → Bool) (log more : List (String × String)) :
    latest among (log ++ more) = (latest among more).or (latest among log) := by
  unfold latest
  rw [List.filter_append, List.getLast?_append, Option.map_or]

theorem latest_published (among : String → Bool) (name : String) (url : Option String) :
    latest among (url.map fun url => (name, url)).toList = if among name then url else none := by
  cases url with
  | none => exact (ite_self none).symm
  | some url =>
    unfold latest
    by_cases h : among name
    · simp [h]
    · simp [h]

theorem latest_congr {among among' : String → Bool} {log : List (String × String)}
    (h : ∀ entry ∈ log, among entry.1 = among' entry.1) : latest among log = latest among' log := by
  unfold latest
  rw [List.filter_congr h]

theorem recorded_of_carryOutAll (orders : List (Order π τ)) {files : FileTree}
    (tidy : EnvFile.Tidy path files)
    (calm : files.isFolder (Path.folder path) = true ∨ ∀ o ∈ orders, o.start.state.disks = [])
    (names : ∀ o ∈ orders, '=' ∉ o.service.name.toList ∧ '\n' ∉ o.service.name.toList)
    (service : String) :
    let done := carryOutAll outside observer store path orders files
    EnvFile.recorded path service done.1 =
      (latest (folded · = folded service) done.2).or (EnvFile.recorded path service files) := by
  induction orders generalizing files with
  | nil => rfl
  | cons o more ih =>
    obtain ⟨hequals, hfeed⟩ := names o List.mem_cons_self
    have hnow := calm.imp_right fun sound => sound o List.mem_cons_self
    have hlater :
        (o.carryOut outside observer store path files).1.isFolder (Path.folder path) = true ∨
          ∀ o ∈ more, o.start.state.disks = [] :=
      calm.imp (FileTree.isFolder_kept (keepsFolders_carryOut o files)) fun sound o ho =>
        sound o (List.mem_cons_of_mem _ ho)
    have hfirst :=
      @recorded_of_carryOut _ _ outside observer store path files o tidy hnow hequals hfeed
    have hmore := ih hfirst.1 hlater fun o ho => names o (List.mem_cons_of_mem _ ho)
    dsimp only [carryOutAll] at hmore ⊢
    rw [hmore, hfirst.2, latest_append, latest_published, Option.or_assoc]
    by_cases h : folded o.service.name = folded service
    · simp [h]
    · simp [h]

theorem mem_log {orders : List (Order π τ)} {files : FileTree} {entry : String × String}
    (h : entry ∈ (carryOutAll outside observer store path orders files).2) :
    ∃ o ∈ orders, o.service.name = entry.1 := by
  induction orders generalizing files with
  | nil => cases h
  | cons o more ih =>
    rcases List.mem_append.mp h with hentry | hentry
    · obtain ⟨url, -, rfl⟩ := Option.map_eq_some_iff.mp (Option.mem_toList.mp hentry)
      exact ⟨o, List.mem_cons_self, rfl⟩
    · obtain ⟨o, ho, hname⟩ := ih hentry
      exact ⟨o, List.mem_cons_of_mem _ ho, hname⟩

/-- Deploys keep the addresses of services apart whose names differ in more than case and hyphens.
In memory a deploy changes no other address, and its own one is there when it has published it. In
the file that each deploy loads anew stands in the end, for every service, what was published last
under a name that folds to the same; that is its own address when no other service in question has
such a name. The disk may refuse any of the saves once the folder of the file is there. -/
theorem endpoints_kept_apart (outside : Outside τ) (observer : Observer π) (store : KubeconfigStore)
    (path : String) (orders : List (Order π τ)) (files : FileTree)
    (tidy : EnvFile.Tidy path files)
    (calm : files.isFolder (Path.folder path) = true ∨ ∀ o ∈ orders, o.start.state.disks = [])
    (names : ∀ o ∈ orders, '=' ∉ o.service.name.toList ∧ '\n' ∉ o.service.name.toList) :
    (∀ o ∈ orders, ∀ env before,
      let r := o.run outside observer store env before
      let kept service :=
        r.scene.state.environment.values.get? (propertyKey service endpointProperty)
      (∀ other, folded o.service.name ≠ folded other →
        kept other = env.values.get? (propertyKey other endpointProperty)) ∧
      ∀ url, published r.result = some url → kept o.service.name = some url) ∧
    let done := carryOutAll outside observer store path orders files
    ∀ service,
      EnvFile.recorded path service done.1 =
        (latest (folded · = folded service) done.2).or (EnvFile.recorded path service files) ∧
      ((∀ o ∈ orders, folded o.service.name = folded service → o.service.name = service) →
        EnvFile.recorded path service done.1 =
          (latest (· = service) done.2).or (EnvFile.recorded path service files)) := by
  refine ⟨fun o _ env before => get?_of_run outside observer store o env before, ?_⟩
  intro done service
  have hrecorded : EnvFile.recorded path service done.1 = _ :=
    recorded_of_carryOutAll orders tidy calm names service
  refine ⟨hrecorded, fun apart => hrecorded.trans ?_⟩
  have hown : latest (folded · = folded service) done.2 = latest (· = service) done.2 := by
    apply latest_congr
    intro entry hentry
    obtain ⟨o, ho, hname⟩ := mem_log hentry
    rw [decide_eq_decide, ← hname]
    exact ⟨apart o ho, congrArg folded⟩
  rw [hown]

def addressed : Outside String := fun files r address =>
  match r with
  | .list .service =>
    { answer := .ok [.obj [("metadata", .obj [("name", .str "lb")]),
        ("spec", .obj [("type", .str "LoadBalancer")]),
        ("status", .obj [("loadBalancer",
          .obj [("ingress", .arr [.obj [("ip", .str address)]])])])]]
      after := address }
  | r => { answer := (exposed files r ()).answer, after := address }

def behind (address name : String) (disks : List Disk := []) : Order ProgressChannel String where
  service := { name, k8s := { serviceName := "lb" } }
  package := some ⟨"image", none⟩
  target := ⟨"s", "g", "c"⟩
  poll := .every 5 0
  start := { state := {
    files := {}
    disks
    environment := ⟨".env", .empty⟩
    watcher := .ofCapacity 16
    outside := address } }

def carriedOut (orders : List (Order ProgressChannel String)) : FileTree × List (String × String) :=
  carryOutAll addressed ProgressChannel.observer ⟨"config"⟩ ".env" orders {}

/-- The last of three deploys cannot save its address. -/
theorem endpoints_kept_apart_pair :
    let done := carriedOut [behind "1.2.3.4" "to-do", behind "5.6.7.8" "web",
      behind "9.9.9.9" "to-do" [{ rename := some .permissionDenied }]]
    done.2 = [("to-do", "http://1.2.3.4"), ("web", "http://5.6.7.8")] ∧
      EnvFile.recorded ".env" "to-do" done.1 = some "http://1.2.3.4" ∧
      EnvFile.recorded ".env" "web" done.1 = some "http://5.6.7.8" := by
  intro done
  have hlog : done.2 = [("to-do", "http://1.2.3.4"), ("web", "http://5.6.7.8")] := by
    decide +kernel
  have tidy : EnvFile.Tidy ".env" {} := by
    intro env hload entry hentry
    cases hload
    cases hentry
  obtain ⟨-, hkept⟩ := endpoints_kept_apart addressed ProgressChannel.observer ⟨"config"⟩ ".env"
    [behind "1.2.3.4" "to-do", behind "5.6.7.8" "web",
      behind "9.9.9.9" "to-do" [{ rename := some .permissionDenied }]] {} tidy
    (.inl (by decide +kernel)) (by decide)
  have htodo : EnvFile.recorded ".env" "to-do" done.1 = (latest (· = "to-do") done.2).or none :=
    (hkept "to-do").2 (by decide +kernel)
  have hweb : EnvFile.recorded ".env" "web" done.1 = (latest (· = "web") done.2).or none :=
    (hkept "web").2 (by decide +kernel)
  rw [htodo, hweb, hlog]
  exact ⟨rfl, rfl, rfl⟩

/-- A name with an underscore takes the place of one with a hyphen. -/
theorem endpoints_mixed_up :
    let done := carriedOut [behind "1.2.3.4" "to-do", behind "5.6.7.8" "to_do"]
    done.2 = [("to-do", "http://1.2.3.4"), ("to_do", "http://5.6.7.8")] ∧
      EnvFile.recorded ".env" "to-do" done.1 = some "http://5.6.7.8" := by
  decide +kernel

end Deploy

end ClusterDeploy
