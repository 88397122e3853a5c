import ClusterDeploy.Proofs.Bootstrap.Sequence
import ClusterDeploy.Proofs.Flow.Files
import ClusterDeploy.Proofs.Kubeconfig.History
import ClusterDeploy.Proofs.Kubeconfig.Merge
/-!
# What a login does to the kubeconfig file

A bootstrap that succeeds without an override has made one update of the kubeconfig file: the first
kubeconfig fetched, reduced to what is stored of it, is merged into what the file held. Doing the
same once more changes nothing.
-/
namespace ClusterDeploy

open Kubeconfig (Upserted)

/-! ## What was fetched -/

def Step.firstFetched? : Step → Option (List UInt8)
  | ⟨.request (.credentials _ _ _), .ok (blob :: _), _, _⟩ => some blob
  | _ => none

def fetched (steps : List Step) : List (List UInt8) := steps.filterMap Step.firstFetched?

theorem fetched_append (a b : List Step) : fetched (a ++ b) = fetched a ++ fetched b :=
  List.filterMap_append

theorem Step.firstFetched?_inward {step : Step} (h : step.call.isOutward = false) :
    step.firstFetched? = none := by
  obtain ⟨call, answer, start, finish⟩ := step
  cases call with
  | request r => cases h
  | _ => rfl

theorem fetched_outward (steps : List Step) : fetched (outward steps) = fetched steps :=
  filterMap_outward (fun _ => Step.firstFetched?_inward) steps

/-! ## What is merged -/

namespace Kubeconfig

/-- What a login for a cluster and a namespace makes of a configuration. -/
structure LoggedIn (cluster inNamespace : String) (before login after : Kubeconfig) : Prop where
  clusters : Upserted before.clusters login.clusters after.clusters
  users : Upserted before.users login.users after.users
  /-- Of the contexts of the login only the first one counts, and of that only the body. -/
  contexts : ∃ first more, login.contexts = first :: more ∧
    Upserted before.contexts
      [⟨cluster, some { first.body.getD {} with inNamespace := some inNamespace }⟩] after.contexts
  once : (Kubeconfig.names before.contexts).count cluster ≤ 1 →
    (Kubeconfig.names after.contexts).count cluster = 1
  currentContext : after.currentContext = before.currentContext
  preferences : after.preferences = before.preferences
  extensions : after.extensions = before.extensions
  kind : after.kind = some (before.kind.getD "Config")
  apiVersion : after.apiVersion = some (before.apiVersion.getD "v1")

variable {before incoming after : List (Named α)} {entry : Named α}

theorem LoggedIn.unique {cluster inNamespace : String} {config login next next' : Kubeconfig}
    (h : LoggedIn cluster inNamespace config login next)
    (h' : LoggedIn cluster inNamespace config login next') : next = next' := by
  obtain ⟨first, more, hfirst, hcontexts⟩ := h.contexts
  obtain ⟨first', more', hfirst', hcontexts'⟩ := h'.contexts
  obtain ⟨rfl, rfl⟩ := List.cons.inj (hfirst.symm.trans hfirst')
  have hclusters := h.clusters.unique h'.clusters
  have husers := h.users.unique h'.users
  have hbodies := hcontexts.unique hcontexts'
  have hcurrent := h.currentContext.trans h'.currentContext.symm
  have hpreferences := h.preferences.trans h'.preferences.symm
  have hextensions := h.extensions.trans h'.extensions.symm
  have hkind := h.kind.trans h'.kind.symm
  have hversion := h.apiVersion.trans h'.apiVersion.symm
  cases next
  cases next'
  simp_all only

theorem Upserted.count_one (h : Upserted before [entry] after)
    (single : (Kubeconfig.names before).count entry.name ≤ 1) :
    (Kubeconfig.names after).count entry.name = 1 := by
  rw [h.names, List.count_append]
  by_cases known : entry.name ∈ Kubeconfig.names before
  · have hnew : newNames (Kubeconfig.names before) (Kubeconfig.names [entry]) = [] := by
      simpa [Kubeconfig.names, newNames] using known
    have hpos := List.count_pos_iff.mpr known
    rw [hnew, List.count_nil]
    omega
  · have hnew : newNames (Kubeconfig.names before) (Kubeconfig.names [entry]) = [entry.name] := by
      simpa [Kubeconfig.names, newNames] using known
    rw [hnew, List.count_eq_zero.mpr known, List.count_singleton_self]

theorem loggedIn_of_loginFor {login stored : Kubeconfig} {cluster inNamespace : String}
    (h : login.loginFor cluster inNamespace = some stored) (config : Kubeconfig) :
    LoggedIn cluster inNamespace config login (config.merge stored) := by
  unfold loginFor at h
  split at h
  · cases h
  · next first more hcontexts =>
    cases h
    have hupserted := upsertAll_upserted config.contexts
      [⟨cluster, some { first.body.getD {} with inNamespace := some inNamespace }⟩]
    exact {
      clusters := upsertAll_upserted _ _
      users := upsertAll_upserted _ _
      contexts := ⟨first, more, hcontexts, hupserted⟩
      once := hupserted.count_one
      currentContext := rfl
      preferences := rfl
      extensions := rfl
      kind := rfl
      apiVersion := rfl }

end Kubeconfig

/-! ## One run -/

namespace Bootstrapper

open Attempt (of result_bind_ok result_wrap_ok wrap)

variable {b : Bootstrapper} {c : Carried} {made : List Step}

theorem fetched_of_stages {cluster : String}
    (h : FailStop (fetchStages b.target cluster c) made none) :
    fetched made = [c.blob] ∧ ∀ step ∈ made, step.call.LeavesFiles := by
  obtain ⟨first, rest, rfl, ⟨inside, ⟨answer, start, finish, rfl, hanswer⟩, hinside⟩, hrest⟩ :=
    h.of_cons
  obtain ⟨second, last, rfl, ⟨rfl, hblob⟩, hlast⟩ := hrest.of_cons
  cases hlast
  obtain rfl : inside = none := Option.map_eq_none_iff.mp hinside.symm
  obtain rfl : answer = .ok c.blobs := hanswer
  constructor
  · cases hblobs : c.blobs with
    | nil =>
      rw [hblobs] at hblob
      cases hblob
    | cons blob others =>
      rw [hblobs] at hblob
      cases hblob
      rfl
  · simp [Call.LeavesFiles]

theorem adopted_of_stages {inNamespace cluster : String}
    (h : FailStop (adoptStages inNamespace cluster c.blob c) made none) :
    Kubeconfig.parse c.blob = .ok c.config ∧
      c.config.loginFor cluster inNamespace = some c.login ∧
      ∃ start finish later,
        made = ⟨.addContext cluster c.login, .ok c.path, start, finish⟩ :: later ∧
        fetched later = [] ∧ ∀ step ∈ later, step.call.LeavesFiles := by
  obtain ⟨_, _, rfl, ⟨rfl, hparse⟩, hparsed⟩ := h.of_cons
  obtain ⟨_, _, rfl, ⟨rfl, hlogin⟩, hreduced⟩ := hparsed.of_cons
  obtain ⟨_, _, rfl, ⟨inside, ⟨answer, start, finish, rfl, hanswer⟩, hinside⟩, hadded⟩ :=
    hreduced.of_cons
  obtain ⟨_, _, rfl, ⟨_, _, _, rfl, _⟩, hset⟩ := hadded.of_cons
  obtain ⟨_, _, rfl, ⟨_, ⟨_, _, _, _, rfl, _⟩, _⟩, hused⟩ := hset.of_cons
  cases hused
  obtain rfl : inside = none := Option.map_eq_none_iff.mp hinside.symm
  obtain rfl : answer = .ok c.path := hanswer
  refine ⟨hparse, loginFor_of_loginOf hlogin, start, finish, _, rfl, rfl, ?_⟩
  simp [Call.LeavesFiles]

theorem ensured_of_stages {name : String} (h : FailStop (namespaceStages name c) made none) :
    fetched made = [] ∧ ∀ step ∈ made, step.call.LeavesFiles := by
  obtain ⟨_, _, rfl, ⟨_, ⟨_, _, _, rfl, _⟩, _⟩, hrendered⟩ := h.of_cons
  obtain ⟨_, _, rfl, ⟨_, ⟨_, _, _, _, rfl, _⟩, _⟩, happlied⟩ := hrendered.of_cons
  cases happlied
  exact ⟨rfl, by simp [Call.LeavesFiles]⟩

variable {outside : Outside τ} {observer : Observer π} {store : KubeconfigStore}
  {s : Scene (Session π τ)} {event : LifecycleEvent} {outcome : BootstrapOutcome}

/-- A run that succeeds without an override has updated the kubeconfig file once. -/
theorem run_adds (plain : b.config.kubeconfigOverride = none)
    (hok : ((b.run event).runIn (Session.respond outside observer store) s).result = .ok outcome) :
    let r := (b.run event).runIn (Session.respond outside observer store) s
    ∃ cluster blob config login path, b.config.cluster = some cluster ∧ fetched r.steps = [blob] ∧
      Kubeconfig.parse blob = .ok config ∧
      config.loginFor cluster b.config.inNamespace = some login ∧
      store.add login s.state.files = (.ok path, r.scene.state.files) := by
  intro r
  have hpasses : ∃ c, r.Passes (b.sequence c)
      ⟨b.pathOf c, b.config.inNamespace, b.config.kubeconfigOverride.isSome⟩ := run_passes b event
  obtain ⟨c, fault, hstages, hresult⟩ := hpasses
  obtain rfl : fault = none := by
    rw [hok] at hresult
    cases fault with
    | none => rfl
    | some e => cases hresult
  have hfiles := (Session.filesAlong outside observer store (b.run event).run s).outward
  have hfetched := fetched_outward r.steps
  change FilesAlong store _ (outward r.steps) r.scene.state.files at hfiles
  change FailStop _ (outward r.steps) none at hstages
  unfold sequence accessStages at hstages
  rw [plain] at hstages
  obtain ⟨accessing, ensuring, hsteps, haccess, hensure⟩ := hstages.of_append
  cases hcluster : b.config.cluster with
  | none =>
    rw [hcluster] at haccess
    obtain ⟨_, _, _, hfailed, _⟩ := haccess.of_map_wrapped.of_cons
    cases hfailed.2
  | some cluster =>
    rw [hcluster] at haccess
    obtain ⟨fetching, adopting, rfl, hfetch, hadopt⟩ := haccess.of_append
    obtain ⟨hblob, hfetching⟩ := fetched_of_stages hfetch.of_map_wrapped
    obtain ⟨hparse, hlogin, start, finish, later, rfl, hnone, hlater⟩ :=
      adopted_of_stages hadopt.of_map_wrapped
    obtain ⟨hensured, hensuring⟩ := ensured_of_stages hensure.of_map_wrapped
    rw [hsteps, List.append_assoc] at hfiles
    obtain ⟨disk, after, hdisk, hrest⟩ := (hfiles.of_all_pass hfetching).of_add
    have hadd := KubeconfigStore.add_sound hdisk
    obtain rfl : after = r.scene.state.files :=
      (hrest.of_all_pass hlater).eq_of_all_pass hensuring
    refine ⟨cluster, c.blob, c.config, c.login, c.path, rfl, ?_, hparse, hlogin, hadd⟩
    rw [← hfetched, hsteps, fetched_append, fetched_append, hblob, hensured]
    change [c.blob] ++ fetched later ++ [] = [c.blob]
    rw [hnone, List.append_nil, List.append_nil]

/-! ## An outside where everything succeeds -/

/-- An outside where every request succeeds, and every login fetched is the same. -/
def lenient (blob : List UInt8) : Outside Unit := fun _ r _ =>
  { answer :=
      match r with
      | .list _ => .ok []
      | .rolloutStatus _ | .apply _ | .applyInput _ | .createNamespace _ _ | .useContext _ => .ok {}
      | .setEnvironment _ | .setKubeconfig _ => ()
      | .credentials _ _ _ => .ok [blob]
      | .push _ _ _ => .ok ()
    after := () }

theorem eq_of_fetched_lenient {blob found : List UInt8} (t : Flow α) (s : Scene (Session π Unit))
    (h : found ∈ fetched (t.run (Session.respond (lenient blob) observer store) s).steps) :
    found = blob := by
  induction t generalizing s with
  | done a => cases h
  | ask c next ih =>
    simp only [Flow.run, fetched, List.mem_filterMap, List.mem_cons] at h
    obtain ⟨step, rfl | hstep, hfound⟩ := h
    · cases c with
      | request r =>
        cases r with
        | credentials subscription resourceGroup cluster => exact (Option.some.inj hfound).symm
        | _ => cases hfound
      | _ => cases hfound
    · exact ih _ _ (List.mem_filterMap.mpr ⟨step, hstep, hfound⟩)
  | clock next ih => exact ih _ s h
  | pause time next ih => exact ih _ h

/-- There a run succeeds as soon as the login can be read and stored. -/
theorem run_ok_of_lenient {blob : List UInt8} {s : Scene (Session π Unit)} {cluster path : String}
    {config stored : Kubeconfig} {after : FileTree} (event : LifecycleEvent)
    (plain : b.config.kubeconfigOverride = none) (hcluster : b.config.cluster = some cluster)
    (hparse : Kubeconfig.parse blob = .ok config)
    (hlogin : config.loginFor cluster b.config.inNamespace = some stored)
    (hadd : store.add stored s.state.files (s.state.disks.headD {}) = (.ok path, after)) :
    ((b.run event).runIn (Session.respond (lenient blob) observer store) s).result =
      .ok ⟨path, b.config.inNamespace, false⟩ := by
  have hupdate (s' : Scene (Session π Unit))
      (hsame : s'.state.files = s.state.files ∧ s'.state.disks = s.state.disks) :
      ((wrap (.updateContext cluster) (of (Flow.call (.addContext cluster stored)))).runIn
        (Session.respond (lenient blob) observer store) s').result = .ok path := by
    refine result_wrap_ok _ ?_
    change (store.add stored s'.state.files (s'.state.disks.headD {})).1 = _
    rw [hsame.1, hsame.2, hadd]
  have hadopt (s' : Scene (Session π Unit))
      (hsame : s'.state.files = s.state.files ∧ s'.state.disks = s.state.disks) :
      ((adoptLogin b.config.inNamespace cluster blob).runIn
        (Session.respond (lenient blob) observer store) s').result = .ok path := by
    have hreduced : loginOf config cluster b.config.inNamespace = .ok stored := by
      rw [loginOf, hlogin]
    unfold adoptLogin
    rw [hparse]
    refine (result_bind_ok (a := config) rfl).trans ?_
    rw [hreduced]
    refine (result_bind_ok (a := stored) rfl).trans ?_
    exact (result_bind_ok (hupdate _ hsame)).trans rfl
  have hlogged (s' : Scene (Session π Unit))
      (hsame : s'.state.files = s.state.files ∧ s'.state.disks = s.state.disks) :
      (b.login.runIn (Session.respond (lenient blob) observer store) s').result = .ok path := by
    unfold login
    rw [hcluster]
    refine (result_bind_ok (a := blob) rfl).trans ?_
    refine (result_bind_ok (a := ()) rfl).trans ?_
    refine (result_bind_ok (result_wrap_ok _ (hadopt _ ?_))).trans ?_
    · exact hsame
    · rfl
  have haccess (s' : Scene (Session π Unit))
      (hsame : s'.state.files = s.state.files ∧ s'.state.disks = s.state.disks) :
      (b.access.runIn (Session.respond (lenient blob) observer store) s').result =
        .ok (path, false) := by
    unfold access
    rw [plain]
    exact (result_bind_ok (hlogged s' hsame)).trans rfl
  unfold run
  refine (result_bind_ok (a := ()) rfl).trans ?_
  refine (result_bind_ok (haccess _ ⟨?_, ?_⟩)).trans ?_ <;> rfl

/-! ## What is stored -/

/-- A login that succeeds leaves the merge of what the file held and of what was fetched. What the
file held is what the store read before, if the folder is there or the path never leads up. The same
login once more changes nothing that is read. -/
theorem login_stored (plain : b.config.kubeconfigOverride = none)
    (hok : ((b.run event).runIn (Session.respond outside observer store) s).result = .ok outcome) :
    let r := (b.run event).runIn (Session.respond outside observer store) s
    ∃ cluster blob login before after, b.config.cluster = some cluster ∧ fetched r.steps = [blob] ∧
      Kubeconfig.parse blob = .ok login ∧
      store.decode (store.held s.state.files) = .ok before ∧
      (s.state.files.isFolder (Path.folder store.path) = true ∨
        s.state.files.Rooted ∧ ".." ∉ Path.components store.path →
          store.load s.state.files = .ok before) ∧
      Kubeconfig.LoggedIn cluster b.config.inNamespace before login after ∧
      store.held r.scene.state.files = KubeconfigStore.stored after ∧
      (after.ReadsBack → store.load r.scene.state.files = .ok after ∧
        ∀ (again : LifecycleEvent) (s' : Scene (Session π τ)) (outcome' : BootstrapOutcome),
          let r' := (b.run again).runIn (Session.respond outside observer store) s'
          s'.state.files = r.scene.state.files → r'.result = .ok outcome' →
            fetched r'.steps = [blob] → store.load r'.scene.state.files = .ok after) := by
  intro r
  obtain ⟨cluster, blob, login, stored, path, hcluster, hfetched, hparse, hlogin, hadd⟩ :=
    run_adds plain hok
  obtain ⟨_, hmerged⟩ := KubeconfigStore.merged_of_add hadd
  obtain ⟨before, hbefore, hheld⟩ := hmerged.decoded
  refine ⟨cluster, blob, login, before, before.merge stored, hcluster, hfetched, hparse, hbefore,
    fun hplace => ?_, Kubeconfig.loggedIn_of_loginFor hlogin before, hheld, fun hreads => ?_⟩
  · rw [KubeconfigStore.load_eq, KubeconfigStore.settled_of_place hplace, hbefore]
  have hafter : store.decode (store.held r.scene.state.files) = .ok (before.merge stored) := by
    rw [hheld, KubeconfigStore.decode_stored hreads]
  refine ⟨?_, fun again s' outcome' hfiles hok' hfetched' => ?_⟩
  · rw [KubeconfigStore.load_eq, hmerged.settled, hafter]
  -- The second run stores the same login into the merge, which has its entries already.
  obtain ⟨cluster', blob', login', stored', path', hcluster', hblob, hparse', hlogin', hadd'⟩ :=
    run_adds plain hok'
  obtain rfl : cluster = cluster' := Option.some.inj (hcluster.symm.trans hcluster')
  obtain rfl : blob' = blob := by simpa using hblob.symm.trans hfetched'
  obtain rfl : login = login' := Except.ok.inj (hparse.symm.trans hparse')
  obtain rfl : stored = stored' := Option.some.inj (hlogin.symm.trans hlogin')
  obtain ⟨_, hmerged'⟩ := KubeconfigStore.merged_of_add hadd'
  obtain ⟨config, hconfig, hheld'⟩ := hmerged'.decoded
  rw [hfiles, hafter] at hconfig
  rw [KubeconfigStore.load_eq, hmerged'.settled, hheld', ← Except.ok.inj hconfig,
    Kubeconfig.merge_again, KubeconfigStore.decode_stored hreads]

/-! ## A probe -/

def probe : Bootstrapper where
  config := { cluster := some "c", inNamespace := "n" }
  target := { subscription := "s", resourceGroup := "g", name := "c" }

def probeScene (files : FileTree) : Scene (Session Unit Unit) where
  state := { files, environment := ⟨".env", .empty⟩, watcher := (), outside := () }

def probeRun (blob : List UInt8) (store : KubeconfigStore) (files : FileTree) :
    Run (Session Unit Unit) (Except Error BootstrapOutcome) :=
  (probe.run .preDeploy).runIn
    (Session.respond (lenient blob) ⟨fun _ w => w, fun _ w => w⟩ store) (probeScene files)

theorem probeRun_stores {blob : List UInt8} {config stored : Kubeconfig} {files after : FileTree}
    {path : String} (hparse : Kubeconfig.parse blob = .ok config)
    (hlogin : config.loginFor "c" "n" = some stored)
    (hadd : store.add stored files = (.ok path, after)) :
    (probeRun blob store files).result = .ok ⟨path, "n", false⟩ ∧
      fetched (probeRun blob store files).steps = [blob] ∧
      (probeRun blob store files).scene.state.files = after := by
  have hok : (probeRun blob store files).result = .ok ⟨path, "n", false⟩ := by
    unfold probeRun
    exact run_ok_of_lenient .preDeploy rfl rfl hparse hlogin hadd
  refine ⟨hok, ?_⟩
  unfold probeRun at hok ⊢
  obtain ⟨cluster, found, login, stored', path', hcluster, hfetched, hparse', hlogin', hadd'⟩ :=
    run_adds rfl hok
  have hmem := List.mem_singleton_self found
  rw [← hfetched] at hmem
  obtain rfl := eq_of_fetched_lenient _ _ hmem
  obtain rfl := Option.some.inj hcluster
  obtain rfl := Except.ok.inj (hparse'.symm.trans hparse)
  obtain rfl := Option.some.inj (hlogin'.symm.trans hlogin)
  exact ⟨hfetched, congrArg Prod.snd (hadd'.symm.trans hadd)⟩

def octets (config : Kubeconfig) : List UInt8 := Text.encodeUtf8 config.toYaml

theorem parse_octets {config : Kubeconfig} (reads : config.ReadsBack) :
    Kubeconfig.parse (octets config) = .ok config :=
  Kubeconfig.parse_encodeUtf8 reads

/-- A tree with one kubeconfig, which has been updated before. -/
def holding (config : Kubeconfig) : FileTree where
  entries := [(["config"], .file (octets config)), (["config.lock"], .file [])]

theorem decode_holding {config : Kubeconfig} (reads : config.ReadsBack) :
    KubeconfigStore.decode ⟨"config"⟩ (KubeconfigStore.held ⟨"config"⟩ (holding config)) =
      .ok config := by
  have hheld : KubeconfigStore.held ⟨"config"⟩ (holding config) =
      KubeconfigStore.stored config := by rfl
  rw [hheld, KubeconfigStore.decode_stored reads]

theorem add_holding {config : Kubeconfig} (reads : config.ReadsBack) (login : Kubeconfig) :
    KubeconfigStore.add ⟨"config"⟩ login (holding config) =
      (.ok "config", holding (config.merge login)) := by
  have hlocation : KubeconfigStore.location ⟨"config"⟩ (holding config) =
      .ok (["config"], holding config) := by rfl
  have hlock : (holding config).touch (KubeconfigStore.lockPath "config") =
      .ok (holding config) := by rfl
  have htarget : (holding config).target "config" = .ok ["config"] := by rfl
  exact KubeconfigStore.add_eq_ok hlocation hlock (decode_holding reads) htarget

/-- The kubeconfig that is there. All its names but that of the second context come again. -/
def known : Kubeconfig where
  clusters := [⟨"k", some { server := some "old" }⟩]
  users := [⟨"u", some { token := some "t" }⟩]
  contexts := [⟨"c", some { cluster := "k", user := some "u" }⟩,
    ⟨"d", some { cluster := "k", user := some "u" }⟩]
  currentContext := some "d"

def renewed : Kubeconfig where
  clusters := [⟨"k", some { server := some "new" }⟩]
  users := [⟨"u", some { token := some "s" }⟩, ⟨"v", none⟩]
  contexts := [⟨"admin", some { cluster := "k", user := some "u" }⟩, ⟨"d", none⟩]
  currentContext := some "admin"

def renewedStored : Kubeconfig :=
  { renewed with
    contexts := [⟨"c", some { cluster := "k", user := some "u", inNamespace := some "n" }⟩]
    currentContext := some "c" }

def combined : Kubeconfig where
  clusters := [⟨"k", some { server := some "new" }⟩]
  users := [⟨"u", some { token := some "s" }⟩, ⟨"v", none⟩]
  contexts := [⟨"c", some { cluster := "k", user := some "u", inNamespace := some "n" }⟩,
    ⟨"d", some { cluster := "k", user := some "u" }⟩]
  currentContext := some "d"
  kind := some "Config"
  apiVersion := some "v1"

theorem known_readsBack : known.ReadsBack := by decide +kernel

theorem renewed_readsBack : renewed.ReadsBack := by decide +kernel

theorem combined_readsBack : combined.ReadsBack := by decide +kernel

theorem probeRun_holding {config : Kubeconfig} (reads : config.ReadsBack) :
    let r := probeRun (octets renewed) ⟨"config"⟩ (holding config)
    r.result = .ok ⟨"config", "n", false⟩ ∧ fetched r.steps = [octets renewed] ∧
      r.scene.state.files = holding (config.merge renewedStored) :=
  probeRun_stores (parse_octets renewed_readsBack) rfl (add_holding reads _)

/-- A login whose cluster, user and context are there already, and the same login once more. -/
theorem login_stored_twice :
    let first := probeRun (octets renewed) ⟨"config"⟩ (holding known)
    let second := probeRun (octets renewed) ⟨"config"⟩ (holding combined)
    probe.config.kubeconfigOverride = none ∧
      first.result = .ok ⟨"config", "n", false⟩ ∧ second.result = .ok ⟨"config", "n", false⟩ ∧
      first.scene.state.files = holding combined ∧
      Kubeconfig.LoggedIn "c" "n" known renewed combined ∧
      KubeconfigStore.load ⟨"config"⟩ first.scene.state.files = .ok combined ∧
      KubeconfigStore.load ⟨"config"⟩ second.scene.state.files = .ok combined := by
  obtain ⟨hok, hfetched, hfiles⟩ := probeRun_holding known_readsBack
  obtain ⟨hagain, hfetched', -⟩ := probeRun_holding combined_readsBack
  have hlogin : renewed.loginFor "c" "n" = some renewedStored := rfl
  have hmerged := Kubeconfig.loggedIn_of_loginFor hlogin known
  refine ⟨rfl, hok, hagain, hfiles, hmerged, ?_⟩
  unfold probeRun at hok hagain hfetched hfetched' hfiles ⊢
  obtain ⟨cluster, blob, login, before, after, hcluster, hblob, hparse, hbefore, -, hlogged, -,
    hreads⟩ := login_stored rfl hok
  obtain rfl := Option.some.inj hcluster
  obtain rfl := (List.cons.inj (hblob.symm.trans hfetched)).1
  obtain rfl := Except.ok.inj (hparse.symm.trans (parse_octets renewed_readsBack))
  obtain rfl := Except.ok.inj (hbefore.symm.trans (decode_holding known_readsBack))
  obtain rfl : after = combined := hlogged.unique hmerged
  obtain ⟨hread, hreread⟩ := hreads combined_readsBack
  have hsame : (probeScene (holding combined)).state.files = _ := hfiles.symm
  have hreread := hreread .preDeploy (probeScene (holding combined)) ⟨"config", "n", false⟩ hsame
    hagain hfetched'
  exact ⟨hread, hreread⟩

def probeOctets : List UInt8 := "contexts:\n- name: c\n".toList.map fun c => UInt8.ofNat c.toNat

def probeFetched : Kubeconfig := { contexts := [⟨"c", none⟩] }

def probeStored : Kubeconfig where
  contexts := [⟨"c", some { inNamespace := some "n" }⟩]
  currentContext := some "c"

theorem parse_probe : Kubeconfig.parse probeOctets = .ok probeFetched := by decide +kernel

def probeDetour : Kubeconfig where
  clusters := [⟨"old", none⟩]
  contexts := [⟨"c", some { inNamespace := some "n" }⟩]
  kind := some "Config"
  apiVersion := some "v1"

theorem probeDetour_readsBack : probeDetour.ReadsBack := by decide +kernel

/-- What is read before a login need not be what the login is merged into: here nothing is read, and
afterwards there is a cluster that was not fetched either. -/
theorem login_at_detour_keeps_unread :
    let r := probeRun probeOctets KubeconfigStore.detour KubeconfigStore.detourFiles
    KubeconfigStore.detour.load KubeconfigStore.detourFiles = .ok {} ∧
      r.result = .ok ⟨KubeconfigStore.detour.path, "n", false⟩ ∧
      Kubeconfig.parse probeOctets = .ok probeFetched ∧ probeDetour.ReadsBack ∧
      KubeconfigStore.detour.load r.scene.state.files = .ok probeDetour ∧
      ¬ Kubeconfig.LoggedIn "c" "n" {} probeFetched probeDetour := by
  obtain ⟨after, hadd⟩ := KubeconfigStore.add_detour probeStored
  obtain ⟨hok, -, hfiles⟩ := probeRun_stores parse_probe rfl hadd
  obtain ⟨config, hbefore, hafter⟩ := (KubeconfigStore.merged_of_add hadd).2.load
  have hmerge : config.merge probeStored = probeDetour := by
    rw [Except.ok.inj (hbefore.symm.trans KubeconfigStore.held_detour)]
    rfl
  rw [hmerge, ← hfiles] at hafter
  refine ⟨KubeconfigStore.load_detour, hok, parse_probe, probeDetour_readsBack,
    hafter probeDetour_readsBack, fun hlogged => ?_⟩
  have hnames := hlogged.clusters.names
  exact absurd hnames (by decide)

end Bootstrapper

end ClusterDeploy
