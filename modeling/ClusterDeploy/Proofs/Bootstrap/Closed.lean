import ClusterDeploy.Proofs.Bootstrap.Login
import ClusterDeploy.Proofs.Kubeconfig.Closed
/-!
# No login dangles

Logins for any clusters are stored one after the other, and between them a client switches to other
contexts. If no context of the file dangles in the beginning, none ever does.
-/
namespace ClusterDeploy

/-- A bootstrap that logs in to the cluster succeeds, and leads from the first files to the second
ones. Whoever is asked may answer anything. -/
inductive KubeconfigStore.LogsIn (store : KubeconfigStore) (cluster inNamespace : String)
    (login : Kubeconfig) : FileTree → FileTree → Prop
  | run {π τ : Type} {b : Bootstrapper} {event : LifecycleEvent} {outside : Outside τ}
      {observer : Observer π} {s : Scene (Session π τ)} {outcome : BootstrapOutcome}
      {blob : List UInt8}
      (plain : b.config.kubeconfigOverride = none) (named : b.config.cluster = some cluster)
      (within : b.config.inNamespace = inNamespace)
      (ok : ((b.run event).runIn (Session.respond outside observer store) s).result = .ok outcome)
      (first : (fetched ((b.run event).runIn (Session.respond outside observer store)
        s).steps).head? = some blob)
      (parsed : Kubeconfig.parse blob = .ok login) :
      LogsIn store cluster inNamespace login s.state.files
        ((b.run event).runIn (Session.respond outside observer store) s).scene.state.files

namespace KubeconfigStore

variable {store : KubeconfigStore} {start files files' : FileTree} {cluster inNamespace : String}
  {login : Kubeconfig}

def Switched (store : KubeconfigStore) (files files' : FileTree) : Prop :=
  ∀ config, store.decode (store.held files) = .ok config →
    ∃ current, store.decode (store.held files') = .ok { config with currentContext := current }

def Rereads (store : KubeconfigStore) (cluster inNamespace : String) (login : Kubeconfig)
    (files : FileTree) : Prop :=
  ∀ config, store.decode (store.held files) = .ok config →
    (config.withLogin cluster inNamespace login).ReadsBack

inductive Logins (store : KubeconfigStore) (start : FileTree) : FileTree → Prop
  | start : Logins store start start
  | login {files files' : FileTree} {cluster inNamespace : String} {login : Kubeconfig}
      (earlier : Logins store start files)
      (logsIn : store.LogsIn cluster inNamespace login files files') (usable : login.Usable)
      (reads : store.Rereads cluster inNamespace login files) :
      Logins store start files'
  | switch {files files' : FileTree} (earlier : Logins store start files)
      (switched : store.Switched files files') : Logins store start files'

theorem LogsIn.merged (h : store.LogsIn cluster inNamespace login files files') :
    ∃ config, store.decode (store.held files) = .ok config ∧
      store.held files' = stored (config.withLogin cluster inNamespace login) ∧
      store.Settled files' := by
  cases h with
  | run plain named within ok first parsed =>
    obtain ⟨cluster', blob', login', stored', path, hcluster, hfetched, hparse, hlogin, hadd⟩ :=
      Bootstrapper.run_adds plain ok
    rw [hfetched] at first
    obtain rfl := Option.some.inj first
    obtain rfl := Except.ok.inj (hparse.symm.trans parsed)
    obtain rfl := Option.some.inj (hcluster.symm.trans named)
    subst within
    obtain ⟨_, hmerged⟩ := merged_of_add hadd
    obtain ⟨config, hconfig, hheld⟩ := hmerged.decoded
    refine ⟨config, hconfig, ?_, hmerged.settled⟩
    rw [hheld, Kubeconfig.withLogin, hlogin]
    rfl

def HoldsClosed (store : KubeconfigStore) (files : FileTree) : Prop :=
  ∃ config, store.decode (store.held files) = .ok config ∧ config.Closed

def HoldsLogin (store : KubeconfigStore) (cluster inNamespace : String) (login : Kubeconfig)
    (files : FileTree) : Prop :=
  ∃ config, store.decode (store.held files) = .ok config ∧ config.Closed ∧
    config.Resolves cluster inNamespace login

theorem HoldsClosed.holdsLogin (h : store.HoldsClosed files)
    (logsIn : store.LogsIn cluster inNamespace login files files') (usable : login.Usable)
    (reads : store.Rereads cluster inNamespace login files) :
    store.HoldsLogin cluster inNamespace login files' := by
  obtain ⟨config, hconfig, hclosed⟩ := h
  obtain ⟨merged, hmerged, hheld, _⟩ := logsIn.merged
  obtain rfl := Except.ok.inj (hconfig.symm.trans hmerged)
  refine ⟨_, ?_, hclosed.withLogin usable cluster inNamespace,
    Kubeconfig.resolves_withLogin usable cluster inNamespace config⟩
  rw [hheld, decode_stored (reads config hconfig)]

theorem HoldsClosed.switch (h : store.HoldsClosed files) (switched : store.Switched files files') :
    store.HoldsClosed files' := by
  obtain ⟨config, hconfig, hclosed⟩ := h
  obtain ⟨current, hcurrent⟩ := switched config hconfig
  exact ⟨_, hcurrent, hclosed.switch current⟩

theorem HoldsLogin.switch (h : store.HoldsLogin cluster inNamespace login files)
    (switched : store.Switched files files') :
    store.HoldsLogin cluster inNamespace login files' := by
  obtain ⟨config, hconfig, hclosed, hresolves⟩ := h
  obtain ⟨current, hcurrent⟩ := switched config hconfig
  exact ⟨_, hcurrent, hclosed.switch current, hresolves⟩

theorem HoldsLogin.closed (h : store.HoldsLogin cluster inNamespace login files) :
    store.HoldsClosed files := by
  obtain ⟨config, hconfig, hclosed, _⟩ := h
  exact ⟨config, hconfig, hclosed⟩

theorem Logins.holdsClosed (logins : store.Logins start files) (closed : store.HoldsClosed start) :
    store.HoldsClosed files := by
  induction logins with
  | start => exact closed
  | login earlier logsIn usable reads ih => exact (ih.holdsLogin logsIn usable reads).closed
  | switch earlier switched ih => exact ih.switch switched

/-- No login leaves a context that dangles, and right after it, also once a client has switched, the
context of its cluster leads to the cluster and the user that it gave. What the file holds is what
is read of it, unless the path leads up out of a folder that is missing. -/
theorem logins_stay_closed (closed : store.HoldsClosed start)
    (logins : store.Logins start files) :
    store.HoldsClosed files ∧
      (files.isFolder (Path.folder store.path) = true ∨
          files.Rooted ∧ ".." ∉ Path.components store.path →
        store.load files = store.decode (store.held files)) ∧
      ∀ cluster inNamespace login files',
        store.LogsIn cluster inNamespace login files files' → login.Usable →
        store.Rereads cluster inNamespace login files →
        store.HoldsLogin cluster inNamespace login files' ∧
          store.load files' = store.decode (store.held files') ∧
          ∀ files'', store.Switched files' files'' →
            store.HoldsLogin cluster inNamespace login files'' := by
  have hclosed := logins.holdsClosed closed
  refine ⟨hclosed, fun hplace => ?_, fun cluster inNamespace login files' logsIn usable reads => ?_⟩
  · rw [load_eq, settled_of_place hplace]
  · have hlogin := hclosed.holdsLogin logsIn usable reads
    obtain ⟨_, _, _, hsettled⟩ := logsIn.merged
    refine ⟨hlogin, ?_, fun files'' switched => hlogin.switch switched⟩
    rw [load_eq, hsettled]

/-! ## A login again -/

open Bootstrapper

theorem probeRun_logsIn {blob : List UInt8} {stored : Kubeconfig} {after : FileTree} {path : String}
    (hparse : Kubeconfig.parse blob = .ok login) (hlogin : login.loginFor "c" "n" = some stored)
    (hadd : store.add stored files = (.ok path, after)) :
    store.LogsIn "c" "n" login files (probeRun blob store files).scene.state.files := by
  obtain ⟨hok, hfetched, -⟩ := probeRun_stores hparse hlogin hadd
  unfold probeRun at hok hfetched ⊢
  exact .run rfl rfl rfl hok (by rw [hfetched]; rfl) hparse

theorem renewed_usable : renewed.Usable := ⟨_, _, _, rfl, rfl, by decide⟩

def switched : Kubeconfig := { combined with currentContext := some "c" }

def rotated : Kubeconfig :=
  { renewed with
    clusters := [⟨"k", some { server := some "last" }⟩]
    users := [⟨"u", none⟩] }

def rotatedStored : Kubeconfig :=
  { rotated with
    contexts := renewedStored.contexts
    currentContext := some "c" }

theorem rotated_usable : rotated.Usable := ⟨_, _, _, rfl, rfl, by decide⟩

theorem switched_readsBack : switched.ReadsBack := by decide +kernel

theorem rotated_readsBack : rotated.ReadsBack := by decide +kernel

theorem rotated_rereads : (switched.withLogin "c" "n" rotated).ReadsBack := by decide +kernel

theorem rereads_holding {config : Kubeconfig} (reads : config.ReadsBack)
    (h : (config.withLogin cluster inNamespace login).ReadsBack) :
    Rereads ⟨"config"⟩ cluster inNamespace login (holding config) := by
  intro found hfound
  obtain rfl := Except.ok.inj ((decode_holding reads).symm.trans hfound)
  exact h

/-- Two logins that give the same names, and a switch between them. -/
theorem logins_stay_closed_switched :
    let first := (probeRun (octets renewed) ⟨"config"⟩ (holding known)).scene.state.files
    let second := (probeRun (octets rotated) ⟨"config"⟩ (holding switched)).scene.state.files
    HoldsClosed ⟨"config"⟩ (holding known) ∧
      HoldsLogin ⟨"config"⟩ "c" "n" renewed first ∧
      Switched ⟨"config"⟩ first (holding switched) ∧
      Logins ⟨"config"⟩ (holding known) second ∧
      HoldsClosed ⟨"config"⟩ second ∧
      HoldsLogin ⟨"config"⟩ "c" "n" rotated second := by
  obtain ⟨-, -, hfiles⟩ := probeRun_holding known_readsBack
  have hclosed : HoldsClosed ⟨"config"⟩ (holding known) :=
    ⟨known, decode_holding known_readsBack, by decide⟩
  have hrenewed : renewed.loginFor "c" "n" = some renewedStored := rfl
  have hrotated : rotated.loginFor "c" "n" = some rotatedStored := rfl
  have hfirst := probeRun_logsIn (parse_octets renewed_readsBack) hrenewed
    (add_holding known_readsBack _)
  have hsecond := probeRun_logsIn (parse_octets rotated_readsBack) hrotated
    (add_holding switched_readsBack _)
  have hreads := rereads_holding known_readsBack
    (show (known.withLogin "c" "n" renewed).ReadsBack from combined_readsBack)
  have hrereads := rereads_holding switched_readsBack rotated_rereads
  have hswitched : Switched ⟨"config"⟩ (holding combined) (holding switched) := by
    intro found hfound
    obtain rfl := Except.ok.inj
      ((decode_holding combined_readsBack).symm.trans hfound)
    exact ⟨some "c", decode_holding switched_readsBack⟩
  have hmerged : known.merge renewedStored = combined := rfl
  rw [hmerged] at hfiles
  rw [← hfiles] at hswitched
  have hearlier := Logins.switch (.login .start hfirst renewed_usable hreads) hswitched
  have hlogins := Logins.login hearlier hsecond rotated_usable hrereads
  obtain ⟨-, -, hlogin⟩ := logins_stay_closed hclosed .start
  obtain ⟨-, -, hlogin'⟩ := logins_stay_closed hclosed hearlier
  obtain ⟨hclosed', -⟩ := logins_stay_closed hclosed hlogins
  exact ⟨hclosed, (hlogin _ _ _ _ hfirst renewed_usable hreads).1, hswitched, hlogins, hclosed',
    (hlogin' _ _ _ _ hsecond rotated_usable hrereads).1⟩

def danglingOctets : List UInt8 :=
  "contexts:\n- name: old\n  context:\n    cluster: gone\n".toList.map fun c => UInt8.ofNat c.toNat

def danglingFiles : FileTree where
  entries := [(["config"], .file danglingOctets)]

def dangling : Kubeconfig where
  contexts := [⟨"old", some { cluster := "gone" }⟩]

theorem held_dangling : detour.decode (detour.held danglingFiles) = .ok dangling := by
  decide +kernel

theorem dangling_rereads : (dangling.withLogin "c" "n" renewed).ReadsBack := by decide +kernel

/-- What is read before a login may be closed when what the file holds is not: here nothing is read,
and afterwards there is a context that dangles. -/
theorem login_at_detour_reveals_dangling :
    let files := (probeRun (octets renewed) detour danglingFiles).scene.state.files
    detour.load danglingFiles = .ok {} ∧ ({} : Kubeconfig).Closed ∧ renewed.Usable ∧
      detour.LogsIn "c" "n" renewed danglingFiles files ∧
      ∃ after : Kubeconfig, after.ReadsBack ∧ ¬ after.Closed ∧ detour.load files = .ok after := by
  have habsent : danglingFiles.standing? detour.path = none := by decide +kernel
  have hload : detour.load danglingFiles = .ok {} := by rw [load_eq, habsent, decode]
  have hlocation : detour.location danglingFiles =
      .ok (["config"], danglingFiles.put ["a"] .folder) := by rfl
  have hlock : (danglingFiles.put ["a"] .folder).touch (lockPath detour.path) =
      .ok ((danglingFiles.put ["a"] .folder).put ["config.lock"] (.file [])) := by rfl
  have htarget : ((danglingFiles.put ["a"] .folder).put ["config.lock"] (.file [])).target
      detour.path = .ok ["config"] := by decide +kernel
  have hrenewed : renewed.loginFor "c" "n" = some renewedStored := rfl
  have hlogsIn := probeRun_logsIn (parse_octets renewed_readsBack) hrenewed
    (add_eq_ok hlocation hlock held_dangling htarget)
  obtain ⟨config, hconfig, hheld, hsettled⟩ := hlogsIn.merged
  obtain rfl := Except.ok.inj (held_dangling.symm.trans hconfig)
  have hafter : detour.decode (stored _) = .ok _ := decode_stored dangling_rereads
  rw [← hheld, ← hsettled, ← load_eq] at hafter
  exact ⟨hload, by decide, renewed_usable, hlogsIn, _, dangling_rereads, by decide, hafter⟩

end KubeconfigStore

end ClusterDeploy
