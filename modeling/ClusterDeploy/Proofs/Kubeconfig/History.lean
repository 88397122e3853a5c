import ClusterDeploy.Proofs.Kubeconfig.Store
import Mathlib
/-!
# Histories of a kubeconfig file

Any sequence of updates, readings and writes by others, replayed on what the file holds, each on a
disk that may refuse any of its steps. Only a carried out update and a write by others change the
file: what cannot be read is never overwritten by an update, and what cannot be written in full is
not written.
-/
namespace ClusterDeploy

inductive StoreAction where
  | add (login : Kubeconfig) (disk : Disk := {})
  | load (disk : Disk := {})
  /-- Somebody else writes the file, whatever it then holds. -/
  | overwrite (octets : List UInt8) (disk : Disk := {})

inductive StoreEvent where
  | added (login : Kubeconfig) (answer : Except Error String)
  /-- A reading, and what the disk had against it. -/
  | loaded (fault : Option IoFault) (answer : Except Error Kubeconfig)
  | overwritten (octets : List UInt8) (answer : Except IoFault Unit)

namespace KubeconfigStore

variable {store : KubeconfigStore} {files files' made : FileTree} {login : Kubeconfig}

def perform (store : KubeconfigStore) (files : FileTree) : StoreAction → StoreEvent × FileTree
  | .add login disk =>
    let (answer, files) := store.add login files disk
    (.added login answer, files)
  | .load disk => (.loaded disk.read (store.load files disk), files)
  | .overwrite octets disk =>
    let (answer, files) := files.replace store.path octets disk
    (.overwritten octets answer, files)

def history (store : KubeconfigStore) : List StoreAction → FileTree → List StoreEvent × FileTree
  | [], files => ([], files)
  | action :: more, files =>
    let (event, files) := store.perform files action
    let (events, files) := history store more files
    (event :: events, files)

/-- What a reading makes of what stands at the path. A disk can refuse to hand out what a file
holds. -/
def readAs (store : KubeconfigStore) : Option IoFault → Option FileNode → Except Error Kubeconfig
  | some e, some (.file _) => .error (.fileUnreadable store.path e)
  | _, content => store.decode content

/-- The events that a file may tell from holding `content` to holding `last`. While the path is not
`reached`, a reading may find nothing at it. -/
inductive Told (store : KubeconfigStore) :
    (reached : Prop) → (content : Option FileNode) → List StoreEvent → (last : Option FileNode) →
      Prop
  | done {reached : Prop} {content : Option FileNode} : Told store reached content [] content
  /-- The login is merged into what was held, and that is what is read from then on. -/
  | merged {reached : Prop} {content last : Option FileNode} {login config : Kubeconfig}
      {events : List StoreEvent}
      (before : store.decode content = .ok config)
      (after : (config.merge login).ReadsBack →
        store.decode (stored (config.merge login)) = .ok (config.merge login))
      (more : Told store True (stored (config.merge login)) events last) :
      Told store reached content (.added login (.ok store.path) :: events) last
  | refused {reached : Prop} {content last : Option FileNode} {login : Kubeconfig} {e : Error}
      {events : List StoreEvent} (more : Told store reached content events last) :
      Told store reached content (.added login (.error e) :: events) last
  | loaded {reached : Prop} {content last : Option FileNode} {fault : Option IoFault}
      {answer : Except Error Kubeconfig} {events : List StoreEvent}
      (found : answer = store.readAs fault content ∨ ¬ reached ∧ answer = .ok {})
      (more : Told store reached content events last) :
      Told store reached content (.loaded fault answer :: events) last
  | overwritten {reached : Prop} {content last : Option FileNode} {octets : List UInt8}
      {events : List StoreEvent} (more : Told store True (some (.file octets)) events last) :
      Told store reached content (.overwritten octets (.ok ()) :: events) last
  | spared {reached : Prop} {content last : Option FileNode} {octets : List UInt8} {e : IoFault}
      {events : List StoreEvent} (more : Told store reached content events last) :
      Told store reached content (.overwritten octets (.error e) :: events) last

/-- The less is known about the path, the more may be told. -/
theorem Told.mono {reached reached' : Prop} {content last : Option FileNode}
    {events : List StoreEvent} (h : store.Told reached content events last)
    (weaker : reached' → reached) : store.Told reached' content events last := by
  induction h with
  | done => exact .done
  | merged before after more ih => exact .merged before after more
  | refused more ih => exact .refused (ih weaker)
  | loaded found more ih => exact .loaded (found.imp_right fun h => ⟨h.1 ∘ weaker, h.2⟩) (ih weaker)
  | overwritten more ih => exact .overwritten more
  | spared more ih => exact .spared (ih weaker)

theorem readAs_none (store : KubeconfigStore) (content : Option FileNode) :
    store.readAs none content = store.decode content := rfl

theorem load_readAs (store : KubeconfigStore) (files : FileTree) (disk : Disk) :
    store.load files disk = store.readAs disk.read (files.standing? store.path) := by
  cases hdisk : disk.read with
  | none =>
    have hload : store.load files disk = store.load files := by
      simp only [load, FileTree.read, hdisk]
    rw [hload, load_eq, readAs_none]
  | some e =>
    cases hfind : files.find store.path with
    | error fault =>
      have habsent : files.standing? store.path = none := by
        rw [FileTree.standing?, hfind]
        rfl
      rw [habsent]
      simp [load, FileTree.exists?, hfind, Except.toOption, readAs, decode]
    | ok found =>
      obtain ⟨p, node⟩ := found
      have hthere : files.standing? store.path = some node := by
        rw [FileTree.standing?, hfind]
        rfl
      rw [hthere]
      cases node <;>
        simp [load, FileTree.exists?, FileTree.read, hfind, hdisk, Except.toOption, readAs, decode,
          bind, Except.bind]

/-- What is read is what the file holds, unless the path does not lead there yet. -/
theorem load_cases (store : KubeconfigStore) (files : FileTree) (disk : Disk) :
    store.load files disk = store.readAs disk.read (store.held files) ∨
      ¬ store.Settled files ∧ store.load files disk = .ok {} := by
  rw [load_readAs]
  by_cases h : store.Settled files
  · exact .inl (congrArg (store.readAs disk.read) h)
  · have habsent := (store.settled_or_absent files).resolve_left h
    refine .inr ⟨h, ?_⟩
    rw [habsent]
    cases disk.read <;> rfl

/-- One action, then whatever is told of what it leaves. -/
theorem told_perform (action : StoreAction) {events : List StoreEvent} {last : Option FileNode}
    (more : store.Told (store.Settled (store.perform files action).2)
      (store.held (store.perform files action).2) events last) :
    store.Told (store.Settled files) (store.held files)
      ((store.perform files action).1 :: events) last := by
  cases action with
  | add login disk =>
    rcases store.add_cases login files disk with
      ⟨e, files', hadd, hrefused⟩ | ⟨files', hadd, hmerged⟩
    · simp only [perform, hadd] at more ⊢
      rw [hrefused.held] at more
      exact .refused (more.mono hrefused.settled)
    · obtain ⟨config, hbefore, hafter⟩ := hmerged.decoded
      simp only [perform, hadd] at more ⊢
      rw [hafter] at more
      exact .merged hbefore decode_stored (more.mono fun _ => hmerged.settled)
  | load disk => exact .loaded (store.load_cases files disk) more
  | overwrite octets disk =>
    rcases store.replaced_cases octets files disk with
      ⟨e, files', hwrite, hrefused⟩ | ⟨files', hwrite, hheld, hsettled⟩
    · simp only [perform, hwrite] at more ⊢
      rw [hrefused.held] at more
      exact .spared (more.mono hrefused.settled)
    · simp only [perform, hwrite] at more ⊢
      rw [hheld] at more
      exact .overwritten (more.mono fun _ => hsettled)

theorem told_history (store : KubeconfigStore) (actions : List StoreAction) (files : FileTree) :
    store.Told (store.Settled files) (store.held files) (store.history actions files).1
      (store.held (store.history actions files).2) := by
  induction actions generalizing files with
  | nil => exact .done
  | cons action more ih => exact told_perform action (ih _)

/-- Any history of a store is told by what its file holds. Updates merge into that content, readings
answer it, and an update that fails, at whichever step and whether the tree or the disk is the
reason, leaves it, and every other file, as it was; one whose temporary file, write or rename is
refused does fail. Before its first update a store reads what the file holds if the folder is there
or the path never leads up. -/
theorem history_told (store : KubeconfigStore) (actions : List StoreAction) (files : FileTree) :
    (files.isFolder (Path.folder store.path) = true ∨
        files.Rooted ∧ ".." ∉ Path.components store.path → store.Settled files) ∧
      store.Told (store.Settled files) (store.held files) (store.history actions files).1
        (store.held (store.history actions files).2) ∧
      ∀ login disk,
        (disk.Refuses →
          ∃ e after, store.add login (store.history actions files).2 disk = (.error e, after)) ∧
        ∀ e after, store.add login (store.history actions files).2 disk = (.error e, after) →
          FileTree.Grows (fun _ n => n = .folder ∨ n = .file [])
            (store.history actions files).2 after := by
  refine ⟨settled_of_place, told_history store actions files, fun login disk => ?_⟩
  exact ⟨add_of_refuses store login _, fun e after h => (refused_of_add h).grown⟩

def detour : KubeconfigStore := ⟨"a/../config"⟩

def detourOctets : List UInt8 := "clusters:\n- name: old\n".toList.map fun c => UInt8.ofNat c.toNat

def detourFiles : FileTree where
  entries := [(["config"], .file detourOctets)]

def detourConfig : Kubeconfig where
  clusters := [⟨"old", none⟩]
  kind := some "Config"
  apiVersion := some "v1"

theorem held_detour :
    detour.decode (detour.held detourFiles) = .ok { clusters := [⟨"old", none⟩] } := by
  decide +kernel

theorem detourConfig_readsBack : detourConfig.ReadsBack := by decide +kernel

theorem load_detour : detour.load detourFiles = .ok {} := by
  have habsent : detourFiles.standing? detour.path = none := by decide +kernel
  rw [load_eq, habsent, decode]

theorem add_detour (login : Kubeconfig) :
    ∃ after, detour.add login detourFiles = (.ok detour.path, after) := by
  have hlocation : detour.location detourFiles =
      .ok (["config"], detourFiles.put ["a"] .folder) := by rfl
  have hlock : (detourFiles.put ["a"] .folder).touch (lockPath detour.path) =
      .ok ((detourFiles.put ["a"] .folder).put ["config.lock"] (.file [])) := by rfl
  have htarget : ((detourFiles.put ["a"] .folder).put ["config.lock"] (.file [])).target
      detour.path = .ok ["config"] := by decide +kernel
  exact ⟨_, add_eq_ok hlocation hlock held_detour htarget⟩

/-- Nothing is read before the update, and yet the update merges into what was there. -/
theorem load_before_add_misses :
    detour.load detourFiles = .ok {} ∧
      ∃ after, detour.add {} detourFiles = (.ok detour.path, after) ∧
        detourConfig.ReadsBack ∧ detour.load after = .ok detourConfig ∧
        detourConfig.clusters.length ≠ (({} : Kubeconfig).merge {}).clusters.length := by
  obtain ⟨after, hadd⟩ := add_detour {}
  obtain ⟨config, hbefore, hafter⟩ := (merged_of_add hadd).2.load
  have hmerge : config.merge {} = detourConfig := by
    rw [Except.ok.inj (hbefore.symm.trans held_detour)]
    rfl
  rw [hmerge] at hafter
  exact ⟨load_detour, after, hadd, detourConfig_readsBack, hafter detourConfig_readsBack, by decide⟩

end KubeconfigStore

end ClusterDeploy
