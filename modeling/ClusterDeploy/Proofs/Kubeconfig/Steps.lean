import ClusterDeploy.Kubeconfig.Overlap
import ClusterDeploy.Proofs.Files.Place
import ClusterDeploy.Proofs.Kubeconfig.Closed
/-!
# The steps of updates that overlap

What an update knows at each of its steps, what a step can do to files and locks, and what becomes
of an update that nobody disturbs. The steps of an update that is alone make up the storing of its
login.
-/
namespace ClusterDeploy

open Text (isAsciiBlank)

namespace Kubeconfig

variable {config login : Kubeconfig} {logins : List Kubeconfig}

def inNode : Option FileNode → Option Kubeconfig
  | none => some {}
  | some .folder => none
  | some (.file octets) => if octets.all isAsciiBlank then some {} else (parse octets).toOption

theorem inNode_eq (store : KubeconfigStore) (n : Option FileNode) :
    inNode n = (store.decode n).toOption := by
  cases n with
  | none => rfl
  | some n =>
    cases n with
    | folder => rfl
    | file octets =>
      unfold inNode KubeconfigStore.decode
      by_cases h : octets.all isAsciiBlank
      · simp only [h, if_true]
        rfl
      · simp only [h, if_false, Bool.false_eq_true]

theorem inNode_stored (h : config.ReadsBack) :
    inNode (KubeconfigStore.stored config) = some config := by
  rw [inNode_eq ⟨""⟩, KubeconfigStore.decode_stored h]
  rfl

def absorb (content : Option Kubeconfig) (login : Kubeconfig) : Option Kubeconfig :=
  content.bind fun config => inNode (KubeconfigStore.stored (config.merge login))

/-- As long as every merge is read again as it is, absorbing is merging. -/
theorem foldl_absorb (reads : ∀ more, more ≠ [] → more <+: logins →
      (more.foldl merge config).ReadsBack) :
    logins.foldl absorb (some config) = some (logins.foldl merge config) := by
  induction logins using List.reverseRecOn with
  | nil => rfl
  | append_singleton logins login ih =>
    have hbefore := ih fun more hsome hmore =>
      reads more hsome (hmore.trans (List.prefix_append _ _))
    have hlast := reads (logins ++ [login]) (by simp) List.prefix_rfl
    rw [List.foldl_append] at hlast ⊢
    rw [List.foldl_append, hbefore]
    exact inNode_stored hlast

structure Includes (config login : Kubeconfig) : Prop where
  clusters : ∀ name ∈ names login.clusters, name ∈ names config.clusters
  users : ∀ name ∈ names login.users, name ∈ names config.users
  contexts : ∀ name ∈ names login.contexts, name ∈ names config.contexts

theorem includes_merge (config login : Kubeconfig) : (config.merge login).Includes login where
  clusters _ h := mem_names_upsertAll.mpr (.inr h)
  users _ h := mem_names_upsertAll.mpr (.inr h)
  contexts _ h := mem_names_upsertAll.mpr (.inr h)

theorem Includes.merge (h : config.Includes login) (other : Kubeconfig) :
    (config.merge other).Includes login where
  clusters name hname := mem_names_upsertAll.mpr (.inl (h.clusters name hname))
  users name hname := mem_names_upsertAll.mpr (.inl (h.users name hname))
  contexts name hname := mem_names_upsertAll.mpr (.inl (h.contexts name hname))

theorem includes_foldl (h : login ∈ logins) :
    (logins.foldl Kubeconfig.merge config).Includes login := by
  induction logins using List.reverseRecOn with
  | nil => cases h
  | append_singleton logins last ih =>
    rw [List.foldl_append]
    rcases List.mem_append.mp h with h | h
    · exact (ih h).merge last
    · obtain rfl := List.mem_singleton.mp h
      exact includes_merge _ _

end Kubeconfig

namespace FileTree

variable {files files' : FileTree} {p : Place}

def Through (files : FileTree) (path : String) (p : Place) : Prop :=
  ∃ names, names <+: Path.components (Path.folder path) ∧
    p = names.foldl down (files.origin (Path.folder path))

theorem through_of_home {path : String} (h : files'.home = files.home)
    (through : files'.Through path p) : files.Through path p := by
  obtain ⟨names, hnames, rfl⟩ := through
  exact ⟨names, hnames, by rw [origin, h, origin]⟩

def configAt (files : FileTree) (p : Place) : Option Kubeconfig := Kubeconfig.inNode (files.node? p)

/-- Where a file is spared, nothing changes, or something appears: a folder or an empty file. -/
theorem Spares.node? {fresh : Prop} (h : Spares fresh p files files') :
    files'.node? p = files.node? p ∨
      files.node? p = none ∧
        (files'.node? p = some .folder ∨ files'.node? p = some (.file [])) := by
  cases hbefore : files.node? p with
  | some node =>
    cases node with
    | folder => exact .inl (h.folders.folders hbefore)
    | file content => exact .inl (h.kept content hbefore)
  | none =>
    cases hafter : files'.node? p with
    | none => exact .inl rfl
    | some node =>
      cases node with
      | folder => exact .inr ⟨rfl, .inl rfl⟩
      | file content =>
        rcases h.added content hafter with hsame | ⟨-, rfl⟩
        · cases hbefore.symm.trans hsame
        · exact .inr ⟨rfl, .inr rfl⟩

theorem Spares.configAt {fresh : Prop} (h : Spares fresh p files files') :
    files'.configAt p = files.configAt p ∨
      files.node? p = none ∧ files'.node? p = some .folder := by
  rcases h.node? with hsame | ⟨hnone, hfolder | hempty⟩
  · exact .inl (congrArg Kubeconfig.inNode hsame)
  · exact .inr ⟨hnone, hfolder⟩
  · left
    rw [FileTree.configAt, FileTree.configAt, hnone, hempty]
    rfl

end FileTree

namespace Update

open FileTree (Spares KeepsFolders)

/-! ## What an update knows -/

variable {u : Update} {files files' : FileTree} {place p : Place} {phase : Phase} {disk : Disk}

/-- The folder is there, and a path that ends in a name leads to the place. -/
structure At (u : Update) (files : FileTree) (place : Place) : Prop where
  folder : files.isFolder (Path.folder u.store.path) = true
  leads : Path.endsInFolder u.store.path = false → place = files.placeOf u.store.path

/-- What was found stands wherever the file can be put. -/
def Sees (u : Update) (files : FileTree) (found : Kubeconfig) : Prop :=
  ∀ q, files.target u.store.path = .ok q → files.configAt q = some found

def Stands (u : Update) (files : FileTree) : Phase → Prop
  | .called => True
  | .located place | .locked place | .opened place => u.At files place
  | .read place found => u.At files place ∧ u.Sees files found
  | .merged place config =>
    u.At files place ∧ ∃ found, u.Sees files found ∧ config = found.merge u.login
  | .written place => u.At files place ∧ Path.endsInFolder u.store.path = false
  | .ended answer => ∀ path, answer = .ok path → Path.endsInFolder u.store.path = false

theorem at_of_location (h : u.store.location files = .ok (place, files')) : u.At files' place where
  folder := FileTree.isFolder_of_createFolders (Path.folder_ne_empty _)
    (KubeconfigStore.location_eq_ok h)
  leads hend := by
    have hgrown := FileTree.createFolders_grows (KubeconfigStore.location_eq_ok h)
    rw [KubeconfigStore.place_of_location h hend, FileTree.placeOf_of_home hgrown.home]

theorem At.later (h : u.At files place) (kept : KeepsFolders files files') : u.At files' place where
  folder := FileTree.isFolder_kept kept h.folder
  leads hend := by rw [h.leads hend, FileTree.placeOf_of_home kept.home]

theorem sees_of_load {found : Kubeconfig} (h : u.store.load files = .ok found) :
    u.Sees files found := by
  intro q htarget
  obtain ⟨hlocate, -, hend⟩ := FileTree.target_eq_ok htarget
  rw [KubeconfigStore.load_eq, FileTree.standing?_of_locate hlocate hend] at h
  rw [FileTree.configAt, Kubeconfig.inNode_eq u.store, h]
  rfl

theorem Sees.later {found : Kubeconfig} (h : u.Sees files found) (here : u.At files place)
    (spared : Path.endsInFolder u.store.path = false →
      Spares True (files.placeOf u.store.path) files files')
    (kept : KeepsFolders files files') : u.Sees files' found := by
  intro q htarget
  have hbefore := FileTree.target_of_later kept here.folder htarget
  obtain ⟨hlocate, -, hend⟩ := FileTree.target_eq_ok hbefore
  have hspared := spared hend
  rw [FileTree.placeOf_of_locate hlocate] at hspared
  rcases hspared.configAt with hsame | ⟨-, hfolder⟩
  · rw [hsame, h q hbefore]
  · exact absurd hfolder (FileTree.target_eq_ok htarget).2.1

/-- What an update knows stays true when the others leave its file alone while it holds the lock. -/
theorem Stands.later (h : u.Stands files phase) (kept : KeepsFolders files files')
    (spared : ∀ place, phase.held? = some place → Path.endsInFolder u.store.path = false →
      place = files.placeOf u.store.path → Spares True place files files') :
    u.Stands files' phase := by
  have hspared {place : Place} (here : u.At files place) (held : phase.held? = some place)
      (hend : Path.endsInFolder u.store.path = false) :
      Spares True (files.placeOf u.store.path) files files' := by
    have := spared place held hend (here.leads hend)
    rwa [here.leads hend] at this
  cases phase with
  | called => trivial
  | located place => exact At.later h kept
  | locked place => exact At.later h kept
  | opened place => exact At.later h kept
  | read place found =>
    obtain ⟨here, hsees⟩ := h
    exact ⟨here.later kept, hsees.later here (hspared here rfl) kept⟩
  | merged place config =>
    obtain ⟨here, found, hsees, hconfig⟩ := h
    exact ⟨here.later kept, found, hsees.later here (hspared here rfl) kept, hconfig⟩
  | written place =>
    obtain ⟨here, hend⟩ := h
    exact ⟨here.later kept, hend⟩
  | ended answer => exact h

theorem Stands.ends (h : u.Stands files phase) (stored : phase.isStored = true) :
    Path.endsInFolder u.store.path = false := by
  cases phase with
  | written place => exact h.2
  | ended answer =>
    cases answer with
    | ok path => exact h path rfl
    | error e => cases stored
  | _ => cases stored

/-! ## What a step does to the files -/

/-- The file at the place is spared, and a folder appears there only on the way of the update. -/
structure Calm (u : Update) (p : Place) (files files' : FileTree) : Prop where
  spared : Spares True p files files'
  through : files.node? p = none → files'.node? p = some .folder → files.Through u.store.path p

theorem Calm.refl : u.Calm p files files where
  spared := .refl files
  through hnone hfolder := by cases hnone.symm.trans hfolder

theorem calm_of_createFolders (u : Update) (p : Place) (files : FileTree) (disk : Disk) :
    u.Calm p files (FileTree.reached (files.createFolders (Path.folder u.store.path) disk)) where
  spared := .of_folders (files.createFolders_left _ disk)
  through hnone hfolder := by
    rcases (files.createFolders_along _ disk).added hfolder with hbefore | ⟨-, hthrough⟩
    · cases hnone.symm.trans hbefore
    · exact hthrough

theorem calm_of_made (h : files.createFolders (Path.folder u.store.path) = .ok files') :
    u.Calm p files files' := by
  have hcalm := calm_of_createFolders u p files {}
  rwa [h] at hcalm

theorem Calm.trans_temporaries {temporaries : List (Place × List UInt8)}
    (h : u.Calm p files files') : u.Calm p files { files' with temporaries } :=
  ⟨h.spared.trans (.of_folders FileTree.grows_temporaries), h.through⟩

theorem calm_of_touch {path : String} (h : files.touch path = .ok files') :
    u.Calm p files files' where
  spared := (Spares.touch h).mono fun _ => trivial
  through hnone hfolder := by
    obtain ⟨q, -, hgrown⟩ := FileTree.touch_eq_ok h
    rcases hgrown.added hfolder with hbefore | ⟨-, hempty⟩
    · cases hnone.symm.trans hbefore
    · cases hempty

theorem calm_put {content : List UInt8} (elsewhere : place ≠ p)
    (free : files.node? place ≠ some .folder) :
    u.Calm p files (files.put place (.file content)) where
  spared := .put elsewhere free
  through hnone hfolder := by
    rw [FileTree.node?_put (FileTree.ne_root free), if_neg elsewhere.symm] at hfolder
    cases hnone.symm.trans hfolder

theorem calm_of_location (h : u.store.location files = .ok (place, files')) :
    u.Calm p files files' :=
  calm_of_made (KubeconfigStore.location_eq_ok h)

theorem calm_of_unlocated {e : Error} (h : u.store.location files disk = .error (e, files')) :
    u.Calm p files files' := by
  rcases u.store.location_cases files disk with
    ⟨fault, left, hleft, herror⟩ | ⟨made, hmade, ⟨fault, herror⟩ | ⟨place, hok, _⟩⟩
  · cases h.symm.trans herror
    have hcalm := calm_of_createFolders u p files disk
    rwa [hleft] at hcalm
  · cases h.symm.trans herror
    exact calm_of_made hmade
  · cases h.symm.trans hok

theorem calm_of_unlocked {e : Error} (h : u.store.lock files disk = .error (e, files')) :
    u.Calm p files files' := by
  rcases u.store.lock_cases files disk with ⟨fault, left, herror, hleft⟩ | ⟨locked, _, hok⟩
  · cases h.symm.trans herror
    rcases hleft with rfl | htouch
    · exact .refl
    · exact calm_of_touch htouch
  · cases h.symm.trans hok

theorem calm_of_unwritten {config : Kubeconfig} {e : Error}
    (h : u.store.write config files disk = (.error e, files')) : u.Calm p files files' := by
  unfold KubeconfigStore.write at h
  split at h
  · cases h
  · next hreplaced =>
    cases h
    rcases FileTree.replace_eq_error hreplaced with hleft | ⟨made, temporaries, hmade, rfl⟩
    · have hcalm := calm_of_createFolders u p files disk
      rwa [hleft] at hcalm
    · exact (calm_of_made hmade).trans_temporaries

section States

variable {ι : Type} [DecidableEq ι] {updates : ι → Update} {s s' : State ι} {i j : ι}

/-! ## The steps -/

inductive Moves (updates : ι → Update) (s : State ι) (i : ι) : State ι → Prop
  | arrive {place : Place} {made : FileTree} (phase : s.phase i = .called)
      (located : (updates i).store.location s.files = .ok (place, made)) :
      Moves updates s i (s.move i made (.located place))
  | take {place : Place} (phase : s.phase i = .located place) (free : s.holder place = none) :
      Moves updates s i (s.take i place)
  | enter {place : Place} {opened : FileTree} (phase : s.phase i = .locked place)
      (touched : s.files.touch (KubeconfigStore.lockPath (updates i).store.path) = .ok opened) :
      Moves updates s i (s.move i opened (.opened place))
  | read {place : Place} {found : Kubeconfig} (phase : s.phase i = .opened place)
      (loaded : (updates i).store.load s.files = .ok found) :
      Moves updates s i (s.move i s.files (.read place found))
  | merge {place : Place} {found : Kubeconfig} (phase : s.phase i = .read place found) :
      Moves updates s i (s.move i s.files (.merged place (found.merge (updates i).login)))
  | write {place : Place} {config : Kubeconfig} {written : FileTree}
      (phase : s.phase i = .merged place config)
      (replaced : (updates i).store.write config s.files = (.ok (), written)) :
      Moves updates s i (s.move i written (.written place))
  | succeed {place : Place} (phase : s.phase i = .written place) :
      Moves updates s i (s.finish i s.files (.ok (updates i).store.path))
  | fail {left : FileTree} {e : Error} (phase : (s.phase i).isOpen = true)
      (calm : ∀ p, (updates i).Calm p s.files left) :
      Moves updates s i (s.finish i left (.error e))

theorem advance_cases (updates : ι → Update) (s : State ι) (i : ι) (disk : Disk) :
    s.advance updates i disk = s ∨ Moves updates s i (s.advance updates i disk) := by
  unfold State.advance
  cases hphase : s.phase i with
  | called =>
    dsimp only
    split
    · next hunlocated =>
      exact .inr (.fail (by rw [hphase]; rfl) fun _ => calm_of_unlocated hunlocated)
    · next hlocated =>
      exact .inr (.arrive hphase (KubeconfigStore.location_sound hlocated))
  | located place =>
    dsimp only
    split
    · next hfree => exact .inr (.take hphase (Option.isNone_iff_eq_none.mp hfree))
    · exact .inl rfl
  | locked place =>
    dsimp only
    split
    · next hunlocked =>
      exact .inr (.fail (by rw [hphase]; rfl) fun _ => calm_of_unlocked hunlocked)
    · next hlocked => exact .inr (.enter hphase (KubeconfigStore.lock_eq_ok hlocked))
  | opened place =>
    dsimp only
    split
    · exact .inr (.fail (by rw [hphase]; rfl) fun _ => .refl)
    · next hloaded => exact .inr (.read hphase (KubeconfigStore.load_sound hloaded))
  | read place found => exact .inr (.merge hphase)
  | merged place config =>
    dsimp only
    split
    · next hunwritten =>
      exact .inr (.fail (by rw [hphase]; rfl) fun _ => calm_of_unwritten hunwritten)
    · next hwritten => exact .inr (.write hphase (KubeconfigStore.write_sound hwritten))
  | written place => exact .inr (.succeed hphase)
  | ended answer => exact .inl rfl

theorem perform_cases (updates : ι → Update) (s : State ι) (action : Action ι) :
    s.perform updates action = s ∨ ∃ i, Moves updates s i (s.perform updates action) := by
  cases action with
  | advance i disk => exact (advance_cases updates s i disk).imp_right fun h => ⟨i, h⟩
  | fail i e =>
    dsimp only [State.perform]
    by_cases hopen : (s.phase i).isOpen = true
    · rw [if_pos hopen]
      exact .inr ⟨i, .fail hopen fun _ => .refl⟩
    · rw [if_neg hopen]
      exact .inl rfl

namespace State

variable {files : FileTree} {answer : Except Error String}

theorem move_phase_self : (s.move i files phase).phase i = phase := if_pos rfl

theorem move_phase_of_ne (h : j ≠ i) : (s.move i files phase).phase j = s.phase j := if_neg h

theorem take_phase : (s.take i place).phase = (s.move i s.files (.locked place)).phase := rfl

theorem take_holder : (s.take i place).holder p = if p = place then some i else s.holder p := rfl

theorem take_turns :
    (s.take i place).turns p = if p = place then s.turns p ++ [i] else s.turns p := rfl

theorem finish_phase :
    (s.finish i files answer).phase = (s.move i files (.ended answer)).phase := rfl

theorem finish_holder :
    (s.finish i files answer).holder p = if s.holder p = some i then none else s.holder p := rfl

end State

open State

/-! ## An update that is alone -/

def storing (u : Update) (config : Kubeconfig) (files : FileTree) :
    Except Error String × FileTree :=
  match u.store.write config files with
  | (.error e, files) => (.error e, files)
  | (.ok (), files) => (.ok u.store.path, files)

def reading (u : Update) (files : FileTree) : Except Error String × FileTree :=
  match u.store.load files with
  | .error e => (.error e, files)
  | .ok found => u.storing (found.merge u.login) files

def opening (u : Update) (files : FileTree) : Except Error String × FileTree :=
  match u.store.lock files with
  | .error (e, files) => (.error e, files)
  | .ok files => u.reading files

def outcome (u : Update) : Phase → FileTree → Except Error String × FileTree
  | .called, files =>
    match u.store.location files with
    | .error (e, files) => (.error e, files)
    | .ok (_, files) => u.opening files
  | .located _, files | .locked _, files => u.opening files
  | .opened _, files => u.reading files
  | .read _ found, files => u.storing (found.merge u.login) files
  | .merged _ config, files => u.storing config files
  | .written _, files => (.ok u.store.path, files)
  | .ended answer, files => (answer, files)

theorem outcome_called (u : Update) (files : FileTree) :
    u.outcome .called files = u.store.add u.login files := by
  unfold outcome opening reading storing KubeconfigStore.add
  rfl

def Phase.stepsLeft : Phase → Nat
  | called => 7
  | located _ => 6
  | locked _ => 5
  | opened _ => 4
  | read _ _ => 3
  | merged _ _ => 2
  | written _ => 1
  | ended _ => 0

/-- An update that is alone is nearer to its end, and nothing about its outcome has changed. -/
structure Nearer (u : Update) (i : ι) (s next : State ι) : Prop where
  outcome : u.outcome (next.phase i) next.files = u.outcome (s.phase i) s.files
  fewer : (next.phase i).stepsLeft ≤ (s.phase i).stepsLeft - 1
  free : (next.phase i).isAhead = true → ∀ p, next.holder p = none

theorem nearer_finish {answer : Except Error String}
    (h : u.outcome (s.phase i) s.files = (answer, files)) :
    Nearer u i s (s.finish i files answer) := by
  constructor
  · rw [finish_phase, move_phase_self, h]
    rfl
  · rw [finish_phase, move_phase_self]
    exact Nat.zero_le _
  · rw [finish_phase, move_phase_self]
    nofun

theorem nearer_move (h : u.outcome (s.phase i) s.files = u.outcome phase files)
    (fewer : phase.stepsLeft ≤ (s.phase i).stepsLeft - 1)
    (free : phase.isAhead = true → ∀ p, s.holder p = none) :
    Nearer u i s (s.move i files phase) := by
  constructor
  · rw [move_phase_self, h]
    rfl
  · rwa [move_phase_self]
  · rwa [move_phase_self]

theorem advance_alone (updates : ι → Update)
    (free : (s.phase i).isAhead = true → ∀ p, s.holder p = none) :
    Nearer (updates i) i s (s.advance updates i) := by
  unfold State.advance
  cases hphase : s.phase i with
  | called =>
    rw [hphase] at free
    dsimp only
    split
    · next h => exact nearer_finish (by rw [hphase, outcome, h])
    · next h =>
      exact nearer_move (by rw [hphase, outcome, h]; rfl) (by rw [hphase]; exact Nat.le_refl _) free
  | located place =>
    rw [hphase] at free
    dsimp only
    rw [free rfl place, if_pos Option.isNone_none]
    exact ⟨by rw [take_phase, move_phase_self, hphase]; rfl,
      by rw [take_phase, move_phase_self, hphase]; exact Nat.le_refl _,
      by rw [take_phase, move_phase_self]; nofun⟩
  | locked place =>
    dsimp only
    split
    · next h => exact nearer_finish (by rw [hphase, outcome, opening, h])
    · next h =>
      exact nearer_move (by rw [hphase, outcome, opening, h]; rfl)
        (by rw [hphase]; exact Nat.le_refl _) nofun
  | opened place =>
    dsimp only
    split
    · next h => exact nearer_finish (by rw [hphase, outcome, reading, h])
    · next h =>
      exact nearer_move (by rw [hphase, outcome, reading, h]; rfl)
        (by rw [hphase]; exact Nat.le_refl _) nofun
  | read place found =>
    exact nearer_move (by rw [hphase]; rfl) (by rw [hphase]; exact Nat.le_refl _) nofun
  | merged place config =>
    dsimp only
    split
    · next h => exact nearer_finish (by rw [hphase, outcome, storing, h])
    · next h =>
      exact nearer_move (by rw [hphase, outcome, storing, h]; rfl)
        (by rw [hphase]; exact Nat.le_refl _) nofun
  | written place => exact nearer_finish (by rw [hphase]; rfl)
  | ended answer =>
    exact ⟨rfl, by rw [hphase]; exact Nat.le_refl _, by rw [hphase]; nofun⟩

theorem run_advance (updates : ι → Update) (n : Nat)
    (free : (s.phase i).isAhead = true → ∀ p, s.holder p = none) :
    let last := s.run updates (List.replicate n (.advance i))
    (updates i).outcome (last.phase i) last.files = (updates i).outcome (s.phase i) s.files ∧
    (last.phase i).stepsLeft ≤ (s.phase i).stepsLeft - n := by
  induction n generalizing s with
  | zero => exact ⟨rfl, Nat.le_refl _⟩
  | succ n ih =>
    obtain ⟨hsame, hfewer, hfree⟩ := advance_alone updates free
    obtain ⟨hrest, hleft⟩ := ih hfree
    refine ⟨hrest.trans hsame, ?_⟩
    change
      (((s.advance updates i).run updates (List.replicate n (.advance i))).phase i).stepsLeft ≤ _
    omega

/-- An update that is alone does what storing its login does. -/
theorem run_alone (updates : ι → Update) (called : s.phase i = .called)
    (free : ∀ p, s.holder p = none) :
    let last := s.run updates (List.replicate 7 (.advance i))
    let stored := (updates i).store.add (updates i).login s.files
    last.phase i = .ended stored.1 ∧ last.files = stored.2 := by
  obtain ⟨hsame, hleft⟩ := run_advance updates 7 (i := i) fun _ => free
  rw [called, outcome_called] at hsame
  rw [called] at hleft
  intro last stored
  change (updates i).outcome (last.phase i) last.files = stored at hsame
  change (last.phase i).stepsLeft ≤ 0 at hleft
  cases hphase : last.phase i with
  | ended answer =>
    rw [hphase] at hsame
    rw [← hsame]
    exact ⟨rfl, rfl⟩
  | _ =>
    rw [hphase] at hleft
    cases hleft

end States

end Update

end ClusterDeploy
