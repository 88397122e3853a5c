import ClusterDeploy.Kubeconfig.Store
import ClusterDeploy.Proofs.Files.Replace
import ClusterDeploy.Proofs.Text.Utf8
/-!
# Updates of a kubeconfig file

A store is seen through what the file holds: what stands at its path once the folder of the path has
been created, which is the first thing an update does. An update merges into that content, or is
refused at one of its steps, by the tree or by the disk, and leaves it. Reading looks at the path
without creating the folder. The two agree unless the path leads up out of a folder that is missing.
-/
namespace ClusterDeploy

open Text (encodeUtf8 isAsciiBlank)

namespace Kubeconfig

/-- Reading the text of the configuration gives the configuration back. -/
def ReadsBack (config : Kubeconfig) : Prop := ofYaml config.toYaml.toList = .ok config

theorem parse_encodeUtf8 {config : Kubeconfig} (h : config.ReadsBack) :
    parse (encodeUtf8 config.toYaml) = .ok config := by
  rw [parse, Text.decodeUtf8_encodeUtf8]
  simp only
  rw [h]
  rfl

theorem toMembers_first (config : Kubeconfig) :
    ∃ name value more, config.toMembers = (name, value) :: more ∧
      (name = "preferences" ∨ name = "clusters") := by
  unfold toMembers
  cases config.preferences with
  | some p => exact ⟨_, _, _, rfl, .inl rfl⟩
  | none => exact ⟨_, _, _, rfl, .inr rfl⟩

theorem toList_toYaml (config : Kubeconfig) :
    config.toYaml.toList = Yaml.memberLines 0 config.toMembers := by
  obtain ⟨name, value, more, hmembers, -⟩ := config.toMembers_first
  rw [toYaml, Yaml.render, hmembers, List.isEmpty_cons, if_neg Bool.false_ne_true,
    String.toList_ofList]

instance (config : Kubeconfig) : Decidable config.ReadsBack :=
  decidable_of_iff (ofYaml (Yaml.memberLines 0 config.toMembers) = .ok config)
    (by rw [ReadsBack, toList_toYaml])

theorem toYaml_head (config : Kubeconfig) :
    ∃ c rest, config.toYaml.toList = c :: rest ∧ (c = 'p' ∨ c = 'c') := by
  have hpreferences : Yaml.keyLayout 0 "preferences" = 'p' :: "references:".toList := by
    decide +kernel
  have hclusters : Yaml.keyLayout 0 "clusters" = 'c' :: "lusters:".toList := by
    decide +kernel
  obtain ⟨name, value, more, hmembers, hname⟩ := config.toMembers_first
  rw [toList_toYaml, hmembers, Yaml.memberLines]
  rcases hname with rfl | rfl
  · rw [hpreferences]
    exact ⟨_, _, rfl, .inl rfl⟩
  · rw [hclusters]
    exact ⟨_, _, rfl, .inr rfl⟩

theorem encodeUtf8_not_blank (config : Kubeconfig) :
    (encodeUtf8 config.toYaml).all isAsciiBlank = false := by
  obtain ⟨c, rest, htext, hc⟩ := config.toYaml_head
  rw [Text.encodeUtf8_eq, htext, List.flatMap_cons, List.all_append]
  rcases hc with rfl | rfl <;> rfl

end Kubeconfig

namespace KubeconfigStore

variable {store : KubeconfigStore} {files files' made left : FileTree} {login : Kubeconfig}
  {disk : Disk}

/-! ## What the file holds -/

/-- The files once the folder of the store is created, as far as that is possible. -/
def prepared (store : KubeconfigStore) (files : FileTree) : FileTree :=
  FileTree.reached (files.createFolders (Path.folder store.path))

/-- What stands at the path of the store once its folder is created. -/
def held (store : KubeconfigStore) (files : FileTree) : Option FileNode :=
  (store.prepared files).standing? store.path

/-- Creating the folder does not change what the path leads to. -/
def Settled (store : KubeconfigStore) (files : FileTree) : Prop :=
  files.standing? store.path = store.held files

def decode (store : KubeconfigStore) : Option FileNode → Except Error Kubeconfig
  | none => .ok {}
  | some .folder => .error (.fileUnreadable store.path .isADirectory)
  | some (.file octets) => if octets.all isAsciiBlank then .ok {} else Kubeconfig.parse octets

def stored (config : Kubeconfig) : Option FileNode := some (.file (encodeUtf8 config.toYaml))

theorem decode_stored {config : Kubeconfig} (h : config.ReadsBack) :
    store.decode (stored config) = .ok config := by
  rw [stored, decode, config.encodeUtf8_not_blank, if_neg Bool.false_ne_true,
    Kubeconfig.parse_encodeUtf8 h]

theorem load_eq (store : KubeconfigStore) (files : FileTree) :
    store.load files = store.decode (files.standing? store.path) := by
  unfold load
  rw [FileTree.exists?_eq]
  cases h : files.standing? store.path with
  | none => rfl
  | some n =>
    cases n with
    | folder =>
      rw [FileTree.read_of_folder h]
      rfl
    | file octets =>
      rw [FileTree.read_of_file h]
      rfl

theorem load_sound {config : Kubeconfig} (h : store.load files disk = .ok config) :
    store.load files = .ok config := by
  cases hfind : files.find store.path with
  | error e => simpa [load, FileTree.exists?, hfind, Except.toOption] using h
  | ok found =>
    obtain ⟨p, node⟩ := found
    cases node with
    | folder =>
      simp [load, FileTree.exists?, FileTree.read, hfind, Except.toOption, bind, Except.bind] at h
    | file octets =>
      cases hdisk : disk.read with
      | some e =>
        simp [load, FileTree.exists?, FileTree.read, hfind, hdisk, Except.toOption, bind,
          Except.bind] at h
      | none =>
        simpa [load, FileTree.exists?, FileTree.read, hfind, hdisk, Except.toOption, bind,
          Except.bind] using h

theorem prepared_eq (h : files.createFolders (Path.folder store.path) = .ok made) :
    store.prepared files = made := by
  rw [prepared, h]
  rfl

theorem prepared_of_isFolder (h : files.isFolder (Path.folder store.path) = true) :
    store.prepared files = files :=
  prepared_eq (FileTree.createFolders_of_isFolder h)

theorem held_of_isFolder (h : files.isFolder (Path.folder store.path) = true) :
    store.held files = files.standing? store.path := by
  rw [held, prepared_of_isFolder h]

theorem settled_of_isFolder (h : files.isFolder (Path.folder store.path) = true) :
    store.Settled files :=
  (held_of_isFolder h).symm

/-- A path that never leads up leads to the same before and after. -/
theorem settled_of_down (rooted : files.Rooted) (down : ".." ∉ Path.components store.path) :
    store.Settled files := by
  unfold Settled held prepared
  exact (FileTree.standing?_createFolders rooted down).symm

theorem settled_of_place (h : files.isFolder (Path.folder store.path) = true ∨
    files.Rooted ∧ ".." ∉ Path.components store.path) : store.Settled files := by
  rcases h with hfolder | ⟨rooted, down⟩
  · exact settled_of_isFolder hfolder
  · exact settled_of_down rooted down

/-- What the path leads to already stays, so before the folder is there it can only lead nowhere. -/
theorem settled_or_absent (store : KubeconfigStore) (files : FileTree) :
    store.Settled files ∨ files.standing? store.path = none := by
  cases h : files.standing? store.path with
  | none => exact .inr rfl
  | some n =>
    left
    rw [Settled, h, held, prepared]
    exact ((files.createFolders_left _ {}).standing? h).symm

/-! ## One update -/

/-- An update that was refused: besides new folders and new empty files, all is as it was. -/
structure Refused (store : KubeconfigStore) (files files' : FileTree) : Prop where
  grown : FileTree.Grows (fun _ n => n = .folder ∨ n = .file []) files files'
  held : store.held files' = store.held files
  settled : store.Settled files → store.Settled files'

theorem Refused.trans {between : FileTree} (h : store.Refused files between)
    (k : store.Refused between files') : store.Refused files files' where
  grown := h.grown.trans k.grown
  held := k.held.trans h.held
  settled := k.settled ∘ h.settled

structure Merged (store : KubeconfigStore) (login : Kubeconfig) (files files' : FileTree) :
    Prop where
  decoded : ∃ config, store.decode (store.held files) = .ok config ∧
    store.held files' = stored (config.merge login)
  settled : store.Settled files'

theorem location_cases (store : KubeconfigStore) (files : FileTree) (disk : Disk) :
    (∃ fault left, files.createFolders (Path.folder store.path) disk = .error (fault, left) ∧
        store.location files disk = .error (.fileUnwritable store.path fault, left)) ∨
      ∃ made, files.createFolders (Path.folder store.path) = .ok made ∧
        ((∃ fault, store.location files disk =
            .error (.fileUnwritable store.path fault, made)) ∨
          ∃ place, store.location files disk = .ok (place, made) ∧
            store.location files = .ok (place, made)) := by
  unfold location
  dsimp only
  cases hc : files.createFolders (Path.folder store.path) disk with
  | error x => exact .inl ⟨x.1, x.2, rfl, rfl⟩
  | ok made =>
    have hmade := FileTree.createFolders_sound hc
    refine .inr ⟨made, hmade, ?_⟩
    rw [hmade]
    dsimp only
    cases hplace : made.locate (Path.folder store.path) with
    | error fault => exact .inl ⟨fault, rfl⟩
    | ok above =>
      cases hdisk : disk.resolve with
      | some fault => exact .inl ⟨fault, rfl⟩
      | none =>
        right
        dsimp only
        cases Path.fileName? store.path with
        | none => exact ⟨above, rfl, rfl⟩
        | some name => exact ⟨above ++ [name], rfl, rfl⟩

theorem location_sound {place : Place} (h : store.location files disk = .ok (place, made)) :
    store.location files = .ok (place, made) := by
  rcases store.location_cases files disk with
    ⟨_, _, _, herror⟩ | ⟨made', _, ⟨_, herror⟩ | ⟨place', hok, hsound⟩⟩
  · cases h.symm.trans herror
  · cases h.symm.trans herror
  · rw [hsound, ← hok, h]

theorem location_eq_ok {place : Place} (h : store.location files disk = .ok (place, made)) :
    files.createFolders (Path.folder store.path) = .ok made := by
  rcases store.location_cases files disk with
    ⟨_, _, _, herror⟩ | ⟨made', hmade, ⟨_, herror⟩ | ⟨place', hok, _⟩⟩
  · cases h.symm.trans herror
  · cases h.symm.trans herror
  · cases h.symm.trans hok
    exact hmade

theorem lock_cases (store : KubeconfigStore) (files : FileTree) (disk : Disk) :
    (∃ fault left, store.lock files disk =
        .error (.fileUnwritable (lockPath store.path) fault, left) ∧
        (left = files ∨ files.touch (lockPath store.path) = .ok left)) ∨
      ∃ locked, files.touch (lockPath store.path) = .ok locked ∧
        store.lock files disk = .ok locked := by
  unfold lock
  cases htouch : files.touch (lockPath store.path) disk with
  | error fault => exact .inl ⟨fault, files, rfl, .inl rfl⟩
  | ok locked =>
    have hlocked := FileTree.touch_sound htouch
    dsimp only
    cases disk.locking with
    | some fault => exact .inl ⟨fault, locked, rfl, .inr hlocked⟩
    | none => exact .inr ⟨locked, hlocked, rfl⟩

theorem lock_eq_ok (h : store.lock files disk = .ok made) :
    files.touch (lockPath store.path) = .ok made := by
  rcases store.lock_cases files disk with ⟨_, _, herror, _⟩ | ⟨locked, hlocked, hok⟩
  · cases h.symm.trans herror
  · cases h.symm.trans hok
    exact hlocked

theorem lock_of_touch (h : files.touch (lockPath store.path) = .ok made) :
    store.lock files = .ok made := by
  rw [lock, h]

/-- Folders that could not all be created are as good as none: an update starts from them as if it
were the first. -/
theorem refused_of_createFolders {fault : IoFault}
    (h : files.createFolders (Path.folder store.path) disk = .error (fault, left)) :
    store.Refused files left := by
  have hgrown := files.createFolders_left (Path.folder store.path) disk
  rw [h] at hgrown
  have hheld : store.held left = store.held files := by
    rw [held, held, prepared, prepared, FileTree.createFolders_resumed h]
  refine ⟨hgrown.mono fun _ _ => .inl, hheld, fun hsettled => ?_⟩
  rcases store.settled_or_absent left with hleft | habsent
  · exact hleft
  · -- Nothing stood at the path before, for it would stand there still.
    rw [Settled, habsent, hheld, ← hsettled]
    cases hstanding : files.standing? store.path with
    | none => rfl
    | some n => cases habsent.symm.trans (hgrown.standing? hstanding)

/-- The folder is there and perhaps a lock file beside the file; the file itself is untouched. -/
structure Entered (store : KubeconfigStore) (files files' : FileTree) : Prop where
  grown : FileTree.Grows (fun _ n => n = .folder ∨ n = .file []) files files'
  folder : files'.isFolder (Path.folder store.path) = true
  standing : files'.standing? store.path = store.held files

theorem Entered.refused (h : store.Entered files files') : store.Refused files files' where
  grown := h.grown
  held := by rw [held_of_isFolder h.folder, h.standing]
  settled := fun _ => settled_of_isFolder h.folder

theorem entered_of_createFolders (h : files.createFolders (Path.folder store.path) = .ok made) :
    store.Entered files made where
  grown := (FileTree.createFolders_grows h).mono fun _ _ => .inl
  folder := FileTree.isFolder_of_createFolders (Path.folder_ne_empty _) h
  standing := by rw [KubeconfigStore.held, prepared_eq h]

/-- The name of the lock goes on after the name of the file, so locking leaves the file alone. -/
theorem Entered.touch_lock (h : store.Entered files made)
    (hlock : made.touch (lockPath store.path) = .ok files') : store.Entered files files' := by
  obtain ⟨p, _, g⟩ := FileTree.touch_eq_ok hlock
  have hgrown : FileTree.Grows (fun _ n => n = .folder ∨ n = .file []) made files' :=
    g.mono fun _ _ hn => .inr hn.2
  refine ⟨h.grown.trans hgrown, FileTree.isFolder_kept hgrown.keepsFolders h.folder, ?_⟩
  rw [FileTree.standing?_touch (by decide) (by decide) hlock, h.standing]

theorem Entered.temporaries {temporaries : List (Place × List UInt8)}
    (h : store.Entered files made) : store.Entered files { made with temporaries } where
  grown := h.grown.trans FileTree.grows_temporaries
  folder := by rw [FileTree.isFolder_temporaries, h.folder]
  standing := by rw [FileTree.standing?_temporaries, h.standing]

theorem Entered.load_eq (h : store.Entered files files') :
    store.load files' = store.decode (store.held files) := by
  rw [KubeconfigStore.load_eq, h.standing]

/-- Octets come to stand in the file as a whole, or not at all, at whichever step that fails. -/
theorem replaced_cases (store : KubeconfigStore) (octets : List UInt8) (files : FileTree)
    (disk : Disk) :
    (∃ e files', files.replace store.path octets disk = (.error e, files') ∧
        store.Refused files files') ∨
      ∃ files', files.replace store.path octets disk = (.ok (), files') ∧
        store.held files' = some (.file octets) ∧ store.Settled files' := by
  rcases files.replace_cases store.path octets disk with
    ⟨e, left, hleft, hfailed⟩ | ⟨made, hmade, ⟨e, temporaries, hfailed⟩ | ⟨p, _, htarget, hput⟩⟩
  · exact .inl ⟨e, left, hfailed, refused_of_createFolders hleft⟩
  · exact .inl ⟨e, _, hfailed, (entered_of_createFolders hmade).temporaries.refused⟩
  · have hthere := FileTree.isFolder_kept (FileTree.keepsFolders_put
      (n := .file octets) (FileTree.target_eq_ok htarget).2.1)
      (entered_of_createFolders hmade).folder
    refine .inr ⟨_, hput, ?_, settled_of_isFolder hthere⟩
    rw [held_of_isFolder hthere, FileTree.standing?_put_target htarget]

theorem write_of_replace {config : Kubeconfig}
    (h : files.replace store.path (encodeUtf8 config.toYaml) disk = (.ok (), files')) :
    store.write config files disk = (.ok (), files') := by
  unfold write
  rw [h]

theorem write_of_replace_error {config : Kubeconfig} {e : IoFault}
    (h : files.replace store.path (encodeUtf8 config.toYaml) disk = (.error e, files')) :
    store.write config files disk = (.error (.fileUnwritable store.path e), files') := by
  unfold write
  rw [h]

theorem replaced_of_write {config : Kubeconfig}
    (h : store.write config files disk = (.ok (), files')) :
    files.replace store.path (encodeUtf8 config.toYaml) disk = (.ok (), files') := by
  rw [write] at h
  split at h
  · next after hreplaced =>
    cases h
    exact hreplaced
  · cases h

theorem write_sound {config : Kubeconfig} (h : store.write config files disk = (.ok (), files')) :
    store.write config files = (.ok (), files') :=
  write_of_replace (FileTree.replace_sound (replaced_of_write h))

theorem write_cases (store : KubeconfigStore) (config : Kubeconfig) (files : FileTree)
    (disk : Disk) :
    (∃ e files', store.write config files disk = (.error e, files') ∧ store.Refused files files') ∨
      ∃ files', store.write config files disk = (.ok (), files') ∧
        store.held files' = stored config ∧ store.Settled files' := by
  rcases store.replaced_cases (encodeUtf8 config.toYaml) files disk with
    ⟨e, left, hfailed, hrefused⟩ | ⟨files', hput, hheld, hsettled⟩
  · exact .inl ⟨_, left, write_of_replace_error hfailed, hrefused⟩
  · exact .inr ⟨files', write_of_replace hput, hheld, hsettled⟩

/-- An update fails and leaves the file alone, or it merges the login and answers the path. -/
theorem add_cases (store : KubeconfigStore) (login : Kubeconfig) (files : FileTree) (disk : Disk) :
    (∃ e files', store.add login files disk = (.error e, files') ∧ store.Refused files files') ∨
      ∃ files', store.add login files disk = (.ok store.path, files') ∧
        store.Merged login files files' := by
  unfold add
  rcases store.location_cases files disk with
    ⟨fault, left, hcreate, hlocation⟩ | ⟨made, hcreate, ⟨fault, hlocation⟩ | ⟨place, hlocation, _⟩⟩
  · exact .inl ⟨_, left, by rw [hlocation], refused_of_createFolders hcreate⟩
  · exact .inl ⟨_, made, by rw [hlocation], (entered_of_createFolders hcreate).refused⟩
  rw [hlocation]
  dsimp only
  have hmade := entered_of_createFolders hcreate
  rcases store.lock_cases made disk with ⟨fault, left, hlock, hleft⟩ | ⟨locked, htouch, hlock⟩
  · refine .inl ⟨_, left, by rw [hlock], ?_⟩
    rcases hleft with rfl | htouch
    · exact hmade.refused
    · exact (hmade.touch_lock htouch).refused
  rw [hlock]
  dsimp only
  have hlocked := hmade.touch_lock htouch
  cases hload : store.load locked disk with
  | error e => exact .inl ⟨e, locked, rfl, hlocked.refused⟩
  | ok config =>
    dsimp only
    have hdecoded : store.decode (store.held files) = .ok config := by
      rw [← hlocked.load_eq, load_sound hload]
    rcases store.write_cases (config.merge login) locked disk with
      ⟨e, left, hwrite, hrefused⟩ | ⟨files', hwrite, hheld, hsettled⟩
    · exact .inl ⟨e, left, by rw [hwrite], hlocked.refused.trans hrefused⟩
    · exact .inr ⟨files', by rw [hwrite], ⟨config, hdecoded, hheld⟩, hsettled⟩

theorem refused_of_add {e : Error} (h : store.add login files disk = (.error e, files')) :
    store.Refused files files' := by
  rcases store.add_cases login files disk with ⟨e', after, hadd, hrefused⟩ | ⟨after, hadd, _⟩
  · obtain rfl : after = files' := congrArg Prod.snd (hadd.symm.trans h)
    exact hrefused
  · rw [hadd] at h
    cases h

theorem merged_of_add {path : String} (h : store.add login files disk = (.ok path, files')) :
    path = store.path ∧ store.Merged login files files' := by
  rcases store.add_cases login files disk with ⟨e, after, hadd, _⟩ | ⟨after, hadd, hmerged⟩
  · rw [hadd] at h
    cases h
  · rw [hadd] at h
    cases h
    exact ⟨rfl, hmerged⟩

theorem add_of_steps {place : Place} {locked : FileTree} {config : Kubeconfig}
    (hlocation : store.location files disk = .ok (place, made))
    (hlock : store.lock made disk = .ok locked) (hload : store.load locked disk = .ok config)
    (hwrite : store.write (config.merge login) locked disk = (.ok (), files')) :
    store.add login files disk = (.ok store.path, files') := by
  rw [add, hlocation]
  dsimp only
  rw [hlock]
  dsimp only
  rw [hload]
  dsimp only
  rw [hwrite]

theorem steps_of_add {path : String} (h : store.add login files disk = (.ok path, files')) :
    path = store.path ∧ ∃ place made locked config,
      store.location files disk = .ok (place, made) ∧ store.lock made disk = .ok locked ∧
        store.load locked disk = .ok config ∧
          store.write (config.merge login) locked disk = (.ok (), files') := by
  cases hlocation : store.location files disk with
  | error x => simp [add, hlocation] at h
  | ok found =>
    obtain ⟨place, made⟩ := found
    cases hlock : store.lock made disk with
    | error x => simp [add, hlocation, hlock] at h
    | ok locked =>
      cases hload : store.load locked disk with
      | error e => simp [add, hlocation, hlock, hload] at h
      | ok config =>
        cases hwrite : store.write (config.merge login) locked disk with
        | mk answer after =>
          cases answer with
          | error e => simp [add, hlocation, hlock, hload, hwrite] at h
          | ok _ =>
            cases (add_of_steps hlocation hlock hload hwrite).symm.trans h
            exact ⟨rfl, place, made, locked, config, rfl, hlock, hload, hwrite⟩

/-- What a disk lets through is what comes of an update that nothing disturbs. -/
theorem add_sound {path : String} (h : store.add login files disk = (.ok path, files')) :
    store.add login files = (.ok path, files') := by
  obtain ⟨rfl, place, made, locked, config, hlocation, hlock, hload, hwrite⟩ := steps_of_add h
  exact add_of_steps (location_sound hlocation) (lock_of_touch (lock_eq_ok hlock))
    (load_sound hload) (write_sound hwrite)

/-- An update writes to its file, so a disk that refuses that makes it fail. -/
theorem add_of_refuses (store : KubeconfigStore) (login : Kubeconfig) (files : FileTree)
    (refuses : disk.Refuses) :
    ∃ e after, store.add login files disk = (.error e, after) := by
  cases hadd : store.add login files disk with
  | mk answer after =>
    cases answer with
    | error e => exact ⟨e, after, rfl⟩
    | ok path =>
      obtain ⟨_, _, _, locked, config, _, _, _, hwrite⟩ := steps_of_add hadd
      obtain ⟨e, left, hfailed⟩ := FileTree.replace_of_refuses refuses locked store.path
        (encodeUtf8 (config.merge login).toYaml)
      cases (replaced_of_write hwrite).symm.trans hfailed

theorem Merged.load (h : store.Merged login files files') :
    ∃ config, store.decode (store.held files) = .ok config ∧
      ((config.merge login).ReadsBack → store.load files' = .ok (config.merge login)) := by
  obtain ⟨config, hbefore, hafter⟩ := h.decoded
  refine ⟨config, hbefore, fun hreads => ?_⟩
  rw [KubeconfigStore.load_eq, h.settled, hafter, decode_stored hreads]

theorem add_eq_ok {place p : Place} {locked : FileTree} {config : Kubeconfig}
    (hlocation : store.location files = .ok (place, made))
    (hlock : made.touch (lockPath store.path) = .ok locked)
    (hconfig : store.decode (store.held files) = .ok config)
    (htarget : locked.target store.path = .ok p) :
    store.add login files =
      (.ok store.path, locked.put p (.file (encodeUtf8 (config.merge login).toYaml))) := by
  have hlocked := (entered_of_createFolders (location_eq_ok hlocation)).touch_lock hlock
  have hload := hlocked.load_eq.trans hconfig
  have hfolder : locked.createFolders (Path.folder store.path) = .ok locked :=
    FileTree.createFolders_of_isFolder hlocked.folder
  have hwrite : store.write (config.merge login) locked =
      (.ok (), locked.put p (.file (encodeUtf8 (config.merge login).toYaml))) :=
    write_of_replace (FileTree.replace_of_target hfolder htarget _)
  exact add_of_steps hlocation (lock_of_touch hlock) hload hwrite

end KubeconfigStore

end ClusterDeploy
