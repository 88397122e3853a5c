import ClusterDeploy.Job.Setup
import ClusterDeploy.Proofs.Kubeconfig.Store
/-!
# Files at other places

Settings that are created and logins that are stored leave the files at all other places alone; only
a lock may appear, and it is empty.
-/
namespace ClusterDeploy

namespace FileTree

variable {t t' t'' : FileTree} {p q : Place} {path : String} {fresh : Prop}

theorem standing?_of_read {content : List UInt8} (h : t.read path = .ok content) :
    t.standing? path = some (.file content) := by
  unfold read at h
  cases hfind : t.find path with
  | error e => simp [hfind, bind, Except.bind] at h
  | ok found =>
    obtain ⟨p, node⟩ := found
    cases node with
    | folder => simp [hfind, bind, Except.bind] at h
    | file octets =>
      simp only [hfind, bind, Except.bind, Except.ok.injEq] at h
      rw [standing?, hfind, h]
      rfl

/-- The file at the place stays; a new one there is empty, and appears only if it may. -/
structure Spares (fresh : Prop) (p : Place) (t t' : FileTree) : Prop where
  folders : KeepsFolders t t'
  kept : ∀ content, t.node? p = some (.file content) → t'.node? p = some (.file content)
  added : ∀ content, t'.node? p = some (.file content) →
    t.node? p = some (.file content) ∨ fresh ∧ content = []

namespace Spares

theorem refl (t : FileTree) : Spares fresh p t t := ⟨.refl t, fun _ => id, fun _ => .inl⟩

theorem trans (h : Spares fresh p t t') (k : Spares fresh p t' t'') : Spares fresh p t t'' where
  folders := h.folders.trans k.folders
  kept := fun content hp => k.kept content (h.kept content hp)
  added := by
    intro content hp
    rcases k.added content hp with hp | hnew
    · exact h.added content hp
    · exact .inr hnew

theorem mono {other : Prop} (h : Spares fresh p t t') (weaker : fresh → other) :
    Spares other p t t' where
  folders := h.folders
  kept := h.kept
  added := fun content hp => (h.added content hp).imp_right fun hnew => ⟨weaker hnew.1, hnew.2⟩

theorem of_grows {new : Place → FileNode → Prop} (h : Grows new t t')
    (harmless : ∀ content, new p (.file content) → fresh ∧ content = []) :
    Spares fresh p t t' where
  folders := h.keepsFolders
  kept := fun _ => h.kept
  added := fun content hp => (h.added hp).imp_right (harmless content)

theorem of_folders (h : Grows (fun _ n => n = .folder) t t') : Spares fresh p t t' :=
  of_grows h nofun

theorem put {content : List UInt8} (elsewhere : q ≠ p) (free : t.node? q ≠ some .folder) :
    Spares fresh p t (t.put q (.file content)) := by
  have hnode : (t.put q (.file content)).node? p = t.node? p := by
    rw [node?_put (ne_root free), if_neg elsewhere.symm]
  exact ⟨keepsFolders_put free, fun _ hp => hnode.trans hp, fun _ hp => .inl (hnode.symm.trans hp)⟩

/-- A replaced file is the only one that changes. -/
theorem replace (elsewhere : t.placeOf path ≠ p) (content : List UInt8) (disk : Disk) :
    Spares fresh p t (t.replace path content disk).2 := by
  cases h : t.replace path content disk with
  | mk answer t' =>
    cases answer with
    | ok _ =>
      obtain ⟨made, q, hmade, htarget, rfl⟩ := replace_eq_ok h
      obtain ⟨hlocate, hfree, _⟩ := target_eq_ok htarget
      have hgrown := createFolders_grows hmade
      have hplace : q ≠ p := by
        rwa [← placeOf_of_locate hlocate, placeOf_of_home hgrown.home]
      exact (of_folders hgrown).trans (put hplace hfree)
    | error e => exact of_folders (replace_error_grows h)

theorem touch {disk : Disk} (h : t.touch path disk = .ok t') :
    Spares (t.placeOf path = p) p t t' := by
  obtain ⟨q, htarget, hgrown⟩ := touch_eq_ok h
  obtain ⟨hlocate, _, _⟩ := target_eq_ok htarget
  refine of_grows hgrown ?_
  rintro content ⟨rfl, hnode⟩
  cases hnode
  exact ⟨placeOf_of_locate hlocate, rfl⟩

/-- A file that is read through a path is the same one afterwards. -/
theorem read {content : List UInt8} (h : Spares fresh (t.placeOf path) t t')
    (hread : t.read path = .ok content) : t'.read path = .ok content := by
  obtain ⟨q, hlocate, hnode, hend⟩ := standing?_eq_some_iff.mp (standing?_of_read hread)
  rw [placeOf_of_locate hlocate] at h
  exact read_of_file (standing?_eq_some_iff.mpr
    ⟨q, locate_kept h.folders hlocate, h.kept content hnode, hend⟩)

end Spares

structure KeepsFile (fresh : Prop) (path : String) (t t' : FileTree) : Prop where
  spared : Spares fresh (t.placeOf path) t t'
  reads : ∀ octets, t.read path = .ok octets → t'.read path = .ok octets

theorem Spares.keepsFile (h : Spares fresh (t.placeOf path) t t') : KeepsFile fresh path t t' :=
  ⟨h, fun _ => h.read⟩

end FileTree

namespace Settings

variable {files : FileTree} {p : Place} {path : String} {fresh : Prop}

theorem create_spares (elsewhere : files.placeOf path ≠ p) :
    FileTree.Spares fresh p files (create files path).2 := by
  unfold create
  cases Path.parent? path with
  | none => exact .refl files
  | some folder =>
  dsimp only
  have hleft := files.createFolders_left folder {}
  cases hmade : files.createFolders folder with
  | error x =>
    rw [hmade] at hleft
    exact .of_folders hleft
  | ok made =>
    have hgrown := FileTree.createFolders_grows hmade
    have helsewhere : made.placeOf path ≠ p := by
      rwa [FileTree.placeOf_of_home hgrown.home]
    have hreplaced : FileTree.Spares fresh p made
        (made.replace path (Text.encodeUtf8 ({} : Settings).toToml)).2 :=
      .replace helsewhere _ {}
    dsimp only
    split
    · next hsaved =>
      rw [hsaved] at hreplaced
      exact (FileTree.Spares.of_folders hgrown).trans hreplaced
    · next hsaved =>
      rw [hsaved] at hreplaced
      exact (FileTree.Spares.of_folders hgrown).trans hreplaced

theorem load_spares {lookup : String → Option String} {home : String} {given : Option String}
    (elsewhere : files.placeOf (given.getD (defaultPath lookup home)) ≠ p) :
    FileTree.Spares fresh p files (load files lookup home given).2 := by
  have hread : FileTree.Spares fresh p files
      (readFile files (given.getD (defaultPath lookup home))).2 := by
    unfold readFile
    split
    · exact create_spares elsewhere
    · exact .refl files
    · exact .refl files
    · split
      · exact .refl files
      · exact .refl files
  exact hread

end Settings

theorem Setup.load_files (files : FileTree) (lookup : String → Option String) (home : String)
    (c : CommandLine) :
    (load files lookup home c).2 = (Settings.load files lookup home c.settings).2 := by
  unfold load
  cases Settings.load files lookup home c.settings with
  | mk settings files =>
    cases settings with
    | error e => rfl
    | ok settings =>
      dsimp only
      split
      · rfl
      split
      · rfl
      · rfl

namespace KubeconfigStore

variable {files files' made : FileTree} {p place : Place} {store : KubeconfigStore}
  {config : Kubeconfig} {fresh : Prop} {disk : Disk}

theorem write_spares (elsewhere : files.placeOf store.path ≠ p) (config : Kubeconfig)
    (disk : Disk) :
    FileTree.Spares fresh p files (store.write config files disk).2 := by
  have hreplaced : FileTree.Spares fresh p files
      (files.replace store.path (Text.encodeUtf8 config.toYaml) disk).2 :=
    .replace elsewhere _ disk
  unfold write
  split
  · next hsaved => rwa [hsaved] at hreplaced
  · next hsaved => rwa [hsaved] at hreplaced

/-- The location of a file is where its path leads. -/
theorem place_of_location (h : store.location files disk = .ok (place, made))
    (hend : Path.endsInFolder store.path = false) : place = files.placeOf store.path := by
  obtain ⟨name, hname, hdots, hcomponents⟩ := Path.fileName?_of_file hend
  have hmade := location_eq_ok h
  have hhome := (FileTree.createFolders_grows hmade).home
  have h := location_sound h
  unfold location at h
  dsimp only at h
  rw [hmade] at h
  dsimp only at h
  cases hlocate : made.locate (Path.folder store.path) with
  | error e => simp [hlocate] at h
  | ok above =>
    simp only [hlocate, hname, Except.ok.injEq, Prod.mk.injEq, and_true] at h
    have habove := FileTree.placeOf_of_locate hlocate
    rw [FileTree.placeOf_of_home hhome] at habove
    rw [FileTree.placeOf, hcomponents, List.foldl_append,
      ← FileTree.origin_folder (by simp [hcomponents])]
    change _ = FileTree.down (files.placeOf (Path.folder store.path)) name
    rw [habove, FileTree.down, if_neg hdots, h]

theorem write_eq_ok (folder : files.isFolder (Path.folder store.path) = true)
    (h : store.write config files disk = (.ok (), files')) :
    files.target store.path = .ok (files.placeOf store.path) ∧
      files' = files.put (files.placeOf store.path) (.file (Text.encodeUtf8 config.toYaml)) := by
  unfold write at h
  split at h
  · next after hreplaced =>
    cases h
    obtain ⟨made, q, hmade, htarget, rfl⟩ := FileTree.replace_eq_ok hreplaced
    obtain rfl : files = made :=
      Except.ok.inj ((FileTree.createFolders_of_isFolder folder).symm.trans hmade)
    rw [FileTree.placeOf_of_locate (FileTree.target_eq_ok htarget).1]
    exact ⟨htarget, rfl⟩
  · cases h

/-- Storing a login leaves all other files alone, but for a lock that may appear. -/
theorem add_spares (elsewhere : files.placeOf store.path ≠ p) (login : Kubeconfig) (disk : Disk) :
    FileTree.Spares (files.placeOf (lockPath store.path) = p) p files
      (store.add login files disk).2 := by
  unfold add
  rcases store.location_cases files disk with
    ⟨fault, left, hleft, hlocation⟩ | ⟨made, hmade, hlocation⟩
  · have hgrown := files.createFolders_left (Path.folder store.path) disk
    rw [hleft] at hgrown
    rw [hlocation]
    exact .of_folders hgrown
  have hgrown := FileTree.createFolders_grows hmade
  have hspared : FileTree.Spares (files.placeOf (lockPath store.path) = p) p files made :=
    .of_folders hgrown
  rcases hlocation with ⟨fault, hlocation⟩ | ⟨place, hlocation, _⟩
  · rw [hlocation]
    exact hspared
  rw [hlocation]
  dsimp only
  have htouched {locked : FileTree} (h : made.touch (lockPath store.path) = .ok locked) :
      FileTree.Spares (files.placeOf (lockPath store.path) = p) p files locked := by
    refine hspared.trans ?_
    rw [← FileTree.placeOf_of_home hgrown.home]
    exact .touch h
  rcases store.lock_cases made disk with ⟨fault, left, hlock, hleft⟩ | ⟨locked, htouch, hlock⟩
  · rw [hlock]
    rcases hleft with rfl | htouch
    · exact hspared
    · exact htouched htouch
  have hlocked := htouched htouch
  rw [hlock]
  dsimp only
  cases store.load locked disk with
  | error e => exact hlocked
  | ok config =>
    have helsewhere : locked.placeOf store.path ≠ p := by
      rwa [FileTree.placeOf_of_home hlocked.folders.home]
    have hwritten : FileTree.Spares (files.placeOf (lockPath store.path) = p) p locked
        (store.write (config.merge login) locked disk).2 :=
      write_spares helsewhere _ disk
    dsimp only
    split
    · next hsaved =>
      rw [hsaved] at hwritten
      exact hlocked.trans hwritten
    · next hsaved =>
      rw [hsaved] at hwritten
      exact hlocked.trans hwritten

end KubeconfigStore

end ClusterDeploy
