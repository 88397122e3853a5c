import ClusterDeploy.Proofs.Files.Folders
/-!
# Opening and replacing files

Opening a file for writing adds at most an empty one. A replacement writes to a temporary file,
which no path leads to, and moves it to its place in the end. So at whichever step the disk refuses,
the tree differs only in folders and temporary files; and what a disk lets through is what comes of
a replacement that nothing disturbs.
-/
namespace ClusterDeploy

/-- The disk refuses a step that every replacement takes once its folder is there. -/
def Disk.Refuses (disk : Disk) : Prop :=
  disk.temporary.isSome ∨ disk.write.isSome ∨ disk.rename.isSome

namespace FileTree

variable {t t' made : FileTree} {p : Place} {path : String} {disk : Disk} {e : IoFault}
  {content : List UInt8} {files : List (Place × List UInt8)}

/-! ## Opening -/

/-- Opening a file for writing adds an empty one when there is none. -/
theorem touch_eq_ok (h : t.touch path disk = .ok t') :
    ∃ p, t.target path = .ok p ∧ Grows (fun q n => q = p ∧ n = .file []) t t' := by
  unfold touch at h
  cases hp : t.target path with
  | error e => simp [hp, bind, Except.bind] at h
  | ok p =>
    refine ⟨p, rfl, ?_⟩
    cases hdisk : disk.opening with
    | some e => simp [hp, hdisk, bind, Except.bind] at h
    | none =>
      simp only [hp, hdisk, bind, Except.bind] at h
      cases hn : t.node? p with
      | none =>
        simp only [hn, Except.ok.injEq] at h
        subst h
        exact grows_put hn ⟨rfl, rfl⟩
      | some node =>
        simp only [hn, Except.ok.injEq] at h
        subst h
        exact .refl t

theorem touch_sound (h : t.touch path disk = .ok t') : t.touch path = .ok t' := by
  cases hp : t.target path with
  | error e => simp [touch, hp, bind, Except.bind] at h
  | ok p =>
    cases hdisk : disk.opening with
    | some e => simp [touch, hp, hdisk, bind, Except.bind] at h
    | none =>
      rw [← h]
      simp [touch, hp, hdisk, bind, Except.bind]

/-- A file whose name goes on after the last name of a path does not stand at the path. -/
theorem standing?_touch {suffix : String} (hsuffix : '/' ∉ suffix.toList)
    (hlong : 2 < suffix.length) (h : t.touch (path ++ suffix) disk = .ok t') :
    t'.standing? path = t.standing? path := by
  obtain ⟨q, hq, g⟩ := touch_eq_ok h
  have back : KeepsFolders t' t := by
    refine ⟨g.home.symm, fun {p} hp => ?_⟩
    rcases g.added hp with hp | ⟨_, hp⟩
    · exact hp
    · cases hp
  ext n
  refine ⟨fun hn => ?_, fun hn => g.standing? hn⟩
  rw [standing?_eq_some_iff] at hn ⊢
  obtain ⟨p, hp, hn, hend⟩ := hn
  refine ⟨p, locate_kept back hp, ?_, hend⟩
  rcases g.added hn with hold | ⟨rfl, rfl⟩
  · exact hold
  · have hfile : Path.endsInFolder path = false := by
      cases he : Path.endsInFolder path with
      | false => rfl
      | true => cases hend he
    obtain ⟨above, name, hpath, hdots, hnamed⟩ :=
      Path.components_append hfile hsuffix (by omega)
    obtain ⟨hne, _, hwalk⟩ := locate_eq_ok_iff.mp (locate_kept back hp)
    obtain ⟨_, _, hwalk'⟩ := locate_eq_ok_iff.mp (target_eq_ok hq).1
    have horigin : t.origin (path ++ suffix) = t.origin path := by
      unfold origin Path.isAbsolute
      rw [String.toList_append, List.head?_append_of_ne_nil]
      simpa using hne
    rw [horigin, hnamed] at hwalk'
    rw [hpath] at hwalk
    obtain ⟨place, hw, _, hplace⟩ := walk_concat hwalk
    obtain ⟨place', hw', _, hplace'⟩ := walk_concat hwalk'
    obtain rfl : place = place' := Except.ok.inj (hw.symm.trans hw')
    have hlength : (name ++ suffix).length = name.length + suffix.length :=
      String.length_append name suffix
    have hdots' : name ++ suffix ≠ ".." := by
      intro hname
      rw [hname] at hlength
      have : "..".length = 2 := rfl
      omega
    rw [if_neg hdots'] at hplace'
    rw [hplace', if_neg hdots] at hplace
    have hname : name ++ suffix = name := by simpa using hplace
    rw [hname] at hlength
    omega

/-! ## Temporary files -/

/-- No path leads to a temporary file. -/
theorem walk_temporaries (start : Place) (names : List String) :
    { t with temporaries := files }.walk start names = t.walk start names := by
  induction names generalizing start with
  | nil => rfl
  | cons name more ih =>
    have hnode : { t with temporaries := files }.node? start = t.node? start := rfl
    rw [walk, walk, hnode]
    cases t.node? start with
    | none => rfl
    | some node =>
      cases node with
      | file content => rfl
      | folder => exact ih _

theorem locate_temporaries (path : String) :
    { t with temporaries := files }.locate path = t.locate path := by
  simp only [locate, walk_temporaries]

theorem standing?_temporaries (path : String) :
    { t with temporaries := files }.standing? path = t.standing? path := by
  simp only [standing?, find, locate_temporaries]
  rfl

theorem isFolder_temporaries (path : String) :
    { t with temporaries := files }.isFolder path = t.isFolder path := by
  rw [Bool.eq_iff_iff, isFolder_iff, isFolder_iff, standing?_temporaries]

theorem target_temporaries (path : String) :
    { t with temporaries := files }.target path = t.target path := by
  simp only [target, locate_temporaries]
  rfl

theorem grows_temporaries {new : Place → FileNode → Prop} :
    Grows new t { t with temporaries := files } :=
  ⟨rfl, id, .inl⟩

theorem createTemporary_eq_ok (h : t.createTemporary path disk = .ok t') :
    disk.temporary = none ∧
      ∃ above, t' = { t with temporaries := (above, []) :: t.temporaries } := by
  unfold createTemporary at h
  cases hfind : t.find path with
  | error e => simp [hfind, bind, Except.bind] at h
  | ok found =>
    obtain ⟨above, node⟩ := found
    cases node with
    | file content => simp [hfind, bind, Except.bind] at h
    | folder =>
      cases hdisk : disk.temporary with
      | some e => simp [hfind, hdisk, bind, Except.bind] at h
      | none =>
        simp only [hfind, hdisk, bind, Except.bind, Except.ok.injEq] at h
        exact ⟨rfl, above, h.symm⟩

theorem createTemporary_of_isFolder (h : t.isFolder path = true) :
    ∃ above, t.createTemporary path {} =
      .ok { t with temporaries := (above, []) :: t.temporaries } := by
  obtain ⟨above, hfind⟩ := find_of_standing (isFolder_iff.mp h)
  exact ⟨above, by simp [createTemporary, hfind, bind, Except.bind]⟩

theorem fillTemporary_eq_error (h : t.fillTemporary content disk = (.error e, t')) :
    ∃ files, t' = { t with temporaries := files } := by
  unfold fillTemporary at h
  cases hdisk : disk.write with
  | none => simp [hdisk] at h
  | some fault =>
    simp only [hdisk, Prod.mk.injEq] at h
    exact ⟨_, h.2.symm⟩

theorem fillTemporary_eq_ok {above : Place} (hfiles : t.temporaries = (above, []) :: files)
    (h : t.fillTemporary content disk = (.ok (), t')) :
    disk.write = none ∧ t' = { t with temporaries := (above, content) :: files } := by
  unfold fillTemporary at h
  cases hdisk : disk.write with
  | some fault => simp [hdisk] at h
  | none =>
    simp only [hdisk, hfiles, List.modifyHead_cons, List.nil_append, Prod.mk.injEq, true_and] at h
    exact ⟨rfl, h.symm⟩

theorem persistTemporary_eq_ok {above : Place} (hfiles : t.temporaries = (above, content) :: files)
    (h : t.persistTemporary path disk = .ok t') :
    disk.rename = none ∧
      ∃ p, t.target path = .ok p ∧ t' = { t with temporaries := files }.put p (.file content) := by
  unfold persistTemporary at h
  cases hp : t.target path with
  | error e => simp [hp, bind, Except.bind] at h
  | ok p =>
    cases hdisk : disk.rename with
    | some e => simp [hp, hdisk, bind, Except.bind] at h
    | none =>
      simp only [hp, hdisk, hfiles, bind, Except.bind, Except.ok.injEq] at h
      exact ⟨rfl, p, rfl, h.symm⟩

theorem dropTemporary_eq (t : FileTree) (disk : Disk) :
    ∃ files, t.dropTemporary disk = { t with temporaries := files } := by
  unfold dropTemporary
  split
  · exact ⟨t.temporaries, rfl⟩
  · exact ⟨_, rfl⟩

/-! ## Replacing -/

/-- A replacement ends without the folder, or with nothing but the folder and temporary files, or
with the whole content in its place, which takes a disk that refuses none of its steps. -/
theorem replace_cases (t : FileTree) (path : String) (content : List UInt8) (disk : Disk) :
    (∃ e left, t.createFolders (Path.folder path) disk = .error (e, left) ∧
        t.replace path content disk = (.error e, left)) ∨
      ∃ made, t.createFolders (Path.folder path) = .ok made ∧
        ((∃ e files, t.replace path content disk = (.error e, { made with temporaries := files })) ∨
          ∃ p, ¬ disk.Refuses ∧ made.target path = .ok p ∧
            t.replace path content disk = (.ok (), made.put p (.file content))) := by
  unfold replace
  cases hc : t.createFolders (Path.folder path) disk with
  | error x => exact .inl ⟨x.1, x.2, rfl, rfl⟩
  | ok made =>
    refine .inr ⟨made, createFolders_sound hc, ?_⟩
    dsimp only
    cases hstart : made.createTemporary (Path.folder path) disk with
    | error e => exact .inl ⟨e, made.temporaries, rfl⟩
    | ok started =>
      obtain ⟨htemporary, above, rfl⟩ := createTemporary_eq_ok hstart
      dsimp only
      cases hfill : fillTemporary { made with temporaries := (above, []) :: made.temporaries }
          content disk with
      | mk filled full =>
        cases filled with
        | error e =>
          obtain ⟨rest, rfl⟩ := fillTemporary_eq_error hfill
          obtain ⟨last, hdrop⟩ := dropTemporary_eq { made with temporaries := rest } disk
          exact .inl ⟨e, last, congrArg _ hdrop⟩
        | ok _ =>
          obtain ⟨hwrite, rfl⟩ := fillTemporary_eq_ok rfl hfill
          dsimp only
          cases hmove : persistTemporary
              { made with temporaries := (above, content) :: made.temporaries } path disk with
          | error e =>
            obtain ⟨last, hdrop⟩ := dropTemporary_eq
              { made with temporaries := (above, content) :: made.temporaries } disk
            exact .inl ⟨e, last, congrArg _ hdrop⟩
          | ok moved =>
            obtain ⟨hrename, p, htarget, rfl⟩ := persistTemporary_eq_ok rfl hmove
            have hplace := (target_temporaries (t := made) path).symm.trans htarget
            refine .inr ⟨p, ?_, hplace, rfl⟩
            simp [Disk.Refuses, htemporary, hwrite, hrename]

theorem replace_eq_ok (h : t.replace path content disk = (.ok (), t')) :
    ∃ made p, t.createFolders (Path.folder path) = .ok made ∧ made.target path = .ok p ∧
      t' = made.put p (.file content) := by
  rcases t.replace_cases path content disk with
    ⟨e, left, _, herror⟩ | ⟨made, hmade, ⟨e, files, herror⟩ | ⟨p, _, htarget, hok⟩⟩
  · cases h.symm.trans herror
  · cases h.symm.trans herror
  · exact ⟨made, p, hmade, htarget, (Prod.ext_iff.mp (h.symm.trans hok)).2⟩

theorem replace_eq_error (h : t.replace path content disk = (.error e, t')) :
    t.createFolders (Path.folder path) disk = .error (e, t') ∨
      ∃ made files, t.createFolders (Path.folder path) = .ok made ∧
        t' = { made with temporaries := files } := by
  rcases t.replace_cases path content disk with
    ⟨e', left, hleft, herror⟩ | ⟨made, hmade, ⟨e', files, herror⟩ | ⟨p, _, _, hok⟩⟩
  · cases h.symm.trans herror
    exact .inl hleft
  · exact .inr ⟨made, files, hmade, (Prod.ext_iff.mp (h.symm.trans herror)).2⟩
  · cases h.symm.trans hok

theorem replace_error_grows (h : t.replace path content disk = (.error e, t')) :
    Grows (fun _ n => n = .folder) t t' := by
  rcases replace_eq_error h with hleft | ⟨made, files, hmade, rfl⟩
  · have hgrown := t.createFolders_left (Path.folder path) disk
    rwa [hleft] at hgrown
  · exact (createFolders_grows hmade).trans grows_temporaries

theorem keepsFolders_replace (t : FileTree) (path : String) (content : List UInt8) (disk : Disk) :
    KeepsFolders t (t.replace path content disk).2 := by
  cases h : t.replace path content disk with
  | mk done after =>
    cases done with
    | error e => exact (replace_error_grows h).keepsFolders
    | ok _ =>
      obtain ⟨made, p, hmade, htarget, rfl⟩ := replace_eq_ok h
      have hfree := (target_eq_ok htarget).2.1
      exact (createFolders_grows hmade).keepsFolders.trans (keepsFolders_put hfree)

theorem replace_of_refuses (refuses : disk.Refuses) (t : FileTree) (path : String)
    (content : List UInt8) : ∃ e left, t.replace path content disk = (.error e, left) := by
  rcases t.replace_cases path content disk with
    ⟨e, left, _, herror⟩ | ⟨made, _, ⟨e, files, herror⟩ | ⟨p, hunrefused, _⟩⟩
  · exact ⟨e, left, herror⟩
  · exact ⟨e, _, herror⟩
  · exact absurd refuses hunrefused

theorem replace_of_target (hmade : t.createFolders (Path.folder path) = .ok made)
    (htarget : made.target path = .ok p) (content : List UInt8) :
    t.replace path content = (.ok (), made.put p (.file content)) := by
  have hfolder := isFolder_of_createFolders (Path.folder_ne_empty path) hmade
  obtain ⟨above, hstart⟩ := createTemporary_of_isFolder hfolder
  simp only [replace, hmade, hstart, fillTemporary, persistTemporary, List.modifyHead_cons,
    target_temporaries, htarget, bind, Except.bind]
  rfl

theorem replace_sound (h : t.replace path content disk = (.ok (), t')) :
    t.replace path content = (.ok (), t') := by
  obtain ⟨made, p, hmade, htarget, rfl⟩ := replace_eq_ok h
  exact replace_of_target hmade htarget content

end FileTree

end ClusterDeploy
