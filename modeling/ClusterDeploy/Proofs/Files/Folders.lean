import ClusterDeploy.Proofs.Files.Tree
/-!
# Creating folders

Folders are created on the way to a path and nowhere else. What was created stays when the disk
refuses the next one, and whoever goes on from there on a sound disk comes to the same tree as
without the failure. Below a path that only leads down, creating the folder of the path adds nothing
at the path itself; a path that leads up again may come to lead to what it did not reach before.
-/
namespace ClusterDeploy.FileTree

variable {t t' left made between : FileTree} {p : Place} {path above : String} {disk : Disk}
  {e : IoFault} {levels : Nat}

/-! ## One folder -/

theorem createFolder_eq_ok (h : t.createFolder path disk = .ok t') :
    ∃ p, t.locate path = .ok p ∧ t.node? p = none ∧ t' = t.put p .folder := by
  unfold createFolder at h
  cases hl : t.locate path with
  | error e => simp [hl, bind, Except.bind] at h
  | ok p =>
    simp only [hl, bind, Except.bind] at h
    cases hn : t.node? p with
    | some node => simp [hn] at h
    | none =>
      cases hparent : t.node? p.dropLast with
      | none => simp [hn, hparent] at h
      | some node =>
        cases node with
        | file content => simp [hn, hparent] at h
        | folder =>
          cases hdisk : disk.folder p with
          | some e => simp [hn, hparent, hdisk] at h
          | none =>
            simp only [hn, hparent, hdisk, Except.ok.injEq] at h
            exact ⟨p, rfl, hn, h.symm⟩

/-- The disk is asked only for what the tree allows. -/
theorem createFolder_cases (t : FileTree) (path : String) (disk : Disk) :
    t.createFolder path disk = t.createFolder path ∨
      ∃ made e, t.createFolder path = .ok made ∧ t.createFolder path disk = .error e := by
  cases hl : t.locate path with
  | error e => exact .inl (by simp [createFolder, hl, bind, Except.bind])
  | ok p =>
    cases hn : t.node? p with
    | some node => exact .inl (by simp [createFolder, hl, hn, bind, Except.bind])
    | none =>
      cases hparent : t.node? p.dropLast with
      | none => exact .inl (by simp [createFolder, hl, hn, hparent, bind, Except.bind])
      | some node =>
        cases node with
        | file content => exact .inl (by simp [createFolder, hl, hn, hparent, bind, Except.bind])
        | folder =>
          cases hdisk : disk.folder p with
          | none => exact .inl (by simp [createFolder, hl, hn, hparent, hdisk, bind, Except.bind])
          | some e =>
            exact .inr ⟨t.put p .folder, e,
              by simp [createFolder, hl, hn, hparent, bind, Except.bind],
              by simp [createFolder, hl, hn, hparent, hdisk, bind, Except.bind]⟩

theorem createFolder_sound (h : t.createFolder path disk = .ok made) :
    t.createFolder path = .ok made := by
  rcases t.createFolder_cases path disk with hsame | ⟨_, _, _, herror⟩
  · exact hsame.symm.trans h
  · cases h.symm.trans herror

theorem isFolder_of_createFolder (h : t.createFolder path disk = .ok t') :
    t'.isFolder path = true := by
  obtain ⟨p, hlocate, hfree, rfl⟩ := createFolder_eq_ok h
  have hfree : t.node? p ≠ some .folder := by simp [hfree]
  rw [isFolder_iff, standing?_eq_some_iff]
  refine ⟨p, locate_kept (keepsFolders_put hfree) hlocate, ?_, fun _ => rfl⟩
  rw [node?_put (ne_root hfree), if_pos rfl]

theorem createFolder_of_isFolder (disk : Disk) (h : t.isFolder path = true) :
    t.createFolder path disk = .error .alreadyExists := by
  rw [isFolder_iff, standing?_eq_some_iff] at h
  obtain ⟨p, hlocate, hn, _⟩ := h
  simp [createFolder, hlocate, hn, bind, Except.bind]

theorem ensureFolder_cases (t : FileTree) (path : String) (disk : Disk) :
    (∃ made, t.createFolder path disk = .ok made ∧ t.ensureFolder path disk = .ok made) ∨
      (t.isFolder path = true ∧ t.ensureFolder path disk = .ok t) ∨
      ∃ e, t.createFolder path disk = .error e ∧ t.isFolder path = false ∧
        t.ensureFolder path disk = .error (e, t) := by
  unfold ensureFolder
  cases hcreate : t.createFolder path disk with
  | ok made => exact .inl ⟨made, rfl, rfl⟩
  | error e =>
    cases hfolder : t.isFolder path with
    | true => exact .inr (.inl ⟨rfl, by simp⟩)
    | false => exact .inr (.inr ⟨e, rfl, rfl, by simp⟩)

/-! ## The folders above -/

def reached : Except (IoFault × FileTree) FileTree → FileTree
  | .ok t => t
  | .error (_, t) => t

theorem ensureFolder_of_isFolder (disk : Disk) (h : t.isFolder path = true) :
    t.ensureFolder path disk = .ok t := by
  rw [ensureFolder, createFolder_of_isFolder disk h]
  exact if_pos h

theorem ensureFolder_sound (h : t.ensureFolder path disk = .ok made) :
    t.ensureFolder path = .ok made := by
  rcases t.ensureFolder_cases path disk with
    ⟨made', hcreate, hmade⟩ | ⟨hfolder, hsame⟩ | ⟨e, _, _, he⟩
  · rw [ensureFolder, createFolder_sound hcreate, ← h, hmade]
  · rw [ensureFolder_of_isFolder {} hfolder, ← h, hsame]
  · cases h.symm.trans he

theorem isFolder_of_ensureFolder (h : t.ensureFolder path disk = .ok made) :
    made.isFolder path = true := by
  rcases t.ensureFolder_cases path disk with
    ⟨made', hcreate, hmade⟩ | ⟨hfolder, hsame⟩ | ⟨e, _, _, he⟩
  · obtain rfl : made' = made := Except.ok.inj (hmade.symm.trans h)
    exact isFolder_of_createFolder hcreate
  · obtain rfl : t = made := Except.ok.inj (hsame.symm.trans h)
    exact hfolder
  · cases h.symm.trans he

theorem ensureFolder_eq_error (h : t.ensureFolder path disk = .error (e, left)) :
    left = t ∧ t.isFolder path = false := by
  rcases t.ensureFolder_cases path disk with ⟨_, _, hmade⟩ | ⟨_, hsame⟩ | ⟨e', _, hfolder, he⟩
  · cases h.symm.trans hmade
  · cases h.symm.trans hsame
  · cases h.symm.trans he
    exact ⟨rfl, hfolder⟩

/-- Either the folder is the only one to create, or those above it come first. -/
theorem createFoldersWithin_succ (levels : Nat) (t : FileTree) (disk : Disk) (hpath : path ≠ "") :
    (createFoldersWithin (levels + 1) t path disk = t.ensureFolder path disk ∧
        (t.createFolder path disk ≠ .error .notFound ∨ Path.parent? path = none)) ∨
      ∃ above, t.createFolder path disk = .error .notFound ∧ Path.parent? path = some above ∧
        createFoldersWithin (levels + 1) t path disk =
          (createFoldersWithin levels t above disk).bind fun t => t.ensureFolder path disk := by
  have hempty : path.isEmpty = false := by simpa using hpath
  rw [createFoldersWithin, hempty, if_neg Bool.false_ne_true]
  split
  · next above hcreate hparent => exact .inr ⟨above, hcreate, hparent, rfl⟩
  · next hnot =>
    left
    refine ⟨rfl, ?_⟩
    by_cases hcreate : t.createFolder path disk = .error .notFound
    · right
      cases hparent : Path.parent? path with
      | none => rfl
      | some above => exact absurd hparent (hnot above hcreate)
    · exact .inl hcreate

theorem createFoldersWithin_here (hpath : path ≠ "")
    (h : t.createFolder path disk ≠ .error .notFound) :
    createFoldersWithin (levels + 1) t path disk = t.ensureFolder path disk := by
  rcases createFoldersWithin_succ levels t disk hpath with ⟨hensure, _⟩ | ⟨_, hmissing, _⟩
  · exact hensure
  · exact absurd hmissing h

theorem createFoldersWithin_above (hpath : path ≠ "") (hparent : Path.parent? path = some above)
    (h : t.createFolder path disk = .error .notFound) :
    createFoldersWithin (levels + 1) t path disk =
      (createFoldersWithin levels t above disk).bind fun t => t.ensureFolder path disk := by
  rcases createFoldersWithin_succ levels t disk hpath with
    ⟨_, hother | hnone⟩ | ⟨above', _, habove, hensure⟩
  · exact absurd h hother
  · cases hparent.symm.trans hnone
  · obtain rfl : above = above' := Option.some.inj (hparent.symm.trans habove)
    exact hensure

theorem createFoldersWithin_empty (levels : Nat) (t : FileTree) (disk : Disk) :
    createFoldersWithin (levels + 1) t "" disk = .ok t := by
  rw [createFoldersWithin]
  rfl

theorem createFoldersWithin_of_isFolder (levels : Nat) (disk : Disk)
    (h : path = "" ∨ t.isFolder path = true) :
    createFoldersWithin (levels + 1) t path disk = .ok t := by
  by_cases hpath : path = ""
  · rw [hpath]
    exact createFoldersWithin_empty levels t disk
  · have hfolder := h.resolve_left hpath
    rcases createFoldersWithin_succ levels t disk hpath with ⟨hensure, _⟩ | ⟨_, hcreate, _⟩
    · rw [hensure, ensureFolder_of_isFolder disk hfolder]
    · rw [createFolder_of_isFolder disk hfolder] at hcreate
      cases hcreate

theorem createFolders_of_isFolder (h : t.isFolder path = true) :
    t.createFolders path disk = .ok t :=
  createFoldersWithin_of_isFolder path.length disk (.inr h)

theorem isFolder_of_createFoldersWithin (h : createFoldersWithin levels t path disk = .ok made) :
    path = "" ∨ made.isFolder path = true := by
  by_cases hpath : path = ""
  · exact .inl hpath
  · right
    cases levels with
    | zero => cases h
    | succ levels =>
      rcases createFoldersWithin_succ levels t disk hpath with ⟨hensure, _⟩ | ⟨above, _, _, hensure⟩
      · exact isFolder_of_ensureFolder (hensure.symm.trans h)
      · rw [hensure] at h
        cases hbelow : createFoldersWithin levels t above disk with
        | error x => simp [hbelow, Except.bind] at h
        | ok between =>
          rw [hbelow] at h
          exact isFolder_of_ensureFolder h

theorem isFolder_of_createFolders (hpath : path ≠ "") (h : t.createFolders path disk = .ok t') :
    t'.isFolder path = true :=
  (isFolder_of_createFoldersWithin h).resolve_left hpath

/-- Folders are only created where the components of the path lead, also by a failure. -/
theorem createFoldersWithin_along (levels : Nat) (t : FileTree) (path : String) (disk : Disk) :
    Grows (fun p n => n = .folder ∧ ∃ names, names <+: Path.components path ∧
      p = names.foldl down (t.origin path)) t
        (reached (createFoldersWithin levels t path disk)) := by
  induction levels generalizing path with
  | zero => exact .refl t
  | succ levels ih =>
    have hensure {between : FileTree} (k : KeepsFolders t between) :
        Grows (fun p n => n = .folder ∧ ∃ names, names <+: Path.components path ∧
          p = names.foldl down (t.origin path)) between
            (reached (between.ensureFolder path disk)) := by
      rcases between.ensureFolder_cases path disk with ⟨made, hcreate, h⟩ | ⟨_, h⟩ | ⟨e, _, _, h⟩
      · obtain ⟨p, hp, hfree, rfl⟩ := createFolder_eq_ok hcreate
        rw [h]
        refine grows_put hfree ⟨rfl, Path.components path, List.prefix_rfl, ?_⟩
        exact (placeOf_of_locate hp).symm.trans (placeOf_of_home k.home path)
      · rw [h]
        exact .refl between
      · rw [h]
        exact .refl between
    by_cases hpath : path = ""
    · rw [hpath, createFoldersWithin_empty]
      exact .refl t
    rcases createFoldersWithin_succ levels t disk hpath with ⟨h, _⟩ | ⟨above, _, habove, h⟩
    · rw [h]
      exact hensure (.refl t)
    · obtain ⟨hcomponents, habsolute⟩ := Path.components_parent habove
      have hfirst : Grows (fun p n => n = .folder ∧ ∃ names, names <+: Path.components path ∧
          p = names.foldl down (t.origin path)) t
            (reached (createFoldersWithin levels t above disk)) := by
        apply (ih above).mono
        rintro p n ⟨rfl, names, hnames, rfl⟩
        refine ⟨rfl, names, ?_, by rw [origin, habsolute, origin]⟩
        exact (hcomponents ▸ hnames).trans (List.dropLast_prefix _)
      rw [h]
      cases hbelow : createFoldersWithin levels t above disk with
      | error x =>
        rw [hbelow] at hfirst
        exact hfirst
      | ok between =>
        rw [hbelow] at hfirst
        exact hfirst.trans (hensure hfirst.keepsFolders)

theorem createFolders_along (t : FileTree) (path : String) (disk : Disk) :
    Grows (fun p n => n = .folder ∧ ∃ names, names <+: Path.components path ∧
      p = names.foldl down (t.origin path)) t (reached (t.createFolders path disk)) :=
  createFoldersWithin_along _ t path disk

theorem createFolders_left (t : FileTree) (path : String) (disk : Disk) :
    Grows (fun _ n => n = .folder) t (reached (t.createFolders path disk)) :=
  (t.createFolders_along path disk).mono fun _ _ hn => hn.1

theorem createFolders_grows (h : t.createFolders path disk = .ok t') :
    Grows (fun _ n => n = .folder) t t' := by
  have hgrown := t.createFolders_left path disk
  rwa [h] at hgrown

/-! ## Failures on the way -/

/-- The way to a place leads through the folder above it. -/
theorem above_of_locate (hparent : Path.parent? path = some above) (h : t.locate path = .ok p) :
    above = "" ∨ t.isFolder above = true := by
  by_cases named : Path.components path = []
  · exact .inl (Path.parent_of_no_components hparent named)
  · by_cases hempty : above = ""
    · exact .inl hempty
    · right
      have hfolder : Path.folder path = above := by simp [Path.folder, hparent, hempty]
      rw [← hfolder]
      exact isFolder_folder named h

theorem above_of_createFolder (hparent : Path.parent? path = some above)
    (h : t.createFolder path = .ok made) : above = "" ∨ t.isFolder above = true := by
  obtain ⟨p, hlocate, _⟩ := createFolder_eq_ok h
  exact above_of_locate hparent hlocate

/-- Folders that a disk lets through are the same on one that refuses nothing. -/
theorem createFoldersWithin_sound (h : createFoldersWithin levels t path disk = .ok made) :
    createFoldersWithin levels t path = .ok made := by
  induction levels generalizing path made with
  | zero => cases h
  | succ levels ih =>
    by_cases hpath : path = ""
    · rw [hpath, createFoldersWithin_empty] at h ⊢
      exact h
    rcases createFoldersWithin_succ levels t disk hpath with
      ⟨hensure, hstep⟩ | ⟨above, hcreate, hparent, hensure⟩
    · have hmade := ensureFolder_sound (hensure.symm.trans h)
      rcases createFoldersWithin_succ levels t {} hpath with
        ⟨hsound, _⟩ | ⟨above, hmissing, habove, _⟩
      · exact hsound.trans hmade
      · -- The tree itself has nothing against the folder, so nothing above it is missing.
        rcases t.createFolder_cases path disk with hsame | ⟨made', e, hok, _⟩
        · rcases hstep with hstep | hstep
          · exact absurd (hsame.trans hmissing) hstep
          · cases habove.symm.trans hstep
        · cases hmissing.symm.trans hok
    · rw [hensure] at h
      cases hbelow : createFoldersWithin levels t above disk with
      | error x => simp [hbelow, Except.bind] at h
      | ok between =>
        rw [hbelow] at h
        rcases t.createFolder_cases path disk with hsame | ⟨made', e, hok, _⟩
        · rw [createFoldersWithin_above hpath hparent (hsame.symm.trans hcreate), ih hbelow]
          exact ensureFolder_sound h
        · -- The folder above it is there already, and the disk refuses the folder a second time.
          cases levels with
          | zero => cases hbelow
          | succ levels =>
            have hthere := above_of_createFolder hparent hok
            rw [createFoldersWithin_of_isFolder levels disk hthere] at hbelow
            obtain rfl : t = between := Except.ok.inj hbelow
            rcases t.ensureFolder_cases path disk with ⟨_, hc, _⟩ | ⟨hfolder, _⟩ | ⟨_, _, _, he⟩
            · cases hcreate.symm.trans hc
            · rw [createFolder_of_isFolder {} hfolder] at hok
              cases hok
            · cases h.symm.trans he

/-- Where folders could not be created, the folder is missing. -/
theorem missing_of_createFoldersWithin
    (h : createFoldersWithin levels t path disk = .error (e, left)) :
    levels = 0 ∨ path ≠ "" ∧ left.isFolder path = false := by
  induction levels generalizing path with
  | zero => exact .inl rfl
  | succ levels ih =>
    right
    have hpath : path ≠ "" := by
      rintro rfl
      cases (createFoldersWithin_empty levels t disk).symm.trans h
    refine ⟨hpath, ?_⟩
    rcases createFoldersWithin_succ levels t disk hpath with
      ⟨hensure, _⟩ | ⟨above, hcreate, hparent, hensure⟩
    · obtain ⟨rfl, hfolder⟩ := ensureFolder_eq_error (hensure.symm.trans h)
      exact hfolder
    · rw [hensure] at h
      cases hbelow : createFoldersWithin levels t above disk with
      | ok between =>
        rw [hbelow] at h
        obtain ⟨rfl, hfolder⟩ := ensureFolder_eq_error h
        exact hfolder
      | error x =>
        rw [hbelow] at h
        cases h
        by_contra hfolder
        have hfolder : left.isFolder path = true := by simpa using hfolder
        rcases ih hbelow with rfl | ⟨hempty, hmissing⟩
        · cases hbelow
          rw [createFolder_of_isFolder disk hfolder] at hcreate
          cases hcreate
        · obtain ⟨p, hlocate, _⟩ := standing?_eq_some_iff.mp (isFolder_iff.mp hfolder)
          rcases above_of_locate hparent hlocate with habove | habove
          · exact hempty habove
          · cases hmissing.symm.trans habove

/-- When a folder fails although nothing above it is missing, the folder above it fails as well, or
it is there. -/
theorem ensureFolder_above (hnul : Char.ofNat 0 ∉ path.toList)
    (hparent : Path.parent? path = some above) (hempty : above ≠ "")
    (habove : t.isFolder above = false) (hcreate : t.createFolder path ≠ .error .notFound) :
    t.createFolder above ≠ .error .notFound ∧ ∃ e, t.ensureFolder above = .error (e, t) := by
  have hfolder : Path.folder path = above := by simp [Path.folder, hparent, hempty]
  have hnamed : Path.components path ≠ [] :=
    fun hnone => hempty (Path.parent_of_no_components hparent hnone)
  have hpath : path ≠ "" := by
    rintro rfl
    exact hnamed rfl
  have hnul' : Char.ofNat 0 ∉ above.toList := by
    rw [← hfolder]
    intro hc
    rcases Path.mem_folder hc with hc | hc | hc
    · exact hnul hc
    · cases hc
    · cases hc
  have hwalk : t.locate path = (t.locate above).bind fun p =>
      t.walk p [(Path.components path).getLast hnamed] := by
    rw [locate_eq hpath hnul, locate_eq hempty hnul', ← origin_folder hnamed, hfolder, ← hfolder,
      Path.components_folder, ← walk_append, List.dropLast_append_getLast]
  have hfails {e : IoFault} (he : t.createFolder above = .error e) :
      t.ensureFolder above = .error (e, t) := by
    rw [ensureFolder, he]
    simp [habove]
  cases hlocate : t.locate above with
  | error e =>
    have hcreates : t.createFolder path = .error e := by
      simp [createFolder, hwalk, hlocate, bind, Except.bind]
    have habove' : t.createFolder above = .error e := by
      simp [createFolder, hlocate, bind, Except.bind]
    exact ⟨by rwa [habove', ← hcreates], e, hfails habove'⟩
  | ok q =>
    cases hn : t.node? q with
    | none =>
      refine absurd ?_ hcreate
      simp [createFolder, hwalk, hlocate, hn, walk, bind, Except.bind]
    | some node =>
      cases node with
      | folder =>
        have hthere : t.isFolder above = true := by
          rw [isFolder_iff, standing?_eq_some_iff]
          exact ⟨q, hlocate, hn, fun _ => rfl⟩
        rw [habove] at hthere
        cases hthere
      | file content =>
        have habove' : t.createFolder above = .error .alreadyExists := by
          simp [createFolder, hlocate, hn, bind, Except.bind]
        exact ⟨by simp [habove'], _, hfails habove'⟩

/-- Two attempts that reach the same tree both succeed or both fail. -/
theorem created_of_reached (h : createFoldersWithin (levels + 1) t path = .ok made)
    (hsame : reached (createFoldersWithin (levels + 1) t' path) = made) :
    createFoldersWithin (levels + 1) t' path = .ok made := by
  cases hother : createFoldersWithin (levels + 1) t' path with
  | ok made' =>
    rw [hother] at hsame
    exact congrArg _ hsame
  | error x =>
    rw [hother] at hsame
    obtain rfl : x.2 = made := hsame
    obtain ⟨hnone, hgone⟩ :=
      (missing_of_createFoldersWithin hother).resolve_left (Nat.succ_ne_zero levels)
    rcases isFolder_of_createFoldersWithin h with hempty | hthere
    · exact absurd hempty hnone
    · cases hgone.symm.trans hthere

/-- Going on, after a failure, from a tree where the folders above could not be created. -/
theorem reached_above (hmissing : above ≠ "" ∧ left.isFolder above = false)
    (hnul : Char.ofNat 0 ∉ path.toList) (hpath : path ≠ "")
    (hparent : Path.parent? path = some above) :
    reached (createFoldersWithin (levels + 2) left path) =
      reached
        ((createFoldersWithin (levels + 1) left above).bind fun t => t.ensureFolder path) := by
  obtain ⟨hempty, habove⟩ := hmissing
  by_cases hagain : left.createFolder path = .error .notFound
  · rw [createFoldersWithin_above hpath hparent hagain]
  · obtain ⟨hother, e, herror⟩ := ensureFolder_above hnul hparent hempty habove hagain
    rw [createFoldersWithin_here hpath hagain, createFoldersWithin_here hempty hother, herror]
    rcases left.ensureFolder_cases path {} with ⟨made, hmade, _⟩ | ⟨_, h⟩ | ⟨_, _, _, h⟩
    · rcases above_of_createFolder hparent hmade with hnone | hthere
      · exact absurd hnone hempty
      · cases habove.symm.trans hthere
    · rw [h]
      rfl
    · rw [h]
      rfl

/-- After a failure the folders can be created from what is left, and the tree is the one that comes
of creating them at once. -/
theorem createFoldersWithin_resumed
    (h : createFoldersWithin levels t path disk = .error (e, left)) :
    reached (createFoldersWithin levels left path) =
      reached (createFoldersWithin levels t path) := by
  induction levels generalizing path with
  | zero =>
    cases h
    rfl
  | succ levels ih =>
    obtain ⟨hpath, -⟩ := (missing_of_createFoldersWithin h).resolve_left (Nat.succ_ne_zero levels)
    rcases createFoldersWithin_succ levels t disk hpath with
      ⟨hensure, _⟩ | ⟨above, hcreate, hparent, hensure⟩
    · obtain ⟨rfl, _⟩ := ensureFolder_eq_error (hensure.symm.trans h)
      rfl
    rw [hensure] at h
    cases levels with
    | zero =>
      cases h
      rfl
    | succ levels =>
    cases hbelow : createFoldersWithin (levels + 1) t above disk with
    | error x =>
      rw [hbelow] at h
      cases h
      have hmissing :=
        (missing_of_createFoldersWithin hbelow).resolve_left (Nat.succ_ne_zero levels)
      have hgrown := createFoldersWithin_along (levels + 1) t above disk
      rw [hbelow] at hgrown
      have hbefore : t.createFolder path = .error .notFound := by
        rcases t.createFolder_cases path disk with hsame | ⟨made, _, hok, _⟩
        · exact hsame.symm.trans hcreate
        · rcases above_of_createFolder hparent hok with hnone | hthere
          · exact absurd hnone hmissing.1
          · cases hmissing.2.symm.trans (isFolder_kept hgrown.keepsFolders hthere)
      have hnul : Char.ofNat 0 ∉ path.toList := by
        intro hc
        simp [createFolder, locate, hpath, hc, bind, Except.bind] at hbefore
      have hsame := ih hbelow
      rw [reached_above hmissing hnul hpath hparent,
        createFoldersWithin_above hpath hparent hbefore]
      cases hfirst : createFoldersWithin (levels + 1) t above with
      | ok made =>
        rw [hfirst] at hsame
        rw [created_of_reached hfirst hsame]
      | error x =>
        cases hagain : createFoldersWithin (levels + 1) left above with
        | ok made =>
          rw [hagain] at hsame
          cases hfirst.symm.trans (created_of_reached hagain hsame.symm)
        | error y =>
          rw [hfirst, hagain] at hsame
          exact hsame
    | ok between =>
      rw [hbelow] at h
      obtain ⟨rfl, _⟩ := ensureFolder_eq_error h
      have hthere := isFolder_of_createFoldersWithin hbelow
      have hfirst : createFoldersWithin (levels + 2) t path = left.ensureFolder path := by
        rcases t.createFolder_cases path disk with hsame | ⟨made, _, hok, _⟩
        · rw [createFoldersWithin_above hpath hparent (hsame.symm.trans hcreate),
            createFoldersWithin_sound hbelow]
          rfl
        · have habove := above_of_createFolder hparent hok
          rw [createFoldersWithin_of_isFolder levels disk habove] at hbelow
          obtain rfl : t = left := Except.ok.inj hbelow
          exact createFoldersWithin_here hpath (by simp [hok])
      have hsecond : createFoldersWithin (levels + 2) left path = left.ensureFolder path := by
        by_cases hagain : left.createFolder path = .error .notFound
        · rw [createFoldersWithin_above hpath hparent hagain,
            createFoldersWithin_of_isFolder levels {} hthere]
          rfl
        · exact createFoldersWithin_here hpath hagain
      rw [hfirst, hsecond]

theorem createFolders_sound (h : t.createFolders path disk = .ok made) :
    t.createFolders path = .ok made :=
  createFoldersWithin_sound h

theorem createFolders_resumed (h : t.createFolders path disk = .error (e, left)) :
    reached (left.createFolders path) = reached (t.createFolders path) :=
  createFoldersWithin_resumed h

/-! ## Paths that only lead down -/

/-- Creating the folder of a path that only leads down brings nothing new to stand at the path. -/
theorem standing?_createFolders (rooted : t.Rooted) (down : ".." ∉ Path.components path) :
    (reached (t.createFolders (Path.folder path) disk)).standing? path = t.standing? path := by
  have hdown : ".." ∉ Path.components (Path.folder path) := by
    rw [Path.components_folder]
    exact fun hm => down (List.dropLast_subset _ hm)
  have g := t.createFolders_along (Path.folder path) disk
  ext n
  refine ⟨fun hn => ?_, fun hn => g.standing? hn⟩
  rw [standing?_eq_some_iff] at hn ⊢
  obtain ⟨p, hp, hn, hend⟩ := hn
  obtain ⟨hne, hnul, -⟩ := locate_eq_ok_iff.mp hp
  have hpath : p = t.origin path ++ Path.components path := by
    rw [← placeOf_of_locate hp, placeOf_of_home g.home, placeOf, foldl_down down]
  have hold : t.node? p = some n := by
    by_cases named : Path.components path = []
    · have hstart : t.node? p = some .folder := by
        rw [hpath, named, List.append_nil]
        exact rooted.origin path
      rw [hstart, ← hn, g.kept hstart]
    rcases g.added hn with hold | ⟨_, names, hnames, hplace⟩
    · exact hold
    · -- A folder that was created is one of those above the path, so its place is shorter.
      have heq : Path.components path = names := by
        rw [hpath, origin_folder named, foldl_down fun hm => hdown (hnames.subset hm)] at hplace
        exact List.append_cancel_left hplace
      have hlength := hnames.length_le
      rw [← heq, Path.components_folder, List.length_dropLast] at hlength
      have := List.length_pos_of_ne_nil named
      omega
  refine ⟨p, locate_eq_ok_iff.mpr ⟨hne, hnul, ?_⟩, hold, hend⟩
  rw [hpath] at hold ⊢
  exact rooted.walk down hold

end ClusterDeploy.FileTree
