import ClusterDeploy.Files.Tree
import ClusterDeploy.Proofs.Files.Path
import Mathlib.Data.List.Induction
/-!
# What file operations keep

A tree is seen through what stands at its paths. The place of a path can be told from its text,
whether the path can be followed or not. Most operations only add to a tree: what stood somewhere
stays there.
-/
namespace ClusterDeploy.FileTree

variable {t t' t'' : FileTree} {p q : Place} {n : FileNode} {path : String}

@[simp] theorem node?_root : t.node? [] = some .folder := rfl

theorem node?_put (h : p ≠ []) : (t.put p n).node? q = if q = p then some n else t.node? q := by
  unfold node? put
  by_cases hq : q = []
  · subst hq
    simp [h.symm]
  · by_cases hqp : q = p
    · subst hqp
      simp [hq]
    · have hfind : (t.entries.filter fun e => e.1 != p).find? (fun e => e.1 == q) =
          t.entries.find? fun e => e.1 == q := by
        rw [List.find?_filter]
        congr 1
        funext e
        by_cases he : e.1 = q <;> simp [he, hqp]
      simp [hq, hqp, hfind, Ne.symm hqp]

theorem ne_root (h : t.node? p ≠ some .folder) : p ≠ [] := by
  rintro rfl
  exact h node?_root

/-! ## Places -/

structure KeepsFolders (t t' : FileTree) : Prop where
  home : t'.home = t.home
  folders : ∀ {p}, t.node? p = some .folder → t'.node? p = some .folder

theorem KeepsFolders.refl (t : FileTree) : KeepsFolders t t := ⟨rfl, id⟩

theorem KeepsFolders.trans (h : KeepsFolders t t') (k : KeepsFolders t' t'') :
    KeepsFolders t t'' :=
  ⟨k.home.trans h.home, fun hp => k.folders (h.folders hp)⟩

/-- What is put in a place where no folder stands leaves the folders alone. -/
theorem keepsFolders_put (h : t.node? p ≠ some .folder) : KeepsFolders t (t.put p n) := by
  refine ⟨rfl, fun {q} hq => ?_⟩
  have hne : q ≠ p := by
    rintro rfl
    exact h hq
  rw [node?_put (ne_root h), if_neg hne, hq]

theorem walk_kept (k : KeepsFolders t t') {start : Place} {names : List String}
    (h : t.walk start names = .ok p) : t'.walk start names = .ok p := by
  induction names generalizing start with
  | nil => exact h
  | cons name more ih =>
    rw [walk] at h ⊢
    cases hn : t.node? start with
    | none => simp [hn] at h
    | some node =>
      cases node with
      | file content => simp [hn] at h
      | folder =>
        rw [hn] at h
        rw [k.folders hn]
        exact ih h

theorem walk_append (start : Place) (names more : List String) :
    t.walk start (names ++ more) = (t.walk start names).bind fun p => t.walk p more := by
  induction names generalizing start with
  | nil => rfl
  | cons name names ih =>
    rw [List.cons_append, walk, walk]
    cases t.node? start with
    | none => rfl
    | some node =>
      cases node with
      | file content => rfl
      | folder => exact ih _

def origin (t : FileTree) (path : String) : Place := if Path.isAbsolute path then [] else t.home

theorem origin_folder (h : Path.components path ≠ []) :
    t.origin (Path.folder path) = t.origin path := by
  rw [origin, Path.isAbsolute_folder h, origin]

theorem locate_eq_ok_iff : t.locate path = .ok p ↔
    path ≠ "" ∧ Char.ofNat 0 ∉ path.toList ∧
      t.walk (t.origin path) (Path.components path) = .ok p := by
  unfold locate origin
  split
  · next h => simp_all
  · next h =>
    split
    · next hz => simp_all
    · next hz => simp_all

theorem locate_eq (hpath : path ≠ "") (hnul : Char.ofNat 0 ∉ path.toList) :
    t.locate path = t.walk (t.origin path) (Path.components path) := by
  simp [locate, origin, hpath, hnul]

theorem locate_kept (k : KeepsFolders t t') (h : t.locate path = .ok p) :
    t'.locate path = .ok p := by
  rw [locate_eq_ok_iff] at h ⊢
  refine ⟨h.1, h.2.1, ?_⟩
  have horigin : t'.origin path = t.origin path := by rw [origin, k.home, origin]
  rw [horigin]
  exact walk_kept k h.2.2

def down (p : Place) (name : String) : Place := if name = ".." then p.dropLast else p ++ [name]

def placeOf (t : FileTree) (path : String) : Place :=
  (Path.components path).foldl down (t.origin path)

theorem foldl_of_walk {start : Place} {names : List String} (h : t.walk start names = .ok p) :
    names.foldl down start = p := by
  induction names generalizing start with
  | nil => exact Except.ok.inj h
  | cons name more ih =>
    rw [walk] at h
    split at h
    · cases h
    · cases h
    · exact ih h

theorem placeOf_of_locate (h : t.locate path = .ok p) : t.placeOf path = p := by
  obtain ⟨_, _, hwalk⟩ := locate_eq_ok_iff.mp h
  exact foldl_of_walk hwalk

theorem placeOf_of_home (h : t'.home = t.home) (path : String) :
    t'.placeOf path = t.placeOf path := by
  rw [placeOf, placeOf, origin, h, origin]

theorem find_eq_ok_iff : t.find path = .ok (p, n) ↔
    t.locate path = .ok p ∧ t.node? p = some n ∧
      (Path.endsInFolder path = true → n = .folder) := by
  unfold find
  cases hl : t.locate path with
  | error e => simp [bind, Except.bind]
  | ok q =>
    simp only [bind, Except.bind, Except.ok.injEq]
    cases hq : t.node? q with
    | none =>
      simp only [reduceCtorEq, false_iff]
      rintro ⟨rfl, h, _⟩
      simp [hq] at h
    | some node =>
      cases node with
      | folder =>
        constructor
        · rintro ⟨⟩
          exact ⟨rfl, hq, fun _ => rfl⟩
        · rintro ⟨rfl, h, _⟩
          rw [hq] at h
          cases h
          rfl
      | file content =>
        cases he : Path.endsInFolder path
        · simp only [Bool.false_eq_true, if_false, Except.ok.injEq, Prod.mk.injEq, false_implies,
            and_true]
          constructor
          · rintro ⟨rfl, rfl⟩
            exact ⟨rfl, hq⟩
          · rintro ⟨rfl, h⟩
            rw [hq] at h
            exact ⟨rfl, Option.some.inj h⟩
        · simp only [if_true, reduceCtorEq, true_implies, false_iff]
          rintro ⟨rfl, h, rfl⟩
          simp [hq] at h

/-- What stands at a path. Nothing does when the path cannot be followed. -/
def standing? (t : FileTree) (path : String) : Option FileNode :=
  (t.find path).toOption.map (·.2)

theorem standing?_eq_some_iff : t.standing? path = some n ↔
    ∃ p, t.locate path = .ok p ∧ t.node? p = some n ∧
      (Path.endsInFolder path = true → n = .folder) := by
  unfold standing?
  constructor
  · intro h
    obtain ⟨⟨p, m⟩, hfind, rfl⟩ := Option.map_eq_some_iff.mp h
    cases hr : t.find path with
    | error e => simp [hr, Except.toOption] at hfind
    | ok r =>
      rw [hr] at hfind
      cases hfind
      exact ⟨p, find_eq_ok_iff.mp hr⟩
  · rintro ⟨p, h⟩
    rw [find_eq_ok_iff.mpr h]
    rfl

theorem standing?_of_locate (hlocate : t.locate path = .ok p)
    (hend : Path.endsInFolder path = false) : t.standing? path = t.node? p := by
  ext n
  rw [standing?_eq_some_iff]
  constructor
  · rintro ⟨q, hq, hn, -⟩
    obtain rfl : p = q := Except.ok.inj (hlocate.symm.trans hq)
    exact hn
  · intro hn
    exact ⟨p, hlocate, hn, by simp [hend]⟩

theorem isFolder_iff : t.isFolder path = true ↔ t.standing? path = some .folder := by
  unfold isFolder standing?
  cases t.find path with
  | error e => simp [Except.toOption]
  | ok r => obtain ⟨p, _ | c⟩ := r <;> simp [Except.toOption]

theorem isFolder_kept (k : KeepsFolders t t') (h : t.isFolder path = true) :
    t'.isFolder path = true := by
  rw [isFolder_iff, standing?_eq_some_iff] at h ⊢
  obtain ⟨p, hp, hn, hend⟩ := h
  exact ⟨p, locate_kept k hp, k.folders hn, hend⟩

theorem target_eq_ok (h : t.target path = .ok p) :
    t.locate path = .ok p ∧ t.node? p ≠ some .folder ∧ Path.endsInFolder path = false := by
  unfold target at h
  cases hl : t.locate path with
  | error e => simp [hl, bind, Except.bind] at h
  | ok q =>
    simp only [hl, bind, Except.bind] at h
    cases hn : t.node? q with
    | none =>
      cases he : Path.endsInFolder path with
      | true => simp [hn, he] at h
      | false =>
        cases hparent : t.node? q.dropLast with
        | none => simp [hn, he, hparent] at h
        | some node =>
          cases node with
          | file content => simp [hn, he, hparent] at h
          | folder =>
            simp only [hn, he, hparent, Bool.false_eq_true, if_false, Except.ok.injEq] at h
            subst h
            exact ⟨rfl, by simp [hn], rfl⟩
    | some node =>
      cases node with
      | folder => simp [hn] at h
      | file content =>
        cases he : Path.endsInFolder path with
        | true => simp [hn, he] at h
        | false =>
          simp only [hn, he, Bool.false_eq_true, if_false, Except.ok.injEq] at h
          subst h
          exact ⟨rfl, by simp [hn], rfl⟩

/-- A file put where a path leads stands at that path. -/
theorem standing?_put_target {content : List UInt8} (h : t.target path = .ok p) :
    (t.put p (.file content)).standing? path = some (.file content) := by
  obtain ⟨hlocate, hfree, hend⟩ := target_eq_ok h
  rw [standing?_eq_some_iff]
  refine ⟨p, locate_kept (keepsFolders_put hfree) hlocate, ?_, by simp [hend]⟩
  rw [node?_put (ne_root hfree), if_pos rfl]

/-! ## Growth -/

/-- The second tree has everything of the first one, and besides that only what is allowed. -/
structure Grows (new : Place → FileNode → Prop) (t t' : FileTree) : Prop where
  home : t'.home = t.home
  kept : ∀ {p n}, t.node? p = some n → t'.node? p = some n
  added : ∀ {p n}, t'.node? p = some n → t.node? p = some n ∨ new p n

variable {new : Place → FileNode → Prop}

theorem Grows.refl (t : FileTree) : Grows new t t := ⟨rfl, id, .inl⟩

theorem Grows.trans (h : Grows new t t') (k : Grows new t' t'') : Grows new t t'' := by
  refine ⟨k.home.trans h.home, fun hp => k.kept (h.kept hp), fun hp => ?_⟩
  rcases k.added hp with hp | hp
  · exact h.added hp
  · exact .inr hp

theorem Grows.mono {more : Place → FileNode → Prop} (h : Grows new t t')
    (hmore : ∀ p n, new p n → more p n) : Grows more t t' :=
  ⟨h.home, h.kept, fun hp => (h.added hp).imp_right (hmore _ _)⟩

theorem Grows.keepsFolders (h : Grows new t t') : KeepsFolders t t' := ⟨h.home, h.kept⟩

theorem grows_put (free : t.node? p = none) (h : new p n) : Grows new t (t.put p n) := by
  have hfree : t.node? p ≠ some .folder := by simp [free]
  have hp : p ≠ [] := ne_root hfree
  refine ⟨rfl, fun {q m} hq => ?_, fun {q m} hq => ?_⟩
  · have hne : q ≠ p := by
      rintro rfl
      simp [free] at hq
    rw [node?_put hp, if_neg hne, hq]
  · rw [node?_put hp] at hq
    split at hq
    · next heq =>
      cases hq
      exact .inr (heq ▸ h)
    · exact .inl hq

theorem Grows.standing? (g : Grows new t t') (h : t.standing? path = some n) :
    t'.standing? path = some n := by
  rw [standing?_eq_some_iff] at h ⊢
  obtain ⟨p, hp, hn, hend⟩ := h
  exact ⟨p, locate_kept g.keepsFolders hp, g.kept hn, hend⟩

/-- Where only folders are added, the files are the same ones. -/
theorem Grows.file_iff {content : List UInt8} (g : Grows (fun _ n => n = .folder) t t') :
    t'.node? p = some (.file content) ↔ t.node? p = some (.file content) := by
  refine ⟨fun h => ?_, g.kept⟩
  rcases g.added h with h | h
  · exact h
  · cases h

/-! ## Paths that only lead down -/

theorem walk_concat {start : Place} {names : List String} {name : String}
    (h : t.walk start (names ++ [name]) = .ok p) :
    ∃ above, t.walk start names = .ok above ∧ t.node? above = some .folder ∧
      p = if name = ".." then above.dropLast else above ++ [name] := by
  rw [walk_append] at h
  cases hw : t.walk start names with
  | error e => simp [hw, Except.bind] at h
  | ok above =>
    refine ⟨above, rfl, ?_⟩
    simp only [hw, Except.bind, walk] at h
    cases hn : t.node? above with
    | none => simp [hn] at h
    | some node =>
      cases node with
      | file content => simp [hn] at h
      | folder =>
        simp only [hn, Except.ok.injEq] at h
        exact ⟨rfl, h.symm⟩

theorem foldl_down {names : List String} (down : ".." ∉ names) (start : Place) :
    names.foldl FileTree.down start = start ++ names := by
  induction names generalizing start with
  | nil => exact (List.append_nil start).symm
  | cons name more ih =>
    obtain ⟨hname, hmore⟩ := not_or.mp fun h => down (List.mem_cons.mpr h)
    rw [List.foldl_cons, FileTree.down, if_neg (Ne.symm hname), ih hmore, List.append_assoc,
      List.singleton_append]

/-- Whatever stands somewhere stands in a folder, and the home is a folder. -/
structure Rooted (t : FileTree) : Prop where
  home : t.node? t.home = some .folder
  above : ∀ {p n}, t.node? p = some n → t.node? p.dropLast = some .folder

theorem Rooted.origin (rooted : t.Rooted) (path : String) :
    t.node? (t.origin path) = some .folder := by
  unfold FileTree.origin
  split
  · exact node?_root
  · exact rooted.home

theorem Rooted.walk {start : Place} {names : List String} (rooted : t.Rooted)
    (down : ".." ∉ names) (h : t.node? (start ++ names) = some n) :
    t.walk start names = .ok (start ++ names) := by
  induction names using List.reverseRecOn generalizing n with
  | nil => simp [FileTree.walk]
  | append_singleton names name ih =>
    simp only [List.mem_append, List.mem_singleton, not_or] at down
    have habove : t.node? (start ++ names) = some .folder := by
      have := rooted.above h
      rwa [← List.append_assoc, List.dropLast_concat] at this
    rw [walk_append, ih down.1 habove]
    simp [Except.bind, FileTree.walk, habove, Ne.symm down.2]

theorem isFolder_folder (named : Path.components path ≠ []) (h : t.locate path = .ok p) :
    t.isFolder (Path.folder path) = true := by
  obtain ⟨_, hnul, hwalk⟩ := locate_eq_ok_iff.mp h
  rw [← List.dropLast_append_getLast named] at hwalk
  obtain ⟨above, hw, habove, -⟩ := walk_concat hwalk
  rw [isFolder_iff, standing?_eq_some_iff]
  refine ⟨above, locate_eq_ok_iff.mpr ⟨Path.folder_ne_empty path, ?_, ?_⟩, habove, fun _ => rfl⟩
  · intro hc
    rcases Path.mem_folder hc with hc | hc | hc
    · exact hnul hc
    · cases hc
    · cases hc
  · rw [origin_folder named, Path.components_folder, hw]

theorem isFolder_of_file {content : List UInt8} (h : t.standing? path = some (.file content)) :
    t.isFolder (Path.folder path) = true := by
  rw [standing?_eq_some_iff] at h
  obtain ⟨p, hp, hn, hend⟩ := h
  have hfile : Path.endsInFolder path = false := by
    by_contra hfolder
    cases hend (by simpa using hfolder)
  obtain ⟨name, -, -, hcomponents⟩ := Path.fileName?_of_file hfile
  exact isFolder_folder (by simp [hcomponents]) hp

theorem locate_of_isFolder {name : String} (hempty : path ≠ "") (hnul : Char.ofNat 0 ∉ path.toList)
    (hdots : name ≠ "..")
    (hcomponents : Path.components path = Path.components (Path.folder path) ++ [name])
    (folder : t.isFolder (Path.folder path) = true) :
    ∃ above, t.node? above = some .folder ∧ t.locate path = .ok (above ++ [name]) := by
  obtain ⟨above, hlocate, habove, -⟩ := standing?_eq_some_iff.mp (isFolder_iff.mp folder)
  refine ⟨above, habove, locate_eq_ok_iff.mpr ⟨hempty, hnul, ?_⟩⟩
  have hwalk := (locate_eq_ok_iff.mp hlocate).2.2
  rw [origin_folder (by simp [hcomponents])] at hwalk
  rw [hcomponents, walk_append, hwalk]
  change t.walk above [name] = _
  rw [walk, habove, if_neg hdots]
  rfl

theorem target_of_later (k : KeepsFolders t t') (folder : t.isFolder (Path.folder path) = true)
    (h : t'.target path = .ok p) : t.target path = .ok p := by
  obtain ⟨hlater, hfree, hend⟩ := target_eq_ok h
  obtain ⟨hempty, hnul, -⟩ := locate_eq_ok_iff.mp hlater
  obtain ⟨name, -, hdots, hcomponents⟩ := Path.fileName?_of_file hend
  obtain ⟨above, habove, hlocate⟩ := locate_of_isFolder hempty hnul hdots hcomponents folder
  obtain rfl : above ++ [name] = p := Except.ok.inj ((locate_kept k hlocate).symm.trans hlater)
  unfold target
  rw [hlocate]
  cases hn : t.node? (above ++ [name]) with
  | none => simp [bind, Except.bind, hn, hend, habove]
  | some node =>
    cases node with
    | folder => exact absurd (k.folders hn) hfree
    | file content => simp [bind, Except.bind, hn, hend]

/-! ## Reading -/

theorem exists?_eq : t.exists? path = (t.standing? path).isSome := by
  rw [exists?, standing?, Option.isSome_map]

theorem find_of_standing (h : t.standing? path = some n) : ∃ p, t.find path = .ok (p, n) := by
  obtain ⟨p, hp⟩ := standing?_eq_some_iff.mp h
  exact ⟨p, find_eq_ok_iff.mpr hp⟩

theorem read_of_file {content : List UInt8} (h : t.standing? path = some (.file content)) :
    t.read path = .ok content := by
  obtain ⟨p, hp⟩ := find_of_standing h
  simp [read, hp, bind, Except.bind]

theorem read_of_folder (h : t.standing? path = some .folder) :
    t.read path = .error .isADirectory := by
  obtain ⟨p, hp⟩ := find_of_standing h
  simp [read, hp, bind, Except.bind]

theorem target_of_file {content : List UInt8} (h : t.standing? path = some (.file content)) :
    ∃ p, t.target path = .ok p := by
  rw [standing?_eq_some_iff] at h
  obtain ⟨p, hp, hn, hend⟩ := h
  have hfile : Path.endsInFolder path = false := by
    by_contra hfolder
    cases hend (by simpa using hfolder)
  exact ⟨p, by simp [target, hp, hn, hfile, bind, Except.bind]⟩

end ClusterDeploy.FileTree
