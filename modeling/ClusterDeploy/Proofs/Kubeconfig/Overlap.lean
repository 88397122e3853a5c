import ClusterDeploy.Proofs.Kubeconfig.Steps
import Mathlib
/-!
# No login is lost

However updates overlap, those of one location go one after the other: the one that has read a file
holds its lock until it has written it, so what it writes is the merge into what stands there. A
file at the location is never lost. Only where no file is yet, a path that leads through the
location itself may put a folder there, and then no update of the location goes through.
-/
namespace ClusterDeploy.Update

open FileTree (Spares KeepsFolders)

variable {u : Update} {place p : Place} {phase : Phase}

section States

variable {ι : Type} {updates : ι → Update} {before : FileTree} {s s' : State ι} {i j : ι}

/-! ## What holds between the steps -/

/-- A lock is held by one update at most, which is the last one that has taken it, and none takes a
lock twice. -/
structure Orderly (s : State ι) : Prop where
  exclusive : ∀ p i, s.holder p = some i ↔ (s.phase i).held? = some p
  last : ∀ p i, s.holder p = some i → (s.turns p).getLast? = some i
  past : ∀ p i, i ∈ s.turns p → (s.phase i).isAhead = false
  nodup : ∀ p, (s.turns p).Nodup

/-- Nothing stood at the place, and now a folder does that is on the way of an update. No login went
there. -/
structure Buried (updates : ι → Update) (before : FileTree) (s : State ι) (p : Place) : Prop where
  absent : before.node? p = none
  folder : s.files.node? p = some .folder
  unserved : s.served p = []
  through : ∃ i, before.Through (updates i).store.path p

/-- The place holds all logins that went there, merged in the order of the turns. -/
structure Filed (updates : ι → Update) (before : FileTree) (s : State ι) (p : Place) : Prop where
  content : s.files.configAt p = ((s.served p).map fun i => (updates i).login).foldl
    Kubeconfig.absorb (before.configAt p)
  empty : s.files.node? p = none → before.node? p = none ∧ s.served p = []

structure Sound (updates : ι → Update) (before : FileTree) (s : State ι) : Prop where
  orderly : Orderly s
  home : s.files.home = before.home
  stands : ∀ i, (updates i).Stands s.files (s.phase i)
  belongs : ∀ p i, i ∈ s.turns p → Path.endsInFolder (updates i).store.path = false →
    p = before.placeOf (updates i).store.path
  stored : ∀ i, (s.phase i).isStored = true → i ∈ s.turns (before.placeOf (updates i).store.path)
  content : ∀ p, Filed updates before s p ∨ Buried updates before s p

theorem sound_start (updates : ι → Update) (before : FileTree) :
    Sound updates before { files := before } where
  orderly := ⟨fun _ _ => iff_of_false nofun nofun, fun _ _ => nofun, fun _ _ => nofun,
    fun _ => List.nodup_nil⟩
  home := rfl
  stands _ := trivial
  belongs _ _ := nofun
  stored _ := nofun
  content _ := .inl ⟨rfl, fun h => ⟨h, rfl⟩⟩

theorem Orderly.not_mem_turns (h : Orderly s) (ahead : (s.phase i).isAhead = true) (p : Place) :
    i ∉ s.turns p := by
  intro hturn
  cases (h.past p i hturn).symm.trans ahead

theorem content_calm {p : Place} (h : Filed updates before s p ∨ Buried updates before s p)
    (home : s.files.home = before.home) (served : s'.served p = s.served p)
    (calm : (updates i).Calm p s.files s'.files) :
    Filed updates before s' p ∨ Buried updates before s' p := by
  rcases h with ⟨hcontent, hempty⟩ | ⟨habsent, hfolder, hunserved, hthrough⟩
  · rcases calm.spared.configAt with hsame | ⟨hnone, hfolder⟩
    · left
      refine ⟨by rw [hsame, served, hcontent], fun hnone => ?_⟩
      rw [served]
      apply hempty
      rcases calm.spared.node? with hsame | ⟨hbefore, -⟩
      · rw [← hsame, hnone]
      · exact hbefore
    · right
      obtain ⟨habsent, hunserved⟩ := hempty hnone
      exact ⟨habsent, hfolder, served.trans hunserved, i,
        FileTree.through_of_home home (calm.through hnone hfolder)⟩
  · exact .inr ⟨habsent, calm.spared.folders.folders hfolder, served.trans hunserved, hthrough⟩

theorem served_congr {p : Place} (turns : s'.turns p = s.turns p)
    (stored : ∀ i ∈ s.turns p, (s'.phase i).isStored = (s.phase i).isStored) :
    s'.served p = s.served p := by
  unfold State.served
  rw [turns]
  exact List.filter_congr stored

variable [DecidableEq ι]

open State

/-! ## The locks -/

theorem orderly_move (h : Orderly s) {files : FileTree}
    (held : phase.held? = (s.phase i).held?)
    (ahead : phase.isAhead = true → (s.phase i).isAhead = true) :
    Orderly (s.move i files phase) := by
  constructor
  · intro p j
    by_cases hj : j = i
    · subst hj
      rw [move_phase_self, held]
      exact h.exclusive p j
    · rw [move_phase_of_ne hj]
      exact h.exclusive p j
  · exact h.last
  · intro p j hturn
    by_cases hj : j = i
    · subst hj
      rw [move_phase_self]
      by_contra hahead
      have hbefore := h.past p j hturn
      rw [ahead (by simpa using hahead)] at hbefore
      cases hbefore
    · rw [move_phase_of_ne hj]
      exact h.past p j hturn
  · exact h.nodup

theorem orderly_take (h : Orderly s) (located : s.phase i = .located place)
    (free : s.holder place = none) : Orderly (s.take i place) := by
  have hfresh := h.not_mem_turns (i := i) (by rw [located]; rfl)
  constructor
  · intro p j
    rw [take_phase, take_holder]
    by_cases hj : j = i
    · subst hj
      rw [move_phase_self]
      by_cases hp : p = place
      · simp [hp, Phase.held?]
      · rw [if_neg hp, h.exclusive, located]
        simp [Phase.held?, Ne.symm hp]
    · rw [move_phase_of_ne hj]
      by_cases hp : p = place
      · subst hp
        rw [if_pos rfl, ← h.exclusive, free]
        simp [Ne.symm hj]
      · rw [if_neg hp]
        exact h.exclusive p j
  · intro p j hholder
    rw [take_holder] at hholder
    rw [take_turns]
    by_cases hp : p = place
    · rw [if_pos hp] at hholder ⊢
      rw [List.getLast?_concat, hholder]
    · rw [if_neg hp] at hholder ⊢
      exact h.last p j hholder
  · intro p j hturn
    rw [take_turns] at hturn
    rw [take_phase]
    by_cases hj : j = i
    · subst hj
      rw [move_phase_self]
      rfl
    · rw [move_phase_of_ne hj]
      split at hturn
      · exact h.past p j (by simpa [hj] using hturn)
      · exact h.past p j hturn
  · intro p
    rw [take_turns]
    split
    · rw [← List.concat_eq_append]
      exact List.Nodup.concat (hfresh p) (h.nodup p)
    · exact h.nodup p

theorem orderly_finish (h : Orderly s) (files : FileTree) (answer : Except Error String) :
    Orderly (s.finish i files answer) := by
  constructor
  · intro p j
    rw [finish_phase, finish_holder]
    by_cases hj : j = i
    · subst hj
      rw [move_phase_self]
      refine iff_of_false ?_ nofun
      split
      · nofun
      · assumption
    · rw [move_phase_of_ne hj, ← h.exclusive p j]
      by_cases hi : s.holder p = some i
      · rw [if_pos hi, hi]
        simp [Ne.symm hj]
      · rw [if_neg hi]
  · intro p j hholder
    rw [finish_holder] at hholder
    split at hholder
    · cases hholder
    · exact h.last p j hholder
  · intro p j hturn
    rw [finish_phase]
    by_cases hj : j = i
    · subst hj
      rw [move_phase_self]
      rfl
    · rw [move_phase_of_ne hj]
      exact h.past p j hturn
  · exact h.nodup

/-! ## The content of the files -/

theorem move_stored (files : FileTree) (h : phase.isStored = (s.phase i).isStored) (j : ι) :
    ((s.move i files phase).phase j).isStored = (s.phase j).isStored := by
  by_cases hj : j = i
  · subst hj
    rw [move_phase_self, h]
  · rw [move_phase_of_ne hj]

theorem stands_move (h : Sound updates before s) {files : FileTree}
    (calm : ∀ p, (updates i).Calm p s.files files) (stands : (updates i).Stands files phase)
    (j : ι) :
    (updates j).Stands files ((s.move i files phase).phase j) := by
  by_cases hj : j = i
  · subst hj
    rwa [move_phase_self]
  · rw [move_phase_of_ne hj]
    exact (h.stands j).later (calm []).spared.folders fun p _ _ _ => (calm p).spared

theorem sound_move (h : Sound updates before s) {files : FileTree}
    (calm : ∀ p, (updates i).Calm p s.files files) (held : phase.held? = (s.phase i).held?)
    (ahead : phase.isAhead = true → (s.phase i).isAhead = true)
    (stored : phase.isStored = (s.phase i).isStored) (stands : (updates i).Stands files phase) :
    Sound updates before (s.move i files phase) where
  orderly := orderly_move h.orderly held ahead
  home := (calm []).spared.folders.home.trans h.home
  stands := stands_move h calm stands
  belongs := h.belongs
  stored j hj := h.stored j ((move_stored files stored j).symm.trans hj)
  content p := content_calm (h.content p) h.home
    (served_congr rfl fun j _ => move_stored files stored j) (calm p)

theorem sound_take (h : Sound updates before s) (located : s.phase i = .located place)
    (free : s.holder place = none) : Sound updates before (s.take i place) := by
  have here : (updates i).At s.files place := by
    have := h.stands i
    rwa [located] at this
  have hstored (j : ι) : ((s.take i place).phase j).isStored = (s.phase j).isStored :=
    move_stored s.files (by rw [located]; rfl) j
  constructor
  case orderly => exact orderly_take h.orderly located free
  case home => exact h.home
  case stands => exact stands_move h (fun _ => .refl) here
  case belongs =>
    intro p j hturn hend
    rw [take_turns] at hturn
    split at hturn
    · next hp =>
      rcases List.mem_append.mp hturn with hturn | hturn
      · exact h.belongs p j hturn hend
      · obtain rfl := List.mem_singleton.mp hturn
        rw [hp, here.leads hend, FileTree.placeOf_of_home h.home]
    · exact h.belongs p j hturn hend
  case stored =>
    intro j hj
    have hturn := h.stored j ((hstored j).symm.trans hj)
    rw [take_turns]
    split
    · exact List.mem_append_left _ hturn
    · exact hturn
  case content =>
    intro p
    refine content_calm (i := i) (h.content p) h.home ?_ .refl
    unfold served
    rw [take_turns, List.filter_congr fun j _ => hstored j]
    split
    · rw [List.filter_append]
      simp [located, Phase.isStored]
    · rfl

theorem sound_finish (h : Sound updates before s) {files : FileTree} {answer : Except Error String}
    (calm : ∀ p, (updates i).Calm p s.files files)
    (stored : (Phase.ended answer).isStored = (s.phase i).isStored)
    (stands : (updates i).Stands files (.ended answer)) :
    Sound updates before (s.finish i files answer) where
  orderly := orderly_finish h.orderly files answer
  home := (calm []).spared.folders.home.trans h.home
  stands := stands_move h calm stands
  belongs := h.belongs
  stored j hj := h.stored j ((move_stored files stored j).symm.trans hj)
  content p := content_calm (h.content p) h.home
    (served_congr rfl fun j _ => move_stored files stored j) (calm p)

theorem served_write (h : Orderly s) {files : FileTree} (held : s.holder p = some i)
    (unstored : (s.phase i).isStored = false) (stored : phase.isStored = true) :
    (s.move i files phase).served p = s.served p ++ [i] := by
  obtain ⟨turns, hturns⟩ := List.getLast?_eq_some_iff.mp (h.last p i held)
  have hnodup := h.nodup p
  rw [hturns] at hnodup
  have hfresh : i ∉ turns := by
    intro hi
    exact (List.nodup_append.mp hnodup).2.2 i hi i (List.mem_singleton_self i) rfl
  have hothers : turns.filter (fun j => ((s.move i files phase).phase j).isStored) =
      turns.filter fun j => (s.phase j).isStored := by
    apply List.filter_congr
    intro j hj
    rw [move_phase_of_ne]
    rintro rfl
    exact hfresh hj
  unfold served
  change (s.turns p).filter (fun j => ((s.move i files phase).phase j).isStored) = _
  rw [hturns, List.filter_append, List.filter_append, hothers]
  simp [move_phase_self, stored, unstored]

theorem sound_write (h : Sound updates before s) {config : Kubeconfig} {files : FileTree}
    (merged : s.phase i = .merged place config)
    (replaced : (updates i).store.write config s.files = (.ok (), files)) :
    Sound updates before (s.move i files (.written place)) := by
  have hstands := h.stands i
  rw [merged] at hstands
  obtain ⟨here, found, hsees, rfl⟩ := hstands
  obtain ⟨htarget, hwritten⟩ := KubeconfigStore.write_eq_ok here.folder replaced
  obtain ⟨-, hfree, hend⟩ := FileTree.target_eq_ok htarget
  rw [← here.leads hend] at htarget hfree hwritten
  have hheld : s.holder place = some i := (h.orderly.exclusive place i).mpr (by rw [merged]; rfl)
  have hplace : place = before.placeOf (updates i).store.path := by
    rw [here.leads hend, FileTree.placeOf_of_home h.home]
  have hkept : KeepsFolders s.files files := by
    rw [hwritten]
    exact FileTree.keepsFolders_put hfree
  have helsewhere (p : Place) (hp : place ≠ p) : (updates i).Calm p s.files files := by
    rw [hwritten]
    exact calm_put hp hfree
  constructor
  case orderly =>
    refine orderly_move h.orderly ?_ nofun
    rw [merged]
    rfl
  case home => exact hkept.home.trans h.home
  case stands =>
    intro j
    by_cases hj : j = i
    · subst hj
      rw [move_phase_self]
      exact ⟨here.later hkept, hend⟩
    · rw [move_phase_of_ne hj]
      refine (h.stands j).later hkept fun p hp _ _ => (helsewhere p ?_).spared
      rintro rfl
      have := (h.orderly.exclusive place j).mpr hp
      rw [hheld] at this
      exact hj (Option.some.inj this).symm
  case belongs => exact h.belongs
  case stored =>
    intro j hj
    by_cases hji : j = i
    · subst hji
      rw [← hplace]
      exact List.mem_of_getLast? (h.orderly.last place j hheld)
    · rw [move_phase_of_ne hji] at hj
      exact h.stored j hj
  case content =>
    intro p
    by_cases hp : place = p
    · subst hp
      left
      have hnode : files.node? place = KubeconfigStore.stored (found.merge (updates i).login) := by
        rw [hwritten, FileTree.node?_put (FileTree.ne_root hfree), if_pos rfl]
        rfl
      have hserved : (s.move i files (.written place)).served place = s.served place ++ [i] :=
        served_write h.orderly hheld (by rw [merged]; rfl) rfl
      constructor
      · rcases h.content place with hfiled | hburied
        · rw [hserved, List.map_append, List.foldl_append, ← hfiled.content, hsees place htarget]
          exact congrArg Kubeconfig.inNode hnode
        · exact absurd hburied.folder hfree
      · intro hnone
        cases hnode.symm.trans hnone
    · refine content_calm (h.content p) h.home (served_congr rfl fun j hj => ?_) (helsewhere p hp)
      rw [move_phase_of_ne]
      rintro rfl
      exact hp (hplace.trans (h.belongs p j hj hend).symm)

theorem sound_perform (h : Sound updates before s) (action : Action ι) :
    Sound updates before (s.perform updates action) := by
  rcases perform_cases updates s action with hsame | ⟨i, hmoves⟩
  · rwa [hsame]
  generalize s.perform updates action = s' at hmoves ⊢
  have hstands := h.stands i
  cases hmoves with
  | arrive hphase hlocated =>
    exact sound_move h (fun _ => calm_of_location hlocated) (by rw [hphase]; rfl)
      (by rw [hphase]; exact id) (by rw [hphase]; rfl) (at_of_location hlocated)
  | take hphase hfree => exact sound_take h hphase hfree
  | enter hphase htouched =>
    rw [hphase] at hstands
    have hcalm (p : Place) := calm_of_touch (u := updates i) (p := p) htouched
    exact sound_move h hcalm (by rw [hphase]; rfl) nofun (by rw [hphase]; rfl)
      (At.later hstands (hcalm []).spared.folders)
  | read hphase hloaded =>
    rw [hphase] at hstands
    exact sound_move h (fun _ => .refl) (by rw [hphase]; rfl) nofun (by rw [hphase]; rfl)
      ⟨hstands, sees_of_load hloaded⟩
  | merge hphase =>
    rw [hphase] at hstands
    exact sound_move h (fun _ => .refl) (by rw [hphase]; rfl) nofun (by rw [hphase]; rfl)
      ⟨hstands.1, _, hstands.2, rfl⟩
  | write hphase hreplaced => exact sound_write h hphase hreplaced
  | succeed hphase =>
    rw [hphase] at hstands
    exact sound_finish h (fun _ => .refl) (by rw [hphase]; rfl) fun _ _ => hstands.2
  | fail hopen hcalm =>
    refine sound_finish h hcalm ?_ nofun
    cases hphase : s.phase i with
    | written place =>
      rw [hphase] at hopen
      cases hopen
    | ended answer =>
      rw [hphase] at hopen
      cases hopen
    | _ => rfl

theorem sound_run (h : Sound updates before s) (actions : List (Action ι)) :
    Sound updates before (s.run updates actions) := by
  induction actions generalizing s with
  | nil => exact h
  | cons action more ih => exact ih (sound_perform h action)

/-- No login is lost, whatever the order of the steps is and whichever updates fail. A place holds
the logins of exactly the updates that went through there, each merged once, in the order in which
the updates held the lock. All names of these logins are there. The only exception is a place where
nothing stood at the start and that the path of an update leads through, as `config/../config` does:
a folder may be put there, and then no update of the place goes through. -/
theorem no_login_lost (updates : ι → Update) (actions : List (Action ι)) (files : FileTree)
    (p : Place) :
    let last := State.run updates { files } actions
    let logins := (last.served p).map fun i => (updates i).login
    (last.served p).Nodup ∧
    (∀ i, i ∈ last.served p ↔
      (last.phase i).isStored = true ∧ files.placeOf (updates i).store.path = p) ∧
    (¬ Buried updates files last p →
      last.files.configAt p = logins.foldl Kubeconfig.absorb (files.configAt p) ∧
      ∀ config, files.configAt p = some config →
        (∀ more, more ≠ [] → more <+: logins → (more.foldl Kubeconfig.merge config).ReadsBack) →
        last.files.configAt p = some (logins.foldl Kubeconfig.merge config) ∧
        ∀ login ∈ logins, (logins.foldl Kubeconfig.merge config).Includes login) := by
  intro last logins
  have hsound : Sound updates files last := sound_run (sound_start updates files) actions
  refine ⟨(hsound.orderly.nodup p).filter _, fun i => ?_, fun hunburied => ?_⟩
  · constructor
    · intro hi
      obtain ⟨hturn, hstored⟩ := List.mem_filter.mp hi
      exact ⟨hstored, (hsound.belongs p i hturn ((hsound.stands i).ends hstored)).symm⟩
    · rintro ⟨hstored, rfl⟩
      exact List.mem_filter.mpr ⟨hsound.stored i hstored, hstored⟩
  · have hcontent := ((hsound.content p).resolve_right hunburied).content
    refine ⟨hcontent, fun config hconfig hreads => ⟨?_, fun login => Kubeconfig.includes_foldl⟩⟩
    rw [hcontent, hconfig]
    exact Kubeconfig.foldl_absorb hreads

end States

def crossing : Bool → Update
  | true => ⟨⟨"sub/../config"⟩, { contexts := [⟨"web", none⟩] }⟩
  | false => ⟨⟨"config"⟩, { contexts := [⟨"api", none⟩] }⟩

def crossings : List (Action Bool) :=
  (List.replicate 12 [.advance true, .advance false]).flatten

def crossed (contexts : List String) : Kubeconfig where
  contexts := contexts.map fun name => ⟨name, none⟩
  kind := some "Config"
  apiVersion := some "v1"

theorem crossed_readsBack : (crossed ["web"]).ReadsBack ∧ (crossed ["web", "api"]).ReadsBack := by
  decide +kernel

theorem no_login_lost_crossing :
    let last := State.run crossing { files := {} } crossings
    last.served ["config"] = [true, false] ∧
      last.files.configAt ["config"] = some (crossed ["web", "api"]) := by
  intro last
  have hserved : last.served ["config"] = [true, false] := by decide +kernel
  have hunburied : ¬ Buried crossing {} last ["config"] := by
    intro h
    cases hserved.symm.trans h.unserved
  have hlogins : (last.served ["config"]).map (fun i => (crossing i).login) =
      [(crossing true).login, (crossing false).login] := by
    rw [hserved]
    rfl
  have hreads : ∀ more, more ≠ [] → more <+: [(crossing true).login, (crossing false).login] →
      (more.foldl Kubeconfig.merge {}).ReadsBack := by
    intro more hsome hmore
    rcases List.prefix_cons_iff.mp hmore with rfl | ⟨second, rfl, hsecond⟩
    · exact absurd rfl hsome
    rcases List.prefix_cons_iff.mp hsecond with rfl | ⟨third, rfl, hthird⟩
    · exact crossed_readsBack.1
    · obtain rfl := List.prefix_nil.mp hthird
      exact crossed_readsBack.2
  obtain ⟨-, -, hmerged⟩ := no_login_lost crossing crossings {} ["config"]
  obtain ⟨-, hfolded⟩ := hmerged hunburied
  obtain ⟨hcontent, -⟩ := hfolded {} rfl (by rwa [hlogins])
  rw [hlogins] at hcontent
  exact ⟨hserved, hcontent⟩

def winding : Unit → Update := fun _ => ⟨⟨"config/../config"⟩, {}⟩

/-- Where no file is yet, the folder on the way takes its place: no update goes through, and the
content, which was empty, cannot be read any more. -/
theorem folder_takes_place :
    let last := State.run winding { files := {} } (List.replicate 7 (.advance ()))
    (∃ e, last.phase () = .ended (.error e)) ∧ ({} : FileTree).configAt ["config"] = some {} ∧
      (last.files.configAt ["config"]).isNone = true := by
  exact ⟨⟨_, rfl⟩, rfl, by decide +kernel⟩

end ClusterDeploy.Update
