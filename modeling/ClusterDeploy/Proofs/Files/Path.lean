import ClusterDeploy.Files.Path
import ClusterDeploy.Proofs.Text.Pieces
/-!
# What paths name

The text operations on paths, said about the components a path walks through: the parent and the
folder drop the last component, a suffix goes to the last name.
-/
namespace ClusterDeploy.Path
open Text

def naming (pieces : List (List Char)) : List (List Char) := pieces.filter fun c => !isIdle c

theorem components_eq (path : String) :
    components path = (naming (splitAt '/' path.toList)).map String.ofList := rfl

theorem dropIdleEnd_eq (pieces : List (List Char)) :
    dropIdleEnd pieces = pieces.rdropWhile isIdle := by
  induction pieces with
  | nil => rfl
  | cons c rest ih =>
    rw [dropIdleEnd, rdropWhile_cons, ih]
    cases rest.rdropWhile isIdle <;> rfl

theorem naming_dropIdleEnd (pieces : List (List Char)) :
    naming (dropIdleEnd pieces) = naming pieces := by
  have hsplit := List.rdropWhile_append_rtakeWhile (p := isIdle) (l := pieces)
  have hidle : naming (pieces.rtakeWhile isIdle) = [] := by
    simp only [naming, List.filter_eq_nil_iff, Bool.not_eq_true, Bool.not_eq_false']
    exact fun piece h => List.mem_rtakeWhile_imp h
  calc naming (dropIdleEnd pieces)
      = naming (pieces.rdropWhile isIdle) ++ naming (pieces.rtakeWhile isIdle) := by
        rw [dropIdleEnd_eq, hidle, List.append_nil]
    _ = naming pieces := by rw [naming, naming, ← List.filter_append, hsplit, naming]

/-- Whatever the kept pieces end in names something. -/
theorem naming_dropLast (pieces : List (List Char)) :
    naming (dropIdleEnd pieces).dropLast = (naming pieces).dropLast := by
  rw [← naming_dropIdleEnd pieces, dropIdleEnd_eq]
  by_cases h : pieces.rdropWhile isIdle = []
  · simp [h, naming]
  · have hlast := List.rdropWhile_last_not isIdle pieces h
    conv_rhs => rw [← List.dropLast_append_getLast h]
    simp [naming, List.filter_append, hlast]

theorem naming_drop_bodyStart (cs : List Char) :
    naming (splitAt '/' (cs.drop (bodyStart cs))) = naming (splitAt '/' cs) := by
  fun_cases bodyStart cs with
  | case1 rest => simp [splitAt, naming, isIdle]
  | case2 => rfl
  | case3 rest => simp [splitAt, naming, isIdle]
  | case4 => rfl

theorem naming_join {cs : List Char} {pieces : List (List Char)}
    (h : pieces <+: splitAt '/' cs) :
    naming (splitAt '/' (joinWith '/' pieces)) = naming pieces := by
  cases pieces with
  | nil => rfl
  | cons piece more =>
    rw [splitAt_joinWith (fun p hp => splitAt_pieces (h.subset hp)) (List.cons_ne_nil _ _)]

/-- A dot in front of an empty first piece names as little as that piece. -/
theorem naming_dot_join {cs : List Char} {pieces : List (List Char)}
    (h : pieces <+: [] :: splitAt '/' cs) :
    naming (splitAt '/' ('.' :: joinWith '/' pieces)) = naming pieces := by
  rcases List.prefix_cons_iff.mp h with rfl | ⟨more, rfl, hmore⟩
  · rfl
  · cases more with
    | nil => rfl
    | cons piece more =>
      have hjoin := naming_join hmore
      simpa [joinWith, splitAt, naming, isIdle] using hjoin

theorem head?_join {cs : List Char} {pieces : List (List Char)} (h : pieces <+: splitAt '/' cs)
    (hcs : cs.head? ≠ some '/') : (joinWith '/' pieces).head? ≠ some '/' := by
  cases cs with
  | nil =>
    rcases List.prefix_cons_iff.mp h with rfl | ⟨more, rfl, hmore⟩
    · simp [joinWith]
    · rw [List.prefix_nil.mp hmore]
      simp [joinWith]
  | cons c rest =>
    have hc : c ≠ '/' := by simpa using hcs
    rw [splitAt, if_neg hc] at h
    split at h
    · next hs => exact absurd hs (splitAt_ne_nil '/' rest)
    · rcases List.prefix_cons_iff.mp h with rfl | ⟨more, rfl, hmore⟩
      · simp [joinWith]
      · cases more <;> simp [joinWith, hc]

/-- First pieces of a path, put behind how the path starts. -/
theorem start_join {cs : List Char} {pieces : List (List Char)}
    (h : pieces <+: splitAt '/' (cs.drop (bodyStart cs))) :
    naming (splitAt '/' (cs.take (bodyStart cs) ++ joinWith '/' pieces)) = naming pieces ∧
      ((cs.take (bodyStart cs) ++ joinWith '/' pieces).head? = some '/' ↔ cs.head? = some '/') := by
  fun_cases bodyStart cs with
  | case1 rest =>
    have hjoin := naming_join h
    refine ⟨?_, by simp⟩
    rw [← hjoin]
    simp [splitAt, naming, isIdle]
  | case2 =>
    have hpieces : pieces <+: [] :: splitAt '/' [] := h.trans (by simp [bodyStart, splitAt])
    exact ⟨naming_dot_join hpieces, by simp⟩
  | case3 rest => exact ⟨naming_dot_join (by simpa [bodyStart, splitAt] using h), by simp⟩
  | case4 _ hroot =>
    have hhead : cs.head? ≠ some '/' := by
      intro hc
      obtain ⟨rest, rfl⟩ := List.head?_eq_some_iff.mp hc
      exact hroot rest rfl
    have hstart : bodyStart cs = 0 := by
      unfold bodyStart
      split <;> simp_all
    rw [hstart] at h
    exact ⟨naming_join h, iff_of_false (head?_join h hhead) hhead⟩

/-- The pieces of the parent are the first pieces of the path. -/
theorem above_starts (pieces : List (List Char)) :
    dropIdleEnd (dropIdleEnd pieces).dropLast <+: pieces := by
  simp only [dropIdleEnd_eq]
  have houter := List.rdropWhile_prefix isIdle (pieces.rdropWhile isIdle).dropLast
  have hinner := List.rdropWhile_prefix isIdle pieces
  exact houter.trans ((List.dropLast_prefix _).trans hinner)

/-- The folders above a path are those the path walks through. -/
theorem components_parent {path above : String} (h : parent? path = some above) :
    components above = (components path).dropLast ∧ isAbsolute above = isAbsolute path := by
  have hnaming := naming_drop_bodyStart path.toList
  unfold parent? at h
  simp only at h
  split at h
  · next hempty =>
    have hnone : naming (splitAt '/' path.toList) = [] := by
      rw [← hnaming, ← naming_dropIdleEnd, List.isEmpty_iff.mp hempty]
      rfl
    split at h
    · next rest hcs =>
      cases h
      refine ⟨?_, by simp [isAbsolute, hcs]⟩
      rw [components_eq path, hnone]
      rfl
    · cases h
  · cases h
    obtain ⟨hjoined, habsolute⟩ :=
      start_join (above_starts (splitAt '/' (path.toList.drop (bodyStart path.toList))))
    constructor
    · rw [components_eq, String.toList_ofList, hjoined, naming_dropIdleEnd, naming_dropLast,
        hnaming, components_eq, List.map_dropLast]
    · unfold isAbsolute
      rw [String.toList_ofList, Bool.eq_iff_iff]
      simpa using habsolute

/-- A path without names has at most the empty parent. -/
theorem parent_of_no_components {path above : String} (h : parent? path = some above)
    (unnamed : components path = []) : above = "" := by
  unfold parent? at h
  simp only at h
  split at h
  · split at h
    · cases h
      rfl
    · cases h
  · next hsome =>
    have hnone :
        naming (dropIdleEnd (splitAt '/' (path.toList.drop (bodyStart path.toList)))) = [] := by
      rw [naming_dropIdleEnd, naming_drop_bodyStart]
      simpa [components_eq] using unnamed
    -- Whatever is kept ends in a piece that names something.
    rw [dropIdleEnd_eq] at hnone hsome
    have hkept := mt List.isEmpty_iff.mpr hsome
    have hlast := List.rdropWhile_last_not isIdle _ hkept
    have hnamed := (List.filter_eq_nil_iff.mp hnone) _ (List.getLast_mem hkept)
    simp [hlast] at hnamed

theorem components_of_no_parent {path : String} (h : parent? path = none) :
    components path = [] := by
  have hnaming := naming_drop_bodyStart path.toList
  unfold parent? at h
  simp only at h
  split at h
  · next hempty =>
    rw [components_eq, ← hnaming, ← naming_dropIdleEnd, List.isEmpty_iff.mp hempty]
    rfl
  · cases h

theorem components_folder (path : String) :
    components (folder path) = (components path).dropLast := by
  unfold folder
  cases h : parent? path with
  | none =>
    rw [components_of_no_parent h]
    decide
  | some above =>
    rw [← (components_parent h).1]
    by_cases hempty : above = ""
    · subst hempty
      decide
    · simp [hempty]

theorem isAbsolute_folder {path : String} (h : components path ≠ []) :
    isAbsolute (folder path) = isAbsolute path := by
  unfold folder
  cases hparent : parent? path with
  | none => exact absurd (components_of_no_parent hparent) h
  | some above =>
    rw [← (components_parent hparent).2]
    by_cases hempty : above = ""
    · subst hempty
      decide
    · simp [hempty]

theorem folder_ne_empty (path : String) : folder path ≠ "" := by
  unfold folder
  split
  · split
    · decide
    · next h => simpa using h
  · decide

theorem mem_folder {path : String} {c : Char} (h : c ∈ (folder path).toList) :
    c ∈ path.toList ∨ c = '.' ∨ c = '/' := by
  have hdot (h : c ∈ ".".toList) : c ∈ path.toList ∨ c = '.' ∨ c = '/' :=
    .inr (.inl (List.mem_singleton.mp h))
  unfold folder at h
  cases hparent : parent? path with
  | none =>
    rw [hparent] at h
    exact hdot h
  | some above =>
    rw [hparent] at h
    simp only at h
    split at h
    · exact hdot h
    · next hne =>
    unfold parent? at hparent
    simp only at hparent
    split at hparent
    · split at hparent
      · cases hparent
        exact absurd rfl hne
      · cases hparent
    · cases hparent
      rw [String.toList_ofList] at h
      rcases List.mem_append.mp h with h | h
      · exact .inl (List.mem_of_mem_take h)
      · rcases mem_joinWith h with h | ⟨piece, hpiece, hc⟩
        · exact .inr (.inr h)
        · have hwhole := (above_starts _).subset hpiece
          exact .inl (List.mem_of_mem_drop (mem_of_mem_splitAt hwhole hc))

theorem splitAt_of_file {path : String} (h : endsInFolder path = false) :
    ∃ init last, splitAt '/' path.toList = init ++ [last] ∧ isIdle last = false ∧
      last ≠ ['.', '.'] := by
  obtain ⟨init, last, hsplit⟩ : ∃ init last, splitAt '/' path.toList = init ++ [last] :=
    ⟨_, _, (List.dropLast_append_getLast (splitAt_ne_nil '/' path.toList)).symm⟩
  unfold endsInFolder at h
  simp only [hsplit, List.getLast?_append_of_ne_nil, List.getLast?_singleton, ne_eq,
    List.cons_ne_nil, not_false_eq_true, Bool.or_eq_false_iff, beq_eq_false_iff_ne] at h
  exact ⟨init, last, hsplit, h.1, h.2⟩

theorem getLast?_cons_splitAt (piece rest : List Char) :
    (piece :: splitAt '/' rest).getLast? = (splitAt '/' rest).getLast? := by
  obtain ⟨first, more, h⟩ := List.exists_cons_of_ne_nil (splitAt_ne_nil '/' rest)
  rw [h, List.getLast?_cons_cons]

/-- A last piece that names something is still the last one without how the path starts. -/
theorem getLast?_drop_bodyStart {cs last : List Char}
    (hlast : (splitAt '/' cs).getLast? = some last) (hnamed : isIdle last = false) :
    (splitAt '/' (cs.drop (bodyStart cs))).getLast? = some last := by
  fun_cases bodyStart cs with
  | case1 rest => rwa [splitAt, if_pos rfl, getLast?_cons_splitAt] at hlast
  | case2 =>
    cases hlast
    exact absurd hnamed (by decide)
  | case3 rest =>
    have hsplit : splitAt '/' ('.' :: '/' :: rest) = ['.'] :: splitAt '/' rest := by
      simp [splitAt]
    rw [hsplit, getLast?_cons_splitAt] at hlast
    rw [List.drop_one, List.tail_cons, splitAt, if_pos rfl, getLast?_cons_splitAt, hlast]
  | case4 => exact hlast

/-- The last component of a path that does not insist on a folder is its name. -/
theorem fileName?_of_file {path : String} (h : endsInFolder path = false) :
    ∃ name, fileName? path = some name ∧ name ≠ ".." ∧
      components path = components (folder path) ++ [name] := by
  obtain ⟨init, last, hsplit, hnamed, hdots⟩ := splitAt_of_file h
  have hlast : (splitAt '/' path.toList).getLast? = some last := by
    rw [hsplit, List.getLast?_concat]
  have hcomponents : components path = (naming init).map String.ofList ++ [String.ofList last] := by
    simp [components_eq, hsplit, naming, List.filter_append, hnamed]
  refine ⟨String.ofList last, ?_, ?_, ?_⟩
  · obtain ⟨rest, hrest⟩ := List.getLast?_eq_some_iff.mp (getLast?_drop_bodyStart hlast hnamed)
    unfold fileName?
    dsimp only
    rw [dropIdleEnd_eq, hrest, List.rdropWhile_concat_neg _ _ _ (by simp [hnamed]),
      List.getLast?_concat]
    split
    · next hnone => cases hnone
    · next hdot =>
      cases hdot
      exact absurd rfl hdots
    · next name _ hname =>
      cases hname
      rfl
  · intro hname
    exact hdots (by simpa using congrArg String.toList hname)
  · rw [components_folder, hcomponents, List.dropLast_concat]

/-- What is appended to a path that ends in a name is appended to the name. -/
theorem components_append {path suffix : String} (h : endsInFolder path = false)
    (hsuffix : '/' ∉ suffix.toList) (hlong : 1 < suffix.length) :
    ∃ above name, components path = above ++ [name] ∧ name ≠ ".." ∧
      components (path ++ suffix) = above ++ [name ++ suffix] := by
  obtain ⟨init, last, hsplit, hnamed, hdots⟩ := splitAt_of_file h
  obtain ⟨init', last', hsplit', happend⟩ := splitAt_append hsuffix path.toList
  obtain ⟨rfl, hlast⟩ := List.append_inj' (hsplit.symm.trans hsplit') rfl
  obtain rfl : last = last' := by simpa using hlast
  have hlength : 1 < (last ++ suffix.toList).length := by
    rw [List.length_append, String.length_toList]
    omega
  have hnamed' : isIdle (last ++ suffix.toList) = false := by
    simp only [isIdle, Bool.or_eq_false_iff, List.isEmpty_eq_false_iff, beq_eq_false_iff_ne]
    constructor <;> intro hshort <;> simp [hshort] at hlength
  refine ⟨(naming init).map String.ofList, String.ofList last, ?_, ?_, ?_⟩
  · simp [components_eq, hsplit, naming, List.filter_append, hnamed]
  · intro hname
    exact hdots (by simpa using congrArg String.toList hname)
  · simp [components_eq, String.toList_append, happend, naming, List.filter_append, hnamed']

end ClusterDeploy.Path
