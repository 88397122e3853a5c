import ClusterDeploy.Proofs.Url.Commas
/-!
# Relative paths that are written as they are

A relative path without dots and escapes, of characters that a path does not encode, climbs nowhere.
Whatever the base, its characters stay.
-/
namespace ClusterDeploy.Url

open Text

/-- A character that a path keeps and that is no part of a dot segment. -/
def IsLiteral (c : Char) : Prop := inPathSet c = false ∧ c ≠ '.' ∧ c ≠ '%'

instance (c : Char) : Decidable (IsLiteral c) := inferInstanceAs (Decidable (_ ∧ _))

def Literal (cs : List Char) : Prop := ∀ c ∈ cs, IsLiteral c

instance (cs : List Char) : Decidable (Literal cs) := List.decidableBAll _ cs

variable {cs : List Char}

theorem Literal.subset {part : List Char} (h : Literal cs) (hpart : part ⊆ cs) : Literal part :=
  fun c hc => h c (hpart hc)

theorem Literal.kept (h : Literal cs) : Kept inPathSet cs := fun c hc => (h c hc).1

theorem IsLiteral.visible {c : Char} (h : IsLiteral c) : isControl c = false := by
  have hset := h.1
  simp only [inPathSet, inFragmentSet, Bool.or_eq_false_iff] at hset
  exact hset.1.1

theorem IsLiteral.ascii {c : Char} (h : IsLiteral c) : c.toNat < 128 := by
  have hvisible := h.visible
  simp only [isControl, Bool.or_eq_false_iff, decide_eq_false_iff_not] at hvisible
  omega

theorem IsLiteral.plain {c : Char} (h : IsLiteral c) :
    isTabOrBreak c = false ∧ c.toLower ≠ '.' ∧ c.toLower ≠ '%' := by
  refine forall_ascii (P := fun c => IsLiteral c →
    isTabOrBreak c = false ∧ c.toLower ≠ '.' ∧ c.toLower ≠ '%') ?_ h.ascii h
  decide

theorem Literal.filter (h : Literal cs) : cs.filter (fun c => !isTabOrBreak c) = cs := by
  rw [List.filter_eq_self]
  intro c hc
  rw [(h c hc).plain.1]
  rfl

theorem Literal.not_dots (h : Literal cs) : isSingleDot cs = false ∧ isDoubleDot cs = false := by
  cases cs with
  | nil => exact ⟨rfl, rfl⟩
  | cons c rest =>
    obtain ⟨-, hdot, hescape⟩ := (h c List.mem_cons_self).plain
    simp [isSingleDot, isDoubleDot, hdot, hescape]

/-! ## Resolution -/

theorem mem_resolveFrom_of_stack {stack segments : List (List Char)} {s : List Char}
    (hs : s ∈ stack) (h : ∀ segment ∈ segments, isDoubleDot segment = false) :
    s ∈ resolveFrom stack segments := by
  fun_induction resolveFrom stack segments with
  | case1 stack => exact List.mem_reverse.mpr hs
  | case2 stack last hlast =>
    rw [h last List.mem_cons_self] at hlast
    cases hlast
  | case3 stack last _ _ => exact List.mem_reverse.mpr (List.mem_cons_of_mem _ hs)
  | case4 stack last _ _ => exact List.mem_reverse.mpr (List.mem_cons_of_mem _ hs)
  | case5 stack s' next more hs' ih =>
    rw [h s' List.mem_cons_self] at hs'
    cases hs'
  | case6 stack s' next more _ _ ih =>
    exact ih hs fun segment hmem => h segment (List.mem_cons_of_mem _ hmem)
  | case7 stack s' next more _ _ ih =>
    exact ih (List.mem_cons_of_mem _ hs) fun segment hmem => h segment (List.mem_cons_of_mem _ hmem)

theorem resolveFrom_cons (stack : List (List Char)) (s : List Char) {rest : List (List Char)}
    (hrest : rest ≠ []) : ∃ stack', resolveFrom stack (s :: rest) = resolveFrom stack' rest ∧
      (isDoubleDot s = false → isSingleDot s = false → stack' = s :: stack) := by
  obtain ⟨next, more, rfl⟩ := List.exists_cons_of_ne_nil hrest
  rw [resolveFrom]
  split
  · next hs => exact ⟨_, rfl, fun hs' => by rw [hs'] at hs; cases hs⟩
  split
  · next hs => exact ⟨_, rfl, fun _ hs' => by rw [hs'] at hs; cases hs⟩
  · exact ⟨_, rfl, fun _ _ => rfl⟩

theorem mem_resolveFrom_of_mem {stack before after : List (List Char)} {s : List Char}
    (hs : isSingleDot s = false) (h : ∀ segment ∈ s :: after, isDoubleDot segment = false) :
    s ∈ resolveFrom stack (before ++ s :: after) := by
  induction before generalizing stack with
  | nil =>
    have hs' : isDoubleDot s = false := h s List.mem_cons_self
    cases after with
    | nil => simp [resolveFrom, hs, hs']
    | cons next more =>
      obtain ⟨stack', hresolve, hstack⟩ := resolveFrom_cons stack s (List.cons_ne_nil next more)
      rw [List.nil_append, hresolve, hstack hs' hs]
      exact mem_resolveFrom_of_stack List.mem_cons_self fun segment hmem =>
        h segment (List.mem_cons_of_mem _ hmem)
  | cons first before ih =>
    have hrest : before ++ s :: after ≠ [] :=
      List.append_ne_nil_of_right_ne_nil before (List.cons_ne_nil s after)
    obtain ⟨stack', hresolve, -⟩ := resolveFrom_cons stack first hrest
    rw [List.cons_append, hresolve]
    exact ih

/-! ## Joining -/

theorem foldl_stepStack_literal {stack pieces : List (List Char)}
    (h : ∀ piece ∈ pieces, Literal piece) :
    pieces.foldl stepStack stack = stack ++ pieces.filter fun piece => !piece.isEmpty := by
  induction pieces generalizing stack with
  | nil => exact (List.append_nil stack).symm
  | cons piece more ih =>
    rw [List.foldl_cons, ih fun p hp => h p (List.mem_cons_of_mem _ hp)]
    cases piece with
    | nil => rfl
    | cons c rest =>
      have hdot : c ≠ '.' := (h _ List.mem_cons_self c List.mem_cons_self).2.1
      simp [stepStack, hdot]

def namedPieces (relative : List Char) : List (List Char) :=
  (splitAt '/' relative).filter fun piece => !piece.isEmpty

theorem Literal.namedPieces {relative : List Char} (h : Literal relative) :
    Literal (joinWith '/' (namedPieces relative)) := by
  intro d hd
  rcases mem_joinWith hd with rfl | ⟨piece, hpiece, hd⟩
  · decide
  · exact h d (mem_of_mem_splitAt (List.mem_filter.mp hpiece).1 hd)

theorem exists_namedPiece {relative : List Char} {c : Char} (hc : c ∈ relative) (hslash : c ≠ '/') :
    ∃ piece ∈ namedPieces relative, c ∈ piece := by
  obtain ⟨piece, hpiece, hmem⟩ := mem_splitAt hc hslash
  refine ⟨piece, List.mem_filter.mpr ⟨hpiece, ?_⟩, hmem⟩
  cases piece with
  | nil => cases hmem
  | cons _ _ => rfl

theorem joinedPath_literal (segments : List (List Char)) {relative : List Char} {c : Char}
    (h : Literal relative) (hc : c ∈ relative) (hslash : c ≠ '/') :
    ∃ before after, joinedPath segments relative = before ++ '/' :: after ∧ Literal after ∧
      c ∈ after := by
  have hpieces : ∀ piece ∈ splitAt '/' relative, Literal piece := fun piece hpiece =>
    h.subset fun d hd => mem_of_mem_splitAt hpiece hd
  obtain ⟨piece, hpiece, hmem⟩ := exists_namedPiece hc hslash
  have hafter : c ∈ joinWith '/' (namedPieces relative) := mem_joinWith_of_mem hpiece hmem
  obtain ⟨before, hbefore⟩ : ∃ before, '/' :: joinWith '/' (segments ++ namedPieces relative) =
      before ++ '/' :: joinWith '/' (namedPieces relative) := by
    by_cases hsegments : segments = []
    · exact ⟨[], by rw [hsegments]; rfl⟩
    · refine ⟨'/' :: joinWith '/' segments, ?_⟩
      rw [joinWith_append '/' hsegments (List.ne_nil_of_mem hpiece)]
      rfl
  have hslashed : Literal (joinWith '/' (namedPieces relative) ++ ['/']) := by
    intro d hd
    rcases List.mem_append.mp hd with hd | hd
    · exact h.namedPieces d hd
    · rw [List.mem_singleton.mp hd]
      decide
  unfold joinedPath
  rw [foldl_stepStack_literal hpieces, ← namedPieces]
  dsimp only
  rw [hbefore]
  split
  · exact ⟨before, _, by simp, hslashed, List.mem_append_left _ hafter⟩
  · exact ⟨before, _, rfl, h.namedPieces, hafter⟩

theorem slashed_literal (special : Bool) (before : List Char) {after : List Char} {c : Char}
    (h : Literal after) (hc : c ∈ after) (hback : c ≠ '\\') :
    ∃ before' after', slashed special (before ++ '/' :: after) = before' ++ '/' :: after' ∧
      Literal after' ∧ c ∈ after' := by
  unfold slashed
  split
  · refine ⟨_, _, List.map_append, ?_, List.mem_map.mpr ⟨c, hc, if_neg hback⟩⟩
    intro d hd
    obtain ⟨e, he, rfl⟩ := List.mem_map.mp hd
    split
    · decide
    · exact h e he
  · exact ⟨before, after, rfl, h, hc⟩

theorem mem_segments_literal (front : List (List Char)) {after : List Char} {c : Char}
    (h : Literal after) (hc : c ∈ after) (hslash : c ≠ '/') :
    c ∈ (UrlPath.segments
      (resolveFrom [] ((front ++ splitAt '/' after).map (percentEncode inPathSet)))).text := by
  obtain ⟨piece, hpiece, hmem⟩ := mem_splitAt hc hslash
  have hpieces : ∀ piece ∈ splitAt '/' after, Literal piece := fun piece hpiece =>
    h.subset fun d hd => mem_of_mem_splitAt hpiece hd
  obtain ⟨xs, ys, hsplit⟩ := List.append_of_mem hpiece
  rw [hsplit] at hpieces
  have hencoded : (xs ++ piece :: ys).map (percentEncode inPathSet) = xs ++ piece :: ys :=
    (List.map_congr_left fun p hp => (hpieces p hp).kept.percentEncode).trans (List.map_id _)
  have hkept : piece ∈ resolveFrom []
      ((front.map (percentEncode inPathSet) ++ xs) ++ piece :: ys) := by
    apply mem_resolveFrom_of_mem
    · exact (hpieces piece (by simp)).not_dots.1
    · intro segment hsegment
      exact (hpieces segment (List.mem_append_right _ hsegment)).not_dots.2
  rw [List.map_append, hsplit, hencoded, ← List.append_assoc]
  exact List.mem_flatMap.mpr ⟨piece, hkept, List.mem_cons_of_mem _ hmem⟩

theorem mem_readPath_literal (special : Bool) (before : List Char) {after : List Char} {c : Char}
    (h : Literal after) (hc : c ∈ after) (hslash : c ≠ '/') (hback : c ≠ '\\') :
    c ∈ (readPath special (before ++ '/' :: after)).text := by
  obtain ⟨before', after', hslashed, hafter, hmem⟩ := slashed_literal special before h hc hback
  have hrest (front : List Char) : c ∈ (UrlPath.segments (resolveFrom []
      ((splitAt '/' (front ++ '/' :: after')).map (percentEncode inPathSet)))).text := by
    rw [splitAt_append_cons]
    exact mem_segments_literal _ hafter hmem hslash
  unfold readPath
  rw [hslashed]
  cases before' with
  | nil => exact mem_segments_literal [] hafter hmem hslash
  | cons first front =>
    split
    · next hnil => cases hnil
    · next rest hcons =>
      cases hcons
      exact hrest front
    · exact hrest (first :: front)

theorem mem_setPath_literal (u : Url) (before : List Char) {after : List Char} {c : Char}
    (h : Literal after) (hc : c ∈ after) (hslash : c ≠ '/') (hback : c ≠ '\\') :
    c ∈ (u.setPath (before ++ '/' :: after)).path.text := by
  have hclean : (before ++ '/' :: after).filter (fun c => !isTabOrBreak c) =
      before.filter (fun c => !isTabOrBreak c) ++ '/' :: after := by
    rw [List.filter_append, List.filter_cons_of_pos (by decide), h.filter]
  have hvisible : isControl c = false := (h c hc).visible
  have hencoded {rest : List Char} (hrest : c ∈ rest) : c ∈ percentEncode isControl rest :=
    List.mem_flatMap.mpr ⟨c, hrest, by simp [hvisible]⟩
  unfold setPath
  dsimp only
  rw [hclean]
  split
  · exact mem_readPath_literal _ _ h hc hslash hback
  · have hmem : c ∈ before.filter (fun c => !isTabOrBreak c) ++ '/' :: after :=
      List.mem_append_right _ (List.mem_cons_of_mem _ hc)
    split
    · next rest hrest =>
      rw [hrest] at hmem
      exact List.mem_append_right _ (hencoded (List.mem_of_ne_of_mem hslash hmem))
    · exact hencoded hmem

/-- Whatever the base, a character of a literal relative path is one of the joined text. -/
theorem mem_joinText_literal {base relative text : String} {c : Char}
    (h : Literal relative.toList) (hc : c ∈ relative.toList) (hslash : c ≠ '/') (hback : c ≠ '\\')
    (hjoin : joinText base relative = .ok text) : c ∈ text.toList := by
  have hsome : relative ≠ "" := by
    rintro rfl
    cases hc
  rw [joinText_eq] at hjoin
  simp only [if_neg hsome] at hjoin
  cases hu : parse base with
  | error e =>
    rw [hu] at hjoin
    cases hjoin
  | ok u =>
    rw [hu] at hjoin
    cases hjoin
    obtain ⟨before, after, hpath, hafter, hmem⟩ :=
      joinedPath_literal u.namedSegments h hc hslash
    dsimp only
    rw [Url.text, String.toList_ofList, joinPath, hpath]
    have htext := mem_setPath_literal u before hafter hmem hslash hback
    simp only [Url.chars, List.mem_append, List.mem_cons]
    exact .inr (.inr (.inl (.inl (.inr htext))))

end ClusterDeploy.Url
