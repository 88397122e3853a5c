import ClusterDeploy.Proofs.Url.Literal
import ClusterDeploy.Proofs.Url.Readable
/-!
# The segments of a joined path

A relative path of unreserved characters moves the stack of the segments of its base, and the path
of the joined URL is that stack written out. Writing and reading leave the stack alone, so joining
in two steps is joining once.
-/
namespace ClusterDeploy.Url

open Text

/-! ## The moves -/

/-- Reading segments moves a stack of segments, whose top is its last one, to another stack. -/
inductive Moves : (stack segments last : List (List Char)) → Prop
  | done {stack : List (List Char)} : Moves stack [] stack
  | stay {stack more last : List (List Char)} {segment : List Char}
      (idle : segment = [] ∨ segment = ['.']) (later : Moves stack more last) :
      Moves stack (segment :: more) last
  | pop {stack more last : List (List Char)} {top : List Char} (later : Moves stack more last) :
      Moves (stack ++ [top]) (['.', '.'] :: more) last
  /-- There is nothing above the root. -/
  | root {more last : List (List Char)} (later : Moves [] more last) :
      Moves [] (['.', '.'] :: more) last
  | push {stack more last : List (List Char)} {segment : List Char}
      (named : segment ∉ [[], ['.'], ['.', '.']]) (later : Moves (stack ++ [segment]) more last) :
      Moves stack (segment :: more) last

theorem moves_iff {stack segments last : List (List Char)} :
    Moves stack segments last ↔ segments.foldl stepStack stack = last := by
  constructor
  · intro h
    induction h with
    | done => rfl
    | stay idle later ih => rcases idle with rfl | rfl <;> exact ih
    | @pop stack more last top later ih =>
      rw [List.foldl_cons]
      change List.foldl stepStack (stack ++ [top]).dropLast more = last
      rwa [List.dropLast_concat]
    | root later ih => exact ih
    | @push stack more last segment named later ih =>
      simp only [List.mem_cons, List.not_mem_nil, or_false, not_or] at named
      have hstep : stepStack stack segment = stack ++ [segment] := by simp [stepStack, named]
      rwa [List.foldl_cons, hstep]
  · rintro rfl
    induction segments generalizing stack with
    | nil => exact .done
    | cons segment more ih =>
      have hmore := @ih (stepStack stack segment)
      rw [List.foldl_cons]
      by_cases hidle : segment = [] ∨ segment = ['.']
      · have hstep : stepStack stack segment = stack := by simp [stepStack, hidle]
        rw [hstep] at hmore ⊢
        exact .stay hidle hmore
      by_cases hup : segment = ['.', '.']
      · subst hup
        rcases List.eq_nil_or_concat' stack with rfl | ⟨below, top, rfl⟩
        · exact .root hmore
        · have hstep : stepStack (below ++ [top]) ['.', '.'] = below :=
            List.dropLast_concat
          rw [hstep] at hmore ⊢
          exact .pop hmore
      · have hstep : stepStack stack segment = stack ++ [segment] := by
          simp only [not_or] at hidle
          simp [stepStack, hidle, hup]
        rw [hstep] at hmore ⊢
        refine .push ?_ hmore
        simpa [or_assoc] using not_or.mpr ⟨hidle, hup⟩

/-! ## Unreserved characters -/

def IsUnreserved (c : Char) : Prop := c.isAlphanum = true ∨ c ∈ ['-', '.', '_', '~']

instance (c : Char) : Decidable (IsUnreserved c) := inferInstanceAs (Decidable (_ ∨ _))

def Unreserved (cs : List Char) : Prop := ∀ c ∈ cs, IsUnreserved c ∨ c = '/'

instance (cs : List Char) : Decidable (Unreserved cs) := List.decidableBAll _ cs

theorem IsUnreserved.ascii {c : Char} (h : IsUnreserved c) : c.toNat < 128 := by
  have hmarks : ∀ c ∈ ['-', '.', '_', '~'], c.toNat < 128 := List.all_iff_forall_prop.mp (by decide)
  rcases h with h | h
  · delta Char.isAlphanum Char.isAlpha Char.isUpper Char.isLower Char.isDigit at h
    simp only [Bool.or_eq_true, Bool.and_eq_true, decide_eq_true_eq, ge_iff_le,
      UInt32.le_iff_toNat_le] at h
    change ((65 ≤ c.toNat ∧ c.toNat ≤ 90) ∨ 97 ≤ c.toNat ∧ c.toNat ≤ 122) ∨
      48 ≤ c.toNat ∧ c.toNat ≤ 57 at h
    omega
  · exact hmarks c h

theorem IsUnreserved.plain {c : Char} (h : IsUnreserved c) :
    inPathSet c = false ∧ c ≠ '/' ∧ c ≠ '\\' ∧ c.toLower ≠ '%' ∧ (c.toLower = '.' → c = '.') := by
  refine forall_ascii (P := fun c => IsUnreserved c → inPathSet c = false ∧ c ≠ '/' ∧ c ≠ '\\' ∧
    c.toLower ≠ '%' ∧ (c.toLower = '.' → c = '.')) ?_ h.ascii h
  decide

/-- A segment of unreserved characters that is on the stack is read as it is. -/
theorem settled_of_unreserved {segment : List Char} (h : ∀ c ∈ segment, IsUnreserved c)
    (named : segment ∉ [[], ['.'], ['.', '.']]) : Settled segment := by
  simp only [List.mem_cons, List.not_mem_nil, or_false, not_or] at named
  have hescape : '%' ∉ segment.map Char.toLower := by
    intro hmem
    obtain ⟨c, hc, hlower⟩ := List.mem_map.mp hmem
    exact (h c hc).plain.2.2.2.1 hlower
  have hdots (n : Nat) (heq : segment.map Char.toLower = List.replicate n '.') :
      segment = List.replicate n '.' := by
    obtain ⟨hlength, hall⟩ := List.eq_replicate_iff.mp heq
    refine List.eq_replicate_iff.mpr ⟨by simpa using hlength, fun c hc => ?_⟩
    exact (h c hc).plain.2.2.2.2 (hall _ (List.mem_map_of_mem hc))
  constructor
  case kept => exact fun c hc => (h c hc).plain.1
  case slash => exact fun hc => (h _ hc).plain.2.1 rfl
  case backslash => exact fun hc => (h _ hc).plain.2.2.1 rfl
  case double =>
    have htwo : segment.map Char.toLower ≠ ['.', '.'] := fun heq => named.2.2 (hdots 2 heq)
    rw [Bool.eq_false_iff]
    intro hdouble
    simp only [isDoubleDot, Bool.or_eq_true, beq_iff_eq] at hdouble
    rcases hdouble with ((heq | heq) | heq) | heq
    · exact htwo heq
    all_goals exact hescape (by simp [heq])
  case single =>
    have hone : segment.map Char.toLower ≠ ['.'] := fun heq => named.2.1 (hdots 1 heq)
    rw [Bool.eq_false_iff]
    intro hsingle
    simp only [isSingleDot, Bool.or_eq_true, beq_iff_eq] at hsingle
    rcases hsingle with heq | heq
    · exact hone heq
    · exact hescape (by simp [heq])

/-! ## Stacks that are written and read -/

def Stacked (stack : List (List Char)) : Prop := ∀ s ∈ stack, s ≠ [] ∧ Settled s

theorem Stacked.stepStack {stack : List (List Char)} {segment : List Char} (h : Stacked stack)
    (hsegment : ∀ c ∈ segment, IsUnreserved c) : Stacked (stepStack stack segment) := by
  unfold Url.stepStack
  split
  · exact h
  next hidle =>
    split
    · exact fun s hs => h s (List.dropLast_subset _ hs)
    next hup =>
      simp only [Bool.or_eq_true, beq_iff_eq, not_or] at hidle hup
      intro s hs
      rcases List.mem_append.mp hs with hs | hs
      · exact h s hs
      · rw [List.mem_singleton.mp hs]
        exact ⟨hidle.1, settled_of_unreserved hsegment (by simp [hidle, hup])⟩

theorem Stacked.moved {stack : List (List Char)} {relative : List Char} (h : Stacked stack)
    (hrelative : Unreserved relative) :
    Stacked ((splitAt '/' relative).foldl Url.stepStack stack) := by
  have hsegments : ∀ segment ∈ splitAt '/' relative, ∀ c ∈ segment, IsUnreserved c := by
    intro segment hsegment c hc
    refine (hrelative c (mem_of_mem_splitAt hsegment hc)).resolve_right ?_
    rintro rfl
    exact splitAt_pieces hsegment hc
  generalize splitAt '/' relative = segments at hsegments
  induction segments generalizing stack with
  | nil => exact h
  | cons segment more ih =>
    obtain ⟨hsegment, hmore⟩ := List.forall_mem_cons.mp hsegments
    exact ih (h.stepStack hsegment) hmore

/-- The segments of the path that a stack stands for, and the empty one after a final slash. -/
def stackItems (stack : List (List Char)) (slash : Bool) : List (List Char) :=
  if stack = [] || slash then stack ++ [[]] else stack

theorem stackItems_ne_nil (stack : List (List Char)) (slash : Bool) :
    stackItems stack slash ≠ [] := by
  unfold stackItems
  split
  · simp
  · simp_all

theorem Stacked.items {stack : List (List Char)} (h : Stacked stack) (slash : Bool) :
    (∀ s ∈ stackItems stack slash, Settled s) ∧
      (stackItems stack slash).filter (fun s => !s.isEmpty) = stack := by
  have hstack : stack.filter (fun s => !s.isEmpty) = stack := by
    rw [List.filter_eq_self]
    intro s hs
    simpa using (h s hs).1
  unfold stackItems
  split
  · constructor
    · simpa [or_imp, forall_and, settled_nil] using fun s hs => (h s hs).2
    · simpa using hstack
  · exact ⟨fun s hs => (h s hs).2, hstack⟩

theorem getLast?_joinWith {pieces : List (List Char)} (h : ∀ s ∈ pieces, s ≠ [] ∧ '/' ∉ s) :
    (joinWith '/' pieces).getLast? ≠ some '/' := by
  induction pieces with
  | nil => simp [joinWith]
  | cons piece more ih =>
    obtain ⟨⟨hne, hslash⟩, hmore⟩ := List.forall_mem_cons.mp h
    cases more with
    | nil => exact fun hlast => hslash (List.mem_of_getLast? hlast)
    | cons next more =>
      have hnext : joinWith '/' (next :: more) ≠ [] := by
        obtain ⟨c, hc⟩ := List.exists_mem_of_ne_nil next (hmore next List.mem_cons_self).1
        exact List.ne_nil_of_mem (mem_joinWith_of_mem List.mem_cons_self hc)
      rw [joinWith_cons _ _ (List.cons_ne_nil _ _), List.getLast?_append_of_ne_nil _ (by simp),
        List.getLast?_cons_of_ne_nil hnext]
      exact ih hmore

theorem text_stackItems (stack : List (List Char)) (slash : Bool) :
    (UrlPath.segments (stackItems stack slash)).text =
      '/' :: joinWith '/' stack ++ if stack ≠ [] ∧ slash = true then ['/'] else [] := by
  rw [segments_text (stackItems_ne_nil stack slash)]
  unfold stackItems
  by_cases hstack : stack = []
  · simp [hstack, joinWith]
  · cases slash with
    | false => simp [hstack]
    | true => simp [hstack, joinWith_append '/' hstack (List.cons_ne_nil [] []), joinWith]

/-- What is joined is written as the path that the stack stands for. -/
theorem Stacked.joinedPath {segments : List (List Char)} (h : Stacked segments)
    {relative : List Char} (hrelative : Unreserved relative) :
    joinedPath segments relative = (UrlPath.segments (stackItems
      ((splitAt '/' relative).foldl Url.stepStack segments)
      (relative.getLast? == some '/'))).text := by
  have hstacked := h.moved hrelative
  generalize hstack : (splitAt '/' relative).foldl Url.stepStack segments = stack at hstacked
  have hlast : ('/' :: joinWith '/' stack).getLast? = some '/' ↔ stack = [] := by
    by_cases hnil : stack = []
    · simp [hnil, joinWith]
    · obtain ⟨s, hs⟩ := List.exists_mem_of_ne_nil stack hnil
      obtain ⟨c, hc⟩ := List.exists_mem_of_ne_nil s (hstacked s hs).1
      have hne : joinWith '/' stack ≠ [] := List.ne_nil_of_mem (mem_joinWith_of_mem hs hc)
      rw [List.getLast?_cons_of_ne_nil hne]
      exact iff_of_false
        (getLast?_joinWith fun s hs => ⟨(hstacked s hs).1, (hstacked s hs).2.slash⟩) hnil
  unfold Url.joinedPath
  rw [hstack, text_stackItems]
  by_cases hslash : relative.getLast? = some '/' <;> by_cases hnil : stack = [] <;>
    simp_all

theorem setPath_text {u : Url} {old items : List (List Char)} (hpath : u.path = .segments old)
    (hspecial : isSpecial u.scheme = true) (hne : items ≠ []) (h : ∀ s ∈ items, Settled s) :
    u.setPath (UrlPath.segments items).text = { u with path := .segments items } := by
  have hclean : (UrlPath.segments items).text.filter (fun c => !isTabOrBreak c) =
      (UrlPath.segments items).text := by
    rw [List.filter_eq_self]
    intro c hc
    rcases mem_settled_text h hc with rfl | ⟨hkept, -⟩
    · decide
    · have hbreaks : ∀ c ∈ ['\t', '\n', '\r'], inPathSet c ≠ false :=
        List.all_iff_forall_prop.mp (by decide)
      rw [Bool.not_eq_true', Bool.eq_false_iff]
      intro hbreak
      exact hbreaks c (by simpa [isTabOrBreak, or_assoc] using hbreak) hkept
  simp only [Url.setPath, hpath, hspecial, hclean, readPath_text hne h]

/-! ## Joining -/

section Joining

variable {u : Url} {relative : List Char}

theorem Readable.stacked (h : u.Readable) : Stacked u.namedSegments := by
  obtain ⟨items, hitems, -, hsettled⟩ := h.path
  unfold namedSegments
  rw [hitems]
  intro s hs
  obtain ⟨hmem, hsome⟩ := List.mem_filter.mp hs
  exact ⟨by simpa using hsome, hsettled s hmem⟩

theorem Readable.namedPieces (h : u.Readable) : namedPieces u.path.text = u.namedSegments := by
  obtain ⟨items, hitems, hne, hsettled⟩ := h.path
  unfold Url.namedPieces namedSegments
  rw [hitems, segments_text hne, splitAt, if_pos rfl,
    splitAt_joinWith (fun s hs => (hsettled s hs).slash) hne]
  rfl

def stackAfter (u : Url) (relative : List Char) : List (List Char) :=
  (splitAt '/' relative).foldl stepStack u.namedSegments

theorem Readable.joinPath (h : u.Readable) (hrelative : Unreserved relative) :
    u.joinPath relative = { u with
      path := .segments (stackItems (u.stackAfter relative) (relative.getLast? == some '/')) } := by
  obtain ⟨old, hold, -⟩ := h.path
  have hitems := (h.stacked.moved hrelative).items (relative.getLast? == some '/')
  unfold Url.joinPath
  rw [h.stacked.joinedPath hrelative]
  exact setPath_text hold h.web.special.1 (stackItems_ne_nil _ _) hitems.1

theorem Readable.namedSegments_joinPath (h : u.Readable) (hrelative : Unreserved relative) :
    (u.joinPath relative).namedSegments = u.stackAfter relative := by
  rw [h.joinPath hrelative]
  exact ((h.stacked.moved hrelative).items _).2

theorem Readable.joined (h : u.Readable) (relative : List Char) :
    (u.joinPath relative).Readable :=
  (h.setPath _).choose_spec.2

/-- Only what the second part ends in decides on a final slash. -/
theorem joinedPath_append (segments : List (List Char)) (first : List Char) {second : List Char}
    (hsecond : second ≠ []) :
    joinedPath segments (first ++ '/' :: second) =
      joinedPath ((splitAt '/' first).foldl stepStack segments) second := by
  have hlast : (first ++ '/' :: second).getLast? = second.getLast? := by
    rw [List.getLast?_append_of_ne_nil _ (List.cons_ne_nil _ _),
      List.getLast?_cons_of_ne_nil hsecond]
  unfold joinedPath
  rw [splitAt_append_cons, List.foldl_append, hlast]

theorem Readable.joinPath_joinPath (h : u.Readable) {first second : List Char}
    (hfirst : Unreserved first) (hsecond : second ≠ []) :
    (u.joinPath first).joinPath second = u.joinPath (first ++ '/' :: second) := by
  obtain ⟨old, hold, -⟩ := h.path
  have hstack := h.namedSegments_joinPath hfirst
  have hpath := joinedPath_append u.namedSegments first hsecond
  rw [Url.joinPath, hstack, h.joinPath hfirst, stackAfter, ← hpath, Url.joinPath]
  simp only [Url.setPath, hold]

theorem joinText_of_parse {base relative : String} (hbase : parse base = .ok u)
    (hsome : relative ≠ "") :
    joinText base relative = .ok (u.joinPath relative.toList).text := by
  rw [joinText_eq, hbase]
  exact congrArg Except.ok (if_neg hsome)

theorem joinText_nothing {base : String} (hbase : parse base = .ok u) :
    joinText base "" = .ok base := by
  rw [joinText_eq, hbase]
  rfl

theorem joinText_joinText {base first second : String} (hbase : parse base = .ok u)
    (hread : u.Readable) (hfirst : Unreserved first.toList) (hsome : second ≠ "") :
    (joinText base first >>= fun middle => joinText middle second) =
      joinText base (first ++ "/" ++ second) := by
  have hsecond : second.toList ≠ [] := by simpa using hsome
  have hboth : (first ++ "/" ++ second).toList = first.toList ++ '/' :: second.toList := by simp
  have hne : first ++ "/" ++ second ≠ "" := by
    rw [← String.toList_inj.ne, hboth]
    simp
  rw [joinText_of_parse hbase hne, hboth]
  by_cases hnone : first = ""
  · -- the slash in front of the second part only adds an empty segment
    rw [hnone, joinText_nothing hbase]
    simp only [bind, Except.bind]
    rw [joinText_of_parse hbase hsome, Url.joinPath, Url.joinPath,
      joinedPath_append _ _ hsecond]
    rfl
  · rw [joinText_of_parse hbase hnone]
    simp only [bind, Except.bind]
    rw [joinText_of_parse (hread.joined _).parse hsome, hread.joinPath_joinPath hfirst hsecond]

end Joining

/-- The path of a joined URL is the stack that the relative path leads to from the base, with a
final slash where the relative path has one and the stack is not empty. So joining one path and then
another is joining both at once, whatever the other one is. -/
theorem joinText_stack {base : String} {u : Url} (hbase : parse base = .ok u)
    (hweb : IsWeb u.scheme) :
    (∀ relative : String, relative ≠ "" → Unreserved relative.toList →
      ∃ stack joined, Moves (namedPieces u.path.text) (splitAt '/' relative.toList) stack ∧
        joinText base relative = .ok joined.text ∧ parse joined.text = .ok joined ∧
        joined.path.text = '/' :: joinWith '/' stack ++
          if stack ≠ [] ∧ relative.toList.getLast? = some '/' then ['/'] else []) ∧
    ∀ first second : String, Unreserved first.toList → second ≠ "" →
      (joinText base first >>= fun middle => joinText middle second) =
        joinText base (first ++ "/" ++ second) := by
  have hread := parse_readable hbase hweb
  constructor
  · intro relative hsome hrelative
    refine ⟨u.stackAfter relative.toList, u.joinPath relative.toList, ?_,
      joinText_of_parse hbase hsome, (hread.joined _).parse, ?_⟩
    · rw [hread.namedPieces]
      exact moves_iff.mpr rfl
    · rw [hread.joinPath hrelative, text_stackItems]
      simp only [beq_iff_eq]
  · exact fun first second hfirst hsome => joinText_joinText hbase hread hfirst hsome

def crookedBase : Url where
  scheme := "http"
  authority := some { host := .name "h".toList }
  path := .segments ["a".toList, [], "b".toList, []]
  query := some "q".toList

/-- More dots than segments, and a name that only looks like dots. -/
theorem joinText_stack_dots :
    parse "http://h/a//b/?q" = .ok crookedBase ∧
      (∃ stack, ∃ joined : Url, Moves ["a".toList, "b".toList]
          (splitAt '/' "../../../c/./.../".toList) stack ∧
        joinText "http://h/a//b/?q" "../../../c/./.../" = .ok joined.text ∧
        joined.path.text = "/c/.../".toList) ∧
      (joinText "http://h/a//b/?q" "../" >>= fun middle => joinText middle "x") =
        .ok "http://h/a/x?q" := by
  have hbase : parse "http://h/a//b/?q" = .ok crookedBase := by decide +kernel
  have hnamed : namedPieces crookedBase.path.text = ["a".toList, "b".toList] := by decide
  obtain ⟨hstack, htwice⟩ := joinText_stack hbase (by decide)
  obtain ⟨stack, joined, hmoves, htext, -, hpath⟩ :=
    hstack "../../../c/./.../" (by decide) (by decide)
  rw [hnamed] at hmoves
  have hend : stack = ["c".toList, "...".toList] := (moves_iff.mp hmoves).symm.trans (by decide)
  refine ⟨hbase, ⟨stack, joined, hmoves, htext, hpath.trans ?_⟩, ?_⟩
  · rw [hend]
    decide
  · rw [htwice "../" "x" (by decide) (by decide)]
    decide +kernel

end ClusterDeploy.Url
