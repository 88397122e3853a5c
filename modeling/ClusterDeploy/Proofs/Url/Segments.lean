import ClusterDeploy.Proofs.Text.Pieces
import ClusterDeploy.Proofs.Url.Percent
import ClusterDeploy.Url.Parse
/-!
# The segments that a path is read as

Reading a path leaves no dot segment over, however the dots are written, and no character that would
end a segment or the path. What is left over is therefore read as it is when it is written out
again.
-/
namespace ClusterDeploy.Url

open Text

/-! ## Dot segments -/

/-- The segment means the current folder or the one above, whether its dots are escaped or not. -/
def IsDots (segment : List Char) : Prop :=
  percentDecode segment = [0x2E] ∨ percentDecode segment = [0x2E, 0x2E]

theorem percentDecode_eq_dot {s : List Char} (h : percentDecode s = [0x2E]) :
    s = ['.'] ∨ s = ['%', '2', 'e'] ∨ s = ['%', '2', 'E'] := by
  obtain ⟨rest, hrest, hs⟩ := percentDecode_eq_dot_cons h
  rwa [percentDecode_eq_nil_iff.mp hrest] at hs

theorem IsDots.found {segment : List Char} (h : IsDots segment) :
    isSingleDot segment = true ∨ isDoubleDot segment = true := by
  rcases h with h | h
  · left
    rcases percentDecode_eq_dot h with rfl | rfl | rfl <;> decide
  · right
    obtain ⟨rest, hrest, rfl | rfl | rfl⟩ := percentDecode_eq_dot_cons h <;>
      rcases percentDecode_eq_dot hrest with rfl | rfl | rfl <;> decide

/-! ## Resolution -/

/-- Resolution leaves only empty segments and segments that were there and are no dots. -/
theorem mem_resolveFrom {stack segments : List (List Char)} {s : List Char}
    (h : s ∈ resolveFrom stack segments) :
    s ∈ stack ∨ s = [] ∨ s ∈ segments ∧ isDoubleDot s = false ∧ isSingleDot s = false := by
  fun_induction resolveFrom stack segments with
  | case1 stack => exact .inl (List.mem_reverse.mp h)
  | case2 stack last _ =>
    rcases List.mem_cons.mp (List.mem_reverse.mp h) with h | h
    · exact .inr (.inl h)
    · exact .inl (List.drop_subset _ _ h)
  | case3 stack last _ _ =>
    rcases List.mem_cons.mp (List.mem_reverse.mp h) with h | h
    · exact .inr (.inl h)
    · exact .inl h
  | case4 stack last hdouble hsingle =>
    rcases List.mem_cons.mp (List.mem_reverse.mp h) with rfl | h
    · exact .inr (.inr ⟨List.mem_singleton_self _, by simpa using hdouble, by simpa using hsingle⟩)
    · exact .inl h
  | case5 stack s' next more _ ih =>
    rcases ih h with h | h | ⟨h, hdots⟩
    · exact .inl (List.drop_subset _ _ h)
    · exact .inr (.inl h)
    · exact .inr (.inr ⟨List.mem_cons_of_mem _ h, hdots⟩)
  | case6 stack s' next more _ _ ih =>
    rcases ih h with h | h | ⟨h, hdots⟩
    · exact .inl h
    · exact .inr (.inl h)
    · exact .inr (.inr ⟨List.mem_cons_of_mem _ h, hdots⟩)
  | case7 stack s' next more hdouble hsingle ih =>
    rcases ih h with h | h | ⟨h, hdots⟩
    · rcases List.mem_cons.mp h with rfl | h
      · exact .inr (.inr ⟨List.mem_cons_self, by simpa using hdouble, by simpa using hsingle⟩)
      · exact .inl h
    · exact .inr (.inl h)
    · exact .inr (.inr ⟨List.mem_cons_of_mem _ h, hdots⟩)

theorem resolveFrom_ne_nil (stack : List (List Char)) {segments : List (List Char)}
    (h : segments ≠ []) : resolveFrom stack segments ≠ [] := by
  fun_induction resolveFrom stack segments with
  | case1 => exact absurd rfl h
  | case2 => simp
  | case3 => simp
  | case4 => simp
  | case5 stack s next more _ ih => exact ih (List.cons_ne_nil _ _)
  | case6 stack s next more _ _ ih => exact ih (List.cons_ne_nil _ _)
  | case7 stack s next more _ _ ih => exact ih (List.cons_ne_nil _ _)

theorem resolveFrom_eq_append {segments : List (List Char)} (stack : List (List Char))
    (h : ∀ s ∈ segments, isDoubleDot s = false ∧ isSingleDot s = false) :
    resolveFrom stack segments = stack.reverse ++ segments := by
  induction segments generalizing stack with
  | nil => simp [resolveFrom]
  | cons s more ih =>
    obtain ⟨⟨hdouble, hsingle⟩, hmore⟩ := List.forall_mem_cons.mp h
    cases more with
    | nil => simp [resolveFrom, hdouble, hsingle]
    | cons next more =>
      have hstep : resolveFrom stack (s :: next :: more) =
          resolveFrom (s :: stack) (next :: more) := by
        simp [resolveFrom, hdouble, hsingle]
      rw [hstep, ih _ hmore]
      simp

/-! ## Segments that are read as they are -/

structure Settled (segment : List Char) : Prop where
  kept : Kept inPathSet segment
  slash : '/' ∉ segment
  backslash : '\\' ∉ segment
  double : isDoubleDot segment = false
  single : isSingleDot segment = false

theorem settled_nil : Settled [] := by
  constructor <;> decide

theorem Settled.not_isDots {segment : List Char} (h : Settled segment) : ¬ IsDots segment := by
  intro hdots
  rcases hdots.found with hdot | hdot
  · rw [h.single] at hdot
    cases hdot
  · rw [h.double] at hdot
    cases hdot

theorem settled_of_mem_resolved {cs s : List Char} (hback : '\\' ∉ cs)
    (h : s ∈ resolveFrom [] ((splitAt '/' cs).map (percentEncode inPathSet))) : Settled s := by
  rcases mem_resolveFrom h with hs | rfl | ⟨hs, hdouble, hsingle⟩
  · cases hs
  · exact settled_nil
  · obtain ⟨piece, hpiece, rfl⟩ := List.mem_map.mp hs
    refine ⟨kept_percentEncode (by decide) piece, ?_, ?_, hdouble, hsingle⟩
    · exact not_mem_percentEncode (by decide) (splitAt_pieces hpiece)
    · exact not_mem_percentEncode (by decide) fun hc => hback (mem_of_mem_splitAt hpiece hc)

theorem backslash_slashed (cs : List Char) : '\\' ∉ slashed true cs := by
  intro h
  obtain ⟨c, _, hc⟩ := List.mem_map.mp h
  split at hc
  · cases hc
  · next hne => exact hne hc

theorem slashed_eq_self {cs : List Char} (h : '\\' ∉ cs) : slashed true cs = cs := by
  have hsame : ∀ c ∈ cs, (if c = '\\' then '/' else c) = c := by
    intro c hc
    refine if_neg ?_
    rintro rfl
    exact h hc
  exact (List.map_congr_left hsame).trans (List.map_id' cs)

theorem readPath_settled (cs : List Char) :
    ∃ items, readPath true cs = .segments items ∧ items ≠ [] ∧ ∀ s ∈ items, Settled s := by
  have hback := backslash_slashed cs
  have hresolved (rest : List Char) :
      resolveFrom [] ((splitAt '/' rest).map (percentEncode inPathSet)) ≠ [] :=
    resolveFrom_ne_nil [] (by simpa using splitAt_ne_nil '/' rest)
  unfold readPath
  split
  · exact ⟨[[]], rfl, List.cons_ne_nil _ _, by simpa using settled_nil⟩
  · next rest hrest =>
    rw [hrest] at hback
    exact ⟨_, rfl, hresolved rest, fun s hs =>
      settled_of_mem_resolved (fun hc => hback (List.mem_cons_of_mem _ hc)) hs⟩
  · exact ⟨_, rfl, hresolved _, fun s hs => settled_of_mem_resolved hback hs⟩

theorem segments_text {items : List (List Char)} (h : items ≠ []) :
    (UrlPath.segments items).text = '/' :: joinWith '/' items := by
  induction items with
  | nil => exact absurd rfl h
  | cons s more ih =>
    cases more with
    | nil => simp [UrlPath.text, joinWith]
    | cons next more =>
      have hmore : (UrlPath.segments (s :: next :: more)).text =
          '/' :: (s ++ (UrlPath.segments (next :: more)).text) := by simp [UrlPath.text]
      rw [hmore, ih (List.cons_ne_nil _ _), joinWith_cons _ _ (List.cons_ne_nil _ _)]

theorem mem_segments_text {items : List (List Char)} {c : Char}
    (h : c ∈ (UrlPath.segments items).text) : c = '/' ∨ ∃ s ∈ items, c ∈ s := by
  obtain ⟨s, hs, hc⟩ := List.mem_flatMap.mp h
  exact (List.mem_cons.mp hc).imp_right fun hc => ⟨s, hs, hc⟩

/-- A path of such segments is made of visible characters, none of which ends it. -/
theorem mem_settled_text {items : List (List Char)} (h : ∀ s ∈ items, Settled s) {c : Char}
    (hc : c ∈ (UrlPath.segments items).text) : c = '/' ∨ inPathSet c = false ∧ c ≠ '\\' := by
  refine (mem_segments_text hc).imp_right fun ⟨s, hs, hc⟩ => ⟨(h s hs).kept c hc, fun heq => ?_⟩
  exact (h s hs).backslash (heq ▸ hc)

/-- What is left of a path is left of it again. -/
theorem readPath_text {items : List (List Char)} (hne : items ≠ []) (h : ∀ s ∈ items, Settled s) :
    readPath true (UrlPath.segments items).text = .segments items := by
  have hback : '\\' ∉ (UrlPath.segments items).text := fun hc =>
    (mem_settled_text h hc).elim (by decide) fun hc => hc.2 rfl
  have hkept : items.map (percentEncode inPathSet) = items :=
    (List.map_congr_left fun s hs => (h s hs).kept.percentEncode).trans (List.map_id _)
  rw [readPath, slashed_eq_self hback, segments_text hne]
  simp only [splitAt_joinWith (fun s hs => (h s hs).slash) hne, hkept,
    resolveFrom_eq_append [] fun s hs => ⟨(h s hs).double, (h s hs).single⟩, List.reverse_nil,
    List.nil_append]

end ClusterDeploy.Url
