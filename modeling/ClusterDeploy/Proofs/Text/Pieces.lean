import ClusterDeploy.Text.Blank
import Mathlib.Data.List.DropRight
import Mathlib.Data.List.Forall2
/-!
# Pieces, lines and blanks

Cutting at a separator and joining are the operations of the library of lists; what is joined from
pieces without the separator is cut into the same pieces. So are lines that line feeds end, and
trimming leaves alone what neither starts nor ends with a blank.
-/
namespace ClusterDeploy.Text

theorem splitAt_eq (sep : Char) (cs : List Char) : splitAt sep cs = cs.splitOn sep := by
  induction cs with
  | nil => rfl
  | cons c rest ih =>
    rw [splitAt, List.splitOn_cons_eq_if_modifyHead, ih]
    by_cases hc : c = sep
    · simp [hc]
    · have hne := List.splitOn_ne_nil sep rest
      cases hs : rest.splitOn sep with
      | nil => exact absurd hs hne
      | cons piece pieces => simp [hc]

theorem joinWith_eq (sep : Char) (pieces : List (List Char)) :
    joinWith sep pieces = [sep].intercalate pieces := by
  fun_induction joinWith sep pieces with
  | case1 => rfl
  | case2 piece => simp [List.intercalate]
  | case3 piece next more ih =>
    rw [ih]
    simp [List.intercalate]

theorem splitAt_joinWith {sep : Char} {pieces : List (List Char)}
    (h : ∀ piece ∈ pieces, sep ∉ piece) (hne : pieces ≠ []) :
    splitAt sep (joinWith sep pieces) = pieces := by
  rw [splitAt_eq, joinWith_eq, List.splitOn_intercalate sep h hne]

theorem rdropWhile_cons (p : α → Bool) (a : α) (rest : List α) :
    (a :: rest).rdropWhile p =
      match rest.rdropWhile p with
      | [] => if p a then [] else [a]
      | kept => a :: kept := by
  unfold List.rdropWhile
  rw [List.reverse_cons, List.dropWhile_append]
  cases rest.reverse.dropWhile p with
  | nil => by_cases ha : p a <;> simp [ha]
  | cons b more => simp

theorem trimRight_eq (cs : List Char) : trimRight cs = cs.rdropWhile isBlank := by
  induction cs with
  | nil => rfl
  | cons c rest ih =>
    rw [trimRight, rdropWhile_cons, ih]
    cases rest.rdropWhile isBlank <;> rfl

theorem splitAt_pieces {sep : Char} {cs piece : List Char} (h : piece ∈ splitAt sep cs) :
    sep ∉ piece := by
  induction cs generalizing piece with
  | nil => simp_all [splitAt]
  | cons c rest ih =>
    rw [splitAt] at h
    split at h
    · rcases List.mem_cons.mp h with rfl | h
      · simp
      · exact ih h
    · next hc =>
      split at h
      · next hs => exact absurd hs (splitAt_ne_nil sep rest)
      · next first more hs =>
        rcases List.mem_cons.mp h with rfl | h
        · have hfirst : sep ∉ first := ih (by simp [hs])
          simp [hfirst, Ne.symm hc]
        · exact ih (by simp [hs, h])

theorem splitAt_append {sep : Char} {tail : List Char} (h : sep ∉ tail) (cs : List Char) :
    ∃ init last, splitAt sep cs = init ++ [last] ∧
      splitAt sep (cs ++ tail) = init ++ [last ++ tail] := by
  induction cs with
  | nil =>
    refine ⟨[], [], rfl, ?_⟩
    rw [List.nil_append, splitAt_eq, List.splitOn_eq_singleton h]
    rfl
  | cons c rest ih =>
    obtain ⟨init, last, hrest, htail⟩ := ih
    rw [List.cons_append, splitAt, splitAt, hrest, htail]
    by_cases hc : c = sep
    · exact ⟨[] :: init, last, by simp [hc], by simp [hc]⟩
    · cases init with
      | nil => exact ⟨[], c :: last, by simp [hc], by simp [hc]⟩
      | cons piece init => exact ⟨(c :: piece) :: init, last, by simp [hc], by simp [hc]⟩

theorem mem_joinWith_of_mem {sep c : Char} {piece : List Char} {pieces : List (List Char)}
    (h : piece ∈ pieces) (hc : c ∈ piece) : c ∈ joinWith sep pieces := by
  fun_induction joinWith sep pieces with
  | case1 => cases h
  | case2 only => rwa [← List.mem_singleton.mp h]
  | case3 first next more ih =>
    rcases List.mem_cons.mp h with rfl | h
    · exact List.mem_append_left _ hc
    · exact List.mem_append_right _ (List.mem_cons_of_mem _ (ih h))

theorem joinWith_splitAt (sep : Char) (cs : List Char) : joinWith sep (splitAt sep cs) = cs := by
  rw [joinWith_eq, splitAt_eq, List.intercalate_splitOn]

theorem mem_of_mem_splitAt {sep c : Char} {cs piece : List Char} (h : piece ∈ splitAt sep cs)
    (hc : c ∈ piece) : c ∈ cs := by
  rw [← joinWith_splitAt sep cs]
  exact mem_joinWith_of_mem h hc

theorem mem_joinWith {sep c : Char} {pieces : List (List Char)} (h : c ∈ joinWith sep pieces) :
    c = sep ∨ ∃ piece ∈ pieces, c ∈ piece := by
  fun_induction joinWith sep pieces with
  | case1 => cases h
  | case2 piece => exact .inr ⟨piece, List.mem_cons_self, h⟩
  | case3 piece next more ih =>
    rcases List.mem_append.mp h with h | h
    · exact .inr ⟨piece, List.mem_cons_self, h⟩
    · rcases List.mem_cons.mp h with h | h
      · exact .inl h
      · rcases ih h with h | ⟨other, hother, h⟩
        · exact .inl h
        · exact .inr ⟨other, List.mem_cons_of_mem _ hother, h⟩

theorem splitAt_append_cons (sep : Char) (before after : List Char) :
    splitAt sep (before ++ sep :: after) = splitAt sep before ++ splitAt sep after := by
  rw [splitAt_eq, splitAt_eq, splitAt_eq]
  exact List.splitOnP_append_cons before after (beq_self_eq_true sep)

theorem mem_splitAt {sep c : Char} {cs : List Char} (h : c ∈ cs) (hc : c ≠ sep) :
    ∃ piece ∈ splitAt sep cs, c ∈ piece := by
  rw [← joinWith_splitAt sep cs] at h
  exact (mem_joinWith h).resolve_left hc

theorem joinWith_cons (sep : Char) (piece : List Char) {more : List (List Char)} (h : more ≠ []) :
    joinWith sep (piece :: more) = piece ++ sep :: joinWith sep more := by
  obtain ⟨next, more, rfl⟩ := List.exists_cons_of_ne_nil h
  rw [joinWith]

theorem joinWith_append (sep : Char) {front back : List (List Char)} (hfront : front ≠ [])
    (hback : back ≠ []) :
    joinWith sep (front ++ back) = joinWith sep front ++ sep :: joinWith sep back := by
  induction front with
  | nil => exact absurd rfl hfront
  | cons piece more ih =>
    rw [List.cons_append, joinWith_cons sep piece (List.append_ne_nil_of_right_ne_nil more hback)]
    by_cases hmore : more = []
    · rw [hmore]
      rfl
    · rw [ih hmore, joinWith_cons sep piece hmore, List.append_assoc, List.cons_append]

theorem splitOnce_append {sep : Char} {before : List Char} (h : sep ∉ before) (after : List Char) :
    splitOnce sep (before ++ sep :: after) = some (before, after) := by
  induction before with
  | nil => simp [splitOnce]
  | cons c more ih =>
    obtain ⟨hc, hmore⟩ := List.ne_and_not_mem_of_not_mem_cons h
    rw [List.cons_append, splitOnce, if_neg (Ne.symm hc), ih hmore]
    rfl

theorem splitOnce_eq_some {sep : Char} {cs before after : List Char}
    (h : splitOnce sep cs = some (before, after)) : cs = before ++ sep :: after ∧ sep ∉ before := by
  induction cs generalizing before with
  | nil => cases h
  | cons c rest ih =>
    rw [splitOnce] at h
    by_cases hc : c = sep
    · rw [if_pos hc] at h
      cases h
      exact ⟨by rw [hc]; rfl, by simp⟩
    · rw [if_neg hc] at h
      obtain ⟨⟨first, last⟩, hrest, hpair⟩ := Option.map_eq_some_iff.mp h
      cases hpair
      obtain ⟨heq, hfirst⟩ := ih hrest
      exact ⟨by rw [heq]; rfl, by simp [Ne.symm hc, hfirst]⟩

theorem splitOnce_eq_none {sep : Char} {cs : List Char} (h : sep ∉ cs) :
    splitOnce sep cs = none := by
  cases hsplit : splitOnce sep cs with
  | none => rfl
  | some pair =>
    obtain ⟨heq, -⟩ := splitOnce_eq_some hsplit
    exact absurd (heq ▸ List.mem_append_right pair.1 List.mem_cons_self) h

theorem splitOnce_eq_none_iff {sep : Char} {cs : List Char} :
    splitOnce sep cs = none ↔ sep ∉ cs := by
  refine ⟨fun h => ?_, splitOnce_eq_none⟩
  induction cs with
  | nil => simp
  | cons c rest ih =>
    rw [splitOnce] at h
    by_cases hc : c = sep
    · simp [hc] at h
    · simp only [hc, if_false, Option.map_eq_none_iff] at h
      simp [Ne.symm hc, ih h]

/-- What follows the last separator goes on for as long as there is no other one. -/
theorem afterLast_append {sep : Char} {tail : List Char} (h : sep ∉ tail) (cs : List Char) :
    ((cs ++ tail).reverse.takeWhile (· != sep)).reverse =
      (cs.reverse.takeWhile (· != sep)).reverse ++ tail := by
  have htail : ∀ c ∈ tail.reverse, (c != sep) = true := by
    intro c hc
    rw [bne_iff_ne]
    rintro rfl
    exact h (List.mem_reverse.mp hc)
  rw [List.reverse_append, List.takeWhile_append_of_pos htail, List.reverse_append,
    List.reverse_reverse]

theorem afterStart_eq_some_iff {start cs rest : List Char} :
    afterStart start cs = some rest ↔ cs = start ++ rest := by
  fun_induction afterStart start cs with
  | case1 cs => simp
  | case2 p ps => simp
  | case3 p ps cs ih => simp [ih]
  | case4 p ps c cs h => simp [Ne.symm h]

theorem afterStart_before {start : List Char} {sep : Char} (h : sep ∉ start)
    (cs after : List Char) :
    afterStart start (cs ++ sep :: after) = (afterStart start cs).map (· ++ sep :: after) := by
  fun_induction afterStart start cs with
  | case1 cs => simp [afterStart]
  | case2 p ps =>
    obtain ⟨hp, _⟩ := List.ne_and_not_mem_of_not_mem_cons h
    simp [afterStart, Ne.symm hp]
  | case3 p ps cs ih =>
    obtain ⟨_, hps⟩ := List.ne_and_not_mem_of_not_mem_cons h
    simp [afterStart, ih hps]
  | case4 p ps c cs hne => simp [afterStart, hne]

/-! ## Lines -/

theorem lines_cons {line : List Char} (h : '\n' ∉ line) (rest : List Char) :
    lines (line ++ '\n' :: rest) = dropReturn line :: lines rest := by
  have hpieces := splitAt_ne_nil '\n' rest
  rw [lines, splitAt_append_cons, splitAt_eq '\n' line, List.splitOn_eq_singleton h]
  obtain ⟨next, more, hrest⟩ := List.exists_cons_of_ne_nil hpieces
  rw [lines, hrest, List.singleton_append, closeLines]

theorem dropReturn_eq_self {line : List Char} (h : line.getLast? ≠ some '\r') :
    dropReturn line = line := by
  unfold dropReturn
  split
  · next hlast => exact absurd hlast h
  · rfl

theorem lines_append {texts : List (List Char)}
    (h : ∀ line ∈ texts, '\n' ∉ line ∧ line.getLast? ≠ some '\r') (rest : List Char) :
    lines (texts.flatMap (· ++ ['\n']) ++ rest) = texts ++ lines rest := by
  induction texts with
  | nil => rfl
  | cons line more ih =>
    obtain ⟨oneLine, noReturn⟩ := h line List.mem_cons_self
    have hmore := ih fun l hl => h l (List.mem_cons_of_mem _ hl)
    rw [List.flatMap_cons, List.append_assoc, List.append_assoc, List.singleton_append,
      lines_cons oneLine, dropReturn_eq_self noReturn, hmore, List.cons_append]

theorem lines_closed {texts : List (List Char)}
    (h : ∀ line ∈ texts, '\n' ∉ line ∧ line.getLast? ≠ some '\r') :
    lines (texts.flatMap (· ++ ['\n'])) = texts := by
  have hlines := lines_append h []
  rwa [List.append_nil, show lines [] = [] from rfl, List.append_nil] at hlines

theorem dropReturn_isStart (line : List Char) : dropReturn line <+: line := by
  unfold dropReturn
  split
  · exact List.dropLast_prefix line
  · exact List.prefix_rfl

theorem mem_closeLines {pieces : List (List Char)} {line : List Char}
    (h : line ∈ closeLines pieces) : ∃ piece ∈ pieces, line <+: piece := by
  fun_induction closeLines pieces with
  | case1 => cases h
  | case2 last => cases h
  | case3 last hlast =>
    exact ⟨last, List.mem_cons_self, List.mem_singleton.mp h ▸ List.prefix_rfl⟩
  | case4 first next more ih =>
    rcases List.mem_cons.mp h with rfl | h
    · exact ⟨first, List.mem_cons_self, dropReturn_isStart first⟩
    · obtain ⟨piece, hpiece, hstarts⟩ := ih h
      exact ⟨piece, List.mem_cons_of_mem _ hpiece, hstarts⟩

theorem line_no_feed {cs line : List Char} (h : line ∈ lines cs) : '\n' ∉ line := by
  obtain ⟨piece, hpiece, hstarts⟩ := mem_closeLines h
  intro hfeed
  exact splitAt_pieces hpiece (hstarts.subset hfeed)

/-! ## Blanks -/

theorem trimRight_isStart (cs : List Char) : trimRight cs <+: cs :=
  trimRight_eq cs ▸ List.rdropWhile_prefix isBlank cs

theorem trim_eq_self_iff {cs : List Char} :
    trim cs = cs ↔ (∀ c ∈ cs.head?, isBlank c = false) ∧ ∀ c ∈ cs.getLast?, isBlank c = false := by
  have hleft : trimLeft cs = cs ↔ ∀ c ∈ cs.head?, isBlank c = false := by
    cases cs <;> simp [trimLeft, List.dropWhile_eq_self_iff]
  have hright : trimRight cs = cs ↔ ∀ c ∈ cs.getLast?, isBlank c = false := by
    rw [trimRight_eq, List.rdropWhile_eq_self_iff]
    constructor
    · intro h c hc
      obtain ⟨hne, rfl⟩ := List.mem_getLast?_eq_getLast hc
      simpa using h hne
    · intro h hne
      simpa using h _ (List.getLast_mem_getLast? hne)
  rw [← hleft, ← hright]
  constructor
  · intro h
    have hsuffix : trimLeft cs <:+ cs := List.dropWhile_suffix _
    have hlength := (trimRight_isStart (trimLeft cs)).length_le
    have hkept : trimLeft cs = cs := by
      apply hsuffix.eq_of_length_le
      rwa [← trim, h] at hlength
    refine ⟨hkept, ?_⟩
    rwa [trim, hkept] at h
  · rintro ⟨h, h'⟩
    rw [trim, h, h']

theorem trim_cons {c : Char} (h : isBlank c = false) (rest : List Char) :
    ∃ kept, trim (c :: rest) = c :: kept := by
  have hleft : trimLeft (c :: rest) = c :: rest := by simp [trimLeft, h]
  rw [trim, hleft, trimRight]
  split
  · exact ⟨[], by simp [h]⟩
  · exact ⟨_, rfl⟩

theorem trim_append_blank {c : Char} (h : isBlank c = true) (cs : List Char) :
    trim (cs ++ [c]) = trim cs := by
  unfold trim trimLeft
  rw [List.dropWhile_append]
  cases hleft : cs.dropWhile isBlank with
  | nil => simp [h, trimRight]
  | cons first rest =>
    rw [trimRight_eq, trimRight_eq]
    exact List.rdropWhile_concat_pos isBlank _ c h

/-- A carriage return at the end of a line is trimmed away anyway. -/
theorem trim_dropReturn (line : List Char) : trim (dropReturn line) = trim line := by
  unfold dropReturn
  split
  · next hlast =>
    obtain ⟨init, rfl⟩ := List.getLast?_eq_some_iff.mp hlast
    rw [List.dropLast_concat, trim_append_blank (by decide)]
  · rfl

/-- But for blanks at their ends, lines are what stands between the line feeds; only an empty piece
after the last one is no line. -/
theorem trim_lines (cs : List Char) :
    (splitAt '\n' cs).map trim = (lines cs).map trim ∨
      (splitAt '\n' cs).map trim = (lines cs).map trim ++ [[]] := by
  unfold lines
  fun_induction closeLines (splitAt '\n' cs) with
  | case1 => exact .inl rfl
  | case2 last h => exact .inr (by rw [List.isEmpty_iff.mp h]; rfl)
  | case3 last h => exact .inl rfl
  | case4 line next more ih =>
    have hline (rest : List (List Char)) :
        (dropReturn line :: rest).map trim = trim line :: rest.map trim := by
      rw [List.map_cons, trim_dropReturn]
    rw [hline, List.map_cons]
    rcases ih with ih | ih
    · exact .inl (congrArg _ ih)
    · exact .inr (congrArg _ ih)

theorem trim_part (cs : List Char) : trim cs <:+: cs :=
  (trimRight_isStart _).isInfix.trans (List.dropWhile_suffix _).isInfix

theorem trim_trim (cs : List Char) : trim (trim cs) = trim cs := by
  have hleft : trimLeft (trim cs) = trim cs := by
    rw [trimLeft, List.dropWhile_eq_self_iff]
    intro hpos
    have hhead := List.head?_dropWhile_not isBlank cs
    obtain ⟨rest, hrest⟩ := trimRight_isStart (trimLeft cs)
    rw [← trimLeft, ← hrest, ← trim, List.head?_append_of_ne_nil _ (List.ne_nil_of_length_pos hpos),
      List.head?_eq_getElem?, List.getElem?_eq_getElem hpos] at hhead
    simpa using hhead
  calc trim (trim cs) = trimRight (trimRight (trimLeft cs)) := by rw [trim, hleft, trim]
    _ = trim cs := by
      rw [trimRight_eq, trimRight_eq, List.rdropWhile_idempotent, ← trimRight_eq, trim]

/-! ## Reading piece by piece -/

theorem mapM_eq_some_iff {f : α → Option β} {inputs : List α} {outputs : List β} :
    inputs.mapM f = some outputs ↔ List.Forall₂ (fun a b => f a = some b) inputs outputs := by
  induction inputs generalizing outputs with
  | nil =>
    rw [List.forall₂_nil_left_iff, List.mapM_nil]
    exact ⟨fun h => (Option.some.inj h).symm, fun h => h ▸ rfl⟩
  | cons a more ih =>
    rw [List.mapM_cons, List.forall₂_cons_left_iff]
    constructor
    · intro h
      obtain ⟨b, hb, h⟩ := Option.bind_eq_some_iff.mp h
      obtain ⟨rest, hrest, h⟩ := Option.bind_eq_some_iff.mp h
      cases h
      exact ⟨b, rest, hb, ih.mp hrest, rfl⟩
    · rintro ⟨b, rest, hb, hrest, rfl⟩
      rw [hb, ih.mpr hrest]
      rfl

theorem mapM_some {f : α → Option β} {inputs : List α} {outputs : List β}
    (h : inputs.mapM f = some outputs) : ∀ b ∈ outputs, ∃ a ∈ inputs, f a = some b := by
  induction mapM_eq_some_iff.mp h with
  | nil => exact fun _ hb => by cases hb
  | cons hb hrest ih =>
    refine List.forall_mem_cons.mpr ⟨⟨_, List.mem_cons_self, hb⟩, fun b hmem => ?_⟩
    obtain ⟨a, ha, hab⟩ := ih (mapM_eq_some_iff.mpr hrest) b hmem
    exact ⟨a, List.mem_cons_of_mem _ ha, hab⟩

end ClusterDeploy.Text
