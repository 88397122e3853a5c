import ClusterDeploy.Proofs.Environment.File
/-!
# The grammar of environment files

A line is blank, a comment, an assignment or wrong, and which of them it is and what it assigns is
told here without reading it: by relations between what is written and what is meant. The parser
refuses a text at its first wrong line, keeps the last assignment of each name, and reads two texts
with a line feed between them as one after the other.
-/
namespace ClusterDeploy

namespace Environment

/-- Of the entries put in one after the other, the last one of a name counts. -/
theorem get?_foldl_set (entries : List (String × String)) (e : Environment) (name : String) :
    (entries.foldl (fun e entry => e.set entry.1 entry.2) e).get? name =
      ((entries.reverse.find? fun entry => entry.1 == name).map (·.2)).or (e.get? name) := by
  induction entries generalizing e with
  | nil => rfl
  | cons entry more ih =>
    rw [List.foldl_cons, ih, get?_set, List.reverse_cons, List.find?_append]
    cases more.reverse.find? fun entry => entry.1 == name with
    | some last => rfl
    | none =>
      by_cases same : name = entry.1
      · simp [same]
      · simp [same, Ne.symm same]

theorem get?_ofList (entries : List (String × String)) (name : String) :
    (ofList entries).get? name =
      (entries.reverse.find? fun entry => entry.1 == name).map (·.2) := by
  rw [ofList, get?_foldl_set]
  exact Option.or_none

theorem get?_ofList_append (entries later : List (String × String)) (name : String) :
    (ofList (entries ++ later)).get? name =
      ((ofList later).get? name).or ((ofList entries).get? name) := by
  rw [ofList, List.foldl_append, get?_foldl_set, ← get?_ofList]
  rfl

end Environment

namespace Dotenv

open Text

/-! ## What is written and what is meant -/

/-- What stands between double quotes, and the text that it spells. -/
inductive Spells : List Char → List Char → Prop
  | nil : Spells [] []
  | lone : Spells ['\\'] ['\\']
  | feed {written text} (rest : Spells written text) :
      Spells ('\\' :: 'n' :: written) ('\n' :: text)
  | escaped {c written text} (other : c ≠ 'n') (rest : Spells written text) :
      Spells ('\\' :: c :: written) (c :: text)
  | plain {c written text} (other : c ≠ '\\') (rest : Spells written text) :
      Spells (c :: written) (c :: text)

inductive Means : List Char → List Char → Prop
  | double {inner text} (spelled : Spells inner text) : Means ('"' :: (inner ++ ['"'])) text
  | single {inner} : Means ('\'' :: (inner ++ ['\''])) inner
  | bare {written}
      (unquoted : ∀ quote ∈ ['"', '\''], ∀ inner, written ≠ quote :: (inner ++ [quote])) :
      Means written written

/-- A line with and without the word that may stand in front. -/
inductive Exports : List Char → List Char → Prop
  | word {rest} : Exports (exportWord ++ rest) rest
  | none {line} (without : ¬ exportWord <+: line) : Exports line line

def Counts (raw : List Char) : Prop := trim raw ≠ [] ∧ (trim raw).head? ≠ some '#'

instance (raw : List Char) : Decidable (Counts raw) := inferInstanceAs (Decidable (_ ∧ _))

def Wrong (raw : List Char) : Prop := Counts raw ∧ '=' ∉ trim raw

instance (raw : List Char) : Decidable (Wrong raw) := inferInstanceAs (Decidable (_ ∧ _))

def Assigns (raw name value : List Char) : Prop :=
  Counts raw ∧ ∃ key written, Exports (trim raw) (key ++ '=' :: written) ∧ '=' ∉ key ∧
    name = trim key ∧ Means (trim written) value

theorem spells_iff {written text : List Char} : Spells written text ↔ unescape written = text := by
  constructor
  · intro h
    induction h with
    | nil => rfl
    | lone => rfl
    | feed rest ih => rw [unescape, ih]; rfl
    | escaped other rest ih => rw [unescape, ih, if_neg other]
    | plain other rest ih =>
      rw [unescape, ih]
      · exact fun hc _ => other hc
      · exact fun _ _ hc _ => other hc
  · rintro rfl
    fun_induction unescape written with
    | case1 => exact .nil
    | case2 => exact .lone
    | case3 c rest ih =>
      by_cases hc : c = 'n'
      · rw [if_pos hc, hc]
        exact .feed ih
      · rw [if_neg hc]
        exact .escaped hc ih
    | case4 c rest hlone hpair ih =>
      refine .plain (fun hc => ?_) ih
      cases rest with
      | nil => exact hlone (by rw [hc]) rfl
      | cons d more => exact hpair d more hc rfl

theorem quoted_iff {quote : Char} {rest : List Char} :
    rest.getLast? = some quote ↔ ∃ inner, quote :: rest = quote :: (inner ++ [quote]) := by
  rw [List.getLast?_eq_some_iff]
  simp

theorem unquote_bare {written : List Char}
    (unquoted : ∀ quote ∈ ['"', '\''], ∀ inner, written ≠ quote :: (inner ++ [quote])) :
    unquote written = written := by
  unfold unquote
  split
  · refine if_neg fun hlast => ?_
    obtain ⟨inner, hinner⟩ := quoted_iff.mp hlast
    exact unquoted '"' (by simp) inner hinner
  · refine if_neg fun hlast => ?_
    obtain ⟨inner, hinner⟩ := quoted_iff.mp hlast
    exact unquoted '\'' (by simp) inner hinner
  · rfl

theorem means_iff {written value : List Char} : Means written value ↔ unquote written = value := by
  constructor
  · rintro (spelled | _ | unquoted)
    · simp [unquote, spells_iff.mp spelled]
    · simp [unquote]
    · exact unquote_bare unquoted
  · rintro rfl
    by_cases hdouble : ∃ inner, written = '"' :: (inner ++ ['"'])
    · obtain ⟨inner, rfl⟩ := hdouble
      have hvalue : unquote ('"' :: (inner ++ ['"'])) = unescape inner := by simp [unquote]
      rw [hvalue]
      exact .double (spells_iff.mpr rfl)
    by_cases hsingle : ∃ inner, written = '\'' :: (inner ++ ['\''])
    · obtain ⟨inner, rfl⟩ := hsingle
      have hvalue : unquote ('\'' :: (inner ++ ['\''])) = inner := by simp [unquote]
      rw [hvalue]
      exact .single
    have unquoted : ∀ quote ∈ ['"', '\''], ∀ inner, written ≠ quote :: (inner ++ [quote]) := by
      intro quote hquote inner hwritten
      rcases List.mem_pair.mp hquote with rfl | rfl
      · exact hdouble ⟨inner, hwritten⟩
      · exact hsingle ⟨inner, hwritten⟩
    rw [unquote_bare unquoted]
    exact .bare unquoted

theorem exports_iff {line rest : List Char} :
    Exports line rest ↔ (afterStart exportWord line).getD line = rest := by
  cases hstart : afterStart exportWord line with
  | some after =>
    obtain rfl := afterStart_eq_some_iff.mp hstart
    rw [Option.getD_some]
    constructor
    · generalize hline : exportWord ++ after = line
      rintro (_ | without)
      · exact List.append_cancel_left hline
      · exact absurd ⟨after, hline⟩ without
    · rintro rfl
      exact .word
  | none =>
    have without : ¬ exportWord <+: line := by
      rintro ⟨after, hline⟩
      rw [afterStart_eq_some_iff.mpr hline.symm] at hstart
      cases hstart
    rw [Option.getD_none]
    constructor
    · rintro (_ | _)
      · exact absurd (List.prefix_append _ _) without
      · rfl
    · rintro rfl
      exact .none without

/-! ## Lines -/

section Lines

variable {raw : List Char}

theorem counts_iff : Counts raw ↔ ((trim raw).isEmpty || (trim raw).head? == some '#') = false := by
  simp [Counts]

theorem read_of_not_counts (h : ¬ Counts raw) : Line.read raw = .idle := by
  have hidle : ((trim raw).isEmpty || (trim raw).head? == some '#') = true := by
    rwa [counts_iff, Bool.not_eq_false] at h
  rw [Line.read, if_pos hidle]

theorem read_of_counts (h : Counts raw) :
    Line.read raw =
      match splitOnce '=' ((afterStart exportWord (trim raw)).getD (trim raw)) with
      | none => .wrong
      | some (name, value) => .entry (trim name) (unquote (trim value)) := by
  have hbusy : ¬ ((trim raw).isEmpty || (trim raw).head? == some '#') = true := by
    rw [counts_iff.mp h]
    exact Bool.false_ne_true
  rw [Line.read]
  exact if_neg hbusy

theorem equals_mem_iff (line : List Char) :
    '=' ∈ (afterStart exportWord line).getD line ↔ '=' ∈ line := by
  cases hstart : afterStart exportWord line with
  | none => rfl
  | some rest =>
    have hword : '=' ∉ exportWord := by decide
    rw [afterStart_eq_some_iff.mp hstart, Option.getD_some, List.mem_append]
    simp [hword]

theorem read_eq_wrong_iff : Line.read raw = .wrong ↔ Wrong raw := by
  by_cases hcounts : Counts raw
  case neg => simp [read_of_not_counts hcounts, Wrong, hcounts]
  rw [read_of_counts hcounts, Wrong, ← equals_mem_iff]
  cases hsplit : splitOnce '=' ((afterStart exportWord (trim raw)).getD (trim raw)) with
  | none =>
    simp [hcounts, splitOnce_eq_none_iff.mp hsplit]
  | some parts =>
    obtain ⟨hline, -⟩ := splitOnce_eq_some hsplit
    simp [hline]

theorem read_eq_entry_iff {name value : List Char} :
    Line.read raw = .entry name value ↔ Assigns raw name value := by
  by_cases hcounts : Counts raw
  case neg => simp [read_of_not_counts hcounts, Assigns, hcounts]
  rw [read_of_counts hcounts, Assigns]
  constructor
  · intro h
    split at h
    · cases h
    · next key written hsplit =>
      cases h
      obtain ⟨hline, hkey⟩ := splitOnce_eq_some hsplit
      exact ⟨hcounts, key, written, exports_iff.mpr hline, hkey, rfl, means_iff.mpr rfl⟩
  · rintro ⟨-, key, written, hexports, hkey, rfl, hmeans⟩
    rw [exports_iff.mp hexports, splitOnce_append hkey]
    simp only [means_iff.mp hmeans]

/-- Blanks around a line do not count. -/
theorem read_trim (raw : List Char) : Line.read (trim raw) = Line.read raw := by
  rw [Line.read, Line.read, trim_trim]

theorem wrong_trim : Wrong (trim raw) ↔ Wrong raw := by
  rw [← read_eq_wrong_iff, read_trim, read_eq_wrong_iff]

def assignment? (raw : List Char) : Option (String × String) :=
  match Line.read raw with
  | .entry name value => some (String.ofList name, String.ofList value)
  | _ => none

theorem assignment?_trim (raw : List Char) : assignment? (trim raw) = assignment? raw := by
  rw [assignment?, read_trim, assignment?]

theorem assignment?_eq_some_iff {name value : String} :
    assignment? raw = some (name, value) ↔ Assigns raw name.toList value.toList := by
  rw [← read_eq_entry_iff, assignment?]
  cases Line.read raw with
  | idle => simp
  | wrong => simp
  | entry key text =>
    simp only [Option.some_inj, Prod.mk.injEq, Line.entry.injEq]
    rw [← String.toList_inj, ← String.toList_inj, String.toList_ofList, String.toList_ofList]

theorem assignment?_of_not_counts (h : ¬ Counts raw) : assignment? raw = none := by
  rw [assignment?, read_of_not_counts h]

end Lines

/-! ## Texts -/

section Texts

variable {number : Nat} {raw : List Char} {raws : List (List Char)}

theorem readLines_of_wrong (h : Wrong raw) (number : Nat) (more : List (List Char)) :
    readLines number (raw :: more) = .error (number, String.ofList raw) := by
  rw [readLines, read_eq_wrong_iff.mpr h]

theorem readLines_of_not_wrong (h : ¬ Wrong raw) (number : Nat) (more : List (List Char)) :
    readLines number (raw :: more) =
      (readLines (number + 1) more).map ((assignment? raw).toList ++ ·) := by
  rw [readLines, assignment?]
  cases hread : Line.read raw with
  | wrong => exact absurd (read_eq_wrong_iff.mp hread) h
  | idle => cases readLines (number + 1) more <;> rfl
  | entry name value => rfl

theorem readLines_ok_iff {entries : List (String × String)} :
    readLines number raws = .ok entries ↔
      (∀ raw ∈ raws, ¬ Wrong raw) ∧ entries = raws.filterMap assignment? := by
  induction raws generalizing number entries with
  | nil => simp [readLines, eq_comm]
  | cons raw more ih =>
    by_cases hraw : Wrong raw
    · simp [readLines_of_wrong hraw, hraw]
    have hkept : (raw :: more).filterMap assignment? =
        (assignment? raw).toList ++ more.filterMap assignment? := by
      cases h : assignment? raw <;> simp [h]
    rw [readLines_of_not_wrong hraw, hkept, List.forall_mem_cons]
    cases hmore : readLines (number + 1) more with
    | error e =>
      have hwrong : ¬ ∀ raw ∈ more, ¬ Wrong raw := fun h => by
        rw [ih.mpr ⟨h, rfl⟩] at hmore
        cases hmore
      simp [Except.map, hwrong]
    | ok rest =>
      obtain ⟨hright, rfl⟩ := ih.mp hmore
      simp only [Except.map, Except.ok.injEq]
      exact ⟨fun h => ⟨⟨hraw, hright⟩, h.symm⟩, fun h => h.2.symm⟩

theorem readLines_error_iff {line : Nat} {content : String} :
    readLines number raws = .error (line, content) ↔
      ∃ before raw after, raws = before ++ raw :: after ∧ line = number + before.length ∧
        content = String.ofList raw ∧ Wrong raw ∧ ∀ other ∈ before, ¬ Wrong other := by
  induction raws generalizing number with
  | nil => simp [readLines]
  | cons raw more ih =>
    by_cases hraw : Wrong raw
    · rw [readLines_of_wrong hraw]
      constructor
      · intro h
        cases h
        exact ⟨[], raw, more, rfl, rfl, rfl, hraw, by simp⟩
      · rintro ⟨before, first, after, hsplit, rfl, rfl, -, hbefore⟩
        cases before with
        | nil =>
          obtain ⟨rfl, -⟩ := List.cons.inj hsplit
          rfl
        | cons other before =>
          obtain ⟨rfl, -⟩ := List.cons.inj hsplit
          exact absurd hraw (hbefore raw List.mem_cons_self)
    · have hlater : readLines number (raw :: more) = .error (line, content) ↔
          readLines (number + 1) more = .error (line, content) := by
        rw [readLines_of_not_wrong hraw]
        cases readLines (number + 1) more <;> simp [Except.map]
      rw [hlater, ih]
      constructor
      · rintro ⟨before, first, after, rfl, rfl, hrest⟩
        refine ⟨raw :: before, first, after, rfl, ?_, hrest.1, hrest.2.1, ?_⟩
        · rw [List.length_cons]
          omega
        · exact List.forall_mem_cons.mpr ⟨hraw, hrest.2.2⟩
      · rintro ⟨before, first, after, hsplit, rfl, rfl, hfirst, hbefore⟩
        cases before with
        | nil =>
          obtain ⟨rfl, -⟩ := List.cons.inj hsplit
          exact absurd hfirst hraw
        | cons other before =>
          obtain ⟨rfl, rfl⟩ := List.cons.inj hsplit
          refine ⟨before, first, after, rfl, ?_, rfl, hfirst, ?_⟩
          · rw [List.length_cons]
            omega
          · exact (List.forall_mem_cons.mp hbefore).2

/-- Without its number, a fault does not depend on the lines that do not count. -/
theorem readLines_filter (number number' : Nat) (raws : List (List Char)) :
    (readLines number raws).mapError Prod.snd =
      (readLines number' (raws.filter fun raw => Counts raw)).mapError Prod.snd := by
  induction raws generalizing number number' with
  | nil => rfl
  | cons raw more ih =>
    by_cases hcounts : Counts raw
    · rw [List.filter_cons_of_pos (by simpa using hcounts)]
      by_cases hraw : Wrong raw
      · rw [readLines_of_wrong hraw, readLines_of_wrong hraw]
        rfl
      · rw [readLines_of_not_wrong hraw, readLines_of_not_wrong hraw]
        have hmore := ih (number + 1) (number' + 1)
        cases h : readLines (number + 1) more <;>
          cases h' : readLines (number' + 1) (more.filter fun raw => Counts raw) <;>
          simp_all [Except.map, Except.mapError]
    · have hraw : ¬ Wrong raw := fun h => hcounts h.1
      rw [List.filter_cons_of_neg (by simpa using hcounts), readLines_of_not_wrong hraw,
        assignment?_of_not_counts hcounts, ← ih (number + 1) number']
      cases readLines (number + 1) more <;> rfl

def assigned (raws : List (List Char)) : Environment := .ofList (raws.filterMap assignment?)

variable {text rest : List Char} {e : Environment}

theorem parse_ok_iff :
    parse text = .ok e ↔ (∀ raw ∈ lines text, ¬ Wrong raw) ∧ e = assigned (lines text) := by
  rw [parse, assigned]
  cases hread : readLines 1 (lines text) with
  | error fault =>
    have hwrong : ¬ ∀ raw ∈ lines text, ¬ Wrong raw := fun h => by
      rw [readLines_ok_iff.mpr ⟨h, rfl⟩] at hread
      cases hread
    simp [Except.map, hwrong]
  | ok entries =>
    obtain ⟨hright, rfl⟩ := readLines_ok_iff.mp hread
    simp only [Except.map, Except.ok.injEq]
    exact ⟨fun h => ⟨hright, h.symm⟩, fun h => h.2.symm⟩

theorem parse_error_iff {line : Nat} {content : String} :
    parse text = .error (line, content) ↔ readLines 1 (lines text) = .error (line, content) := by
  rw [parse]
  cases readLines 1 (lines text) <;> simp [Except.map]

/-- It makes no difference to a text whether the line ends are taken off its pieces. -/
theorem parse_ok_iff_pieces :
    parse text = .ok e ↔ (∀ piece ∈ splitAt '\n' text, ¬ Wrong piece) ∧
      e = assigned (splitAt '\n' text) := by
  have hwrong (raws : List (List Char)) :
      (∀ raw ∈ raws, ¬ Wrong raw) ↔ ∀ raw ∈ raws.map trim, ¬ Wrong raw := by
    simp [wrong_trim]
  have hkept (raws : List (List Char)) :
      raws.filterMap assignment? = (raws.map trim).filterMap assignment? := by
    rw [List.filterMap_map]
    congr 1
    funext raw
    exact (assignment?_trim raw).symm
  have hblank : ¬ Counts [] := by decide
  have hright : ¬ Wrong [] := fun h => hblank h.1
  rw [parse_ok_iff, assigned, assigned, hwrong (lines text), hwrong (splitAt '\n' text),
    hkept (lines text), hkept (splitAt '\n' text)]
  rcases trim_lines text with h | h
  · rw [h]
  · rw [h, List.forall_mem_append, List.filterMap_append, List.forall_mem_singleton]
    simp only [hright, not_false_eq_true, and_true, List.filterMap_cons,
      assignment?_of_not_counts hblank, List.filterMap_nil, List.append_nil]

theorem exists_parse_iff :
    (∃ e, parse text = .ok e) ↔ ∀ raw ∈ lines text, ¬ Wrong raw :=
  ⟨fun ⟨_, h⟩ => (parse_ok_iff.mp h).1, fun h => ⟨_, parse_ok_iff.mpr ⟨h, rfl⟩⟩⟩

theorem exists_parse_append_iff (text rest : List Char) :
    (∃ e, parse (text ++ '\n' :: rest) = .ok e) ↔
      (∃ first, parse text = .ok first) ∧ ∃ last, parse rest = .ok last := by
  simp only [parse_ok_iff_pieces, exists_and_left, exists_eq, and_true, splitAt_append_cons,
    List.forall_mem_append]

theorem get?_assigned_append (before after : List (List Char)) (name : String) :
    (assigned (before ++ after)).get? name =
      ((assigned after).get? name).or ((assigned before).get? name) := by
  rw [assigned, List.filterMap_append, Environment.get?_ofList_append, assigned, assigned]

theorem get?_assigned_single {name value : String} :
    (assigned [raw]).get? name = some value ↔ Assigns raw name.toList value.toList := by
  have hone : [raw].filterMap assignment? = (assignment? raw).toList := by
    cases h : assignment? raw <;> simp [h]
  rw [← assignment?_eq_some_iff, assigned, Environment.get?_ofList, hone]
  cases assignment? raw with
  | none => simp
  | some entry => by_cases hname : entry.1 = name <;> simp [hname, Prod.ext_iff]

theorem get?_assigned_eq_none_iff {name : String} :
    (assigned raws).get? name = none ↔
      ∀ line ∈ raws, ∀ value, ¬ Assigns line name.toList value := by
  induction raws with
  | nil => simp [assigned, Environment.get?_ofList]
  | cons first more ih =>
    have hfirst : (assigned [first]).get? name = none ↔
        ∀ value, ¬ Assigns first name.toList value := by
      rw [Option.eq_none_iff_forall_ne_some]
      refine ⟨fun h value => ?_, fun h value => ?_⟩
      · have hvalue := h (String.ofList value)
        rwa [ne_eq, get?_assigned_single, String.toList_ofList] at hvalue
      · rw [ne_eq, get?_assigned_single]
        exact h value.toList
    rw [← List.singleton_append, get?_assigned_append, Option.or_eq_none_iff, ih, hfirst,
      List.singleton_append, List.forall_mem_cons, and_comm]

theorem get?_assigned_iff {name value : String} :
    (assigned raws).get? name = some value ↔
      ∃ before raw after, raws = before ++ raw :: after ∧ Assigns raw name.toList value.toList ∧
        ∀ line ∈ after, ∀ other, ¬ Assigns line name.toList other := by
  constructor
  · intro h
    induction raws with
    | nil => cases h
    | cons first more ih =>
      rw [← List.singleton_append, get?_assigned_append] at h
      cases hmore : (assigned more).get? name with
      | some later =>
        rw [hmore] at h
        obtain ⟨before, raw, after, rfl, hlast⟩ := ih (hmore.trans h)
        exact ⟨first :: before, raw, after, rfl, hlast⟩
      | none =>
        rw [hmore, Option.none_or] at h
        exact ⟨[], first, more, rfl, get?_assigned_single.mp h,
          get?_assigned_eq_none_iff.mp hmore⟩
  · rintro ⟨before, raw, after, rfl, hassigns, hlast⟩
    rw [← List.singleton_append, get?_assigned_append, get?_assigned_append,
      get?_assigned_eq_none_iff.mpr hlast, Option.none_or, get?_assigned_single.mpr hassigns,
      Option.some_or]

theorem get?_parse_append {first last : Environment} (h : parse (text ++ '\n' :: rest) = .ok e)
    (hfirst : parse text = .ok first) (hlast : parse rest = .ok last) (name : String) :
    e.get? name = (last.get? name).or (first.get? name) := by
  rw [parse_ok_iff_pieces] at h hfirst hlast
  rw [h.2, hfirst.2, hlast.2, splitAt_append_cons]
  exact get?_assigned_append _ _ name

structure Grammar (text : List Char) : Prop where
  refused : ∀ number content, parse text = .error (number, content) ↔
    ∃ before raw after, lines text = before ++ raw :: after ∧ number = before.length + 1 ∧
      content = String.ofList raw ∧ Wrong raw ∧ ∀ line ∈ before, ¬ Wrong line
  accepted : (∃ e, parse text = .ok e) ↔ ∀ raw ∈ lines text, ¬ Wrong raw
  assigned : ∀ e, parse text = .ok e → ∀ name value : String, e.get? name = some value ↔
    ∃ before raw after, lines text = before ++ raw :: after ∧
      Assigns raw name.toList value.toList ∧
      ∀ line ∈ after, ∀ other, ¬ Assigns line name.toList other
  /-- Blank lines and comments anywhere make no difference but to the number of a wrong line. -/
  counting : ∀ other, (lines text).filter (fun raw => Counts raw) =
      (lines other).filter (fun raw => Counts raw) →
    (parse text).mapError Prod.snd = (parse other).mapError Prod.snd
  joined : ∀ rest, (∃ e, parse (text ++ '\n' :: rest) = .ok e) ↔
    (∃ first, parse text = .ok first) ∧ ∃ last, parse rest = .ok last
  overridden : ∀ rest e first last, parse (text ++ '\n' :: rest) = .ok e →
    parse text = .ok first → parse rest = .ok last →
    ∀ name, e.get? name = (last.get? name).or (first.get? name)

theorem parse_grammar (text : List Char) : Grammar text := by
  constructor
  case refused =>
    intro number content
    rw [parse_error_iff, readLines_error_iff]
    simp only [Nat.add_comm 1]
  case accepted => exact exists_parse_iff
  case assigned =>
    intro e h name value
    rw [(parse_ok_iff.mp h).2]
    exact get?_assigned_iff
  case counting =>
    intro other h
    have hread : (readLines 1 (lines text)).mapError Prod.snd =
        (readLines 1 (lines other)).mapError Prod.snd := by
      rw [readLines_filter 1 1 (lines text), h, ← readLines_filter]
    rw [parse, parse]
    cases htext : readLines 1 (lines text) <;> cases hother : readLines 1 (lines other) <;>
      simp_all [Except.map, Except.mapError]
  case joined => exact exists_parse_append_iff text
  case overridden => exact fun rest e first last h hfirst hlast => get?_parse_append h hfirst hlast

end Texts

end Dotenv

end ClusterDeploy
