import ClusterDeploy.Environment.Dotenv
import ClusterDeploy.Proofs.Text.Pieces
/-!
# Written environments are read back

A name has to fit in front of the first equals sign of a line; a value may be any text. Escaping
keeps a value on one line and between its quotes, and reading the line undoes each step of writing
it.
-/
namespace ClusterDeploy.Environment

theorem insertEntry_last {name value : String} {entries : List (String × String)}
    (h : ∀ entry ∈ entries, entry.1 < name) :
    insertEntry name value entries = entries ++ [(name, value)] := by
  induction entries with
  | nil => rfl
  | cons entry more ih =>
    have hbefore := h entry List.mem_cons_self
    have hnot : ¬ name < entry.1 := String.lt_asymm hbefore
    have hne : name ≠ entry.1 := (String.ne_of_lt hbefore).symm
    rw [insertEntry, if_neg hnot, if_neg hne, ih fun e he => h e (List.mem_cons_of_mem _ he)]
    rfl

theorem foldl_set (entries : List (String × String)) {e : Environment}
    (h : (e.entries ++ entries).Pairwise fun a b => a.1 < b.1) :
    (entries.foldl (fun e entry => e.set entry.1 entry.2) e).entries = e.entries ++ entries := by
  induction entries generalizing e with
  | nil => simp
  | cons entry more ih =>
    have hbefore : ∀ a ∈ e.entries, a.1 < entry.1 := fun a ha =>
      (List.pairwise_append.mp h).2.2 a ha entry List.mem_cons_self
    have hset : (e.set entry.1 entry.2).entries = e.entries ++ [entry] := insertEntry_last hbefore
    rw [List.foldl_cons, ih (by rwa [hset, List.append_assoc]), hset, List.append_assoc]
    rfl

theorem ofList_entries (e : Environment) : ofList e.entries = e := by
  have h : (ofList e.entries).entries = e.entries := foldl_set e.entries e.sorted
  cases e
  cases hof : ofList _
  rw [hof] at h
  cases h
  rfl

end ClusterDeploy.Environment

namespace ClusterDeploy.Dotenv

open Text

/-! ## Values -/

theorem unescape_escapeChar (c : Char) (rest : List Char) :
    unescape (escapeChar c ++ rest) = c :: unescape rest := by
  by_cases hbackslash : c = '\\'
  · simp [escapeChar, unescape, hbackslash]
  by_cases hquote : c = '"'
  · simp [escapeChar, unescape, hquote]
  by_cases hfeed : c = '\n'
  · simp [escapeChar, unescape, hfeed]
  simp [escapeChar, unescape, hbackslash, hquote, hfeed]

theorem unescape_escape (value : List Char) : unescape (escape value) = value := by
  induction value with
  | nil => rfl
  | cons c more ih => rw [escape, List.flatMap_cons, unescape_escapeChar, ← escape, ih]

theorem escape_one_line (value : List Char) : '\n' ∉ escape value := by
  intro h
  obtain ⟨c, _, hc⟩ := List.mem_flatMap.mp h
  by_cases hfeed : c = '\n'
  · simp [escapeChar, hfeed] at hc
  · unfold escapeChar at hc
    split_ifs at hc <;> simp [Ne.symm hfeed] at hc

def replaced (c : Char) (by_ : List Char) (cs : List Char) : List Char :=
  cs.flatMap fun d => if d = c then by_ else [d]

/-- The backslashes are escaped first, so that those of the other escapes stay as they are. -/
theorem escape_eq_replaced (value : List Char) :
    escape value =
      replaced '\n' ['\\', 'n'] (replaced '"' ['\\', '"'] (replaced '\\' ['\\', '\\'] value)) := by
  unfold replaced escape
  rw [List.flatMap_assoc, List.flatMap_assoc]
  congr 1
  funext c
  by_cases hbackslash : c = '\\'
  · simp [escapeChar, hbackslash]
  by_cases hquote : c = '"'
  · simp [escapeChar, hquote]
  simp [escapeChar, hbackslash, hquote]

theorem unquote_quoted (value : List Char) :
    unquote ('"' :: (escape value ++ ['"'])) = value := by
  simp [unquote, unescape_escape]

/-! ## Lines -/

/-- A name that can stand in front of the equals sign of a line. The empty name can. -/
structure Plain (name : String) : Prop where
  noEquals : '=' ∉ name.toList
  oneLine : '\n' ∉ name.toList
  trimmed : trimmed name = name
  noComment : name.toList.head? ≠ some '#'
  noExport : ¬ exportWord <+: name.toList

instance (name : String) : Decidable (Plain name) :=
  decidable_of_iff
    ('=' ∉ name.toList ∧ '\n' ∉ name.toList ∧ Text.trimmed name = name ∧
      name.toList.head? ≠ some '#' ∧ ¬ exportWord <+: name.toList)
    ⟨fun ⟨h, i, j, k, l⟩ => ⟨h, i, j, k, l⟩, fun ⟨h, i, j, k, l⟩ => ⟨h, i, j, k, l⟩⟩

def line (entry : String × String) : List Char :=
  entry.1.toList ++ '=' :: '"' :: (escape entry.2.toList ++ ['"'])

theorem render_eq (e : Environment) : render e = (e.entries.map line).flatMap (· ++ ['\n']) := by
  simp only [render, line, List.flatMap_map, List.append_assoc, List.cons_append, List.nil_append]
  rfl

theorem getLast?_line (entry : String × String) : (line entry).getLast? = some '"' := by
  rw [line, List.getLast?_append_of_ne_nil _ (by simp), ← List.cons_append, ← List.cons_append,
    List.getLast?_concat]

structure Fits (name : String) : Prop where
  noEquals : '=' ∉ name.toList
  oneLine : '\n' ∉ name.toList
  trimmed : trimmed name = name

theorem Plain.fits {name : String} (h : Plain name) : Fits name :=
  ⟨h.noEquals, h.oneLine, h.trimmed⟩

/-- What the line of an entry is read as, if it is read as an entry at all: nothing marks the start
of a name. -/
def reread (entry : String × String) : Option (String × String) :=
  if entry.1.toList.head? = some '#' then none
  else
    some (String.ofList (trim ((afterStart exportWord entry.1.toList).getD entry.1.toList)),
      entry.2)

section Lines

variable {entry : String × String}

theorem trim_name (h : Fits entry.1) : trim entry.1.toList = entry.1.toList := by
  simpa [Text.trimmed] using congrArg String.toList h.trimmed

theorem head?_line (h : Fits entry.1) : ∃ c ∈ (line entry).head?, isBlank c = false ∧
    (c = '#' ↔ entry.1.toList.head? = some '#') := by
  unfold line
  cases hname : entry.1.toList with
  | nil => exact ⟨'=', rfl, by decide, by decide⟩
  | cons c more =>
    have htrimmed := trim_eq_self_iff.mp (trim_name h)
    rw [hname] at htrimmed
    exact ⟨c, rfl, htrimmed.1 c rfl, by simp⟩

theorem trim_line (h : Fits entry.1) : trim (line entry) = line entry := by
  obtain ⟨c, hc, hblank, _⟩ := head?_line h
  rw [trim_eq_self_iff, getLast?_line]
  constructor
  · intro d hd
    obtain rfl : c = d := Option.mem_unique hc hd
    exact hblank
  · rintro _ ⟨⟩
    decide

theorem line_closed (h : Fits entry.1) :
    '\n' ∉ line entry ∧ (line entry).getLast? ≠ some '\r' := by
  refine ⟨?_, by simp [getLast?_line]⟩
  simp [line, h.oneLine, escape_one_line]

theorem trim_quoted (value : List Char) :
    trim ('"' :: (escape value ++ ['"'])) = '"' :: (escape value ++ ['"']) := by
  rw [trim_eq_self_iff, ← List.cons_append, List.getLast?_concat]
  exact ⟨by simp; decide, by simp; decide⟩

/-- The equals sign ends what could be the word before a name. -/
theorem afterStart_line (entry : String × String) :
    afterStart exportWord (line entry) = (afterStart exportWord entry.1.toList).map
      (· ++ '=' :: '"' :: (escape entry.2.toList ++ ['"'])) :=
  afterStart_before (by decide) _ _

theorem read_line (h : Fits entry.1) : Line.read (line entry) =
    match reread entry with
    | none => .idle
    | some again => .entry again.1.toList again.2.toList := by
  obtain ⟨c, hc, _, hcomment⟩ := head?_line h
  have hfull : (line entry).isEmpty = false := by
    cases hline : line entry with
    | nil => simp [hline] at hc
    | cons _ _ => rfl
  unfold Line.read reread
  simp only [trim_line h, hfull, Option.mem_def.mp hc, Bool.false_or]
  by_cases hhash : entry.1.toList.head? = some '#'
  · simp [hhash, hcomment.mpr hhash]
  · have hc : c ≠ '#' := fun hc => hhash (hcomment.mp hc)
    rw [if_neg hhash, if_neg (by simpa using hc), afterStart_line]
    cases hstart : afterStart exportWord entry.1.toList with
    | none =>
      simp only [Option.map_none, Option.getD_none]
      rw [line, splitOnce_append h.noEquals]
      simp [trim_quoted, unquote_quoted]
    | some rest =>
      have hrest : '=' ∉ rest := by
        intro hequals
        apply h.noEquals
        rw [afterStart_eq_some_iff.mp hstart]
        exact List.mem_append_right _ hequals
      simp only [Option.map_some, Option.getD_some]
      rw [splitOnce_append hrest]
      simp [trim_quoted, unquote_quoted]

theorem reread_plain (h : Plain entry.1) : reread entry = some entry := by
  have hstart : afterStart exportWord entry.1.toList = none := by
    rw [Option.eq_none_iff_forall_ne_some]
    intro rest hrest
    exact h.noExport ⟨rest, (afterStart_eq_some_iff.mp hrest).symm⟩
  rw [reread, if_neg h.noComment, hstart, Option.getD_none, trim_name h.fits, String.ofList_toList]

end Lines

theorem readLines_written {entries : List (String × String)} (h : ∀ entry ∈ entries, Fits entry.1)
    (number : Nat) : readLines number (entries.map line) = .ok (entries.filterMap reread) := by
  induction entries generalizing number with
  | nil => rfl
  | cons entry more ih =>
    rw [List.map_cons, readLines, read_line (h entry List.mem_cons_self), List.filterMap_cons]
    have hmore := ih (fun e he => h e (List.mem_cons_of_mem _ he)) (number + 1)
    cases reread entry with
    | none => exact hmore
    | some again =>
      simp only
      rw [hmore]
      simp [Except.map]

/-- What a written environment is read as. -/
theorem parse_written (e : Environment) (h : ∀ entry ∈ e.entries, Fits entry.1) :
    parse (render e) = .ok (.ofList (e.entries.filterMap reread)) := by
  have hlines : lines (render e) = e.entries.map line := by
    rw [render_eq]
    apply lines_closed
    intro l hl
    obtain ⟨entry, hentry, rfl⟩ := List.mem_map.mp hl
    exact line_closed (h entry hentry)
  rw [parse, hlines, readLines_written h, Except.map]

theorem filterMap_reread {entries : List (String × String)}
    (h : ∀ entry ∈ entries, Plain entry.1) : entries.filterMap reread = entries := by
  calc entries.filterMap reread = entries.filterMap some :=
        List.filterMap_congr fun entry hentry => reread_plain (h entry hentry)
    _ = entries := List.filterMap_some

/-- What is written is read back, whatever the values are. -/
theorem parse_render (e : Environment) (h : ∀ entry ∈ e.entries, Plain entry.1) :
    parse (render e) = .ok e := by
  rw [parse_written e fun entry hentry => (h entry hentry).fits, filterMap_reread h,
    Environment.ofList_entries]

end ClusterDeploy.Dotenv
