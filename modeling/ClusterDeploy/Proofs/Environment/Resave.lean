import ClusterDeploy.Proofs.Environment.File
/-!
# Saving a loaded environment again

Values are escaped when they are written, names are not. Behind the word `export` a file may give a
name that begins like a comment or with that word once more. Saved without the word, such a name is
taken for a comment or loses its beginning; every other name stays.
-/
namespace ClusterDeploy

namespace Environment

theorem mem_foldl_set {entries : List (String × String)} {e : Environment}
    {entry : String × String}
    (h : entry ∈ (entries.foldl (fun e entry => e.set entry.1 entry.2) e).entries) :
    entry ∈ e.entries ∨ entry ∈ entries := by
  induction entries generalizing e with
  | nil => exact .inl h
  | cons first more ih =>
    rcases ih h with h | h
    · rcases mem_insertEntry h with rfl | h
      · exact .inr List.mem_cons_self
      · exact .inl h
    · exact .inr (List.mem_cons_of_mem _ h)

theorem mem_ofList {entries : List (String × String)} {entry : String × String}
    (h : entry ∈ (ofList entries).entries) : entry ∈ entries := by
  rcases mem_foldl_set h with h | h
  · cases h
  · exact h

def weight : List (String × String) → Nat
  | [] => 0
  | entry :: more => entry.1.length + weight more

theorem weight_cons (entry : String × String) (more : List (String × String)) :
    weight (entry :: more) = entry.1.length + weight more := rfl

theorem weight_insertEntry (name value : String) (entries : List (String × String)) :
    weight (insertEntry name value entries) ≤ name.length + weight entries := by
  induction entries with
  | nil => simp [insertEntry, weight]
  | cons entry more ih =>
    rw [insertEntry]
    split
    · simp only [weight_cons]; omega
    · split
      · simp only [weight_cons]; omega
      · simp only [weight_cons]; omega

/-- Of several values of one name only one stays, so the names can only become fewer. -/
theorem weight_ofList (entries : List (String × String)) :
    weight (ofList entries).entries ≤ weight entries := by
  have hfold (e : Environment) :
      weight (entries.foldl (fun e entry => e.set entry.1 entry.2) e).entries ≤
        weight e.entries + weight entries := by
    induction entries generalizing e with
    | nil => exact Nat.le_refl _
    | cons entry more ih =>
      have hset : weight (e.set entry.1 entry.2).entries ≤ entry.1.length + weight e.entries :=
        weight_insertEntry _ _ _
      have hmore := ih (e.set entry.1 entry.2)
      rw [List.foldl_cons, weight_cons]
      omega
  have hempty : weight empty.entries = 0 := rfl
  have h := hfold empty
  rw [hempty] at h
  rw [ofList]
  omega

end Environment

namespace Dotenv

open Text
open Environment (weight weight_cons)

/-- At the head of a line the name is taken for a comment, or for the word before a name. -/
def Misread (name : String) : Prop :=
  name.toList.head? = some '#' ∨ exportWord <+: name.toList

instance (name : String) : Decidable (Misread name) := inferInstanceAs (Decidable (_ ∨ _))

theorem Fits.plain {name : String} (h : Fits name) (hread : ¬ Misread name) : Plain name where
  noEquals := h.noEquals
  oneLine := h.oneLine
  trimmed := h.trimmed
  noComment := fun hc => hread (.inl hc)
  noExport := fun hc => hread (.inr hc)

/-! ## Names that are read -/

section Reading

variable {raw name value : List Char}

/-- An entry is split at the first equals sign of a line that does not start like a comment. -/
theorem read_eq_entry (h : Line.read raw = .entry name value) :
    ∃ before after, (afterStart exportWord (trim raw)).getD (trim raw) = before ++ '=' :: after ∧
      '=' ∉ before ∧ name = trim before ∧ (trim raw).head? ≠ some '#' := by
  unfold Line.read at h
  simp only at h
  split at h
  · cases h
  · next hidle =>
    split at h
    · cases h
    · next before after hsplit =>
      cases h
      obtain ⟨heq, hequals⟩ := splitOnce_eq_some hsplit
      refine ⟨before, after, heq, hequals, rfl, fun hhash => hidle ?_⟩
      simp [hhash]

theorem fits_of_read (oneLine : '\n' ∉ raw) (h : Line.read raw = .entry name value) :
    Fits (String.ofList name) := by
  obtain ⟨before, after, hsplit, hequals, rfl, -⟩ := read_eq_entry h
  have hbefore : ∀ c ∈ trim before, c ∈ before := fun c hc => (trim_part before).subset hc
  constructor
  · rw [String.toList_ofList]
    exact fun hc => hequals (hbefore _ hc)
  · rw [String.toList_ofList]
    intro hc
    have hline : '\n' ∈ trim raw := by
      have hmem : '\n' ∈ (afterStart exportWord (trim raw)).getD (trim raw) := by
        rw [hsplit]
        exact List.mem_append_left _ (hbefore _ hc)
      cases hstart : afterStart exportWord (trim raw) with
      | none => rwa [hstart] at hmem
      | some rest =>
        rw [hstart] at hmem
        rw [afterStart_eq_some_iff.mp hstart]
        exact List.mem_append_right _ hmem
    exact oneLine ((trim_part raw).subset hline)
  · simp [Text.trimmed, trim_trim]

/-- Only behind the word `export` a line gives a name that cannot stand at the head of a line. -/
theorem export_of_misread (h : Line.read raw = .entry name value)
    (misread : Misread (String.ofList name)) : exportWord <+: trim raw := by
  obtain ⟨before, after, hsplit, -, rfl, hcomment⟩ := read_eq_entry h
  cases hstart : afterStart exportWord (trim raw) with
  | some rest => exact ⟨rest, (afterStart_eq_some_iff.mp hstart).symm⟩
  | none =>
    rw [hstart, Option.getD_none] at hsplit
    -- Without the word the line begins with the name, and not with a blank.
    have hname : trim before <+: before := by
      have hleft : trimLeft before = before := by
        cases before with
        | nil => rfl
        | cons c more =>
          have hblank := (trim_eq_self_iff.mp (trim_trim raw)).1 c (by rw [hsplit]; rfl)
          simp [trimLeft, hblank]
      calc trim before = trimRight before := by rw [trim, hleft]
        _ <+: before := trimRight_isStart before
    have hline : trim before <+: trim raw :=
      hname.trans (hsplit ▸ List.prefix_append before ('=' :: after))
    rw [Misread, String.toList_ofList] at misread
    rcases misread with hhash | hword
    · obtain ⟨more, hmore⟩ := hline
      refine absurd ?_ hcomment
      rw [← hmore, List.head?_append, hhash]
      rfl
    · exact hword.trans hline

end Reading

theorem mem_readLines {number : Nat} {raws : List (List Char)} {entries : List (String × String)}
    (h : readLines number raws = .ok entries) {entry : String × String} (hentry : entry ∈ entries) :
    ∃ raw ∈ raws, Line.read raw = .entry entry.1.toList entry.2.toList := by
  induction raws generalizing number entries with
  | nil =>
    cases h
    cases hentry
  | cons raw more ih =>
    rw [readLines] at h
    cases hread : Line.read raw with
    | idle =>
      rw [hread] at h
      obtain ⟨other, hother, heq⟩ := ih h hentry
      exact ⟨other, List.mem_cons_of_mem _ hother, heq⟩
    | wrong =>
      rw [hread] at h
      cases h
    | entry name value =>
      rw [hread] at h
      cases hmore : readLines (number + 1) more with
      | error e =>
        rw [hmore] at h
        cases h
      | ok rest =>
        rw [hmore] at h
        cases h
        rcases List.mem_cons.mp hentry with rfl | hentry
        · exact ⟨raw, List.mem_cons_self, by simp [hread]⟩
        · obtain ⟨other, hother, heq⟩ := ih hmore hentry
          exact ⟨other, List.mem_cons_of_mem _ hother, heq⟩

theorem mem_parse {text : List Char} {e : Environment} (h : parse text = .ok e)
    {entry : String × String} (hentry : entry ∈ e.entries) :
    ∃ raw ∈ lines text, Line.read raw = .entry entry.1.toList entry.2.toList := by
  rw [parse] at h
  cases hlines : readLines 1 (lines text) with
  | error fault =>
    rw [hlines] at h
    cases h
  | ok entries =>
    rw [hlines] at h
    cases h
    exact mem_readLines hlines (Environment.mem_ofList hentry)

theorem fits_of_parse {text : List Char} {e : Environment} (h : parse text = .ok e) :
    ∀ entry ∈ e.entries, Fits entry.1 := by
  intro entry hentry
  obtain ⟨raw, hraw, hread⟩ := mem_parse h hentry
  have hfits := fits_of_read (line_no_feed hraw) hread
  rwa [String.ofList_toList] at hfits

/-- A text in which no line starts with the word gives no name that is misread. -/
theorem not_misread_of_parse {text : List Char} {e : Environment} (h : parse text = .ok e)
    (bare : ∀ raw ∈ lines text, ¬ exportWord <+: trim raw) :
    ∀ entry ∈ e.entries, ¬ Misread entry.1 := by
  intro entry hentry misread
  obtain ⟨raw, hraw, hread⟩ := mem_parse h hentry
  exact bare raw hraw (export_of_misread hread (by rwa [String.ofList_toList]))

/-! ## Names that are written and read -/

/-- Reading a written name again never makes it longer, and a misread one becomes shorter. -/
theorem reread_shorter (entry : String × String) :
    weight (reread entry).toList ≤ entry.1.length ∧
      (Misread entry.1 → weight (reread entry).toList < entry.1.length) := by
  have htrim (cs : List Char) : (trim cs).length ≤ cs.length := (trim_part cs).length_le
  have hlength : entry.1.toList.length = entry.1.length := String.length_toList
  unfold reread
  by_cases hhash : entry.1.toList.head? = some '#'
  · rw [if_pos hhash]
    have hpos : 0 < entry.1.toList.length := by
      cases hname : entry.1.toList with
      | nil => simp [hname] at hhash
      | cons c more => simp
    simp only [Option.toList_none, weight]
    omega
  · rw [if_neg hhash]
    simp only [Option.toList_some, weight, String.length_ofList]
    cases hstart : afterStart exportWord entry.1.toList with
    | none =>
      have hkept := htrim entry.1.toList
      rw [Option.getD_none]
      refine ⟨by omega, ?_⟩
      rintro (hc | ⟨rest, hrest⟩)
      · exact absurd hc hhash
      · rw [afterStart_eq_some_iff.mpr hrest.symm] at hstart
        cases hstart
    | some rest =>
      have hkept := htrim rest
      have hname := congrArg List.length (afterStart_eq_some_iff.mp hstart)
      have hword : exportWord.length = 7 := rfl
      rw [List.length_append] at hname
      rw [Option.getD_some]
      omega

theorem weight_filterMap_reread (entries : List (String × String)) :
    weight (entries.filterMap reread) ≤ weight entries ∧
      ((∃ entry ∈ entries, Misread entry.1) →
        weight (entries.filterMap reread) < weight entries) := by
  induction entries with
  | nil => simp
  | cons entry more ih =>
    obtain ⟨hle, hlt⟩ := reread_shorter entry
    have hweight : weight ((entry :: more).filterMap reread) =
        weight (reread entry).toList + weight (more.filterMap reread) := by
      rw [List.filterMap_cons]
      cases reread entry with
      | none => simp [weight]
      | some again => simp [weight]
    rw [hweight, weight_cons]
    refine ⟨by omega, ?_⟩
    rintro ⟨other, hother, misread⟩
    rcases List.mem_cons.mp hother with rfl | hother
    · have := hlt misread
      omega
    · have := ih.2 ⟨other, hother, misread⟩
      omega

/-- Writing and reading keeps an environment exactly when none of its names is misread. -/
theorem reread_eq_iff (e : Environment) (fits : ∀ entry ∈ e.entries, Fits entry.1) :
    Environment.ofList (e.entries.filterMap reread) = e ↔
      ∀ entry ∈ e.entries, ¬ Misread entry.1 := by
  constructor
  · intro hsame entry hentry misread
    have hkept := Environment.weight_ofList (e.entries.filterMap reread)
    have hlost := (weight_filterMap_reread e.entries).2 ⟨entry, hentry, misread⟩
    rw [hsame] at hkept
    omega
  · intro h
    rw [filterMap_reread fun entry hentry => (fits entry hentry).plain (h entry hentry),
      Environment.ofList_entries]

end Dotenv

namespace EnvFile

variable {files : FileTree} {path : String} {content : List UInt8} {env : EnvFile}

theorem admits_of_file (h : files.standing? path = some (.file content)) : files.Admits path := by
  obtain ⟨p, htarget⟩ := FileTree.target_of_file h
  exact ⟨files, p, FileTree.createFolders_of_isFolder (FileTree.isFolder_of_file h), htarget⟩

theorem load_eq_ok (h : files.standing? path = some (.file content))
    (loaded : load files path = .ok env) :
    env.path = path ∧ ∃ text, Text.decodeUtf8 content = .ok text ∧
      Dotenv.parse text = .ok env.values := by
  unfold load at loaded
  rw [FileTree.exists?_eq, h] at loaded
  simp only [Option.isSome_some, Bool.not_true, Bool.false_eq_true, if_false] at loaded
  cases hdecode : Text.decodeUtf8 content with
  | error fault =>
    simp [FileTree.readText, FileTree.read_of_file h, hdecode, bind, Except.bind] at loaded
  | ok text =>
    simp only [FileTree.readText, FileTree.read_of_file h, hdecode, bind, Except.bind,
      String.toList_ofList] at loaded
    cases hparse : Dotenv.parse text with
    | error fault =>
      rw [hparse] at loaded
      cases loaded
    | ok values =>
      rw [hparse] at loaded
      cases loaded
      exact ⟨rfl, text, rfl, hparse⟩

theorem load_again (stands : files.standing? path = some (.file content))
    (loaded : load files path = .ok env) :
    ∃ files', env.save files = (.ok (), files') ∧
      load files' path = .ok ⟨path, .ofList (env.values.entries.filterMap Dotenv.reread)⟩ := by
  obtain ⟨rfl, text, -, hparse⟩ := load_eq_ok stands loaded
  have hsaved : env.save files = (.ok (), (env.save files).2) :=
    Prod.ext ((save_ok_iff env).mpr (admits_of_file stands)) rfl
  refine ⟨_, hsaved, load_of_standing (standing?_save hsaved) ?_⟩
  rw [EnvFile.text, String.toList_ofList]
  exact Dotenv.parse_written env.values (Dotenv.fits_of_parse hparse)

/-- A file that can be loaded can be saved and loaded once more. It then gives the same names and
values exactly when no name of it begins like a comment or with the word `export`; a file without
that word in front of a name has none. -/
theorem resave_iff (stands : files.standing? path = some (.file content))
    (loaded : load files path = .ok env) :
    ∃ files' again, env.save files = (.ok (), files') ∧ load files' path = .ok again ∧
      (again = env ↔ ∀ entry ∈ env.values.entries, ¬ Dotenv.Misread entry.1) ∧
      ∀ text, Text.decodeUtf8 content = .ok text →
        (∀ raw ∈ Text.lines text, ¬ Dotenv.exportWord <+: Text.trim raw) → again = env := by
  obtain ⟨files', hsaved, hagain⟩ := load_again stands loaded
  obtain ⟨rfl, text, hdecode, hparse⟩ := load_eq_ok stands loaded
  have hsame : (⟨env.path, .ofList (env.values.entries.filterMap Dotenv.reread)⟩ : EnvFile) = env ↔
      ∀ entry ∈ env.values.entries, ¬ Dotenv.Misread entry.1 := by
    rw [← Dotenv.reread_eq_iff env.values (Dotenv.fits_of_parse hparse)]
    constructor
    · exact congrArg EnvFile.values
    · intro hvalues
      rw [hvalues]
  refine ⟨files', _, hsaved, hagain, hsame, fun text' hdecode' hbare => hsame.mpr ?_⟩
  obtain rfl : text = text' := Except.ok.inj (hdecode.symm.trans hdecode')
  exact Dotenv.not_misread_of_parse hparse hbare

def folderWith (text : String) : FileTree :=
  { entries := [([".env"], .file (Text.encodeUtf8 text))] }

theorem standing?_folderWith (text : String) :
    (folderWith text).standing? ".env" = some (.file (Text.encodeUtf8 text)) := by
  rfl

theorem load_folderWith {text : String} {values : Environment}
    (h : Dotenv.parse text.toList = .ok values) :
    load (folderWith text) ".env" = .ok ⟨".env", values⟩ :=
  load_of_standing (standing?_folderWith text) h

def relaxed : String := "# c\n\n export  A =x\nB = 'say \"n\"'\r\nB=\" #\\n\""

def relaxedEnv : EnvFile := ⟨".env", .ofList [("A", "x"), ("B", " #\n")]⟩

theorem resave_relaxed :
    (folderWith relaxed).standing? ".env" = some (.file (Text.encodeUtf8 relaxed)) ∧
      load (folderWith relaxed) ".env" = .ok relaxedEnv ∧
      ∃ files again, relaxedEnv.save (folderWith relaxed) = (.ok (), files) ∧
        load files ".env" = .ok again ∧ again = relaxedEnv := by
  have stands := standing?_folderWith relaxed
  have loaded : load (folderWith relaxed) ".env" = .ok relaxedEnv :=
    load_folderWith (by decide +kernel)
  have plain : ∀ entry ∈ relaxedEnv.values.entries, ¬ Dotenv.Misread entry.1 := by decide +kernel
  refine ⟨stands, loaded, ?_⟩
  obtain ⟨files, again, hsaved, hagain, hsame, -⟩ := resave_iff stands loaded
  exact ⟨files, again, hsaved, hagain, hsame.mpr plain⟩

def straying : String := "export #TOKEN=1\nexport export NAME=2\n"

/-- Saved again, the first one is lost and the second one is cut. -/
theorem resave_loses_names :
    ∃ env files again, load (folderWith straying) ".env" = .ok env ∧
      env.save (folderWith straying) = (.ok (), files) ∧ load files ".env" = .ok again ∧
      env.values = .ofList [("#TOKEN", "1"), ("export NAME", "2")] ∧
      again.values = .ofList [("NAME", "2")] ∧ again ≠ env := by
  have loaded : load (folderWith straying) ".env" =
      .ok ⟨".env", .ofList [("#TOKEN", "1"), ("export NAME", "2")]⟩ :=
    load_folderWith (by decide +kernel)
  obtain ⟨files, hsaved, hagain⟩ := load_again (standing?_folderWith straying) loaded
  refine ⟨_, files, _, loaded, hsaved, hagain, rfl, by decide +kernel, ?_⟩
  intro hsame
  exact absurd (congrArg EnvFile.values hsame) (by decide +kernel)

end EnvFile

end ClusterDeploy
