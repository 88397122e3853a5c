import ClusterDeploy.Proofs.Environment.Resave
import ClusterDeploy.Proofs.Text.Upper
/-!
# Recorded addresses are loaded again

The name of a property is made of the name of the service, which may be any text, and names are
written as they are. A service can be recorded when its name has no equals sign and no line feed:
the saved file then gives the address back, with every value that was there before. No other service
can, and a line feed ahead of any equals sign makes a file that is refused as a whole.
-/
namespace ClusterDeploy

namespace Environment

theorem toList_propertyKey (service key : String) :
    (propertyKey service key).toList = "SERVICE_".toList ++
      ((Text.upper service.toList).map fun c => if c = '-' then '_' else c) ++
        '_' :: key.toList := by
  simp [propertyKey, toString]

theorem mem_hyphenless {c : Char} {cs : List Char} (hhyphen : c ≠ '-') (hunderscore : c ≠ '_') :
    c ∈ (cs.map fun d => if d = '-' then '_' else d) ↔ c ∈ cs := by
  rw [List.mem_map]
  constructor
  · rintro ⟨d, hd, hc⟩
    by_cases h : d = '-'
    · rw [if_pos h] at hc
      exact absurd hc.symm hunderscore
    · rw [if_neg h] at hc
      exact hc ▸ hd
  · intro hc
    exact ⟨c, hc, if_neg hhyphen⟩

theorem ne_underscore {c : Char} (h : c.toNat < 65) : c ≠ '_' := by
  rintro rfl
  exact absurd h (by decide)

theorem letters_of_all {cs : List Char} (h : cs.all fun d => decide (65 ≤ d.toNat)) :
    ∀ d ∈ cs, 65 ≤ d.toNat :=
  fun d hd => of_decide_eq_true (List.all_eq_true.mp h d hd)

/-- The only marks in the name of a property are those of the service. -/
theorem mem_propertyKey {c : Char} {service : String} (h : c.toNat < 65) (hhyphen : c ≠ '-') :
    c ∈ (propertyKey service endpointProperty).toList ↔ c ∈ service.toList := by
  have hletters : ∀ d ∈ "SERVICE_".toList ++ '_' :: endpointProperty.toList, 65 ≤ d.toNat :=
    letters_of_all (by decide)
  rw [toList_propertyKey, List.append_assoc, List.mem_append, List.mem_append,
    mem_hyphenless hhyphen (ne_underscore h), Text.mem_upper_iff h]
  constructor
  · rintro (hc | hc | hc)
    · have := hletters c (List.mem_append_left _ hc)
      omega
    · exact hc
    · have := hletters c (List.mem_append_right _ hc)
      omega
  · exact fun hc => .inr (.inl hc)

/-- A line feed in the name of a service stays where it is. -/
theorem propertyKey_cut {service : String} {first rest : List Char}
    (hservice : service.toList = first ++ '\n' :: rest) :
    ∃ first' rest', (propertyKey service endpointProperty).toList = 'S' :: first' ++ '\n' :: rest' ∧
      ∀ c, c.toNat < 65 ∧ c ≠ '-' → c ∉ first → c ∉ first' := by
  have hupper : Text.upper service.toList =
      Text.upper first ++ '\n' :: Text.upper rest := by
    rw [hservice, Text.upper, List.flatMap_append, List.flatMap_cons]
    rfl
  refine ⟨"ERVICE_".toList ++ (Text.upper first).map fun c => if c = '-' then '_' else c,
    ((Text.upper rest).map fun c => if c = '-' then '_' else c) ++ '_' :: endpointProperty.toList,
    ?_, ?_⟩
  · rw [toList_propertyKey, hupper]
    simp
  · rintro c ⟨hmark, hhyphen⟩ hfirst hc
    have hletters : ∀ d ∈ "ERVICE_".toList, 65 ≤ d.toNat := letters_of_all (by decide)
    rcases List.mem_append.mp hc with hc | hc
    · have := hletters c hc
      omega
    · exact hfirst ((Text.mem_upper_iff hmark).mp
        ((mem_hyphenless hhyphen (ne_underscore hmark)).mp hc))

theorem insertEntry_split (name value : String) (entries : List (String × String)) :
    ∃ before after, insertEntry name value entries = before ++ (name, value) :: after ∧
      ∀ entry ∈ before, entry ∈ entries := by
  induction entries with
  | nil => exact ⟨[], [], rfl, by simp⟩
  | cons entry more ih =>
    obtain ⟨before, after, hmore, hbefore⟩ := ih
    rw [insertEntry]
    split
    · exact ⟨[], _, rfl, by simp⟩
    split
    · exact ⟨[], _, rfl, by simp⟩
    · refine ⟨entry :: before, after, by rw [hmore]; rfl, ?_⟩
      intro e he
      rcases List.mem_cons.mp he with rfl | he
      · exact List.mem_cons_self
      · exact List.mem_cons_of_mem _ (hbefore e he)

end Environment

namespace Dotenv

open Text
open Environment (propertyKey endpointProperty)

def Identifier (name : String) : Prop :=
  name ≠ "" ∧ ∀ c ∈ name.toList, c.isAlphanum = true ∨ c = '_'

instance (name : String) : Decidable (Identifier name) :=
  @instDecidableAnd _ _ inferInstance (List.decidableBAll _ _)

theorem not_blank {c : Char} (h : c.isAlphanum = true ∨ c = '_') : isBlank c = false := by
  have hcode : 48 ≤ c.toNat ∧ c.toNat ≤ 122 := by
    rcases h with h | rfl
    · delta Char.isAlphanum Char.isAlpha Char.isUpper Char.isLower Char.isDigit at h
      simp [UInt32.le_iff_toNat_le] at h
      omega
    · decide
  simp [isBlank]
  omega

theorem Identifier.plain {name : String} (h : Identifier name) : Plain name := by
  obtain ⟨-, hchars⟩ := h
  constructor
  · intro hc
    exact absurd (hchars _ hc) (by decide)
  · intro hc
    exact absurd (hchars _ hc) (by decide)
  · rw [trimmed, trim_eq_self_iff.mpr, String.ofList_toList]
    constructor
    · intro c hc
      exact not_blank (hchars c (List.mem_of_mem_head? hc))
    · intro c hc
      exact not_blank (hchars c (List.mem_of_mem_getLast? hc))
  · intro hc
    exact absurd (hchars _ (List.mem_of_mem_head? hc)) (by decide)
  · intro hc
    exact absurd (hchars ' ' (hc.subset (by decide))) (by decide)

theorem plain_propertyKey {service : String} (hequals : '=' ∉ service.toList)
    (hfeed : '\n' ∉ service.toList) : Plain (propertyKey service endpointProperty) := by
  have hkey := Environment.toList_propertyKey service endpointProperty
  have hhead : (propertyKey service endpointProperty).toList.head? = some 'S' := by
    rw [hkey]
    rfl
  have hlast : (propertyKey service endpointProperty).toList.getLast? = some 'L' := by
    rw [hkey, List.getLast?_append_of_ne_nil _ (by simp)]
    rfl
  constructor
  · exact (Environment.mem_propertyKey (by decide) (by decide)).not.mpr hequals
  · exact (Environment.mem_propertyKey (by decide) (by decide)).not.mpr hfeed
  · rw [trimmed, trim_eq_self_iff.mpr, String.ofList_toList]
    rw [hhead, hlast]
    exact ⟨by rintro _ ⟨⟩; decide, by rintro _ ⟨⟩; decide⟩
  · rw [hhead]
    decide
  · rintro ⟨rest, hrest⟩
    rw [← hrest] at hhead
    cases hhead

/-- What a line feed in a name leaves of it on its line is no assignment. -/
theorem read_cut {raw : List Char} (hhead : raw.head? = some 'S') (hequals : '=' ∉ raw) :
    Line.read raw = .wrong := by
  obtain ⟨rest, rfl⟩ := List.head?_eq_some_iff.mp hhead
  obtain ⟨kept, hkept⟩ := trim_cons (c := 'S') (by decide) rest
  have hnone : '=' ∉ 'S' :: kept := fun hc => hequals ((trim_part _).subset (hkept ▸ hc))
  have hstart : afterStart exportWord ('S' :: kept) = none := rfl
  unfold Line.read
  simp only [hkept, hstart, Option.getD_none, splitOnce_eq_none hnone]
  rfl

theorem readLines_wrong {entries : List (String × String)} (h : ∀ entry ∈ entries, Plain entry.1)
    {raw : List Char} (hraw : Line.read raw = .wrong) (more : List (List Char)) (number : Nat) :
    readLines number (entries.map line ++ raw :: more) =
      .error (number + entries.length, String.ofList raw) := by
  induction entries generalizing number with
  | nil => simp [readLines, hraw]
  | cons entry rest ih =>
    have hentry := h entry List.mem_cons_self
    have hrest := ih (fun e he => h e (List.mem_cons_of_mem _ he)) (number + 1)
    rw [List.map_cons, List.cons_append, readLines, read_line hentry.fits, reread_plain hentry]
    simp only
    rw [hrest, Except.map, List.length_cons, Nat.add_assoc, Nat.add_comm 1]

theorem head?_dropReturn {c : Char} (h : c ≠ '\r') (rest : List Char) :
    (dropReturn (c :: rest)).head? = some c := by
  unfold dropReturn
  split
  · next hlast =>
    cases rest with
    | nil => exact absurd (Option.some.inj hlast) h
    | cons _ _ => rfl
  · rfl

/-- A line feed in a name breaks its line, and with it the whole text. -/
theorem parse_broken {e : Environment} {before after : List (String × String)}
    {entry : String × String} (hentries : e.entries = before ++ entry :: after)
    (plain : ∀ other ∈ before, Plain other.1) {first rest : List Char}
    (hname : entry.1.toList = 'S' :: first ++ '\n' :: rest) (hfeed : '\n' ∉ first)
    (hequals : '=' ∉ first) :
    parse (render e) = .error (1 + before.length, String.ofList (dropReturn ('S' :: first))) := by
  have hwrong : Line.read (dropReturn ('S' :: first)) = .wrong := by
    apply read_cut (head?_dropReturn (by decide) first)
    intro hc
    have := (dropReturn_isStart _).subset hc
    simp [hequals] at this
  have hlines : lines (render e) = before.map line ++ dropReturn ('S' :: first) ::
      lines (rest ++ '=' :: '"' :: (escape entry.2.toList ++ ['"', '\n']) ++
        (after.map line).flatMap (· ++ ['\n'])) := by
    rw [render_eq, hentries, List.map_append, List.flatMap_append, lines_append, List.map_cons,
      List.flatMap_cons, line, hname, ← lines_cons (by simp [hfeed])]
    · simp
    · intro l hl
      obtain ⟨other, hother, rfl⟩ := List.mem_map.mp hl
      exact line_closed (plain other hother).fits
  rw [parse, hlines, readLines_wrong plain hwrong, Except.map]

end Dotenv

namespace EnvFile

open Environment (propertyKey endpointProperty)

def record (env : EnvFile) (service url : String) : EnvFile :=
  env.set (propertyKey service endpointProperty) url

variable {files files' : FileTree} {env : EnvFile} {service url : String}

theorem load_saved (saved : env.save files = (.ok (), files')) :
    load files' env.path = match Dotenv.parse (Dotenv.render env.values) with
      | .error (line, content) => .error (.invalidEnvLine env.path line content)
      | .ok values => .ok ⟨env.path, values⟩ := by
  have htext : env.text.toList = Dotenv.render env.values := String.toList_ofList
  have hload := load_standing (standing?_save saved)
  rw [htext] at hload
  exact hload

theorem plain_record (plain : ∀ entry ∈ env.values.entries, Dotenv.Plain entry.1)
    (hequals : '=' ∉ service.toList) (hfeed : '\n' ∉ service.toList) :
    ∀ entry ∈ (env.record service url).values.entries, Dotenv.Plain entry.1 := by
  intro entry hentry
  rcases Environment.mem_insertEntry hentry with rfl | hentry
  · exact Dotenv.plain_propertyKey hequals hfeed
  · exact plain entry hentry

theorem record_entries (env : EnvFile) (service url : String) :
    ∃ before after, (env.record service url).values.entries =
        before ++ (propertyKey service endpointProperty, url) :: after ∧
      ∀ entry ∈ before, entry ∈ env.values.entries :=
  Environment.insertEntry_split _ _ _

/-- The address of a service is loaded again exactly when the name of the service has neither an
equals sign nor a line feed. A line feed ahead of any equals sign leaves a file that is refused. -/
theorem record_read_back (service url : String)
    (plain : ∀ entry ∈ env.values.entries, Dotenv.Plain entry.1)
    (saved : (env.record service url).save files = (.ok (), files')) :
    (load files' env.path = .ok (env.record service url) ↔
      '=' ∉ service.toList ∧ '\n' ∉ service.toList) ∧
    (env.record service url).values.get? (propertyKey service endpointProperty) = some url ∧
    (∀ other ≠ propertyKey service endpointProperty,
      (env.record service url).values.get? other = env.values.get? other) ∧
    ∀ first rest, service.toList = first ++ '\n' :: rest → '\n' ∉ first → '=' ∉ first →
      ∃ number content,
        load files' env.path = .error (.invalidEnvLine env.path number content) := by
  have hload := load_saved saved
  refine ⟨⟨?_, ?_⟩, ?_, ?_, ?_⟩
  · intro loaded
    cases hparse : Dotenv.parse (Dotenv.render (env.record service url).values) with
    | error fault =>
      rw [hparse] at hload
      exact absurd (hload.symm.trans loaded) (by simp)
    | ok values =>
      rw [hparse] at hload
      have hvalues : values = (env.record service url).values :=
        congrArg EnvFile.values (Except.ok.inj (hload.symm.trans loaded))
      obtain ⟨before, after, hentries, -⟩ := record_entries env service url
      have fits := Dotenv.fits_of_parse (hvalues ▸ hparse)
        (propertyKey service endpointProperty, url) (by simp [hentries])
      exact ⟨(Environment.mem_propertyKey (by decide) (by decide)).not.mp fits.noEquals,
        (Environment.mem_propertyKey (by decide) (by decide)).not.mp fits.oneLine⟩
  · rintro ⟨hequals, hfeed⟩
    rw [Dotenv.parse_render _ (plain_record plain hequals hfeed)] at hload
    exact hload
  · exact (Environment.get?_set _ _ _ _).trans (if_pos rfl)
  · intro other hother
    exact (Environment.get?_set _ _ _ _).trans (if_neg hother)
  · intro first rest hservice hfeed hequals
    obtain ⟨before, after, hentries, hbefore⟩ := record_entries env service url
    obtain ⟨first', rest', hname, hmarks⟩ := Environment.propertyKey_cut hservice
    have plain' : ∀ entry ∈ before, Dotenv.Plain entry.1 := fun e he => plain e (hbefore e he)
    have hfeed' := hmarks '\n' (by decide) hfeed
    have hequals' := hmarks '=' (by decide) hequals
    rw [Dotenv.parse_broken hentries plain' hname hfeed' hequals'] at hload
    exact ⟨_, _, hload⟩

def tidy : EnvFile := ⟨".env", .ofList [("A", "1")]⟩

theorem load_tidy : load (folderWith "A=1\n") ".env" = .ok tidy :=
  load_folderWith (by decide +kernel)

theorem save_tidy (service url : String) : (tidy.record service url).save (folderWith "A=1\n") =
    (.ok (), ((tidy.record service url).save (folderWith "A=1\n")).2) :=
  Prod.ext ((save_ok_iff _).mpr (admits_of_file (standing?_folderWith "A=1\n"))) rfl

/-- Blanks, marks and letters without an upper case of their own do no harm. -/
theorem record_read_back_marks : (∀ entry ∈ tidy.values.entries, Dotenv.Plain entry.1) ∧
    ∃ files, (tidy.record "#straße-2 \"\r" "http://10.0.0.5").save (folderWith "A=1\n") =
        (.ok (), files) ∧
      load files ".env" = .ok (tidy.record "#straße-2 \"\r" "http://10.0.0.5") := by
  have plain : ∀ entry ∈ tidy.values.entries, Dotenv.Plain entry.1 := by
    have identifiers : ∀ entry ∈ tidy.values.entries, Dotenv.Identifier entry.1 := by
      decide +kernel
    exact fun entry hentry => (identifiers entry hentry).plain
  have saved := save_tidy "#straße-2 \"\r" "http://10.0.0.5"
  exact ⟨plain, _, saved, (record_read_back _ _ plain saved).1.mpr (by decide)⟩

/-- Once a name with a line feed is recorded, the values of all services are out of reach. -/
theorem record_breaks_file :
    ∃ files, (∀ entry ∈ tidy.values.entries, Dotenv.Identifier entry.1) ∧
      load (folderWith "A=1\n") ".env" = .ok tidy ∧
      (tidy.record "a\nb" "http://10.0.0.5").save (folderWith "A=1\n") = (.ok (), files) ∧
      load files ".env" = .error (.invalidEnvLine ".env" 2 "SERVICE_A") := by
  have saved := save_tidy "a\nb" "http://10.0.0.5"
  have hload := load_saved saved
  have hparse : Dotenv.parse (Dotenv.render (tidy.record "a\nb" "http://10.0.0.5").values) =
      .error (2, "SERVICE_A") := by decide +kernel
  rw [hparse] at hload
  exact ⟨_, by decide +kernel, load_tidy, saved, hload⟩

end EnvFile

end ClusterDeploy
