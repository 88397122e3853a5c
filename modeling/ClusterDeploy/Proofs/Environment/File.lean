import ClusterDeploy.Environment.File
import ClusterDeploy.Proofs.Environment.Dotenv
import ClusterDeploy.Proofs.Files.Replace
import ClusterDeploy.Proofs.Text.Utf8
/-!
# Saved environments are loaded again

Whether an environment can be saved depends on the path and the disk. What was saved stands at the
path, and loading it gives the same names and values; what could not be saved has changed no file.
-/
namespace ClusterDeploy

/-- A file can be put at the path, with the folders above it created where they are missing. -/
def FileTree.Admits (files : FileTree) (path : String) : Prop :=
  ∃ made p, files.createFolders (Path.folder path) = .ok made ∧ made.target path = .ok p

namespace Environment

theorem find?_insertEntry (name value other : String) (entries : List (String × String)) :
    (insertEntry name value entries).find? (fun entry => entry.1 == other) =
      if other = name then some (name, value)
      else entries.find? fun entry => entry.1 == other := by
  induction entries with
  | nil =>
    by_cases same : other = name
    · simp [insertEntry, same]
    · simp [insertEntry, same, Ne.symm same]
  | cons entry more ih =>
    obtain ⟨n, v⟩ := entry
    rw [insertEntry]
    by_cases same : other = name
    · subst same
      by_cases before : other < n
      · simp [before]
      · by_cases here : other = n
        · simp [here]
        · simp [before, here, Ne.symm here, ih]
    · by_cases before : name < n
      · simp [before, same, Ne.symm same]
      · by_cases here : name = n
        · simp [← here, same, Ne.symm same]
        · simp [before, here, same, ih, List.find?_cons]

theorem get?_set (e : Environment) (name value other : String) :
    (e.set name value).get? other = if other = name then some value else e.get? other := by
  unfold get? set
  rw [find?_insertEntry]
  split <;> rfl

end Environment

namespace EnvFile

variable {files files' : FileTree} {disk : Disk}

theorem save_of_replace {env : EnvFile}
    (h : files.replace env.path (Text.encodeUtf8 env.text) disk = (.ok (), files')) :
    env.save files disk = (.ok (), files') := by
  unfold save
  rw [h]

theorem save_of_replace_error {env : EnvFile} {e : IoFault}
    (h : files.replace env.path (Text.encodeUtf8 env.text) disk = (.error e, files')) :
    env.save files disk = (.error (.fileUnwritable env.path e), files') := by
  unfold save
  rw [h]

/-- On a disk that refuses nothing only the path decides whether a file can be saved. -/
theorem save_ok_iff (env : EnvFile) :
    (env.save files).1 = .ok () ↔ files.Admits env.path := by
  constructor
  · intro h
    unfold save at h
    split at h
    · next saved hreplace =>
      obtain ⟨made, p, hmade, htarget, _⟩ := FileTree.replace_eq_ok hreplace
      exact ⟨made, p, hmade, htarget⟩
    · cases h
  · rintro ⟨made, p, hmade, htarget⟩
    rw [save_of_replace (FileTree.replace_of_target hmade htarget _)]

/-- What a disk lets through is what comes of a save that nothing disturbs. -/
theorem save_sound {env : EnvFile} (h : env.save files disk = (.ok (), files')) :
    env.save files = (.ok (), files') := by
  unfold save at h
  split at h
  · next saved hreplace =>
    exact (save_of_replace (FileTree.replace_sound hreplace)).trans h
  · cases h

theorem standing?_save {env : EnvFile} (h : env.save files disk = (.ok (), files')) :
    files'.standing? env.path = some (.file (Text.encodeUtf8 env.text)) := by
  unfold save at h
  split at h
  · next saved hreplace =>
    obtain ⟨made, p, _, htarget, rfl⟩ := FileTree.replace_eq_ok hreplace
    cases h
    exact FileTree.standing?_put_target htarget
  · cases h

theorem save_of_refuses (env : EnvFile) (refuses : disk.Refuses) (files : FileTree) :
    ∃ e after, env.save files disk = (.error e, after) := by
  obtain ⟨e, left, hfailed⟩ :=
    FileTree.replace_of_refuses refuses files env.path (Text.encodeUtf8 env.text)
  exact ⟨_, _, save_of_replace_error hfailed⟩

/-- A save that fails may have created folders, and leaves everything that was there. -/
theorem save_eq_error {env : EnvFile} {e : Error} (h : env.save files disk = (.error e, files')) :
    FileTree.Grows (fun _ n => n = .folder) files files' := by
  unfold save at h
  split at h
  · cases h
  · next fault after hreplace =>
    cases h
    exact FileTree.replace_error_grows hreplace

theorem load_standing {path text : String}
    (h : files.standing? path = some (.file (Text.encodeUtf8 text))) :
    load files path = match Dotenv.parse text.toList with
      | .error (line, content) => .error (.invalidEnvLine path line content)
      | .ok values => .ok ⟨path, values⟩ := by
  have hexists : files.exists? path = true := by rw [FileTree.exists?_eq, h]; rfl
  have htext : files.readText path = .ok text := by
    simp [FileTree.readText, FileTree.read_of_file h, Text.decodeUtf8_encodeUtf8, bind, Except.bind]
  unfold load
  rw [hexists, htext]
  rfl

/-- Loading depends on nothing but what stands at the path. -/
theorem load_congr {path : String} (h : files'.standing? path = files.standing? path) :
    load files' path = load files path := by
  cases hstanding : files.standing? path with
  | none =>
    rw [load, load, FileTree.exists?_eq, FileTree.exists?_eq, h, hstanding]
    rfl
  | some node =>
    have hread : files'.read path = files.read path := by
      rw [hstanding] at h
      cases node with
      | file content => rw [FileTree.read_of_file h, FileTree.read_of_file hstanding]
      | folder => rw [FileTree.read_of_folder h, FileTree.read_of_folder hstanding]
    rw [load, load, FileTree.exists?_eq, FileTree.exists?_eq, h, FileTree.readText,
      FileTree.readText, hread]

theorem load_of_standing {path text : String} {values : Environment}
    (h : files.standing? path = some (.file (Text.encodeUtf8 text)))
    (hparse : Dotenv.parse text.toList = .ok values) : load files path = .ok ⟨path, values⟩ := by
  rw [load_standing h, hparse]

theorem save_load (env : EnvFile) (files : FileTree) (admits : files.Admits env.path)
    (plain : ∀ entry ∈ env.values.entries, Dotenv.Plain entry.1) :
    ∃ files', env.save files = (.ok (), files') ∧ load files' env.path = .ok env := by
  have hsaved : env.save files = (.ok (), (env.save files).2) :=
    Prod.ext ((save_ok_iff env).mpr admits) rfl
  refine ⟨_, hsaved, load_of_standing (standing?_save hsaved) ?_⟩
  rw [text, String.toList_ofList]
  exact Dotenv.parse_render env.values plain

def unruly : EnvFile :=
  ⟨"env/.env", .ofList [("", "\\"), ("export", ""), ("LINES", " a\r\n\"'\\n=# \\\r")]⟩

theorem save_load_unruly :
    FileTree.Admits {} unruly.path ∧ (∀ entry ∈ unruly.values.entries, Dotenv.Plain entry.1) ∧
      ∃ files, unruly.save {} = (.ok (), files) ∧ load files unruly.path = .ok unruly := by
  have admits : FileTree.Admits {} unruly.path :=
    ⟨FileTree.put {} ["env"] .folder, ["env", ".env"], by rfl, by rfl⟩
  have plain : ∀ entry ∈ unruly.values.entries, Dotenv.Plain entry.1 := by decide +kernel
  exact ⟨admits, plain, save_load unruly {} admits plain⟩

end EnvFile

end ClusterDeploy
