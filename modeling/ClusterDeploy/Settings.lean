import ClusterDeploy.Kubeconfig.Store
import ClusterDeploy.Text.Expansion
import ClusterDeploy.Toml.Document
import ClusterDeploy.Waiting
/-!
# Settings of a user

Which programs to run, how long to wait and where logins are kept. They are read from a TOML file;
one that is missing is created with the defaults.
-/
namespace ClusterDeploy

structure Settings where
  kubectl : String := "kubectl"
  az : String := "az"
  docker : String := "docker"
  /-- In seconds. -/
  pollInterval : Nat := 5
  pollTimeout : Nat := 600
  /-- Progress labels that may wait to be shown. -/
  progressCapacity : Nat := 64
  /-- The file that logins are merged into. -/
  kubeconfig : String := "~/.kube/config"
  deriving DecidableEq, Repr

namespace Settings

def appName : String := "aksd"

def textOf (es : Toml.Entries) (name default : String) : Option String :=
  match es.find? name with
  | none => some default
  | some (.scalar (.text s)) => some s
  | some _ => none

def countOf (es : Toml.Entries) (name : String) (default : Nat) : Option Nat :=
  match es.find? name with
  | none => some default
  | some (.scalar (.integer n)) => if 0 ≤ n && n < Nat.pow 2 64 then some n.toNat else none
  | some _ => none

/-- Missing entries have their defaults, unknown ones do not matter. -/
def ofToml? (es : Toml.Entries) : Option Settings := do
  let d : Settings := {}
  return {
    kubectl := ← textOf es "kubectl" d.kubectl
    az := ← textOf es "az" d.az
    docker := ← textOf es "docker" d.docker
    pollInterval := ← countOf es "poll_interval_secs" d.pollInterval
    pollTimeout := ← countOf es "poll_timeout_secs" d.pollTimeout
    progressCapacity := ← countOf es "progress_capacity" d.progressCapacity
    kubeconfig := ← textOf es "kubeconfig" d.kubeconfig }

def toJson (s : Settings) : Json :=
  .obj [("kubectl", .str s.kubectl), ("az", .str s.az), ("docker", .str s.docker),
    ("poll_interval_secs", .ofNat s.pollInterval), ("poll_timeout_secs", .ofNat s.pollTimeout),
    ("progress_capacity", .ofNat s.progressCapacity), ("kubeconfig", .str s.kubeconfig)]

/-- The settings as a file; texts must be free of quotes, backslashes and control characters, as
those of the defaults are. -/
def toToml (s : Settings) : String :=
  let text (name value : String) := name ++ " = \"" ++ value ++ "\"\n"
  let count (name : String) (value : Nat) := name ++ " = " ++ toString value ++ "\n"
  text "kubectl" s.kubectl ++ text "az" s.az ++ text "docker" s.docker ++
    count "poll_interval_secs" s.pollInterval ++ count "poll_timeout_secs" s.pollTimeout ++
    count "progress_capacity" s.progressCapacity ++ text "kubeconfig" s.kubeconfig

def ofText (text : List Char) : Except SettingsFault Settings :=
  match (Toml.parse? text).bind ofToml? with
  | some s => .ok s
  | none => .error .badToml

def create (files : FileTree) (path : String) : Except SettingsFault Settings × FileTree :=
  match Path.parent? path with
  | none => (.error .noFolder, files)
  | some folder =>
    match files.createFolders folder with
    | .error (e, files) => (.error (.folder e), files)
    | .ok files =>
      let d : Settings := {}
      match files.replace path (Text.encodeUtf8 d.toToml) with
      | (.ok (), files) => (.ok d, files)
      | (.error e, files) => (.error (.unwritable e), files)

def readFile (files : FileTree) (path : String) : Except SettingsFault Settings × FileTree :=
  match files.find path with
  | .error .notFound => create files path
  | .error e => (.error (.unopened e), files)
  | .ok (_, .folder) => (.error (.unreadable .isADirectory), files)
  | .ok (_, .file content) =>
    match Text.decodeUtf8 content with
    | .error _ => (.error (.unreadable .invalidData), files)
    | .ok text => (ofText text, files)

def configFolder (lookup : String → Option String) (home : String) : String :=
  match lookup "XDG_CONFIG_HOME" with
  | some folder => if Path.isAbsolute folder then folder else Path.join home ".config"
  | none => Path.join home ".config"

def defaultPath (lookup : String → Option String) (home : String) : String :=
  Path.join (Path.join (configFolder lookup home) appName) "settings.toml"

def load (files : FileTree) (lookup : String → Option String) (home : String)
    (path : Option String) : Except Failure Settings × FileTree :=
  let (settings, files) := readFile files (path.getD (defaultPath lookup home))
  let context :=
    match path with
    | some path => s!"unable to load settings from {path}"
    | none => "unable to load settings"
  (settings.mapError fun e => ⟨context, .fault (.settings e)⟩, files)

def poll (s : Settings) : PollOptions :=
  { interval := s.pollInterval * 1000
    timeout := s.pollTimeout * 1000
    patience := s.pollTimeout * 1000 + 4095 }

/-- The file for logins, with variables and the home folder expanded; none when it is blank. -/
def kubeconfigPath (s : Settings) (lookup : String → Option String) (home : String) :
    Except Failure (Option String) :=
  match Text.expand lookup home s.kubeconfig with
  | .error name =>
    .error ⟨s!"unable to expand kubeconfig path '{s.kubeconfig}'", .fault (.lookup name)⟩
  | .ok text =>
    let path := Text.trimmed text
    .ok (if path.isEmpty then none else some path)

def store (s : Settings) (lookup : String → Option String) (home : String) :
    Except Failure KubeconfigStore :=
  (s.kubeconfigPath lookup home).map fun path =>
    ⟨path.getD (KubeconfigStore.defaultPath home)⟩

end Settings

end ClusterDeploy
