import ClusterDeploy.Kubeconfig.Text
/-!
# Kubeconfig files

A file that logins are merged into. A missing file, and one of ASCII blanks, is an empty
configuration. An update reads, merges and replaces the file as a whole, under a lock beside it.
Each of its steps can fail.
-/
namespace ClusterDeploy

structure KubeconfigStore where
  path : String
  deriving DecidableEq, Repr

namespace KubeconfigStore

def defaultPath (home : String) : String := Path.join (Path.join home ".kube") "config"

def lockPath (path : String) : String := path ++ ".lock"

def load (store : KubeconfigStore) (files : FileTree) (disk : Disk := {}) :
    Except Error Kubeconfig :=
  if !files.exists? store.path then .ok {}
  else
    match files.read store.path disk with
    | .error e => .error (.fileUnreadable store.path e)
    | .ok octets => if octets.all Text.isAsciiBlank then .ok {} else Kubeconfig.parse octets

/-- Where the file stands, whatever its path is spelled like. The folder is created when it is
missing, and what was created stays when that fails. Stores of one location share a lock. -/
def location (store : KubeconfigStore) (files : FileTree) (disk : Disk := {}) :
    Except (Error × FileTree) (Place × FileTree) :=
  let folder := Path.folder store.path
  match files.createFolders folder disk with
  | .error (e, files) => .error (.fileUnwritable store.path e, files)
  | .ok files =>
    match files.locate folder, disk.resolve with
    | .error e, _ | .ok _, some e => .error (.fileUnwritable store.path e, files)
    | .ok place, none =>
      match Path.fileName? store.path with
      | some name => .ok (place ++ [name], files)
      | none => .ok (place, files)

/-- Opens the file beside the kubeconfig that is locked during an update, and locks it. -/
def lock (store : KubeconfigStore) (files : FileTree) (disk : Disk := {}) :
    Except (Error × FileTree) FileTree :=
  match files.touch (lockPath store.path) disk with
  | .error e => .error (.fileUnwritable (lockPath store.path) e, files)
  | .ok files =>
    match disk.locking with
    | some e => .error (.fileUnwritable (lockPath store.path) e, files)
    | none => .ok files

def write (store : KubeconfigStore) (config : Kubeconfig) (files : FileTree) (disk : Disk := {}) :
    Except Error Unit × FileTree :=
  match files.replace store.path (Text.encodeUtf8 config.toYaml) disk with
  | (.ok (), files) => (.ok (), files)
  | (.error e, files) => (.error (.fileUnwritable store.path e), files)

def add (store : KubeconfigStore) (login : Kubeconfig) (files : FileTree) (disk : Disk := {}) :
    Except Error String × FileTree :=
  match store.location files disk with
  | .error (e, files) => (.error e, files)
  | .ok (_, files) =>
    match store.lock files disk with
    | .error (e, files) => (.error e, files)
    | .ok files =>
      match store.load files disk with
      | .error e => (.error e, files)
      | .ok config =>
        match store.write (config.merge login) files disk with
        | (.error e, files) => (.error e, files)
        | (.ok (), files) => (.ok store.path, files)

end KubeconfigStore

end ClusterDeploy
