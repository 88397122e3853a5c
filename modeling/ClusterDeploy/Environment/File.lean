import ClusterDeploy.Environment.Dotenv
import ClusterDeploy.Error
/-!
# Environment files

An environment with the file it is kept in. Saving replaces the file as a whole or leaves it alone.
-/
namespace ClusterDeploy

structure EnvFile where
  path : String
  values : Environment

namespace EnvFile

/-- A missing file is an empty environment. -/
def load (files : FileTree) (path : String) : Except Error EnvFile :=
  if !files.exists? path then .ok ⟨path, Environment.empty⟩
  else
    match files.readText path with
    | .error e => .error (.fileUnreadable path e)
    | .ok text =>
      match Dotenv.parse text.toList with
      | .error (line, content) => .error (.invalidEnvLine path line content)
      | .ok values => .ok ⟨path, values⟩

def text (env : EnvFile) : String := String.ofList (Dotenv.render env.values)

/-- Writes all values; the second part is the tree afterwards. -/
def save (env : EnvFile) (files : FileTree) (disk : Disk := {}) : Except Error Unit × FileTree :=
  match files.replace env.path (Text.encodeUtf8 env.text) disk with
  | (.ok (), files) => (.ok (), files)
  | (.error e, files) => (.error (.fileUnwritable env.path e), files)

def set (env : EnvFile) (name value : String) : EnvFile :=
  { env with values := env.values.set name value }

end EnvFile

end ClusterDeploy
