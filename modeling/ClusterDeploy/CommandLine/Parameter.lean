import ClusterDeploy.CommandLine.Basic
/-!
# Parameters of a command line

The program has parameters of its own, which may stand before or after the verb, and each verb adds
some. A long name follows two dashes and a short one a single dash.
-/
namespace ClusterDeploy.CommandLine

inductive Verb where
  | deploy
  | endpoints
  | context
  deriving DecidableEq, Repr

/-- The context has a second name, for those who call it as a hook. -/
def Verb.ofName? : String → Option Verb
  | "deploy" => some .deploy
  | "endpoints" => some .endpoints
  | "context" | "postprovision" => some .context
  | _ => none

inductive Parameter where
  | envFile
  | subscription
  | resourceGroup
  | cluster
  | settings
  | verbose
  | service
  | image
  | remoteImage
  | help
  | version
  deriving DecidableEq, Repr

inductive ParameterSort where
  | text
  /-- A text that must not be empty. -/
  | path
  | switch
  /-- Ends the reading of the command line. -/
  | halt (h : Halt)
  deriving DecidableEq, Repr

namespace Parameter

def long : Parameter → String
  | envFile => "env-file"
  | subscription => "subscription"
  | resourceGroup => "resource-group"
  | cluster => "cluster"
  | settings => "settings"
  | verbose => "verbose"
  | service => "service"
  | image => "image"
  | remoteImage => "remote-image"
  | help => "help"
  | version => "version"

def short? : Parameter → Option Char
  | verbose => some 'v'
  | service => some 's'
  | image => some 'i'
  | help => some 'h'
  | version => some 'V'
  | _ => none

def sort : Parameter → ParameterSort
  | envFile | settings | service => .path
  | subscription | resourceGroup | cluster | image | remoteImage => .text
  | verbose => .switch
  | help => .halt .help
  | version => .halt .version

def refuses (p : Parameter) (value : String) : Bool := p.sort == .path && value.isEmpty

/-- The variable of the environment that stands in for a parameter that is not given. -/
def standIn? : Parameter → Option String
  | envFile => some "AKSD_ENV_FILE"
  | settings => some "AKSD_SETTINGS"
  | _ => none

def default? : Parameter → Option String
  | envFile => some ".env"
  | _ => none

def shared : List Parameter := [envFile, subscription, resourceGroup, cluster, settings, verbose]

end Parameter

inductive Level where
  | program
  | verb (v : Verb)
  deriving DecidableEq, Repr

namespace Level

def parameters : Level → List Parameter
  | program => Parameter.shared ++ [.help, .version]
  | verb .deploy => Parameter.shared ++ [.service, .image, .remoteImage, .help]
  | verb .endpoints | verb .context => Parameter.shared ++ [.service, .help]

def named? (l : Level) (name : String) : Option Parameter :=
  l.parameters.find? fun p => p.long == name

def lettered? (l : Level) (letter : Char) : Option Parameter :=
  l.parameters.find? fun p => p.short? == some letter

end Level

end ClusterDeploy.CommandLine
