import ClusterDeploy.Service.Package
/-!
# Command lines

What a user can ask for, and the ways in which a command line asks for nothing that can be done.
-/
namespace ClusterDeploy

inductive Job where
  | deploy (package : ServicePackage)
  /-- Shows the endpoints of a service that is deployed already. -/
  | endpoints
  /-- Sets up the access to the cluster and nothing else. -/
  | context
  deriving DecidableEq, Repr

structure CommandLine where
  envFile : String
  subscription : Option String
  resourceGroup : Option String
  cluster : Option String
  /-- The settings file, when it is not the user's own. -/
  settings : Option String
  verbose : Bool
  /-- The configuration of the service the job is about. -/
  service : String
  job : Job
  deriving DecidableEq, Repr

inductive UsageFault where
  | missingParameter
  | unknownArgument
  | unknownVerb
  | missingVerb
  /-- Nothing was asked for at all, so the help is shown. -/
  | nothingGiven
  | invalidValue
  | givenTwice
  | unwantedValue
  deriving DecidableEq, Repr

inductive Halt where
  | help
  | version
  | usage (fault : UsageFault)
  deriving DecidableEq, Repr

def Halt.exitCode : Halt → Nat
  | help | version => 0
  | usage _ => 2

end ClusterDeploy
