/-!
# Optional flags of a cluster command
-/
namespace ClusterDeploy

inductive DryRun where
  | client
  | server
  deriving DecidableEq, Repr

inductive OutputFormat where
  | json
  | yaml
  deriving DecidableEq, Repr

structure KubectlFlags where
  inNamespace : Option String := none
  dryRun : Option DryRun := none
  output : Option OutputFormat := none
  deriving DecidableEq, Repr

namespace KubectlFlags

def dryRunYaml : KubectlFlags := { dryRun := some .client, output := some .yaml }

def toArgs (f : KubectlFlags) : List String :=
  (match f.inNamespace with
    | some ns => ["-n", ns]
    | none => []) ++
  (match f.dryRun with
    | some .client => ["--dry-run=client"]
    | some .server => ["--dry-run=server"]
    | none => []) ++
  (match f.output with
    | some .json => ["-o", "json"]
    | some .yaml => ["-o", "yaml"]
    | none => [])

end KubectlFlags

end ClusterDeploy
