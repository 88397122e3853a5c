import ClusterDeploy.Error
import ClusterDeploy.Json.Basic
/-!
# The managed cluster a service is deployed onto
-/
namespace ClusterDeploy

structure TargetResource where
  subscription : String
  resourceGroup : String
  name : String
  deriving DecidableEq, Repr, Inhabited

namespace TargetResource

def clusterId (subscription resourceGroup name : String) : String :=
  s!"/subscriptions/{subscription}/resourceGroups/{resourceGroup}" ++
    s!"/providers/Microsoft.ContainerService/managedClusters/{name}"

def id (t : TargetResource) : String := clusterId t.subscription t.resourceGroup t.name

/-- A deploy needs a resource group to address the cluster. -/
def validate (t : TargetResource) : Except Error Unit :=
  if t.resourceGroup.isEmpty then .error (.missingResourceGroup t.name) else .ok ()

/-- Reads an object with all three names, or a list of them in order. -/
def ofJson? : Json → Option TargetResource
  | .arr [s, g, n] => do return ⟨← s.str?, ← g.str?, ← n.str?⟩
  | .obj members => do
    let field (name : String) : Option String := do (← Json.lookup name members).str?
    return ⟨← field "subscriptionId", ← field "resourceGroupName", ← field "resourceName"⟩
  | _ => none

def toJson (t : TargetResource) : Json :=
  .obj [("subscriptionId", .str t.subscription), ("resourceGroupName", .str t.resourceGroup),
    ("resourceName", .str t.name)]

end TargetResource

end ClusterDeploy
