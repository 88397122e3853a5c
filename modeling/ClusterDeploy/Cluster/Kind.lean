/-!
# Kinds of cluster resources that a deploy waits for
-/
namespace ClusterDeploy

inductive ResourceKind where
  | deployment
  | service
  | ingress
  deriving DecidableEq, Repr

namespace ResourceKind

def label : ResourceKind → String
  | deployment => "deployment"
  | service => "svc"
  | ingress => "ing"

def all : List ResourceKind := [deployment, service, ingress]

def ofLabel? (s : String) : Option ResourceKind := all.find? fun k => k.label == s

end ResourceKind

end ClusterDeploy
