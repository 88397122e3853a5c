/-!
# States of a bootstrap, and the events it runs for

A bootstrap without an override goes through the states in order; one with an override goes from
the first straight to the namespace.
-/
namespace ClusterDeploy

inductive BootstrapState where
  | noConfig
  | credentialsFetched
  | contextMerged
  | namespaceEnsured
  | ready
  deriving DecidableEq, Repr

namespace BootstrapState

def label : BootstrapState → String
  | noConfig => "NoConfig"
  | credentialsFetched => "CredentialsFetched"
  | contextMerged => "ContextMerged"
  | namespaceEnsured => "NamespaceEnsured"
  | ready => "Ready"

def all : List BootstrapState :=
  [noConfig, credentialsFetched, contextMerged, namespaceEnsured, ready]

end BootstrapState

inductive LifecycleEvent where
  | postProvision
  | preDeploy
  deriving DecidableEq, Repr

namespace LifecycleEvent

def label : LifecycleEvent → String
  | postProvision => "postprovision"
  | preDeploy => "predeploy"

def all : List LifecycleEvent := [postProvision, preDeploy]

def ofLabel? (s : String) : Option LifecycleEvent := all.find? fun e => e.label == s

end LifecycleEvent

end ClusterDeploy
