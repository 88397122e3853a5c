import ClusterDeploy.Kubectl.Client
/-!
# The outside behind real tools

Requests to the cluster go through its client, logins through the cloud's command line, and images
through the container tool.
-/
namespace ClusterDeploy

structure Toolbox where
  machine : Machine
  kubectl : KubectlClient
  /-- The program that fetches logins. -/
  az : String
  /-- The program that tags and pushes images. -/
  docker : String

namespace Toolbox

/-- Asks for a login. An empty subscription is left to the tool. -/
def loginCommand (program subscription resourceGroup cluster : String) : Command :=
  { program
    args := ["aks", "get-credentials"] ++
      (if subscription.isEmpty then [] else ["--subscription", subscription]) ++
      ["--resource-group", resourceGroup, "--name", cluster, "--file", "-"] }

/-- The kubeconfigs in the output of a login: none when it is blank. -/
def kubeconfigsOf (output : CommandOutput) : List (List UInt8) :=
  if Text.isBlankText output.stdout then [] else [Text.encodeUtf8 output.stdout]

def thenDo (r : Reply Machine (Except Error α))
    (next : α → Machine → Reply Machine (Except Error β)) : Reply Machine (Except Error β) :=
  match r.answer with
  | .error e => { r with answer := .error e }
  | .ok a =>
    let s := next a r.after
    { s with
      elapsed := r.elapsed + s.elapsed
      cancels := r.cancels || s.cancels
      labels := r.labels ++ s.labels }

def labelled (label : String) (machine : Machine) (files : FileTree) (c : Command) :
    Reply Machine (Except Error CommandOutput) :=
  { machine.run files c with labels := [label] }

/-- Tags the image when it is published under another reference, and pushes it. -/
def pushImage (machine : Machine) (files : FileTree) (program : String) (package : ServicePackage) :
    Reply Machine (Except Error Unit) :=
  let remote := package.publishedImage
  let push (machine : Machine) : Reply Machine (Except Error Unit) :=
    thenDo
      (labelled "Pushing container image" machine files { program, args := ["push", remote] })
      fun _ machine => { answer := .ok (), after := machine }
  if remote = package.image then push machine
  else
    thenDo
      (labelled "Tagging container image" machine files
        { program, args := ["tag", package.image, remote] })
      fun _ machine => push machine

def runFor (t : Toolbox) (files : FileTree) (c : Command)
    (read : CommandOutput → Except Error α) : Reply Toolbox (Except Error α) :=
  let r := t.machine.run files c
  { answer := r.answer.bind read
    after := { t with machine := r.after }
    elapsed := r.elapsed
    cancels := r.cancels }

def outside : Outside Toolbox := fun files r t =>
  match r with
  | .list kind => t.runFor files (t.kubectl.list kind) (KubectlClient.itemsOf kind)
  | .rolloutStatus name => t.runFor files (t.kubectl.rolloutStatus name) .ok
  | .apply folder => t.runFor files (t.kubectl.apply folder) .ok
  | .applyInput manifest => t.runFor files (t.kubectl.applyInput manifest) .ok
  | .createNamespace name flags => t.runFor files (t.kubectl.createNamespace name flags) .ok
  | .useContext name => t.runFor files (t.kubectl.useContext name) .ok
  | .setEnvironment values =>
    { answer := ()
      after := { t with kubectl := { t.kubectl with environment := values.entries } } }
  | .setKubeconfig path =>
    { answer := (), after := { t with kubectl := { t.kubectl with kubeconfig := some path } } }
  | .credentials subscription resourceGroup cluster =>
    t.runFor files (loginCommand t.az subscription resourceGroup cluster) fun output =>
      .ok (kubeconfigsOf output)
  | .push _ package _ =>
    let r := pushImage t.machine files t.docker package
    { answer := r.answer
      after := { t with machine := r.after }
      elapsed := r.elapsed
      cancels := r.cancels
      labels := r.labels }

end Toolbox

end ClusterDeploy
