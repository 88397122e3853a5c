import ClusterDeploy.Environment.File
import ClusterDeploy.Flow.Run
import ClusterDeploy.Kubeconfig.Store
import ClusterDeploy.Progress
/-!
# Sessions

What the program keeps itself while a flow runs: the files, the environment, the state of the
bootstrap and the warnings. Requests are passed on to the outside, which knows the files but not the
session, and labels and lines to an observer, from whom nothing comes back.
-/
namespace ClusterDeploy

/-- The answer of the outside, and the labels it reports meanwhile. -/
structure Reply (σ β : Type) extends Reaction σ β where
  labels : List String := []

abbrev Outside (σ : Type) := FileTree → (r : Request) → σ → Reply σ r.Answer

structure Observer (π : Type) where
  report : String → π → π
  say : String → π → π

structure Session (π σ : Type) where
  files : FileTree
  /-- What the disk makes of the calls that write, one after the other. When nothing is left to say
  it refuses nothing. -/
  disks : List Disk := []
  environment : EnvFile
  bootstrap : BootstrapState := .noConfig
  warnings : List Warning := []
  watcher : π
  outside : σ

namespace Session

/-- An answer that takes no time. -/
def reply (answer : β) (after : Session π σ) : Reaction (Session π σ) β := { answer, after }

def passOn (outside : Outside σ) (observer : Observer π) (r : Request) (s : Session π σ) :
    Reaction (Session π σ) r.Answer :=
  let r := outside s.files r s.outside
  { answer := r.answer
    after := { s with
      outside := r.after
      watcher := r.labels.foldl (fun w label => observer.report label w) s.watcher }
    elapsed := r.elapsed
    cancels := r.cancels }

def respond (outside : Outside σ) (observer : Observer π) (store : KubeconfigStore) :
    Surroundings (Session π σ)
  | .request r, s => s.passOn outside observer r
  | .addContext _ login, s =>
    let (path, files) := store.add login s.files (s.disks.headD {})
    reply path { s with files, disks := s.disks.tail }
  | .environmentValues, s => reply s.environment.values s
  | .setProperty service key value, s =>
    reply () { s with
      environment := s.environment.set (Environment.propertyKey service key) value }
  | .saveEnvironment, s =>
    let (saved, files) := s.environment.save s.files (s.disks.headD {})
    reply saved { s with files, disks := s.disks.tail }
  | .reach state, s => reply () { s with bootstrap := state }
  | .report label, s => reply () { s with watcher := observer.report label s.watcher }
  | .warn w, s => reply () { s with warnings := s.warnings ++ [w] }
  | .say line, s => reply () { s with watcher := observer.say line s.watcher }

end Session

def ProgressChannel.observer : Observer ProgressChannel where
  report label c := c.report label
  say _ c := c

end ClusterDeploy
