import ClusterDeploy.Deploy
import ClusterDeploy.Proofs.Flow.Observers
import ClusterDeploy.Proofs.Flow.Runs
import ClusterDeploy.Tools.Toolbox
/-!
# Deploys with different audiences

An audience has a channel and a pace of its own: it may receive as much as it likes before each
label, nothing at all, or be gone. No deploy can tell one audience from another.
-/
namespace ClusterDeploy

/-- A channel, and what happens to it before each of the next labels. -/
structure Audience where
  channel : ProgressChannel
  pace : List (List ProgressStep) := []

namespace Audience

def hear (a : Audience) (label : String) : Audience :=
  match a.pace with
  | [] => { a with channel := a.channel.report label }
  | steps :: later => ⟨(a.channel.run steps).2.report label, later⟩

def observer : Observer Audience where
  report label a := a.hear label
  say _ a := a

end Audience

namespace Deploy

/-- Two deploys that differ in the audience have the same result, make the same calls with the same
answers at the same times, and leave the same environment, files and tools behind. -/
theorem run_audiences (service : ServiceConfig) (package : Option ServicePackage)
    (target : TargetResource) (poll : PollOptions) (store : KubeconfigStore)
    (s : Scene (Session Audience Toolbox)) (other : Audience) :
    let world := Session.respond Toolbox.outside Audience.observer store
    let r := (run service package target poll).runIn world s
    let r' := (run service package target poll).runIn world (s.watchedBy other)
    r'.result = r.result ∧ r'.steps = r.steps ∧
    r'.scene.state.outside.machine.log = r.scene.state.outside.machine.log ∧
    r'.scene.state.environment = r.scene.state.environment ∧
    r'.scene.state.files = r.scene.state.files ∧
    r'.scene.now = r.scene.now ∧
    r'.scene = r.scene.watchedBy r'.scene.state.watcher ∧
    ∃ told, r.scene.state.watcher = Audience.observer.tellAll s.state.watcher told ∧
      r'.scene.state.watcher = Audience.observer.tellAll other told := by
  intro world r r'
  obtain ⟨told, hwatcher, hrun⟩ := Flow.run_watchedBy Toolbox.outside store Audience.observer
    Audience.observer (run service package target poll).run s other
  have hr' : r' = ⟨r.result, r.scene.watchedBy (Audience.observer.tellAll other told), r.steps⟩ :=
    hrun
  rw [hr']
  exact ⟨rfl, rfl, rfl, rfl, rfl, rfl, rfl, told, hwatcher, rfl⟩

end Deploy

end ClusterDeploy
