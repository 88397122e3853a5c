import ClusterDeploy.Flow.Session
/-!
# Sessions with different observers

A session passes labels and lines on to whoever watches it and asks nothing back. Under another
observer, of whatever kind, every flow therefore has the same run: the same result, calls, answers
and times, and a session that differs in the watcher alone.
-/
namespace ClusterDeploy

inductive Notice where
  | label (text : String)
  | line (text : String)

namespace Observer

def tell (observer : Observer π) (watcher : π) : Notice → π
  | .label text => observer.report text watcher
  | .line text => observer.say text watcher

def tellAll (observer : Observer π) (watcher : π) (notices : List Notice) : π :=
  notices.foldl observer.tell watcher

theorem tellAll_append (observer : Observer π) (watcher : π) (a b : List Notice) :
    observer.tellAll watcher (a ++ b) = observer.tellAll (observer.tellAll watcher a) b :=
  List.foldl_append

theorem tellAll_labels (observer : Observer π) (watcher : π) (labels : List String) :
    observer.tellAll watcher (labels.map .label) =
      labels.foldl (fun w label => observer.report label w) watcher :=
  List.foldl_map

end Observer

def Session.watchedBy (s : Session π σ) (watcher : π') : Session π' σ :=
  { files := s.files, disks := s.disks, environment := s.environment, bootstrap := s.bootstrap,
    warnings := s.warnings, watcher, outside := s.outside }

def Scene.watchedBy (s : Scene (Session π σ)) (watcher : π') : Scene (Session π' σ) :=
  { state := s.state.watchedBy watcher, now := s.now, cancelAt := s.cancelAt }

section Runs

variable (outside : Outside σ) (store : KubeconfigStore) (observer : Observer π)
  (other : Observer π')

def Session.notices (outside : Outside σ) : Call → Session π σ → List Notice
  | .request r, s => (outside s.files r s.outside).labels.map .label
  | .report label, _ => [.label label]
  | .say line, _ => [.line line]
  | _, _ => []

theorem Session.respond_watcher (c : Call) (s : Session π σ) :
    (respond outside observer store c s).after.watcher =
      observer.tellAll s.watcher (notices outside c s) := by
  cases c with
  | request r => exact (observer.tellAll_labels _ _).symm
  | _ => rfl

/-- Another observer gets the same notices and changes nothing else. -/
theorem Session.respond_watchedBy (c : Call) (s : Session π σ) (watcher : π') :
    respond outside other store c (s.watchedBy watcher) =
      let r := respond outside observer store c s
      { answer := r.answer
        after := r.after.watchedBy (other.tellAll watcher (notices outside c s))
        elapsed := r.elapsed
        cancels := r.cancels } := by
  cases c with
  | request r =>
    dsimp only [notices]
    rw [Observer.tellAll_labels]
    rfl
  | _ => rfl

/-- Two observers of a flow are told the same and see the same run. -/
theorem Flow.run_watchedBy (t : Flow α) (s : Scene (Session π σ)) (watcher : π') :
    let r := t.run (Session.respond outside observer store) s
    ∃ told, r.scene.state.watcher = observer.tellAll s.state.watcher told ∧
      t.run (Session.respond outside other store) (s.watchedBy watcher) =
        ⟨r.result, r.scene.watchedBy (other.tellAll watcher told), r.steps⟩ := by
  induction t generalizing s watcher with
  | done a => exact ⟨[], rfl, rfl⟩
  | ask c next ih =>
    have hreply := Session.respond_watchedBy outside store observer other c s.state watcher
    obtain ⟨told, hwatcher, hrun⟩ := ih
      (Session.respond outside observer store c s.state).answer
      (s.after (Session.respond outside observer store c s.state))
      (other.tellAll watcher (Session.notices outside c s.state))
    refine ⟨Session.notices outside c s.state ++ told, ?_, ?_⟩
    · rw [Observer.tellAll_append, ← Session.respond_watcher outside store observer]
      exact hwatcher
    · have hstate : (s.watchedBy watcher).state = s.state.watchedBy watcher := rfl
      have hafter : (s.watchedBy watcher).after
          (Session.respond outside other store c (s.watchedBy watcher).state) =
            (s.after (Session.respond outside observer store c s.state)).watchedBy
              (other.tellAll watcher (Session.notices outside c s.state)) := by
        rw [hstate, hreply]
        rfl
      rw [Observer.tellAll_append]
      dsimp only [Flow.run]
      rw [hafter, hstate, hreply, hrun]
      rfl
  | clock next ih => exact ih s.moment s watcher
  | pause time next ih => exact ih (s.rest time) watcher

end Runs

end ClusterDeploy
