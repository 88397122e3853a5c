import ClusterDeploy.Flow.Session
import ClusterDeploy.Proofs.Flow.Sequence
/-!
# The files of a session

In a session only two calls touch the files: an update of the kubeconfig and the saving of the
environment, each on some disk. The steps of a run therefore tell what becomes of the files.
-/
namespace ClusterDeploy

def Call.LeavesFiles : Call → Prop
  | .addContext _ _ | .saveEnvironment => False
  | _ => True

inductive FilesAlong (store : KubeconfigStore) : FileTree → List Step → FileTree → Prop
  | done {files : FileTree} : FilesAlong store files [] files
  | add {files after last : FileTree} {name : String} {login : Kubeconfig}
      {answer : Except Error String} {start finish : Nat} {more : List Step} {disk : Disk}
      (h : store.add login files disk = (answer, after))
      (later : FilesAlong store after more last) :
      FilesAlong store files (⟨.addContext name login, answer, start, finish⟩ :: more) last
  | save {files last : FileTree} {answer : Except Error Unit} {start finish : Nat}
      {more : List Step} (environment : EnvFile) (disk : Disk)
      (later : FilesAlong store (environment.save files disk).2 more last) :
      FilesAlong store files (⟨.saveEnvironment, answer, start, finish⟩ :: more) last
  | pass {files last : FileTree} {step : Step} {more : List Step} (h : step.call.LeavesFiles)
      (later : FilesAlong store files more last) : FilesAlong store files (step :: more) last

namespace FilesAlong

variable {store : KubeconfigStore} {files last : FileTree} {more : List Step}

theorem of_pass {step : Step} (h : FilesAlong store files (step :: more) last)
    (leaves : step.call.LeavesFiles) : FilesAlong store files more last := by
  cases h with
  | add h later => exact leaves.elim
  | save environment disk later => exact leaves.elim
  | pass h later => exact later

theorem of_all_pass {first : List Step} (h : FilesAlong store files (first ++ more) last)
    (leaves : ∀ step ∈ first, step.call.LeavesFiles) : FilesAlong store files more last := by
  induction first with
  | nil => exact h
  | cons step first ih =>
    have hlater := of_pass h (leaves step List.mem_cons_self)
    exact ih hlater fun step hstep => leaves step (List.mem_cons_of_mem _ hstep)

/-- Calls that all leave the files alone lead nowhere else. -/
theorem eq_of_all_pass {steps : List Step} (h : FilesAlong store files steps last)
    (leaves : ∀ step ∈ steps, step.call.LeavesFiles) : files = last := by
  rw [← List.append_nil steps] at h
  cases h.of_all_pass leaves
  rfl

theorem of_add {name : String} {login : Kubeconfig} {answer : Except Error String}
    {start finish : Nat}
    (h : FilesAlong store files (⟨.addContext name login, answer, start, finish⟩ :: more) last) :
    ∃ disk after, store.add login files disk = (answer, after) ∧
      FilesAlong store after more last := by
  cases h with
  | add h later => exact ⟨_, _, h, later⟩
  | pass h later => exact h.elim

theorem outward {steps : List Step} (h : FilesAlong store files steps last) :
    FilesAlong store files (ClusterDeploy.outward steps) last := by
  induction h with
  | done => exact .done
  | add h later ih => exact .add h ih
  | save environment disk later ih => exact .save environment disk ih
  | @pass _ _ step more h later ih =>
    unfold ClusterDeploy.outward at ih ⊢
    rw [List.filter_cons]
    split
    · exact .pass h ih
    · exact ih

end FilesAlong

theorem Session.filesAlong (outside : Outside τ) (observer : Observer π) (store : KubeconfigStore)
    (t : Flow α) (s : Scene (Session π τ)) :
    let r := t.run (Session.respond outside observer store) s
    FilesAlong store s.state.files r.steps r.scene.state.files := by
  induction t generalizing s with
  | done a => exact .done
  | ask c next ih =>
    have hlater := ih (Session.respond outside observer store c s.state).answer
      (s.after (Session.respond outside observer store c s.state))
    cases c with
    | addContext name login => exact .add rfl hlater
    | saveEnvironment => exact .save s.state.environment (s.state.disks.headD {}) hlater
    | _ => exact .pass trivial hlater
  | clock next ih => exact ih _ s
  | pause time next ih => exact ih (s.rest time)

end ClusterDeploy
