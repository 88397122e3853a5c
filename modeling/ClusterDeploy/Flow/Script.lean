import ClusterDeploy.Flow.Session
/-!
# An outside that follows a script

For each sort of request there is a list of prepared answers, given one after the other; the last
one is repeated, and without any the answer is an empty success.
-/
namespace ClusterDeploy

structure PreparedAnswer where
  items : List Json := []
  stdout : String := ""
  kubeconfigs : List (List UInt8) := []
  failure : Option Error := none
  elapsed : Nat := 0
  cancels : Bool := false
  deriving Inhabited

/-- The answers still to be given, by sort of request. -/
structure Script where
  answers : List (String × List PreparedAnswer)

namespace Script

def sort : Request → String
  | .list kind => kind.label
  | .rolloutStatus _ => "rollout"
  | .apply _ => "apply"
  | .applyInput _ => "apply_stdin"
  | .createNamespace _ _ => "create_namespace"
  | .useContext _ => "use_context"
  | .credentials _ _ _ => "credentials"
  | .push _ _ _ => "push"
  | .setEnvironment _ | .setKubeconfig _ => ""

def next : List PreparedAnswer → PreparedAnswer × List PreparedAnswer
  | [] => ({}, [])
  | [last] => (last, [last])
  | answer :: more => (answer, more)

def takeFrom (name : String) :
    List (String × List PreparedAnswer) → PreparedAnswer × List (String × List PreparedAnswer)
  | [] => ({}, [])
  | (n, answers) :: more =>
    if n = name then
      let (answer, answers) := next answers
      (answer, (n, answers) :: more)
    else
      let (answer, more) := takeFrom name more
      (answer, (n, answers) :: more)

def PreparedAnswer.orFail (p : PreparedAnswer) (a : α) : Except Error α :=
  match p.failure with
  | some e => .error e
  | none => .ok a

def answer (p : PreparedAnswer) : (r : Request) → r.Answer
  | .list _ => PreparedAnswer.orFail p p.items
  | .rolloutStatus _ | .apply _ | .applyInput _ | .createNamespace _ _ | .useContext _ =>
    PreparedAnswer.orFail p { stdout := p.stdout }
  | .setEnvironment _ | .setKubeconfig _ => ()
  | .credentials _ _ _ => PreparedAnswer.orFail p p.kubeconfigs
  | .push _ _ _ => PreparedAnswer.orFail p ()

/-- A push reports its label before it is answered. -/
def labels : Request → List String
  | .push _ _ _ => ["Pushing container image"]
  | _ => []

def outside : Outside Script := fun _ r script =>
  let (p, answers) := takeFrom (sort r) script.answers
  { answer := answer p r
    after := { answers }
    elapsed := p.elapsed
    cancels := p.cancels
    labels := labels r }

def surroundings : Surroundings (Session ProgressChannel Script) :=
  Session.respond outside ProgressChannel.observer ⟨"config"⟩

def scene (script : Script) : Scene (Session ProgressChannel Script) :=
  { state := {
      files := {}
      environment := ⟨".env", .empty⟩
      watcher := .ofCapacity 16
      outside := script } }

end Script

end ClusterDeploy
