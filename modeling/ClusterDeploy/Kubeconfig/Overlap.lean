import ClusterDeploy.Kubeconfig.Store
/-!
# Updates that overlap

Any number of updates at once, each one going its own steps on the same files. An update finds out
the location of its file and then waits for the lock of that location, which it holds until it ends.
An update can fail on its own account at any step until the file is written, and the disk can refuse
each of its steps. Paths that lead through linked folders are not covered.
-/
namespace ClusterDeploy

structure Update where
  store : KubeconfigStore
  login : Kubeconfig

namespace Update

inductive Phase where
  | called
  | located (place : Place)
  | locked (place : Place)
  /-- The lock file is open. -/
  | opened (place : Place)
  | read (place : Place) (found : Kubeconfig)
  | merged (place : Place) (config : Kubeconfig)
  | written (place : Place)
  | ended (answer : Except Error String)

namespace Phase

def held? : Phase → Option Place
  | locked place | opened place | read place _ | merged place _ | written place => some place
  | called | located _ | ended _ => none

/-- The login has gone into the file. -/
def isStored : Phase → Bool
  | written _ | ended (.ok _) => true
  | _ => false

/-- The update has not taken a lock and can still take one. -/
def isAhead : Phase → Bool
  | called | located _ => true
  | _ => false

def isOpen : Phase → Bool
  | written _ | ended _ => false
  | _ => true

end Phase

structure State (ι : Type) where
  files : FileTree
  phase : ι → Phase := fun _ => .called
  holder : Place → Option ι := fun _ => none
  /-- Who has taken the lock of a place, in order. -/
  turns : Place → List ι := fun _ => []

/-- An update takes its next step on a disk that may refuse it, or it fails on its own account. -/
inductive Action (ι : Type) where
  | advance (i : ι) (disk : Disk := {})
  | fail (i : ι) (e : Error)

section States

variable {ι : Type} [DecidableEq ι] (updates : ι → Update)

namespace State

def move (s : State ι) (i : ι) (files : FileTree) (phase : Phase) : State ι :=
  { s with files, phase := fun j => if j = i then phase else s.phase j }

/-- The lock is free again, if the update held one. -/
def finish (s : State ι) (i : ι) (files : FileTree) (answer : Except Error String) : State ι :=
  { s.move i files (.ended answer) with
    holder := fun place => if s.holder place = some i then none else s.holder place }

def take (s : State ι) (i : ι) (place : Place) : State ι :=
  { s.move i s.files (.locked place) with
    holder := fun other => if other = place then some i else s.holder other
    turns := fun other => if other = place then s.turns other ++ [i] else s.turns other }

/-- One step of an update. It waits while somebody else holds the lock. -/
def advance (s : State ι) (i : ι) (disk : Disk := {}) : State ι :=
  let store := (updates i).store
  match s.phase i with
  | .called =>
    match store.location s.files disk with
    | .error (e, files) => s.finish i files (.error e)
    | .ok (place, files) => s.move i files (.located place)
  | .located place => if (s.holder place).isNone then s.take i place else s
  | .locked place =>
    match store.lock s.files disk with
    | .error (e, files) => s.finish i files (.error e)
    | .ok files => s.move i files (.opened place)
  | .opened place =>
    match store.load s.files disk with
    | .error e => s.finish i s.files (.error e)
    | .ok found => s.move i s.files (.read place found)
  | .read place found => s.move i s.files (.merged place (found.merge (updates i).login))
  | .merged place config =>
    match store.write config s.files disk with
    | (.error e, files) => s.finish i files (.error e)
    | (.ok (), files) => s.move i files (.written place)
  | .written _ => s.finish i s.files (.ok store.path)
  | .ended _ => s

def perform (s : State ι) : Action ι → State ι
  | .advance i disk => s.advance updates i disk
  | .fail i e => if (s.phase i).isOpen then s.finish i s.files (.error e) else s

def run (s : State ι) (actions : List (Action ι)) : State ι :=
  actions.foldl (perform updates) s

/-- The updates whose login has gone into the file at a place, in the order in which they took its
lock. -/
def served (s : State ι) (place : Place) : List ι :=
  (s.turns place).filter fun i => (s.phase i).isStored

end State

end States

end Update

end ClusterDeploy
