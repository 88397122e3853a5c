import ClusterDeploy.Flow.Session
/-!
# Running tools

A machine has a folder of installed tools and an environment, and remembers what was started on it.
What a tool does may depend on everything that was started before; that is left to a function, so
that every tool can stand behind it.
-/
namespace ClusterDeploy

inductive ExitStatus where
  | code (n : Nat)
  | signal (n : Nat)
  deriving DecidableEq, Repr

structure ToolResult where
  stdout : List UInt8 := []
  stderr : List UInt8 := []
  status : ExitStatus := .code 0
  /-- The user interrupts the program while the tool runs. -/
  interrupts : Bool := false
  /-- How long the tool runs, in milliseconds. -/
  elapsed : Nat := 0
  deriving DecidableEq, Repr, Inhabited

structure Invocation where
  tool : String
  args : List String
  stdin : List UInt8
  /-- Of several values of one name the first one counts. -/
  vars : List (String × String)
  deriving DecidableEq, Repr

def Invocation.setting? (i : Invocation) (name : String) : Option String :=
  (i.vars.find? fun v => v.1 == name).map (·.2)

structure Machine where
  vars : List (String × String)
  toolFolder : String
  installed : List String
  /-- What a tool does, given what was started before, the latest last. -/
  behave : List Invocation → Invocation → ToolResult
  log : List Invocation := []

structure Command where
  program : String
  args : List String := []
  /-- Put over the environment of the machine. -/
  vars : List (String × String) := []
  stdin : List UInt8 := []
  deriving DecidableEq, Repr

namespace Command

def line (c : Command) : String := c.program ++ " " ++ " ".intercalate c.args

def hasNul (s : String) : Bool := s.toList.contains (Char.ofNat 0)

/-- Neither names nor values nor arguments may hold a NUL. -/
def isPassable (c : Command) : Bool :=
  !(hasNul c.program || c.args.any hasNul || c.vars.any fun v => hasNul v.1 || hasNul v.2)

end Command

namespace Machine

def lookup (m : Machine) (name : String) : Option String :=
  (m.vars.find? fun v => v.1 == name).map (·.2)

def home (m : Machine) : String := (m.lookup "HOME").getD ""

def isTool (m : Machine) (path : String) : Bool :=
  m.installed.any fun name => Path.join m.toolFolder name == path

/-- Files of other kinds cannot be run. -/
def refusal (files : FileTree) (path : String) : IoFault :=
  match files.find path with
  | .ok _ => .permissionDenied
  | .error e => e

/-- Looks a name up in some folders. One that is found but cannot be run is only reported when no
other folder has the tool. -/
def search (m : Machine) (files : FileTree) (name : String) (denied : Bool) :
    List String → Except IoFault String
  | [] => .error (if denied then .permissionDenied else .notFound)
  | folder :: more =>
    let path := Path.join folder name
    if m.isTool path then .ok name
    else m.search files name (denied || refusal files path == .permissionDenied) more

/-- The tool that a program text stands for: a path when it has a slash, else a name that is looked
up in the folders of the search path. -/
def toolOf (m : Machine) (files : FileTree) (vars : List (String × String))
    (program : String) : Except IoFault String :=
  if program.isEmpty then .error .notFound
  else if program.toList.contains '/' then
    if m.isTool program then .ok ((Path.fileName? program).getD program)
    else .error (refusal files program)
  else
    let folders := ((vars.find? fun v => v.1 == "PATH").map (·.2)).getD ""
    m.search files program false ((Text.splitAt ':' folders.toList).map String.ofList)

/-- What a finished tool amounts to. Only the exit code zero is a success. -/
def outcome (line : String) (r : ToolResult) : Except Error CommandOutput :=
  let stderr := Text.trimmed (Text.decodeLossy r.stderr)
  match r.status with
  | .code 0 => .ok ⟨Text.decodeLossy r.stdout, stderr⟩
  | .code n => .error (.command line (some n) stderr)
  | .signal _ => .error (.command line none stderr)

def run (m : Machine) (files : FileTree) (c : Command) :
    Reply Machine (Except Error CommandOutput) :=
  let vars := c.vars ++ m.vars
  match (if c.isPassable then m.toolOf files vars c.program else .error .invalidInput) with
  | .error e => { answer := .error (.spawn c.line e), after := m }
  | .ok tool =>
    let call : Invocation := { tool, args := c.args, stdin := c.stdin, vars }
    let r := m.behave m.log call
    { answer := outcome c.line r
      after := { m with log := m.log ++ [call] }
      elapsed := r.elapsed
      cancels := r.interrupts }

end Machine

end ClusterDeploy
