import ClusterDeploy.Tools.Machine
/-!
# Tools that follow a script

A tool answers by the start of its command line: the longest key that the line starts with decides,
and the calls that chose the same key get the results of its list in order, the last one again and
again.
-/
namespace ClusterDeploy

abbrev ToolScript := List (String × List ToolResult)

namespace ToolScript

/-- The arguments on one line, without a kubeconfig in front. -/
def keyLine (args : List String) : String :=
  " ".intercalate (if args.head? = some "--kubeconfig" then args.drop 2 else args)

def choose (script : ToolScript) (line : String) : Option (String × List ToolResult) :=
  script.foldl (fun best entry =>
    if entry.1.toList.isPrefixOf line.toList && best.all fun b => b.1.length < entry.1.length then
      some entry
    else best) none

def chosenKey (script : ToolScript) (i : Invocation) : Option String :=
  (choose script (keyLine i.args)).map (·.1)

def behave (scripts : List (String × ToolScript)) (before : List Invocation) (call : Invocation) :
    ToolResult :=
  let script := ((scripts.find? fun s => s.1 == call.tool).map (·.2)).getD []
  match choose script (keyLine call.args) with
  | none => {}
  | some (key, results) =>
    let earlier := before.filter fun i => i.tool == call.tool && chosenKey script i == some key
    (results[min earlier.length (results.length - 1)]?).getD {}

end ToolScript

end ClusterDeploy
