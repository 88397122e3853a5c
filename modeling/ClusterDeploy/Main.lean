import ClusterDeploy.Job.Run
import ClusterDeploy.Json.Reader
import ClusterDeploy.Tools.Script
/-!
# The program

Runs a command line on the workstation that the first line of standard input describes: a JSON
object with the `variables` of the environment, the `files` by path, the `folder` to start in, and
for each of the `tools` its results by the start of the command line. Nothing else is read or
changed.
-/
namespace ClusterDeploy.Workstation

def textMembers (j : Json) : List (String × String) :=
  (j.obj?.getD []).filterMap fun m => m.2.str?.map (m.1, ·)

def toolResult (j : Json) : ToolResult :=
  let octets (name : String) := Text.encodeUtf8 ((j.member name).str?.getD "")
  { stdout := octets "stdout"
    stderr := octets "stderr"
    status := .code (((j.member "exit").int?.getD 0).toNat)
    interrupts := (j.member "interrupt").bool?.getD false }

def toolScript (j : Json) : ToolScript :=
  (j.obj?.getD []).map fun m => (m.1, (m.2.arr?.getD []).map toolResult)

def toolFolder : String := "/tools"

def place (files : FileTree) (path content : String) : FileTree :=
  let files := ((Path.parent? path).bind fun p => (files.createFolders p).toOption).getD files
  (files.replace path (Text.encodeUtf8 content)).2

def ofJson (j : Json) : Workstation :=
  let scripts := (((j.member "tools").obj?).getD []).map fun m => (m.1, toolScript m.2)
  let folder := (j.member "folder").str?.getD "/"
  let bare : FileTree := { home := Path.components folder }
  let files := (bare.createFolders folder).toOption.getD bare
  { files := (textMembers (j.member "files")).foldl (fun t f => place t f.1 f.2) files
    machine := {
      vars := textMembers (j.member "variables") ++ [("PATH", toolFolder)]
      toolFolder
      installed := scripts.map (·.1)
      behave := ToolScript.behave scripts } }

end ClusterDeploy.Workstation

open ClusterDeploy in
def main (args : List String) : IO UInt32 := do
  let line ← (← IO.getStdin).getLine
  let report := Report.ofArgs args (Workstation.ofJson ((Json.parse? line).getD .null))
  IO.print report.stdout
  IO.eprint report.stderr
  return UInt32.ofNat report.exitCode
