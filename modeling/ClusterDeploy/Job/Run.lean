import ClusterDeploy.CommandLine.Parse
import ClusterDeploy.Job.Basic
import ClusterDeploy.Tools.Toolbox
/-!
# Running a job

A job runs on a workstation: its files, and the machine with its tools. What it prints is kept line
by line.
-/
namespace ClusterDeploy

structure Workstation where
  files : FileTree
  machine : Machine
  /-- What the disk makes of the updates and saves of a job, one after the other. -/
  disks : List Disk := []

abbrev Screen := List String

/-- Progress labels are shown among the other lines. -/
def Screen.observer : Observer Screen where
  report label lines := lines ++ [s!"  ⏳ {label}"]
  say line lines := lines ++ [line]

structure JobRun where
  result : Except Failure Unit
  screen : Screen := []
  warnings : List Warning := []
  /-- The user has interrupted the job, which ends its waits only. -/
  interrupted : Bool := false
  /-- All that was asked for, in order. -/
  steps : List Step := []
  after : Workstation

namespace Setup

/-- The tools as the settings name them. The values of the env file are handed to the cluster's
client from the start. -/
def toolbox (s : Setup) (machine : Machine) : Toolbox :=
  { machine
    kubectl := { program := s.settings.kubectl, environment := s.environment.values.entries }
    az := s.settings.az
    docker := s.settings.docker }

/-- What the calls of the job meet. A job without a store ends before it asks for one. -/
def surroundings (s : Setup) (home : String) : Surroundings (Session Screen Toolbox) :=
  Session.respond Toolbox.outside Screen.observer
    (s.store.toOption.getD ⟨KubeconfigStore.defaultPath home⟩)

def start (s : Setup) (w : Workstation) : Scene (Session Screen Toolbox) :=
  { state := {
      files := w.files
      disks := w.disks
      environment := s.environment
      watcher := []
      outside := s.toolbox w.machine } }

def run (s : Setup) (w : Workstation) (job : Job) : JobRun :=
  let r := Flow.run (s.surroundings w.machine.home) (s.routine job).run (s.start w)
  { result := r.result
    screen := r.scene.state.watcher
    warnings := r.scene.state.warnings
    interrupted := r.scene.cancelAt.isSome
    steps := r.steps
    after := {
      files := r.scene.state.files
      machine := r.scene.state.outside.machine
      disks := r.scene.state.disks } }

end Setup

namespace CommandLine

def run (c : CommandLine) (w : Workstation) : JobRun :=
  match Setup.load w.files w.machine.lookup w.machine.home c with
  | (.error e, files) => { result := .error e, after := { w with files } }
  | (.ok setup, files) => setup.run { w with files } c.job

end CommandLine

structure Report where
  exitCode : Nat
  stdout : String := ""
  stderr : String := ""
  after : Workstation

namespace Report

def versionText : String := Settings.appName ++ " 0.3.1\n"

def linesText (lines : List String) : String := String.join (lines.map (· ++ "\n"))

def cancelText : String := "🛑 Cancelling...\n"

def ofJob (r : JobRun) : Report :=
  let notice := if r.interrupted then cancelText else ""
  let stdout := linesText r.screen
  match r.result with
  | .ok () => { exitCode := 0, stdout, stderr := notice, after := r.after }
  | .error e => { exitCode := 1, stdout, stderr := notice ++ e.report ++ "\n", after := r.after }

/-- A command line without a job touches nothing. Of all that can be shown instead, only the version
is fixed; the wording of help and usage is left open. -/
def ofHalt (h : Halt) (w : Workstation) : Report :=
  { exitCode := h.exitCode
    stdout := if h = .version then versionText else ""
    after := w }

def ofArgs (args : List String) (w : Workstation) : Report :=
  match CommandLine.parse w.machine.lookup args with
  | .error h => ofHalt h w
  | .ok c => ofJob (c.run w)

end Report

end ClusterDeploy
