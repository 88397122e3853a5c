import ClusterDeploy.Tools.Toolbox
/-!
# What requests start on the machine

A machine is only changed by what is started on it. For each request to the outside there is one
sort of calls that it may start: those of the cluster's client carry the kubeconfig and the
environment that the client has at that time. A tool fails with errors of its own.
-/
namespace ClusterDeploy

inductive Error.OfTool : Error → Prop
  | spawn (line : String) (source : IoFault) : OfTool (.spawn line source)
  | command (line : String) (code : Option Nat) (stderr : String) :
      OfTool (.command line code stderr)

structure Invocation.StartedFor (m : Machine) (c : Command) (i : Invocation) : Prop where
  tool : ∃ files, m.toolOf files (c.vars ++ m.vars) c.program = .ok i.tool
  args : i.args = c.args
  stdin : i.stdin = c.stdin
  vars : i.vars = c.vars ++ m.vars

namespace Machine

def starting (m : Machine) (started : List Invocation) : Machine :=
  { m with log := m.log ++ started }

theorem starting_nil (m : Machine) : m.starting [] = m := by
  simp [starting]

theorem starting_starting (m : Machine) (first second : List Invocation) :
    (m.starting first).starting second = m.starting (first ++ second) := by
  simp [starting]

theorem toolOf_starting (m : Machine) (started : List Invocation) :
    (m.starting started).toolOf = m.toolOf := by
  have hsearch (files : FileTree) (name : String) (denied : Bool) (folders : List String) :
      (m.starting started).search files name denied folders =
        m.search files name denied folders := by
    induction folders generalizing denied with
    | nil => rfl
    | cons folder more ih =>
      rw [search, search, ih]
      rfl
  funext files vars program
  unfold toolOf
  simp only [hsearch]
  rfl

def Starts (p : Invocation → Prop) (m m' : Machine) : Prop :=
  ∃ started, m' = m.starting started ∧ ∀ i ∈ started, p i

variable {p : Invocation → Prop} {m m' m'' : Machine}

theorem Starts.refl (m : Machine) : m.Starts p m :=
  ⟨[], (starting_nil m).symm, nofun⟩

theorem Starts.trans (h : m.Starts p m') (h' : m'.Starts p m'') : m.Starts p m'' := by
  obtain ⟨first, rfl, hfirst⟩ := h
  obtain ⟨second, rfl, hsecond⟩ := h'
  refine ⟨first ++ second, starting_starting m first second, ?_⟩
  intro i hi
  exact (List.mem_append.mp hi).elim (hfirst i) (hsecond i)

theorem Starts.mono {q : Invocation → Prop} (h : m.Starts p m') (weaker : ∀ i, p i → q i) :
    m.Starts q m' := by
  obtain ⟨started, hafter, hstarted⟩ := h
  exact ⟨started, hafter, fun i hi => weaker i (hstarted i hi)⟩

/-- A command that is run after others is started as it would have been before them. -/
theorem Starts.startedFor (h : m.Starts p m') {c : Command} {i : Invocation}
    (started : i.StartedFor m' c) : i.StartedFor m c := by
  obtain ⟨before, rfl, _⟩ := h
  obtain ⟨files, htool⟩ := started.tool
  rw [toolOf_starting] at htool
  exact ⟨⟨files, htool⟩, started.args, started.stdin, started.vars⟩

theorem run_cases (m : Machine) (files : FileTree) (c : Command) :
    (∃ e, (m.run files c).answer = .error e ∧ (m.run files c).after = m) ∨
      ∃ i, i.StartedFor m c ∧ (m.run files c).after = m.starting [i] ∧
        (m.run files c).answer = outcome c.line (m.behave m.log i) := by
  unfold run
  dsimp only
  split
  · exact .inl ⟨_, rfl, rfl⟩
  · next tool htool =>
    refine .inr ⟨⟨tool, c.args, c.stdin, c.vars ++ m.vars⟩, ?_, rfl, rfl⟩
    split at htool
    · exact ⟨⟨files, htool⟩, rfl, rfl, rfl⟩
    · cases htool

theorem stdout_of_outcome {line : String} {r : ToolResult} {output : CommandOutput}
    (h : outcome line r = .ok output) : output.stdout = Text.decodeLossy r.stdout := by
  unfold outcome at h
  split at h
  · cases h
    rfl
  · cases h
  · cases h

theorem ofTool_of_run {m : Machine} {files : FileTree} {c : Command} {e : Error}
    (h : (m.run files c).answer = .error e) : e.OfTool := by
  unfold run at h
  dsimp only at h
  split at h
  · cases h
    exact .spawn _ _
  · unfold outcome at h
    dsimp only at h
    split at h <;> cases h <;> exact .command _ _ _

theorem run_starts (m : Machine) (files : FileTree) (c : Command) :
    m.Starts (·.StartedFor m c) (m.run files c).after := by
  rcases m.run_cases files c with ⟨e, _, hafter⟩ | ⟨i, hi, hafter, _⟩
  · rw [hafter]
    exact .refl m
  · refine ⟨[i], hafter, ?_⟩
    intro j hj
    rwa [List.mem_singleton.mp hj]

theorem Starts.run (h : m.Starts p m') (files : FileTree) {c : Command}
    (allowed : ∀ i, i.StartedFor m c → p i) : m.Starts p (m'.run files c).after :=
  h.trans ((m'.run_starts files c).mono fun i hi => allowed i (h.startedFor hi))

end Machine

def Request.toCluster : Request → Bool
  | .list _ | .rolloutStatus _ | .apply _ | .applyInput _ | .createNamespace _ _ | .useContext _ =>
    true
  | _ => false

def Request.setting (r : Request) (k : KubectlClient) : KubectlClient :=
  match r with
  | .setEnvironment values => { k with environment := values.entries }
  | .setKubeconfig path => { k with kubeconfig := some path }
  | _ => k

namespace Toolbox

def LogsIn (t : Toolbox) (i : Invocation) : Prop :=
  ∃ subscription resourceGroup cluster,
    i.StartedFor t.machine (loginCommand t.az subscription resourceGroup cluster)

def Ships (t : Toolbox) (i : Invocation) : Prop :=
  ∃ args : List String, (args.head? = some "push" ∨ args.head? = some "tag") ∧
    i.StartedFor t.machine { program := t.docker, args }

def Asks (t : Toolbox) (i : Invocation) : Prop :=
  ∃ words flags stdin, i.StartedFor t.machine (t.kubectl.command words flags stdin)

def MayStart (t : Toolbox) (r : Request) (i : Invocation) : Prop :=
  (r.toCluster ∧ t.Asks i) ∨ t.LogsIn i ∨ t.Ships i

theorem runFor_cases (t : Toolbox) (files : FileTree) (c : Command)
    (read : CommandOutput → Except Error α) :
    (∃ e, (t.runFor files c read).answer = .error e ∧ (t.runFor files c read).after = t) ∨
      ∃ i, i.StartedFor t.machine c ∧
        (t.runFor files c read).after = { t with machine := t.machine.starting [i] } ∧
        (t.runFor files c read).answer =
          (Machine.outcome c.line (t.machine.behave t.machine.log i)).bind read := by
  unfold runFor
  dsimp only
  rcases t.machine.run_cases files c with ⟨e, hanswer, hafter⟩ | ⟨i, hi, hafter, hanswer⟩
  · exact .inl ⟨e, by rw [hanswer]; rfl, by rw [hafter]⟩
  · exact .inr ⟨i, hi, by rw [hafter], by rw [hanswer]⟩

theorem thenDo_starts {p : Invocation → Prop} {m : Machine}
    {r : Reply Machine (Except Error α)} {next : α → Machine → Reply Machine (Except Error β)}
    (first : m.Starts p r.after)
    (second : ∀ a m', m.Starts p m' → m.Starts p (next a m').after) :
    m.Starts p (thenDo r next).after := by
  unfold thenDo
  split
  · exact first
  · exact second _ _ first

theorem pushImage_starts (t : Toolbox) (files : FileTree) (package : ServicePackage) :
    t.machine.Starts t.Ships (pushImage t.machine files t.docker package).after := by
  have hpush (m : Machine) (h : t.machine.Starts t.Ships m) :
      t.machine.Starts t.Ships (thenDo
        (labelled "Pushing container image" m files
          { program := t.docker, args := ["push", package.publishedImage] })
        fun _ machine => ({ answer := .ok (), after := machine } :
          Reply Machine (Except Error Unit))).after :=
    thenDo_starts (h.run files fun i hi => ⟨_, .inl rfl, hi⟩) fun _ _ h => h
  unfold pushImage
  dsimp only
  split
  · exact hpush _ (.refl _)
  · refine thenDo_starts ?_ fun _ m h => hpush m h
    exact (Machine.Starts.refl _).run files fun i hi => ⟨_, .inr rfl, hi⟩

/-- The confirmation of a rollout has nothing to read, so only the tool can fail. -/
theorem ofTool_of_rolloutStatus {files : FileTree} {name : String} {t : Toolbox} {e : Error}
    (h : (outside files (.rolloutStatus name) t).answer = .error e) : e.OfTool := by
  change (t.machine.run files (t.kubectl.rolloutStatus name)).answer.bind .ok = .error e at h
  cases hrun : (t.machine.run files (t.kubectl.rolloutStatus name)).answer with
  | ok output =>
    rw [hrun] at h
    cases h
  | error source =>
    rw [hrun] at h
    cases h
    exact Machine.ofTool_of_run hrun

/-- What a request leaves of a toolbox: the machine with what was started for the request, and the
client as it is set from now on. -/
structure Answers (t : Toolbox) (r : Request) (t' : Toolbox) : Prop where
  started : t.machine.Starts (t.MayStart r) t'.machine
  client : t'.kubectl = r.setting t.kubectl
  az : t'.az = t.az
  docker : t'.docker = t.docker

theorem outside_answers (files : FileTree) (r : Request) (t : Toolbox) :
    t.Answers r (outside files r t).after := by
  have hasked {α : Type} (words : List String) (flags : KubectlFlags) (stdin : String)
      (read : CommandOutput → Except Error α) (h : r.toCluster) :
      t.machine.Starts (t.MayStart r)
        (t.runFor files (t.kubectl.command words flags stdin) read).after.machine :=
    (t.machine.run_starts files _).mono fun i hi => .inl ⟨h, _, _, _, hi⟩
  cases r with
  | list kind => exact ⟨hasked _ _ _ _ rfl, rfl, rfl, rfl⟩
  | rolloutStatus name => exact ⟨hasked _ _ _ _ rfl, rfl, rfl, rfl⟩
  | apply folder => exact ⟨hasked _ _ _ _ rfl, rfl, rfl, rfl⟩
  | applyInput manifest => exact ⟨hasked _ _ _ _ rfl, rfl, rfl, rfl⟩
  | createNamespace name flags => exact ⟨hasked _ _ _ _ rfl, rfl, rfl, rfl⟩
  | useContext name => exact ⟨hasked _ _ _ _ rfl, rfl, rfl, rfl⟩
  | setEnvironment values => exact ⟨.refl _, rfl, rfl, rfl⟩
  | setKubeconfig path => exact ⟨.refl _, rfl, rfl, rfl⟩
  | credentials subscription resourceGroup cluster =>
    have hlogin := (t.machine.run_starts files
      (loginCommand t.az subscription resourceGroup cluster)).mono fun i hi =>
        (Or.inr (.inl ⟨_, _, _, hi⟩) :
          t.MayStart (.credentials subscription resourceGroup cluster) i)
    exact ⟨hlogin, rfl, rfl, rfl⟩
  | push service package resource =>
    have hshipped := (t.pushImage_starts files package).mono fun i hi =>
      (Or.inr (.inr hi) : t.MayStart (.push service package resource) i)
    exact ⟨hshipped, rfl, rfl, rfl⟩

end Toolbox

end ClusterDeploy
