import ClusterDeploy.Job.Run
import ClusterDeploy.Proofs.Flow.Outcomes
import ClusterDeploy.Proofs.Text.Utf8
import ClusterDeploy.Proofs.Tools.Started
import Mathlib.Data.List.Forall2
/-!
# What the cluster is asked

A job that only looks logs in at most once and asks the cluster's client for one thing after the
other: to switch to the cluster, to render the namespace, to apply what was rendered, and then to
list services and ingresses. It may stop anywhere on this way.
-/
namespace ClusterDeploy

namespace Setup

/-! ## What is asked -/

def client (s : Setup) (path : String) : KubectlClient :=
  ⟨s.settings.kubectl, s.environment.values.entries, some path⟩

def switches (s : Setup) : List String :=
  match s.environment.values.getFilled? Environment.kubeconfigVar with
  | some _ => []
  | none => s.bootstrapConfig.cluster.toList

def inquiry (s : Setup) (path manifest : String) (services ingresses : Nat) : List Command :=
  s.switches.map (s.client path).useContext ++
    [(s.client path).createNamespace s.service.inNamespace .dryRunYaml,
      (s.client path).applyInput manifest] ++
    List.replicate services ((s.client path).list .service) ++
    List.replicate ingresses ((s.client path).list .ingress)

def IsAimed (s : Setup) : Prop :=
  (s.environment.values.getFilled? Environment.kubeconfigVar).isSome ∨
    s.bootstrapConfig.cluster.isSome

def LogsInOnce (s : Setup) (m : Machine) (login : List Invocation) : Prop :=
  login = [] ∨ s.environment.values.getFilled? Environment.kubeconfigVar = none ∧
    ∃ i cluster, login = [i] ∧ s.bootstrapConfig.cluster = some cluster ∧
      i.StartedFor m (Toolbox.loginCommand s.settings.az s.target.subscription
        s.target.resourceGroup cluster)

/-- A machine on which an inquiry was made, or the beginning of one. What is applied is exactly what
the tool printed when it rendered the namespace. -/
def Inquired (s : Setup) (m : Machine) (services ingresses : Nat) (m' : Machine) : Prop :=
  ∃ login asked path manifest commands,
    m' = m.starting (login ++ asked) ∧ s.LogsInOnce m login ∧
    commands <+: s.inquiry path manifest services ingresses ∧ (commands = [] ∨ s.IsAimed) ∧
    List.Forall₂ (Invocation.StartedFor m) commands asked ∧
    ∀ rendering ∈ asked[s.switches.length]?,
      let printed :=
        (m.behave (m.log ++ login ++ asked.take s.switches.length) rendering).stdout
      manifest = Text.decodeLossy printed ∧
        ∀ text, printed = Text.encodeUtf8 text → Text.encodeUtf8 manifest = printed

structure Underway (s : Setup) (m : Machine) (kubeconfig manifest : Option String)
    (commands : List Command) (t : Toolbox) : Prop where
  client : t.kubectl = ⟨s.settings.kubectl, s.environment.values.entries, kubeconfig⟩
  aimed : kubeconfig = none ∧ commands = [] ∨ s.IsAimed
  machine : ∃ login asked, t.machine = m.starting (login ++ asked) ∧ s.LogsInOnce m login ∧
    List.Forall₂ (Invocation.StartedFor m) commands asked ∧
    ∀ rendering ∈ asked[s.switches.length]?, manifest = some (Text.decodeLossy
      (m.behave (m.log ++ login ++ asked.take s.switches.length) rendering).stdout)

variable {s : Setup} {m : Machine} {kubeconfig manifest : Option String} {commands : List Command}
  {t : Toolbox} {path : String} {c : Command} {i : Invocation}

theorem startedFor_of_starting {started : List Invocation}
    (h : i.StartedFor (m.starting started) c) : i.StartedFor m c := by
  have hstarts : m.Starts (fun _ => True) (m.starting started) := ⟨started, rfl, fun _ _ => trivial⟩
  exact hstarts.startedFor h

namespace Underway

theorem inquired (h : s.Underway m kubeconfig manifest commands t) {services ingresses : Nat}
    (hway : commands <+: s.inquiry path (manifest.getD "") services ingresses) :
    s.Inquired m services ingresses t.machine := by
  obtain ⟨login, asked, hmachine, hlogin, hasked, hrendered⟩ := h.machine
  refine ⟨login, asked, path, _, commands, hmachine, hlogin, hway, h.aimed.imp_left And.right,
    hasked, ?_⟩
  intro rendering hrendering
  rw [hrendered rendering hrendering]
  refine ⟨rfl, fun text hprinted => ?_⟩
  rw [hprinted, Option.getD_some, Text.decodeLossy_encodeUtf8]

theorem isAimed (h : s.Underway m (some path) manifest commands t) : s.IsAimed :=
  h.aimed.resolve_left fun hnone => nomatch hnone.1

theorem asks (h : s.Underway m (some path) manifest commands t)
    (other : commands.length ≠ s.switches.length) (hi : i.StartedFor t.machine c) :
    s.Underway m (some path) manifest (commands ++ [c])
      { t with machine := t.machine.starting [i] } := by
  obtain ⟨login, asked, hmachine, hlogin, hasked, hrendered⟩ := h.machine
  have hlength := hasked.length_eq
  rw [hmachine] at hi
  refine ⟨h.client, .inr h.isAimed, login, asked ++ [i], ?_, hlogin, ?_, ?_⟩
  · rw [hmachine, Machine.starting_starting, List.append_assoc]
  · exact List.rel_append hasked (.cons (startedFor_of_starting hi) .nil)
  · intro rendering hrendering
    by_cases hbefore : s.switches.length < asked.length
    · rw [List.getElem?_append_left hbefore] at hrendering
      rw [List.take_append_of_le_length (Nat.le_of_lt hbefore)]
      exact hrendered rendering hrendering
    · have hnone : (asked ++ [i])[s.switches.length]? = none := by
        rw [List.getElem?_eq_none_iff, List.length_append, List.length_singleton]
        omega
      rw [hnone] at hrendering
      cases hrendering

theorem renders (h : s.Underway m (some path) none commands t)
    (next : commands.length = s.switches.length) (hi : i.StartedFor t.machine c) :
    s.Underway m (some path)
      (some (Text.decodeLossy (t.machine.behave t.machine.log i).stdout)) (commands ++ [c])
      { t with machine := t.machine.starting [i] } := by
  obtain ⟨login, asked, hmachine, hlogin, hasked, -⟩ := h.machine
  have hlength := hasked.length_eq
  rw [hmachine] at hi ⊢
  refine ⟨h.client, .inr h.isAimed, login, asked ++ [i], ?_, hlogin, ?_, ?_⟩
  · rw [Machine.starting_starting, List.append_assoc]
  · exact List.rel_append hasked (.cons (startedFor_of_starting hi) .nil)
  · intro rendering hrendering
    rw [← next, hlength, List.getElem?_concat_length] at hrendering
    cases hrendering
    rw [← next, hlength, List.take_left, List.append_assoc]
    rfl

theorem setKubeconfig (h : s.Underway m kubeconfig manifest commands t) (aimed : s.IsAimed)
    (path : String) :
    s.Underway m (some path) manifest commands
      { t with kubectl := { t.kubectl with kubeconfig := some path } } :=
  ⟨by rw [h.client], .inr aimed, h.machine⟩

/-- A command of an inquiry that is not the rendering, whatever is read off its output. -/
theorem ran (h : s.Underway m (some path) manifest commands t)
    (other : commands.length ≠ s.switches.length) {reached : List Command}
    (hreached : commands ++ [c] = reached) {services ingresses : Nat}
    (way : reached <+: s.inquiry path (manifest.getD "") services ingresses)
    (files : FileTree) (read : CommandOutput → Except Error α) :
    Flow.Concludes (fun _ => s.Underway m (some path) manifest reached)
      (fun t' => s.Inquired m services ingresses t'.machine)
      (t.runFor files c read).answer (t.runFor files c read).after := by
  subst hreached
  rcases t.runFor_cases files c read with ⟨e, hanswer, hafter⟩ | ⟨i, hi, hafter, _⟩
  · rw [hanswer, hafter]
    exact h.inquired ((List.prefix_append _ _).trans way)
  · rw [hafter]
    have hnext := h.asks other hi
    exact .of_both _ (fun _ => hnext) (hnext.inquired way)

theorem rendered (h : s.Underway m (some path) none commands t)
    (next : commands.length = s.switches.length) {services ingresses : Nat}
    (way : ∀ manifest, commands ++ [c] <+: s.inquiry path manifest services ingresses)
    (files : FileTree) :
    Flow.Concludes
      (fun rendering => s.Underway m (some path) (some rendering.stdout) (commands ++ [c]))
      (fun t' => s.Inquired m services ingresses t'.machine)
      (t.runFor files c .ok).answer (t.runFor files c .ok).after := by
  rcases t.runFor_cases files c .ok with ⟨e, hanswer, hafter⟩ | ⟨i, hi, hafter, hanswer⟩
  · rw [hanswer, hafter]
    exact h.inquired ((List.prefix_append _ _).trans (way _))
  · rw [hafter, hanswer]
    have hnext := h.renders next hi
    cases hout : Machine.outcome c.line (t.machine.behave t.machine.log i) with
    | ok rendering =>
      rw [← Machine.stdout_of_outcome hout] at hnext
      exact hnext
    | error e => exact hnext.inquired (way _)

end Underway

/-! ## The way of an inquiry -/

theorem inquiry_start (s : Setup) (path manifest : String) :
    s.inquiry path manifest 0 0 = s.switches.map (s.client path).useContext ++
      [(s.client path).createNamespace s.service.inNamespace .dryRunYaml,
        (s.client path).applyInput manifest] := by
  simp [inquiry]

theorem inquiry_service (s : Setup) (path manifest : String) (services : Nat) :
    s.inquiry path manifest services 0 ++ [(s.client path).list .service] =
      s.inquiry path manifest (services + 1) 0 := by
  simp [inquiry, List.replicate_succ']

theorem inquiry_ingress (s : Setup) (path manifest : String) (services ingresses : Nat) :
    s.inquiry path manifest services ingresses ++ [(s.client path).list .ingress] =
      s.inquiry path manifest services (ingresses + 1) := by
  simp [inquiry, List.replicate_succ']

theorem length_inquiry (s : Setup) (path manifest : String) (services ingresses : Nat) :
    (s.inquiry path manifest services ingresses).length =
      s.switches.length + 2 + services + ingresses := by
  simp [inquiry]
  omega

/-! ## Stations on the way -/

def Switched (s : Setup) (m : Machine) (path : String) (t : Toolbox) : Prop :=
  s.Underway m (some path) none (s.switches.map (s.client path).useContext) t

def Rendered (s : Setup) (m : Machine) (path manifest : String) (t : Toolbox) : Prop :=
  s.Underway m (some path) (some manifest) (s.switches.map (s.client path).useContext ++
    [(s.client path).createNamespace s.service.inNamespace .dryRunYaml]) t

def Listing (s : Setup) (m : Machine) (services ingresses : Nat) (t : Toolbox) : Prop :=
  ∃ path manifest, s.Underway m (some path) (some manifest)
    (s.inquiry path manifest services ingresses) t

theorem underway_start (s : Setup) (m : Machine) : s.Underway m none none [] (s.toolbox m) := by
  refine ⟨rfl, .inl ⟨rfl, rfl⟩, [], [], (Machine.starting_nil m).symm, .inl rfl, .nil, ?_⟩
  intro rendering hrendering
  cases hrendering

theorem Underway.inquired_start (h : s.Underway m kubeconfig none [] t) :
    s.Inquired m 0 0 t.machine := by
  have hway : [] <+: s.inquiry "" "" 0 0 := List.nil_prefix
  exact h.inquired hway

theorem underway_login {cluster : String}
    (given : s.environment.values.getFilled? Environment.kubeconfigVar = none)
    (named : s.bootstrapConfig.cluster = some cluster) (files : FileTree) :
    s.Underway m none none [] (Toolbox.outside files (.credentials s.target.subscription
      s.target.resourceGroup cluster) (s.toolbox m)).after := by
  rcases (s.toolbox m).runFor_cases files (Toolbox.loginCommand s.settings.az
    s.target.subscription s.target.resourceGroup cluster)
    (fun output => .ok (Toolbox.kubeconfigsOf output)) with ⟨e, _, hafter⟩ | ⟨i, hi, hafter, _⟩
  · refine Eq.mpr (congrArg _ hafter) (underway_start s m)
  · refine Eq.mpr (congrArg _ hafter) ?_
    refine ⟨rfl, .inl ⟨rfl, rfl⟩, [i], [], rfl, .inr ⟨given, i, cluster, rfl, named, hi⟩, .nil, ?_⟩
    intro rendering hrendering
    cases hrendering

theorem prefix_switched (s : Setup) (path manifest : String) :
    s.switches.map (s.client path).useContext <+: s.inquiry path manifest 0 0 := by
  rw [inquiry_start]
  exact List.prefix_append _ _

theorem prefix_rendered (s : Setup) (path manifest : String) :
    s.switches.map (s.client path).useContext ++
        [(s.client path).createNamespace s.service.inNamespace .dryRunYaml] <+:
      s.inquiry path manifest 0 0 := by
  rw [inquiry_start]
  exact ⟨[(s.client path).applyInput manifest], List.append_assoc _ _ _⟩

theorem Switched.inquired (h : s.Switched m path t) : s.Inquired m 0 0 t.machine :=
  Underway.inquired h (prefix_switched s path "")

theorem Listing.inquired {services ingresses : Nat} (h : s.Listing m services ingresses t) :
    s.Inquired m services ingresses t.machine := by
  obtain ⟨path, manifest, h⟩ := h
  exact h.inquired List.prefix_rfl

theorem Underway.switches {cluster : String}
    (given : s.environment.values.getFilled? Environment.kubeconfigVar = none)
    (named : s.bootstrapConfig.cluster = some cluster)
    (h : s.Underway m (some path) none [] t) (files : FileTree) :
    Flow.Concludes (fun _ => s.Switched m path) (fun t' => s.Inquired m 0 0 t'.machine)
      (Toolbox.outside files (.useContext cluster) t).answer
      (Toolbox.outside files (.useContext cluster) t).after := by
  obtain ⟨machine, kubectl, az, docker⟩ := t
  obtain rfl : kubectl = s.client path := h.client
  have hswitches : s.switches = [cluster] := by
    unfold Setup.switches
    rw [given, named]
    rfl
  have hswitch : [] ++ [(s.client path).useContext cluster] =
      s.switches.map (s.client path).useContext := by
    rw [hswitches]
    rfl
  have hfirst : ([] : List Command).length ≠ s.switches.length := by
    rw [hswitches]
    exact Nat.zero_ne_one
  exact h.ran hfirst hswitch (prefix_switched s path "") files .ok

theorem Switched.renders (h : s.Switched m path t) (files : FileTree) :
    Flow.Concludes (fun rendering => s.Rendered m path rendering.stdout)
      (fun t' => s.Inquired m 0 0 t'.machine)
      (Toolbox.outside files (.createNamespace s.service.inNamespace .dryRunYaml) t).answer
      (Toolbox.outside files (.createNamespace s.service.inNamespace .dryRunYaml) t).after := by
  obtain ⟨machine, kubectl, az, docker⟩ := t
  obtain rfl : kubectl = s.client path := h.client
  exact Underway.rendered h (List.length_map _) (prefix_rendered s path) files

theorem Rendered.applies {manifest : String} (h : s.Rendered m path manifest t)
    (files : FileTree) :
    Flow.Concludes (fun _ => s.Listing m 0 0) (fun t' => s.Inquired m 0 0 t'.machine)
      (Toolbox.outside files (.applyInput manifest) t).answer
      (Toolbox.outside files (.applyInput manifest) t).after := by
  obtain ⟨machine, kubectl, az, docker⟩ := t
  obtain rfl : kubectl = s.client path := h.client
  have hlater : (s.switches.map (s.client path).useContext ++
      [(s.client path).createNamespace s.service.inNamespace .dryRunYaml]).length ≠
        s.switches.length := by
    rw [List.length_append, List.length_map]
    exact Nat.succ_ne_self _
  have hwhole : s.switches.map (s.client path).useContext ++
      [(s.client path).createNamespace s.service.inNamespace .dryRunYaml] ++
        [(s.client path).applyInput manifest] = s.inquiry path manifest 0 0 := by
    rw [inquiry_start]
    exact List.append_assoc _ _ _
  have hran := Underway.ran h hlater hwhole List.prefix_rfl files .ok
  exact hran.mono (fun _ h => ⟨path, manifest, h⟩) id

theorem Listing.lists {services ingresses services' ingresses' : Nat} {kind : ResourceKind}
    (h : s.Listing m services ingresses t)
    (next : ∀ path manifest, s.inquiry path manifest services ingresses ++
      [(s.client path).list kind] = s.inquiry path manifest services' ingresses')
    (files : FileTree) :
    s.Listing m services ingresses (Toolbox.outside files (.list kind) t).after ∨
      s.Listing m services' ingresses' (Toolbox.outside files (.list kind) t).after := by
  obtain ⟨path, manifest, h⟩ := h
  obtain ⟨machine, kubectl, az, docker⟩ := t
  obtain rfl : kubectl = s.client path := h.client
  have hlater : (s.inquiry path manifest services ingresses).length ≠ s.switches.length := by
    rw [length_inquiry]
    omega
  rcases Toolbox.runFor_cases ⟨machine, s.client path, az, docker⟩ files
    ((s.client path).list kind) (KubectlClient.itemsOf kind) with
    ⟨e, _, hafter⟩ | ⟨i, hi, hafter, _⟩
  · refine .inl ⟨path, manifest, Eq.mpr (congrArg _ hafter) h⟩
  · have hnext := h.asks hlater hi
    rw [next] at hnext
    exact .inr ⟨path, manifest, Eq.mpr (congrArg _ hafter) hnext⟩

/-- Services are listed first, and ingresses only after them. -/
theorem Listing.lists_service {services : Nat} (h : s.Listing m services 0 t) (files : FileTree) :
    ∃ services, s.Listing m services 0 (Toolbox.outside files (.list .service) t).after :=
  (h.lists (fun path manifest => inquiry_service s path manifest services) files).elim
    (⟨_, ·⟩) (⟨_, ·⟩)

theorem Listing.lists_ingress {services ingresses : Nat} (h : s.Listing m services ingresses t)
    (files : FileTree) :
    ∃ ingresses, s.Listing m services ingresses (Toolbox.outside files (.list .ingress) t).after :=
  (h.lists (fun path manifest => inquiry_ingress s path manifest services ingresses) files).elim
    (⟨_, ·⟩) (⟨_, ·⟩)

end Setup

end ClusterDeploy
