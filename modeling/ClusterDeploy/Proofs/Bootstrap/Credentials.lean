import ClusterDeploy.Proofs.Bootstrap.Login
import ClusterDeploy.Proofs.Text.Repair
import ClusterDeploy.Proofs.Tools.Started
/-!
# From the login tool to the kubeconfig file

What the login tool prints is read as text before it is decoded. Octets that are UTF-8 come through
as they are. Any others are repaired on the way, so that the decoder, which would refuse them, never
sees them.
-/
namespace ClusterDeploy

/-! ## What is handed over -/

def Step.handed? : Step → Option Kubeconfig
  | ⟨.addContext _ login, _, _, _⟩ => some login
  | _ => none

def handedOver (steps : List Step) : List Kubeconfig := steps.filterMap Step.handed?

theorem Step.handed?_of_leavesFiles {step : Step} (h : step.call.LeavesFiles) :
    step.handed? = none := by
  obtain ⟨call, answer, start, finish⟩ := step
  cases call with
  | addContext name login => exact h.elim
  | _ => rfl

theorem handedOver_of_leavesFiles {steps : List Step} (h : ∀ step ∈ steps, step.call.LeavesFiles) :
    handedOver steps = [] :=
  List.filterMap_eq_nil_iff.mpr fun step hstep => Step.handed?_of_leavesFiles (h step hstep)

theorem handedOver_outward (steps : List Step) : handedOver (outward steps) = handedOver steps := by
  refine filterMap_outward (fun step h => ?_) steps
  obtain ⟨call, answer, start, finish⟩ := step
  cases call with
  | addContext name login => cases h
  | _ => rfl

/-! ## What is printed -/

def Machine.Prints (m : Machine) (files : FileTree) (c : Command) (octets : List UInt8) : Prop :=
  c.isPassable = true ∧ ∃ tool, m.toolOf files (c.vars ++ m.vars) c.program = .ok tool ∧
    (m.behave m.log ⟨tool, c.args, c.stdin, c.vars ++ m.vars⟩).stdout = octets ∧
    (m.behave m.log ⟨tool, c.args, c.stdin, c.vars ++ m.vars⟩).status = .code 0

theorem Machine.Prints.answer {m : Machine} {files : FileTree} {c : Command}
    {octets : List UInt8} (h : m.Prints files c octets) :
    ∃ output, (m.run files c).answer = .ok output ∧
      output.stdout = Text.decodeLossy octets := by
  obtain ⟨passable, tool, htool, hstdout, hstatus⟩ := h
  unfold run
  simp only [passable, if_true, htool, outcome, hstdout, hstatus]
  exact ⟨_, rfl, rfl⟩

theorem Kubeconfig.parse_encodeUtf8_ne (text : String) (wrong : Text.Utf8Fault) :
    Kubeconfig.parse (Text.encodeUtf8 text) ≠ .error (.kubeconfigEncoding wrong) := by
  rw [parse, Text.decodeUtf8_encodeUtf8]
  dsimp only
  cases ofYaml text.toList <;> simp [Except.mapError]

namespace Bootstrapper

open Stage (check answered performed told wrapped)

variable {b : Bootstrapper} {c : Carried} {made : List Step} {fault : Option Error}
  {later : List Stage} {inNamespace cluster : String}

/-! ## The stages of a login -/

theorem of_check {f : Error → Error} {verdict : Except Error α} {value : α}
    (h : FailStop (wrapped f (check verdict value) :: later) made fault) :
    (∃ e, verdict = .error e ∧ made = [] ∧ fault = some (f e)) ∨
      verdict = .ok value ∧ FailStop later made fault := by
  cases h with
  | stop first =>
    obtain ⟨inside, ⟨rfl, hverdict⟩, hinside⟩ := first
    obtain ⟨e, rfl, he⟩ := Option.map_eq_some_iff.mp hinside.symm
    exact .inl ⟨e, hverdict, rfl, congrArg some he.symm⟩
  | next first hlater =>
    obtain ⟨inside, ⟨rfl, hverdict⟩, hinside⟩ := first
    obtain rfl : inside = none := Option.map_eq_none_iff.mp hinside.symm
    exact .inr ⟨hverdict, hlater⟩

theorem of_answered {f g : Error → Error} {call : Call} {read : call.Answer → Except Error α}
    {value value' : α} {answer : call.Answer} {start finish : Nat} {more : List Step}
    (h : FailStop (wrapped f (wrapped g (answered call read value)) :: later)
      (⟨call, answer, start, finish⟩ :: more) fault)
    (hanswer : read answer = .ok value') : value = value' ∧ FailStop later more fault := by
  generalize hmade : ⟨call, answer, start, finish⟩ :: more = made at h
  cases h with
  | stop first =>
    obtain ⟨outer, ⟨inner, ⟨answer', _, _, rfl, hread⟩, houter⟩, hfault⟩ := first
    cases hmade
    rw [hanswer] at hread
    cases inner with
    | none => simp [houter] at hfault
    | some e => cases hread
  | next first hlater =>
    obtain ⟨outer, ⟨inner, ⟨answer', _, _, rfl, hread⟩, houter⟩, hfault⟩ := first
    cases hmade
    rw [hanswer] at hread
    cases inner with
    | none => exact ⟨(Except.ok.inj hread).symm, hlater⟩
    | some e => cases hread

/-- Once the answer to a call has come, only later stages make calls. -/
theorem of_call {f g : Error → Error} {call : Call} {read : call.Answer → Except Error α}
    {value : α} {p : Call → Prop}
    (h : FailStop (wrapped f (wrapped g (answered call read value)) :: later) made fault)
    (all : ∀ stage ∈ later, stage.Calls p) :
    ∃ answer start finish rest, made = ⟨call, answer, start, finish⟩ :: rest ∧
      ∀ step ∈ rest, p step.call := by
  cases h with
  | stop first =>
    obtain ⟨_, ⟨_, ⟨answer, start, finish, rfl, _⟩, _⟩, _⟩ := first
    exact ⟨answer, start, finish, [], rfl, by simp⟩
  | next first hlater =>
    obtain ⟨_, ⟨_, ⟨answer, start, finish, rfl, _⟩, _⟩, _⟩ := first
    exact ⟨answer, start, finish, _, rfl, hlater.calls all⟩

def closing (b : Bootstrapper) (cluster : String) (c : Carried) : List Stage :=
  wrapped (.bootstrap .contextMerged) (told (.request (.setKubeconfig c.path)) ()) ::
    wrapped (.bootstrap .contextMerged)
      (wrapped (.useContext cluster) (performed (.request (.useContext cluster)) id)) ::
    toward .namespaceEnsured (namespaceStages b.config.inNamespace c)

theorem sequence_eq (plain : b.config.kubeconfigOverride = none)
    (named : b.config.cluster = some cluster) (c : Carried) :
    b.sequence c =
      wrapped (.bootstrap .credentialsFetched) (wrapped .fetchCredentials (answered
        (.request (.credentials b.target.subscription b.target.resourceGroup cluster)) id
        c.blobs)) ::
      wrapped (.bootstrap .credentialsFetched) (check (firstOf c.blobs) c.blob) ::
      wrapped (.bootstrap .contextMerged) (check (Kubeconfig.parse c.blob) c.config) ::
      wrapped (.bootstrap .contextMerged)
        (check (loginOf c.config cluster b.config.inNamespace) c.login) ::
      wrapped (.bootstrap .contextMerged) (wrapped (.updateContext cluster)
        (answered (.addContext cluster c.login) id c.path)) ::
      b.closing cluster c := by
  unfold sequence accessStages
  rw [plain, named]
  rfl

theorem closing_leavesFiles (b : Bootstrapper) (cluster : String) (c : Carried) :
    ∀ stage ∈ b.closing cluster c, stage.Calls Call.LeavesFiles := by
  intro stage hstage
  simp only [closing, toward, namespaceStages, List.map_cons, List.map_nil, List.mem_cons,
    List.not_mem_nil, or_false] at hstage
  rcases hstage with rfl | rfl | rfl | rfl
  · exact Stage.calls_wrapped (Stage.calls_answered _ _ trivial)
  · exact Stage.calls_wrapped (Stage.calls_wrapped (Stage.calls_performed _ trivial))
  · exact Stage.calls_wrapped (Stage.calls_wrapped (Stage.calls_answered _ _ trivial))
  · exact Stage.calls_wrapped (Stage.calls_wrapped (Stage.calls_performed _ trivial))

/-- A login is handed over exactly when the first kubeconfig can be read and has a context. -/
theorem handed_cases (plain : b.config.kubeconfigOverride = none)
    (named : b.config.cluster = some cluster) {blobs : List (List UInt8)} {start finish : Nat}
    (h : FailStop (b.sequence c)
      (⟨.request (.credentials b.target.subscription b.target.resourceGroup cluster), .ok blobs,
        start, finish⟩ :: made) fault) :
    (∃ blob config login, firstOf blobs = .ok blob ∧ Kubeconfig.parse blob = .ok config ∧
      config.loginFor cluster b.config.inNamespace = some login ∧ handedOver made = [login]) ∨
    (∀ blob config login, firstOf blobs = .ok blob → Kubeconfig.parse blob = .ok config →
      config.loginFor cluster b.config.inNamespace ≠ some login) ∧
      made = [] ∧ ∃ e, fault = some e := by
  rw [sequence_eq plain named] at h
  obtain ⟨rfl, hfetched⟩ := of_answered h rfl
  rcases of_check hfetched with ⟨e, hblob, rfl, hfault⟩ | ⟨hblob, hchosen⟩
  · refine .inr ⟨fun blob _ _ hfirst => ?_, rfl, _, hfault⟩
    rw [hblob] at hfirst
    cases hfirst
  rcases of_check hchosen with ⟨e, hparse, rfl, hfault⟩ | ⟨hparse, hdecoded⟩
  · refine .inr ⟨fun blob config _ hfirst hread => ?_, rfl, _, hfault⟩
    cases hblob.symm.trans hfirst
    cases hparse.symm.trans hread
  rcases of_check hdecoded with ⟨e, hlogin, rfl, hfault⟩ | ⟨hlogin, hreduced⟩
  · refine .inr ⟨fun blob config login hfirst hread hfor => ?_, rfl, _, hfault⟩
    cases hblob.symm.trans hfirst
    cases hparse.symm.trans hread
    rw [loginOf, hfor] at hlogin
    cases hlogin
  · left
    obtain ⟨answer, start, finish, rest, rfl, hrest⟩ :=
      of_call hreduced (b.closing_leavesFiles cluster c)
    refine ⟨c.blob, c.config, c.login, hblob, hparse, loginFor_of_loginOf hlogin, ?_⟩
    exact congrArg (c.login :: ·) (handedOver_of_leavesFiles hrest)

theorem inner_of_wrapped {f g : Error → Error} {stage : Stage} {e : Error}
    (h : wrapped f (wrapped g stage) made (some e)) : ∃ source, e = f (g source) := by
  obtain ⟨outer, ⟨inner, _, houter⟩, hfault⟩ := h
  obtain ⟨e', rfl, rfl⟩ := Option.map_eq_some_iff.mp hfault.symm
  obtain ⟨source, _, rfl⟩ := Option.map_eq_some_iff.mp houter.symm
  exact ⟨source, rfl⟩

/-- Only the decoding of the first kubeconfig can find fault with its encoding. -/
theorem misencoded_of_stages (plain : b.config.kubeconfigOverride = none)
    (named : b.config.cluster = some cluster) {blobs : List (List UInt8)} {start finish : Nat}
    {state : BootstrapState} {wrong : Text.Utf8Fault}
    (h : FailStop (b.sequence c)
      (⟨.request (.credentials b.target.subscription b.target.resourceGroup cluster), .ok blobs,
        start, finish⟩ :: made) (some (.bootstrap state (.kubeconfigEncoding wrong)))) :
    ∃ blob, firstOf blobs = .ok blob ∧
      Kubeconfig.parse blob = .error (.kubeconfigEncoding wrong) := by
  rw [sequence_eq plain named] at h
  obtain ⟨rfl, hfetched⟩ := of_answered h rfl
  rcases of_check hfetched with ⟨e, hblob, _, hfault⟩ | ⟨hblob, hchosen⟩
  · cases hfault
    cases hblobs : c.blobs with
    | nil => simp [hblobs, firstOf] at hblob
    | cons blob more => simp [hblobs, firstOf] at hblob
  rcases of_check hchosen with ⟨e, hparse, _, hfault⟩ | ⟨_, hdecoded⟩
  · cases hfault
    exact ⟨c.blob, hblob, hparse⟩
  rcases of_check hdecoded with ⟨e, hlogin, _, hfault⟩ | ⟨_, hreduced⟩
  · cases hfault
    unfold loginOf at hlogin
    split at hlogin <;> cases hlogin
  · obtain ⟨stage, hstage, own, hown⟩ := hreduced.failed
    simp only [closing, toward, namespaceStages, List.map_cons, List.map_nil, List.mem_cons,
      List.not_mem_nil, or_false] at hstage
    rcases hstage with rfl | rfl | rfl | rfl | rfl
    · obtain ⟨source, hsource⟩ := inner_of_wrapped hown
      cases hsource
    · obtain ⟨_, ⟨_, _, _, _, hread⟩, hfault⟩ := hown
      obtain ⟨e, rfl, _⟩ := Option.map_eq_some_iff.mp hfault.symm
      cases hread
    · obtain ⟨source, hsource⟩ := inner_of_wrapped hown
      cases hsource
    · obtain ⟨source, hsource⟩ := inner_of_wrapped hown
      cases hsource
    · obtain ⟨source, hsource⟩ := inner_of_wrapped hown
      cases hsource

/-! ## From the tool to the file -/

/-- The first call of a login to anybody else asks for the credentials. -/
theorem run_fetches (plain : b.config.kubeconfigOverride = none)
    (named : b.config.cluster = some cluster) (event : LifecycleEvent) (world : Surroundings σ)
    (s : Scene σ) :
    ∃ start finish made, outward ((b.run event).runIn world s).steps =
      ⟨.request (.credentials b.target.subscription b.target.resourceGroup cluster),
        (world (.request (.credentials b.target.subscription b.target.resourceGroup cluster))
          (world (.reach .noConfig) s.state).after).answer, start, finish⟩ :: made := by
  obtain ⟨⟨override, name, inNamespace⟩, target, ensured⟩ := b
  cases plain
  cases named
  exact ⟨_, _, _, rfl⟩

variable {s : Scene (Session π Toolbox)} {octets : List UInt8} (event : LifecycleEvent)
  (observer : Observer π) (store : KubeconfigStore)

theorem run_fetches_printed (plain : b.config.kubeconfigOverride = none)
    (named : b.config.cluster = some cluster)
    (prints : s.state.outside.machine.Prints s.state.files
      (Toolbox.loginCommand s.state.outside.az b.target.subscription b.target.resourceGroup cluster)
      octets) :
    ∃ output start finish made, output.stdout = Text.decodeLossy octets ∧
      outward ((b.run event).runIn (Session.respond Toolbox.outside observer store) s).steps =
        ⟨.request (.credentials b.target.subscription b.target.resourceGroup cluster),
          .ok (Toolbox.kubeconfigsOf output), start, finish⟩ :: made := by
  obtain ⟨output, hanswer, houtput⟩ := prints.answer
  obtain ⟨start, finish, made, hmade⟩ :=
    run_fetches plain named event (Session.respond Toolbox.outside observer store) s
  have hreply : (Session.respond Toolbox.outside observer store
      (.request (.credentials b.target.subscription b.target.resourceGroup cluster))
      (Session.respond Toolbox.outside observer store (.reach .noConfig) s.state).after).answer =
        .ok (Toolbox.kubeconfigsOf output) :=
    congrArg (Except.bind · fun output => .ok (Toolbox.kubeconfigsOf output)) hanswer
  rw [hreply] at hmade
  exact ⟨output, start, finish, made, houtput, hmade⟩

/-- What was printed is what is handed to the kubeconfig file, or else the run fails and the files
stay as they were. -/
inductive Unaltered (cluster inNamespace : String) (octets : List UInt8) (files : FileTree)
    (r : Run (Session π τ) (Except Error BootstrapOutcome)) : Prop where
  | stored {login stored : Kubeconfig} (decoded : Kubeconfig.parse octets = .ok login)
      (reduced : login.loginFor cluster inNamespace = some stored)
      (handed : handedOver r.steps = [stored])
  | refused {e : Error} (failed : r.result = .error e) (nothing : handedOver r.steps = [])
      (untouched : r.scene.state.files = files)

/-- What is handed over is decoded from the repaired octets. -/
theorem handed_repaired (plain : b.config.kubeconfigOverride = none)
    (named : b.config.cluster = some cluster)
    (prints : s.state.outside.machine.Prints s.state.files
      (Toolbox.loginCommand s.state.outside.az b.target.subscription b.target.resourceGroup cluster)
      octets) :
    let r := (b.run event).runIn (Session.respond Toolbox.outside observer store) s
    (∃ login stored, Kubeconfig.parse (Text.repaired octets) = .ok login ∧
      login.loginFor cluster b.config.inNamespace = some stored ∧ handedOver r.steps = [stored]) ∨
    (Text.isBlankText (Text.decodeLossy octets) = true ∨
      ∀ login stored, Kubeconfig.parse (Text.repaired octets) = .ok login →
        login.loginFor cluster b.config.inNamespace ≠ some stored) ∧
      (∃ e, r.result = .error e) ∧ handedOver r.steps = [] ∧
      r.scene.state.files = s.state.files := by
  intro r
  obtain ⟨output, start, finish, made, houtput, hmade⟩ :=
    run_fetches_printed event observer store plain named prints
  have hpasses : ∃ c, r.Passes (b.sequence c)
      ⟨b.pathOf c, b.config.inNamespace, b.config.kubeconfigOverride.isSome⟩ := run_passes b event
  obtain ⟨c, fault, hstages, hresult⟩ := hpasses
  change outward r.steps = _ at hmade
  have hhanded : handedOver r.steps = handedOver made := by
    rw [← handedOver_outward, hmade]
    rfl
  rw [hmade] at hstages
  rw [hhanded]
  rcases handed_cases plain named hstages with
    ⟨blob, config, login, hfirst, hparse, hlogin, hlogged⟩ | ⟨hnone, rfl, e, rfl⟩
  · left
    unfold Toolbox.kubeconfigsOf at hfirst
    split at hfirst
    · cases hfirst
    · obtain rfl := Except.ok.inj hfirst
      rw [houtput] at hparse
      exact ⟨config, login, hparse, hlogin, hlogged⟩
  · right
    refine ⟨?_, ⟨e, hresult⟩, rfl, ?_⟩
    · cases hblank : Text.isBlankText (Text.decodeLossy octets) with
      | true => exact .inl rfl
      | false =>
        refine .inr fun login stored hparse => hnone _ login stored ?_ hparse
        rw [Toolbox.kubeconfigsOf, houtput, hblank]
        rfl
    · have hfiles := (Session.filesAlong Toolbox.outside observer store (b.run event).run s).outward
      change FilesAlong store _ (outward r.steps) r.scene.state.files at hfiles
      rw [hmade] at hfiles
      exact (hfiles.eq_of_all_pass (by simp [Call.LeavesFiles])).symm

/-- What was read leniently is never found to be wrongly encoded. -/
theorem not_misencoded (plain : b.config.kubeconfigOverride = none)
    (named : b.config.cluster = some cluster)
    (prints : s.state.outside.machine.Prints s.state.files
      (Toolbox.loginCommand s.state.outside.az b.target.subscription b.target.resourceGroup cluster)
      octets) (state : BootstrapState) (wrong : Text.Utf8Fault) :
    ((b.run event).runIn (Session.respond Toolbox.outside observer store) s).result ≠
      .error (.bootstrap state (.kubeconfigEncoding wrong)) := by
  intro hmisencoded
  obtain ⟨output, start, finish, made, houtput, hmade⟩ :=
    run_fetches_printed event observer store plain named prints
  obtain ⟨c, fault, hstages, hresult⟩ : ∃ c,
      ((b.run event).runIn (Session.respond Toolbox.outside observer store) s).Passes (b.sequence c)
        ⟨b.pathOf c, b.config.inNamespace, b.config.kubeconfigOverride.isSome⟩ := run_passes b event
  rw [hmade] at hstages
  rw [hmisencoded] at hresult
  cases fault with
  | none => cases hresult
  | some e =>
    cases hresult
    obtain ⟨blob, hfirst, hparse⟩ := misencoded_of_stages plain named hstages
    unfold Toolbox.kubeconfigsOf at hfirst
    split at hfirst
    · cases hfirst
    · obtain rfl := Except.ok.inj hfirst
      exact Kubeconfig.parse_encodeUtf8_ne _ _ hparse

/-- What the login tool prints is stored as it is or not at all, exactly when it is UTF-8 or when
its repair is no login for the cluster either. Octets that are not UTF-8 cannot be decoded; what is
handed over from them is decoded from their repair. No run fails because of their encoding. -/
theorem credentials_unaltered_iff (plain : b.config.kubeconfigOverride = none)
    (named : b.config.cluster = some cluster)
    (prints : s.state.outside.machine.Prints s.state.files
      (Toolbox.loginCommand s.state.outside.az b.target.subscription b.target.resourceGroup cluster)
      octets) :
    let r := (b.run event).runIn (Session.respond Toolbox.outside observer store) s
    (Unaltered cluster b.config.inNamespace octets s.state.files r ↔
      (∃ text, Text.decodeUtf8 octets = .ok text) ∨
        ∀ login stored, Kubeconfig.parse (Text.repaired octets) = .ok login →
          login.loginFor cluster b.config.inNamespace ≠ some stored) ∧
    ∀ fault, Text.decodeUtf8 octets = .error fault →
      Kubeconfig.parse octets = .error (.kubeconfigEncoding fault) ∧
      (∀ state, r.result ≠ .error (.bootstrap state (.kubeconfigEncoding fault))) ∧
      ∀ login stored, Kubeconfig.parse (Text.repaired octets) = .ok login →
        login.loginFor cluster b.config.inNamespace = some stored →
          handedOver r.steps = [stored] := by
  intro r
  have hcases := handed_repaired event observer store plain named prints
  change (∃ login stored, _ ∧ _ ∧ handedOver r.steps = [stored]) ∨ _ at hcases
  have hfault (fault : Text.Utf8Fault) (h : Text.decodeUtf8 octets = .error fault) :
      Kubeconfig.parse octets = .error (.kubeconfigEncoding fault) := by
    rw [Kubeconfig.parse, h]
  refine ⟨⟨fun hunaltered => ?_, fun hreads => ?_⟩, fun fault h =>
    ⟨hfault fault h,
      fun state => not_misencoded event observer store plain named prints state fault, ?_⟩⟩
  · cases hunaltered with
    | stored decoded =>
      cases hdecode : Text.decodeUtf8 octets with
      | ok text => exact .inl ⟨text, rfl⟩
      | error fault => cases decoded.symm.trans (hfault fault hdecode)
    | refused _ nothing =>
      rcases hcases with ⟨login, stored, _, _, hhanded⟩ | ⟨hblank | hnone, _⟩
      · cases nothing.symm.trans hhanded
      · exact .inl (Text.decodeUtf8_of_blank hblank)
      · exact .inr hnone
  · rcases hcases with ⟨login, stored, hparse, hlogin, hhanded⟩ | ⟨_, ⟨e, he⟩, hnothing, hfiles⟩
    · rcases hreads with hvalid | hnone
      · rw [Text.repaired_eq_iff.mpr hvalid] at hparse
        exact .stored hparse hlogin hhanded
      · exact absurd hlogin (hnone login stored hparse)
    · exact .refused he hnothing hfiles
  · intro login stored hparse hlogin
    rcases hcases with ⟨login', stored', hparse', hlogin', hhanded⟩ | ⟨hblank | hnone, _⟩
    · obtain rfl := Except.ok.inj (hparse.symm.trans hparse')
      obtain rfl := Option.some.inj (hlogin.symm.trans hlogin')
      exact hhanded
    · obtain ⟨text, htext⟩ := Text.decodeUtf8_of_blank hblank
      cases h.symm.trans htext
    · exact absurd hlogin (hnone login stored hparse)

def printing (octets : List UInt8) : Toolbox where
  machine := {
    vars := [("PATH", "/bin")], toolFolder := "/bin", installed := ["az"]
    behave := fun _ _ => { stdout := octets } }
  kubectl := { program := "kubectl" }
  az := "az"
  docker := "docker"

def printingScene (octets : List UInt8) : Scene (Session Unit Toolbox) where
  state := {
    files := {}, environment := ⟨".env", .empty⟩, watcher := (), outside := printing octets }

def printed (octets : List UInt8) : Run (Session Unit Toolbox) (Except Error BootstrapOutcome) :=
  (probe.run .preDeploy).runIn
    (Session.respond Toolbox.outside ⟨fun _ w => w, fun _ w => w⟩ ⟨"config"⟩)
    (printingScene octets)

theorem printing_prints (octets : List UInt8) :
    (printing octets).machine.Prints {} (Toolbox.loginCommand "az" "s" "g" "c") octets :=
  ⟨by decide +kernel, "az", by cbv, rfl, rfl⟩

theorem credentials_unaltered_probe : Unaltered "c" "n" probeOctets {} (printed probeOctets) := by
  have hvalid : ∃ text, Text.decodeUtf8 probeOctets = .ok text :=
    ⟨"contexts:\n- name: c\n".toList, by decide +kernel⟩
  exact (credentials_unaltered_iff (b := probe) (s := printingScene probeOctets) .preDeploy
    ⟨fun _ w => w, fun _ w => w⟩ ⟨"config"⟩ rfl rfl (printing_prints probeOctets)).1.mpr
      (.inl hvalid)

/-- A kubeconfig in which an accented letter is one octet. -/
def accentedOctets : List UInt8 :=
  "users:\n- name: u\n  user:\n    token: caf\xe9\ncontexts:\n- name: c\n".toList.map
    fun c => UInt8.ofNat c.toNat

def accented : Kubeconfig where
  users := [⟨"u", some { token := some "caf\uFFFD" }⟩]
  contexts := [⟨"c", none⟩]

def accentedStored : Kubeconfig where
  users := [⟨"u", some { token := some "caf\uFFFD" }⟩]
  contexts := [⟨"c", some { inNamespace := some "n" }⟩]
  currentContext := some "c"

/-- The kubeconfig cannot be decoded, and still a login is handed over. Its token is not the one
that was printed. -/
theorem credentials_altered :
    (∃ fault, Kubeconfig.parse accentedOctets = .error (.kubeconfigEncoding fault)) ∧
      handedOver (printed accentedOctets).steps = [accentedStored] ∧
      ¬ Unaltered "c" "n" accentedOctets {} (printed accentedOctets) := by
  have hfault : Text.decodeUtf8 accentedOctets = .error (.wrong 1 39) := by decide +kernel
  have hparse : Kubeconfig.parse accentedOctets = .error (.kubeconfigEncoding (.wrong 1 39)) := by
    rw [Kubeconfig.parse, hfault]
  have hrepaired : Kubeconfig.parse (Text.repaired accentedOctets) = .ok accented := by
    have htext : Text.decodeLossy accentedOctets =
        "users:\n- name: u\n  user:\n    token: caf\uFFFD\ncontexts:\n- name: c\n" := by
      decide +kernel
    rw [Text.repaired, htext]
    decide +kernel
  have hhanded : handedOver (printed accentedOctets).steps = [accentedStored] := by
    rcases handed_repaired (b := probe) (s := printingScene accentedOctets) .preDeploy
      ⟨fun _ w => w, fun _ w => w⟩ ⟨"config"⟩ rfl rfl (printing_prints accentedOctets) with
      ⟨login, stored, hlogin, hstored, hhanded⟩ | ⟨hblank | hnone, _⟩
    · obtain rfl := Except.ok.inj (hrepaired.symm.trans hlogin)
      obtain rfl : accentedStored = stored := Option.some.inj hstored
      exact hhanded
    · obtain ⟨text, htext⟩ := Text.decodeUtf8_of_blank hblank
      cases hfault.symm.trans htext
    · exact absurd rfl (hnone accented accentedStored hrepaired)
  refine ⟨⟨_, hparse⟩, hhanded, fun hunaltered => ?_⟩
  cases hunaltered with
  | stored decoded => cases decoded.symm.trans hparse
  | refused _ nothing => cases nothing.symm.trans hhanded

end Bootstrapper

end ClusterDeploy
