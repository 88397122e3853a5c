import ClusterDeploy.Proofs.Deploy.Record
import ClusterDeploy.Proofs.Waiting.Cancellation
/-!
# Deploys that are cancelled

A deploy is cancelled only where it waits. A wait that finds nothing lets the deploy go on to the
next wait, and one that is cancelled does not, so only a deploy that has listed ingresses in time
succeeds.
-/
namespace ClusterDeploy

def Call.pushes : Call → Bool
  | .request (.push _ _ _) => true
  | _ => false

def Call.shipped : (c : Call) → c.Answer → Bool
  | .request (.push _ _ _), answer => answer.isOk
  | .request (.apply _), answer => answer.isOk
  | _, _ => true

namespace Deploy

open Attempt
open ClusterDeploy.Flow (LeadsTo)

variable {σ : Type} {world : Surroundings σ} {s : Scene σ} {poll : PollOptions}

section Heeds

theorem rollOut_heeds (filter : String) (poll : PollOptions) :
    (rollOut filter poll).Heeds world := by
  refine (Watch.wait_heeds _ _).andThen fun d => ?_
  have hstatus : (of (Flow.call (.request (.rolloutStatus d.name)))).Heeds world :=
    Heeds.of_makes (Flow.makes_of (.request (.rolloutStatus _)) id rfl)
  exact hstatus.andThen fun _ => heeds_pure d

theorem warnAll_heeds (warnings : List Warning) : (warnAll warnings).Heeds world :=
  .of_makes (warnAll_makes (fun _ => rfl) warnings)

theorem endpoints_heeds (service : ServiceConfig) (poll : PollOptions) :
    (endpoints service poll).Heeds world := by
  have hservice : (Endpoint.awaitService service.serviceName poll).Heeds world :=
    (Watch.wait_heeds _ _).andThen fun _ => (warnAll_heeds _).andThen fun _ => heeds_pure _
  have hingress : (Endpoint.awaitIngress service.ingressName service.ingressPath
      poll).Heeds world :=
    (Watch.wait_heeds _ _).andThen fun _ =>
      (warnAll_heeds _).andThen fun _ => .of_makes (Flow.makes_ofExcept _)
  apply Heeds.andThen
  · apply (hservice.unlessNotFound.wrap _).andThen
    exact fun _ => (hingress.unlessNotFound.wrap _).andThen fun _ => heeds_pure _
  · exact fun _ => heeds_pure _

theorem applyManifests_heeds (service : ServiceConfig) :
    (applyManifests service).Heeds world := by
  apply Heeds.of_makes
  refine .andThen (Flow.makes_call rfl) fun values => ?_
  refine .andThen (Flow.makes_call rfl) fun _ => ?_
  refine .andThen (Flow.makes_call rfl) fun _ => ?_
  apply Flow.Makes.andThen
  · exact .wrap _ (Flow.makes_of (.request (.apply _)) id rfl)
  · exact fun _ => trivial

theorem record_heeds (service : ServiceConfig) (lines : List String) :
    (record service lines).Heeds world := by
  refine .of_makes ((record_makes service lines).mono ?_)
  rintro _ (_ | _) <;> rfl

theorem run_heeds (service : ServiceConfig) (package : Option ServicePackage)
    (target : TargetResource) (poll : PollOptions) :
    (run service package target poll).Heeds world := by
  have hpush (package : ServicePackage) : (wrap (.containerDeploy service.name)
      (of (Flow.call (.request (.push service.name package target.name))))).Heeds world :=
    .of_makes (.wrap _ (Flow.makes_of (.request (.push _ _ _)) id rfl))
  have hverify : (verify service poll).Heeds world := by
    apply (Heeds.of_makes (Flow.makes_call rfl)).andThen
    intro _
    apply (rollOut_heeds _ _).unlessNotFound.andThen
    intro _
    apply (Heeds.of_makes (Flow.makes_call rfl)).andThen
    exact fun _ => (endpoints_heeds _ _).andThen fun _ => heeds_pure _
  apply (Heeds.of_makes (Flow.makes_ofExcept _)).andThen
  intro _
  apply (Heeds.of_makes (Flow.makes_ofExcept _)).andThen
  intro package
  apply (hpush package).andThen
  intro _
  apply (applyManifests_heeds _).andThen
  intro _
  apply hverify.andThen
  intro found
  exact (record_heeds _ _).andThen fun _ => heeds_pure _

end Heeds

/-! ## The last listing of a run that succeeds -/

def Unlisted (kind : ResourceKind) (c : Call) (_ : c.Answer) : Prop := c.listed? ≠ some kind

theorem endpoints_unlisted (service : ServiceConfig) (poll : PollOptions) :
    Gives (Unlisted .ingress) (fun _ => False) (fun _ => True) (endpoints service poll) := by
  have hingress : Gives (Unlisted .ingress) (fun _ => False) (· = .cancelled .ingress)
      (Endpoint.awaitIngress service.ingressName service.ingressPath poll) :=
    (Watch.wait_gives_cancelled (Watch.ingress _) poll fun _ hfair => hfair rfl).andThen
      fun _ h => h.elim
  have hpresent := hingress.present (by rintro _ rfl; rfl)
  have hresolve : Gives (Unlisted .ingress) (fun _ => False) (fun _ => True)
      (Endpoint.resolve service.serviceName service.ingressName service.ingressPath poll) := by
    refine (gives_any _).andThen fun _ _ => ?_
    refine (hpresent.wrap fun _ _ => trivial).andThen ?_
    rintro found ⟨_, _, h⟩
    exact h.elim
  exact hresolve.andThen fun _ h => h.elim

theorem prepare_unlisted (service : ServiceConfig) (package : Option ServicePackage)
    (target : TargetResource) (poll : PollOptions) :
    Gives (Unlisted .ingress) (fun _ => False) (fun _ => True)
      (prepare service package target poll) := by
  refine (gives_any _).andThen fun _ _ => ?_
  refine (gives_any _).andThen fun package _ => ?_
  refine (gives_any _).andThen fun _ _ => ?_
  refine (gives_any _).andThen fun _ _ => ?_
  have hverify : Gives (Unlisted .ingress) (fun _ => False) (fun _ => True)
      (verify service poll) := by
    refine (gives_any _).andThen fun _ _ => ?_
    refine (gives_any _).andThen fun details _ => ?_
    refine (gives_any _).andThen fun _ _ => ?_
    exact (endpoints_unlisted service poll).andThen fun _ h => h.elim
  exact hverify.andThen fun _ h => h.elim

theorem exists_listing_of_ok {t : Attempt α} {kind : ResourceKind} {a : α}
    (h : Gives (Unlisted kind) (fun _ => False) (fun _ => True) t)
    (ok : (t.runIn world s).result = .ok a) :
    ∃ step ∈ (t.runIn world s).steps, step.call.listed? = some kind := by
  rcases Flow.Ends.run_unless h world s with hgood | ⟨step, hstep, hunfair⟩
  · rw [runIn] at ok
    rw [ok] at hgood
    exact hgood.elim
  · exact ⟨step, hstep, not_not.mp hunfair⟩

/-- The run has listed resources of the kind, and was not cancelled when it did so last. -/
def LastListedInTime (kind : ResourceKind) (world : Surroundings σ) (t : Attempt α)
    (s : Scene σ) : Prop :=
  ∃ made step later next s', (t.runIn world s).steps = made ++ step :: later ∧
    step.call.listed? = some kind ∧ (∀ other ∈ later, other.call.listed? ≠ some kind) ∧
    LeadsTo world t.run s made (.ask step.call next) s' ∧ step.start = s'.now ∧
    s'.isCancelled = false

theorem lastListedInTime_of_exists {t : Attempt α} {kind : ResourceKind} (heeds : t.Heeds world)
    (h : ∃ step ∈ (t.runIn world s).steps, step.call.listed? = some kind) :
    LastListedInTime kind world t s := by
  let lists (step : Step) : Bool := step.call.listed? = some kind
  have hfound : ((t.runIn world s).steps.reverse.find? lists).isSome := by
    obtain ⟨step, hstep, hlists⟩ := h
    exact List.find?_isSome.mpr ⟨step, List.mem_reverse.mpr hstep, decide_eq_true hlists⟩
  obtain ⟨step, hstep⟩ := Option.isSome_iff_exists.mp hfound
  obtain ⟨hkind, later, made, hsplit, hlast⟩ := List.find?_eq_some_iff_append.mp hstep
  have hsteps : (t.runIn world s).steps = made.reverse ++ step :: later.reverse := by
    rw [← List.reverse_inj, hsplit]
    simp
  have hkind' := of_decide_eq_true hkind
  obtain ⟨next, s', position, hstart⟩ := LeadsTo.of_step hsteps
  refine ⟨_, step, _, next, s', hsteps, hkind', ?_, position, hstart, ?_⟩
  · intro other hother
    simpa [lists] using hlast other (List.mem_reverse.mp hother)
  · exact (heeds s).call position (by rw [hkind']; rfl)

/-! ## Cancelled before the first listing -/

def ShippedOnly (c : Call) (answer : c.Answer) : Prop :=
  c.shipped answer = true ∧ c.listed? = none

theorem verify_shippedOnly (service : ServiceConfig) (poll : PollOptions) :
    Gives ShippedOnly (fun _ => False) (· = .cancelled .deployment) (verify service poll) := by
  have hrollout : Gives ShippedOnly (fun _ => False) (· = .cancelled .deployment)
      (rollOut service.deploymentName poll) := by
    have hwait : Gives ShippedOnly (fun _ => False) (· = .cancelled .deployment)
        ((Watch.rollout service.deploymentName).wait poll) :=
      Watch.wait_gives_cancelled (Watch.rollout _) poll fun _ hfair =>
        Option.some_ne_none _ hfair.2
    exact hwait.andThen fun _ h => h.elim
  refine (gives_call _).andThen fun _ _ => ?_
  refine (hrollout.present (by rintro _ rfl; rfl)).andThen ?_
  rintro found ⟨_, _, h⟩
  exact h.elim

theorem shipped_gives {c : Call} (read : c.Answer → Except Error α) {f : Error → Error}
    (shipped : ∀ answer, c.shipped answer = true → (read answer).isOk) :
    Gives ShippedOnly (fun _ => True) (· = .cancelled .deployment)
      (wrap f (of (.ask c fun answer => .done (read answer)))) := by
  have hcall : Gives ShippedOnly (fun _ => True) (fun _ => False)
      (of (.ask c fun answer => .done (read answer))) := by
    refine gives_of c read fun answer hfair => ?_
    have hok := shipped answer hfair.1
    cases hread : read answer with
    | ok a => trivial
    | error e =>
      rw [hread] at hok
      exact absurd hok Bool.false_ne_true
  exact hcall.wrap fun _ h => h.elim

theorem run_shippedOnly (service : ServiceConfig) {package : Option ServicePackage}
    {target : TargetResource} (poll : PollOptions) (valid : target.validate = .ok ())
    (packaged : package.isSome) :
    Gives ShippedOnly (fun _ => False) (· = .cancelled .deployment)
      (run service package target poll) := by
  obtain ⟨image, rfl⟩ := Option.isSome_iff_exists.mp packaged
  have happly : Gives ShippedOnly (fun _ => True) (· = .cancelled .deployment)
      (applyManifests service) := by
    refine (gives_call _).andThen fun _ _ => ?_
    refine (gives_call _).andThen fun _ _ => ?_
    refine (gives_call _).andThen fun _ _ => ?_
    have hshipped := shipped_gives (c := .request (.apply service.manifests)) id
      (f := .applyManifests service.manifests) fun _ shipped => shipped
    exact hshipped.andThen fun _ _ => gives_pure trivial
  have hpush (image : ServicePackage) := shipped_gives
    (c := .request (.push service.name image target.name)) id
    (f := .containerDeploy service.name) fun _ shipped => shipped
  have hvalid : Gives ShippedOnly (fun _ => True) (· = .cancelled .deployment)
      (Attempt.ofExcept target.validate) := by
    rw [valid]
    exact gives_pure trivial
  have himage : Gives ShippedOnly (fun _ => True) (· = .cancelled .deployment)
      (Attempt.ofExcept (packageOf (some image))) := gives_pure trivial
  refine hvalid.andThen fun _ _ => ?_
  refine himage.andThen fun image _ => ?_
  refine (hpush image).andThen fun _ _ => ?_
  refine happly.andThen fun _ _ => ?_
  exact (verify_shippedOnly service poll).andThen fun _ h => h.elim

/-- No listing starts once the run is cancelled, and to succeed it has to list ingresses before. -/
structure EndsInTime (world : Surroundings σ) (t : Attempt α) (s : Scene σ) : Prop where
  inTime : t.ListsInTime world s
  succeeded : ∀ a, (t.runIn world s).result = .ok a → LastListedInTime .ingress world t s

theorem endsInTime_of_unlisted {t : Attempt α} (heeds : t.Heeds world)
    (h : Gives (Unlisted .ingress) (fun _ => False) (fun _ => True) t) (s : Scene σ) :
    EndsInTime world t s where
  inTime := heeds.listsInTime s
  succeeded _ ok := lastListedInTime_of_exists heeds (exists_listing_of_ok h ok)

theorem run_unlisted (service : ServiceConfig) (package : Option ServicePackage)
    (target : TargetResource) (poll : PollOptions) :
    Gives (Unlisted .ingress) (fun _ => False) (fun _ => True)
      (run service package target poll) := by
  rw [run_eq_prepare]
  exact (prepare_unlisted service package target poll).andThen fun _ h => h.elim

/-- After a cancelled position nothing is listed any more. -/
theorem unlisted_of_cancelled {t : Attempt α} (heeds : t.Heeds world) {made : List Step}
    {left : Flow (Except Error α)} {s' : Scene σ} (position : LeadsTo world t.run s made left s')
    (cancelled : s'.isCancelled = true) (unlisted : ∀ step ∈ made, step.call.listed? = none) :
    ∀ step ∈ (t.runIn world s).steps, step.call.listed? = none := by
  intro step hstep
  rw [runIn, position.run_eq] at hstep
  rcases List.mem_append.mp hstep with hmade | hlater
  · exact unlisted step hmade
  by_contra hlists
  obtain ⟨before, after, hsteps⟩ := List.append_of_mem hlater
  obtain ⟨next, s'', later, _⟩ := LeadsTo.of_step hsteps
  have hnot := ((heeds s).along position).call later (Option.isSome_iff_ne_none.mpr hlists)
  rw [later.not_cancelled hnot] at cancelled
  exact Bool.false_ne_true cancelled

section Session

variable {π τ : Type} {outside : Outside τ} {observer : Observer π} {store : KubeconfigStore}
  {service : ServiceConfig} {package : Option ServicePackage} {target : TargetResource}
  {s : Scene (Session π τ)}

theorem environment_of_unlisted
    (unlisted : ∀ step ∈ ((run service package target poll).runIn
      (Session.respond outside observer store) s).steps, step.call.listed? = none) :
    ((run service package target poll).runIn
      (Session.respond outside observer store) s).scene.state.environment =
        s.state.environment := by
  cases hprepared : ((prepare service package target poll).runIn
      (Session.respond outside observer store) s).result with
  | error e =>
    -- whatever ends the deploy before the record leaves the environment as it was
    rw [run_of_error hprepared]
    exact (prepare_untouched outside observer store service package target poll s).environment
  | ok d =>
    obtain ⟨step, hstep, hlists⟩ :=
      exists_listing_of_ok (prepare_unlisted service package target poll) hprepared
    have hnone : step.call.listed? = none := by
      apply unlisted step
      rw [run_of_ok hprepared]
      exact List.mem_append_left _ hstep
    rw [hlists] at hnone
    cases hnone

structure CancelledUnlisted (s : Scene (Session π τ))
    (r : Run (Session π τ) (Except Error DeployResult)) : Prop where
  unlisted : ∀ step ∈ r.steps, step.call.listed? = none
  environment : r.scene.state.environment = s.state.environment
  /-- If there is a push, and it and the apply after it succeed. -/
  result : (∃ step ∈ r.steps, step.call.pushes) →
    (∀ step ∈ r.steps, step.call.shipped step.answer) → r.result = .error (.cancelled .deployment)

theorem cancelledUnlisted
    (unlisted : ∀ step ∈ ((run service package target poll).runIn
      (Session.respond outside observer store) s).steps, step.call.listed? = none) :
    CancelledUnlisted s ((run service package target poll).runIn
      (Session.respond outside observer store) s) := by
  refine ⟨unlisted, environment_of_unlisted unlisted, ?_⟩
  rintro ⟨push, hpush, hpushes⟩ shipped
  -- there is no push unless the target and the image are in order
  have hvalid : target.validate = .ok () := by
    cases hvalidate : target.validate with
    | ok u => rfl
    | error e =>
      rw [run, hvalidate] at hpush
      cases hpush
  have hpackage : package.isSome := by
    cases package with
    | some image => rfl
    | none =>
      rw [run, hvalid] at hpush
      cases hpush
  rcases Flow.Ends.run_unless (run_shippedOnly service poll hvalid hpackage)
    (Session.respond outside observer store) s with hresult | ⟨step, hstep, hunfair⟩
  · rw [runIn]
    cases hr : (Flow.run (Session.respond outside observer store)
        (run service package target poll).run s).result with
    | ok d =>
      rw [hr] at hresult
      exact hresult.elim
    | error e =>
      rw [hr] at hresult
      rw [hresult]
  · exact absurd ⟨shipped step hstep, unlisted step hstep⟩ hunfair

/-- Whenever they are cancelled, waits end without a further listing, and so do deploys and searches
for endpoints, which do not succeed then unless their last listing of ingresses has started. -/
theorem no_listing_after_cancellation (outside : Outside τ) (observer : Observer π)
    (store : KubeconfigStore) (service : ServiceConfig) (package : Option ServicePackage)
    (target : TargetResource) (poll : PollOptions) (s : Scene (Session π τ)) :
    let world := Session.respond outside observer store
    (∀ (α : Type) (w : Watch α), w.Cancellable poll world s) ∧
      EndsInTime world (endpoints service poll) s ∧
      EndsInTime world (run service package target poll) s ∧
      ∀ made left s', LeadsTo world (run service package target poll).run s made left s' →
        s'.isCancelled = true → (∀ step ∈ made, step.call.listed? = none) →
        CancelledUnlisted s ((run service package target poll).runIn world s) := by
  intro world
  refine ⟨fun α w => w.cancellable poll world s, ?_, ?_, ?_⟩
  · exact endsInTime_of_unlisted (endpoints_heeds _ _) (endpoints_unlisted service poll) s
  · exact endsInTime_of_unlisted (run_heeds _ _ _ _) (run_unlisted service package target poll) s
  · intro made left s' position cancelled unlisted
    exact cancelledUnlisted (unlisted_of_cancelled (run_heeds _ _ _ _) position cancelled unlisted)

def interrupted : Script := ⟨[("push", [{ elapsed := 3, cancels := true }])]⟩

def interruptedRun : Run (Session ProgressChannel Script) (Except Error DeployResult) :=
  (run { name := "api" } (some ⟨"api:1", none⟩) ⟨"s", "g", "c"⟩ (.every 5 10)).runIn
    Script.surroundings interrupted.scene

/-- The manifests are still applied, and then the first wait is over at once. -/
theorem no_listing_after_cancelled_push :
    interruptedRun.scene.cancelAt = some 3 ∧
      interruptedRun.steps.any (·.call.pushes) ∧
      interruptedRun.result = .error (.cancelled .deployment) := by
  obtain ⟨_, _, _, hcancelled⟩ := no_listing_after_cancellation Script.outside
    ProgressChannel.observer ⟨"config"⟩ { name := "api" } (some ⟨"api:1", none⟩) ⟨"s", "g", "c"⟩
    (.every 5 10) interrupted.scene
  have pushed := hcancelled _ _ _ (.ask .here) (by rfl) (by decide)
  have hpushes : interruptedRun.steps.any (·.call.pushes) := by decide +kernel
  have hshipped : interruptedRun.steps.all fun step => step.call.shipped step.answer := by
    decide +kernel
  exact ⟨by rfl, hpushes,
    pushed.result (List.any_eq_true.mp hpushes) (List.all_eq_true.mp hshipped)⟩

end Session

end Deploy

end ClusterDeploy
