import ClusterDeploy.Deploy
import ClusterDeploy.Proofs.Flow.Ends
/-!
# The calls of a deploy

A deploy prepares a result, and then records its endpoint. Whatever it is answered, it makes only a
few sorts of calls before the record.
-/
namespace ClusterDeploy

inductive Call.Observes : Call → Prop
  | list (kind : ResourceKind) : Observes (.request (.list kind))
  | rolloutStatus (deployment : String) : Observes (.request (.rolloutStatus deployment))
  | report (label : String) : Observes (.report label)
  | warn (warning : Warning) : Observes (.warn warning)

inductive Call.Prepares : Call → Prop
  | push (service : String) (package : ServicePackage) (resource : String) :
      Prepares (.request (.push service package resource))
  | values : Prepares .environmentValues
  | handOver (values : Environment) : Prepares (.request (.setEnvironment values))
  | apply (folder : String) : Prepares (.request (.apply folder))
  | list (kind : ResourceKind) : Prepares (.request (.list kind))
  | rolloutStatus (deployment : String) : Prepares (.request (.rolloutStatus deployment))
  | report (label : String) : Prepares (.report label)
  | warn (warning : Warning) : Prepares (.warn warning)

theorem Call.Observes.prepares {c : Call} (h : c.Observes) : c.Prepares := by
  cases h with
  | list kind => exact .list kind
  | rolloutStatus deployment => exact .rolloutStatus deployment
  | report label => exact .report label
  | warn warning => exact .warn warning

inductive Call.Records : Call → Prop
  | set (service key value : String) : Records (.setProperty service key value)
  | save : Records .saveEnvironment

section Calls

variable {p : Call → Prop} {poll : PollOptions}

theorem Watch.lookUntil_makes (w : Watch α) (h : p (.request (.list w.kind)))
    (deadline rounds : Nat) (last : Option String) :
    (w.lookUntil poll deadline rounds last).Makes p := by
  induction rounds generalizing last with
  | zero => exact fun _ => trivial
  | succ rounds ih =>
    intro start
    dsimp only
    split
    · trivial
    refine ⟨h, fun listing => ?_⟩
    cases listing with
    | error e => trivial
    | ok items =>
      dsimp only
      split
      · trivial
      · trivial
      · intro finish
        dsimp only
        split
        · trivial
        · exact ih _

theorem Watch.wait_makes (w : Watch α) (h : p (.request (.list w.kind))) :
    Flow.Makes p (w.wait poll).run :=
  fun start => w.lookUntil_makes h (start.now + poll.timeout) poll.rounds none

theorem Attempt.warnAll_makes (h : ∀ w, p (.warn w)) (warnings : List Warning) :
    Flow.Makes p (warnAll warnings).run := by
  induction warnings with
  | nil => trivial
  | cons w more ih => exact .andThen (Flow.makes_call (h w)) fun _ => ih

end Calls

namespace Deploy

open Attempt

def prepare (service : ServiceConfig) (package : Option ServicePackage) (target : TargetResource)
    (poll : PollOptions) : Attempt DeployResult := do
  Attempt.ofExcept target.validate
  let package ← Attempt.ofExcept (packageOf package)
  Attempt.wrap (.containerDeploy service.name)
    (Attempt.of (Flow.call (.request (.push service.name package target.name))))
  applyManifests service
  let (details, endpoints) ← verify service poll
  return { package, target, details, endpoints }

theorem run_eq_prepare (service : ServiceConfig) (package : Option ServicePackage)
    (target : TargetResource) (poll : PollOptions) :
    run service package target poll =
      prepare service package target poll >>= fun d => record service d.endpoints >>= fun _ =>
        pure d := by
  simp only [run, prepare, bind_assoc, pure_bind]

theorem rollOut_makes (filter : String) (poll : PollOptions) :
    Flow.Makes Call.Observes (rollOut filter poll).run := by
  refine .andThen (Watch.wait_makes _ (.list _)) fun d => ?_
  apply Flow.Makes.andThen
  · exact Flow.makes_of (.request (.rolloutStatus _)) id (.rolloutStatus _)
  · exact fun _ => trivial

theorem endpoints_makes (service : ServiceConfig) (poll : PollOptions) :
    Flow.Makes Call.Observes (endpoints service poll).run := by
  have hservice : Flow.Makes Call.Observes
      (Endpoint.awaitService service.serviceName poll).run := by
    refine .andThen (Watch.wait_makes _ (.list _)) fun _ => ?_
    exact .andThen (warnAll_makes .warn _) fun _ => trivial
  have hingress : Flow.Makes Call.Observes
      (Endpoint.awaitIngress service.ingressName service.ingressPath poll).run := by
    refine .andThen (Watch.wait_makes _ (.list _)) fun _ => ?_
    exact .andThen (warnAll_makes .warn _) fun _ => Flow.makes_ofExcept _
  apply Flow.Makes.andThen
  · apply Flow.Makes.andThen (.wrap _ (.unlessNotFound hservice))
    exact fun _ => .andThen (.wrap _ (.unlessNotFound hingress)) fun _ => trivial
  · exact fun _ => trivial

theorem applyManifests_makes (service : ServiceConfig) :
    Flow.Makes Call.Prepares (applyManifests service).run := by
  refine .andThen (Flow.makes_call .values) fun values => ?_
  refine .andThen (Flow.makes_call (.handOver _)) fun _ => ?_
  refine .andThen (Flow.makes_call (.report _)) fun _ => ?_
  apply Flow.Makes.andThen
  · exact .wrap _ (Flow.makes_of (.request (.apply _)) id (.apply _))
  · exact fun _ => trivial

theorem verify_makes (service : ServiceConfig) (poll : PollOptions) :
    Flow.Makes Call.Observes (verify service poll).run := by
  refine .andThen (Flow.makes_call (.report _)) fun _ => ?_
  refine .andThen (.unlessNotFound (rollOut_makes _ _)) fun details => ?_
  refine .andThen (Flow.makes_call (.report _)) fun _ => ?_
  exact .andThen (endpoints_makes _ _) fun _ => trivial

theorem record_makes (service : ServiceConfig) (lines : List String) :
    Flow.Makes Call.Records (record service lines).run := by
  unfold record
  cases lines.getLast? with
  | none => trivial
  | some line =>
    refine .andThen (Flow.makes_call (.set _ _ _)) fun _ => ?_
    exact .wrap _ (Flow.makes_of .saveEnvironment id .save)

theorem prepare_makes (service : ServiceConfig) (package : Option ServicePackage)
    (target : TargetResource) (poll : PollOptions) :
    Flow.Makes Call.Prepares (prepare service package target poll).run := by
  refine .andThen (Flow.makes_ofExcept _) fun _ => ?_
  refine .andThen (Flow.makes_ofExcept _) fun package => ?_
  apply Flow.Makes.andThen
  · exact .wrap _ (Flow.makes_of (.request (.push _ _ _)) id (.push _ _ _))
  intro _
  refine .andThen (applyManifests_makes _) fun _ => ?_
  exact .andThen ((verify_makes _ _).mono fun _ => Call.Observes.prepares) fun _ => trivial

end Deploy

end ClusterDeploy
