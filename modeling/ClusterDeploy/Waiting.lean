import ClusterDeploy.Flow.Basic
/-!
# Waiting for a resource

The resources of a kind are listed at a constant interval until one of them is accepted and ready,
or the time is over. The listing at the deadline still counts. A listing that fails and a resource
that cannot be read end the wait at once. Times are numbers without a bound: a timeout so long that
the clock has no value for the deadline, which starts near 2^63 seconds, is not covered.
-/
namespace ClusterDeploy

/-- How often to look, and for how long, in milliseconds. -/
structure PollOptions where
  interval : Nat := 5000
  timeout : Nat := 600000
  /-- The rounds after the first that are followed when there is no interval, and so nothing but the
  listings takes time. The program knows no such limit: a wait that takes more rounds is not
  covered. -/
  patience : Nat := 4096
  deriving DecidableEq, Repr

def PollOptions.every (interval timeout : Nat) : PollOptions := { interval, timeout }

/-- As many rounds as the time allows. -/
def PollOptions.rounds (poll : PollOptions) : Nat :=
  if poll.interval = 0 then poll.patience + 1 else poll.timeout / poll.interval + 2

structure Watch (α : Type) where
  kind : ResourceKind
  decode : Json → Option α
  name : α → String
  accepts : α → Bool
  ready : α → Bool

inductive Finding (α : Type) where
  | found (a : α)
  | undecodable
  /-- Nothing is ready; the name of the last resource that was accepted in this or an earlier
  listing. -/
  | pending (last : Option String)

namespace Watch

def scan (w : Watch α) (last : Option String) : List Json → Finding α
  | [] => .pending last
  | item :: more =>
    match w.decode item with
    | none => .undecodable
    | some a =>
      if !w.accepts a then w.scan last more
      else if w.ready a then .found a
      else w.scan (some (w.name a)) more

def expired (w : Watch α) (poll : PollOptions) : (last : Option String) → Error
  | some name => .resourceNotReady w.kind name poll.timeout
  | none => .resourceNotFound w.kind

def lookUntil (w : Watch α) (poll : PollOptions) (deadline : Nat) :
    (rounds : Nat) → (last : Option String) → Flow (Except Error α)
  | 0, last =>
    .clock fun end_ =>
      .done (.error (if end_.cancelled then .cancelled w.kind else w.expired poll last))
  | rounds + 1, last =>
    .clock fun start =>
      if start.cancelled then .done (.error (.cancelled w.kind))
      else
        .ask (.request (.list w.kind)) fun listing =>
          match listing with
          | .error e => .done (.error (.listResources w.kind e))
          | .ok items =>
            match w.scan last items with
            | .found a => .done (.ok a)
            | .undecodable => .done (.error (.decodeResource w.kind))
            | .pending last =>
              .clock fun end_ =>
                if deadline ≤ end_.now then .done (.error (w.expired poll last))
                else
                  .pause (min poll.interval (deadline - end_.now))
                    (w.lookUntil poll deadline rounds last)

def wait (w : Watch α) (poll : PollOptions) : Attempt α :=
  ExceptT.mk (.clock fun start =>
    w.lookUntil poll (start.now + poll.timeout) poll.rounds none)

end Watch

def nameContains (filter name : String) : Bool := Text.hasInfix filter.toList name.toList

def Watch.rollout (filter : String) : Watch Deployment where
  kind := .deployment
  decode := Deployment.ofJson?
  name := Deployment.name
  accepts d := nameContains filter d.name
  ready := Deployment.isRolledOut

def Watch.service (filter : String) : Watch Service where
  kind := .service
  decode := Service.ofJson?
  name := Service.name
  accepts s := nameContains filter s.name
  ready := Service.isReady

def Watch.ingress (filter : String) : Watch Ingress where
  kind := .ingress
  decode := Ingress.ofJson?
  name := Ingress.name
  accepts i := nameContains filter i.name
  ready := Ingress.isReady

/-- Waits for a deployment that is rolled out, and has the cluster confirm it. -/
def rollOut (filter : String) (poll : PollOptions) : Attempt Deployment := do
  let d ← (Watch.rollout filter).wait poll
  let _ ← Attempt.of (Flow.call (.request (.rolloutStatus d.name)))
  return d

end ClusterDeploy
