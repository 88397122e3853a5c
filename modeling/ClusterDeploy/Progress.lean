/-!
# Progress labels

A bounded channel from a deploy to whoever watches it. Reporting never waits: a label that finds no
free slot, or no receiver, is discarded. Labels that were accepted are received in order, each once,
also after the last reporter is gone.
-/
namespace ClusterDeploy

structure ProgressChannel where
  /-- Places for labels that wait to be received. -/
  slots : Nat
  pending : List String := []
  /-- Handles that can still report. -/
  reporters : Nat := 1
  /-- Somebody can still receive. -/
  receiving : Bool := true
  deriving DecidableEq, Repr

inductive ProgressStep where
  | report (label : String)
  | clone
  | dropReporter
  | receive
  | dropReceiver
  deriving DecidableEq, Repr

inductive ProgressReply where
  | reported
  | noReporter
  | reporters (count : Nat)
  | label (text : String)
  | empty
  | ended
  | noReceiver
  | done
  deriving DecidableEq, Repr

namespace ProgressChannel

/-- A channel has at least one slot. -/
def ofCapacity (capacity : Nat) : ProgressChannel := { slots := max capacity 1 }

def disabled : ProgressChannel := { slots := 0, receiving := false }

/-- A label is kept exactly when somebody receives and a slot is free. -/
def accepts (c : ProgressChannel) : Bool := c.receiving && c.pending.length < c.slots

def report (c : ProgressChannel) (label : String) : ProgressChannel :=
  if c.accepts then { c with pending := c.pending ++ [label] } else c

def receive (c : ProgressChannel) : ProgressReply × ProgressChannel :=
  if !c.receiving then (.noReceiver, c)
  else
    match c.pending with
    | label :: more => (.label label, { c with pending := more })
    | [] => (if c.reporters = 0 then .ended else .empty, c)

def step (c : ProgressChannel) : ProgressStep → ProgressReply × ProgressChannel
  | .report label => if c.reporters = 0 then (.noReporter, c) else (.reported, c.report label)
  | .clone =>
    let c := if c.reporters = 0 then c else { c with reporters := c.reporters + 1 }
    (.reporters c.reporters, c)
  | .dropReporter =>
    let c := { c with reporters := c.reporters - 1 }
    (.reporters c.reporters, c)
  | .receive => c.receive
  | .dropReceiver => (.done, { c with receiving := false, pending := [] })

def run (c : ProgressChannel) : List ProgressStep → List ProgressReply × ProgressChannel
  | [] => ([], c)
  | s :: more =>
    let (reply, next) := c.step s
    let (replies, last) := next.run more
    (reply :: replies, last)

end ProgressChannel

end ClusterDeploy
