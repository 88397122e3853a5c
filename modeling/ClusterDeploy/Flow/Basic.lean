import ClusterDeploy.Flow.Call
/-!
# Flows

A flow is the tree of everything a computation may do: it ends with a value, makes a call and goes
on with the answer, looks at the clock, or pauses. It says nothing about who answers.
-/
namespace ClusterDeploy

/-- A look at the clock, in milliseconds, and whether the flow has been cancelled by now. -/
structure Moment where
  now : Nat
  cancelled : Bool
  deriving DecidableEq, Repr

inductive Flow (α : Type) where
  | done (a : α)
  | ask (c : Call) (next : c.Answer → Flow α)
  | clock (next : Moment → Flow α)
  /-- Waits for some milliseconds; a cancellation ends the wait early. -/
  | pause (time : Nat) (next : Flow α)

namespace Flow

def bind : Flow α → (α → Flow β) → Flow β
  | done a, f => f a
  | ask c next, f => ask c fun answer => (next answer).bind f
  | clock next, f => clock fun m => (next m).bind f
  | pause time next, f => pause time (next.bind f)

instance : Monad Flow where
  pure := done
  bind := bind

def call (c : Call) : Flow c.Answer := ask c done

@[simp] theorem done_bind (a : α) (f : α → Flow β) : (done a).bind f = f a := rfl

theorem bind_done (t : Flow α) : t.bind done = t := by
  induction t with
  | done a => rfl
  | ask c next ih => simp only [bind, ih]
  | clock next ih => simp only [bind, ih]
  | pause time next ih => simp only [bind, ih]

theorem bind_assoc (t : Flow α) (f : α → Flow β) (g : β → Flow γ) :
    (t.bind f).bind g = t.bind fun a => (f a).bind g := by
  induction t with
  | done a => rfl
  | ask c next ih => simp only [bind, ih]
  | clock next ih => simp only [bind, ih]
  | pause time next ih => simp only [bind, ih]

end Flow

abbrev Attempt := ExceptT Error Flow

namespace Attempt

def of (t : Flow (Except Error α)) : Attempt α := ExceptT.mk t

def ofExcept (r : Except Error α) : Attempt α := ExceptT.mk (.done r)

def wrap (f : Error → Error) (t : Attempt α) : Attempt α :=
  ExceptT.mk (Flow.bind t.run fun r => .done (r.mapError f))

/-- Absent instead of failed, when what was waited for never appeared. -/
def unlessNotFound (t : Attempt α) : Attempt (Option α) :=
  ExceptT.mk (Flow.bind t.run fun r =>
    .done (match r with
      | .ok a => .ok (some a)
      | .error e => if e.isNotFound then .ok none else .error e))

def call (c : Call) : Attempt c.Answer := ExceptT.mk ((Flow.call c).bind fun a => .done (.ok a))

def report (label : String) : Attempt Unit := call (.report label)

def warnAll : List Warning → Attempt Unit
  | [] => pure ()
  | w :: more => do
    call (.warn w)
    warnAll more

end Attempt

end ClusterDeploy
