import ClusterDeploy.Progress
import Mathlib.Data.List.Basic
/-!
# What a progress channel delivers

A label is lost only when it is reported: nobody receives, or no slot is free. Labels that were kept
are received in the order of their reports, whichever handle they were reported through, and the end
is seen after all of them.
-/
namespace ClusterDeploy

def ProgressReply.label? : ProgressReply → Option String
  | .label text => some text
  | _ => none

namespace ProgressChannel

variable {c : ProgressChannel}

def keeps (c : ProgressChannel) : ProgressStep → List String
  | .report label => if c.reporters ≠ 0 ∧ c.accepts = true then [label] else []
  | _ => []

def accepted (c : ProgressChannel) : List ProgressStep → List String
  | [] => []
  | s :: more => c.keeps s ++ (c.step s).2.accepted more

def received (c : ProgressChannel) (steps : List ProgressStep) : List String :=
  (c.run steps).1.filterMap ProgressReply.label?

def heard (c : ProgressChannel) (steps : List ProgressStep) : List ProgressReply :=
  ((steps.zip (c.run steps).1).filter fun pair => pair.1 = .receive).map (·.2)

section Runs

variable (c : ProgressChannel) (s : ProgressStep) (steps more : List ProgressStep)

@[simp] theorem run_nil : c.run [] = ([], c) := rfl

@[simp] theorem run_cons :
    c.run (s :: more) = ((c.step s).1 :: ((c.step s).2.run more).1, ((c.step s).2.run more).2) :=
  rfl

theorem run_append : c.run (steps ++ more) =
    ((c.run steps).1 ++ ((c.run steps).2.run more).1, ((c.run steps).2.run more).2) := by
  induction steps generalizing c with
  | nil => simp
  | cons s rest ih => simp [ih]

theorem accepted_append :
    c.accepted (steps ++ more) = c.accepted steps ++ (c.run steps).2.accepted more := by
  induction steps generalizing c with
  | nil => simp [accepted]
  | cons s rest ih => simp [accepted, ih]

theorem received_cons : c.received (s :: more) =
    (c.step s).1.label?.toList ++ (c.step s).2.received more := by
  cases h : (c.step s).1.label? <;> simp [received, h]

theorem received_append :
    c.received (steps ++ more) = c.received steps ++ (c.run steps).2.received more := by
  simp [received, run_append]

theorem heard_cons : c.heard (s :: more) =
    (if s = .receive then [(c.step s).1] else []) ++ (c.step s).2.heard more := by
  by_cases h : s = .receive <;> simp [heard, h]

end Runs

/-! ## Steps -/

section Steps

variable {s : ProgressStep}

@[simp] theorem step_slots : (c.step s).2.slots = c.slots := by
  cases s with
  | report label => unfold step report; grind
  | clone => unfold step; grind
  | dropReporter => rfl
  | receive => unfold step receive; grind
  | dropReceiver => rfl

theorem step_receiving :
    (c.step s).2.receiving = (c.receiving && decide (s ≠ .dropReceiver)) := by
  cases s with
  | report label => unfold step report; grind
  | clone => unfold step; grind
  | dropReporter => simp [step]
  | receive => unfold step receive; grind
  | dropReceiver => simp [step]

/-- What is received and what then waits: what waited before, and the label that the step keeps. -/
theorem step_conserves (h : s ≠ .dropReceiver) :
    (c.step s).1.label?.toList ++ (c.step s).2.pending = c.pending ++ c.keeps s := by
  cases s with
  | report label =>
    by_cases hnone : c.reporters = 0
    · simp [step, keeps, hnone, ProgressReply.label?]
    by_cases haccepts : c.accepts = true
    · simp [step, report, keeps, hnone, haccepts, ProgressReply.label?]
    · simp [step, report, keeps, hnone, haccepts, ProgressReply.label?]
  | clone =>
    by_cases hnone : c.reporters = 0
    · simp [step, keeps, hnone, ProgressReply.label?]
    · simp [step, keeps, hnone, ProgressReply.label?]
  | dropReporter => simp [step, keeps, ProgressReply.label?]
  | receive =>
    by_cases hreceiving : c.receiving = true
    · cases hpending : c.pending with
      | nil => by_cases hnone : c.reporters = 0 <;>
          simp [step, receive, keeps, hreceiving, hpending, hnone, ProgressReply.label?]
      | cons label more =>
        simp [step, receive, keeps, hreceiving, hpending, ProgressReply.label?]
    · simp [step, receive, keeps, hreceiving, ProgressReply.label?]
  | dropReceiver => exact absurd rfl h

theorem keeps_length (h : c.pending.length ≤ c.slots) (s : ProgressStep) :
    (c.pending ++ c.keeps s).length ≤ c.slots := by
  unfold keeps
  split
  · split
    · next hkept =>
      simp only [accepts, Bool.and_eq_true, decide_eq_true_eq] at hkept
      rw [List.length_append, List.length_singleton]
      omega
    · simpa using h
  · simpa using h

theorem step_bounded (h : c.pending.length ≤ c.slots) :
    (c.step s).2.pending.length ≤ c.slots := by
  by_cases hdrop : s = .dropReceiver
  · subst hdrop
    exact Nat.zero_le _
  · have hconserved := congrArg List.length (step_conserves (c := c) hdrop)
    have hkept := keeps_length h s
    rw [List.length_append] at hconserved
    omega

theorem step_silent (h : c.receiving = false) :
    c.keeps s = [] ∧ (c.step s).1.label? = none ∧ (c.step s).2.receiving = false := by
  refine ⟨?_, ?_, by simp [step_receiving, h]⟩
  · cases s <;> simp [keeps, accepts, h]
  · cases s with
    | report label => by_cases hnone : c.reporters = 0 <;> simp [step, hnone, ProgressReply.label?]
    | receive => simp [step, receive, h, ProgressReply.label?]
    | _ => rfl

/-- When no reporter is left, only the receiver can change anything. -/
theorem step_closed (hclosed : c.reporters = 0) (hreceive : s ≠ .receive)
    (hdrop : s ≠ .dropReceiver) : (c.step s).2 = c := by
  cases s with
  | report label => simp [step, hclosed]
  | clone => simp [step, hclosed]
  | dropReporter =>
    cases c
    simp_all [step]
  | receive => exact absurd rfl hreceive
  | dropReceiver => exact absurd rfl hdrop

end Steps

/-! ## Runs -/

section Runs

variable {steps more : List ProgressStep}

theorem run_receiving :
    (c.run steps).2.receiving = (c.receiving && decide (.dropReceiver ∉ steps)) := by
  induction steps generalizing c with
  | nil => simp
  | cons s rest ih =>
    rw [run_cons, ih, step_receiving]
    by_cases hs : s = .dropReceiver <;> simp [hs, eq_comm]

theorem run_bounded (h : c.pending.length ≤ c.slots) :
    (c.run steps).2.pending.length ≤ c.slots := by
  induction steps generalizing c with
  | nil => exact h
  | cons s rest ih =>
    have hnext : (c.step s).2.pending.length ≤ (c.step s).2.slots := by
      rw [step_slots]
      exact step_bounded h
    have hrest := ih hnext
    rwa [step_slots] at hrest

theorem run_slots : (c.run steps).2.slots = c.slots := by
  induction steps generalizing c with
  | nil => rfl
  | cons s rest ih => rw [run_cons, ih, step_slots]

theorem run_silent (h : c.receiving = false) : c.accepted steps = [] ∧ c.received steps = [] := by
  induction steps generalizing c with
  | nil => exact ⟨rfl, rfl⟩
  | cons s rest ih =>
    obtain ⟨hkeeps, hlabel, hnext⟩ := step_silent (s := s) h
    obtain ⟨haccepted, hreceived⟩ := ih hnext
    rw [accepted, received_cons, hkeeps, hlabel, haccepted, hreceived]
    exact ⟨rfl, rfl⟩

/-- As long as somebody receives, nothing is lost, doubled or reordered. -/
theorem run_conserves (h : .dropReceiver ∉ steps) :
    c.received steps ++ (c.run steps).2.pending = c.pending ++ c.accepted steps := by
  induction steps generalizing c with
  | nil => simp [received, accepted]
  | cons s rest ih =>
    obtain ⟨hs, hrest⟩ := List.ne_and_not_mem_of_not_mem_cons h
    calc c.received (s :: rest) ++ (c.run (s :: rest)).2.pending
        = (c.step s).1.label?.toList ++ ((c.step s).2.pending ++ (c.step s).2.accepted rest) := by
          rw [received_cons, run_cons, List.append_assoc, ih hrest]
      _ = c.pending ++ c.accepted (s :: rest) := by
          rw [← List.append_assoc, step_conserves (Ne.symm hs), List.append_assoc, accepted]

/-- What is received is at any time the beginning of what was kept. -/
theorem received_isStart (c : ProgressChannel) (steps : List ProgressStep) :
    c.received steps <+: c.pending ++ c.accepted steps := by
  by_cases h : .dropReceiver ∈ steps
  · obtain ⟨before, more, rfl, hbefore⟩ := List.eq_append_cons_of_mem h
    have hdropped : ((c.run before).2.step .dropReceiver).2.receiving = false := rfl
    have hreceived : c.received (before ++ .dropReceiver :: more) = c.received before := by
      rw [received_append, received_cons, (run_silent hdropped).2]
      simp [step, ProgressReply.label?]
    rw [hreceived, accepted_append, ← List.append_assoc, ← run_conserves hbefore]
    exact (List.prefix_append _ _).trans (List.prefix_append _ _)
  · exact ⟨_, run_conserves h⟩

theorem received_length (hreceiving : c.receiving = true) (h : .dropReceiver ∉ more) :
    min (more.count .receive) c.pending.length ≤ (c.received more).length := by
  induction more generalizing c with
  | nil => simp
  | cons s rest ih =>
    obtain ⟨hs, hrest⟩ := List.ne_and_not_mem_of_not_mem_cons h
    have hnext : (c.step s).2.receiving = true := by
      simp [step_receiving, hreceiving, Ne.symm hs]
    have hlength := ih hnext hrest
    have hconserved := congrArg List.length (step_conserves (c := c) (Ne.symm hs))
    rw [List.length_append, List.length_append] at hconserved
    rw [received_cons, List.length_append, List.count_cons]
    by_cases hreceive : s = .receive
    · subst hreceive
      cases hpending : c.pending with
      | nil => simp
      | cons label waiting =>
        have hone : (c.step .receive).1.label?.toList.length = 1 := by
          simp [step, receive, hreceiving, hpending, ProgressReply.label?]
        rw [hpending] at hconserved
        simp only [beq_self_eq_true, if_true]
        omega
    · simp only [beq_iff_eq, hreceive, if_false]
      omega

/-- A label that waits is received, with only those before it received first. -/
theorem received_waiting (hreceiving : c.receiving = true) (h : .dropReceiver ∉ more) {k : Nat}
    (hk : k < c.pending.length) (henough : k < more.count .receive) :
    (c.received more)[k]? = c.pending[k]? := by
  have hlength := received_length hreceiving h
  calc (c.received more)[k]? = (c.received more ++ (c.run more).2.pending)[k]? :=
        (List.getElem?_append_left (by omega)).symm
    _ = (c.pending ++ c.accepted more)[k]? := by rw [run_conserves h]
    _ = c.pending[k]? := List.getElem?_append_left hk

/-- Once the last reporter is gone a receiver hears what is waiting, and then the end. -/
theorem heard_closing (hreceiving : c.receiving = true) (hclosed : c.reporters = 0)
    (h : .dropReceiver ∉ more) :
    c.heard more = (c.pending.take (more.count .receive)).map .label ++
      List.replicate (more.count .receive - c.pending.length) .ended := by
  induction more generalizing c with
  | nil => simp [heard]
  | cons s rest ih =>
    obtain ⟨hs, hrest⟩ := List.ne_and_not_mem_of_not_mem_cons h
    rw [heard_cons, List.count_cons]
    by_cases hreceive : s = .receive
    · subst hreceive
      cases hpending : c.pending with
      | nil =>
        have hstep : c.step .receive = (.ended, c) := by
          simp [step, receive, hreceiving, hpending, hclosed]
        simp [hstep, ih hreceiving hclosed hrest, hpending, List.replicate_succ]
      | cons label waiting =>
        have hstep : c.step .receive = (.label label, { c with pending := waiting }) := by
          simp [step, receive, hreceiving, hpending]
        simp [hstep, ih (c := { c with pending := waiting }) hreceiving hclosed hrest]
    · simp [hreceive, step_closed hclosed hreceive (Ne.symm hs), ih hreceiving hclosed hrest]

end Runs

structure Delivers (capacity : Nat) (steps : List ProgressStep) (now : ProgressChannel) : Prop where
  bounded : now.pending.length ≤ max capacity 1
  /-- Somebody receives until the receiver is dropped. -/
  alive : now.receiving = true ↔ .dropReceiver ∉ steps
  /-- A report returns whatever the receiver does. Its label is kept exactly when somebody receives
  and a slot is free; otherwise the channel stays as it is. -/
  report : ∀ label, now.reporters ≠ 0 → now.step (.report label) =
    (.reported, if now.receiving = true ∧ now.pending.length < max capacity 1 then
      { now with pending := now.pending ++ [label] } else now)
  kept : ∀ label, now.keeps (.report label) =
    if now.reporters ≠ 0 ∧ now.receiving = true ∧ now.pending.length < max capacity 1 then [label]
    else []
  /-- Over all handles, what was received is the beginning of what was kept, and the rest waits. -/
  inOrder : (ofCapacity capacity).received steps <+: (ofCapacity capacity).accepted steps ∧
    (.dropReceiver ∉ steps → (ofCapacity capacity).received steps ++ now.pending =
      (ofCapacity capacity).accepted steps)
  /-- A label that is kept is received in its turn, by whoever goes on receiving. -/
  once : ∀ label more, now.keeps (.report label) = [label] → .dropReceiver ∉ more →
    now.pending.length < more.count .receive →
    ((ofCapacity capacity).received (steps ++ .report label :: more))[
      ((ofCapacity capacity).accepted steps).length]? = some label
  /-- When no reporter is left, the receiver hears what is waiting before it hears the end. -/
  closing : ∀ more, now.reporters = 0 → .dropReceiver ∉ steps ++ more →
    now.heard more = (now.pending.take (more.count .receive)).map .label ++
      List.replicate (more.count .receive - now.pending.length) .ended
  /-- The end is heard only then. -/
  ended : (now.step .receive).1 = .ended ↔ .dropReceiver ∉ steps ∧ now.reporters = 0 ∧
    (ofCapacity capacity).received steps = (ofCapacity capacity).accepted steps

theorem accepts_iff : c.accepts = true ↔ c.receiving = true ∧ c.pending.length < c.slots := by
  simp [accepts]

theorem keeps_report_iff {label : String} :
    c.keeps (.report label) = [label] ↔ c.reporters ≠ 0 ∧ c.accepts = true := by
  unfold keeps
  split <;> simp_all

theorem step_report (label : String) (h : c.reporters ≠ 0) :
    c.step (.report label) = (.reported, if c.receiving = true ∧ c.pending.length < c.slots then
      { c with pending := c.pending ++ [label] } else c) := by
  simp only [step, h, if_false, report, accepts_iff]

theorem step_ended_iff : (c.step .receive).1 = .ended ↔
    c.receiving = true ∧ c.reporters = 0 ∧ c.pending = [] := by
  by_cases hreceiving : c.receiving = true
  · cases hpending : c.pending with
    | nil => by_cases hnone : c.reporters = 0 <;> simp [step, receive, hreceiving, hpending, hnone]
    | cons label more => simp [step, receive, hreceiving, hpending]
  · simp [step, receive, hreceiving]

/-- A label that is kept is received after those that were kept before it. -/
theorem received_kept {label : String} {more : List ProgressStep}
    (hkept : c.keeps (.report label) = [label]) (h : .dropReceiver ∉ more)
    (henough : c.pending.length < more.count .receive) :
    (c.received (.report label :: more))[c.pending.length]? = some label := by
  obtain ⟨hreporters, haccepts⟩ := keeps_report_iff.mp hkept
  have hstep :
      c.step (.report label) = (.reported, { c with pending := c.pending ++ [label] }) := by
    rw [step_report label hreporters, if_pos (accepts_iff.mp haccepts)]
  have hwaiting := received_waiting (c := { c with pending := c.pending ++ [label] })
    (accepts_iff.mp haccepts).1 h (k := c.pending.length) (by simp) henough
  rw [received_cons, hstep]
  simpa [ProgressReply.label?] using hwaiting

example : (ofCapacity 0).received
    [.report "a", .clone, .report "b", .receive, .report "c", .dropReporter, .receive] =
      ["a", "c"] := by decide

end ProgressChannel

end ClusterDeploy
