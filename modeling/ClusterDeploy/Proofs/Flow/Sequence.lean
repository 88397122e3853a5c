import ClusterDeploy.Proofs.Flow.Runs
/-!
# Sequences that stop at the first failure

A sequence is a list of stages. Each stage says which calls it makes, how they are answered, and
whether it ends the sequence with an error; no call of a later stage is made then. An attempt passes
a sequence when its run is one way of going through it.
-/
namespace ClusterDeploy

/-- Its state and its warnings are the program's own; every other call goes to somebody else. -/
def Call.isOutward : Call → Bool
  | .reach _ | .warn _ => false
  | _ => true

def outward (steps : List Step) : List Step := steps.filter (·.call.isOutward)

@[simp] theorem outward_append (a b : List Step) : outward (a ++ b) = outward a ++ outward b :=
  List.filter_append a b

/-- What only outward steps show can be seen without the others. -/
theorem filterMap_outward {view : Step → Option α}
    (h : ∀ step, step.call.isOutward = false → view step = none) (steps : List Step) :
    (outward steps).filterMap view = steps.filterMap view := by
  unfold outward
  rw [List.filterMap_filter]
  congr 1
  funext step
  cases hstep : step.call.isOutward with
  | true => rfl
  | false => rw [h step hstep]; rfl

def ended (value : α) : (fault : Option Error) → Except Error α
  | none => .ok value
  | some e => .error e

@[simp] theorem ended_none (value : α) : ended value none = .ok value := rfl

@[simp] theorem ended_some (value : α) (e : Error) : ended value (some e) = .error e := rfl

theorem mapError_ended (f : Error → Error) (value : α) (fault : Option Error) :
    (ended value fault).mapError f = ended value (fault.map f) := by
  cases fault <;> rfl

/-- The steps of a stage, and the error with which it ends the sequence. -/
abbrev Stage := (made : List Step) → (fault : Option Error) → Prop

inductive FailStop : List Stage → List Step → Option Error → Prop where
  | done : FailStop [] [] none
  | stop {stage : Stage} {later : List Stage} {made : List Step} {e : Error} :
      stage made (some e) → FailStop (stage :: later) made (some e)
  | next {stage : Stage} {later : List Stage} {made rest : List Step} {fault : Option Error} :
      stage made none → FailStop later rest fault → FailStop (stage :: later) (made ++ rest) fault

namespace Stage

def check (verdict : Except Error α) (value : α) : Stage := fun made fault =>
  made = [] ∧ verdict = ended value fault

def answered (c : Call) (read : c.Answer → Except Error α) (value : α) : Stage := fun made fault =>
  ∃ answer start finish, made = [⟨c, answer, start, finish⟩] ∧ read answer = ended value fault

def performed (c : Call) (read : c.Answer → Except Error α) : Stage := fun made fault =>
  ∃ value, answered c read value made fault

def told (c : Call) (answer : c.Answer) : Stage := answered c .ok answer

def wrapped (f : Error → Error) (stage : Stage) : Stage := fun made fault =>
  ∃ inside, stage made inside ∧ fault = inside.map f

/-- A sequence of its own, in which nothing but the absence of a resource is tolerated. -/
def optional (inner : γ → List Stage) (value : γ → α) (found : Option α) : Stage :=
  fun made fault =>
    ∃ c inside, FailStop (inner c) made inside ∧
      match inside with
      | none => found = some (value c) ∧ fault = none
      | some e => if e.isNotFound then found = none ∧ fault = none else fault = some e

def Calls (p : Call → Prop) (stage : Stage) : Prop :=
  ∀ made fault, stage made fault → ∀ step ∈ made, p step.call

variable {p : Call → Prop}

theorem calls_check (verdict : Except Error α) (value : α) : (check verdict value).Calls p := by
  rintro _ fault ⟨rfl, _⟩ step hstep
  cases hstep

theorem calls_answered {c : Call} (read : c.Answer → Except Error α) (value : α) (h : p c) :
    (answered c read value).Calls p := by
  rintro _ fault ⟨answer, start, finish, rfl, _⟩ step hstep
  rwa [List.mem_singleton.mp hstep]

theorem calls_performed {c : Call} (read : c.Answer → Except Error α) (h : p c) :
    (performed c read).Calls p := by
  rintro made fault ⟨value, hmade⟩
  exact calls_answered read value h made fault hmade

theorem calls_wrapped {f : Error → Error} {stage : Stage} (h : stage.Calls p) :
    (wrapped f stage).Calls p := by
  rintro made fault ⟨inside, hmade, _⟩
  exact h made inside hmade

end Stage

namespace FailStop

variable {stages later : List Stage} {made rest : List Step} {fault : Option Error}

theorem calls {p : Call → Prop} (h : FailStop stages made fault)
    (all : ∀ stage ∈ stages, stage.Calls p) : ∀ step ∈ made, p step.call := by
  induction h with
  | done => simp
  | stop first => exact all _ List.mem_cons_self _ _ first
  | next first _ ih =>
    have hlater := ih fun stage hstage => all stage (List.mem_cons_of_mem _ hstage)
    intro step hstep
    rcases List.mem_append.mp hstep with hstep | hstep
    · exact all _ List.mem_cons_self _ _ first step hstep
    · exact hlater step hstep

theorem failed {e : Error} (h : FailStop stages made (some e)) :
    ∃ stage ∈ stages, ∃ own, stage own (some e) := by
  generalize hfault : some e = fault at h
  induction h with
  | done => cases hfault
  | stop first =>
    cases hfault
    exact ⟨_, List.mem_cons_self, _, first⟩
  | next _ _ ih =>
    obtain ⟨stage, hstage, own⟩ := ih hfault
    exact ⟨stage, List.mem_cons_of_mem _ hstage, own⟩

theorem single {stage : Stage} (h : stage made fault) : FailStop [stage] made fault := by
  cases fault with
  | none => simpa using FailStop.next h .done
  | some e => exact .stop h

theorem of_single {stage : Stage} (h : FailStop [stage] made fault) : stage made fault := by
  cases h with
  | stop first => exact first
  | next first rest =>
    cases rest
    rwa [List.append_nil]

theorem append (h : FailStop stages made none) (k : FailStop later rest fault) :
    FailStop (stages ++ later) (made ++ rest) fault := by
  induction stages generalizing made with
  | nil => cases h; exact k
  | cons stage more ih =>
    cases h with
    | next first h => simpa using FailStop.next first (ih h)

theorem append_of_stop {e : Error} (h : FailStop stages made (some e)) :
    FailStop (stages ++ later) made (some e) := by
  induction stages generalizing made with
  | nil => cases h
  | cons stage more ih =>
    cases h with
    | stop first => exact .stop first
    | next first h => exact .next first (ih h)

theorem of_cons {stage : Stage} (h : FailStop (stage :: later) made none) :
    ∃ first rest, made = first ++ rest ∧ stage first none ∧ FailStop later rest none := by
  cases h with
  | next first rest => exact ⟨_, _, rfl, first, rest⟩

theorem of_append (h : FailStop (stages ++ later) made none) :
    ∃ first rest, made = first ++ rest ∧ FailStop stages first none ∧ FailStop later rest none := by
  induction stages generalizing made with
  | nil => exact ⟨[], made, rfl, .done, h⟩
  | cons stage more ih =>
    obtain ⟨first, rest, rfl, hfirst, hrest⟩ := of_cons h
    obtain ⟨second, last, rfl, hsecond, hlast⟩ := ih hrest
    exact ⟨first ++ second, last, (List.append_assoc ..).symm, .next hfirst hsecond, hlast⟩

/-- One stage of a sequence that did not fail, among others that make only calls of some sort. -/
theorem of_middle {p : Call → Prop} {stage : Stage} {before after : List Stage}
    (h : FailStop (before ++ stage :: after) made none)
    (hbefore : ∀ stage ∈ before, stage.Calls p) (hafter : ∀ stage ∈ after, stage.Calls p) :
    ∃ first middle last, made = first ++ middle ++ last ∧ (∀ step ∈ first, p step.call) ∧
      stage middle none ∧ ∀ step ∈ last, p step.call := by
  obtain ⟨first, rest, rfl, hfirst, hrest⟩ := of_append h
  obtain ⟨middle, last, rfl, hmiddle, hlast⟩ := of_cons hrest
  refine ⟨first, middle, last, (List.append_assoc ..).symm, ?_, hmiddle, ?_⟩
  · exact hfirst.calls hbefore
  · exact hlast.calls hafter

/-- A stage that did not fail under an error of its own did not fail at all. -/
theorem of_map_wrapped {f : Error → Error} (h : FailStop (stages.map (Stage.wrapped f)) made none) :
    FailStop stages made none := by
  induction stages generalizing made with
  | nil => exact h
  | cons stage more ih =>
    obtain ⟨first, rest, rfl, ⟨inside, hfirst, hinside⟩, hrest⟩ := of_cons h
    obtain rfl : inside = none := Option.map_eq_none_iff.mp hinside.symm
    exact .next hfirst (ih hrest)

theorem map_wrapped (f : Error → Error) (h : FailStop stages made fault) :
    FailStop (stages.map (Stage.wrapped f)) made (fault.map f) := by
  induction h with
  | done => exact .done
  | stop first => exact .stop ⟨_, first, rfl⟩
  | next first _ ih => exact .next ⟨_, first, rfl⟩ ih

end FailStop

theorem Stage.calls_optional {p : Call → Prop} {inner : γ → List Stage} {value : γ → α}
    {found : Option α} (h : ∀ c, ∀ stage ∈ inner c, stage.Calls p) :
    (optional inner value found).Calls p := by
  rintro made fault ⟨c, inside, hinner, _⟩
  exact hinner.calls (h c)

/-- The run goes through the stages, and leads to the value unless one of them fails. -/
def Run.Passes (r : Run σ (Except Error α)) (stages : List Stage) (value : α) : Prop :=
  ∃ fault, FailStop stages (outward r.steps) fault ∧ r.result = ended value fault

namespace Attempt

open Stage

variable {world : Surroundings σ} {s : Scene σ}

theorem passes_pure (value : α) : ((pure value : Attempt α).runIn world s).Passes [] value :=
  ⟨none, .done, rfl⟩

theorem passes_inward (c : Call) (h : c.isOutward = false) :
    ((call c).runIn world s).Passes [] (world c s.state).answer := by
  have hmade : outward ((call c).runIn world s).steps = [] :=
    List.filter_cons_of_neg (Bool.eq_false_iff.mp h)
  refine ⟨none, ?_, rfl⟩
  rw [hmade]
  exact .done

theorem passes_ofExcept [Inhabited α] (verdict : Except Error α) :
    ∃ value, ((ofExcept verdict).runIn world s).Passes [check verdict value] value := by
  cases verdict with
  | ok a => exact ⟨a, none, .single ⟨rfl, rfl⟩, rfl⟩
  | error e => exact ⟨default, some e, .single ⟨rfl, rfl⟩, rfl⟩

theorem passes_call (c : Call) (h : c.isOutward) :
    ∃ answer, ((call c).runIn world s).Passes [told c answer] answer := by
  refine ⟨(world c s.state).answer, none, .single ?_, rfl⟩
  exact ⟨_, _, _, List.filter_cons_of_pos h, rfl⟩

theorem passes_ask [Inhabited α] (c : Call) (read : c.Answer → Except Error α)
    (h : c.isOutward) :
    ∃ value, ((of (.ask c fun answer => .done (read answer))).runIn world s).Passes
      [answered c read value] value := by
  have hmade : outward ((of (.ask c fun answer => .done (read answer))).runIn world s).steps = _ :=
    List.filter_cons_of_pos h
  cases hr : read (world c s.state).answer with
  | ok a => exact ⟨a, none, .single ⟨_, _, _, hmade, hr⟩, hr⟩
  | error e => exact ⟨default, some e, .single ⟨_, _, _, hmade, hr⟩, hr⟩

theorem passes_perform [Inhabited α] (c : Call) (read : c.Answer → Except Error α)
    (h : c.isOutward) :
    ∃ value, ((of (.ask c fun answer => .done (read answer))).runIn world s).Passes
      [performed c read] value := by
  obtain ⟨value, fault, hanswered, hresult⟩ := passes_ask c read h
  exact ⟨value, fault, .single ⟨value, hanswered.of_single⟩, hresult⟩

/-- The data of all stages is put together from that of the first ones and that of the later ones. A
failure leaves the later stages untouched, so any data will do for them. -/
theorem passes_bind [Nonempty γ] {t : Attempt α} {f : α → Attempt β} {first : δ → List Stage}
    {value : δ → α} {later : δ → γ → List Stage} {all : γ → List Stage} {result : γ → β}
    (put : δ → γ → γ) (ht : ∃ d, (t.runIn world s).Passes (first d) (value d))
    (hall : ∀ d c, all (put d c) = first d ++ later d c)
    (hf : ∀ d, (t.runIn world s).result = .ok (value d) →
      ∃ c, ((f (value d)).runIn world (t.runIn world s).scene).Passes (later d c)
        (result (put d c))) :
    ∃ c, ((t >>= f).runIn world s).Passes (all c) (result c) := by
  obtain ⟨d, fault, hfirst, hvalue⟩ := ht
  cases fault with
  | some e =>
    obtain ⟨c⟩ := ‹Nonempty γ›
    refine ⟨put d c, some e, ?_, ?_⟩ <;> rw [runIn_bind_error hvalue]
    · rw [hall]
      exact hfirst.append_of_stop
    · rfl
  | none =>
    obtain ⟨c, fault, hlater, hresult⟩ := hf d hvalue
    refine ⟨put d c, fault, ?_, ?_⟩ <;> rw [runIn_bind_ok hvalue]
    · rw [hall, outward_append]
      exact hfirst.append hlater
    · exact hresult

theorem passes_then {t : Attempt α} {f : α → Attempt β} {value : α} {stages : List Stage}
    {result : β} (ht : (t.runIn world s).Passes [] value)
    (hf : ((f value).runIn world (t.runIn world s).scene).Passes stages result) :
    ((t >>= f).runIn world s).Passes stages result := by
  have hfirst : ∃ _ : Unit, (t.runIn world s).Passes [] value := ⟨(), ht⟩
  have hlater : ∃ _ : Unit, ((f value).runIn world (t.runIn world s).scene).Passes stages result :=
    ⟨(), hf⟩
  obtain ⟨_, h⟩ := passes_bind (fun _ c => c) hfirst (fun _ _ => rfl) fun _ _ => hlater
  exact h

theorem passes_end {t : Attempt α} {f : α → Attempt β} {stages : γ → List Stage} {value : γ → α}
    {result : γ → β} (ht : ∃ c, (t.runIn world s).Passes (stages c) (value c))
    (hf : ∀ c s, ((f (value c)).runIn world s).Passes [] (result c)) :
    ∃ c, ((t >>= f).runIn world s).Passes (stages c) (result c) := by
  have hnonempty : Nonempty γ := ht.nonempty
  exact passes_bind (fun d _ => d) ht (fun d _ => (List.append_nil (stages d)).symm)
    fun d _ => ⟨d, hf d _⟩

theorem passes_wrap {t : Attempt α} {stages : γ → List Stage} {value : γ → α} (f : Error → Error)
    (h : ∃ c, (t.runIn world s).Passes (stages c) (value c)) :
    ∃ c, ((wrap f t).runIn world s).Passes ((stages c).map (wrapped f)) (value c) := by
  obtain ⟨c, fault, hstages, hresult⟩ := h
  rw [runIn_wrap]
  exact ⟨c, fault.map f, hstages.map_wrapped f, by simp only [hresult, mapError_ended]⟩

theorem passes_unlessNotFound {t : Attempt α} {inner : γ → List Stage} {value : γ → α}
    (h : ∃ c, (t.runIn world s).Passes (inner c) (value c)) :
    ∃ found, ((unlessNotFound t).runIn world s).Passes [optional inner value found] found := by
  obtain ⟨c, fault, hstages, hresult⟩ := h
  rw [runIn_unlessNotFound, hresult]
  cases fault with
  | none => exact ⟨some (value c), none, .single ⟨c, none, hstages, rfl, rfl⟩, rfl⟩
  | some e =>
    cases he : e.isNotFound with
    | true => exact ⟨none, none, .single ⟨c, some e, hstages, by simp [he]⟩, by simp [he]⟩
    | false => exact ⟨none, some e, .single ⟨c, some e, hstages, by simp [he]⟩, by simp [he]⟩

theorem passes_bind_uncancelled [Nonempty γ] {t : Attempt α} {f : α → Attempt β}
    {first : δ → List Stage} {value : δ → α} {later : δ → γ → List Stage} {all : γ → List Stage}
    {result : γ → β} (put : δ → γ → γ)
    (uncancelled : ((t >>= f).runIn world s).scene.isCancelled = false)
    (ht : (t.runIn world s).scene.isCancelled = false →
      ∃ d, (t.runIn world s).Passes (first d) (value d))
    (hall : ∀ d c, all (put d c) = first d ++ later d c)
    (hf : ∀ d s, ((f (value d)).runIn world s).scene.isCancelled = false →
      ∃ c, ((f (value d)).runIn world s).Passes (later d c) (result (put d c))) :
    ∃ c, ((t >>= f).runIn world s).Passes (all c) (result c) := by
  refine passes_bind put (ht (not_cancelled_of_bind uncancelled)) hall fun d hvalue => ?_
  rw [runIn_bind_ok hvalue] at uncancelled
  exact hf d _ uncancelled

end Attempt

end ClusterDeploy
