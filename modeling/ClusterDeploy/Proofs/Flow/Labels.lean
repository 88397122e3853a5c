import ClusterDeploy.Proofs.Flow.Sequence
/-!
# Labels of a sequence

Most stages report nothing to whoever watches the progress. A sequence that is ended early has
reported the first ones of its labels.
-/
namespace ClusterDeploy

def Call.label? : Call → Option String
  | .report label => some label
  | _ => none

def labels (steps : List Step) : List String := steps.filterMap (·.call.label?)

@[simp] theorem labels_append (a b : List Step) : labels (a ++ b) = labels a ++ labels b :=
  List.filterMap_append

theorem labels_outward (steps : List Step) : labels (outward steps) = labels steps := by
  refine filterMap_outward (fun step h => ?_) steps
  cases hcall : step.call with
  | reach state => rfl
  | warn warning => rfl
  | _ => simp [hcall, Call.isOutward] at h

namespace Stage

def Silent (stage : Stage) : Prop := ∀ made fault, stage made fault → labels made = []

theorem silent_check (verdict : Except Error α) (value : α) :
    (check verdict value).Silent := by
  rintro _ fault ⟨rfl, _⟩
  rfl

theorem silent_answered {c : Call} (read : c.Answer → Except Error α) (value : α)
    (h : c.label? = none) : (answered c read value).Silent := by
  rintro _ fault ⟨answer, start, finish, rfl, _⟩
  simp [labels, h]

theorem silent_performed {c : Call} (read : c.Answer → Except Error α)
    (h : c.label? = none) : (performed c read).Silent := by
  rintro made fault ⟨value, hmade⟩
  exact silent_answered read value h made fault hmade

theorem silent_told {c : Call} (answer : c.Answer) (h : c.label? = none) :
    (told c answer).Silent :=
  silent_answered .ok answer h

theorem silent_wrapped {f : Error → Error} {stage : Stage} (h : stage.Silent) :
    (wrapped f stage).Silent := by
  rintro made fault ⟨inside, hmade, _⟩
  exact h made inside hmade

end Stage

def Reports (stages : List Stage) (said : List String) : Prop :=
  ∀ made fault, FailStop stages made fault →
    labels made <+: said ∧ (fault = none → labels made = said)

theorem FailStop.split {stages later : List Stage} {made : List Step} {fault : Option Error}
    (h : FailStop (stages ++ later) made fault) :
    (fault ≠ none ∧ FailStop stages made fault) ∨
      ∃ a b, made = a ++ b ∧ FailStop stages a none ∧ FailStop later b fault := by
  induction stages generalizing made with
  | nil => exact .inr ⟨[], made, rfl, .done, h⟩
  | cons stage more ih =>
    cases h with
    | stop first => exact .inl ⟨nofun, .stop first⟩
    | next first h =>
      rcases ih h with ⟨hfault, hmore⟩ | ⟨a, b, rfl, hmore, hlater⟩
      · exact .inl ⟨hfault, .next first hmore⟩
      · exact .inr ⟨_, b, (List.append_assoc _ a b).symm, .next first hmore, hlater⟩

namespace Reports

variable {stages later : List Stage} {a b : List String}

theorem nil : Reports [] [] := by
  rintro _ _ ⟨⟩
  exact ⟨List.prefix_rfl, fun _ => rfl⟩

theorem cons {stage : Stage} (h : stage.Silent) (k : Reports later a) :
    Reports (stage :: later) a := by
  intro made fault hmade
  cases hmade with
  | stop first =>
    rw [h _ _ first]
    exact ⟨List.nil_prefix, nofun⟩
  | next first hlater =>
    rw [labels_append, h _ _ first]
    exact k _ _ hlater

theorem label (text : String) (k : Reports later a) :
    Reports (Stage.told (.report text) () :: later) (text :: a) := by
  intro made fault hmade
  cases hmade with
  | stop first =>
    obtain ⟨answer, start, finish, rfl, hanswer⟩ := first
    cases hanswer
  | next first hlater =>
    obtain ⟨answer, start, finish, rfl, _⟩ := first
    obtain ⟨hstart, hall⟩ := k _ _ hlater
    exact ⟨List.cons_prefix_cons.mpr ⟨rfl, hstart⟩, fun hnone => congrArg _ (hall hnone)⟩

theorem append (h : Reports stages a) (k : Reports later b) :
    Reports (stages ++ later) (a ++ b) := by
  intro made fault hmade
  rcases hmade.split with ⟨hfault, hfirst⟩ | ⟨x, y, rfl, hfirst, hlater⟩
  · have hstart := (h made fault hfirst).1
    exact ⟨hstart.trans (List.prefix_append a b), fun hnone => absurd hnone hfault⟩
  · rw [labels_append, (h x none hfirst).2 rfl]
    obtain ⟨hstart, hall⟩ := k y fault hlater
    exact ⟨(List.prefix_append_right_inj a).mpr hstart, fun hnone => by rw [hall hnone]⟩

end Reports

theorem Stage.silent_optional {inner : γ → List Stage} {value : γ → α} {found : Option α}
    (h : ∀ c, Reports (inner c) []) : (optional inner value found).Silent := by
  rintro made fault ⟨c, inside, hmade, _⟩
  exact List.prefix_nil.mp (h c made inside hmade).1

end ClusterDeploy
