import Mathlib.Data.List.Forall2

/-! Machines that take one input at a time: their traces, and the rule that a machine which follows
another one step by step follows it over whole runs. -/

namespace StepTrace

variable {ι κ ο σ τ : Type}

/-- The outputs of a run, each with the state its step leaves. -/
def trace (step : σ → ι → ο × σ) : σ → List ι → List (ο × σ)
  | _, [] => []
  | s, input :: inputs => step s input :: trace step (step s input).2 inputs

/-- The state a run ends in. -/
def final (step : σ → ι → ο × σ) (s : σ) (inputs : List ι) : σ :=
  inputs.foldl (fun s input => (step s input).2) s

/-- On the inputs `valid` admits, the machine `step` answers as `step'` does on the input's `view`,
and keeps the relation `R` between their states. -/
structure Follows (step : σ → ι → ο × σ) (step' : τ → κ → ο × τ) (view : ι → κ)
    (valid : ι → Prop) (R : σ → τ → Prop) : Prop where
  output : ∀ {s t input}, R s t → valid input → (step s input).1 = (step' t (view input)).1
  related : ∀ {s t input}, R s t → valid input → R (step s input).2 (step' t (view input)).2

namespace Follows

variable {step : σ → ι → ο × σ} {step' : τ → κ → ο × τ} {view : ι → κ} {valid : ι → Prop}
  {R : σ → τ → Prop}

/-- A run gives the outputs of the run it follows, and stays related to it after every step. -/
theorem forall₂_trace (hfollows : Follows step step' view valid R) {inputs : List ι}
    (hvalid : ∀ input ∈ inputs, valid input) {s : σ} {t : τ} (hst : R s t) :
    List.Forall₂ (fun left right => left.1 = right.1 ∧ R left.2 right.2)
      (trace step s inputs) (trace step' t (inputs.map view)) := by
  induction inputs generalizing s t with
  | nil => exact .nil
  | cons input inputs ih =>
      obtain ⟨hinput, hinputs⟩ := List.forall_mem_cons.mp hvalid
      have hrelated := hfollows.related hst hinput
      exact .cons ⟨hfollows.output hst hinput, hrelated⟩ (ih hinputs hrelated)

theorem final_related (hfollows : Follows step step' view valid R) {inputs : List ι}
    (hvalid : ∀ input ∈ inputs, valid input) {s : σ} {t : τ} (hst : R s t) :
    R (final step s inputs) (final step' t (inputs.map view)) := by
  induction inputs generalizing s t with
  | nil => exact hst
  | cons input inputs ih =>
      obtain ⟨hinput, hinputs⟩ := List.forall_mem_cons.mp hvalid
      exact ih hinputs (hfollows.related hst hinput)

end Follows

/-! ### Every step of a run -/

section Throughout

variable {step : σ → ι → σ} {P Q : σ → ι → Prop} {I : σ → Prop}

/-- Every input of a run meets a state that it has the relation `P` with. -/
def Throughout (step : σ → ι → σ) (P : σ → ι → Prop) : σ → List ι → Prop
  | _, [] => True
  | s, input :: inputs => P s input ∧ Throughout step P (step s input) inputs

/-- Two relations that agree as long as an invariant holds, which steps with the second one keep,
agree on whole runs. -/
theorem throughout_iff (hiff : ∀ s input, I s → (P s input ↔ Q s input))
    (hkeep : ∀ s input, I s → Q s input → I (step s input)) {s : σ} (hs : I s) (inputs : List ι) :
    Throughout step P s inputs ↔ Throughout step Q s inputs := by
  induction inputs generalizing s with
  | nil => exact Iff.rfl
  | cons input inputs ih =>
      unfold Throughout
      rw [hiff s input hs]
      exact and_congr_right fun hinput => ih (hkeep s input hs hinput)

end Throughout

/-! ### What is seen of a run -/

section Observed

variable {step : σ → ι → σ} {view : σ → ι → List ο}

/-- What the inputs of a run show, each in the state that it meets. -/
def observed (step : σ → ι → σ) (view : σ → ι → List ο) : σ → List ι → List ο
  | _, [] => []
  | s, input :: inputs => view s input ++ observed step view (step s input) inputs

/-- A relation between a state and what has been seen so far, which every step keeps, holds at the end of
every run. -/
theorem holds_observed {I : σ → List ο → Prop}
    (hkeep : ∀ s seen input, I s seen → I (step s input) (seen ++ view s input)) {s : σ}
    {seen : List ο} (hs : I s seen) (inputs : List ι) :
    I (inputs.foldl step s) (seen ++ observed step view s inputs) := by
  induction inputs generalizing s seen with
  | nil =>
      rw [observed, List.append_nil]
      exact hs
  | cons input inputs ih =>
      rw [List.foldl_cons, observed, ← List.append_assoc]
      exact ih (hkeep s seen input hs)

end Observed

end StepTrace
