import Qwen3xOrin.Library.Coupling
import Qwen3xOrin.Generation.Completed

/-! The left fold of the scalar prefix step, and the prefix loops of the controller as that fold
when the runner's tile is the fold of its step. -/

namespace Qwen3xOrin.Generation

open Prefill Library FloatingPoint

variable {σ F : Type}

def untimed (step : ReferenceStepResult F) : ReferenceStepResult F := { step with timing := none }

def stepResult (f : StepFunction σ F) (options : ReferenceStepOptions) (context : σ)
    (token : ℕ) : Option (ReferenceStepResult F × σ) :=
  match f token options context with
  | (.ok outcome, context') => outcome.toOption.map fun step => (step, context')
  | (.error _, _) => none

def foldPrefix (f : StepFunction σ F) (options : ReferenceStepOptions) :
    σ → List ℕ → Option (List (ReferenceStepResult F) × σ)
  | context, [] => some ([], context)
  | context, token :: tokens =>
    (stepResult f options context token).bind fun (step, context') =>
      (foldPrefix f options context' tokens).map fun (steps, context'') =>
        (step :: steps, context'')

def placed : ℕ → List ℕ → List (ReferenceStepResult F) → Bool
  | _, [], [] => true
  | position, token :: tokens, step :: steps =>
    placeholder step position token && placed (position + 1) tokens steps
  | _, _, _ => false

def acceptedFold (f : StepFunction σ F) (options : ReferenceStepOptions) (position : ℕ)
    (context : σ) (tokens : List ℕ) : Option (List (ReferenceStepResult F) × σ) :=
  (foldPrefix f options context tokens).filter fun r => placed position tokens r.1

lemma placeholder_untimed (step : ReferenceStepResult F) (position token : ℕ) :
    placeholder (untimed step) position token = placeholder step position token := rfl

lemma placed_untimed (position : ℕ) (tokens : List ℕ) (steps : List (ReferenceStepResult F)) :
    placed position tokens (steps.map untimed) = placed position tokens steps := by
  induction tokens generalizing position steps with
  | nil => cases steps <;> rfl
  | cons token tokens ih =>
    cases steps with
    | nil => rfl
    | cons step steps => simp [placed, placeholder_untimed, ih]

lemma placed_iff {tokens : List ℕ} {steps : List (ReferenceStepResult F)}
    (hlen : steps.length = tokens.length) (position : ℕ) :
    placed position tokens steps = true ↔
      ∀ i < tokens.length, placeholder (steps.getD i {}) (position + i) (tokens.getD i 0) = true := by
  induction tokens generalizing position steps with
  | nil =>
    obtain rfl : steps = [] := List.length_eq_zero_iff.mp hlen
    simp [placed]
  | cons token tokens ih =>
    cases steps with
    | nil => simp at hlen
    | cons step steps =>
      simp only [List.length_cons, Nat.add_right_cancel_iff] at hlen
      rw [placed, Bool.and_eq_true, ih hlen]
      constructor
      · rintro ⟨hfirst, hrest⟩ i hi
        cases i with
        | zero => simpa using hfirst
        | succ i =>
          have hh := hrest i (by simpa using hi)
          rwa [Nat.add_assoc, Nat.add_comm 1] at hh
      · intro hall
        refine ⟨by simpa using hall 0 (by simp), fun i hi => ?_⟩
        have hh := hall (i + 1) (by simpa using hi)
        rwa [Nat.add_assoc, Nat.add_comm 1]

section

variable {f : StepFunction σ F} {options : ReferenceStepOptions}

lemma acceptedFold_nil (position : ℕ) (context : σ) :
    acceptedFold f options position context [] = some ([], context) := rfl

lemma acceptedFold_cons (position : ℕ) (context : σ) (token : ℕ) (tokens : List ℕ) :
    acceptedFold f options position context (token :: tokens) =
      (stepResult f options context token).bind fun (step, context') =>
        if placeholder step position token then
          (acceptedFold f options (position + 1) context' tokens).map fun (steps, context'') =>
            (step :: steps, context'')
        else none := by
  rw [acceptedFold, foldPrefix]
  cases stepResult f options context token with
  | none => rfl
  | some r =>
    obtain ⟨step, context'⟩ := r
    simp only [Option.bind_some, acceptedFold]
    cases foldPrefix f options context' tokens with
    | none => cases placeholder step position token <;> rfl
    | some r' =>
      obtain ⟨steps, context''⟩ := r'
      cases hp : placeholder step position token <;>
        cases hs : placed (position + 1) tokens steps <;>
        simp [Option.filter, placed, hp, hs]

lemma acceptedFold_append (position : ℕ) (context : σ) (tokens more : List ℕ) :
    acceptedFold f options position context (tokens ++ more) =
      (acceptedFold f options position context tokens).bind fun (steps, context') =>
        (acceptedFold f options (position + tokens.length) context' more).map
          fun (steps', context'') => (steps ++ steps', context'') := by
  induction tokens generalizing position context with
  | nil => simp [acceptedFold_nil]
  | cons token tokens ih =>
    simp only [List.cons_append, acceptedFold_cons]
    cases stepResult f options context token with
    | none => rfl
    | some r =>
      obtain ⟨step, context'⟩ := r
      simp only [Option.bind_some]
      cases placeholder step position token with
      | false => rfl
      | true =>
        simp only [if_true, ih, List.length_cons]
        cases acceptedFold f options (position + 1) context' tokens with
        | none => rfl
        | some r' =>
          obtain ⟨steps, context''⟩ := r'
          simp [Option.map_map, Function.comp_def, Nat.add_assoc, Nat.add_comm 1]

lemma acceptedFold_length {position : ℕ} {context context' : σ} {tokens : List ℕ}
    {steps : List (ReferenceStepResult F)}
    (h : acceptedFold f options position context tokens = some (steps, context')) :
    steps.length = tokens.length := by
  induction tokens generalizing position context steps with
  | nil =>
    simp only [acceptedFold_nil, Option.some_inj, Prod.mk.injEq] at h
    rw [← h.1]
    rfl
  | cons token tokens ih =>
    rw [acceptedFold_cons, Option.bind_eq_some_iff] at h
    obtain ⟨⟨step, next⟩, -, h⟩ := h
    dsimp only at h
    split_ifs at h
    obtain ⟨⟨rest, last⟩, hrest, h⟩ := Option.map_eq_some_iff.mp h
    obtain ⟨rfl, rfl⟩ := Prod.mk.inj h
    simp [ih hrest]

end

end Qwen3xOrin.Generation
