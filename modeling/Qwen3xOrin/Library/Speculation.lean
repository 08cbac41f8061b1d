import Mathlib.Tactic

/-! Greedy generation from a deterministic next-token function, and rounds that check a draft
against it. A consumer takes one token at a time and may stop with a reason. A round emits the
agreeing part of its draft and one further token, and never differs from greedy generation. -/

namespace Qwen3xOrin.Library

variable {α κ ρ : Type*}

def greedy (next : List α → α) (emit : α → κ → Option ρ × κ) :
    ℕ → List α → κ → Option ρ × κ
  | 0, _, k => (none, k)
  | n + 1, history, k =>
    match emit (next history) k with
    | (some reason, k') => (some reason, k')
    | (none, k') => greedy next emit n (history ++ [next history]) k'

structure Round (α κ ρ : Type*) where
  emitted : ℕ
  stopped : Option ρ
  history : List α
  consumer : κ

def speculate [DecidableEq α] (next : List α → α) (emit : α → κ → Option ρ × κ) :
    List α → List α → κ → Round α κ ρ
  | [], history, k =>
    let r := emit (next history) k
    ⟨1, r.1, history ++ [next history], r.2⟩
  | draft :: drafts, history, k =>
    let r := emit (next history) k
    if r.1.isNone ∧ draft = next history then
      let round := speculate next emit drafts (history ++ [next history]) r.2
      { round with emitted := round.emitted + 1 }
    else ⟨1, r.1, history ++ [next history], r.2⟩

section

variable [DecidableEq α] (next : List α → α) (emit : α → κ → Option ρ × κ)

omit [DecidableEq α] in
lemma greedy_succ (n : ℕ) (history : List α) (k : κ) :
    greedy next emit (n + 1) history k =
      match emit (next history) k with
      | (some reason, k') => (some reason, k')
      | (none, k') => greedy next emit n (history ++ [next history]) k' := rfl

lemma speculate_cons (draft : α) (drafts history : List α) (k : κ) :
    speculate next emit (draft :: drafts) history k =
      let r := emit (next history) k
      if r.1.isNone ∧ draft = next history then
        let round := speculate next emit drafts (history ++ [next history]) r.2
        { round with emitted := round.emitted + 1 }
      else ⟨1, r.1, history ++ [next history], r.2⟩ := rfl

lemma speculate_emitted (drafts history : List α) (k : κ) :
    0 < (speculate next emit drafts history k).emitted ∧
      (speculate next emit drafts history k).emitted ≤ drafts.length + 1 := by
  induction drafts generalizing history k with
  | nil => exact ⟨Nat.one_pos, le_rfl⟩
  | cons draft drafts ih =>
    rw [speculate_cons, List.length_cons]
    dsimp only
    split_ifs with h
    · exact ⟨Nat.succ_pos _, Nat.succ_le_succ (ih _ _).2⟩
    · exact ⟨Nat.one_pos, by simp⟩

lemma greedy_speculate {drafts : List α} {n : ℕ} (hn : drafts.length < n) (history : List α)
    (k : κ) :
    greedy next emit n history k =
      match (speculate next emit drafts history k).stopped with
      | some reason => (some reason, (speculate next emit drafts history k).consumer)
      | none => greedy next emit (n - (speculate next emit drafts history k).emitted)
          (speculate next emit drafts history k).history
          (speculate next emit drafts history k).consumer := by
  obtain ⟨m, rfl⟩ : ∃ m, n = m + 1 := ⟨n - 1, by omega⟩
  induction drafts generalizing m history k with
  | nil =>
    rw [greedy_succ, speculate]
    rcases emit (next history) k with ⟨_ | reason, k'⟩ <;> rfl
  | cons draft drafts ih =>
    simp only [List.length_cons] at hn
    rw [greedy_succ, speculate_cons]
    rcases hemit : emit (next history) k with ⟨_ | reason, k'⟩
    · by_cases hdraft : draft = next history
      · obtain ⟨m, rfl⟩ : ∃ m', m = m' + 1 := ⟨m - 1, by omega⟩
        have hrest := ih (history ++ [next history]) k' m (by omega)
        simp only [Option.isNone_none, hdraft, and_self, if_true]
        rw [hrest, Nat.add_sub_add_right]
      · simp [hdraft]
    · simp

lemma speculate_invariant {R : ℕ → List α → κ → Prop}
    (hstep : ∀ m history k, R m history k → R (m + 1) (history ++ [next history])
      (emit (next history) k).2) (drafts : List α) {m : ℕ} {history : List α} {k : κ}
    (h : R m history k) :
    R (m + (speculate next emit drafts history k).emitted)
      (speculate next emit drafts history k).history
      (speculate next emit drafts history k).consumer := by
  induction drafts generalizing m history k with
  | nil => exact hstep m history k h
  | cons draft drafts ih =>
    rw [speculate_cons]
    dsimp only
    split_ifs with hgo
    · have hh := ih (hstep m history k h)
      rwa [Nat.add_assoc, Nat.add_comm 1] at hh
    · exact hstep m history k h

lemma speculate_last (drafts history : List α) (k : κ) :
    ∃ before k', (speculate next emit drafts history k).history = before ++ [next before] ∧
      (speculate next emit drafts history k).stopped = (emit (next before) k').1 ∧
      (speculate next emit drafts history k).consumer = (emit (next before) k').2 := by
  induction drafts generalizing history k with
  | nil => exact ⟨history, k, rfl, rfl, rfl⟩
  | cons draft drafts ih =>
    rw [speculate_cons]
    dsimp only
    split_ifs with hgo
    · exact ih _ _
    · exact ⟨history, k, rfl, rfl, rfl⟩

end

-- The part of a greedy generation before a stop.
inductive GreedyRun (next : List α → α) (emit : α → κ → Option ρ × κ) (history : List α) (k : κ) :
    List α → κ → Prop
  | refl : GreedyRun next emit history k history k
  | tail {history' : List α} {k' k'' : κ} (hrun : GreedyRun next emit history k history' k')
      (hemit : emit (next history') k' = (none, k'')) :
      GreedyRun next emit history k (history' ++ [next history']) k''

namespace GreedyRun

variable {next : List α → α} {emit : α → κ → Option ρ × κ} {history history' history'' : List α}
  {k k' k'' : κ}

lemma trans (h : GreedyRun next emit history k history' k')
    (h' : GreedyRun next emit history' k' history'' k'') :
    GreedyRun next emit history k history'' k'' := by
  induction h' with
  | refl => exact h
  | tail _ hemit ih => exact ih.tail hemit

lemma isPrefix (h : GreedyRun next emit history k history' k') : history <+: history' := by
  induction h with
  | refl => exact List.prefix_rfl
  | tail _ _ ih => exact ih.trans (List.prefix_append _ _)

lemma greedy_add (h : GreedyRun next emit history k history' k') (n : ℕ) :
    greedy next emit (history'.length - history.length + n) history k =
      greedy next emit n history' k' := by
  induction h generalizing n with
  | refl => rw [Nat.sub_self, Nat.zero_add]
  | @tail middle _ _ hrun hemit ih =>
    have hle := hrun.isPrefix.length_le
    have hlength : (middle ++ [next middle]).length - history.length + n =
        middle.length - history.length + (n + 1) := by
      simp only [List.length_append, List.length_singleton]
      omega
    rw [hlength, ih, greedy, hemit]

end GreedyRun

end Qwen3xOrin.Library
