import Mathlib.Algebra.Group.Nat.Defs
import Mathlib.Data.Set.Lattice
import Mathlib.Tactic.Common

/-! A reduction over lanes in which each step adds the upper half of the lanes to the lower half. -/

namespace Qwen3xOrin.Library

section Halvings

def halvings : ℕ → List ℕ
  | 0 => []
  | levels + 1 => 2 ^ levels :: halvings levels

-- The offsets of the loop `for (; offset != 0; offset /= 2)`.
def halvingLoop : ℕ → ℕ → List ℕ
  | 0, _ => []
  | turns + 1, offset => if offset = 0 then [] else offset :: halvingLoop turns (offset / 2)

lemma halvingLoop_pow {levels turns : ℕ} (h : levels < turns) :
    halvingLoop turns (2 ^ levels) = halvings (levels + 1) := by
  induction levels generalizing turns with
  | zero =>
    obtain ⟨turns, rfl⟩ := Nat.exists_eq_succ_of_ne_zero (Nat.ne_of_gt h)
    cases turns <;> rfl
  | succ levels ih =>
    obtain ⟨turns, rfl⟩ := Nat.exists_eq_succ_of_ne_zero (Nat.ne_of_gt (Nat.zero_lt_of_lt h))
    rw [halvingLoop, if_neg (Nat.ne_of_gt (Nat.two_pow_pos _)), Nat.pow_succ,
      Nat.mul_div_cancel _ (by decide), ih (Nat.lt_of_succ_lt_succ h)]
    rfl

end Halvings

section Tree

variable {α : Type} {holds : Set ℕ → α → Prop} {combine : α → α → α}
  {step : ℕ → (ℕ → α) → ℕ → α} {lanes : ℕ → α} {width levels : ℕ}

def residues (width modulus lane : ℕ) : Set ℕ := {t | t < width ∧ t % modulus = lane}

lemma residues_self {width lane : ℕ} (h : lane < width) : residues width width lane = {lane} := by
  ext t
  constructor
  · rintro ⟨ht, rfl⟩
    exact (Nat.mod_eq_of_lt ht).symm
  · rintro rfl
    exact ⟨h, Nat.mod_eq_of_lt h⟩

lemma residues_half {width modulus lane : ℕ} (h : lane < modulus) :
    residues width modulus lane =
      residues width (2 * modulus) lane ∪ residues width (2 * modulus) (lane + modulus) := by
  ext t
  have hmod : t % modulus = t % (2 * modulus) % modulus :=
    (Nat.mod_mod_of_dvd _ (Nat.dvd_mul_left _ _)).symm
  have hlt : t % (2 * modulus) < 2 * modulus := Nat.mod_lt _ (by omega)
  constructor
  · rintro ⟨ht, hlane⟩
    rw [hmod] at hlane
    by_cases hlow : t % (2 * modulus) < modulus
    · exact .inl ⟨ht, by rwa [Nat.mod_eq_of_lt hlow] at hlane⟩
    · rw [Nat.mod_eq_sub_mod (not_lt.mp hlow), Nat.mod_eq_of_lt (by omega)] at hlane
      exact .inr ⟨ht, by omega⟩
  · rintro (⟨ht, hlane⟩ | ⟨ht, hlane⟩)
    · exact ⟨ht, by rw [hmod, hlane, Nat.mod_eq_of_lt h]⟩
    · exact ⟨ht, by rw [hmod, hlane, Nat.add_mod_right, Nat.mod_eq_of_lt h]⟩

-- The lanes below the last offset hold the reduction over all lanes of their residue.
lemma halvings_residues
    (hcombine : ∀ s t a b, holds s a → holds t b → holds (s ∪ t) (combine a b))
    (hstep : ∀ offset lanes t, t < offset → 2 * offset ≤ width →
      step offset lanes t = combine (lanes t) (lanes (t + offset)))
    (hwidth : 2 ^ levels ≤ width)
    (hlanes : ∀ t < 2 ^ levels, holds (residues width (2 ^ levels) t) (lanes t)) :
    holds (residues width 1 0) ((halvings levels).foldl (fun lanes offset => step offset lanes)
      lanes 0) := by
  induction levels generalizing lanes with
  | zero => exact hlanes 0 Nat.one_pos
  | succ levels ih =>
    rw [Nat.pow_succ, Nat.mul_comm] at hwidth hlanes
    have hhalf := Nat.two_pow_pos levels
    refine @ih (step (2 ^ levels) lanes) (by omega) fun t ht => ?_
    rw [hstep _ _ t ht hwidth, residues_half ht]
    exact hcombine _ _ _ _ (hlanes t (by omega)) (hlanes (t + 2 ^ levels) (by omega))

lemma halvings_root (hcombine : ∀ s t a b, holds s a → holds t b → holds (s ∪ t) (combine a b))
    (hstep : ∀ offset lanes t, t < offset → 2 * offset ≤ 2 ^ levels →
      step offset lanes t = combine (lanes t) (lanes (t + offset)))
    (hlanes : ∀ t < 2 ^ levels, holds {t} (lanes t)) :
    holds {t | t < 2 ^ levels} ((halvings levels).foldl (fun lanes offset => step offset lanes)
      lanes 0) := by
  have hall : {t | t < 2 ^ levels} = residues (2 ^ levels) 1 0 := by
    ext t
    simp [residues, Nat.mod_one]
  rw [hall]
  refine halvings_residues hcombine hstep le_rfl fun t ht => ?_
  rw [residues_self ht]
  exact hlanes t ht

end Tree

end Qwen3xOrin.Library
