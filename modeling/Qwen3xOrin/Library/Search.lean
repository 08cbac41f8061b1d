import Mathlib.Tactic

/-! The first occurrence of a pattern in a list, and what it has to do with the occurrences in an
initial part of the list. -/

namespace Qwen3xOrin.Library.Search

variable {α : Type} [DecidableEq α]

def find (pattern : List α) : List α → Option ℕ
  | [] => if pattern = [] then some 0 else none
  | a :: l => if pattern.isPrefixOf (a :: l) then some 0 else (find pattern l).map (· + 1)

lemma find_nil (pattern : List α) : find pattern [] = if pattern = [] then some 0 else none := rfl

lemma find_cons (pattern : List α) (a : α) (l : List α) :
    find pattern (a :: l) =
      if pattern.isPrefixOf (a :: l) then some 0 else (find pattern l).map (· + 1) := rfl

variable {pattern l : List α} {i n : ℕ}

lemma find_eq_some_iff :
    find pattern l = some i ↔
      i ≤ l.length ∧ pattern <+: l.drop i ∧ ∀ j < i, ¬pattern <+: l.drop j := by
  induction l generalizing i with
  | nil =>
    simp only [find_nil, List.length_nil, Nat.le_zero, List.drop_nil, List.prefix_nil]
    constructor
    · intro h
      split_ifs at h with hempty
      cases h
      exact ⟨rfl, hempty, fun j hj => absurd hj (Nat.not_lt_zero j)⟩
    · rintro ⟨rfl, hempty, -⟩
      rw [if_pos hempty]
  | cons a l ih =>
    rw [find_cons]
    split_ifs with hhead
    · rw [ List.isPrefixOf_iff_prefix] at hhead
      constructor
      · rintro ⟨⟩
        exact ⟨Nat.zero_le _, hhead, fun j hj => absurd hj (Nat.not_lt_zero j)⟩
      · rintro ⟨-, -, hfirst⟩
        cases i with
        | zero => rfl
        | succ i => exact absurd hhead (hfirst 0 (Nat.succ_pos i))
    · rw [ List.isPrefixOf_iff_prefix] at hhead
      cases i with
      | zero => simp [hhead]
      | succ i =>
        simp only [Option.map_eq_some_iff, Nat.add_right_cancel_iff, exists_eq_right, ih,
          List.length_cons, Nat.add_le_add_iff_right, List.drop_succ_cons]
        refine and_congr_right fun _ => and_congr_right fun _ => ⟨fun h j hj => ?_, fun h j hj => ?_⟩
        · cases j with
          | zero => exact hhead
          | succ j => exact h j (Nat.lt_of_succ_lt_succ hj)
        · exact h (j + 1) (Nat.succ_lt_succ hj)

lemma find_eq_none_iff (hpattern : pattern ≠ []) :
    find pattern l = none ↔ ∀ j, ¬pattern <+: l.drop j := by
  constructor
  · intro h j hj
    have hsome : ∃ k, pattern <+: l.drop k := ⟨j, hj⟩
    obtain ⟨k, hk, hfirst⟩ : ∃ k, pattern <+: l.drop k ∧ ∀ m < k, ¬pattern <+: l.drop m := by
      classical
      exact ⟨Nat.find hsome, Nat.find_spec hsome, fun m hm => Nat.find_min hsome hm⟩
    have hlength : k ≤ l.length := by
      by_contra hlong
      rw [List.drop_eq_nil_of_le (by omega), List.prefix_nil] at hk
      exact hpattern hk
    rw [find_eq_some_iff.2 ⟨hlength, hk, hfirst⟩] at h
    cases h
  · intro h
    cases hfind : find pattern l with
    | none => rfl
    | some i => exact absurd (find_eq_some_iff.1 hfind).2.1 (h i)

omit [DecidableEq α] in
lemma prefix_drop_take {j : ℕ} (hpattern : pattern ≠ []) :
    pattern <+: (l.take n).drop j ↔ pattern <+: l.drop j ∧ j + pattern.length ≤ n := by
  have hlength : 0 < pattern.length := List.length_pos_iff.mpr hpattern
  rw [List.drop_take, List.prefix_take_iff]
  refine and_congr_right fun _ => ?_
  omega

lemma find_add_length (h : find pattern l = some i) : i + pattern.length ≤ l.length := by
  obtain ⟨hi, hstart, -⟩ := find_eq_some_iff.1 h
  have := hstart.length_le
  rw [List.length_drop] at this
  omega

-- An occurrence is found in an initial part as soon as that part holds all of it.
lemma find_take_some (hpattern : pattern ≠ []) (h : find pattern l = some i)
    (hn : i + pattern.length ≤ n) : find pattern (l.take n) = some i := by
  obtain ⟨hi, hstart, hfirst⟩ := find_eq_some_iff.1 h
  refine find_eq_some_iff.2 ⟨?_, (prefix_drop_take hpattern).mpr ⟨hstart, hn⟩, ?_⟩
  · rw [List.length_take]
    omega
  · exact fun j hj hstart => hfirst j hj ((prefix_drop_take hpattern).mp hstart).1

lemma find_take_none (hpattern : pattern ≠ []) (h : find pattern l = some i)
    (hn : n < i + pattern.length) : find pattern (l.take n) = none := by
  obtain ⟨-, -, hfirst⟩ := find_eq_some_iff.1 h
  refine (find_eq_none_iff hpattern).mpr fun j hstart => ?_
  obtain ⟨hstart, hj⟩ := (prefix_drop_take hpattern).mp hstart
  exact hfirst j (by omega) hstart

lemma find_take_absent (hpattern : pattern ≠ []) (h : find pattern l = none) :
    find pattern (l.take n) = none :=
  (find_eq_none_iff hpattern).mpr fun j hstart =>
    (find_eq_none_iff hpattern).mp h j ((prefix_drop_take hpattern).mp hstart).1

end Qwen3xOrin.Library.Search
