import Mathlib.Tactic

/-! Cutting a quantity into pieces. The balanced rule keeps every piece at its cap and halves
the last full piece together with its tail; the capped rule leaves the remainder last. -/

namespace Qwen3xOrin.Library

-- The cut fails only when it runs out of fuel.
def cut (next : ℕ → ℕ) : ℕ → ℕ → Option (List ℕ)
  | 0, n => if n = 0 then some [] else none
  | fuel + 1, n => if n = 0 then some [] else (cut next fuel (n - next n)).map (next n :: ·)

def balanced (cap n : ℕ) : ℕ :=
  if n ≤ cap then n else if n < 2 * cap then (n + 1) / 2 else cap

def capped (cap n : ℕ) : ℕ := if n < cap then n else cap

structure BalancedPieces (cap n : ℕ) (l : List ℕ) : Prop where
  positive : ∀ p ∈ l, 0 < p
  atMost : ∀ p ∈ l, p ≤ cap
  total : l.sum = n
  count : l.length = (n + cap - 1) / cap
  full : ∀ p ∈ l.dropLast.dropLast, p = cap
  half : cap < n → ∀ p ∈ l, cap ≤ 2 * p

def cappedPieces (cap n : ℕ) : List ℕ :=
  List.replicate (n / cap) cap ++ if n % cap = 0 then [] else [n % cap]

@[simp] lemma cut_zero (next : ℕ → ℕ) (fuel : ℕ) : cut next fuel 0 = some [] := by
  cases fuel <;> exact if_pos rfl

lemma cut_without_fuel {next : ℕ → ℕ} {n : ℕ} {l : List ℕ} (h : cut next 0 n = some l) :
    n = 0 ∧ [] = l := by
  obtain ⟨hn, hl⟩ := Option.ite_none_right_eq_some.mp h
  exact ⟨hn, Option.some.inj hl⟩

lemma cut_succ (next : ℕ → ℕ) (fuel : ℕ) {n : ℕ} (hn : n ≠ 0) :
    cut next (fuel + 1) n = (cut next fuel (n - next n)).map (next n :: ·) := if_neg hn

lemma cut_length_le {next : ℕ → ℕ} {fuel n : ℕ} {l : List ℕ} (h : cut next fuel n = some l) :
    l.length ≤ fuel := by
  induction fuel generalizing n l with
  | zero =>
    simp [← (cut_without_fuel h).2]
  | succ fuel ih =>
    by_cases hn : n = 0
    · subst hn
      rw [cut_zero, Option.some.injEq] at h
      simp [← h]
    · rw [cut_succ next fuel hn, Option.map_eq_some_iff] at h
      obtain ⟨l', hl, rfl⟩ := h
      have hh := ih hl
      simp only [List.length_cons]
      omega

lemma cut_mono {next : ℕ → ℕ} {fuel n : ℕ} {l : List ℕ} (h : cut next fuel n = some l)
    {more : ℕ} (hm : fuel ≤ more) : cut next more n = some l := by
  induction fuel generalizing n l more with
  | zero =>
    obtain ⟨rfl, rfl⟩ := cut_without_fuel h
    exact cut_zero next more
  | succ fuel ih =>
    by_cases hn : n = 0
    · subst hn
      rw [cut_zero] at h ⊢
      exact h
    · obtain ⟨more, rfl⟩ : ∃ m, more = m + 1 := ⟨more - 1, by omega⟩
      rw [cut_succ next fuel hn, Option.map_eq_some_iff] at h
      obtain ⟨l', hl, rfl⟩ := h
      rw [cut_succ next more hn, ih hl (by omega)]
      rfl

lemma cut_exact {next : ℕ → ℕ} {fuel n : ℕ} {l : List ℕ} (h : cut next fuel n = some l) :
    cut next l.length n = some l := by
  induction fuel generalizing n l with
  | zero =>
    obtain ⟨rfl, rfl⟩ := cut_without_fuel h
    exact cut_zero next 0
  | succ fuel ih =>
    by_cases hn : n = 0
    · subst hn
      rw [cut_zero] at h ⊢
      exact h
    · rw [cut_succ next fuel hn, Option.map_eq_some_iff] at h
      obtain ⟨l', hl, rfl⟩ := h
      rw [List.length_cons, cut_succ next _ hn, ih hl]
      rfl

lemma balanced_le_cap (cap n : ℕ) : balanced cap n ≤ cap := by
  unfold balanced
  split_ifs <;> omega

lemma balanced_le (cap n : ℕ) : balanced cap n ≤ n := by
  unfold balanced
  split_ifs <;> omega

lemma balanced_pos {cap n : ℕ} (hc : 0 < cap) (hn : 0 < n) : 0 < balanced cap n := by
  unfold balanced
  split_ifs <;> omega

lemma ceil_of_le {cap n : ℕ} (hn : 0 < n) (h : n ≤ cap) : (n + cap - 1) / cap = 1 :=
  Nat.div_eq_of_lt_le (by omega) (by omega)

lemma ceil_sub {cap n : ℕ} (hc : 0 < cap) (h : cap ≤ n) :
    (n + cap - 1) / cap = (n - cap + cap - 1) / cap + 1 := by
  have he : n + cap - 1 = n - cap + cap - 1 + cap := by omega
  rw [he, Nat.add_div_right _ hc]

namespace BalancedPieces

lemma nil {cap : ℕ} (hc : 0 < cap) : BalancedPieces cap 0 [] where
  positive _ h := nomatch h
  atMost _ h := nomatch h
  total := rfl
  count := by
    rw [Nat.zero_add, Nat.div_eq_of_lt (by omega)]
    rfl
  full _ h := nomatch h
  half _ _ h := nomatch h

lemma single {cap n : ℕ} (hn : 0 < n) (h : n ≤ cap) : BalancedPieces cap n [n] where
  positive p hp := by simp_all
  atMost p hp := by simp_all
  total := List.sum_singleton
  count := by rw [ceil_of_le hn h, List.length_singleton]
  full _ hp := nomatch hp
  half hlt := by omega

lemma halves {cap n : ℕ} (hl : cap < n) (h : n < 2 * cap) :
    BalancedPieces cap n [(n + 1) / 2, n / 2] where
  positive p hp := by
    simp only [List.mem_cons, List.not_mem_nil, or_false] at hp
    omega
  atMost p hp := by
    simp only [List.mem_cons, List.not_mem_nil, or_false] at hp
    omega
  total := by
    simp only [List.sum_cons, List.sum_nil]
    omega
  count := by
    rw [ceil_sub (by omega) hl.le, ceil_of_le (by omega) (by omega)]
    rfl
  full _ hp := nomatch hp
  half _ p hp := by
    simp only [List.mem_cons, List.not_mem_nil, or_false] at hp
    omega

lemma cons {cap n : ℕ} {l : List ℕ} (hc : 0 < cap) (hn : 2 * cap ≤ n)
    (hl : BalancedPieces cap (n - cap) l) : BalancedPieces cap n (cap :: l) where
  positive p hp := by
    obtain rfl | hp := List.mem_cons.mp hp
    · exact hc
    · exact hl.positive p hp
  atMost p hp := by
    obtain rfl | hp := List.mem_cons.mp hp
    · exact le_rfl
    · exact hl.atMost p hp
  total := by
    rw [List.sum_cons, hl.total]
    omega
  count := by rw [ceil_sub hc (by omega), List.length_cons, hl.count]
  full p hp := by
    match l, hl with
    | [], _ => exact nomatch hp
    | [_], _ => exact nomatch hp
    | a :: b :: l, hl =>
      have hfull := hl.full p
      simp only [List.dropLast_cons_cons] at hp hfull
      obtain rfl | hp := List.mem_cons.mp hp
      · rfl
      · exact hfull hp
  half _ p hp := by
    obtain rfl | hp := List.mem_cons.mp hp
    · omega
    · by_cases hlt : cap < n - cap
      · exact hl.half hlt p hp
      -- The rest is one full piece.
      · have hone : l.length = 1 := by
          rw [hl.count, ceil_of_le (by omega) (by omega)]
        obtain ⟨a, rfl⟩ := List.length_eq_one_iff.mp hone
        have htotal := hl.total
        simp only [List.sum_cons, List.sum_nil, List.mem_singleton] at htotal hp
        omega

end BalancedPieces

lemma cut_balanced {cap : ℕ} (hc : 0 < cap) {n fuel : ℕ} (hf : (n + cap - 1) / cap ≤ fuel) :
    ∃ l, cut (balanced cap) fuel n = some l ∧ BalancedPieces cap n l := by
  induction fuel generalizing n with
  | zero =>
    obtain rfl : n = 0 := by
      by_contra hn
      have := (Nat.div_eq_zero_iff.mp (Nat.le_zero.mp hf))
      omega
    exact ⟨[], cut_zero _ _, .nil hc⟩
  | succ fuel ih =>
    obtain rfl | hn := Nat.eq_zero_or_pos n
    · exact ⟨[], cut_zero _ _, .nil hc⟩
    rw [cut_succ _ _ hn.ne']
    by_cases hle : n ≤ cap
    · refine ⟨[n], ?_, .single hn hle⟩
      rw [balanced, if_pos hle, Nat.sub_self, cut_zero]
      rfl
    have hcount := ceil_sub hc (n := n) (by omega)
    by_cases hlt : n < 2 * cap
    · refine ⟨_, ?_, .halves (by omega) hlt⟩
      obtain ⟨rest, hrest⟩ : ∃ rest, fuel = rest + 1 := by
        rw [ceil_of_le (n := n - cap) (by omega) (by omega)] at hcount
        exact ⟨fuel - 1, by omega⟩
      have hfirst : balanced cap n = (n + 1) / 2 := by
        rw [balanced, if_neg hle, if_pos hlt]
      have hsecond : balanced cap (n / 2) = n / 2 := by rw [balanced, if_pos (by omega)]
      rw [hfirst, show n - (n + 1) / 2 = n / 2 by omega, hrest, cut_succ _ _ (by omega), hsecond,
        Nat.sub_self, cut_zero]
      rfl
    · have hfirst : balanced cap n = cap := by rw [balanced, if_neg hle, if_neg hlt]
      obtain ⟨l, hl, hpieces⟩ := ih (n := n - cap) (by omega)
      exact ⟨cap :: l, by rw [hfirst, hl]; rfl, .cons hc (by omega) hpieces⟩

lemma cut_capped {cap : ℕ} (hc : 0 < cap) {n fuel : ℕ} (hf : (n + cap - 1) / cap ≤ fuel) :
    cut (capped cap) fuel n = some (cappedPieces cap n) := by
  induction fuel generalizing n with
  | zero =>
    obtain rfl : n = 0 := by
      by_contra hn
      have := (Nat.div_eq_zero_iff.mp (Nat.le_zero.mp hf))
      omega
    simp [cappedPieces]
  | succ fuel ih =>
    obtain rfl | hn := Nat.eq_zero_or_pos n
    · simp [cappedPieces]
    rw [cut_succ _ _ hn.ne']
    by_cases hlt : n < cap
    · rw [capped, if_pos hlt, Nat.sub_self, cut_zero, cappedPieces, Nat.div_eq_of_lt hlt,
        Nat.mod_eq_of_lt hlt, if_neg hn.ne']
      rfl
    · have hcount := ceil_sub hc (n := n) (by omega)
      have hdiv : n / cap = (n - cap) / cap + 1 := Nat.div_eq_sub_div hc (by omega)
      have hmod : n % cap = (n - cap) % cap := Nat.mod_eq_sub_mod (by omega)
      rw [capped, if_neg hlt, ih (n := n - cap) (by omega), cappedPieces, cappedPieces, hdiv, hmod,
        List.replicate_succ]
      rfl

lemma cappedPieces_sum (cap n : ℕ) : (cappedPieces cap n).sum = n := by
  have hdiv := Nat.div_add_mod n cap
  unfold cappedPieces
  split_ifs <;> simp [Nat.mul_comm] <;> omega

lemma cappedPieces_pos (cap n : ℕ) : ∀ p ∈ cappedPieces cap n, 0 < p := by
  intro p hp
  obtain rfl | hc := Nat.eq_zero_or_pos cap
  · simp only [cappedPieces, Nat.div_zero, Nat.mod_zero, List.replicate_zero, List.nil_append] at hp
    split_ifs at hp with hn
    · exact nomatch hp
    · rw [List.mem_singleton.mp hp]
      exact Nat.pos_of_ne_zero hn
  · obtain hp | hp := List.mem_append.mp hp
    · rw [(List.mem_replicate.mp hp).2]
      exact hc
    · split_ifs at hp with hn
      · exact nomatch hp
      · rw [List.mem_singleton.mp hp]
        exact Nat.pos_of_ne_zero hn

lemma cappedPieces_length {cap : ℕ} (hc : 0 < cap) (n : ℕ) :
    (cappedPieces cap n).length = (n + cap - 1) / cap := by
  have hdiv := Nat.div_add_mod n cap
  have hlt := Nat.mod_lt n hc
  rw [cappedPieces, List.length_append, List.length_replicate]
  have hcomm := Nat.mul_comm cap (n / cap)
  symm
  split_ifs with hmod
  · refine Nat.div_eq_of_lt_le ?_ ?_ <;>
      simp only [List.length_nil, Nat.add_mul, Nat.zero_mul, Nat.one_mul] <;> omega
  · refine Nat.div_eq_of_lt_le ?_ ?_ <;>
      simp only [List.length_singleton, Nat.add_mul, Nat.one_mul] <;> omega

end Qwen3xOrin.Library
