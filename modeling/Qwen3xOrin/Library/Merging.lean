import Mathlib.Tactic

/-! Merging adjacent entries of a list by ranked rules. One step merges the leftmost pair of
lowest rank; the procedure repeats it until no adjacent pair has a rule. -/

namespace Qwen3xOrin.Library

variable {α : Type}

def bestRank (rule : α → α → Option (ℕ × α)) : List α → Option ℕ
  | a :: b :: l =>
    match rule a b, bestRank rule (b :: l) with
    | none, best => best
    | some (r, _), none => some r
    | some (r, _), some best => some (min r best)
  | _ => none

def mergeFirst (rule : α → α → Option (ℕ × α)) (rank : ℕ) : List α → Option (List α)
  | a :: b :: l =>
    match rule a b with
    | none => (mergeFirst rule rank (b :: l)).map (a :: ·)
    | some (r, c) =>
      if r = rank then some (c :: l) else (mergeFirst rule rank (b :: l)).map (a :: ·)
  | _ => none

def mergeLowest (rule : α → α → Option (ℕ × α)) (l : List α) : Option (List α) := do
  mergeFirst rule (← bestRank rule l) l

def mergeAll (rule : α → α → Option (ℕ × α)) : ℕ → List α → List α
  | 0, l => l
  | n + 1, l =>
    match mergeLowest rule l with
    | none => l
    | some merged => mergeAll rule n merged

-- Every merge shortens the list, so its length bounds the number of merges.
def referenceMerge (rule : α → α → Option (ℕ × α)) (l : List α) : List α :=
  mergeAll rule l.length l

variable {rule : α → α → Option (ℕ × α)}

lemma bestRank_cons (a b : α) (l : List α) :
    bestRank rule (a :: b :: l) =
      match rule a b, bestRank rule (b :: l) with
      | none, best => best
      | some (r, _), none => some r
      | some (r, _), some best => some (min r best) := rfl

lemma mergeFirst_cons (r : ℕ) (a b : α) (l : List α) :
    mergeFirst rule r (a :: b :: l) =
      match rule a b with
      | none => (mergeFirst rule r (b :: l)).map (a :: ·)
      | some (r', c) =>
        if r' = r then some (c :: l) else (mergeFirst rule r (b :: l)).map (a :: ·) := rfl

lemma mergeAll_succ (n : ℕ) (l : List α) :
    mergeAll rule (n + 1) l =
      match mergeLowest rule l with
      | none => l
      | some merged => mergeAll rule n merged := rfl

lemma bestRank_none {l : List α}
    (h : ∀ p a b s, l = p ++ a :: b :: s → rule a b = none) : bestRank rule l = none := by
  induction l with
  | nil => rfl
  | cons a l ih =>
    cases l with
    | nil => rfl
    | cons b l =>
      rw [bestRank_cons, h [] a b l rfl]
      refine ih fun p c d s hs => h (a :: p) c d s ?_
      rw [hs, List.cons_append]

lemma bestRank_le {l p s : List α} {a b c : α} {r : ℕ} (hl : l = p ++ a :: b :: s)
    (hr : rule a b = some (r, c)) : ∃ best ≤ r, bestRank rule l = some best := by
  induction p generalizing l with
  | nil =>
    subst hl
    rw [List.nil_append, bestRank_cons, hr]
    cases bestRank rule (b :: s) with
    | none => exact ⟨r, le_rfl, rfl⟩
    | some best => exact ⟨min r best, Nat.min_le_left _ _, rfl⟩
  | cons d p ih =>
    obtain ⟨best, hle, hbest⟩ := ih rfl
    subst hl
    cases hp : p ++ a :: b :: s with
    | nil => simp at hp
    | cons e rest =>
      rw [hp] at hbest
      rw [List.cons_append, hp, bestRank_cons, hbest]
      cases rule d e with
      | none => exact ⟨best, hle, rfl⟩
      | some pair => exact ⟨min pair.1 best, (Nat.min_le_right _ _).trans hle, rfl⟩

lemma bestRank_exists {l : List α} {best : ℕ} (h : bestRank rule l = some best) :
    ∃ p a b s c, l = p ++ a :: b :: s ∧ rule a b = some (best, c) := by
  induction l generalizing best with
  | nil => exact nomatch h
  | cons a l ih =>
    cases l with
    | nil => exact nomatch h
    | cons b l =>
      have hlater : ∀ {r}, bestRank rule (b :: l) = some r →
          ∃ p a' b' s c, a :: b :: l = p ++ a' :: b' :: s ∧ rule a' b' = some (r, c) := by
        intro r hr
        obtain ⟨p, a', b', s, c, hl, hrule⟩ := ih hr
        exact ⟨a :: p, a', b', s, c, by rw [hl, List.cons_append], hrule⟩
      rw [bestRank_cons] at h
      cases hrule : rule a b with
      | none =>
        rw [hrule] at h
        exact hlater h
      | some pair =>
        obtain ⟨r, c⟩ := pair
        rw [hrule] at h
        cases hrest : bestRank rule (b :: l) with
        | none =>
          rw [hrest] at h
          obtain rfl := Option.some.inj h
          exact ⟨[], a, b, l, c, rfl, hrule⟩
        | some other =>
          rw [hrest] at h
          obtain rfl := Option.some.inj h
          obtain hmin | hmin := Nat.le_total r other
          · rw [Nat.min_eq_left hmin]
            exact ⟨[], a, b, l, c, rfl, hrule⟩
          · rw [Nat.min_eq_right hmin]
            exact hlater hrest

lemma mergeFirst_eq {l p s : List α} {a b c : α} {r : ℕ} (hl : l = p ++ a :: b :: s)
    (hr : rule a b = some (r, c))
    (hbefore : ∀ p' a' b' s', l = p' ++ a' :: b' :: s' → p'.length < p.length →
      ∀ d, rule a' b' ≠ some (r, d)) :
    mergeFirst rule r l = some (p ++ c :: s) := by
  induction p generalizing l with
  | nil =>
    subst hl
    rw [List.nil_append, mergeFirst_cons, hr]
    exact if_pos rfl
  | cons d p ih =>
    subst hl
    have hrest := ih rfl fun p' a' b' s' hs hlt =>
      hbefore (d :: p') a' b' s' (by rw [List.cons_append, hs, List.cons_append])
        (Nat.succ_lt_succ hlt)
    cases hp : p ++ a :: b :: s with
    | nil => simp at hp
    | cons e rest =>
      have hfirst := hbefore [] d e rest (by rw [List.cons_append, hp, List.nil_append])
        (Nat.succ_pos _)
      rw [hp] at hrest
      rw [List.cons_append, hp, mergeFirst_cons, hrest]
      cases hrule : rule d e with
      | none => rfl
      | some pair =>
        obtain ⟨r', c'⟩ := pair
        have hne : r' ≠ r := by
          rintro rfl
          exact hfirst c' hrule
        exact if_neg hne

-- The pair at `p` is merged when it is of lowest rank and no pair of its rank precedes it.
lemma mergeLowest_eq {l p s : List α} {a b c : α} {r : ℕ} (hl : l = p ++ a :: b :: s)
    (hr : rule a b = some (r, c))
    (hlowest : ∀ p' a' b' s' r' d, l = p' ++ a' :: b' :: s' → rule a' b' = some (r', d) →
      r < r' ∨ r = r' ∧ p.length ≤ p'.length) :
    mergeLowest rule l = some (p ++ c :: s) := by
  obtain ⟨best, hle, hbest⟩ := bestRank_le hl hr
  obtain rfl : best = r := by
    obtain ⟨p', a', b', s', d, hl', hrule⟩ := bestRank_exists hbest
    have := hlowest p' a' b' s' best d hl' hrule
    omega
  rw [mergeLowest, hbest]
  refine mergeFirst_eq hl hr ?_
  intro p' a' b' s' hs hlt d hrule
  have := hlowest p' a' b' s' best d hs hrule
  omega

lemma mergeLowest_none {l : List α}
    (h : ∀ p a b s, l = p ++ a :: b :: s → rule a b = none) : mergeLowest rule l = none := by
  rw [mergeLowest, bestRank_none h]
  rfl

lemma mergeAll_step {n : ℕ} {l merged : List α} (h : mergeLowest rule l = some merged) :
    mergeAll rule (n + 1) l = mergeAll rule n merged := by
  rw [mergeAll_succ, h]

lemma mergeAll_done {l : List α} (h : mergeLowest rule l = none) (n : ℕ) :
    mergeAll rule n l = l := by
  cases n with
  | zero => rfl
  | succ n => rw [mergeAll_succ, h]

lemma mergeFirst_length {l merged : List α} {r : ℕ} (h : mergeFirst rule r l = some merged) :
    merged.length + 1 = l.length := by
  induction l generalizing merged with
  | nil => exact nomatch h
  | cons a l ih =>
    cases l with
    | nil => exact nomatch h
    | cons b l =>
      have hlater : ∀ {rest}, (mergeFirst rule r (b :: l)).map (a :: ·) = some rest →
          rest.length + 1 = (a :: b :: l).length := by
        intro rest hrest
        obtain ⟨inner, hinner, rfl⟩ := Option.map_eq_some_iff.mp hrest
        rw [List.length_cons, ih hinner, List.length_cons (a := a)]
      rw [mergeFirst_cons] at h
      cases hrule : rule a b with
      | none =>
        rw [hrule] at h
        exact hlater h
      | some pair =>
        obtain ⟨r', c⟩ := pair
        rw [hrule] at h
        dsimp only at h
        split_ifs at h
        · obtain rfl := Option.some.inj h
          rfl
        · exact hlater h

lemma mergeLowest_length {l merged : List α} (h : mergeLowest rule l = some merged) :
    merged.length + 1 = l.length := by
  obtain ⟨r, -, h⟩ := Option.bind_eq_some_iff.mp h
  exact mergeFirst_length h

lemma mergeLowest_mergeAll {n : ℕ} {l : List α} (hn : l.length ≤ n) :
    mergeLowest rule (mergeAll rule n l) = none := by
  induction n generalizing l with
  | zero =>
    rw [List.length_eq_zero_iff.mp (Nat.le_zero.mp hn)]
    rfl
  | succ n ih =>
    cases h : mergeLowest rule l with
    | none => rw [mergeAll_done h, h]
    | some merged =>
      have := mergeLowest_length h
      rw [mergeAll_step h]
      exact ih (by omega)

lemma mergeLowest_referenceMerge (l : List α) :
    mergeLowest rule (referenceMerge rule l) = none :=
  mergeLowest_mergeAll le_rfl

lemma mergeFirst_split {l merged : List α} {r : ℕ} (h : mergeFirst rule r l = some merged) :
    ∃ p a b s c, l = p ++ a :: b :: s ∧ rule a b = some (r, c) ∧ merged = p ++ c :: s := by
  induction l generalizing merged with
  | nil => exact nomatch h
  | cons a l ih =>
    cases l with
    | nil => exact nomatch h
    | cons b l =>
      have hlater : ∀ {rest}, (mergeFirst rule r (b :: l)).map (a :: ·) = some rest →
          ∃ p a' b' s c, a :: b :: l = p ++ a' :: b' :: s ∧ rule a' b' = some (r, c) ∧
            rest = p ++ c :: s := by
        intro rest hrest
        obtain ⟨inner, hinner, rfl⟩ := Option.map_eq_some_iff.mp hrest
        obtain ⟨p, a', b', s, c, hl, hrule, rfl⟩ := ih hinner
        exact ⟨a :: p, a', b', s, c, by rw [hl, List.cons_append], hrule, rfl⟩
      rw [mergeFirst_cons] at h
      cases hrule : rule a b with
      | none =>
        rw [hrule] at h
        exact hlater h
      | some pair =>
        obtain ⟨r', c⟩ := pair
        rw [hrule] at h
        dsimp only at h
        split_ifs at h with hrank
        · obtain rfl := Option.some.inj h
          exact ⟨[], a, b, l, c, rfl, hrank ▸ hrule, rfl⟩
        · exact hlater h

-- What every merge keeps holds of the result.
lemma referenceMerge_induction {motive : List α → Prop}
    (step : ∀ p a b s r c, rule a b = some (r, c) → motive (p ++ a :: b :: s) →
      motive (p ++ c :: s)) {l : List α} (h : motive l) : motive (referenceMerge rule l) := by
  have hall : ∀ n l, motive l → motive (mergeAll rule n l) := by
    intro n
    induction n with
    | zero => exact fun _ h => h
    | succ n ih =>
      intro l hl
      cases hm : mergeLowest rule l with
      | none => rwa [mergeAll_done hm]
      | some merged =>
        rw [mergeAll_step hm]
        obtain ⟨r, -, hfirst⟩ := Option.bind_eq_some_iff.mp hm
        obtain ⟨p, a, b, s, c, rfl, hrule, rfl⟩ := mergeFirst_split hfirst
        exact ih _ (step p a b s r c hrule hl)
  exact hall _ _ h

end Qwen3xOrin.Library
