import Mathlib.Tactic

/-! Rules for the loops of a program that may fail: an invariant that each turn keeps shows that the
whole loop succeeds. Nested loops visit each item once when the loop variables can be read back
from it. -/

namespace Qwen3xOrin.Library

variable {σ α β : Type}

lemma foldlM_range_some {f : σ → ℕ → Option σ} {inv : ℕ → σ → Prop} {n : ℕ} {s : σ}
    (hs : inv 0 s) (hstep : ∀ i < n, ∀ s, inv i s → ∃ s', f s i = some s' ∧ inv (i + 1) s') :
    ∃ s', (List.range n).foldlM f s = some s' ∧ inv n s' := by
  induction n with
  | zero => exact ⟨s, rfl, hs⟩
  | succ n ih =>
    obtain ⟨s₁, hrun₁, hs₁⟩ := ih fun i hi => hstep i (Nat.lt_succ_of_lt hi)
    obtain ⟨s', hrun, hs'⟩ := hstep n (Nat.lt_succ_self n) s₁ hs₁
    refine ⟨s', ?_, hs'⟩
    rw [List.range_succ, List.foldlM_append, hrun₁, Option.bind_eq_bind, Option.bind_some,
      List.foldlM_cons, hrun]
    rfl

-- A loop that fills the entries of a table, one in each turn.
lemma foldlM_table_some {f : α → σ → Option (β × σ)} {inv : σ → Prop} {entry : α → β → Prop}
    [DecidableEq α] {l : List α} {table : α → β} {s : σ} (hl : l.Nodup) (hs : inv s)
    (hstep : ∀ a ∈ l, ∀ s, inv s → ∃ b s', f a s = some (b, s') ∧ entry a b ∧ inv s') :
    ∃ table' s', l.foldlM (fun (s : (α → β) × σ) a => do
        let (b, s') ← f a s.2
        pure (Function.update s.1 a b, s')) (table, s) = some (table', s') ∧
      (∀ a ∈ l, entry a (table' a)) ∧ (∀ a ∉ l, table' a = table a) ∧ inv s' := by
  induction l generalizing table s with
  | nil => exact ⟨table, s, rfl, fun _ h => absurd h List.not_mem_nil, fun _ _ => rfl, hs⟩
  | cons a l ih =>
    obtain ⟨hfresh, hl⟩ := List.nodup_cons.mp hl
    obtain ⟨b, s₁, hrun₁, hb, hs₁⟩ := hstep a List.mem_cons_self s hs
    obtain ⟨table', s', hrun, hentries, hkept, hs'⟩ := @ih (Function.update table a b) s₁ hl hs₁
      fun c hc => hstep c (List.mem_cons_of_mem a hc)
    refine ⟨table', s', ?_, fun c hc => ?_, fun c hc => ?_, hs'⟩
    · rw [List.foldlM_cons, hrun₁]
      exact hrun
    · obtain rfl | hc := List.mem_cons.mp hc
      · rw [hkept c hfresh, Function.update_self]
        exact hb
      · exact hentries c hc
    · obtain ⟨hne, hc⟩ := not_or.mp (mt List.mem_cons.mpr hc)
      rw [hkept c hc, Function.update_of_ne hne]

-- A loop that appends what each turn produces, with a state that every turn hands on.
lemma foldlM_append_some [DecidableEq α] {f : α → σ → Option (List β × σ)} {inv : σ → Prop}
    {produced : α → List β → Prop} {l : List α} {s : σ} (hl : l.Nodup) (hs : inv s)
    (hstep : ∀ a ∈ l, ∀ s, inv s → ∃ own s', f a s = some (own, s') ∧ produced a own ∧ inv s')
    (before : List β) :
    ∃ (own : α → List β) (s' : σ), l.foldlM (fun (s : List β × σ) a => do
        let (own, s') ← f a s.2
        pure (s.1 ++ own, s')) (before, s) = some (before ++ l.flatMap own, s') ∧
      (∀ a ∈ l, produced a (own a)) ∧ inv s' := by
  induction l generalizing before s with
  | nil =>
    refine ⟨fun _ => [], s, ?_, fun _ h => absurd h List.not_mem_nil, hs⟩
    rw [List.flatMap_nil, List.append_nil]
    rfl
  | cons a l ih =>
    obtain ⟨hfresh, hl⟩ := List.nodup_cons.mp hl
    obtain ⟨first, s₁, hrun₁, hfirst, hs₁⟩ := hstep a List.mem_cons_self s hs
    obtain ⟨own, s', hrun, hown, hs'⟩ := ih hl hs₁
      (fun c hc => hstep c (List.mem_cons_of_mem a hc)) (before ++ first)
    have hother (c : α) (hc : c ∈ l) : Function.update own a first c = own c := by
      refine Function.update_of_ne ?_ _ _
      rintro rfl
      exact hfresh hc
    refine ⟨Function.update own a first, s', ?_, fun c hc => ?_, hs'⟩
    · rw [List.foldlM_cons, hrun₁, List.flatMap_cons, Function.update_self,
        List.flatMap_congr hother, ← List.append_assoc]
      exact hrun
    · obtain rfl | hc := List.mem_cons.mp hc
      · rw [Function.update_self]
        exact hfirst
      · rw [hother c hc]
        exact hown c hc

lemma foldlM_append_each {f : α → Option (List β)} {own : α → List β} {l : List α}
    (h : ∀ a ∈ l, f a = some (own a)) (before : List β) :
    l.foldlM (fun before a => do
      let own ← f a
      pure (before ++ own)) before = some (before ++ l.flatMap own) := by
  induction l generalizing before with
  | nil => rw [List.flatMap_nil, List.append_nil]; rfl
  | cons a l ih =>
    rw [List.foldlM_cons, h a List.mem_cons_self]
    refine (ih (fun b hb => h b (List.mem_cons_of_mem a hb)) (before ++ own a)).trans ?_
    rw [List.flatMap_cons, List.append_assoc]

end Qwen3xOrin.Library

namespace Qwen3xOrin.Library

variable {α β : Type}

lemma nodup_flatMap_of_key {l : List α} {f : α → List β} {key : β → α} (hl : l.Nodup)
    (hf : ∀ a ∈ l, (f a).Nodup) (hkey : ∀ a ∈ l, ∀ x ∈ f a, key x = a) : (l.flatMap f).Nodup := by
  refine List.nodup_flatMap.mpr ⟨hf, hl.imp_of_mem fun ha hb hne x hxa hxb => ?_⟩
  exact hne ((hkey _ ha x hxa).symm.trans (hkey _ hb x hxb))

lemma nodup_filterMap_of_key {l : List α} {f : α → Option β} {key : β → α} (hl : l.Nodup)
    (hkey : ∀ a ∈ l, ∀ x, f a = some x → key x = a) : (l.filterMap f).Nodup := by
  induction l with
  | nil => exact List.nodup_nil
  | cons a l ih =>
    obtain ⟨hfresh, hl⟩ := List.nodup_cons.mp hl
    have htail := ih hl fun b hb => hkey b (List.mem_cons_of_mem a hb)
    cases hf : f a with
    | none => rwa [List.filterMap_cons_none hf]
    | some x =>
      rw [List.filterMap_cons_some hf]
      refine List.nodup_cons.mpr ⟨fun hx => ?_, htail⟩
      obtain ⟨b, hb, hbx⟩ := List.mem_filterMap.mp hx
      refine hfresh ?_
      rwa [← hkey a List.mem_cons_self x hf, hkey b (List.mem_cons_of_mem a hb) x hbx]

lemma perm_range {l : List ℕ} {n : ℕ} (hl : l.Nodup) (h : ∀ i, i ∈ l ↔ i < n) :
    l.Perm (List.range n) :=
  (List.perm_ext_iff_of_nodup hl List.nodup_range).mpr fun i => by rw [h, List.mem_range]

end Qwen3xOrin.Library

/-! Two-digit numbers in a mixed base, and rows of eight-element chunks permuted within a row by the
exclusive or with the row. -/

namespace Qwen3xOrin.Library.Radix

variable {a b c d m n : ℕ}

lemma div_digits (hb : b < n) : (a * n + b) / n = a := by
  rw [Nat.mul_comm, Nat.mul_add_div (by omega), Nat.div_eq_of_lt hb, Nat.add_zero]

lemma mod_digits (hb : b < n) : (a * n + b) % n = b := by
  rw [Nat.mul_comm, Nat.mul_add_mod, Nat.mod_eq_of_lt hb]

lemma digits_lt (ha : a < m) (hb : b < n) : a * n + b < m * n := by
  calc a * n + b < a * n + n := by omega
    _ = (a + 1) * n := by ring
    _ ≤ m * n := Nat.mul_le_mul_right n ha

lemma digits_inj (hb : b < n) (hd : d < n) (h : a * n + b = c * n + d) : a = c ∧ b = d := by
  have hdiv := congrArg (· / n) h
  have hmod := congrArg (· % n) h
  simp only [div_digits hb, div_digits hd, mod_digits hb, mod_digits hd] at hdiv hmod
  exact ⟨hdiv, hmod⟩

lemma digits_eq (a n : ℕ) : a / n * n + a % n = a := Nat.div_add_mod' a n

end Qwen3xOrin.Library.Radix

namespace Qwen3xOrin.Library

lemma chunk_xor {c e x : ℕ} (he : e < 8) : (c * 8 + e) ^^^ (x * 8) = (c ^^^ x) * 8 + e := by
  have hdiv : ((c * 8 + e) ^^^ (x * 8)) / 2 ^ 3 = c ^^^ x := by
    rw [Nat.xor_div_two_pow, show (c * 8 + e) / 2 ^ 3 = c by omega,
      show x * 8 / 2 ^ 3 = x by omega]
  have hmod : ((c * 8 + e) ^^^ (x * 8)) % 2 ^ 3 = e := by
    rw [Nat.xor_mod_two_pow, show (c * 8 + e) % 2 ^ 3 = e by omega,
      show x * 8 % 2 ^ 3 = 0 by omega, Nat.xor_zero]
  omega

lemma xor_twice (x y : ℕ) : (x ^^^ y) ^^^ y = x := by
  rw [Nat.xor_assoc, Nat.xor_self, Nat.xor_zero]

-- Elements of one chunk stay next to each other.
lemma xor_add {col e x : ℕ} (he : col % 8 + e < 8) :
    (col + e) ^^^ (x * 8) = (col ^^^ (x * 8)) + e := by
  have hcol : col = col / 8 * 8 + col % 8 := by omega
  rw [hcol, Nat.add_assoc, chunk_xor he, chunk_xor (by omega), Nat.add_assoc]

end Qwen3xOrin.Library
