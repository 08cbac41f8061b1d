import Mathlib.Tactic

/-! Reading a location after a list of writes: when all the writes that touch it agree on the value,
their order does not matter. -/

namespace Qwen3xOrin.Library

variable {σ ω ι β : Type}

structure WriteLaw (write : σ → ω → σ) (read : σ → ι → β) (touches : ω → ι → Prop)
    (value : ω → ι → β) : Prop where
  hit : ∀ {s w i}, touches w i → read (write s w) i = value w i
  miss : ∀ {s w i}, ¬ touches w i → read (write s w) i = read s i

namespace WriteLaw

variable {write : σ → ω → σ} {read : σ → ι → β} {touches : ω → ι → Prop} {value : ω → ι → β}

lemma untouched (law : WriteLaw write read touches value) {writes : List ω} {i : ι}
    (h : ∀ w ∈ writes, ¬ touches w i) (s : σ) : read (writes.foldl write s) i = read s i := by
  induction writes generalizing s with
  | nil => rfl
  | cons w writes ih =>
    rw [List.foldl_cons, ih fun v hv => h v (List.mem_cons_of_mem w hv)]
    exact law.miss (h w List.mem_cons_self)

lemma agreed (law : WriteLaw write read touches value) {writes : List ω} {i : ι} {b : β}
    (hsome : ∃ w ∈ writes, touches w i) (hall : ∀ w ∈ writes, touches w i → value w i = b)
    (s : σ) : read (writes.foldl write s) i = b := by
  induction writes generalizing s with
  | nil =>
    obtain ⟨w, hw, -⟩ := hsome
    cases hw
  | cons w writes ih =>
    rw [List.foldl_cons]
    by_cases hlater : ∃ v ∈ writes, touches v i
    · exact ih hlater (fun v hv => hall v (List.mem_cons_of_mem w hv)) _
    · rw [law.untouched fun v hv ht => hlater ⟨v, hv, ht⟩]
      obtain ⟨v, hv, ht⟩ := hsome
      obtain rfl | hv := List.mem_cons.mp hv
      · rw [law.hit ht]
        exact hall v List.mem_cons_self ht
      · exact absurd ⟨v, hv, ht⟩ hlater

end WriteLaw

section Loops

variable {α : Type}

-- A loop whose body only writes is one list of writes.
lemma foldlM_writes {ε : Type} {f : σ → α → Except ε σ} {write : σ → ω → σ}
    {writes : α → List ω} {l : List α}
    (hstep : ∀ a ∈ l, ∀ s, f s a = .ok ((writes a).foldl write s)) (s : σ) :
    l.foldlM f s = .ok ((l.flatMap writes).foldl write s) := by
  induction l generalizing s with
  | nil => rfl
  | cons a l ih =>
    rw [List.foldlM_cons, hstep a List.mem_cons_self, List.flatMap_cons, List.foldl_append]
    exact ih (fun b hb => hstep b (List.mem_cons_of_mem a hb)) _

-- A loop that marks a slot for every item and fails on a slot that is marked already.
lemma foldlM_mark {f : σ × (ℕ → Bool) → α → Option (σ × (ℕ → Bool))} {slot : α → ℕ}
    {next : σ → α → σ} {l : List α} {s : σ} {visited : ℕ → Bool}
    (hstep : ∀ a ∈ l, ∀ s visited, visited (slot a) = false →
      f (s, visited) a = some (next s a, Function.update visited (slot a) true))
    (hunique : (l.map slot).Nodup) (hfresh : ∀ a ∈ l, visited (slot a) = false) :
    ∃ marked, l.foldlM f (s, visited) = some (l.foldl next s, marked) ∧
      ∀ i, marked i = true ↔ visited i = true ∨ ∃ a ∈ l, slot a = i := by
  induction l generalizing s visited with
  | nil => exact ⟨visited, rfl, by simp⟩
  | cons a l ih =>
    rw [List.map_cons, List.nodup_cons] at hunique
    have hfresh' : ∀ b ∈ l, Function.update visited (slot a) true (slot b) = false := by
      intro b hb
      rw [Function.update_of_ne, hfresh b (List.mem_cons_of_mem a hb)]
      intro heq
      exact hunique.1 (heq ▸ List.mem_map_of_mem hb)
    obtain ⟨marked, hfold, hmarked⟩ := @ih (next s a) (Function.update visited (slot a) true)
      (fun b hb => hstep b (List.mem_cons_of_mem a hb)) hunique.2 hfresh'
    refine ⟨marked, ?_, ?_⟩
    · rw [List.foldlM_cons, hstep a List.mem_cons_self s visited (hfresh a List.mem_cons_self)]
      exact hfold
    · intro i
      rw [hmarked]
      by_cases hi : i = slot a
      · simp [hi]
      · have hi' : slot a ≠ i := fun h => hi h.symm
        simp [Function.update_of_ne hi, hi']

-- A loop that updates each index of a table once, from the entry it finds there.
lemma foldlM_update {ι : Type} [DecidableEq ι] {f : ι → β → Option β} {l : List ι}
    (hunique : l.Nodup) {table table' : ι → β} :
    l.foldlM (fun table i => do
      let b ← f i (table i)
      pure (Function.update table i b)) table = some table' ↔
    (∀ i ∈ l, f i (table i) = some (table' i)) ∧ ∀ i ∉ l, table' i = table i := by
  induction l generalizing table with
  | nil => simp [funext_iff, eq_comm]
  | cons i l ih =>
    obtain ⟨hfresh, hunique⟩ := List.nodup_cons.mp hunique
    rw [List.foldlM_cons, List.forall_mem_cons]
    cases hf : f i (table i) with
    | none => simp
    | some b =>
      have hrest : ∀ j ∈ l, Function.update table i b j = table j := by
        rintro j hj
        have hne : j ≠ i := by
          rintro rfl
          exact hfresh hj
        exact Function.update_of_ne hne _ _
      simp only [Option.bind_eq_bind, Option.bind_some, Option.pure_def]
      refine (ih hunique).trans ⟨?_, ?_⟩
      · rintro ⟨hl, hout⟩
        have hi : table' i = b := by rw [hout i hfresh, Function.update_self]
        refine ⟨⟨by rw [hi], fun j hj => by rw [← hrest j hj, hl j hj]⟩, ?_⟩
        intro j hj
        obtain ⟨hne, hj⟩ := not_or.mp (mt List.mem_cons.mpr hj)
        rw [hout j hj, Function.update_of_ne hne]
      · rintro ⟨⟨hi, hl⟩, hout⟩
        refine ⟨fun j hj => by rw [hrest j hj, hl j hj], ?_⟩
        intro j hj
        by_cases hji : j = i
        · subst hji
          rw [Function.update_self]
          exact (Option.some.inj hi).symm
        · rw [Function.update_of_ne hji, hout j (mt List.mem_cons.mp (not_or.mpr ⟨hji, hj⟩))]

end Loops

end Qwen3xOrin.Library
