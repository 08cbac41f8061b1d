import Mathlib.Tactic

/-! Items taken one after the other, each checked on its own and against those before it. -/

namespace Qwen3xOrin.Library

section Admission

variable {α σ : Type} {step : σ → α → Option σ} {summary : List α → σ} {fits : α → Prop}
  {apart : α → α → Prop}

-- The loop state is a summary of the items taken so far.
structure Admits (step : σ → α → Option σ) (summary : List α → σ) (fits : α → Prop)
    (apart : α → α → Prop) : Prop where
  accepted : ∀ {taken a s}, step (summary taken) a = some s →
    s = summary (taken ++ [a]) ∧ fits a ∧ ∀ b ∈ taken, apart b a

lemma Admits.foldlM (h : Admits step summary fits apart) {items taken : List α} {s : σ}
    (hrun : items.foldlM step (summary taken) = some s) :
    s = summary (taken ++ items) ∧ (∀ a ∈ items, fits a) ∧
      (∀ b ∈ taken, ∀ a ∈ items, apart b a) ∧ items.Pairwise apart := by
  induction items generalizing taken with
  | nil =>
    obtain rfl := Option.some.inj hrun
    simp
  | cons a items ih =>
    rw [List.foldlM_cons] at hrun
    obtain ⟨next, hstep, hrest⟩ := Option.bind_eq_some_iff.mp hrun
    obtain ⟨rfl, hfits, hapart⟩ := h.accepted hstep
    obtain ⟨hs, hall, hold, hpairs⟩ := ih hrest
    rw [List.append_assoc, List.singleton_append] at hs
    refine ⟨hs, List.forall_mem_cons.mpr ⟨hfits, hall⟩, ?_, ?_⟩
    · intro b hb c hc
      obtain rfl | hc := List.mem_cons.mp hc
      · exact hapart b hb
      · exact hold b (List.mem_append_left _ hb) c hc
    · exact List.pairwise_cons.mpr ⟨fun b hb => hold a (by simp) b hb, hpairs⟩

lemma Admits.run (h : Admits step summary fits apart) {items : List α} {s : σ}
    (hrun : items.foldlM step (summary []) = some s) :
    s = summary items ∧ (∀ a ∈ items, fits a) ∧ items.Pairwise apart := by
  obtain ⟨hs, hall, -, hpairs⟩ := h.foldlM hrun
  exact ⟨by simpa using hs, hall, hpairs⟩

end Admission

section Filling

variable {α : Type} {start : α → ℕ} {items : List α} {base size : ℕ}

def Clear (start : α → ℕ) (size : ℕ) (a b : α) : Prop :=
  start a + size ≤ start b ∨ start b + size ≤ start a

def cells (start : α → ℕ) (size : ℕ) : List α → Finset ℕ
  | [] => ∅
  | a :: items => Finset.Ico (start a) (start a + size) ∪ cells start size items

lemma mem_cells {place : ℕ} :
    place ∈ cells start size items ↔ ∃ a ∈ items, start a ≤ place ∧ place < start a + size := by
  induction items with
  | nil => simp [cells]
  | cons a items ih => simp [cells, ih]

lemma card_cells (h : items.Pairwise (Clear start size)) :
    (cells start size items).card = items.length * size := by
  induction items with
  | nil => simp [cells]
  | cons a items ih =>
    obtain ⟨hfirst, hrest⟩ := List.pairwise_cons.mp h
    have hdisjoint : Disjoint (Finset.Ico (start a) (start a + size)) (cells start size items) := by
      rw [Finset.disjoint_left]
      intro place hplace hmem
      obtain ⟨b, hb, hle, hlt⟩ := mem_cells.1 hmem
      rw [Finset.mem_Ico] at hplace
      have := hfirst b hb
      unfold Clear at this
      omega
    rw [cells, Finset.card_union_of_disjoint hdisjoint, ih hrest, Nat.card_Ico, List.length_cons]
    ring_nf
    omega

-- Pieces of one size that are apart in an arena with room for just that many fill it.
lemma filled (hinside : ∀ a ∈ items, base ≤ start a ∧ start a + size ≤ base + items.length * size)
    (hclear : items.Pairwise (Clear start size)) {place : ℕ} (hplace : base ≤ place)
    (hend : place < base + items.length * size) :
    ∃ a ∈ items, start a ≤ place ∧ place < start a + size := by
  have hsubset : cells start size items ⊆ Finset.Ico base (base + items.length * size) := by
    intro place hplace
    obtain ⟨a, ha, hle, hlt⟩ := mem_cells.1 hplace
    obtain ⟨hbase, hstop⟩ := hinside a ha
    exact Finset.mem_Ico.mpr ⟨hbase.trans hle, hlt.trans_le hstop⟩
  have hcard : (Finset.Ico base (base + items.length * size)).card ≤
      (cells start size items).card := by
    rw [card_cells hclear, Nat.card_Ico, Nat.add_sub_cancel_left]
  have hall := Finset.eq_of_subset_of_card_le hsubset hcard
  exact mem_cells.1 (hall ▸ Finset.mem_Ico.mpr ⟨hplace, hend⟩)

end Filling

section Keyed

variable {α β ι : Type} [DecidableEq ι] {key : α → ι} {items : List α}

def own (key : α → ι) (items : List α) (i : ι) : Option α :=
  items.find? fun a => decide (key a = i)

lemma own_some {i : ι} {a : α} (h : own key items i = some a) : a ∈ items ∧ key a = i := by
  refine ⟨List.mem_of_find?_eq_some h, ?_⟩
  have hkey := List.find?_some h
  exact of_decide_eq_true hkey

lemma own_eq (hkeys : (items.map key).Nodup) {a : α} (ha : a ∈ items) :
    own key items (key a) = some a := by
  induction items with
  | nil => cases ha
  | cons b items ih =>
    rw [List.map_cons, List.nodup_cons] at hkeys
    obtain rfl | ha := List.mem_cons.mp ha
    · exact List.find?_cons_of_pos (by simp)
    · have hne : key b ≠ key a := fun heq => hkeys.1 (heq ▸ List.mem_map_of_mem ha)
      rw [own, List.find?_cons_of_neg (by simpa using hne)]
      exact ih hkeys.2 ha

lemma own_none {i : ι} (h : i ∉ items.map key) : own key items i = none := by
  refine List.find?_eq_none.mpr fun a ha heq => h ?_
  rw [← of_decide_eq_true heq]
  exact List.mem_map_of_mem ha

-- A loop that changes the entry of each item's key changes every entry once.
lemma foldl_own (hkeys : (items.map key).Nodup) (f : α → β → β) (i : ι) (b : β) :
    items.foldl (fun b a => if i = key a then f a b else b) b =
      (own key items i).elim b fun a => f a b := by
  induction items generalizing b with
  | nil => rfl
  | cons a items ih =>
    rw [List.map_cons, List.nodup_cons] at hkeys
    rw [List.foldl_cons, ih hkeys.2]
    by_cases hi : i = key a
    · have hlater : own key items i = none := own_none (hi ▸ hkeys.1)
      have hnow : own key (a :: items) i = some a := List.find?_cons_of_pos (by simp [hi])
      rw [if_pos hi, hlater, hnow]
      rfl
    · have hskip : own key (a :: items) i = own key items i :=
        List.find?_cons_of_neg (by simpa using fun h => hi h.symm)
      rw [if_neg hi, hskip]

end Keyed

end Qwen3xOrin.Library
