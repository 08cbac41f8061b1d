import Mathlib.Data.List.Sort
import Mathlib.Data.Multiset.Basic
import Mathlib.Tactic

/-! Sets kept as ascending lists. -/

namespace Qwen3xOrin.Library.OrderedSet

variable {α : Type} [LinearOrder α] {a b : α} {l : List α}

def insert (a : α) : List α → List α
  | [] => [a]
  | b :: l => if a < b then a :: b :: l else if a = b then b :: l else b :: insert a l

lemma insert_cons (a b : α) (l : List α) :
    insert a (b :: l) = if a < b then a :: b :: l else if a = b then b :: l else b :: insert a l :=
  rfl

lemma mem_insert : b ∈ insert a l ↔ b = a ∨ b ∈ l := by
  induction l with
  | nil => simp [insert]
  | cons c l ih =>
    rw [insert_cons]
    split_ifs with hlt heq
    · exact List.mem_cons
    · simp [heq]
    · rw [List.mem_cons, List.mem_cons, ih, or_left_comm]

lemma insert_pairwise (h : l.Pairwise (· < ·)) : (insert a l).Pairwise (· < ·) := by
  induction l with
  | nil => exact List.pairwise_singleton _ _
  | cons c l ih =>
    obtain ⟨hc, hl⟩ := List.pairwise_cons.mp h
    rw [insert_cons]
    split_ifs with hlt heq
    · refine List.pairwise_cons.mpr ⟨fun b hb => ?_, h⟩
      obtain rfl | hb := List.mem_cons.mp hb
      · exact hlt
      · exact hlt.trans (hc b hb)
    · exact h
    · refine List.pairwise_cons.mpr ⟨fun b hb => ?_, ih hl⟩
      obtain rfl | hb := mem_insert.1 hb
      · exact lt_of_le_of_ne (not_lt.mp hlt) (Ne.symm heq)
      · exact hc b hb

lemma length_le_insert (a : α) (l : List α) : l.length ≤ (insert a l).length := by
  induction l with
  | nil => exact Nat.zero_le _
  | cons c l ih =>
    rw [insert_cons]
    split_ifs with hlt heq
    · exact Nat.le_succ _
    · exact le_rfl
    · exact Nat.succ_le_succ ih

def insertAll (as : List α) (l : List α) : List α := as.foldl (fun l a => insert a l) l

lemma mem_insertAll {as : List α} : b ∈ insertAll as l ↔ b ∈ as ∨ b ∈ l := by
  induction as generalizing l with
  | nil => simp [insertAll]
  | cons a as ih =>
    have hstep : insertAll (a :: as) l = insertAll as (insert a l) := rfl
    rw [hstep, ih, mem_insert, List.mem_cons, or_left_comm, or_assoc]

lemma insertAll_pairwise {as : List α} (h : l.Pairwise (· < ·)) :
    (insertAll as l).Pairwise (· < ·) := by
  induction as generalizing l with
  | nil => exact h
  | cons a as ih => exact ih (insert_pairwise h)

lemma length_le_insertAll (as l : List α) : l.length ≤ (insertAll as l).length := by
  induction as generalizing l with
  | nil => exact le_rfl
  | cons a as ih => exact (length_le_insert a l).trans (ih _)

-- An ascending list is given by its members.
lemma eq_insertAll_iff {as : List α} :
    l = insertAll as [] ↔ l.Pairwise (· < ·) ∧ ∀ a, a ∈ l ↔ a ∈ as := by
  constructor
  · rintro rfl
    exact ⟨insertAll_pairwise List.Pairwise.nil, fun a => by simp [mem_insertAll]⟩
  · rintro ⟨hsorted, hmem⟩
    refine hsorted.sortedLT.eq_of_mem_iff (insertAll_pairwise List.Pairwise.nil).sortedLT ?_
    intro a
    rw [hmem, mem_insertAll]
    simp

end Qwen3xOrin.Library.OrderedSet

/-! A priority queue up to the order in which it yields equally urgent entries: popping removes
an entry that no other entry precedes. -/

namespace Qwen3xOrin.Library

structure PriorityQueue (α : Type) (later : α → α → Bool) where
  State : Type
  empty : State
  push : State → α → State
  pop : State → Option (α × State)
  contents : State → Multiset α
  contents_empty : contents empty = 0
  contents_push : ∀ q a, contents (push q a) = a ::ₘ contents q
  contents_none : ∀ q, pop q = none → contents q = 0
  contents_pop : ∀ q a q', pop q = some (a, q') → contents q = a ::ₘ contents q'
  first : ∀ q a q', pop q = some (a, q') → ∀ b ∈ contents q', later a b = false

namespace PriorityQueue

variable {α : Type} {later : α → α → Bool}

-- The entry of a list that no entry of the list precedes, with the others.
def select (later : α → α → Bool) : List α → Option (α × List α)
  | [] => none
  | a :: l =>
    match select later l with
    | none => some (a, [])
    | some (b, rest) => if later a b then some (b, a :: rest) else some (a, b :: rest)

lemma select_cons (a : α) (l : List α) :
    select later (a :: l) =
      match select later l with
      | none => some (a, [])
      | some (b, rest) => if later a b then some (b, a :: rest) else some (a, b :: rest) := rfl

lemma select_none {l : List α} (h : select later l = none) : l = [] := by
  cases l with
  | nil => rfl
  | cons a l =>
    rw [select_cons] at h
    rcases hselect : select later l with _ | ⟨b, rest⟩
    · rw [hselect] at h
      exact nomatch h
    · rw [hselect] at h
      dsimp only at h
      split_ifs at h

lemma select_perm {l rest : List α} {a : α} (h : select later l = some (a, rest)) :
    l.Perm (a :: rest) := by
  induction l generalizing a rest with
  | nil => exact nomatch h
  | cons b l ih =>
    rw [select_cons] at h
    rcases hselect : select later l with _ | ⟨c, others⟩
    · rw [hselect] at h
      obtain ⟨rfl, rfl⟩ := Prod.mk.inj (Option.some.inj h)
      rw [select_none hselect]
    · rw [hselect] at h
      dsimp only at h
      split_ifs at h
      · obtain ⟨rfl, rfl⟩ := Prod.mk.inj (Option.some.inj h)
        exact ((ih hselect).cons b).trans (List.Perm.swap _ _ _)
      · obtain ⟨rfl, rfl⟩ := Prod.mk.inj (Option.some.inj h)
        exact (ih hselect).cons b

lemma select_first (htrans : ∀ a b c, later a b = false → later b c = false → later a c = false)
    (hasymm : ∀ a b, later a b = true → later b a = false) {l rest : List α} {a : α}
    (h : select later l = some (a, rest)) : ∀ b ∈ rest, later a b = false := by
  induction l generalizing a rest with
  | nil => exact nomatch h
  | cons b l ih =>
    rw [select_cons] at h
    rcases hselect : select later l with _ | ⟨c, others⟩
    · rw [hselect] at h
      obtain ⟨rfl, rfl⟩ := Prod.mk.inj (Option.some.inj h)
      exact fun b hb => nomatch hb
    · rw [hselect] at h
      have hothers := ih hselect
      dsimp only at h
      split_ifs at h with hlater
      · obtain ⟨rfl, rfl⟩ := Prod.mk.inj (Option.some.inj h)
        intro d hd
        obtain rfl | hd := List.mem_cons.mp hd
        · exact hasymm _ _ hlater
        · exact hothers d hd
      · obtain ⟨rfl, rfl⟩ := Prod.mk.inj (Option.some.inj h)
        rw [Bool.not_eq_true] at hlater
        intro d hd
        obtain rfl | hd := List.mem_cons.mp hd
        · exact hlater
        · exact htrans _ _ _ hlater (hothers d hd)

-- A queue that keeps its entries in a list.
def ofList (later : α → α → Bool)
    (htrans : ∀ a b c, later a b = false → later b c = false → later a c = false)
    (hasymm : ∀ a b, later a b = true → later b a = false) : PriorityQueue α later where
  State := List α
  empty := []
  push l a := a :: l
  pop := select later
  contents l := l
  contents_empty := rfl
  contents_push _ _ := rfl
  contents_none l h := by rw [select_none h]; rfl
  contents_pop l a rest h := Multiset.coe_eq_coe.mpr (select_perm h)
  first l a rest h := select_first htrans hasymm h

end PriorityQueue

end Qwen3xOrin.Library
