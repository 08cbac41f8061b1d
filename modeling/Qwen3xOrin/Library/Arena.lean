import Mathlib.Tactic

/-! Spans of an arena placed one behind the other, each at an aligned offset. For half-open ranges in
a sorted list, comparing neighbours is enough to keep all of them apart. -/

namespace Qwen3xOrin.Library.Arena

variable {α : Type} (offset size : α → ℕ) (alignment : ℕ)

def Placed : ℕ → List α → ℕ → Prop
  | start, [], stop => start ≤ stop
  | start, a :: as, stop =>
    start ≤ offset a ∧ alignment ∣ offset a ∧ 0 < size a ∧ Placed (offset a + size a) as stop

def Disjoint (a b : α) : Prop :=
  offset a + size a ≤ offset b ∨ offset b + size b ≤ offset a

variable {offset size alignment} {start middle stop : ℕ} {l l' : List α}

lemma Placed.le (h : Placed offset size alignment start l stop) : start ≤ stop := by
  induction l generalizing start with
  | nil => exact h
  | cons a l ih =>
    obtain ⟨hstart, -, -, hrest⟩ := h
    exact hstart.trans ((Nat.le_add_right _ _).trans (ih hrest))

lemma Placed.append (h : Placed offset size alignment start l middle)
    (h' : Placed offset size alignment middle l' stop) :
    Placed offset size alignment start (l ++ l') stop := by
  induction l generalizing start with
  | nil =>
    cases l' with
    | nil => exact h.trans h'
    | cons a l' => exact ⟨h.trans h'.1, h'.2⟩
  | cons a l ih => exact ⟨h.1, h.2.1, h.2.2.1, ih h.2.2.2⟩

lemma Placed.mono {start' stop' : ℕ} (h : Placed offset size alignment start l stop)
    (hstart : start' ≤ start) (hstop : stop ≤ stop') :
    Placed offset size alignment start' l stop' := by
  induction l generalizing start start' with
  | nil => exact hstart.trans (h.trans hstop)
  | cons a l ih => exact ⟨hstart.trans h.1, h.2.1, h.2.2.1, ih h.2.2.2 le_rfl⟩

lemma Placed.mem (h : Placed offset size alignment start l stop) {a : α} (ha : a ∈ l) :
    alignment ∣ offset a ∧ 0 < size a ∧ start ≤ offset a ∧ offset a + size a ≤ stop := by
  induction l generalizing start with
  | nil => cases ha
  | cons b l ih =>
    obtain ⟨hstart, haligned, hsize, hrest⟩ := h
    obtain rfl | ha := List.mem_cons.mp ha
    · exact ⟨haligned, hsize, hstart, hrest.le⟩
    · obtain ⟨haligned', hsize', hstart', hstop'⟩ := ih hrest ha
      exact ⟨haligned', hsize', by omega, hstop'⟩

lemma Placed.pairwise (h : Placed offset size alignment start l stop) :
    l.Pairwise (Disjoint offset size) := by
  induction l generalizing start with
  | nil => exact List.Pairwise.nil
  | cons a l ih =>
    obtain ⟨-, -, -, hrest⟩ := h
    exact List.pairwise_cons.mpr ⟨fun b hb => Or.inl (hrest.mem hb).2.2.1, ih hrest⟩

-- Rows of a table that are placed back to back.
lemma Placed.rows {rows : ℕ → List α} {base stride : ℕ}
    (h : ∀ i, Placed offset size alignment (base + i * stride) (rows i)
      (base + (i + 1) * stride)) (n : ℕ) :
    Placed offset size alignment base ((List.range n).flatMap rows) (base + n * stride) := by
  induction n with
  | zero => simp [Placed]
  | succ n ih =>
    rw [List.range_succ, List.flatMap_append]
    refine ih.append ?_
    rw [List.flatMap_singleton]
    exact h n

-- A table of equal cells; tables that follow one another keep their cells apart.
structure Table where
  base : ℕ
  stride : ℕ
  count : ℕ

namespace Table

def limit (t : Table) : ℕ := t.base + t.count * t.stride

def IsCell (t : Table) (index start length : ℕ) : Prop :=
  index < t.count ∧ start = t.base + index * t.stride ∧ length = t.stride

variable {t t' : Table} {i j start length start' length' : ℕ}

lemma IsCell.base_le (h : t.IsCell i start length) : t.base ≤ start := by
  rw [h.2.1]
  exact Nat.le_add_right _ _

lemma IsCell.le_stop (h : t.IsCell i start length) : start + length ≤ t.limit := by
  obtain ⟨hindex, rfl, rfl⟩ := h
  have hcell : (i + 1) * t.stride ≤ t.count * t.stride := Nat.mul_le_mul_right _ hindex
  rw [Nat.succ_mul] at hcell
  rw [limit]
  omega

lemma IsCell.before (h : t.IsCell i start length) (h' : t'.IsCell j start' length')
    (htables : t.limit ≤ t'.base) : start + length ≤ start' :=
  h.le_stop.trans (htables.trans h'.base_le)

lemma IsCell.apart (h : t.IsCell i start length) (h' : t.IsCell j start' length')
    (hne : i ≠ j) : start + length ≤ start' ∨ start' + length' ≤ start := by
  obtain ⟨-, rfl, rfl⟩ := h
  obtain ⟨-, rfl, rfl⟩ := h'
  obtain hlt | hlt := Nat.lt_or_gt_of_ne hne
  · have hcell := Nat.mul_le_mul_right t.stride hlt
    rw [Nat.succ_mul] at hcell
    omega
  · have hcell := Nat.mul_le_mul_right t.stride hlt
    rw [Nat.succ_mul] at hcell
    omega

end Table

end Qwen3xOrin.Library.Arena

namespace Qwen3xOrin.Library.Ranges

variable {α : Type} (lo hi : α → ℕ)

def Before (a b : α) : Prop := hi a ≤ lo b

def Apart (a b : α) : Prop := Before lo hi a b ∨ Before lo hi b a

variable {lo hi}

lemma Apart.symm {a b : α} (h : Apart lo hi a b) : Apart lo hi b a := Or.symm h

lemma pairwise_of_isChain {l : List α} (hnonempty : ∀ a ∈ l, lo a ≤ hi a)
    (h : l.IsChain (Before lo hi)) : l.Pairwise (Before lo hi) := by
  induction l with
  | nil => exact List.Pairwise.nil
  | cons a l ih =>
    have hrest := ih (fun b hb => hnonempty b (List.mem_cons_of_mem a hb)) h.tail
    refine List.pairwise_cons.mpr ⟨?_, hrest⟩
    intro b hb
    cases l with
    | nil => cases hb
    | cons c l =>
      have hac : hi a ≤ lo c := by
        cases h with
        | cons_cons hac _ => exact hac
      obtain rfl | hb' := List.mem_cons.mp hb
      · exact hac
      · have hcb : hi c ≤ lo b := (List.pairwise_cons.mp hrest).1 b hb'
        have hc := hnonempty c (by simp)
        exact hac.trans (hc.trans hcb)

lemma isChain_iff_pairwise {l : List α} (hnonempty : ∀ a ∈ l, lo a ≤ hi a) :
    l.IsChain (Before lo hi) ↔ l.Pairwise (Before lo hi) :=
  ⟨pairwise_of_isChain hnonempty, List.Pairwise.isChain⟩

-- In a list sorted by its lower ends, nonempty ranges that are apart come one after the other.
lemma pairwise_before_iff {l : List α} (hsorted : l.Pairwise fun a b => lo a ≤ lo b)
    (hnonempty : ∀ a ∈ l, lo a < hi a) :
    l.Pairwise (Before lo hi) ↔ l.Pairwise (Apart lo hi) := by
  constructor
  · exact fun h => h.imp Or.inl
  · intro h
    refine (hsorted.and h).imp_of_mem ?_
    rintro a b ha hb ⟨hle, hab | hba⟩
    · exact hab
    · have hb' := hnonempty b hb
      unfold Before at hba
      omega

lemma pairwise_apart_perm {l l' : List α} (h : l.Perm l') :
    l.Pairwise (Apart lo hi) ↔ l'.Pairwise (Apart lo hi) :=
  h.pairwise_iff Apart.symm

section Tiles

variable {l l' : List α} {start stop : ℕ}

-- Ranges that follow one another without a gap, from `start` to `stop`.
def Tiles (lo hi : α → ℕ) : ℕ → List α → ℕ → Prop
  | start, [], stop => start = stop
  | start, a :: l, stop => lo a = start ∧ Tiles lo hi (hi a) l stop

-- An empty range is apart from the others when it lies inside none of them.
structure Partitions (lo hi : α → ℕ) (start stop : ℕ) (l : List α) : Prop where
  ranges : ∀ a ∈ l, start ≤ lo a ∧ lo a ≤ hi a ∧ hi a ≤ stop
  apart : l.Pairwise (Apart lo hi)
  covered : ∀ x, start ≤ x → x < stop → ∃ a ∈ l, lo a ≤ x ∧ x < hi a

lemma Partitions.perm (h : Partitions lo hi start stop l) (hperm : l.Perm l') :
    Partitions lo hi start stop l' where
  ranges a ha := h.ranges a (hperm.mem_iff.mpr ha)
  apart := (pairwise_apart_perm hperm).mp h.apart
  covered x hstart hstop := by
    obtain ⟨a, ha, hx⟩ := h.covered x hstart hstop
    exact ⟨a, hperm.mem_iff.mp ha, hx⟩

lemma Tiles.le (hranges : ∀ a ∈ l, lo a ≤ hi a) (h : Tiles lo hi start l stop) :
    start ≤ stop := by
  induction l generalizing start with
  | nil => exact h.le
  | cons a l ih =>
    have hrest := ih (fun b hb => hranges b (List.mem_cons_of_mem a hb)) h.2
    have ha := hranges a List.mem_cons_self
    have hstart := h.1
    omega

lemma Tiles.partitions (hranges : ∀ a ∈ l, lo a ≤ hi a) (h : Tiles lo hi start l stop) :
    Partitions lo hi start stop l := by
  induction l generalizing start with
  | nil =>
    refine ⟨by simp, List.Pairwise.nil, fun x hstart hstop => ?_⟩
    have hends : start = stop := h
    omega
  | cons a l ih =>
    have hrest : ∀ b ∈ l, lo b ≤ hi b := fun b hb => hranges b (List.mem_cons_of_mem a hb)
    have ha := hranges a List.mem_cons_self
    obtain ⟨rfl, htiles⟩ := h
    have hstop := htiles.le hrest
    have hpart := ih hrest htiles
    refine ⟨?_, List.pairwise_cons.mpr ⟨fun b hb => Or.inl (hpart.ranges b hb).1, hpart.apart⟩, ?_⟩
    · intro b hb
      rcases List.mem_cons.mp hb with rfl | hb
      · exact ⟨le_rfl, ha, hstop⟩
      · have hb := hpart.ranges b hb
        exact ⟨ha.trans hb.1, hb.2⟩
    · intro x hstart hx
      by_cases hin : x < hi a
      · exact ⟨a, List.mem_cons_self, hstart, hin⟩
      · obtain ⟨b, hb, hcover⟩ := hpart.covered x (not_lt.mp hin) hx
        exact ⟨b, List.mem_cons_of_mem a hb, hcover⟩

def Sorted (lo hi : α → ℕ) (l : List α) : Prop :=
  l.Pairwise fun a b => lo a < lo b ∨ lo a = lo b ∧ hi a ≤ hi b

lemma Partitions.tiles (hsorted : Sorted lo hi l) (hle : start ≤ stop)
    (h : Partitions lo hi start stop l) : Tiles lo hi start l stop := by
  induction l generalizing start with
  | nil =>
    by_contra hne
    have hlt : start < stop := lt_of_le_of_ne hle hne
    obtain ⟨a, ha, -⟩ := h.covered start le_rfl hlt
    cases ha
  | cons a l ih =>
    obtain ⟨hfirst, hsorted⟩ := List.pairwise_cons.mp hsorted
    obtain ⟨hapart, hrest⟩ := List.pairwise_cons.mp h.apart
    have ha := h.ranges a List.mem_cons_self
    have hlo : lo a = start := by
      by_contra hne
      obtain ⟨b, hb, hcover⟩ := h.covered start le_rfl (by omega)
      rcases List.mem_cons.mp hb with rfl | hb
      · omega
      · have := hfirst b hb
        omega
    refine ⟨hlo, ih hsorted ha.2.2 ⟨?_, hrest, ?_⟩⟩
    · intro b hb
      have hb' := h.ranges b (List.mem_cons_of_mem a hb)
      refine ⟨?_, hb'.2⟩
      rcases hapart b hb with hbefore | hbefore
      · exact hbefore
      · have := hfirst b hb
        simp only [Before] at hbefore
        omega
    · intro x hstart hx
      obtain ⟨b, hb, hcover⟩ := h.covered x (by omega) hx
      rcases List.mem_cons.mp hb with rfl | hb
      · omega
      · exact ⟨b, hb, hcover⟩

lemma Partitions.map_iff {β : Type} {f : β → α} {l : List β} :
    Partitions lo hi start stop (l.map f) ↔ Partitions (lo ∘ f) (hi ∘ f) start stop l := by
  have hapart : (l.map f).Pairwise (Apart lo hi) ↔ l.Pairwise (Apart (lo ∘ f) (hi ∘ f)) :=
    List.pairwise_map
  constructor
  · rintro ⟨hranges, h, hcovered⟩
    exact ⟨by simpa using hranges, hapart.mp h, by simpa using hcovered⟩
  · rintro ⟨hranges, h, hcovered⟩
    exact ⟨by simpa using hranges, hapart.mpr h, by simpa using hcovered⟩

lemma Partitions.exists_tiles (hle : start ≤ stop) (h : Partitions lo hi start stop l) :
    ∃ l', l'.Perm l ∧ Tiles lo hi start l' stop := by
  let le := fun a b : α => decide (lo a < lo b ∨ lo a = lo b ∧ hi a ≤ hi b)
  have hperm : (l.mergeSort le).Perm l := List.mergeSort_perm l le
  have hsorted : Sorted lo hi (l.mergeSort le) := by
    refine (List.pairwise_mergeSort ?_ ?_ l).imp of_decide_eq_true
    · intro a b c hab hbc
      simp only [decide_eq_true_eq] at hab hbc ⊢
      omega
    · intro a b
      simp only [Bool.or_eq_true, decide_eq_true_eq]
      omega
  exact ⟨_, hperm, (h.perm hperm.symm).tiles hsorted hle⟩

-- The pieces of a list that the ranges cut out, put together again.
lemma Tiles.flatten {β : Type} {data : List β} (hranges : ∀ a ∈ l, lo a ≤ hi a)
    (h : Tiles lo hi start l stop) :
    (l.map fun a => (data.drop (lo a)).take (hi a - lo a)).flatten =
      (data.drop start).take (stop - start) := by
  induction l generalizing start with
  | nil =>
    obtain rfl : start = stop := h
    simp
  | cons a l ih =>
    have hrest : ∀ b ∈ l, lo b ≤ hi b := fun b hb => hranges b (List.mem_cons_of_mem a hb)
    have ha := hranges a List.mem_cons_self
    obtain ⟨rfl, htiles⟩ := h
    have hstop := htiles.le hrest
    rw [List.map_cons, List.flatten_cons, ih hrest htiles,
      show stop - lo a = hi a - lo a + (stop - hi a) by omega, List.take_add, List.drop_drop,
      Nat.add_sub_cancel' ha]

end Tiles

end Qwen3xOrin.Library.Ranges
