import Mathlib.Tactic

/-! Workers that run one after another, in any order, on one state: each owns some locations, and
none of them sees what another one owns. A pipeline instead has stages with a memory of their own,
and an item goes through all of them. -/

namespace Qwen3xOrin.Library

variable {σ W L V : Type}

structure Works (read : σ → L → V) (s : σ) (run : W → σ → σ) (owns sees : W → L → Prop)
    (result : L → V) (order : List W) : Prop where
  owned : ∀ w ∈ order, ∀ s', (∀ l, sees w l → read s' l = read s l) →
    ∀ l, owns w l → read (run w s') l = result l
  framed : ∀ w ∈ order, ∀ s', (∀ l, sees w l → read s' l = read s l) →
    ∀ l, ¬ owns w l → read (run w s') l = read s' l
  apart : ∀ v ∈ order, ∀ w ∈ order, v ≠ w → ∀ l, owns v l → ¬ sees w l
  nodup : order.Nodup

namespace Works

variable {read : σ → L → V} {s : σ} {run : W → σ → σ} {owns sees : W → L → Prop}
  {result : L → V} {order : List W}

lemma front {w : W} (h : Works read s run owns sees result (order ++ [w])) :
    Works read s run owns sees result order where
  owned v hv := h.owned v (List.mem_append_left _ hv)
  framed v hv := h.framed v (List.mem_append_left _ hv)
  apart v hv w hw := h.apart v (List.mem_append_left _ hv) w (List.mem_append_left _ hw)
  nodup := (List.nodup_append.mp h.nodup).1

lemma read_foldl (h : Works read s run owns sees result order) (l : L) :
    ((∃ w ∈ order, owns w l) → read (order.foldl (fun s w => run w s) s) l = result l) ∧
      ((∀ w ∈ order, ¬ owns w l) →
        read (order.foldl (fun s w => run w s) s) l = read s l) := by
  induction order using List.reverseRecOn generalizing l with
  | nil => exact ⟨fun ⟨_, hw, _⟩ => absurd hw List.not_mem_nil, fun _ => rfl⟩
  | append_singleton order w ih =>
    have hbefore := ih h.front
    have hlast : w ∈ order ++ [w] := by simp
    rw [List.foldl_append, List.foldl_cons, List.foldl_nil]
    have hsees : ∀ i, sees w i →
        read (order.foldl (fun s w => run w s) s) i = read s i := by
      intro i hi
      refine (hbefore i).2 fun v hv howns => ?_
      have hne : v ≠ w := by
        rintro rfl
        exact (List.nodup_append.mp h.nodup).2.2 v hv v (List.mem_singleton_self v) rfl
      exact h.apart v (List.mem_append_left _ hv) w hlast hne i howns hi
    by_cases hown : owns w l
    · refine ⟨fun _ => h.owned w hlast _ hsees l hown, fun hnone => ?_⟩
      exact absurd hown (hnone w hlast)
    · rw [h.framed w hlast _ hsees l hown]
      refine ⟨fun ⟨v, hv, howns⟩ => ?_, fun hnone => ?_⟩
      · obtain hv | hv := List.mem_append.mp hv
        · exact (hbefore l).1 ⟨v, hv, howns⟩
        · exact absurd (List.mem_singleton.mp hv ▸ howns) hown
      · exact (hbefore l).2 fun v hv => hnone v (List.mem_append_left _ hv)

end Works

end Qwen3xOrin.Library

namespace Qwen3xOrin.Library

variable {X M : Type} (stage : ℕ → X → M → X × M)

def activation (memory : ℕ → M) (x : X) : ℕ → X
  | 0 => x
  | n + 1 => (stage n (activation memory x n) (memory n)).1

def advance (memory : ℕ → M) (x : X) (n : ℕ) : M :=
  (stage n (activation stage memory x n) (memory n)).2

lemma stage_activation (memory : ℕ → M) (x : X) (n : ℕ) :
    stage n (activation stage memory x n) (memory n) =
      (activation stage memory x (n + 1), advance stage memory x n) := rfl

lemma activation_congr {memory memory' : ℕ → M} (x : X) {n : ℕ}
    (h : ∀ m < n, memory m = memory' m) :
    activation stage memory x n = activation stage memory' x n := by
  induction n with
  | zero => rfl
  | succ n ih =>
    rw [activation, activation, ih fun m hm => h m (by omega), h n (by omega)]

end Qwen3xOrin.Library
