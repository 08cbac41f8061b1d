import Mathlib.Tactic

/-! A table of objects behind handles that are never reused. It counts how often each handle was
released and remembers whether a handle was used while it was not live. -/

namespace Qwen3xOrin.Library

structure Handles (α : Type) where
  live : ℕ → Option α := fun _ => none
  fresh : ℕ := 0
  released : ℕ → ℕ := fun _ => 0
  fault : Bool := false

namespace Handles

variable {α : Type} (table : Handles α) (handle : ℕ)

def create (a : α) : Handles α :=
  { table with
    live := Function.update table.live table.fresh (some a)
    fresh := table.fresh + 1 }

def release : Handles α :=
  { table with
    live := Function.update table.live handle none
    released := Function.update table.released handle (table.released handle + 1)
    fault := table.fault || (table.live handle).isNone }

-- A use of the object: it reads it and may leave another value.
def modify (f : α → α) : Handles α :=
  { table with
    live := Function.update table.live handle ((table.live handle).map f)
    fault := table.fault || (table.live handle).isNone }

structure Sound : Prop where
  ahead : ∀ handle, table.fresh ≤ handle → table.live handle = none
  unborn : ∀ handle, table.fresh ≤ handle → table.released handle = 0
  once : ∀ handle, handle < table.fresh →
    table.released handle = if (table.live handle).isSome then 0 else 1
  faultless : table.fault = false

variable {table handle}

lemma sound_empty : ({} : Handles α).Sound where
  ahead _ _ := rfl
  unborn _ _ := rfl
  once _ h := (Nat.not_lt_zero _ h).elim
  faultless := rfl

lemma Sound.lt_fresh (h : table.Sound) {a : α} (ha : table.live handle = some a) :
    handle < table.fresh := by
  by_contra hlt
  rw [h.ahead handle (not_lt.mp hlt)] at ha
  cases ha

@[simp] lemma create_live_self (a : α) : (table.create a).live table.fresh = some a := by
  simp [create]

lemma create_live_of_ne {other : ℕ} (a : α) (h : other ≠ table.fresh) :
    (table.create a).live other = table.live other := by
  simp [create, Function.update_of_ne h]

@[simp] lemma release_live_self : (table.release handle).live handle = none := by
  simp [release]

lemma release_live_of_ne {other : ℕ} (h : other ≠ handle) :
    (table.release handle).live other = table.live other := by
  simp [release, Function.update_of_ne h]

@[simp] lemma modify_live_self (f : α → α) :
    (table.modify handle f).live handle = (table.live handle).map f := by
  simp [modify]

lemma modify_live_of_ne {other : ℕ} (f : α → α) (h : other ≠ handle) :
    (table.modify handle f).live other = table.live other := by
  simp [modify, Function.update_of_ne h]

@[simp] lemma modify_id_live : (table.modify handle id).live = table.live := by
  funext other
  by_cases h : other = handle
  · rw [h, modify_live_self, Option.map_id, id]
  · rw [modify_live_of_ne id h]

lemma modify_isSome (f : α → α) (other : ℕ) :
    ((table.modify handle f).live other).isSome = (table.live other).isSome := by
  by_cases h : other = handle
  · rw [h, modify_live_self, Option.isSome_map]
  · rw [modify_live_of_ne f h]

lemma modify_release (f : α → α) : (table.modify handle f).release handle = table.release handle := by
  simp [modify, release]

lemma Sound.create (h : table.Sound) (a : α) : (table.create a).Sound where
  ahead other hother := by
    have hne : other ≠ table.fresh := Nat.ne_of_gt hother
    rw [create_live_of_ne a hne]
    exact h.ahead other (Nat.le_of_lt hother)
  unborn other hother := h.unborn other (Nat.le_of_lt hother)
  once other hother := by
    obtain hlt | rfl := Nat.lt_succ_iff_lt_or_eq.mp hother
    · rw [create_live_of_ne a (Nat.ne_of_lt hlt)]
      exact h.once other hlt
    · rw [create_live_self, Option.isSome_some, if_pos rfl]
      exact h.unborn _ le_rfl
  faultless := h.faultless

lemma Sound.release (h : table.Sound) (hlive : (table.live handle).isSome) :
    (table.release handle).Sound where
  ahead other hother := by
    by_cases hne : other = handle
    · rw [hne, release_live_self]
    · rw [release_live_of_ne hne]
      exact h.ahead other hother
  unborn other hother := by
    obtain ⟨a, ha⟩ := Option.isSome_iff_exists.mp hlive
    have hne : other ≠ handle := Nat.ne_of_gt ((h.lt_fresh ha).trans_le hother)
    simp only [Handles.release, Function.update_of_ne hne]
    exact h.unborn other hother
  once other hother := by
    by_cases hne : other = handle
    · have honce := h.once handle (hne ▸ hother)
      rw [hlive, if_pos rfl] at honce
      rw [hne, release_live_self]
      simp [Handles.release, honce]
    · rw [release_live_of_ne hne]
      simp only [Handles.release, Function.update_of_ne hne]
      exact h.once other hother
  faultless := by
    have hnone : (table.live handle).isNone = false := by simpa using hlive
    simp [Handles.release, h.faultless, hnone]

lemma Sound.modify (h : table.Sound) (hlive : (table.live handle).isSome) (f : α → α) :
    (table.modify handle f).Sound where
  ahead other hother := by
    have hnone := h.ahead other hother
    rw [← Option.not_isSome_iff_eq_none, modify_isSome, hnone]
    simp
  unborn := h.unborn
  once other hother := by
    rw [modify_isSome]
    exact h.once other hother
  faultless := by
    have hnone : (table.live handle).isNone = false := by simpa using hlive
    simp [Handles.modify, h.faultless, hnone]

end Handles

end Qwen3xOrin.Library
