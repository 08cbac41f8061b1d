import Mathlib.Tactic

/-! A guarded computation succeeds exactly when its guard lets it through. -/

namespace Qwen3xOrin.Library

universe u v

variable {ε : Type u} {α : Type v}

lemma guard_ok {c : Prop} [Decidable c] {e : ε} {x : Except ε α} {a : α} :
    (if c then .error e else x) = .ok a ↔ ¬ c ∧ x = .ok a := by
  split_ifs with h <;> simp [h]

lemma bind_ok {β : Type v} {x : Except ε α} {f : α → Except ε β} {b : β} :
    (x >>= f) = .ok b ↔ ∃ a, x = .ok a ∧ f a = .ok b := by
  cases x <;> simp [bind, Except.bind]

lemma exists_ok {x : Except ε α} (h : x.isOk = true) : ∃ a, x = .ok a := by
  cases x with
  | ok a => exact ⟨a, rfl⟩
  | error e => cases h

lemma guard_some {p : Prop} [Decidable p] {u : Unit} : (guard p : Option Unit) = some u ↔ p := by
  by_cases h : p <;> simp [guard, h]

lemma guard_bind {β : Type} {p : Prop} [Decidable p] (hp : p) (f : Unit → Option β) :
    (guard p >>= f) = f () := by
  rw [guard, if_pos hp]
  rfl

lemma some_bind {β γ : Type} (b : β) (f : β → Option γ) : (some b >>= f) = f b := rfl

lemma ok_bind {β γ δ : Type} (b : β) (f : β → Except γ δ) : (Except.ok b >>= f) = f b := rfl

-- A loop that succeeds made a successful step at each of its items.
lemma foldlM_ok_mem {σ : Type u} {β : Type v} {f : σ → β → Except ε σ} {l : List β} {s s' : σ}
    (h : l.foldlM f s = .ok s') {b : β} (hb : b ∈ l) : ∃ s₁ s₂, f s₁ b = .ok s₂ := by
  induction l generalizing s with
  | nil => cases hb
  | cons c l ih =>
    rw [List.foldlM_cons, bind_ok] at h
    obtain ⟨s₁, hc, h⟩ := h
    obtain rfl | hb := List.mem_cons.mp hb
    · exact ⟨s, s₁, hc⟩
    · exact ih h hb

-- The state a loop ends in is what its last step made.
lemma foldlM_some_last {σ : Type u} {β : Type v} {f : σ → β → Option σ} {l : List β} {s s' : σ}
    (h : l.foldlM f s = some s') (hl : l ≠ []) : ∃ s₁ b, f s₁ b = some s' := by
  induction l generalizing s with
  | nil => exact absurd rfl hl
  | cons b l ih =>
    rw [List.foldlM_cons] at h
    obtain ⟨s₁, hb, h⟩ := Option.bind_eq_some_iff.mp h
    cases l with
    | nil =>
      obtain rfl := Option.some.inj h
      exact ⟨s, b, hb⟩
    | cons c l => exact ih h (List.cons_ne_nil c l)

-- A loop over the first `n` indices that goes from one stage to the next reaches the last one.
lemma foldlM_finRange {σ : Type} {n : ℕ} {f : σ → Fin n → Option σ} {stage : ℕ → σ}
    (h : ∀ i : Fin n, f (stage i) i = some (stage (i + 1))) :
    (List.finRange n).foldlM f (stage 0) = some (stage n) := by
  induction n with
  | zero => rfl
  | succ n ih =>
    have hinit : (List.finRange n).foldlM (fun s i => f s i.castSucc) (stage 0) =
        some (stage n) := ih fun i => h i.castSucc
    rw [List.finRange_succ_last, List.foldlM_append, List.foldlM_map, hinit, some_bind]
    simpa using h (Fin.last n)

def checkAll {β : Type u} (check : β → Except ε PUnit.{v + 1}) : List β → Except ε PUnit.{v + 1}
  | [] => .ok ⟨⟩
  | b :: bs => do
    check b
    checkAll check bs

lemma checkAll_ok {β : Type u} {check : β → Except ε PUnit.{v + 1}} {l : List β} :
    checkAll check l = .ok ⟨⟩ ↔ ∀ b ∈ l, check b = .ok ⟨⟩ := by
  induction l with
  | nil => simp [checkAll]
  | cons b l ih =>
    rw [checkAll, bind_ok, List.forall_mem_cons, ← ih]
    constructor
    · rintro ⟨⟨⟩, hb, hl⟩
      exact ⟨hb, hl⟩
    · rintro ⟨hb, hl⟩
      exact ⟨⟨⟩, hb, hl⟩

end Qwen3xOrin.Library

/-! Fallible steps that append to an output of bounded length: what a step appends does not
depend on what the output already holds, as long as the result fits. -/

namespace Qwen3xOrin.Library

variable {β ε γ : Type} {limit : ℕ}

def Fits (limit : ℕ) (out ids : List β) : Prop := ids = [] ∨ out.length + ids.length ≤ limit

structure AppendsAt (limit : ℕ) (f : List β → Except ε (List β)) (out ids : List β) : Prop where
  fits : Fits limit out ids
  shift : ∀ other, Fits limit other ids → f other = .ok (other ++ ids)

def Appending (limit : ℕ) (f : List β → Except ε (List β)) : Prop :=
  ∀ out x, f out = .ok x → ∃ ids, x = out ++ ids ∧ AppendsAt limit f out ids

-- The errors a step can end in.
def ErrorsIn (P : ε → Prop) (f : List β → Except ε (List β)) : Prop :=
  ∀ out e, f out = .error e → P e

lemma Fits.left {out a b : List β} (h : Fits limit out (a ++ b)) : Fits limit out a := by
  obtain h | h := h
  · exact .inl (List.append_eq_nil_iff.mp h).1
  · refine .inr ?_
    rw [List.length_append] at h
    omega

lemma Fits.right {out a b : List β} (h : Fits limit out (a ++ b)) : Fits limit (out ++ a) b := by
  obtain h | h := h
  · exact .inl (List.append_eq_nil_iff.mp h).2
  · refine .inr ?_
    rw [List.length_append] at h ⊢
    omega

lemma Fits.append {out a b : List β} (ha : Fits limit out a) (hb : Fits limit (out ++ a) b) :
    Fits limit out (a ++ b) := by
  obtain rfl | hb := hb
  · rwa [List.append_nil]
  · refine .inr ?_
    rw [List.length_append] at hb ⊢
    omega

lemma AppendsAt.alone {f : List β → Except ε (List β)} {out ids : List β}
    (h : AppendsAt limit f out ids) : f [] = .ok ids := by
  refine (h.shift [] ?_).trans (by rw [List.nil_append])
  obtain hnil | hlen := h.fits
  · exact .inl hnil
  · refine .inr ?_
    rw [List.length_nil]
    omega

namespace Appending

variable {f g : List β → Except ε (List β)}

lemma ok : Appending limit fun out : List β => (.ok out : Except ε (List β)) := by
  intro out x h
  obtain rfl := Except.ok.inj h
  exact ⟨[], (List.append_nil _).symm, .inl rfl, fun other _ => by rw [List.append_nil]⟩

lemma error {e : ε} : Appending limit fun _ : List β => (.error e : Except ε (List β)) :=
  fun _ _ h => nomatch h

lemma bind (hf : Appending limit f) (hg : Appending limit g) :
    Appending limit fun out => f out >>= g := by
  intro out x h
  obtain ⟨y, hy, h⟩ := bind_ok.1 h
  obtain ⟨a, rfl, ha⟩ := hf out y hy
  obtain ⟨b, rfl, hb⟩ := hg _ x h
  refine ⟨a ++ b, List.append_assoc _ _ _, ha.fits.append hb.fits, ?_⟩
  intro other hother
  rw [ha.shift other hother.left]
  exact (hb.shift _ hother.right).trans (by rw [List.append_assoc])

lemma ite {c : Prop} [Decidable c] (hf : Appending limit f) (hg : Appending limit g) :
    Appending limit fun out => if c then f out else g out := by
  split_ifs
  · exact hf
  · exact hg

lemma foldlM {step : List β → γ → Except ε (List β)}
    (h : ∀ c, Appending limit fun out => step out c) (l : List γ) :
    Appending limit fun out => l.foldlM step out := by
  induction l with
  | nil => exact ok
  | cons c l ih =>
    simp only [List.foldlM_cons]
    exact (h c).bind ih

end Appending

namespace ErrorsIn

variable {P : ε → Prop} {f g : List β → Except ε (List β)}

lemma ok : ErrorsIn P fun out : List β => (.ok out : Except ε (List β)) :=
  fun _ _ h => nomatch h

lemma error {e : ε} (he : P e) : ErrorsIn P fun _ : List β => (.error e : Except ε (List β)) := by
  intro _ e' h
  obtain rfl := Except.error.inj h
  exact he

lemma bind (hf : ErrorsIn P f) (hg : ErrorsIn P g) : ErrorsIn P fun out => f out >>= g := by
  intro out e h
  cases hy : f out with
  | error e' =>
    simp only [hy] at h
    obtain rfl := Except.error.inj h
    exact hf out e' hy
  | ok y =>
    simp only [hy] at h
    exact hg y e h

lemma ite {c : Prop} [Decidable c] (hf : c → ErrorsIn P f) (hg : ¬ c → ErrorsIn P g) :
    ErrorsIn P fun out => if c then f out else g out := by
  split_ifs with hc
  · exact hf hc
  · exact hg hc

lemma foldlM {step : List β → γ → Except ε (List β)} {l : List γ}
    (h : ∀ c ∈ l, ErrorsIn P fun out => step out c) :
    ErrorsIn P fun out => l.foldlM step out := by
  induction l with
  | nil => exact ok
  | cons c l ih =>
    simp only [List.foldlM_cons]
    exact (h c List.mem_cons_self).bind (ih fun d hd => h d (List.mem_cons_of_mem c hd))

end ErrorsIn

end Qwen3xOrin.Library
