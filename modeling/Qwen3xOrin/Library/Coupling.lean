import Qwen3xOrin.Library.Triple

/-! Two computations run side by side: from related states, when both return they end in
related states. A strict coupling also asks that one stops only where the other does. -/

namespace Qwen3xOrin.Library

universe u

variable {ε σ α α' β β' : Type u} {strict : Prop}

def Agree (strict : Prop) (post : α → β → σ → σ → Prop) :
    Except ε α × σ → Except ε β × σ → Prop
  | (.ok a, s), (.ok b, t) => post a b s t
  | (.error _, _), (.error _, _) => True
  | (.ok _, _), (.error _, _) => ¬ strict
  | (.error _, _), (.ok _, _) => ¬ strict

def Coupled (strict : Prop) (pre : σ → σ → Prop) (m : ExceptT ε (StateM σ) α)
    (m' : ExceptT ε (StateM σ) β) (post : α → β → σ → σ → Prop) : Prop :=
  ∀ s t, pre s t → Agree strict post (outcome m s) (outcome m' t)

namespace Agree

variable {post : α → β → σ → σ → Prop} {x : Except ε α × σ} {y : Except ε β × σ}

lemma mono {post' : α → β → σ → σ → Prop} (h : Agree strict post x y)
    (hpost : ∀ a b s t, post a b s t → post' a b s t) : Agree strict post' x y := by
  rcases x with ⟨_ | a, s⟩ <;> rcases y with ⟨_ | b, t⟩
  · exact h
  · exact h
  · exact h
  · exact hpost a b s t h

lemma refl {post : α → α → σ → σ → Prop} (hpost : ∀ a s, post a a s s)
    (x : Except ε α × σ) : Agree strict post x x := by
  rcases x with ⟨_ | a, s⟩
  · trivial
  · exact hpost a s

lemma stopped_left (h : ¬ strict) (e : ε) (s : σ) (y : Except ε β × σ) :
    Agree strict post (.error e, s) y := by
  rcases y with ⟨_ | b, t⟩
  · trivial
  · exact h

lemma stopped_right (h : ¬ strict) (e : ε) (t : σ) (x : Except ε α × σ) :
    Agree strict post x (.error e, t) := by
  rcases x with ⟨_ | a, s⟩
  · trivial
  · exact h

lemma elim (h : Agree strict post x y) {a : α} {b : β} (hx : x.1 = .ok a) (hy : y.1 = .ok b) :
    post a b x.2 y.2 := by
  rcases x with ⟨r, s⟩
  rcases y with ⟨r', t⟩
  obtain rfl : r = .ok a := hx
  obtain rfl : r' = .ok b := hy
  exact h

lemma isOk_eq (h : Agree strict post x y) (hstrict : strict) : x.1.isOk = y.1.isOk := by
  rcases x with ⟨_ | a, s⟩ <;> rcases y with ⟨_ | b, t⟩
  · rfl
  · exact absurd hstrict h
  · exact absurd hstrict h
  · rfl

end Agree

namespace Coupled

variable {pre : σ → σ → Prop}

lemma ret {a : α} {b : β} {post : α → β → σ → σ → Prop} (h : ∀ s t, pre s t → post a b s t) :
    Coupled strict pre (Pure.pure a : ExceptT ε (StateM σ) α) (Pure.pure b) post :=
  fun s t hst => h s t hst

lemma bind {m : ExceptT ε (StateM σ) α} {m' : ExceptT ε (StateM σ) β}
    {f : α → ExceptT ε (StateM σ) α'} {f' : β → ExceptT ε (StateM σ) β'}
    {mid : α → β → σ → σ → Prop} {post : α' → β' → σ → σ → Prop}
    (hm : Coupled strict pre m m' mid)
    (hf : ∀ a b, Coupled strict (mid a b) (f a) (f' b) post) :
    Coupled strict pre (m >>= f) (m' >>= f') post := by
  intro s t hst
  have hh := hm s t hst
  rw [outcome_bind, outcome_bind]
  revert hh
  rcases outcome m s with ⟨_ | a, s'⟩ <;> rcases outcome m' t with ⟨_ | b, t'⟩
  · exact id
  · exact fun hh => Agree.stopped_left hh _ _ _
  · exact fun hh => Agree.stopped_right hh _ _ _
  · exact hf a b s' t'

lemma conseq {pre' : σ → σ → Prop} {m : ExceptT ε (StateM σ) α} {m' : ExceptT ε (StateM σ) β}
    {post post' : α → β → σ → σ → Prop} (h : Coupled strict pre m m' post)
    (hpre : ∀ s t, pre' s t → pre s t) (hpost : ∀ a b s t, post a b s t → post' a b s t) :
    Coupled strict pre' m m' post' :=
  fun s t hst => (h s t (hpre s t hst)).mono hpost

lemma assume {q : Prop} {m : ExceptT ε (StateM σ) α} {m' : ExceptT ε (StateM σ) β}
    {post : α → β → σ → σ → Prop} (h : q → Coupled strict pre m m' post) :
    Coupled strict (fun s t => pre s t ∧ q) m m' post :=
  fun s t hst => h hst.2 s t hst.1

lemma ofExcept {x : Except ε α} {y : Except ε β} {post : α → β → σ → σ → Prop}
    (hok : ∀ a b, x = .ok a → y = .ok b → ∀ s t, pre s t → post a b s t)
    (hstop : strict → x.isOk = y.isOk) :
    Coupled strict pre (ExceptT.mk (Pure.pure x) : ExceptT ε (StateM σ) α)
      (ExceptT.mk (Pure.pure y)) post := by
  intro s t hst
  rw [outcome_lift, outcome_lift]
  rcases x with _ | a <;> rcases y with _ | b
  · trivial
  · exact fun hs => Bool.false_ne_true (hstop hs)
  · exact fun hs => Bool.false_ne_true (hstop hs).symm
  · exact hok a b rfl rfl s t hst

lemma ofTriples {pre₁ pre₂ : σ → Prop} {m : ExceptT ε (StateM σ) α} {m' : ExceptT ε (StateM σ) β}
    {post₁ : α → σ → Prop} {post₂ : β → σ → Prop} {stopped₁ stopped₂ : Prop}
    {post : α → β → σ → σ → Prop} (h₁ : Triple pre₁ m post₁ fun _ => stopped₁)
    (h₂ : Triple pre₂ m' post₂ fun _ => stopped₂)
    (hok : ∀ a b s t, post₁ a s → post₂ b t → post a b s t)
    (hleft : strict → ∀ a s, post₁ a s → ¬ stopped₂)
    (hright : strict → ∀ b t, post₂ b t → ¬ stopped₁) :
    Coupled strict (fun s t => pre₁ s ∧ pre₂ t) m m' post := by
  rintro s t ⟨hs, ht⟩
  have hh₁ := h₁ s hs
  have hh₂ := h₂ t ht
  revert hh₁ hh₂
  rcases outcome m s with ⟨_ | a, s'⟩ <;> rcases outcome m' t with ⟨_ | b, t'⟩
  · exact fun _ _ => trivial
  · exact fun hh₁ hh₂ hstrict => hright hstrict b t' hh₂ hh₁
  · exact fun hh₁ hh₂ hstrict => hleft hstrict a s' hh₁ hh₂
  · exact hok a b s' t'

end Coupled

end Qwen3xOrin.Library
