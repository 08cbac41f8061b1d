import Mathlib.Tactic

/-! Triples for computations that read and write a state and may stop with an error. The
third condition is what holds of the state in which the computation stopped. -/

namespace Qwen3xOrin.Library

universe u

variable {ε σ α β : Type u}

def outcome (m : ExceptT ε (StateM σ) α) (s : σ) : Except ε α × σ := m.run.run s

def Triple (pre : σ → Prop) (m : ExceptT ε (StateM σ) α) (post : α → σ → Prop)
    (stopped : σ → Prop) : Prop :=
  ∀ s, pre s →
    match outcome m s with
    | (.ok a, s') => post a s'
    | (.error _, s') => stopped s'

@[simp] lemma outcome_pure (a : α) (s : σ) :
    outcome (pure a : ExceptT ε (StateM σ) α) s = (.ok a, s) := rfl

@[simp] lemma outcome_lift (x : Except ε α) (s : σ) :
    outcome (ExceptT.mk (pure x) : ExceptT ε (StateM σ) α) s = (x, s) := rfl

lemma outcome_mk (f : σ → Except ε α × σ) (s : σ) :
    outcome (ExceptT.mk f : ExceptT ε (StateM σ) α) s = f s := rfl

lemma outcome_bind (m : ExceptT ε (StateM σ) α) (f : α → ExceptT ε (StateM σ) β) (s : σ) :
    outcome (m >>= f) s =
      match outcome m s with
      | (.ok a, s') => outcome (f a) s'
      | (.error e, s') => (.error e, s') := by
  change (ExceptT.bindCont f (m s).1) (m s).2 = _
  rw [show outcome m s = m s from rfl]
  rcases m s with ⟨r, s'⟩
  cases r <;> rfl

def update (f : σ → σ) : ExceptT ε (StateM σ) PUnit := ExceptT.mk fun s => (.ok ⟨⟩, f s)

def examine (f : σ → α) : ExceptT ε (StateM σ) α := ExceptT.mk fun s => (.ok (f s), s)

def stopIf (e : ε) (c : σ → Prop) [DecidablePred c] (f : σ → σ) : ExceptT ε (StateM σ) PUnit :=
  ExceptT.mk fun s => if c s then (.error e, f s) else (.ok ⟨⟩, s)

lemma outcome_stopIf (e : ε) (c : σ → Prop) [DecidablePred c] (f : σ → σ) (s : σ) :
    outcome (stopIf e c f) s = if c s then (.error e, f s) else (.ok ⟨⟩, s) := rfl

def Exactly (expected s : σ) : Prop := s = expected

namespace Triple

variable {pre : σ → Prop} {stopped : σ → Prop}

lemma conseq {pre' : σ → Prop} {m : ExceptT ε (StateM σ) α} {post post' : α → σ → Prop}
    {stopped' : σ → Prop} (h : Triple pre m post stopped) (hpre : ∀ s, pre' s → pre s)
    (hpost : ∀ a s, post a s → post' a s) (hstop : ∀ s, stopped s → stopped' s) :
    Triple pre' m post' stopped' := by
  intro s hs
  have hh := h s (hpre s hs)
  revert hh
  rcases outcome m s with ⟨r, s'⟩
  cases r with
  | ok a => exact hpost a s'
  | error e => exact hstop s'

lemma ret {a : α} {post : α → σ → Prop} (h : ∀ s, pre s → post a s) :
    Triple pre (Pure.pure a : ExceptT ε (StateM σ) α) post stopped :=
  fun s hs => h s hs

lemma bind {m : ExceptT ε (StateM σ) α} {f : α → ExceptT ε (StateM σ) β}
    {mid : α → σ → Prop} {post : β → σ → Prop} (hm : Triple pre m mid stopped)
    (hf : ∀ a, Triple (mid a) (f a) post stopped) : Triple pre (m >>= f) post stopped := by
  intro s hs
  rw [outcome_bind]
  have hh := hm s hs
  revert hh
  rcases outcome m s with ⟨r, s'⟩
  cases r with
  | ok a => exact hf a s'
  | error e => exact id

lemma assume {q : Prop} {m : ExceptT ε (StateM σ) α} {post : α → σ → Prop}
    (h : q → Triple pre m post stopped) : Triple (fun s => pre s ∧ q) m post stopped :=
  fun s hs => h hs.2 s hs.1

lemma ofExcept {x : Except ε α} {post : α → σ → Prop}
    (hok : ∀ a, x = .ok a → ∀ s, pre s → post a s)
    (hstop : ∀ s, pre s → stopped s) :
    Triple pre (ExceptT.mk (Pure.pure x) : ExceptT ε (StateM σ) α) post stopped := by
  intro s hs
  cases x with
  | ok a => exact hok a rfl s hs
  | error e => exact hstop s hs

lemma update {f : σ → σ} {post : PUnit → σ → Prop} (h : ∀ s, pre s → post ⟨⟩ (f s)) :
    Triple pre (Library.update f : ExceptT ε (StateM σ) PUnit) post stopped :=
  fun s hs => h s hs

lemma examine {f : σ → α} {post : α → σ → Prop} (h : ∀ s, pre s → post (f s) s) :
    Triple pre (Library.examine f : ExceptT ε (StateM σ) α) post stopped :=
  fun s hs => h s hs

lemma unread {f : σ → α} :
    Triple pre (Library.examine f : ExceptT ε (StateM σ) α) (fun _ => pre) stopped :=
  fun _ hs => hs

lemma stopIf {e : ε} {c : σ → Prop} [DecidablePred c] {f : σ → σ}
    (h : ∀ s, pre s → c s → stopped (f s)) :
    Triple pre (Library.stopIf e c f : ExceptT ε (StateM σ) PUnit)
      (fun _ s => pre s ∧ ¬ c s) stopped := by
  intro s hs
  rw [outcome_stopIf]
  by_cases hc : c s
  · rw [if_pos hc]
    exact h s hs hc
  · rw [if_neg hc]
    exact ⟨hs, hc⟩

lemma pass {e : ε} {c : σ → Prop} [DecidablePred c] {f : σ → σ} (h : ∀ s, pre s → ¬ c s) :
    Triple pre (Library.stopIf e c f : ExceptT ε (StateM σ) PUnit) (fun _ => pre) stopped :=
  (stopIf fun s hs hc => absurd hc (h s hs)).conseq (fun _ hs => hs) (fun _ _ hs => hs.1)
    fun _ hs => hs

lemma ofExactly {m : ExceptT ε (StateM σ) α} {post : α → σ → Prop}
    (h : ∀ s, pre s → Triple (Exactly s) m post stopped) : Triple pre m post stopped :=
  fun s hs => h s hs s rfl

lemma ite {c : Prop} [Decidable c] {m m' : ExceptT ε (StateM σ) α} {post : α → σ → Prop}
    (hm : c → Triple pre m post stopped) (hm' : ¬ c → Triple pre m' post stopped) :
    Triple pre (if c then m else m') post stopped := by
  by_cases hc : c
  · rw [if_pos hc]
    exact hm hc
  · rw [if_neg hc]
    exact hm' hc

-- Two branches that go on alike.
lemma branch {c : Prop} [Decidable c] {m m' : ExceptT ε (StateM σ) α}
    {f : α → ExceptT ε (StateM σ) β} {mid : α → σ → Prop} {post : β → σ → Prop}
    (hm : c → Triple pre m mid stopped) (hm' : ¬ c → Triple pre m' mid stopped)
    (hf : ∀ a, Triple (mid a) (f a) post stopped) :
    Triple pre (if c then m >>= f else m' >>= f) post stopped :=
  ite (fun hc => bind (hm hc) hf) fun hc => bind (hm' hc) hf

lemma optional {c : Prop} [Decidable c] {m : ExceptT ε (StateM σ) PUnit}
    {f : PUnit → ExceptT ε (StateM σ) β} {mid : σ → Prop} {post : β → σ → Prop}
    (hm : c → Triple pre m (fun _ => mid) stopped) (hm' : ¬ c → ∀ s, pre s → mid s)
    (hf : Triple mid (f ⟨⟩) post stopped) :
    Triple pre (if c then m >>= f else f ⟨⟩) post stopped :=
  ite (fun hc => bind (hm hc) fun _ => hf) fun hc =>
    hf.conseq (hm' hc) (fun _ _ h => h) fun _ h => h

lemma step {m : ExceptT ε (StateM σ) α} {s s' : σ} {a : α} (h : outcome m s = (.ok a, s')) :
    Triple (Exactly s) m (fun b t => Exactly s' t ∧ b = a) stopped := by
  rintro t rfl
  rw [h]
  exact ⟨rfl, rfl⟩

lemma elim {m : ExceptT ε (StateM σ) α} {post : α → σ → Prop} (h : Triple pre m post stopped)
    {s : σ} (hs : pre s) :
    (∀ a, (outcome m s).1 = .ok a → post a (outcome m s).2) ∧
      (∀ e, (outcome m s).1 = .error e → stopped (outcome m s).2) := by
  have hh := h s hs
  revert hh
  rcases outcome m s with ⟨r, s'⟩
  cases r with
  | ok a =>
    refine fun hh => ⟨fun b hb => ?_, fun e he => (by cases he)⟩
    obtain rfl := Except.ok.inj hb
    exact hh
  | error e => exact fun hh => ⟨fun a ha => (by cases ha), fun _ _ => hh⟩

lemma final {m : ExceptT ε (StateM σ) α} {q : σ → Prop} (h : Triple pre m (fun _ => q) q) {s : σ}
    (hs : pre s) : q (outcome m s).2 := by
  have hh := h s hs
  revert hh
  rcases outcome m s with ⟨r, s'⟩
  cases r with
  | ok a => exact id
  | error e => exact id

end Triple

-- A triple whose third condition also reads the error.
def Ends (pre : σ → Prop) (m : ExceptT ε (StateM σ) α) (post : α → σ → Prop)
    (stopped : ε → σ → Prop) : Prop :=
  ∀ s, pre s →
    match outcome m s with
    | (.ok a, s') => post a s'
    | (.error e, s') => stopped e s'

namespace Ends

variable {pre : σ → Prop} {stopped : ε → σ → Prop}

lemma conseq {pre' : σ → Prop} {m : ExceptT ε (StateM σ) α} {post post' : α → σ → Prop}
    {stopped' : ε → σ → Prop} (h : Ends pre m post stopped) (hpre : ∀ s, pre' s → pre s)
    (hpost : ∀ a s, post a s → post' a s) (hstop : ∀ e s, stopped e s → stopped' e s) :
    Ends pre' m post' stopped' := by
  intro s hs
  have hh := h s (hpre s hs)
  revert hh
  rcases outcome m s with ⟨r, s'⟩
  cases r with
  | ok a => exact hpost a s'
  | error e => exact hstop e s'

lemma ret {a : α} {post : α → σ → Prop} (h : ∀ s, pre s → post a s) :
    Ends pre (Pure.pure a : ExceptT ε (StateM σ) α) post stopped :=
  fun s hs => h s hs

lemma bind {m : ExceptT ε (StateM σ) α} {f : α → ExceptT ε (StateM σ) β}
    {mid : α → σ → Prop} {post : β → σ → Prop} (hm : Ends pre m mid stopped)
    (hf : ∀ a, Ends (mid a) (f a) post stopped) : Ends pre (m >>= f) post stopped := by
  intro s hs
  rw [outcome_bind]
  have hh := hm s hs
  revert hh
  rcases outcome m s with ⟨r, s'⟩
  cases r with
  | ok a => exact hf a s'
  | error e => exact id

lemma examine {f : σ → α} {post : α → σ → Prop} (h : ∀ s, pre s → post (f s) s) :
    Ends pre (Library.examine f : ExceptT ε (StateM σ) α) post stopped :=
  fun s hs => h s hs

lemma ofExcept {x : Except ε α} {post : α → σ → Prop}
    (hok : ∀ a, x = .ok a → ∀ s, pre s → post a s)
    (hstop : ∀ e, x = .error e → ∀ s, pre s → stopped e s) :
    Ends pre (ExceptT.mk (Pure.pure x) : ExceptT ε (StateM σ) α) post stopped := by
  intro s hs
  cases x with
  | ok a => exact hok a rfl s hs
  | error e => exact hstop e rfl s hs

variable {γ : Type u} {f : γ → ExceptT ε (StateM σ) PUnit} {inv : List γ → σ → Prop}

lemma forM_after (front rest : List γ)
    (h : ∀ done c more, front ++ rest = done ++ c :: more →
      Ends (inv done) (f c) (fun _ => inv (done ++ [c])) stopped) :
    Ends (inv front) (rest.forM f) (fun _ => inv (front ++ rest)) stopped := by
  induction rest generalizing front with
  | nil =>
    rw [List.append_nil]
    exact ret fun _ hs => hs
  | cons c rest ih =>
    refine bind (h front c rest rfl) fun _ => ?_
    rw [List.append_cons front c rest] at h ⊢
    exact ih _ h

-- A loop over a list, by what holds once a part of the list is done.
lemma forM (l : List γ)
    (h : ∀ done c more, l = done ++ c :: more →
      Ends (inv done) (f c) (fun _ => inv (done ++ [c])) stopped) :
    Ends (inv []) (l.forM f) (fun _ => inv l) stopped := forM_after [] l h

lemma elim {m : ExceptT ε (StateM σ) α} {post : α → σ → Prop} (h : Ends pre m post stopped)
    {s : σ} (hs : pre s) :
    (∀ a, (outcome m s).1 = .ok a → post a (outcome m s).2) ∧
      ∀ e, (outcome m s).1 = .error e → stopped e (outcome m s).2 := by
  have hh := h s hs
  revert hh
  rcases outcome m s with ⟨r, s'⟩
  cases r with
  | ok a =>
    refine fun hh => ⟨fun b hb => ?_, fun e he => (by cases he)⟩
    obtain rfl := Except.ok.inj hb
    exact hh
  | error e =>
    refine fun hh => ⟨fun a ha => (by cases ha), fun e' he => ?_⟩
    obtain rfl := Except.error.inj he
    exact hh

end Ends

-- A computation that leaves a part of the state as it was, however it ends.
def Keeps {β : Type*} (view : σ → β) (m : ExceptT ε (StateM σ) α) : Prop :=
  ∀ s, view (outcome m s).2 = view s

namespace Keeps

variable {γ : Type*} {view : σ → γ}

lemma ret {a : α} : Keeps view (Pure.pure a : ExceptT ε (StateM σ) α) := fun _ => rfl

lemma bind {m : ExceptT ε (StateM σ) α} {f : α → ExceptT ε (StateM σ) β} (hm : Keeps view m)
    (hf : ∀ a, Keeps view (f a)) : Keeps view (m >>= f) := by
  intro s
  rw [outcome_bind]
  have hh := hm s
  revert hh
  rcases outcome m s with ⟨r, s'⟩
  cases r with
  | ok a => exact fun hh => (hf a s').trans hh
  | error e => exact id

lemma update {f : σ → σ} (h : ∀ s, view (f s) = view s) :
    Keeps view (Library.update f : ExceptT ε (StateM σ) PUnit) := h

lemma examine {f : σ → α} : Keeps view (Library.examine f : ExceptT ε (StateM σ) α) :=
  fun _ => rfl

lemma stopIf {e : ε} {c : σ → Prop} [DecidablePred c] {f : σ → σ}
    (h : ∀ s, view (f s) = view s) :
    Keeps view (Library.stopIf e c f : ExceptT ε (StateM σ) PUnit) := by
  intro s
  rw [outcome_stopIf]
  by_cases hc : c s
  · rw [if_pos hc]
    exact h s
  · rw [if_neg hc]

lemma ite {c : Prop} [Decidable c] {m m' : ExceptT ε (StateM σ) α} (hm : Keeps view m)
    (hm' : Keeps view m') : Keeps view (if c then m else m') := by
  by_cases hc : c
  · rw [if_pos hc]
    exact hm
  · rw [if_neg hc]
    exact hm'

lemma map {δ : Type*} (g : γ → δ) {m : ExceptT ε (StateM σ) α} (h : Keeps view m) :
    Keeps (fun s => g (view s)) m := fun s => congrArg g (h s)

-- What a computation keeps may be carried through its triple.
lemma carry {m : ExceptT ε (StateM σ) α} (h : Keeps view m) {pre : σ → Prop}
    {post : α → σ → Prop} {stopped : σ → Prop} {v : γ} (hm : Triple pre m post stopped) :
    Triple (fun s => pre s ∧ view s = v) m (fun a s => post a s ∧ view s = v) stopped := by
  intro s hs
  have hh := hm s hs.1
  have hk := (h s).trans hs.2
  revert hh hk
  rcases outcome m s with ⟨r, s'⟩
  cases r with
  | ok a => exact fun hh hk => ⟨hh, hk⟩
  | error e => exact fun hh _ => hh

end Keeps

end Qwen3xOrin.Library
