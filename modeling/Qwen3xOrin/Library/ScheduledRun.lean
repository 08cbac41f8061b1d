import Mathlib.Tactic

/-! Runs of a state machine that answers calls and rejects the ones out of turn. A machine
follows a schedule when, at step `t`, the only call that moves it on is the `t`-th one. -/

namespace Qwen3xOrin.Library

universe u v

variable {σ : Type u} {κ : Type v}

def run (step : σ → κ → Option σ) (s : σ) : List κ → σ
  | [] => s
  | c :: cs => run step ((step s c).getD s) cs

def accepted (step : σ → κ → Option σ) (s : σ) : List κ → List κ
  | [] => []
  | c :: cs =>
    match step s c with
    | some s' => c :: accepted step s' cs
    | none => accepted step s cs

def follows (step : σ → κ → Option σ) (s : σ) : List κ → Option σ
  | [] => some s
  | c :: cs => (step s c).bind fun s' => follows step s' cs

lemma run_append (step : σ → κ → Option σ) (s : σ) (cs ds : List κ) :
    run step s (cs ++ ds) = run step (run step s cs) ds := by
  induction cs generalizing s with
  | nil => rfl
  | cons c cs ih => exact ih _

lemma accepted_append (step : σ → κ → Option σ) (s : σ) (cs ds : List κ) :
    accepted step s (cs ++ ds) = accepted step s cs ++ accepted step (run step s cs) ds := by
  induction cs generalizing s with
  | nil => rfl
  | cons c cs ih =>
    simp only [List.cons_append, accepted, run]
    cases step s c with
    | none => exact ih s
    | some s' => exact congrArg (c :: ·) (ih s')

lemma run_invariant {step : σ → κ → Option σ} {inv : σ → Prop}
    (hstep : ∀ s c s', inv s → step s c = some s' → inv s') {s : σ} (hs : inv s)
    (cs : List κ) : inv (run step s cs) := by
  induction cs generalizing s with
  | nil => exact hs
  | cons c cs ih =>
    simp only [run]
    cases h : step s c with
    | none => exact ih hs
    | some s' => exact ih (hstep s c s' hs h)

structure Scheduled (step : σ → κ → Option σ) (silent : κ → Bool) (at_ : ℕ → σ → Prop)
    (live : σ → Prop) (schedule : List κ) : Prop where
  quiet : ∀ {t s c s'}, at_ t s → silent c = true → step s c = some s' → at_ t s'
  moves : ∀ {t s c s'}, at_ t s → silent c = false → step s c = some s' →
    schedule[t]? = some c ∧ at_ (t + 1) s'
  due : ∀ {t s c}, at_ t s → live s → schedule[t]? = some c →
    silent c = false ∧ ∃ s', step s c = some s' ∧ live s'

namespace Scheduled

variable {step : σ → κ → Option σ} {silent : κ → Bool} {at_ : ℕ → σ → Prop} {live : σ → Prop}
  {schedule : List κ}

lemma accepted_eq (h : Scheduled step silent at_ live schedule) {t : ℕ} {s : σ}
    (hs : at_ t s) (ht : t ≤ schedule.length) (cs : List κ) :
    ∃ n, t + n ≤ schedule.length ∧ at_ (t + n) (run step s cs) ∧
      (accepted step s cs).filter (fun c => !silent c) = (schedule.drop t).take n := by
  induction cs generalizing t s with
  | nil => exact ⟨0, ht, hs, by simp [accepted]⟩
  | cons c cs ih =>
    cases hc : step s c with
    | none => simpa only [run, accepted, hc, Option.getD_none] using ih hs ht
    | some s' =>
      simp only [run, accepted, hc, Option.getD_some]
      cases hq : silent c with
      | true =>
        obtain ⟨n, hn, hr, ha⟩ := ih (h.quiet hs hq hc) ht
        exact ⟨n, hn, hr, by simpa [List.filter_cons, hq] using ha⟩
      | false =>
        obtain ⟨hget, hs'⟩ := h.moves hs hq hc
        obtain ⟨hlt, rfl⟩ := List.getElem?_eq_some_iff.mp hget
        obtain ⟨n, hn, hr, ha⟩ := ih hs' hlt
        refine ⟨n + 1, by omega, by simpa only [Nat.add_assoc, Nat.add_comm 1] using hr, ?_⟩
        rw [List.filter_cons_of_pos (by simp [hq]), ha, List.drop_eq_getElem_cons hlt,
          List.take_succ_cons]

lemma follows_schedule (h : Scheduled step silent at_ live schedule) {t : ℕ} {s : σ}
    (hs : at_ t s) (hl : live s) (ht : t ≤ schedule.length) :
    ∃ s', follows step s (schedule.drop t) = some s' ∧ at_ schedule.length s' ∧ live s' := by
  obtain ⟨n, hn⟩ := Nat.exists_eq_add_of_le ht
  induction n generalizing t s with
  | zero =>
    obtain rfl : schedule.length = t := hn
    exact ⟨s, by simp [follows], hs, hl⟩
  | succ n ih =>
    have hlt : t < schedule.length := by omega
    have hget : schedule[t]? = some schedule[t] := List.getElem?_eq_getElem hlt
    obtain ⟨hq, s', hs', hl'⟩ := h.due hs hl hget
    obtain ⟨s'', hf, ha⟩ := ih (h.moves hs hq hs').2 hl' hlt (by omega)
    refine ⟨s'', ?_, ha⟩
    rw [List.drop_eq_getElem_cons hlt]
    simpa only [follows, hs', Option.bind_some] using hf

lemma follows_prefix (h : Scheduled step silent at_ live schedule) {t : ℕ} {s s' : σ}
    (hs : at_ t s) (ht : t ≤ schedule.length) {cs : List κ} (hq : ∀ c ∈ cs, silent c = false)
    (hf : follows step s cs = some s') :
    ∃ n, t + n ≤ schedule.length ∧ cs = (schedule.drop t).take n ∧ at_ (t + n) s' := by
  induction cs generalizing t s with
  | nil =>
    obtain rfl : s = s' := by simpa [follows] using hf
    exact ⟨0, ht, by simp, hs⟩
  | cons c cs ih =>
    simp only [follows, Option.bind_eq_some_iff] at hf
    obtain ⟨s₁, hc, hf⟩ := hf
    obtain ⟨hget, hs₁⟩ := h.moves hs (hq c (by simp)) hc
    obtain ⟨hlt, rfl⟩ := List.getElem?_eq_some_iff.mp hget
    obtain ⟨n, hn, rfl, ha⟩ := ih hs₁ hlt (fun d hd => hq d (by simp [hd])) hf
    refine ⟨n + 1, by omega, ?_, by simpa only [Nat.add_assoc, Nat.add_comm 1] using ha⟩
    rw [List.drop_eq_getElem_cons hlt, List.take_succ_cons]

end Scheduled

lemma getElem?_flatMap_range {α : Type v} {f : ℕ → List α} {m : ℕ} (hf : ∀ l, (f l).length = m)
    {n l k : ℕ} (hl : l < n) (hk : k < m) :
    ((List.range n).flatMap f)[l * m + k]? = (f l)[k]? := by
  induction n with
  | zero => omega
  | succ n ih =>
    have hlen : ((List.range n).flatMap f).length = n * m := by
      simp [List.length_flatMap, hf]
    rw [List.range_succ, List.flatMap_append]
    rcases Nat.lt_succ_iff_lt_or_eq.mp hl with hlt | rfl
    · have hb : l * m + k < n * m := by
        have := Nat.mul_le_mul_right m (Nat.succ_le_of_lt hlt)
        simp only [Nat.succ_mul] at this
        omega
      rw [List.getElem?_append_left (by omega), ih hlt]
    · rw [List.getElem?_append_right (by omega), hlen]
      simp

end Qwen3xOrin.Library
