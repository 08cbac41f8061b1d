import Qwen3xOrin.Generation.Run
import Qwen3xOrin.Library.Triple

/-! What a run of the controller does to the context of its callbacks, from what each of the
callbacks does to it. -/

namespace Qwen3xOrin.Generation

open Prefill Library

variable {σ F α β : Type}

def Spec (pre : σ → Prop) (m : ControlM σ α) (post : α → σ → Prop) (stopped : σ → Prop) : Prop :=
  Triple (fun world => pre world.context) m (fun a world => post a world.context)
    (fun world => stopped world.context)

def Preserves (inv : σ → Prop) (m : ControlM σ α) : Prop := Spec inv m (fun _ => inv) inv

section Rules

variable {pre inv stopped : σ → Prop}

lemma Spec.bind {m : ControlM σ α} {f : α → ControlM σ β} {mid : α → σ → Prop}
    {post : β → σ → Prop} (hm : Spec pre m mid stopped)
    (hf : ∀ a, Spec (mid a) (f a) post stopped) : Spec pre (m >>= f) post stopped :=
  Triple.bind hm hf

lemma Spec.ret {a : α} {post : α → σ → Prop} (h : ∀ s, pre s → post a s) :
    Spec pre (pure a : ControlM σ α) post stopped :=
  Triple.ret fun _ hs => h _ hs

lemma Spec.conseq {pre' stopped' : σ → Prop} {m : ControlM σ α} {post post' : α → σ → Prop}
    (h : Spec pre m post stopped) (hpre : ∀ s, pre' s → pre s)
    (hpost : ∀ a s, post a s → post' a s) (hstop : ∀ s, stopped s → stopped' s) :
    Spec pre' m post' stopped' :=
  Triple.conseq h (fun _ => hpre _) (fun _ _ => hpost _ _) fun _ => hstop _

lemma Spec.lift {x : Except Stop α} (hstop : ∀ s, pre s → stopped s) :
    Spec pre (lift x : ControlM σ α) (fun _ => pre) stopped :=
  Triple.ofExcept (fun _ _ _ hs => hs) fun _ hs => hstop _ hs

lemma Spec.fail {x : Except Stop α} {stop : Stop} {post : α → σ → Prop} (hx : x = .error stop)
    (hstop : ∀ s, pre s → stopped s) : Spec pre (Generation.lift x : ControlM σ α) post stopped :=
  Triple.ofExcept (fun a ha => by rw [hx] at ha; cases ha) fun _ hs => hstop _ hs

lemma Spec.ite {c : Prop} [Decidable c] {m m' : ControlM σ α} {post : α → σ → Prop}
    (hm : c → Spec pre m post stopped) (hm' : ¬ c → Spec pre m' post stopped) :
    Spec pre (if c then m else m') post stopped :=
  Triple.ite hm hm'

lemma Spec.invoke {call : Call} {callback : Callback σ α} {onOther : Stop} {post : α → σ → Prop}
    (hok : ∀ s a t, pre s → callback s = (.ok a, t) → post a t)
    (herror : ∀ s thrown t, pre s → callback s = (.error thrown, t) → stopped t) :
    Spec pre (invoke call callback onOther) post stopped := by
  intro world hs
  simp only [outcome, Generation.invoke, ExceptT.run, ExceptT.mk, StateT.run]
  rcases hcall : callback world.context with ⟨(_ | _) | a, t⟩
  · exact herror _ _ _ hs hcall
  · exact herror _ _ _ hs hcall
  · exact hok _ _ _ hs hcall

lemma Preserves.bind {m : ControlM σ α} {f : α → ControlM σ β} (hm : Preserves inv m)
    (hf : ∀ a, Preserves inv (f a)) : Preserves inv (m >>= f) :=
  Spec.bind hm hf

lemma Preserves.ret (a : α) : Preserves inv (pure a : ControlM σ α) := Spec.ret fun _ hs => hs

lemma Preserves.lift (x : Except Stop α) : Preserves inv (Generation.lift x : ControlM σ α) :=
  Spec.lift fun _ hs => hs

lemma Preserves.ite {c : Prop} [Decidable c] {m m' : ControlM σ α} (hm : Preserves inv m)
    (hm' : Preserves inv m') : Preserves inv (if c then m else m') :=
  Spec.ite (fun _ => hm) fun _ => hm'

lemma Spec.required_bind {callback : Option α} {f : α → ControlM σ β} {post : β → σ → Prop}
    (h : ∀ a, callback = some a → Spec pre (f a) post stopped)
    (hstop : ∀ s, pre s → stopped s) : Spec pre (required callback >>= f) post stopped := by
  cases callback with
  | none =>
    exact Triple.bind (Triple.ofExcept (fun _ ha => by cases ha) fun _ hs => hstop _ hs)
      fun _ => (fun _ (hs : False) => hs.elim)
  | some a => exact fun world hs => h a rfl world hs

lemma Preserves.invoke {call : Call} {callback : Callback σ α} {onOther : Stop}
    (h : ∀ s, inv s → inv (callback s).2) : Preserves inv (invoke call callback onOther) :=
  Spec.invoke (fun s a t hs ht => by have := h s hs; rwa [ht] at this)
    fun s thrown t hs ht => by have := h s hs; rwa [ht] at this

end Rules

section Phases

variable [FloatingPoint F] {inv : σ → Prop} {options : GenerationControlOptions σ F}

def Keeps (inv : σ → Prop) (step : StepFunction σ F) : Prop :=
  ∀ token options s, inv s → inv (step token options s).2

lemma execute_preserves {control : GenerationControl F} {call : ℕ → ℕ → Call}
    {phaseStep : StepFunction σ F} {token : ℕ} {computeLogits : Bool} {onOther : Stop}
    (h : Keeps inv phaseStep) :
    Preserves inv (execute options control call phaseStep token computeLogits onOther) := by
  refine Preserves.bind (Preserves.invoke fun s => h _ _ s) fun outcome => ?_
  refine Preserves.bind (Preserves.lift _) ?_
  rintro ⟨step, elapsed, predicted⟩
  exact Preserves.ret _

lemma prefixSteps_preserves {prefixStep : StepFunction σ F} (h : Keeps inv prefixStep)
    (tokens : List ℕ) (control : GenerationControl F) :
    Preserves inv (prefixSteps options prefixStep tokens control) := by
  induction tokens generalizing control with
  | nil => exact Preserves.ret _
  | cons token tokens ih =>
    refine Preserves.bind (execute_preserves h) ?_
    rintro ⟨control, elapsed, predicted⟩
    exact Preserves.bind (Preserves.lift _) fun accumulated => ih _

lemma prefixTiles_preserves {prefixTile : PrefillTileFunction σ F} {chunk : ℕ}
    (h : ∀ tokens options s, inv s → inv (prefixTile tokens options s).2) (n : ℕ)
    (tokens : List ℕ) (control : GenerationControl F) :
    Preserves inv (prefixTiles options prefixTile chunk n tokens control) := by
  induction n generalizing tokens control with
  | zero => exact Preserves.ret _
  | succ n ih =>
    refine Preserves.ite (Preserves.ret _) ?_
    refine Preserves.bind (Preserves.invoke fun s => h _ _ s) fun outcome => ?_
    refine Preserves.bind (Preserves.lift _) ?_
    rintro ⟨steps, elapsed⟩
    exact Preserves.bind (Preserves.lift _) fun accumulated => ih _ _

lemma finishPrefillStep_preserves {prompt : List ℕ} {finishPrefill : StepFunction σ F}
    {onOther : Stop} {control : GenerationControl F} (h : Keeps inv finishPrefill) :
    Preserves inv (finishPrefillStep options prompt finishPrefill onOther control) := by
  refine Preserves.bind (Preserves.lift _) fun control => ?_
  refine Preserves.bind (execute_preserves h) ?_
  rintro ⟨control, elapsed, predicted⟩
  exact Preserves.bind (Preserves.lift _) fun promptPrefill => Preserves.ret _

-- The callbacks of the legacy prefill leave the invariant alone.
structure KeepsLegacy (inv : σ → Prop) (prefillPlan : PrefillPlan σ F) : Prop where
  prefixStep : ∀ step ∈ prefillPlan.prefixStep, Keeps inv step
  finishPrefill : ∀ step ∈ prefillPlan.finishPrefill, Keeps inv step
  prefixTile : ∀ tile ∈ prefillPlan.prefixTile, ∀ tokens options s, inv s →
    inv (tile tokens options s).2
  finishPrefillFromTile : ∀ step ∈ prefillPlan.finishPrefillFromTile, Keeps inv step

variable {prefillPlan : PrefillPlan σ F} {prompt : List ℕ}

lemma legacyPrefix_preserves {control : GenerationControl F} (h : KeepsLegacy inv prefillPlan) :
    Preserves inv (legacyPrefix prompt options prefillPlan control) := by
  unfold legacyPrefix
  refine Preserves.ite ?_ ?_
  · rcases htile : prefillPlan.prefixTile with _ | tile
    · exact Preserves.ite (Preserves.lift _) (Preserves.ret _)
    · exact prefixTiles_preserves (h.prefixTile tile htile) _ _ _
  · exact Spec.required_bind (fun step hstep =>
      prefixSteps_preserves (h.prefixStep step hstep) _ _) fun _ hs => hs

lemma legacyPrefill_preserves (h : KeepsLegacy inv prefillPlan) :
    Preserves inv (legacyPrefill prompt options prefillPlan) := by
  refine Preserves.bind (legacyPrefix_preserves h) fun control => ?_
  refine Spec.required_bind (fun step hstep => finishPrefillStep_preserves ?_) fun _ hs => hs
  split at hstep
  · exact h.finishPrefillFromTile step hstep
  · exact h.finishPrefill step hstep

def KeepsToken (inv : σ → Prop) (options : GenerationControlOptions σ F) : Prop :=
  ∀ observe ∈ options.committedToken, ∀ token index elapsed s, inv s →
    inv (observe token index elapsed s).2

omit [FloatingPoint F] in
lemma commitToken_preserves {control : GenerationControl F} {token : ℕ} {elapsed : F}
    (h : KeepsToken inv options) :
    Preserves inv (commitToken options control token elapsed) := by
  unfold commitToken
  rcases hobserve : options.committedToken with _ | observe
  · exact Preserves.ret _
  · refine Preserves.bind (Preserves.invoke fun s hs => ?_) fun goOn => Preserves.ret _
    exact h observe hobserve _ _ _ s hs

lemma decodeLoop_preserves {decodeStep : StepFunction σ F} (h : Keeps inv decodeStep)
    (htoken : KeepsToken inv options) (n : ℕ) (control : GenerationControl F) :
    Preserves inv (decodeLoop options decodeStep n control) := by
  induction n generalizing control with
  | zero => exact Preserves.ret _
  | succ n ih =>
    refine Preserves.bind (execute_preserves h) ?_
    rintro ⟨control, elapsed, predicted⟩
    refine Preserves.bind (Preserves.lift _) fun decodeAfterFirst => ?_
    refine Preserves.bind (Preserves.lift _) fun totalGeneration => ?_
    refine Preserves.bind (commitToken_preserves htoken) ?_
    rintro ⟨control, goOn⟩
    exact Preserves.ite (Preserves.ret _) (Preserves.ite (Preserves.ret _) (ih _))

-- What follows the prefill leaves the invariant alone.
structure KeepsDecode (inv : σ → Prop) (options : GenerationControlOptions σ F)
    (decodePlan : DecodePlan σ F) (service : Option (DecodeService σ F)) : Prop where
  decodeStep : ∀ step ∈ decodePlan.decodeStep, Keeps inv step
  token : KeepsToken inv options
  start : ∀ service' ∈ service, ∀ prompt, Preserves inv (service'.start prompt)
  decode : ∀ service' ∈ service, ∀ control, Preserves inv (service'.decode options control)

variable {decodePlan : DecodePlan σ F} {service : Option (DecodeService σ F)}

lemma startService_preserves {control : GenerationControl F}
    (h : KeepsDecode inv options decodePlan service) :
    Preserves inv (startService prompt service control) := by
  rcases hservice : service with _ | service'
  · exact Preserves.ret _
  · exact Preserves.bind (h.start service' hservice prompt) fun ms => Preserves.ret _

lemma decode_preserves {control : GenerationControl F}
    (h : KeepsDecode inv options decodePlan service) :
    Preserves inv (decode options decodePlan service control) := by
  rcases hservice : service with _ | service'
  · exact Spec.required_bind (fun step hstep =>
      decodeLoop_preserves (h.decodeStep step hstep) h.token _ _) fun _ hs => hs
  · exact h.decode service' hservice control

lemma generate_preserves {control : GenerationControl F} {predicted : ℕ}
    (h : KeepsDecode inv options decodePlan service) :
    Preserves inv (generate options decodePlan service control predicted) := by
  refine Preserves.bind (commitToken_preserves h.token) ?_
  rintro ⟨control, goOn⟩
  exact Preserves.ite (Preserves.ret _) (Preserves.ite (Preserves.ret _) (decode_preserves h))

end Phases

section Attempts

variable {pre post stopped : σ → Prop}

-- A callback that brings the context from one condition to the next, or fails.
def Attempt (pre post stopped : σ → Prop) (callback : Callback σ (Outcome α)) : Prop :=
  ∀ s, pre s →
    match callback s with
    | (.ok outcome, t) => if outcome.toOption.isSome then post t else stopped t
    | (.error _, t) => stopped t

lemma Attempt.invoke {call : Call} {callback : Callback σ (Outcome α)} {onOther : Stop}
    (h : Attempt pre post stopped callback) :
    Spec pre (invoke call callback onOther)
      (fun outcome t => if outcome.toOption.isSome then post t else stopped t) stopped := by
  refine Spec.invoke (fun s outcome t hs ht => ?_) fun s thrown t hs ht => ?_
  · have hh := h s hs
    rwa [ht] at hh
  · have hh := h s hs
    rwa [ht] at hh

-- The check behind an attempt lets only a successful outcome through.
lemma Attempt.checked {γ : Type} {call : Call} {callback : Callback σ (Outcome α)} {onOther : Stop}
    {check : Outcome α → Except Stop β} {k : β → ControlM σ γ} {final : γ → σ → Prop}
    (h : Attempt pre post stopped callback)
    (hcheck : ∀ outcome, outcome.toOption = none →
      check outcome = fail .runnerFailure outcome.status)
    (hstop : ∀ s, post s → stopped s) (hk : ∀ b, Spec post (k b) final stopped) :
    Spec pre (Generation.invoke call callback onOther >>= fun outcome =>
      lift (check outcome) >>= k) final stopped := by
  refine Spec.bind h.invoke fun outcome => ?_
  rcases houtcome : outcome.toOption with _ | value
  · exact Spec.bind (Spec.fail (hcheck outcome houtcome) fun s hs => by
      simpa [houtcome] using hs) hk
  · refine Spec.bind (Spec.conseq (Spec.lift hstop) (fun s hs => ?_) (fun _ _ hs => hs)
      fun _ hs => hs) hk
    simpa [houtcome] using hs

variable [FloatingPoint F] {options : GenerationControlOptions σ F}

lemma execute_attempt {control : GenerationControl F} {call : ℕ → ℕ → Call}
    {phaseStep : StepFunction σ F} {token : ℕ} {computeLogits : Bool} {onOther : Stop}
    (h : ∀ stepOptions, Attempt pre post stopped (phaseStep token stepOptions))
    (hstop : ∀ s, post s → stopped s) :
    Spec pre (execute options control call phaseStep token computeLogits onOther)
      (fun _ => post) stopped := by
  refine Attempt.checked (h _) (fun outcome houtcome => ?_) hstop ?_
  · rw [checkStep, houtcome]
  · rintro ⟨step, elapsed, predicted⟩
    exact Spec.ret fun _ hs => hs

lemma finishPrefillStep_attempt {prompt : List ℕ} {finishPrefill : StepFunction σ F}
    {onOther : Stop} {control : GenerationControl F}
    (h : ∀ token stepOptions, Attempt pre post stopped (finishPrefill token stepOptions))
    (hpre : ∀ s, pre s → stopped s) (hstop : ∀ s, post s → stopped s) :
    Spec pre (finishPrefillStep options prompt finishPrefill onOther control)
      (fun _ => post) stopped := by
  refine Spec.bind (Spec.lift hpre) fun control => ?_
  refine Spec.bind (execute_attempt (h _) hstop) ?_
  rintro ⟨control, elapsed, predicted⟩
  exact Spec.bind (Spec.lift hstop) fun promptPrefill => Spec.ret fun _ hs => hs

lemma wholeRequestPrefill_attempt {cfg : BuildConfig} {plan : PrefillExecutionPlan}
    {prompt : List ℕ} {wholeRequest : PrefillPromptFunction σ F} {control : GenerationControl F}
    (h : ∀ promptOptions, Attempt pre post stopped (wholeRequest prompt plan promptOptions))
    (hstop : ∀ s, post s → stopped s) :
    Spec pre (wholeRequestPrefill cfg plan prompt wholeRequest control)
      (fun _ => post) stopped := by
  refine Attempt.checked (h _) (fun outcome houtcome => ?_) hstop ?_
  · rw [checkWholeRequest, houtcome]
  · rintro ⟨result, elapsed⟩
    exact Spec.ret fun _ hs => hs

lemma commitWholeRequestPrefill_attempt {cfg : BuildConfig} {plan : PrefillExecutionPlan}
    {progress : PrefillExecutionProgress} {commit : PrefillCommitFunction σ F}
    {control : GenerationControl F}
    (h : ∀ s, pre s → if (commit plan progress s).1.1.ok then post (commit plan progress s).2
      else stopped (commit plan progress s).2)
    (hpre : ∀ s, pre s → stopped s) (hstop : ∀ s, post s → stopped s) :
    Spec pre (commitWholeRequestPrefill cfg plan progress commit control)
      (fun _ => post) stopped := by
  refine Spec.ite (fun _ => Spec.fail rfl hpre) fun _ => ?_
  refine Spec.bind ?_ fun answer =>
    (?_ : Spec (fun t => if answer.1.ok then post t else stopped t) _ _ _)
  · refine Spec.invoke (fun s answer t hs ht => ?_) fun s thrown t hs ht => (by cases ht)
    have hh := h s hs
    cases ht
    exact hh
  · obtain ⟨status, elapsed⟩ := answer
    refine Spec.ite (fun hstatus => Spec.fail rfl fun s hs => ?_) fun hstatus => ?_
    · simpa [hstatus] using hs
    · refine Spec.conseq (Spec.ite (fun _ => Spec.fail rfl hstop) fun _ => Spec.ret fun _ hs => hs)
        (fun s hs => ?_) (fun _ _ hs => hs) fun _ hs => hs
      simpa [hstatus] using hs

end Attempts

end Qwen3xOrin.Generation
