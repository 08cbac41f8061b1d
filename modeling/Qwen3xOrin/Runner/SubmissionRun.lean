import Qwen3xOrin.Runner.SubmissionWindow

/-! A whole run of the layer loop through the submission window: what is in flight, the order of
the retirements, where a probe stops it and how many submissions a call that succeeds retires. -/

namespace Qwen3xOrin.Runner

open Library Request Prefill
open Engine (ReferenceWholeRequestPrefillResult expectedSubmissionsPerLayer runnerContract)
open Generation hiding maximumRequestPrefillChunkSize Outcome

section Schedule

variable (cfg : BuildConfig) (plan : PrefillExecutionPlan) (promptWide bounded : Bool)
  (device : SubmissionAnswers)

-- The phases of a layer, in the order they are submitted.
def layerPhases : List ℕ :=
  if promptWide then
    List.range plan.panelCount ++ [promptWideP40WholeCorePromptCorePhase cfg] ++
      (List.range plan.panelCount).map (promptWideP40WholeCoreDrainPhaseBegin cfg + ·) ++
      [promptWideP40WholeCorePersistentMlpPhase cfg]
  else List.range plan.panelCount ++ if layerWideP40Mlp plan then [plan.panelCount] else []

def submissions : List (ℕ × ℕ) :=
  (List.range layerCount).flatMap fun layer => (layerPhases cfg plan promptWide).map (layer, ·)

def submit (submission : ℕ × ℕ) : SubmissionM Unit :=
  submitPhase cfg plan promptWide bounded device submission.1 submission.2

lemma forM_append {γ : Type} (l l' : List γ) (f : γ → SubmissionM Unit) :
    (l ++ l').forM f = l.forM f >>= fun _ => l'.forM f := by
  rw [List.forM_eq_forM, List.forM_append]

lemma forM_singleton {γ : Type} (c : γ) (f : γ → SubmissionM Unit) : [c].forM f = f c := by
  rw [List.forM_eq_forM, List.forM_cons, List.forM_nil, bind_pure_unit]

lemma forM_map {γ δ : Type} (g : γ → δ) (l : List γ) (f : δ → SubmissionM Unit) :
    (l.map g).forM f = l.forM fun c => f (g c) := by
  rw [List.forM_eq_forM, List.forM_map]
  rfl

lemma forM_flatMap {γ δ : Type} (g : γ → List δ) (l : List γ) (f : δ → SubmissionM Unit) :
    (l.flatMap g).forM f = l.forM fun c => (g c).forM f := by
  induction l with
  | nil => rfl
  | cons c l ih =>
    rw [List.flatMap_cons, forM_append, ih]
    rfl

lemma submitLayer_eq (layer : ℕ) :
    submitLayer cfg plan promptWide bounded device layer =
      ((layerPhases cfg plan promptWide).map (layer, ·)).forM
        (submit cfg plan promptWide bounded device) := by
  rw [forM_map, submitLayer, layerPhases]
  cases promptWide with
  | true =>
    rw [if_pos rfl, if_pos rfl, forM_append, forM_append, forM_append, forM_singleton,
      forM_singleton, forM_map, bind_assoc, bind_assoc]
    rfl
  | false =>
    rw [if_neg Bool.false_ne_true, if_neg Bool.false_ne_true, forM_append, submitPanelLayer]
    cases layerWideP40Mlp plan with
    | true =>
      rw [if_pos rfl, if_pos rfl, forM_singleton]
      rfl
    | false => rfl

lemma submitLayers_eq :
    submitLayers cfg plan promptWide bounded device = (do
      ExceptT.mk (pure (errorOf device.prepare))
      (submissions cfg plan promptWide).forM (submit cfg plan promptWide bounded device)
      let inFlight ← examine SubmissionWindow.inFlight
      drainSubmissions cfg plan promptWide bounded device inFlight) := by
  have hloop : (List.range layerCount).forM (submitLayer cfg plan promptWide bounded device) =
      (submissions cfg plan promptWide).forM (submit cfg plan promptWide bounded device) := by
    rw [submissions, forM_flatMap]
    exact congrArg _ (funext fun layer => submitLayer_eq cfg plan promptWide bounded device layer)
  rw [submitLayers, hloop]

end Schedule

section Run

def Quiet (device : SubmissionAnswers) (n : ℕ) : Prop :=
  ∀ m, 0 < m → m ≤ n → device.probe m = false

-- The probe answers true for the first time at the `n`-th retirement.
def Cancels (device : SubmissionAnswers) (n : ℕ) : Prop :=
  0 < n ∧ device.probe n = true ∧ ∀ m, 0 < m → m < n → device.probe m = false

def Running (device : SubmissionAnswers) (done : List (ℕ × ℕ)) (window : SubmissionWindow) : Prop :=
  ∃ pending, Tracked window pending ∧ recorded window.log = done ∧
    Quiet device window.retirements

structure Stopped (device : SubmissionAnswers) (whole : List (ℕ × ℕ))
    (status : ReferenceRunnerStatus) (window : SubmissionWindow) : Prop where
  tracked : ∃ pending, Tracked window pending
  sent : recorded window.log <+: whole
  cause : Quiet device window.retirements ∨
    Cancels device window.retirements ∧ status.error = .cancelled ∧
      status.retiredPrefillQuanta = window.retirements

variable {cfg : BuildConfig} {plan : PrefillExecutionPlan} {promptWide : Bool}
  {device : SubmissionAnswers} {done whole : List (ℕ × ℕ)}

lemma Running.stopped {window : SubmissionWindow} (h : Running device done window)
    (hdone : done <+: whole) (status : ReferenceRunnerStatus) :
    Stopped device whole status window := by
  obtain ⟨pending, htracked, hsent, hquiet⟩ := h
  exact ⟨⟨pending, htracked⟩, hsent ▸ hdone, .inl hquiet⟩

lemma running_empty : Running device [] {} := by
  refine ⟨[], tracked_empty, rfl, fun m hm hle => ?_⟩
  exact absurd hle (Nat.not_le.mpr hm)

lemma retireOldest_ends (hdone : done <+: whole) (n : ℕ) :
    Ends (fun window => Running device done window ∧ window.inFlight = n + 1)
      (retireOldestSubmission cfg plan promptWide true device)
      (fun _ window => Running device done window ∧ window.inFlight = n)
      (Stopped device whole) := by
  rintro window ⟨hrunning, hin⟩
  have hstopped := hrunning.stopped hdone
  obtain ⟨pending, htracked, hsent, hquiet⟩ := hrunning
  obtain ⟨a, rest, rfl⟩ : ∃ a rest, pending = a :: rest := by
    have hlength := htracked.inFlight
    rw [hin] at hlength
    exact List.exists_cons_of_length_eq_add_one hlength.symm
  have hretired := htracked.retire
  have hsent' : recorded window.retireOldest.log = done := by
    rw [← hsent, SubmissionWindow.retireOldest, recorded_append, recorded_retire, recorded_nil,
      List.append_nil]
  have hbusy : ¬ (true = false ∨ window.inFlight = 0) := by simp [hin]
  rw [retireOldestSubmission, outcome_mk, if_neg hbusy]
  by_cases hwait : device.synchronize window.retirements ≠ 0
  · rw [if_pos hwait]
    exact hstopped _
  rw [if_neg hwait]
  by_cases hprobe : device.probe window.retireOldest.retirements = true
  · rw [if_pos hprobe]
    refine ⟨⟨rest, hretired⟩, hsent' ▸ hdone, .inr ⟨⟨Nat.succ_pos _, hprobe, ?_⟩, rfl, rfl⟩⟩
    exact fun m hm hlt => hquiet m hm (Nat.le_of_lt_succ hlt)
  · rw [if_neg hprobe]
    refine ⟨⟨rest, hretired, hsent', fun m hm hle => ?_⟩, ?_⟩
    · obtain hlt | rfl := Nat.lt_or_eq_of_le hle
      · exact hquiet m hm (Nat.le_of_lt_succ hlt)
      · exact Bool.eq_false_iff.mpr hprobe
    · simp only [SubmissionWindow.retireOldest, hin, Nat.add_sub_cancel]

lemma makeSubmissionRoom_ends (hdone : done <+: whole) :
    Ends (Running device done) (makeSubmissionRoom cfg plan promptWide true device)
      (fun _ window => Running device done window ∧
        window.inFlight < wholeRequestSubmissionWindowSlots)
      (Stopped device whole) := by
  have hread : Ends (Running device done) (examine SubmissionWindow.inFlight : SubmissionM ℕ)
      (fun inFlight window => Running device done window ∧ window.inFlight = inFlight)
      (Stopped device whole) := Ends.examine fun _ h => ⟨h, rfl⟩
  refine Ends.bind hread fun inFlight => ?_
  by_cases hfull : true ∧ inFlight = wholeRequestSubmissionWindowSlots
  · rw [if_pos hfull, hfull.2]
    exact (retireOldest_ends hdone 1).conseq (fun _ h => h)
      (fun _ _ h => ⟨h.1, h.2 ▸ by decide⟩) fun _ _ h => h
  · rw [if_neg hfull]
    refine Ends.ret fun window h => ⟨h.1, ?_⟩
    obtain ⟨⟨pending, htracked, -, -⟩, hin⟩ := h
    have hle := htracked.windowed.pending_le
    rw [← htracked.inFlight, hin] at hle
    rw [hin]
    exact lt_of_le_of_ne hle fun heq => hfull ⟨rfl, heq⟩

lemma recordSubmission_ends {submission : ℕ × ℕ} (hdone : done ++ [submission] <+: whole) :
    Ends (fun window => Running device done window ∧
        window.inFlight < wholeRequestSubmissionWindowSlots)
      (recordSubmission true device submission.1 submission.2)
      (fun _ => Running device (done ++ [submission])) (Stopped device whole) := by
  rintro window ⟨hrunning, hroom⟩
  have hstopped := hrunning.stopped ((List.prefix_append done _).trans hdone)
  obtain ⟨pending, htracked, hsent, hquiet⟩ := hrunning
  rw [recordSubmission, outcome_mk, if_neg (by decide : ¬ true = false)]
  by_cases hrecord : device.record submission.1 submission.2 ≠ 0
  · rw [if_pos hrecord]
    exact hstopped _
  · rw [if_neg hrecord]
    refine ⟨_, htracked.record (htracked.inFlight ▸ hroom) submission.1 submission.2, ?_, hquiet⟩
    rw [← hsent, SubmissionWindow.recordNext, recorded_append, recorded_record, recorded_nil]

lemma submit_ends {submission : ℕ × ℕ} (hdone : done ++ [submission] <+: whole) :
    Ends (Running device done) (submit cfg plan promptWide true device submission)
      (fun _ => Running device (done ++ [submission])) (Stopped device whole) := by
  have hearlier : done <+: whole := (List.prefix_append done _).trans hdone
  refine Ends.bind (makeSubmissionRoom_ends hearlier) fun _ => ?_
  refine Ends.bind ?_ fun _ => recordSubmission_ends hdone
  exact Ends.ofExcept (fun _ _ _ h => h) fun status _ _ h => h.1.stopped hearlier status

lemma drainSubmissions_ends (n : ℕ) :
    Ends (fun window => Running device whole window ∧ window.inFlight = n)
      (drainSubmissions cfg plan promptWide true device n)
      (fun _ window => Running device whole window ∧ window.inFlight = 0)
      (Stopped device whole) := by
  induction n with
  | zero => exact Ends.ret fun _ h => h
  | succ n ih =>
    have hread : Ends (fun window => Running device whole window ∧ window.inFlight = n + 1)
        (examine SubmissionWindow.inFlight : SubmissionM ℕ)
        (fun inFlight window => (Running device whole window ∧ window.inFlight = n + 1) ∧
          inFlight = n + 1)
        (Stopped device whole) := Ends.examine fun _ h => ⟨h, h.2⟩
    refine Ends.bind hread fun inFlight => ?_
    rintro window ⟨hwindow, rfl⟩
    rw [if_pos (Nat.succ_ne_zero n)]
    exact Ends.bind (retireOldest_ends List.prefix_rfl n) (fun _ => ih) window hwindow

lemma submitLayers_ends :
    Ends (Running device []) (submitLayers cfg plan promptWide true device)
      (fun _ window => Running device (submissions cfg plan promptWide) window ∧
        window.inFlight = 0)
      (Stopped device (submissions cfg plan promptWide)) := by
  rw [submitLayers_eq]
  have hprepare : Ends (Running device [])
      (ExceptT.mk (pure (errorOf device.prepare)) : SubmissionM Unit)
      (fun _ => Running device []) (Stopped device (submissions cfg plan promptWide)) :=
    Ends.ofExcept (fun _ _ _ h => h) fun status _ _ h => h.stopped List.nil_prefix status
  refine Ends.bind hprepare fun _ => ?_
  have hloop : Ends (Running device [])
      ((submissions cfg plan promptWide).forM (submit cfg plan promptWide true device))
      (fun _ => Running device (submissions cfg plan promptWide))
      (Stopped device (submissions cfg plan promptWide)) := by
    refine Ends.forM _ fun done submission more hsplit => submit_ends ?_
    rw [hsplit, List.append_cons done submission more]
    exact List.prefix_append _ _
  refine Ends.bind hloop fun _ => ?_
  have hread : Ends (Running device (submissions cfg plan promptWide))
      (examine SubmissionWindow.inFlight : SubmissionM ℕ)
      (fun inFlight window => Running device (submissions cfg plan promptWide) window ∧
        window.inFlight = inFlight)
      (Stopped device (submissions cfg plan promptWide)) := Ends.examine fun _ h => ⟨h, rfl⟩
  exact Ends.bind hread drainSubmissions_ends

end Run

section Unbounded

variable {cfg : BuildConfig} {plan : PrefillExecutionPlan} {promptWide : Bool}
  {device : SubmissionAnswers}

-- Without a probe no event is recorded.
lemma submitLayers_unbounded :
    Ends (Exactly {}) (submitLayers cfg plan promptWide false device) (fun _ => Exactly {})
      (fun _ => Exactly {}) := by
  have hstatus (status : Option ReferenceRunnerStatus) : Ends (Exactly ({} : SubmissionWindow))
      (ExceptT.mk (pure (errorOf status)) : SubmissionM Unit) (fun _ => Exactly {})
      (fun _ => Exactly {}) := Ends.ofExcept (fun _ _ _ h => h) fun _ _ _ h => h
  have hread : Ends (Exactly ({} : SubmissionWindow))
      (examine SubmissionWindow.inFlight : SubmissionM ℕ)
      (fun inFlight window => Exactly {} window ∧ inFlight = 0) (fun _ => Exactly {}) :=
    Ends.examine fun window h => ⟨h, by rw [h]⟩
  have hsubmit (submission : ℕ × ℕ) : Ends (Exactly ({} : SubmissionWindow))
      (submit cfg plan promptWide false device submission) (fun _ => Exactly {})
      (fun _ => Exactly {}) := by
    have hroom : Ends (Exactly ({} : SubmissionWindow))
        (makeSubmissionRoom cfg plan promptWide false device) (fun _ => Exactly {})
        (fun _ => Exactly {}) := by
      refine Ends.bind hread fun inFlight => ?_
      rw [if_neg (by simp)]
      exact Ends.ret fun _ h => h.1
    refine Ends.bind hroom fun _ => Ends.bind (hstatus _) fun _ window h => ?_
    rw [recordSubmission, outcome_mk, if_pos rfl]
    exact h
  rw [submitLayers_eq]
  refine Ends.bind (hstatus _) fun _ => ?_
  have hloop : Ends (Exactly ({} : SubmissionWindow))
      ((submissions cfg plan promptWide).forM (submit cfg plan promptWide false device))
      (fun _ => Exactly {}) (fun _ => Exactly {}) :=
    @Ends.forM _ _ _ _ _ (fun _ => Exactly ({} : SubmissionWindow)) _ fun _ _ _ _ => hsubmit _
  refine Ends.bind hloop fun _ => ?_
  refine Ends.bind hread fun inFlight window h => ?_
  rw [h.2]
  exact h.1

end Unbounded

section Outcome

-- A run of the layer loop, however it ends.
structure Submits (cfg : BuildConfig) (plan : PrefillExecutionPlan) (promptWide bounded : Bool)
    (device : SubmissionAnswers) (run : Except ReferenceRunnerStatus Unit × SubmissionWindow) :
    Prop where
  tracked : ∃ pending, Tracked run.2 pending
  sent : recorded run.2.log <+: submissions cfg plan promptWide
  cancelled : ∀ n, Cancels device n → n ≤ run.2.retirements → run.2.retirements = n ∧
    ∃ status, run.1 = .error status ∧ status.error = .cancelled ∧
      status.retiredPrefillQuanta = n
  complete : run.1 = .ok () → run.2.retirements =
    if bounded then (submissions cfg plan promptWide).length else 0

variable {cfg : BuildConfig} {plan : PrefillExecutionPlan} {promptWide : Bool}
  {device : SubmissionAnswers}

lemma Quiet.not_cancels {n m : ℕ} (hquiet : Quiet device m) (hcancels : Cancels device n) :
    m < n := by
  by_contra hle
  have hfalse := hquiet n hcancels.1 (Nat.le_of_not_lt hle)
  rw [hcancels.2.1] at hfalse
  exact nomatch hfalse

lemma Cancels.unique {n m : ℕ} (hn : Cancels device n) (hm : Cancels device m) : n = m := by
  obtain hlt | heq | hlt := Nat.lt_trichotomy n m
  · have hfalse := hm.2.2 n hn.1 hlt
    rw [hn.2.1] at hfalse
    exact nomatch hfalse
  · exact heq
  · have hfalse := hn.2.2 m hm.1 hlt
    rw [hm.2.1] at hfalse
    exact nomatch hfalse

lemma submits_empty {bounded : Bool} {result : Except ReferenceRunnerStatus Unit}
    (hcomplete : result = .ok () →
      0 = if bounded then (submissions cfg plan promptWide).length else 0) :
    Submits cfg plan promptWide bounded device (result, {}) where
  tracked := ⟨[], tracked_empty⟩
  sent := List.nil_prefix
  cancelled _ hcancels hle := absurd hle (Nat.not_le.mpr hcancels.1)
  complete := hcomplete

lemma submits_bounded :
    Submits cfg plan promptWide true device
      (outcome (submitLayers cfg plan promptWide true device) {}) := by
  obtain ⟨hok, hstop⟩ := (@submitLayers_ends cfg plan promptWide device).elim running_empty
  rcases hrun : outcome (submitLayers cfg plan promptWide true device) {} with ⟨result, window⟩
  rw [hrun] at hok hstop
  cases result with
  | ok _ =>
    obtain ⟨⟨pending, htracked, hsent, hquiet⟩, hin⟩ := hok () rfl
    refine ⟨⟨pending, htracked⟩, hsent ▸ List.prefix_rfl, fun n hcancels hle => ?_, fun _ => ?_⟩
    · exact absurd hle (Nat.not_le.mpr (hquiet.not_cancels hcancels))
    · have hnone : pending.length = 0 := htracked.inFlight ▸ hin
      rw [if_pos rfl, ← hsent, htracked.recorded_length, hnone]
      exact htracked.retirements
  | error status =>
    obtain ⟨htracked, hsent, hcause⟩ := hstop status rfl
    refine ⟨htracked, hsent, fun n hcancels hle => ?_, fun h => nomatch h⟩
    obtain hquiet | ⟨hcancelled, herror, hretired⟩ := hcause
    · exact absurd hle (Nat.not_le.mpr (hquiet.not_cancels hcancels))
    · have hn := hcancels.unique hcancelled
      exact ⟨hn.symm, status, rfl, herror, hretired.trans hn.symm⟩

lemma submits_run (bounded : Bool) :
    Submits cfg plan promptWide bounded device
      (outcome (submitLayers cfg plan promptWide bounded device) {}) := by
  cases bounded with
  | true => exact submits_bounded
  | false =>
    obtain ⟨hok, hstop⟩ := (@submitLayers_unbounded cfg plan promptWide device).elim rfl
    rcases hrun : outcome (submitLayers cfg plan promptWide false device) {} with
      ⟨result, window⟩
    rw [hrun] at hok hstop
    have hwindow : window = {} := by
      cases result with
      | ok _ => exact hok () rfl
      | error status => exact hstop status rfl
    rw [hwindow]
    exact submits_empty fun _ => rfl

end Outcome

end Qwen3xOrin.Runner
