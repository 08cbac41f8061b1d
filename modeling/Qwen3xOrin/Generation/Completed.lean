import Qwen3xOrin.Generation.PrefillModes

/-! The decode loop, and the transcript of every completed generation. -/

namespace Qwen3xOrin.Generation

open Prefill Library

variable {σ F : Type}

def observerCalls (observed : Bool) (token index : ℕ) : List Call :=
  if observed then [.committedToken token index] else []

def tokenCalls (observed : Bool) (promptLength : ℕ) (generated : List ℕ) (j : ℕ) : List Call :=
  (if j = 0 then [] else [.decodeStep (promptLength + j - 1) (generated.getD (j - 1) 0)]) ++
    observerCalls observed (generated.getD j 0) j

def decodeCalls (observed : Bool) (promptLength : ℕ) (generated : List ℕ) : List Call :=
  (List.range generated.length).flatMap (tokenCalls observed promptLength generated)

lemma decodeCalls_append (observed : Bool) (promptLength token : ℕ) (generated : List ℕ) :
    decodeCalls observed promptLength (generated ++ [token]) =
      decodeCalls observed promptLength generated ++
      ((if generated = [] then [] else
        [.decodeStep (promptLength + generated.length - 1) (generated.getLastD 0)]) ++
      observerCalls observed token generated.length) := by
  have hget : ∀ j < generated.length, (generated ++ [token]).getD j 0 = generated.getD j 0 :=
    fun j hj => by
      simp [List.getD_eq_getElem?_getD, List.getElem?_append_left hj]
  have hlast : (generated ++ [token]).getD generated.length 0 = token := by
    simp [List.getD_eq_getElem?_getD]
  rw [decodeCalls, List.length_append, List.length_singleton, List.range_succ,
    List.flatMap_append]
  congr 1
  · apply List.flatMap_congr
    intro j hj
    have hlt := List.mem_range.mp hj
    rw [tokenCalls, tokenCalls, hget j hlt, hget (j - 1) (by omega)]
  · rw [List.flatMap_singleton, tokenCalls, hlast]
    congr 1
    rcases List.eq_nil_or_concat' generated with rfl | ⟨front, last, rfl⟩
    · rfl
    · have hfront : (front ++ [last]).length ≠ 0 := by simp
      rw [if_neg hfront, if_neg (by simp), hget _ (by omega)]
      simp [List.getD_eq_getElem?_getD]

lemma decodeCalls_committed (promptLength : ℕ) (generated : List ℕ) :
    (decodeCalls true promptLength generated).filterMap Call.committed = generated.zipIdx := by
  induction generated using List.reverseRecOn with
  | nil => rfl
  | append_singleton generated token ih =>
    rw [decodeCalls_append, List.filterMap_append, ih, List.zipIdx_append, List.filterMap_append]
    split_ifs <;> simp [observerCalls, Call.committed]

lemma decodeCalls_noCommit (observed : Bool) (promptLength : ℕ) (generated : List ℕ) :
    ∀ call ∈ decodeCalls observed promptLength generated, call.isCommit = false := by
  intro call hcall
  obtain ⟨j, -, hcall⟩ := List.mem_flatMap.mp hcall
  rcases List.mem_append.mp hcall with hstep | hobserver
  · split_ifs at hstep with hj
    · cases hstep
    · rw [List.mem_singleton.mp hstep]
      rfl
  · cases observed
    · cases hobserver
    · rw [List.mem_singleton.mp hobserver]
      rfl

lemma observerCalls_within {observed : Bool} {bound token index : ℕ} :
    Within bound (observerCalls observed token index) := by
  cases observed <;> simp [observerCalls, Within, Call.endPosition]

structure Decoding (promptTokenIds : List ℕ) (options : GenerationControlOptions σ F)
    (before : List Call) (control : GenerationControl F) (calls : List Call) : Prop where
  nonempty : control.generatedTokenIds ≠ []
  transcript : Transcript (promptTokenIds ++ control.generatedTokenIds.dropLast) control.steps
  predictions : (control.steps.drop (promptTokenIds.length - 1)).map
    (predictedToken options.logitsMode) = control.generatedTokenIds.map some
  recorded : calls = before ++
    decodeCalls options.committedToken.isSome promptTokenIds.length control.generatedTokenIds

structure Finished (promptTokenIds : List ℕ) (options : GenerationControlOptions σ F)
    (before : List Call) (control : GenerationControl F) (calls : List Call) : Prop extends
    Decoding promptTokenIds options before control calls where
  atMost : control.generatedTokenIds.length ≤ options.maxNewTokens
  stop_iff : control.stopReason = .imEnd ↔
    control.generatedTokenIds.getLast? = some options.stopTokenId
  stop_last : ∀ token ∈ control.generatedTokenIds.dropLast, token ≠ options.stopTokenId
  limit : control.stopReason = .maxNewTokens →
    control.generatedTokenIds.length = options.maxNewTokens

namespace Decoding

variable {promptTokenIds : List ℕ} {options : GenerationControlOptions σ F}
  {before calls : List Call} {control next : GenerationControl F}

lemma length (h : Decoding promptTokenIds options before control calls) :
    control.steps.length = promptTokenIds.length + control.generatedTokenIds.length - 1 := by
  have hpos := List.length_pos_iff.mpr h.nonempty
  rw [h.transcript.length, List.length_append, List.length_dropLast]
  omega

lemma first {predicted : ℕ}
    (h : Prefilled promptTokenIds options.logitsMode control predicted)
    (hsteps : next.steps = control.steps) (hgenerated : next.generatedTokenIds = [predicted]) :
    Decoding promptTokenIds options before next
      (before ++ observerCalls options.committedToken.isSome predicted 0) where
  nonempty := by simp [hgenerated]
  transcript := by simpa [hgenerated, hsteps] using h.transcript
  predictions := by
    obtain ⟨front, step, hfront, hpredicted⟩ := h.prediction
    have hlen := h.transcript.length
    rw [hfront, List.length_append, List.length_singleton] at hlen
    rw [hsteps, hgenerated, hfront, List.drop_left' (by omega)]
    simp [hpredicted]
  recorded := by simp [hgenerated, decodeCalls, tokenCalls, List.range_succ]

lemma push (h : Decoding promptTokenIds options before control calls)
    {step : ReferenceStepResult F} {predicted : ℕ} (hpos : step.position = control.steps.length)
    (htoken : step.inputTokenId = control.generatedTokenIds.getLastD 0)
    (hpredicted : predictedToken options.logitsMode step = some predicted)
    (hsteps : next.steps = control.steps ++ [step])
    (hgenerated : next.generatedTokenIds = control.generatedTokenIds ++ [predicted]) :
    Decoding promptTokenIds options before next
      (calls ++ [.decodeStep control.steps.length (control.generatedTokenIds.getLastD 0)] ++
        observerCalls options.committedToken.isSome predicted control.generatedTokenIds.length) where
  nonempty := by simp [hgenerated]
  transcript := by
    have hpush := h.transcript.push hpos htoken
    obtain ⟨front, last, hlast⟩ :=
      (List.eq_nil_or_concat' control.generatedTokenIds).resolve_left h.nonempty
    rw [hsteps, hgenerated, List.dropLast_concat]
    simpa [hlast] using hpush
  predictions := by
    have hle : promptTokenIds.length - 1 ≤ control.steps.length := by
      have := h.length
      omega
    rw [hsteps, hgenerated, List.drop_append_of_le_length hle, List.map_append, h.predictions]
    simp [hpredicted]
  recorded := by
    rw [hgenerated, decodeCalls_append, if_neg h.nonempty, ← h.length, h.recorded]
    simp

lemma stopped (h : Decoding promptTokenIds options before control calls) {front : List ℕ}
    {predicted : ℕ} (hgenerated : control.generatedTokenIds = front ++ [predicted])
    (hfree : ∀ token ∈ front, token ≠ options.stopTokenId)
    (hlen : control.generatedTokenIds.length ≤ options.maxNewTokens)
    (hreason : control.stopReason = .imEnd ↔ predicted = options.stopTokenId)
    (hlimit : control.stopReason = .maxNewTokens →
      control.generatedTokenIds.length = options.maxNewTokens) :
    Finished promptTokenIds options before control calls :=
  { h with
    atMost := hlen
    stop_iff := by simpa [hgenerated] using hreason
    stop_last := by simpa [hgenerated] using hfree
    limit := hlimit }

end Decoding

lemma commitToken_spec {options : GenerationControlOptions σ F} {control : GenerationControl F}
    {calls : List Call} {bound token : ℕ} {elapsed : F} (hcalls : Within bound calls) :
    Triple (Logged calls) (commitToken options control token elapsed)
      (fun r world => Logged (calls ++ observerCalls options.committedToken.isSome token
          control.generatedTokenIds.length) world ∧
        r.1 = { control with generatedTokenIds := control.generatedTokenIds ++ [token] })
      (StoppedWithin bound) := by
  unfold commitToken
  cases options.committedToken with
  | none => exact Triple.ret fun world hworld => ⟨by simpa [observerCalls, Logged] using hworld, rfl⟩
  | some committedToken =>
    refine Triple.bind (invoke_spec _ _ hcalls (Nat.zero_le _)) fun goOn => ?_
    exact Triple.ret fun world hworld => ⟨by simpa [observerCalls, Logged] using hworld, rfl⟩

variable [FloatingPoint F]

lemma decodeLoop_spec {promptTokenIds : List ℕ} {options : GenerationControlOptions σ F}
    (decodeStep : StepFunction σ F) {before : List Call} {bound : ℕ}
    (hbound : promptTokenIds.length + options.maxNewTokens - 1 ≤ bound) (n : ℕ)
    {control : GenerationControl F} {calls : List Call} (hcalls : Within bound calls)
    (hdecoding : Decoding promptTokenIds options before control calls)
    (hleft : control.generatedTokenIds.length + n = options.maxNewTokens)
    (hfree : ∀ token ∈ control.generatedTokenIds, token ≠ options.stopTokenId)
    (hreason : control.stopReason = .maxNewTokens) :
    Triple (Logged calls) (decodeLoop options decodeStep n control)
      (fun after world => Within bound world.calls ∧
        Finished promptTokenIds options before after world.calls)
      (StoppedWithin bound) := by
  induction n generalizing control calls with
  | zero =>
    refine Triple.ret fun world hworld => ?_
    rw [show world.calls = calls from hworld]
    obtain ⟨front, last, hlast⟩ :=
      (List.eq_nil_or_concat' control.generatedTokenIds).resolve_left hdecoding.nonempty
    rw [hlast] at hfree
    refine ⟨hcalls, hdecoding.stopped hlast (fun token ht => hfree token (by simp [ht]))
      hleft.le ?_ fun _ => hleft⟩
    simpa [hreason] using hfree last (by simp)
  | succ n ih =>
    have hlen := hdecoding.length
    have hpos := List.length_pos_iff.mpr hdecoding.nonempty
    have hend : (Call.decodeStep control.steps.length
        (control.generatedTokenIds.getLastD 0)).endPosition ≤ bound := by
      simp only [Call.endPosition]
      omega
    have hcalls' := hcalls.append (Within.single hend)
    refine Triple.bind (execute_spec decodeStep .escaped hcalls hend) ?_
    rintro ⟨stepped, elapsed, predicted⟩
    refine Triple.assume ?_
    rintro ⟨step, rfl, hposition, htoken, hpredicted⟩
    refine Triple.bind (lift_spec hcalls' fun _ _ => trivial) fun decodeAfterFirst => ?_
    refine Triple.assume fun _ => ?_
    refine Triple.bind (lift_spec hcalls' fun _ _ => trivial) fun totalGeneration => ?_
    refine Triple.assume fun _ => ?_
    refine Triple.bind (commitToken_spec hcalls') ?_
    rintro ⟨committed, goOn⟩
    refine Triple.assume ?_
    rintro rfl
    dsimp only
    split_ifs with hstop hcancel
    · refine Triple.ret fun world hworld => ?_
      rw [show world.calls = _ from hworld]
      refine ⟨hcalls'.append observerCalls_within, ?_⟩
      refine (hdecoding.push hposition htoken (hpredicted rfl).1 rfl rfl).stopped rfl hfree ?_ ?_ ?_
      · simp only [List.length_append, List.length_singleton]
        omega
      · simpa using hstop
      · simp
    · refine Triple.ret fun world hworld => ?_
      rw [show world.calls = _ from hworld]
      refine ⟨hcalls'.append observerCalls_within, ?_⟩
      refine (hdecoding.push hposition htoken (hpredicted rfl).1 rfl rfl).stopped rfl hfree ?_ ?_ ?_
      · simp only [List.length_append, List.length_singleton]
        omega
      · simpa using hstop
      · simp
    · refine ih (hcalls'.append observerCalls_within)
        (hdecoding.push hposition htoken (hpredicted rfl).1 rfl rfl) ?_ ?_ hreason
      · simp only [List.length_append, List.length_singleton]
        omega
      · intro token ht
        rcases List.mem_append.mp ht with hold | hnew
        · exact hfree token hold
        · rw [List.mem_singleton.mp hnew]
          exact hstop

lemma generate_spec {promptTokenIds : List ℕ} {options : GenerationControlOptions σ F}
    (decodePlan : DecodePlan σ F) {bound predicted : ℕ} {control : GenerationControl F}
    {calls : List Call} (hbound : promptTokenIds.length + options.maxNewTokens - 1 ≤ bound)
    (hmax : 0 < options.maxNewTokens) (hcalls : Within bound calls)
    (hprefilled : Prefilled promptTokenIds options.logitsMode control predicted) :
    Triple (Logged calls) (generate options decodePlan none control predicted)
      (fun after world => Within bound world.calls ∧
        Finished promptTokenIds options calls after world.calls)
      (StoppedWithin bound) := by
  have hempty := hprefilled.generated
  have hcalls' : Within bound (calls ++ observerCalls options.committedToken.isSome predicted 0) :=
    hcalls.append observerCalls_within
  refine Triple.bind (commitToken_spec hcalls) ?_
  rintro ⟨committed, goOn⟩
  refine Triple.assume ?_
  rintro rfl
  dsimp only
  rw [hempty]
  split_ifs with hstop hcancel
  · refine Triple.ret fun world hworld => ?_
    rw [show world.calls = _ from hworld]
    refine ⟨hcalls', Decoding.stopped (Decoding.first hprefilled rfl rfl)
      (List.nil_append [predicted]).symm ?_ hmax ?_ ?_⟩
    · simp
    · simpa using hstop
    · simp
  · refine Triple.ret fun world hworld => ?_
    rw [show world.calls = _ from hworld]
    refine ⟨hcalls', Decoding.stopped (Decoding.first hprefilled rfl rfl)
      (List.nil_append [predicted]).symm ?_ hmax ?_ ?_⟩
    · simp
    · simpa using hstop
    · simp
  · refine Triple.bind (required_spec hcalls') fun decodeStep => ?_
    refine Triple.assume fun _ => ?_
    refine decodeLoop_spec decodeStep hbound _ hcalls' (Decoding.first hprefilled rfl rfl) ?_ ?_
      hprefilled.stopReason
    · simp only [List.nil_append, List.length_singleton]
      omega
    · simpa using hstop

structure CompletedGeneration (cfg : BuildConfig) (promptTokenIds : List ℕ)
    (options : GenerationControlOptions σ F) (control : GenerationControl F)
    (calls : List Call) : Prop where
  generated_pos : 1 ≤ control.generatedTokenIds.length
  generated_le : control.generatedTokenIds.length ≤ options.maxNewTokens
  positions : control.steps.map (·.position) =
    List.range (promptTokenIds.length + control.generatedTokenIds.length - 1)
  inputTokens : control.steps.map (·.inputTokenId) =
    promptTokenIds ++ control.generatedTokenIds.dropLast
  predictions : (control.steps.drop (promptTokenIds.length - 1)).map
    (predictedToken options.logitsMode) = control.generatedTokenIds.map some
  stop_iff : control.stopReason = .imEnd ↔
    control.generatedTokenIds.getLast? = some options.stopTokenId
  stop_last : ∀ token ∈ control.generatedTokenIds.dropLast, token ≠ options.stopTokenId
  limit : control.stopReason = .maxNewTokens →
    control.generatedTokenIds.length = options.maxNewTokens
  observed : options.committedToken.isSome = true →
    calls.filterMap Call.committed = control.generatedTokenIds.zipIdx
  committedOnce : options.prefillWholeRequestLayerMajor = true →
    ∃ plan progress rest, calls =
        .wholeRequest plan promptTokenIds ::
        .finishPrefill (promptTokenIds.length - 1) (promptTokenIds.getLastD 0) ::
        .commitWholeRequest plan progress :: rest ∧
      completeUncommittedWholeRequestPrefillProgress cfg plan progress = true ∧
      ∀ call ∈ rest, call.isCommit = false

omit [FloatingPoint F] in
lemma PrefillCalls.quiet {cfg : BuildConfig} {promptTokenIds : List ℕ}
    {options : GenerationControlOptions σ F} {calls : List Call}
    {topology : Option PrefillExecutionPlan}
    (h : PrefillCalls cfg promptTokenIds options calls topology) :
    calls.filterMap Call.committed = [] := by
  cases topology with
  | none =>
    obtain ⟨executions, rfl, -, -, hexecuted⟩ := h
    rw [List.filterMap_append, List.filterMap_eq_nil_iff.mpr, List.nil_append]
    · rfl
    · intro call hc
      have hp := hexecuted call hc
      cases call <;> first | rfl | cases hp
  | some plan =>
    obtain ⟨progress, rfl, -⟩ := h
    rfl

omit [FloatingPoint F] in
lemma Finished.completed {cfg : BuildConfig} {promptTokenIds : List ℕ}
    {options : GenerationControlOptions σ F} {before calls : List Call}
    {control : GenerationControl F} {topology : Option PrefillExecutionPlan}
    (h : Finished promptTokenIds options before control calls)
    (hplan : AdmittedPlan promptTokenIds options topology)
    (hbefore : PrefillCalls cfg promptTokenIds options before topology) :
    CompletedGeneration cfg promptTokenIds options control calls where
  generated_pos := List.length_pos_iff.mpr h.nonempty
  generated_le := h.atMost
  positions := by rw [h.transcript.positions, ← h.transcript.length, h.length]
  inputTokens := h.transcript.inputTokens
  predictions := h.predictions
  stop_iff := h.stop_iff
  stop_last := h.stop_last
  limit := h.limit
  observed hobserved := by
    rw [h.recorded, List.filterMap_append, hbefore.quiet, hobserved, decodeCalls_committed,
      List.nil_append]
  committedOnce hwhole := by
    cases topology with
    | none => simp [AdmittedPlan, hwhole] at hplan
    | some plan =>
      obtain ⟨progress, rfl, hprogress⟩ := hbefore
      exact ⟨plan, progress, _, h.recorded, hprogress, decodeCalls_noCommit _ _ _⟩

lemma prefill_spec {cfg : BuildConfig} {promptTokenIds : List ℕ}
    {options : GenerationControlOptions σ F} (prefillPlan : PrefillPlan σ F) {bound : ℕ}
    {topology : Option PrefillExecutionPlan} (hadmitted : Admitted promptTokenIds options)
    (hplan : AdmittedPlan promptTokenIds options topology)
    (hbound : promptTokenIds.length ≤ bound) :
    Triple (Logged []) (prefill cfg topology promptTokenIds options prefillPlan)
      (fun r world => Within bound world.calls ∧
        PrefillCalls cfg promptTokenIds options world.calls topology ∧
        Prefilled promptTokenIds options.logitsMode r.1 r.2)
      (StoppedWithin bound) := by
  cases topology with
  | none => exact legacyPrefill_spec prefillPlan hadmitted hbound
  | some plan =>
    exact wholePrefill_spec prefillPlan hadmitted hbound (hadmitted.allPrompt hplan.1) hplan.2

lemma runGenerationControl_spec (cfg : BuildConfig) (promptTokenIds : List ℕ)
    (options : GenerationControlOptions σ F) (prefillPlan : PrefillPlan σ F)
    (decodePlan : DecodePlan σ F) :
    Triple (Logged []) (runGenerationControl cfg promptTokenIds options prefillPlan decodePlan)
      (fun control world => Within options.maxSequenceLength world.calls ∧
        ∃ topology before, AdmittedPlan promptTokenIds options topology ∧
          PrefillCalls cfg promptTokenIds options before topology ∧
          Finished promptTokenIds options before control world.calls)
      (StoppedWithin options.maxSequenceLength) := by
  have hnil : Within options.maxSequenceLength [] := by simp [Within]
  refine Triple.bind (lift_spec hnil fun topology => admission_ok) fun topology => ?_
  refine Triple.assume ?_
  rintro ⟨hadmitted, hplan⟩
  have hcapacity := hadmitted.capacity
  have hmax := hadmitted.maxNewTokens
  have hbound : promptTokenIds.length ≤ options.maxSequenceLength := by omega
  refine Triple.bind (prefill_spec prefillPlan hadmitted hplan hbound) ?_
  rintro ⟨control, predicted⟩
  refine with_calls ?_
  rintro before ⟨hwithin, hbefore, hprefilled⟩
  dsimp only [startService]
  rw [pure_bind]
  exact (generate_spec decodePlan hcapacity hmax hwithin hprefilled).conseq (fun _ h => h)
    (fun after world h => ⟨h.1, topology, before.calls, hplan, hbefore, h.2⟩) fun _ h => h

theorem runGenerationControl_transcript (cfg : BuildConfig) (promptTokenIds : List ℕ)
    (options : GenerationControlOptions σ F) (prefillPlan : PrefillPlan σ F)
    (decodePlan : DecodePlan σ F) (context : σ) :
    let run := outcome (runGenerationControl cfg promptTokenIds options prefillPlan decodePlan)
      { context := context }
    (∀ call ∈ run.2.calls, call.endPosition ≤ options.maxSequenceLength) ∧
    ∀ control, run.1 = .ok control →
      CompletedGeneration cfg promptTokenIds options control run.2.calls := by
  intro run
  obtain ⟨hok, hstopped⟩ := (runGenerationControl_spec cfg promptTokenIds options prefillPlan
    decodePlan).elim (show Logged [] { context := context } from rfl)
  refine ⟨?_, fun control hc => ?_⟩
  · cases hresult : run.1 with
    | error stop => exact hstopped stop hresult
    | ok control => exact (hok control hresult).1
  · obtain ⟨-, topology, before, hplan, hbefore, hfinished⟩ := hok control hc
    exact hfinished.completed hplan hbefore

end Qwen3xOrin.Generation
