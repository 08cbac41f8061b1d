import Qwen3xOrin.Mtp.Service

/-! A backend whose staged rows are the target's own answers, and one round over it. `Idle`
says which tokens the target has consumed between rounds, `Opened` that a round may still
verify so many rows, `Staged` which inputs were verified and how many of them are committed. -/

namespace Qwen3xOrin.Mtp

open Prefill Library Generation FloatingPoint

variable {τ κ F : Type}

structure Lossless (service : Service τ κ F) (next : List ℕ → ℕ) where
  Idle : List ℕ → τ → Prop
  Opened : List ℕ → ℕ → τ → Prop
  Staged : List ℕ → List ℕ → ℕ → τ → Prop
  idle_position : ∀ {history target}, Idle history target →
    service.currentPosition target = history.length
  staged_position : ∀ {history inputs committed target}, Staged history inputs committed target →
    service.currentPosition target = history.length + committed
  begin_ok : ∀ {history target rows}, Idle history target → 0 < rows →
    rows ≤ maximumVerifyRows → history.length + rows ≤ service.maxSequenceLength →
    (service.backend.begin rows target).1 = true ∧
      Opened history rows (service.backend.begin rows target).2
  propose_ok : ∀ {history target seed} (stop : ℕ) {maximum}, seed < referenceVocabularySize →
    0 < maximum → Opened history (maximum + 1) target →
    let r := service.backend.proposeEosBounded seed maximum stop target
    r.1.ok = true ∧ badProposal stop maximum r.1 = false ∧ r.1.count ≤ r.1.draft.length ∧
      inVocabulary referenceVocabularySize r.1.draft r.1.count = true ∧
      Opened history (r.1.count + 1) r.2
  verify_ok : ∀ {history target seed draft count}, seed < referenceVocabularySize →
    count ≤ draft.length → inVocabulary referenceVocabularySize draft count = true →
    Opened history (count + 1) target →
    let r := service.backend.verify seed draft count target
    r.1.1 = true ∧
      (∀ i ≤ count, r.1.2.getD i 0 = next (history ++ seed :: draft.take i)) ∧
      Staged history (seed :: draft.take count) 0 r.2
  commit_ok : ∀ {history inputs committed target}, Staged history inputs committed target →
    committed < inputs.length →
    (0 < committed → inputs.getD committed 0 = next (history ++ inputs.take committed)) →
    let r := service.backend.commitPrefix (committed + 1)
      (next (history ++ inputs.take (committed + 1))) target
    r.1 = true ∧ Staged history inputs (committed + 1) r.2
  finish_ok : ∀ {history inputs committed target}, Staged history inputs committed target →
    0 < committed → (service.backend.finish target).1 = true ∧
      Idle (history ++ inputs.take committed) (service.backend.finish target).2

def statusReason : RoundStatus → Option ReferenceStopReason
  | .stop => some .imEnd
  | .cancelled => some .cancelled
  | _ => none

lemma statusReason_some {status : RoundStatus} {reason : ReferenceStopReason}
    (h : statusReason status = some reason) :
    (status = .stop ∧ reason = .imEnd) ∨ (status = .cancelled ∧ reason = .cancelled) := by
  cases status <;> simp_all [statusReason]

lemma statusReason_none {status : RoundStatus} (h : statusReason status = none) :
    status ≠ .stop ∧ status ≠ .cancelled := by
  cases status <;> simp_all [statusReason]

variable [FloatingPoint F]

section

variable {service : Service τ κ F} {options : GenerationControlOptions (τ × κ) F}
  {client : Option (Client κ)} {next : List ℕ → ℕ}

structure Observed (e : Emission κ) (observer : Observer κ F) : Prop extends
    Shows e observer.control observer.calls observer.context where
  stopReason : observer.control.stopReason = .maxNewTokens

lemma emit_observed (hclient : options.committedToken = client.map Client.callback)
    {promptLength stopToken token : ℕ} {e : Emission κ} {observer : Observer κ F} {target : τ}
    (h : Observed e observer)
    (hposition : service.currentPosition target = promptLength + e.generated.length) :
    ∃ observer', service.emit options token (target, observer) =
        ((publish client token (e.stepped promptLength token)).1, (target, observer')) ∧
      Observed (consume client promptLength stopToken token e).2 observer' := by
  have hgenerated := h.generated
  have hcontext := h.context
  have hstep : (Service.emitted observer.control (service.currentPosition target - 1) token
      (service.tokenMilliseconds target)).steps.map stepView =
      (e.stepped promptLength token).steps := by
    simp [Service.emitted, Emission.stepped, stepView, h.steps, hposition, hgenerated]
  unfold Service.emit
  rw [hclient]
  cases client with
  | none =>
    refine ⟨_, rfl, ⟨?_, hstep, h.committed, hcontext, h.rounds⟩, h.stopReason⟩
    simp [Service.emitted, consume, publish, Emission.stepped, hgenerated]
  | some client =>
    refine ⟨
      { context := (client token observer.control.generatedTokenIds.length observer.context).2
        calls := observer.calls ++ [.committedToken token observer.control.generatedTokenIds.length]
        control := Service.emitted observer.control (service.currentPosition target - 1) token
          (service.tokenMilliseconds target) }, ?_, ⟨?_, hstep, ?_, ?_, ?_⟩, h.stopReason⟩
    · simp [Client.callback, publish, Emission.stepped, hgenerated, hcontext]
    · simp [Service.emitted, consume, publish, Emission.stepped, hgenerated]
    · simp [consume, publish, Emission.stepped, List.filterMap_append, Call.committed, h.committed,
        hgenerated]
    · simp [consume, publish, Emission.stepped, hgenerated, hcontext]
    · simpa using h.rounds

lemma outcome_observe {β ω : Type} {observer : TokenObserver β ω} {token : ℕ} {s s' : β × ω}
    {proceed : Bool} (h : observer token s = (proceed, s')) :
    outcome (observe (some observer) token) s = (.ok proceed, s') := by
  simp only [outcome, observe, ExceptT.run, ExceptT.mk, StateT.run, h]

lemma statusReason_row (round : RoundOptions) (token : ℕ) (proceed : Bool) (count : ℕ) :
    statusReason (rowStatus round token proceed count) = decision round.stopToken token proceed := by
  unfold rowStatus decision
  split_ifs <;> rfl

lemma rowStatus_continuing {round : RoundOptions} {token count : ℕ} {proceed : Bool}
    (h : decision round.stopToken token proceed = none) (hcount : count ≠ round.remainingOutput) :
    rowStatus round token proceed count = .continuing := by
  unfold decision at h
  split_ifs at h with hstop hproceed
  rw [rowStatus, if_neg hstop, if_neg hproceed, if_neg hcount]

lemma rowStatus_ok (round : RoundOptions) (token : ℕ) (proceed : Bool) (count : ℕ) :
    rowStatus round token proceed count = .continuing ∨
      rowStatus round token proceed count = .length ∨
      rowStatus round token proceed count = .stop ∨
      rowStatus round token proceed count = .cancelled := by
  unfold rowStatus
  split_ifs <;> simp

structure RoundOutcome (lossless : Lossless service next) (history inputs : List ℕ)
    (round : Round ℕ (Emission κ) ReferenceStopReason) (result : RoundResult)
    (s : τ × Observer κ F) : Prop where
  staged : ∃ committed, 0 < committed ∧ lossless.Staged history inputs committed s.1 ∧
    history ++ inputs.take committed = round.history.dropLast
  observed : Observed round.consumer s.2
  status : statusReason result.status = round.stopped
  ok : result.ok = true

def afterRow (round : RoundOptions) (result : RoundResult) (i token : ℕ)
    (accepted proceed : Bool) : RoundResult :=
  { result with
    status := rowStatus round token proceed (result.output ++ [token]).length
    committedTargetRows := i + 1
    output := result.output ++ [token]
    acceptedTokens := result.acceptedTokens + (if accepted then 1 else 0) }

lemma afterRow_ok (round : RoundOptions) (result : RoundResult) (i token : ℕ)
    (accepted proceed : Bool) : (afterRow round result i token accepted proceed).ok = true :=
  decide_eq_true (rowStatus_ok round token proceed _)

omit [FloatingPoint F] in
lemma RoundOutcome.lastRow {lossless : Lossless service next} {round : RoundOptions}
    (hstop : round.stopToken = options.stopTokenId) {prompt history inputs : List ℕ}
    {result : RoundResult} {i : ℕ} {accepted : Bool} {e : Emission κ} {target : τ}
    {observer : Observer κ F} (hstaged : lossless.Staged history inputs (i + 1) target)
    (hhistory : prompt ++ e.generated = history ++ inputs.take (i + 1))
    (hobserved : Observed (consume client prompt.length options.stopTokenId
      (next (prompt ++ e.generated)) e).2 observer) :
    RoundOutcome lossless history inputs
      ⟨1, (consume client prompt.length options.stopTokenId (next (prompt ++ e.generated)) e).1,
        prompt ++ e.generated ++ [next (prompt ++ e.generated)],
        (consume client prompt.length options.stopTokenId (next (prompt ++ e.generated)) e).2⟩
      (afterRow round result i (next (prompt ++ e.generated)) accepted
        (publish client (next (prompt ++ e.generated))
          (e.stepped prompt.length (next (prompt ++ e.generated)))).1) (target, observer) where
  staged := ⟨i + 1, Nat.succ_pos i, hstaged, by rw [List.dropLast_concat, hhistory]⟩
  observed := hobserved
  status := by
    rw [afterRow, statusReason_row, hstop]
    rfl
  ok := afterRow_ok _ _ _ _ _ _

lemma commitRow_spec (lossless : Lossless service next)
    (hclient : options.committedToken = client.map Client.callback) {round : RoundOptions}
    {prompt history inputs draft predictions : List ℕ} {count n i : ℕ} {result : RoundResult}
    {e : Emission κ} {target : τ} {observer : Observer κ F}
    (hstaged : lossless.Staged history inputs i target) (hi : i < inputs.length)
    (haccepted : 0 < i → inputs.getD i 0 = next (history ++ inputs.take i))
    (hhistory : prompt ++ e.generated = history ++ inputs.take (i + 1))
    (hprediction : predictions.getD i 0 = next (prompt ++ e.generated))
    (hobserved : Observed e observer) {post : RoundResult → τ × Observer κ F → Prop}
    (hrest : ∀ target' observer', lossless.Staged history inputs (i + 1) target' →
      Observed (consume client prompt.length options.stopTokenId (next (prompt ++ e.generated)) e).2
        observer' →
      let accepted := decide (i < count ∧ draft.getD i 0 = next (prompt ++ e.generated))
      let after := afterRow round result i (next (prompt ++ e.generated)) accepted
        (publish client (next (prompt ++ e.generated))
          (e.stepped prompt.length (next (prompt ++ e.generated)))).1
      Triple (Exactly (target', observer'))
        (if after.status ≠ .continuing ∨ accepted = false then pure after
          else commitRows round service.backend (some (service.emit options)) draft predictions
            count n (i + 1) after) post (fun _ => False)) :
    Triple (Exactly (target, observer))
      (commitRows round service.backend (some (service.emit options)) draft predictions count
        (n + 1) i result) post (fun _ => False) := by
  obtain ⟨hcommit, hstaged'⟩ := lossless.commit_ok hstaged hi haccepted
  have hlength : prompt.length + e.generated.length = history.length + (i + 1) := by
    have hh := congrArg List.length hhistory
    simp only [List.length_append, List.length_take] at hh
    omega
  rw [← hhistory] at hcommit hstaged'
  rw [commitRows, hprediction]
  refine Triple.bind (Triple.step rfl) fun committed => Triple.assume ?_
  rintro rfl
  rw [hcommit, if_neg (by simp)]
  obtain ⟨observer', hemit, hobserved'⟩ := @emit_observed τ κ F _ service options client hclient
    prompt.length options.stopTokenId (next (prompt ++ e.generated)) e observer _ hobserved
    (by rw [lossless.staged_position hstaged', hlength])
  refine Triple.bind (Triple.step (outcome_observe hemit)) fun proceed => Triple.assume ?_
  rintro rfl
  exact hrest _ observer' hstaged' hobserved'

lemma commitRows_spec (lossless : Lossless service next)
    (hclient : options.committedToken = client.map Client.callback) {round : RoundOptions}
    (hstop : round.stopToken = options.stopTokenId) {prompt history draft predictions : List ℕ}
    {seed count : ℕ} (hdraft : count ≤ draft.length) (hroom : count < round.remainingOutput)
    (hpredictions : ∀ i ≤ count, predictions.getD i 0 = next (history ++ seed :: draft.take i))
    (n : ℕ) {i : ℕ} {result : RoundResult} {e : Emission κ} {target : τ}
    {observer : Observer κ F} (hn : i + n = count)
    (hstaged : lossless.Staged history (seed :: draft.take count) i target)
    (haccepted : 0 < i → (seed :: draft.take count).getD i 0 =
      next (history ++ (seed :: draft.take count).take i))
    (hhistory : prompt ++ e.generated = history ++ seed :: draft.take i)
    (hobserved : Observed e observer) (houtput : result.output.length = i) :
    Triple (Exactly (target, observer))
      (commitRows round service.backend (some (service.emit options)) draft predictions count
        (n + 1) i result)
      (RoundOutcome lossless history (seed :: draft.take count)
        (speculate next (consume client prompt.length options.stopTokenId)
          ((draft.take count).drop i) (prompt ++ e.generated) e))
      (fun _ => False) := by
  have hinputs : ∀ i ≤ count, (seed :: draft.take count).take (i + 1) = seed :: draft.take i := by
    intro i hi
    simp [List.take_take, Nat.min_eq_left hi]
  induction n generalizing i result e target observer with
  | zero =>
    obtain rfl : i = count := hn
    rw [← hinputs i le_rfl] at hhistory
    refine commitRow_spec lossless hclient hstaged (by simp [hdraft]) haccepted hhistory
      (by rw [hpredictions i le_rfl, hhistory, hinputs i le_rfl]) hobserved ?_
    intro target' observer' hstaged' hobserved'
    have hdrop : (draft.take i).drop i = [] := by simp
    rw [hdrop, speculate]
    dsimp only
    rw [if_pos (Or.inr (by simp))]
    refine Triple.ret ?_
    rintro s rfl
    exact RoundOutcome.lastRow hstop hstaged' hhistory hobserved'
  | succ n ih =>
    have hlt : i < count := by omega
    rw [← hinputs i hlt.le] at hhistory
    refine commitRow_spec lossless hclient hstaged (by simp; omega) haccepted hhistory
      (by rw [hpredictions i hlt.le, hhistory, hinputs i hlt.le]) hobserved ?_
    intro target' observer' hstaged' hobserved'
    have hget : draft.getD i 0 = draft[i] := by
      simp [List.getD_eq_getElem?_getD, List.getElem?_eq_getElem (hlt.trans_le hdraft)]
    have hdrop : (draft.take count).drop i = draft.getD i 0 :: (draft.take count).drop (i + 1) := by
      rw [List.drop_eq_getElem_cons (by simp; omega), List.getElem_take, hget]
    have htake : draft.take (i + 1) = draft.take i ++ [draft.getD i 0] := by
      rw [List.take_succ_eq_append_getElem (hlt.trans_le hdraft), hget]
    rw [hdrop, speculate]
    dsimp only
    by_cases hgo : (consume client prompt.length options.stopTokenId (next (prompt ++ e.generated))
        e).1.isNone = true ∧ draft.getD i 0 = next (prompt ++ e.generated)
    · have hnone : decision round.stopToken (next (prompt ++ e.generated)) (publish client
          (next (prompt ++ e.generated))
          (e.stepped prompt.length (next (prompt ++ e.generated)))).1 = none := by
        rw [hstop]
        exact Option.isNone_iff_eq_none.mp hgo.1
      have hstatus := rowStatus_continuing hnone (show (result.output ++
        [next (prompt ++ e.generated)]).length ≠ round.remainingOutput by simp; omega)
      have haccept : decide (i < count ∧ draft.getD i 0 = next (prompt ++ e.generated)) = true :=
        decide_eq_true ⟨hlt, hgo.2⟩
      rw [if_pos hgo, haccept, if_neg (by simp only [afterRow, hstatus]; simp)]
      have hnext : prompt ++ e.generated ++ [next (prompt ++ e.generated)] = prompt ++
          (consume client prompt.length options.stopTokenId (next (prompt ++ e.generated))
            e).2.generated := by
        rw [consume_generated, List.append_assoc]
      rw [hnext]
      refine (ih (by omega) hstaged' (fun _ => ?_) ?_ hobserved' ?_).conseq (fun _ h => h)
        (fun r s h => ⟨h.staged, h.observed, h.status, h.ok⟩) fun _ h => h
      · rw [← hhistory, ← hgo.2]
        simp [List.getD_eq_getElem?_getD, hlt]
      · rw [← hnext, htake, hgo.2]
        generalize next (prompt ++ e.generated) = token
        rw [hhistory, hinputs i hlt.le, List.append_assoc, List.cons_append]
      · simp [afterRow, houtput]
    · rw [if_neg hgo, if_pos ?_]
      · refine Triple.ret ?_
        rintro s rfl
        exact RoundOutcome.lastRow hstop hstaged' hhistory hobserved'
      · by_contra hcontinue
        push Not at hcontinue
        obtain ⟨hstatus, haccept⟩ := hcontinue
        have hreason := statusReason_row round (next (prompt ++ e.generated)) (publish client
          (next (prompt ++ e.generated)) (e.stepped prompt.length
            (next (prompt ++ e.generated)))).1 (result.output ++ [next (prompt ++ e.generated)]).length
        rw [show rowStatus _ _ _ _ = _ from hstatus, hstop] at hreason
        refine hgo ⟨?_, ?_⟩
        · exact Option.isNone_iff_eq_none.mpr hreason.symm
        · exact (of_decide_eq_true (Bool.eq_true_of_not_eq_false haccept)).2

end

end Qwen3xOrin.Mtp
