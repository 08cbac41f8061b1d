import Qwen3xOrin.Mtp.Lossless

/-! Speculative decoding is lossless: the service's rounds show the client exactly what the
ordinary decode loop shows. -/

namespace Qwen3xOrin.Mtp

open Prefill Library Generation FloatingPoint

variable {τ κ F : Type} [FloatingPoint F]

section

variable {service : Service τ κ F} {options : GenerationControlOptions (τ × κ) F}
  {client : Option (Client κ)} {next : List ℕ → ℕ}

omit [FloatingPoint F] in
lemma draftRound_spec {ω : Type} (lossless : Lossless service next) {round : RoundOptions}
    (heos : round.eosFrontier = true) (hseed : round.seedToken < referenceVocabularySize)
    {history : List ℕ} {maximum : ℕ} {target : τ} {w : ω}
    (hopened : lossless.Opened history (maximum + 1) target) :
    Triple (Exactly (target, w)) (draftRound round service.backend maximum)
      (fun proposal s => s.2 = w ∧ proposal.count ≤ maximum ∧
        proposal.count ≤ proposal.draft.length ∧
        inVocabulary referenceVocabularySize proposal.draft proposal.count = true ∧
        lossless.Opened history (proposal.count + 1) s.1)
      (fun _ => False) := by
  unfold draftRound
  by_cases hzero : maximum = 0
  · rw [if_pos hzero]
    subst hzero
    refine Triple.ret ?_
    rintro s rfl
    exact ⟨rfl, le_rfl, le_rfl, rfl, hopened⟩
  · obtain ⟨hok, hgood, hlength, hvocabulary, hopened'⟩ :=
      lossless.propose_ok round.stopToken hseed (Nat.pos_of_ne_zero hzero) hopened
    rw [if_neg hzero, proposeRound, if_pos heos]
    refine Triple.bind (Triple.step rfl) fun proposal => Triple.assume ?_
    rintro rfl
    rw [hok, if_neg (by simp), hgood, if_neg (by simp)]
    refine Triple.ret ?_
    rintro s rfl
    refine ⟨rfl, ?_, hlength, hvocabulary, hopened'⟩
    by_contra hlarge
    simp [badProposal, Nat.not_le.mp hlarge] at hgood

lemma inVocabulary_predictions (hvocabulary : ∀ history, next history < referenceVocabularySize)
    {predictions : List ℕ} {count : ℕ} {expected : ℕ → List ℕ}
    (h : ∀ i ≤ count, predictions.getD i 0 = next (expected i)) :
    inVocabulary referenceVocabularySize predictions (count + 1) = true := by
  rw [inVocabulary, List.all_eq_true]
  intro i hi
  rw [h i (Nat.lt_succ_iff.mp (List.mem_range.mp hi)), decide_eq_true_eq]
  exact hvocabulary _

def RoundShown (lossless : Lossless service next) (client : Option (Client κ))
    (prompt : List ℕ) (stopToken remaining : ℕ) (e : Emission κ) (status : RoundStatus)
    (s : τ × Observer κ F) : Prop :=
  ∃ drafts : List ℕ, drafts.length < remaining ∧
    let shown := speculate next (consume client prompt.length stopToken) drafts
      (prompt ++ e.generated) e
    lossless.Idle shown.history.dropLast s.1 ∧ Observed shown.consumer s.2 ∧
      statusReason status = shown.stopped

lemma transact_spec (lossless : Lossless service next)
    (hvocabulary : ∀ history, next history < referenceVocabularySize)
    (hclient : options.committedToken = client.map Client.callback) {round : RoundOptions}
    (heos : round.eosFrontier = true) (hstop : round.stopToken = options.stopTokenId)
    (hsize : round.vocabularySize = referenceVocabularySize) (hvalid : round.valid = true)
    {prompt history : List ℕ} {e : Emission κ} {target : τ} {observer : Observer κ F}
    (hidle : lossless.Idle history target)
    (hcapacity : history.length + round.remainingOutput ≤ service.maxSequenceLength)
    (hhistory : prompt ++ e.generated = history ++ [round.seedToken])
    (hobserved : Observed e observer) :
    Triple (Exactly (target, observer))
      (transact round service.backend (some (service.emit options)))
      (fun r s => r.ok = true ∧ RoundShown lossless client prompt options.stopTokenId
        round.remainingOutput e r.status s)
      (fun _ => False) := by
  have hremaining : 0 < round.remainingOutput ∧
      (round.draftLength = 2 ∨ round.draftLength = 3) ∧
      round.seedToken < referenceVocabularySize := by
    simp only [RoundOptions.valid, Bool.not_eq_true', decide_eq_false_iff_not] at hvalid
    omega
  have hmaximum : min round.draftLength (round.remainingOutput - 1) + 1 ≤
      round.remainingOutput ∧ min round.draftLength (round.remainingOutput - 1) + 1 ≤
      maximumVerifyRows := by
    unfold maximumVerifyRows
    omega
  obtain ⟨hbegun, hopened⟩ := lossless.begin_ok hidle (Nat.succ_pos _) hmaximum.2 (by omega)
  refine Triple.bind (Triple.step rfl) fun begun => Triple.assume ?_
  rintro rfl
  rw [hbegun, if_neg (by simp)]
  refine Triple.bind (draftRound_spec lossless heos hremaining.2.2 hopened) fun proposal => ?_
  rintro ⟨drafted, w⟩ ⟨rfl, hcount, hlength, hdrafted, hopened'⟩
  rw [hsize, hdrafted, if_neg (by simp)]
  obtain ⟨hverified, hpredictions, hstaged⟩ :=
    lossless.verify_ok hremaining.2.2 hlength hdrafted hopened'
  refine Triple.bind (Triple.step rfl) (fun verified => Triple.assume ?_) _ rfl
  rintro rfl
  dsimp only
  rw [hverified, if_neg (by simp),
    inVocabulary_predictions hvocabulary hpredictions, if_neg (by simp)]
  refine Triple.bind (commitRows_spec lossless hclient hstop hlength (by omega) hpredictions
    proposal.count (Nat.zero_add _) hstaged (by simp) (by simpa using hhistory) hobserved rfl) ?_
  rintro result ⟨committed, w⟩ ⟨⟨rows, hrows, hstaged', hconsumed⟩, hobserved', hstatus, hok⟩
  obtain ⟨hfinished, hidle'⟩ := lossless.finish_ok hstaged' hrows
  refine Triple.bind (Triple.step rfl) (fun finished => Triple.assume ?_) _ rfl
  rintro rfl
  rw [hfinished, if_neg (by simp)]
  refine Triple.ret ?_
  rintro s rfl
  rw [List.drop_zero] at hobserved' hstatus hconsumed
  rw [hconsumed] at hidle'
  exact ⟨hok, proposal.draft.take proposal.count, by simp; omega, hidle', hobserved', hstatus⟩

omit [FloatingPoint F] in
lemma roundOptions_valid {prompt : List ℕ} {control : GenerationControl F} {target : τ}
    (hlength : service.length = 2 ∨ service.length = 3)
    (hstop : options.stopTokenId < referenceVocabularySize)
    (hcapacity : prompt.length + options.maxNewTokens ≤ service.maxSequenceLength + 1)
    (hmore : control.generatedTokenIds.length < options.maxNewTokens)
    (hlast : control.generatedTokenIds.getLastD 0 < referenceVocabularySize ∧
      control.generatedTokenIds.getLastD 0 ≠ options.stopTokenId)
    (hposition : service.currentPosition target + 1 =
      prompt.length + control.generatedTokenIds.length) :
    (service.roundOptions options target control).valid = true := by
  have hsize : referenceVocabularySize ≠ 0 := by simp [referenceVocabularySize]
  rw [RoundOptions.valid, Bool.not_eq_true', decide_eq_false_iff_not]
  simp only [Service.roundOptions, outputTailBudget]
  push Not
  refine ⟨?_, hsize, hlast.1, hstop, hlast.2, by omega, by omega⟩
  split_ifs <;> omega

lemma runRound_shown (lossless : Lossless service next)
    (hvocabulary : ∀ history, next history < referenceVocabularySize)
    (hclient : options.committedToken = client.map Client.callback) {round : RoundOptions}
    (heos : round.eosFrontier = true) (hstop : round.stopToken = options.stopTokenId)
    (hsize : round.vocabularySize = referenceVocabularySize) (hvalid : round.valid = true)
    {prompt history : List ℕ} {e : Emission κ} {target : τ} {observer : Observer κ F}
    (hidle : lossless.Idle history target)
    (hcapacity : history.length + round.remainingOutput ≤ service.maxSequenceLength)
    (hhistory : prompt ++ e.generated = history ++ [round.seedToken])
    (hobserved : Observed e observer) :
    ∃ result s, runRound round service.backend (some (service.emit options)) true
        (target, observer) = (result, s) ∧ result.ok = true ∧
      RoundShown lossless client prompt options.stopTokenId round.remainingOutput e
        result.status s := by
  have htransact := transact_spec lossless hvocabulary hclient heos hstop hsize hvalid hidle
    hcapacity hhistory hobserved (target, observer) rfl
  rw [runRound, if_neg (by simp [hvalid])]
  revert htransact
  rcases outcome (transact round service.backend (some (service.emit options)))
    (target, observer) with ⟨_ | result, s⟩
  · exact False.elim
  · exact fun h => ⟨result, s, rfl, h⟩

omit [FloatingPoint F] in
lemma Observed.logRound {e : Emission κ} {observer : Observer κ F} {round : RoundOptions}
    (h : Observed e observer) (hvalid : round.valid = true) :
    Observed e { observer with calls := observer.calls ++ [.round round] } where
  generated := h.generated
  steps := h.steps
  committed := by simp [List.filterMap_append, Call.committed, h.committed]
  context := h.context
  stopReason := h.stopReason
  rounds := by
    intro other hother
    rcases List.mem_append.mp hother with hold | hnew
    · exact h.rounds other hold
    · obtain rfl := Call.round.inj (List.mem_singleton.mp hnew)
      exact hvalid

lemma shown_generated (prompt : List ℕ) (stopToken : ℕ) (drafts : List ℕ) (e : Emission κ) :
    let shown := speculate next (consume client prompt.length stopToken) drafts
      (prompt ++ e.generated) e
    shown.history = prompt ++ shown.consumer.generated ∧
      shown.consumer.generated.length = e.generated.length + shown.emitted := by
  have hinvariant := @speculate_invariant ℕ (Emission κ) ReferenceStopReason _ next
    (consume client prompt.length stopToken)
    (fun m history k => history = prompt ++ k.generated ∧
      k.generated.length = e.generated.length + m) ?_ drafts 0 (prompt ++ e.generated) e ⟨rfl, rfl⟩
  · rwa [Nat.zero_add] at hinvariant
  · rintro m history k ⟨rfl, hm⟩
    rw [consume_generated, List.length_append, List.length_singleton, hm]
    exact ⟨by simp, by omega⟩

structure Ready (lossless : Lossless service next) (prompt : List ℕ) (stopToken : ℕ)
    (e : Emission κ) (target : τ) (observer : Observer κ F) : Prop where
  nonempty : e.generated ≠ []
  vocabulary : e.generated.getLastD 0 < referenceVocabularySize
  notStopped : e.generated.getLastD 0 ≠ stopToken
  idle : lossless.Idle (prompt ++ e.generated.dropLast) target
  observed : Observed e observer

lemma Ready.round {lossless : Lossless service next}
    (hvocabulary : ∀ history, next history < referenceVocabularySize)
    (hclient : options.committedToken = client.map Client.callback)
    (hlength : service.length = 2 ∨ service.length = 3)
    (hstop : options.stopTokenId < referenceVocabularySize) {prompt : List ℕ}
    (hcapacity : prompt.length + options.maxNewTokens ≤ service.maxSequenceLength + 1)
    {e : Emission κ} {target : τ} {observer : Observer κ F}
    (h : Ready lossless prompt options.stopTokenId e target observer)
    (hmore : e.generated.length < options.maxNewTokens) :
    ∃ result target' observer' drafts,
      runRound (service.roundOptions options target observer.control) service.backend
        (some (service.emit options)) true (target, { observer with
          calls := observer.calls ++
            [.round (service.roundOptions options target observer.control)] }) =
        (result, (target', observer')) ∧ result.ok = true ∧
      drafts.length < options.maxNewTokens - e.generated.length ∧
      let shown := speculate next (consume client prompt.length options.stopTokenId) drafts
        (prompt ++ e.generated) e
      statusReason result.status = shown.stopped ∧ Observed shown.consumer observer' ∧
        (shown.stopped = none →
          Ready lossless prompt options.stopTokenId shown.consumer target' observer') := by
  have hgenerated := h.observed.generated
  have hpos := List.length_pos_iff.mpr h.nonempty
  obtain ⟨front, last, hfront⟩ := (List.eq_nil_or_concat' e.generated).resolve_left h.nonempty
  have hidleLength : (prompt ++ e.generated.dropLast).length + 1 =
      prompt.length + e.generated.length := by
    rw [List.length_append, List.length_dropLast]
    omega
  have hvalid : (service.roundOptions options target observer.control).valid = true := by
    refine roundOptions_valid hlength hstop hcapacity ?_ ?_ ?_
    · rwa [hgenerated]
    · rw [hgenerated]
      exact ⟨h.vocabulary, h.notStopped⟩
    · rw [lossless.idle_position h.idle, hgenerated, hidleLength]
  have hremaining : (service.roundOptions options target observer.control).remainingOutput =
      options.maxNewTokens - e.generated.length := by
    rw [Service.roundOptions, hgenerated]
  have hhistory : prompt ++ e.generated = prompt ++ e.generated.dropLast ++
      [(service.roundOptions options target observer.control).seedToken] := by
    simp [Service.roundOptions, hgenerated, hfront]
  obtain ⟨result, ⟨target', observer'⟩, hrun, hok, drafts, hdrafts, hidle', hobserved', hstatus⟩ :=
    runRound_shown lossless hvocabulary hclient rfl rfl rfl hvalid h.idle
      (by rw [hremaining]; omega) hhistory (h.observed.logRound hvalid)
  rw [hremaining] at hdrafts
  refine ⟨result, target', observer', drafts, hrun, hok, hdrafts, hstatus, hobserved', ?_⟩
  intro hnone
  obtain ⟨before, k, hlast, hstopped, hconsumer⟩ := speculate_last next
    (consume client prompt.length options.stopTokenId) drafts (prompt ++ e.generated) e
  have hconsumed := (@shown_generated κ client next prompt options.stopTokenId drafts e).1
  rw [hconsumed] at hidle'
  rw [hnone] at hstopped
  have hshown : (speculate next (consume client prompt.length options.stopTokenId) drafts
      (prompt ++ e.generated) e).consumer.generated = k.generated ++ [next before] := by
    rw [hconsumer, consume_generated]
  refine ⟨by simp [hshown], ?_, ?_, ?_, hobserved'⟩
  · rw [hshown, List.getLastD_concat]
    exact hvocabulary before
  · rw [hshown, List.getLastD_concat]
    exact decision_none hstopped.symm
  · rw [hshown, ← List.append_assoc, List.dropLast_concat] at hidle'
    rwa [hshown, List.dropLast_concat]

structure ShownTo (shown : Option ReferenceStopReason × Emission κ) (observer : Observer κ F) :
    Prop extends Shows shown.2 observer.control observer.calls observer.context where
  stopReason : observer.control.stopReason = shown.1.getD .maxNewTokens

omit [FloatingPoint F] in
lemma Observed.stopWith {e : Emission κ} {observer : Observer κ F} (h : Observed e observer)
    (reason : ReferenceStopReason) :
    ShownTo (some reason, e) (Service.stopWith observer reason) :=
  ⟨⟨h.generated, h.steps, h.committed, h.context, h.rounds⟩, rfl⟩

omit [FloatingPoint F] in
lemma Observed.finished {e : Emission κ} {observer : Observer κ F} (h : Observed e observer) :
    ShownTo (none, e) observer :=
  ⟨h.toShows, h.stopReason⟩

lemma rounds_greedy {lossless : Lossless service next}
    (hvocabulary : ∀ history, next history < referenceVocabularySize)
    (hclient : options.committedToken = client.map Client.callback)
    (hlength : service.length = 2 ∨ service.length = 3)
    (hcancel : ∀ probe ∈ service.cancel, ∀ context, probe context = false)
    (hstop : options.stopTokenId < referenceVocabularySize) {prompt : List ℕ}
    (hcapacity : prompt.length + options.maxNewTokens ≤ service.maxSequenceLength + 1)
    (n : ℕ) {e : Emission κ} {target : τ} {observer : Observer κ F}
    (hfuel : options.maxNewTokens - e.generated.length ≤ n)
    (h : Ready lossless prompt options.stopTokenId e target observer) :
    ∃ target' observer', service.rounds options n (target, observer) =
        (.ok (), (target', observer')) ∧
      ShownTo (greedy next (consume client prompt.length options.stopTokenId)
        (options.maxNewTokens - e.generated.length) (prompt ++ e.generated) e) observer' := by
  induction n generalizing e target observer with
  | zero =>
    rw [Nat.le_zero.mp hfuel]
    exact ⟨target, observer, rfl, h.observed.finished⟩
  | succ n ih =>
    rw [Service.rounds, h.observed.generated]
    by_cases hmore : e.generated.length < options.maxNewTokens
    · obtain ⟨result, target', observer', drafts, hrun, hok, hdrafts, hstatus, hobserved, hready⟩ :=
        h.round hvocabulary hclient hlength hstop hcapacity hmore
      have hquiet : service.cancelled (target, observer.context) = false := by
        cases hprobe : service.cancel with
        | none => simp [Service.cancelled, hprobe]
        | some probe => simp [Service.cancelled, hprobe, hcancel probe hprobe]
      rw [if_pos hmore, hquiet, if_neg (by simp), greedy_speculate next _ hdrafts]
      dsimp only
      rw [hrun]
      dsimp only
      rw [hok, if_neg (by simp)]
      obtain ⟨hhistory, hcount⟩ :=
        @shown_generated κ client next prompt options.stopTokenId drafts e
      have hemitted := (speculate_emitted next (consume client prompt.length options.stopTokenId)
        drafts (prompt ++ e.generated) e).1
      generalize speculate next (consume client prompt.length options.stopTokenId) drafts
        (prompt ++ e.generated) e = shown at hstatus hobserved hready hhistory hcount hemitted ⊢
      cases hreason : shown.stopped with
      | some reason =>
        rw [hreason] at hstatus
        rcases statusReason_some hstatus with ⟨hstopped, rfl⟩ | ⟨hstopped, rfl⟩
        · rw [hstopped, if_pos rfl]
          exact ⟨target', _, rfl, hobserved.stopWith _⟩
        · rw [hstopped, if_neg (by simp), if_pos rfl]
          exact ⟨target', _, rfl, hobserved.stopWith _⟩
      | none =>
        rw [hreason] at hstatus
        obtain ⟨hnotStop, hnotCancelled⟩ := statusReason_none hstatus
        have hrest := ih (by omega) (hready hreason)
        rw [if_neg hnotStop, if_neg hnotCancelled, Nat.sub_sub, ← hcount, hhistory]
        exact hrest
    · rw [if_neg hmore, Nat.sub_eq_zero_of_le (Nat.not_lt.mp hmore)]
      exact ⟨target, observer, rfl, h.observed.finished⟩

end

end Qwen3xOrin.Mtp
