import Qwen3xOrin.Mtp.Speculative

/-! Generation over a backend that may fail. An operation of a `Guarded` service goes to its next
stage or leaves the target stopped, and a stopped target is aborted. The client then sees a part
of the greedy generation, and all of it unless it was cancelled or a round failed. -/

namespace Qwen3xOrin.Mtp

open Prefill Library Generation FloatingPoint

variable {α β ω τ κ F : Type}

-- Which of the backend's proposals a round asks for.
def offer (round : RoundOptions) (backend : RoundBackend β) (maximum : ℕ) (b : β) : Proposal × β :=
  if round.eosFrontier then backend.proposeEosBounded round.seedToken maximum round.stopToken b
  else if round.confidenceLookahead then backend.proposeBounded round.seedToken maximum b
  else
    let ((ok, draft), b) := backend.propose round.seedToken maximum b
    ({ ok := ok, draft := draft, count := maximum }, b)

lemma proposeRound_eq (round : RoundOptions) (backend : RoundBackend β) (maximum : ℕ) :
    (proposeRound round backend maximum : RoundM β ω Proposal) =
      call (offer round backend maximum) := by
  unfold proposeRound offer
  split_ifs <;> rfl

lemma call_exactly (operation : β → α × β) (b : β) (w : ω) {stopped : β × ω → Prop} :
    Triple (Exactly (b, w)) (call operation)
      (fun a s => Exactly ((operation b).2, w) s ∧ a = (operation b).1) stopped :=
  Triple.step rfl

-- An operation that was granted or refused.
def Settled (ok : Bool) (target : τ) (granted refused : τ → Prop) : Prop :=
  (ok = true ∧ granted target) ∨ (ok = false ∧ refused target)

structure Guarded (service : Service τ κ F) (next : List ℕ → ℕ) where
  Idle : List ℕ → τ → Prop
  Begun : List ℕ → ℕ → τ → Prop
  Opened : List ℕ → ℕ → τ → Prop
  Staged : List ℕ → List ℕ → ℕ → τ → Prop
  Stopped : τ → Prop
  Aborted : τ → Prop
  idle_position : ∀ {history target}, Idle history target →
    service.currentPosition target = history.length
  staged_position : ∀ {history inputs committed target}, Staged history inputs committed target →
    0 < committed → service.currentPosition target = history.length + committed
  usable : ∀ {history inputs committed target}, Staged history inputs committed target →
    ∀ i < inputs.length, next (history ++ inputs.take (i + 1)) < referenceVocabularySize
  begun_opened : ∀ {history rows target}, Begun history rows target → Opened history rows target
  begin_settled : ∀ {history target rows}, Idle history target → 1 ≤ rows ∧ rows ≤ maximumVerifyRows →
    history.length + rows ≤ service.maxSequenceLength →
    let r := service.backend.begin rows target
    Settled r.1 r.2 (Begun history rows) Stopped
  propose_settled : ∀ {history target maximum} (round : RoundOptions),
    round.seedToken < referenceVocabularySize → 0 < maximum → Begun history (maximum + 1) target →
    let r := offer round service.backend maximum target
    Settled r.1.ok r.2 (fun target => badProposal round.stopToken maximum r.1 = false ∧
      r.1.count ≤ r.1.draft.length ∧ (∀ token ∈ r.1.draft, token < referenceVocabularySize) ∧
      Opened history (r.1.count + 1) target) Stopped
  verify_settled : ∀ {history target seed draft count}, seed < referenceVocabularySize →
    (∀ token ∈ draft, token < referenceVocabularySize) → count ≤ draft.length →
    Opened history (count + 1) target →
    let r := service.backend.verify seed draft count target
    Settled r.1.1 r.2 (fun target =>
      (∀ i ≤ count, r.1.2.getD i 0 = next (history ++ seed :: draft.take i)) ∧
      Staged history (seed :: draft.take count) 0 target) Stopped
  commit_settled : ∀ {history inputs committed target}, Staged history inputs committed target →
    committed < inputs.length →
    (0 < committed → inputs.getD committed 0 = next (history ++ inputs.take committed)) →
    let r := service.backend.commitPrefix (committed + 1)
      (next (history ++ inputs.take (committed + 1))) target
    Settled r.1 r.2 (Staged history inputs (committed + 1)) Stopped
  finish_settled : ∀ {history inputs committed target}, Staged history inputs committed target →
    0 < committed → committed ≤ inputs.length →
    let r := service.backend.finish target
    Settled r.1 r.2 (Idle (history ++ inputs.take committed)) Stopped
  abort_stopped : ∀ {target}, Stopped target → Aborted (service.backend.abort target).2

section Errors

variable {γ : Type} {backend : RoundBackend β} {observer : Option (TokenObserver β ω)}

-- An error that a round stops with is reported as a failure.
def Fails (m : RoundM β ω α) : Prop :=
  Ends (fun _ => True) m (fun _ _ => True) fun e _ => e.ok = false

namespace Fails

lemma ret (a : α) : Fails (pure a : RoundM β ω α) := Ends.ret fun _ _ => trivial

lemma bind {m : RoundM β ω α} {f : α → RoundM β ω γ} (hm : Fails m) (hf : ∀ a, Fails (f a)) :
    Fails (m >>= f) := Ends.bind hm hf

lemma call (operation : β → α × β) : Fails (Mtp.call operation : RoundM β ω α) :=
  fun _ _ => trivial

lemma observe (token : ℕ) : Fails (Mtp.observe observer token) := by
  cases observer with
  | none => exact ret true
  | some observer => exact fun _ _ => trivial

lemma failRound (result : RoundResult) {status : RoundStatus}
    (h : status = .backendFailure ∨ status = .invalidPrediction) :
    Fails (Mtp.failRound result status : RoundM β ω α) := by
  intro s _
  rcases h with rfl | rfl <;> rfl

lemma ite {c : Prop} [Decidable c] {m m' : RoundM β ω α} (hm : Fails m) (hm' : Fails m') :
    Fails (if c then m else m') := by
  by_cases hc : c
  · rwa [if_pos hc]
  · rwa [if_neg hc]

end Fails

lemma draftRound_fails (round : RoundOptions) (maximum : ℕ) :
    Fails (draftRound round backend maximum : RoundM β ω Proposal) := by
  rw [draftRound, proposeRound_eq]
  refine Fails.ite (Fails.ret _) (Fails.bind (Fails.call _) fun proposal => ?_)
  exact Fails.ite (Fails.failRound _ (.inl rfl))
    (Fails.ite (Fails.failRound _ (.inr rfl)) (Fails.ret _))

lemma commitRows_fails (round : RoundOptions) (draft predictions : List ℕ) (count n i : ℕ)
    (result : RoundResult) :
    Fails (commitRows round backend observer draft predictions count n i result) := by
  induction n generalizing i result with
  | zero => exact Fails.ret _
  | succ n ih =>
    refine Fails.bind (Fails.call _) fun committed => Fails.ite (Fails.failRound _ (.inl rfl)) ?_
    exact Fails.bind (Fails.observe _) fun proceed => Fails.ite (Fails.ret _) (ih _ _)

lemma transact_fails (round : RoundOptions) : Fails (transact round backend observer) := by
  refine Fails.bind (Fails.call _) fun begun => Fails.ite (Fails.failRound _ (.inl rfl)) ?_
  refine Fails.bind (draftRound_fails _ _) fun proposal =>
    Fails.ite (Fails.failRound _ (.inr rfl)) ?_
  refine Fails.bind (Fails.call _) fun verified => Fails.ite (Fails.failRound _ (.inl rfl)) ?_
  refine Fails.ite (Fails.failRound _ (.inr rfl)) ?_
  refine Fails.bind (commitRows_fails _ _ _ _ _ _ _) fun result => ?_
  exact Fails.bind (Fails.call _) fun finished =>
    Fails.ite (Fails.failRound _ (.inl rfl)) (Fails.ret _)

end Errors

section Rounds

variable [FloatingPoint F] {service : Service τ κ F} {next : List ℕ → ℕ}
  {options : GenerationControlOptions (τ × κ) F} {client : Option (Client κ)} {prompt : List ℕ}
  {e₀ e : Emission κ}

-- The tokens the client saw are the beginning of the greedy generation.
def Seen (next : List ℕ → ℕ) (client : Option (Client κ)) (stopToken : ℕ) (prompt : List ℕ)
    (e₀ e : Emission κ) : Prop :=
  GreedyRun next (consume client prompt.length stopToken) (prompt ++ e₀.generated) e₀
    (prompt ++ e.generated) e

-- The emission of the token that follows what was seen so far.
def emitted (next : List ℕ → ℕ) (client : Option (Client κ)) (stopToken : ℕ) (prompt : List ℕ)
    (e : Emission κ) : Option ReferenceStopReason × Emission κ :=
  consume client prompt.length stopToken (next (prompt ++ e.generated)) e

omit [FloatingPoint F] in
lemma Seen.emitted {stopToken : ℕ} (h : Seen next client stopToken prompt e₀ e)
    (hgo : (emitted next client stopToken prompt e).1 = none) :
    Seen next client stopToken prompt e₀ (emitted next client stopToken prompt e).2 := by
  have htail := GreedyRun.tail h (Prod.ext hgo rfl)
  rw [List.append_assoc, ← consume_generated] at htail
  exact htail

-- What the client saw is part of the greedy generation; the last token may have stopped it.
def SeenPart (next : List ℕ → ℕ) (client : Option (Client κ)) (stopToken : ℕ) (prompt : List ℕ)
    (e₀ : Emission κ) (observer : Observer κ F) : Prop :=
  ∃ e, Seen next client stopToken prompt e₀ e ∧
    (Observed e observer ∨ Observed (emitted next client stopToken prompt e).2 observer)

def Broken (guarded : Guarded service next) (client : Option (Client κ)) (stopToken : ℕ)
    (prompt : List ℕ) (e₀ : Emission κ) (s : τ × Observer κ F) : Prop :=
  guarded.Stopped s.1 ∧ SeenPart next client stopToken prompt e₀ s.2

-- Some rows of the round are committed; the last of their tokens may have stopped the client.
structure Emitted (guarded : Guarded service next) (client : Option (Client κ)) (stopToken : ℕ)
    (prompt history inputs : List ℕ) (e₀ : Emission κ) (result : RoundResult)
    (s : τ × Observer κ F) : Prop where
  rows : ∃ committed e, 0 < committed ∧ committed ≤ inputs.length ∧
    guarded.Staged history inputs committed s.1 ∧
    prompt ++ e.generated = history ++ inputs.take committed ∧
    Seen next client stopToken prompt e₀ e ∧
    next (prompt ++ e.generated) < referenceVocabularySize ∧
    Observed (Mtp.emitted next client stopToken prompt e).2 s.2 ∧
    statusReason result.status = (Mtp.emitted next client stopToken prompt e).1
  ok : result.ok = true

variable (guarded : Guarded service next)

lemma commitRow_guarded (hclient : options.committedToken = client.map Client.callback)
    {round : RoundOptions} {history inputs draft predictions : List ℕ} {count n i : ℕ}
    {result : RoundResult} {target : τ} {observer : Observer κ F}
    (hstaged : guarded.Staged history inputs i target) (hi : i < inputs.length)
    (haccepted : 0 < i → inputs.getD i 0 = next (history ++ inputs.take i))
    (hhistory : prompt ++ e.generated = history ++ inputs.take (i + 1))
    (hprediction : predictions.getD i 0 = next (prompt ++ e.generated))
    (hseen : Seen next client options.stopTokenId prompt e₀ e) (hobserved : Observed e observer)
    {post : RoundResult → τ × Observer κ F → Prop}
    (hrest : ∀ target' observer', guarded.Staged history inputs (i + 1) target' →
      Observed (emitted next client options.stopTokenId prompt e).2 observer' →
      let accepted := decide (i < count ∧ draft.getD i 0 = next (prompt ++ e.generated))
      let after := afterRow round result i (next (prompt ++ e.generated)) accepted
        (publish client (next (prompt ++ e.generated))
          (e.stepped prompt.length (next (prompt ++ e.generated)))).1
      Triple (Exactly (target', observer'))
        (if after.status ≠ .continuing ∨ accepted = false then pure after
          else commitRows round service.backend (some (service.emit options)) draft predictions
            count n (i + 1) after) post
        (Broken guarded client options.stopTokenId prompt e₀)) :
    Triple (Exactly (target, observer))
      (commitRows round service.backend (some (service.emit options)) draft predictions count
        (n + 1) i result) post (Broken guarded client options.stopTokenId prompt e₀) := by
  have hlength : prompt.length + e.generated.length = history.length + (i + 1) := by
    have hh := congrArg List.length hhistory
    simp only [List.length_append, List.length_take] at hh
    omega
  have hcommit := guarded.commit_settled hstaged hi haccepted
  rw [← hhistory] at hcommit
  rw [commitRows, hprediction]
  refine Triple.bind (Triple.step rfl) fun committed => Triple.assume ?_
  rintro rfl
  rcases hcommit with ⟨hgranted, hstaged'⟩ | ⟨hrefused, hstopped⟩
  · rw [hgranted, if_neg (by simp)]
    obtain ⟨observer', hemit, hobserved'⟩ := @emit_observed τ κ F _ service options client hclient
      prompt.length options.stopTokenId (next (prompt ++ e.generated)) e observer _ hobserved
      (by rw [guarded.staged_position hstaged' (Nat.succ_pos i), hlength])
    refine Triple.bind (Triple.step (outcome_observe hemit)) fun proceed => Triple.assume ?_
    rintro rfl
    exact hrest _ observer' hstaged' hobserved'
  · rw [hrefused, if_pos rfl]
    rintro s rfl
    exact ⟨hstopped, e, hseen, .inl hobserved⟩

omit [FloatingPoint F] in
lemma Emitted.lastRow {round : RoundOptions} (hstop : round.stopToken = options.stopTokenId)
    {history inputs : List ℕ} {result : RoundResult} {i : ℕ} {accepted : Bool} {target : τ}
    {observer : Observer κ F} (hstaged : guarded.Staged history inputs (i + 1) target)
    (hi : i < inputs.length) (hhistory : prompt ++ e.generated = history ++ inputs.take (i + 1))
    (hseen : Seen next client options.stopTokenId prompt e₀ e)
    (hobserved : Observed (emitted next client options.stopTokenId prompt e).2 observer) :
    Emitted guarded client options.stopTokenId prompt history inputs e₀
      (afterRow round result i (next (prompt ++ e.generated)) accepted
        (publish client (next (prompt ++ e.generated))
          (e.stepped prompt.length (next (prompt ++ e.generated)))).1) (target, observer) where
  rows := by
    refine ⟨i + 1, e, Nat.succ_pos i, hi, hstaged, hhistory, hseen, ?_, hobserved, ?_⟩
    · rw [hhistory]
      exact guarded.usable hstaged i hi
    · rw [afterRow, statusReason_row, hstop]
      rfl
  ok := afterRow_ok _ _ _ _ _ _

lemma commitRows_guarded (hclient : options.committedToken = client.map Client.callback)
    {round : RoundOptions} (hstop : round.stopToken = options.stopTokenId)
    {history draft predictions : List ℕ} {seed count : ℕ} (hdraft : count ≤ draft.length)
    (hpredictions : ∀ i ≤ count, predictions.getD i 0 = next (history ++ seed :: draft.take i))
    (n : ℕ) {i : ℕ} {result : RoundResult} {target : τ} {observer : Observer κ F}
    (hn : i + n = count) (hstaged : guarded.Staged history (seed :: draft.take count) i target)
    (haccepted : 0 < i → (seed :: draft.take count).getD i 0 =
      next (history ++ (seed :: draft.take count).take i))
    (hhistory : prompt ++ e.generated = history ++ seed :: draft.take i)
    (hseen : Seen next client options.stopTokenId prompt e₀ e) (hobserved : Observed e observer)
    (houtput : result.output.length = i) :
    Triple (Exactly (target, observer))
      (commitRows round service.backend (some (service.emit options)) draft predictions count
        (n + 1) i result)
      (Emitted guarded client options.stopTokenId prompt history (seed :: draft.take count) e₀)
      (Broken guarded client options.stopTokenId prompt e₀) := by
  have hinputs : ∀ i ≤ count, (seed :: draft.take count).take (i + 1) = seed :: draft.take i := by
    intro i hi
    simp [List.take_take, Nat.min_eq_left hi]
  have hlength : (seed :: draft.take count).length = count + 1 := by simp [hdraft]
  induction n generalizing i result e target observer with
  | zero =>
    obtain rfl : i = count := hn
    rw [← hinputs i le_rfl] at hhistory
    refine commitRow_guarded guarded hclient hstaged (by omega) haccepted hhistory
      (by rw [hpredictions i le_rfl, hhistory, hinputs i le_rfl]) hseen hobserved ?_
    intro target' observer' hstaged' hobserved'
    dsimp only
    rw [if_pos (Or.inr (by simp))]
    refine Triple.ret ?_
    rintro s rfl
    exact Emitted.lastRow guarded hstop hstaged' (by omega) hhistory hseen hobserved'
  | succ n ih =>
    have hlt : i < count := by omega
    rw [← hinputs i hlt.le] at hhistory
    refine commitRow_guarded guarded hclient hstaged (by omega) haccepted hhistory
      (by rw [hpredictions i hlt.le, hhistory, hinputs i hlt.le]) hseen hobserved ?_
    intro target' observer' hstaged' hobserved'
    have htake : draft.take (i + 1) = draft.take i ++ [draft.getD i 0] := by
      rw [List.take_succ_eq_append_getElem (hlt.trans_le hdraft)]
      simp [List.getD_eq_getElem?_getD, List.getElem?_eq_getElem (hlt.trans_le hdraft)]
    dsimp only
    refine Triple.ite (fun _ => Triple.ret ?_) fun hcontinue => ?_
    · rintro s rfl
      exact Emitted.lastRow guarded hstop hstaged' (by omega) hhistory hseen hobserved'
    push Not at hcontinue
    obtain ⟨hstatus, haccept⟩ := hcontinue
    obtain ⟨-, hmatch⟩ := of_decide_eq_true (Bool.eq_true_of_not_eq_false haccept)
    have hgo : (emitted next client options.stopTokenId prompt e).1 = none := by
      have hreason := statusReason_row round (next (prompt ++ e.generated)) (publish client
        (next (prompt ++ e.generated)) (e.stepped prompt.length
          (next (prompt ++ e.generated)))).1 (result.output ++ [next (prompt ++ e.generated)]).length
      rw [show rowStatus _ _ _ _ = _ from hstatus, hstop] at hreason
      exact hreason.symm
    have hgenerated : (emitted next client options.stopTokenId prompt e).2.generated =
        e.generated ++ [next (prompt ++ e.generated)] := consume_generated
    refine ih (by omega) hstaged' (fun _ => ?_) ?_ (hseen.emitted hgo) hobserved' ?_
    · rw [← hhistory, ← hmatch]
      simp [List.getD_eq_getElem?_getD, hlt]
    · rw [hgenerated, htake, hmatch, ← List.append_assoc]
      generalize next (prompt ++ e.generated) = token
      rw [hhistory, hinputs i hlt.le, List.append_assoc, List.cons_append]
    · simp [afterRow, houtput]

omit [FloatingPoint F] in
lemma draftRound_guarded {round : RoundOptions} (hseed : round.seedToken < referenceVocabularySize)
    {history : List ℕ} {maximum : ℕ} {target : τ} {w : ω}
    (hbegun : guarded.Begun history (maximum + 1) target) :
    Triple (Exactly (target, w)) (draftRound round service.backend maximum)
      (fun proposal s => s.2 = w ∧ proposal.count ≤ maximum ∧
        proposal.count ≤ proposal.draft.length ∧
        (∀ token ∈ proposal.draft, token < referenceVocabularySize) ∧
        guarded.Opened history (proposal.count + 1) s.1)
      (fun s => s.2 = w ∧ guarded.Stopped s.1) := by
  rw [draftRound, proposeRound_eq]
  refine Triple.ite (fun hzero => Triple.ret ?_) fun hzero => ?_
  · rintro s rfl
    subst hzero
    exact ⟨rfl, le_rfl, le_rfl, by simp, guarded.begun_opened hbegun⟩
  · have hsettled := guarded.propose_settled round hseed (Nat.pos_of_ne_zero hzero) hbegun
    refine Triple.bind (call_exactly _ _ _) fun proposal => Triple.assume ?_
    rintro rfl
    dsimp only at hsettled
    generalize offer round service.backend maximum target = r at hsettled ⊢
    rcases hsettled with ⟨hgranted, hgood, hlength, hvocabulary, hopened⟩ | ⟨hrefused, hstopped⟩
    · rw [hgranted, if_neg (by simp), hgood, if_neg (by simp)]
      refine Triple.ret ?_
      rintro s rfl
      refine ⟨rfl, ?_, hlength, hvocabulary, hopened⟩
      by_contra hlarge
      simp [badProposal, Nat.not_le.mp hlarge] at hgood
    · rw [hrefused, if_pos rfl]
      rintro s rfl
      exact ⟨rfl, hstopped⟩

-- A whole round: it ends before the last token it emitted was consumed.
structure RoundSeen (client : Option (Client κ)) (stopToken : ℕ) (prompt : List ℕ)
    (remaining : ℕ) (e₀ : Emission κ) (status : RoundStatus) (s : τ × Observer κ F) : Prop where
  shown : ∃ e, guarded.Idle (prompt ++ e.generated) s.1 ∧
    Seen next client stopToken prompt e₀ e ∧
    e.generated.length < e₀.generated.length + remaining ∧
    next (prompt ++ e.generated) < referenceVocabularySize ∧
    Observed (emitted next client stopToken prompt e).2 s.2 ∧
    statusReason status = (emitted next client stopToken prompt e).1

omit [FloatingPoint F] in
lemma inVocabulary_of_forall {bound count : ℕ} {tokens : List ℕ}
    (h : ∀ i < count, tokens.getD i 0 < bound) : inVocabulary bound tokens count = true := by
  rw [inVocabulary, List.all_eq_true]
  intro i hi
  exact decide_eq_true (h i (List.mem_range.mp hi))

lemma transact_guarded (hclient : options.committedToken = client.map Client.callback)
    {round : RoundOptions} (hstop : round.stopToken = options.stopTokenId)
    (hsize : round.vocabularySize = referenceVocabularySize) (hvalid : round.valid = true)
    {history : List ℕ} {target : τ} {observer : Observer κ F} (hidle : guarded.Idle history target)
    (hcapacity : history.length + round.remainingOutput ≤ service.maxSequenceLength)
    (hhistory : prompt ++ e₀.generated = history ++ [round.seedToken])
    (hobserved : Observed e₀ observer) :
    Triple (Exactly (target, observer))
      (transact round service.backend (some (service.emit options)))
      (fun r s => r.ok = true ∧ RoundSeen guarded client options.stopTokenId prompt
        round.remainingOutput e₀ r.status s)
      (Broken guarded client options.stopTokenId prompt e₀) := by
  have hremaining : 0 < round.remainingOutput ∧
      (round.draftLength = 2 ∨ round.draftLength = 3) ∧
      round.seedToken < referenceVocabularySize := by
    simp only [RoundOptions.valid, Bool.not_eq_true', decide_eq_false_iff_not] at hvalid
    omega
  have hmaximum : min round.draftLength (round.remainingOutput - 1) + 1 ≤
      round.remainingOutput ∧ min round.draftLength (round.remainingOutput - 1) + 1 ≤
      maximumVerifyRows := by
    unfold maximumVerifyRows
    omega
  have hbroken : ∀ target', guarded.Stopped target' →
      Broken guarded client options.stopTokenId prompt e₀ (target', observer) :=
    fun target' hstopped => ⟨hstopped, e₀, GreedyRun.refl, .inl hobserved⟩
  refine Triple.bind (Triple.step rfl) fun begun => Triple.assume ?_
  rintro rfl
  rcases guarded.begin_settled hidle ⟨Nat.succ_pos _, hmaximum.2⟩ (by omega) with
    ⟨hgranted, hbegun⟩ | ⟨hrefused, hstopped⟩
  swap
  · rw [hrefused, if_pos rfl]
    rintro s rfl
    exact hbroken _ hstopped
  rw [hgranted, if_neg (by simp)]
  refine Triple.bind ((draftRound_guarded guarded hremaining.2.2 hbegun).conseq (fun _ h => h)
    (fun _ _ h => h) ?_) fun proposal => ?_
  · rintro ⟨target', w⟩ ⟨rfl, hstopped⟩
    exact hbroken _ hstopped
  rintro ⟨drafted, w⟩ ⟨rfl, hcount, hlength, hdrafted, hopened⟩
  have hin : inVocabulary round.vocabularySize proposal.draft proposal.count = true := by
    refine inVocabulary_of_forall fun i hi => ?_
    rw [hsize, List.getD_eq_getElem?_getD, List.getElem?_eq_getElem (hi.trans_le hlength)]
    exact hdrafted _ (List.getElem_mem _)
  rw [hin, if_neg (by simp)]
  refine Triple.bind (Triple.step rfl) (fun verified => Triple.assume ?_) _ rfl
  rintro rfl
  dsimp only
  rcases guarded.verify_settled hremaining.2.2 hdrafted hlength hopened with
    ⟨hgranted, hpredictions, hstaged⟩ | ⟨hrefused, hstopped⟩
  swap
  · rw [hrefused, if_pos rfl]
    rintro s rfl
    exact hbroken _ hstopped
  have hin : inVocabulary round.vocabularySize (service.backend.verify round.seedToken
      proposal.draft proposal.count drafted).1.2 (proposal.count + 1) = true := by
    refine inVocabulary_of_forall fun i hi => ?_
    have husable := guarded.usable hstaged i (by simp; omega)
    rw [hsize, hpredictions i (Nat.lt_succ_iff.mp hi)]
    rwa [List.take_succ_cons, List.take_take, Nat.min_eq_left (Nat.lt_succ_iff.mp hi)] at husable
  rw [hgranted, if_neg (by simp), hin, if_neg (by simp)]
  refine Triple.bind (commitRows_guarded guarded hclient hstop hlength hpredictions
    proposal.count (Nat.zero_add _) hstaged (by simp) (by simpa using hhistory) GreedyRun.refl
    hobserved rfl) ?_
  rintro result ⟨committed, w⟩ ⟨⟨rows, e, hrows, hle, hstaged', hconsumed, hseen, husable,
    hobserved', hstatus⟩, hok⟩
  refine Triple.bind (Triple.step rfl) (fun finished => Triple.assume ?_) _ rfl
  rintro rfl
  rcases guarded.finish_settled hstaged' hrows hle with ⟨hgranted, hidle'⟩ | ⟨hrefused, hstopped⟩
  · rw [hgranted, if_neg (by simp)]
    refine Triple.ret ?_
    rintro s rfl
    have hlengths := congrArg List.length hconsumed
    have hlengths₀ := congrArg List.length hhistory
    simp only [List.length_append, List.length_take, List.length_cons, List.length_nil]
      at hlengths hlengths₀ hle
    rw [← hconsumed] at hidle'
    exact ⟨hok, e, hidle', hseen, by omega, husable, hobserved', hstatus⟩
  · rw [hrefused, if_pos rfl]
    rintro s rfl
    exact ⟨hstopped, e, hseen, .inr hobserved'⟩

lemma runRound_guarded (hclient : options.committedToken = client.map Client.callback)
    {round : RoundOptions} (hstop : round.stopToken = options.stopTokenId)
    (hsize : round.vocabularySize = referenceVocabularySize) (hvalid : round.valid = true)
    {history : List ℕ} {target : τ} {observer : Observer κ F} (hidle : guarded.Idle history target)
    (hcapacity : history.length + round.remainingOutput ≤ service.maxSequenceLength)
    (hhistory : prompt ++ e₀.generated = history ++ [round.seedToken])
    (hobserved : Observed e₀ observer) {result : RoundResult} {s : τ × Observer κ F}
    (hrun : runRound round service.backend (some (service.emit options)) true (target, observer) =
      (result, s)) :
    (result.ok = true ∧ RoundSeen guarded client options.stopTokenId prompt round.remainingOutput
      e₀ result.status s) ∨
    (result.ok = false ∧ guarded.Aborted s.1 ∧
      SeenPart next client options.stopTokenId prompt e₀ s.2) := by
  have htransact := (transact_guarded guarded hclient hstop hsize hvalid hidle hcapacity hhistory
    hobserved) (target, observer) rfl
  have hfails := (@transact_fails τ (Observer κ F) service.backend (some (service.emit options))
    round) (target, observer) trivial
  rw [runRound, if_neg (by simp [hvalid])] at hrun
  revert hrun htransact hfails
  rcases outcome (transact round service.backend (some (service.emit options)))
    (target, observer) with ⟨failure | answer, target', observer'⟩
  · rintro hrun ⟨hstopped, hseen⟩ hfailed
    obtain ⟨rfl, rfl⟩ := Prod.mk.inj hrun
    exact .inr ⟨hfailed, guarded.abort_stopped hstopped, hseen⟩
  · rintro hrun hseen -
    obtain ⟨rfl, rfl⟩ := Prod.mk.inj hrun
    exact .inl hseen

-- How the rounds of a generation may end.
inductive Generated (guarded : Guarded service next)
    (options : GenerationControlOptions (τ × κ) F) (client : Option (Client κ))
    (prompt : List ℕ) (e₀ : Emission κ) : Except Stop Unit → τ → Observer κ F → Prop
  | finished {target : τ} {observer : Observer κ F}
      (idle : guarded.Idle (prompt ++ observer.control.generatedTokenIds.dropLast) target)
      (shown : ShownTo (greedy next (consume client prompt.length options.stopTokenId)
        (options.maxNewTokens - e₀.generated.length) (prompt ++ e₀.generated) e₀) observer) :
      Generated guarded options client prompt e₀ (.ok ()) target observer
  | cancelled {target : τ} {observer : Observer κ F} {e : Emission κ}
      (asked : service.cancel.isSome)
      (idle : guarded.Idle (prompt ++ e.generated.dropLast) target)
      (seen : Seen next client options.stopTokenId prompt e₀ e)
      (shown : ShownTo (some .cancelled, e) observer) :
      Generated guarded options client prompt e₀ (.ok ()) target observer
  | failed {target : τ} {observer : Observer κ F} (aborted : guarded.Aborted target)
      (seen : SeenPart next client options.stopTokenId prompt e₀ observer) :
      Generated guarded options client prompt e₀ (.error (.failed .runnerFailure (failure false)))
        target observer

-- Between two rounds.
structure Waiting (guarded : Guarded service next) (client : Option (Client κ)) (stopToken : ℕ)
    (prompt : List ℕ) (maximum : ℕ) (e₀ e : Emission κ) (target : τ) (observer : Observer κ F) :
    Prop where
  nonempty : e.generated ≠ []
  bounded : e.generated.length ≤ maximum
  vocabulary : e.generated.getLastD 0 < referenceVocabularySize
  notStopped : e.generated.getLastD 0 ≠ stopToken
  idle : guarded.Idle (prompt ++ e.generated.dropLast) target
  seen : Seen next client stopToken prompt e₀ e
  observed : Observed e observer

omit [FloatingPoint F] in
lemma Seen.length_le {stopToken : ℕ} (h : Seen next client stopToken prompt e₀ e) :
    e₀.generated.length ≤ e.generated.length := by
  have hle := GreedyRun.isPrefix h
  simpa using hle.length_le

omit [FloatingPoint F] in
lemma Seen.greedy {stopToken n : ℕ} (h : Seen next client stopToken prompt e₀ e)
    (hn : e.generated.length ≤ n) :
    greedy next (consume client prompt.length stopToken) (n - e₀.generated.length)
      (prompt ++ e₀.generated) e₀ =
    Library.greedy next (consume client prompt.length stopToken) (n - e.generated.length)
      (prompt ++ e.generated) e := by
  have hadd := GreedyRun.greedy_add h (n - e.generated.length)
  have hle := h.length_le
  rw [← hadd]
  congr 1
  simp only [List.length_append]
  omega

omit [FloatingPoint F] in
lemma Waiting.round {maximum : ℕ} {target : τ} {observer : Observer κ F}
    (hlength : service.length = 2 ∨ service.length = 3)
    (hstop : options.stopTokenId < referenceVocabularySize)
    (hcapacity : prompt.length + options.maxNewTokens ≤ service.maxSequenceLength + 1)
    (h : Waiting guarded client options.stopTokenId prompt maximum e₀ e target observer)
    (hmore : e.generated.length < options.maxNewTokens) :
    let round := service.roundOptions options target observer.control
    round.valid = true ∧ round.remainingOutput = options.maxNewTokens - e.generated.length ∧
      (prompt ++ e.generated.dropLast).length + round.remainingOutput ≤ service.maxSequenceLength ∧
      prompt ++ e.generated = prompt ++ e.generated.dropLast ++ [round.seedToken] := by
  have hgenerated := h.observed.generated
  have hpos := List.length_pos_iff.mpr h.nonempty
  obtain ⟨front, last, hfront⟩ := (List.eq_nil_or_concat' e.generated).resolve_left h.nonempty
  have hidleLength : (prompt ++ e.generated.dropLast).length + 1 =
      prompt.length + e.generated.length := by
    rw [List.length_append, List.length_dropLast]
    omega
  have hremaining : (service.roundOptions options target observer.control).remainingOutput =
      options.maxNewTokens - e.generated.length := by
    rw [Service.roundOptions, hgenerated]
  refine ⟨roundOptions_valid hlength hstop hcapacity ?_ ?_ ?_, hremaining, by omega, ?_⟩
  · rwa [hgenerated]
  · rw [hgenerated]
    exact ⟨h.vocabulary, h.notStopped⟩
  · rw [guarded.idle_position h.idle, hgenerated, hidleLength]
  · simp [Service.roundOptions, hgenerated, hfront]

omit [FloatingPoint F] in
lemma emitted_generated {stopToken : ℕ} : (emitted next client stopToken prompt e).2.generated =
    e.generated ++ [next (prompt ++ e.generated)] := consume_generated

omit [FloatingPoint F] in
lemma Seen.stopped {stopToken n : ℕ} {reason : ReferenceStopReason}
    (h : Seen next client stopToken prompt e₀ e) (hn : e.generated.length < n)
    (hreason : (Mtp.emitted next client stopToken prompt e).1 = some reason) :
    Library.greedy next (consume client prompt.length stopToken) (n - e₀.generated.length)
      (prompt ++ e₀.generated) e₀ =
    (some reason, (Mtp.emitted next client stopToken prompt e).2) := by
  obtain ⟨m, hm⟩ : ∃ m, n - e.generated.length = m + 1 :=
    Nat.exists_eq_succ_of_ne_zero (by omega)
  rw [h.greedy hn.le, hm, Library.greedy]
  rw [show consume client prompt.length stopToken (next (prompt ++ e.generated)) e = (some reason, _)
    from Prod.ext hreason rfl]
  rfl

omit [FloatingPoint F] in
lemma Seen.trans {stopToken : ℕ} {e' : Emission κ} (h : Seen next client stopToken prompt e₀ e)
    (h' : Seen next client stopToken prompt e e') : Seen next client stopToken prompt e₀ e' :=
  GreedyRun.trans h h'

variable {guarded}

omit [FloatingPoint F] in
lemma Waiting.over {target : τ} {observer : Observer κ F}
    (h : Waiting guarded client options.stopTokenId prompt options.maxNewTokens e₀ e target observer)
    (hdone : ¬ e.generated.length < options.maxNewTokens) :
    Generated guarded options client prompt e₀ (.ok ()) target observer := by
  refine .finished ?_ ?_
  · rw [h.observed.generated]
    exact h.idle
  · rw [h.seen.greedy h.bounded, Nat.sub_eq_zero_of_le (Nat.not_lt.mp hdone)]
    exact h.observed.finished

omit [FloatingPoint F] in
lemma Generated.stopped {target : τ} {observer : Observer κ F} {reason : ReferenceStopReason}
    (hidle : guarded.Idle (prompt ++ e.generated) target)
    (hseen : Seen next client options.stopTokenId prompt e₀ e)
    (hless : e.generated.length < options.maxNewTokens)
    (hobserved : Observed (emitted next client options.stopTokenId prompt e).2 observer)
    (hreason : (emitted next client options.stopTokenId prompt e).1 = some reason) :
    Generated guarded options client prompt e₀ (.ok ()) target
      (Service.stopWith observer reason) := by
  have hgenerated : (Service.stopWith observer reason).control.generatedTokenIds = _ :=
    hobserved.generated.trans emitted_generated
  refine .finished ?_ ?_
  · rwa [hgenerated, List.dropLast_concat]
  · rw [hseen.stopped hless hreason]
    exact hobserved.stopWith reason

omit [FloatingPoint F] in
lemma Waiting.ofEmitted {stopToken maximum : ℕ} {target : τ} {observer : Observer κ F}
    (hidle : guarded.Idle (prompt ++ e.generated) target)
    (hseen : Seen next client stopToken prompt e₀ e) (hless : e.generated.length < maximum)
    (husable : next (prompt ++ e.generated) < referenceVocabularySize)
    (hobserved : Observed (emitted next client stopToken prompt e).2 observer)
    (hgo : (emitted next client stopToken prompt e).1 = none) :
    Waiting guarded client stopToken prompt maximum e₀ (emitted next client stopToken prompt e).2
      target observer := by
  refine ⟨?_, ?_, ?_, ?_, ?_, hseen.emitted hgo, hobserved⟩
  · simp [emitted_generated]
  · rwa [emitted_generated, List.length_append, List.length_singleton]
  · rwa [emitted_generated, List.getLastD_concat]
  · rw [emitted_generated, List.getLastD_concat]
    exact decision_none hgo
  · rwa [emitted_generated, List.dropLast_concat]

lemma rounds_guarded (hclient : options.committedToken = client.map Client.callback)
    (hlength : service.length = 2 ∨ service.length = 3)
    (hstop : options.stopTokenId < referenceVocabularySize)
    (hcapacity : prompt.length + options.maxNewTokens ≤ service.maxSequenceLength + 1) (n : ℕ)
    {target : τ} {observer : Observer κ F} (hfuel : options.maxNewTokens - e.generated.length ≤ n)
    (h : Waiting guarded client options.stopTokenId prompt options.maxNewTokens e₀ e target observer)
    {r : Except Stop Unit} {s : τ × Observer κ F}
    (hrun : service.rounds options n (target, observer) = (r, s)) :
    Generated guarded options client prompt e₀ r s.1 s.2 := by
  induction n generalizing e target observer with
  | zero =>
    obtain ⟨rfl, rfl⟩ := Prod.mk.inj hrun
    exact h.over (by omega)
  | succ n ih =>
    rw [Service.rounds, h.observed.generated] at hrun
    by_cases hmore : e.generated.length < options.maxNewTokens
    swap
    · rw [if_neg hmore] at hrun
      obtain ⟨rfl, rfl⟩ := Prod.mk.inj hrun
      exact h.over hmore
    rw [if_pos hmore] at hrun
    by_cases hcancel : service.cancelled (target, observer.context) = true
    · rw [if_pos hcancel] at hrun
      obtain ⟨rfl, rfl⟩ := Prod.mk.inj hrun
      refine .cancelled ?_ h.idle h.seen (h.observed.stopWith _)
      cases hprobe : service.cancel with
      | none => simp [Service.cancelled, hprobe] at hcancel
      | some probe => rfl
    rw [if_neg hcancel] at hrun
    obtain ⟨hvalid, hremaining, hfits, hhistory⟩ := h.round guarded hlength hstop hcapacity hmore
    dsimp only at hrun
    rcases hround : runRound (service.roundOptions options target observer.control)
      service.backend (some (service.emit options)) true (target, { observer with
        calls := observer.calls ++ [.round (service.roundOptions options target observer.control)] })
      with ⟨result, target', observer'⟩
    rw [hround] at hrun
    dsimp only at hrun
    rcases runRound_guarded guarded hclient rfl rfl hvalid h.idle hfits hhistory
      (h.observed.logRound hvalid) hround with ⟨hok, ⟨e', hidle, hseen, hless, husable, hobserved,
        hstatus⟩⟩ | ⟨hfailed, haborted, e', hseen, hobserved⟩
    · have hlonger := hseen.length_le
      have hless' : e'.generated.length < options.maxNewTokens := by omega
      rw [hok, if_neg (by simp)] at hrun
      cases hreason : (emitted next client options.stopTokenId prompt e').1 with
      | some reason =>
        rw [hreason] at hstatus
        have hstopped := Generated.stopped hidle (h.seen.trans hseen) hless' hobserved hreason
        rcases statusReason_some hstatus with ⟨hended, rfl⟩ | ⟨hended, rfl⟩
        · rw [hended, if_pos rfl] at hrun
          obtain ⟨rfl, rfl⟩ := Prod.mk.inj hrun
          exact hstopped
        · rw [hended, if_neg (by simp), if_pos rfl] at hrun
          obtain ⟨rfl, rfl⟩ := Prod.mk.inj hrun
          exact hstopped
      | none =>
        rw [hreason] at hstatus
        obtain ⟨hnotStop, hnotCancelled⟩ := statusReason_none hstatus
        rw [if_neg hnotStop, if_neg hnotCancelled] at hrun
        refine ih ?_ (.ofEmitted hidle (h.seen.trans hseen) hless' husable hobserved hreason) hrun
        rw [emitted_generated, List.length_append, List.length_singleton]
        omega
    · rw [hfailed, if_pos rfl] at hrun
      obtain ⟨rfl, rfl⟩ := Prod.mk.inj hrun
      exact .failed haborted ⟨e', h.seen.trans hseen, hobserved⟩

end Rounds

end Qwen3xOrin.Mtp
