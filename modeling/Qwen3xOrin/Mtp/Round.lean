import Qwen3xOrin.Library.Triple

/-! One speculative round: the host-side admission contract between the generation service and
a transactional backend. The backend state is `β`, the observer's own state is `ω`. -/

namespace Qwen3xOrin.Mtp

def maximumDraftLength : ℕ := 3
def maximumVerifyRows : ℕ := 4

def outputTailBudget (configured remaining : ℕ) : ℕ :=
  if configured = 3 ∧ remaining ≠ 4 then 2 else configured

structure RoundOptions where
  draftLength : ℕ := 2
  seedToken : ℕ := 0
  remainingOutput : ℕ := 0
  availableTargetRows : ℕ := 0
  vocabularySize : ℕ := 0
  stopToken : ℕ := 0
  confidenceLookahead : Bool := false
  eosFrontier : Bool := false
  deriving DecidableEq, Repr

inductive RoundStatus
  | continuing
  | length
  | stop
  | cancelled
  | invalidOptions
  | backendFailure
  | invalidPrediction
  deriving DecidableEq, Repr

structure RoundResult where
  status : RoundStatus := .invalidOptions
  output : List ℕ := []
  proposedTokens : ℕ := 0
  acceptedTokens : ℕ := 0
  verifiedRows : ℕ := 0
  committedTargetRows : ℕ := 0
  eosFrontierStopped : Bool := false
  abortSucceeded : Bool := true
  deriving DecidableEq, Repr

def RoundResult.ok (result : RoundResult) : Bool :=
  decide (result.status = .continuing ∨ result.status = .length ∨ result.status = .stop ∨
    result.status = .cancelled)

structure Proposal where
  ok : Bool
  draft : List ℕ
  count : ℕ
  stopped : Bool := false

structure RoundBackend (β : Type) where
  begin : ℕ → β → Bool × β
  propose : ℕ → ℕ → β → (Bool × List ℕ) × β
  proposeBounded : ℕ → ℕ → β → Proposal × β := fun seed maximum b =>
    let ((ok, draft), b) := propose seed maximum b
    ({ ok := ok, draft := draft, count := maximum }, b)
  proposeEosBounded : ℕ → ℕ → ℕ → β → Proposal × β := fun _ maximum _ b =>
    ({ ok := false, draft := [], count := maximum }, b)
  verify : ℕ → List ℕ → ℕ → β → (Bool × List ℕ) × β
  commitPrefix : ℕ → ℕ → β → Bool × β
  finish : β → Bool × β
  abort : β → Bool × β

abbrev TokenObserver (β ω : Type) := ℕ → β × ω → Bool × (β × ω)

abbrev RoundM (β ω : Type) := ExceptT RoundResult (StateM (β × ω))

variable {β ω α : Type}

def call (operation : β → α × β) : RoundM β ω α :=
  ExceptT.mk fun (b, w) => let (a, b) := operation b; (.ok a, (b, w))

def observe (observer : Option (TokenObserver β ω)) (token : ℕ) : RoundM β ω Bool :=
  match observer with
  | none => pure true
  | some observer => ExceptT.mk fun s => let (proceed, s) := observer token s; (.ok proceed, s)

def failRound (result : RoundResult) (status : RoundStatus) : RoundM β ω α :=
  ExceptT.mk (pure (.error { result with status := status }))

def RoundOptions.valid (options : RoundOptions) : Bool :=
  !decide ((options.draftLength ≠ 2 ∧ options.draftLength ≠ 3) ∨ options.vocabularySize = 0 ∨
    options.vocabularySize ≤ options.seedToken ∨ options.vocabularySize ≤ options.stopToken ∨
    options.seedToken = options.stopToken ∨ options.remainingOutput = 0 ∨
    options.availableTargetRows < options.remainingOutput)

def proposeRound (options : RoundOptions) (backend : RoundBackend β) (maximum : ℕ) :
    RoundM β ω Proposal :=
  if options.eosFrontier then
    call (backend.proposeEosBounded options.seedToken maximum options.stopToken)
  else if options.confidenceLookahead then
    call (backend.proposeBounded options.seedToken maximum)
  else call fun b =>
    let ((ok, draft), b) := backend.propose options.seedToken maximum b
    ({ ok := ok, draft := draft, count := maximum }, b)

def badProposal (stopToken maximum : ℕ) (proposal : Proposal) : Bool :=
  decide (maximum < proposal.count ∨ (proposal.count = 0 ∧ proposal.stopped = false) ∨
    (proposal.stopped = true ∧
      (maximum ≤ proposal.count ∨ proposal.draft.getD proposal.count 0 ≠ stopToken)))

def draftRound (options : RoundOptions) (backend : RoundBackend β) (maximum : ℕ) :
    RoundM β ω Proposal :=
  if maximum = 0 then pure { ok := true, draft := [], count := 0 }
  else do
    let proposal ← proposeRound options backend maximum
    if proposal.ok = false then failRound {} .backendFailure
    else if badProposal options.stopToken maximum proposal then failRound {} .invalidPrediction
    else pure proposal

def inVocabulary (vocabularySize : ℕ) (tokens : List ℕ) (count : ℕ) : Bool :=
  (List.range count).all fun i => decide (tokens.getD i 0 < vocabularySize)

def rowStatus (options : RoundOptions) (token : ℕ) (proceed : Bool) (outputCount : ℕ) :
    RoundStatus :=
  if token = options.stopToken then .stop
  else if proceed = false then .cancelled
  else if outputCount = options.remainingOutput then .length
  else .continuing

-- The emission loop from row `i` on; the first argument counts the rows left.
def commitRows (options : RoundOptions) (backend : RoundBackend β)
    (observer : Option (TokenObserver β ω)) (draft predictions : List ℕ) (count : ℕ) :
    ℕ → ℕ → RoundResult → RoundM β ω RoundResult
  | 0, _, result => pure result
  | n + 1, i, result => do
    let accepted := decide (i < count ∧ draft.getD i 0 = predictions.getD i 0)
    let token := predictions.getD i 0
    let committed ← call (backend.commitPrefix (i + 1) token)
    if committed = false then failRound result .backendFailure
    else
      let result := { result with
        committedTargetRows := i + 1
        output := result.output ++ [token]
        acceptedTokens := result.acceptedTokens + (if accepted then 1 else 0) }
      let proceed ← observe observer token
      let status := rowStatus options token proceed result.output.length
      let result := { result with status := status }
      if status ≠ .continuing ∨ accepted = false then pure result
      else commitRows options backend observer draft predictions count n (i + 1) result

def transact (options : RoundOptions) (backend : RoundBackend β)
    (observer : Option (TokenObserver β ω)) : RoundM β ω RoundResult := do
  let maximum := min options.draftLength (options.remainingOutput - 1)
  let begun ← call (backend.begin (maximum + 1))
  if begun = false then failRound {} .backendFailure
  else
    let proposal ← draftRound options backend maximum
    let result : RoundResult :=
      { proposedTokens := proposal.count, eosFrontierStopped := proposal.stopped }
    if inVocabulary options.vocabularySize proposal.draft proposal.count = false then
      failRound result .invalidPrediction
    else
      let (verified, predictions) ←
        call (backend.verify options.seedToken proposal.draft proposal.count)
      if verified = false then failRound result .backendFailure
      else
        let result := { result with verifiedRows := proposal.count + 1 }
        if inVocabulary options.vocabularySize predictions (proposal.count + 1) = false then
          failRound result .invalidPrediction
        else
          let result ← commitRows options backend observer proposal.draft predictions
            proposal.count (proposal.count + 1) 0 result
          let finished ← call backend.finish
          if finished = false then failRound result .backendFailure else pure result

def runRound (options : RoundOptions) (backend : RoundBackend β)
    (observer : Option (TokenObserver β ω)) (observerContext : Bool) (s : β × ω) :
    RoundResult × (β × ω) :=
  if options.valid = false ∨ (observer.isNone ∧ observerContext) then ({}, s)
  else match Library.outcome (transact options backend observer) s with
    | (.ok result, s) => (result, s)
    | (.error result, (b, w)) =>
      let (succeeded, b) := backend.abort b
      ({ result with abortSucceeded := succeeded }, (b, w))

end Qwen3xOrin.Mtp
