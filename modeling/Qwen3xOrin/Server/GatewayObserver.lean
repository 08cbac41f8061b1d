import Qwen3xOrin.Server.OpenAiProtocol
import Qwen3xOrin.Server.Utf8Output
import Qwen3xOrin.Text.Decode

/-! The observers of a committed token: the engine decodes it, the gateway publishes its chunk. -/

namespace Qwen3xOrin.Server

open Text

structure ReferenceTokenEvent where
  index : ℕ
  tokenId : ℕ
  textDelta : Bytes
  generatedText : Bytes
  isStopToken : Bool
  deriving DecidableEq, Repr

structure JobRequest where
  endpoint : OpenAiEndpoint
  model : Bytes
  maxTokens : ℕ
  stream : Bool
  deriving DecidableEq, Repr

structure Job where
  id : Bytes
  created : Int64
  request : JobRequest
  deriving DecidableEq, Repr

-- What the flags and the event queue answer during one call of the observer.
structure Gate where
  interrupted : Bool := false
  accepted : Bool := true
  deriving DecidableEq, Repr

structure Chunk where
  delta : Bytes
  includeRole : Bool
  finishReason : Option OpenAiFinishReason
  deriving DecidableEq, Repr

def Job.payload (job : Job) (chunk : Chunk) : Bytes :=
  match job.request.endpoint with
  | .chatCompletions =>
    serializeChatChunk job.id job.created job.request.model chunk.delta chunk.includeRole
      chunk.finishReason
  | .completions =>
    serializeTextChunk job.id job.created job.request.model chunk.delta chunk.finishReason

structure ObserverContext where
  pendingUtf8 : Bytes := []
  cancelled : Bool := false
  events : List Bytes := []
  deriving DecidableEq, Repr

-- The chunk of one token, with what stays pending behind it.
def gatewayChunk (maxTokens : ℕ) (pendingUtf8 : Bytes) (token : ReferenceTokenEvent) :
    Chunk × Bytes :=
  let finished := token.isStopToken || decide (token.index + 1 = maxTokens)
  let rendered := renderUtf8Output (pendingUtf8 ++ token.textDelta) finished
  let finishReason :=
    if token.isStopToken then some .stop else if finished then some .length else none
  (⟨rendered.1, decide (token.index = 0), finishReason⟩, rendered.2)

def observeGatewayToken (job : Job) (gate : Gate) (token : ReferenceTokenEvent)
    (context : ObserverContext) : Bool × ObserverContext :=
  if context.cancelled || gate.interrupted then (false, context)
  else if job.request.stream = false then (true, context)
  else
    let (chunk, pending) := gatewayChunk job.request.maxTokens context.pendingUtf8 token
    if gate.accepted then
      (true, { context with
        pendingUtf8 := pending, events := context.events ++ [sseData (job.payload chunk)] })
    else (false, { context with pendingUtf8 := pending, cancelled := true })

structure EngineTokenObserverContext where
  generatedText : Bytes := []
  textDelta : Bytes := []
  decodeError : Option TokenizerError := none
  deriving DecidableEq, Repr

structure Observation where
  engine : EngineTokenObserverContext := {}
  gateway : ObserverContext := {}
  deriving DecidableEq, Repr

section Observer

variable (data : TokenizerData) (stopTokenId : ℕ) (job : Job) (gates : ℕ → Gate)

def observeCommittedToken (tokenId tokenIndex : ℕ) (state : Observation) : Bool × Observation :=
  let isStopToken := decide (tokenId = stopTokenId)
  let publish (engine : EngineTokenObserverContext) : Bool × Observation :=
    let event : ReferenceTokenEvent :=
      { index := tokenIndex
        tokenId := tokenId
        textDelta := engine.textDelta
        generatedText := engine.generatedText
        isStopToken := isStopToken }
    let (goOn, gateway) := observeGatewayToken job (gates tokenIndex) event state.gateway
    (goOn, ⟨engine, gateway⟩)
  if isStopToken then publish { state.engine with textDelta := [] }
  else
    match decode data [tokenId] {} with
    | .error error =>
      (false, { state with engine := { state.engine with decodeError := some error } })
    | .ok text =>
      publish { state.engine with
        textDelta := text, generatedText := state.engine.generatedText ++ text }

-- The observer over the tokens that the controller committed, each with its index.
def observeTokens (tokens : List (ℕ × ℕ)) (state : Observation) : Observation :=
  tokens.foldl (fun state token =>
    (observeCommittedToken data stopTokenId job gates token.1 token.2 state).2) state

end Observer

section Chunks

variable (maxTokens stopTokenId : ℕ) (piece : ℕ → Bytes)

def chunkOf (index : ℕ) (pending : Bytes) (token : ℕ) : Chunk × Bytes :=
  gatewayChunk maxTokens pending
    { index := index
      tokenId := token
      textDelta := piece token
      generatedText := []
      isStopToken := decide (token = stopTokenId) }

-- The chunks from a token on, with what was pending before it.
def chunksFrom : ℕ → Bytes → List ℕ → List Chunk
  | _, _, [] => []
  | index, pending, token :: tokens =>
    let next := chunkOf maxTokens stopTokenId piece index pending token
    next.1 :: chunksFrom (index + 1) next.2 tokens

end Chunks

section Run

variable {data : TokenizerData} {stopTokenId : ℕ} {job : Job} {gates : ℕ → Gate}

lemma observeCommittedToken_error {token index : ℕ} {state : Observation} {error : TokenizerError}
    (h : state.engine.decodeError = some error) :
    ∃ error, (observeCommittedToken data stopTokenId job gates token index
      state).2.engine.decodeError = some error := by
  unfold observeCommittedToken
  dsimp only
  split_ifs
  · exact ⟨error, h⟩
  · cases decode data [token] {} with
    | error other => exact ⟨other, rfl⟩
    | ok text => exact ⟨error, h⟩

lemma observeTokens_error {tokens : List (ℕ × ℕ)} {state : Observation}
    (h : (observeTokens data stopTokenId job gates tokens state).engine.decodeError = none) :
    state.engine.decodeError = none := by
  induction tokens generalizing state with
  | nil => exact h
  | cons token tokens ih =>
    have hnext := ih h
    cases herror : state.engine.decodeError with
    | none => rfl
    | some error =>
      obtain ⟨other, hother⟩ := @observeCommittedToken_error data stopTokenId job gates token.1
        token.2 state error herror
      rw [hother] at hnext
      cases hnext

-- The text that the engine's observer decodes for one token.
def pieceOf (data : TokenizerData) (stopTokenId token : ℕ) : Bytes :=
  if token = stopTokenId then []
  else match decode data [token] {} with
    | .ok text => text
    | .error _ => []

lemma observeGatewayToken_chunk {gate : Gate} {token : ReferenceTokenEvent}
    {context : ObserverContext} (hstream : job.request.stream = true) (hgate : gate = {})
    (hcancelled : context.cancelled = false) :
    (observeGatewayToken job gate token context).2 =
      let next := gatewayChunk job.request.maxTokens context.pendingUtf8 token
      ⟨next.2, false, context.events ++ [sseData (job.payload next.1)]⟩ := by
  subst hgate
  unfold observeGatewayToken
  rw [hcancelled, hstream]
  rfl

lemma observeCommittedToken_chunk {token index : ℕ} {state : Observation}
    (hstream : job.request.stream = true) (hgate : gates index = {})
    (hcancelled : state.gateway.cancelled = false)
    (herror : (observeCommittedToken data stopTokenId job gates token index
      state).2.engine.decodeError = none) :
    ((observeCommittedToken data stopTokenId job gates token index state).2.gateway =
      let next := chunkOf job.request.maxTokens stopTokenId (pieceOf data stopTokenId) index
        state.gateway.pendingUtf8 token
      ⟨next.2, false, state.gateway.events ++ [sseData (job.payload next.1)]⟩) ∧
    (token ≠ stopTokenId → decode data [token] {} = .ok (pieceOf data stopTokenId token)) := by
  by_cases hstop : token = stopTokenId
  · refine ⟨?_, fun hne => absurd hstop hne⟩
    unfold observeCommittedToken
    rw [chunkOf, pieceOf, if_pos hstop]
    simp only [hstop, decide_true, if_true]
    exact observeGatewayToken_chunk hstream hgate hcancelled
  · unfold observeCommittedToken at herror ⊢
    simp only [hstop, decide_false, Bool.false_eq_true, if_false] at herror ⊢
    rw [chunkOf, pieceOf, if_neg hstop]
    cases hdecode : decode data [token] {} with
    | error error =>
      rw [hdecode] at herror
      cases herror
    | ok text =>
      simp only [hstop, decide_false]
      exact ⟨observeGatewayToken_chunk hstream hgate hcancelled, fun _ => trivial⟩

lemma observeTokens_chunks {tokens : List ℕ} {index : ℕ} {state : Observation}
    (hstream : job.request.stream = true)
    (hgates : ∀ i < index + tokens.length, gates i = {})
    (hcancelled : state.gateway.cancelled = false)
    (herror : (observeTokens data stopTokenId job gates (tokens.zipIdx index)
      state).engine.decodeError = none) :
    (observeTokens data stopTokenId job gates (tokens.zipIdx index) state).gateway.events =
        state.gateway.events ++ (chunksFrom job.request.maxTokens stopTokenId
          (pieceOf data stopTokenId) index state.gateway.pendingUtf8 tokens).map
          (fun chunk => sseData (job.payload chunk)) ∧
      ∀ token ∈ tokens, token ≠ stopTokenId →
        decode data [token] {} = .ok (pieceOf data stopTokenId token) := by
  induction tokens generalizing index state with
  | nil => exact ⟨(List.append_nil _).symm, by simp⟩
  | cons token tokens ih =>
    rw [List.length_cons] at hgates
    rw [List.zipIdx_cons] at herror ⊢
    have hfirst : (observeCommittedToken data stopTokenId job gates token index
        state).2.engine.decodeError = none := observeTokens_error herror
    obtain ⟨hgateway, hpiece⟩ := observeCommittedToken_chunk hstream (hgates index (by omega))
      hcancelled hfirst
    obtain ⟨hevents, hpieces⟩ := ih (fun i hi => hgates i (by omega)) (by rw [hgateway]) herror
    refine ⟨?_, List.forall_mem_cons.mpr ⟨hpiece, hpieces⟩⟩
    refine hevents.trans ?_
    rw [hgateway, chunksFrom, List.map_cons]
    simp

end Run

end Qwen3xOrin.Server
