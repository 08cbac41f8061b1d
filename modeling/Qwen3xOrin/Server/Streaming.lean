import Qwen3xOrin.Generation.ChunkSize
import Qwen3xOrin.Server.GatewayObserver

/-! The chunks of a streaming request against the body of a request that does not stream. -/

namespace Qwen3xOrin.Server

open Generation Text

def generatedTextTokenCount (generatedTokenIds : List ℕ) (stopReason : ReferenceStopReason)
    (stopTokenId : ℕ) : ℕ :=
  if stopReason = .imEnd ∧ generatedTokenIds ≠ [] ∧
      generatedTokenIds.getLast? = some stopTokenId then generatedTokenIds.length - 1
  else generatedTokenIds.length

def finishReason (reason : ReferenceStopReason) : OpenAiFinishReason :=
  if reason = .imEnd then .stop else .length

-- A generation that neither failed nor was cancelled.
structure EndedRequest (tokens : List ℕ) (reason : ReferenceStopReason)
    (stopTokenId maxTokens : ℕ) : Prop where
  nonempty : tokens ≠ []
  atMost : tokens.length ≤ maxTokens
  stop_iff : reason = .imEnd ↔ tokens.getLast? = some stopTokenId
  stop_last : ∀ token ∈ tokens.dropLast, token ≠ stopTokenId
  limit : reason = .maxNewTokens → tokens.length = maxTokens
  notCancelled : reason ≠ .cancelled

lemma endedRequest_of_completed {σ F : Type} {cfg : Prefill.BuildConfig} {promptTokenIds : List ℕ}
    {options : GenerationControlOptions σ F} {control : GenerationControl F} {calls : List Call}
    (h : CompletedGeneration cfg promptTokenIds options control calls)
    (hreason : control.stopReason ≠ .cancelled) :
    EndedRequest control.generatedTokenIds control.stopReason options.stopTokenId
      options.maxNewTokens where
  nonempty := List.ne_nil_of_length_pos h.generated_pos
  atMost := h.generated_le
  stop_iff := h.stop_iff
  stop_last := h.stop_last
  limit := h.limit
  notCancelled := hreason

section Agreement

variable {maxTokens stopTokenId : ℕ} {piece : ℕ → Bytes}

-- The tokens from an index on, up to the one that ends the request.
structure Ending (maxTokens stopTokenId index : ℕ) (tokens : List ℕ) : Prop where
  atMost : index + tokens.length ≤ maxTokens
  stop_last : ∀ token ∈ tokens.dropLast, token ≠ stopTokenId
  ended : tokens.getLast? = some stopTokenId ∨ index + tokens.length = maxTokens

lemma Ending.tail {index token next : ℕ} {tokens : List ℕ}
    (h : Ending maxTokens stopTokenId index (token :: next :: tokens)) :
    token ≠ stopTokenId ∧ index + 1 ≠ maxTokens ∧
      Ending maxTokens stopTokenId (index + 1) (next :: tokens) := by
  have hatMost := h.atMost
  simp only [List.length_cons] at hatMost
  refine ⟨h.stop_last token (by simp), by omega, ?_, ?_, ?_⟩
  · simp only [List.length_cons]
    omega
  · intro other hother
    exact h.stop_last other (by simp [hother])
  · refine h.ended.imp (fun hlast => by simpa using hlast) fun hlength => ?_
    simp only [List.length_cons] at hlength ⊢
    omega

lemma chunkOf_middle {index token : ℕ} {pending : Bytes} (hstop : token ≠ stopTokenId)
    (hindex : index + 1 ≠ maxTokens) :
    chunkOf maxTokens stopTokenId piece index pending token =
      (⟨(renderUtf8Output (pending ++ piece token) false).1, decide (index = 0), none⟩,
        (renderUtf8Output (pending ++ piece token) false).2) := by
  simp [chunkOf, gatewayChunk, hstop, hindex]

lemma chunkOf_last {index token : ℕ} {pending : Bytes}
    (h : token = stopTokenId ∨ index + 1 = maxTokens) :
    (chunkOf maxTokens stopTokenId piece index pending token).1 =
      ⟨(renderUtf8Output (pending ++ piece token) true).1, decide (index = 0),
        some (if token = stopTokenId then .stop else .length)⟩ := by
  rcases h with h | h <;> by_cases hstop : token = stopTokenId <;>
    simp_all [chunkOf, gatewayChunk]

lemma chunksFrom_length (index : ℕ) (pending : Bytes) (tokens : List ℕ) :
    (chunksFrom maxTokens stopTokenId piece index pending tokens).length = tokens.length := by
  induction tokens generalizing index pending with
  | nil => rfl
  | cons token tokens ih => rw [chunksFrom, List.length_cons, ih, List.length_cons]

lemma chunksFrom_contents {index : ℕ} {pending : Bytes} {tokens : List ℕ} (hne : tokens ≠ [])
    (h : Ending maxTokens stopTokenId index tokens) :
    ((chunksFrom maxTokens stopTokenId piece index pending tokens).map Chunk.delta).flatten =
      (renderUtf8Output (pending ++ tokens.flatMap piece) true).1 := by
  induction tokens generalizing index pending with
  | nil => exact absurd rfl hne
  | cons token tokens ih =>
    cases tokens with
    | nil =>
      have hlast : token = stopTokenId ∨ index + 1 = maxTokens := by simpa using h.ended
      simp only [chunksFrom, chunkOf_last hlast, List.map_cons, List.map_nil, List.flatten_cons,
        List.flatten_nil, List.append_nil, List.flatMap_cons, List.flatMap_nil]
    | cons next tokens =>
      obtain ⟨hstop, hindex, htail⟩ := h.tail
      rw [chunksFrom, chunkOf_middle hstop hindex]
      dsimp only
      rw [List.map_cons, List.flatten_cons, ih (by simp) htail,
        List.flatMap_cons (x := token), ← List.append_assoc pending,
        render_append (pending ++ piece token)]

lemma chunksFrom_marks {index : ℕ} {pending : Bytes} {tokens : List ℕ}
    (h : Ending maxTokens stopTokenId index tokens) (i : ℕ) {chunk : Chunk}
    (hchunk : (chunksFrom maxTokens stopTokenId piece index pending tokens)[i]? = some chunk) :
    chunk.includeRole = decide (index + i = 0) ∧
      chunk.finishReason = if i + 1 = tokens.length then
        some (if tokens.getLast? = some stopTokenId then .stop else .length) else none := by
  induction tokens generalizing index pending i with
  | nil => simp [chunksFrom] at hchunk
  | cons token tokens ih =>
    cases tokens with
    | nil =>
      have hlast : token = stopTokenId ∨ index + 1 = maxTokens := by simpa using h.ended
      rw [chunksFrom, chunkOf_last hlast, chunksFrom] at hchunk
      cases i with
      | zero =>
        cases hchunk
        simp
      | succ i => simp at hchunk
    | cons next tokens =>
      obtain ⟨hstop, hindex, htail⟩ := h.tail
      rw [chunksFrom, chunkOf_middle hstop hindex] at hchunk
      cases i with
      | zero =>
        cases hchunk
        simp
      | succ i =>
        obtain ⟨hrole, hfinish⟩ := ih htail i hchunk
        refine ⟨?_, ?_⟩
        · rw [hrole]
          congr 1
          exact propext (by omega)
        · rw [hfinish]
          simp

end Agreement

lemma EndedRequest.ending {tokens : List ℕ} {reason : ReferenceStopReason}
    {stopTokenId maxTokens : ℕ} (h : EndedRequest tokens reason stopTokenId maxTokens) :
    Ending maxTokens stopTokenId 0 tokens where
  atMost := by simpa using h.atMost
  stop_last := h.stop_last
  ended := by
    cases hreason : reason with
    | imEnd => exact Or.inl (h.stop_iff.mp hreason)
    | maxNewTokens => exact Or.inr (by simpa using h.limit hreason)
    | cancelled => exact absurd hreason h.notCancelled

lemma EndedRequest.finish {tokens : List ℕ} {reason : ReferenceStopReason}
    {stopTokenId maxTokens : ℕ} (h : EndedRequest tokens reason stopTokenId maxTokens) :
    (if tokens.getLast? = some stopTokenId then OpenAiFinishReason.stop else .length) =
      finishReason reason := by
  rw [finishReason]
  exact if_congr h.stop_iff.symm rfl rfl

-- The tokens of the text are those that are not the stop token.
lemma EndedRequest.text {tokens : List ℕ} {reason : ReferenceStopReason}
    {stopTokenId maxTokens : ℕ} (h : EndedRequest tokens reason stopTokenId maxTokens)
    {piece : ℕ → Bytes} (hstop : piece stopTokenId = []) :
    (∀ token ∈ tokens.take (generatedTextTokenCount tokens reason stopTokenId),
      token ≠ stopTokenId) ∧
    (tokens.take (generatedTextTokenCount tokens reason stopTokenId)).flatMap piece =
      tokens.flatMap piece := by
  obtain ⟨front, last, rfl⟩ := (List.eq_nil_or_concat' tokens).resolve_left h.nonempty
  have hfront := h.stop_last
  rw [List.dropLast_concat] at hfront
  have hiff := h.stop_iff
  rw [List.getLast?_concat, Option.some.injEq] at hiff
  unfold generatedTextTokenCount
  by_cases hlast : last = stopTokenId
  · rw [if_pos ⟨hiff.mpr hlast, by simp, by simp [hlast]⟩, List.length_append,
      List.length_singleton, Nat.add_sub_cancel, List.take_left]
    exact ⟨hfront, by simp [hlast, hstop]⟩
  · rw [if_neg fun hcount => hlast (by simpa using hcount.2.2), List.take_length]
    refine ⟨?_, rfl⟩
    intro token htoken
    rcases List.mem_append.mp htoken with htoken | htoken
    · exact hfront token htoken
    · rwa [List.mem_singleton.mp htoken]

-- What the body of a request without streaming shows.
structure Completion where
  text : Bytes
  finishReason : OpenAiFinishReason
  deriving DecidableEq, Repr

def completion (generatedText : Bytes) (stopReason : ReferenceStopReason) : Completion :=
  ⟨(renderUtf8Output generatedText true).1, finishReason stopReason⟩

def Job.body (job : Job) (completion : Completion) (usage : OpenAiUsage) : Bytes :=
  match job.request.endpoint with
  | .chatCompletions =>
    serializeChatCompletion job.id job.created job.request.model completion.text
      completion.finishReason usage
  | .completions =>
    serializeTextCompletion job.id job.created job.request.model completion.text
      completion.finishReason usage

lemma observed_agrees {data : TokenizerData} {job : Job} {gates : ℕ → Gate} {tokens : List ℕ}
    {reason : ReferenceStopReason} {stopTokenId : ℕ} {generatedText : Bytes}
    (hstream : job.request.stream = true)
    (hended : EndedRequest tokens reason stopTokenId job.request.maxTokens)
    (hgates : ∀ i < tokens.length, gates i = {})
    (herror : (observeTokens data stopTokenId job gates tokens.zipIdx {}).engine.decodeError = none)
    (hdecoded : decode data (tokens.take (generatedTextTokenCount tokens reason stopTokenId)) {} =
      .ok generatedText) :
    ∃ chunks : List Chunk,
      (observeTokens data stopTokenId job gates tokens.zipIdx {}).gateway.events =
        chunks.map (fun chunk => sseData (job.payload chunk)) ∧
      chunks.length = tokens.length ∧
      (chunks.map Chunk.delta).flatten = (completion generatedText reason).text ∧
      ∀ (i : ℕ) (chunk : Chunk), chunks[i]? = some chunk →
        chunk.includeRole = decide (i = 0) ∧
        chunk.finishReason = if i + 1 = tokens.length then
          some (completion generatedText reason).finishReason else none := by
  obtain ⟨hevents, hpieces⟩ := observeTokens_chunks hstream (by simpa using hgates) rfl herror
  obtain ⟨hnotStop, htext⟩ := @EndedRequest.text _ _ _ _ hended (pieceOf data stopTokenId)
    (if_pos rfl)
  have hgenerated : generatedText = tokens.flatMap (pieceOf data stopTokenId) := by
    rw [← htext]
    exact decode_pieces (fun token htoken =>
      hpieces token (List.mem_of_mem_take htoken) (hnotStop token htoken)) hdecoded
  refine ⟨_, hevents, chunksFrom_length _ _ _, ?_, ?_⟩
  · rw [chunksFrom_contents hended.nonempty hended.ending, hgenerated]
    rfl
  · intro i chunk hchunk
    obtain ⟨hrole, hfinish⟩ := chunksFrom_marks hended.ending i hchunk
    rw [hended.finish] at hfinish
    exact ⟨by rw [hrole, Nat.zero_add], hfinish⟩

section Requests

variable {σ F : Type} [FloatingPoint F]

lemma endedRequest_of_run {cfg : Prefill.BuildConfig} {promptTokenIds : List ℕ}
    {options : GenerationControlOptions σ F} {prefillPlan : PrefillPlan σ F}
    {decodePlan : DecodePlan σ F} {context : σ} {control : GenerationControl F}
    (hrun : (Library.outcome (runGenerationControl cfg promptTokenIds options prefillPlan
      decodePlan) { context := context }).1 = .ok control)
    (hreason : control.stopReason ≠ .cancelled) :
    EndedRequest control.generatedTokenIds control.stopReason options.stopTokenId
        options.maxNewTokens ∧
      (options.committedToken.isSome = true →
        (Library.outcome (runGenerationControl cfg promptTokenIds options prefillPlan
          decodePlan) { context := context }).2.calls.filterMap Call.committed =
          control.generatedTokenIds.zipIdx) := by
  obtain ⟨hok, -⟩ := (runGenerationControl_spec cfg promptTokenIds options prefillPlan
    decodePlan).elim (show Logged [] { context := context } from rfl)
  obtain ⟨-, topology, before, hplan, hbefore, hfinished⟩ := hok control hrun
  have hcompleted := hfinished.completed hplan hbefore
  exact ⟨endedRequest_of_completed hcompleted hreason, hcompleted.observed⟩

theorem streaming_agrees :
    (∀ (data : TokenizerData) (job : Job) (gates : ℕ → Gate) (tokens : List ℕ)
      (reason : ReferenceStopReason) (stopTokenId : ℕ) (generatedText : Bytes),
      job.request.stream = true →
      EndedRequest tokens reason stopTokenId job.request.maxTokens →
      (∀ i < tokens.length, gates i = {}) →
      (observeTokens data stopTokenId job gates tokens.zipIdx {}).engine.decodeError = none →
      decode data (tokens.take (generatedTextTokenCount tokens reason stopTokenId)) {} =
        .ok generatedText →
      ∃ chunks : List Chunk,
        (observeTokens data stopTokenId job gates tokens.zipIdx {}).gateway.events =
          chunks.map (fun chunk => sseData (job.payload chunk)) ∧
        chunks.length = tokens.length ∧
        (chunks.map Chunk.delta).flatten = (completion generatedText reason).text ∧
        ∀ (i : ℕ) (chunk : Chunk), chunks[i]? = some chunk →
          chunk.includeRole = decide (i = 0) ∧
          chunk.finishReason = if i + 1 = tokens.length then
            some (completion generatedText reason).finishReason else none) ∧
    ∀ (cfg : Prefill.BuildConfig) (promptTokenIds : List ℕ)
      (options : GenerationControlOptions σ F) (prefillPlan : PrefillPlan σ F)
      (decodePlan : DecodePlan σ F) (context : σ) (control : GenerationControl F),
      let run := Library.outcome (runGenerationControl cfg promptTokenIds options prefillPlan
        decodePlan) { context := context }
      run.1 = .ok control → control.stopReason ≠ .cancelled →
      EndedRequest control.generatedTokenIds control.stopReason options.stopTokenId
          options.maxNewTokens ∧
        (options.committedToken.isSome = true →
          run.2.calls.filterMap Call.committed = control.generatedTokenIds.zipIdx) :=
  ⟨fun _ _ _ _ _ _ _ hstream hended hgates herror hdecoded =>
      observed_agrees hstream hended hgates herror hdecoded,
    fun _ _ _ _ _ _ _ hrun hreason => endedRequest_of_run hrun hreason⟩

end Requests

-- A two-byte character that comes in two tokens, and the stop token behind it.
def sampleTokenizer : TokenizerData where
  idToToken := [[0xc3, 0x83], [0xc2, 0xa9]]
  byteDecoder codepoint := if codepoint < 256 then some (UInt8.ofNat codepoint) else none

def sampleJob : Job where
  id := ascii "chatcmpl-1"
  created := 7
  request := ⟨.chatCompletions, ascii "qwen", 5, true⟩

theorem streaming_agrees_sample :
    EndedRequest [0, 1, 2] .imEnd 2 sampleJob.request.maxTokens ∧
      decode sampleTokenizer [0, 1] {} = .ok [0xc3, 0xa9] ∧
      (∃ chunks : List Chunk,
        (observeTokens sampleTokenizer 2 sampleJob (fun _ => {}) [(0, 0), (1, 1), (2, 2)]
          {}).gateway.events = chunks.map (fun chunk => sseData (sampleJob.payload chunk)) ∧
        (chunks.map Chunk.delta).flatten = [0xc3, 0xa9]) ∧
      ∃ control, (Library.outcome (runGenerationControl {} [1, 2, 3, 4] successorOptions
          successorPrefill successorDecode) { context := 0 }).1 = .ok control ∧
        EndedRequest control.generatedTokenIds control.stopReason successorOptions.stopTokenId
          successorOptions.maxNewTokens := by
  have hended : EndedRequest [0, 1, 2] .imEnd 2 sampleJob.request.maxTokens :=
    ⟨by decide, by decide, by decide, by decide, by decide, by decide⟩
  have hdecoded : decode sampleTokenizer [0, 1] {} = .ok [0xc3, 0xa9] := by decide +kernel
  obtain ⟨chunks, hevents, -, hcontents, -⟩ := (@streaming_agrees ℕ ℕ _).1 sampleTokenizer
    sampleJob (fun _ => {}) [0, 1, 2] .imEnd 2 [0xc3, 0xa9] rfl hended (fun _ _ => rfl)
    (by decide +kernel) hdecoded
  refine ⟨hended, hdecoded, ⟨chunks, hevents, hcontents.trans (by decide +kernel)⟩, ?_⟩
  obtain ⟨control, hrun⟩ := Library.exists_ok (show (Library.outcome (runGenerationControl {}
    [1, 2, 3, 4] successorOptions successorPrefill successorDecode)
    { context := 0 }).1.isOk = true by decide +kernel)
  have hreason : ((Library.outcome (runGenerationControl {} [1, 2, 3, 4] successorOptions
      successorPrefill successorDecode) { context := 0 }).1.map (·.stopReason)) =
      .ok .maxNewTokens := by decide +kernel
  rw [hrun] at hreason
  have hnot : control.stopReason ≠ .cancelled := by
    have hlimit : control.stopReason = .maxNewTokens := Except.ok.inj hreason
    rw [hlimit]
    decide
  exact ⟨control, hrun, ((@streaming_agrees ℕ ℕ _).2 _ _ _ _ _ _ _ hrun hnot).1⟩

end Qwen3xOrin.Server
