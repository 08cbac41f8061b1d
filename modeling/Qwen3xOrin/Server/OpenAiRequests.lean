import Qwen3xOrin.Io.JsonDoubles
import Qwen3xOrin.Server.ChatMessages

/-! The body of a completion request: the JSON object, the fields it may carry, and the capacity
that a prompt of token ids must fit. -/

namespace Qwen3xOrin.Server

open Io.Json Library

open Qwen3xOrin.Text (ChatMessage)

def referenceVocabularySize : ℕ := 248320
def absoluteRequestMaxSequenceLength : ℕ := 262144
def protocolValueAllowance : ℕ := 256

inductive OpenAiPromptKind
  | chatMessages
  | rawText
  | tokenIds
  deriving DecidableEq, Repr

structure OpenAiRequest where
  endpoint : OpenAiEndpoint := .chatCompletions
  promptKind : OpenAiPromptKind := .chatMessages
  model : Bytes := []
  messages : List ChatMessage := []
  prompt : Bytes := []
  promptTokenIds : List ℕ := []
  maxTokens : ℕ := 16
  seed : Option ℤ := none
  stream : Bool := false
  includeUsage : Bool := false

def parseUint32 (value : Value) : Option ℕ :=
  match value with
  | .number text => (toUint64 text).filter (· < 2 ^ 32)
  | _ => none

def isNumber (value : Value) (expected : ℚ) : Bool :=
  match value with
  | .number text => toDouble text = some expected
  | _ => false

section Prompt

def promptParam (index : ℕ) : Bytes := ascii "prompt[" ++ toStringUnsigned index ++ ascii "]"

def parseTokenId (value : Value) (index : ℕ) : Except OpenAiProtocolError ℕ :=
  match parseUint32 value with
  | none =>
    failure "invalid_prompt" (ascii "token-id prompt must contain unsigned integers")
      (promptParam index)
  | some id =>
    if referenceVocabularySize ≤ id then
      failure "invalid_prompt" (ascii "token id is outside the pinned vocabulary")
        (promptParam index)
    else .ok id

def parsePrompt (value : Value) (request : OpenAiRequest) :
    Except OpenAiProtocolError OpenAiRequest :=
  match value with
  | .string prompt =>
    if prompt = [] then
      failure "invalid_prompt" (ascii "prompt must not be empty") (ascii "prompt")
    else .ok { request with prompt := prompt, promptKind := .rawText }
  | .array ids =>
    if ids = [] then
      failure "invalid_prompt" (ascii "token-id prompt must not be empty") (ascii "prompt")
    else do
      let promptTokenIds ← ids.zipIdx.mapM fun id => parseTokenId id.1 id.2
      pure { request with promptTokenIds := promptTokenIds, promptKind := .tokenIds }
  | _ =>
    failure "unsupported_prompt" (ascii "prompt must be one string or one flat token-id array")
      (ascii "prompt")

def payloadName : OpenAiEndpoint → Bytes
  | .chatCompletions => ascii "messages"
  | .completions => ascii "prompt"

def parsePayload (root : Value) (request : OpenAiRequest) :
    Except OpenAiProtocolError OpenAiRequest :=
  match root.find (payloadName request.endpoint) with
  | none =>
    failure "missing_parameter" (payloadName request.endpoint ++ ascii " is required")
      (payloadName request.endpoint)
  | some payload =>
    match request.endpoint with
    | .chatCompletions => do
      let messages ← parseMessages payload
      pure { request with messages := messages, promptKind := .chatMessages }
    | .completions => parsePrompt payload request

end Prompt

section Fields

variable (root : Value)

def commonFields : List Bytes :=
  [ascii "model", ascii "max_tokens", ascii "max_completion_tokens", ascii "temperature",
    ascii "top_p", ascii "n", ascii "seed", ascii "stream", ascii "stream_options", ascii "stop"]

def parseModel (servedModel : Bytes) : Except OpenAiProtocolError Bytes :=
  let invalid : Except OpenAiProtocolError Bytes :=
    failure "invalid_model" (ascii "model must be a non-empty string") (ascii "model")
  match root.find (ascii "model") with
  | some (.string model) =>
    if model = [] then invalid
    else if model ≠ servedModel then
      .error
        { httpStatus := 404
          code := ascii "model_not_found"
          message := ascii "the requested model is not served"
          param := ascii "model" }
    else .ok model
  | _ => invalid

def parseMaxTokens (maximumOutputTokens : ℕ) : Except OpenAiProtocolError ℕ :=
  let selected (name : String) (value : Value) : Except OpenAiProtocolError ℕ :=
    match (parseUint32 value).filter fun maxTokens =>
        0 < maxTokens ∧ maxTokens ≤ maximumOutputTokens with
    | some maxTokens => .ok maxTokens
    | none =>
      failure "invalid_max_tokens"
        (ascii "max_tokens must be within the configured positive limit") (ascii name)
  match root.find (ascii "max_tokens"), root.find (ascii "max_completion_tokens") with
  | some _, some _ =>
    failure "conflicting_parameters"
      (ascii "specify only one of max_tokens and max_completion_tokens") (ascii "max_tokens")
  | some maxTokens, none => selected "max_tokens" maxTokens
  | none, some maxCompletionTokens => selected "max_completion_tokens" maxCompletionTokens
  | none, none =>
    failure "missing_parameter"
      (ascii ("max_tokens or max_completion_tokens is required by " ++
        "this bounded evaluation gateway"))
      (ascii "max_tokens")

def checkCapacity (request : OpenAiRequest) (maximumSequenceLength : ℕ) :
    Except OpenAiProtocolError Unit :=
  if request.promptKind = .tokenIds ∧
      maximumSequenceLength < request.promptTokenIds.length + request.maxTokens - 1 then
    failure "context_length_exceeded"
      (ascii ("prompt tokens plus requested output exceed the configured " ++
        "sequence capacity"))
      (ascii "prompt")
  else .ok ()

def checkTemperature : Except OpenAiProtocolError Unit :=
  match root.find (ascii "temperature") with
  | none =>
    failure "missing_parameter"
      (ascii ("temperature=0 must be explicit because this gateway " ++
        "does not implement the OpenAI sampling default"))
      (ascii "temperature")
  | some temperature =>
    if isNumber temperature 0 then .ok ()
    else
      failure "unsupported_sampling" (ascii "only greedy temperature=0 is supported")
        (ascii "temperature")

-- A member that may be left out, and otherwise has to carry the one supported value.
def checkMember (name : String) (supported : Value → Bool) (code message : String) :
    Except OpenAiProtocolError Unit :=
  if (root.find (ascii name)).all supported then .ok ()
  else failure code (ascii message) (ascii name)

def checkTopP : Except OpenAiProtocolError Unit :=
  checkMember root "top_p" (isNumber · 1) "unsupported_sampling" "only top_p=1 is supported"

def checkN : Except OpenAiProtocolError Unit :=
  checkMember root "n" (fun value => parseUint32 value = some 1) "unsupported_batch"
    "only n=1 is supported"

def isNull : Value → Bool
  | .null => true
  | _ => false

def checkStop : Except OpenAiProtocolError Unit :=
  checkMember root "stop" isNull "unsupported_stop" "custom stop sequences are not supported"

def parseSeed : Except OpenAiProtocolError (Option ℤ) :=
  let invalid : Except OpenAiProtocolError (Option ℤ) :=
    failure "invalid_seed" (ascii "seed must be a signed 64-bit integer") (ascii "seed")
  match root.find (ascii "seed") with
  | none => .ok none
  | some (.number text) =>
    match toInt64 text with
    | some seed => .ok (some seed)
    | none => invalid
  | some _ => invalid

def parseStream : Except OpenAiProtocolError Bool :=
  match root.find (ascii "stream") with
  | none => .ok false
  | some (.bool enabled) => .ok enabled
  | some _ => failure "invalid_stream" (ascii "stream must be a boolean") (ascii "stream")

def parseIncludeUsage (streamOptions : Value) : Except OpenAiProtocolError Bool :=
  match streamOptions with
  | .object members =>
    match hasOnlyMembers members [ascii "include_usage"] with
    | .error unexpected =>
      failure "unsupported_parameter" (ascii "unsupported stream option: " ++ unexpected)
        (ascii "stream_options." ++ unexpected)
    | .ok () =>
      match streamOptions.find (ascii "include_usage") with
      | none => .ok false
      | some (.bool enabled) => .ok enabled
      | some _ =>
        failure "invalid_stream_options" (ascii "include_usage must be a boolean")
          (ascii "stream_options.include_usage")
  | _ =>
    failure "invalid_stream_options" (ascii "stream_options must be an object")
      (ascii "stream_options")

def parseStreamOptions (stream : Bool) : Except OpenAiProtocolError Bool :=
  match root.find (ascii "stream_options") with
  | none => .ok false
  | some streamOptions =>
    if stream = false then
      failure "invalid_stream_options" (ascii "stream_options requires stream=true")
        (ascii "stream_options")
    else parseIncludeUsage streamOptions

end Fields

def requestParseOptions (maximumSequenceLength : ℕ) : ParseOptions where
  maxInputBytes := 4 * 1024 * 1024
  maxNestingDepth := 32
  maxValues := maximumSequenceLength + protocolValueAllowance
  maxContainerItems := maximumSequenceLength + protocolValueAllowance

def checkMembers (root : Value) (endpoint : OpenAiEndpoint) : Except OpenAiProtocolError Unit :=
  match root with
  | .object members =>
    match hasOnlyMembers members (payloadName endpoint :: commonFields) with
    | .error unexpected =>
      failure "unsupported_parameter" (ascii "unsupported request parameter: " ++ unexpected)
        unexpected
    | .ok () => .ok ()
  | _ => failure "invalid_request" (ascii "request body must be a JSON object") []

section Request

variable (endpoint : OpenAiEndpoint) (servedModel : Bytes)
  (maximumOutputTokens maximumSequenceLength : ℕ)

def parseRequestObject (root : Value) : Except OpenAiProtocolError OpenAiRequest := do
  checkMembers root endpoint
  let model ← parseModel root servedModel
  let request ← parsePayload root
    { endpoint := endpoint, model := model, maxTokens := min 16 maximumOutputTokens }
  let maxTokens ← parseMaxTokens root maximumOutputTokens
  let request := { request with maxTokens := maxTokens }
  checkCapacity request maximumSequenceLength
  checkTemperature root
  checkTopP root
  checkN root
  let seed ← parseSeed root
  checkStop root
  let stream ← parseStream root
  let includeUsage ← parseStreamOptions root stream
  pure { request with seed := seed, stream := stream, includeUsage := includeUsage }

def parseOpenAiRequest (body : Bytes) : Except OpenAiProtocolError OpenAiRequest :=
  if servedModel = [] ∨ maximumOutputTokens = 0 ∨ maximumSequenceLength = 0 ∨
      absoluteRequestMaxSequenceLength < maximumSequenceLength then
    .error
      { httpStatus := 500
        code := ascii "server_configuration_error"
        message :=
          ascii ("served model, output limit, and sequence capacity are " ++ "not configured") }
  else
    match parse body (requestParseOptions maximumSequenceLength) with
    | .error _ => failure "invalid_json" (ascii "request body is not valid bounded JSON") []
    | .ok root =>
      parseRequestObject endpoint servedModel maximumOutputTokens maximumSequenceLength root

end Request

end Qwen3xOrin.Server
