import Qwen3xOrin.Core.Sha256
import Qwen3xOrin.Prefill.Geometry
import Qwen3xOrin.Server.Authorization
import Qwen3xOrin.Server.InferenceJob
import Qwen3xOrin.Server.OpenAiRequests

/-! The one request of a connection, from its reading to the queue of inference jobs. -/

namespace Qwen3xOrin.Server

open Io.Json Library Library.Search

def maximumRequestsPerConnection : ℕ := 1

structure GatewayOptions where
  servedModel : Bytes
  maximumOutputTokens : ℕ
  maxSequenceLength : ℕ
  streamEventCapacity : ℕ
  wholeCoreV10Route : Bool
  wholeCoreV1Profile : Bool

structure QueuedJob where
  request : OpenAiRequest
  requestBodySha256 : String
  id : Bytes
  created : Int64
  eventCapacity : ℕ

-- What the body of a fixed response is serialised from.
inductive ResponseBody
  | error (error : OpenAiProtocolError)
  | health (wholeCoreV10Route : Bool)
  | unhealthy
  | models (wholeCoreV10Route : Bool) (created : Int64)
  | job (body : Bytes)

inductive ConnectionEvent
  | respond (status : ℕ) (body : ResponseBody) (keepAlive : Bool) (extraHeaders : Bytes)
  | enqueue (job : QueuedJob)
  | sseHeaders (keepAlive : Bool)
  | streamEvents
  | cancelJob

-- What the handler reads of the clock, the peer and the other threads, each where it is read.
structure Surroundings where
  stoppingAtRound : Bool
  readyAtHealth : Bool
  readyAtEndpoint : Bool
  created : Int64
  sequence : UInt64
  pushed : Bool
  stoppingAtPush : Bool
  streamStart : Option (Bool × ℕ × Bytes)
  headersSent : Bool
  response : Option (ℕ × Bytes)

def isJsonContentType (value : Bytes) : Bool :=
  match find [59] value with
  | none => trimAscii value = ascii "application/json"
  | some semicolon =>
    let parameter := trimAscii (value.drop (semicolon + 1))
    trimAscii (value.take semicolon) = ascii "application/json" ∧
      (parameter = ascii "charset=utf-8" ∨ parameter = ascii "charset=\"utf-8\"")

section Contract

variable (cfg : Prefill.BuildConfig)

def isP40WholeCoreV10Request (request : OpenAiRequest) : Bool :=
  if cfg.wholeCoreService then
    (request.promptKind ≠ .tokenIds ∨
        Prefill.wholeCorePromptTokensAdmitted cfg request.promptTokenIds.length) ∧
      1 ≤ request.maxTokens ∧ request.maxTokens ≤ 4096
  else
    request.endpoint = .completions ∧ request.promptKind = .tokenIds ∧
      Prefill.wholeCorePromptTokensAdmitted cfg request.promptTokenIds.length ∧
      request.maxTokens = 16 ∧ request.stream ∧ request.includeUsage

def wholeCoreV10Contract : OpenAiProtocolError :=
  simpleError 400 "p40_whole_core_v10_contract"
    ("the p40-whole-core-v10 development route accepts only streaming " ++
      "/v1/completions requests with exactly 40000 token IDs and " ++
      "max_tokens=16 plus stream_options.include_usage=true")

def wholeCoreV1Contract : OpenAiProtocolError :=
  if cfg.wholeCoreService then
    simpleError 400 "whole_core_exact_decode_contract"
      ("the whole-core service requires 1..44095 prompt tokens " ++
        "and max_tokens from 1 through 4096 within the sequence capacity")
  else
    simpleError 400 "p40_whole_core_v1_contract"
      ("the p40-whole-core-v1 production profile accepts only streaming " ++
        "/v1/completions requests with exactly 40000 token IDs and " ++
        "max_tokens=16 plus stream_options.include_usage=true")

end Contract

section Handler

variable (cfg : Prefill.BuildConfig) (options : GatewayOptions) (apiKey : Bytes)
  (surroundings : Surroundings)

def respondError (error : OpenAiProtocolError) (keepAlive : Bool) : List ConnectionEvent :=
  [.respond error.httpStatus (.error error) keepAlive []]

def answerJob (stream keepAlive : Bool) : List ConnectionEvent :=
  if stream then
    match surroundings.streamStart with
    | none => []
    | some (true, _, _) =>
      if surroundings.headersSent then [.sseHeaders keepAlive, .streamEvents, .cancelJob]
      else [.sseHeaders keepAlive, .cancelJob]
    | some (false, status, body) => [.respond status (.job body) keepAlive [], .cancelJob]
  else
    match surroundings.response with
    | none => []
    | some (status, body) => [.respond status (.job body) keepAlive []]

def enqueueJob (request : HttpRequest) (endpoint : OpenAiEndpoint) (parsed : OpenAiRequest)
    (keepAlive : Bool) : List ConnectionEvent :=
  let job : QueuedJob :=
    { request := parsed
      requestBodySha256 := Core.hex (Core.sha256 request.body).toList
      id :=
        (if endpoint = .chatCompletions then ascii "chatcmpl-q3x-" else ascii "cmpl-q3x-") ++
          toStringUnsigned surroundings.sequence.toNat
      created := surroundings.created
      eventCapacity := options.streamEventCapacity }
  if surroundings.pushed then .enqueue job :: answerJob surroundings parsed.stream keepAlive
  else
    let error :=
      if surroundings.stoppingAtPush then simpleError 503 "server_stopping" "server is stopping"
      else simpleError 429 "queue_full" "the bounded inference queue is full"
    [.respond error.httpStatus (.error error) keepAlive (ascii "Retry-After: 1\r\n")]

def serveCompletion (request : HttpRequest) (endpoint : OpenAiEndpoint) (keepAlive : Bool) :
    List ConnectionEvent :=
  if request.method ≠ ascii "POST" then
    let error := simpleError 405 "method_not_allowed" "endpoint requires POST"
    [.respond 405 (.error error) false (ascii "Allow: POST\r\n")]
  else if isJsonContentType request.contentType = false then
    respondError (simpleError 415 "unsupported_media_type" "Content-Type must be application/json")
      false
  else
    match parseOpenAiRequest endpoint options.servedModel options.maximumOutputTokens
        options.maxSequenceLength request.body with
    | .error error => respondError error keepAlive
    | .ok parsed =>
      if options.wholeCoreV10Route ∧ isP40WholeCoreV10Request cfg parsed = false then
        respondError wholeCoreV10Contract keepAlive
      else if options.wholeCoreV1Profile ∧ isP40WholeCoreV10Request cfg parsed = false then
        respondError (wholeCoreV1Contract cfg) keepAlive
      else enqueueJob options surroundings request endpoint parsed keepAlive

def serveRequest (request : HttpRequest) (keepAlive : Bool) : List ConnectionEvent :=
  let models := request.target = ascii "/v1/models"
  let chat := request.target = ascii "/v1/chat/completions"
  let completion := request.target = ascii "/v1/completions"
  if request.method = ascii "GET" ∧ request.target = ascii "/healthz" then
    if surroundings.readyAtHealth = false then [.respond 503 .unhealthy false []]
    else [.respond 200 (.health options.wholeCoreV10Route) keepAlive []]
  else if apiKey ≠ [] ∧ (models ∨ chat ∨ completion) ∧
      constantTimeBearerAuthorizationMatches request.authorization apiKey = false then
    let error := simpleError 401 "unauthorized" "a valid Bearer API key is required"
    [.respond 401 (.error error) false
      (ascii "WWW-Authenticate: Bearer realm=\"qwen3x-orin\"\r\n")]
  else if (models ∨ chat ∨ completion) ∧ surroundings.readyAtEndpoint = false then
    respondError (simpleError 503 "production_route_unhealthy"
      "the sealed production route is unhealthy; restart the server") false
  else if request.method = ascii "GET" ∧ models then
    [.respond 200 (.models options.wholeCoreV10Route surroundings.created) keepAlive []]
  else if ¬chat ∧ ¬completion then
    respondError (simpleError 404 "not_found" "the requested endpoint does not exist") false
  else
    serveCompletion cfg options surroundings request
      (if chat then .chatCompletions else .completions) keepAlive

-- The limit is one request, so that the round that serves it is the last one, however it ends.
def handleConnection (read : HttpReadResult) : List ConnectionEvent :=
  if surroundings.stoppingAtRound then []
  else
    match read.value with
    | none =>
      if read.peerClosed = false ∧ read.errorStatus ≠ 0 then
        respondError (simpleError read.errorStatus "http_error" read.errorMessage) false
      else []
    | some request =>
      let finalConnectionRequest := request.keepAlive = false ∨ 0 + 1 = maximumRequestsPerConnection
      serveRequest cfg options apiKey surroundings request (decide ¬finalConnectionRequest)

end Handler

section Admission

def ConnectionEvent.admits : ConnectionEvent → Bool
  | .enqueue _ => true
  | .respond _ (.models _ _) _ _ => true
  | _ => false

variable {cfg : Prefill.BuildConfig} {options : GatewayOptions} {apiKey : Bytes}
  {surroundings : Surroundings}

lemma respondError_admits (error : OpenAiProtocolError) (keepAlive : Bool) :
    ∀ event ∈ respondError error keepAlive, event.admits = false := by
  intro event hevent
  obtain rfl := List.mem_singleton.mp hevent
  rfl

-- The comparison stands before everything that could admit the request.
lemma serveRequest_unauthorized {request : HttpRequest} (hkey : apiKey ≠ [])
    (hauthorization : request.authorization ≠ bearerPrefix ++ apiKey) (keepAlive : Bool) :
    ∀ event ∈ serveRequest cfg options apiKey surroundings request keepAlive,
      event.admits = false := by
  have hrefused : constantTimeBearerAuthorizationMatches request.authorization apiKey = false := by
    rw [← Bool.not_eq_true, authorization_matches_iff]
    exact fun h => hauthorization h.2
  unfold serveRequest
  dsimp only
  split_ifs with hhealth hready hunauthorized hunhealthy hmodels hunknown hchat
  · intro event hevent
    obtain rfl := List.mem_singleton.mp hevent
    rfl
  · intro event hevent
    obtain rfl := List.mem_singleton.mp hevent
    rfl
  · intro event hevent
    obtain rfl := List.mem_singleton.mp hevent
    rfl
  · exact respondError_admits _ _
  · exact absurd ⟨hkey, Or.inl hmodels.2, hrefused⟩ hunauthorized
  · exact respondError_admits _ _
  · exact absurd ⟨hkey, Or.inr (Or.inl hchat), hrefused⟩ hunauthorized
  · have hcompletion := not_not.mp fun hnone => hunknown ⟨hchat, hnone⟩
    exact absurd ⟨hkey, Or.inr (Or.inr hcompletion), hrefused⟩ hunauthorized

lemma handleConnection_unauthorized {read : HttpReadResult} (hkey : apiKey ≠ [])
    (hauthorization : ∀ request, read.value = some request →
      request.authorization ≠ bearerPrefix ++ apiKey) :
    ∀ event ∈ handleConnection cfg options apiKey surroundings read, event.admits = false := by
  unfold handleConnection
  by_cases hstopping : surroundings.stoppingAtRound = true
  · rw [if_pos hstopping]
    exact fun event hevent => absurd hevent List.not_mem_nil
  · rw [if_neg hstopping]
    cases hvalue : read.value with
    | none =>
      dsimp only
      split_ifs
      · exact respondError_admits _ _
      · exact fun event hevent => absurd hevent List.not_mem_nil
    | some request => exact serveRequest_unauthorized hkey (hauthorization request hvalue) _

end Admission

theorem authorization_admits_exactly_the_key :
    (∀ authorization apiKey, constantTimeBearerAuthorizationMatches authorization apiKey = true ↔
      apiKey ≠ [] ∧ authorization = ascii "Bearer " ++ apiKey) ∧
    (∀ path calls apiKey, loadApiKeyFileImpl path calls = .ok apiKey →
      ∀ authorized : AuthorizedRequest apiKey,
        (∀ result rest request,
          readHttpRequest (headerStream authorized.lines authorized.content) = (result, rest) →
          result.value = some request →
          constantTimeBearerAuthorizationMatches request.authorization apiKey = true) ∧
        ((∀ line ∈ authorized.otherLines, ∀ value,
            ¬IsHeader line (ascii "authorization") value) →
          (joinLines authorized.lines).length ≤ maximumHeaderBytes →
          ∀ request rest,
            readHttpRequest (headerStream (authorized.requestLine :: authorized.otherLines)
              authorized.content) = ({ value := some request }, rest) →
            readHttpRequest (headerStream authorized.lines authorized.content) =
              ({ value := some { request with authorization := ascii "Bearer " ++ apiKey } },
                rest))) ∧
    ∀ cfg options apiKey surroundings read, apiKey ≠ [] →
      (∀ request, read.value = some request →
        request.authorization ≠ ascii "Bearer " ++ apiKey) →
      ∀ event ∈ handleConnection cfg options apiKey surroundings read, event.admits = false := by
  refine ⟨authorization_matches_iff, fun path calls apiKey hloaded authorized => ?_,
    fun cfg options apiKey surroundings read hkey hauthorization =>
      handleConnection_unauthorized hkey hauthorization⟩
  obtain ⟨hkey, hbytes⟩ := loaded_key hloaded
  refine ⟨fun result rest request hread hvalue => ?_, fun hother hlimit request rest hread => ?_⟩
  · exact (authorization_matches_iff _ _).mpr
      ⟨hkey, authorized.read_authorization hbytes hkey hread hvalue⟩
  · exact authorized.read_inserted hbytes hkey hother hlimit hread

end Qwen3xOrin.Server
