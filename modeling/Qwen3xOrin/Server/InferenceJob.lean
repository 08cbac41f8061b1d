import Qwen3xOrin.Generation.Types
import Qwen3xOrin.Server.OpenAiProtocol
import Mathlib.Logic.Relation

/-! A job between the inference worker and the connection that waits for it. Each step is one
critical section of the job's mutex or one load of a flag; the flags may be set at any time. -/

namespace Qwen3xOrin.Server

open Generation

inductive StreamStartState
  | pending
  | success
  | earlyError
  deriving DecidableEq, Repr

structure JobConfig where
  stream : Bool
  includeUsage : Bool
  eventCapacity : ℕ
  deriving DecidableEq, Repr

structure InferenceJob where
  cancelled : Bool := false
  events : List Bytes := []
  eventStreamClosed : Bool := false
  streamStart : StreamStartState := .pending
  responseReady : Bool := false
  responseStatus : ℕ := 500
  responseBody : Bytes := []
  deriving DecidableEq, Repr

namespace InferenceJob

variable (job : InferenceJob)

def cancel : InferenceJob := { job with cancelled := true }

def accept (event : Bytes) : InferenceJob :=
  { job with
    events := job.events ++ [event]
    streamStart := if job.streamStart = .pending then .success else job.streamStart }

-- `none` while it waits for room in the queue.
def pushEvent (config : JobConfig) (stopping : Bool) (event : Bytes) :
    Option (Bool × InferenceJob) :=
  if job.cancelled = false ∧ stopping = false ∧ config.eventCapacity ≤ job.events.length then none
  else if job.cancelled ∨ stopping ∨ job.eventStreamClosed then some (false, job)
  else some (true, job.accept event)

def closeEvents : InferenceJob := { job with eventStreamClosed := true }

def setResponse (status : ℕ) (body : Bytes) : InferenceJob :=
  { job with responseStatus := status, responseBody := body, responseReady := true }

-- The early error up to the copy of its body, where the allocation may fail.
def startEarlyError (status : ℕ) : InferenceJob :=
  { job with streamStart := .earlyError, responseStatus := status }

def earlyError (status : ℕ) (body : Bytes) : InferenceJob :=
  { job with
    streamStart := .earlyError
    responseStatus := status
    responseBody := body
    responseReady := true
    eventStreamClosed := true }

end InferenceJob

section Errors

def simpleError (status : ℕ) (code message : String) : OpenAiProtocolError :=
  { httpStatus := status, code := ascii code, message := ascii message }

def routeUnhealthy : OpenAiProtocolError :=
  simpleError 503 "production_route_unhealthy" ("the sealed production route is unhealthy; " ++
    "restart the server after inspecting its runtime receipt")

def serverStopping : OpenAiProtocolError := simpleError 503 "server_stopping" "server is stopping"

def routeChanged : OpenAiProtocolError :=
  simpleError 503 "production_route_unhealthy" ("the sealed production route changed at " ++
    "runtime; restart the server after inspecting its receipt")

def observerFailure : OpenAiProtocolError :=
  simpleError 500 "stream_encoding_error" "unexpected streaming observer failure"

def gatewayError (message : String) : OpenAiProtocolError := simpleError 500 "gateway_error" message

inductive ReferenceEngineError
  | invalidArgument
  | capacityExceeded
  | tokenizerFailure
  | other
  deriving DecidableEq, Repr

structure EngineDiagnostic where
  code : ReferenceEngineError
  message : Bytes
  deriving DecidableEq, Repr

def EngineDiagnostic.clientError (diagnostic : EngineDiagnostic) : Bool :=
  diagnostic.code ≠ .other

def EngineDiagnostic.error (diagnostic : EngineDiagnostic) : OpenAiProtocolError where
  httpStatus := if diagnostic.clientError then 400 else 500
  code := ascii (if diagnostic.clientError then "invalid_request" else "engine_error")
  message :=
    if diagnostic.code = .tokenizerFailure then ascii "prompt formatting or tokenization failed"
    else if diagnostic.clientError then diagnostic.message
    else ascii "native inference failed; inspect server logs"

end Errors

abbrev GenerateResult := Except EngineDiagnostic ReferenceStopReason

-- Where the worker stands in its loop. `retried` marks the handler of an exception.
inductive WorkerPc
  | queued
  | started
  | admitted
  | generating
  | observing
  | pushing (event : Bytes)
  | refused (protocolFailure : Bool)
  | generated (result : GenerateResult) (protocolFailure : Bool)
  | pushingUsage (event : Bytes)
  | pushingDone
  | responded
  | publishing (error : OpenAiProtocolError) (retried : Bool)
  | published (error : OpenAiProtocolError) (retried : Bool)
  | pushingError (error : OpenAiProtocolError) (retried : Bool)
  | recovering
  | bailing
  | closing
  | done

-- The pc behind an exception out of `publishJobError`.
def WorkerPc.thrown (retried : Bool) : WorkerPc := if retried then .bailing else .recovering

-- The exceptions of `executeJob` outside the observer, which catches its own.
def WorkerPc.executing : WorkerPc → Bool
  | started | admitted | generating | generated _ _ | pushingUsage _ | pushingDone
  | responded => true
  | _ => false

def doneEvent : Bytes := ascii "data: [DONE]\n\n"

-- One step of the worker, with the event it adds to the queue.
inductive WorkerStep (config : JobConfig) (stopping : Bool) :
    InferenceJob → WorkerPc → InferenceJob → WorkerPc → Option Bytes → Prop
  | pop {job} : WorkerStep config stopping job .queued job .started none
  | unhealthy {job} :
    WorkerStep config stopping job .started job (.publishing routeUnhealthy false) none
  | healthy {job} : WorkerStep config stopping job .started job .admitted none
  | interrupted {job} : job.cancelled ∨ stopping →
    WorkerStep config stopping job .admitted job (.publishing serverStopping false) none
  | generate {job} : job.cancelled = false → stopping = false →
    WorkerStep config stopping job .admitted job .generating none
  | observe {job} : WorkerStep config stopping job .generating job .observing none
  | observeInterrupted {job} : job.cancelled ∨ stopping →
    WorkerStep config stopping job .observing job (.refused false) none
  | observeSilent {job} : job.cancelled = false → stopping = false → config.stream = false →
    WorkerStep config stopping job .observing job .generating none
  | observeStream {job} (event : Bytes) : job.cancelled = false → stopping = false →
    config.stream = true → WorkerStep config stopping job .observing job (.pushing event) none
  | observeThrows {job} : WorkerStep config stopping job .observing job (.refused true) none
  | pushThrows {job} {event : Bytes} :
    WorkerStep config stopping job (.pushing event) job (.refused true) none
  | pushed {job job'} {event : Bytes} : job.pushEvent config stopping event = some (true, job') →
    WorkerStep config stopping job (.pushing event) job' .generating (some event)
  | pushRefused {job job'} {event : Bytes} :
    job.pushEvent config stopping event = some (false, job') →
    WorkerStep config stopping job (.pushing event) job'.cancel (.refused false) none
  -- The engine reports a cancelled generation only when its observer refused a token.
  | ended {job} (result : GenerateResult) : result ≠ .ok .cancelled →
    WorkerStep config stopping job .generating job (.generated result false) none
  | endedRefused {job} (result : GenerateResult) {protocolFailure : Bool} :
    WorkerStep config stopping job (.refused protocolFailure) job
      (.generated result protocolFailure) none
  | routeChanged {job} {result : GenerateResult} {protocolFailure : Bool} :
    WorkerStep config stopping job (.generated result protocolFailure) job
      (.publishing routeChanged false) none
  | protocolFailure {job} {result : GenerateResult} :
    WorkerStep config stopping job (.generated result true) job
      (.publishing observerFailure false) none
  | cancelledEnd {job} {result : GenerateResult} : job.cancelled ∨ stopping →
    WorkerStep config stopping job (.generated result false) job .closing none
  | engineFailed {job} {diagnostic : EngineDiagnostic} : job.cancelled = false →
    stopping = false →
    WorkerStep config stopping job (.generated (.error diagnostic) false) job
      (.publishing diagnostic.error false) none
  | generationCancelled {job} : job.cancelled = false → stopping = false →
    WorkerStep config stopping job (.generated (.ok .cancelled) false) job .closing none
  | usage {job} {reason : ReferenceStopReason} (event : Bytes) : reason ≠ .cancelled →
    job.cancelled = false → stopping = false → config.stream = true →
    config.includeUsage = true →
    WorkerStep config stopping job (.generated (.ok reason) false) job (.pushingUsage event) none
  | noUsage {job} {reason : ReferenceStopReason} : reason ≠ .cancelled → job.cancelled = false →
    stopping = false → config.stream = true → config.includeUsage = false →
    WorkerStep config stopping job (.generated (.ok reason) false) job .pushingDone none
  | respond {job} {reason : ReferenceStopReason} (body : Bytes) : reason ≠ .cancelled →
    job.cancelled = false → stopping = false → config.stream = false →
    WorkerStep config stopping job (.generated (.ok reason) false) (job.setResponse 200 body)
      .responded none
  | finish {job} : WorkerStep config stopping job .responded job .done none
  | usagePushed {job job'} {event : Bytes} :
    job.pushEvent config stopping event = some (true, job') →
    WorkerStep config stopping job (.pushingUsage event) job' .pushingDone (some event)
  | usageRefused {job job'} {event : Bytes} :
    job.pushEvent config stopping event = some (false, job') →
    WorkerStep config stopping job (.pushingUsage event) job'.cancel .closing none
  | donePushed {job job'} : job.pushEvent config stopping doneEvent = some (true, job') →
    WorkerStep config stopping job .pushingDone job' .closing (some doneEvent)
  | doneRefused {job job'} : job.pushEvent config stopping doneEvent = some (false, job') →
    WorkerStep config stopping job .pushingDone job' .closing none
  | close {job} : WorkerStep config stopping job .closing job.closeEvents .done none
  | publishThrows {job} {error : OpenAiProtocolError} {retried : Bool} :
    WorkerStep config stopping job (.publishing error retried) job (.thrown retried) none
  | publishEarly {job} {error : OpenAiProtocolError} {retried : Bool} : config.stream = true →
    job.streamStart = .pending →
    WorkerStep config stopping job (.publishing error retried)
      (job.earlyError error.httpStatus (serializeOpenAiError error)) .done none
  | publishEarlyThrows {job} {error : OpenAiProtocolError} {retried : Bool} :
    config.stream = true → job.streamStart = .pending →
    WorkerStep config stopping job (.publishing error retried)
      (job.startEarlyError error.httpStatus) (.thrown retried) none
  | publishLate {job} {error : OpenAiProtocolError} {retried : Bool} : config.stream = true →
    job.streamStart ≠ .pending →
    WorkerStep config stopping job (.publishing error retried) job (.published error retried) none
  | publishResponse {job} {error : OpenAiProtocolError} {retried : Bool} : config.stream = false →
    WorkerStep config stopping job (.publishing error retried)
      (job.setResponse error.httpStatus (serializeOpenAiError error)) .done none
  | dropError {job} {error : OpenAiProtocolError} {retried : Bool} : job.cancelled = true →
    WorkerStep config stopping job (.published error retried) job .closing none
  | lateError {job} {error : OpenAiProtocolError} {retried : Bool} : job.cancelled = false →
    WorkerStep config stopping job (.published error retried) job
      (.pushingError error retried) none
  | errorPushed {job job'} {error : OpenAiProtocolError} {retried : Bool} :
    job.pushEvent config stopping (sseData (serializeOpenAiError error)) = some (true, job') →
    WorkerStep config stopping job (.pushingError error retried) job' .closing
      (some (sseData (serializeOpenAiError error)))
  | errorRefused {job job'} {error : OpenAiProtocolError} {retried : Bool} :
    job.pushEvent config stopping (sseData (serializeOpenAiError error)) = some (false, job') →
    WorkerStep config stopping job (.pushingError error retried) job' .closing none
  | errorThrows {job} {error : OpenAiProtocolError} {retried : Bool} :
    WorkerStep config stopping job (.pushingError error retried) job (.thrown retried) none
  | throws {job} {pc : WorkerPc} : pc.executing = true →
    WorkerStep config stopping job pc job .recovering none
  | recover {job} (message : String) :
    WorkerStep config stopping job .recovering job (.publishing (gatewayError message) true) none
  | bailOut {job} : WorkerStep config stopping job .bailing job.cancel .closing none

-- Where the connection stands. Events that it took and could not send are lost with it.
inductive ConnectionPc
  | starting
  | waitingStart
  | headers
  | earlyReply (status : ℕ) (body : Bytes)
  | streaming
  | waitingEvents
  | sending (event : Bytes)
  | ending
  | awaiting
  | waitingResponse
  | replying
  | finished
  | finishedEarly
  | gaveUp (lost : List Bytes)

def ConnectionPc.held : ConnectionPc → List Bytes
  | sending event => [event]
  | gaveUp lost => lost
  | _ => []

-- One step of the connection, with the event it delivers and the early error it sends. A client
-- may be gone at any time.
inductive ConnectionStep (stopping : Bool) :
    InferenceJob → ConnectionPc → InferenceJob → ConnectionPc → Option Bytes →
      Option (ℕ × Bytes) → Prop
  | waitStart {job} : job.streamStart = .pending → job.eventStreamClosed = false →
    ConnectionStep stopping job .starting job .waitingStart none none
  | startAbandoned {job} :
    ConnectionStep stopping job .waitingStart job.cancel (.gaveUp []) none none
  | recheckStart {job} : job.cancelled = false → stopping = false →
    ConnectionStep stopping job .waitingStart job .starting none none
  | startSse {job} : job.streamStart = .success →
    ConnectionStep stopping job .starting job .headers none none
  | startEarly {job} : job.streamStart = .earlyError → job.responseReady = true →
    ConnectionStep stopping job .starting job (.earlyReply job.responseStatus job.responseBody)
      none none
  | startEarlyUnready {job} : job.streamStart = .earlyError → job.responseReady = false →
    ConnectionStep stopping job .starting job (.gaveUp []) none none
  | startClosed {job} : job.streamStart = .pending → job.eventStreamClosed = true →
    ConnectionStep stopping job .starting job (.gaveUp []) none none
  | headersSent {job} : ConnectionStep stopping job .headers job .streaming none none
  | headersFailed {job} :
    ConnectionStep stopping job .headers job.cancel (.gaveUp []) none none
  | earlySent {job} {status : ℕ} {body : Bytes} :
    ConnectionStep stopping job (.earlyReply status body) job .finishedEarly none
      (some (status, body))
  | earlyFailed {job} {status : ℕ} {body : Bytes} :
    ConnectionStep stopping job (.earlyReply status body) job.cancel (.gaveUp []) none none
  | waitEvents {job} : job.events = [] → job.eventStreamClosed = false →
    ConnectionStep stopping job .streaming job .waitingEvents none none
  | eventsAbandoned {job} :
    ConnectionStep stopping job .waitingEvents job.cancel (.gaveUp []) none none
  | recheckEvents {job} : stopping = false →
    ConnectionStep stopping job .waitingEvents job .streaming none none
  | take {job} {event : Bytes} {rest : List Bytes} : job.events = event :: rest →
    ConnectionStep stopping job .streaming { job with events := rest } (.sending event) none none
  | sent {job} {event : Bytes} :
    ConnectionStep stopping job (.sending event) job .streaming (some event) none
  | sendFailed {job} {event : Bytes} :
    ConnectionStep stopping job (.sending event) job.cancel (.gaveUp [event]) none none
  | drained {job} : job.events = [] → job.eventStreamClosed = true →
    ConnectionStep stopping job .streaming job .ending none none
  | endSent {job} : ConnectionStep stopping job .ending job .finished none none
  | endFailed {job} : ConnectionStep stopping job .ending job.cancel (.gaveUp []) none none
  | waitResponse {job} : job.responseReady = false →
    ConnectionStep stopping job .awaiting job .waitingResponse none none
  | responseAbandoned {job} :
    ConnectionStep stopping job .waitingResponse job.cancel (.gaveUp []) none none
  | recheckResponse {job} : job.cancelled = false → stopping = false →
    ConnectionStep stopping job .waitingResponse job .awaiting none none
  | reply {job} : job.responseReady = true →
    ConnectionStep stopping job .awaiting job .replying none none
  | replied {job} : ConnectionStep stopping job .replying job .finished none none
  | replyFailed {job} : ConnectionStep stopping job .replying job (.gaveUp []) none none

-- `accepted`, `delivered` and `earlySent` are the history of the job.
structure JobSystem where
  job : InferenceJob := {}
  stopping : Bool := false
  worker : WorkerPc := .queued
  connection : ConnectionPc
  accepted : List Bytes := []
  delivered : List Bytes := []
  earlySent : Option (ℕ × Bytes) := none

def initialJobSystem (config : JobConfig) : JobSystem where
  connection := if config.stream then .starting else .awaiting

inductive JobStep (config : JobConfig) : JobSystem → JobSystem → Prop
  | worker {system : JobSystem} {job' : InferenceJob} {pc' : WorkerPc} {event : Option Bytes} :
    WorkerStep config system.stopping system.job system.worker job' pc' event →
    JobStep config system
      { system with job := job', worker := pc', accepted := system.accepted ++ event.toList }
  | connection {system : JobSystem} {job' : InferenceJob} {pc' : ConnectionPc}
    {event : Option Bytes} {early : Option (ℕ × Bytes)} :
    ConnectionStep system.stopping system.job system.connection job' pc' event early →
    JobStep config system
      { system with
        job := job'
        connection := pc'
        delivered := system.delivered ++ event.toList
        earlySent := early.or system.earlySent }
  | cancel {system : JobSystem} : JobStep config system { system with job := system.job.cancel }
  | stop {system : JobSystem} : JobStep config system { system with stopping := true }

def ReachableJob (config : JobConfig) (system : JobSystem) : Prop :=
  Relation.ReflTransGen (JobStep config) (initialJobSystem config) system

end Qwen3xOrin.Server
