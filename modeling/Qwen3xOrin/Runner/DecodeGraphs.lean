import Qwen3xOrin.Generation.Types
import Qwen3xOrin.Library.Handles
import Qwen3xOrin.Library.Triple

/-! The decode graphs of a runner: captured graphs, their executables behind reference-counted
owners, and the slots that hold them. Each CUDA call answers with a status, zero for success. -/

namespace Qwen3xOrin.Runner

open Library
open Generation (ReferenceRunnerStatus ReferenceRunnerError)

def referenceDecodeGraphP2MaximumSlots : ℕ := 64
def maximumDecodeGraphP1Nodes : ℕ := 1024
def referenceHiddenSize : ℕ := 5120
def cudaErrorGraphExecUpdateFailure : ℤ := 910

def runnerStatus (error : ReferenceRunnerError) (operation : String) (cudaError : ℤ := 0) :
    ReferenceRunnerStatus :=
  { error := error, operation := some operation, cudaError := cudaError }

-- What a launch executes: the plan of one captured graph at one embedding row.
structure GraphContent where
  source : ℕ
  position : ℕ
  embeddingOffset : ℕ
  deriving DecidableEq, Repr

-- A graph that was cut down to its embedding node is no longer complete.
structure CapturedGraph where
  content : GraphContent
  complete : Bool := true
  deriving DecidableEq, Repr

structure DecodeGraphExecutableOwner where
  executable : ℕ
  references : ℕ := 1
  shared : Bool := false
  deriving DecidableEq, Repr

structure ReferenceDecodeGraphP1Stats where
  position : ℕ
  inputTokenId : ℕ
  nodeCount : ℕ
  deriving DecidableEq, Repr

structure DecodeGraphP1Slot where
  graph : ℕ
  exec : ℕ
  stats : ReferenceDecodeGraphP1Stats
  deriving DecidableEq, Repr

structure GraphStore where
  graphs : Handles CapturedGraph := {}
  executables : Handles GraphContent := {}
  owners : Handles DecodeGraphExecutableOwner := {}
  launched : List GraphContent := []

abbrev GraphM := ExceptT ReferenceRunnerStatus (StateM GraphStore)

structure CaptureAnswers where
  device : ℤ := 0
  capability : ℕ × ℕ := (8, 7)
  beginCapture : ℤ := 0
  -- The first launch or host check that fails while the stream is capturing.
  enqueue : Option ReferenceRunnerStatus := none
  -- Whether ending the capture of a failed step hands back a graph.
  discardedGraph : Bool := false
  endCapture : ℤ := 0
  capturedGraph : Bool := true
  nodeCountStatus : ℤ := 0
  nodeCount : ℕ := 1
  getNodes : ℤ := 0
  returnedNodeCount : ℕ := 1
  classifyNodes : ℤ := 0
  rootCountStatus : ℤ := 0
  rootCount : ℕ := 1
  embeddingRoot : ℤ := 0
  embeddingRootIsKernel : Bool := true
  embeddingParams : ℤ := 0
  embeddingShapeValid : Bool := true
  embeddingArgumentsMatch : Bool := true
  instantiateOrUpdate : ℤ := 0
  instantiated : Bool := true
  updateSucceeded : Bool := true
  -- What an update that fails leaves in the executable.
  torn : GraphContent := ⟨0, 0, 0⟩
  upload : ℤ := 0
  releaseTemplateNode : ℤ := 0
  retainedNodes : ℤ := 0
  retainedEmbeddingAlone : Bool := true
  ownerAllocated : Bool := true
  deriving DecidableEq

-- A status that stands for a host check as soon as CUDA itself reported success.
def checkedStatus (cuda : ℤ) (failed : Bool) (onCheck : ReferenceRunnerError)
    (operation : String) : Option ReferenceRunnerStatus :=
  if cuda ≠ 0 then some (runnerStatus .cudaFailure operation cuda)
  else if failed then some (runnerStatus onCheck operation) else none

def inspectCapture (answers : CaptureAnswers) : Option ReferenceRunnerStatus :=
  (checkedStatus answers.nodeCountStatus
    (decide (answers.nodeCount = 0 ∨ maximumDecodeGraphP1Nodes < answers.nodeCount))
    .invalidStepOptions "decode_graph_p1_node_capacity") <|>
  (checkedStatus answers.getNodes (decide (answers.returnedNodeCount ≠ answers.nodeCount))
    .cudaFailure "decode_graph_p1_get_nodes") <|>
  (checkedStatus answers.classifyNodes false .cudaFailure "decode_graph_p1_classify_nodes") <|>
  (checkedStatus answers.rootCountStatus (decide (answers.rootCount ≠ 1))
    .invalidStepOptions "decode_graph_p1_root_count") <|>
  (checkedStatus answers.embeddingRoot (!answers.embeddingRootIsKernel)
    .invalidStepOptions "decode_graph_p1_embedding_root") <|>
  (checkedStatus answers.embeddingParams false .cudaFailure
    "decode_graph_p1_embedding_params") <|>
  (checkedStatus 0 (!answers.embeddingShapeValid) .invalidStepOptions
    "decode_graph_p1_embedding_shape") <|>
  (checkedStatus 0 (!answers.embeddingArgumentsMatch) .invalidStepOptions
    "decode_graph_p1_embedding_arguments")

def retainedTemplate (answers : CaptureAnswers) : Option ReferenceRunnerStatus :=
  (checkedStatus answers.releaseTemplateNode false .cudaFailure
    "decode_graph_p1_release_template_node") <|>
  (checkedStatus answers.retainedNodes (!answers.retainedEmbeddingAlone) .invalidRunner
    "decode_graph_p1_retained_template")

namespace GraphStore

variable (store : GraphStore)

def destroyGraph (graph : ℕ) : GraphStore := { store with graphs := store.graphs.release graph }

def destroyExecutable (executable : ℕ) : GraphStore :=
  { store with executables := store.executables.release executable }

-- The graph, and the executable unless it belongs to an owner already.
def discard (graph : ℕ) (newExecutable : Option ℕ) : GraphStore :=
  (newExecutable.elim store store.destroyExecutable).destroyGraph graph

-- The executable is written by the first call and read by every other use of it.
def setExecutable (executable : ℕ) (content : GraphContent) : GraphStore :=
  { store with executables := store.executables.modify executable fun _ => content }

def useExecutable (executable : ℕ) : GraphStore :=
  { store with executables := store.executables.modify executable id }

def graphContent (graph : ℕ) : GraphContent :=
  match store.graphs.live graph with
  | some captured => captured.content
  | none => ⟨0, 0, 0⟩

end GraphStore

def failWith {α : Type} (status : ReferenceRunnerStatus) (f : GraphStore → GraphStore) :
    GraphM α :=
  ExceptT.mk fun store => (.error status, f store)

-- The capture ends; a graph that comes with a failure is destroyed at once.
def endCapture (answers : CaptureAnswers) (position inputTokenId : ℕ) : GraphM ℕ :=
  ExceptT.mk fun store =>
    let graph := store.graphs.fresh
    let content : GraphContent := ⟨graph, position, inputTokenId * referenceHiddenSize⟩
    let captured := { store with graphs := store.graphs.create { content := content } }
    match answers.enqueue with
    | some status =>
      (.error status, if answers.discardedGraph then captured.destroyGraph graph else store)
    | none =>
      if answers.endCapture ≠ 0 ∨ answers.capturedGraph = false then
        (.error (runnerStatus .cudaFailure "decode_graph_p1_end_capture" answers.endCapture),
          if answers.capturedGraph then captured.destroyGraph graph else store)
      else (.ok graph, captured)

def updateStatus (status : ℤ) (updateSucceeded : Bool) : ℤ :=
  if status = 0 ∧ updateSucceeded = false then cudaErrorGraphExecUpdateFailure else status

def instantiateOrUpdateFailure (status : ℤ) : ReferenceRunnerStatus :=
  runnerStatus .cudaFailure "decode_graph_p1_instantiate_or_update" status

-- Brings the captured graph into the owner's executable.
def updateShared (answers : CaptureAnswers) (graph executable : ℕ) : GraphM Unit :=
  ExceptT.mk fun store =>
    let status := updateStatus answers.instantiateOrUpdate answers.updateSucceeded
    if status ≠ 0 then
      (.error (instantiateOrUpdateFailure status),
        (store.setExecutable executable answers.torn).discard graph none)
    else (.ok (), store.setExecutable executable (store.graphContent graph))

def instantiate (answers : CaptureAnswers) (graph : ℕ) : GraphM ℕ :=
  ExceptT.mk fun store =>
    let executable := store.executables.fresh
    let created :=
      { store with executables := store.executables.create (store.graphContent graph) }
    if answers.instantiateOrUpdate ≠ 0 ∨ answers.instantiated = false then
      (.error (instantiateOrUpdateFailure answers.instantiateOrUpdate),
        if answers.instantiated then created.discard graph (some executable)
        else store.discard graph none)
    else (.ok executable, created)

def upload (answers : CaptureAnswers) (graph executable : ℕ) (newExecutable : Option ℕ) :
    GraphM Unit :=
  ExceptT.mk fun store =>
    let store := store.useExecutable executable
    if answers.upload ≠ 0 then
      (.error (runnerStatus .cudaFailure "decode_graph_p1_upload" answers.upload),
        store.discard graph newExecutable)
    else (.ok (), store)

-- Replay of a standalone slot only needs the embedding node of its graph.
def keepEmbeddingTemplate (answers : CaptureAnswers) (graph : ℕ) (newExecutable : Option ℕ) :
    GraphM Unit :=
  ExceptT.mk fun store =>
    let store :=
      { store with graphs := store.graphs.modify graph ({ · with complete := false }) }
    match retainedTemplate answers with
    | some status => (.error status, store.discard graph newExecutable)
    | none => (.ok (), store)

def newOwner (answers : CaptureAnswers) (graph executable : ℕ) (shared : Bool) : GraphM ℕ :=
  ExceptT.mk fun store =>
    if answers.ownerAllocated = false then
      (.error (runnerStatus .allocationFailure "decode_graph_executable_owner"),
        store.discard graph (some executable))
    else
      (.ok store.owners.fresh,
        { store with
          owners := store.owners.create { executable := executable, shared := shared } })

def retainOwner (owner : ℕ) : GraphM Unit :=
  update fun store =>
    { store with
      owners := store.owners.modify owner fun held =>
        { held with references := held.references + 1 } }

def inspect (answers : CaptureAnswers) (graph : ℕ) : GraphM Unit :=
  match inspectCapture answers with
  | some status => failWith status (·.discard graph none)
  | none => pure ()

-- The executable that a shared owner holds.
def ownerExecutable (owner : ℕ) : GraphM ℕ :=
  ExceptT.mk fun store =>
    (.ok ((store.owners.live owner).elim 0 (·.executable)),
      { store with owners := store.owners.modify owner id })

-- A capture from the end of the enqueue on; `staged` is a capture into a destination of a range.
def captureSlot (answers : CaptureAnswers) (position inputTokenId : ℕ) (staged : Bool)
    (sharedExecutableOwner : Option ℕ) : GraphM DecodeGraphP1Slot := do
  let graph ← endCapture answers position inputTokenId
  inspect answers graph
  let stats : ReferenceDecodeGraphP1Stats := ⟨position, inputTokenId, answers.nodeCount⟩
  match sharedExecutableOwner with
  | some owner =>
    let executable ← ownerExecutable owner
    updateShared answers graph executable
    upload answers graph executable none
    if staged = false then keepEmbeddingTemplate answers graph none
    retainOwner owner
    pure ⟨graph, owner, stats⟩
  | none =>
    let executable ← instantiate answers graph
    upload answers graph executable (some executable)
    if staged = false then keepEmbeddingTemplate answers graph (some executable)
    let owner ← newOwner answers graph executable staged
    pure ⟨graph, owner, stats⟩

-- The last slot of an owner takes the executable with it.
def dropOwner (owner : ℕ) (store : GraphStore) : GraphStore :=
  let store :=
    { store with
      owners := store.owners.modify owner fun held =>
        { held with references := held.references - 1 } }
  match store.owners.live owner with
  | some held =>
    if held.references = 0 then
      { (store.destroyExecutable held.executable) with owners := store.owners.release owner }
    else store
  | none => store

def destroyDecodeGraphP1Slot (slot : DecodeGraphP1Slot) (store : GraphStore) : GraphStore :=
  (dropOwner slot.exec store).destroyGraph slot.graph

def destroySlots (slots : List DecodeGraphP1Slot) (store : GraphStore) : GraphStore :=
  slots.foldl (fun store slot => destroyDecodeGraphP1Slot slot store) store

structure ReplayAnswers where
  setParams : ℤ := 0
  updateStatus : ℤ := 0
  updateSucceeded : Bool := true
  torn : GraphContent := ⟨0, 0, 0⟩
  launch : ℤ := 0
  deriving DecidableEq

def setEmbedding (offset : ℕ) (content : GraphContent) : GraphContent :=
  { content with embeddingOffset := offset }

-- A shared executable is brought to this slot's own graph before it is launched.
def prepareReplay (answers : ReplayAnswers) (slot : DecodeGraphP1Slot)
    (owner : DecodeGraphExecutableOwner) (offset : ℕ) (store : GraphStore) : ℤ × GraphStore :=
  if owner.shared then
    if answers.setParams ≠ 0 then (answers.setParams, store)
    else
      let store :=
        { store with
          graphs := store.graphs.modify slot.graph fun captured =>
            { captured with content := setEmbedding offset captured.content } }
      let status := updateStatus answers.updateStatus answers.updateSucceeded
      (status, store.setExecutable owner.executable
        (if status = 0 then store.graphContent slot.graph else answers.torn))
  else if answers.setParams ≠ 0 then (answers.setParams, store)
  else
    (0, { store with
      executables := store.executables.modify owner.executable (setEmbedding offset) })

-- The executable's content at the time it is launched goes to the log.
def launch (executable : ℕ) (store : GraphStore) : GraphStore :=
  { store.useExecutable executable with
    launched := store.launched ++ (store.executables.live executable).toList }

def replaySlot (answers : ReplayAnswers) (slot : DecodeGraphP1Slot) (inputTokenId : ℕ) :
    GraphM Unit :=
  ExceptT.mk fun store =>
    let owner := (store.owners.live slot.exec).getD ⟨0, 0, false⟩
    let store := { store with owners := store.owners.modify slot.exec id }
    let (status, store) :=
      prepareReplay answers slot owner (inputTokenId * referenceHiddenSize) store
    let status := if status = 0 then answers.launch else status
    if status ≠ 0 then
      (.error (runnerStatus .cudaFailure "decode_graph_p1_update_or_launch" status), store)
    else (.ok (), launch owner.executable store)

end Qwen3xOrin.Runner
