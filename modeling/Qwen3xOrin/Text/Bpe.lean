import Qwen3xOrin.Library.Merging
import Qwen3xOrin.Library.Ordered
import Qwen3xOrin.Text.Decode

/-! Byte-pair encoding of one piece. The nodes of the piece are linked in text order and the
candidates wait in a priority queue; a merge leaves the candidates of its two nodes behind, and
they are dropped when they are popped. -/

namespace Qwen3xOrin.Text

open Library

structure MergeRule where
  rank : ℕ := 0
  resultId : ℕ := 0
  deriving DecidableEq, Repr

structure EncoderData extends TokenizerData where
  vocabulary : Bytes → Option ℕ := fun _ => none
  merges : ℕ → Option MergeRule := fun _ => none
  addedTokens : List (ℕ × AddedToken) := []
  byteTokenIds : UInt8 → ℕ := fun _ => 0

-- `none` is the largest index value, which no node has.
structure BpeNode where
  tokenId : ℕ := 0
  previous : Option ℕ := none
  next : Option ℕ := none
  generation : UInt32 := 0
  alive : Bool := true
  deriving DecidableEq, Repr

structure BpeCandidate where
  rank : ℕ := 0
  left : ℕ := 0
  right : ℕ := 0
  leftGeneration : UInt32 := 0
  rightGeneration : UInt32 := 0
  deriving DecidableEq, Repr

def candidateLater (left right : BpeCandidate) : Bool :=
  if left.rank ≠ right.rank then decide (right.rank < left.rank)
  else decide (right.left < left.left)

abbrev CandidateQueue := PriorityQueue BpeCandidate candidateLater

def pairKey (left right : ℕ) : ℕ := left <<< 32 ||| right

def pushToken (limit : ℕ) (output : List ℕ) (id : ℕ) : Except TokenizerError (List ℕ) :=
  if limit ≤ output.length then setError .tooManyTokens "encoded output exceeds max_tokens"
  else .ok (output ++ [id])

def bpeNode (nodes : List BpeNode) (i : ℕ) : BpeNode := nodes.getD i {}

section Piece

variable (data : EncoderData) (queues : CandidateQueue)

def bpeNodes (piece : Bytes) : List BpeNode :=
  (List.range piece.length).map fun index =>
    { tokenId := data.byteTokenIds (piece.getD index 0)
      previous := if index = 0 then none else some (index - 1)
      next := if index + 1 < piece.length then some (index + 1) else none }

def addCandidate (nodes : List BpeNode) (queue : queues.State) : Option ℕ → queues.State
  | none => queue
  | some left =>
    if (bpeNode nodes left).alive = false then queue
    else
      match (bpeNode nodes left).next with
      | none => queue
      | some right =>
        match data.merges (pairKey (bpeNode nodes left).tokenId (bpeNode nodes right).tokenId) with
        | none => queue
        | some rule =>
          queues.push queue
            { rank := rule.rank
              left := left
              right := right
              leftGeneration := (bpeNode nodes left).generation
              rightGeneration := (bpeNode nodes right).generation }

def mergeNodes (nodes : List BpeNode) (left right : ℕ) (rule : MergeRule) : List BpeNode :=
  let nodes := nodes.modify left fun node =>
    { node with tokenId := rule.resultId, generation := node.generation + 1 }
  let nodes := nodes.modify right fun node =>
    { node with alive := false, generation := node.generation + 1 }
  let nodes := nodes.modify left fun node => { node with next := (bpeNode nodes right).next }
  match (bpeNode nodes right).next with
  | none => nodes
  | some index => nodes.modify index fun node => { node with previous := some left }

def bpeStep (nodes : List BpeNode) (queue : queues.State) :
    Option (List BpeNode × queues.State) :=
  match queues.pop queue with
  | none => none
  | some (candidate, queue) =>
    let left := bpeNode nodes candidate.left
    let right := bpeNode nodes candidate.right
    if left.alive = false ∨ right.alive = false ∨ left.next ≠ some candidate.right ∨
        left.generation ≠ candidate.leftGeneration ∨
        right.generation ≠ candidate.rightGeneration then some (nodes, queue)
    else
      match data.merges (pairKey left.tokenId right.tokenId) with
      | none => some (nodes, queue)
      | some rule =>
        if rule.rank ≠ candidate.rank then some (nodes, queue)
        else
          let nodes := mergeNodes nodes candidate.left candidate.right rule
          let queue := addCandidate data queues nodes queue (bpeNode nodes candidate.left).previous
          some (nodes, addCandidate data queues nodes queue (some candidate.left))

-- The loop over the queue; `none` when the fuel ends before the queue is empty.
def bpeLoop : ℕ → List BpeNode → queues.State → Option (List BpeNode)
  | 0, nodes, queue =>
    match bpeStep data queues nodes queue with
    | none => some nodes
    | some _ => none
  | fuel + 1, nodes, queue =>
    match bpeStep data queues nodes queue with
    | none => some nodes
    | some (nodes, queue) => bpeLoop fuel nodes queue

def emitTokens (nodes : List BpeNode) :
    ℕ → Option ℕ → List ℕ → Option (Except TokenizerError (List ℕ))
  | _, none, output => some (.ok output)
  | 0, some _, _ => none
  | fuel + 1, some current, output =>
    match pushToken data.limits.maxTokens output (bpeNode nodes current).tokenId with
    | .error error => some (.error error)
    | .ok output => emitTokens nodes fuel (bpeNode nodes current).next output

def initialCandidates (nodes : List BpeNode) : queues.State :=
  (List.range (nodes.length - 1)).foldl
    (fun queue index => addCandidate data queues nodes queue (some index)) queues.empty

def encodeBpePiece (fuel : ℕ) (piece : Bytes) (output : List ℕ) :
    Option (Except TokenizerError (List ℕ)) :=
  if piece = [] then some (.ok output)
  else
    let nodes := bpeNodes data piece
    match bpeLoop data queues fuel nodes (initialCandidates data queues nodes) with
    | none => none
    | some nodes => emitTokens data nodes fuel (some 0) output

end Piece

-- The byte tokens of a piece, merged by the reference procedure.
def bpeRule (data : EncoderData) (left right : ℕ) : Option (ℕ × ℕ) :=
  (data.merges (pairKey left right)).map fun rule => (rule.rank, rule.resultId)

def referenceBpe (data : EncoderData) (piece : Bytes) : List ℕ :=
  referenceMerge (bpeRule data) (piece.map data.byteTokenIds)

section Nodes

lemma bpeNode_modify {nodes : List BpeNode} {i : ℕ} (hi : i < nodes.length)
    (f : BpeNode → BpeNode) (k : ℕ) :
    bpeNode (nodes.modify i f) k = if k = i then f (bpeNode nodes k) else bpeNode nodes k := by
  simp only [bpeNode, List.getD_eq_getElem?_getD, List.getElem?_modify]
  by_cases hk : k = i
  · subst hk
    rw [if_pos rfl, List.getElem?_eq_getElem hi]
    simp
  · rw [if_neg hk]
    simp [Ne.symm hk]

lemma mergeNodes_length (nodes : List BpeNode) (left right : ℕ) (rule : MergeRule) :
    (mergeNodes nodes left right rule).length = nodes.length := by
  simp only [mergeNodes]
  split <;> simp

-- What a merge does to each node.
lemma bpeNode_mergeNodes {nodes : List BpeNode} {left right : ℕ} (hl : left < nodes.length)
    (hr : right < nodes.length) (hne : left ≠ right) (rule : MergeRule)
    (hnext : ∀ k, (bpeNode nodes right).next = some k → k < nodes.length ∧ k ≠ left ∧ k ≠ right)
    (k : ℕ) :
    bpeNode (mergeNodes nodes left right rule) k =
      if k = left then
        { bpeNode nodes k with
          tokenId := rule.resultId
          generation := (bpeNode nodes k).generation + 1
          next := (bpeNode nodes right).next }
      else if k = right then
        { bpeNode nodes k with
          alive := false
          generation := (bpeNode nodes k).generation + 1 }
      else if (bpeNode nodes right).next = some k then { bpeNode nodes k with previous := some left }
      else bpeNode nodes k := by
  have hleft : ∀ {ns : List BpeNode}, ns.length = nodes.length → ∀ f k,
      bpeNode (ns.modify left f) k = if k = left then f (bpeNode ns k) else bpeNode ns k :=
    fun h f k => bpeNode_modify (h ▸ hl) f k
  have hright : ∀ {ns : List BpeNode}, ns.length = nodes.length → ∀ f k,
      bpeNode (ns.modify right f) k = if k = right then f (bpeNode ns k) else bpeNode ns k :=
    fun h f k => bpeNode_modify (h ▸ hr) f k
  simp only [mergeNodes]
  rw [hleft (by simp), hright (by simp), hleft rfl, if_neg (Ne.symm hne), if_pos rfl,
    if_neg (Ne.symm hne)]
  cases hn : (bpeNode nodes right).next with
  | none =>
    dsimp only
    rw [hleft (by simp), hright (by simp), hleft rfl]
    by_cases hkl : k = left
    · subst hkl
      simp [hne]
    · simp [hkl]
  | some m =>
    obtain ⟨hm, hml, hmr⟩ := hnext m hn
    dsimp only
    rw [bpeNode_modify (by simpa using hm), hleft (by simp), hright (by simp), hleft rfl]
    by_cases hkl : k = left
    · subst hkl
      simp [hne, Ne.symm hml]
    · by_cases hkm : k = m
      · subst hkm
        simp [hkl, hmr]
      · simp [hkl, hkm, Ne.symm hkm]

end Nodes

end Qwen3xOrin.Text
