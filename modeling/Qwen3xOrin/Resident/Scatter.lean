import Qwen3xOrin.Resident.Load
import Qwen3xOrin.Resident.PlanExact

/-! Which copies one shard issues: for every chunk the pieces of all its tensors, although the
loader skips finished tensors and leaves the loop early. -/

namespace Qwen3xOrin.Resident

open Library Io

def piece (shard : String) (fileOffset chunkEnd : ℕ) (tensor : PlannedTensor) :
    Option ScatterCopy :=
  if min tensor.sourceEnd chunkEnd ≤ max tensor.sourceBegin fileOffset then none
  else some
    { shard := shard
      source := max tensor.sourceBegin fileOffset
      destination := tensor.arenaOffset + (max tensor.sourceBegin fileOffset - tensor.sourceBegin)
      bytes := min tensor.sourceEnd chunkEnd - max tensor.sourceBegin fileOffset }

def pieces (shard : String) (fileOffset chunkEnd : ℕ) (segments : List PlannedTensor) :
    List ScatterCopy :=
  segments.filterMap (piece shard fileOffset chunkEnd)

def shardCopies (shard : String) (fileSize chunkBytes : ℕ) (segments : List PlannedTensor) :
    ℕ → ℕ → List ScatterCopy
  | 0, _ => []
  | fuel + 1, fileOffset =>
    if fileSize ≤ fileOffset then []
    else
      let chunkEnd := fileOffset + min (fileSize - fileOffset) chunkBytes
      pieces shard fileOffset chunkEnd segments ++
        shardCopies shard fileSize chunkBytes segments fuel chunkEnd

structure SegmentsSound (plan : ResidentLoadPlan) (fileSize : ℕ) (segments : List PlannedTensor) :
    Prop where
  nonempty : ∀ tensor ∈ segments, tensor.sourceBegin < tensor.sourceEnd
  inside : ∀ tensor ∈ segments, tensor.sourceEnd ≤ fileSize
  arena : ∀ tensor ∈ segments,
    tensor.arenaOffset + (tensor.sourceEnd - tensor.sourceBegin) ≤ plan.arenaBytes
  ordered : segments.Pairwise fun a b => a.sourceEnd ≤ b.sourceBegin

lemma SegmentsSound.tail {plan : ResidentLoadPlan} {fileSize : ℕ} {tensor : PlannedTensor}
    {segments : List PlannedTensor} (h : SegmentsSound plan fileSize (tensor :: segments)) :
    SegmentsSound plan fileSize segments where
  nonempty t ht := h.nonempty t (List.mem_cons_of_mem _ ht)
  inside t ht := h.inside t (List.mem_cons_of_mem _ ht)
  arena t ht := h.arena t (List.mem_cons_of_mem _ ht)
  ordered := (List.pairwise_cons.mp h.ordered).2

lemma SegmentsSound.dropWhile {plan : ResidentLoadPlan} {fileSize : ℕ}
    {segments : List PlannedTensor} (h : SegmentsSound plan fileSize segments)
    (p : PlannedTensor → Bool) : SegmentsSound plan fileSize (segments.dropWhile p) where
  nonempty t ht := h.nonempty t ((List.dropWhile_sublist p).subset ht)
  inside t ht := h.inside t ((List.dropWhile_sublist p).subset ht)
  arena t ht := h.arena t ((List.dropWhile_sublist p).subset ht)
  ordered := h.ordered.sublist (List.dropWhile_sublist p)

def copiedBytes (copies : List ScatterCopy) : ℕ := (copies.map ScatterCopy.bytes).sum

def ShardProgress.issued (progress : ShardProgress) (copies : List ScatterCopy) : ShardProgress :=
  { copies := progress.copies ++ copies
    stats := { progress.stats with
      bytesCopied := progress.stats.bytesCopied + copiedBytes copies
      memcpyOperations := progress.stats.memcpyOperations + copies.length } }

lemma ShardProgress.issued_nil (progress : ShardProgress) : progress.issued [] = progress := by
  simp [ShardProgress.issued, copiedBytes]

lemma ShardProgress.issued_append (progress : ShardProgress) (a b : List ScatterCopy) :
    (progress.issued a).issued b = progress.issued (a ++ b) := by
  simp [ShardProgress.issued, copiedBytes, Nat.add_assoc]

-- What may still be issued: the room left for operations and for counted bytes.
structure Room (options : ResidentLoadOptions) (progress : ShardProgress)
    (copies : List ScatterCopy) : Prop where
  operations : progress.stats.memcpyOperations + copies.length ≤ options.maxMemcpyOperations
  counted : progress.stats.memcpyOperations + copies.length ≤ uint64Max
  bytes : progress.stats.bytesCopied + copiedBytes copies ≤ uint64Max

lemma Room.issued {options : ResidentLoadOptions} {progress : ShardProgress}
    {a b : List ScatterCopy} (h : Room options progress (a ++ b)) :
    Room options (progress.issued a) b := by
  obtain ⟨h₁, h₂, h₃⟩ := h
  simp only [List.length_append, copiedBytes, List.map_append, List.sum_append] at h₁ h₂ h₃
  constructor <;> simp only [ShardProgress.issued, copiedBytes] <;> omega

lemma Room.left {options : ResidentLoadOptions} {progress : ShardProgress}
    {a b : List ScatterCopy} (h : Room options progress (a ++ b)) : Room options progress a := by
  obtain ⟨h₁, h₂, h₃⟩ := h
  simp only [List.length_append, copiedBytes, List.map_append, List.sum_append] at h₁ h₂ h₃
  refine ⟨by omega, by omega, ?_⟩
  unfold copiedBytes
  omega

section Chunk

variable {plan : ResidentLoadPlan} {options : ResidentLoadOptions} {shard : PlannedShard}

lemma scatter_ok {tensor : PlannedTensor} {progress : ShardProgress} {fileOffset chunkEnd : ℕ}
    {copy : ScatterCopy} (hplan : plan.arenaBytes ≤ uint64Max)
    (harena : tensor.arenaOffset + (tensor.sourceEnd - tensor.sourceBegin) ≤ plan.arenaBytes)
    (hpiece : piece shard.identity.filename fileOffset chunkEnd tensor = some copy)
    (hroom : Room options progress [copy]) :
    scatter plan options shard tensor (max tensor.sourceBegin fileOffset)
      (min tensor.sourceEnd chunkEnd) progress = .ok (progress.issued [copy]) := by
  obtain ⟨hoperations, hcounted, hbytes⟩ := hroom
  rw [piece] at hpiece
  split_ifs at hpiece with hempty
  obtain rfl := Option.some.inj hpiece
  simp only [List.length_singleton, copiedBytes, List.map_cons, List.map_nil, List.sum_cons,
    List.sum_nil, Nat.add_zero] at hoperations hcounted hbytes
  unfold scatter
  dsimp only
  rw [(checkedAdd_eq_some (by omega)).mpr ⟨rfl, by omega⟩]
  dsimp only
  rw [if_neg (by omega), (checkedAdd_eq_some (by omega)).mpr ⟨rfl, hbytes⟩,
    (checkedAdd_eq_some (by omega)).mpr ⟨rfl, hcounted⟩]
  simp [ShardProgress.issued, copiedBytes]

lemma pieces_nil_of_begin {name : String} {fileOffset chunkEnd : ℕ}
    {segments : List PlannedTensor} (h : ∀ tensor ∈ segments, chunkEnd ≤ tensor.sourceBegin) :
    pieces name fileOffset chunkEnd segments = [] := by
  apply List.filterMap_eq_nil_iff.mpr
  intro tensor ht
  have := h tensor ht
  exact if_pos (by omega)

lemma pieces_nil_of_end {name : String} {fileOffset chunkEnd : ℕ}
    {segments : List PlannedTensor} (h : ∀ tensor ∈ segments, tensor.sourceEnd ≤ fileOffset) :
    pieces name fileOffset chunkEnd segments = [] := by
  apply List.filterMap_eq_nil_iff.mpr
  intro tensor ht
  have := h tensor ht
  exact if_pos (by omega)

lemma copySegments_ok {fileSize fileOffset chunkEnd : ℕ} (hplan : plan.arenaBytes ≤ uint64Max)
    {segments : List PlannedTensor} (hsegments : SegmentsSound plan fileSize segments)
    {progress : ShardProgress}
    (hroom : Room options progress (pieces shard.identity.filename fileOffset chunkEnd segments)) :
    copySegments plan options shard fileOffset chunkEnd segments progress =
      .ok (progress.issued (pieces shard.identity.filename fileOffset chunkEnd segments)) := by
  induction segments generalizing progress with
  | nil => rw [copySegments, pieces, List.filterMap_nil, ShardProgress.issued_nil]
  | cons tensor segments ih =>
    have hfirst := hsegments.nonempty tensor List.mem_cons_self
    have hlater := (List.pairwise_cons.mp hsegments.ordered).1
    rw [copySegments]
    by_cases hbreak : chunkEnd ≤ tensor.sourceBegin
    · rw [if_pos hbreak, pieces_nil_of_begin, ShardProgress.issued_nil]
      intro t ht
      obtain rfl | ht := List.mem_cons.mp ht
      · exact hbreak
      · have := hlater t ht
        omega
    · rw [if_neg hbreak]
      dsimp only
      by_cases hempty : min tensor.sourceEnd chunkEnd ≤ max tensor.sourceBegin fileOffset
      · have hnone : piece shard.identity.filename fileOffset chunkEnd tensor = none :=
          if_pos hempty
        have hpieces : pieces shard.identity.filename fileOffset chunkEnd (tensor :: segments) =
            pieces shard.identity.filename fileOffset chunkEnd segments := by
          rw [pieces, List.filterMap_cons_none hnone, pieces]
        rw [hpieces] at hroom
        rw [if_pos hempty, hpieces]
        exact ih hsegments.tail hroom
      · obtain ⟨copy, hcopy⟩ : ∃ copy,
            piece shard.identity.filename fileOffset chunkEnd tensor = some copy :=
          ⟨_, if_neg hempty⟩
        have hpieces : pieces shard.identity.filename fileOffset chunkEnd (tensor :: segments) =
            [copy] ++ pieces shard.identity.filename fileOffset chunkEnd segments := by
          rw [pieces, List.filterMap_cons_some hcopy, pieces, List.singleton_append]
        rw [hpieces] at hroom
        rw [if_neg hempty, hpieces, bind_ok]
        refine ⟨_, scatter_ok hplan (hsegments.arena tensor List.mem_cons_self) hcopy hroom.left, ?_⟩
        rw [ih hsegments.tail hroom.issued, ShardProgress.issued_append]

-- Tensors that are skipped once stay finished for all later chunks.
lemma advanceCursor_pieces (name : String) {fileOffset later : ℕ} (hlater : fileOffset ≤ later)
    (chunkEnd : ℕ) (segments : List PlannedTensor) :
    pieces name later chunkEnd (advanceCursor fileOffset segments) =
      pieces name later chunkEnd segments := by
  induction segments with
  | nil => rfl
  | cons tensor segments ih =>
    rw [advanceCursor, List.dropWhile_cons]
    split_ifs with hskip
    · have hfinished := of_decide_eq_true hskip
      have hnone : piece name later chunkEnd tensor = none := if_pos (by omega)
      rw [← advanceCursor, ih, pieces, pieces, List.filterMap_cons_none hnone]
    · rfl

lemma advanceCursor_copies (name : String) {fileSize chunkBytes fileOffset later : ℕ}
    (hlater : fileOffset ≤ later) (segments : List PlannedTensor) (fuel : ℕ) :
    shardCopies name fileSize chunkBytes (advanceCursor fileOffset segments) fuel later =
      shardCopies name fileSize chunkBytes segments fuel later := by
  induction fuel generalizing later with
  | zero => rfl
  | succ fuel ih =>
    rw [shardCopies, shardCopies]
    split_ifs
    · rfl
    · dsimp only
      rw [ih (by omega), advanceCursor_pieces name hlater]

lemma countChunk_ok {fileOffset chunkSize : ℕ} {progress : ShardProgress}
    (hend : fileOffset + chunkSize ≤ uint64Max)
    (hread : progress.stats.bytesRead + chunkSize ≤ uint64Max)
    (hchunks : progress.stats.chunks + 1 ≤ uint64Max) :
    countChunk shard fileOffset chunkSize progress = .ok (fileOffset + chunkSize,
      { progress with
        stats := { progress.stats with
          bytesRead := progress.stats.bytesRead + chunkSize
          chunks := progress.stats.chunks + 1 } }) := by
  unfold countChunk
  rw [(checkedAdd_eq_some (by omega)).mpr ⟨rfl, hend⟩,
    (checkedAdd_eq_some (by omega)).mpr ⟨rfl, hread⟩,
    (checkedAdd_eq_some (by omega)).mpr ⟨rfl, hchunks⟩]

-- The chunk loop from `fileOffset` on, with as much fuel as there are bytes left.
lemma loadChunks_ok (hplan : plan.arenaBytes ≤ uint64Max) (hchunk : 0 < options.chunkBytes)
    {segments : List PlannedTensor} {fuel fileOffset : ℕ} {progress : ShardProgress}
    (hsegments : SegmentsSound plan shard.identity.fileSize.toNat segments)
    (hfuel : shard.identity.fileSize.toNat - fileOffset ≤ fuel)
    (hoffset : fileOffset ≤ shard.identity.fileSize.toNat)
    (hread : progress.stats.bytesRead = fileOffset) (hchunks : progress.stats.chunks ≤ fileOffset)
    (hroom : Room options progress (shardCopies shard.identity.filename
      shard.identity.fileSize.toNat options.chunkBytes segments fuel fileOffset)) :
    ∃ chunks ≤ shard.identity.fileSize.toNat,
      loadChunks plan options shard fuel fileOffset segments progress = .ok
        { progress.issued (shardCopies shard.identity.filename shard.identity.fileSize.toNat
            options.chunkBytes segments fuel fileOffset) with
          stats := { (progress.issued (shardCopies shard.identity.filename
              shard.identity.fileSize.toNat options.chunkBytes segments fuel fileOffset)).stats with
            bytesRead := shard.identity.fileSize.toNat
            chunks := chunks } } := by
  have hsize : shard.identity.fileSize.toNat ≤ uint64Max := by
    have := shard.identity.fileSize.toNat_lt
    unfold uint64Max
    omega
  induction fuel generalizing fileOffset progress segments with
  | zero =>
    obtain rfl : fileOffset = shard.identity.fileSize.toNat := by omega
    refine ⟨progress.stats.chunks, hchunks, ?_⟩
    rw [loadChunks, shardCopies, ShardProgress.issued_nil, ← hread]
  | succ fuel ih =>
    rw [loadChunks, shardCopies]
    rw [shardCopies] at hroom
    by_cases hdone : shard.identity.fileSize.toNat ≤ fileOffset
    · obtain rfl : fileOffset = shard.identity.fileSize.toNat := by omega
      refine ⟨progress.stats.chunks, hchunks, ?_⟩
      rw [if_pos hdone, if_pos hdone, ShardProgress.issued_nil, ← hread]
    · rw [if_neg hdone] at hroom
      rw [if_neg hdone, if_neg hdone]
      dsimp only at hroom ⊢
      rw [countChunk_ok (by omega) (by omega) (by omega)]
      generalize hend : fileOffset + min (shard.identity.fileSize.toNat - fileOffset)
        options.chunkBytes = chunkEnd at hroom ⊢
      have hread' : progress.stats.bytesRead + min (shard.identity.fileSize.toNat - fileOffset)
          options.chunkBytes = chunkEnd := by rw [hread, hend]
      rw [hread']
      generalize hcounted : ({ progress with
        stats := { progress.stats with
          bytesRead := chunkEnd
          chunks := progress.stats.chunks + 1 } } : ShardProgress) = counted
      have hissued : ∀ copies, Room options progress copies → Room options counted copies := by
        rintro copies ⟨h₁, h₂, h₃⟩
        subst hcounted
        exact ⟨h₁, h₂, h₃⟩
      have hcopied := @copySegments_ok plan options shard _ fileOffset chunkEnd hplan
        (advanceCursor fileOffset segments) (hsegments.dropWhile _) counted (by
          rw [advanceCursor_pieces _ le_rfl]
          exact hissued _ hroom.left)
      rw [advanceCursor_pieces _ le_rfl] at hcopied
      have hnext := @ih (advanceCursor fileOffset segments) chunkEnd
        (counted.issued (pieces shard.identity.filename fileOffset chunkEnd segments))
        (hsegments.dropWhile _) (by omega) (by omega) (by subst hcounted; rfl)
        (by subst hcounted; change progress.stats.chunks + 1 ≤ chunkEnd; omega) (by
          rw [advanceCursor_copies _ (by omega)]
          exact (hissued _ hroom).issued)
      rw [advanceCursor_copies _ (by omega)] at hnext
      obtain ⟨chunks, hle, hload⟩ := hnext
      refine ⟨chunks, hle, ?_⟩
      refine bind_ok.mpr ⟨(chunkEnd, counted), rfl, bind_ok.mpr ⟨_, hcopied, ?_⟩⟩
      rw [hload, ShardProgress.issued_append]
      subst hcounted
      rfl

end Chunk

end Qwen3xOrin.Resident
