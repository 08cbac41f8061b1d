import Qwen3xOrin.Resident.Scatter

/-! All shards together: every byte of every text tensor is written exactly once, with as many
copies as the plan counts, whatever the chunk size and the order of the copies. -/

namespace Qwen3xOrin.Resident

open Library Io

def ScatterCopy.Writes (copy : ScatterCopy) (address : ℕ) : Prop :=
  copy.destination ≤ address ∧ address < copy.destination + copy.bytes

instance (copy : ScatterCopy) (address : ℕ) : Decidable (copy.Writes address) :=
  inferInstanceAs (Decidable (_ ∧ _))

def timesWritten (copies : List ScatterCopy) (address : ℕ) : ℕ :=
  copies.countP fun copy => decide (copy.Writes address)

def PlannedTensor.Holds (tensor : PlannedTensor) (address : ℕ) : Prop :=
  tensor.arenaOffset ≤ address ∧ address < tensor.arenaOffset + tensor.byteSize

instance (tensor : PlannedTensor) (address : ℕ) : Decidable (tensor.Holds address) :=
  inferInstanceAs (Decidable (_ ∧ _))

def applyCopy (contents : String → ℕ → UInt8) (arena : ℕ → UInt8) (copy : ScatterCopy) :
    ℕ → UInt8 := fun address =>
  if copy.Writes address then contents copy.shard (copy.source + (address - copy.destination))
  else arena address

section Measure

variable {name : String} {fileSize chunkBytes : ℕ} {segments : List PlannedTensor}

lemma sum_pieces (weight : ScatterCopy → ℕ) (fileOffset chunkEnd : ℕ) :
    ((pieces name fileOffset chunkEnd segments).map weight).sum =
      (segments.map fun tensor =>
        ((piece name fileOffset chunkEnd tensor).map weight).getD 0).sum := by
  induction segments with
  | nil => rfl
  | cons tensor segments ih =>
    rw [pieces] at ih
    cases h : piece name fileOffset chunkEnd tensor with
    | none => simp [pieces, h, ih]
    | some copy => simp [pieces, h, ih]

-- A weight summed over all copies of a shard: `rest o tensor` is what the chunks from `o` on
-- contribute for one tensor.
lemma sum_shardCopies (hchunk : 0 < chunkBytes) (weight : ScatterCopy → ℕ)
    (rest : ℕ → PlannedTensor → ℕ)
    (hstep : ∀ fileOffset, chunkBytes ∣ fileOffset → fileOffset < fileSize →
      ∀ tensor ∈ segments,
        ((piece name fileOffset (fileOffset + min (fileSize - fileOffset) chunkBytes)
          tensor).map weight).getD 0 +
          rest (fileOffset + min (fileSize - fileOffset) chunkBytes) tensor =
        rest fileOffset tensor)
    (hdone : ∀ fileOffset, fileSize ≤ fileOffset → ∀ tensor ∈ segments,
      rest fileOffset tensor = 0) {fuel fileOffset : ℕ} (hfuel : fileSize - fileOffset ≤ fuel)
    (hoffset : chunkBytes ∣ fileOffset ∨ fileSize ≤ fileOffset) :
    ((shardCopies name fileSize chunkBytes segments fuel fileOffset).map weight).sum =
      (segments.map (rest fileOffset)).sum := by
  have hzero : ∀ o, fileSize ≤ o → (segments.map (rest o)).sum = 0 := by
    intro o ho
    apply List.sum_eq_zero
    intro x hx
    obtain ⟨tensor, ht, rfl⟩ := List.mem_map.mp hx
    exact hdone o ho tensor ht
  induction fuel generalizing fileOffset with
  | zero => rw [hzero fileOffset (by omega), shardCopies, List.map_nil, List.sum_nil]
  | succ fuel ih =>
    rw [shardCopies]
    by_cases hend : fileSize ≤ fileOffset
    · rw [if_pos hend, hzero fileOffset hend, List.map_nil, List.sum_nil]
    · have hdvd := hoffset.resolve_right hend
      rw [if_neg hend]
      dsimp only
      rw [List.map_append, List.sum_append, sum_pieces, ih (by omega), ← List.sum_map_add]
      · congr 1
        apply List.map_congr_left
        intro tensor ht
        exact hstep fileOffset hdvd (by omega) tensor ht
      · by_cases hlast : fileSize - fileOffset ≤ chunkBytes
        · exact Or.inr (by omega)
        · refine Or.inl ?_
          rw [Nat.min_eq_right (by omega)]
          exact dvd_add hdvd dvd_rfl

end Measure

section Shard

variable {name : String} {fileSize chunkBytes : ℕ} {segments : List PlannedTensor}
  {plan : ResidentLoadPlan}

lemma countP_eq_sum {α : Type} (p : α → Prop) [DecidablePred p] (l : List α) :
    l.countP (fun a => decide (p a)) = (l.map fun a => if p a then 1 else 0).sum := by
  induction l with
  | nil => rfl
  | cons a l ih =>
    rw [List.countP_cons, ih, List.map_cons, List.sum_cons, Nat.add_comm]
    simp only [decide_eq_true_eq]

lemma piece_writes {tensor : PlannedTensor} {fileOffset chunkEnd : ℕ}
    (hsize : tensor.byteSize = tensor.sourceEnd - tensor.sourceBegin) (address : ℕ) :
    (∃ copy, piece name fileOffset chunkEnd tensor = some copy ∧ copy.Writes address) ↔
      tensor.Holds address ∧ fileOffset ≤ tensor.sourceBegin + (address - tensor.arenaOffset) ∧
        tensor.sourceBegin + (address - tensor.arenaOffset) < chunkEnd := by
  unfold piece PlannedTensor.Holds
  split_ifs with hempty
  · simp only [false_and, exists_false, false_iff]
    omega
  · simp only [Option.some.injEq, exists_eq_left', ScatterCopy.Writes]
    omega

lemma piece_weight {tensor : PlannedTensor} {fileOffset chunkEnd : ℕ} (p : ScatterCopy → Prop)
    [DecidablePred p] :
    ((piece name fileOffset chunkEnd tensor).map fun copy => if p copy then 1 else 0).getD 0 =
      if ∃ copy, piece name fileOffset chunkEnd tensor = some copy ∧ p copy then 1 else 0 := by
  cases piece name fileOffset chunkEnd tensor with
  | none => simp
  | some copy => simp

lemma shardCopies_written (hchunk : 0 < chunkBytes) (h : SegmentsSound plan fileSize segments)
    (hsize : ∀ tensor ∈ segments, tensor.byteSize = tensor.sourceEnd - tensor.sourceBegin)
    (address : ℕ) :
    timesWritten (shardCopies name fileSize chunkBytes segments fileSize 0) address =
      segments.countP fun tensor => decide (tensor.Holds address) := by
  rw [timesWritten, countP_eq_sum, countP_eq_sum]
  have hrest := @sum_shardCopies name fileSize chunkBytes segments hchunk
    (fun copy => if copy.Writes address then 1 else 0)
    (fun o tensor => if tensor.Holds address ∧
      o ≤ tensor.sourceBegin + (address - tensor.arenaOffset) then 1 else 0) ?_ ?_ fileSize 0
    (by omega) (Or.inl (dvd_zero _))
  · rw [hrest]
    simp
  · intro o _ ho tensor ht
    rw [piece_weight]
    simp only [piece_writes (hsize tensor ht)]
    by_cases hholds : tensor.Holds address
    · simp only [hholds, true_and]
      split_ifs <;> omega
    · simp [hholds]
  · intro o ho tensor ht
    have hs := hsize tensor ht
    have hi := h.inside tensor ht
    rw [if_neg]
    unfold PlannedTensor.Holds
    omega

lemma shardCopies_bytes (hchunk : 0 < chunkBytes) (h : SegmentsSound plan fileSize segments) :
    copiedBytes (shardCopies name fileSize chunkBytes segments fileSize 0) =
      (segments.map fun tensor => tensor.sourceEnd - tensor.sourceBegin).sum := by
  have hrest := @sum_shardCopies name fileSize chunkBytes segments hchunk ScatterCopy.bytes
    (fun o tensor => tensor.sourceEnd - max tensor.sourceBegin o) ?_ ?_ fileSize 0
    (by omega) (Or.inl (dvd_zero _))
  · rw [copiedBytes, hrest]
    simp
  · intro o _ ho tensor ht
    have hi := h.inside tensor ht
    unfold piece
    split_ifs with hempty
    · simp only [Option.map_none, Option.getD_none]
      omega
    · simp only [Option.map_some, Option.getD_some]
      omega
  · intro o ho tensor ht
    have hi := h.inside tensor ht
    omega

-- The chunk of a byte offset is its quotient; a tensor contributes one copy to each chunk from
-- that of its first byte to that of its last.
lemma shardCopies_length (hchunk : 0 < chunkBytes) (h : SegmentsSound plan fileSize segments) :
    (shardCopies name fileSize chunkBytes segments fileSize 0).length =
      (segments.map fun tensor =>
        (tensor.sourceEnd - 1) / chunkBytes - tensor.sourceBegin / chunkBytes + 1).sum := by
  have hrest := @sum_shardCopies name fileSize chunkBytes segments hchunk (fun _ => 1)
    (fun o tensor => if tensor.sourceEnd ≤ o then 0
      else (tensor.sourceEnd - 1) / chunkBytes - max tensor.sourceBegin o / chunkBytes + 1)
    ?_ ?_ fileSize 0 (by omega) (Or.inl (dvd_zero _))
  · rw [List.map_const', List.sum_replicate, smul_eq_mul, mul_one] at hrest
    rw [hrest]
    congr 1
    apply List.map_congr_left
    intro tensor ht
    have hn := h.nonempty tensor ht
    rw [if_neg (by omega), Nat.max_eq_left (Nat.zero_le _)]
  · rintro o ⟨q, rfl⟩ ho tensor ht
    have hn := h.nonempty tensor ht
    have hi := h.inside tensor ht
    have hquotient : ∀ x, chunkBytes * q ≤ x → x < chunkBytes * q + chunkBytes →
        x / chunkBytes = q := by
      intro x hlo hhi
      apply Nat.div_eq_of_lt_le
      · rwa [mul_comm]
      · rwa [mul_comm, Nat.mul_succ]
    have hlater : ∀ x, chunkBytes * q + chunkBytes ≤ x → q + 1 ≤ x / chunkBytes := by
      intro x hx
      rw [Nat.le_div_iff_mul_le hchunk, mul_comm, Nat.mul_succ]
      exact hx
    have hstart : (chunkBytes * q + chunkBytes) / chunkBytes = q + 1 := by
      rw [← Nat.mul_succ, Nat.mul_div_cancel_left _ hchunk]
    unfold piece
    by_cases hfinished : tensor.sourceEnd ≤ chunkBytes * q
    · rw [if_pos hfinished, if_pos (by omega), if_pos (by omega)]
      rfl
    · rw [if_neg hfinished]
      by_cases hlater' : chunkBytes * q + chunkBytes ≤ tensor.sourceBegin
      · rw [if_pos (by omega), if_neg (by omega), Nat.max_eq_left (by omega),
          Nat.max_eq_left (by omega)]
        simp
      · rw [if_neg (by omega), hquotient (max tensor.sourceBegin (chunkBytes * q)) (by omega)
          (by omega)]
        by_cases hlast : tensor.sourceEnd ≤ chunkBytes * q + chunkBytes
        · rw [if_pos (by omega), hquotient (tensor.sourceEnd - 1) (by omega) (by omega)]
          simp
        · have := hlater (tensor.sourceEnd - 1) (by omega)
          simp only [Option.map_some, Option.getD_some]
          rw [if_neg (by omega), Nat.min_eq_right (by omega), Nat.max_eq_right (by omega), hstart]
          omega
  · intro o ho tensor ht
    have hi := h.inside tensor ht
    exact if_pos (by omega)

lemma shardCopies_piece {fuel fileOffset : ℕ} {copy : ScatterCopy}
    (hcopy : copy ∈ shardCopies name fileSize chunkBytes segments fuel fileOffset) :
    ∃ tensor ∈ segments, ∃ o chunkEnd, piece name o chunkEnd tensor = some copy := by
  induction fuel generalizing fileOffset with
  | zero => cases hcopy
  | succ fuel ih =>
    rw [shardCopies] at hcopy
    split_ifs at hcopy with hend
    · cases hcopy
    · obtain hcopy | hcopy := List.mem_append.mp hcopy
      · obtain ⟨tensor, ht, hpiece⟩ := List.mem_filterMap.mp hcopy
        exact ⟨tensor, ht, _, _, hpiece⟩
      · exact ih hcopy

-- The tensors of a shard lie one behind the other in the file.
lemma SegmentsSound.sum_le (h : SegmentsSound plan fileSize segments) {lo : ℕ}
    (hlo : ∀ tensor ∈ segments, lo ≤ tensor.sourceBegin) (hle : lo ≤ fileSize) :
    lo + (segments.map fun tensor => tensor.sourceEnd - tensor.sourceBegin).sum ≤ fileSize := by
  induction segments generalizing lo with
  | nil => simpa using hle
  | cons tensor segments ih =>
    have hn := h.nonempty tensor List.mem_cons_self
    have hi := h.inside tensor List.mem_cons_self
    have hfirst := hlo tensor List.mem_cons_self
    have hrest := ih h.tail (List.pairwise_cons.mp h.ordered).1 hi
    rw [List.map_cons, List.sum_cons]
    omega

end Shard

end Qwen3xOrin.Resident
