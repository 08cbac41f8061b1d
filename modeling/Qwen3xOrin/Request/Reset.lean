import Qwen3xOrin.Library.LastWrite
import Qwen3xOrin.Request.ArenaLayout

/-! Clearing a request state for its next request: the whole persistent area, or only what a
committed request can have written. -/

namespace Qwen3xOrin.Request

open Io Library Arena
open Prefill (LayerType)

def requestKvBytesPerToken : ℕ := 65536

inductive RequestStateResetMode
  | alreadyClean
  | committedDirtyPrefix
  | conservativeFull
  deriving DecidableEq, Repr

structure RequestStateResetPlan where
  valid : Bool := false
  mode : RequestStateResetMode := .conservativeFull
  clearedPositions : ℕ := 0
  zeroedBytes : ℕ := 0
  memsetOperations : ℕ := 0
  deriving DecidableEq, Repr

structure RequestStateResetReceipt where
  mode : RequestStateResetMode := .conservativeFull
  clearedPositions : ℕ := 0
  zeroedBytes : ℕ := 0
  milliseconds : ℚ := 0
  deriving DecidableEq

section Plan

variable (plan : RequestMemoryPlan)

def consumeRegion (region : RequestRegion) (expectedBytes expectedOffset : ℕ) : Option ℕ := do
  guard (region.arenaOffset = expectedOffset ∧ region.byteSize = expectedBytes)
  checkedAdd region.arenaOffset region.byteSize

def consumeCaches (kvRegionBytes expectedOffset : ℕ) : Option ℕ :=
  (List.finRange requestFullLayerCount).foldlM (fun expectedOffset slot => do
    let expectedOffset ← consumeRegion (plan.keyCache slot) kvRegionBytes expectedOffset
    consumeRegion (plan.valueCache slot) kvRegionBytes expectedOffset) expectedOffset

def dirtyPrefixResetPlan (persistentEnd committedPositions : ℕ) :
    Option RequestStateResetPlan := do
  guard (committedPositions ≠ 0 ∧ committedPositions ≤ plan.maxSequenceLength)
  let kvRegionBytes ← checkedMultiply plan.maxSequenceLength
    (requestKvBytesPerToken / (2 * requestFullLayerCount))
  let expectedOffset ← consumeRegion plan.convState requestConvStateBytes plan.persistentOffset
  let expectedOffset ← consumeRegion plan.gdnState requestGdnStateBytes expectedOffset
  let expectedOffset ← consumeCaches plan kvRegionBytes expectedOffset
  guard (expectedOffset = persistentEnd)
  let dirtyKvBytes ← checkedMultiply committedPositions requestKvBytesPerToken
  let zeroedBytes ← checkedAdd (requestConvStateBytes + requestGdnStateBytes) dirtyKvBytes
  pure
    { valid := true
      mode := .committedDirtyPrefix
      clearedPositions := committedPositions
      zeroedBytes := zeroedBytes
      memsetOperations := 1 + 2 * requestFullLayerCount }

def persistentLimit : Option ℕ := do
  guard (plan.maxSequenceLength ≠ 0 ∧ plan.persistentBytes ≠ 0)
  let persistentEnd ← checkedAdd plan.persistentOffset plan.persistentBytes
  guard (persistentEnd ≤ plan.arenaBytes)
  pure persistentEnd

def buildRequestStateResetPlan (mode : RequestStateResetMode) (committedPositions : ℕ) :
    RequestStateResetPlan :=
  match persistentLimit plan with
  | none => { mode := mode }
  | some persistentEnd =>
    match mode with
    | .alreadyClean =>
      if committedPositions ≠ 0 then { mode := mode } else { valid := true, mode := mode }
    | .conservativeFull =>
      if committedPositions ≠ 0 then { mode := mode }
      else
        { valid := true
          mode := mode
          clearedPositions := plan.maxSequenceLength
          zeroedBytes := plan.persistentBytes
          memsetOperations := 1 }
    | .committedDirtyPrefix =>
      (dirtyPrefixResetPlan plan persistentEnd committedPositions).getD { mode := mode }

end Plan

section Clear

abbrev ArenaBytes := ℕ → UInt8

def Covers (offset bytes address : ℕ) : Prop := offset ≤ address ∧ address < offset + bytes

instance (offset bytes address : ℕ) : Decidable (Covers offset bytes address) :=
  inferInstanceAs (Decidable (_ ∧ _))

structure Memset where
  offset : ℕ
  bytes : ℕ
  deriving DecidableEq, Repr

def Memset.clear (arena : ArenaBytes) (range : Memset) : ArenaBytes := fun address =>
  if Covers range.offset range.bytes address then 0 else arena address

def perCachePrefixBytes (committedPositions : ℕ) : ℕ :=
  wrap (committedPositions * requestKvBytesPerToken) / (2 * requestFullLayerCount)

def resetMemsets (plan : RequestMemoryPlan) (mode : RequestStateResetMode)
    (committedPositions : ℕ) : List Memset :=
  match mode with
  | .alreadyClean => []
  | .conservativeFull => [⟨plan.persistentOffset, plan.persistentBytes⟩]
  | .committedDirtyPrefix =>
    ⟨plan.convState.arenaOffset, requestConvStateBytes + requestGdnStateBytes⟩ ::
      (List.finRange requestFullLayerCount).flatMap fun slot =>
        [⟨(plan.keyCache slot).arenaOffset, perCachePrefixBytes committedPositions⟩,
          ⟨(plan.valueCache slot).arenaOffset, perCachePrefixBytes committedPositions⟩]

-- `cuda` gives the status of each `cudaMemsetAsync`; the first one that fails ends the reset.
def issueMemsets (cuda : Memset → ℤ) : List Memset → ArenaBytes → ℤ × ArenaBytes
  | [], arena => (0, arena)
  | range :: ranges, arena =>
    if cuda range ≠ 0 then (cuda range, arena) else issueMemsets cuda ranges (range.clear arena)

structure RequestOperationStatus where
  error : Option RequestAccessError := none
  cudaError : ℤ := 0
  deriving DecidableEq, Repr

-- `arena` is absent in a state that was moved from or released.
structure RequestState where
  plan : RequestMemoryPlan
  arena : Option ArenaBytes
  sequenceLength : ℕ

def resetForRequestAsync (cuda : Memset → ℤ) (mode : RequestStateResetMode)
    (committedPositions : ℕ) (state : RequestState) (receipt : RequestStateResetReceipt) :
    RequestOperationStatus × RequestState × RequestStateResetReceipt :=
  match state.arena with
  | none => ({ error := some .emptyState }, state, receipt)
  | some arena =>
    let resetPlan := buildRequestStateResetPlan state.plan mode committedPositions
    if resetPlan.valid = false ∨ ((mode = .alreadyClean ∨ mode = .committedDirtyPrefix) ∧
        state.sequenceLength ≠ committedPositions) then
      ({ error := some .invalidResetPlan }, state, receipt)
    else
      match issueMemsets cuda (resetMemsets state.plan mode committedPositions) arena with
      | (status, arena) =>
        if status ≠ 0 then ({ cudaError := status }, { state with arena := some arena }, receipt)
        else
          ({}, { state with arena := some arena, sequenceLength := 0 },
            { mode := resetPlan.mode
              clearedPositions := resetPlan.clearedPositions
              zeroedBytes := resetPlan.zeroedBytes
              milliseconds := 0 })

end Clear

section Shape

variable {chunk seq : ℕ}

lemma consumeRegion_ok {region : RequestRegion} {offset bytes : ℕ}
    (hoffset : region.arenaOffset = offset) (hbytes : region.byteSize = bytes)
    (hfits : offset + bytes ≤ uint64Max) :
    consumeRegion region bytes offset = some (offset + bytes) := by
  subst hoffset hbytes
  unfold consumeRegion
  rw [guard_bind ⟨rfl, rfl⟩]
  exact (checkedAdd_eq_some ((Nat.le_add_right _ _).trans hfits)).mpr ⟨rfl, hfits⟩

lemma persistentTotal_le (hseq : seq ≤ 262144) : persistentTotal seq ≤ 2 ^ 36 := by
  simp only [persistentTotal, statefulBytes, requestConvStateBytes, requestGdnStateBytes]
  omega

lemma consumeCaches_ok (hseq : seq ≤ 262144) :
    consumeCaches (requestPlan chunk seq) (2048 * seq) statefulBytes =
      some (persistentTotal seq) := by
  have hmax := uint64Max_eq
  have hstages := @foldlM_finRange _ requestFullLayerCount (fun expectedOffset slot => do
      let expectedOffset ←
        consumeRegion ((requestPlan chunk seq).keyCache slot) (2048 * seq) expectedOffset
      consumeRegion ((requestPlan chunk seq).valueCache slot) (2048 * seq) expectedOffset)
    (fun slot => statefulBytes + slot * (4096 * seq)) (by
      intro slot
      have hslot : (slot : ℕ) * (4096 * seq) ≤ 16 * (4096 * 262144) :=
        Nat.mul_le_mul slot.isLt.le (Nat.mul_le_mul_left _ hseq)
      have hbase : statefulBytes = 78446592 := rfl
      have hkey : consumeRegion ((requestPlan chunk seq).keyCache slot) (2048 * seq)
          (statefulBytes + slot * (4096 * seq)) =
            some (statefulBytes + slot * (4096 * seq) + 2048 * seq) :=
        consumeRegion_ok rfl rfl (by omega)
      have hvalue : consumeRegion ((requestPlan chunk seq).valueCache slot) (2048 * seq)
          (statefulBytes + slot * (4096 * seq) + 2048 * seq) =
            some (statefulBytes + slot * (4096 * seq) + 2048 * seq + 2048 * seq) :=
        consumeRegion_ok rfl rfl (by omega)
      rw [hkey, some_bind, hvalue]
      congr 1
      ring)
  simp only [Nat.zero_mul, Nat.add_zero] at hstages
  refine hstages.trans ?_
  simp only [requestFullLayerCount, persistentTotal]
  congr 1
  ring

lemma persistentLimit_ok (hpos : 0 < seq) (hseq : seq ≤ 262144) :
    persistentLimit (requestPlan chunk seq) = some (persistentTotal seq) := by
  have hmax := uint64Max_eq
  have htotal := persistentTotal_le hseq
  have hseq' : (requestPlan chunk seq).maxSequenceLength = seq := rfl
  have hoffset : (requestPlan chunk seq).persistentOffset = 0 := rfl
  have hbytes : (requestPlan chunk seq).persistentBytes = persistentTotal seq := rfl
  have harena : (requestPlan chunk seq).arenaBytes = requestArenaTotal chunk seq := rfl
  have hbase : persistentTotal seq ≠ 0 := by
    simp only [persistentTotal]
    omega
  unfold persistentLimit
  rw [hseq', hoffset, hbytes, harena, guard_bind ⟨hpos.ne', hbase⟩,
    (checkedAdd_eq_some (Nat.zero_le _)).mpr ⟨rfl, by omega⟩, some_bind, guard_bind]
  · simp
  · simp only [requestArenaTotal]
    omega

lemma resetPlan_dirty {committed : ℕ} (hpos : 0 < committed) (hle : committed ≤ seq)
    (hseq : seq ≤ 262144) :
    buildRequestStateResetPlan (requestPlan chunk seq) .committedDirtyPrefix committed =
      { valid := true
        mode := .committedDirtyPrefix
        clearedPositions := committed
        zeroedBytes := statefulBytes + committed * requestKvBytesPerToken
        memsetOperations := 33 } := by
  have hmax := uint64Max_eq
  have hseq' : (requestPlan chunk seq).maxSequenceLength = seq := rfl
  have hregion : seq * (requestKvBytesPerToken / (2 * requestFullLayerCount)) = 2048 * seq :=
    Nat.mul_comm seq 2048
  have hoffset : (requestPlan chunk seq).persistentOffset = 0 := rfl
  have hconv : consumeRegion (requestPlan chunk seq).convState requestConvStateBytes 0 =
      some requestConvStateBytes := consumeRegion_ok rfl rfl (by decide)
  have hgdn : consumeRegion (requestPlan chunk seq).gdnState requestGdnStateBytes
      requestConvStateBytes = some statefulBytes := consumeRegion_ok rfl rfl (by decide)
  have hbase : statefulBytes = 78446592 := rfl
  have htoken : committed * requestKvBytesPerToken = committed * 65536 := rfl
  have hdirty : dirtyPrefixResetPlan (requestPlan chunk seq) (persistentTotal seq) committed =
      some
        { valid := true
          mode := .committedDirtyPrefix
          clearedPositions := committed
          zeroedBytes := statefulBytes + committed * requestKvBytesPerToken
          memsetOperations := 33 } := by
    unfold dirtyPrefixResetPlan
    rw [hseq', guard_bind ⟨hpos.ne', hle⟩, checkedMultiply_ok (by omega), some_bind, hoffset,
      hregion, hconv, some_bind, hgdn, some_bind, consumeCaches_ok hseq, some_bind,
      guard_bind rfl, checkedMultiply_ok (by omega), some_bind, ← statefulBytes,
      (checkedAdd_eq_some (by omega)).mpr ⟨rfl, by omega⟩]
    rfl
  unfold buildRequestStateResetPlan
  rw [persistentLimit_ok (by omega) hseq]
  dsimp only
  rw [hdirty]
  rfl

lemma resetPlan_clean (hpos : 0 < seq) (hseq : seq ≤ 262144) :
    buildRequestStateResetPlan (requestPlan chunk seq) .alreadyClean 0 =
      { valid := true, mode := .alreadyClean } := by
  unfold buildRequestStateResetPlan
  rw [persistentLimit_ok hpos hseq]
  rfl

lemma resetPlan_full (hpos : 0 < seq) (hseq : seq ≤ 262144) :
    buildRequestStateResetPlan (requestPlan chunk seq) .conservativeFull 0 =
      { valid := true
        mode := .conservativeFull
        clearedPositions := seq
        zeroedBytes := persistentTotal seq
        memsetOperations := 1 } := by
  unfold buildRequestStateResetPlan
  rw [persistentLimit_ok hpos hseq]
  rfl

end Shape

section Ranges

-- What a request that committed its positions below `committed` may have written.
def Dirty (plan : RequestMemoryPlan) (committed address : ℕ) : Prop :=
  Covers plan.convState.arenaOffset plan.convState.byteSize address ∨
    Covers plan.gdnState.arenaOffset plan.gdnState.byteSize address ∨
    ∃ layer position row, position < committed ∧
      (keyPosition plan layer position = .ok row ∨ valuePosition plan layer position = .ok row) ∧
      Covers row.arenaOffset row.byteSize address

def Persistent (plan : RequestMemoryPlan) (address : ℕ) : Prop :=
  Covers plan.persistentOffset plan.persistentBytes address

variable {chunk seq committed : ℕ}

lemma perCachePrefixBytes_eq (h : committed ≤ 262144) :
    perCachePrefixBytes committed = committed * 2048 := by
  simp only [perCachePrefixBytes, requestKvBytesPerToken, requestFullLayerCount]
  rw [wrap_small (by omega)]
  omega

lemma covers_rows {base count address : ℕ} :
    Covers base (count * 2048) address ↔
      ∃ position < count, Covers (base + position * 2048) 2048 address := by
  constructor
  · rintro ⟨hlow, hhigh⟩
    refine ⟨(address - base) / 2048, by omega, ?_⟩
    unfold Covers
    omega
  · rintro ⟨position, hposition, hlow, hhigh⟩
    unfold Covers
    omega

lemma keyPosition_ok (hchunk : chunk ≤ 512) (hseq : seq ≤ 262144) {layer position : ℕ}
    {row : RequestRegion} :
    keyPosition (requestPlan chunk seq) layer position = .ok row ↔
      (layer < requestLayerCount ∧ scheduledType layer = .fullAttention ∧ position < seq) ∧
        row = viewShape chunk seq (.key layer position) :=
  @view_ok chunk seq hchunk hseq (.key layer position) row

lemma valuePosition_ok (hchunk : chunk ≤ 512) (hseq : seq ≤ 262144) {layer position : ℕ}
    {row : RequestRegion} :
    valuePosition (requestPlan chunk seq) layer position = .ok row ↔
      (layer < requestLayerCount ∧ scheduledType layer = .fullAttention ∧ position < seq) ∧
        row = viewShape chunk seq (.value layer position) :=
  @view_ok chunk seq hchunk hseq (.value layer position) row

-- The rows of a cache that lie below `committed`, over all full attention layers.
lemma rows_iff {cacheOffset : ℕ → ℕ} {rowOf : ℕ → ℕ → Except RequestAccessError RequestRegion}
    (hrow : ∀ {layer position row}, rowOf layer position = .ok row ↔
      (layer < requestLayerCount ∧ scheduledType layer = .fullAttention ∧ position < seq) ∧
        row = ⟨cacheOffset (layer / 4) + position * 2048, 2048, 1024, 2⟩)
    (hcommitted : committed ≤ seq) {address : ℕ} :
    (∃ layer position row, position < committed ∧ rowOf layer position = .ok row ∧
      Covers row.arenaOffset row.byteSize address) ↔
    ∃ slot : Fin requestFullLayerCount, Covers (cacheOffset slot) (committed * 2048) address := by
  constructor
  · rintro ⟨layer, position, row, hposition, hok, hcovers⟩
    obtain ⟨⟨hlayer, -, -⟩, rfl⟩ := hrow.mp hok
    have hslot : layer / 4 < requestFullLayerCount := by
      simp only [requestLayerCount] at hlayer
      simp only [requestFullLayerCount]
      omega
    exact ⟨⟨layer / 4, hslot⟩, covers_rows.2 ⟨position, hposition, hcovers⟩⟩
  · rintro ⟨slot, hcovers⟩
    obtain ⟨position, hposition, hcovers⟩ := covers_rows.1 hcovers
    have hslot : (4 * (slot : ℕ) + 3) / 4 = slot := by omega
    have hlayer : 4 * (slot : ℕ) + 3 < requestLayerCount := by
      have := slot.isLt
      simp only [requestFullLayerCount] at this
      simp only [requestLayerCount]
      omega
    have htype : scheduledType (4 * (slot : ℕ) + 3) = .fullAttention := by
      rw [scheduledType, if_pos (by omega)]
    refine ⟨4 * slot + 3, position, _, hposition, hrow.mpr ⟨⟨hlayer, htype, by omega⟩, rfl⟩, ?_⟩
    rw [hslot]
    exact hcovers

lemma dirty_iff (hchunk : chunk ≤ 512) (hseq : seq ≤ 262144) (hcommitted : committed ≤ seq)
    {address : ℕ} :
    Dirty (requestPlan chunk seq) committed address ↔ address < statefulBytes ∨
      ∃ slot : Fin requestFullLayerCount,
        Covers (keyShape seq slot).arenaOffset (committed * 2048) address ∨
          Covers (valueShape seq slot).arenaOffset (committed * 2048) address := by
  have hkey := @rows_iff seq committed (fun slot => statefulBytes + slot * (4096 * seq)) _
    (keyPosition_ok hchunk hseq) hcommitted address
  have hvalue := @rows_iff seq committed
    (fun slot => statefulBytes + slot * (4096 * seq) + 2048 * seq) _
    (valuePosition_ok hchunk hseq) hcommitted address
  have hstateful : address < statefulBytes ↔
      Covers (requestPlan chunk seq).convState.arenaOffset
        (requestPlan chunk seq).convState.byteSize address ∨
      Covers (requestPlan chunk seq).gdnState.arenaOffset
        (requestPlan chunk seq).gdnState.byteSize address := by
    have hconv : (requestPlan chunk seq).convState = convShape := rfl
    have hgdn : (requestPlan chunk seq).gdnState = gdnShape := rfl
    simp only [hconv, hgdn, convShape, gdnShape, Covers, statefulBytes]
    omega
  rw [exists_or, hstateful, or_assoc]
  refine or_congr_right (or_congr_right ?_)
  simp only [or_and_right, and_or_left, exists_or]
  exact or_congr hkey hvalue

lemma resetMemsets_covers (hchunk : chunk ≤ 512) (hseq : seq ≤ 262144)
    (hcommitted : committed ≤ seq) {address : ℕ} :
    (∃ range ∈ resetMemsets (requestPlan chunk seq) .committedDirtyPrefix committed,
      Covers range.offset range.bytes address) ↔
    Dirty (requestPlan chunk seq) committed address := by
  have hstart : (requestPlan chunk seq).convState.arenaOffset = 0 := rfl
  have hstateful : Covers 0 statefulBytes address ↔ address < statefulBytes := by
    unfold Covers
    omega
  rw [dirty_iff hchunk hseq hcommitted, ← hstateful]
  simp only [resetMemsets, perCachePrefixBytes_eq (hcommitted.trans hseq), hstart,
    List.mem_cons, exists_eq_or_imp, List.mem_flatMap, List.mem_finRange, true_and,
    List.not_mem_nil, or_false]
  refine or_congr_right ?_
  constructor
  · rintro ⟨range, ⟨slot, rfl | rfl⟩, hcovers⟩
    · exact ⟨slot, Or.inl hcovers⟩
    · exact ⟨slot, Or.inr hcovers⟩
  · rintro ⟨slot, hcovers | hcovers⟩
    · exact ⟨_, ⟨slot, Or.inl rfl⟩, hcovers⟩
    · exact ⟨_, ⟨slot, Or.inr rfl⟩, hcovers⟩

lemma dirty_persistent (hchunk : chunk ≤ 512) (hseq : seq ≤ 262144) (hcommitted : committed ≤ seq)
    {address : ℕ} (h : Dirty (requestPlan chunk seq) committed address) :
    Persistent (requestPlan chunk seq) address := by
  have hoffset : (requestPlan chunk seq).persistentOffset = 0 := rfl
  have hbytes : (requestPlan chunk seq).persistentBytes = statefulBytes + 65536 * seq := rfl
  rw [Persistent, hoffset, hbytes]
  obtain hstateful | ⟨slot, hcache⟩ := (dirty_iff hchunk hseq hcommitted).mp h
  · exact ⟨Nat.zero_le _, by omega⟩
  · have hslot : (slot : ℕ) * (4096 * seq) ≤ 15 * (4096 * seq) :=
      Nat.mul_le_mul_right _ (Nat.le_of_lt_succ slot.isLt)
    simp only [Covers, keyShape, valueShape] at hcache
    exact ⟨Nat.zero_le _, by omega⟩

lemma resetMemsets_placed (hpos : 0 < committed) (hcommitted : committed ≤ seq)
    (hseq : seq ≤ 262144) :
    Placed Memset.offset Memset.bytes 1 0
      (resetMemsets (requestPlan chunk seq) .committedDirtyPrefix committed)
      (persistentTotal seq) := by
  have hrow (slot : ℕ) : Placed Memset.offset Memset.bytes 1
      (statefulBytes + slot * (4096 * seq))
      [⟨(keyShape seq slot).arenaOffset, committed * 2048⟩,
        ⟨(valueShape seq slot).arenaOffset, committed * 2048⟩]
      (statefulBytes + (slot + 1) * (4096 * seq)) := by
    have hnext : (slot + 1) * (4096 * seq) = slot * (4096 * seq) + 4096 * seq := by ring
    rw [hnext]
    simp only [Placed, keyShape, valueShape, one_dvd, true_and]
    omega
  have hcaches := Placed.rows hrow requestFullLayerCount
  have htotal : statefulBytes + requestFullLayerCount * (4096 * seq) = persistentTotal seq := by
    simp only [persistentTotal, requestFullLayerCount]
    ring
  rw [htotal, ← List.map_coe_finRange_eq_range, List.flatMap_map] at hcaches
  simp only [resetMemsets, perCachePrefixBytes_eq (hcommitted.trans hseq)]
  refine ⟨Nat.zero_le _, one_dvd _, Nat.succ_pos _, ?_⟩
  have hstart : (requestPlan chunk seq).convState.arenaOffset = 0 := rfl
  rw [hstart, Nat.zero_add]
  exact hcaches

lemma sum_flatMap_pair {ι : Type} (l : List ι) (bytes : ℕ) :
    (l.flatMap fun _ => [bytes, bytes]).sum = l.length * (2 * bytes) := by
  induction l with
  | nil => simp
  | cons a l ih =>
    rw [List.flatMap_cons, List.sum_append, ih, List.length_cons]
    simp only [List.sum_cons, List.sum_nil]
    ring

lemma resetMemsets_bytes (hcommitted : committed ≤ 262144) :
    ((resetMemsets (requestPlan chunk seq) .committedDirtyPrefix committed).map
      Memset.bytes).sum = statefulBytes + committed * requestKvBytesPerToken := by
  simp only [resetMemsets, perCachePrefixBytes_eq hcommitted, List.map_cons, List.map_flatMap,
    List.map_nil, List.sum_cons, sum_flatMap_pair, List.length_finRange]
  simp only [statefulBytes, requestFullLayerCount, requestKvBytesPerToken]
  ring

end Ranges

section Issue

variable {cuda : Memset → ℤ} {ranges : List Memset} {arena : ArenaBytes}

lemma clear_law : WriteLaw Memset.clear (fun arena address => arena address)
    (fun range address => Covers range.offset range.bytes address) (fun _ _ => 0) where
  hit h := if_pos h
  miss h := if_neg h

lemma foldl_clear_covered {address : ℕ}
    (h : ∃ range ∈ ranges, Covers range.offset range.bytes address) :
    ranges.foldl Memset.clear arena address = 0 :=
  clear_law.agreed h (fun _ _ _ => rfl) arena

lemma foldl_clear_uncovered {address : ℕ}
    (h : ¬∃ range ∈ ranges, Covers range.offset range.bytes address) :
    ranges.foldl Memset.clear arena address = arena address :=
  clear_law.untouched (fun range hrange hcovers => h ⟨range, hrange, hcovers⟩) arena

lemma issueMemsets_ok (h : ∀ range ∈ ranges, cuda range = 0) :
    issueMemsets cuda ranges arena = (0, ranges.foldl Memset.clear arena) := by
  induction ranges generalizing arena with
  | nil => rfl
  | cons range ranges ih =>
    obtain ⟨hrange, hranges⟩ := List.forall_mem_cons.mp h
    rw [issueMemsets, if_neg (by simp [hrange]), ih hranges, List.foldl_cons]

end Issue

section Exact

structure DirtyPrefixReset (plan : RequestMemoryPlan) (committed : ℕ) : Prop where
  valid : (buildRequestStateResetPlan plan .committedDirtyPrefix committed).valid = true
  cleared : ∀ address, (∃ range ∈ resetMemsets plan .committedDirtyPrefix committed,
    Covers range.offset range.bytes address) ↔ Dirty plan committed address
  apart : (resetMemsets plan .committedDirtyPrefix committed).Pairwise
    (Disjoint Memset.offset Memset.bytes)
  zeroed : ((resetMemsets plan .committedDirtyPrefix committed).map Memset.bytes).sum =
    (buildRequestStateResetPlan plan .committedDirtyPrefix committed).zeroedBytes
  accepted : ∀ cuda arena receipt,
    (∀ range ∈ resetMemsets plan .committedDirtyPrefix committed, cuda range = 0) →
    resetForRequestAsync cuda .committedDirtyPrefix committed ⟨plan, some arena, committed⟩
        receipt =
      ({}, ⟨plan, some ((resetMemsets plan .committedDirtyPrefix committed).foldl
          Memset.clear arena), 0⟩,
        { mode := .committedDirtyPrefix
          clearedPositions := committed
          zeroedBytes := ((resetMemsets plan .committedDirtyPrefix committed).map
            Memset.bytes).sum
          milliseconds := 0 })
  clean : ∀ arena : ArenaBytes,
    (∀ address, Persistent plan address → arena address ≠ 0 → Dirty plan committed address) →
    (∀ address, Persistent plan address →
      (resetMemsets plan .committedDirtyPrefix committed).foldl Memset.clear arena address = 0) ∧
    ∀ receipt, ∃ receipt',
      resetForRequestAsync (fun _ => 0) .conservativeFull 0 ⟨plan, some arena, committed⟩
          receipt =
        ({}, ⟨plan, some ((resetMemsets plan .committedDirtyPrefix committed).foldl
          Memset.clear arena), 0⟩, receipt')

variable {chunk seq committed : ℕ}

lemma reset_accepted {state : RequestState} {arena : ArenaBytes} {cuda : Memset → ℤ}
    {mode : RequestStateResetMode} (harena : state.arena = some arena)
    (hvalid : (buildRequestStateResetPlan state.plan mode committed).valid = true)
    (hlength : mode = .conservativeFull ∨ state.sequenceLength = committed)
    (hcuda : ∀ range ∈ resetMemsets state.plan mode committed, cuda range = 0)
    (receipt : RequestStateResetReceipt) :
    resetForRequestAsync cuda mode committed state receipt =
      ({}, ⟨state.plan, some ((resetMemsets state.plan mode committed).foldl Memset.clear arena),
          0⟩,
        { mode := (buildRequestStateResetPlan state.plan mode committed).mode
          clearedPositions :=
            (buildRequestStateResetPlan state.plan mode committed).clearedPositions
          zeroedBytes := (buildRequestStateResetPlan state.plan mode committed).zeroedBytes
          milliseconds := 0 }) := by
  have hchecked : ¬((buildRequestStateResetPlan state.plan mode committed).valid = false ∨
      ((mode = .alreadyClean ∨ mode = .committedDirtyPrefix) ∧
        state.sequenceLength ≠ committed)) := by
    rw [hvalid]
    rintro (h | ⟨hmode, hne⟩)
    · cases h
    · obtain rfl | hlength := hlength
      · simp at hmode
      · exact hne hlength
  unfold resetForRequestAsync
  rw [harena]
  dsimp only
  rw [if_neg hchecked, issueMemsets_ok hcuda]
  rfl

lemma reset_failed {cuda : Memset → ℤ} {mode : RequestStateResetMode} {state : RequestState}
    {receipt : RequestStateResetReceipt}
    (h : (resetForRequestAsync cuda mode committed state receipt).1 ≠ {}) :
    (resetForRequestAsync cuda mode committed state receipt).2.1.sequenceLength =
        state.sequenceLength ∧
      (resetForRequestAsync cuda mode committed state receipt).2.2 = receipt ∧
      ((resetForRequestAsync cuda mode committed state receipt).1.error ≠ none →
        (resetForRequestAsync cuda mode committed state receipt).2.1 = state) := by
  revert h
  unfold resetForRequestAsync
  cases state.arena with
  | none => simp
  | some arena =>
    dsimp only
    split_ifs with hchecked hstatus
    · simp
    · simp
    · simp

lemma foldl_clear_persistent {plan : RequestMemoryPlan} {arena : ArenaBytes} {address : ℕ} :
    (resetMemsets plan .conservativeFull 0).foldl Memset.clear arena address =
      if Covers plan.persistentOffset plan.persistentBytes address then 0 else arena address := rfl

lemma dirtyPrefixReset (hchunk : chunk ≤ 512) (hseq : seq ≤ 262144) (hpos : 0 < committed)
    (hcommitted : committed ≤ seq) : DirtyPrefixReset (requestPlan chunk seq) committed where
  valid := by rw [resetPlan_dirty hpos hcommitted hseq]
  cleared address := resetMemsets_covers hchunk hseq hcommitted
  apart := (resetMemsets_placed hpos hcommitted hseq).pairwise
  zeroed := by rw [resetPlan_dirty hpos hcommitted hseq, resetMemsets_bytes (hcommitted.trans hseq)]
  accepted cuda arena receipt hcuda := by
    have hvalid := @resetPlan_dirty chunk seq committed hpos hcommitted hseq
    have hreset := @reset_accepted committed ⟨requestPlan chunk seq, some arena, committed⟩ arena
      cuda .committedDirtyPrefix rfl (by rw [hvalid]) (Or.inr rfl) hcuda receipt
    rw [hreset, hvalid, resetMemsets_bytes (hcommitted.trans hseq)]
  clean arena harena := by
    have hzero : ∀ address, Persistent (requestPlan chunk seq) address →
        (resetMemsets (requestPlan chunk seq) .committedDirtyPrefix committed).foldl
          Memset.clear arena address = 0 := by
      intro address haddress
      by_cases hdirty : Dirty (requestPlan chunk seq) committed address
      · exact foldl_clear_covered ((resetMemsets_covers hchunk hseq hcommitted).mpr hdirty)
      · rw [foldl_clear_uncovered fun h =>
          hdirty ((resetMemsets_covers hchunk hseq hcommitted).mp h)]
        by_contra hne
        exact hdirty (harena address haddress hne)
    have hsame : (resetMemsets (requestPlan chunk seq) .conservativeFull 0).foldl
          Memset.clear arena =
        (resetMemsets (requestPlan chunk seq) .committedDirtyPrefix committed).foldl
          Memset.clear arena := by
      funext address
      rw [foldl_clear_persistent]
      split_ifs with hcovers
      · exact (hzero address hcovers).symm
      · rw [foldl_clear_uncovered]
        intro h
        exact hcovers (dirty_persistent hchunk hseq hcommitted
          ((resetMemsets_covers hchunk hseq hcommitted).mp h))
    refine ⟨hzero, fun receipt => ?_⟩
    have hvalid := @resetPlan_full chunk seq (hpos.trans_le hcommitted) hseq
    have hreset := @reset_accepted 0 ⟨requestPlan chunk seq, some arena, committed⟩ arena
      (fun _ => 0) .conservativeFull rfl (by rw [hvalid]) (Or.inl rfl) (fun _ _ => rfl) receipt
    rw [hreset, hsame]
    exact ⟨_, rfl⟩

theorem dirty_prefix_reset_exact (options : RequestMemoryOptions) (plan : RequestMemoryPlan)
    (hplan : buildRequestMemoryPlan options = .ok plan) :
    (∀ committed, 1 ≤ committed → committed ≤ plan.maxSequenceLength →
      DirtyPrefixReset plan committed) ∧
    ∀ cuda mode committed (state : RequestState) receipt,
      (resetForRequestAsync cuda mode committed state receipt).1 ≠ {} →
      (resetForRequestAsync cuda mode committed state receipt).2.1.sequenceLength =
          state.sequenceLength ∧
        (resetForRequestAsync cuda mode committed state receipt).2.2 = receipt ∧
        ((resetForRequestAsync cuda mode committed state receipt).1.error ≠ none →
          (resetForRequestAsync cuda mode committed state receipt).2.1 = state) := by
  refine ⟨?_, fun cuda mode committed state receipt => reset_failed⟩
  have hadmitted : Admitted options := by
    by_contra h
    obtain ⟨diagnostic, hfailed, -⟩ := buildRequestMemoryPlan_of_not_admitted h
    rw [hfailed] at hplan
    cases hplan
  rw [buildRequestMemoryPlan_of_admitted hadmitted] at hplan
  obtain ⟨-, ⟨⟩⟩ := guard_ok.mp hplan
  intro committed hpos hcommitted
  exact dirtyPrefixReset hadmitted.chunk_le hadmitted.seq_le hpos hcommitted

theorem dirty_prefix_reset_exact_default :
    ∃ plan, buildRequestMemoryPlan {} = .ok plan ∧ DirtyPrefixReset plan 5 := by
  have hadmitted : Admitted {} :=
    ⟨by decide, by decide, by decide, by decide, by decide, by decide, by decide⟩
  have hplan := buildRequestMemoryPlan_of_admitted hadmitted
  rw [if_neg (by decide)] at hplan
  exact ⟨_, hplan, (dirty_prefix_reset_exact {} _ hplan).1 5 (by decide) (by decide)⟩

end Exact

end Qwen3xOrin.Request
