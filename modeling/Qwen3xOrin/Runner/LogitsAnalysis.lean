import Mathlib.Data.List.Range
import Mathlib.Logic.Function.Basic
import Mathlib.Tactic.Common

/-! The analysis of bf16 logits on the host, with the exponentials of one call memoised under an
8-bit stamp. A float of these functions is the expansion of a bf16 word and stands for it. -/

namespace Qwen3xOrin.Runner

section Words

abbrev Bf16 := UInt16

def isfinite (word : Bf16) : Bool := word &&& 0x7f80 ≠ 0x7f80

def isnan (word : Bf16) : Bool := word &&& 0x7f80 = 0x7f80 ∧ word &&& 0x007f ≠ 0

def floatKey (word : Bf16) : ℤ :=
  if word &&& 0x8000 = 0 then (word &&& 0x7fff).toNat else -(word &&& 0x7fff).toNat

def floatGreater (left right : Bf16) : Bool :=
  !isnan left && !isnan right && floatKey right < floatKey left

def floatEqual (left right : Bf16) : Bool :=
  !isnan left && !isnan right && floatKey left = floatKey right

lemma not_isnan {word : Bf16} (h : isfinite word = true) : isnan word = false := by
  rw [isfinite, decide_eq_true_eq] at h
  simp [isnan, h]

lemma floatGreater_finite {left right : Bf16} (hleft : isfinite left = true)
    (hright : isfinite right = true) :
    floatGreater left right = true ↔ floatKey right < floatKey left := by
  simp [floatGreater, not_isnan hleft, not_isnan hright]

lemma floatEqual_finite {left right : Bf16} (hleft : isfinite left = true)
    (hright : isfinite right = true) :
    floatEqual left right = true ↔ floatKey left = floatKey right := by
  simp [floatEqual, not_isnan hleft, not_isnan hright]

end Words

section Analysis

variable {D : Type}

-- The double arithmetic of an analysis; `widen` is the conversion of a float.
structure DoubleArithmetic (D : Type) where
  zero : D
  exp : D → D
  log : D → D
  add : D → D → D
  sub : D → D → D
  widen : Bf16 → D

inductive LogitsAnalysisStatus
  | success
  | invalidArgument
  | nonFinite
  deriving DecidableEq, Repr

structure LogitsAnalysis (D : Type) where
  status : LogitsAnalysisStatus
  predictedIndex : ℕ
  maximum : Bf16
  logsumexp : D
  maxLogProbability : D
  deriving DecidableEq, Repr

structure MaximumScan where
  maximumIndex : ℕ
  maximum : Bf16
  allFinite : Bool
  deriving DecidableEq, Repr

variable (d : DoubleArithmetic D)

def LogitsAnalysis.failed (status : LogitsAnalysisStatus) : LogitsAnalysis D :=
  ⟨status, 0, 0, d.zero, d.zero⟩

def scanStart (logits : ℕ → Bf16) : MaximumScan := ⟨0, logits 0, isfinite (logits 0)⟩

def scanTurn (logits : ℕ → Bf16) (scan : MaximumScan) (index : ℕ) : MaximumScan :=
  let allFinite := scan.allFinite && isfinite (logits index)
  if floatGreater (logits index) scan.maximum then ⟨index, logits index, allFinite⟩
  else { scan with allFinite := allFinite }

def scanMaximum (logits : ℕ → Bf16) (elementCount : ℕ) : MaximumScan :=
  (List.range' 1 (elementCount - 1)).foldl (scanTurn logits) (scanStart logits)

def finishAnalysis (scan : MaximumScan) (exponentialSum : D) : LogitsAnalysis D :=
  let logsumexp := d.add (d.widen scan.maximum) (d.log exponentialSum)
  { status := .success
    predictedIndex := scan.maximumIndex
    maximum := scan.maximum
    logsumexp := logsumexp
    maxLogProbability := d.sub (d.widen scan.maximum) logsumexp }

-- `none` stands for a null pointer.
def analyzeBf16ArgmaxBits (logits : Option (ℕ → Bf16)) (elementCount : ℕ) : LogitsAnalysis D :=
  match logits with
  | none => .failed d .invalidArgument
  | some logits =>
    if elementCount = 0 then .failed d .invalidArgument
    else
      let scan := scanMaximum logits elementCount
      if scan.allFinite = false then .failed d .nonFinite
      else ⟨.success, scan.maximumIndex, scan.maximum, d.zero, d.zero⟩

def exponential (maximum word : Bf16) : D := d.exp (d.sub (d.widen word) (d.widen maximum))

def exponentialSum (logits : ℕ → Bf16) (maximum : Bf16) (elementCount : ℕ) : D :=
  (List.range elementCount).foldl
    (fun sum index => d.add sum (exponential d maximum (logits index))) d.zero

def analyzeBf16LogitsBitsScalar (logits : Option (ℕ → Bf16)) (elementCount : ℕ) :
    LogitsAnalysis D :=
  match logits with
  | none => .failed d .invalidArgument
  | some logits =>
    if elementCount = 0 then .failed d .invalidArgument
    else
      let scan := scanMaximum logits elementCount
      if scan.allFinite = false then .failed d .nonFinite
      else finishAnalysis d scan (exponentialSum d logits scan.maximum elementCount)

end Analysis

section Memo

variable {D : Type}

structure Bf16ExpMemoCache (D : Type) where
  values : Bf16 → D
  seenStamps : Bf16 → UInt8
  generation : UInt8
  inUse : Bool

-- Where a call that holds the cache stands; the stamp of a code is written before its value.
inductive CallPhase (D : Type)
  | scan (index : ℕ) (scan : MaximumScan)
  | generation (scan : MaximumScan)
  | lookup (index : ℕ) (scan : MaximumScan) (sum : D)
  | store (index : ℕ) (scan : MaximumScan) (sum : D)
  | accumulate (index : ℕ) (scan : MaximumScan) (sum : D)

structure ActiveCall (D : Type) where
  logits : ℕ → Bf16
  elementCount : ℕ
  phase : CallPhase D

structure AnalysisThread (D : Type) where
  cache : Bf16ExpMemoCache D
  active : Option (ActiveCall D)

-- A call may be made at any point of the one that holds the cache, which `advance` carries on.
inductive AnalysisEvent
  | call (logits : Option (ℕ → Bf16)) (elementCount : ℕ)
  | advance

structure ReturnedCall (D : Type) where
  logits : Option (ℕ → Bf16)
  elementCount : ℕ
  analysis : LogitsAnalysis D

variable (d : DoubleArithmetic D)

def AnalysisThread.zeroed : AnalysisThread D where
  cache := ⟨fun _ => d.zero, fun _ => 0, 0, false⟩
  active := none

-- The entry of `analyze_bf16_logits_bits`.
def beginCall (thread : AnalysisThread D) (logits : Option (ℕ → Bf16)) (elementCount : ℕ) :
    AnalysisThread D × List (ReturnedCall D) :=
  match logits with
  | none => (thread, [⟨none, elementCount, .failed d .invalidArgument⟩])
  | some words =>
    if elementCount = 0 then (thread, [⟨some words, elementCount, .failed d .invalidArgument⟩])
    else if thread.cache.inUse then
      (thread, [⟨some words, elementCount,
        analyzeBf16LogitsBitsScalar d (some words) elementCount⟩])
    else
      (⟨{ thread.cache with inUse := true }, some ⟨words, elementCount, .scan 1 (scanStart words)⟩⟩,
        [])

def nextGeneration (cache : Bf16ExpMemoCache D) : Bf16ExpMemoCache D :=
  if cache.generation = 255 then { cache with seenStamps := fun _ => 0, generation := 1 }
  else { cache with generation := cache.generation + 1 }

def advanceCall (cache : Bf16ExpMemoCache D) (call : ActiveCall D) :
    AnalysisThread D × List (ReturnedCall D) :=
  let next := fun cache phase => (⟨cache, some { call with phase := phase }⟩, [])
  let returned := fun analysis => (⟨{ cache with inUse := false }, none⟩,
    [⟨some call.logits, call.elementCount, analysis⟩])
  match call.phase with
  | .scan index scan =>
    if index < call.elementCount then
      next cache (.scan (index + 1) (scanTurn call.logits scan index))
    else if scan.allFinite = false then returned (.failed d .nonFinite)
    else next cache (.generation scan)
  | .generation scan => next (nextGeneration cache) (.lookup 0 scan d.zero)
  | .lookup index scan sum =>
    if index < call.elementCount then
      if cache.seenStamps (call.logits index) ≠ cache.generation then
        next { cache with
          seenStamps := Function.update cache.seenStamps (call.logits index) cache.generation }
          (.store index scan sum)
      else next cache (.accumulate index scan sum)
    else returned (finishAnalysis d scan sum)
  | .store index scan sum =>
    next { cache with
      values := Function.update cache.values (call.logits index)
        (exponential d scan.maximum (call.logits index)) } (.accumulate index scan sum)
  | .accumulate index scan sum =>
    next cache (.lookup (index + 1) scan (d.add sum (cache.values (call.logits index))))

def analysisStep (thread : AnalysisThread D) :
    AnalysisEvent → AnalysisThread D × List (ReturnedCall D)
  | .call logits elementCount => beginCall d thread logits elementCount
  | .advance =>
    match thread.active with
    | none => (thread, [])
    | some call => advanceCall d thread.cache call

def analysisRun : AnalysisThread D → List AnalysisEvent → AnalysisThread D × List (ReturnedCall D)
  | thread, [] => (thread, [])
  | thread, event :: events =>
    let (thread, returned) := analysisStep d thread event
    let (thread, later) := analysisRun thread events
    (thread, returned ++ later)

end Memo

section Scan

variable {D : Type} {logits : ℕ → Bf16}

lemma scanMaximum_one (logits : ℕ → Bf16) : scanMaximum logits 1 = scanStart logits := rfl

lemma scanMaximum_succ {index : ℕ} (h : 0 < index) :
    scanMaximum logits (index + 1) = scanTurn logits (scanMaximum logits index) index := by
  obtain ⟨count, rfl⟩ := Nat.exists_eq_add_of_lt h
  rw [scanMaximum, scanMaximum, Nat.add_sub_cancel, Nat.zero_add, Nat.add_sub_cancel,
    List.range'_1_concat, List.foldl_append, List.foldl_cons, List.foldl_nil, Nat.add_comm 1]

lemma exponentialSum_succ (d : DoubleArithmetic D) (maximum : Bf16) (count : ℕ) :
    exponentialSum d logits maximum (count + 1) =
      d.add (exponentialSum d logits maximum count) (exponential d maximum (logits count)) := by
  rw [exponentialSum, List.range_succ, List.foldl_append, List.foldl_cons, List.foldl_nil]
  rfl

lemma argmax_agrees (d : DoubleArithmetic D) (logits : Option (ℕ → Bf16)) (elementCount : ℕ) :
    (analyzeBf16ArgmaxBits d logits elementCount).status =
        (analyzeBf16LogitsBitsScalar d logits elementCount).status ∧
      (analyzeBf16ArgmaxBits d logits elementCount).predictedIndex =
        (analyzeBf16LogitsBitsScalar d logits elementCount).predictedIndex := by
  cases logits with
  | none => exact ⟨rfl, rfl⟩
  | some logits =>
    unfold analyzeBf16ArgmaxBits analyzeBf16LogitsBitsScalar
    dsimp only
    split_ifs
    · exact ⟨rfl, rfl⟩
    · exact ⟨rfl, rfl⟩
    · exact ⟨rfl, rfl⟩

end Scan

section Invariant

variable {D : Type} {d : DoubleArithmetic D} {cache : Bf16ExpMemoCache D} {call : ActiveCall D}
  {thread : AnalysisThread D}

def StampsBounded (cache : Bf16ExpMemoCache D) : Prop :=
  ∀ code, cache.seenStamps code ≤ cache.generation

-- The entries of the running generation are those of the first `stored` elements of the call.
structure Stored (d : DoubleArithmetic D) (cache : Bf16ExpMemoCache D) (logits : ℕ → Bf16)
    (maximum : Bf16) (stored : ℕ) : Prop where
  bounded : StampsBounded cache
  current : ∀ code, cache.seenStamps code = cache.generation ↔ ∃ i < stored, logits i = code
  values : ∀ i < stored, cache.values (logits i) = exponential d maximum (logits i)

structure Summing (d : DoubleArithmetic D) (logits : ℕ → Bf16) (elementCount index : ℕ)
    (scan : MaximumScan) (sum : D) : Prop where
  scanned : scan = scanMaximum logits elementCount
  finite : scan.allFinite = true
  summed : sum = exponentialSum d logits scan.maximum index

def PhaseInvariant (d : DoubleArithmetic D) (cache : Bf16ExpMemoCache D) (logits : ℕ → Bf16)
    (elementCount : ℕ) : CallPhase D → Prop
  | .scan index scan => 0 < index ∧ index ≤ elementCount ∧ scan = scanMaximum logits index ∧
    StampsBounded cache
  | .generation scan => scan = scanMaximum logits elementCount ∧ scan.allFinite = true ∧
    StampsBounded cache
  | .lookup index scan sum => index ≤ elementCount ∧
    Summing d logits elementCount index scan sum ∧ Stored d cache logits scan.maximum index
  -- The value of the code at `index` is the one that is still missing.
  | .store index scan sum => index < elementCount ∧
    Summing d logits elementCount index scan sum ∧ StampsBounded cache ∧
    (∀ code, cache.seenStamps code = cache.generation ↔ ∃ i < index + 1, logits i = code) ∧
    ∀ i < index, logits i ≠ logits index ∧
      cache.values (logits i) = exponential d scan.maximum (logits i)
  | .accumulate index scan sum => index < elementCount ∧
    Summing d logits elementCount index scan sum ∧ Stored d cache logits scan.maximum (index + 1)

structure ThreadInvariant (d : DoubleArithmetic D) (thread : AnalysisThread D) : Prop where
  inUse : thread.cache.inUse = thread.active.isSome
  bounded : thread.active = none → StampsBounded thread.cache
  phase : ∀ call, thread.active = some call → 0 < call.elementCount ∧
    PhaseInvariant d thread.cache call.logits call.elementCount call.phase

lemma zeroed_invariant (d : DoubleArithmetic D) : ThreadInvariant d (.zeroed d) where
  inUse := rfl
  bounded _ _ := UInt8.le_refl _
  phase _ h := absurd h (Option.some_ne_none _).symm

lemma nextGeneration_stored (h : StampsBounded cache)
    (logits : ℕ → Bf16) (maximum : Bf16) :
    Stored d (nextGeneration cache) logits maximum 0 := by
  unfold nextGeneration
  split_ifs with hwrap
  · refine ⟨fun _ => UInt8.zero_le, fun _ => ?_, fun i hi => absurd hi (Nat.not_lt_zero i)⟩
    simp
  · have hlast : cache.generation.toNat ≠ 255 := fun h => hwrap (UInt8.toNat_inj.mp h)
    have hnext : (cache.generation + 1).toNat = cache.generation.toNat + 1 := by
      have := cache.generation.toNat_lt
      rw [UInt8.toNat_add]
      exact Nat.mod_eq_of_lt (by simp; omega)
    refine ⟨fun code => ?_, fun code => ?_, fun i hi => absurd hi (Nat.not_lt_zero i)⟩
    · have := UInt8.le_iff_toNat_le.mp (h code)
      rw [UInt8.le_iff_toNat_le]
      dsimp only
      omega
    · have := UInt8.le_iff_toNat_le.mp (h code)
      simp only [Nat.not_lt_zero, false_and, exists_false, iff_false, ← UInt8.toNat_inj]
      omega

def CallPhase.remaining (elementCount : ℕ) : CallPhase D → ℕ
  | scan index _ => 3 * elementCount + 3 + (elementCount - index)
  | generation _ => 3 * elementCount + 2
  | lookup index _ _ => 3 * (elementCount - index) + 1
  | store index _ _ => 3 * (elementCount - index)
  | accumulate index _ _ => 3 * (elementCount - index) - 1

-- What one step of the call that holds the cache does: it goes on, or it returns.
def Advanced (d : DoubleArithmetic D) (call : ActiveCall D)
    (result : AnalysisThread D × List (ReturnedCall D)) : Prop :=
  (∃ cache phase, result = (⟨cache, some { call with phase := phase }⟩, []) ∧
    cache.inUse = true ∧ PhaseInvariant d cache call.logits call.elementCount phase ∧
    phase.remaining call.elementCount < call.phase.remaining call.elementCount) ∨
  ∃ cache, result = (⟨cache, none⟩, [⟨some call.logits, call.elementCount,
    analyzeBf16LogitsBitsScalar d (some call.logits) call.elementCount⟩]) ∧
    cache.inUse = false ∧ StampsBounded cache

lemma scalar_failed {logits : ℕ → Bf16} {elementCount : ℕ} (hcount : 0 < elementCount)
    (h : (scanMaximum logits elementCount).allFinite = false) :
    analyzeBf16LogitsBitsScalar d (some logits) elementCount = .failed d .nonFinite := by
  rw [analyzeBf16LogitsBitsScalar]
  dsimp only
  rw [if_neg (Nat.ne_of_gt hcount), if_pos h]

lemma scalar_finished {logits : ℕ → Bf16} {elementCount : ℕ} {scan : MaximumScan} {sum : D}
    (hcount : 0 < elementCount) (h : Summing d logits elementCount elementCount scan sum) :
    analyzeBf16LogitsBitsScalar d (some logits) elementCount = finishAnalysis d scan sum := by
  have hfinite := h.finite
  rw [h.scanned] at hfinite
  rw [analyzeBf16LogitsBitsScalar, h.summed, h.scanned]
  dsimp only
  rw [if_neg (Nat.ne_of_gt hcount), if_neg (by rw [hfinite]; exact Bool.noConfusion)]

lemma Stored.miss {logits : ℕ → Bf16} {maximum : Bf16} {index : ℕ}
    (h : Stored d cache logits maximum index)
    (hmiss : cache.seenStamps (logits index) ≠ cache.generation) :
    let stamped := { cache with
      seenStamps := Function.update cache.seenStamps (logits index) cache.generation }
    StampsBounded stamped ∧
      (∀ code, stamped.seenStamps code = stamped.generation ↔ ∃ i < index + 1, logits i = code) ∧
      ∀ i < index, logits i ≠ logits index ∧
        stamped.values (logits i) = exponential d maximum (logits i) := by
  refine ⟨fun code => ?_, fun code => ?_, fun i hi => ⟨fun heq => ?_, h.values i hi⟩⟩
  · by_cases hcode : code = logits index
    · subst hcode
      dsimp only
      rw [Function.update_self]
      exact UInt8.le_refl _
    · dsimp only
      rw [Function.update_of_ne hcode]
      exact h.bounded code
  · by_cases hcode : code = logits index
    · subst hcode
      dsimp only
      rw [Function.update_self]
      exact ⟨fun _ => ⟨index, Nat.lt_succ_self index, rfl⟩, fun _ => rfl⟩
    · dsimp only
      rw [Function.update_of_ne hcode, h.current]
      constructor
      · rintro ⟨i, hi, hlogit⟩
        exact ⟨i, Nat.lt_succ_of_lt hi, hlogit⟩
      · rintro ⟨i, hi, hlogit⟩
        have hne : i ≠ index := fun heq => hcode (heq ▸ hlogit.symm)
        exact ⟨i, by omega, hlogit⟩
  · exact hmiss ((h.current _).mpr ⟨i, hi, heq⟩)

lemma Stored.hit {logits : ℕ → Bf16} {maximum : Bf16} {index : ℕ}
    (h : Stored d cache logits maximum index)
    (hhit : cache.seenStamps (logits index) = cache.generation) :
    Stored d cache logits maximum (index + 1) := by
  obtain ⟨j, hj, hlogit⟩ := (h.current _).mp hhit
  refine ⟨h.bounded, fun code => ?_, fun i hi => ?_⟩
  · rw [h.current]
    constructor
    · rintro ⟨i, hi, hcode⟩
      exact ⟨i, Nat.lt_succ_of_lt hi, hcode⟩
    · rintro ⟨i, hi, hcode⟩
      obtain hi | rfl := Nat.lt_succ_iff_lt_or_eq.mp hi
      · exact ⟨i, hi, hcode⟩
      · exact ⟨j, hj, hlogit.trans hcode⟩
  · obtain hi | rfl := Nat.lt_succ_iff_lt_or_eq.mp hi
    · exact h.values i hi
    · rw [← hlogit]
      exact h.values j hj

lemma advance_cases (hcount : 0 < call.elementCount) (hinUse : cache.inUse = true)
    (h : PhaseInvariant d cache call.logits call.elementCount call.phase) :
    Advanced d call (advanceCall d cache call) := by
  obtain ⟨logits, elementCount, phase⟩ := call
  dsimp only at hcount h
  cases phase with
  | scan index scan =>
    obtain ⟨hpos, hle, hscan, hbounded⟩ := h
    rw [advanceCall]
    dsimp only
    split_ifs with hindex hfinite
    · refine .inl ⟨_, _, rfl, hinUse, ⟨Nat.succ_pos _, hindex, ?_, hbounded⟩, ?_⟩
      · rw [hscan, scanMaximum_succ hpos]
      · simp only [CallPhase.remaining]
        omega
    · have hend : index = elementCount := by omega
      subst hend
      refine .inr ⟨{ cache with inUse := false }, ?_, rfl, hbounded⟩
      rw [scalar_failed hcount (hscan ▸ hfinite)]
    · have hend : index = elementCount := by omega
      subst hend
      refine .inl ⟨_, _, rfl, hinUse, ⟨hscan, Bool.not_eq_false _ |>.mp hfinite, hbounded⟩, ?_⟩
      simp only [CallPhase.remaining]
      omega
  | generation scan =>
    obtain ⟨hscan, hfinite, hbounded⟩ := h
    refine .inl ⟨_, _, rfl, ?_, ⟨Nat.zero_le _, ⟨hscan, hfinite, rfl⟩,
      nextGeneration_stored hbounded _ _⟩, ?_⟩
    · unfold nextGeneration
      split_ifs <;> exact hinUse
    · simp only [CallPhase.remaining]
      omega
  | lookup index scan sum =>
    obtain ⟨hle, hsumming, hstored⟩ := h
    rw [advanceCall]
    dsimp only
    split_ifs with hindex hmiss
    · obtain ⟨hbounded, hcurrent, hvalues⟩ := hstored.miss hmiss
      refine .inl ⟨_, _, rfl, hinUse, ⟨hindex, hsumming, hbounded, hcurrent, hvalues⟩, ?_⟩
      simp only [CallPhase.remaining]
      omega
    · refine .inl ⟨_, _, rfl, hinUse, ⟨hindex, hsumming, hstored.hit (not_not.mp hmiss)⟩, ?_⟩
      simp only [CallPhase.remaining]
      omega
    · have hend : index = elementCount := by omega
      subst hend
      refine .inr ⟨{ cache with inUse := false }, ?_, rfl, hstored.bounded⟩
      rw [scalar_finished hcount hsumming]
  | store index scan sum =>
    obtain ⟨hindex, hsumming, hbounded, hcurrent, hvalues⟩ := h
    refine .inl ⟨_, _, rfl, hinUse, ⟨hindex, hsumming, hbounded, hcurrent, fun i hi => ?_⟩, ?_⟩
    · dsimp only
      obtain hi | rfl := Nat.lt_succ_iff_lt_or_eq.mp hi
      · rw [Function.update_of_ne (hvalues i hi).1, (hvalues i hi).2]
      · rw [Function.update_self]
    · simp only [CallPhase.remaining]
      omega
  | accumulate index scan sum =>
    obtain ⟨hindex, hsumming, hstored⟩ := h
    refine .inl ⟨_, _, rfl, hinUse, ⟨hindex, ⟨hsumming.scanned, hsumming.finite, ?_⟩, hstored⟩, ?_⟩
    · rw [hsumming.summed, hstored.values index (Nat.lt_succ_self index), exponentialSum_succ]
    · simp only [CallPhase.remaining]
      omega

end Invariant

section Runs

variable {D : Type} {d : DoubleArithmetic D} {thread : AnalysisThread D}

def ReturnedCall.Exact (d : DoubleArithmetic D) (returned : ReturnedCall D) : Prop :=
  returned.analysis = analyzeBf16LogitsBitsScalar d returned.logits returned.elementCount

lemma beginCall_invariant (h : ThreadInvariant d thread) (logits : Option (ℕ → Bf16))
    (elementCount : ℕ) :
    ThreadInvariant d (beginCall d thread logits elementCount).1 ∧
      ∀ returned ∈ (beginCall d thread logits elementCount).2, returned.Exact d := by
  cases logits with
  | none => exact ⟨h, by simp [beginCall, ReturnedCall.Exact, analyzeBf16LogitsBitsScalar]⟩
  | some words =>
    rw [beginCall]
    dsimp only
    split_ifs with hcount hinUse
    · exact ⟨h, by simp [ReturnedCall.Exact, analyzeBf16LogitsBitsScalar, hcount]⟩
    · exact ⟨h, by simp [ReturnedCall.Exact]⟩
    · have hidle : thread.active = none := by
        rw [h.inUse, Bool.not_eq_true, Option.isSome_eq_false_iff, Option.isNone_iff_eq_none]
          at hinUse
        exact hinUse
      refine ⟨⟨rfl, fun hactive => absurd hactive (Option.some_ne_none _), fun call hcall => ?_⟩,
        fun _ hreturned => absurd hreturned List.not_mem_nil⟩
      cases hcall
      exact ⟨Nat.pos_of_ne_zero hcount, Nat.one_pos, Nat.pos_of_ne_zero hcount, rfl,
        h.bounded hidle⟩

lemma analysisStep_invariant (h : ThreadInvariant d thread) (event : AnalysisEvent) :
    ThreadInvariant d (analysisStep d thread event).1 ∧
      ∀ returned ∈ (analysisStep d thread event).2, returned.Exact d := by
  cases event with
  | call logits elementCount => exact beginCall_invariant h logits elementCount
  | advance =>
    rw [analysisStep]
    cases hactive : thread.active with
    | none => exact ⟨h, fun _ hreturned => absurd hreturned List.not_mem_nil⟩
    | some call =>
      obtain ⟨hcount, hphase⟩ := h.phase call hactive
      have hinUse : thread.cache.inUse = true := by rw [h.inUse, hactive]; rfl
      obtain ⟨cache, phase, hstep, hinUse', hphase', -⟩ | ⟨cache, hstep, hinUse', hbounded⟩ :=
        advance_cases hcount hinUse hphase
      · dsimp only
        rw [hstep]
        refine ⟨⟨hinUse', fun hidle => absurd hidle (Option.some_ne_none _), fun call' hcall => ?_⟩,
          fun _ hreturned => absurd hreturned List.not_mem_nil⟩
        cases hcall
        exact ⟨hcount, hphase'⟩
      · dsimp only
        rw [hstep]
        refine ⟨⟨hinUse', fun _ => hbounded, fun call' hcall => absurd hcall.symm
          (Option.some_ne_none _)⟩, fun returned hreturned => ?_⟩
        rw [List.mem_singleton.mp hreturned]
        rfl

lemma analysisRun_invariant (h : ThreadInvariant d thread) (events : List AnalysisEvent) :
    ThreadInvariant d (analysisRun d thread events).1 ∧
      ∀ returned ∈ (analysisRun d thread events).2, returned.Exact d := by
  induction events generalizing thread with
  | nil => exact ⟨h, fun _ hreturned => absurd hreturned List.not_mem_nil⟩
  | cons event events ih =>
    obtain ⟨hstep, hreturned⟩ := analysisStep_invariant h event
    obtain ⟨hrun, hlater⟩ := ih hstep
    refine ⟨hrun, fun returned hmem => ?_⟩
    obtain hmem | hmem := List.mem_append.mp hmem
    · exact hreturned returned hmem
    · exact hlater returned hmem

-- A call made while the cache is held returns at once and leaves the thread as it is.
lemma beginCall_nested (h : ThreadInvariant d thread) (hactive : thread.active.isSome = true)
    (logits : Option (ℕ → Bf16)) (elementCount : ℕ) :
    beginCall d thread logits elementCount =
      (thread, [⟨logits, elementCount, analyzeBf16LogitsBitsScalar d logits elementCount⟩]) := by
  cases logits with
  | none => rfl
  | some words =>
    rw [beginCall]
    dsimp only
    split_ifs with hcount hinUse
    · rw [analyzeBf16LogitsBitsScalar]
      dsimp only
      rw [if_pos hcount]
    · rfl
    · exact absurd (h.inUse.trans hactive) hinUse

lemma active_returns (h : ThreadInvariant d thread) {call : ActiveCall D}
    (hactive : thread.active = some call) :
    ∃ steps cache, analysisRun d thread (List.replicate steps .advance) =
      (⟨cache, none⟩, [⟨some call.logits, call.elementCount,
        analyzeBf16LogitsBitsScalar d (some call.logits) call.elementCount⟩]) := by
  induction hremaining : call.phase.remaining call.elementCount using Nat.strong_induction_on
    generalizing thread call with
  | _ remaining ih =>
    obtain ⟨hcount, hphase⟩ := h.phase call hactive
    have hinUse : thread.cache.inUse = true := by rw [h.inUse, hactive]; rfl
    have hadvance : analysisStep d thread .advance = advanceCall d thread.cache call := by
      rw [analysisStep, hactive]
    have hinvariant := (analysisStep_invariant h .advance).1
    rw [hadvance] at hinvariant
    obtain ⟨cache, phase, hstep, -, -, hless⟩ | ⟨cache, hstep, -, -⟩ :=
      advance_cases hcount hinUse hphase
    · rw [hstep] at hinvariant hadvance
      obtain ⟨steps, cache', hrun⟩ := ih _ (hremaining ▸ hless) hinvariant rfl rfl
      refine ⟨steps + 1, cache', ?_⟩
      rw [List.replicate_succ, analysisRun, hadvance]
      dsimp only
      rw [hrun]
      rfl
    · refine ⟨1, cache, ?_⟩
      rw [List.replicate_one, analysisRun, hadvance, hstep]
      rfl

theorem memoised_analysis_exact (d : DoubleArithmetic D) (events : List AnalysisEvent) :
    let thread := (analysisRun d (.zeroed d) events).1
    (∀ returned ∈ (analysisRun d (.zeroed d) events).2,
      returned.analysis = analyzeBf16LogitsBitsScalar d returned.logits returned.elementCount ∧
      returned.analysis.status =
        (analyzeBf16ArgmaxBits d returned.logits returned.elementCount).status ∧
      returned.analysis.predictedIndex =
        (analyzeBf16ArgmaxBits d returned.logits returned.elementCount).predictedIndex) ∧
    (∀ call index scan sum, thread.active = some call → call.phase = .lookup index scan sum →
      ∀ code, thread.cache.seenStamps code = thread.cache.generation →
        ∃ i < index, call.logits i = code) ∧
    (∀ call, thread.active = some call →
      (∃ steps cache, analysisRun d thread (List.replicate steps .advance) =
        (⟨cache, none⟩, [⟨some call.logits, call.elementCount,
          analyzeBf16LogitsBitsScalar d (some call.logits) call.elementCount⟩])) ∧
      ∀ logits elementCount, analysisStep d thread (.call logits elementCount) =
        (thread, [⟨logits, elementCount, analyzeBf16LogitsBitsScalar d logits elementCount⟩])) ∧
    (thread.active = none → ∀ logits elementCount, 0 < elementCount →
      (analysisStep d thread (.call (some logits) elementCount)).1.active =
        some ⟨logits, elementCount, .scan 1 (scanStart logits)⟩) := by
  intro thread
  obtain ⟨hinvariant, hexact⟩ := analysisRun_invariant (zeroed_invariant d) events
  refine ⟨fun returned hmem => ?_, fun call index scan sum hactive hphase code hstamp => ?_,
    fun call hactive => ⟨active_returns hinvariant hactive, fun logits elementCount => ?_⟩,
    fun hidle logits elementCount hcount => ?_⟩
  · have hscalar : returned.analysis =
        analyzeBf16LogitsBitsScalar d returned.logits returned.elementCount := hexact returned hmem
    obtain ⟨hstatus, hindex⟩ := argmax_agrees d returned.logits returned.elementCount
    exact ⟨hscalar, hscalar ▸ hstatus.symm, hscalar ▸ hindex.symm⟩
  · obtain ⟨-, hlookup⟩ := hinvariant.phase call hactive
    rw [hphase] at hlookup
    exact (hlookup.2.2.current code).mp hstamp
  · exact beginCall_nested hinvariant (by rw [hactive]; rfl) logits elementCount
  · have hinUse : thread.cache.inUse = false := by
      rw [show thread.cache.inUse = thread.active.isSome from hinvariant.inUse, hidle]
      rfl
    rw [analysisStep, beginCall]
    dsimp only
    rw [if_neg (Nat.ne_of_gt hcount), if_neg (by rw [hinUse]; exact Bool.noConfusion)]

end Runs

end Qwen3xOrin.Runner
