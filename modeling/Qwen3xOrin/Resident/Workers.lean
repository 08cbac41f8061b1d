import Qwen3xOrin.Library.ScheduledRun
import Qwen3xOrin.Resident.Load

/-! The pool of shard workers: each claims the next shard index, loads that shard and goes on, or
returns at the end of the shards or at its first failure. The outcomes are read once all have
joined. -/

namespace Qwen3xOrin.Resident

open Library Io

structure ShardLoadOutcome where
  stats : ShardLoadStats := {}
  diagnostic : ResidentLoadDiagnostic := {}
  attempted : Bool := false
  deriving DecidableEq, Repr

def ShardLoadOutcome.ok (outcome : ShardLoadOutcome) : Bool :=
  outcome.attempted && decide (outcome.diagnostic.code = .none)

inductive WorkerException
  | badAlloc
  | lengthError
  | standard (what : String)
  | unknown
  deriving DecidableEq, Repr

def workerExceptionDiagnostic (exception : WorkerException) (shard : String) (index : ℕ) :
    ResidentLoadDiagnostic where
  code := .allocationFailure
  message := match exception with
    | .badAlloc => "allocation failed in resident loader worker"
    | .lengthError => "container size exceeded in resident loader worker"
    | .standard _ => "unexpected exception in resident loader worker"
    | .unknown => "unknown exception in resident loader worker"
  context := "worker"
  shard := shard
  offset := index
  actual := match exception with
    | .standard what => what
    | _ => ""

inductive WorkerState
  | claiming
  | loading (shard : ℕ)
  | returned
  deriving DecidableEq, Repr

-- `started` records the calls of `load_one_shard` in their order.
structure PoolState where
  nextShard : ℕ := 0
  workers : ℕ → WorkerState
  shardOutcomes : ℕ → ShardLoadOutcome := fun _ => {}
  shardExceptions : ℕ → Option WorkerException := fun _ => none
  started : List ℕ := []

inductive LoadResult
  | returns (stats : ShardLoadStats) (diagnostic : ResidentLoadDiagnostic)
  | throws (exception : WorkerException)

inductive PoolEvent
  | claim (worker : ℕ)
  | finish (worker : ℕ) (result : LoadResult)

def startPool (workerCount : ℕ) : PoolState where
  workers worker := if worker < workerCount then .claiming else .returned

def finishShard (s : PoolState) (worker shard : ℕ) : LoadResult → PoolState
  | .throws exception =>
    { s with
      shardExceptions := Function.update s.shardExceptions shard (some exception)
      workers := Function.update s.workers worker .returned }
  | .returns stats diagnostic =>
    let outcome : ShardLoadOutcome :=
      { stats := stats, diagnostic := diagnostic, attempted := true }
    { s with
      shardOutcomes := Function.update s.shardOutcomes shard outcome
      workers := Function.update s.workers worker
        (if outcome.ok then .claiming else .returned) }

def poolStep (shardCount : ℕ) (s : PoolState) : PoolEvent → Option PoolState
  | .claim worker =>
    match s.workers worker with
    | .claiming =>
      if shardCount ≤ s.nextShard then
        some { s with
          nextShard := s.nextShard + 1
          workers := Function.update s.workers worker .returned }
      else
        some { s with
          nextShard := s.nextShard + 1
          workers := Function.update s.workers worker (.loading s.nextShard)
          started := s.started ++ [s.nextShard] }
    | _ => none
  | .finish worker result =>
    match s.workers worker with
    | .loading shard => some (finishShard s worker shard result)
    | _ => none

def Joined (workerCount : ℕ) (s : PoolState) : Prop := ∀ worker < workerCount,
  s.workers worker = .returned

inductive ShardReport
  | threw (exception : WorkerException)
  | unprocessed
  | failed (diagnostic : ResidentLoadDiagnostic)
  deriving DecidableEq, Repr

def shardReport (s : PoolState) (shard : ℕ) : Option ShardReport :=
  match s.shardExceptions shard with
  | some exception => some (.threw exception)
  | none =>
    if (s.shardOutcomes shard).attempted = false then some .unprocessed
    else if (s.shardOutcomes shard).ok = false then
      some (.failed (s.shardOutcomes shard).diagnostic)
    else none

def ShardReport.diagnostic (shard : String) (index : ℕ) : ShardReport → ResidentLoadDiagnostic
  | .threw exception => workerExceptionDiagnostic exception shard index
  | .unprocessed =>
    { code := .allocationFailure
      message := "resident loader worker did not process assigned shard"
      context := "worker"
      shard := shard
      offset := index }
  | .failed diagnostic => diagnostic

-- The first shard that is not loaded, in the order of the shards.
def firstReport (shardCount : ℕ) (s : PoolState) : Option (ℕ × ShardReport) :=
  (List.range shardCount).findSome? fun shard => (shardReport s shard).map fun r => (shard, r)

def joinedResult (plan : ResidentLoadPlan) (planned : ℕ) (s : PoolState) :
    Except ResidentLoadDiagnostic ShardLoadStats :=
  match firstReport plan.shards.length s with
  | some (shard, report) =>
    .error (report.diagnostic ((plan.shards[shard]?.map fun planned =>
      planned.identity.filename).getD "") shard)
  | none =>
    finishStatistics plan planned
      ((List.range plan.shards.length).map fun shard => (s.shardOutcomes shard).stats)

def PoolState.Settled (s : PoolState) (shard : ℕ) : Prop :=
  s.shardExceptions shard ≠ none ∨ (s.shardOutcomes shard).attempted = true

def PoolState.Failed (s : PoolState) (shard : ℕ) : Prop :=
  s.shardExceptions shard ≠ none ∨
    ((s.shardOutcomes shard).attempted = true ∧ (s.shardOutcomes shard).ok = false)

instance (s : PoolState) (shard : ℕ) : Decidable (s.Failed shard) :=
  inferInstanceAs (Decidable (_ ∨ _))

lemma PoolState.Failed.settled {s : PoolState} {shard : ℕ} (h : s.Failed shard) :
    s.Settled shard :=
  h.imp_right fun hfailed => hfailed.1

structure PoolInvariant (shardCount workerCount : ℕ) (s : PoolState) : Prop where
  started : s.started = List.range (min s.nextShard shardCount)
  idle : ∀ worker, workerCount ≤ worker → s.workers worker = .returned
  loading : ∀ worker shard, s.workers worker = .loading shard →
    shard < min s.nextShard shardCount ∧ ¬ s.Settled shard
  owner : ∀ worker worker' shard, s.workers worker = .loading shard →
    s.workers worker' = .loading shard → worker = worker'
  settled : ∀ shard, s.Settled shard → shard < min s.nextShard shardCount
  pending : ∀ shard < min s.nextShard shardCount, ¬ s.Settled shard →
    ∃ worker, s.workers worker = .loading shard
  stopped : ∀ worker < workerCount, s.workers worker = .returned →
    shardCount ≤ s.nextShard ∨ ∃ shard, s.Failed shard

lemma startPool_invariant (shardCount workerCount : ℕ) :
    PoolInvariant shardCount workerCount (startPool workerCount) where
  started := by simp [startPool]
  idle worker h := if_neg (not_lt.mpr h)
  loading worker shard h := by
    simp only [startPool] at h
    split_ifs at h
  owner worker worker' shard h := by
    simp only [startPool] at h
    split_ifs at h
  settled shard h := by simp [startPool, PoolState.Settled] at h
  pending shard h := by simp [startPool] at h
  stopped worker hworker h := by
    simp only [startPool] at h
    rw [if_pos hworker] at h
    cases h

section Step

variable {shardCount workerCount : ℕ} {s s' : PoolState}

-- What one event does: the counter runs out, a shard is claimed, or a claimed shard settles.
lemma poolStep_cases {event : PoolEvent} (h : poolStep shardCount s event = some s') :
    (∃ worker, s.workers worker = .claiming ∧ shardCount ≤ s.nextShard ∧
      s' = { s with
        nextShard := s.nextShard + 1
        workers := Function.update s.workers worker .returned }) ∨
    (∃ worker, s.workers worker = .claiming ∧ s.nextShard < shardCount ∧
      s' = { s with
        nextShard := s.nextShard + 1
        workers := Function.update s.workers worker (.loading s.nextShard)
        started := s.started ++ [s.nextShard] }) ∨
    ∃ worker shard result, s.workers worker = .loading shard ∧
      s' = finishShard s worker shard result := by
  cases event with
  | claim worker =>
    simp only [poolStep] at h
    split at h
    · next hworker =>
      split_ifs at h with hend
      · exact Or.inl ⟨worker, hworker, hend, (Option.some.inj h).symm⟩
      · exact Or.inr (Or.inl ⟨worker, hworker, not_le.mp hend, (Option.some.inj h).symm⟩)
    · cases h
  | finish worker result =>
    simp only [poolStep] at h
    split at h
    · next shard hworker =>
      exact Or.inr (Or.inr ⟨worker, shard, result, hworker, (Option.some.inj h).symm⟩)
    · cases h

lemma finishShard_settled (s : PoolState) (worker shard : ℕ) (result : LoadResult) (j : ℕ) :
    (finishShard s worker shard result).Settled j ↔ j = shard ∨ s.Settled j := by
  unfold PoolState.Settled
  cases result <;> by_cases h : j = shard <;> simp [finishShard, h]

lemma finishShard_failed {s : PoolState} {j : ℕ} (worker : ℕ) {shard : ℕ} (h : j ≠ shard)
    (result : LoadResult) : (finishShard s worker shard result).Failed j ↔ s.Failed j := by
  unfold PoolState.Failed
  cases result <;> simp [finishShard, h]

lemma finishShard_worker (s : PoolState) (worker shard : ℕ) (result : LoadResult) :
    ∃ next, (finishShard s worker shard result).workers = Function.update s.workers worker next ∧
      (next = .claiming ∨
        next = .returned ∧ (finishShard s worker shard result).Failed shard) := by
  cases result with
  | throws exception =>
    exact ⟨_, rfl, Or.inr ⟨rfl, Or.inl (by simp [finishShard])⟩⟩
  | returns stats diagnostic =>
    refine ⟨_, rfl, ?_⟩
    split_ifs with hok
    · exact Or.inl rfl
    · exact Or.inr ⟨rfl, Or.inr (by simpa [finishShard] using hok)⟩

lemma finishShard_counters (s : PoolState) (worker shard : ℕ) (result : LoadResult) :
    (finishShard s worker shard result).nextShard = s.nextShard ∧
      (finishShard s worker shard result).started = s.started := by
  cases result <;> exact ⟨rfl, rfl⟩

lemma PoolInvariant.exhausted (h : PoolInvariant shardCount workerCount s) {worker : ℕ}
    (hworker : s.workers worker = .claiming) (hend : shardCount ≤ s.nextShard) :
    PoolInvariant shardCount workerCount { s with
      nextShard := s.nextShard + 1
      workers := Function.update s.workers worker .returned } := by
  have hmin : min (s.nextShard + 1) shardCount = min s.nextShard shardCount := by omega
  have hother : ∀ w shard, Function.update s.workers worker .returned w = .loading shard →
      s.workers w = .loading shard := by
    intro w shard hw
    by_cases heq : w = worker
    · subst heq
      simp at hw
    · simpa [heq] using hw
  constructor <;> dsimp only
  · rw [hmin, h.started]
  · intro w hw
    by_cases heq : w = worker
    · simp [heq]
    · simpa [heq] using h.idle w hw
  · intro w shard hw
    rw [hmin]
    exact h.loading w shard (hother w shard hw)
  · intro w w' shard hw hw'
    exact h.owner w w' shard (hother w shard hw) (hother w' shard hw')
  · intro shard hsettled
    rw [hmin]
    exact h.settled shard hsettled
  · intro shard hshard hpending
    rw [hmin] at hshard
    obtain ⟨w, hw⟩ := h.pending shard hshard hpending
    refine ⟨w, ?_⟩
    rw [Function.update_of_ne, hw]
    rintro rfl
    rw [hworker] at hw
    cases hw
  · intro w _ _
    exact Or.inl (by omega)

lemma PoolInvariant.claimed (h : PoolInvariant shardCount workerCount s) {worker : ℕ}
    (hworker : s.workers worker = .claiming) (hless : s.nextShard < shardCount) :
    PoolInvariant shardCount workerCount { s with
      nextShard := s.nextShard + 1
      workers := Function.update s.workers worker (.loading s.nextShard)
      started := s.started ++ [s.nextShard] } := by
  have hmin : min s.nextShard shardCount = s.nextShard := by omega
  have hmin' : min (s.nextShard + 1) shardCount = s.nextShard + 1 := by omega
  have hloading := h.loading
  have hsettled := h.settled
  have hpending := h.pending
  rw [hmin] at hloading hsettled hpending
  have hcases : ∀ w shard,
      Function.update s.workers worker (.loading s.nextShard) w = .loading shard →
      (w = worker ∧ shard = s.nextShard) ∨ (s.workers w = .loading shard ∧ shard < s.nextShard) := by
    intro w shard hw
    by_cases heq : w = worker
    · subst heq
      simp only [Function.update_self, WorkerState.loading.injEq] at hw
      exact Or.inl ⟨rfl, hw.symm⟩
    · rw [Function.update_of_ne heq] at hw
      exact Or.inr ⟨hw, (hloading w shard hw).1⟩
  constructor <;> dsimp only
  · rw [hmin', h.started, hmin, List.range_succ]
  · intro w hw
    rw [Function.update_of_ne, h.idle w hw]
    rintro rfl
    rw [h.idle w hw] at hworker
    cases hworker
  · intro w shard hw
    rw [hmin']
    obtain ⟨-, rfl⟩ | ⟨hw, hlt⟩ := hcases w shard hw
    · exact ⟨Nat.lt_succ_self _, fun hs => lt_irrefl _ (hsettled _ hs)⟩
    · exact ⟨hlt.trans (Nat.lt_succ_self _), (hloading w shard hw).2⟩
  · intro w w' shard hw hw'
    rcases hcases w shard hw with ⟨hw, heq⟩ | ⟨hw, hlt⟩ <;>
      rcases hcases w' shard hw' with ⟨hw', heq'⟩ | ⟨hw', hlt'⟩
    · rw [hw, hw']
    · omega
    · omega
    · exact h.owner w w' shard hw hw'
  · intro shard hs
    rw [hmin']
    exact (hsettled shard hs).trans (Nat.lt_succ_self _)
  · intro shard hshard hs
    rw [hmin'] at hshard
    by_cases heq : shard = s.nextShard
    · exact ⟨worker, by simp [heq]⟩
    · obtain ⟨w, hw⟩ := hpending shard (by omega) hs
      refine ⟨w, ?_⟩
      rw [Function.update_of_ne, hw]
      rintro rfl
      rw [hworker] at hw
      cases hw
  · intro w hcount hw
    by_cases heq : w = worker
    · subst heq
      simp at hw
    · rw [Function.update_of_ne heq] at hw
      obtain hend | hfailed := h.stopped w hcount hw
      · omega
      · exact Or.inr hfailed

lemma PoolInvariant.finished (h : PoolInvariant shardCount workerCount s) {worker shard : ℕ}
    (hworker : s.workers worker = .loading shard) (result : LoadResult) :
    PoolInvariant shardCount workerCount (finishShard s worker shard result) := by
  obtain ⟨hnext, hstarted⟩ := finishShard_counters s worker shard result
  obtain ⟨next, hworkers, hstate⟩ := finishShard_worker s worker shard result
  have hshard := h.loading worker shard hworker
  have hother : ∀ w j, (finishShard s worker shard result).workers w = .loading j →
      w ≠ worker ∧ s.workers w = .loading j := by
    intro w j hw
    rw [hworkers] at hw
    by_cases heq : w = worker
    · subst heq
      rw [Function.update_self] at hw
      subst hw
      rcases hstate with hstate | hstate
      · cases hstate
      · cases hstate.1
    · rw [Function.update_of_ne heq] at hw
      exact ⟨heq, hw⟩
  have hfailed : ∀ j, s.Failed j → (finishShard s worker shard result).Failed j := by
    intro j hj
    refine (finishShard_failed worker ?_ result).mpr hj
    rintro rfl
    exact hshard.2 hj.settled
  constructor
  · rw [hstarted, hnext, h.started]
  · intro w hw
    rw [hworkers, Function.update_of_ne, h.idle w hw]
    rintro rfl
    rw [h.idle w hw] at hworker
    cases hworker
  · intro w j hw
    obtain ⟨hne, hold⟩ := hother w j hw
    rw [hnext, finishShard_settled]
    refine ⟨(h.loading w j hold).1, ?_⟩
    rintro (rfl | hs)
    · exact hne (h.owner w worker j hold hworker)
    · exact (h.loading w j hold).2 hs
  · intro w w' j hw hw'
    exact h.owner w w' j (hother w j hw).2 (hother w' j hw').2
  · intro j hj
    rw [hnext]
    obtain rfl | hj := (finishShard_settled ..).mp hj
    · exact hshard.1
    · exact h.settled j hj
  · intro j hj hs
    rw [hnext] at hj
    rw [finishShard_settled, not_or] at hs
    obtain ⟨w, hw⟩ := h.pending j hj hs.2
    refine ⟨w, ?_⟩
    rw [hworkers, Function.update_of_ne, hw]
    rintro rfl
    rw [hworker, WorkerState.loading.injEq] at hw
    exact hs.1 hw.symm
  · intro w hcount hw
    rw [hnext]
    by_cases heq : w = worker
    · subst heq
      rw [hworkers, Function.update_self] at hw
      subst hw
      rcases hstate with hstate | hstate
      · cases hstate
      · exact Or.inr ⟨shard, hstate.2⟩
    · rw [hworkers, Function.update_of_ne heq] at hw
      obtain hend | ⟨j, hj⟩ := h.stopped w hcount hw
      · exact Or.inl hend
      · exact Or.inr ⟨j, hfailed j hj⟩

lemma poolStep_invariant {event : PoolEvent} (h : PoolInvariant shardCount workerCount s)
    (hstep : poolStep shardCount s event = some s') : PoolInvariant shardCount workerCount s' := by
  obtain ⟨worker, hworker, hend, rfl⟩ | ⟨worker, hworker, hless, rfl⟩ |
    ⟨worker, shard, result, hworker, rfl⟩ := poolStep_cases hstep
  · exact h.exhausted hworker hend
  · exact h.claimed hworker hless
  · exact h.finished hworker result

end Step

lemma pool_invariant (shardCount workerCount : ℕ) (events : List PoolEvent) :
    PoolInvariant shardCount workerCount
      (run (poolStep shardCount) (startPool workerCount) events) :=
  run_invariant (fun _ _ _ h hstep => poolStep_invariant h hstep)
    (startPool_invariant shardCount workerCount) events

section Report

variable {shardCount workerCount : ℕ} {s : PoolState} {shard : ℕ}

lemma shardReport_none : shardReport s shard = none ↔
    s.shardExceptions shard = none ∧ (s.shardOutcomes shard).ok = true := by
  unfold shardReport
  cases s.shardExceptions shard with
  | some exception => simp
  | none =>
    have hok : (s.shardOutcomes shard).ok = true → (s.shardOutcomes shard).attempted = true := by
      unfold ShardLoadOutcome.ok
      intro h
      exact (Bool.and_eq_true_iff.mp h).1
    cases ha : (s.shardOutcomes shard).attempted <;> cases hb : (s.shardOutcomes shard).ok <;>
      simp_all

lemma shardReport_unprocessed :
    shardReport s shard = some .unprocessed ↔ ¬ s.Settled shard := by
  unfold shardReport PoolState.Settled
  cases s.shardExceptions shard with
  | some exception => simp
  | none => cases (s.shardOutcomes shard).attempted <;> cases (s.shardOutcomes shard).ok <;> simp

lemma shardReport_failed (h : s.Failed shard) :
    (∃ exception, s.shardExceptions shard = some exception ∧
      shardReport s shard = some (.threw exception)) ∨
    (s.shardExceptions shard = none ∧
      shardReport s shard = some (.failed (s.shardOutcomes shard).diagnostic)) := by
  unfold PoolState.Failed at h
  unfold shardReport
  cases hexception : s.shardExceptions shard with
  | some exception => exact Or.inl ⟨exception, rfl, rfl⟩
  | none =>
    obtain ⟨hattempted, hok⟩ := h.resolve_left (by simp [hexception])
    exact Or.inr ⟨rfl, by simp [hattempted, hok]⟩

lemma shardReport_loaded (hsettled : s.Settled shard) (hfailed : ¬ s.Failed shard) :
    shardReport s shard = none := by
  rw [shardReport_none]
  unfold PoolState.Settled at hsettled
  unfold PoolState.Failed at hfailed
  push Not at hfailed
  refine ⟨hfailed.1, ?_⟩
  have hattempted := hsettled.resolve_left fun h => h hfailed.1
  simpa using hfailed.2 hattempted

lemma firstReport_none : firstReport shardCount s = none ↔
    ∀ shard < shardCount, shardReport s shard = none := by
  unfold firstReport
  rw [List.findSome?_eq_none_iff]
  simp

lemma firstReport_some {report : ShardReport} : firstReport shardCount s = some (shard, report) ↔
    shard < shardCount ∧ shardReport s shard = some report ∧
      ∀ j < shard, shardReport s j = none := by
  induction shardCount with
  | zero => simp [firstReport]
  | succ n ih =>
    have hsucc : firstReport (n + 1) s =
        (firstReport n s).or ((shardReport s n).map fun r => (n, r)) := by
      simp [firstReport, List.range_succ, List.findSome?_append, List.findSome?_cons]
      cases shardReport s n <;> rfl
    rw [hsucc]
    cases hfirst : firstReport n s with
    | some found =>
      rw [hfirst] at ih
      rw [Option.some_or, ih]
      constructor
      · rintro ⟨hlt, h⟩
        exact ⟨by omega, h⟩
      · rintro ⟨hlt, h⟩
        refine ⟨?_, h⟩
        by_contra hge
        obtain rfl : shard = n := by omega
        rw [firstReport_none.2 h.2] at hfirst
        cases hfirst
    | none =>
      have hnone := firstReport_none.1 hfirst
      rw [Option.none_or, Option.map_eq_some_iff]
      constructor
      · rintro ⟨r, hr, heq⟩
        obtain ⟨rfl, rfl⟩ := Prod.mk.inj heq
        exact ⟨Nat.lt_succ_self _, hr, hnone⟩
      · rintro ⟨hlt, hr, -⟩
        have heq : shard = n := by
          by_contra hne
          rw [hnone shard (by omega)] at hr
          cases hr
        exact ⟨report, heq ▸ hr, by rw [heq]⟩

-- Once the workers have joined, every shard that was started is settled.
lemma PoolInvariant.joined_settled (h : PoolInvariant shardCount workerCount s)
    (hjoined : Joined workerCount s) (hstarted : shard < min s.nextShard shardCount) :
    s.Settled shard := by
  by_contra hpending
  obtain ⟨worker, hworker⟩ := h.pending shard hstarted hpending
  by_cases hcount : worker < workerCount
  · rw [hjoined worker hcount] at hworker
    cases hworker
  · rw [h.idle worker (not_lt.mp hcount)] at hworker
    cases hworker

-- Failed shards were claimed, so nothing below the lowest of them is left out.
lemma PoolInvariant.lowest_failure (h : PoolInvariant shardCount workerCount s)
    (hjoined : Joined workerCount s) (hfailed : s.Failed shard)
    (hlowest : ∀ j < shard, ¬ s.Failed j) :
    ∃ report, shardReport s shard = some report ∧
      firstReport shardCount s = some (shard, report) := by
  have hclaimed := h.settled shard hfailed.settled
  obtain ⟨report, hreport⟩ : ∃ report, shardReport s shard = some report := by
    rcases shardReport_failed hfailed with ⟨exception, -, hr⟩ | ⟨-, hr⟩
    · exact ⟨_, hr⟩
    · exact ⟨_, hr⟩
  refine ⟨report, hreport, firstReport_some.2 ⟨by omega, hreport, ?_⟩⟩
  intro j hj
  exact shardReport_loaded (h.joined_settled hjoined (by omega)) (hlowest j hj)

lemma PoolInvariant.never_unprocessed (h : PoolInvariant shardCount workerCount s)
    (hjoined : Joined workerCount s) (hworkers : shardCount ≠ 0 → 0 < workerCount) :
    firstReport shardCount s ≠ some (shard, .unprocessed) := by
  intro hfirst
  obtain ⟨hlt, hreport, hbelow⟩ := firstReport_some.1 hfirst
  have hpending := shardReport_unprocessed.1 hreport
  have hunclaimed : ¬ shard < min s.nextShard shardCount := fun hclaimed =>
    hpending (h.joined_settled hjoined hclaimed)
  have hcount := hworkers (by omega)
  obtain hend | ⟨j, hj⟩ := h.stopped 0 hcount (hjoined 0 hcount)
  · omega
  · have hclaimed := h.settled j hj.settled
    have hnone := hbelow j (by omega)
    rcases shardReport_failed hj with ⟨exception, -, hr⟩ | ⟨-, hr⟩ <;> rw [hnone] at hr <;> cases hr

end Report

-- Any interleaving of any number of workers, with any results of the shard loads.
theorem pool_fail_closed (plan : ResidentLoadPlan) (planned maxParallelShards : ℕ)
    (hparallel : 0 < maxParallelShards) (events : List PoolEvent) (s : PoolState)
    (hrun : s = run (poolStep plan.shards.length)
      (startPool (min maxParallelShards plan.shards.length)) events)
    (hjoined : Joined (min maxParallelShards plan.shards.length) s) :
    (∀ stats, joinedResult plan planned s = .ok stats →
      ∀ shard < plan.shards.length, s.started.count shard = 1 ∧
        s.shardExceptions shard = none ∧ (s.shardOutcomes shard).ok = true) ∧
    (∀ shard, s.Failed shard → (∀ j < shard, ¬ s.Failed j) →
      ∃ planned', plan.shards[shard]? = some planned' ∧
      ((∃ exception, s.shardExceptions shard = some exception ∧
        joinedResult plan planned s = .error
          (workerExceptionDiagnostic exception planned'.identity.filename shard)) ∨
      (s.shardExceptions shard = none ∧
        joinedResult plan planned s = .error (s.shardOutcomes shard).diagnostic))) ∧
    ∀ shard, firstReport plan.shards.length s ≠ some (shard, .unprocessed) := by
  have h := pool_invariant plan.shards.length (min maxParallelShards plan.shards.length) events
  rw [← hrun] at h
  refine ⟨?_, ?_, fun shard => h.never_unprocessed hjoined (by omega)⟩
  · intro stats hok shard hshard
    unfold joinedResult at hok
    cases hfirst : firstReport plan.shards.length s with
    | some found =>
      rw [hfirst] at hok
      cases hok
    | none =>
      have hloaded := shardReport_none.1 (firstReport_none.1 hfirst shard hshard)
      have hattempted := (Bool.and_eq_true_iff.mp hloaded.2).1
      refine ⟨?_, hloaded⟩
      rw [h.started, List.count_eq_one_of_mem List.nodup_range]
      exact List.mem_range.mpr (h.settled shard (Or.inr hattempted))
  · intro shard hfailed hlowest
    obtain ⟨report, hreport, hfirst⟩ := h.lowest_failure hjoined hfailed hlowest
    have hlt := (firstReport_some.1 hfirst).1
    refine ⟨plan.shards[shard], List.getElem?_eq_getElem hlt, ?_⟩
    unfold joinedResult
    rw [hfirst]
    rcases shardReport_failed hfailed with ⟨exception, hexception, hr⟩ | ⟨hexception, hr⟩
    · obtain rfl := Option.some.inj (hreport.symm.trans hr)
      refine Or.inl ⟨exception, hexception, ?_⟩
      simp [ShardReport.diagnostic, hlt]
    · obtain rfl := Option.some.inj (hreport.symm.trans hr)
      exact Or.inr ⟨hexception, rfl⟩

def samplePool : ResidentLoadPlan :=
  { shards := ["a", "b", "c"].map fun name =>
      { identity := { filename := name, fileSize := 8, sha256 := "" } } }

def sampleFailure : ResidentLoadDiagnostic :=
  { code := .sha256Mismatch, message := "shard SHA-256 mismatch", shard := "b" }

-- Two workers and three shards: the second shard fails while the first is still loading, and the
-- third throws afterwards.
def sampleEvents : List PoolEvent :=
  [.claim 0, .claim 1, .finish 1 (.returns {} sampleFailure), .finish 0 (.returns {} {}), .claim 0,
    .finish 0 (.throws .badAlloc)]

theorem pool_fail_closed_sample :
    joinedResult samplePool 0 (run (poolStep 3) (startPool 2) sampleEvents) =
      .error sampleFailure := by
  have h := (pool_fail_closed samplePool 0 2 (by decide) sampleEvents _ rfl
    (by unfold Joined; decide)).2.1 1 (by decide) (by decide)
  obtain ⟨planned, -, ⟨exception, hexception, -⟩ | ⟨-, hresult⟩⟩ := h
  · cases hexception
  · exact hresult

end Qwen3xOrin.Resident
