import Mathlib.Tactic
import Mathlib.Data.Nat.Notation

/-! Token geometry of the prefill planners. The compile-time switches of the build are
one record, so that every statement below holds for every build. -/

namespace Qwen3xOrin.Prefill

structure BuildConfig where
  wholeCoreService : Bool := false
  layerWideP40Mlp : Bool := false
  promptWideP40WholeCore : Bool := false
  promptWideP40ProjectionReset : Bool := false
  promptWideP40PackedProjection : Bool := false
  promptWideP40PackedNvfp4V2 : Bool := false
  promptWideP40VllmMarlinParity : Bool := false
  deriving DecidableEq, Repr

def prefillPhysicalSegmentMaximumTokens : ℕ := 512
def prefillPhysicalSegmentM256Tokens : ℕ := 256
def prefillPhysicalSegmentM64Tokens : ℕ := 64
def prefillPhysicalSegmentM32Tokens : ℕ := 32
def legacyPublicTileTokens : ℕ := prefillPhysicalSegmentMaximumTokens
def operatorPanelTokens : ℕ := 8192
def promptWideP40PanelTokens : ℕ := 8000
def promptWideP40PanelCount : ℕ := 5
def layerWideMlpAlignmentTokens : ℕ := 64
def maximumSequenceTokens : ℕ := 262144
def layerCount : ℕ := 64
def linearLayerCount : ℕ := 48
def fullLayerCount : ℕ := 16
def maximumPanelCount : ℕ :=
  (maximumSequenceTokens + operatorPanelTokens - 1) / operatorPanelTokens
def uint64Max : ℕ := 2 ^ 64 - 1

def wholeCoreCompiledSequenceCapacity (cfg : BuildConfig) : ℕ :=
  if cfg.wholeCoreService then 44095 else 40016

def wholeCoreCompiledPromptStorageTokens (cfg : BuildConfig) : ℕ :=
  if wholeCoreCompiledSequenceCapacity cfg = 44095 then 44096 else 40000

def promptWideP40Tokens (cfg : BuildConfig) : ℕ := wholeCoreCompiledPromptStorageTokens cfg
def layerWideMlpP40Tokens (cfg : BuildConfig) : ℕ := promptWideP40Tokens cfg
def promptWideP40RequestCapacityTokens (cfg : BuildConfig) : ℕ :=
  wholeCoreCompiledSequenceCapacity cfg

def wholeCorePromptTokensAdmitted (cfg : BuildConfig) (tokens : ℕ) : Bool :=
  if cfg.wholeCoreService then
    decide (1 ≤ tokens) && decide (tokens ≤ wholeCoreCompiledSequenceCapacity cfg)
  else decide (tokens = 40000)

def wholeCoreMlpLaunchCount (cfg : BuildConfig) (rows : ℕ) : ℕ :=
  if cfg.wholeCoreService then
    1 + (if 64 ≤ rows then 1 else 0) + (if rows % 64 ≠ 0 then 1 else 0)
  else 2

def nextLayerMajorPrefillOperatorPanelTokenCount (remaining : ℕ) : ℕ :=
  if remaining ≤ operatorPanelTokens then remaining
  else if remaining < 2 * operatorPanelTokens then (remaining + 1) / 2
  else operatorPanelTokens

def nextPrefillPhysicalSegmentTokenCount (remaining : ℕ) : ℕ :=
  if prefillPhysicalSegmentMaximumTokens ≤ remaining then prefillPhysicalSegmentMaximumTokens
  else if prefillPhysicalSegmentM256Tokens ≤ remaining then prefillPhysicalSegmentM256Tokens
  else if prefillPhysicalSegmentM64Tokens ≤ remaining then prefillPhysicalSegmentM64Tokens
  else if prefillPhysicalSegmentM32Tokens ≤ remaining then prefillPhysicalSegmentM32Tokens
  else remaining

def checkedAdd (left right : ℕ) : Option ℕ :=
  if uint64Max - left < right then none else some (left + right)

lemma nextPrefillPhysicalSegmentTokenCount_le (n : ℕ) :
    nextPrefillPhysicalSegmentTokenCount n ≤ n := by
  unfold nextPrefillPhysicalSegmentTokenCount
  split_ifs <;> omega

lemma nextPrefillPhysicalSegmentTokenCount_pos {n : ℕ} (h : 0 < n) :
    0 < nextPrefillPhysicalSegmentTokenCount n := by
  unfold nextPrefillPhysicalSegmentTokenCount
  split_ifs
  · decide
  · decide
  · decide
  · decide
  · exact h

end Qwen3xOrin.Prefill
