import Qwen3xOrin.Gdn.CausalConv
import Qwen3xOrin.Library.HalvingTree
import Qwen3xOrin.Runner.LogitsAnalysis

/-! The greedy argmax of bf16 logits on the device: strided scans, a tree in the shared memory of
each block and a tree of shuffles over the blocks. -/

namespace Qwen3xOrin.Decode

open Gdn (gridStride mem_gridStride)
open Library
open Runner

section Kernels

abbrev argmaxThreads : ℕ := 256
abbrev bf16GreedyArgmaxBlocks : ℕ := 32
abbrev bf16GreedyArgmaxStride : ℕ := bf16GreedyArgmaxBlocks * argmaxThreads
abbrev indexNone : ℕ := 2 ^ 32 - 1
abbrev warpLanes : ℕ := 32

structure Candidate where
  maximum : Bf16
  index : ℕ
  valueBits : Bf16
  nonfinite : UInt16
  deriving DecidableEq, Repr

structure Bf16GreedyArgmaxResult where
  index : ℕ
  valueBits : Bf16
  hasNonfinite : UInt16
  deriving DecidableEq, Repr

def Candidate.empty : Candidate := ⟨0xff80, indexNone, 0, 0⟩

def scanElement (input : ℕ → Bf16) (candidate : Candidate) (index : ℕ) : Candidate :=
  if isfinite (input index) = false then { candidate with nonfinite := 1 }
  else if candidate.index = indexNone ∨ floatGreater (input index) candidate.maximum then
    { candidate with maximum := input index, index := index % 2 ^ 32, valueBits := input index }
  else candidate

def threadCandidate (input : ℕ → Bf16) (elementCount block thread : ℕ) : Candidate :=
  (gridStride (block * argmaxThreads + thread) bf16GreedyArgmaxStride elementCount).foldl
    (scanElement input) .empty

def takeOther (mine other : Candidate) : Bool :=
  other.index ≠ indexNone ∧ (mine.index = indexNone ∨ floatGreater other.maximum mine.maximum ∨
    (floatEqual other.maximum mine.maximum ∧ other.index < mine.index))

def combine (mine other : Candidate) : Candidate :=
  { (if takeOther mine other then other else mine) with
    nonfinite := mine.nonfinite ||| other.nonfinite }

-- All threads of a block between two barriers; a slot that is read is not written.
def sharedStep (offset : ℕ) (shared : ℕ → Candidate) (thread : ℕ) : Candidate :=
  if thread < offset then combine (shared thread) (shared (thread + offset)) else shared thread

def sharedTree (input : ℕ → Bf16) (elementCount block : ℕ) : ℕ → Candidate :=
  (halvingLoop argmaxThreads (argmaxThreads / 2)).foldl
    (fun shared offset => sharedStep offset shared) (threadCandidate input elementCount block)

def bf16GreedyArgmaxKernel (input : ℕ → Bf16) (elementCount block : ℕ) : Bf16GreedyArgmaxResult :=
  let candidate := sharedTree input elementCount block 0
  ⟨candidate.index, candidate.valueBits, candidate.nonfinite⟩

def partialCandidate (partials : ℕ → Bf16GreedyArgmaxResult) (lane : ℕ) : Candidate :=
  if lane < bf16GreedyArgmaxBlocks then
    { maximum := if (partials lane).index ≠ indexNone then (partials lane).valueBits else 0xff80
      index := (partials lane).index
      valueBits := (partials lane).valueBits
      nonfinite := (partials lane).hasNonfinite }
  else .empty

-- A shuffle past the last lane returns the value of the lane itself.
def shuffleDown {α : Type} (offset : ℕ) (lanes : ℕ → α) (lane : ℕ) : α :=
  lanes (if lane + offset < warpLanes then lane + offset else lane)

def shuffleStep (offset : ℕ) (lanes : ℕ → Candidate) (lane : ℕ) : Candidate :=
  combine (lanes lane) (shuffleDown offset lanes lane)

def shuffleTree (partials : ℕ → Bf16GreedyArgmaxResult) : ℕ → Candidate :=
  (halvingLoop warpLanes 16).foldl (fun lanes offset => shuffleStep offset lanes)
    (partialCandidate partials)

def bf16GreedyArgmaxFinalizeKernel (input : ℕ → Bf16) (partials : ℕ → Bf16GreedyArgmaxResult) :
    Bf16GreedyArgmaxResult :=
  let candidate := shuffleTree partials 0
  { index := candidate.index
    valueBits := if candidate.index = indexNone then 0 else input candidate.index
    hasNonfinite := candidate.nonfinite }

-- The two kernels as they are launched on the stream.
def greedyArgmax (input : ℕ → Bf16) (elementCount : ℕ) : Bf16GreedyArgmaxResult :=
  bf16GreedyArgmaxFinalizeKernel input (bf16GreedyArgmaxKernel input elementCount)

end Kernels

section Best

variable {input : ℕ → Bf16} {elements others : Set ℕ} {mine other : Candidate} {index : ℕ}

-- The lowest index among the finite elements of maximal value.
structure FirstMaximum (input : ℕ → Bf16) (elements : Set ℕ) (index : ℕ) : Prop where
  member : index ∈ elements
  finite : isfinite (input index) = true
  first : ∀ i ∈ elements, isfinite (input i) = true →
    floatKey (input i) < floatKey (input index) ∨
      (floatKey (input i) = floatKey (input index) ∧ index ≤ i)

structure Found (input : ℕ → Bf16) (elements : Set ℕ) (candidate : Candidate) : Prop where
  some : candidate.index ≠ indexNone
  bits : candidate.valueBits = input candidate.index
  maximum : candidate.maximum = input candidate.index
  first : FirstMaximum input elements candidate.index

structure Missing (input : ℕ → Bf16) (elements : Set ℕ) (candidate : Candidate) : Prop where
  none : candidate.index = indexNone
  bits : candidate.valueBits = 0
  nonfinite : ∀ i ∈ elements, isfinite (input i) = false

def Flagged (input : ℕ → Bf16) (elements : Set ℕ) (flag : UInt16) : Prop :=
  (flag = 1 ∧ ∃ i ∈ elements, isfinite (input i) = false) ∨
    (flag = 0 ∧ ∀ i ∈ elements, isfinite (input i) = true)

structure Best (input : ℕ → Bf16) (elements : Set ℕ) (candidate : Candidate) : Prop where
  flagged : Flagged input elements candidate.nonfinite
  held : Found input elements candidate ∨ Missing input elements candidate

lemma FirstMaximum.unique {index' : ℕ} (h : FirstMaximum input elements index)
    (h' : FirstMaximum input elements index') : index = index' := by
  obtain hless | ⟨hequal, hle⟩ := h.first index' h'.member h'.finite
  · obtain hless' | ⟨hequal', -⟩ := h'.first index h.member h.finite
    · omega
    · omega
  · obtain hless' | ⟨-, hle'⟩ := h'.first index h.member h.finite
    · omega
    · omega

lemma FirstMaximum.union (h : FirstMaximum input elements index)
    (hothers : ∀ i ∈ others, isfinite (input i) = true →
      floatKey (input i) < floatKey (input index) ∨
        (floatKey (input i) = floatKey (input index) ∧ index ≤ i)) :
    FirstMaximum input (elements ∪ others) index where
  member := Or.inl h.member
  finite := h.finite
  first i hi hfinite := hi.elim (fun hi => h.first i hi hfinite) fun hi => hothers i hi hfinite

-- A first maximum that is not behind another one is the first maximum of both sets.
lemma FirstMaximum.union_first {index' : ℕ} (h : FirstMaximum input elements index)
    (h' : FirstMaximum input others index')
    (hahead : floatKey (input index') < floatKey (input index) ∨
      (floatKey (input index') = floatKey (input index) ∧ index ≤ index')) :
    FirstMaximum input (elements ∪ others) index := by
  refine h.union fun i hi hfinite => ?_
  obtain hless | ⟨hequal, hle⟩ := h'.first i hi hfinite
  · omega
  · omega

lemma Flagged.union {flag flag' : UInt16} (h : Flagged input elements flag)
    (h' : Flagged input others flag') : Flagged input (elements ∪ others) (flag ||| flag') := by
  obtain ⟨rfl, i, hi, hnonfinite⟩ | ⟨rfl, hfinite⟩ := h
  · refine .inl ⟨?_, i, Or.inl hi, hnonfinite⟩
    obtain ⟨rfl, -⟩ | ⟨rfl, -⟩ := h' <;> rfl
  · obtain ⟨rfl, i, hi, hnonfinite⟩ | ⟨rfl, hfinite'⟩ := h'
    · exact .inl ⟨rfl, i, Or.inr hi, hnonfinite⟩
    · exact .inr ⟨rfl, fun i hi => hi.elim (hfinite i) (hfinite' i)⟩

lemma takeOther_found (hmine : Found input elements mine) (hother : Found input others other) :
    takeOther mine other = true ↔ floatKey (input mine.index) < floatKey (input other.index) ∨
      (floatKey (input other.index) = floatKey (input mine.index) ∧ other.index < mine.index) := by
  rw [takeOther, decide_eq_true_eq, hmine.maximum, hother.maximum,
    floatGreater_finite hother.first.finite hmine.first.finite,
    floatEqual_finite hother.first.finite hmine.first.finite]
  simp only [hmine.some, hother.some, ne_eq, not_false_eq_true, true_and, false_or]

lemma combine_best (hmine : Best input elements mine) (hother : Best input others other) :
    Best input (elements ∪ others) (combine mine other) := by
  refine ⟨hmine.flagged.union hother.flagged, ?_⟩
  obtain hfound | hmissing := hmine.held
  · obtain hfound' | hmissing' := hother.held
    · rw [combine]
      by_cases htake : takeOther mine other = true
      · rw [if_pos htake]
        rw [takeOther_found hfound hfound'] at htake
        refine .inl ⟨hfound'.some, hfound'.bits, hfound'.maximum, ?_⟩
        rw [Set.union_comm]
        exact hfound'.first.union_first hfound.first (by omega)
      · rw [if_neg htake]
        rw [takeOther_found hfound hfound'] at htake
        refine .inl ⟨hfound.some, hfound.bits, hfound.maximum, ?_⟩
        exact hfound.first.union_first hfound'.first (by omega)
    · have hkeep : takeOther mine other = false := by
        simp [takeOther, hmissing'.none]
      rw [combine, hkeep]
      refine .inl ⟨hfound.some, hfound.bits, hfound.maximum,
        hfound.first.union fun i hi hfinite => ?_⟩
      rw [hmissing'.nonfinite i hi] at hfinite
      exact absurd hfinite Bool.false_ne_true
  · obtain hfound' | hmissing' := hother.held
    · have htake : takeOther mine other = true := by
        rw [takeOther, decide_eq_true_eq]
        exact ⟨hfound'.some, .inl hmissing.none⟩
      rw [combine, htake]
      refine .inl ⟨hfound'.some, hfound'.bits, hfound'.maximum, ?_⟩
      rw [Set.union_comm]
      refine hfound'.first.union fun i hi hfinite => ?_
      rw [hmissing.nonfinite i hi] at hfinite
      exact absurd hfinite Bool.false_ne_true
    · have hkeep : takeOther mine other = false := by
        simp [takeOther, hmissing'.none]
      rw [combine, hkeep]
      exact .inr ⟨hmissing.none, hmissing.bits, fun i hi =>
        hi.elim (hmissing.nonfinite i) (hmissing'.nonfinite i)⟩

end Best

section Scan

variable {input : ℕ → Bf16} {elementCount : ℕ} {candidate : Candidate}

lemma empty_best (input : ℕ → Bf16) : Best input ∅ .empty where
  flagged := .inr ⟨rfl, fun _ h => absurd h (Set.notMem_empty _)⟩
  held := .inr ⟨rfl, rfl, fun _ h => absurd h (Set.notMem_empty _)⟩

-- The elements of a thread come in increasing order, so that a later one must be greater.
lemma scanElement_best {elements : Set ℕ} {index : ℕ} (h : Best input elements candidate)
    (hafter : ∀ i ∈ elements, i < index) (hindex : index < 2 ^ 32 - 1) :
    Best input (elements ∪ {index}) (scanElement input candidate index) := by
  have hflag : Flagged input {index} (if isfinite (input index) then 0 else 1) := by
    by_cases hfinite : isfinite (input index) = true
    · rw [if_pos hfinite]
      exact .inr ⟨rfl, fun i hi => hi ▸ hfinite⟩
    · rw [if_neg hfinite]
      exact .inl ⟨rfl, index, rfl, Bool.not_eq_true _ |>.mp hfinite⟩
  have hflagged := h.flagged.union hflag
  unfold scanElement
  by_cases hfinite : isfinite (input index) = true
  · rw [if_pos hfinite, UInt16.or_zero] at hflagged
    rw [if_neg (by rw [hfinite]; exact Bool.noConfusion)]
    have hown : FirstMaximum input {index} index :=
      ⟨rfl, hfinite, fun i hi _ => .inr ⟨hi ▸ rfl, Nat.le_of_eq hi.symm⟩⟩
    have hmod : index % 2 ^ 32 = index := Nat.mod_eq_of_lt (by omega)
    obtain hfound | hmissing := h.held
    · by_cases hgreater : floatGreater (input index) candidate.maximum = true
      · rw [if_pos (.inr hgreater)]
        rw [hfound.maximum, floatGreater_finite hfinite hfound.first.finite] at hgreater
        refine ⟨hflagged, .inl ⟨?_, ?_, ?_, ?_⟩⟩
        · dsimp only [indexNone]
          omega
        · dsimp only
          rw [hmod]
        · dsimp only
          rw [hmod]
        · dsimp only
          rw [hmod, Set.union_comm]
          exact hown.union_first hfound.first (.inl hgreater)
      · rw [if_neg (not_or.mpr ⟨hfound.some, hgreater⟩)]
        rw [hfound.maximum, floatGreater_finite hfinite hfound.first.finite] at hgreater
        have hbefore := hafter _ hfound.first.member
        refine ⟨hflagged, .inl ⟨hfound.some, hfound.bits, hfound.maximum, ?_⟩⟩
        exact hfound.first.union_first hown (by omega)
    · rw [if_pos (.inl hmissing.none)]
      refine ⟨hflagged, .inl ⟨?_, ?_, ?_, ?_⟩⟩
      · dsimp only [indexNone]
        omega
      · dsimp only
        rw [hmod]
      · dsimp only
        rw [hmod]
      · dsimp only
        rw [hmod, Set.union_comm]
        refine hown.union fun i hi hfinite' => ?_
        rw [hmissing.nonfinite i hi] at hfinite'
        exact absurd hfinite' Bool.false_ne_true
  · have hnonfinite := Bool.not_eq_true _ |>.mp hfinite
    rw [if_pos hnonfinite]
    refine ⟨.inl ⟨rfl, index, Or.inr rfl, hnonfinite⟩, ?_⟩
    obtain hfound | hmissing := h.held
    · refine .inl ⟨hfound.some, hfound.bits, hfound.maximum, hfound.first.union ?_⟩
      rintro i rfl hfinite'
      exact absurd hfinite' hfinite
    · refine .inr ⟨hmissing.none, hmissing.bits, fun i hi => ?_⟩
      obtain hi | rfl := hi
      · exact hmissing.nonfinite i hi
      · exact hnonfinite

lemma scan_best {elements : Set ℕ} {indices : List ℕ} (h : Best input elements candidate)
    (hsorted : indices.Pairwise (· < ·)) (hafter : ∀ i ∈ elements, ∀ index ∈ indices, i < index)
    (hbound : ∀ index ∈ indices, index < 2 ^ 32 - 1) :
    Best input (elements ∪ {i | i ∈ indices}) (indices.foldl (scanElement input) candidate) := by
  induction indices generalizing elements candidate with
  | nil => simpa using h
  | cons index indices ih =>
    obtain ⟨hfirst, hsorted⟩ := List.pairwise_cons.mp hsorted
    obtain ⟨hindex, hbound⟩ := List.forall_mem_cons.mp hbound
    have hstep := scanElement_best h (fun i hi => hafter i hi index List.mem_cons_self) hindex
    have hall : elements ∪ {i | i ∈ index :: indices} =
        elements ∪ {index} ∪ {i | i ∈ indices} := by
      ext i
      simp only [Set.mem_union, Set.mem_ofPred_eq, List.mem_cons, Set.mem_singleton_iff, or_assoc]
    rw [hall]
    refine ih hstep hsorted (fun i hi j hj => ?_) hbound
    obtain hi | rfl := hi
    · exact hafter i hi j (List.mem_cons_of_mem index hj)
    · exact hfirst j hj

lemma gridStride_sorted {start stride limit : ℕ} (hstride : 0 < stride) :
    (gridStride start stride limit).Pairwise (· < ·) := by
  refine List.Pairwise.filter _ (List.pairwise_map.mpr ?_)
  refine List.pairwise_lt_range.imp fun hless => ?_
  exact Nat.add_lt_add_left (Nat.mul_lt_mul_of_pos_right hless hstride) _

lemma threadCandidate_best {block thread : ℕ} (hblock : block < bf16GreedyArgmaxBlocks)
    (hthread : thread < argmaxThreads) (hcount : elementCount < 2 ^ 32 - 1) :
    Best input
      {i | i < elementCount ∧ i % bf16GreedyArgmaxStride = block * argmaxThreads + thread}
      (threadCandidate input elementCount block thread) := by
  have hstart : block * argmaxThreads + thread < bf16GreedyArgmaxStride := by
    dsimp only [bf16GreedyArgmaxBlocks, argmaxThreads, bf16GreedyArgmaxStride] at *
    omega
  have hscan := scan_best (empty_best input) (gridStride_sorted (Nat.zero_lt_of_lt hstart))
    (fun i hi => absurd hi (Set.notMem_empty i))
    (fun index hindex => ((mem_gridStride hstart).mp hindex).1.trans hcount)
  rw [Set.empty_union] at hscan
  simp only [mem_gridStride hstart] at hscan
  exact hscan

end Scan

section Trees

variable {input : ℕ → Bf16} {elementCount : ℕ}

-- The elements below the count that the lanes of `lanes` own.
def owned (owns : ℕ → ℕ → Prop) (elementCount : ℕ) (lanes : Set ℕ) : Set ℕ :=
  {i | i < elementCount ∧ ∃ lane ∈ lanes, owns lane i}

lemma owned_union (owns : ℕ → ℕ → Prop) (lanes lanes' : Set ℕ) :
    owned owns elementCount (lanes ∪ lanes') =
      owned owns elementCount lanes ∪ owned owns elementCount lanes' := by
  ext i
  constructor
  · rintro ⟨hi, lane, hlane | hlane, howns⟩
    · exact Or.inl ⟨hi, lane, hlane, howns⟩
    · exact Or.inr ⟨hi, lane, hlane, howns⟩
  · rintro (⟨hi, lane, hlane, howns⟩ | ⟨hi, lane, hlane, howns⟩)
    · exact ⟨hi, lane, Or.inl hlane, howns⟩
    · exact ⟨hi, lane, Or.inr hlane, howns⟩

lemma owned_single (owns : ℕ → ℕ → Prop) (lane : ℕ) :
    owned owns elementCount {lane} = {i | i < elementCount ∧ owns lane i} := by
  ext i
  simp [owned]

lemma combine_owned (owns : ℕ → ℕ → Prop) (lanes lanes' : Set ℕ) (mine other : Candidate)
    (hmine : Best input (owned owns elementCount lanes) mine)
    (hother : Best input (owned owns elementCount lanes') other) :
    Best input (owned owns elementCount (lanes ∪ lanes')) (combine mine other) := by
  rw [owned_union]
  exact combine_best hmine hother

def blockElements (elementCount block : ℕ) : Set ℕ :=
  {i | i < elementCount ∧ i % bf16GreedyArgmaxStride / argmaxThreads = block}

lemma sharedTree_best {block : ℕ} (hblock : block < bf16GreedyArgmaxBlocks)
    (hcount : elementCount < 2 ^ 32 - 1) :
    Best input (blockElements elementCount block) (sharedTree input elementCount block 0) := by
  have hloop : halvingLoop argmaxThreads (argmaxThreads / 2) = halvings 8 :=
    @halvingLoop_pow 7 256 (by decide)
  have howned : owned (fun thread i => i % bf16GreedyArgmaxStride = block * argmaxThreads + thread)
      elementCount {t | t < 2 ^ 8} = blockElements elementCount block := by
    ext i
    refine and_congr_right fun hi => ?_
    dsimp only [bf16GreedyArgmaxStride, bf16GreedyArgmaxBlocks, argmaxThreads]
    constructor
    · rintro ⟨thread, hthread, howns⟩
      have hthread' : thread < 256 := hthread
      omega
    · intro hdiv
      refine ⟨i % (32 * 256) % 256, Nat.mod_lt _ (by decide), ?_⟩
      omega
  have hleaves : ∀ t < 2 ^ 8, Best input (owned (fun thread i =>
      i % bf16GreedyArgmaxStride = block * argmaxThreads + thread) elementCount {t})
      (threadCandidate input elementCount block t) := by
    intro t ht
    rw [owned_single]
    exact threadCandidate_best hblock ht hcount
  have hroot := @halvings_root _ (fun lanes => Best input (owned (fun thread i =>
      i % bf16GreedyArgmaxStride = block * argmaxThreads + thread) elementCount lanes)) combine
    sharedStep (threadCandidate input elementCount block) 8 (combine_owned _)
    (fun _ _ _ hless _ => by rw [sharedStep, if_pos hless]) hleaves
  rw [howned] at hroot
  rw [sharedTree, hloop]
  exact hroot

-- The maximum of a block is not written: a lane takes it from the bits.
lemma partialCandidate_best {candidate : Candidate} {elements : Set ℕ} {lane : ℕ}
    {partials : ℕ → Bf16GreedyArgmaxResult} (hlane : lane < bf16GreedyArgmaxBlocks)
    (hheld : partials lane = ⟨candidate.index, candidate.valueBits, candidate.nonfinite⟩)
    (h : Best input elements candidate) :
    Best input elements (partialCandidate partials lane) := by
  rw [partialCandidate, if_pos hlane, hheld]
  refine ⟨h.flagged, ?_⟩
  obtain hfound | hmissing := h.held
  · refine .inl ⟨hfound.some, hfound.bits, ?_, hfound.first⟩
    dsimp only
    rw [if_pos hfound.some]
    exact hfound.bits
  · exact .inr ⟨hmissing.none, hmissing.bits, hmissing.nonfinite⟩

lemma shuffleTree_best (hcount : elementCount < 2 ^ 32 - 1) :
    Best input {i | i < elementCount}
      (shuffleTree (bf16GreedyArgmaxKernel input elementCount) 0) := by
  have hloop : halvingLoop warpLanes 16 = halvings 5 := @halvingLoop_pow 4 32 (by decide)
  have howned : owned (fun block i => i % bf16GreedyArgmaxStride / argmaxThreads = block)
      elementCount {t | t < 2 ^ 5} = {i | i < elementCount} := by
    ext i
    refine and_iff_left_of_imp fun _ => ⟨_, ?_, rfl⟩
    have hlane : i % bf16GreedyArgmaxStride / argmaxThreads < 32 := by
      dsimp only [bf16GreedyArgmaxStride, bf16GreedyArgmaxBlocks, argmaxThreads]
      omega
    exact hlane
  have hleaves : ∀ block < 2 ^ 5, Best input (owned (fun block i =>
      i % bf16GreedyArgmaxStride / argmaxThreads = block) elementCount {block})
      (partialCandidate (bf16GreedyArgmaxKernel input elementCount) block) := by
    intro block hblock
    rw [owned_single]
    exact partialCandidate_best hblock rfl (sharedTree_best hblock hcount)
  have hroot := @halvings_root _ (fun lanes => Best input (owned (fun block i =>
      i % bf16GreedyArgmaxStride / argmaxThreads = block) elementCount lanes)) combine
    shuffleStep (partialCandidate (bf16GreedyArgmaxKernel input elementCount)) 5 (combine_owned _)
    (fun offset lanes lane hless hwidth => by
      rw [shuffleStep, shuffleDown, if_pos (by dsimp only [warpLanes]; omega)]) hleaves
  rw [howned] at hroot
  rw [shuffleTree, hloop]
  exact hroot

end Trees

section Host

variable {input : ℕ → Bf16} {elementCount : ℕ}

lemma scanMaximum_first (hcount : 0 < elementCount) :
    ((scanMaximum input elementCount).allFinite = true ↔
        ∀ i < elementCount, isfinite (input i) = true) ∧
      ((scanMaximum input elementCount).allFinite = true →
        FirstMaximum input {i | i < elementCount}
            (scanMaximum input elementCount).maximumIndex ∧
          (scanMaximum input elementCount).maximum =
            input (scanMaximum input elementCount).maximumIndex) := by
  induction elementCount, hcount using Nat.le_induction with
  | base =>
    rw [show Nat.succ 0 = 1 from rfl, scanMaximum_one, scanStart]
    dsimp only
    have honly : ∀ i, i < 1 ↔ i = 0 := fun i => Nat.lt_one_iff
    refine ⟨by simp [honly], fun hfinite => ⟨⟨Nat.one_pos, hfinite, fun i hi _ => ?_⟩, rfl⟩⟩
    rw [(honly i).mp hi]
    exact .inr ⟨rfl, le_rfl⟩
  | succ index hindex ih =>
    obtain ⟨hall, hfirst⟩ := ih
    rw [scanMaximum_succ hindex]
    have hsplit (i : ℕ) : i < index + 1 ↔ i < index ∨ i = index := Nat.lt_succ_iff_lt_or_eq
    have hfinite : (scanTurn input (scanMaximum input index) index).allFinite =
        ((scanMaximum input index).allFinite && isfinite (input index)) := by
      unfold scanTurn
      split_ifs <;> rfl
    have hunion : {i | i < index + 1} = {i | i < index} ∪ {index} := Set.ext hsplit
    rw [hfinite, Bool.and_eq_true, hall, hunion]
    refine ⟨⟨fun h i hi => ?_, fun h => ⟨fun i hi => h i ((hsplit i).mpr (.inl hi)),
      h index (Nat.lt_succ_self index)⟩⟩, fun ⟨hbefore, hlast⟩ => ?_⟩
    · obtain hi | rfl := (hsplit i).mp hi
      · exact h.1 i hi
      · exact h.2
    · obtain ⟨hmaximum, hbits⟩ := hfirst (hall.mpr hbefore)
      have hown : FirstMaximum input {index} index :=
        ⟨rfl, hlast, fun i hi _ => .inr ⟨hi ▸ rfl, Nat.le_of_eq hi.symm⟩⟩
      have hgreater := floatGreater_finite hlast hmaximum.finite
      rw [← hbits] at hgreater
      unfold scanTurn
      by_cases htake : floatGreater (input index) (scanMaximum input index).maximum = true
      · rw [if_pos htake]
        rw [hgreater, hbits] at htake
        refine ⟨?_, rfl⟩
        rw [Set.union_comm]
        exact hown.union_first hmaximum (.inl htake)
      · rw [if_neg htake]
        rw [hgreater, hbits] at htake
        have hearlier : (scanMaximum input index).maximumIndex < index := hmaximum.member
        exact ⟨hmaximum.union_first hown (by omega), hbits⟩

end Host

section Agreement

variable {input : ℕ → Bf16} {elementCount : ℕ}

lemma Flagged.iff {elements : Set ℕ} {flag : UInt16} (h : Flagged input elements flag) :
    flag ≤ 1 ∧ (flag = 1 ↔ ∃ i ∈ elements, isfinite (input i) = false) ∧
      (flag = 0 ↔ ∀ i ∈ elements, isfinite (input i) = true) := by
  obtain ⟨rfl, i, hi, hnonfinite⟩ | ⟨rfl, hfinite⟩ := h
  · refine ⟨by decide, iff_of_true rfl ⟨i, hi, hnonfinite⟩, iff_of_false (by decide) fun h => ?_⟩
    rw [h i hi] at hnonfinite
    cases hnonfinite
  · refine ⟨by decide, iff_of_false (by decide) fun ⟨i, hi, hnonfinite⟩ => ?_,
      iff_of_true rfl hfinite⟩
    rw [hfinite i hi] at hnonfinite
    cases hnonfinite

lemma Best.none_iff {candidate : Candidate}
    (h : Best input {i | i < elementCount} candidate) :
    candidate.index = 2 ^ 32 - 1 ↔ ∀ i < elementCount, isfinite (input i) = false := by
  obtain hfound | hmissing := h.held
  · refine iff_of_false hfound.some fun hnone => ?_
    have hfinite := hfound.first.finite
    rw [hnone _ hfound.first.member] at hfinite
    cases hfinite
  · exact iff_of_true hmissing.none hmissing.nonfinite

lemma Best.some_iff {candidate : Candidate} (h : Best input {i | i < elementCount} candidate) :
    (∃ i < elementCount, isfinite (input i) = true) ↔ candidate.index ≠ indexNone ∧
      FirstMaximum input {i | i < elementCount} candidate.index := by
  obtain hfound | hmissing := h.held
  · exact iff_of_true ⟨_, hfound.first.member, hfound.first.finite⟩ ⟨hfound.some, hfound.first⟩
  · refine iff_of_false (fun ⟨i, hi, hfinite⟩ => ?_) fun h => h.1 hmissing.none
    rw [hmissing.nonfinite i hi] at hfinite
    cases hfinite

lemma argmax_host {D : Type} (d : DoubleArithmetic D) (input : ℕ → Bf16)
    (hpos : 0 < elementCount) :
    let host := analyzeBf16ArgmaxBits d (some input) elementCount
    (host.status = .nonFinite ↔ ¬ ∀ i < elementCount, isfinite (input i) = true) ∧
      ((∀ i < elementCount, isfinite (input i) = true) → host.status = .success ∧
        FirstMaximum input {i | i < elementCount} host.predictedIndex ∧
        host.maximum = input host.predictedIndex) := by
  intro host
  obtain ⟨hall, hfirst⟩ := @scanMaximum_first input elementCount hpos
  by_cases hfinite : (scanMaximum input elementCount).allFinite = true
  · have hhost : host = ⟨.success, (scanMaximum input elementCount).maximumIndex,
        (scanMaximum input elementCount).maximum, d.zero, d.zero⟩ := by
      simp only [host, analyzeBf16ArgmaxBits]
      rw [if_neg (Nat.ne_of_gt hpos), if_neg (by rw [hfinite]; exact Bool.noConfusion)]
    obtain ⟨hmaximum, hbits⟩ := hfirst hfinite
    rw [hhost]
    exact ⟨iff_of_false LogitsAnalysisStatus.noConfusion (not_not.mpr (hall.mp hfinite)),
      fun _ => ⟨rfl, hmaximum, hbits⟩⟩
  · have hhost : host = .failed d .nonFinite := by
      simp only [host, analyzeBf16ArgmaxBits]
      rw [if_neg (Nat.ne_of_gt hpos), if_pos (Bool.not_eq_true _ |>.mp hfinite)]
    rw [hhost]
    exact ⟨iff_of_true rfl fun h => hfinite (hall.mpr h), fun h => absurd (hall.mpr h) hfinite⟩

lemma greedyArgmax_best (input : ℕ → Bf16) (hcount : elementCount < 2 ^ 32 - 1) :
    ∃ candidate, Best input {i | i < elementCount} candidate ∧
      greedyArgmax input elementCount = ⟨candidate.index,
        if candidate.index = indexNone then 0 else input candidate.index, candidate.nonfinite⟩ :=
  ⟨_, shuffleTree_best hcount, rfl⟩

theorem greedy_argmax_exact (input : ℕ → Bf16) (elementCount : ℕ) (hpos : 0 < elementCount)
    (hcount : elementCount < 2 ^ 32 - 1) :
    let result := greedyArgmax input elementCount
    (result.index = 0xffffffff ↔ ∀ i < elementCount, isfinite (input i) = false) ∧
    ((∀ i < elementCount, isfinite (input i) = false) → result.valueBits = 0) ∧
    ((∃ i < elementCount, isfinite (input i) = true) →
      FirstMaximum input {i | i < elementCount} result.index ∧
        result.valueBits = input result.index) ∧
    result.hasNonfinite ≤ 1 ∧
    (result.hasNonfinite = 1 ↔ ∃ i < elementCount, isfinite (input i) = false) ∧
    ∀ {D : Type} (d : DoubleArithmetic D),
      ((analyzeBf16ArgmaxBits d (some input) elementCount).status = .nonFinite ↔
        result.hasNonfinite ≠ 0) ∧
      (result.hasNonfinite = 0 →
        (analyzeBf16ArgmaxBits d (some input) elementCount).status = .success ∧
        (analyzeBf16ArgmaxBits d (some input) elementCount).predictedIndex = result.index ∧
        (analyzeBf16ArgmaxBits d (some input) elementCount).maximum = result.valueBits) := by
  intro result
  obtain ⟨candidate, hbest, hresult⟩ := greedyArgmax_best input hcount
  have hindex : result.index = candidate.index := congrArg _ hresult
  have hbits : result.valueBits =
      if candidate.index = indexNone then 0 else input candidate.index := congrArg _ hresult
  have hflag : result.hasNonfinite = candidate.nonfinite := congrArg _ hresult
  obtain ⟨hsmall, hone, hzero⟩ := hbest.flagged.iff
  rw [hindex, hbits, hflag]
  refine ⟨?_, fun hnone => ?_, fun hsome => ?_, hsmall, hone, fun d => ?_⟩
  · exact hbest.none_iff
  · rw [if_pos (hbest.none_iff.mpr hnone)]
  · obtain ⟨hfound, hfirst⟩ := hbest.some_iff.mp hsome
    exact ⟨hfirst, if_neg hfound⟩
  · obtain ⟨hnonfinite, hfinite⟩ := argmax_host d input hpos
    have hreject : candidate.nonfinite ≠ 0 ↔ ¬ ∀ i < elementCount, isfinite (input i) = true :=
      not_congr hzero
    rw [hreject]
    refine ⟨hnonfinite, fun hflag => ?_⟩
    have hall := hzero.mp hflag
    obtain ⟨hstatus, hfirst, hmaximum⟩ := hfinite hall
    obtain ⟨hfound, hdevice⟩ := hbest.some_iff.mp ⟨0, hpos, hall 0 hpos⟩
    rw [if_neg hfound, hmaximum, ← hdevice.unique hfirst]
    exact ⟨hstatus, rfl, rfl⟩

-- A negative zero before a positive one, among negative values.
def tiedZeros (index : ℕ) : Bf16 := if index = 5 then 0x8000 else if index = 9 then 0 else 0xbf80

lemma tiedZeros_first : FirstMaximum tiedZeros {i | i < 20000} 5 := by
  refine ⟨by decide, by decide, fun i _ _ => ?_⟩
  have hfirst : floatKey (tiedZeros 5) = 0 := by decide
  rw [hfirst]
  by_cases hnegative : i = 5
  · exact .inr ⟨by rw [hnegative]; rfl, hnegative.ge⟩
  · by_cases hpositive : i = 9
    · exact .inr ⟨by rw [hpositive]; rfl, by omega⟩
    · rw [tiedZeros, if_neg hnegative, if_neg hpositive]
      exact .inl (by decide)

theorem tied_zeros_argmax : (greedyArgmax tiedZeros 20000).index = 5 ∧
    (greedyArgmax tiedZeros 20000).valueBits = 0x8000 := by
  obtain ⟨-, -, hsome, -⟩ := greedy_argmax_exact tiedZeros 20000 (by decide) (by decide)
  obtain ⟨hfirst, hbits⟩ := hsome ⟨5, by decide, by decide⟩
  have hindex := hfirst.unique tiedZeros_first
  exact ⟨hindex, hbits.trans (by rw [hindex]; rfl)⟩

end Agreement

end Qwen3xOrin.Decode
