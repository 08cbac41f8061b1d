import Qwen3xOrin.Library.Cuts
import Qwen3xOrin.Prefill.Geometry

/-! The arithmetic span ledger of an operator panel: the spans that own the exact arithmetic of
the panel, in a fixed array. -/

namespace Qwen3xOrin.Prefill

open Library

def nextLayerMajorPrefillPhysicalSegmentTokenCount (remaining : ℕ) : ℕ :=
  if remaining ≤ prefillPhysicalSegmentMaximumTokens then remaining
  else if remaining < 2 * prefillPhysicalSegmentMaximumTokens then (remaining + 1) / 2
  else prefillPhysicalSegmentMaximumTokens

def isLayerMajorPrefillPhysicalSegmentTokenCount (tokenCount : ℕ) : Bool :=
  decide (tokenCount ≠ 0) && decide (tokenCount ≤ prefillPhysicalSegmentMaximumTokens)

def maximumArithmeticSpanCount : ℕ :=
  (operatorPanelTokens + prefillPhysicalSegmentMaximumTokens - 1) /
    prefillPhysicalSegmentMaximumTokens

structure LayerMajorPrefillArithmeticSpan where
  tokenOffset : ℕ := 0
  tokenCount : ℕ := 0
  deriving DecidableEq, Repr

structure LayerMajorPrefillArithmeticSpanLedger where
  spans : Vector LayerMajorPrefillArithmeticSpan maximumArithmeticSpanCount :=
    Vector.replicate _ {}
  spanCount : ℕ := 0
  tokenCount : ℕ := 0
  deriving DecidableEq, Repr

-- The loop runs while tokens remain and a slot of the array is free; `none` is `return {}`.
def fillSpans : ℕ → LayerMajorPrefillArithmeticSpanLedger → ℕ → ℕ →
    Option (LayerMajorPrefillArithmeticSpanLedger × ℕ × ℕ)
  | 0, ledger, offset, remaining => some (ledger, offset, remaining)
  | slots + 1, ledger, offset, remaining =>
    if remaining = 0 then some (ledger, offset, remaining)
    else
      let spanTokenCount := nextLayerMajorPrefillPhysicalSegmentTokenCount remaining
      if isLayerMajorPrefillPhysicalSegmentTokenCount spanTokenCount = false ∨
          remaining < spanTokenCount then none
      else
        fillSpans slots
          { ledger with
            spans := ledger.spans.setIfInBounds ledger.spanCount ⟨offset, spanTokenCount⟩
            spanCount := ledger.spanCount + 1 }
          (offset + spanTokenCount) (remaining - spanTokenCount)

def makeLayerMajorPrefillArithmeticSpanLedger (panelTokenCount : ℕ) :
    LayerMajorPrefillArithmeticSpanLedger :=
  if panelTokenCount = 0 ∨ operatorPanelTokens < panelTokenCount then {}
  else
    match fillSpans maximumArithmeticSpanCount {} 0 panelTokenCount with
    | none => {}
    | some (ledger, offset, remaining) =>
      if remaining ≠ 0 ∨ offset ≠ panelTokenCount then {}
      else { ledger with tokenCount := panelTokenCount }

def validSpans (ledger : LayerMajorPrefillArithmeticSpanLedger) : ℕ → ℕ → ℕ → Bool
  | 0, _, expectedOffset => decide (expectedOffset = ledger.tokenCount)
  | n + 1, index, expectedOffset =>
    let span := ledger.spans.toList.getD index {}
    !decide (ledger.tokenCount ≤ expectedOffset) && decide (span.tokenOffset = expectedOffset) &&
      isLayerMajorPrefillPhysicalSegmentTokenCount span.tokenCount &&
      decide (span.tokenCount =
        nextLayerMajorPrefillPhysicalSegmentTokenCount (ledger.tokenCount - expectedOffset)) &&
      validSpans ledger n (index + 1) (expectedOffset + span.tokenCount)

def isValidLayerMajorPrefillArithmeticSpanLedger
    (ledger : LayerMajorPrefillArithmeticSpanLedger) : Bool :=
  if ledger.tokenCount = 0 ∨ operatorPanelTokens < ledger.tokenCount ∨ ledger.spanCount = 0 ∨
      maximumArithmeticSpanCount < ledger.spanCount then false
  else validSpans ledger ledger.spanCount 0 0

-- The spans of the given sizes, laid end to end.
def spansFrom : ℕ → List ℕ → List LayerMajorPrefillArithmeticSpan
  | _, [] => []
  | offset, count :: counts => ⟨offset, count⟩ :: spansFrom (offset + count) counts

def LayerMajorPrefillArithmeticSpanLedger.active
    (ledger : LayerMajorPrefillArithmeticSpanLedger) : List LayerMajorPrefillArithmeticSpan :=
  ledger.spans.toList.take ledger.spanCount

lemma nextSegment_eq : nextLayerMajorPrefillPhysicalSegmentTokenCount =
    balanced prefillPhysicalSegmentMaximumTokens := rfl

lemma nextPanel_eq : nextLayerMajorPrefillOperatorPanelTokenCount =
    balanced operatorPanelTokens := rfl

lemma nextSegment_le (n : ℕ) : nextLayerMajorPrefillPhysicalSegmentTokenCount n ≤ n :=
  balanced_le _ n

lemma nextSegment_admitted {n : ℕ} (hn : 0 < n) :
    isLayerMajorPrefillPhysicalSegmentTokenCount
      (nextLayerMajorPrefillPhysicalSegmentTokenCount n) = true := by
  have hpos : 0 < nextLayerMajorPrefillPhysicalSegmentTokenCount n := balanced_pos (by decide) hn
  have hle : nextLayerMajorPrefillPhysicalSegmentTokenCount n ≤
      prefillPhysicalSegmentMaximumTokens := balanced_le_cap _ n
  simp only [isLayerMajorPrefillPhysicalSegmentTokenCount, Bool.and_eq_true, decide_eq_true_eq]
  exact ⟨hpos.ne', hle⟩

lemma spansFrom_length (offset : ℕ) (counts : List ℕ) :
    (spansFrom offset counts).length = counts.length := by
  induction counts generalizing offset with
  | nil => rfl
  | cons count counts ih => simp [spansFrom, ih]

lemma active_push (ledger : LayerMajorPrefillArithmeticSpanLedger)
    (span : LayerMajorPrefillArithmeticSpan)
    (h : ledger.spanCount < maximumArithmeticSpanCount) :
    ({ ledger with
        spans := ledger.spans.setIfInBounds ledger.spanCount span
        spanCount := ledger.spanCount + 1 } : LayerMajorPrefillArithmeticSpanLedger).active =
      ledger.active ++ [span] := by
  have hlen : ledger.spans.toList.length = maximumArithmeticSpanCount := by simp
  unfold LayerMajorPrefillArithmeticSpanLedger.active
  rw [Vector.toList_setIfInBounds, List.take_add_one, List.take_set_of_le le_rfl,
    List.getElem?_set_self (by omega)]
  rfl

lemma fillSpans_spec {slots remaining : ℕ} {counts : List ℕ}
    (h : cut nextLayerMajorPrefillPhysicalSegmentTokenCount slots remaining = some counts)
    (ledger : LayerMajorPrefillArithmeticSpanLedger) (offset : ℕ)
    (hs : ledger.spanCount + slots ≤ maximumArithmeticSpanCount) :
    ∃ filled, fillSpans slots ledger offset remaining = some (filled, offset + remaining, 0) ∧
      filled.spanCount = ledger.spanCount + counts.length ∧
      filled.active = ledger.active ++ spansFrom offset counts := by
  induction slots generalizing remaining counts ledger offset with
  | zero =>
    simp only [cut, Option.ite_none_right_eq_some, Option.some.injEq] at h
    obtain ⟨rfl, rfl⟩ := h
    exact ⟨ledger, rfl, rfl, (List.append_nil _).symm⟩
  | succ slots ih =>
    by_cases hr : remaining = 0
    · subst hr
      rw [cut_zero, Option.some.injEq] at h
      subst h
      exact ⟨ledger, by rw [fillSpans, if_pos rfl]; rfl, rfl, (List.append_nil _).symm⟩
    rw [cut_succ _ _ hr, Option.map_eq_some_iff] at h
    obtain ⟨rest, hrest, rfl⟩ := h
    have hle := nextSegment_le remaining
    have hok := nextSegment_admitted (Nat.pos_of_ne_zero hr)
    set count := nextLayerMajorPrefillPhysicalSegmentTokenCount remaining with hcount
    obtain ⟨filled, hfill, hn, hactive⟩ := ih hrest
      { ledger with
        spans := ledger.spans.setIfInBounds ledger.spanCount ⟨offset, count⟩
        spanCount := ledger.spanCount + 1 } (offset + count) (by simp only; omega)
    refine ⟨filled, ?_, ?_, ?_⟩
    · rw [fillSpans, if_neg hr]
      simp only [← hcount]
      rw [if_neg (by rw [hok]; simp only [Bool.true_eq_false, false_or]; omega), hfill]
      rw [show offset + count + (remaining - count) = offset + remaining by omega]
    · simp only [hn, List.length_cons]
      omega
    · rw [hactive, active_push _ _ (by omega), List.append_assoc]
      rfl

lemma segments_cut {n : ℕ} (hn : n ≤ operatorPanelTokens) :
    ∃ counts, cut nextLayerMajorPrefillPhysicalSegmentTokenCount maximumArithmeticSpanCount n =
        some counts ∧ BalancedPieces prefillPhysicalSegmentMaximumTokens n counts := by
  rw [nextSegment_eq]
  refine cut_balanced (by decide) (Nat.div_le_div_right ?_)
  omega

lemma makeLedger_spec {n : ℕ} (hpos : n ≠ 0) (hn : n ≤ operatorPanelTokens) {counts : List ℕ}
    (h : cut nextLayerMajorPrefillPhysicalSegmentTokenCount maximumArithmeticSpanCount n =
      some counts) :
    (makeLayerMajorPrefillArithmeticSpanLedger n).tokenCount = n ∧
      (makeLayerMajorPrefillArithmeticSpanLedger n).spanCount = counts.length ∧
      (makeLayerMajorPrefillArithmeticSpanLedger n).active = spansFrom 0 counts := by
  obtain ⟨filled, hfill, hcount, hactive⟩ := fillSpans_spec h {} 0 (by simp)
  have hmake : makeLayerMajorPrefillArithmeticSpanLedger n = { filled with tokenCount := n } := by
    rw [makeLayerMajorPrefillArithmeticSpanLedger, if_neg (by omega), hfill]
    simp
  rw [hmake]
  refine ⟨rfl, ?_, ?_⟩
  · simpa using hcount
  · exact hactive

lemma validSpans_iff {ledger : LayerMajorPrefillArithmeticSpanLedger} {n index offset : ℕ}
    (hi : index + n ≤ maximumArithmeticSpanCount) (ho : offset ≤ ledger.tokenCount) :
    validSpans ledger n index offset = true ↔
      ∃ counts, cut nextLayerMajorPrefillPhysicalSegmentTokenCount n
          (ledger.tokenCount - offset) = some counts ∧ counts.length = n ∧
        (ledger.spans.toList.drop index).take n = spansFrom offset counts := by
  induction n generalizing index offset with
  | zero =>
    simp only [validSpans, cut, decide_eq_true_eq]
    constructor
    · rintro rfl
      exact ⟨[], by simp, rfl, by simp [spansFrom]⟩
    · rintro ⟨counts, hcut, -⟩
      simp only [Option.ite_none_right_eq_some] at hcut
      omega
  | succ n ih =>
    have hlen : ledger.spans.toList.length = maximumArithmeticSpanCount := by simp
    have hindex : index < ledger.spans.toList.length := by omega
    have hget : ledger.spans.toList.getD index {} = ledger.spans.toList[index] := by
      rw [List.getD_eq_getElem?_getD, List.getElem?_eq_getElem hindex, Option.getD_some]
    rw [List.drop_eq_getElem_cons hindex, List.take_succ_cons, validSpans, ← hget]
    set span := ledger.spans.toList.getD index {} with hspan
    simp only [Bool.and_eq_true, Bool.not_eq_true', decide_eq_true_eq, decide_eq_false_iff_not]
    constructor
    · rintro ⟨⟨⟨⟨hlt, hoff⟩, -⟩, hcount⟩, hrest⟩
      have hle := nextSegment_le (ledger.tokenCount - offset)
      obtain ⟨counts, hcut, hn, htake⟩ := (ih (by omega) (by omega)).mp hrest
      refine ⟨span.tokenCount :: counts, ?_, ?_, ?_⟩
      · rw [cut_succ _ _ (by omega), ← hcount, Nat.sub_sub, hcut]
        rfl
      · rw [List.length_cons, hn]
      · rw [htake, spansFrom, ← hoff]
    · rintro ⟨counts, hcut, hn, htake⟩
      have hne : ledger.tokenCount - offset ≠ 0 := by
        intro hz
        rw [hz, cut_zero, Option.some.injEq] at hcut
        rw [← hcut] at hn
        cases hn
      rw [cut_succ _ _ hne, Option.map_eq_some_iff] at hcut
      obtain ⟨rest, hcut, rfl⟩ := hcut
      rw [spansFrom, List.cons.injEq] at htake
      obtain ⟨hhead, htail⟩ := htake
      have hle := nextSegment_le (ledger.tokenCount - offset)
      have hok := nextSegment_admitted (Nat.pos_of_ne_zero hne)
      rw [hhead]
      refine ⟨⟨⟨⟨by omega, rfl⟩, hok⟩, rfl⟩, (ih (by omega) (by simp only; omega)).mpr ?_⟩
      exact ⟨rest, by rw [← Nat.sub_sub]; exact hcut, Nat.succ.inj hn, htail⟩

lemma isValidLedger_iff (ledger : LayerMajorPrefillArithmeticSpanLedger) :
    isValidLayerMajorPrefillArithmeticSpanLedger ledger = true ↔
      ledger.tokenCount ≠ 0 ∧ ledger.tokenCount ≤ operatorPanelTokens ∧
        ledger.spanCount = (makeLayerMajorPrefillArithmeticSpanLedger ledger.tokenCount).spanCount ∧
        ledger.active = (makeLayerMajorPrefillArithmeticSpanLedger ledger.tokenCount).active := by
  unfold isValidLayerMajorPrefillArithmeticSpanLedger
  by_cases hbad : ledger.tokenCount = 0 ∨ operatorPanelTokens < ledger.tokenCount
  · rw [if_pos (by tauto)]
    simp only [Bool.false_eq_true, false_iff]
    rintro ⟨hpos, hle, -⟩
    omega
  push Not at hbad
  obtain ⟨hpos, hle⟩ := hbad
  obtain ⟨counts, hcut, hpieces⟩ := segments_cut hle
  obtain ⟨-, hmade, hactive⟩ := makeLedger_spec hpos hle hcut
  have hlen := cut_length_le hcut
  have hsome : counts.length ≠ 0 := by
    intro hz
    have htotal := hpieces.total
    rw [List.length_eq_zero_iff.mp hz] at htotal
    exact hpos htotal.symm
  rw [hmade, hactive]
  constructor
  · intro h
    split_ifs at h with hout
    obtain ⟨counts', hcut', hn, htake⟩ := (validSpans_iff (by omega) (Nat.zero_le _)).mp h
    rw [Nat.sub_zero] at hcut'
    have hsame : counts' = counts := by
      have hmore : cut _ maximumArithmeticSpanCount _ = _ := cut_mono hcut' (by omega)
      rw [hcut] at hmore
      exact (Option.some.inj hmore).symm
    subst hsame
    exact ⟨hpos, hle, hn.symm, htake⟩
  · rintro ⟨-, -, hcount, htake⟩
    rw [if_neg (by omega)]
    refine (validSpans_iff (by omega) (Nat.zero_le _)).mpr ⟨counts, ?_, hcount.symm, htake⟩
    rw [Nat.sub_zero, hcount]
    exact cut_exact hcut

end Qwen3xOrin.Prefill
