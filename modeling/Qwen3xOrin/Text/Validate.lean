import Qwen3xOrin.Text.Encode
import Qwen3xOrin.Text.Trim

/-! UTF-8 validation: it passes the well-formed texts and stops at the first ill-formed
sequence of the others. -/

namespace Qwen3xOrin.Text

open Library Library.Utf8

lemma isContinuation_iff {byte : UInt8} : isContinuation byte = true ↔ IsTail byte := by
  rw [isContinuation, decide_eq_true_eq, isTail_iff]

-- A text decodes at its front exactly when a unit of the table stands there.
lemma table_of_decodeUtf8At {text rest : Bytes} {codepoint : ℕ}
    (h : decodeUtf8At text = some (codepoint, rest)) : ∃ u, Table u ∧ text = u ++ rest := by
  cases text with
  | nil => cases h
  | cons byte tail =>
    unfold decodeUtf8At at h
    dsimp only at h
    simp only [UInt8.le_iff_toNat_le, UInt8.reduceToNat] at h
    split_ifs at h with hone htwo hthree hfour
    · cases h
      exact ⟨[byte], by simp only [Table]; omega, rfl⟩
    · obtain - | ⟨b1, tail⟩ := tail
      · cases h
      dsimp only at h
      split_ifs at h with h1
      cases h
      rw [isContinuation_iff] at h1
      exact ⟨[byte, b1], ⟨htwo.1, htwo.2, h1⟩, rfl⟩
    · obtain - | ⟨b1, - | ⟨b2, tail⟩⟩ := tail
      · cases h
      · cases h
      dsimp only at h
      split_ifs at h with h1 h2
      cases h
      simp only [not_or, Bool.not_eq_false, isContinuation_iff] at h1
      simp only [UInt8.lt_iff_toNat_lt, ← UInt8.toNat_inj, UInt8.reduceToNat] at h2
      exact ⟨[byte, b1, b2], ⟨hthree.1, hthree.2, h1.1, h1.2, by omega, by omega⟩, rfl⟩
    · obtain - | ⟨b1, - | ⟨b2, - | ⟨b3, tail⟩⟩⟩ := tail
      · cases h
      · cases h
      · cases h
      dsimp only at h
      split_ifs at h with h1 h2
      cases h
      simp only [not_or, Bool.not_eq_false, isContinuation_iff] at h1
      simp only [UInt8.lt_iff_toNat_lt, ← UInt8.toNat_inj, UInt8.reduceToNat] at h2
      exact ⟨[byte, b1, b2, b3], ⟨hfour.1, hfour.2, h1.1, h1.2.1, h1.2.2, by omega, by omega⟩,
        rfl⟩

lemma decodeUtf8At_of_table : ∀ {u : Bytes}, Table u → ∀ rest,
    ∃ codepoint, decodeUtf8At (u ++ rest) = some (codepoint, rest)
  | [], h, _ => h.elim
  | [a], h, rest => by
    simp only [Table] at h
    refine ⟨_, if_pos ?_⟩
    simp only [UInt8.le_iff_toNat_le, UInt8.reduceToNat]
    omega
  | [a, b], h, rest => by
    obtain ⟨hlow, hhigh, hb⟩ := h
    unfold decodeUtf8At
    simp only [List.cons_append, List.nil_append, UInt8.le_iff_toNat_le, UInt8.reduceToNat]
    rw [if_neg (by omega), if_pos (by omega), if_pos (isContinuation_iff.2 hb)]
    exact ⟨_, rfl⟩
  | [a, b, c], h, rest => by
    obtain ⟨hlow, hhigh, hb, hc, hover, hsurrogate⟩ := h
    unfold decodeUtf8At
    simp only [List.cons_append, List.nil_append, UInt8.le_iff_toNat_le, UInt8.lt_iff_toNat_lt,
      ← UInt8.toNat_inj, UInt8.reduceToNat, isContinuation_iff.2 hb, isContinuation_iff.2 hc]
    rw [if_neg (by omega), if_neg (by omega), if_pos (by omega), if_neg (by simp),
      if_neg (by omega)]
    exact ⟨_, rfl⟩
  | [a, b, c, d], h, rest => by
    obtain ⟨hlow, hhigh, hb, hc, hd, hover, hlast⟩ := h
    unfold decodeUtf8At
    simp only [List.cons_append, List.nil_append, UInt8.le_iff_toNat_le, UInt8.lt_iff_toNat_lt,
      ← UInt8.toNat_inj, UInt8.reduceToNat, isContinuation_iff.2 hb, isContinuation_iff.2 hc,
      isContinuation_iff.2 hd]
    rw [if_neg (by omega), if_neg (by omega), if_neg (by omega), if_pos (by omega),
      if_neg (by simp), if_neg (by omega)]
    exact ⟨_, rfl⟩

lemma table_ne_nil {u : Bytes} (h : Table u) : u ≠ [] := by
  rintro rfl
  exact h

-- The first sequence of a text that is not well formed.
structure FirstIllFormed (text : Bytes) (offset : ℕ) : Prop where
  inside : offset < text.length
  before : WellFormed (text.take offset)
  illFormed : ∀ u, Table u → ¬ OccursAt text u offset

lemma decodeUtf8At_none {text : Bytes} (h : ∀ u, Table u → ¬ u <+: text) :
    decodeUtf8At text = none := by
  cases hd : decodeUtf8At text with
  | none => rfl
  | some decoded =>
    obtain ⟨u, hu, htext⟩ := table_of_decodeUtf8At hd
    exact absurd (htext ▸ List.prefix_append u _) (h u hu)

lemma validateUtf8From_unit {u rest : Bytes} (hu : Table u) {fuel offset : ℕ}
    (hfuel : (u ++ rest).length ≤ fuel) :
    validateUtf8From fuel offset (u ++ rest) =
      validateUtf8From (fuel - 1) (offset + u.length) rest := by
  obtain ⟨codepoint, hd⟩ := decodeUtf8At_of_table hu rest
  have hne := table_ne_nil hu
  cases u with
  | nil => exact absurd rfl hne
  | cons byte u =>
    obtain ⟨fuel, rfl⟩ : ∃ m, fuel = m + 1 := by
      simp only [List.cons_append, List.length_cons] at hfuel
      exact ⟨fuel - 1, by omega⟩
    rw [List.cons_append] at hd ⊢
    rw [validateUtf8From, hd, Nat.add_sub_cancel]
    simp only [List.length_cons, List.length_append]
    congr 1
    omega

-- A well-formed front is passed over.
lemma validateUtf8From_append {front rest : Bytes} (hfront : WellFormed front) {fuel offset : ℕ}
    (hfuel : (front ++ rest).length ≤ fuel) :
    ∃ more, rest.length ≤ more ∧ validateUtf8From fuel offset (front ++ rest) =
      validateUtf8From more (offset + front.length) rest := by
  refine WellFormed.induction
    (motive := fun front => ∀ fuel offset, (front ++ rest).length ≤ fuel → ∃ more,
      rest.length ≤ more ∧ validateUtf8From fuel offset (front ++ rest) =
        validateUtf8From more (offset + front.length) rest) hfront ?_ ?_ fuel offset hfuel
  · intro fuel offset hfuel
    exact ⟨fuel, hfuel, rfl⟩
  · intro u t hu ht ih fuel offset hfuel
    have hpos := List.length_pos_iff.mpr (table_ne_nil hu)
    rw [List.append_assoc] at hfuel ⊢
    rw [validateUtf8From_unit hu hfuel]
    rw [List.length_append] at hfuel
    obtain ⟨more, hmore, heq⟩ := ih (fuel - 1) (offset + u.length) (by omega)
    exact ⟨more, hmore, by rw [heq, List.length_append, Nat.add_assoc]⟩

lemma validateUtf8_wellFormed {text : Bytes} (h : WellFormed text) : validateUtf8 text = none := by
  obtain ⟨more, -, heq⟩ := @validateUtf8From_append _ [] h text.length 0 (by simp)
  rw [List.append_nil] at heq
  rw [validateUtf8, heq]
  cases more <;> rfl

lemma validateUtf8_firstIllFormed {text : Bytes} {offset : ℕ} (h : FirstIllFormed text offset) :
    validateUtf8 text = some offset := by
  obtain ⟨more, hmore, heq⟩ := @validateUtf8From_append _ (text.drop offset) h.before
    text.length 0 (by rw [List.take_append_drop])
  rw [List.take_append_drop, List.length_take, Nat.min_eq_left h.inside.le, Nat.zero_add] at heq
  have hnone := decodeUtf8At_none h.illFormed
  rw [validateUtf8, heq]
  cases hrest : text.drop offset with
  | nil =>
    have hinside := h.inside
    rw [List.drop_eq_nil_iff] at hrest
    omega
  | cons byte bytes =>
    rw [hrest] at hnone hmore
    obtain ⟨more, rfl⟩ : ∃ m, more = m + 1 := ⟨more - 1, by simp at hmore; omega⟩
    rw [validateUtf8From, hnone]

-- Every text is well formed or has a first ill-formed sequence.
lemma wellFormed_or_illFormed (text : Bytes) :
    WellFormed text ∨ ∃ offset, FirstIllFormed text offset := by
  induction hn : text.length using Nat.strong_induction_on generalizing text with
  | _ n ih =>
    by_cases hnil : text = []
    · exact .inl (hnil ▸ wellFormed_nil)
    by_cases hunit : ∃ u, Table u ∧ u <+: text
    · obtain ⟨u, hu, rest, rfl⟩ := hunit
      have hpos := List.length_pos_iff.mpr (table_ne_nil hu)
      obtain hrest | ⟨offset, hrest⟩ := ih rest.length (by rw [← hn, List.length_append]; omega)
        rest rfl
      · exact .inl (wellFormed_append (wellFormed_unit hu) hrest)
      · refine .inr ⟨u.length + offset, ?_, ?_, ?_⟩
        · have := hrest.inside
          rw [List.length_append]
          omega
        · rw [List.take_length_add_append]
          exact wellFormed_append (wellFormed_unit hu) hrest.before
        · intro v hv hoccurs
          refine hrest.illFormed v hv ?_
          rw [← occursAt_drop, List.drop_left] at hoccurs
          exact hoccurs
    · push Not at hunit
      refine .inr ⟨0, List.length_pos_iff.mpr hnil, ?_, ?_⟩
      · rw [List.take_zero]
        exact wellFormed_nil
      · intro u hu hoccurs
        rw [OccursAt, List.drop_zero] at hoccurs
        exact hunit u hu hoccurs

lemma validateUtf8_eq_some {text : Bytes} {offset : ℕ} :
    validateUtf8 text = some offset ↔ FirstIllFormed text offset := by
  refine ⟨fun h => ?_, validateUtf8_firstIllFormed⟩
  obtain hw | ⟨other, hother⟩ := wellFormed_or_illFormed text
  · rw [validateUtf8_wellFormed hw] at h
    cases h
  · rw [validateUtf8_firstIllFormed hother] at h
    exact Option.some.inj h ▸ hother

lemma validateUtf8_eq_none {text : Bytes} : validateUtf8 text = none ↔ WellFormed text := by
  refine ⟨fun h => ?_, validateUtf8_wellFormed⟩
  obtain hw | ⟨other, hother⟩ := wellFormed_or_illFormed text
  · exact hw
  · rw [validateUtf8_firstIllFormed hother] at h
    cases h

end Qwen3xOrin.Text
