import Mathlib.Data.List.TakeWhile
import Qwen3xOrin.Io.JsonGrammar

/-! The number rule of the parser reads exactly the numbers of the grammar. -/

namespace Qwen3xOrin.Io.Json

open Library

variable {limits : Limits} {text start rest : Text}

def NoDigit (rest : Text) : Prop := ∀ byte ∈ rest.head?, isDecimalDigit byte = false

-- What may stand behind a number without continuing it.
def Stops (rest : Text) : Prop :=
  ∀ byte ∈ rest.head?, isDecimalDigit byte = false ∧ byte ≠ 46 ∧ byte ≠ 101 ∧ byte ≠ 69

lemma Stops.noDigit (h : Stops rest) : NoDigit rest := fun byte hbyte => (h byte hbyte).1

lemma skipDigits_append (htext : ∀ byte ∈ text, isDecimalDigit byte = true) (hrest : NoDigit rest) :
    skipDigits (text ++ rest) = rest := by
  unfold skipDigits
  rw [List.dropWhile_append_of_pos htext]
  cases rest with
  | nil => rfl
  | cons byte rest => rw [List.dropWhile_cons_of_neg (by simp [hrest byte rfl])]

lemma skipDigits_split (text : Text) :
    ∃ digits, (∀ byte ∈ digits, isDecimalDigit byte = true) ∧ text = digits ++ skipDigits text :=
  ⟨text.takeWhile isDecimalDigit, fun _ hbyte => List.mem_takeWhile_imp hbyte,
    List.takeWhile_append_dropWhile.symm⟩

lemma parseDigits_sound (h : parseDigits limits text = .ok rest) :
    ∃ digits, Digits digits ∧ text = digits ++ rest := by
  unfold parseDigits at h
  cases text with
  | nil => cases h
  | cons first text =>
    dsimp only at h
    split_ifs at h with hfirst
    · cases h
      obtain ⟨digits, hdigits, hsplit⟩ := skipDigits_split text
      have hskip : skipDigits (first :: text) = skipDigits text :=
        List.dropWhile_cons_of_pos hfirst
      refine ⟨first :: digits, ⟨by simp, ?_⟩, ?_⟩
      · exact List.forall_mem_cons.mpr ⟨hfirst, hdigits⟩
      · rw [hskip, List.cons_append, ← hsplit]
    · cases h

lemma parseDigits_complete (h : Digits text) (hrest : NoDigit rest) :
    parseDigits limits (text ++ rest) = .ok rest := by
  obtain ⟨hne, hdigits⟩ := h
  cases text with
  | nil => exact absurd rfl hne
  | cons first text =>
    have hskip := skipDigits_append hdigits hrest
    rw [List.cons_append] at hskip
    rw [List.cons_append, parseDigits, if_pos (hdigits first (by simp)), hskip]

lemma isDecimalDigit_iff {byte : UInt8} :
    isDecimalDigit byte = true ↔ 48 ≤ byte.toNat ∧ byte.toNat ≤ 57 := by
  simp [isDecimalDigit, UInt8.le_iff_toNat_le]

lemma parseInteger_sound (h : parseInteger limits text = .ok rest) :
    ∃ integer, IntegerText integer ∧ text = integer ++ rest := by
  unfold parseInteger at h
  cases text with
  | nil => cases h
  | cons first text =>
    dsimp only at h
    split_ifs at h with hzero hfirst
    · refine ⟨[48], Or.inl rfl, ?_⟩
      cases text with
      | nil =>
        cases h
        rw [hzero]
        rfl
      | cons next text =>
        dsimp only at h
        split_ifs at h
        · cases h
        · cases h
          rw [hzero]
          rfl
    · cases h
      have hdigit : isDecimalDigit first = true := by
        rw [isDecimalDigit_iff]
        simp only [UInt8.le_iff_toNat_le, UInt8.reduceToNat] at hfirst
        omega
      obtain ⟨digits, hdigits, hsplit⟩ := skipDigits_split text
      have hskip : skipDigits (first :: text) = skipDigits text :=
        List.dropWhile_cons_of_pos hdigit
      refine ⟨first :: digits, Or.inr ⟨⟨first, rfl, hzero⟩, by simp, ?_⟩, ?_⟩
      · exact List.forall_mem_cons.mpr ⟨hdigit, hdigits⟩
      · rw [hskip, List.cons_append, ← hsplit]
    · cases h

lemma parseInteger_complete (h : IntegerText text) (hrest : NoDigit rest) :
    parseInteger limits (text ++ rest) = .ok rest := by
  obtain rfl | ⟨⟨first, hfirst, hzero⟩, hdigits⟩ := h
  · rw [List.singleton_append]
    unfold parseInteger
    cases rest with
    | nil => rfl
    | cons next rest =>
      dsimp only
      rw [if_pos rfl, if_neg (by simp [hrest next rfl])]
  · cases text with
    | nil => cases hfirst
    | cons byte text =>
      obtain rfl : byte = first := Option.some.inj hfirst
      have hskip := skipDigits_append hdigits.2 hrest
      have hrange : 49 ≤ byte ∧ byte ≤ 57 := by
        have hdigit := isDecimalDigit_iff.1 (hdigits.2 byte (by simp))
        rw [← UInt8.toNat_inj.ne] at hzero
        simp only [UInt8.le_iff_toNat_le, UInt8.reduceToNat] at hzero ⊢
        omega
      rw [List.cons_append] at hskip
      rw [List.cons_append]
      unfold parseInteger
      dsimp only
      rw [if_neg hzero, if_pos hrange, hskip]

lemma parseFraction_sound (h : parseFraction limits text = .ok rest) :
    ∃ fraction, FractionText fraction ∧ text = fraction ++ rest := by
  unfold parseFraction at h
  cases text with
  | nil =>
    cases h
    exact ⟨[], Or.inl rfl, rfl⟩
  | cons point text =>
    dsimp only at h
    split_ifs at h with hpoint
    · obtain ⟨digits, hdigits, rfl⟩ := parseDigits_sound h
      exact ⟨46 :: digits, Or.inr ⟨digits, hdigits, rfl⟩, by rw [hpoint]; rfl⟩
    · cases h
      exact ⟨[], Or.inl rfl, rfl⟩

lemma parseFraction_complete (h : FractionText text) (hdigit : NoDigit rest)
    (hpoint : ∀ byte ∈ rest.head?, byte ≠ 46) : parseFraction limits (text ++ rest) = .ok rest := by
  obtain rfl | ⟨digits, hdigits, rfl⟩ := h
  · rw [List.nil_append]
    unfold parseFraction
    cases rest with
    | nil => rfl
    | cons byte rest => exact if_neg (hpoint byte rfl)
  · rw [List.cons_append, parseFraction, if_pos rfl]
    exact parseDigits_complete hdigits hdigit

lemma parseExponent_sound (h : parseExponent limits text = .ok rest) :
    ∃ exponent, ExponentText exponent ∧ text = exponent ++ rest := by
  unfold parseExponent at h
  cases text with
  | nil =>
    cases h
    exact ⟨[], Or.inl rfl, rfl⟩
  | cons letter text =>
    dsimp only at h
    split_ifs at h with hletter
    · cases text with
      | nil => cases h
      | cons sign text =>
        dsimp only at h
        split_ifs at h with hsign
        · obtain ⟨digits, hdigits, rfl⟩ := parseDigits_sound h
          refine ⟨letter :: ([sign] ++ digits),
            Or.inr ⟨letter, [sign], digits, hletter, ?_, hdigits, rfl⟩, rfl⟩
          obtain rfl | rfl := hsign
          · exact Or.inr (Or.inl rfl)
          · exact Or.inr (Or.inr rfl)
        · obtain ⟨digits, hdigits, hsplit⟩ := parseDigits_sound h
          exact ⟨letter :: ([] ++ digits),
            Or.inr ⟨letter, [], digits, hletter, Or.inl rfl, hdigits, rfl⟩, by simp [hsplit]⟩
    · cases h
      exact ⟨[], Or.inl rfl, rfl⟩

lemma parseExponent_complete (h : ExponentText text) (hrest : Stops rest) :
    parseExponent limits (text ++ rest) = .ok rest := by
  obtain rfl | ⟨letter, sign, digits, hletter, hsign, hdigits, rfl⟩ := h
  · rw [List.nil_append]
    unfold parseExponent
    cases rest with
    | nil => rfl
    | cons byte rest =>
      have hbyte := hrest byte rfl
      exact if_neg (by simp [hbyte.2.2.1, hbyte.2.2.2])
  · have hparse := @parseDigits_complete limits digits rest hdigits hrest.noDigit
    rw [List.cons_append]
    unfold parseExponent
    dsimp only
    rw [if_pos hletter, List.append_assoc]
    obtain rfl | rfl | rfl := hsign
    · obtain ⟨hne, hdigit⟩ := hdigits
      cases digits with
      | nil => exact absurd rfl hne
      | cons first digits =>
        have hfirst := isDecimalDigit_iff.1 (hdigit first (by simp))
        have hsign : ¬(first = 43 ∨ first = 45) := by
          rintro (rfl | rfl) <;> simp at hfirst
        rw [List.nil_append, List.cons_append]
        dsimp only
        rw [if_neg hsign]
        exact hparse
    · exact hparse
    · exact hparse

lemma parseNumber_sound (h : parseNumber limits start = .ok (text, rest)) :
    NumberText text ∧ start = text ++ rest := by
  obtain ⟨behind, hinteger, h⟩ := bind_ok.mp h
  obtain ⟨behind', hfraction, h⟩ := bind_ok.mp h
  obtain ⟨behind'', hexponent, hresult⟩ := bind_ok.mp h
  obtain ⟨integer, hinteger', hsplit⟩ := parseInteger_sound hinteger
  obtain ⟨fraction, hfraction', rfl⟩ := parseFraction_sound hfraction
  obtain ⟨exponent, hexponent', rfl⟩ := parseExponent_sound hexponent
  obtain ⟨sign, hsign, hstart⟩ : ∃ sign, (sign = [] ∨ sign = [45]) ∧
      start = sign ++ (integer ++ (fraction ++ (exponent ++ behind''))) := by
    split_ifs at hsplit with hminus
    · cases start with
      | nil => cases hminus
      | cons byte start =>
        cases hminus
        exact ⟨[45], Or.inr rfl, congrArg (45 :: ·) hsplit⟩
    · exact ⟨[], Or.inl rfl, hsplit⟩
  have hwhole : start = (sign ++ (integer ++ (fraction ++ exponent))) ++ behind'' := by
    rw [hstart]
    simp only [List.append_assoc]
  obtain ⟨htext, hrest⟩ := Prod.mk.inj (Except.ok.inj hresult)
  subst hrest
  have htaken : start.take (start.length - behind''.length) =
      sign ++ (integer ++ (fraction ++ exponent)) := by
    rw [hwhole, List.length_append, Nat.add_sub_cancel, List.take_left]
  rw [htaken] at htext
  rw [← htext]
  exact ⟨⟨sign, integer, fraction, exponent, hsign, hinteger', hfraction', hexponent', rfl⟩, hwhole⟩

lemma fraction_head {fraction : Text} (h : FractionText fraction) {byte : UInt8}
    (hbyte : byte ∈ fraction.head?) : byte = 46 := by
  obtain rfl | ⟨digits, -, rfl⟩ := h
  · cases hbyte
  · cases hbyte
    rfl

lemma exponent_head {exponent : Text} (h : ExponentText exponent) {byte : UInt8}
    (hbyte : byte ∈ exponent.head?) : byte = 101 ∨ byte = 69 := by
  obtain rfl | ⟨letter, sign, digits, hletter, -, -, rfl⟩ := h
  · cases hbyte
  · cases hbyte
    exact hletter

lemma head_append {a b : Text} {byte : UInt8} (h : byte ∈ (a ++ b).head?) :
    byte ∈ a.head? ∨ byte ∈ b.head? := by
  cases a with
  | nil => exact Or.inr h
  | cons first a => exact Or.inl h

lemma parseNumber_complete (h : NumberText text) (hrest : Stops rest) :
    parseNumber limits (text ++ rest) = .ok (text, rest) := by
  obtain ⟨sign, integer, fraction, exponent, hsign, hinteger, hfraction, hexponent, htext⟩ := h
  have hletter : NoDigit (exponent ++ rest) ∧ ∀ byte ∈ (exponent ++ rest).head?, byte ≠ 46 := by
    constructor
    · intro byte hbyte
      obtain hbyte | hbyte := head_append hbyte
      · obtain rfl | rfl := exponent_head hexponent hbyte <;> rfl
      · exact (hrest byte hbyte).1
    · intro byte hbyte
      obtain hbyte | hbyte := head_append hbyte
      · obtain rfl | rfl := exponent_head hexponent hbyte <;> decide
      · exact (hrest byte hbyte).2.1
  have hpoint : NoDigit (fraction ++ (exponent ++ rest)) := by
    intro byte hbyte
    obtain hbyte | hbyte := head_append hbyte
    · rw [fraction_head hfraction hbyte]
      rfl
    · exact hletter.1 byte hbyte
  have hunsigned : (if (text ++ rest).head? = some 45 then (text ++ rest).drop 1
      else text ++ rest) = integer ++ (fraction ++ (exponent ++ rest)) := by
    obtain rfl | rfl := hsign
    · have hfirst : (text ++ rest).head? ≠ some 45 := by
        rw [htext]
        obtain rfl | ⟨⟨first, hfirst, -⟩, hdigits⟩ := hinteger
        · simp
        · cases integer with
          | nil => cases hfirst
          | cons byte integer =>
            have hbyte := isDecimalDigit_iff.1 (hdigits.2 byte (by simp))
            intro hminus
            cases hminus
            simp at hbyte
      rw [if_neg hfirst, htext]
      simp
    · rw [if_pos (by rw [htext]; rfl), htext]
      simp
  unfold parseNumber
  rw [hunsigned, parseInteger_complete hinteger hpoint, ok_bind,
    parseFraction_complete hfraction hletter.1 hletter.2, ok_bind,
    parseExponent_complete hexponent hrest, ok_bind, List.length_append, Nat.add_sub_cancel,
    List.take_left]
  rfl

end Qwen3xOrin.Io.Json
