import Qwen3xOrin.Io.JsonGrammar
import Qwen3xOrin.Io.Tensor
import Qwen3xOrin.Library.Guard
import Mathlib.Data.Nat.Digits.Defs

/-! The integers of a JSON number: written in decimal, and read back out of the kept spelling. -/

namespace Qwen3xOrin.Io.Json

open Library

def decimalDigit (digit : ℕ) : UInt8 := UInt8.ofNat (48 + digit)

def toStringUnsigned (value : ℕ) : Text :=
  if value = 0 then [48] else (Nat.digits 10 value).reverse.map decimalDigit

def toStringSigned (value : ℤ) : Text :=
  if value < 0 then 45 :: toStringUnsigned value.natAbs else toStringUnsigned value.natAbs

-- The text must be digits to its end, and at least one.
def fromChars (text : Text) : Option ℕ := do
  guard (text ≠ [] ∧ text.all isDecimalDigit)
  pure (text.foldl (fun value digit => value * 10 + (digit.toNat - 48)) 0)

def isInteger (text : Text) : Bool := text.all fun byte => byte ≠ 46 ∧ byte ≠ 101 ∧ byte ≠ 69

def toUint64 (text : Text) : Option ℕ := do
  guard (isInteger text ∧ text ≠ [] ∧ text.head? ≠ some 45)
  let parsed ← fromChars text
  guard (parsed ≤ uint64Max)
  pure parsed

def toInt64 (text : Text) : Option ℤ := do
  guard (isInteger text ∧ text ≠ [])
  let magnitude ← fromChars (if text.head? = some 45 then text.drop 1 else text)
  let parsed : ℤ := if text.head? = some 45 then -(magnitude : ℤ) else magnitude
  guard (-2 ^ 63 ≤ parsed ∧ parsed < 2 ^ 63)
  pure parsed

section Decimal

variable {value : ℕ}

lemma isDecimalDigit_decimalDigit {digit : ℕ} (h : digit < 10) :
    isDecimalDigit (decimalDigit digit) = true := by
  interval_cases digit <;> decide

lemma decimalDigit_toNat {digit : ℕ} (h : digit < 10) :
    (decimalDigit digit).toNat - 48 = digit := by
  interval_cases digit <;> decide

lemma foldl_decimal (digits : List ℕ) (hdigits : ∀ digit ∈ digits, digit < 10) (start : ℕ) :
    (digits.map decimalDigit).foldl (fun value digit => value * 10 + (digit.toNat - 48)) start =
      digits.foldl (fun value digit => value * 10 + digit) start := by
  induction digits generalizing start with
  | nil => rfl
  | cons digit digits ih =>
    rw [List.map_cons, List.foldl_cons, List.foldl_cons,
      decimalDigit_toNat (hdigits digit List.mem_cons_self)]
    exact ih (fun other hother => hdigits other (List.mem_cons_of_mem digit hother)) _

lemma foldl_reverse_digits (digits : List ℕ) :
    digits.reverse.foldl (fun value digit => value * 10 + digit) 0 = Nat.ofDigits 10 digits := by
  induction digits with
  | nil => rfl
  | cons digit digits ih =>
    rw [List.reverse_cons, List.foldl_append, ih, Nat.ofDigits_cons]
    simp only [List.foldl_cons, List.foldl_nil]
    omega

lemma digits_toStringUnsigned (value : ℕ) : Digits (toStringUnsigned value) := by
  unfold toStringUnsigned
  split_ifs with hzero
  · exact ⟨by simp, by simp [isDecimalDigit]⟩
  · have hnonempty := Nat.digits_ne_nil_iff_ne_zero (b := 10).mpr hzero
    refine ⟨by simpa using hnonempty, ?_⟩
    intro byte hbyte
    obtain ⟨digit, hdigit, rfl⟩ := List.mem_map.mp hbyte
    exact isDecimalDigit_decimalDigit
      (Nat.digits_lt_base (by decide) (List.mem_reverse.mp hdigit))

lemma integerText_toStringUnsigned (value : ℕ) : IntegerText (toStringUnsigned value) := by
  by_cases hzero : value = 0
  · exact Or.inl (if_pos hzero)
  refine Or.inr ⟨?_, digits_toStringUnsigned value⟩
  have hdigits := Nat.digits_ne_nil_iff_ne_zero (b := 10).mpr hzero
  have hlast := Nat.getLast_digit_ne_zero 10 hzero
  have hless := Nat.digits_lt_base (b := 10) (by decide) (List.getLast_mem hdigits)
  refine ⟨decimalDigit ((Nat.digits 10 value).getLast hdigits), ?_, ?_⟩
  · rw [toStringUnsigned, if_neg hzero, List.head?_map, List.head?_reverse,
      List.getLast?_eq_getLast_of_ne_nil hdigits]
    rfl
  · revert hlast hless
    generalize (Nat.digits 10 value).getLast hdigits = digit
    intro hlast hless
    interval_cases digit <;> first | exact absurd rfl hlast | decide

lemma numberText_of_integer {text : Text} (h : IntegerText text) : NumberText text :=
  ⟨[], text, [], [], Or.inl rfl, h, Or.inl rfl, Or.inl rfl, by simp⟩

lemma numberText_toStringUnsigned (value : ℕ) : NumberText (toStringUnsigned value) :=
  numberText_of_integer (integerText_toStringUnsigned value)

lemma numberText_toStringSigned (value : ℤ) : NumberText (toStringSigned value) := by
  unfold toStringSigned
  split_ifs
  · exact ⟨[45], toStringUnsigned value.natAbs, [], [], Or.inr rfl, integerText_toStringUnsigned _, Or.inl rfl, Or.inl rfl,
      by simp⟩
  · exact numberText_toStringUnsigned _

lemma fromChars_toStringUnsigned (value : ℕ) :
    fromChars (toStringUnsigned value) = some value := by
  obtain ⟨hnonempty, hdigits⟩ := digits_toStringUnsigned value
  have hguard : toStringUnsigned value ≠ [] ∧ (toStringUnsigned value).all isDecimalDigit :=
    ⟨hnonempty, by simpa using hdigits⟩
  rw [fromChars, guard_bind hguard]
  congr 1
  by_cases hzero : value = 0
  · rw [toStringUnsigned, if_pos hzero, hzero]
    rfl
  · have hless : ∀ digit ∈ (Nat.digits 10 value).reverse, digit < 10 := fun digit hdigit =>
      Nat.digits_lt_base (by decide) (List.mem_reverse.mp hdigit)
    rw [toStringUnsigned, if_neg hzero, foldl_decimal _ hless, foldl_reverse_digits,
      Nat.ofDigits_digits]

lemma isInteger_of_digits {text : Text} (h : ∀ byte ∈ text, isDecimalDigit byte = true) :
    isInteger text = true := by
  simp only [isInteger, List.all_eq_true, decide_eq_true_eq]
  intro byte hbyte
  have hdigit := h byte hbyte
  refine ⟨?_, ?_, ?_⟩ <;>
  · rintro rfl
    revert hdigit
    decide

lemma head_digits {text : Text} (h : Digits text) : text.head? ≠ some 45 := by
  intro hhead
  have hdigit := h.2 45 (List.mem_of_mem_head? hhead)
  revert hdigit
  decide

lemma toUint64_toStringUnsigned (value : UInt64) :
    toUint64 (toStringUnsigned value.toNat) = some value.toNat := by
  have hdigits := digits_toStringUnsigned value.toNat
  have hle : value.toNat ≤ uint64Max := Nat.le_pred_of_lt value.toNat_lt
  rw [toUint64, guard_bind ⟨isInteger_of_digits hdigits.2, hdigits.1, head_digits hdigits⟩,
    fromChars_toStringUnsigned, some_bind, guard_bind hle]
  rfl

lemma toInt64_toStringSigned (value : Int64) :
    toInt64 (toStringSigned value.toInt) = some value.toInt := by
  have hrange : -2 ^ 63 ≤ value.toInt ∧ value.toInt < 2 ^ 63 :=
    ⟨value.le_toInt, value.toInt_lt⟩
  have hdigits := digits_toStringUnsigned value.toInt.natAbs
  have hinteger := isInteger_of_digits hdigits.2
  unfold toStringSigned
  split_ifs with hneg
  · have hguard : isInteger (45 :: toStringUnsigned value.toInt.natAbs) ∧
        45 :: toStringUnsigned value.toInt.natAbs ≠ [] := by
      refine ⟨?_, by simp⟩
      rw [isInteger, List.all_cons]
      exact hinteger
    have hvalue : -(value.toInt.natAbs : ℤ) = value.toInt := by omega
    rw [toInt64, guard_bind hguard]
    simp only [List.head?_cons, List.drop_one, List.tail_cons, if_true]
    rw [fromChars_toStringUnsigned, some_bind, hvalue, guard_bind hrange]
    rfl
  · have hvalue : (value.toInt.natAbs : ℤ) = value.toInt := by omega
    rw [toInt64, guard_bind ⟨hinteger, hdigits.1⟩]
    simp only [head_digits hdigits, if_false]
    rw [fromChars_toStringUnsigned, some_bind, hvalue, guard_bind hrange]
    rfl

end Decimal

end Qwen3xOrin.Io.Json
