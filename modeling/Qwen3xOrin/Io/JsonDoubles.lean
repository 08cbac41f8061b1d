import Mathlib.Algebra.Order.Floor.Ring
import Mathlib.Data.Int.Log
import Qwen3xOrin.Io.JsonComplete
import Qwen3xOrin.Io.JsonIntegers

/-! The double of a JSON number: the decimal fraction that its spelling denotes, rounded to the
nearest binary64 value. -/

namespace Qwen3xOrin.Io.Json

section Decimal

def digitsValue (digits : Text) : ℕ :=
  digits.foldl (fun value digit => value * 10 + (digit.toNat - 48)) 0

def isExponentMark (byte : UInt8) : Bool := byte = 101 ∨ byte = 69

def exponentValue (text : Text) : ℤ :=
  match text with
  | [] => 0
  | sign :: digits =>
    if sign = 45 then -digitsValue digits
    else if sign = 43 then digitsValue digits
    else digitsValue text

def magnitudeValue (text : Text) : ℚ :=
  let mantissa := text.takeWhile fun byte => !isExponentMark byte
  let integer := mantissa.takeWhile (· ≠ 46)
  let fraction := mantissa.drop (integer.length + 1)
  let exponent := exponentValue (text.drop (mantissa.length + 1))
  digitsValue (integer ++ fraction) * 10 ^ (exponent - fraction.length)

def decimalValue (text : Text) : ℚ :=
  if text.head? = some 45 then -magnitudeValue (text.drop 1) else magnitudeValue text

lemma decimalValue_zero : decimalValue [48] = 0 := by
  rw [decimalValue, if_neg (by decide), magnitudeValue]
  exact mul_eq_zero_of_left (Nat.cast_eq_zero.mpr (by decide)) _

end Decimal

section Binary64

-- Ties go to the even neighbour.
def roundHalfEven (value : ℚ) : ℤ :=
  let below := ⌊value⌋
  let rest := value - below
  if rest < 1 / 2 ∨ rest = 1 / 2 ∧ below % 2 = 0 then below else below + 1

-- The exponent of the last place, which does not sink below the subnormal one.
def lastPlace (magnitude : ℚ) : ℤ := max (Int.log 2 magnitude) (-1022) - 52

-- `none` is `result_out_of_range`: too large, or so small that nothing is left of it.
def nearestBinary64 (value : ℚ) : Option ℚ :=
  if value = 0 then some 0
  else
    let place := lastPlace |value|
    let rounded := roundHalfEven (|value| / 2 ^ place)
    let magnitude : ℚ := rounded * 2 ^ place
    if rounded = 0 ∨ 2 ^ 1024 ≤ magnitude then none
    else some (if value < 0 then -magnitude else magnitude)

-- The text is one that the parser kept, so that all of it is read. The two zeros compare equal and
-- are one value here.
def toDouble (text : Text) : Option ℚ :=
  if text = [] then none else nearestBinary64 (decimalValue text)

end Binary64

lemma toDouble_eq {text : Text} (h : NumberText text) :
    toDouble text = nearestBinary64 (decimalValue text) := by
  refine if_neg ?_
  rintro rfl
  obtain ⟨byte, tail, htext, -⟩ := number_head h
  cases htext

lemma roundHalfEven_intCast (value : ℤ) : roundHalfEven value = value := by
  simp [roundHalfEven]

lemma nearestBinary64_zero : nearestBinary64 0 = some 0 := if_pos rfl

lemma nearestBinary64_one : nearestBinary64 1 = some 1 := by
  have hplace : lastPlace |1| = -52 := by
    rw [lastPlace, abs_one, Int.log_one_right]
    rfl
  have hrounded : roundHalfEven (|1| / 2 ^ (-52 : ℤ)) = 2 ^ 52 := by
    rw [show |(1 : ℚ)| / 2 ^ (-52 : ℤ) = ((2 ^ 52 : ℤ) : ℚ) by norm_num, roundHalfEven_intCast]
  have hmagnitude : ((2 ^ 52 : ℤ) : ℚ) * 2 ^ (-52 : ℤ) = 1 := by norm_num
  have hfinite : ¬(2 ^ 1024 ≤ (1 : ℚ)) := (one_lt_pow₀ one_lt_two (by decide)).not_ge
  rw [nearestBinary64, if_neg one_ne_zero]
  dsimp only
  rw [hplace, hrounded, hmagnitude, if_neg (not_or.mpr ⟨by decide, hfinite⟩),
    if_neg (by norm_num)]

end Qwen3xOrin.Io.Json
