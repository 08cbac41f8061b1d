import Mathlib.Tactic

/-! Element types, checked 64-bit arithmetic and shard paths, as the tensor readers share them. -/

namespace Qwen3xOrin.Io

inductive DType
  | bool
  | f4
  | f6E2M3
  | f6E3M2
  | u8
  | i8
  | f8E5M2
  | f8E4M3
  | f8E8M0
  | f8E4M3Fnuz
  | f8E5M2Fnuz
  | i16
  | u16
  | f16
  | bf16
  | i32
  | u32
  | f32
  | c64
  | f64
  | i64
  | u64
  deriving DecidableEq, Repr

def bitWidth : DType → ℕ
  | .f4 => 4
  | .f6E2M3 | .f6E3M2 => 6
  | .bool | .u8 | .i8 | .f8E5M2 | .f8E4M3 | .f8E8M0 | .f8E4M3Fnuz | .f8E5M2Fnuz => 8
  | .i16 | .u16 | .f16 | .bf16 => 16
  | .i32 | .u32 | .f32 => 32
  | .c64 | .f64 | .i64 | .u64 => 64

lemma bitWidth_pos (dtype : DType) : 0 < bitWidth dtype := by
  cases dtype <;> decide

def uint64Max : ℕ := 2 ^ 64 - 1

def checkedAdd (left right : ℕ) : Option ℕ :=
  if uint64Max - left < right then none else some (left + right)

def checkedMultiply (left right : ℕ) : Option ℕ :=
  if left ≠ 0 ∧ uint64Max / left < right then none else some (left * right)

lemma checkedAdd_eq_some {left right output : ℕ} (h : left ≤ uint64Max) :
    checkedAdd left right = some output ↔ output = left + right ∧ left + right ≤ uint64Max := by
  unfold checkedAdd
  split_ifs with hc
  · simp only [false_iff]
    omega
  · simp only [Option.some.injEq]
    omega

lemma checkedMultiply_eq_some {left right output : ℕ} :
    checkedMultiply left right = some output ↔
      output = left * right ∧ left * right ≤ uint64Max := by
  unfold checkedMultiply
  by_cases hzero : left = 0
  · subst hzero
    simp [eq_comm]
  · have hle : left * right ≤ uint64Max ↔ right ≤ uint64Max / left := by
      rw [Nat.le_div_iff_mul_le (Nat.pos_of_ne_zero hzero), mul_comm]
    split_ifs with hc
    · simp only [false_iff, hle]
      omega
    · simp only [Option.some.injEq, hle]
      omega

def checkedProduct (factors : List ℕ) : Option ℕ :=
  factors.foldlM checkedMultiply 1

lemma foldlM_checkedMultiply {factors : List ℕ} {first output : ℕ} :
    factors.foldlM checkedMultiply first = some output ↔
      output = first * factors.prod ∧
        ∀ n, 1 ≤ n → n ≤ factors.length → first * (factors.take n).prod ≤ uint64Max := by
  induction factors generalizing first with
  | nil =>
    simp only [List.foldlM_nil, List.prod_nil, List.length_nil]
    constructor
    · intro h
      obtain rfl := Option.some.inj h
      exact ⟨by simp, fun n h₁ h₂ => by omega⟩
    · rintro ⟨rfl, -⟩
      simp
  | cons factor factors ih =>
    rw [List.foldlM_cons, Option.bind_eq_bind, Option.bind_eq_some_iff]
    constructor
    · rintro ⟨product, hproduct, hrest⟩
      obtain ⟨rfl, hle⟩ := checkedMultiply_eq_some.1 hproduct
      obtain ⟨rfl, hall⟩ := ih.mp hrest
      refine ⟨by rw [List.prod_cons, mul_assoc], ?_⟩
      intro n hn hlength
      obtain ⟨n, rfl⟩ : ∃ m, n = m + 1 := ⟨n - 1, by omega⟩
      rw [List.take_succ_cons, List.prod_cons, ← mul_assoc]
      by_cases hzero : n = 0
      · simpa [hzero] using hle
      · exact hall n (by omega) (by simpa using hlength)
    · rintro ⟨rfl, hall⟩
      refine ⟨first * factor, checkedMultiply_eq_some.2 ⟨rfl, ?_⟩, ih.mpr ⟨?_, ?_⟩⟩
      · simpa using hall 1 le_rfl (by simp)
      · rw [List.prod_cons, mul_assoc]
      · intro n hn hlength
        have hn' := hall (n + 1) (by omega) (by simpa using hlength)
        rwa [List.take_succ_cons, List.prod_cons, ← mul_assoc] at hn'

lemma checkedProduct_eq_some {factors : List ℕ} {output : ℕ} :
    checkedProduct factors = some output ↔ output = factors.prod ∧
      ∀ n, 1 ≤ n → n ≤ factors.length → (factors.take n).prod ≤ uint64Max := by
  simp [checkedProduct, foldlM_checkedMultiply]

def pathExtension (filename : List Char) : List Char :=
  let suffix := filename.reverse.takeWhile (· ≠ '.')
  if suffix.length + 1 < filename.length then '.' :: suffix.reverse else []

def isSafeRelativeShardPath (path : String) : Bool :=
  let characters := path.toList
  let components := characters.splitOn '/'
  decide (characters ≠ [] ∧ path.utf8ByteSize ≤ 4096 ∧ characters.head? ≠ some '/' ∧
    characters.getLast? ≠ some '/' ∧ ¬ (['/', '/'] <:+: characters) ∧ '\\' ∉ characters ∧
    ':' ∉ characters ∧ characters.all (fun c => 0x20 ≤ c.toNat ∧ c.toNat ≠ 0x7f) ∧
    pathExtension (components.getLastD []) = ".safetensors".toList ∧
    ∀ component ∈ components, component ≠ [] ∧ component ≠ ['.'] ∧ component ≠ ['.', '.'])

end Qwen3xOrin.Io
