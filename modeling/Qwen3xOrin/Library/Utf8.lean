import Mathlib.Tactic

/-! UTF-8: the encoding of a scalar value, and the byte ranges by which a decoder recognises
one encoded value. -/

namespace Qwen3xOrin.Library.Utf8

def IsScalar (c : ℕ) : Prop := c < 0xD800 ∨ (0xE000 ≤ c ∧ c < 0x110000)

def tailByte (c : ℕ) : UInt8 := UInt8.ofNat (0x80 + c % 64)

def encode (c : ℕ) : List UInt8 :=
  if c < 0x80 then [UInt8.ofNat c]
  else if c < 0x800 then [UInt8.ofNat (0xC0 + c / 64), tailByte c]
  else if c < 0x10000 then [UInt8.ofNat (0xE0 + c / 4096), tailByte (c / 64), tailByte c]
  else [UInt8.ofNat (0xF0 + c / 262144), tailByte (c / 4096), tailByte (c / 64), tailByte c]

def WellFormed (s : List UInt8) : Prop :=
  ∃ cs : List ℕ, (∀ c ∈ cs, IsScalar c) ∧ s = cs.flatMap encode

def IsTail (b : UInt8) : Prop := 0x80 ≤ b.toNat ∧ b.toNat ≤ 0xBF

lemma and_top_bits (n : ℕ) : n &&& 0xC0 = 2 ^ 6 * (n / 2 ^ 6 % 2 ^ 2) := by
  refine Nat.eq_of_testBit_eq fun i => ?_
  rw [show 0xC0 = 2 ^ 6 * (2 ^ 2 - 1) by rfl, Nat.testBit_and, Nat.testBit_two_pow_mul,
    Nat.testBit_two_pow_mul, Nat.testBit_two_pow_sub_one, Nat.testBit_mod_two_pow,
    Nat.testBit_div_two_pow]
  by_cases hi : 6 ≤ i
  · rw [Nat.sub_add_cancel hi]
    simp [hi, Bool.and_comm]
  · simp [hi]

lemma isTail_iff {byte : UInt8} : byte &&& 0xC0 = 0x80 ↔ IsTail byte := by
  have hlt : byte.toNat < 256 := byte.toNat_lt
  rw [← UInt8.toNat_inj, UInt8.toNat_and, IsTail]
  simp only [UInt8.reduceToNat, and_top_bits]
  omega

-- The byte sequences of one scalar value, by ranges.
def Table : List UInt8 → Prop
  | [a] => a.toNat < 0x80
  | [a, b] => 0xC2 ≤ a.toNat ∧ a.toNat ≤ 0xDF ∧ IsTail b
  | [a, b, c] => 0xE0 ≤ a.toNat ∧ a.toNat ≤ 0xEF ∧ IsTail b ∧ IsTail c ∧
    (a.toNat = 0xE0 → 0xA0 ≤ b.toNat) ∧ (a.toNat = 0xED → b.toNat < 0xA0)
  | [a, b, c, d] => 0xF0 ≤ a.toNat ∧ a.toNat ≤ 0xF4 ∧ IsTail b ∧ IsTail c ∧ IsTail d ∧
    (a.toNat = 0xF0 → 0x90 ≤ b.toNat) ∧ (a.toNat = 0xF4 → b.toNat < 0x90)
  | _ => False

lemma toNat_ofNat {n : ℕ} (h : n < 256) : (UInt8.ofNat n).toNat = n := by
  simp [UInt8.toNat_ofNat', Nat.mod_eq_of_lt h]

lemma toNat_tailByte (c : ℕ) : (tailByte c).toNat = 0x80 + c % 64 :=
  toNat_ofNat (by omega)

lemma eq_ofNat {b : UInt8} {n : ℕ} (h : b.toNat = n) : UInt8.ofNat n = b := by
  rw [← h, UInt8.ofNat_toNat]

lemma eq_tailByte {b : UInt8} {c : ℕ} (h : b.toNat = 0x80 + c % 64) : tailByte c = b :=
  eq_ofNat h

lemma table_encode {c : ℕ} (h : IsScalar c) : Table (encode c) := by
  unfold IsScalar at h
  unfold encode
  split_ifs with h₁ h₂ h₃
  · simp only [Table]
    rw [toNat_ofNat (by omega)]
    exact h₁
  · simp only [Table, IsTail, toNat_tailByte]
    rw [toNat_ofNat (by omega)]
    omega
  · simp only [Table, IsTail, toNat_tailByte]
    rw [toNat_ofNat (by omega)]
    omega
  · simp only [Table, IsTail, toNat_tailByte]
    rw [toNat_ofNat (by omega)]
    omega

lemma encode_of_table : ∀ {u : List UInt8}, Table u → ∃ c, IsScalar c ∧ encode c = u
  | [], h => h.elim
  | [a], h => by
    simp only [Table] at h
    refine ⟨a.toNat, by unfold IsScalar; omega, ?_⟩
    rw [encode, if_pos h, UInt8.ofNat_toNat]
  | [a, b], h => by
    simp only [Table, IsTail] at h
    refine ⟨(a.toNat - 0xC0) * 64 + (b.toNat - 0x80), by unfold IsScalar; omega, ?_⟩
    rw [encode, if_neg (by omega), if_pos (by omega), eq_ofNat (b := a) (by omega),
      eq_tailByte (b := b) (by omega)]
  | [a, b, c], h => by
    simp only [Table, IsTail] at h
    refine ⟨(a.toNat - 0xE0) * 4096 + (b.toNat - 0x80) * 64 + (c.toNat - 0x80),
      by unfold IsScalar; omega, ?_⟩
    rw [encode, if_neg (by omega), if_neg (by omega), if_pos (by omega),
      eq_ofNat (b := a) (by omega), eq_tailByte (b := b) (by omega), eq_tailByte (b := c) (by omega)]
  | [a, b, c, d], h => by
    simp only [Table, IsTail] at h
    refine ⟨(a.toNat - 0xF0) * 262144 + (b.toNat - 0x80) * 4096 + (c.toNat - 0x80) * 64 +
      (d.toNat - 0x80), by unfold IsScalar; omega, ?_⟩
    rw [encode, if_neg (by omega), if_neg (by omega), if_neg (by omega),
      eq_ofNat (b := a) (by omega), eq_tailByte (b := b) (by omega), eq_tailByte (b := c) (by omega),
      eq_tailByte (b := d) (by omega)]

lemma wellFormed_nil : WellFormed [] := ⟨[], by simp, rfl⟩

lemma wellFormed_append {s t : List UInt8} (hs : WellFormed s) (ht : WellFormed t) :
    WellFormed (s ++ t) := by
  obtain ⟨cs, hcs, rfl⟩ := hs
  obtain ⟨ds, hds, rfl⟩ := ht
  refine ⟨cs ++ ds, ?_, by rw [List.flatMap_append]⟩
  intro c hc
  obtain hc | hc := List.mem_append.mp hc
  · exact hcs c hc
  · exact hds c hc

lemma wellFormed_unit {u : List UInt8} (h : Table u) : WellFormed u := by
  obtain ⟨c, hc, rfl⟩ := encode_of_table h
  exact ⟨[c], by simpa using hc, by simp⟩

-- Induction over a well-formed text, one encoded value at a time.
lemma WellFormed.induction {motive : List UInt8 → Prop} {s : List UInt8} (h : WellFormed s)
    (nil : motive []) (unit : ∀ u t, Table u → WellFormed t → motive t → motive (u ++ t)) :
    motive s := by
  obtain ⟨cs, hcs, rfl⟩ := h
  induction cs with
  | nil => exact nil
  | cons c cs ih =>
    have hrest : ∀ d ∈ cs, IsScalar d := fun d hd => hcs d (List.mem_cons_of_mem c hd)
    rw [List.flatMap_cons]
    exact unit _ _ (table_encode (hcs c (List.mem_cons_self))) ⟨cs, hrest, rfl⟩ (ih hrest)

end Qwen3xOrin.Library.Utf8
