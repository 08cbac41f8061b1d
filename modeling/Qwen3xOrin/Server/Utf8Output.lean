import Qwen3xOrin.Library.Utf8

/-! Streaming text output: bytes that may still complete a code point wait in `pending`, all
other ill-formed bytes become U+FFFD. -/

namespace Qwen3xOrin.Server

open Library.Utf8

def replacement : List UInt8 := [0xef, 0xbf, 0xbd]

def sequenceCount (first : UInt8) : ℕ :=
  if first.toNat < 0x80 then 1
  else if 0xc2 ≤ first.toNat ∧ first.toNat ≤ 0xdf then 2
  else if 0xe0 ≤ first.toNat ∧ first.toNat ≤ 0xef then 3
  else if 0xf0 ≤ first.toNat ∧ first.toNat ≤ 0xf4 then 4
  else 0

def breaks (first : UInt8) (j : ℕ) (byte : UInt8) : Bool :=
  decide (byte.toNat < 0x80 ∨ 0xbf < byte.toNat ∨
    (j = 1 ∧ ((first.toNat = 0xe0 ∧ byte.toNat < 0xa0) ∨
      (first.toNat = 0xed ∧ 0xa0 ≤ byte.toNat) ∨
      (first.toNat = 0xf0 ∧ byte.toNat < 0x90) ∨
      (first.toNat = 0xf4 ∧ 0x90 ≤ byte.toNat))))

-- The inner loop: the index at which it ends, with `n` bytes of the sequence still expected.
def sequenceEnd (first : UInt8) : ℕ → ℕ → List UInt8 → ℕ
  | 0, j, _ => j
  | _ + 1, j, [] => j
  | n + 1, j, byte :: rest => if breaks first j byte then j else sequenceEnd first n (j + 1) rest

-- The outer loop over what is left of `pending`; every round takes at least one byte of it.
def renderLoop (final : Bool) : ℕ → List UInt8 → List UInt8 × List UInt8
  | 0, rest => ([], rest)
  | _ + 1, [] => ([], [])
  | fuel + 1, first :: rest =>
    let count := sequenceCount first
    if count = 0 then
      let (output, pending) := renderLoop final fuel rest
      (replacement ++ output, pending)
    else
      let j := sequenceEnd first (count - 1) 1 rest
      if j = count then
        let (output, pending) := renderLoop final fuel ((first :: rest).drop count)
        ((first :: rest).take count ++ output, pending)
      else if j = (first :: rest).length ∧ final = false then ([], first :: rest)
      else
        let (output, pending) := renderLoop final fuel ((first :: rest).drop j)
        (replacement ++ output, pending)

def renderUtf8Output (pending : List UInt8) (final : Bool) : List UInt8 × List UInt8 :=
  renderLoop final pending.length pending

example : renderUtf8Output [0x41, 0xe2, 0x82] false = ([0x41], [0xe2, 0x82]) := by decide

-- One round of the outer loop: how many bytes it takes and what it writes for them. `none`
-- means that the loop waits for more input.
def renderUnit (final : Bool) (first : UInt8) (rest : List UInt8) : Option (ℕ × List UInt8) :=
  if sequenceCount first = 0 then some (1, replacement)
  else
    let j := sequenceEnd first (sequenceCount first - 1) 1 rest
    if j = sequenceCount first then
      some (sequenceCount first, (first :: rest).take (sequenceCount first))
    else if j = (first :: rest).length ∧ final = false then none
    else some (j, replacement)

lemma renderLoop_cons (final : Bool) (fuel : ℕ) (first : UInt8) (rest : List UInt8) :
    renderLoop final (fuel + 1) (first :: rest) =
      match renderUnit final first rest with
      | none => ([], first :: rest)
      | some (taken, piece) =>
        (piece ++ (renderLoop final fuel ((first :: rest).drop taken)).1,
          (renderLoop final fuel ((first :: rest).drop taken)).2) := by
  rw [renderLoop, renderUnit]
  dsimp only
  split_ifs <;> rfl

section SequenceEnd

variable (first : UInt8)

@[simp] lemma sequenceEnd_zero (j : ℕ) (rest : List UInt8) : sequenceEnd first 0 j rest = j := rfl

@[simp] lemma sequenceEnd_nil (n j : ℕ) : sequenceEnd first n j [] = j := by
  cases n <;> rfl

@[simp] lemma sequenceEnd_cons (n j : ℕ) (byte : UInt8) (rest : List UInt8) :
    sequenceEnd first (n + 1) j (byte :: rest) =
      if breaks first j byte then j else sequenceEnd first n (j + 1) rest := rfl

lemma sequenceEnd_le (n j : ℕ) (rest : List UInt8) :
    j ≤ sequenceEnd first n j rest ∧ sequenceEnd first n j rest ≤ j + n ∧
      sequenceEnd first n j rest ≤ j + rest.length := by
  induction n generalizing j rest with
  | zero => simp
  | succ n ih =>
    cases rest with
    | nil => simp
    | cons byte rest =>
      rw [sequenceEnd_cons]
      have h := ih (j + 1) rest
      rw [List.length_cons]
      split_ifs <;> omega

-- Bytes behind the sequence do not change where it ends, unless it ran out of input.
lemma sequenceEnd_append (n j : ℕ) (rest more : List UInt8)
    (h : sequenceEnd first n j rest = j + n ∨ sequenceEnd first n j rest < j + rest.length) :
    sequenceEnd first n j (rest ++ more) = sequenceEnd first n j rest := by
  induction n generalizing j rest with
  | zero => simp
  | succ n ih =>
    cases rest with
    | nil =>
      simp only [sequenceEnd_nil, List.length_nil] at h
      omega
    | cons byte rest =>
      rw [List.cons_append, sequenceEnd_cons, sequenceEnd_cons]
      rw [sequenceEnd_cons, List.length_cons] at h
      by_cases hb : breaks first j byte = true
      · rw [if_pos hb, if_pos hb]
      · rw [if_neg hb] at h
        rw [if_neg hb, if_neg hb]
        exact ih (j + 1) rest (by omega)

lemma sequenceEnd_take (n j : ℕ) (rest : List UInt8) :
    sequenceEnd first n j (rest.take n) = sequenceEnd first n j rest := by
  induction n generalizing j rest with
  | zero => simp
  | succ n ih =>
    cases rest with
    | nil => simp
    | cons byte rest => rw [List.take_succ_cons, sequenceEnd_cons, sequenceEnd_cons, ih]

end SequenceEnd

lemma sequenceCount_le (first : UInt8) : sequenceCount first ≤ 4 := by
  unfold sequenceCount
  split_ifs <;> omega

-- A complete sequence is one encoded scalar value, and conversely.
lemma table_iff {first : UInt8} {rest : List UInt8} :
    Table (first :: rest) ↔ sequenceCount first = rest.length + 1 ∧
      sequenceEnd first rest.length 1 rest = rest.length + 1 := by
  match rest with
  | [] =>
    simp only [Table, sequenceCount, sequenceEnd_zero, List.length_nil]
    split_ifs <;> simp <;> omega
  | [b] =>
    have hend : sequenceEnd first 1 1 [b] = 2 ↔ breaks first 1 b = false := by
      simp only [sequenceEnd_cons, sequenceEnd_zero]
      split_ifs <;> simp_all
    rw [List.length_singleton, hend]
    simp only [Table, IsTail, sequenceCount, breaks]
    split_ifs <;> simp <;> omega
  | [b, c] =>
    have hend : sequenceEnd first 2 1 [b, c] = 3 ↔
        breaks first 1 b = false ∧ breaks first 2 c = false := by
      simp only [sequenceEnd_cons, sequenceEnd_zero]
      split_ifs <;> simp_all
    simp only [List.length_cons, List.length_nil, hend]
    simp only [Table, IsTail, sequenceCount, breaks]
    split_ifs <;> simp <;> omega
  | [b, c, d] =>
    have hend : sequenceEnd first 3 1 [b, c, d] = 4 ↔
        breaks first 1 b = false ∧ breaks first 2 c = false ∧ breaks first 3 d = false := by
      simp only [sequenceEnd_cons, sequenceEnd_zero]
      split_ifs <;> simp_all
    simp only [List.length_cons, List.length_nil, hend]
    simp only [Table, IsTail, sequenceCount, breaks]
    split_ifs <;> simp <;> omega
  | b :: c :: d :: e :: rest =>
    have hle := sequenceCount_le first
    simp only [Table, List.length_cons, false_iff]
    omega

section RenderUnit

variable {final : Bool} {first : UInt8} {rest : List UInt8} {taken : ℕ} {piece : List UInt8}

lemma table_replacement : Table replacement := by
  simp [replacement, Table, IsTail]

lemma renderUnit_taken (h : renderUnit final first rest = some (taken, piece)) :
    1 ≤ taken ∧ taken ≤ (first :: rest).length := by
  have hend := sequenceEnd_le first (sequenceCount first - 1) 1 rest
  rw [renderUnit] at h
  dsimp only at h
  rw [List.length_cons]
  split_ifs at h <;> simp only [Option.some.injEq, Prod.mk.injEq] at h <;> omega

lemma renderUnit_append (more : List UInt8) (final' : Bool)
    (h : renderUnit false first rest = some (taken, piece)) :
    renderUnit final' first (rest ++ more) = some (taken, piece) := by
  rw [renderUnit] at h ⊢
  dsimp only at h ⊢
  by_cases hzero : sequenceCount first = 0
  · rwa [if_pos hzero] at h ⊢
  · rw [if_neg hzero] at h ⊢
    have hend := sequenceEnd_le first (sequenceCount first - 1) 1 rest
    have happend := sequenceEnd_append first (sequenceCount first - 1) 1 rest more
    by_cases hcount : sequenceEnd first (sequenceCount first - 1) 1 rest = sequenceCount first
    · rw [if_pos hcount] at h
      rw [happend (Or.inl (by omega)), if_pos hcount, ← h, ← List.cons_append,
        List.take_append_of_le_length (by rw [List.length_cons]; omega)]
    · rw [if_neg hcount] at h
      by_cases hout : sequenceEnd first (sequenceCount first - 1) 1 rest = (first :: rest).length
      · rw [if_pos ⟨hout, rfl⟩] at h
        cases h
      · rw [List.length_cons] at hout
        rw [if_neg (by simpa using hout)] at h
        rw [happend (Or.inr (by omega)), if_neg hcount, if_neg, h]
        rw [List.length_cons, List.length_append]
        omega

lemma renderUnit_waits (h : renderUnit final first rest = none) :
    final = false ∧ (first :: rest).length ≤ 3 := by
  have hend := sequenceEnd_le first (sequenceCount first - 1) 1 rest
  have hcount := sequenceCount_le first
  rw [renderUnit] at h
  dsimp only at h
  split_ifs at h with h₁ h₂ h₃
  exact ⟨h₃.2, by omega⟩

lemma renderUnit_wellFormed (h : renderUnit final first rest = some (taken, piece)) :
    WellFormed piece := by
  have hend := sequenceEnd_le first (sequenceCount first - 1) 1 rest
  rw [renderUnit] at h
  dsimp only at h
  by_cases hzero : sequenceCount first = 0
  · rw [if_pos hzero] at h
    obtain ⟨rfl, rfl⟩ := Prod.ext_iff.mp (Option.some.inj h)
    exact wellFormed_unit table_replacement
  · rw [if_neg hzero] at h
    split_ifs at h with hcount hwait
    · obtain ⟨rfl, rfl⟩ := Prod.ext_iff.mp (Option.some.inj h)
      have hlength : (rest.take (sequenceCount first - 1)).length = sequenceCount first - 1 := by
        rw [List.length_take]
        omega
      rw [← Nat.succ_pred_eq_of_ne_zero hzero, Nat.succ_eq_add_one, List.take_succ_cons]
      apply wellFormed_unit
      rw [table_iff, Nat.pred_eq_sub_one, hlength, sequenceEnd_take]
      omega
    · obtain ⟨rfl, rfl⟩ := Prod.ext_iff.mp (Option.some.inj h)
      exact wellFormed_unit table_replacement

lemma renderUnit_table {unit : List UInt8} (h : Table (first :: unit)) :
    renderUnit final first (unit ++ rest) = some ((first :: unit).length, first :: unit) := by
  obtain ⟨hcount, hend⟩ := table_iff.1 h
  have happend := sequenceEnd_append first unit.length 1 unit rest (Or.inl (by omega))
  rw [renderUnit, if_neg (by omega), hcount]
  simp [happend, hend]

end RenderUnit

lemma renderLoop_fuel (final : Bool) {n m : ℕ} {s : List UInt8} (hn : s.length ≤ n)
    (hm : s.length ≤ m) : renderLoop final n s = renderLoop final m s := by
  induction n generalizing m s with
  | zero =>
    rw [List.length_eq_zero_iff.mp (Nat.le_zero.mp hn)]
    cases m <;> rfl
  | succ n ih =>
    cases s with
    | nil => cases m <;> rfl
    | cons first rest =>
      rw [List.length_cons] at hn hm
      obtain ⟨m, rfl⟩ : ∃ m', m = m' + 1 := ⟨m - 1, by omega⟩
      rw [renderLoop_cons, renderLoop_cons]
      cases hunit : renderUnit final first rest with
      | none => rfl
      | some unit =>
        have htaken := renderUnit_taken hunit
        have hdrop : ((first :: rest).drop unit.1).length ≤ n ∧
            ((first :: rest).drop unit.1).length ≤ m := by
          rw [List.length_drop, List.length_cons]
          omega
        dsimp only
        rw [ih hdrop.1 hdrop.2]

lemma renderUtf8Output_nil (final : Bool) : renderUtf8Output [] final = ([], []) := rfl

lemma renderUtf8Output_cons (final : Bool) (first : UInt8) (rest : List UInt8) :
    renderUtf8Output (first :: rest) final =
      match renderUnit final first rest with
      | none => ([], first :: rest)
      | some (taken, piece) =>
        (piece ++ (renderUtf8Output ((first :: rest).drop taken) final).1,
          (renderUtf8Output ((first :: rest).drop taken) final).2) := by
  rw [renderUtf8Output, List.length_cons, renderLoop_cons]
  cases hunit : renderUnit final first rest with
  | none => rfl
  | some unit =>
    have htaken := renderUnit_taken hunit
    dsimp only [renderUtf8Output]
    rw [renderLoop_fuel final (n := rest.length) _ le_rfl]
    rw [List.length_drop, List.length_cons]
    omega

-- Strong induction along the units a call goes through.
lemma render_induction (final : Bool) {motive : List UInt8 → Prop} (nil : motive [])
    (waits : ∀ first rest, renderUnit final first rest = none → motive (first :: rest))
    (unit : ∀ first rest taken piece, renderUnit final first rest = some (taken, piece) →
      motive ((first :: rest).drop taken) → motive (first :: rest)) (s : List UInt8) :
    motive s := by
  induction hn : s.length using Nat.strong_induction_on generalizing s with
  | _ n ih =>
    cases s with
    | nil => exact nil
    | cons first rest =>
      cases hunit : renderUnit final first rest with
      | none => exact waits first rest hunit
      | some u =>
        have htaken := renderUnit_taken hunit
        refine unit first rest u.1 u.2 hunit (ih _ ?_ _ rfl)
        rw [List.length_drop]
        omega

lemma render_pending_length (s : List UInt8) (final : Bool) :
    (renderUtf8Output s final).2.length ≤ 3 := by
  induction s using render_induction final with
  | nil => simp [renderUtf8Output_nil]
  | waits first rest h =>
    rw [renderUtf8Output_cons, h]
    exact (renderUnit_waits h).2
  | unit first rest taken piece h ih =>
    rw [renderUtf8Output_cons, h]
    exact ih

lemma render_wellFormed (s : List UInt8) (final : Bool) :
    WellFormed (renderUtf8Output s final).1 := by
  induction s using render_induction final with
  | nil => exact wellFormed_nil
  | waits first rest h =>
    rw [renderUtf8Output_cons, h]
    exact wellFormed_nil
  | unit first rest taken piece h ih =>
    rw [renderUtf8Output_cons, h]
    exact wellFormed_append (renderUnit_wellFormed h) ih

-- What a waiting call has written is what one final call writes first, whatever comes next.
lemma render_append (s more : List UInt8) :
    (renderUtf8Output (s ++ more) true).1 =
      (renderUtf8Output s false).1 ++
        (renderUtf8Output ((renderUtf8Output s false).2 ++ more) true).1 := by
  induction s using render_induction false with
  | nil => rfl
  | waits first rest h =>
    rw [renderUtf8Output_cons false, h]
    rfl
  | unit first rest taken piece h ih =>
    have htaken := renderUnit_taken h
    rw [renderUtf8Output_cons false, h, List.cons_append, renderUtf8Output_cons true,
      renderUnit_append more true h]
    dsimp only
    rw [← List.cons_append, List.drop_append_of_le_length htaken.2, ih, List.append_assoc]

lemma render_of_wellFormed {s : List UInt8} (h : WellFormed s) :
    (renderUtf8Output s true).1 = s := by
  apply h.induction
  · rfl
  · intro u t hu ht ih
    cases u with
    | nil => exact hu.elim
    | cons first u =>
      rw [List.cons_append, renderUtf8Output_cons, renderUnit_table hu, ← List.cons_append]
      dsimp only
      rw [List.drop_left, ih]

-- The observer's loop: each chunk is appended to what is pending and rendered, and the last
-- call ends the output. The calls are returned as pairs of output and pending.
def renderCalls : List UInt8 → List (List UInt8) → List (List UInt8 × List UInt8)
  | pending, [] => [renderUtf8Output pending true]
  | pending, chunk :: chunks =>
    let call := renderUtf8Output (pending ++ chunk) false
    call :: renderCalls call.2 chunks

lemma renderCalls_call {pending : List UInt8} {chunks : List (List UInt8)}
    {call : List UInt8 × List UInt8} (h : call ∈ renderCalls pending chunks) :
    ∃ s final, call = renderUtf8Output s final := by
  induction chunks generalizing pending with
  | nil => exact ⟨pending, true, List.mem_singleton.mp h⟩
  | cons chunk chunks ih =>
    obtain rfl | h := List.mem_cons.mp h
    · exact ⟨pending ++ chunk, false, rfl⟩
    · exact ih h

lemma renderCalls_output (pending : List UInt8) (chunks : List (List UInt8)) :
    ((renderCalls pending chunks).map Prod.fst).flatten =
      (renderUtf8Output (pending ++ chunks.flatten) true).1 := by
  induction chunks generalizing pending with
  | nil => simp [renderCalls]
  | cons chunk chunks ih =>
    rw [renderCalls, List.map_cons, List.flatten_cons, ih, List.flatten_cons, ← List.append_assoc,
      render_append (pending ++ chunk)]

theorem streamed_output_agrees (chunks : List (List UInt8)) :
    ((renderCalls [] chunks).map Prod.fst).flatten = (renderUtf8Output chunks.flatten true).1 ∧
      (∀ call ∈ renderCalls [] chunks, WellFormed call.1 ∧ call.2.length ≤ 3) ∧
      (((renderCalls [] chunks).map Prod.fst).flatten = chunks.flatten ↔
        WellFormed chunks.flatten) := by
  have houtput := renderCalls_output [] chunks
  rw [List.nil_append] at houtput
  refine ⟨houtput, ?_, ?_⟩
  · intro call hcall
    obtain ⟨t, final, rfl⟩ := renderCalls_call hcall
    exact ⟨render_wellFormed t final, render_pending_length t final⟩
  · rw [houtput]
    constructor
    · intro h
      rw [← h]
      exact render_wellFormed chunks.flatten true
    · exact render_of_wellFormed

end Qwen3xOrin.Server
