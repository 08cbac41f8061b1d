import Mathlib.Tactic.IntervalCases
import Qwen3xOrin.Library.Sha256

/-! The streaming hash of the repository and the hash of a list of token ids. -/

namespace Qwen3xOrin.Core

open Library
open Library.Sha256 (Registers)

section Transform

def kRoundConstants : List UInt32 :=
  [0x428a2f98, 0x71374491, 0xb5c0fbcf, 0xe9b5dba5, 0x3956c25b, 0x59f111f1, 0x923f82a4, 0xab1c5ed5,
    0xd807aa98, 0x12835b01, 0x243185be, 0x550c7dc3, 0x72be5d74, 0x80deb1fe, 0x9bdc06a7, 0xc19bf174,
    0xe49b69c1, 0xefbe4786, 0x0fc19dc6, 0x240ca1cc, 0x2de92c6f, 0x4a7484aa, 0x5cb0a9dc, 0x76f988da,
    0x983e5152, 0xa831c66d, 0xb00327c8, 0xbf597fc7, 0xc6e00bf3, 0xd5a79147, 0x06ca6351, 0x14292967,
    0x27b70a85, 0x2e1b2138, 0x4d2c6dfc, 0x53380d13, 0x650a7354, 0x766a0abb, 0x81c2c92e, 0x92722c85,
    0xa2bfe8a1, 0xa81a664b, 0xc24b8b70, 0xc76c51a3, 0xd192e819, 0xd6990624, 0xf40e3585, 0x106aa070,
    0x19a4c116, 0x1e376c08, 0x2748774c, 0x34b0bcb5, 0x391c0cb3, 0x4ed8aa4a, 0x5b9cca4f, 0x682e6ff3,
    0x748f82ee, 0x78a5636f, 0x84c87814, 0x8cc70208, 0x90befffa, 0xa4506ceb, 0xbef9a3f7, 0xc67178f2]

def rotateRight (value bits : UInt32) : UInt32 := value >>> bits ||| value <<< (32 - bits)

def readBigEndian32 (data : List UInt8) : UInt32 :=
  (data.getD 0 0).toUInt32 <<< 24 ||| (data.getD 1 0).toUInt32 <<< 16 |||
    (data.getD 2 0).toUInt32 <<< 8 ||| (data.getD 3 0).toUInt32

def bigEndian32 (value : UInt32) : List UInt8 :=
  [(value >>> 24).toUInt8, (value >>> 16).toUInt8, (value >>> 8).toUInt8, value.toUInt8]

abbrev ScheduleArray := Vector UInt32 64

def ScheduleArray.at (schedule : ScheduleArray) (index : ℕ) : UInt32 :=
  schedule.toList.getD index 0

def scheduleEntry (schedule : ScheduleArray) (index : ℕ) : UInt32 :=
  let sigma0 := rotateRight (schedule.at (index - 15)) 7 ^^^
    rotateRight (schedule.at (index - 15)) 18 ^^^ schedule.at (index - 15) >>> 3
  let sigma1 := rotateRight (schedule.at (index - 2)) 17 ^^^
    rotateRight (schedule.at (index - 2)) 19 ^^^ schedule.at (index - 2) >>> 10
  schedule.at (index - 16) + sigma0 + schedule.at (index - 7) + sigma1

def readWords (block : List UInt8) : ScheduleArray :=
  (List.range 16).foldl
    (fun schedule index => store schedule index [readBigEndian32 (block.drop (index * 4))])
    (Vector.replicate 64 0)

def extendSchedule (count : ℕ) (schedule : ScheduleArray) : ScheduleArray :=
  (List.range' 16 count).foldl
    (fun schedule index => store schedule index [scheduleEntry schedule index]) schedule

def fillSchedule (block : List UInt8) : ScheduleArray := extendSchedule 48 (readWords block)

-- One turn of the round loop over the local variables `a` to `h`.
def roundTurn (schedule : ScheduleArray) (local' : Registers) (index : ℕ) : Registers :=
  let sum1 := rotateRight local'.e 6 ^^^ rotateRight local'.e 11 ^^^ rotateRight local'.e 25
  let choose := (local'.e &&& local'.f) ^^^ (~~~local'.e &&& local'.g)
  let temporary1 := local'.h + sum1 + choose + kRoundConstants.getD index 0 + schedule.at index
  let sum0 := rotateRight local'.a 2 ^^^ rotateRight local'.a 13 ^^^ rotateRight local'.a 22
  let majority := (local'.a &&& local'.b) ^^^ (local'.a &&& local'.c) ^^^ (local'.b &&& local'.c)
  let temporary2 := sum0 + majority
  ⟨temporary1 + temporary2, local'.a, local'.b, local'.c, local'.d + temporary1, local'.e,
    local'.f, local'.g⟩

abbrev HashState := Vector UInt32 8

def HashState.registers (state : HashState) : Registers :=
  ⟨state[0], state[1], state[2], state[3], state[4], state[5], state[6], state[7]⟩

def transform (state : HashState) (block : List UInt8) : HashState :=
  let schedule := fillSchedule block
  let final := (List.range 64).foldl (roundTurn schedule) state.registers
  #v[state[0] + final.a, state[1] + final.b, state[2] + final.c, state[3] + final.d,
    state[4] + final.e, state[5] + final.f, state[6] + final.g, state[7] + final.h]

end Transform

section Hasher

abbrev bufferBytes : ℕ := 64
abbrev uint64Max : ℕ := 2 ^ 64 - 1

structure Sha256 where
  state : HashState := #v[0x6a09e667, 0xbb67ae85, 0x3c6ef372, 0xa54ff53a, 0x510e527f, 0x9b05688c,
    0x1f83d9ab, 0x5be0cd19]
  buffer : Vector UInt8 bufferBytes := Vector.replicate 64 0
  bufferSize : ℕ := 0
  totalBytes : ℕ := 0
  finalized : Bool := false
  digest : Vector UInt8 32 := Vector.replicate 32 0

-- The bytes that complete a partial block; the input goes on behind them.
def fillBuffer (hasher : Sha256) (input : List UInt8) : Sha256 × List UInt8 :=
  if hasher.bufferSize ≠ 0 ∧ input.length ≠ 0 then
    let copied := min input.length (bufferBytes - hasher.bufferSize)
    let buffer := store hasher.buffer hasher.bufferSize (input.take copied)
    let bufferSize := hasher.bufferSize + copied
    if bufferSize = bufferBytes then
      ({ hasher with
          state := transform hasher.state buffer.toList
          buffer := buffer
          bufferSize := 0 }, input.drop copied)
    else ({ hasher with buffer := buffer, bufferSize := bufferSize }, input.drop copied)
  else (hasher, input)

def transformBlocks (state : HashState) (input : List UInt8) : HashState × List UInt8 :=
  if bufferBytes ≤ input.length then
    transformBlocks (transform state (input.take bufferBytes)) (input.drop bufferBytes)
  else (state, input)
termination_by input.length
decreasing_by
  rw [List.length_drop]
  simp only [bufferBytes] at *
  omega

-- `none` stands for a null pointer.
def Sha256.update (hasher : Sha256) (data : Option (List UInt8)) (size : ℕ) : Bool × Sha256 :=
  if hasher.finalized ∨ (data = none ∧ size ≠ 0) ∨ uint64Max - hasher.totalBytes < size then
    (false, hasher)
  else
    let input := (data.getD []).take size
    let (hasher, input) := fillBuffer { hasher with totalBytes := hasher.totalBytes + size } input
    let (state, remaining) := transformBlocks hasher.state input
    if remaining.length ≠ 0 then
      (true, { hasher with
        state := state
        buffer := store hasher.buffer 0 remaining
        bufferSize := remaining.length })
    else (true, { hasher with state := state })

def storeLength (buffer : Vector UInt8 bufferBytes) (bitLength : UInt64) :
    Vector UInt8 bufferBytes :=
  (List.range 8).foldl (fun buffer index =>
    store buffer (63 - index) [(bitLength >>> UInt64.ofNat (index * 8)).toUInt8]) buffer

def storeDigest (state : HashState) (digest : Vector UInt8 32) : Vector UInt8 32 :=
  (List.range 8).foldl (fun digest index =>
    store digest (index * 4) (bigEndian32 (state.toList.getD index 0))) digest

-- The end mark, and a block of its own where the length does not fit behind it.
def markEnd (hasher : Sha256) : HashState × Vector UInt8 bufferBytes × ℕ :=
  let buffer := store hasher.buffer hasher.bufferSize [0x80]
  let bufferSize := hasher.bufferSize + 1
  if 56 < bufferSize then
    let buffer := store buffer bufferSize (List.replicate (bufferBytes - bufferSize) 0)
    (transform hasher.state buffer.toList, buffer, 0)
  else (hasher.state, buffer, bufferSize)

def lastBlock (buffer : Vector UInt8 bufferBytes) (bufferSize : ℕ) (bitLength : UInt64) :
    Vector UInt8 bufferBytes :=
  storeLength (store buffer bufferSize (List.replicate (56 - bufferSize) 0)) bitLength

def Sha256.finalize (hasher : Sha256) : Vector UInt8 32 × Sha256 :=
  if hasher.finalized then (hasher.digest, hasher)
  else
    let bitLength := UInt64.ofNat (hasher.totalBytes * 8)
    let (state, buffer, bufferSize) := markEnd hasher
    let buffer := lastBlock buffer bufferSize bitLength
    let state := transform state buffer.toList
    let digest := storeDigest state hasher.digest
    (digest, { hasher with
      state := state
      buffer := buffer
      bufferSize := bufferSize
      finalized := true
      digest := digest })

def sha256 (input : List UInt8) : Vector UInt8 32 :=
  (({} : Sha256).update (some input) input.length).2.finalize.1

def hexByte (byte : UInt8) : List Char := (Nat.toDigits 16 byte.toNat).leftpad 2 '0'

def hex (digest : List UInt8) : String := String.ofList (digest.flatMap hexByte)

def updateAll : Sha256 → List (Option (List UInt8)) → List Bool × Sha256
  | hasher, [] => ([], hasher)
  | hasher, piece :: pieces =>
    let (accepted, hasher) := hasher.update piece (piece.getD []).length
    let (verdicts, hasher) := updateAll hasher pieces
    (accepted :: verdicts, hasher)

end Hasher

section TokenIds

abbrev stagingBytes : ℕ := 4096

structure Staging where
  hash : Sha256 := {}
  bytes : Vector UInt8 stagingBytes := Vector.replicate 4096 0
  used : ℕ := 0

def Staging.push (staging : Staging) (byte : UInt32) : Staging :=
  { staging with
    bytes := store staging.bytes staging.used [byte.toUInt8]
    used := staging.used + 1 }

def Staging.flush (staging : Staging) : Staging :=
  { staging with
    hash := (staging.hash.update (some (staging.bytes.toList.take staging.used)) staging.used).2
    used := 0 }

def Staging.pushToken (staging : Staging) (tokenId : UInt32) : Staging :=
  (((staging.push (tokenId &&& 0xff)).push (tokenId >>> 8 &&& 0xff)).push
    (tokenId >>> 16 &&& 0xff)).push (tokenId >>> 24 &&& 0xff)

def stageToken (staging : Staging) (tokenId : UInt32) : Staging :=
  let staging := staging.pushToken tokenId
  if staging.used = stagingBytes then staging.flush else staging

def sha256TokenIdsU32le (tokenIds : List UInt32) : String :=
  let staging := tokenIds.foldl stageToken {}
  let staging := if staging.used ≠ 0 then staging.flush else staging
  hex staging.hash.finalize.1.toList

end TokenIds

section Compression

variable {block : List UInt8}

lemma readBigEndian32_drop (block : List UInt8) (index : ℕ) :
    readBigEndian32 (block.drop (index * 4)) = Library.Sha256.blockWord block index := by
  simp only [readBigEndian32, Library.Sha256.blockWord, List.getD_eq_getElem?_getD,
    List.getElem?_drop, Nat.add_zero, Nat.mul_comm]

lemma readWords_take (block : List UInt8) :
    (readWords block).toList.take 16 = (List.range 16).map (Library.Sha256.blockWord block) := by
  have hwords := store_each (Vector.replicate 64 (0 : UInt32))
    (fun index => [readBigEndian32 (block.drop (index * 4))]) 1 16 (fun _ _ => rfl) (by decide)
  simp only [Nat.mul_one, readBigEndian32_drop] at hwords
  simp only [readWords, readBigEndian32_drop]
  rw [hwords, List.map_eq_flatMap]

lemma at_take {schedule : ScheduleArray} {count index : ℕ} (h : index < count) :
    schedule.at index = (schedule.toList.take count).getD index 0 := by
  rw [ScheduleArray.at, List.getD_eq_getElem?_getD, List.getD_eq_getElem?_getD,
    List.getElem?_take_of_lt h]

lemma scheduleEntry_eq (schedule : ScheduleArray) (t : ℕ) :
    scheduleEntry schedule (16 + t) =
      Library.Sha256.scheduleWord (schedule.toList.take (16 + t)) t := by
  have h₁₆ : 16 + t - 16 = t := by omega
  have h₁₅ : 16 + t - 15 = t + 1 := by omega
  have h₇ : 16 + t - 7 = t + 9 := by omega
  have h₂ : 16 + t - 2 = t + 14 := by omega
  rw [scheduleEntry, h₁₆, h₁₅, h₇, h₂, Library.Sha256.scheduleWord,
    @at_take _ (16 + t) t (by omega), @at_take _ (16 + t) (t + 1) (by omega),
    @at_take _ (16 + t) (t + 9) (by omega), @at_take _ (16 + t) (t + 14) (by omega)]
  unfold Library.Sha256.smallSigma0 Library.Sha256.smallSigma1
  ac_rfl

lemma extendSchedule_take (schedule : ScheduleArray) {count : ℕ} (h : count ≤ 48) :
    (extendSchedule count schedule).toList.take (16 + count) =
      (List.range count).foldl (fun words t =>
        words ++ [Library.Sha256.scheduleWord words t]) (schedule.toList.take 16) := by
  induction count with
  | zero => rfl
  | succ count ih =>
    have hstep : extendSchedule (count + 1) schedule = store (extendSchedule count schedule)
        (16 + count) [scheduleEntry (extendSchedule count schedule) (16 + count)] := by
      rw [extendSchedule, List.range'_1_concat, List.foldl_append]
      rfl
    have htake := @store_take _ _ (16 + count)
      [scheduleEntry (extendSchedule count schedule) (16 + count)] (extendSchedule count schedule)
      (by rw [List.length_singleton]; omega)
    rw [List.length_singleton, ← hstep, Nat.add_assoc] at htake
    rw [htake, scheduleEntry_eq, ih (by omega), List.range_succ, List.foldl_append]
    rfl

lemma fillSchedule_toList (block : List UInt8) :
    (fillSchedule block).toList = Library.Sha256.messageSchedule block := by
  have hall := extendSchedule_take (readWords block) (le_refl 48)
  rw [readWords_take, List.take_of_length_le (by rw [Vector.length_toList])] at hall
  exact hall

lemma kRoundConstants_eq : kRoundConstants = Library.Sha256.constants := by
  decide

lemma roundTurn_eq (block : List UInt8) (r : Registers) (t : ℕ) :
    roundTurn (fillSchedule block) r t = Library.Sha256.round r
      (Library.Sha256.constants.getD t 0) ((Library.Sha256.messageSchedule block).getD t 0) := by
  rw [← fillSchedule_toList, ← kRoundConstants_eq]
  rfl

lemma registers_mk (a b c d e f g h : UInt32) :
    HashState.registers #v[a, b, c, d, e, f, g, h] = ⟨a, b, c, d, e, f, g, h⟩ := rfl

lemma rounds_eq (block : List UInt8) (rounds : List ℕ) (r : Registers) :
    rounds.foldl (roundTurn (fillSchedule block)) r =
      rounds.foldl (fun r t => Library.Sha256.round r (Library.Sha256.constants.getD t 0)
        ((Library.Sha256.messageSchedule block).getD t 0)) r :=
  List.foldl_ext _ _ _ fun r t _ => roundTurn_eq block r t

lemma transform_registers (state : HashState) (block : List UInt8) :
    (transform state block).registers = Library.Sha256.compress state.registers block := by
  rw [Library.Sha256.compress, ← rounds_eq, transform, registers_mk]
  simp only [HashState.registers, UInt32.add_comm]

end Compression

section Updates

variable {hasher : Sha256} {stream input : List UInt8}

-- The hasher holds the stream: its whole blocks in the state and the rest in the buffer.
structure Staged (stream : List UInt8) (hasher : Sha256) : Prop where
  absorbed : Absorbed Library.Sha256.compress bufferBytes Library.Sha256.initialHash stream
    hasher.state.registers (hasher.buffer.toList.take hasher.bufferSize)
  size : hasher.bufferSize < bufferBytes

structure Represents (stream : List UInt8) (hasher : Sha256) : Prop where
  staged : Staged stream hasher
  total : hasher.totalBytes = stream.length
  live : hasher.finalized = false

lemma bufferBytes_pos : 0 < bufferBytes := by decide

lemma represents_empty : Represents [] {} where
  staged := ⟨Absorbed.refl bufferBytes_pos _, bufferBytes_pos⟩
  total := rfl
  live := rfl

lemma Staged.length (h : Staged stream hasher) :
    (hasher.buffer.toList.take hasher.bufferSize).length = hasher.bufferSize := by
  have hsize := h.size
  rw [List.length_take, Vector.length_toList]
  omega

structure Filled (stream input : List UInt8) (hasher : Sha256) (result : Sha256 × List UInt8) :
    Prop where
  staged : ∃ taken, input = taken ++ result.2 ∧ Staged (stream ++ taken) result.1
  rest : result.1.bufferSize = 0 ∨ result.2 = []
  kept : result.1.totalBytes = hasher.totalBytes ∧ result.1.finalized = hasher.finalized

lemma fillBuffer_filled (h : Staged stream hasher) (input : List UInt8) :
    Filled stream input hasher (fillBuffer hasher input) := by
  have hsize := h.size
  have hlength := h.length
  unfold fillBuffer
  by_cases hpartial : hasher.bufferSize ≠ 0 ∧ input.length ≠ 0
  · rw [if_pos hpartial]
    dsimp only
    have htaken : (input.take (min input.length (bufferBytes - hasher.bufferSize))).length =
        min input.length (bufferBytes - hasher.bufferSize) := by
      rw [List.length_take]
      omega
    have hbuffer := @store_take _ _ hasher.bufferSize
      (input.take (min input.length (bufferBytes - hasher.bufferSize))) hasher.buffer
      (by rw [htaken]; omega)
    rw [htaken] at hbuffer
    split_ifs with hfull
    · refine ⟨⟨_, (List.take_append_drop _ _).symm, ?_, bufferBytes_pos⟩, .inl rfl, rfl, rfl⟩
      rw [hfull, List.take_of_length_le (by rw [Vector.length_toList])] at hbuffer
      dsimp only
      rw [transform_registers, hbuffer]
      exact h.absorbed.fill (by rw [hlength, htaken, hfull]) bufferBytes_pos
    · refine ⟨⟨_, (List.take_append_drop _ _).symm, ?_, by dsimp only; omega⟩, .inr ?_, rfl, rfl⟩
      · dsimp only
        rw [hbuffer]
        exact h.absorbed.stage (by rw [hlength, htaken]; omega) bufferBytes_pos
      · exact List.drop_eq_nil_of_le (by omega)
  · rw [if_neg hpartial]
    refine ⟨⟨[], rfl, by rwa [List.append_nil]⟩, ?_, rfl, rfl⟩
    rw [not_and_or, not_not, not_not] at hpartial
    exact hpartial.imp_right List.length_eq_zero_iff.mp

lemma transformBlocks_absorbed {state : HashState} (input : List UInt8)
    (h : Absorbed Library.Sha256.compress bufferBytes Library.Sha256.initialHash stream
      state.registers []) :
    ∃ blocks, input = blocks ++ (transformBlocks state input).2 ∧
      Absorbed Library.Sha256.compress bufferBytes Library.Sha256.initialHash (stream ++ blocks)
        (transformBlocks state input).1.registers [] ∧
      (transformBlocks state input).2.length < bufferBytes := by
  induction hn : input.length using Nat.strong_induction_on generalizing input state stream with
  | _ n ih =>
    rw [transformBlocks]
    split_ifs with hfull
    · have htaken : (input.take bufferBytes).length = bufferBytes := by
        rw [List.length_take]
        omega
      have hnext := @Absorbed.fill _ _ _ _ _ _ _ _ (input.take bufferBytes) h
        (by rw [List.length_nil, htaken, Nat.zero_add]) bufferBytes_pos
      rw [List.nil_append, ← transform_registers] at hnext
      have hless : (input.drop bufferBytes).length < n := by
        rw [List.length_drop]
        dsimp only [bufferBytes] at hfull ⊢
        omega
      obtain ⟨blocks, hblocks, habsorbed, hshort⟩ :=
        @ih _ hless _ (transform state (input.take bufferBytes)) (input.drop bufferBytes) hnext rfl
      refine ⟨input.take bufferBytes ++ blocks, ?_, ?_, hshort⟩
      · rw [List.append_assoc, ← hblocks, List.take_append_drop]
      · rwa [← List.append_assoc]
    · exact ⟨[], rfl, by rwa [List.append_nil], not_le.mp hfull⟩

lemma transformBlocks_nil (state : HashState) : transformBlocks state [] = (state, []) := by
  rw [transformBlocks, if_neg (by decide)]

lemma update_represents (h : Represents stream hasher) (data : Option (List UInt8))
    (hbound : stream.length + (data.getD []).length ≤ uint64Max) :
    (hasher.update data (data.getD []).length).1 = true ∧
      Represents (stream ++ data.getD []) (hasher.update data (data.getD []).length).2 := by
  have haccepted : ¬(hasher.finalized = true ∨ (data = none ∧ (data.getD []).length ≠ 0) ∨
      uint64Max - hasher.totalBytes < (data.getD []).length) := by
    rw [h.live, h.total]
    rintro (hfinalized | ⟨rfl, hlength⟩ | hlong)
    · cases hfinalized
    · exact hlength rfl
    · omega
  unfold Sha256.update
  rw [if_neg haccepted, List.take_length]
  dsimp only
  have htotal := h.total
  generalize data.getD [] = input at *
  have hstaged : Staged stream { hasher with totalBytes := hasher.totalBytes + input.length } :=
    ⟨h.staged.absorbed, h.staged.size⟩
  obtain ⟨⟨taken, hinput, hfilled⟩, hrest, hkept, hlive⟩ := fillBuffer_filled hstaged input
  generalize fillBuffer { hasher with totalBytes := hasher.totalBytes + input.length } input =
    result at *
  obtain ⟨filled, rest⟩ := result
  dsimp only at hinput hfilled hrest hkept hlive ⊢
  have hlength : filled.totalBytes = (stream ++ input).length := by
    rw [hkept, htotal, List.length_append]
  obtain hempty | rfl := hrest
  · have hnone := hfilled.absorbed
    rw [hempty, List.take_zero] at hnone
    obtain ⟨blocks, hblocks, habsorbed, hshort⟩ := transformBlocks_absorbed rest hnone
    generalize transformBlocks filled.state rest = transformed at *
    obtain ⟨state, remaining⟩ := transformed
    dsimp only at hblocks habsorbed hshort ⊢
    have hstream : stream ++ input = stream ++ taken ++ blocks ++ remaining := by
      rw [hinput, hblocks]
      simp only [List.append_assoc]
    have hstage := @Absorbed.stage _ _ _ _ _ _ _ _ remaining habsorbed
      (by rwa [List.length_nil, Nat.zero_add]) bufferBytes_pos
    rw [List.nil_append, ← hstream] at hstage
    split_ifs with hremaining
    · have hbuffer := @store_take _ _ 0 remaining filled.buffer (by omega)
      rw [List.take_zero, List.nil_append, Nat.zero_add] at hbuffer
      refine ⟨rfl, ⟨?_, hshort⟩, hlength, hlive.trans h.live⟩
      dsimp only
      rwa [hbuffer]
    · refine ⟨rfl, ⟨?_, hfilled.size⟩, hlength, hlive.trans h.live⟩
      dsimp only
      rw [hempty, List.take_zero]
      rwa [List.length_eq_zero_iff.mp (not_not.mp hremaining)] at hstage
  · rw [transformBlocks_nil]
    dsimp only
    rw [if_neg (show ¬([] : List UInt8).length ≠ 0 from not_not.mpr rfl)]
    rw [List.append_nil] at hinput
    subst hinput
    exact ⟨rfl, hfilled, hlength, hlive.trans h.live⟩

end Updates

section Finalize

variable {hasher : Sha256} {stream : List UInt8}

def lengthByte (bitLength : UInt64) (index : ℕ) : UInt8 :=
  (bitLength >>> UInt64.ofNat (index * 8)).toUInt8

lemma storeLength_toList (buffer : Vector UInt8 bufferBytes) (bitLength : UInt64) :
    (storeLength buffer bitLength).toList =
      buffer.toList.take 56 ++ (List.range 8).map fun i => lengthByte bitLength (7 - i) := by
  -- The bytes are written from the end of the block downwards.
  have hloop : ∀ count ≤ 8, ((List.range count).foldl (fun buffer index =>
      store buffer (63 - index) [lengthByte bitLength index]) buffer).toList =
      buffer.toList.take (64 - count) ++
        ((List.range count).map (lengthByte bitLength)).reverse := by
    intro count hcount
    induction count with
    | zero =>
      rw [List.take_of_length_le (by rw [Vector.length_toList])]
      exact (List.append_nil _).symm
    | succ count ih =>
      have hbytes : bufferBytes = 64 := rfl
      have hbefore : (buffer.toList.take (64 - count)).length = 64 - count := by
        rw [List.length_take, Vector.length_toList]
        omega
      rw [List.range_succ, List.foldl_append, List.foldl_cons, List.foldl_nil,
        store_toList _ (by rw [List.length_singleton]; omega), ih (by omega),
        List.length_singleton, List.take_append_of_le_length (by omega), List.take_take,
        List.drop_append_of_le_length (by omega), List.drop_eq_nil_of_le (by omega),
        List.map_append, List.reverse_append, List.nil_append]
      rw [min_eq_left (by omega), show 64 - (count + 1) = 63 - count by omega, List.append_assoc]
      rfl
  exact hloop 8 le_rfl

lemma lengthBytes_eq (length : ℕ) :
    ((List.range 8).map fun i => lengthByte (UInt64.ofNat (length * 8)) (7 - i)) =
      Library.Sha256.lengthBytes length := by
  refine List.map_congr_left fun i hi => ?_
  rw [← UInt8.toNat_inj]
  have hi := List.mem_range.mp hi
  simp only [lengthByte, UInt64.toNat_toUInt8, UInt64.toNat_shiftRight, UInt64.toNat_ofNat',
    UInt8.toNat_ofNat', Nat.shiftRight_eq_div_pow]
  interval_cases i <;> simp <;> omega

lemma storeDigest_toList (state : HashState) (digest : Vector UInt8 32) :
    (storeDigest state digest).toList =
      state.registers.words.flatMap Library.Sha256.wordBytes := by
  have hwords := store_each digest (fun index => bigEndian32 (state.toList.getD index 0)) 4 8
    (fun _ _ => rfl) (by decide)
  have hstate : state.toList = state.registers.words :=
    List.ext_getElem (by rw [Vector.length_toList]; rfl) fun i hi hi' => by
      rw [Vector.length_toList] at hi
      interval_cases i <;> rfl
  rw [List.take_of_length_le (by rw [Vector.length_toList])] at hwords
  rw [storeDigest, hwords, hstate]
  rfl

lemma markEnd_absorbed (h : Staged stream hasher) :
    ∃ zeros, Absorbed Library.Sha256.compress bufferBytes Library.Sha256.initialHash
        (stream ++ 0x80 :: List.replicate zeros 0) (markEnd hasher).1.registers
        ((markEnd hasher).2.1.toList.take (markEnd hasher).2.2) ∧
      (markEnd hasher).2.2 ≤ 56 ∧
      zeros + (56 - (markEnd hasher).2.2) = Library.Sha256.zeroCount stream.length := by
  have hbytes : bufferBytes = 64 := rfl
  have hsize := h.size
  have hlength := h.length
  have hmod : stream.length % 64 = hasher.bufferSize := h.absorbed.length_mod.trans hlength
  have hmark := @store_take _ _ hasher.bufferSize [(0x80 : UInt8)] hasher.buffer
    (by rw [List.length_singleton]; omega)
  rw [List.length_singleton] at hmark
  rw [Library.Sha256.zeroCount, Library.Sha256.blockBytes, hmod]
  unfold markEnd
  dsimp only
  split_ifs with hlong
  · have hzeros := @store_take _ _ (hasher.bufferSize + 1)
      (List.replicate (bufferBytes - (hasher.bufferSize + 1)) (0 : UInt8))
      (store hasher.buffer hasher.bufferSize [0x80]) (by rw [List.length_replicate]; omega)
    rw [List.length_replicate, Nat.add_sub_cancel' hsize,
      List.take_of_length_le (by rw [Vector.length_toList]), hmark, List.append_assoc] at hzeros
    refine ⟨bufferBytes - (hasher.bufferSize + 1), ?_, Nat.zero_le _, by dsimp only; omega⟩
    dsimp only
    rw [transform_registers, hzeros, List.take_zero]
    refine h.absorbed.fill ?_ bufferBytes_pos
    rw [hlength, List.length_cons, List.length_replicate]
    omega
  · refine ⟨0, ?_, by dsimp only; omega, by dsimp only; omega⟩
    dsimp only
    rw [hmark]
    refine h.absorbed.stage ?_ bufferBytes_pos
    rw [hlength, List.length_cons, List.length_replicate]
    omega

-- The last blocks of the hasher are the rest of the stream and its padding.
lemma finalize_digest (h : Represents stream hasher) :
    hasher.finalize.1.toList = Library.Sha256.sha256 stream := by
  have hbytes : bufferBytes = 64 := rfl
  obtain ⟨zeros, habsorbed, hsize, hzeros⟩ := markEnd_absorbed h.staged
  rw [Sha256.finalize, if_neg (by rw [h.live]; exact Bool.false_ne_true), h.total]
  generalize markEnd hasher = marked at *
  obtain ⟨state, buffer, bufferSize⟩ := marked
  dsimp only at habsorbed hsize hzeros ⊢
  have hfill := @store_take _ _ bufferSize (List.replicate (56 - bufferSize) (0 : UInt8)) buffer
    (by rw [List.length_replicate]; omega)
  rw [List.length_replicate, Nat.add_sub_cancel' hsize] at hfill
  have hblock : (lastBlock buffer bufferSize (UInt64.ofNat (stream.length * 8))).toList =
      buffer.toList.take bufferSize ++ (List.replicate (56 - bufferSize) 0 ++
        Library.Sha256.lengthBytes stream.length) := by
    rw [lastBlock, storeLength_toList, hfill, lengthBytes_eq, List.append_assoc]
  have hlast := @Absorbed.fill _ _ _ _ _ _ _ _ (List.replicate (56 - bufferSize) 0 ++
    Library.Sha256.lengthBytes stream.length) habsorbed (by
      simp only [List.length_take, Vector.length_toList, List.length_append,
        List.length_replicate, Library.Sha256.lengthBytes, List.length_map, List.length_range]
      omega) bufferBytes_pos
  have hpadding : stream ++ 0x80 :: List.replicate zeros 0 ++ (List.replicate (56 - bufferSize) 0 ++
      Library.Sha256.lengthBytes stream.length) =
        stream ++ Library.Sha256.padding stream.length := by
    rw [Library.Sha256.padding, ← hzeros, ← List.replicate_append_replicate]
    simp only [List.append_assoc, List.cons_append]
  rw [← hblock, ← transform_registers, hpadding] at hlast
  rw [storeDigest_toList, hlast.state]
  rfl

end Finalize

section Streams

variable {hasher : Sha256} {stream : List UInt8}

def pieceBytes (pieces : List (Option (List UInt8))) : List UInt8 :=
  pieces.flatMap (·.getD [])

lemma updateAll_represents (h : Represents stream hasher) (pieces : List (Option (List UInt8)))
    (hbound : (stream ++ pieceBytes pieces).length ≤ uint64Max) :
    (∀ accepted ∈ (updateAll hasher pieces).1, accepted = true) ∧
      Represents (stream ++ pieceBytes pieces) (updateAll hasher pieces).2 := by
  induction pieces generalizing hasher stream with
  | nil => exact ⟨fun _ h => absurd h List.not_mem_nil, by simpa [pieceBytes, updateAll] using h⟩
  | cons piece pieces ih =>
    have hcons : stream ++ pieceBytes (piece :: pieces) =
        stream ++ piece.getD [] ++ pieceBytes pieces := by
      rw [pieceBytes, List.flatMap_cons, List.append_assoc]
      rfl
    rw [hcons] at hbound ⊢
    have hpiece : stream.length + (piece.getD []).length ≤ uint64Max := by
      rw [List.length_append, List.length_append] at hbound
      omega
    obtain ⟨haccepted, hnext⟩ := update_represents h piece hpiece
    obtain ⟨hverdicts, hall⟩ := ih hnext hbound
    exact ⟨List.forall_mem_cons.mpr ⟨haccepted, hverdicts⟩, hall⟩

end Streams

section Tokens

variable {staging : Staging} {sent : List UInt8}

def littleEndian32 (tokenId : UInt32) : List UInt8 :=
  [tokenId.toUInt8, (tokenId >>> 8).toUInt8, (tokenId >>> 16).toUInt8, (tokenId >>> 24).toUInt8]

-- The bytes sent so far: those the hasher has, and those that are staged.
structure Sent (sent : List UInt8) (staging : Staging) : Prop where
  hashed : ∃ hashed, sent = hashed ++ staging.bytes.toList.take staging.used ∧
    Represents hashed staging.hash
  aligned : staging.used % 4 = 0
  space : staging.used < stagingBytes

lemma toUInt8_and (word : UInt32) : (word &&& 0xff).toUInt8 = word.toUInt8 := by
  rw [← UInt8.toNat_inj, UInt32.toNat_toUInt8, UInt32.toNat_toUInt8, UInt32.toNat_and]
  have hmask : word.toNat &&& (0xff : UInt32).toNat = word.toNat % 2 ^ 8 :=
    Nat.and_two_pow_sub_one_eq_mod _ 8
  rw [hmask, Nat.mod_mod]

lemma push_take (staging : Staging) (byte : UInt32) (h : staging.used < stagingBytes) :
    (staging.push byte).bytes.toList.take (staging.push byte).used =
      staging.bytes.toList.take staging.used ++ [byte.toUInt8] := by
  exact @store_take _ _ staging.used [byte.toUInt8] staging.bytes h

lemma push_hash (staging : Staging) (byte : UInt32) :
    (staging.push byte).hash = staging.hash := by
  obtain ⟨hash, bytes, used⟩ := staging
  show (Staging.push ⟨hash, bytes, used⟩ byte).hash = hash
  rfl

lemma pushToken_take (staging : Staging) (tokenId : UInt32) (h : staging.used + 4 ≤ stagingBytes) :
    (staging.pushToken tokenId).bytes.toList.take (staging.pushToken tokenId).used =
      staging.bytes.toList.take staging.used ++ littleEndian32 tokenId := by
  rw [Staging.pushToken, push_take _ _ (by simp only [Staging.push]; omega),
    push_take _ _ (by simp only [Staging.push]; omega),
    push_take _ _ (by simp only [Staging.push]; omega), push_take _ _ (by omega)]
  simp only [toUInt8_and, List.append_assoc]
  rfl

lemma flush_represents {hashed : List UInt8} (h : Represents hashed staging.hash)
    (hused : staging.used ≤ stagingBytes) (hbound : hashed.length + staging.used ≤ uint64Max) :
    Represents (hashed ++ staging.bytes.toList.take staging.used) staging.flush.hash := by
  have hlength : (staging.bytes.toList.take staging.used).length = staging.used := by
    rw [List.length_take, Vector.length_toList]
    omega
  have hupdate := (update_represents h (some (staging.bytes.toList.take staging.used))
    (by rw [Option.getD_some, hlength]; exact hbound)).2
  rw [Option.getD_some, hlength] at hupdate
  exact hupdate

lemma stageToken_sent (h : Sent sent staging) (tokenId : UInt32)
    (hbound : sent.length + 4 ≤ uint64Max) :
    Sent (sent ++ littleEndian32 tokenId) (stageToken staging tokenId) := by
  obtain ⟨⟨hashed, hsent, hrepresents⟩, haligned, hspace⟩ := h
  have hstaging : stagingBytes = 4096 := rfl
  have hpushed := pushToken_take staging tokenId (by omega)
  have hused : (staging.pushToken tokenId).used = staging.used + 4 := by
    simp only [Staging.pushToken, Staging.push]
  have hhash : (staging.pushToken tokenId).hash = staging.hash := by
    rw [Staging.pushToken, push_hash, push_hash, push_hash, push_hash]
  have hsent' : sent ++ littleEndian32 tokenId = hashed ++
      (staging.pushToken tokenId).bytes.toList.take (staging.pushToken tokenId).used := by
    rw [hpushed, hsent, List.append_assoc]
  rw [stageToken]
  generalize staging.pushToken tokenId = pushed at *
  split_ifs with hfull
  · have hlength : sent.length = hashed.length + staging.used := by
      rw [hsent, List.length_append, List.length_take, Vector.length_toList]
      omega
    have hflushed := @flush_represents pushed hashed (by rwa [hhash]) hfull.le (by omega)
    have hempty : pushed.flush.used = 0 := by
      simp only [Staging.flush]
    refine ⟨⟨_, ?_, hflushed⟩, by rw [hempty], by omega⟩
    rw [hsent', hempty, List.take_zero]
    exact (List.append_nil _).symm
  · exact ⟨⟨hashed, hsent', by rwa [hhash]⟩, by omega, by omega⟩

def tokenBytes (tokenIds : List UInt32) : List UInt8 := tokenIds.flatMap littleEndian32

lemma tokenBytes_length (tokenIds : List UInt32) :
    (tokenBytes tokenIds).length = 4 * tokenIds.length := by
  rw [tokenBytes, List.length_flatMap]
  simp [littleEndian32, Nat.mul_comm]

lemma stageTokens_sent (h : Sent sent staging) (tokenIds : List UInt32)
    (hbound : sent.length + 4 * tokenIds.length ≤ uint64Max) :
    Sent (sent ++ tokenBytes tokenIds) (tokenIds.foldl stageToken staging) := by
  induction tokenIds generalizing sent staging with
  | nil => simpa [tokenBytes] using h
  | cons tokenId tokenIds ih =>
    rw [List.length_cons] at hbound
    rw [List.foldl_cons, tokenBytes, List.flatMap_cons, ← List.append_assoc]
    refine ih (stageToken_sent h tokenId (by omega)) ?_
    have hfour : (littleEndian32 tokenId).length = 4 := rfl
    rw [List.length_append, hfour]
    omega

lemma tokens_digest (tokenIds : List UInt32) (hbound : 4 * tokenIds.length ≤ uint64Max) :
    sha256TokenIdsU32le tokenIds = hex (Library.Sha256.sha256 (tokenBytes tokenIds)) := by
  have hempty : Sent [] {} := ⟨⟨[], rfl, represents_empty⟩, rfl, by decide⟩
  have hsent := stageTokens_sent hempty tokenIds (by rwa [List.length_nil, Nat.zero_add])
  have hlength := tokenBytes_length tokenIds
  rw [List.nil_append] at hsent
  obtain ⟨⟨hashed, hstream, hrepresents⟩, -, hspace⟩ := hsent
  rw [sha256TokenIdsU32le]
  generalize tokenIds.foldl stageToken {} = staging at *
  split_ifs with hused
  · have hbytes : (tokenBytes tokenIds).length = hashed.length + staging.used := by
      rw [hstream, List.length_append, List.length_take, Vector.length_toList]
      omega
    have hflushed := flush_represents hrepresents hspace.le (by omega)
    rw [finalize_digest hflushed, ← hstream]
  · rw [not_not.mp hused, List.take_zero, List.append_nil] at hstream
    rw [finalize_digest hrepresents, hstream]

-- A vector of token ids has fewer than 2 ^ 61 elements.
theorem sha256_exact :
    (∀ pieces : List (Option (List UInt8)), (pieceBytes pieces).length < 2 ^ 61 →
      (∀ accepted ∈ (updateAll {} pieces).1, accepted = true) ∧
      (updateAll {} pieces).2.finalize.1.toList = Library.Sha256.sha256 (pieceBytes pieces)) ∧
    ∀ tokenIds : List UInt32, tokenIds.length < 2 ^ 61 →
      sha256TokenIdsU32le tokenIds = hex (Library.Sha256.sha256 (tokenBytes tokenIds)) := by
  refine ⟨fun pieces hlength => ?_, fun tokenIds hlength => ?_⟩
  · obtain ⟨haccepted, hrepresents⟩ := updateAll_represents represents_empty pieces (by
      rw [List.nil_append]
      dsimp only [uint64Max]
      omega)
    rw [List.nil_append] at hrepresents
    exact ⟨haccepted, finalize_digest hrepresents⟩
  · refine tokens_digest tokenIds ?_
    dsimp only [uint64Max]
    omega

end Tokens

end Qwen3xOrin.Core
