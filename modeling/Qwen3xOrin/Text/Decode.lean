import Qwen3xOrin.Library.Guard

/-! Decoding token ids into bytes. Vocabulary tokens are spelled in byte symbols, which are turned
into bytes in runs; added tokens stand for their own content. -/

namespace Qwen3xOrin.Text

open Library

abbrev Bytes := List UInt8

inductive TokenizerErrorCode
  | schemaMismatch
  | invalidUtf8
  | unicodeError
  | regexError
  | invalidVocabulary
  | invalidMerge
  | inputTooLarge
  | tooManyTokens
  | invalidTokenId
  | unsupportedChat
  | internalError
  deriving DecidableEq, Repr

structure TokenizerError where
  code : TokenizerErrorCode
  message : String
  offset : ℕ := 0
  deriving DecidableEq, Repr

structure TokenizerLimits where
  maxInputBytes : ℕ := 4000000
  maxTokens : ℕ := 4000000
  maxChatMessages : ℕ := 1024
  deriving DecidableEq, Repr

structure AddedToken where
  content : Bytes
  special : Bool := false
  deriving DecidableEq, Repr

structure TokenizerData where
  limits : TokenizerLimits := {}
  idToToken : List Bytes := []
  addedById : ℕ → Option AddedToken := fun _ => none
  byteDecoder : ℕ → Option UInt8 := fun _ => none

structure DecodeOptions where
  skipSpecialTokens : Bool := false
  deriving DecidableEq, Repr

def isContinuation (byte : UInt8) : Bool := byte &&& 0xC0 = 0x80

-- The code point at the front of the text, with the text behind it.
def decodeUtf8At : Bytes → Option (ℕ × Bytes)
  | [] => none
  | byte :: rest =>
    if byte ≤ 0x7F then some (byte.toNat, rest)
    else if 0xC2 ≤ byte ∧ byte ≤ 0xDF then
      match rest with
      | b1 :: rest =>
        if isContinuation b1 then
          some ((byte &&& 0x1F).toNat <<< 6 ||| (b1 &&& 0x3F).toNat, rest)
        else none
      | _ => none
    else if 0xE0 ≤ byte ∧ byte ≤ 0xEF then
      match rest with
      | b1 :: b2 :: rest =>
        if isContinuation b1 = false ∨ isContinuation b2 = false then none
        else if byte = 0xE0 ∧ b1 < 0xA0 ∨ byte = 0xED ∧ 0xA0 ≤ b1 then none
        else some ((byte &&& 0x0F).toNat <<< 12 ||| (b1 &&& 0x3F).toNat <<< 6 |||
          (b2 &&& 0x3F).toNat, rest)
      | _ => none
    else if 0xF0 ≤ byte ∧ byte ≤ 0xF4 then
      match rest with
      | b1 :: b2 :: b3 :: rest =>
        if isContinuation b1 = false ∨ isContinuation b2 = false ∨ isContinuation b3 = false then
          none
        else if byte = 0xF0 ∧ b1 < 0x90 ∨ byte = 0xF4 ∧ 0x8F < b1 then none
        else some ((byte &&& 0x07).toNat <<< 18 ||| (b1 &&& 0x3F).toNat <<< 12 |||
          (b2 &&& 0x3F).toNat <<< 6 ||| (b3 &&& 0x3F).toNat, rest)
      | _ => none
    else none

section Decode

variable (data : TokenizerData)

def setError {α : Type} (code : TokenizerErrorCode) (message : String) : Except TokenizerError α :=
  .error { code := code, message := message }

def appendOutput (text value : Bytes) : Except TokenizerError Bytes :=
  if data.limits.maxInputBytes < value.length ∨
      data.limits.maxInputBytes - value.length < text.length then
    setError .inputTooLarge "decoded output exceeds max_input_bytes"
  else .ok (text ++ value)

-- The bytes of a run of symbols; every symbol takes at least one byte of the run.
def symbolBytes : ℕ → Bytes → Except TokenizerError Bytes
  | _, [] => .ok []
  | 0, _ :: _ => setError .internalError "vocabulary contained invalid UTF-8 during decode"
  | fuel + 1, symbol :: symbols =>
    match decodeUtf8At (symbol :: symbols) with
    | none => setError .internalError "vocabulary contained invalid UTF-8 during decode"
    | some (codepoint, rest) =>
      match data.byteDecoder codepoint with
      | none => setError .internalError "vocabulary contained a non-ByteLevel code point"
      | some byte => do
        let bytes ← symbolBytes fuel rest
        pure (byte :: bytes)

def flushSymbols (byteSymbols text : Bytes) : Except TokenizerError Bytes := do
  let bytes ← symbolBytes data byteSymbols.length byteSymbols
  appendOutput data text bytes

structure DecodeState where
  byteSymbols : Bytes := []
  text : Bytes := []
  deriving DecidableEq, Repr

def decodeToken (options : DecodeOptions) (state : DecodeState) (id : ℕ) :
    Except TokenizerError DecodeState :=
  match data.idToToken[id]? with
  | some token =>
    if data.limits.maxInputBytes < token.length ∨
        data.limits.maxInputBytes - token.length < state.byteSymbols.length then
      setError .inputTooLarge "decoded output exceeds max_input_bytes"
    else .ok { state with byteSymbols := state.byteSymbols ++ token }
  | none =>
    match data.addedById id with
    | none =>
      setError .invalidTokenId "token id is outside the pinned tokenizer vocabulary"
    | some token => do
      let text ← flushSymbols data state.byteSymbols state.text
      if options.skipSpecialTokens = false ∨ token.special = false then do
        let text ← appendOutput data text token.content
        pure { byteSymbols := [], text := text }
      else pure { byteSymbols := [], text := text }

def decode (tokenIds : List ℕ) (options : DecodeOptions) : Except TokenizerError Bytes :=
  if data.limits.maxTokens < tokenIds.length then
    setError .tooManyTokens "decode input exceeds max_tokens"
  else do
    let state ← tokenIds.foldlM (decodeToken data options) {}
    flushSymbols data state.byteSymbols state.text

end Decode

lemma decodeUtf8At_append {symbols rest : Bytes} {codepoint : ℕ}
    (h : decodeUtf8At symbols = some (codepoint, rest)) (more : Bytes) :
    decodeUtf8At (symbols ++ more) = some (codepoint, rest ++ more) ∧
      rest.length < symbols.length := by
  match symbols with
  | [] => cases h
  | byte :: tail =>
    rw [List.cons_append, List.length_cons]
    unfold decodeUtf8At at h ⊢
    dsimp only at h ⊢
    split_ifs at h ⊢ with hone htwo hthree hfour
    · cases h
      exact ⟨rfl, Nat.lt_succ_self _⟩
    · match tail, h with
      | b1 :: tail, h =>
        dsimp only [List.cons_append] at h ⊢
        split_ifs at h ⊢
        cases h
        exact ⟨rfl, by simp⟩
    · match tail, h with
      | b1 :: b2 :: tail, h =>
        dsimp only [List.cons_append] at h ⊢
        split_ifs at h ⊢
        cases h
        exact ⟨rfl, by simp only [List.length_cons]; omega⟩
    · match tail, h with
      | b1 :: b2 :: b3 :: tail, h =>
        dsimp only [List.cons_append] at h ⊢
        split_ifs at h ⊢
        cases h
        exact ⟨rfl, by simp only [List.length_cons]; omega⟩

section Pieces

variable {data : TokenizerData}

lemma symbolBytes_cons {fuel : ℕ} {byte : UInt8} {tail bytes : Bytes}
    (h : symbolBytes data fuel (byte :: tail) = .ok bytes) :
    ∃ fuel' codepoint rest decoded others, fuel = fuel' + 1 ∧
      decodeUtf8At (byte :: tail) = some (codepoint, rest) ∧
      data.byteDecoder codepoint = some decoded ∧ symbolBytes data fuel' rest = .ok others ∧
      bytes = decoded :: others := by
  cases fuel with
  | zero => cases h
  | succ fuel =>
    rw [symbolBytes] at h
    cases hat : decodeUtf8At (byte :: tail) with
    | none =>
      rw [hat] at h
      cases h
    | some symbol =>
      obtain ⟨codepoint, rest⟩ := symbol
      rw [hat] at h
      dsimp only at h
      cases hbyte : data.byteDecoder codepoint with
      | none =>
        rw [hbyte] at h
        cases h
      | some decoded =>
        rw [hbyte] at h
        obtain ⟨others, hothers, h⟩ := bind_ok.mp h
        cases h
        exact ⟨fuel, codepoint, rest, decoded, others, rfl, rfl, hbyte, hothers, rfl⟩

lemma symbolBytes_step {fuel codepoint : ℕ} {decoded : UInt8} {symbols rest others : Bytes}
    (hat : decodeUtf8At symbols = some (codepoint, rest))
    (hbyte : data.byteDecoder codepoint = some decoded)
    (hothers : symbolBytes data fuel rest = .ok others) :
    symbolBytes data (fuel + 1) symbols = .ok (decoded :: others) := by
  cases symbols with
  | nil => cases hat
  | cons byte tail =>
    rw [symbolBytes, hat]
    dsimp only
    rw [hbyte]
    dsimp only
    rw [hothers]
    rfl

-- Runs of symbols spell their bytes one after the other.
lemma symbolBytes_append {fuel fuel' fuel'' : ℕ} {symbols symbols' bytes bytes' : Bytes}
    (h : symbolBytes data fuel symbols = .ok bytes)
    (h' : symbolBytes data fuel' symbols' = .ok bytes')
    (hfuel : (symbols ++ symbols').length ≤ fuel'') :
    symbolBytes data fuel'' (symbols ++ symbols') = .ok (bytes ++ bytes') := by
  induction fuel'' generalizing fuel fuel' symbols symbols' bytes bytes' with
  | zero =>
    obtain ⟨rfl, rfl⟩ := List.append_eq_nil_iff.mp
      (List.length_eq_zero_iff.mp (Nat.le_zero.mp hfuel))
    rw [symbolBytes] at h h'
    cases h
    cases h'
    rw [List.append_nil, symbolBytes]
  | succ fuel'' ih =>
    match symbols, symbols' with
    | byte :: tail, symbols' =>
      obtain ⟨fuel, codepoint, rest, decoded, others, rfl, hat, hbyte, hothers, rfl⟩ :=
        symbolBytes_cons h
      obtain ⟨hat', hlength⟩ := decodeUtf8At_append hat symbols'
      rw [List.cons_append]
      refine symbolBytes_step hat' hbyte (ih hothers h' ?_)
      simp only [List.length_append] at hfuel ⊢
      omega
    | [], byte :: tail =>
      rw [symbolBytes] at h
      cases h
      obtain ⟨fuel', codepoint, rest, decoded, others, rfl, hat, hbyte, hothers, rfl⟩ :=
        symbolBytes_cons h'
      obtain ⟨-, hlength⟩ := decodeUtf8At_append hat []
      rw [List.nil_append, List.nil_append]
      refine symbolBytes_step hat hbyte ?_
      have hnil : symbolBytes data 0 [] = .ok [] := by rw [symbolBytes]
      refine ih hnil hothers ?_
      simp only [List.nil_append] at hfuel ⊢
      omega
    | [], [] =>
      rw [symbolBytes] at h h'
      cases h
      cases h'
      rw [List.append_nil, symbolBytes]

lemma appendOutput_ok {text value result : Bytes}
    (h : appendOutput data text value = .ok result) : result = text ++ value := by
  obtain ⟨-, h⟩ := guard_ok.mp h
  exact (Except.ok.inj h).symm

-- What a state has decoded, the run of symbols it holds included.
def Holds (data : TokenizerData) (state : DecodeState) (bytes : Bytes) : Prop :=
  ∃ held, symbolBytes data state.byteSymbols.length state.byteSymbols = .ok held ∧
    state.text ++ held = bytes

lemma flushSymbols_ok {state : DecodeState} {bytes text : Bytes} (hholds : Holds data state bytes)
    (h : flushSymbols data state.byteSymbols state.text = .ok text) : text = bytes := by
  obtain ⟨held, hheld, rfl⟩ := hholds
  obtain ⟨bytes, hbytes, h⟩ := bind_ok.mp h
  rw [hheld] at hbytes
  cases hbytes
  exact appendOutput_ok h

-- One token more holds the bytes that the token decodes to alone.
lemma decodeToken_holds {state next : DecodeState} {bytes piece : Bytes} {id : ℕ}
    (hholds : Holds data state bytes) (hpiece : decode data [id] {} = .ok piece)
    (h : decodeToken data {} state id = .ok next) : Holds data next (bytes ++ piece) := by
  obtain ⟨-, hpiece⟩ := guard_ok.mp hpiece
  obtain ⟨single, hsingle, hpiece⟩ := bind_ok.mp hpiece
  rw [List.foldlM_cons] at hsingle
  obtain ⟨single, hsingle, hlast⟩ := bind_ok.mp hsingle
  cases hlast
  unfold decodeToken at h hsingle
  cases htoken : data.idToToken[id]? with
  | some token =>
    rw [htoken] at h hsingle
    obtain ⟨-, h⟩ := guard_ok.mp h
    obtain ⟨-, hsingle⟩ := guard_ok.mp hsingle
    cases h
    cases hsingle
    obtain ⟨held, hheld, rfl⟩ := hholds
    obtain ⟨spelled, hspelled, hpiece⟩ := bind_ok.mp hpiece
    rw [appendOutput_ok hpiece]
    refine ⟨held ++ spelled, symbolBytes_append hheld hspelled le_rfl, ?_⟩
    simp
  | none =>
    rw [htoken] at h hsingle
    dsimp only at h hsingle
    cases hadded : data.addedById id with
    | none =>
      rw [hadded] at h
      cases h
    | some token =>
      rw [hadded] at h hsingle
      obtain ⟨text, htext, h⟩ := bind_ok.mp h
      obtain ⟨text', htext', hsingle⟩ := bind_ok.mp hsingle
      obtain ⟨output, houtput, h⟩ := bind_ok.mp h
      obtain ⟨output', houtput', hsingle⟩ := bind_ok.mp hsingle
      cases h
      cases hsingle
      have hempty : ∀ text, Holds data ⟨[], text⟩ text := fun text =>
        ⟨[], by rw [List.length_nil, symbolBytes], List.append_nil text⟩
      obtain rfl := flushSymbols_ok hholds htext
      obtain rfl := flushSymbols_ok (hempty []) htext'
      obtain rfl := appendOutput_ok houtput
      obtain rfl := appendOutput_ok houtput'
      obtain rfl := flushSymbols_ok (hempty _) hpiece
      exact hempty _

lemma decodeTokens_holds {piece : ℕ → Bytes} {tokenIds : List ℕ}
    (hpieces : ∀ id ∈ tokenIds, decode data [id] {} = .ok (piece id)) {state next : DecodeState}
    {bytes : Bytes} (hholds : Holds data state bytes)
    (h : tokenIds.foldlM (decodeToken data {}) state = .ok next) :
    Holds data next (bytes ++ tokenIds.flatMap piece) := by
  induction tokenIds generalizing state bytes with
  | nil =>
    cases h
    simpa using hholds
  | cons id tokenIds ih =>
    rw [List.foldlM_cons] at h
    obtain ⟨reached, hreached, h⟩ := bind_ok.mp h
    have hnext := decodeToken_holds hholds (hpieces id List.mem_cons_self) hreached
    rw [List.flatMap_cons, ← List.append_assoc]
    exact ih (fun other hother => hpieces other (List.mem_cons_of_mem id hother)) hnext h

lemma decode_pieces {piece : ℕ → Bytes} {tokenIds : List ℕ} {text : Bytes}
    (hpieces : ∀ id ∈ tokenIds, decode data [id] {} = .ok (piece id))
    (h : decode data tokenIds {} = .ok text) : text = tokenIds.flatMap piece := by
  obtain ⟨-, h⟩ := guard_ok.mp h
  obtain ⟨state, hstate, h⟩ := bind_ok.mp h
  have hempty : Holds data {} [] := ⟨[], by rw [List.length_nil, symbolBytes], rfl⟩
  exact flushSymbols_ok (decodeTokens_holds hpieces hempty hstate) h

end Pieces

end Qwen3xOrin.Text
