import Qwen3xOrin.Text.Loader

/-! The size limit of the decoder. It bounds the decoded bytes, and also the byte symbols of
every run of vocabulary tokens, which can be twice as long as the bytes they spell. -/

namespace Qwen3xOrin.Text

open Library

section Spelling

variable (data : EncoderData) (options : DecodeOptions)

-- The bytes a vocabulary token stands for.
def tokenBytes (token : Bytes) : Bytes :=
  match symbolBytes data.toTokenizerData token.length token with
  | .ok bytes => bytes
  | .error _ => []

def idBytes (id : ℕ) : Bytes :=
  match data.idToToken[id]? with
  | some token => tokenBytes data token
  | none =>
    match data.addedById id with
    | some token =>
      if options.skipSpecialTokens = false ∨ token.special = false then token.content else []
    | none => []

def decodedBytes (tokenIds : List ℕ) : Bytes := tokenIds.flatMap (idBytes data options)

def validId (id : ℕ) : Bool := (data.idToToken[id]?).isSome || (data.addedById id).isSome

-- No run of consecutive vocabulary tokens is spelled with more symbol bytes than the limit.
def RunsFit (tokenIds : List ℕ) : Prop :=
  ∀ front run back, tokenIds = front ++ run ++ back → (∀ id ∈ run, id < data.idToToken.length) →
    (run.flatMap fun id => data.idToToken.getD id []).length ≤ data.limits.maxInputBytes

-- The same, token by token, with the symbols of the current run.
def runsFitFrom : ℕ → List ℕ → Prop
  | _, [] => True
  | held, id :: tokenIds =>
    match data.idToToken[id]? with
    | some token =>
      held + token.length ≤ data.limits.maxInputBytes ∧ runsFitFrom (held + token.length) tokenIds
    | none => runsFitFrom 0 tokenIds

end Spelling

variable {data : EncoderData} {options : DecodeOptions}

lemma symbolBytes_byteLevel (hdecoder : data.byteDecoder = byteDecoder) {fuel : ℕ} {token : Bytes}
    (h : byteLevelToken fuel token = true) :
    ∃ bytes, symbolBytes data.toTokenizerData fuel token = .ok bytes := by
  induction fuel generalizing token with
  | zero =>
    cases token with
    | nil => exact ⟨[], by rw [symbolBytes]⟩
    | cons symbol symbols => cases h
  | succ fuel ih =>
    cases token with
    | nil => exact ⟨[], by rw [symbolBytes]⟩
    | cons symbol symbols =>
      rw [byteLevelToken] at h
      cases hd : decodeUtf8At (symbol :: symbols) with
      | none =>
        rw [hd] at h
        cases h
      | some decoded =>
        obtain ⟨codepoint, rest⟩ := decoded
        simp only [hd, Bool.and_eq_true] at h
        obtain ⟨byte, hbyte⟩ := Option.isSome_iff_exists.mp h.1
        obtain ⟨bytes, hbytes⟩ := ih h.2
        exact ⟨byte :: bytes, symbolBytes_step hd (hdecoder ▸ hbyte) hbytes⟩

lemma symbolBytes_token (hloaded : Loaded data) {id : ℕ} {token : Bytes}
    (h : data.idToToken[id]? = some token) :
    symbolBytes data.toTokenizerData token.length token = .ok (tokenBytes data token) := by
  obtain ⟨bytes, hbytes⟩ := symbolBytes_byteLevel hloaded.decoder
    (hloaded.byteLevel token (List.mem_of_getElem? h))
  rw [tokenBytes, hbytes]

-- What is left to do from a state: the remaining tokens and the last flush.
def decodeFrom (data : EncoderData) (options : DecodeOptions) (state : DecodeState)
    (tokenIds : List ℕ) : Except TokenizerError Bytes := do
  let state ← tokenIds.foldlM (decodeToken data.toTokenizerData options) state
  flushSymbols data.toTokenizerData state.byteSymbols state.text

lemma appendOutput_eq (text value : Bytes) :
    appendOutput data.toTokenizerData text value =
      if (text ++ value).length ≤ data.limits.maxInputBytes then .ok (text ++ value)
      else setError .inputTooLarge "decoded output exceeds max_input_bytes" := by
  rw [appendOutput, List.length_append]
  by_cases hfits : text.length + value.length ≤ data.limits.maxInputBytes
  · rw [if_pos hfits, if_neg (by omega)]
  · rw [if_neg hfits, if_pos (by omega)]

lemma flushSymbols_eq {state : DecodeState} {held : Bytes}
    (h : symbolBytes data.toTokenizerData state.byteSymbols.length state.byteSymbols = .ok held) :
    flushSymbols data.toTokenizerData state.byteSymbols state.text =
      appendOutput data.toTokenizerData state.text held := by
  rw [flushSymbols, h]
  rfl

lemma decodedBytes_cons (id : ℕ) (tokenIds : List ℕ) :
    decodedBytes data options (id :: tokenIds) =
      idBytes data options id ++ decodedBytes data options tokenIds := rfl

-- An added token flushes the run and adds its own content.
lemma decodeToken_added {state : DecodeState} {held : Bytes} {id : ℕ}
    (hheld : symbolBytes data.toTokenizerData state.byteSymbols.length state.byteSymbols =
      .ok held) (htoken : data.idToToken[id]? = none) (hvalid : validId data id = true) :
    decodeToken data.toTokenizerData options state id =
      if (state.text ++ held ++ idBytes data options id).length ≤ data.limits.maxInputBytes then
        .ok ⟨[], state.text ++ held ++ idBytes data options id⟩
      else setError .inputTooLarge "decoded output exceeds max_input_bytes" := by
  obtain ⟨token, hadded⟩ : ∃ token, data.addedById id = some token := by
    rw [validId, htoken] at hvalid
    exact Option.isSome_iff_exists.mp (by simpa using hvalid)
  simp only [decodeToken, htoken, hadded, idBytes]
  rw [flushSymbols_eq hheld, appendOutput_eq]
  by_cases hflush : (state.text ++ held).length ≤ data.limits.maxInputBytes
  · rw [if_pos hflush, ok_bind]
    by_cases hshown : options.skipSpecialTokens = false ∨ token.special = false
    · rw [if_pos hshown, if_pos hshown, appendOutput_eq]
      split_ifs <;> rfl
    · rw [if_neg hshown, if_neg hshown, List.append_nil, if_pos hflush]
      rfl
  · rw [if_neg hflush, if_neg]
    · rfl
    · intro hlen
      refine hflush (le_trans ?_ hlen)
      rw [@List.length_append _ _ (ite _ _ _)]
      omega

open Classical in
lemma decodeFrom_eq (hloaded : Loaded data) {tokenIds : List ℕ}
    (hvalid : ∀ id ∈ tokenIds, validId data id = true) {state : DecodeState} {held : Bytes}
    (hheld : symbolBytes data.toTokenizerData state.byteSymbols.length state.byteSymbols =
      .ok held) :
    decodeFrom data options state tokenIds =
      if runsFitFrom data state.byteSymbols.length tokenIds ∧
          (state.text ++ held ++ decodedBytes data options tokenIds).length ≤
            data.limits.maxInputBytes then
        .ok (state.text ++ held ++ decodedBytes data options tokenIds)
      else setError .inputTooLarge "decoded output exceeds max_input_bytes" := by
  induction tokenIds generalizing state held with
  | nil =>
    have hempty : decodedBytes data options [] = [] := rfl
    rw [hempty, List.append_nil]
    simp only [runsFitFrom, true_and]
    exact (flushSymbols_eq hheld).trans (appendOutput_eq _ _)
  | cons id tokenIds ih =>
    have hrest : ∀ other ∈ tokenIds, validId data other = true := fun other hother =>
      hvalid other (List.mem_cons_of_mem id hother)
    have hstep : decodeFrom data options state (id :: tokenIds) =
        decodeToken data.toTokenizerData options state id >>= fun state =>
          decodeFrom data options state tokenIds := by
      rw [decodeFrom, List.foldlM_cons, bind_assoc]
      rfl
    rw [hstep, decodedBytes_cons]
    cases htoken : data.idToToken[id]? with
    | some token =>
      have hbytes := symbolBytes_token hloaded htoken
      have hid : idBytes data options id = tokenBytes data token := by rw [idBytes, htoken]
      rw [hid]
      simp only [runsFitFrom, htoken, decodeToken]
      by_cases hfits : state.byteSymbols.length + token.length ≤ data.limits.maxInputBytes
      · rw [if_neg (by omega)]
        have hnext := @ih hrest ⟨state.byteSymbols ++ token, state.text⟩ _
          (symbolBytes_append hheld hbytes le_rfl)
        simp only [List.length_append, List.append_assoc] at hnext ⊢
        simp only [hfits, true_and]
        exact hnext
      · rw [if_pos (by omega), if_neg (fun h => hfits h.1.1)]
        rfl
    | none =>
      simp only [runsFitFrom, htoken]
      rw [decodeToken_added hheld htoken (hvalid id List.mem_cons_self)]
      by_cases hfits : (state.text ++ held ++ idBytes data options id).length ≤
          data.limits.maxInputBytes
      · have hnil : symbolBytes data.toTokenizerData ([] : Bytes).length [] = .ok [] := by
          rw [List.length_nil, symbolBytes]
        have hnext := @ih hrest ⟨[], state.text ++ held ++ idBytes data options id⟩ _ hnil
        rw [if_pos hfits, ok_bind, hnext]
        simp only [List.append_nil, List.length_nil, List.append_assoc]
      · rw [if_neg hfits, if_neg]
        · rfl
        · rintro ⟨-, hlen⟩
          refine hfits (le_trans ?_ hlen)
          simp only [List.length_append]
          omega

def spelled (data : EncoderData) (run : List ℕ) : Bytes :=
  run.flatMap fun id => data.idToToken.getD id []

-- A run of the longer list starts at its first token or lies in its tail.
lemma runsFit_cons {id : ℕ} {tokenIds : List ℕ} :
    RunsFit data (id :: tokenIds) ↔
      (∀ run back, id :: tokenIds = run ++ back → (∀ id ∈ run, id < data.idToToken.length) →
        (spelled data run).length ≤ data.limits.maxInputBytes) ∧ RunsFit data tokenIds := by
  constructor
  · intro h
    refine ⟨fun run back hs => h [] run back hs, fun front run back hs => ?_⟩
    exact h (id :: front) run back (by rw [hs]; rfl)
  · rintro ⟨hstart, htail⟩ front run back hs
    cases front with
    | nil => exact hstart run back hs
    | cons other front =>
      rw [List.cons_append, List.cons_append, List.cons.injEq] at hs
      exact htail front run back hs.2

lemma runsFitFrom_iff {held : ℕ} {tokenIds : List ℕ} (hheld : held ≤ data.limits.maxInputBytes) :
    runsFitFrom data held tokenIds ↔
      (∀ run back, tokenIds = run ++ back → (∀ id ∈ run, id < data.idToToken.length) →
        held + (spelled data run).length ≤ data.limits.maxInputBytes) ∧
      RunsFit data tokenIds := by
  induction tokenIds generalizing held with
  | nil =>
    refine ⟨fun _ => ⟨?_, ?_⟩, fun _ => trivial⟩
    · intro run back hsplit _
      obtain ⟨rfl, -⟩ := List.append_eq_nil_iff.mp hsplit.symm
      exact hheld
    · intro front run back hsplit _
      obtain ⟨hfront, -⟩ := List.append_eq_nil_iff.mp hsplit.symm
      obtain ⟨-, rfl⟩ := List.append_eq_nil_iff.mp hfront
      exact Nat.zero_le _
  | cons id tokenIds ih =>
    rw [runsFit_cons]
    cases htoken : data.idToToken[id]? with
    | some token =>
      have hid : id < data.idToToken.length := (List.getElem?_eq_some_iff.mp htoken).1
      have hspelled : ∀ run, (spelled data (id :: run)).length =
          token.length + (spelled data run).length := by
        intro run
        rw [spelled, List.flatMap_cons, List.length_append, List.getD_eq_getElem?_getD, htoken]
        rfl
      simp only [runsFitFrom, htoken]
      constructor
      · rintro ⟨hfits, hrest⟩
        obtain ⟨hruns, htail⟩ := (ih hfits).mp hrest
        have hstart : ∀ run back, id :: tokenIds = run ++ back →
            (∀ id ∈ run, id < data.idToToken.length) →
            held + (spelled data run).length ≤ data.limits.maxInputBytes := by
          intro run back hs hvocab
          cases run with
          | nil => exact hheld
          | cons other run =>
            rw [List.cons_append, List.cons.injEq] at hs
            obtain ⟨rfl, hs⟩ := hs
            have hrun := hruns run back hs fun k hk => hvocab k (List.mem_cons_of_mem _ hk)
            rw [hspelled]
            omega
        exact ⟨hstart, fun run back hs hvocab => by have := hstart run back hs hvocab; omega, htail⟩
      · rintro ⟨hstart, -, htail⟩
        have hfits := hstart [id] tokenIds rfl (by simpa using hid)
        rw [hspelled] at hfits
        have hfits' : held + token.length ≤ data.limits.maxInputBytes := by omega
        refine ⟨hfits', (ih hfits').mpr ⟨?_, htail⟩⟩
        intro run back hs hvocab
        have hrun := hstart (id :: run) back (by rw [hs]; rfl) (by simpa [hid] using hvocab)
        rw [hspelled] at hrun
        omega
    | none =>
      have hid : data.idToToken.length ≤ id := List.getElem?_eq_none_iff.mp htoken
      have hempty : ∀ run back, id :: tokenIds = run ++ back →
          (∀ id ∈ run, id < data.idToToken.length) → run = [] := by
        intro run back hs hvocab
        cases run with
        | nil => rfl
        | cons other run =>
          rw [List.cons_append, List.cons.injEq] at hs
          have := hvocab other List.mem_cons_self
          omega
      simp only [runsFitFrom, htoken]
      rw [ih (Nat.zero_le _)]
      constructor
      · rintro ⟨-, htail⟩
        refine ⟨fun run back hs hvocab => ?_, fun run back hs hvocab => ?_, htail⟩
        · rw [hempty run back hs hvocab]
          exact hheld
        · rw [hempty run back hs hvocab]
          exact Nat.zero_le _
      · rintro ⟨-, -, htail⟩
        refine ⟨fun run back hs hvocab => ?_, htail⟩
        rw [Nat.zero_add]
        exact htail [] run back hs hvocab

open Classical in
lemma decode_eq (hloaded : Loaded data) {tokenIds : List ℕ}
    (hcount : tokenIds.length ≤ data.limits.maxTokens)
    (hvalid : ∀ id ∈ tokenIds, validId data id = true) :
    decode data.toTokenizerData tokenIds options =
      if RunsFit data tokenIds ∧
          (decodedBytes data options tokenIds).length ≤ data.limits.maxInputBytes then
        .ok (decodedBytes data options tokenIds)
      else setError .inputTooLarge "decoded output exceeds max_input_bytes" := by
  have hnil : symbolBytes data.toTokenizerData ([] : Bytes).length [] = .ok [] := by
    rw [List.length_nil, symbolBytes]
  have hruns : runsFitFrom data 0 tokenIds ↔ RunsFit data tokenIds := by
    rw [runsFitFrom_iff (Nat.zero_le _)]
    refine ⟨And.right, fun h => ⟨fun run back hs hvocab => ?_, h⟩⟩
    rw [Nat.zero_add]
    exact h [] run back hs hvocab
  have hfrom := @decodeFrom_eq _ options hloaded _ hvalid {} _ hnil
  simp only [List.nil_append, List.length_nil, hruns] at hfrom
  rw [decode, if_neg (Nat.not_lt.mpr hcount)]
  exact hfrom

-- The size error exactly when the decoded bytes exceed the limit, and else those bytes.
def LimitsDecodedBytes (data : EncoderData) (options : DecodeOptions) (tokenIds : List ℕ) : Prop :=
  ((∃ error, decode data.toTokenizerData tokenIds options = .error error ∧
      error.code = .inputTooLarge) ↔
    data.limits.maxInputBytes < (decodedBytes data options tokenIds).length) ∧
  ((decodedBytes data options tokenIds).length ≤ data.limits.maxInputBytes →
    decode data.toTokenizerData tokenIds options = .ok (decodedBytes data options tokenIds))

lemma limitsDecodedBytes_iff (hloaded : Loaded data) (options : DecodeOptions)
    {tokenIds : List ℕ} (hcount : tokenIds.length ≤ data.limits.maxTokens)
    (hvalid : ∀ id ∈ tokenIds, validId data id = true) :
    LimitsDecodedBytes data options tokenIds ↔
      RunsFit data tokenIds ∨
        data.limits.maxInputBytes < (decodedBytes data options tokenIds).length := by
  have hdecode := @decode_eq _ options hloaded _ hcount hvalid
  unfold LimitsDecodedBytes
  by_cases hfits : RunsFit data tokenIds ∧
      (decodedBytes data options tokenIds).length ≤ data.limits.maxInputBytes
  · rw [if_pos hfits] at hdecode
    refine ⟨fun _ => .inl hfits.1, fun _ => ⟨⟨?_, fun h => absurd hfits.2 (by omega)⟩, ?_⟩⟩
    · rintro ⟨error, herror, -⟩
      rw [hdecode] at herror
      cases herror
    · exact fun _ => hdecode
  · rw [if_neg hfits] at hdecode
    constructor
    · intro h
      exact .inr (h.1.mp ⟨_, hdecode, rfl⟩)
    · intro h
      have hlarge : data.limits.maxInputBytes < (decodedBytes data options tokenIds).length := by
        obtain h | h := h
        · by_contra hle
          exact hfits ⟨h, Nat.le_of_not_lt hle⟩
        · exact h
      exact ⟨⟨fun _ => hlarge, fun _ => ⟨_, hdecode, rfl⟩⟩, fun hle => absurd hle (by omega)⟩

end Qwen3xOrin.Text
