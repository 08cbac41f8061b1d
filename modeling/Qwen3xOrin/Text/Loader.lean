import Qwen3xOrin.Text.Validate

/-! Loading the model: the byte symbols, the vocabulary and the merge table. What the checks
establish is one record, and the encoder and the decoder rest on that record alone. -/

namespace Qwen3xOrin.Text

open Library Library.Utf8

def appendUtf8 (codepoint : ℕ) : Bytes :=
  if codepoint ≤ 0x7F then [UInt8.ofNat codepoint]
  else if codepoint ≤ 0x7FF then
    [UInt8.ofNat (0xC0 ||| codepoint >>> 6), UInt8.ofNat (0x80 ||| codepoint &&& 0x3F)]
  else if codepoint ≤ 0xFFFF then
    [UInt8.ofNat (0xE0 ||| codepoint >>> 12), UInt8.ofNat (0x80 ||| codepoint >>> 6 &&& 0x3F),
      UInt8.ofNat (0x80 ||| codepoint &&& 0x3F)]
  else
    [UInt8.ofNat (0xF0 ||| codepoint >>> 18), UInt8.ofNat (0x80 ||| codepoint >>> 12 &&& 0x3F),
      UInt8.ofNat (0x80 ||| codepoint >>> 6 &&& 0x3F), UInt8.ofNat (0x80 ||| codepoint &&& 0x3F)]

def direct (value : ℕ) : Bool :=
  decide (33 ≤ value ∧ value ≤ 126 ∨ 161 ≤ value ∧ value ≤ 172 ∨ 174 ≤ value ∧ value ≤ 255)

-- The code points of the bytes in order; a byte that is not direct takes the next extension.
def byteCodepoints : ℕ → ℕ → ℕ → List ℕ
  | 0, _, _ => []
  | count + 1, value, extension =>
    if direct value then value :: byteCodepoints count (value + 1) extension
    else (256 + extension) :: byteCodepoints count (value + 1) (extension + 1)

lemma byteCodepoints_succ (count value extension : ℕ) :
    byteCodepoints (count + 1) value extension =
      if direct value then value :: byteCodepoints count (value + 1) extension
      else (256 + extension) :: byteCodepoints count (value + 1) (extension + 1) := rfl

def byteCodepoint (byte : UInt8) : ℕ := (byteCodepoints 256 0 0).getD byte.toNat 0

def byteEncoder (byte : UInt8) : Bytes := appendUtf8 (byteCodepoint byte)

def byteDecoder (codepoint : ℕ) : Option UInt8 :=
  ((byteCodepoints 256 0 0).findIdx? (· == codepoint)).map UInt8.ofNat

structure LoaderLimits extends TokenizerLimits where
  maxVocabSize : ℕ := 300000
  maxMerges : ℕ := 300000
  deriving DecidableEq, Repr

def pinnedMergeCount : ℕ := 247587

-- An entry's id is `none` when its value is no unsigned integer.
def readVocabulary (size : ℕ) :
    List (Bytes × Option ℕ) → List (Option Bytes) → Except TokenizerError (List (Option Bytes))
  | [], slots => .ok slots
  | (name, id) :: entries, slots =>
    match id with
    | none =>
      setError .invalidVocabulary "vocabulary id is not a bounded unsigned integer"
    | some id =>
      if size ≤ id then
        setError .invalidVocabulary "vocabulary id is not a bounded unsigned integer"
      else if (slots.getD id none).isSome then
        setError .invalidVocabulary "vocabulary ids are not unique"
      else readVocabulary size entries (slots.set id (some name))

def lookupVocabulary (entries : List (Bytes × Option ℕ)) (name : Bytes) : Option ℕ :=
  (entries.find? fun entry => entry.1 == name).bind Prod.snd

def byteLevelToken : ℕ → Bytes → Bool
  | _, [] => true
  | 0, _ :: _ => false
  | fuel + 1, symbol :: symbols =>
    match decodeUtf8At (symbol :: symbols) with
    | none => false
    | some (codepoint, rest) => (byteDecoder codepoint).isSome && byteLevelToken fuel rest

def splitMerge (text : Bytes) : Option (Bytes × Bytes) :=
  let left := text.takeWhile (· != 0x20)
  match text.dropWhile (· != 0x20) with
  | [] => none
  | _ :: right => if left = [] ∨ right = [] ∨ 0x20 ∈ right then none else some (left, right)

def readMerges (vocabulary : Bytes → Option ℕ) :
    ℕ → List (Option Bytes) → List (ℕ × MergeRule) →
      Except TokenizerError (List (ℕ × MergeRule))
  | _, [], table => .ok table
  | rank, text :: merges, table =>
    match text with
    | none => setError .invalidMerge "merge entry must be a string"
    | some text =>
      match splitMerge text with
      | none => setError .invalidMerge "merge entry must contain exactly two tokens"
      | some (left, right) =>
        match vocabulary left, vocabulary right, vocabulary (left ++ right) with
        | some leftId, some rightId, some resultId =>
          if (table.lookup (pairKey leftId rightId)).isSome then
            setError .invalidMerge "duplicate merge pair"
          else
            readMerges vocabulary (rank + 1) merges
              ((pairKey leftId rightId, ⟨rank, resultId⟩) :: table)
        | _, _, _ =>
          setError .invalidMerge "merge references a token absent from the vocabulary"

def parseModel (limits : LoaderLimits) (vocab : List (Bytes × Option ℕ))
    (merges : List (Option Bytes)) : Except TokenizerError EncoderData :=
  if limits.maxVocabSize < vocab.length then
    setError .invalidVocabulary "vocabulary exceeds max_vocab_size"
  else if vocab.length ≠ pinnedBaseVocabularySize then
    setError .schemaMismatch "base vocabulary size does not match pinned tokenizer"
  else do
    let slots ← readVocabulary vocab.length vocab (List.replicate vocab.length none)
    if slots.any Option.isNone then
      setError .invalidVocabulary "vocabulary ids are not contiguous"
    else
      let tokens := slots.map (Option.getD · [])
      let vocabulary := lookupVocabulary vocab
      if (List.range 256).any fun byte => (vocabulary (byteEncoder (UInt8.ofNat byte))).isNone then
        setError .invalidVocabulary "vocabulary is missing a GPT-2 byte token"
      else if tokens.any fun token => !byteLevelToken token.length token then
        setError .invalidVocabulary "vocabulary token is not ByteLevel encoded"
      else if limits.maxMerges < merges.length then
        setError .invalidMerge "merges exceed max_merges"
      else if merges.length ≠ pinnedMergeCount then
        setError .schemaMismatch "merge count does not match pinned tokenizer"
      else do
        let table ← readMerges vocabulary 0 merges []
        .ok
          { limits := limits.toTokenizerLimits
            idToToken := tokens
            byteDecoder := byteDecoder
            vocabulary := vocabulary
            merges := fun key => table.lookup key
            byteTokenIds := fun byte => (vocabulary (byteEncoder byte)).getD 0 }

-- The fields of an added token; `none` when the value has another type.
structure AddedTokenFields where
  id : Option ℕ := none
  content : Option Bytes := none
  singleWord : Option Bool := none
  lstrip : Option Bool := none
  rstrip : Option Bool := none
  normalized : Option Bool := none
  special : Option Bool := none
  deriving DecidableEq, Repr

def requirePinned {α : Type} [DecidableEq α] (value : Option α) (expected : α)
    (path key : String) : Except TokenizerError Unit :=
  if value = some expected then .ok ()
  else setError .schemaMismatch (path ++ "." ++ key ++ " does not match the pinned schema")

def readAddedToken (index : ℕ) (expected : String) (token : AddedTokenFields) :
    Except TokenizerError AddedEntry := do
  let path := "$.added_tokens[" ++ toString index ++ "]"
  requirePinned token.content (ascii expected) path "content"
  requirePinned token.singleWord false path "single_word"
  requirePinned token.lstrip false path "lstrip"
  requirePinned token.rstrip false path "rstrip"
  requirePinned token.normalized false path "normalized"
  if token.id ≠ some (pinnedBaseVocabularySize + index) then
    setError .schemaMismatch (path ++ ".id does not match pinned tokenizer")
  else if token.special ≠ some (decide (index < 14)) then
    setError .schemaMismatch (path ++ ".special does not match pinned tokenizer")
  else
    .ok (pinnedBaseVocabularySize + index,
      { content := ascii expected, special := decide (index < 14) })

def parseAddedTokens (tokens : List AddedTokenFields) : Except TokenizerError (List AddedEntry) :=
  if tokens.length ≠ pinnedAddedContents.length then
    setError .schemaMismatch "added token count does not match pinned tokenizer"
  else
    (pinnedAddedContents.zipIdx.zip tokens).mapM fun entry =>
      readAddedToken entry.1.2 entry.1.1 entry.2

def loadTokenizer (limits : LoaderLimits) (vocab : List (Bytes × Option ℕ))
    (merges : List (Option Bytes)) (added : List AddedTokenFields) :
    Except TokenizerError EncoderData := do
  let data ← parseModel limits vocab merges
  let tokens ← parseAddedTokens added
  .ok
    { data with
      addedTokens := tokens
      addedById := fun id => (tokens.find? (·.1 == id)).map Prod.snd }

-- What the checks of the loader establish.
structure Loaded (data : EncoderData) : Prop where
  decoder : data.byteDecoder = byteDecoder
  byteTokens : ∀ byte, data.idToToken[data.byteTokenIds byte]? = some (byteEncoder byte)
  byteLevel : ∀ token ∈ data.idToToken, byteLevelToken token.length token = true
  merged : ∀ left right tokenLeft tokenRight rule, data.idToToken[left]? = some tokenLeft →
    data.idToToken[right]? = some tokenRight → data.merges (pairKey left right) = some rule →
    data.idToToken[rule.resultId]? = some (tokenLeft ++ tokenRight)
  added : data.addedTokens = pinnedAddedTokens
  addedById : ∀ token ∈ pinnedAddedTokens, data.idToToken[token.1]? = none ∧
    data.addedById token.1 = some token.2

lemma byteCodepoints_length (count value extension : ℕ) :
    (byteCodepoints count value extension).length = count := by
  induction count generalizing value extension with
  | zero => rfl
  | succ count ih =>
    rw [byteCodepoints_succ]
    split_ifs <;> rw [List.length_cons, ih]

lemma byteCodepoints_mem {count value extension codepoint : ℕ} (h : value + count ≤ 256)
    (hmem : codepoint ∈ byteCodepoints count value extension) :
    value ≤ codepoint ∧ codepoint < 256 ∨ 256 + extension ≤ codepoint := by
  induction count generalizing value extension with
  | zero => cases hmem
  | succ count ih =>
    rw [byteCodepoints_succ] at hmem
    split_ifs at hmem
    · obtain rfl | hmem := List.mem_cons.mp hmem
      · exact Or.inl ⟨le_rfl, by omega⟩
      · have := ih (by omega) hmem
        omega
    · obtain rfl | hmem := List.mem_cons.mp hmem
      · exact Or.inr le_rfl
      · have := ih (by omega) hmem
        omega

lemma byteCodepoints_nodup {count value extension : ℕ} (h : value + count ≤ 256) :
    (byteCodepoints count value extension).Nodup := by
  induction count generalizing value extension with
  | zero => exact List.nodup_nil
  | succ count ih =>
    rw [byteCodepoints_succ]
    split_ifs
    · refine List.nodup_cons.mpr ⟨fun hmem => ?_, ih (by omega)⟩
      have := byteCodepoints_mem (by omega) hmem
      omega
    · refine List.nodup_cons.mpr ⟨fun hmem => ?_, ih (by omega)⟩
      have := byteCodepoints_mem (by omega) hmem
      omega

lemma byteCodepoint_eq (byte : UInt8) :
    (byteCodepoints 256 0 0)[byte.toNat]? = some (byteCodepoint byte) := by
  have hlt : byte.toNat < (byteCodepoints 256 0 0).length := by
    rw [byteCodepoints_length]
    exact byte.toNat_lt
  rw [byteCodepoint, List.getD_eq_getElem?_getD, List.getElem?_eq_getElem hlt, Option.getD_some]

lemma byteEncoder_decodes (byte : UInt8) (rest : Bytes) :
    decodeUtf8At (byteEncoder byte ++ rest) = some (byteCodepoint byte, rest) := by
  have hall : (byteCodepoints 256 0 0).all fun codepoint =>
      decide (decodeUtf8At (appendUtf8 codepoint) = some (codepoint, [])) := by decide +kernel
  have hbyte := List.all_eq_true.mp hall _ (List.mem_of_getElem? (byteCodepoint_eq byte))
  exact (decodeUtf8At_append (of_decide_eq_true hbyte) rest).1

lemma byteDecoder_byteCodepoint (byte : UInt8) : byteDecoder (byteCodepoint byte) = some byte := by
  obtain ⟨hlt, hget⟩ := List.getElem?_eq_some_iff.mp (byteCodepoint_eq byte)
  have hfind : (byteCodepoints 256 0 0).findIdx? (· == byteCodepoint byte) =
      some byte.toNat := by
    rw [List.findIdx?_eq_some_iff_getElem]
    refine ⟨hlt, by rw [hget, beq_self_eq_true], fun other hother heq => ?_⟩
    rw [beq_iff_eq, ← hget, (byteCodepoints_nodup le_rfl).getElem_inj_iff] at heq
    exact Nat.ne_of_lt hother heq
  rw [byteDecoder, hfind, Option.map_some, UInt8.ofNat_toNat]

-- What the table of the bytes writes is made of its own symbols.
lemma byteLevelToken_byteEncoder (byte : UInt8) :
    byteLevelToken (byteEncoder byte).length (byteEncoder byte) = true := by
  have hdecodes := byteEncoder_decodes byte []
  rw [List.append_nil] at hdecodes
  cases hencoded : byteEncoder byte with
  | nil => rfl
  | cons symbol symbols =>
    rw [hencoded] at hdecodes
    simp only [List.length_cons, byteLevelToken, hdecodes, byteDecoder_byteCodepoint,
      Option.isSome_some, Bool.true_and]

section Read

lemma readVocabulary_spec {size : ℕ} {entries : List (Bytes × Option ℕ)}
    {slots filled : List (Option Bytes)} (h : readVocabulary size entries slots = .ok filled)
    (hsize : slots.length = size) :
    filled.length = size ∧
      (∀ (id : ℕ) name, slots[id]? = some (some name) → filled[id]? = some (some name)) ∧
      ∀ entry ∈ entries, ∃ id : ℕ, entry.2 = some id ∧ filled[id]? = some (some entry.1) := by
  induction entries generalizing slots with
  | nil =>
    obtain rfl := Except.ok.inj h
    exact ⟨hsize, fun _ _ hname => hname, fun _ hentry => absurd hentry List.not_mem_nil⟩
  | cons entry entries ih =>
    obtain ⟨name, id⟩ := entry
    cases id with
    | none => cases h
    | some id =>
      rw [readVocabulary] at h
      obtain ⟨hbound, h⟩ := guard_ok.mp h
      obtain ⟨hfree, h⟩ := guard_ok.mp h
      obtain ⟨hlength, hkept, hread⟩ := ih h (by rw [List.length_set, hsize])
      have hid : id < slots.length := by omega
      refine ⟨hlength, ?_, ?_⟩
      · intro other held hheld
        refine hkept other held ?_
        by_cases hsame : id = other
        · subst hsame
          simp [List.getD_eq_getElem?_getD, hheld] at hfree
        · rwa [List.getElem?_set_ne hsame]
      · intro other hother
        obtain rfl | hother := List.mem_cons.mp hother
        · exact ⟨id, rfl, hkept id name (List.getElem?_set_self hid)⟩
        · exact hread other hother

lemma lookupVocabulary_mem {entries : List (Bytes × Option ℕ)} {name : Bytes} {id : ℕ}
    (h : lookupVocabulary entries name = some id) : (name, some id) ∈ entries := by
  obtain ⟨entry, hentry, hid⟩ := Option.bind_eq_some_iff.mp h
  have hname : entry.1 = name := by simpa using List.find?_some hentry
  rw [← hname, ← hid]
  exact List.mem_of_find?_eq_some hentry

lemma pairKey_eq {left right : ℕ} (hright : right < 2 ^ 32) :
    pairKey left right = left * 2 ^ 32 + right := by
  rw [pairKey, ← Nat.shiftLeft_add_eq_or_of_lt hright, Nat.shiftLeft_eq]

lemma pairKey_inj {left right left' right' : ℕ} (hright : right < 2 ^ 32)
    (hright' : right' < 2 ^ 32) (h : pairKey left right = pairKey left' right') :
    left = left' ∧ right = right' := by
  rw [pairKey_eq hright, pairKey_eq hright'] at h
  omega

-- Every rule of the table comes from a pair of tokens whose texts join to its result.
def TableOf (vocabulary : Bytes → Option ℕ) (table : List (ℕ × MergeRule)) : Prop :=
  ∀ entry ∈ table, ∃ left right leftId rightId, vocabulary left = some leftId ∧
    vocabulary right = some rightId ∧ vocabulary (left ++ right) = some entry.2.resultId ∧
    entry.1 = pairKey leftId rightId

lemma readMerges_spec {vocabulary : Bytes → Option ℕ} {rank : ℕ} {merges : List (Option Bytes)}
    {table read : List (ℕ × MergeRule)} (h : readMerges vocabulary rank merges table = .ok read)
    (htable : TableOf vocabulary table) : TableOf vocabulary read := by
  induction merges generalizing rank table with
  | nil =>
    obtain rfl := Except.ok.inj h
    exact htable
  | cons text merges ih =>
    cases text with
    | none => cases h
    | some text =>
      simp only [readMerges] at h
      cases hsplit : splitMerge text with
      | none =>
        rw [hsplit] at h
        cases h
      | some parts =>
        obtain ⟨left, right⟩ := parts
        simp only [hsplit] at h
        split at h
        · rename_i leftId rightId resultId hleft hright hresult
          obtain ⟨-, h⟩ := guard_ok.mp h
          refine ih h ?_
          intro entry hentry
          obtain rfl | hentry := List.mem_cons.mp hentry
          · exact ⟨left, right, leftId, rightId, hleft, hright, hresult, rfl⟩
          · exact htable entry hentry
        · cases h

lemma lookup_mem {table : List (ℕ × MergeRule)} {key : ℕ} {rule : MergeRule}
    (h : table.lookup key = some rule) : (key, rule) ∈ table := by
  induction table with
  | nil => cases h
  | cons entry table ih =>
    obtain ⟨other, value⟩ := entry
    rw [List.lookup_cons] at h
    split at h
    · rename_i hsame
      rw [beq_iff_eq] at hsame
      rw [hsame, ← Option.some.inj h]
      exact List.mem_cons_self
    · exact List.mem_cons_of_mem _ (ih h)

lemma mem_of_ok_mapM {α β : Type} {f : α → Except TokenizerError β} {l : List α} {r : List β}
    (h : l.mapM f = .ok r) {g : α → β} (hg : ∀ a ∈ l, ∀ b, f a = .ok b → b = g a) :
    r = l.map g := by
  induction l generalizing r with
  | nil =>
    rw [List.mapM_nil] at h
    exact (Except.ok.inj h).symm
  | cons a l ih =>
    rw [List.mapM_cons] at h
    obtain ⟨b, hb, h⟩ := bind_ok.mp h
    obtain ⟨bs, hbs, h⟩ := bind_ok.mp h
    obtain rfl := Except.ok.inj h
    rw [List.map_cons, hg a List.mem_cons_self b hb,
      ih hbs fun c hc => hg c (List.mem_cons_of_mem a hc)]

lemma readAddedToken_ok {index : ℕ} {expected : String} {token : AddedTokenFields}
    {entry : AddedEntry} (h : readAddedToken index expected token = .ok entry) :
    entry = (pinnedBaseVocabularySize + index,
      { content := ascii expected, special := decide (index < 14) }) := by
  unfold readAddedToken at h
  iterate 5 obtain ⟨_, -, h⟩ := bind_ok.mp h
  obtain ⟨-, h⟩ := guard_ok.mp h
  obtain ⟨-, h⟩ := guard_ok.mp h
  exact (Except.ok.inj h).symm

lemma parseAddedTokens_ok {tokens : List AddedTokenFields} {entries : List AddedEntry}
    (h : parseAddedTokens tokens = .ok entries) : entries = pinnedAddedTokens := by
  obtain ⟨hlength, h⟩ := guard_ok.mp h
  rw [not_not] at hlength
  rw [mem_of_ok_mapM h fun entry _ result hresult => readAddedToken_ok hresult]
  have hzip : (pinnedAddedContents.zipIdx.zip tokens).map Prod.fst = pinnedAddedContents.zipIdx :=
    List.map_fst_zip (by rw [List.length_zipIdx, hlength])
  conv_rhs => rw [pinnedAddedTokens, ← hzip, List.map_map]
  rfl

lemma parseModel_ok {limits : LoaderLimits} {vocab : List (Bytes × Option ℕ)}
    {merges : List (Option Bytes)} {data : EncoderData}
    (h : parseModel limits vocab merges = .ok data) :
    data.idToToken.length = pinnedBaseVocabularySize ∧ data.byteDecoder = byteDecoder ∧
      (∀ name id, data.vocabulary name = some id → data.idToToken[id]? = some name) ∧
      (∀ byte, data.vocabulary (byteEncoder byte) = some (data.byteTokenIds byte)) ∧
      (∀ token ∈ data.idToToken, byteLevelToken token.length token = true) ∧
      ∃ table, TableOf data.vocabulary table ∧ data.merges = fun key => table.lookup key := by
  obtain ⟨-, h⟩ := guard_ok.mp h
  obtain ⟨hsize, h⟩ := guard_ok.mp h
  rw [not_not] at hsize
  obtain ⟨slots, hslots, h⟩ := bind_ok.mp h
  obtain ⟨-, h⟩ := guard_ok.mp h
  obtain ⟨hbytes, h⟩ := guard_ok.mp h
  obtain ⟨hlevel, h⟩ := guard_ok.mp h
  obtain ⟨-, h⟩ := guard_ok.mp h
  obtain ⟨-, h⟩ := guard_ok.mp h
  obtain ⟨table, htable, h⟩ := bind_ok.mp h
  obtain rfl := Except.ok.inj h
  obtain ⟨hlength, -, hread⟩ := readVocabulary_spec hslots (List.length_replicate ..)
  refine ⟨by rw [List.length_map, hlength, hsize], rfl, ?_, ?_, ?_, table, ?_, rfl⟩
  · intro name id hid
    obtain ⟨other, hother, hslot⟩ := hread _ (lookupVocabulary_mem hid)
    obtain rfl := Option.some.inj hother
    simp [hslot]
  · intro byte
    have hfound : (lookupVocabulary vocab (byteEncoder byte)).isSome = true := by
      simp only [List.any_eq_true, not_exists, not_and, List.mem_range] at hbytes
      have hbyte := hbytes byte.toNat byte.toNat_lt
      rw [UInt8.ofNat_toNat] at hbyte
      rwa [Bool.not_eq_true, Option.isNone_eq_false_iff] at hbyte
    obtain ⟨id, hid⟩ := Option.isSome_iff_exists.mp hfound
    simp [hid]
  · intro token htoken
    simp only [List.any_eq_true, not_exists, not_and] at hlevel
    simpa using hlevel token htoken
  · exact readMerges_spec htable fun _ hentry => absurd hentry List.not_mem_nil

lemma pinned_ids {token : AddedEntry} (htoken : token ∈ pinnedAddedTokens) :
    pinnedBaseVocabularySize ≤ token.1 ∧
      (pinnedAddedTokens.find? (·.1 == token.1)).map Prod.snd = some token.2 := by
  have hids : pinnedAddedTokens.all (fun token => decide (pinnedBaseVocabularySize ≤ token.1) &&
      decide ((pinnedAddedTokens.find? (·.1 == token.1)).map Prod.snd = some token.2)) = true := by
    simp only [pinnedAddedTokens, pinnedAddedContents, List.zipIdx_cons, List.zipIdx_nil,
      List.map_cons, List.map_nil]
    repeat rw [ascii_ofList]
    decide
  have hid := List.all_eq_true.mp hids token htoken
  rwa [Bool.and_eq_true, decide_eq_true_eq, decide_eq_true_eq] at hid

lemma loadTokenizer_loaded {limits : LoaderLimits} {vocab : List (Bytes × Option ℕ)}
    {merges : List (Option Bytes)} {added : List AddedTokenFields} {data : EncoderData}
    (h : loadTokenizer limits vocab merges added = .ok data) : Loaded data := by
  obtain ⟨model, hmodel, h⟩ := bind_ok.mp h
  obtain ⟨tokens, htokens, h⟩ := bind_ok.mp h
  obtain rfl := Except.ok.inj h
  obtain rfl := parseAddedTokens_ok htokens
  obtain ⟨hsize, hdecoder, hnames, hbytes, hlevel, table, htable, hmerges⟩ := parseModel_ok hmodel
  have hsmall : ∀ {id : ℕ} {token : Bytes}, model.idToToken[id]? = some token → id < 2 ^ 32 := by
    intro id token hid
    obtain ⟨hlt, -⟩ := List.getElem?_eq_some_iff.mp hid
    rw [hsize] at hlt
    exact hlt.trans (by decide)
  refine
    { decoder := hdecoder
      byteTokens := fun byte => hnames _ _ (hbytes byte)
      byteLevel := hlevel
      merged := ?_
      added := rfl
      addedById := ?_ }
  · intro left right tokenLeft tokenRight rule hleft hright hrule
    dsimp only at hleft hright hrule ⊢
    rw [hmerges] at hrule
    obtain ⟨nameLeft, nameRight, leftId, rightId, hl, hr, hresult, hkey⟩ :=
      htable _ (lookup_mem hrule)
    have hleftId := hnames _ _ hl
    have hrightId := hnames _ _ hr
    obtain ⟨rfl, rfl⟩ := pairKey_inj (hsmall hright) (hsmall hrightId) hkey
    rw [hleft] at hleftId
    rw [hright] at hrightId
    obtain rfl := Option.some.inj hleftId
    obtain rfl := Option.some.inj hrightId
    exact hnames _ _ hresult
  · intro token htoken
    have hid := pinned_ids htoken
    exact ⟨List.getElem?_eq_none (hsize ▸ hid.1), hid.2⟩

end Read

end Qwen3xOrin.Text
