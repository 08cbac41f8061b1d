import Qwen3xOrin.Library.Scanning
import Qwen3xOrin.Library.Utf8
import Qwen3xOrin.Text.Bpe
import Qwen3xOrin.Text.Chat

/-! Encoding a text. The text is cut at the added tokens; what lies between them is validated,
normalized, cut by the pinned pattern and encoded piece by piece. -/

namespace Qwen3xOrin.Text

open Library

-- The Unicode library: a failed status is its name; a match whose offsets fail is `none`.
structure Icu where
  UnicodeString : Type
  nfcInstance : Option String
  fromUtf8 : Bytes → UnicodeString
  normalize : UnicodeString → Except String UnicodeString
  findAll : UnicodeString → Except String (List (Option (ℕ × ℕ)) × Option String)
  slice : UnicodeString → ℕ → ℕ → UnicodeString
  length : UnicodeString → ℕ
  toUtf8 : UnicodeString → Bytes

def absoluteInputBytes : ℕ := 64000000
def int32Max : ℕ := 2 ^ 31 - 1

def validateUtf8From : ℕ → ℕ → Bytes → Option ℕ
  | _, _, [] => none
  | 0, offset, _ :: _ => some offset
  | fuel + 1, offset, byte :: bytes =>
    match decodeUtf8At (byte :: bytes) with
    | none => some offset
    | some (_, rest) =>
      validateUtf8From fuel (offset + ((byte :: bytes).length - rest.length)) rest

-- The offset of the first sequence that does not decode.
def validateUtf8 (input : Bytes) : Option ℕ := validateUtf8From input.length 0 input

section Segment

variable (data : EncoderData) (queues : CandidateQueue) (icu : Icu)

-- The queue of a piece is empty after three pops a byte at most.
def bpePiece (piece : Bytes) (output : List ℕ) : Except TokenizerError (List ℕ) :=
  (encodeBpePiece data queues (3 * piece.length) piece output).getD
    (setError .internalError "unexpected failure while encoding")

def encodeUnicodePiece (value : icu.UnicodeString) (output : List ℕ) :
    Except TokenizerError (List ℕ) :=
  let piece := icu.toUtf8 value
  if absoluteInputBytes < piece.length then
    setError .inputTooLarge "normalized tokenizer segment exceeds absolute limit"
  else if data.limits.maxInputBytes < piece.length then
    setError .inputTooLarge "normalized input exceeds max_input_bytes"
  else bpePiece data queues piece output

def encodeMatches (normalized : icu.UnicodeString) :
    List (Option (ℕ × ℕ)) → ℕ → List ℕ → Except TokenizerError (ℕ × List ℕ)
  | [], previousEnd, output => .ok (previousEnd, output)
  | none :: _, _, _ =>
    setError .regexError "tokenizer regex returned invalid match offsets"
  | some (start, stop) :: found, previousEnd, output =>
    if start < previousEnd ∨ stop ≤ start then
      setError .regexError "tokenizer regex returned invalid match offsets"
    else do
      let output ←
        if previousEnd < start then
          encodeUnicodePiece data queues icu (icu.slice normalized previousEnd start) output
        else pure output
      let output ← encodeUnicodePiece data queues icu (icu.slice normalized start stop) output
      encodeMatches normalized found stop output

-- What stands behind the last match.
def encodeRemainder (normalized : icu.UnicodeString) (status : Option String)
    (previousEnd : ℕ) (output : List ℕ) : Except TokenizerError (List ℕ) :=
  match status with
  | some status => setError .regexError ("tokenizer regex matching failed: " ++ status)
  | none =>
    if previousEnd < icu.length normalized then
      encodeUnicodePiece data queues icu
        (icu.slice normalized previousEnd (icu.length normalized)) output
    else .ok output

def encodeNormalized (normalized : icu.UnicodeString) (output : List ℕ) :
    Except TokenizerError (List ℕ) :=
  match icu.findAll normalized with
  | .error status =>
    setError .regexError ("could not create tokenizer regex matcher: " ++ status)
  | .ok (found, status) => do
    let (previousEnd, output) ← encodeMatches data queues icu normalized found 0 output
    encodeRemainder data queues icu normalized status previousEnd output

def normalizeSegment (segment : Bytes) : Except TokenizerError icu.UnicodeString :=
  match icu.nfcInstance with
  | some status =>
    setError .unicodeError ("could not acquire ICU NFC normalizer: " ++ status)
  | none =>
    match icu.normalize (icu.fromUtf8 segment) with
    | .error status => setError .unicodeError ("ICU NFC normalization failed: " ++ status)
    | .ok normalized => .ok normalized

def encodeNormalSegment (segment : Bytes) (output : List ℕ) : Except TokenizerError (List ℕ) :=
  if segment = [] then .ok output
  else
    match validateUtf8 segment with
    | some badOffset =>
      .error
        { code := .invalidUtf8
          message := "input is not valid UTF-8"
          offset := badOffset }
    | none =>
      if int32Max < segment.length then
        setError .inputTooLarge "input exceeds ICU string length"
      else do
        let normalized ← normalizeSegment icu segment
        encodeNormalized data queues icu normalized output

end Segment

def findFrom (text content : Bytes) (cursor : ℕ) : Option ℕ :=
  (List.range' cursor (text.length + 1 - cursor)).find? fun position =>
    content.isPrefixOf (text.drop position)

abbrev AddedEntry := ℕ × AddedToken

-- The leftmost occurrence, and of those at one position the longest.
def closerAdded (text : Bytes) (cursor : ℕ) (best : Option (ℕ × AddedEntry))
    (token : AddedEntry) : Option (ℕ × AddedEntry) :=
  match findFrom text token.2.content cursor, best with
  | none, best => best
  | some position, none => some (position, token)
  | some position, some (matchPosition, matched) =>
    if position < matchPosition ∨
        position = matchPosition ∧ matched.2.content.length < token.2.content.length then
      some (position, token)
    else some (matchPosition, matched)

def selectAdded (text : Bytes) (cursor : ℕ) (tokens : List AddedEntry) :
    Option (ℕ × AddedEntry) :=
  tokens.foldl (closerAdded text cursor) none

section Encode

variable (data : EncoderData) (queues : CandidateQueue) (icu : Icu)

def encodeLoop (text : Bytes) : ℕ → ℕ → List ℕ → Except TokenizerError (List ℕ)
  | fuel, cursor, output =>
    if text.length ≤ cursor then .ok output
    else
      match selectAdded text cursor data.addedTokens with
      | none => encodeNormalSegment data queues icu (text.drop cursor) output
      | some (matchPosition, id, token) => do
        let output ←
          if cursor < matchPosition then
            encodeNormalSegment data queues icu
              ((text.drop cursor).take (matchPosition - cursor)) output
          else pure output
        let output ← pushToken data.limits.maxTokens output id
        match fuel with
        | 0 => setError .internalError "unexpected failure while encoding"
        | fuel + 1 => encodeLoop text fuel (matchPosition + token.content.length) output

-- Every round of the loop consumes a token, so the length of the text bounds the rounds.
def encodeImpl (text : Bytes) : Except TokenizerError (List ℕ) :=
  if data.limits.maxInputBytes < text.length then
    setError .inputTooLarge "input exceeds max_input_bytes"
  else encodeLoop data queues icu text text.length 0 []

end Encode

def pinnedBaseVocabularySize : ℕ := 248044

def pinnedAddedContents : List String :=
  ["<|endoftext|>", "<|im_start|>", "<|im_end|>", "<|object_ref_start|>", "<|object_ref_end|>",
    "<|box_start|>", "<|box_end|>", "<|quad_start|>", "<|quad_end|>", "<|vision_start|>",
    "<|vision_end|>", "<|vision_pad|>", "<|image_pad|>", "<|video_pad|>", "<tool_call>",
    "</tool_call>", "<|fim_prefix|>", "<|fim_middle|>", "<|fim_suffix|>", "<|fim_pad|>",
    "<|repo_name|>", "<|file_sep|>", "<tool_response>", "</tool_response>", "<think>", "</think>"]

-- The added tokens that the loader accepts.
def pinnedAddedTokens : List AddedEntry :=
  pinnedAddedContents.zipIdx.map fun entry =>
    (pinnedBaseVocabularySize + entry.2,
      { content := ascii entry.1, special := decide (entry.2 < 14) })

end Qwen3xOrin.Text
