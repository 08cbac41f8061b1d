import Qwen3xOrin.Text.Decode

/-! The chat template: the role grammar of a message list and the text it is rendered to. -/

namespace Qwen3xOrin.Text

open Library

def ascii (text : String) : Bytes := text.toList.map fun character => UInt8.ofNat character.toNat

-- A literal is such a string, whose bytes need no decoding then.
lemma ascii_ofList (text : List Char) :
    ascii (String.ofList text) = text.map fun character => UInt8.ofNat character.toNat := by
  rw [ascii, String.toList_ofList]

structure ChatMessage where
  role : Bytes
  content : Bytes
  deriving DecidableEq, Repr

structure Qwen36ChatOptions where
  addGenerationPrompt : Bool := true
  enableThinking : Bool := true
  deriving DecidableEq, Repr

structure ChatResult where
  rendered : Bytes
  tokenIds : List ℕ
  deriving DecidableEq, Repr

section Trimming

-- The property of the Unicode library.
variable (isUWhiteSpace : ℕ → Bool)

def isTrimmed (codepoint : ℕ) : Bool := isUWhiteSpace codepoint || decide (codepoint ≤ 0x20)

structure TrimState where
  start : ℕ := 0
  stop : ℕ := 0
  sawNonspace : Bool := false
  deriving DecidableEq, Repr

-- One code point at a time; what is left of the input gives the offset.
def trimLoop (input : Bytes) : ℕ → Bytes → TrimState → Except TokenizerError TrimState
  | _, [], state => .ok state
  | 0, _ :: _, state => .ok state
  | fuel + 1, byte :: bytes, state =>
    let current := input.length - (byte :: bytes).length
    match decodeUtf8At (byte :: bytes) with
    | none =>
      .error
        { code := .invalidUtf8
          message := "chat content is not valid UTF-8"
          offset := current }
    | some (codepoint, rest) =>
      if isTrimmed isUWhiteSpace codepoint then trimLoop input fuel rest state
      else
        trimLoop input fuel rest
          { start := if state.sawNonspace then state.start else current
            stop := input.length - rest.length
            sawNonspace := true }

def trimUnicode (input : Bytes) : Except TokenizerError Bytes := do
  let state ← trimLoop isUWhiteSpace input input.length input {}
  pure (if state.sawNonspace then (input.drop state.start).take (state.stop - state.start) else [])

end Trimming

section Format

variable (isUWhiteSpace : ℕ → Bool) (limits : TokenizerLimits)

def appendBounded (output text : Bytes) (limit : ℕ) : Except TokenizerError Bytes :=
  if limit < text.length ∨ limit - text.length < output.length then
    setError .inputTooLarge "rendered chat exceeds max_input_bytes"
  else .ok (output ++ text)

def sizeMax : ℕ := 2 ^ 64 - 1

def lastUserIndex (messages : List ChatMessage) : ℕ :=
  (messages.zipIdx).foldl (fun last message =>
    if message.1.role = ascii "user" then message.2 else last) sizeMax

structure ChatState where
  index : ℕ := 0
  expectUser : Bool := true
  sawUser : Bool := false
  rendered : Bytes := []
  deriving DecidableEq, Repr

def appendMessage (rendered opening content : Bytes) : Except TokenizerError Bytes := do
  let rendered ← appendBounded rendered opening limits.maxInputBytes
  let rendered ← appendBounded rendered content limits.maxInputBytes
  appendBounded rendered (ascii "<|im_end|>\n") limits.maxInputBytes

def formatMessage (lastUser : ℕ) (state : ChatState) (message : ChatMessage) :
    Except TokenizerError ChatState := do
  let content ← trimUnicode isUWhiteSpace message.content
  if message.role = ascii "system" then
    if state.index ≠ 0 then
      setError .unsupportedChat "system message is only supported in first position"
    else do
      let rendered ← appendMessage limits state.rendered (ascii "<|im_start|>system\n") content
      pure { state with index := state.index + 1, rendered := rendered }
  else if message.role = ascii "user" then
    if state.expectUser = false then
      setError .unsupportedChat "text-only chat messages must alternate user/assistant"
    else do
      let rendered ← appendMessage limits state.rendered (ascii "<|im_start|>user\n") content
      pure ⟨state.index + 1, false, true, rendered⟩
  else if message.role = ascii "assistant" then
    if state.expectUser ∨ ascii "<think>" <:+: content ∨ ascii "</think>" <:+: content then
      setError .unsupportedChat ("assistant messages must follow user and cannot contain " ++
        "thinking-history markup in the fixed subset")
    else do
      let opening :=
        if lastUser < state.index then
          ascii "<|im_start|>assistant\n<think>\n\n</think>\n\n"
        else ascii "<|im_start|>assistant\n"
      let rendered ← appendMessage limits state.rendered opening content
      pure { state with index := state.index + 1, expectUser := true, rendered := rendered }
  else setError .unsupportedChat "only system, user, and assistant text roles are supported"

def generationSuffix (options : Qwen36ChatOptions) : Bytes :=
  if options.enableThinking then ascii "<|im_start|>assistant\n<think>\n"
  else ascii "<|im_start|>assistant\n<think>\n\n</think>\n\n"

def appendGenerationPrompt (options : Qwen36ChatOptions) (state : ChatState) :
    Except TokenizerError Bytes :=
  if options.addGenerationPrompt then
    if state.expectUser then
      setError .unsupportedChat "generation prompt requires the final message to be user"
    else appendBounded state.rendered (generationSuffix options) limits.maxInputBytes
  else .ok state.rendered

def formatQwen36Chat (encode : Bytes → Except TokenizerError (List ℕ))
    (messages : List ChatMessage) (options : Qwen36ChatOptions) :
    Except TokenizerError ChatResult :=
  if messages = [] then
    setError .unsupportedChat "Qwen chat requires at least one user message"
  else if limits.maxChatMessages < messages.length then
    setError .unsupportedChat "chat exceeds max_chat_messages"
  else do
    let state ← messages.foldlM
      (formatMessage isUWhiteSpace limits (lastUserIndex messages)) {}
    if state.sawUser = false then
      setError .unsupportedChat "Qwen chat requires a user message"
    else do
      let rendered ← appendGenerationPrompt limits options state
      let tokenIds ← encode rendered
      pure ⟨rendered, tokenIds⟩

end Format

end Qwen3xOrin.Text
