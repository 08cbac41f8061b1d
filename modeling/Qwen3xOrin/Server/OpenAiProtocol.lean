import Qwen3xOrin.Io.JsonIntegers
import Qwen3xOrin.Server.HttpRequest

/-! The response payloads of the server, as they are written, and their framing as events. -/

namespace Qwen3xOrin.Server

open Io.Json

inductive OpenAiEndpoint
  | chatCompletions
  | completions
  deriving DecidableEq, Repr

inductive OpenAiFinishReason
  | stop
  | length
  deriving DecidableEq, Repr

def OpenAiFinishReason.toText : OpenAiFinishReason → Bytes
  | stop => ascii "stop"
  | length => ascii "length"

structure OpenAiUsage where
  promptTokens : UInt64 := 0
  completionTokens : UInt64 := 0
  totalTokens : UInt64 := 0
  deriving DecidableEq, Repr

structure OpenAiProtocolError where
  httpStatus : ℕ := 400
  code : Bytes
  message : Bytes
  param : Bytes := []
  deriving DecidableEq, Repr

-- Each `append` function gives what it adds to the output.
section Writers

def hexDigit (nibble : ℕ) : UInt8 :=
  if nibble < 10 then UInt8.ofNat (48 + nibble) else UInt8.ofNat (97 + (nibble - 10))

def escapeByte (byte : UInt8) : Bytes :=
  if byte = 34 then ascii "\\\""
  else if byte = 92 then ascii "\\\\"
  else if byte = 8 then ascii "\\b"
  else if byte = 12 then ascii "\\f"
  else if byte = 10 then ascii "\\n"
  else if byte = 13 then ascii "\\r"
  else if byte = 9 then ascii "\\t"
  else if byte < 0x20 then
    ascii "\\u00" ++ [hexDigit (byte.toNat / 16 % 16), hexDigit (byte.toNat % 16)]
  else [byte]

def appendJsonString (value : Bytes) : Bytes := 34 :: (value.flatMap escapeByte ++ [34])

def appendCommonPrefix (id object : Bytes) (created : Int64) (model : Bytes) : Bytes :=
  ascii "\x7b\"id\":" ++ appendJsonString id ++ ascii ",\"object\":" ++ appendJsonString object ++
    ascii ",\"created\":" ++ toStringSigned created.toInt ++ ascii ",\"model\":" ++
    appendJsonString model

def appendUsage (usage : OpenAiUsage) : Bytes :=
  ascii "\x7b\"prompt_tokens\":" ++ toStringUnsigned usage.promptTokens.toNat ++
    ascii ",\"completion_tokens\":" ++ toStringUnsigned usage.completionTokens.toNat ++
    ascii ",\"total_tokens\":" ++ toStringUnsigned usage.totalTokens.toNat ++ ascii "\x7d"

def finishText (finishReason : Option OpenAiFinishReason) : Bytes :=
  match finishReason with
  | some reason => appendJsonString reason.toText
  | none => ascii "null"

end Writers

section Payloads

variable (id : Bytes) (created : Int64) (model : Bytes)

def serializeOpenAiError (error : OpenAiProtocolError) : Bytes :=
  ascii "\x7b\"error\":\x7b\"message\":" ++ appendJsonString error.message ++
    ascii ",\"type\":\"invalid_request_error\",\"param\":" ++
    (if error.param = [] then ascii "null" else appendJsonString error.param) ++
    ascii ",\"code\":" ++ appendJsonString error.code ++ ascii "\x7d\x7d"

def serializeChatCompletion (text : Bytes) (finishReason : OpenAiFinishReason)
    (usage : OpenAiUsage) : Bytes :=
  appendCommonPrefix id (ascii "chat.completion") created model ++
    ascii ",\"choices\":[\x7b\"index\":0,\"message\":\x7b\"role\":\"assistant\",\"content\":" ++
    appendJsonString text ++ ascii "\x7d,\"logprobs\":null,\"finish_reason\":" ++
    appendJsonString finishReason.toText ++ ascii "\x7d],\"usage\":" ++ appendUsage usage ++
    ascii "\x7d"

def serializeTextCompletion (text : Bytes) (finishReason : OpenAiFinishReason)
    (usage : OpenAiUsage) : Bytes :=
  appendCommonPrefix id (ascii "text_completion") created model ++
    ascii ",\"choices\":[\x7b\"index\":0,\"text\":" ++ appendJsonString text ++
    ascii ",\"logprobs\":null,\"finish_reason\":" ++ appendJsonString finishReason.toText ++
    ascii "\x7d],\"usage\":" ++ appendUsage usage ++ ascii "\x7d"

def serializeChatChunk (textDelta : Bytes) (includeRole : Bool)
    (finishReason : Option OpenAiFinishReason) : Bytes :=
  appendCommonPrefix id (ascii "chat.completion.chunk") created model ++
    ascii ",\"choices\":[\x7b\"index\":0,\"delta\":\x7b" ++
    (if includeRole then ascii "\"role\":\"assistant\"," else []) ++ ascii "\"content\":" ++
    appendJsonString textDelta ++ ascii "\x7d,\"logprobs\":null,\"finish_reason\":" ++
    finishText finishReason ++ ascii "\x7d]\x7d"

def serializeTextChunk (textDelta : Bytes) (finishReason : Option OpenAiFinishReason) : Bytes :=
  appendCommonPrefix id (ascii "text_completion") created model ++
    ascii ",\"choices\":[\x7b\"index\":0,\"text\":" ++ appendJsonString textDelta ++
    ascii ",\"logprobs\":null,\"finish_reason\":" ++ finishText finishReason ++ ascii "\x7d]\x7d"

def serializeUsageChunk (endpoint : OpenAiEndpoint) (usage : OpenAiUsage) : Bytes :=
  appendCommonPrefix id
      (if endpoint = .chatCompletions then ascii "chat.completion.chunk"
        else ascii "text_completion")
      created model ++
    ascii ",\"choices\":[],\"usage\":" ++ appendUsage usage ++ ascii "\x7d"

end Payloads

def sseData (payload : Bytes) : Bytes := ascii "data: " ++ payload ++ ascii "\n\n"

end Qwen3xOrin.Server
